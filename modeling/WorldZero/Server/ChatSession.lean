import Mathlib.Logic.Function.Basic
import WorldZero.Chat.Store
import WorldZero.Transition

/-!
# Sending to a channel

The chat messages of any connections, and everybody else's calls of the channel store in
between. `ChatBus::publish` looks the channel's type up, then the sender's membership unless
it is a `zone` channel, then publishes: three steps with others between them. The zone that a
session is in is known to the session only.
-/

namespace WorldZero.Server.ChatSession

open Chat

structure ChatMessage where
  channelId : ChannelId
  senderAccountId : AccountId
  body : String
  deriving DecidableEq

structure Config where
  /-- The plugin's commands, without their leading slashes. -/
  pluginChatCommands : List String
  autoJoinCategories : List String

/-- The command that a body names, with its arguments. -/
def pluginChatCommand (declaredCommands : List String) (body : String) :
    Option (String × String) :=
  match body.toList with
  | '/' :: rest =>
      let command := String.ofList (rest.takeWhile (· ≠ ' '))
      let args := String.ofList ((rest.dropWhile (· ≠ ' ')).drop 1)
      if command ∈ declaredCommands then some (command, args) else none
  | _ => none

def zoneAutoJoinKeyPrefix : String := "#zone-auto:"

def zoneAutoJoinKey (category : String) : String := zoneAutoJoinKeyPrefix ++ category

abbrev JoinedChannels := String → Option ChannelId

/-- `auto_leave_zone_channels`. -/
def autoLeave (joined : JoinedChannels) : JoinedChannels := fun key =>
  (joined key).filter fun _ => !zoneAutoJoinKeyPrefix.toList.isPrefixOf key.toList

/-- The next call of `publish`. -/
inductive Publish where
  | channelType (channelId : ChannelId) (body : String)
  | isMember (channelId : ChannelId) (body : String)
  | redis (channelId : ChannelId) (body : String)
  deriving DecidableEq

structure Session where
  accountId : AccountId
  currentZoneId : String
  joined : JoinedChannels := fun _ => none
  publish : Option Publish := none

/-- The calls of the channel store by others than the chat messages: the guild handlers, the
startup and the tools. -/
inductive StoreCall where
  | createGroup (id : ChannelId) (creator : AccountId) (name : String)
  | createGuild (id : ChannelId) (creator : AccountId) (name : String)
  | createDirect (id : ChannelId) (a b : AccountId)
  | ensureZoneChannel (id : ChannelId) (zoneId : Option String) (category name : String)
  | join (channelId : ChannelId) (accountId : AccountId)
  | leave (channelId : ChannelId) (accountId : AccountId)

def StoreCall.run (t : Tables) : StoreCall → Except Error Tables
  | .createGroup id creator name => t.createGroup id creator name
  | .createGuild id creator name => t.createGuild id creator name
  | .createDirect id a b => t.createDirect id a b
  | .ensureZoneChannel id zoneId category name =>
      (t.ensureZoneChannel id zoneId category name).map Prod.snd
  | .join channelId accountId => t.join channelId accountId
  | .leave channelId accountId => t.leave channelId accountId

/-- The tables after a call; one that fails leaves them. -/
def settled (t : Tables) : Except Error Tables → Tables
  | .ok t' => t'
  | .error _ => t

/-- The row is one that `SELECT id … WHERE channel_type = 'group' AND name = $1` returns. -/
def IsNamed (t : Tables) (name : String) : Option ChannelRow → Prop
  | some row => row ∈ t.channels ∧ row.channelType = .group ∧ row.name = some name
  | none => ∀ row ∈ t.channels.rows, row.channelType = .group → row.name ≠ some name

instance (t : Tables) (name : String) (found : Option ChannelRow) :
    Decidable (IsNamed t name found) := by
  unfold IsNamed
  split <;> infer_instance

def findOrCreateNamedChannel (t : Tables) (id : ChannelId) (creator : AccountId) (name : String) :
    Option ChannelRow → Except Error (ChannelId × Tables)
  | some row => .ok (row.id, t)
  | none => (t.createGroup id creator name).map fun t => (id, t)

structure State (κ : Type) where
  tables : Tables
  /-- The live connections. -/
  sessions : κ → Option Session
  published : List ChatMessage

/-- What a connection does, or the environment. `found` is the row that a lookup by name
returns, and `id` the identifier of a channel that is created. -/
inductive Label (κ : Type) where
  | connect (k : κ) (accountId : AccountId) (zoneId : String)
  | disconnect (k : κ)
  | zoneChanged (k : κ) (zoneId : String)
  | autoJoin (k : κ) (category : String) (id : ChannelId)
  | join (k : κ) (channel : String) (id : ChannelId) (found : Option ChannelRow)
      (subscribed : Bool)
  | leave (k : κ) (channel : String)
  | send (k : κ) (channelId : ChannelId) (body : String)
  | channelType (k : κ)
  | isMember (k : κ)
  | publish (k : κ)
  /-- A call of `publish` fails. -/
  | fail (k : κ)
  | store (call : StoreCall)

def Label.session {κ : Type} : Label κ → Option κ
  | .connect k .. | .disconnect k | .zoneChanged k _ | .autoJoin k .. | .join k ..
  | .leave k _ | .send k .. | .channelType k | .isMember k | .publish k | .fail k => some k
  | .store _ => none

section

variable {κ : Type} [DecidableEq κ] (config : Config) (s : State κ) (k : κ)

namespace State

def put (ses : Session) : State κ :=
  { s with sessions := Function.update s.sessions k (some ses) }

/-- The session takes its next message once it is done with the last. -/
def onIdle (handle : Session → State κ) : Option (State κ) :=
  ((s.sessions k).filter fun ses => ses.publish.isNone).map handle

/-- One category of `auto_join_zone_channels`. -/
def autoJoin (category : String) (id : ChannelId) (ses : Session) : State κ :=
  let key := zoneAutoJoinKey category
  if (ses.joined key).isSome then s
  else
    match s.tables.ensureZoneChannel id (some ses.currentZoneId) category
        s!"{category} — {ses.currentZoneId}" with
    | .error _ => s
    | .ok (channelId, tables) =>
        State.put { s with tables } k
          { ses with joined := Function.update ses.joined key (some channelId) }

/-- `join_channel`; the subscription may fail after the account has become a member. -/
def join (channel : String) (id : ChannelId) (found : Option ChannelRow) (subscribed : Bool)
    (ses : Session) : State κ :=
  if (ses.joined channel).isSome then s
  else
    match findOrCreateNamedChannel s.tables id ses.accountId channel found with
    | .error _ => s
    | .ok (channelId, tables) =>
        match tables.join channelId ses.accountId with
        | .error _ => { s with tables }
        | .ok tables =>
            if subscribed then
              State.put { s with tables } k
                { ses with joined := Function.update ses.joined channel (some channelId) }
            else { s with tables }

def leave (channel : String) (ses : Session) : State κ :=
  match ses.joined channel with
  | none => s
  | some channelId =>
      State.put { s with tables := settled s.tables (s.tables.leave channelId ses.accountId) } k
        { ses with joined := Function.update ses.joined channel none }

/-- A body that names a plugin's command is not a chat message. -/
def send (channelId : ChannelId) (body : String) (ses : Session) : State κ :=
  if (pluginChatCommand config.pluginChatCommands body).isSome then s
  else s.put k { ses with publish := some (.channelType channelId body) }

/-- One call of `publish`. -/
def advance (ses : Session) : Publish → State κ
  | .channelType channelId body =>
      let publish : Publish :=
        if s.tables.channelType channelId = some .zone then .redis channelId body
        else .isMember channelId body
      s.put k { ses with publish := some publish }
  | .isMember channelId body =>
      let publish :=
        if s.tables.isMember channelId ses.accountId then some (Publish.redis channelId body)
        else none
      s.put k { ses with publish }
  | .redis channelId body =>
      State.put { s with published := s.published ++ [⟨channelId, ses.accountId, body⟩] } k
        { ses with publish := none }

end State

/-- A step of `publish` at the call that the label names. -/
def publishStep (here : Publish → Bool) : Option (State κ) := do
  let ses ← s.sessions k
  let call ← ses.publish
  if here call then some (s.advance k ses call) else none

def step : Label κ → Option (State κ)
  | .connect k accountId zoneId =>
      if (s.sessions k).isNone then some (s.put k { accountId, currentZoneId := zoneId }) else none
  | .disconnect k => some { s with sessions := Function.update s.sessions k none }
  | .zoneChanged k zoneId => s.onIdle k fun ses =>
      s.put k { ses with currentZoneId := zoneId, joined := autoLeave ses.joined }
  | .autoJoin k category id =>
      if category ∈ config.autoJoinCategories then s.onIdle k (s.autoJoin k category id) else none
  | .join k channel id found subscribed =>
      if IsNamed s.tables channel found then s.onIdle k (s.join k channel id found subscribed)
      else none
  | .leave k channel => s.onIdle k (s.leave k channel)
  | .send k channelId body => s.onIdle k (s.send config k channelId body)
  | .channelType k => publishStep s k (· matches .channelType ..)
  | .isMember k => publishStep s k (· matches .isMember ..)
  | .publish k => publishStep s k (· matches .redis ..)
  | .fail k => (s.sessions k).map fun ses => s.put k { ses with publish := none }
  | .store call => some { s with tables := settled s.tables (call.run s.tables) }

/-- The server has been started on the tables. -/
def start (tables : Tables) : State κ := ⟨tables, fun _ => none, []⟩

/-- The next step of the connection publishes the message. -/
def Sends (m : ChatMessage) : Prop :=
  (s.sessions k).map (fun ses => (ses.accountId, ses.publish)) =
    some (m.senderAccountId, some (.redis m.channelId m.body))

instance (m : ChatMessage) : Decidable (Sends s k m) := inferInstanceAs (Decidable (_ = _))

/-- The sender is a member of the channel, or for a zone channel in its zone. -/
def mayPublish (m : ChatMessage) : Bool :=
  (s.tables.channels.find m.channelId).any fun row =>
    if row.channelType = .zone then
      row.zoneId.all fun zoneId => (s.sessions k).any fun ses => ses.currentZoneId = zoneId
    else s.tables.isMember m.channelId m.senderAccountId

/-- The membership that the step takes out. -/
def takenOut : Label κ → Option MemberRow
  | .leave k channel => do
      let ses ← s.sessions k
      let channelId ← ses.joined channel
      some ⟨channelId, ses.accountId⟩
  | .store (.leave channelId accountId) => some ⟨channelId, accountId⟩
  | _ => none

end

example : pluginChatCommand ["roll"] "/roll 2 d6" = some ("roll", "2 d6") := by decide

section

variable {κ : Type} {config : Config} {s t : State κ} {k k' : κ}
  {ses : Session} {m : ChatMessage} {l : Label κ} {ls : List (Label κ)}

theorem sends_iff (here : s.sessions k = some ses) :
    Sends s k m ↔
      ses.accountId = m.senderAccountId ∧ ses.publish = some (.redis m.channelId m.body) := by
  simp [Sends, here]

theorem onIdle_eq_some {handle : Session → State κ} (taken : s.onIdle k handle = some t) :
    ∃ ses, s.sessions k = some ses ∧ ses.publish = none ∧ t = handle ses := by
  obtain ⟨ses, idle, rfl⟩ := Option.map_eq_some_iff.mp taken
  obtain ⟨here, waits⟩ := Option.filter_eq_some_iff.mp idle
  exact ⟨ses, here, Option.isNone_iff_eq_none.mp waits, rfl⟩

theorem store_extends {tables t' : Tables} {call : StoreCall} (done : call.run tables = .ok t') :
    tables.Extends (takenOut s (.store call)) t' := by
  cases call with
  | createGroup => exact Tables.createNamed_extends done
  | createGuild => exact Tables.createNamed_extends done
  | createDirect => exact Tables.createDirect_extends done
  | ensureZoneChannel id zoneId category name =>
      cases ensured : tables.ensureZoneChannel id zoneId category name with
      | error e => simp [StoreCall.run, ensured, Except.map] at done
      | ok result =>
          simp only [StoreCall.run, ensured, Except.map, Except.ok.injEq] at done
          exact done ▸ Tables.ensureZoneChannel_extends ensured
  | join => exact Tables.join_extends done
  | leave => exact Tables.leave_extends done

theorem settled_extends {out : Option MemberRow} {tables : Tables}
    {result : Except Error Tables}
    (kept : ∀ t', result = .ok t' → tables.Extends out t') :
    tables.Extends out (settled tables result) := by
  cases result with
  | ok t' => exact kept t' rfl
  | error => exact .refl tables

/-- What a step of one connection leaves when it has nothing to publish next. -/
structure Handled (s : State κ) (k : κ) (out : Option MemberRow) (t : State κ) : Prop where
  tables : s.tables.Extends out t.tables
  others : ∀ k' ≠ k, t.sessions k' = s.sessions k'
  silent : ∀ m, ¬ Sends t k m

theorem handled_unchanged {tables : Tables} {out : Option MemberRow}
    (kept : s.tables.Extends out tables) (here : s.sessions k = some ses)
    (idle : ses.publish = none) : Handled s k out { s with tables } := by
  refine ⟨kept, fun _ _ => rfl, fun m sends => ?_⟩
  have next := ((sends_iff here).mp sends).2
  rw [idle] at next
  cases next

theorem onIdle_eq {handle : Session → State κ} (here : s.sessions k = some ses)
    (idle : ses.publish = none) : s.onIdle k handle = some (handle ses) := by
  simp [State.onIdle, here, idle]

variable [DecidableEq κ]

@[simp] theorem State.put_tables : (s.put k ses).tables = s.tables := rfl

@[simp] theorem State.put_sessions_self : (s.put k ses).sessions k = some ses :=
  Function.update_self ..

theorem State.put_sessions_of_ne (other : k' ≠ k) :
    (s.put k ses).sessions k' = s.sessions k' :=
  Function.update_of_ne other ..

/-! ### What a step does -/

theorem publishStep_eq_some {here : Publish → Bool} (taken : publishStep s k here = some t) :
    ∃ ses call, s.sessions k = some ses ∧ ses.publish = some call ∧ here call = true ∧
      t = s.advance k ses call := by
  unfold publishStep at taken
  simp only [Option.bind_eq_bind, Option.bind_eq_some_iff, Option.ite_none_right_eq_some,
    Option.some.injEq] at taken
  obtain ⟨ses, there, call, next, named, rfl⟩ := taken
  exact ⟨ses, call, there, next, named, rfl⟩

theorem handled_put {u : State κ} {out : Option MemberRow} (same : u.sessions = s.sessions)
    (kept : s.tables.Extends out u.tables) (idle : ∀ c b, ses.publish ≠ some (.redis c b)) :
    Handled s k out (u.put k ses) := by
  refine ⟨kept, fun k' other => ?_, fun m sends => ?_⟩
  · rw [State.put_sessions_of_ne other, same]
  · exact idle _ _ ((sends_iff State.put_sessions_self).mp sends).2

theorem findOrCreate_extends {tables t' : Tables} {id channelId : ChannelId}
    {creator : AccountId} {name : String} {found : Option ChannelRow} {out : Option MemberRow}
    (done : findOrCreateNamedChannel tables id creator name found = .ok (channelId, t')) :
    tables.Extends out t' := by
  cases found with
  | some row =>
      cases done
      exact .refl tables
  | none =>
      cases created : tables.createGroup id creator name with
      | error e => simp [findOrCreateNamedChannel, created, Except.map] at done
      | ok t₁ =>
          simp only [findOrCreateNamedChannel, created, Except.map, Except.ok.injEq,
            Prod.mk.injEq] at done
          exact done.2 ▸ Tables.createNamed_extends created

theorem handled_autoJoin {category : String} {id : ChannelId} (here : s.sessions k = some ses)
    (idle : ses.publish = none) : Handled s k none (s.autoJoin k category id ses) := by
  unfold State.autoJoin
  dsimp only
  split
  · exact handled_unchanged (.refl _) here idle
  · split
    · exact handled_unchanged (.refl _) here idle
    next ensured =>
      exact handled_put rfl (Tables.ensureZoneChannel_extends ensured) (by simp [idle])

theorem handled_join {channel : String} {id : ChannelId} {found : Option ChannelRow}
    {subscribed : Bool} (here : s.sessions k = some ses) (idle : ses.publish = none) :
    Handled s k none (s.join k channel id found subscribed ses) := by
  unfold State.join
  split
  · exact handled_unchanged (.refl _) here idle
  · split
    · exact handled_unchanged (.refl _) here idle
    next resolved =>
      have kept : s.tables.Extends none _ := findOrCreate_extends resolved
      split
      · exact handled_unchanged kept here idle
      next joined =>
        have kept := kept.trans (Tables.join_extends joined)
        split
        · exact handled_put rfl kept (by simp [idle])
        · exact handled_unchanged kept here idle

theorem handled_leave {channel : String} (here : s.sessions k = some ses)
    (idle : ses.publish = none) :
    Handled s k (takenOut s (.leave k channel)) (s.leave k channel ses) := by
  unfold State.leave
  split
  · exact handled_unchanged (.refl _) here idle
  next channelId joined =>
    have out : takenOut s (.leave k channel) = some ⟨channelId, ses.accountId⟩ := by
      simp [takenOut, here, joined]
    rw [out]
    exact handled_put rfl (settled_extends fun _ done => Tables.leave_extends done) (by simp [idle])

/-- The next step of the connection looks the sender's membership up. -/
def Asks (s : State κ) (k : κ) (m : ChatMessage) : Prop :=
  ∃ ses, s.sessions k = some ses ∧ ses.accountId = m.senderAccountId ∧
    ses.publish = some (.isMember m.channelId m.body)

/-- What a lookup of `publish` leaves: it lets a message pass for one of two reasons. -/
structure Passes (s : State κ) (k : κ) (l : Label κ) (t : State κ) : Prop where
  tables : t.tables = s.tables
  others : ∀ k' ≠ k, t.sessions k' = s.sessions k'
  checked : ∀ m, Sends t k m →
    l = .channelType k ∧ s.tables.channelType m.channelId = some .zone ∨
      l = .isMember k ∧ Asks s k m ∧ s.tables.isMember m.channelId m.senderAccountId = true

theorem passes_channelType (taken : step config s (.channelType k) = some t) :
    Passes s k (.channelType k) t := by
  obtain ⟨ses, call, here, next, named, rfl⟩ := publishStep_eq_some taken
  cases call with
  | channelType channelId body =>
      refine ⟨rfl, fun k' other => State.put_sessions_of_ne other, fun m sends => .inl ⟨rfl, ?_⟩⟩
      obtain ⟨-, now⟩ := (sends_iff State.put_sessions_self).mp sends
      simp only [Option.some.injEq] at now
      split at now
      next zone =>
        cases now
        exact zone
      · cases now
  | isMember => cases named
  | redis => cases named

theorem passes_isMember (taken : step config s (.isMember k) = some t) :
    Passes s k (.isMember k) t := by
  obtain ⟨ses, call, here, next, named, rfl⟩ := publishStep_eq_some taken
  cases call with
  | channelType => cases named
  | isMember channelId body =>
      refine ⟨rfl, fun k' other => State.put_sessions_of_ne other, fun m sends => .inr ⟨rfl, ?_⟩⟩
      obtain ⟨account, now⟩ := (sends_iff State.put_sessions_self).mp sends
      dsimp only at account now
      split at now
      next member =>
        cases now
        exact ⟨⟨ses, here, account, next⟩, account ▸ member⟩
      · cases now
  | redis => cases named

theorem handled_publish (taken : step config s (.publish k) = some t) :
    Handled s k none t := by
  obtain ⟨ses, call, here, next, named, rfl⟩ := publishStep_eq_some taken
  cases call with
  | channelType => cases named
  | isMember => cases named
  | redis => exact handled_put rfl (.refl _) (by simp)

/-- A step is the environment's, or a connection's: then it publishes nothing next, or has
just looked up that it may. -/
theorem step_cases (taken : step config s l = some t) :
    (l.session = none ∧ t.sessions = s.sessions ∧ s.tables.Extends (takenOut s l) t.tables) ∨
      ∃ k, l.session = some k ∧ (Handled s k (takenOut s l) t ∨ Passes s k l t) := by
  cases l with
  | store call =>
      cases taken
      exact .inl ⟨rfl, rfl, settled_extends fun _ done => store_extends done⟩
  | connect k accountId zoneId =>
      refine .inr ⟨k, rfl, .inl ?_⟩
      simp only [step, Option.ite_none_right_eq_some, Option.some.injEq] at taken
      exact taken.2 ▸ handled_put rfl (.refl _) (by simp)
  | disconnect k =>
      refine .inr ⟨k, rfl, .inl ?_⟩
      cases taken
      refine ⟨.refl _, fun k' other => Function.update_of_ne other .., fun m sends => ?_⟩
      simp [Sends] at sends
  | fail k =>
      refine .inr ⟨k, rfl, .inl ?_⟩
      obtain ⟨ses, -, rfl⟩ := Option.map_eq_some_iff.mp taken
      exact handled_put rfl (.refl _) (by simp)
  | zoneChanged k zoneId =>
      refine .inr ⟨k, rfl, .inl ?_⟩
      obtain ⟨ses, -, idle, rfl⟩ := onIdle_eq_some taken
      exact handled_put rfl (.refl _) (by simp [idle])
  | autoJoin k category id =>
      refine .inr ⟨k, rfl, .inl ?_⟩
      obtain ⟨-, taken⟩ := Option.ite_none_right_eq_some.mp taken
      obtain ⟨ses, here, idle, rfl⟩ := onIdle_eq_some taken
      exact handled_autoJoin here idle
  | join k channel id found subscribed =>
      refine .inr ⟨k, rfl, .inl ?_⟩
      obtain ⟨-, taken⟩ := Option.ite_none_right_eq_some.mp taken
      obtain ⟨ses, here, idle, rfl⟩ := onIdle_eq_some taken
      exact handled_join here idle
  | leave k channel =>
      refine .inr ⟨k, rfl, .inl ?_⟩
      obtain ⟨ses, here, idle, rfl⟩ := onIdle_eq_some taken
      exact handled_leave here idle
  | send k channelId body =>
      refine .inr ⟨k, rfl, .inl ?_⟩
      obtain ⟨ses, here, idle, rfl⟩ := onIdle_eq_some taken
      unfold State.send
      split
      · exact handled_unchanged (.refl _) here idle
      · exact handled_put rfl (.refl _) (by simp)
  | channelType k => exact .inr ⟨k, rfl, .inr (passes_channelType taken)⟩
  | isMember k => exact .inr ⟨k, rfl, .inr (passes_isMember taken)⟩
  | publish k => exact .inr ⟨k, rfl, .inl (handled_publish taken)⟩

theorem extends_of_step (taken : step config s l = some t) :
    s.tables.Extends (takenOut s l) t.tables := by
  obtain ⟨-, -, kept⟩ | ⟨k, -, handled | passes⟩ := step_cases taken
  · exact kept
  · exact handled.tables
  · exact passes.tables ▸ .refl _

/-- A message is next because it was before, or because a lookup has just let it pass. -/
theorem sends_of_step (taken : step config s l = some t) (sends : Sends t k m) :
    (l.session ≠ some k ∧ Sends s k m) ∨
      l = .channelType k ∧ s.tables.channelType m.channelId = some .zone ∨
      l = .isMember k ∧ Asks s k m ∧ s.tables.isMember m.channelId m.senderAccountId = true := by
  obtain ⟨environment, same, -⟩ | ⟨k', own, step⟩ := step_cases taken
  · refine .inl ⟨by simp [environment], ?_⟩
    unfold Sends at sends ⊢
    rwa [same] at sends
  · by_cases itself : k' = k
    · subst itself
      obtain handled | passes := step
      · exact absurd sends (handled.silent m)
      · exact .inr (passes.checked m sends)
    · have others : t.sessions k = s.sessions k := by
        obtain handled | passes := step
        · exact handled.others k (Ne.symm itself)
        · exact passes.others k (Ne.symm itself)
      refine .inl ⟨fun same => itself (Option.some.inj (own.symm.trans same)), ?_⟩
      unfold Sends at sends ⊢
      rwa [others] at sends

/-! ### Runs -/

/-- The membership was looked up in the course of this very `Send`, and holds unless the
member has been taken out since. -/
def Checked (config : Config) (start : State κ) (ls : List (Label κ)) (s : State κ) (k : κ)
    (m : ChatMessage) : Prop :=
  ∃ front back u, ls = front ++ .isMember k :: back ∧
    Transition.exec (step config) start front = some u ∧ Asks u k m ∧
    u.tables.isMember m.channelId m.senderAccountId = true ∧
    (∀ l ∈ back, l.session ≠ some k) ∧
    (Transition.Admissible (step config)
        (fun s l => takenOut s l ≠ some ⟨m.channelId, m.senderAccountId⟩) u
        (.isMember k :: back) →
      s.tables.isMember m.channelId m.senderAccountId = true)

theorem checked_of_run {start : State κ} (silent : ∀ k m, ¬ Sends start k m)
    (run : Transition.exec (step config) start ls = some s) (sends : Sends s k m) :
    s.tables.channelType m.channelId = some .zone ∨ Checked config start ls s k m := by
  induction ls using List.reverseRecOn generalizing s with
  | nil =>
      cases Transition.exec_nil.mp run
      exact absurd sends (silent k m)
  | append_singleton ls l ih =>
      obtain ⟨u, before, last⟩ := Transition.exec_append.mp run
      obtain ⟨s', taken, done⟩ := Transition.exec_cons.mp last
      cases Transition.exec_nil.mp done
      have kept := extends_of_step taken
      have stays : ∀ {c a}, u.tables.isMember c a = true → takenOut u l ≠ some ⟨c, a⟩ →
          s.tables.isMember c a = true := by
        intro c a member other
        exact Tables.isMember_iff.mpr
          (kept.members _ (Tables.isMember_iff.mp member) (Ne.symm other))
      obtain ⟨other, sends⟩ | ⟨rfl, zone⟩ | ⟨rfl, asks, member⟩ := sends_of_step taken sends
      · refine (ih before sends).imp kept.channelType ?_
        rintro ⟨front, back, v, rfl, reached, asks, member, silent, held⟩
        refine ⟨front, back ++ [l], v, by simp, reached, asks, member, ?_, fun legal => ?_⟩
        · intro l' here
          obtain earlier | last := List.mem_append.mp here
          · exact silent l' earlier
          · rw [List.mem_singleton.mp last]
            exact other
        · obtain ⟨v', reached', rest⟩ := Transition.exec_append.mp before
          cases Option.some.inj (reached.symm.trans reached')
          obtain ⟨legal, last⟩ := (Transition.admissible_append rest).mp legal
          exact stays (held legal) last.1
      · exact .inl (kept.channelType zone)
      · refine .inr ⟨ls, [], u, rfl, before, asks, member, by simp, fun legal => ?_⟩
        exact stays member legal.1

theorem publishStep_eq {here : Publish → Bool} {call : Publish} (there : s.sessions k = some ses)
    (next : ses.publish = some call) (named : here call = true) :
    publishStep s k here = some (s.advance k ses call) := by
  simp [publishStep, there, next, named]

/-- Nothing asks for the zone of the sender. -/
theorem published_to_zone {row : ChannelRow} {body : String} (here : s.sessions k = some ses)
    (idle : ses.publish = none) (there : row ∈ s.tables.channels)
    (zone : row.channelType = .zone)
    (message : pluginChatCommand config.pluginChatCommands body = none) :
    Transition.exec (step config) s [.send k row.id body, .channelType k, .publish k] =
      some { s with published := s.published ++ [⟨row.id, ses.accountId, body⟩] } := by
  have isZone : s.tables.channelType row.id = some .zone :=
    Tables.channelType_eq_some.mpr ⟨row, there, rfl, zone⟩
  let asked := s.put k { ses with publish := some (.channelType row.id body) }
  let passed := asked.put k { ses with publish := some (.redis row.id body) }
  have sent : step config s (.send k row.id body) = some asked := by
    simp only [step, onIdle_eq here idle, State.send, message, Option.isSome_none,
      Bool.false_eq_true, if_false, asked]
  have looked : step config asked (.channelType k) = some passed := by
    rw [step, publishStep_eq State.put_sessions_self rfl rfl]
    simp only [State.advance, State.put_tables, isZone, if_true, asked, passed]
  have published : step config passed (.publish k) = some (passed.advance k
      { ses with publish := some (.redis row.id body) } (.redis row.id body)) :=
    publishStep_eq State.put_sessions_self rfl rfl
  refine Transition.exec_cons.mpr ⟨_, sent, Transition.exec_cons.mpr ⟨_, looked,
    Transition.exec_cons.mpr ⟨_, published, Transition.exec_nil.mpr ?_⟩⟩⟩
  have same : { ses with publish := none } = ses := by rw [← idle]
  simp only [passed, asked, State.advance, State.put, Function.update_idem, same, ← here,
    Function.update_eq_self]

/-- In every run, whoever publishes to a channel that is not a `zone` channel has been found
to be a member of it for this message, and is one unless taken out since. To a `zone` channel
a message is published whatever zone the session is in. -/
theorem published_if_checked (config : Config) (tables : Tables) :
    (∀ ls (s : State κ), Transition.exec (step config) (start tables) ls = some s →
      ∀ k m, Sends s k m →
        s.tables.channelType m.channelId = some .zone ∨
          Checked config (start tables) ls s k m) ∧
    ∀ (s : State κ) k ses, s.sessions k = some ses → ses.publish = none →
      ∀ row ∈ s.tables.channels, row.channelType = .zone →
        ∀ body, pluginChatCommand config.pluginChatCommands body = none →
          Transition.exec (step config) s [.send k row.id body, .channelType k, .publish k] =
            some { s with published := s.published ++ [⟨row.id, ses.accountId, body⟩] } := by
  refine ⟨fun ls s run k m sends => ?_, fun s k ses here idle row there zone body message => ?_⟩
  · exact checked_of_run (fun k m sends => by simp [Sends, start] at sends) run sends
  · exact published_to_zone here idle there zone message

end

namespace Keep

def config : Config := ⟨["roll"], ["say"]⟩

def tables : Tables := .empty {⟨1⟩, ⟨2⟩}

/-- The session in the meadow sends to the channel of the keep. -/
def fromAbroad : List (Label ℕ) :=
  [.store (.ensureZoneChannel ⟨7⟩ (some "keep") "say" "say — keep"), .connect 0 ⟨1⟩ "meadow",
    .send 0 ⟨7⟩ "hello", .channelType 0]

/-- The sender is kicked from the guild while `publish` has found it to be a member. -/
def kicked : List (Label ℕ) :=
  [.store (.createGuild ⟨7⟩ ⟨2⟩ "Clan"), .store (.join ⟨7⟩ ⟨1⟩), .connect 0 ⟨1⟩ "meadow",
    .send 0 ⟨7⟩ "hello", .channelType 0, .isMember 0, .store (.leave ⟨7⟩ ⟨1⟩)]

theorem published_unauthorized :
    (∃ s, Transition.exec (step config) (start tables) fromAbroad = some s ∧
      Sends s 0 ⟨⟨7⟩, ⟨1⟩, "hello"⟩ ∧ mayPublish s 0 ⟨⟨7⟩, ⟨1⟩, "hello"⟩ = false) ∧
    ∃ s, Transition.exec (step config) (start tables) kicked = some s ∧
      Sends s 0 ⟨⟨7⟩, ⟨1⟩, "hello"⟩ ∧ mayPublish s 0 ⟨⟨7⟩, ⟨1⟩, "hello"⟩ = false :=
  ⟨Transition.exec_reaches (by decide), Transition.exec_reaches (by decide)⟩

theorem published_if_checked_guild :
    ∃ s, Transition.exec (step config) (start tables) kicked = some s ∧
      Checked config (start tables) kicked s 0 ⟨⟨7⟩, ⟨1⟩, "hello"⟩ := by
  have sends : ∃ s, Transition.exec (step config) (start tables) kicked = some s ∧
      (Sends s 0 ⟨⟨7⟩, ⟨1⟩, "hello"⟩ ∧ s.tables.channelType ⟨7⟩ ≠ some .zone) :=
    Transition.exec_reaches (by decide)
  obtain ⟨s, run, sends, guild⟩ := sends
  exact ⟨s, run, ((published_if_checked config tables).1 kicked s run 0 _ sends).resolve_left guild⟩

end Keep

end WorldZero.Server.ChatSession
