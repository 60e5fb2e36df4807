import WorldZero.Chat.ChannelRuns
import WorldZero.Chat.GatewayProtocol
import WorldZero.Server.ChatSession
import WorldZero.Sql.Interruptions

/-!
# Joining and leaving a channel

`chat_session::handle_message` with everything that it touches: the rows of the store, the
map of the joined channels of the connection and the tasks that forward their messages. Each
call of the store may be interrupted at any of its statements, and the subscription may fail.
-/

namespace WorldZero.Server.ChatRequests

open Chat Chat.GatewayProtocol Sql.Transactions
open Sql (Rows)

/-- `chat::gateway_protocol::ServerMessage`. -/
inductive ServerMessage where
  | joined (channelId : ChannelId) (channel : String)
  | left (channel : String)
  | chat (channelId : ChannelId) (channel sender body : String)
  | error (message : String)
  deriving DecidableEq

/-- The handle of a task. -/
abbrev TaskId := ℕ

/-- A task that sends what is published to the channel on to the client. -/
structure Forwarder where
  channelId : ChannelId
  displayName : String
  deriving DecidableEq

abbrev JoinedChannels := String → Option (ChannelId × TaskId)

structure State where
  tables : Tables
  joined : JoinedChannels
  /-- The tasks that are running. -/
  forwarders : TaskId → Option Forwarder

/-- What others contribute to the handling of a message: the identifiers of what is new, where
the calls of the store are interrupted, and how the calls of the bus end. -/
structure Outside where
  channelId : ChannelId
  task : TaskId
  resolve : Option Interruption := none
  join : Option Interruption := none
  leave : Option Interruption := none
  subscribe : Except Error Unit := .ok ()
  publish : Except Error Unit := .ok ()

section

variable (accountId : AccountId) (o : Outside) (s : State)

/-- `find_or_create_named_channel`. -/
def resolve (channel : String) : Except Error ChannelId × Tables :=
  engine.attempt (.wrap "chat" "failed to commit channel creation")
    (findOrCreateNamedChannel o.channelId accountId channel) o.resolve [] s.tables

/-- `ChannelStore::join`. -/
def storeJoin (t : Tables) (channelId : ChannelId) : Except Error Unit × Tables :=
  engine.attempt (.wrap "chat" "failed to join channel") (ChannelStore.join channelId accountId)
    o.join [] t

/-- `ChannelStore::leave`. -/
def storeLeave (t : Tables) (channelId : ChannelId) : Except Error Unit × Tables :=
  engine.attempt (.wrap "chat" "failed to leave channel")
    (ChannelStore.leave channelId accountId) o.leave [] t

/-- `spawn_forwarder`, and the entry of the map. -/
def spawnForwarder (channelId : ChannelId) (channel : String) : State :=
  { s with
    joined := Function.update s.joined channel (some (channelId, o.task))
    forwarders := Function.update s.forwarders o.task (some ⟨channelId, channel⟩) }

def joinChannel (channel : String) : Except Error ChannelId × State :=
  match resolve accountId o s channel with
  | (.error e, tables) => (.error e, { s with tables })
  | (.ok channelId, tables) =>
      match storeJoin accountId o tables channelId with
      | (.error e, tables) => (.error e, { s with tables })
      | (.ok (), tables) =>
          match o.subscribe with
          | .error e => (.error e, { s with tables })
          | .ok () => (.ok channelId, spawnForwarder o { s with tables } channelId channel)

/-- The entry is removed and its task aborted. -/
def removeJoined (channel : String) (task : TaskId) : State :=
  { s with
    joined := Function.update s.joined channel none
    forwarders := Function.update s.forwarders task none }

/-- A `Join` of a channel that the connection has not joined. -/
def handleJoin (channel : String) : Option ServerMessage × State :=
  match joinChannel accountId o s channel with
  | (.ok channelId, s) => (some (.joined channelId channel), s)
  | (.error e, s) => (some (.error (toString e)), s)

def handleMessage : ClientMessage → Option ServerMessage × State
  | .join channel =>
      if (s.joined channel).isSome then (some (.error s!"already joined #{channel}"), s)
      else handleJoin accountId o s channel
  | .leave channel =>
      match s.joined channel with
      | some (channelId, task) =>
          match storeLeave accountId o s.tables channelId with
          | (.ok (), tables) => (some (.left channel), { removeJoined s channel task with tables })
          | (.error e, tables) =>
              (some (.error (toString e)), { removeJoined s channel task with tables })
      | none => (some (.error s!"not joined to #{channel}"), s)
  | .send _ _ =>
      match o.publish with
      | .ok () => (none, s)
      | .error e => (some (.error (toString e)), s)

/-- What a reply tells is so: after an error everything is as it was, and a channel that has been
joined or left is in the map or not, and its member the account or not. -/
structure Truthful (s : State) (reply : Option ServerMessage) (t : State) : Prop where
  error : ∀ message, reply = some (.error message) →
    t.joined = s.joined ∧ t.forwarders = s.forwarders ∧
      ∀ c, t.tables.isMember c accountId = s.tables.isMember c accountId
  joined : ∀ c channel, reply = some (.joined c channel) →
    (t.joined channel).map Prod.fst = some c ∧ t.tables.isMember c accountId = true
  left : ∀ channel, reply = some (.left channel) →
    t.joined channel = none ∧
      ∀ entry ∈ s.joined channel, t.tables.isMember entry.1 accountId = false

/-- What a new channel needs. -/
def Creatable (channel : String) : Prop :=
  isBlank channel = false ∧ accountId ∈ s.tables.accounts ∧
    s.tables.channels.find o.channelId = none

open Interruption in
/-- Joining a channel that exists: the account is a member already, or does not become one, or
nothing fails once it has. -/
def JoinsFound (channelId : ChannelId) : Prop :=
  s.tables.isMember channelId accountId = true ∨ Before 1 o.resolve ∨
    accountId ∉ s.tables.accounts ∨ Before 2 o.join ∨ o.join = some ⟨2, .failed⟩ ∨
      (o.join ≠ some ⟨2, .lost⟩ ∧ o.subscribe = .ok ())

open Interruption in
/-- Joining a channel that does not exist: it is not created, or nothing fails once it is. -/
def JoinsCreated (channel : String) : Prop :=
  ¬ Creatable accountId o s channel ∨ Before 4 o.resolve ∨ o.resolve = some ⟨4, .failed⟩ ∨
    (o.resolve ≠ some ⟨4, .lost⟩ ∧ ¬ Before 2 o.join ∧ o.subscribe = .ok ())

/-- No call fails that comes after one with an effect. -/
def NothingToUndo : ClientMessage → Prop
  | .join channel => s.joined channel = none →
      match s.tables.findNamed channel with
      | some channelId => JoinsFound accountId o s channelId
      | none => JoinsCreated accountId o s channel
  | .leave channel => ∀ entry ∈ s.joined channel,
      (s.tables.channelType entry.1 = some .group ∨ s.tables.channelType entry.1 = some .guild) ∧
        ¬ Interruption.Before 3 o.leave
  | .send .. => True

end

/-! ### The calls of the store without a fault -/

section Store

variable {accountId : AccountId} {t : Tables} {c id : ChannelId} {channel : String}

/-- A call to join or to leave goes on only where the channel is one for that. -/
theorem trace_requireJoinable {p : ChatM Unit} :
    engine.trace ((ChannelStore.requireJoinable c).bind fun _ => p) [] t =
      if t.channelType c = some .group ∨ t.channelType c = some .guild then
        (engine.trace p [] t).map fun o => (o.1, o.2.1, o.2.2 + 1)
      else none := by
  have looked : engine.exec (.channelType c) (engine.applyAll [] t) = some (t.channelType c, []) :=
    rfl
  refine (Engine.trace_statement looked).trans ?_
  show (engine.trace ((Program.ofExcept (ChannelStore.joinable (t.channelType c))).bind fun _ => p)
    [] t).map _ = _
  split
  next joinable =>
    rw [joinable_ok.mpr joinable]
    rfl
  next closed =>
    cases joins : ChannelStore.joinable (t.channelType c) with
    | ok u => exact absurd (joinable_ok.mp joins) closed
    | error err => rfl

theorem find_isSome (joinable : t.channelType c = some .group ∨ t.channelType c = some .guild) :
    (t.channels.find c).isSome := by
  have typed : (t.channelType c).isSome := by
    obtain typed | typed := joinable <;> rw [typed] <;> rfl
  rwa [Tables.channelType, Option.isSome_map] at typed

theorem trace_join (joinable : t.channelType c = some .group ∨ t.channelType c = some .guild) :
    engine.trace (ChannelStore.join c accountId) [] t =
      if t.isMember c accountId = true then some ((), [], 2)
      else if accountId ∈ t.accounts then some ((), [.insertMember ⟨c, accountId⟩], 2)
      else none := by
  refine (trace_requireJoinable.trans (if_pos joinable)).trans ?_
  split
  next member =>
    have stays : engine.exec (.joinMember ⟨c, accountId⟩) (engine.applyAll [] t) = some ((), []) :=
      if_pos (Tables.isMember_iff.mp member)
    exact congrArg (Option.map _) (Engine.trace_statement stays)
  next outsider =>
    have notMember : (⟨c, accountId⟩ : MemberRow) ∉ t.members := mt Tables.isMember_iff.mpr outsider
    split
    next known =>
      have inserted : (t.insertMember ⟨c, accountId⟩).isSome :=
        Tables.insertMember_isSome.mpr ⟨known, find_isSome joinable, notMember⟩
      have becomes : engine.exec (.joinMember ⟨c, accountId⟩) (engine.applyAll [] t) =
          some ((), [.insertMember ⟨c, accountId⟩]) := (if_neg notMember).trans (if_pos inserted)
      exact congrArg (Option.map _) (Engine.trace_statement becomes)
    next unknown =>
      have refused : engine.exec (.joinMember ⟨c, accountId⟩) (engine.applyAll [] t) = none :=
        (if_neg notMember).trans
          (if_neg fun inserted => unknown (Tables.insertMember_isSome.mp inserted).1)
      exact congrArg (Option.map _) (Engine.trace_refused refused)

theorem trace_leave :
    engine.trace (ChannelStore.leave c accountId) [] t =
      if t.channelType c = some .group ∨ t.channelType c = some .guild then
        some ((), [.deleteMember ⟨c, accountId⟩], 2)
      else none := by
  refine trace_requireJoinable.trans (if_congr Iff.rfl ?_ rfl)
  rfl

theorem trace_resolve :
    engine.trace (findOrCreateNamedChannel id accountId channel) [] t =
      match t.findNamed channel with
      | some existing => some (existing, [], 1)
      | none => (engine.trace (ChannelStore.createGroup id accountId channel) [] t).map fun o =>
          (o.1, o.2.1, o.2.2 + 1) := by
  have looked : engine.exec (.findNamed channel) (engine.applyAll [] t) =
      some (t.findNamed channel, []) := rfl
  refine (Engine.trace_statement looked).trans ?_
  cases t.findNamed channel <;> rfl

/-- The writes of a channel that is created with its creator. -/
def creation (accountId : AccountId) (id : ChannelId) (channel : String) : List Write :=
  [.insertChannel (ChannelStore.namedRow id .group accountId channel),
    .insertMember ⟨id, accountId⟩]

theorem trace_createGroup (named : isBlank channel = false) :
    engine.trace (ChannelStore.createGroup id accountId channel) [] t =
      if accountId ∈ t.accounts ∧ t.channels.find id = none then
        some (id, creation accountId id channel, 3)
      else none := by
  have program : ChannelStore.createGroup id accountId channel =
      .statement .begin (.wrap "chat" "failed to start transaction") fun _ =>
        .statement (.insertChannel (ChannelStore.namedRow id .group accountId channel))
          (.wrap "chat" "failed to create channel") fun _ =>
            .statement (.insertMember ⟨id, accountId⟩)
              (.wrap "chat" "failed to add creator as channel member") fun _ => .pure id := by
    simp only [ChannelStore.createGroup, ChannelStore.createNamed, Validation.ensure, named]
    rfl
  have begun : engine.exec .begin (engine.applyAll [] t) = some ((), []) := rfl
  have ready : (t.insertChannel (ChannelStore.namedRow id .group accountId channel)).isSome ↔
      accountId ∈ t.accounts ∧ t.channels.find id = none := by
    rw [Tables.insertChannel_isSome]
    simp [ChannelStore.namedRow]
  rw [program, Engine.trace_statement begun]
  split
  next possible =>
    have inserted : engine.exec
        (.insertChannel (ChannelStore.namedRow id .group accountId channel))
        (engine.applyAll ([] ++ []) t) =
          some ((), [.insertChannel (ChannelStore.namedRow id .group accountId channel)]) :=
      if_pos (ready.mpr possible)
    obtain ⟨t₁, created⟩ := Option.isSome_iff_exists.mp (ready.mpr possible)
    have applied : engine.applyAll
        ([] ++ [] ++ [.insertChannel (ChannelStore.namedRow id .group accountId channel)]) t =
          t₁ := by
      show (t.insertChannel _).getD t = t₁
      rw [created]
      rfl
    have joinable : (t₁.insertMember ⟨id, accountId⟩).isSome :=
      (insertable_iff (creates_insertChannel created)).mpr ⟨possible.1, List.not_mem_nil⟩
    have added : engine.exec (.insertMember ⟨id, accountId⟩) (engine.applyAll
        ([] ++ [] ++ [.insertChannel (ChannelStore.namedRow id .group accountId channel)]) t) =
          some ((), [.insertMember ⟨id, accountId⟩]) := by
      rw [applied]
      exact if_pos joinable
    rw [Engine.trace_statement inserted, Engine.trace_statement added]
    rfl
  next impossible =>
    have refused : engine.exec
        (.insertChannel (ChannelStore.namedRow id .group accountId channel))
        (engine.applyAll ([] ++ []) t) = none :=
      if_neg fun inserted => impossible (ready.mp inserted)
    rw [Engine.trace_refused refused]
    rfl

theorem trace_createGroup_blank (blank : isBlank channel = true) :
    engine.trace (ChannelStore.createGroup id accountId channel) [] t = none := by
  simp only [ChannelStore.createGroup, ChannelStore.createNamed, Validation.ensure, blank]
  rfl

end Store

/-! ### The calls with a fault -/

section Faults

open Interruption

variable {accountId : AccountId} {o : Outside} {s : State} {t : Tables} {c : ChannelId}
  {channel : String}

theorem resolve_found (found : s.tables.findNamed channel = some c) :
    (Before 1 o.resolve → ∃ err, resolve accountId o s channel = (.error err, s.tables)) ∧
      (¬ Before 1 o.resolve → resolve accountId o s channel = (.ok c, s.tables)) := by
  have traced : engine.trace (findOrCreateNamedChannel o.channelId accountId channel) [] s.tables =
      some (c, [], 1) := by rw [trace_resolve, found]
  exact Engine.attempt_of_trace _ _ traced

theorem resolve_refused (missing : s.tables.findNamed channel = none)
    (refused : ¬ Creatable accountId o s channel) :
    ∃ err, resolve accountId o s channel = (.error err, s.tables) := by
  refine Engine.attempt_of_trace_none _ _ ?_
  rw [trace_resolve, missing]
  cases named : isBlank channel with
  | true => exact congrArg (Option.map _) (trace_createGroup_blank named)
  | false =>
      rw [Creatable, named, eq_self_iff_true, true_and] at refused
      exact congrArg (Option.map _) ((trace_createGroup named).trans (if_neg refused))

/-- A channel that is created has its creator as a member. -/
theorem resolve_created (missing : s.tables.findNamed channel = none)
    (creatable : Creatable accountId o s channel) :
    ∃ t, Tables.Creates (ChannelStore.namedRow o.channelId .group accountId channel) [accountId]
        s.tables t ∧
      (Before 4 o.resolve ∨ o.resolve = some ⟨4, .failed⟩ →
        ∃ err, resolve accountId o s channel = (.error err, s.tables)) ∧
      (o.resolve = some ⟨4, .lost⟩ → ∃ err, resolve accountId o s channel = (.error err, t)) ∧
      (¬ Before 5 o.resolve → resolve accountId o s channel = (.ok o.channelId, t)) := by
  obtain ⟨named, known, unused⟩ := creatable
  have traced : engine.trace (findOrCreateNamedChannel o.channelId accountId channel) [] s.tables =
      some (o.channelId, creation accountId o.channelId channel, 4) := by
    rw [trace_resolve, missing]
    exact congrArg (Option.map _) ((trace_createGroup named).trans (if_pos ⟨known, unused⟩))
  refine ⟨_, creates_applyAll (Rows.find_eq_none.mp unused) ?_ ?_ (List.nodup_singleton _),
    Engine.attempt_of_written _ _ traced (List.cons_ne_nil _ _)⟩
  · simpa [ChannelStore.namedRow] using known
  · simpa using known

variable (joinable : t.channelType c = some .group ∨ t.channelType c = some .guild)
include joinable

theorem storeJoin_member (member : t.isMember c accountId = true) :
    (Before 2 o.join → ∃ err, storeJoin accountId o t c = (.error err, t)) ∧
      (¬ Before 2 o.join → storeJoin accountId o t c = (.ok (), t)) :=
  Engine.attempt_of_trace _ _ ((trace_join joinable).trans (if_pos member))

theorem storeJoin_unknown (outsider : ¬ t.isMember c accountId = true)
    (unknown : accountId ∉ t.accounts) : ∃ err, storeJoin accountId o t c = (.error err, t) :=
  Engine.attempt_of_trace_none _ _
    ((trace_join joinable).trans ((if_neg outsider).trans (if_neg unknown)))

theorem storeJoin_outsider (outsider : ¬ t.isMember c accountId = true)
    (known : accountId ∈ t.accounts) :
    ∃ t', t'.isMember c accountId = true ∧
      (Before 2 o.join ∨ o.join = some ⟨2, .failed⟩ →
        ∃ err, storeJoin accountId o t c = (.error err, t)) ∧
      (o.join = some ⟨2, .lost⟩ → ∃ err, storeJoin accountId o t c = (.error err, t')) ∧
      (¬ Before 3 o.join → storeJoin accountId o t c = (.ok (), t')) := by
  refine ⟨_, ?_, Engine.attempt_of_written _ _ ((trace_join joinable).trans
    ((if_neg outsider).trans (if_pos known))) (List.cons_ne_nil _ _)⟩
  have notMember : (⟨c, accountId⟩ : MemberRow) ∉ t.members := mt Tables.isMember_iff.mpr outsider
  obtain ⟨t', inserted⟩ := Option.isSome_iff_exists.mp
    (Tables.insertMember_isSome.mpr ⟨known, find_isSome joinable, notMember⟩)
  have applied : engine.applyAll [.insertMember ⟨c, accountId⟩] t = t' := by
    show (t.insertMember ⟨c, accountId⟩).getD t = t'
    rw [inserted]
    rfl
  rw [applied, Tables.isMember_iff, Rows.mem_insert (Tables.insertMember_rows inserted).1]
  exact .inr rfl

/-- A call to leave succeeds where the channel is one to leave and nothing befalls the call. -/
theorem storeLeave_ok (unharmed : ¬ Before 3 o.leave) :
    storeLeave accountId o t c = (.ok (), t.deleteMember c accountId) :=
  (Engine.attempt_of_written _ _ (trace_leave.trans (if_pos joinable)) (List.cons_ne_nil _ _)).2.2
    unharmed

omit joinable in
theorem storeLeave_error (h : ¬ ((t.channelType c = some .group ∨ t.channelType c = some .guild) ∧
      ¬ Before 3 o.leave)) :
    ∃ err t', storeLeave accountId o t c = (.error err, t') := by
  have traced := @trace_leave accountId t c
  by_cases joinable : t.channelType c = some .group ∨ t.channelType c = some .guild
  · have struck : Before 3 o.leave := not_not.mp fun spared => h ⟨joinable, spared⟩
    obtain ⟨early, lost, -⟩ := Engine.attempt_of_written
      (.wrap "chat" "failed to leave channel") o.leave (traced.trans (if_pos joinable))
      (List.cons_ne_nil _ _)
    rw [before_succ_iff, ← or_assoc] at struck
    obtain first | last := struck
    · exact (early first).imp fun err same => ⟨_, same⟩
    · exact (lost last).imp fun err same => ⟨_, same⟩
  · obtain ⟨err, same⟩ := Engine.attempt_of_trace_none
      (.wrap "chat" "failed to leave channel") o.leave (traced.trans (if_neg joinable))
    exact ⟨err, t, same⟩

end Faults

/-! ### What a request does -/

section Requests

open Interruption

variable {accountId : AccountId} {o : Outside} {s : State} {t t' : Tables} {c : ChannelId}
  {channel : String} {e : Error}

theorem joinChannel_of_resolve (failed : resolve accountId o s channel = (.error e, t)) :
    joinChannel accountId o s channel = (.error e, { s with tables := t }) := by
  rw [joinChannel, failed]

theorem joinChannel_of_storeJoin (resolved : resolve accountId o s channel = (.ok c, t))
    (failed : storeJoin accountId o t c = (.error e, t')) :
    joinChannel accountId o s channel = (.error e, { s with tables := t' }) := by
  rw [joinChannel, resolved]
  simp only [failed]

theorem joinChannel_of_subscribe (resolved : resolve accountId o s channel = (.ok c, t))
    (stored : storeJoin accountId o t c = (.ok (), t')) (failed : o.subscribe = .error e) :
    joinChannel accountId o s channel = (.error e, { s with tables := t' }) := by
  rw [joinChannel, resolved]
  simp only [stored, failed]

theorem joinChannel_ok (resolved : resolve accountId o s channel = (.ok c, t))
    (stored : storeJoin accountId o t c = (.ok (), t')) (subscribed : o.subscribe = .ok ()) :
    joinChannel accountId o s channel =
      (.ok c, spawnForwarder o { s with tables := t' } c channel) := by
  rw [joinChannel, resolved]
  simp only [stored, subscribed]

/-- The map and the tasks are as before, so an error is truthful if the memberships are. -/
theorem truthful_error {message : String} :
    Truthful accountId s (some (.error message)) { s with tables := t } ↔
      ∀ c, t.isMember c accountId = s.tables.isMember c accountId :=
  ⟨fun truthful => (truthful.error message rfl).2.2,
    fun same => ⟨fun _ _ => ⟨rfl, rfl, same⟩, nofun, nofun⟩⟩

/-- The reply of the request tells what is so. -/
def JoinTruthful (accountId : AccountId) (o : Outside) (s : State) (channel : String) : Prop :=
  Truthful accountId s (handleJoin accountId o s channel).1 (handleJoin accountId o s channel).2

theorem joinTruthful_of_error
    (failed : joinChannel accountId o s channel = (.error e, { s with tables := t })) :
    JoinTruthful accountId o s channel ↔
      ∀ c, t.isMember c accountId = s.tables.isMember c accountId := by
  rw [JoinTruthful, handleJoin, failed]
  exact truthful_error

theorem joinTruthful_of_ok (joined : joinChannel accountId o s channel =
      (.ok c, spawnForwarder o { s with tables := t } c channel))
    (member : t.isMember c accountId = true) : JoinTruthful accountId o s channel := by
  rw [JoinTruthful, handleJoin, joined]
  refine ⟨nofun, fun c' channel' same => ?_, nofun⟩
  cases same
  exact ⟨by simp [spawnForwarder], member⟩

/-- An error after the account has become a member of the channel. -/
theorem not_joinTruthful
    (failed : joinChannel accountId o s channel = (.error e, { s with tables := t }))
    (member : t.isMember c accountId = true) (outsider : ¬ s.tables.isMember c accountId = true) :
    ¬ JoinTruthful accountId o s channel := by
  rw [joinTruthful_of_error failed]
  exact fun same => outsider (same c ▸ member)

theorem joinTruthful_found (found : s.tables.findNamed channel = some c) :
    JoinTruthful accountId o s channel ↔ JoinsFound accountId o s c := by
  obtain ⟨row, here, same, group, -⟩ := Tables.has_of_findNamed found
  have joinable : s.tables.channelType c = some .group ∨ s.tables.channelType c = some .guild :=
    .inl (Tables.channelType_eq_some.mpr ⟨row, here, same, group⟩)
  by_cases first : Before 1 o.resolve
  · obtain ⟨e, failed⟩ := (resolve_found found).1 first
    exact iff_of_true ((joinTruthful_of_error (joinChannel_of_resolve failed)).mpr fun _ => rfl)
      (.inr (.inl first))
  have resolved : resolve accountId o s channel = (.ok c, s.tables) := (resolve_found found).2 first
  by_cases member : s.tables.isMember c accountId = true
  · refine iff_of_true ?_ (.inl member)
    by_cases struck : Before 2 o.join
    · obtain ⟨e, failed⟩ := (storeJoin_member joinable member).1 struck
      exact (joinTruthful_of_error (joinChannel_of_storeJoin resolved failed)).mpr fun _ => rfl
    · have stored := (storeJoin_member joinable member).2 struck
      cases subscribed : o.subscribe with
      | error e =>
          exact (joinTruthful_of_error (joinChannel_of_subscribe resolved stored subscribed)).mpr
            fun _ => rfl
      | ok u => exact joinTruthful_of_ok (joinChannel_ok resolved stored subscribed) member
  by_cases known : accountId ∈ s.tables.accounts
  · obtain ⟨t, becomes, early, lost, stored⟩ := storeJoin_outsider (o := o) joinable member known
    by_cases struck : Before 2 o.join ∨ o.join = some ⟨2, .failed⟩
    · obtain ⟨e, failed⟩ := early struck
      refine iff_of_true ((joinTruthful_of_error (joinChannel_of_storeJoin resolved failed)).mpr
        fun _ => rfl) (.inr (.inr (.inr ?_)))
      exact struck.imp id .inl
    by_cases unheard : o.join = some ⟨2, .lost⟩
    · obtain ⟨e, failed⟩ := lost unheard
      refine iff_of_false (not_joinTruthful (joinChannel_of_storeJoin resolved failed) becomes
        member) ?_
      rintro (h | h | h | h | h | ⟨h, -⟩)
      exacts [member h, first h, h known, struck (.inl h), struck (.inr h), h unheard]
    have done := stored (by
      rw [before_succ_iff, ← or_assoc]
      exact not_or.mpr ⟨struck, unheard⟩)
    cases subscribed : o.subscribe with
    | error e =>
        refine iff_of_false (not_joinTruthful (joinChannel_of_subscribe resolved done subscribed)
          becomes member) ?_
        rintro (h | h | h | h | h | ⟨-, h⟩)
        exacts [member h, first h, h known, struck (.inl h), struck (.inr h),
          nomatch subscribed.symm.trans h]
    | ok u =>
        exact iff_of_true (joinTruthful_of_ok (joinChannel_ok resolved done subscribed) becomes)
          (.inr (.inr (.inr (.inr (.inr ⟨unheard, subscribed⟩)))))
  · obtain ⟨e, failed⟩ := storeJoin_unknown (o := o) joinable member known
    exact iff_of_true ((joinTruthful_of_error (joinChannel_of_storeJoin resolved failed)).mpr
      fun _ => rfl) (.inr (.inr (.inl known)))

theorem joinTruthful_missing (missing : s.tables.findNamed channel = none) :
    JoinTruthful accountId o s channel ↔ JoinsCreated accountId o s channel := by
  by_cases creatable : Creatable accountId o s channel
  · obtain ⟨t, created, early, lost, resolved⟩ := resolve_created missing creatable
    have becomes : t.isMember o.channelId accountId = true :=
      Tables.isMember_iff.mpr (created.mem_members.mpr (List.mem_singleton_self _))
    have outsider : ¬ s.tables.isMember o.channelId accountId = true := fun member =>
      Tables.notMem_members_of_fresh created.fresh (Tables.isMember_iff.mp member)
    by_cases struck : Before 4 o.resolve ∨ o.resolve = some ⟨4, .failed⟩
    · obtain ⟨e, failed⟩ := early struck
      refine iff_of_true ((joinTruthful_of_error (joinChannel_of_resolve failed)).mpr fun _ => rfl)
        (.inr ?_)
      exact struck.imp id .inl
    by_cases unheard : o.resolve = some ⟨4, .lost⟩
    · obtain ⟨e, failed⟩ := lost unheard
      refine iff_of_false (not_joinTruthful (joinChannel_of_resolve failed) becomes outsider) ?_
      rintro (h | h | h | ⟨h, -⟩)
      exacts [h creatable, struck (.inl h), struck (.inr h), h unheard]
    have done := resolved (by
      rw [before_succ_iff, ← or_assoc]
      exact not_or.mpr ⟨struck, unheard⟩)
    have joinable : t.channelType o.channelId = some .group ∨
        t.channelType o.channelId = some .guild :=
      .inl (Tables.channelType_eq_some.mpr ⟨_, (created.channels _).mpr (.inr rfl), rfl, rfl⟩)
    by_cases second : Before 2 o.join
    · obtain ⟨e, failed⟩ := (storeJoin_member joinable becomes).1 second
      refine iff_of_false (not_joinTruthful (joinChannel_of_storeJoin done failed) becomes
        outsider) ?_
      rintro (h | h | h | ⟨-, h, -⟩)
      exacts [h creatable, struck (.inl h), struck (.inr h), h second]
    have stored := (storeJoin_member joinable becomes).2 second
    cases subscribed : o.subscribe with
    | error e =>
        refine iff_of_false (not_joinTruthful (joinChannel_of_subscribe done stored subscribed)
          becomes outsider) ?_
        rintro (h | h | h | ⟨-, -, h⟩)
        exacts [h creatable, struck (.inl h), struck (.inr h), nomatch subscribed.symm.trans h]
    | ok u =>
        exact iff_of_true (joinTruthful_of_ok (joinChannel_ok done stored subscribed) becomes)
          (.inr (.inr (.inr ⟨unheard, second, subscribed⟩)))
  · obtain ⟨e, failed⟩ := resolve_refused missing creatable
    exact iff_of_true ((joinTruthful_of_error (joinChannel_of_resolve failed)).mpr fun _ => rfl)
      (.inl creatable)

theorem truthful_leave {task : TaskId} (entry : s.joined channel = some (c, task)) :
    Truthful accountId s (handleMessage accountId o s (.leave channel)).1
        (handleMessage accountId o s (.leave channel)).2 ↔
      (s.tables.channelType c = some .group ∨ s.tables.channelType c = some .guild) ∧
        ¬ Before 3 o.leave := by
  by_cases h : (s.tables.channelType c = some .group ∨ s.tables.channelType c = some .guild) ∧
      ¬ Before 3 o.leave
  · refine iff_of_true ?_ h
    simp only [handleMessage, entry, storeLeave_ok h.1 h.2]
    refine ⟨nofun, nofun, fun name same => ?_⟩
    cases same
    refine ⟨Function.update_self .., fun entry' here => ?_⟩
    rw [entry] at here
    cases here
    refine Bool.eq_false_iff.mpr fun member => ?_
    exact (Tables.mem_deleteMember.mp (Tables.isMember_iff.mp member)).2 ⟨rfl, rfl⟩
  · refine iff_of_false (fun truthful => ?_) h
    obtain ⟨e, t, failed⟩ : ∃ e t, storeLeave accountId o s.tables c = (.error e, t) :=
      storeLeave_error h
    simp only [handleMessage, entry, failed] at truthful
    have same := congrFun (truthful.error _ rfl).1 channel
    rw [entry] at same
    simp [removeJoined] at same

/-- A reply to a request is truthful exactly if no call fails that comes after one with an
effect. -/
theorem truthful_iff_nothingToUndo (accountId : AccountId) (o : Outside) (s : State)
    (message : ClientMessage) :
    Truthful accountId s (handleMessage accountId o s message).1
        (handleMessage accountId o s message).2 ↔ NothingToUndo accountId o s message := by
  cases message with
  | join channel =>
      cases entry : s.joined channel with
      | some joined =>
          refine iff_of_true ?_ fun absent => nomatch entry.symm.trans absent
          simp only [handleMessage, entry, Option.isSome_some, if_true]
          exact truthful_error.mpr fun _ => rfl
      | none =>
          have handled : handleMessage accountId o s (.join channel) =
              handleJoin accountId o s channel := by
            simp only [handleMessage, entry, Option.isSome_none, Bool.false_eq_true, if_false]
          rw [handled, NothingToUndo, forall_prop_of_true entry]
          cases found : s.tables.findNamed channel with
          | some c => exact joinTruthful_found found
          | none => exact joinTruthful_missing found
  | leave channel =>
      cases entry : s.joined channel with
      | some joined =>
          obtain ⟨c, task⟩ := joined
          rw [truthful_leave entry, NothingToUndo, entry]
          simp
      | none =>
          refine iff_of_true ?_ fun entry' here => nomatch entry.symm.trans here
          simp only [handleMessage, entry]
          exact truthful_error.mpr fun _ => rfl
  | send channelId body =>
      refine iff_of_true ?_ trivial
      cases published : o.publish with
      | ok u =>
          simp only [handleMessage, published]
          exact ⟨nofun, nofun, nofun⟩
      | error e =>
          simp only [handleMessage, published]
          exact truthful_error.mpr fun _ => rfl

end Requests

/-! ### A session in the meadow -/

namespace Meadow

def account : AccountId := ⟨1⟩

def accounts : Tables := .empty {account}

/-- The say channel of the meadow, which the session has joined without being asked to. -/
def session : State where
  tables := (accounts.insertChannel
    (zoneRow ⟨7⟩ (some "meadow") "say" "say — meadow")).getD accounts
  joined := Function.update (fun _ => none) (ChatSession.zoneAutoJoinKey "say") (some (⟨7⟩, 0))
  forwarders := Function.update (fun _ => none) 0 (some ⟨⟨7⟩, "say"⟩)

/-- The bus is not to be reached. -/
def unreachable : Outside where
  channelId := ⟨8⟩
  task := 1
  subscribe := .error (.wrap "chat" "failed to subscribe to channel")

def afterLeave : Option ServerMessage × State :=
  handleMessage account unreachable session (.leave (ChatSession.zoneAutoJoinKey "say"))

def afterJoin : Option ServerMessage × State :=
  handleMessage account unreachable session (.join "demo")

theorem error_with_effect :
    (afterLeave.1 = some (.error (toString (Error.new "chat" ("cannot join/leave a zone channel " ++
        "— membership isn't explicit for this type")))) ∧
      session.joined "#zone-auto:say" = some (⟨7⟩, 0) ∧
      afterLeave.2.joined "#zone-auto:say" = none ∧
      session.forwarders 0 = some ⟨⟨7⟩, "say"⟩ ∧ afterLeave.2.forwarders 0 = none) ∧
    afterJoin.1 = some (.error (toString (Error.wrap "chat" "failed to subscribe to channel"))) ∧
      session.tables.isMember ⟨8⟩ account = false ∧
      afterJoin.2.tables.isMember ⟨8⟩ account = true := by
  decide

end Meadow

end WorldZero.Server.ChatRequests
