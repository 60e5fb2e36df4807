import WorldZero.Chat.Store
import WorldZero.Guild.Founder

/-!
# The chat channel of a guild

The guild handlers of the session loop, one after the other. The store's transaction commits
first, the chat tables follow in calls of their own, and a failure of these is logged only.
The guild and its channel are looked up after the transaction.
-/

namespace WorldZero.Server.GuildChat

open Guild (GuildStore GuildOp GuildRow)

structure SessionDeps where
  guildStore : GuildStore
  realmId : RealmId
  /-- Whether `chat` is there at all. -/
  chatEnabled : Bool

structure State where
  guild : Guild.Tables
  chat : Chat.Tables

/-- A client's message, with the accounts that its handler resolves and the identifiers that
it generates. -/
inductive Request where
  | create (accountId : AccountId) (name : String) (guildId : GuildId) (channelId : ChannelId)
  | inviteResponse (inviter accountId : AccountId)
  | kick (accountId target : AccountId)
  | promote (accountId target : AccountId) (rankKey : String)
  | demote (accountId target : AccountId) (rankKey : String)
  | leave (accountId : AccountId)
  | disband (accountId : AccountId)

/-- The calls of a handler that the database fails. -/
structure Faults where
  guildStore : Bool := false
  guildOf : Bool := false
  membersOf : Bool := false
  info : Bool := false
  chatStore : Bool := false

namespace State

variable (deps : SessionDeps) (s : State) (f : Faults)

/-- The guild store's part of a request; `none` is an error. -/
def mutate (op : GuildOp) : Option State :=
  if f.guildStore then none
  else (deps.guildStore.perform s.guild op).toOption.map fun guild => { s with guild }

def guildOf (accountId : AccountId) : Option GuildId :=
  if f.guildOf then none else s.guild.guildOf accountId

def membersOf (guildId : GuildId) : List AccountId :=
  if f.membersOf then []
  else (s.guild.members.select fun m => m.guildId = guildId).map Guild.MemberRow.accountId

/-- The channel to synchronise, if chat is enabled and the guild is found to have one. -/
def chatChannel (guildId : Option GuildId) : Option ChannelId :=
  if deps.chatEnabled && !f.info then
    guildId.bind fun g => (s.guild.guilds.find g).bind GuildRow.chatChannelId
  else none

/-- A call of the chat store, of which a failure changes nothing. -/
def sync (call : Chat.Tables → Except Error Chat.Tables) : State :=
  if f.chatStore then s
  else
    match call s.chat with
    | .ok chat => { s with chat }
    | .error _ => s

def syncChatJoin (guildId : Option GuildId) (accountId : AccountId) : State :=
  match s.chatChannel deps f guildId with
  | none => s
  | some channelId => s.sync f fun chat => chat.join channelId accountId

def syncChatLeave (guildId : Option GuildId) (accountId : AccountId) : State :=
  match s.chatChannel deps f guildId with
  | none => s
  | some channelId => s.sync f fun chat => chat.leave channelId accountId

/-- The guild's chat channel is created before the guild. -/
def createChannel (accountId : AccountId) (name : String) (channelId : ChannelId) :
    Chat.Tables × Option ChannelId :=
  if deps.chatEnabled && !f.chatStore then
    match s.chat.createGuild channelId accountId name with
    | .ok chat => (chat, some channelId)
    | .error _ => (s.chat, none)
  else (s.chat, none)

def guildCreate (accountId : AccountId) (name : String) (guildId : GuildId)
    (channelId : ChannelId) : State :=
  let (chat, chatChannelId) := s.createChannel deps f accountId name channelId
  let s : State := { s with chat }
  (s.mutate deps f (.create guildId accountId name deps.realmId chatChannelId)).getD s

/-- `accept_invite` returns the inviter's guild. -/
def guildInviteResponse (inviter accountId : AccountId) : State :=
  match s.mutate deps f (.acceptInvite inviter accountId) with
  | none => s
  | some t => t.syncChatJoin deps f (s.guild.guildOf inviter) accountId

def guildKick (accountId target : AccountId) : State :=
  match s.mutate deps f (.kick accountId target) with
  | none => s
  | some t => t.syncChatLeave deps f (s.guildOf f accountId) target

def guildLeave (accountId : AccountId) : State :=
  match s.mutate deps f (.leave accountId) with
  | none => s
  | some t => t.syncChatLeave deps f (s.guildOf f accountId) accountId

def guildDisband (accountId : AccountId) : State :=
  let guildIdBefore := s.guildOf f accountId
  let membersBefore := guildIdBefore.elim [] (s.membersOf f)
  match s.mutate deps f (.disband accountId) with
  | none => s
  | some t => membersBefore.foldl (fun t m => t.syncChatLeave deps f guildIdBefore m) t

def handle : Request → State
  | .create accountId name guildId channelId => s.guildCreate deps f accountId name guildId channelId
  | .inviteResponse inviter accountId => s.guildInviteResponse deps f inviter accountId
  | .kick accountId target => s.guildKick deps f accountId target
  | .promote accountId target rankKey =>
      (s.mutate deps f (.promote accountId target rankKey)).getD s
  | .demote accountId target rankKey =>
      (s.mutate deps f (.demote accountId target rankKey)).getD s
  | .leave accountId => s.guildLeave deps f accountId
  | .disband accountId => s.guildDisband deps f accountId

end State

def step (deps : SessionDeps) (s : State) (l : Request × Faults) : Option State :=
  some (s.handle deps l.2 l.1)

/-- There is no guild and no channel. -/
def start (realms : Finset RealmId) (accounts : Finset AccountId) : State :=
  ⟨.empty realms accounts, .empty accounts⟩

/-- The members of a guild's channel are the guild's, and a channel of no guild has none. -/
structure Synced (s : State) : Prop where
  guilds : ∀ g ∈ s.guild.guilds, ∀ c, g.chatChannelId = some c →
    ∀ a, ⟨c, a⟩ ∈ s.chat.members ↔ ∃ k, ⟨g.id, a, k⟩ ∈ s.guild.members
  others : ∀ c ∈ s.chat.channels, c.channelType = .guild →
    (∀ g ∈ s.guild.guilds, g.chatChannelId ≠ some c.id) → ∀ a, ⟨c.id, a⟩ ∉ s.chat.members

section

variable (deps : SessionDeps) (s : State)

/-- The account's guild has a chat channel. -/
def hasChannel (accountId : AccountId) : Bool :=
  ((s.guild.guildOf accountId).bind fun g =>
    (s.guild.guilds.find g).bind GuildRow.chatChannelId).isSome

/-- The chat channel of a new guild is created. -/
def createsChannel (f : Faults) (accountId : AccountId) (name : String) (channelId : ChannelId) :
    Bool :=
  deps.chatEnabled && !f.chatStore && !isBlank name && decide (accountId ∈ s.chat.accounts) &&
    (s.chat.channels.find channelId).isNone

/-- A channel is created for a guild that is not, as its founder is in a guild already, say; a
guild that has a channel is dissolved; or its channel is not told of a new or former member. -/
def drifts : Request × Faults → Bool
  | (.create accountId name guildId channelId, f) =>
      createsChannel deps s f accountId name channelId &&
        (f.guildStore || (s.guild.guildOf accountId).isSome ||
          decide (deps.realmId ∉ s.guild.realms) || (s.guild.guilds.find guildId).isSome)
  | (.inviteResponse inviter accountId, f) =>
      hasChannel s inviter && (f.info || f.chatStore) &&
        (s.mutate deps f (.acceptInvite inviter accountId)).isSome
  | (.kick accountId target, f) =>
      hasChannel s accountId && (f.guildOf || f.info || f.chatStore) &&
        (s.mutate deps f (.kick accountId target)).isSome
  | (.leave accountId, f) =>
      let founder := (s.guild.membership accountId).any fun m =>
        deps.guildStore.schema.isFounderRank m.2
      hasChannel s accountId && (founder || f.guildOf || f.info || f.chatStore) &&
        (s.mutate deps f (.leave accountId)).isSome
  | (.disband accountId, f) =>
      hasChannel s accountId && (s.mutate deps f (.disband accountId)).isSome
  | (.promote .., _) | (.demote .., _) => false

end

section

variable {deps : SessionDeps} {s s₁ t : State} {f : Faults} {row : GuildRow} {x a : AccountId}
  {channel : Option ChannelId} {new : Prop} [Decidable new]

/-! ### What a call changes -/

/-- A channel belongs to one guild, is there, and was created by this server. -/
structure Sound (deps : SessionDeps) (s : State) : Prop where
  accounts : s.chat.accounts = s.guild.accounts
  enabled : ∀ g ∈ s.guild.guilds, g.chatChannelId.isSome → deps.chatEnabled = true
  channel : ∀ g ∈ s.guild.guilds, ∀ c, g.chatChannelId = some c →
    s.chat.channelType c = some .guild
  distinct : ∀ g ∈ s.guild.guilds, ∀ g' ∈ s.guild.guilds, ∀ c,
    g.chatChannelId = some c → g'.chatChannelId = some c → g = g'

theorem sound_start (realms : Finset RealmId) (accounts : Finset AccountId) :
    Sound deps (start realms accounts) where
  accounts := rfl
  enabled g here := absurd here (Sql.Rows.notMem_empty g)
  channel g here := absurd here (Sql.Rows.notMem_empty g)
  distinct g here := absurd here (Sql.Rows.notMem_empty g)

theorem synced_start (realms : Finset RealmId) (accounts : Finset AccountId) :
    Synced (start realms accounts) where
  guilds g here := absurd here (Sql.Rows.notMem_empty g)
  others c here := absurd here (Sql.Rows.notMem_empty c)

theorem Sound.of_subset (inv : Sound deps s) (accounts : t.guild.accounts = s.guild.accounts)
    (rows : ∀ g ∈ t.guild.guilds, g ∈ s.guild.guilds)
    (chat_accounts : t.chat.accounts = s.chat.accounts)
    (channels : t.chat.channels = s.chat.channels) : Sound deps t where
  accounts := by rw [chat_accounts, accounts, inv.accounts]
  enabled g here := inv.enabled g (rows g here)
  channel g here c own := by
    have there := inv.channel g (rows g here) c own
    unfold Chat.Tables.channelType at there ⊢
    rwa [channels]
  distinct g here g' here' := inv.distinct g (rows g here) g' (rows g' here')

theorem mutate_eq_some {op : GuildOp} :
    s.mutate deps f op = some t ↔
      f.guildStore = false ∧ ∃ guild, deps.guildStore.perform s.guild op = .ok guild ∧
        t = { s with guild } := by
  unfold State.mutate
  cases f.guildStore <;> cases deps.guildStore.perform s.guild op <;>
    simp [Except.toOption, eq_comm]

/-- The channel is told of a change of the account's membership, if there is one to tell. -/
structure Told (x : AccountId) (channel : Option ChannelId) (new : Prop) [Decidable new]
    (s t : State) : Prop where
  guild : t.guild = s.guild
  accounts : t.chat.accounts = s.chat.accounts
  channels : t.chat.channels = s.chat.channels
  members : ∀ c a, ⟨c, a⟩ ∈ t.chat.members ↔
    if channel = some c ∧ a = x then new else ⟨c, a⟩ ∈ s.chat.members

theorem told_none (s : State) : Told x none new s s := ⟨rfl, rfl, rfl, by simp⟩

/-- The channel that a handler gets to. -/
def reached (f : Faults) (row : GuildRow) : Option ChannelId :=
  if f.info || f.chatStore then none else row.chatChannelId

theorem chatChannel_eq (inv : Sound deps s) (here : row ∈ s.guild.guilds) :
    s.chatChannel deps f (some row.id) = if f.info then none else row.chatChannelId := by
  have found : s.guild.guilds.find row.id = some row := Sql.Rows.find_eq_some.mpr ⟨here, rfl⟩
  have enabled := inv.enabled row here
  unfold State.chatChannel
  cases own : row.chatChannelId with
  | none => simp [found, own]
  | some c =>
      rw [own] at enabled
      cases f.info <;> simp [found, own, enabled rfl]

theorem syncChatJoin_told (inv : Sound deps s) (here : row ∈ s.guild.guilds)
    (known : x ∈ s.guild.accounts) :
    Told x (reached f row) True s (s.syncChatJoin deps f (some row.id) x) := by
  unfold State.syncChatJoin reached
  rw [chatChannel_eq inv here]
  cases f.info with
  | true => exact told_none s
  | false =>
      cases own : row.chatChannelId with
      | none => simpa using told_none s
      | some c =>
          cases failed : f.chatStore with
          | true => simpa [State.sync, failed] using told_none s
          | false =>
              obtain ⟨chat, done⟩ := Chat.Tables.exists_join (inv.channel row here c own)
                (inv.accounts ▸ known)
              obtain ⟨channels, members⟩ := Chat.Tables.join_ok done
              have synced : s.sync f (fun chat => chat.join c x) = { s with chat } := by
                simp [State.sync, failed, done]
              simp only [Bool.false_eq_true, if_false, Bool.or_self, synced]
              refine ⟨rfl, Chat.Tables.join_accounts done, channels, fun c' a => ?_⟩
              rw [members, Chat.MemberRow.mk.injEq]
              split
              next itself => simp [itself, (Option.some.inj itself.1).symm]
              next other =>
                exact or_iff_left fun itself =>
                  other ⟨congrArg some itself.1.symm, itself.2⟩

theorem syncChatLeave_told (inv : Sound deps s) (here : row ∈ s.guild.guilds) :
    Told x (reached f row) False s (s.syncChatLeave deps f (some row.id) x) := by
  unfold State.syncChatLeave reached
  rw [chatChannel_eq inv here]
  cases f.info with
  | true => exact told_none s
  | false =>
      cases own : row.chatChannelId with
      | none => simpa using told_none s
      | some c =>
          cases failed : f.chatStore with
          | true => simpa [State.sync, failed] using told_none s
          | false =>
              have done : s.chat.leave c x = .ok (s.chat.deleteMember c x) :=
                Chat.Tables.leave_of_guild (inv.channel row here c own)
              have synced : s.sync f (fun chat => chat.leave c x) =
                  { s with chat := s.chat.deleteMember c x } := by
                simp [State.sync, failed, done]
              simp only [Bool.false_eq_true, if_false, Bool.or_self, synced]
              refine ⟨rfl, rfl, rfl, fun c' a => ?_⟩
              rw [Chat.Tables.mem_deleteMember]
              split
              next itself => simp [itself, (Option.some.inj itself.1).symm]
              next other =>
                exact and_iff_left fun itself =>
                  other ⟨congrArg some itself.1.symm, itself.2⟩

/-- A guild that is gone has no channel to find. -/
theorem syncChatLeave_gone {guildId : Option GuildId}
    (gone : ∀ g, guildId = some g → s.guild.guilds.find g = none) :
    s.syncChatLeave deps f guildId x = s := by
  have none : s.chatChannel deps f guildId = none := by
    unfold State.chatChannel
    cases guildId with
    | none => simp
    | some g => simp [gone g rfl]
  simp [State.syncChatLeave, none]

/-! ### Which changes keep the channels -/

/-- Somebody joins or leaves a guild: the channel is in step if it is told, or there is none. -/
theorem synced_iff_told (inv : Sound deps s) (synced : Synced s) (told : Told x channel new s₁ t)
    (here : row ∈ s.guild.guilds)
    (rows : ∀ g, g ∈ s₁.guild.guilds ↔ g ∈ s.guild.guilds) (chat : s₁.chat = s.chat)
    (members : ∀ g a, (∃ k, ⟨g, a, k⟩ ∈ s₁.guild.members) ↔
      if g = row.id ∧ a = x then new else ∃ k, ⟨g, a, k⟩ ∈ s.guild.members)
    (changed : ¬ ((∃ k, ⟨row.id, x, k⟩ ∈ s.guild.members) ↔ new))
    (own : channel = none ∨ channel = row.chatChannelId) :
    Synced t ↔ channel = row.chatChannelId := by
  have chat_members := told.members
  rw [chat] at chat_members
  constructor
  · intro after
    by_contra untold
    obtain rfl := own.resolve_right untold
    obtain ⟨c, has⟩ := Option.ne_none_iff_exists'.mp (Ne.symm untold)
    have before := synced.guilds row here c has x
    have there : row ∈ t.guild.guilds := by rwa [told.guild, rows]
    have now := after.guilds row there c has x
    rw [chat_members, told.guild, members] at now
    simp only [reduceCtorEq, false_and, if_false, and_self, if_true] at now
    exact changed (before.symm.trans now)
  · rintro rfl
    refine ⟨fun g there c has a => ?_, fun c there guild free a member => ?_⟩
    · rw [told.guild, rows] at there
      rw [chat_members, told.guild, members]
      by_cases same : g = row
      · subst same
        simp only [has, true_and]
        split
        · rfl
        · exact synced.guilds g there c has a
      · have other : row.chatChannelId ≠ some c := fun its =>
          same (inv.distinct g there row here c has its)
        have other_id : g.id ≠ row.id := fun its => same (Sql.Rows.eq_of_key there here its)
        simp only [other, other_id, false_and, if_false]
        exact synced.guilds g there c has a
    · rw [told.channels, chat] at there
      have free' : ∀ g ∈ s.guild.guilds, g.chatChannelId ≠ some c.id := by
        intro g before
        exact free g (by rwa [told.guild, rows])
      rw [chat_members, if_neg fun its => free' row here its.1] at member
      exact synced.others c there guild free' a member

/-- A guild is dissolved: nobody leaves its channel, so it must not have one. -/
theorem synced_iff_dissolved (inv : Sound deps s) (synced : Synced s)
    (here : row ∈ s.guild.guilds) (member : ∃ k, ⟨row.id, x, k⟩ ∈ s.guild.members) :
    Synced { s with guild := s.guild.deleteGuild row.id } ↔ row.chatChannelId = none := by
  constructor
  · intro after
    by_contra has
    obtain ⟨c, has⟩ := Option.ne_none_iff_exists'.mp has
    obtain ⟨channel, there, rfl, guild⟩ :=
      Chat.Tables.channelType_eq_some.mp (inv.channel row here c has)
    refine after.others channel there guild (fun g remains its => ?_) x
      ((synced.guilds row here _ has x).mpr member)
    obtain ⟨before, other⟩ := Guild.Tables.guild_mem_deleteGuild.mp remains
    exact other (congrArg GuildRow.id (inv.distinct g before row here _ its has))
  · intro none
    refine ⟨fun g there c has a => ?_, fun c there guild free a member => ?_⟩
    · obtain ⟨before, other⟩ := Guild.Tables.guild_mem_deleteGuild.mp there
      rw [synced.guilds g before c has a]
      exact exists_congr fun k =>
        (Guild.Tables.mem_deleteGuild.trans (and_iff_left other)).symm
    · refine synced.others c there guild (fun g before its => ?_) a member
      by_cases itself : g.id = row.id
      · have same := Sql.Rows.eq_of_key before here itself
        rw [same, none] at its
        cases its
      · exact free g (Guild.Tables.guild_mem_deleteGuild.mpr ⟨before, itself⟩) its

/-! ### The handlers -/

/-- What a handler does to the invariants. -/
structure Keeps (deps : SessionDeps) (s t : State) (drift : Bool) : Prop where
  sound : Sound deps t
  synced : Synced s → (Synced t ↔ drift = false)

theorem keeps_refused (inv : Sound deps s) : Keeps deps s s false :=
  ⟨inv, fun synced => iff_of_true synced rfl⟩

theorem guildOf_eq {g : GuildId} {k : String} (member : ⟨g, a, k⟩ ∈ s.guild.members) :
    s.guild.guildOf a = some g := by
  simp [Guild.Tables.guildOf, Guild.Tables.membership_eq_some.mpr member]

theorem hasChannel_eq {k : String} (here : row ∈ s.guild.guilds)
    (member : ⟨row.id, a, k⟩ ∈ s.guild.members) :
    hasChannel s a = row.chatChannelId.isSome := by
  have found : s.guild.guilds.find row.id = some row := Sql.Rows.find_eq_some.mpr ⟨here, rfl⟩
  simp [hasChannel, guildOf_eq member, found]

theorem Told.sound (told : Told x channel new s t) (inv : Sound deps s) : Sound deps t :=
  inv.of_subset (told.guild ▸ rfl) (fun _ here => told.guild ▸ here) told.accounts told.channels

theorem reached_or : reached f row = none ∨ reached f row = row.chatChannelId := by
  unfold reached
  split <;> simp

theorem reached_eq_iff :
    reached f row = row.chatChannelId ↔
      (row.chatChannelId.isSome && (f.info || f.chatStore)) = false := by
  unfold reached
  cases row.chatChannelId <;> cases f.info <;> cases f.chatStore <;> simp

theorem keeps_inviteResponse {inviter : AccountId} (inv : Sound deps s) :
    Keeps deps s (s.guildInviteResponse deps f inviter x)
      (drifts deps s (.inviteResponse inviter x, f)) := by
  unfold State.guildInviteResponse
  cases done : s.mutate deps f (.acceptInvite inviter x) with
  | none => simpa [drifts, done] using keeps_refused inv
  | some s₁ =>
      obtain ⟨-, guild, performed, rfl⟩ := mutate_eq_some.mp done
      obtain ⟨g, k, rank, member, -, -, joined⟩ := GuildStore.acceptInvite_ok performed
      obtain ⟨row, here, rfl⟩ := s.guild.references _ member
      obtain ⟨accounts, known⟩ := Guild.Tables.accounts_of_insertMember joined
      have rows := Guild.Tables.guilds_of_insertMember joined
      have inv₁ : Sound deps { s with guild } :=
        inv.of_subset accounts (fun g there => rows ▸ there) rfl rfl
      have told := syncChatJoin_told (f := f) inv₁ (show row ∈ guild.guilds from rows ▸ here)
        (accounts ▸ known)
      dsimp only
      rw [guildOf_eq member]
      refine ⟨told.sound inv₁, fun synced => ?_⟩
      have in_step := synced_iff_told inv synced told here (fun g => by rw [rows]) rfl ?members
        ?changed reached_or
      · simp [in_step, reached_eq_iff, drifts, done, hasChannel_eq here member]
      case members =>
        intro g a
        simp only [Guild.Tables.mem_insertMember joined, Guild.MemberRow.mk.injEq]
        split
        next itself => exact iff_of_true ⟨_, .inr ⟨itself.1, itself.2, rfl⟩⟩ trivial
        next other =>
          exact exists_congr fun k => or_iff_left fun itself => other ⟨itself.1, itself.2.1⟩
      case changed =>
        rw [iff_true]
        rintro ⟨k', before⟩
        exact Guild.Tables.fresh_of_insertMember joined before rfl

/-- A member leaves a guild that stays. -/
theorem keeps_removed {actor : AccountId} {k k' : String} (inv : Sound deps s)
    (here : row ∈ s.guild.guilds) (acting : ⟨row.id, actor, k⟩ ∈ s.guild.members)
    (member : ⟨row.id, x, k'⟩ ∈ s.guild.members) :
    Keeps deps s
      (State.syncChatLeave deps { s with guild := s.guild.deleteMember row.id x } f
        (s.guildOf f actor) x)
      (row.chatChannelId.isSome && (f.guildOf || f.info || f.chatStore)) := by
  have inv₁ : Sound deps { s with guild := s.guild.deleteMember row.id x } :=
    inv.of_subset rfl (fun g there => there) rfl rfl
  have members : ∀ g a, (∃ k, ⟨g, a, k⟩ ∈ (s.guild.deleteMember row.id x).members) ↔
      if g = row.id ∧ a = x then False else ∃ k, ⟨g, a, k⟩ ∈ s.guild.members := by
    intro g a
    simp only [Guild.Tables.mem_deleteMember]
    split
    next itself => simp [itself]
    next other => exact exists_congr fun k => and_iff_left other
  have changed : ¬ ((∃ k, ⟨row.id, x, k⟩ ∈ s.guild.members) ↔ False) := fun none =>
    none.mp ⟨k', member⟩
  unfold State.guildOf
  cases f.guildOf with
  | true =>
      have unsynced : State.syncChatLeave deps { s with guild := s.guild.deleteMember row.id x }
          f none x = { s with guild := s.guild.deleteMember row.id x } :=
        syncChatLeave_gone fun g none => by cases none
      rw [if_pos rfl, unsynced]
      refine ⟨inv₁, fun synced => ?_⟩
      have untold : Told x none False { s with guild := s.guild.deleteMember row.id x }
          { s with guild := s.guild.deleteMember row.id x } := told_none _
      have in_step := synced_iff_told inv synced untold here (fun g => Iff.rfl) rfl members
        changed (.inl rfl)
      rw [in_step]
      cases row.chatChannelId <;> simp
  | false =>
      have told := syncChatLeave_told (x := x) (f := f) inv₁ here
      rw [if_neg Bool.false_ne_true, guildOf_eq acting]
      refine ⟨told.sound inv₁, fun synced => ?_⟩
      have in_step := synced_iff_told inv synced told here (fun g => Iff.rfl) rfl members
        changed reached_or
      rw [in_step, reached_eq_iff, Bool.false_or]

/-- A guild is dissolved, and nothing is found to synchronise. -/
theorem keeps_dissolved {k : String} (inv : Sound deps s) (here : row ∈ s.guild.guilds)
    (member : ⟨row.id, x, k⟩ ∈ s.guild.members) :
    Keeps deps s { s with guild := s.guild.deleteGuild row.id } row.chatChannelId.isSome where
  sound :=
    inv.of_subset rfl (fun g there => (Guild.Tables.guild_mem_deleteGuild.mp there).1) rfl rfl
  synced synced := by
    rw [synced_iff_dissolved inv synced here ⟨k, member⟩]
    cases row.chatChannelId <;> simp

theorem syncChatLeave_dissolved {actor : AccountId} {k : String}
    (acting : ⟨row.id, actor, k⟩ ∈ s.guild.members) (x : AccountId) :
    State.syncChatLeave deps { s with guild := s.guild.deleteGuild row.id } f
        (s.guildOf f actor) x =
      { s with guild := s.guild.deleteGuild row.id } := by
  refine syncChatLeave_gone fun g found => ?_
  unfold State.guildOf at found
  split at found
  · cases found
  · obtain rfl := Option.some.inj ((guildOf_eq acting).symm.trans found)
    refine Sql.Rows.find_eq_none.mpr fun g' remains same => ?_
    exact (Guild.Tables.guild_mem_deleteGuild.mp remains).2 same

theorem keeps_kick {actor : AccountId} (inv : Sound deps s) :
    Keeps deps s (s.guildKick deps f actor x) (drifts deps s (.kick actor x, f)) := by
  unfold State.guildKick
  cases done : s.mutate deps f (.kick actor x) with
  | none => simpa [drifts, done] using keeps_refused inv
  | some s₁ =>
      obtain ⟨-, guild, performed, rfl⟩ := mutate_eq_some.mp done
      obtain ⟨g, k, k', acting, member, -, rfl⟩ := GuildStore.kick_ok performed
      obtain ⟨row, here, rfl⟩ := s.guild.references _ acting
      simpa [drifts, done, hasChannel_eq here acting] using
        keeps_removed (f := f) inv here acting member

theorem keeps_leave (inv : Sound deps s) :
    Keeps deps s (s.guildLeave deps f x) (drifts deps s (.leave x, f)) := by
  unfold State.guildLeave
  cases done : s.mutate deps f (.leave x) with
  | none => simpa [drifts, done] using keeps_refused inv
  | some s₁ =>
      obtain ⟨-, guild, performed, rfl⟩ := mutate_eq_some.mp done
      obtain ⟨g, k, member, ⟨founder, rfl, -⟩ | ⟨other, rfl⟩⟩ := GuildStore.leave_ok performed
      all_goals
        obtain ⟨row, here, rfl⟩ := s.guild.references _ member
        have membership := Guild.Tables.membership_eq_some.mpr member
      · have leads := Guild.GuildSchema.isFounderRank_iff.mpr founder
        simpa [drifts, done, hasChannel_eq here member, membership, leads,
          syncChatLeave_dissolved member] using keeps_dissolved inv here member
      · have follows : deps.guildStore.schema.isFounderRank k = false := by
          rw [Bool.eq_false_iff]
          exact fun leads => other (Guild.GuildSchema.isFounderRank_iff.mp leads)
        simpa [drifts, done, hasChannel_eq here member, membership, follows] using
          keeps_removed (f := f) inv here member member

theorem keeps_disband (inv : Sound deps s) :
    Keeps deps s (s.guildDisband deps f x) (drifts deps s (.disband x, f)) := by
  unfold State.guildDisband
  cases done : s.mutate deps f (.disband x) with
  | none => simpa [drifts, done] using keeps_refused inv
  | some s₁ =>
      obtain ⟨-, guild, performed, rfl⟩ := mutate_eq_some.mp done
      obtain ⟨g, member, rfl⟩ := GuildStore.disband_ok performed
      obtain ⟨row, here, rfl⟩ := s.guild.references _ member
      have unsynced : ∀ members : List AccountId,
          members.foldl (fun t m => State.syncChatLeave deps t f (s.guildOf f x) m)
            { s with guild := s.guild.deleteGuild row.id } =
              { s with guild := s.guild.deleteGuild row.id } := by
        intro members
        induction members with
        | nil => rfl
        | cons m members ih => rw [List.foldl_cons, syncChatLeave_dissolved member, ih]
      simpa [drifts, done, hasChannel_eq here member, unsynced] using
        keeps_dissolved inv here member

/-- A change of rank is none of membership. -/
theorem keeps_changeRank {actor : AccountId} {rankKey : String}
    {permission : Guild.GuildPermission} {guild : Guild.Tables} (inv : Sound deps s)
    (performed : deps.guildStore.changeRank s.guild actor x rankKey permission = .ok guild) :
    Keeps deps s { s with guild } false := by
  obtain ⟨newRank, g, k, k', rank, -, -, -, -, member, -, rfl⟩ :=
    GuildStore.changeRank_ok.mp performed
  have members : ∀ g' a, (∃ k, ⟨g', a, k⟩ ∈ (s.guild.updateRank newRank.key g x).members) ↔
      ∃ k, ⟨g', a, k⟩ ∈ s.guild.members := by
    intro g' a
    by_cases itself : a = x
    · subst itself
      simp only [Guild.Tables.mem_updateRank_self member]
      constructor
      · rintro ⟨-, rfl, -⟩
        exact ⟨k', member⟩
      · rintro ⟨k'', there⟩
        exact ⟨_, congrArg Guild.MemberRow.guildId
          (Guild.Tables.eq_of_accountId there member rfl), rfl⟩
    · exact exists_congr fun k => Guild.Tables.mem_updateRank_of_ne itself
  refine ⟨inv.of_subset rfl (fun g there => there) rfl rfl, fun synced => iff_of_true ?_ rfl⟩
  exact ⟨fun g there c has a => (synced.guilds g there c has a).trans (members g.id a).symm,
    synced.others⟩

/-! ### Founding a guild -/

/-- The channel of a new guild has been opened, if there is to be one. -/
structure Opened (x : AccountId) (channel : Option ChannelId) (old new : Chat.Tables) : Prop where
  accounts : new.accounts = old.accounts
  fresh : ∀ c, channel = some c → ∀ row ∈ old.channels, row.id ≠ c
  extends_ : old.Extends none new
  opened : ∀ c, channel = some c → new.channelType c = some .guild
  channels : ∀ row ∈ new.channels, row ∈ old.channels ∨ channel = some row.id
  members : ∀ c a, ⟨c, a⟩ ∈ new.members ↔ ⟨c, a⟩ ∈ old.members ∨ channel = some c ∧ a = x

theorem opened_none (chat : Chat.Tables) : Opened x none chat chat where
  accounts := rfl
  fresh c none := by cases none
  extends_ := .refl chat
  opened c none := by cases none
  channels row here := .inl here
  members c a := by simp

theorem opened_of_createGuild {id : ChannelId} {name : String} {chat chat' : Chat.Tables}
    (done : chat.createGuild id x name = .ok chat') : Opened x (some id) chat chat' := by
  obtain ⟨inserted, -, members⟩ := Chat.Tables.createNamed_ok done
  refine ⟨Chat.Tables.createNamed_accounts done, ?_, Chat.Tables.createNamed_extends done, ?_, ?_,
    fun c a => ?_⟩
  · intro c new row here
    cases new
    exact Sql.Rows.fresh_of_insert inserted here
  · intro c new
    cases new
    exact Chat.Tables.channelType_eq_some.mpr
      ⟨_, (Sql.Rows.mem_insert inserted).mpr (.inr rfl), rfl, rfl⟩
  · intro row here
    obtain before | rfl := (Sql.Rows.mem_insert inserted).mp here
    · exact .inl before
    · exact .inr rfl
  · rw [members, Chat.MemberRow.mk.injEq, Option.some.injEq, eq_comm (a := c)]

/-- No guild had the new channel. -/
theorem Opened.unowned {chat : Chat.Tables} (opened : Opened x channel s.chat chat)
    (inv : Sound deps s) {c : ChannelId} (new : channel = some c) :
    ∀ g ∈ s.guild.guilds, g.chatChannelId ≠ some c := by
  intro g here its
  obtain ⟨row, there, named, -⟩ :=
    Chat.Tables.channelType_eq_some.mp (inv.channel g here c its)
  exact opened.fresh c new row there named

/-- The guild is not created, and the channel stays with its creator in it. -/
theorem keeps_orphaned {chat : Chat.Tables} {c : ChannelId}
    (opened : Opened x (some c) s.chat chat) (inv : Sound deps s) :
    Keeps deps s { s with chat } true where
  sound :=
    { accounts := opened.accounts.trans inv.accounts
      enabled := inv.enabled
      channel := fun g here c its => opened.extends_.channelType (inv.channel g here c its)
      distinct := inv.distinct }
  synced _ := by
    refine iff_of_false (fun after => ?_) (by simp)
    obtain ⟨row, there, rfl, guild⟩ :=
      Chat.Tables.channelType_eq_some.mp (opened.opened c rfl)
    exact after.others row there guild (opened.unowned inv rfl) x
      ((opened.members _ x).mpr (.inr ⟨rfl, rfl⟩))

theorem keeps_founded {chat : Chat.Tables} {guild : Guild.Tables} {id : GuildId} {name : String}
    (opened : Opened x channel s.chat chat) (inv : Sound deps s)
    (enabled : channel.isSome → deps.chatEnabled = true)
    (performed : deps.guildStore.create s.guild id x name deps.realmId channel = .ok guild) :
    Keeps deps s ⟨guild, chat⟩ false := by
  obtain ⟨t₁, created, joined⟩ := GuildStore.create_ok performed
  have rows : ∀ g,
      g ∈ guild.guilds ↔ g ∈ s.guild.guilds ∨ g = ⟨id, name, deps.realmId, channel⟩ := by
    intro g
    rw [Guild.Tables.guilds_of_insertMember joined, Guild.Tables.guild_mem_insertGuild created]
  have fresh : ∀ g ∈ s.guild.guilds, g.id ≠ id := fun g here =>
    Guild.Tables.guild_fresh_of_insertGuild created here
  have members : ∀ g a, (∃ k, ⟨g, a, k⟩ ∈ guild.members) ↔
      (∃ k, ⟨g, a, k⟩ ∈ s.guild.members) ∨ g = id ∧ a = x := by
    intro g a
    simp only [Guild.Tables.mem_insertMember joined, Guild.Tables.members_of_insertGuild created,
      Guild.MemberRow.mk.injEq, exists_or, exists_and_left, exists_eq, and_true]
  have accounts : guild.accounts = s.guild.accounts := by
    rw [(Guild.Tables.accounts_of_insertMember joined).1,
      Guild.Tables.accounts_of_insertGuild created]
  refine ⟨⟨?_, ?_, ?_, ?_⟩, fun synced => iff_of_true ⟨?_, ?_⟩ rfl⟩
  · rw [opened.accounts, inv.accounts, accounts]
  · intro g here
    obtain before | rfl := (rows g).mp here
    · exact inv.enabled g before
    · exact enabled
  · intro g here c its
    obtain before | rfl := (rows g).mp here
    · exact opened.extends_.channelType (inv.channel g before c its)
    · exact opened.opened c its
  · intro g here g' here' c its its'
    obtain before | rfl := (rows g).mp here <;> obtain before' | rfl := (rows g').mp here'
    · exact inv.distinct g before g' before' c its its'
    · exact absurd its (opened.unowned inv its' g before)
    · exact absurd its' (opened.unowned inv its g' before')
    · rfl
  · intro g here c its a
    rw [opened.members, members]
    obtain before | rfl := (rows g).mp here
    · have other : channel ≠ some c := fun new => opened.unowned inv new g before its
      simp only [other, fresh g before, false_and, or_false]
      exact synced.guilds g before c its a
    · have unheard : ∀ a, ⟨c, a⟩ ∉ s.chat.members := by
        intro a member
        obtain ⟨row, there, named⟩ := s.chat.references _ member
        exact opened.fresh c its row there named
      have unknown : ∀ a k, ⟨id, a, k⟩ ∉ s.guild.members := by
        intro a k member
        obtain ⟨g, there, named⟩ := s.guild.references _ member
        exact fresh g there named
      dsimp only at its
      simp [unheard, unknown, its]
  · intro c here guild_channel free a member
    have unowned : channel ≠ some c.id := free ⟨id, name, deps.realmId, channel⟩
      ((rows _).mpr (.inr rfl))
    have before := (opened.channels c here).resolve_right unowned
    refine synced.others c before guild_channel (fun g there => free g ((rows g).mpr (.inl there)))
      a ?_
    exact ((opened.members c.id a).mp member).resolve_right fun new => unowned new.1

theorem createChannel_cases (deps : SessionDeps) (s : State) (f : Faults) (x : AccountId)
    (name : String) (channelId : ChannelId) :
    (createsChannel deps s f x name channelId = true ∧ ∃ chat,
        s.createChannel deps f x name channelId = (chat, some channelId) ∧
          s.chat.createGuild channelId x name = .ok chat) ∨
      createsChannel deps s f x name channelId = false ∧
        s.createChannel deps f x name channelId = (s.chat, none) := by
  have creatable : (∃ chat, s.chat.createGuild channelId x name = .ok chat) ↔
      isBlank name = false ∧ x ∈ s.chat.accounts ∧ s.chat.channels.find channelId = none :=
    Chat.Tables.exists_createNamed
  unfold State.createChannel createsChannel
  cases deps.chatEnabled <;> cases f.chatStore
  case true.false =>
    cases done : s.chat.createGuild channelId x name with
    | ok chat =>
        obtain ⟨named, known, fresh⟩ := creatable.mp ⟨chat, done⟩
        exact .inl ⟨by simp [named, known, fresh], chat, by simp, rfl⟩
    | error e =>
        refine .inr ⟨?_, by simp⟩
        rw [Bool.eq_false_iff]
        intro met
        simp only [Bool.not_false, Bool.and_self, Bool.true_and, Bool.and_eq_true,
          Bool.not_eq_true', decide_eq_true_eq, Option.isNone_iff_eq_none] at met
        obtain ⟨chat, ok⟩ := creatable.mpr ⟨met.1.1, met.1.2, met.2⟩
        cases ok.symm.trans done
  all_goals exact .inr ⟨by simp, by simp⟩

/-- The guild store refuses the creation of a guild with a proper name. -/
theorem create_refused {name : String} {guildId : GuildId} {chat : Chat.Tables}
    (named : isBlank name = false) (known : x ∈ s.guild.accounts) :
    State.mutate deps { s with chat } f (.create guildId x name deps.realmId channel) = none ↔
      (f.guildStore || (s.guild.guildOf x).isSome || decide (deps.realmId ∉ s.guild.realms) ||
        (s.guild.guilds.find guildId).isSome) = true := by
  have creatable : (∃ guild, deps.guildStore.create s.guild guildId x name deps.realmId channel =
      .ok guild) ↔ isBlank name = false ∧ s.guild.guildOf x = none ∧
        deps.realmId ∈ s.guild.realms ∧ s.guild.guilds.find guildId = none ∧
          x ∈ s.guild.accounts := GuildStore.exists_create
  unfold State.mutate
  cases f.guildStore with
  | true => simp
  | false =>
      cases done : deps.guildStore.create s.guild guildId x name deps.realmId channel with
      | ok guild =>
          obtain ⟨-, free, realm, fresh, -⟩ := creatable.mp ⟨guild, done⟩
          simp [GuildStore.perform, done, Except.toOption, free, realm, fresh]
      | error e =>
          refine iff_of_true (by simp [GuildStore.perform, done, Except.toOption]) ?_
          by_contra met
          simp only [Bool.false_or, Bool.or_eq_true, not_or, Bool.not_eq_true,
            Option.isSome_eq_false_iff, Option.isNone_iff_eq_none, decide_eq_false_iff_not,
            not_not] at met
          obtain ⟨guild, ok⟩ := creatable.mpr ⟨named, met.1.1, met.1.2, met.2, known⟩
          cases ok.symm.trans done

theorem keeps_create {name : String} {guildId : GuildId} {channelId : ChannelId}
    (inv : Sound deps s) :
    Keeps deps s (s.guildCreate deps f x name guildId channelId)
      (drifts deps s (.create x name guildId channelId, f)) := by
  unfold State.guildCreate
  obtain ⟨creates, chat, result, created⟩ | ⟨creates, result⟩ :=
    createChannel_cases deps s f x name channelId
  · have opened := opened_of_createGuild created
    obtain ⟨named, known, -⟩ := Chat.Tables.exists_createNamed.mp ⟨chat, created⟩
    have refused : State.mutate deps { s with chat } f
          (.create guildId x name deps.realmId (some channelId)) = none ↔
        (f.guildStore || (s.guild.guildOf x).isSome || decide (deps.realmId ∉ s.guild.realms) ||
          (s.guild.guilds.find guildId).isSome) = true :=
      create_refused named (inv.accounts ▸ known)
    have enabled : deps.chatEnabled = true := by
      simp only [createsChannel, Bool.and_eq_true] at creates
      exact creates.1.1.1.1
    simp only [result, drifts, creates, Bool.true_and]
    cases done : State.mutate deps { s with chat } f
        (.create guildId x name deps.realmId (some channelId)) with
    | none =>
        rw [refused.mp done]
        exact keeps_orphaned opened inv
    | some s₁ =>
        obtain ⟨-, guild, performed, rfl⟩ := mutate_eq_some.mp done
        have accepted := mt refused.mpr (by simp [done])
        rw [Bool.not_eq_true] at accepted
        rw [accepted]
        exact keeps_founded opened inv (fun _ => enabled) performed
  · simp only [result, drifts, creates, Bool.false_and]
    cases done : s.mutate deps f (.create guildId x name deps.realmId none) with
    | none => exact keeps_refused inv
    | some s₁ =>
        obtain ⟨-, guild, performed, rfl⟩ := mutate_eq_some.mp done
        exact keeps_founded (opened_none _) inv (by simp) performed

theorem keeps_handle (r : Request) (inv : Sound deps s) :
    Keeps deps s (s.handle deps f r) (drifts deps s (r, f)) := by
  have changed : ∀ {actor target rankKey permission op},
      (∀ t, deps.guildStore.perform t op =
        deps.guildStore.changeRank t actor target rankKey permission) →
      Keeps deps s ((s.mutate deps f op).getD s) false := by
    intro actor target rankKey permission op same
    cases done : s.mutate deps f op with
    | none => exact keeps_refused inv
    | some s₁ =>
        obtain ⟨-, guild, performed, rfl⟩ := mutate_eq_some.mp done
        exact keeps_changeRank inv (same _ ▸ performed)
  cases r with
  | create => exact keeps_create inv
  | inviteResponse => exact keeps_inviteResponse inv
  | kick => exact keeps_kick inv
  | promote => exact changed fun _ => rfl
  | demote => exact changed fun _ => rfl
  | leave => exact keeps_leave inv
  | disband => exact keeps_disband inv

/-! ### Runs -/

/-- From empty tables, under any schema, with chat or without: the runs whose requests do not
drift are those along which the channels are the guilds' throughout. -/
theorem synced_throughout_iff (deps : SessionDeps) (realms : Finset RealmId)
    (accounts : Finset AccountId) (requests : List (Request × Faults)) :
    Transition.Admissible (step deps) (fun s l => drifts deps s l = false)
        (start realms accounts) requests ↔
      ∀ front, front <+: requests → ∀ s,
        Transition.exec (step deps) (start realms accounts) front = some s → Synced s := by
  refine Transition.admissible_iff_throughout_of (I := fun s => Sound deps s ∧ Synced s) ?_
    (fun _ inv => inv.2) ?_ ⟨sound_start realms accounts, synced_start realms accounts⟩
  · rintro s ⟨r, f⟩ t ⟨sound, synced⟩ steady taken
    cases taken
    have keeps := keeps_handle (f := f) r sound
    exact ⟨keeps.sound, (keeps.synced synced).mpr steady⟩
  · rintro s ⟨r, f⟩ ⟨sound, synced⟩ drift
    have keeps := keeps_handle (f := f) r sound
    exact ⟨_, rfl, fun after => drift ((keeps.synced synced).mp after)⟩

end

namespace Clan

def deps : SessionDeps where
  guildStore := Guild.Clan.clans
  realmId := ⟨5⟩
  chatEnabled := true

def leader : AccountId := ⟨1⟩
def recruit : AccountId := ⟨2⟩

/-- The guild is founded, a member joins, and the leader disbands it. -/
def disbanded : List (Request × Faults) :=
  [(.create leader "Clan" ⟨7⟩ ⟨9⟩, {}), (.inviteResponse leader recruit, {}),
    (.disband leader, {})]

/-- A member of the guild founds another one, which is refused. -/
def foundedTwice : List (Request × Faults) :=
  [(.create leader "Clan" ⟨7⟩ ⟨9⟩, {}), (.create leader "Order" ⟨8⟩ ⟨10⟩, {})]

/-- No guild is left, and its channel keeps both members; the channel of a guild that was
never created keeps its creator. -/
theorem members_remain :
    (∃ s, Transition.exec (step deps) (start {⟨5⟩} {leader, recruit}) disbanded = some s ∧
      s.guild.guilds.rows = [] ∧ s.chat.members.rows = [⟨⟨9⟩, leader⟩, ⟨⟨9⟩, recruit⟩] ∧
        ¬ Synced s) ∧
    ∃ s, Transition.exec (step deps) (start {⟨5⟩} {leader, recruit}) foundedTwice = some s ∧
      ¬ Synced s := by
  constructor
  · have ends : ∃ s, Transition.exec (step deps) (start {⟨5⟩} {leader, recruit}) disbanded =
        some s ∧ (s.guild.guilds.rows = [] ∧
          s.chat.members.rows = [⟨⟨9⟩, leader⟩, ⟨⟨9⟩, recruit⟩] ∧
          ∃ c ∈ s.chat.channels.rows, c.channelType = .guild ∧
            ⟨c.id, leader⟩ ∈ s.chat.members) := Transition.exec_reaches (by decide)
    obtain ⟨s, run, guilds, members, c, here, guild, member⟩ := ends
    refine ⟨s, run, guilds, members, fun synced => ?_⟩
    refine synced.others c here guild (fun g there => ?_) leader member
    exact absurd (guilds ▸ there : g ∈ []) List.not_mem_nil
  · have ends : ∃ s, Transition.exec (step deps) (start {⟨5⟩} {leader, recruit}) foundedTwice =
        some s ∧ (∃ c ∈ s.chat.channels.rows, c.channelType = .guild ∧
          (∀ g ∈ s.guild.guilds.rows, g.chatChannelId ≠ some c.id) ∧
            ⟨c.id, leader⟩ ∈ s.chat.members) := Transition.exec_reaches (by decide)
    obtain ⟨s, run, c, here, guild, free, member⟩ := ends
    exact ⟨s, run, fun synced => synced.others c here guild free leader member⟩

end Clan

end WorldZero.Server.GuildChat
