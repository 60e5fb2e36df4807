import Mathlib.Data.Finset.Basic
import WorldZero.Common
import WorldZero.Sql.Rows
import WorldZero.Validation

/-!
# The channel store

`chat_channels` and `chat_channel_members` with their constraints, and the calls of
`ChannelStore`. A channel is never deleted and its type never changes, so a call that
looks a channel up before it writes is one step here. Membership is a matter of the
`direct`, `group` and `guild` channels; a `zone` channel has no rows.
-/

namespace WorldZero.Chat

open Sql Validation

inductive ChannelType where
  | direct
  | group
  | guild
  | zone
  deriving DecidableEq

def ChannelType.asStr : ChannelType → String
  | .direct => "direct"
  | .group => "group"
  | .guild => "guild"
  | .zone => "zone"

structure ChannelRow where
  id : ChannelId
  channelType : ChannelType
  name : Option String := none
  zoneId : Option String := none
  category : Option String := none
  createdBy : Option AccountId := none
  deriving DecidableEq

structure MemberRow where
  channelId : ChannelId
  accountId : AccountId
  deriving DecidableEq

abbrev MemberRow.key (m : MemberRow) : ChannelId × AccountId := (m.channelId, m.accountId)

/-- A member's channel exists. -/
structure Tables where
  accounts : Finset AccountId
  channels : Rows ChannelRow.id
  members : Rows MemberRow.key
  references : ∀ m ∈ members, ∃ c ∈ channels, c.id = m.channelId

namespace Tables

variable (t : Tables)

/-- No channel has been created. -/
def empty (accounts : Finset AccountId) : Tables where
  accounts
  channels := .empty _
  members := .empty _
  references m here := absurd here (Rows.notMem_empty m)

/-- `INSERT INTO chat_channels`, under the primary key and the reference to the creator. -/
def insertChannel (c : ChannelRow) : Option Tables :=
  if c.createdBy.all (· ∈ t.accounts) then
    match inserted : t.channels.insert c with
    | none => none
    | some channels =>
        some { t with
          channels
          references := fun m here => by
            obtain ⟨c', there, same⟩ := t.references m here
            exact ⟨c', (Rows.mem_insert inserted).mpr (.inl there), same⟩ }
  else none

/-- `INSERT INTO chat_channel_members`, under the primary key and the two references. -/
def insertMember (m : MemberRow) : Option Tables :=
  if referenced : m.accountId ∈ t.accounts ∧ (t.channels.find m.channelId).isSome then
    match inserted : t.members.insert m with
    | none => none
    | some members =>
        some { t with
          members
          references := fun m' here => by
            obtain there | rfl := (Rows.mem_insert inserted).mp here
            · exact t.references m' there
            · obtain ⟨c, found⟩ := Option.isSome_iff_exists.mp referenced.2
              exact ⟨c, Rows.find_eq_some.mp found⟩ }
  else none

/-- `DELETE FROM chat_channel_members WHERE channel_id = $1 AND account_id = $2`. -/
def deleteMember (channelId : ChannelId) (accountId : AccountId) : Tables :=
  { t with
    members := t.members.delete fun m => m.channelId = channelId && m.accountId = accountId
    references := fun m here => t.references m (Rows.mem_delete.mp here).1 }

/-- `ChannelStore::channel_type`. -/
def channelType (channelId : ChannelId) : Option ChannelType :=
  (t.channels.find channelId).map ChannelRow.channelType

/-- `ChannelStore::is_member`. -/
def isMember (channelId : ChannelId) (accountId : AccountId) : Bool :=
  decide (⟨channelId, accountId⟩ ∈ t.members)

/-- `ChannelStore::members`. -/
def membersOf (channelId : ChannelId) : List AccountId :=
  (t.members.select fun m => m.channelId = channelId).map MemberRow.accountId

def requireJoinable (channelId : ChannelId) : Except Error Unit := do
  let channelType ← okOrElse (t.channelType channelId) (.new "chat" "channel does not exist")
  match channelType with
  | .group | .guild => return ()
  | other => throw (.new "chat"
      s!"cannot join/leave a {other.asStr} channel — membership isn't explicit for this type")

/-- `ON CONFLICT DO NOTHING`: who is a member already stays one. -/
def join (channelId : ChannelId) (accountId : AccountId) : Except Error Tables := do
  t.requireJoinable channelId
  if t.isMember channelId accountId then return t
  okOrElse (t.insertMember ⟨channelId, accountId⟩) (.wrap "chat" "failed to join channel")

def leave (channelId : ChannelId) (accountId : AccountId) : Except Error Tables := do
  t.requireJoinable channelId
  return t.deleteMember channelId accountId

/-- `id` is the fresh identifier of the channel, here and below. -/
def createNamed (id : ChannelId) (channelType : ChannelType) (creator : AccountId)
    (name : String) : Except Error Tables := do
  ensure (!isBlank name) (.new "chat" "channel name must not be empty")
  let t ← okOrElse (t.insertChannel
      { id, channelType, name := some name, createdBy := some creator })
    (.wrap "chat" "failed to create channel")
  okOrElse (t.insertMember ⟨id, creator⟩)
    (.wrap "chat" "failed to add creator as channel member")

def createGroup (id : ChannelId) (creator : AccountId) (name : String) : Except Error Tables :=
  t.createNamed id .group creator name

def createGuild (id : ChannelId) (creator : AccountId) (name : String) : Except Error Tables :=
  t.createNamed id .guild creator name

def findDirect (a b : AccountId) : Option ChannelId :=
  (t.channels.rows.find? fun c =>
    c.channelType = .direct && t.isMember c.id a && t.isMember c.id b).map ChannelRow.id

def createDirect (id : ChannelId) (a b : AccountId) : Except Error Tables :=
  match t.findDirect a b with
  | some _ => return t
  | none => do
      let t ← okOrElse (t.insertChannel { id, channelType := .direct })
        (.wrap "chat" "failed to create direct channel")
      let t ← okOrElse (t.insertMember ⟨id, a⟩)
        (.wrap "chat" "failed to add direct channel member")
      okOrElse (t.insertMember ⟨id, b⟩) (.wrap "chat" "failed to add direct channel member")

def findZoneChannel (zoneId : Option String) (category : String) : Option ChannelId :=
  (t.channels.rows.find? fun c =>
    c.channelType = .zone && c.zoneId = zoneId && c.category = some category).map ChannelRow.id

/-- The channel, and the tables with it. A lost race finds what the other has created, which
is the first case. -/
def ensureZoneChannel (id : ChannelId) (zoneId : Option String) (category name : String) :
    Except Error (ChannelId × Tables) :=
  match t.findZoneChannel zoneId category with
  | some existing => return (existing, t)
  | none => do
      let t ← okOrElse (t.insertChannel
          { id, channelType := .zone, name := some name, zoneId, category := some category })
        (.new "chat" "zone channel creation raced but no channel was found afterward")
      return (id, t)

/-! ### What a statement leaves -/

variable {t t' : Tables} {c c' : ChannelRow} {m m' : MemberRow} {channel d : ChannelId}
  {account a : AccountId}

theorem isMember_iff : t.isMember channel account = true ↔ ⟨channel, account⟩ ∈ t.members :=
  decide_eq_true_iff

theorem channelType_eq_some {ty : ChannelType} :
    t.channelType channel = some ty ↔
      ∃ c ∈ t.channels, c.id = channel ∧ c.channelType = ty := by
  unfold channelType
  simp only [Option.map_eq_some_iff, Rows.find_eq_some, and_assoc]

theorem mem_deleteMember :
    m ∈ (t.deleteMember d a).members ↔ m ∈ t.members ∧ ¬ (m.channelId = d ∧ m.accountId = a) :=
  Rows.mem_delete.trans (and_congr_right fun _ => by simp)

theorem insertChannel_rows (inserted : t.insertChannel c = some t') :
    t.channels.insert c = some t'.channels ∧ t'.members = t.members := by
  unfold insertChannel at inserted
  split at inserted
  · split at inserted
    · cases inserted
    next channels rows =>
      cases inserted
      exact ⟨rows, rfl⟩
  · cases inserted

theorem insertMember_rows (inserted : t.insertMember m = some t') :
    t.members.insert m = some t'.members ∧ t'.channels = t.channels := by
  unfold insertMember at inserted
  split at inserted
  · split at inserted
    · cases inserted
    next members rows =>
      cases inserted
      exact ⟨rows, rfl⟩
  · cases inserted

theorem accounts_of_insertChannel (inserted : t.insertChannel c = some t') :
    t'.accounts = t.accounts := by
  unfold insertChannel at inserted
  split at inserted
  · split at inserted <;> cases inserted
    rfl
  · cases inserted

theorem accounts_of_insertMember (inserted : t.insertMember m = some t') :
    t'.accounts = t.accounts := by
  unfold insertMember at inserted
  split at inserted
  · split at inserted <;> cases inserted
    rfl
  · cases inserted

theorem insertChannel_isSome :
    (t.insertChannel c).isSome ↔
      (∀ a ∈ c.createdBy, a ∈ t.accounts) ∧ t.channels.find c.id = none := by
  have rows : (t.insertChannel c).isSome ↔
      c.createdBy.all (· ∈ t.accounts) ∧ (t.channels.insert c).isSome := by
    unfold insertChannel
    split
    · split <;> simp_all
    · simp_all
  rw [rows, Rows.insert_isSome, Rows.find_eq_none, Option.all_eq_true]
  simp

theorem insertMember_isSome :
    (t.insertMember m).isSome ↔
      m.accountId ∈ t.accounts ∧ (t.channels.find m.channelId).isSome ∧ m ∉ t.members := by
  have rows : (t.insertMember m).isSome ↔
      (m.accountId ∈ t.accounts ∧ (t.channels.find m.channelId).isSome) ∧
        (t.members.insert m).isSome := by
    unfold insertMember
    split
    · split <;> simp_all
    · simp_all
  have fresh : (∀ m' ∈ t.members, MemberRow.key m' ≠ MemberRow.key m) ↔ m ∉ t.members := by
    refine ⟨fun others here => others m here rfl, fun absent m' here same => absent ?_⟩
    obtain ⟨⟩ := m
    obtain ⟨⟩ := m'
    cases same
    exact here
  rw [rows, Rows.insert_isSome, fresh, and_assoc]

/-- Nobody is a member of a channel before it exists. -/
theorem notMem_of_fresh (inserted : t.insertChannel c = some t') (account : AccountId) :
    ⟨c.id, account⟩ ∉ t.members := by
  intro here
  obtain ⟨c', there, same⟩ := t.references _ here
  exact Rows.fresh_of_insert (insertChannel_rows inserted).1 there same

/-! ### What a successful call has done -/

theorem requireJoinable_ok :
    t.requireJoinable channel = .ok () ↔
      t.channelType channel = some .group ∨ t.channelType channel = some .guild := by
  unfold requireJoinable
  cases t.channelType channel with
  | none => simp [okOrElse, bind, Except.bind]
  | some ty => cases ty <;> simp [okOrElse, bind, Except.bind, pure, Except.pure, throw,
      throwThe, MonadExceptOf.throw]

theorem join_ok (done : t.join channel account = .ok t') :
    t'.channels = t.channels ∧
      ∀ m, m ∈ t'.members ↔ m ∈ t.members ∨ m = ⟨channel, account⟩ := by
  simp only [join, then_ok] at done
  obtain ⟨-, done⟩ := done
  split at done
  next member =>
    cases done
    refine ⟨rfl, fun m => (or_iff_left_of_imp ?_).symm⟩
    rintro rfl
    exact isMember_iff.mp member
  · obtain ⟨rows, channels⟩ := insertMember_rows (okOrElse_ok.mp done)
    exact ⟨channels, fun m => Rows.mem_insert rows⟩

theorem leave_ok (done : t.leave channel account = .ok t') :
    t' = t.deleteMember channel account := by
  simp only [leave, then_ok] at done
  obtain ⟨-, done⟩ := done
  cases done
  rfl

theorem join_accounts (done : t.join channel account = .ok t') : t'.accounts = t.accounts := by
  simp only [join, then_ok] at done
  obtain ⟨-, done⟩ := done
  split at done
  · cases done
    rfl
  · exact accounts_of_insertMember (okOrElse_ok.mp done)

/-- Whoever has an account can be put into a guild's channel. -/
theorem exists_join (guild : t.channelType channel = some .guild) (known : account ∈ t.accounts) :
    ∃ t', t.join channel account = .ok t' := by
  have joinable : t.requireJoinable channel = .ok () := requireJoinable_ok.mpr (.inr guild)
  by_cases member : t.isMember channel account = true
  · exact ⟨t, by simp [join, joinable, member, pure, Except.pure, bind, Except.bind]⟩
  · obtain ⟨c, there, rfl, -⟩ := channelType_eq_some.mp guild
    have found : (t.channels.find c.id).isSome := by
      rw [Rows.find_eq_some.mpr ⟨there, rfl⟩]
      rfl
    obtain ⟨t', inserted⟩ := Option.isSome_iff_exists.mp
      (insertMember_isSome.mpr ⟨known, found, fun here => member (isMember_iff.mpr here)⟩)
    exact ⟨t', by simp [join, joinable, member, inserted, okOrElse, bind, Except.bind]⟩

theorem leave_of_guild (guild : t.channelType channel = some .guild) :
    t.leave channel account = .ok (t.deleteMember channel account) := by
  have joinable : t.requireJoinable channel = .ok () := requireJoinable_ok.mpr (.inr guild)
  simp [leave, joinable, pure, Except.pure, bind, Except.bind]

theorem createNamed_ok {id : ChannelId} {ty : ChannelType} {creator : AccountId} {name : String}
    (done : t.createNamed id ty creator name = .ok t') :
    t.channels.insert ⟨id, ty, some name, none, none, some creator⟩ = some t'.channels ∧
      (∀ account, ⟨id, account⟩ ∉ t.members) ∧
      ∀ m, m ∈ t'.members ↔ m ∈ t.members ∨ m = ⟨id, creator⟩ := by
  simp only [createNamed, bind_ok, ensure_ok, exists_const, okOrElse_ok] at done
  obtain ⟨-, t₁, created, joined⟩ := done
  obtain ⟨channel_rows, members⟩ := insertChannel_rows created
  obtain ⟨member_rows, channels⟩ := insertMember_rows joined
  rw [channels]
  refine ⟨channel_rows, notMem_of_fresh created, fun m => ?_⟩
  rw [Rows.mem_insert member_rows, members]

theorem createNamed_accounts {id : ChannelId} {ty : ChannelType} {creator : AccountId}
    {name : String} (done : t.createNamed id ty creator name = .ok t') :
    t'.accounts = t.accounts := by
  simp only [createNamed, bind_ok, ensure_ok, exists_const, okOrElse_ok] at done
  obtain ⟨-, t₁, created, joined⟩ := done
  rw [accounts_of_insertMember joined, accounts_of_insertChannel created]

/-- A channel can be created by whoever has an account, under a name that is not blank. -/
theorem exists_createNamed {id : ChannelId} {ty : ChannelType} {creator : AccountId}
    {name : String} :
    (∃ t', t.createNamed id ty creator name = .ok t') ↔
      isBlank name = false ∧ creator ∈ t.accounts ∧ t.channels.find id = none := by
  simp only [createNamed, bind_ok, ensure_ok, exists_const, okOrElse_ok, Bool.not_eq_true']
  constructor
  · rintro ⟨t', named, t₁, created, joined⟩
    obtain ⟨known, fresh⟩ := insertChannel_isSome.mp (Option.isSome_iff_exists.mpr ⟨_, created⟩)
    exact ⟨named, known creator rfl, fresh⟩
  · rintro ⟨named, known, fresh⟩
    have creatable : (t.insertChannel ⟨id, ty, some name, none, none, some creator⟩).isSome :=
      insertChannel_isSome.mpr ⟨fun a same => Option.some.inj same ▸ known, fresh⟩
    obtain ⟨t₁, created⟩ := Option.isSome_iff_exists.mp creatable
    obtain ⟨rows, members⟩ := insertChannel_rows created
    have found : (t₁.channels.find id).isSome := by
      rw [Rows.find_eq_some.mpr ⟨(Rows.mem_insert rows).mpr (.inr rfl), rfl⟩]
      rfl
    have joinable : (t₁.insertMember ⟨id, creator⟩).isSome :=
      insertMember_isSome.mpr ⟨accounts_of_insertChannel created ▸ known, found,
        members ▸ notMem_of_fresh created creator⟩
    obtain ⟨t', joined⟩ := Option.isSome_iff_exists.mp joinable
    exact ⟨t', named, t₁, created, joined⟩

/-! ### What a call keeps -/

/-- Every channel stays, and every member but the one who is taken out. -/
structure Extends (out : Option MemberRow) (t t' : Tables) : Prop where
  channels : ∀ c ∈ t.channels, c ∈ t'.channels
  members : ∀ m ∈ t.members, some m ≠ out → m ∈ t'.members

variable {t'' : Tables} {out : Option MemberRow}

theorem Extends.refl (t : Tables) : Extends out t t := ⟨fun _ here => here, fun _ here _ => here⟩

theorem Extends.trans (first : Extends out t t') (then_ : Extends out t' t'') :
    Extends out t t'' where
  channels c here := then_.channels c (first.channels c here)
  members m here stays := then_.members m (first.members m here stays) stays

theorem Extends.channelType {ty : ChannelType} (h : Extends out t t')
    (here : t.channelType channel = some ty) : t'.channelType channel = some ty := by
  obtain ⟨c, there, named⟩ := channelType_eq_some.mp here
  exact channelType_eq_some.mpr ⟨c, h.channels c there, named⟩

theorem insertChannel_extends (inserted : t.insertChannel c = some t') : Extends out t t' := by
  obtain ⟨rows, members⟩ := insertChannel_rows inserted
  exact ⟨fun c' here => (Rows.mem_insert rows).mpr (.inl here), fun m here _ => members ▸ here⟩

theorem insertMember_extends (inserted : t.insertMember m = some t') : Extends out t t' := by
  obtain ⟨rows, channels⟩ := insertMember_rows inserted
  exact ⟨fun c here => channels ▸ here, fun m' here _ => (Rows.mem_insert rows).mpr (.inl here)⟩

theorem join_extends (done : t.join channel account = .ok t') : Extends out t t' := by
  obtain ⟨channels, members⟩ := join_ok done
  exact ⟨fun c here => channels ▸ here, fun m here _ => (members m).mpr (.inl here)⟩

theorem leave_extends (done : t.leave channel account = .ok t') :
    Extends (some ⟨channel, account⟩) t t' := by
  rw [leave_ok done]
  refine ⟨fun c here => here, fun m here stays => mem_deleteMember.mpr ⟨here, ?_⟩⟩
  rintro ⟨rfl, rfl⟩
  exact stays rfl

theorem createNamed_extends {id : ChannelId} {ty : ChannelType} {creator : AccountId}
    {name : String} (done : t.createNamed id ty creator name = .ok t') : Extends out t t' := by
  simp only [createNamed, bind_ok, ensure_ok, exists_const, okOrElse_ok] at done
  obtain ⟨-, t₁, created, joined⟩ := done
  exact (insertChannel_extends created).trans (insertMember_extends joined)

theorem createDirect_extends {id : ChannelId} {b : AccountId}
    (done : t.createDirect id a b = .ok t') : Extends out t t' := by
  unfold createDirect at done
  split at done
  · cases done
    exact .refl t
  · simp only [bind_ok, okOrElse_ok] at done
    obtain ⟨t₁, created, t₂, first, second⟩ := done
    exact ((insertChannel_extends created).trans (insertMember_extends first)).trans
      (insertMember_extends second)

theorem ensureZoneChannel_extends {id id' : ChannelId} {zoneId : Option String}
    {category name : String} (done : t.ensureZoneChannel id zoneId category name = .ok (id', t')) :
    Extends out t t' := by
  unfold ensureZoneChannel at done
  split at done
  · cases done
    exact .refl t
  · simp only [bind_ok, okOrElse_ok] at done
    obtain ⟨t₁, created, returned⟩ := done
    cases returned
    exact insertChannel_extends created

end Tables

end WorldZero.Chat
