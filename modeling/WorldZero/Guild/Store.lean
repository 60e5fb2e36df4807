import Mathlib.Data.Finset.Basic
import WorldZero.Guild.Schema
import WorldZero.Sql.Rows
import WorldZero.Validation

/-!
# The guild store

`guilds` and `guild_members` with their constraints, and the calls of `GuildStore`
that change them. A call is a function of the tables; one that fails returns no
tables, which is the rollback of its transaction.
-/

namespace WorldZero.Guild

open Sql Validation

structure GuildRow where
  id : GuildId
  name : String
  realmId : RealmId
  chatChannelId : Option ChannelId

structure MemberRow where
  guildId : GuildId
  accountId : AccountId
  rankKey : String
  deriving DecidableEq

/-- An account is in one guild at most, and a member's guild exists. -/
structure Tables where
  realms : Finset RealmId
  accounts : Finset AccountId
  guilds : Rows GuildRow.id
  members : Rows MemberRow.accountId
  references : ∀ m ∈ members, ∃ g ∈ guilds, g.id = m.guildId

namespace Tables

variable (t : Tables)

/-- The guild tables are empty. -/
def empty (realms : Finset RealmId) (accounts : Finset AccountId) : Tables where
  realms
  accounts
  guilds := .empty _
  members := .empty _
  references m here := absurd here (Rows.notMem_empty m)

/-- `INSERT INTO guilds`, under the primary key and the reference to the realm. -/
def insertGuild (g : GuildRow) : Option Tables :=
  if g.realmId ∈ t.realms then
    match inserted : t.guilds.insert g with
    | none => none
    | some guilds =>
        some { t with
          guilds
          references := fun m here => by
            obtain ⟨g', there, same⟩ := t.references m here
            exact ⟨g', (Rows.mem_insert inserted).mpr (.inl there), same⟩ }
  else none

/-- `INSERT INTO guild_members`, under the unique index and the two references. -/
def insertMember (m : MemberRow) : Option Tables :=
  if referenced : m.accountId ∈ t.accounts ∧ (t.guilds.find m.guildId).isSome then
    match inserted : t.members.insert m with
    | none => none
    | some members =>
        some { t with
          members
          references := fun m' here => by
            obtain there | rfl := (Rows.mem_insert inserted).mp here
            · exact t.references m' there
            · obtain ⟨g, found⟩ := Option.isSome_iff_exists.mp referenced.2
              exact ⟨g, Rows.find_eq_some.mp found⟩ }
  else none

/-- `DELETE FROM guilds WHERE id = $1`, which cascades to the members. -/
def deleteGuild (guildId : GuildId) : Tables where
  realms := t.realms
  accounts := t.accounts
  guilds := t.guilds.delete fun g => g.id = guildId
  members := t.members.delete fun m => m.guildId = guildId
  references m here := by
    obtain ⟨before, other⟩ := Rows.mem_delete.mp here
    obtain ⟨g, there, same⟩ := t.references m before
    refine ⟨g, Rows.mem_delete.mpr ⟨there, ?_⟩, same⟩
    rw [same]
    exact other

/-- `DELETE FROM guild_members WHERE guild_id = $1 AND account_id = $2`. -/
def deleteMember (guildId : GuildId) (accountId : AccountId) : Tables :=
  { t with
    members := t.members.delete fun m => m.guildId = guildId && m.accountId = accountId
    references := fun m here => t.references m (Rows.mem_delete.mp here).1 }

/-- `UPDATE guild_members SET rank_key = $1 WHERE guild_id = $2 AND account_id = $3`. -/
def updateRank (rankKey : String) (guildId : GuildId) (accountId : AccountId) : Tables :=
  { t with
    members :=
      t.members.update (fun m => m.guildId = guildId && m.accountId = accountId)
        (fun m => { m with rankKey }) fun _ => rfl
    references := fun m here => by
      obtain ⟨old, there, rfl⟩ := (Rows.mem_update (by intro; rfl)).mp here
      split
      all_goals exact t.references old there }

def membership (accountId : AccountId) : Option (GuildId × String) :=
  (t.members.find accountId).map fun m => (m.guildId, m.rankKey)

def guildOf (accountId : AccountId) : Option GuildId := (t.membership accountId).map Prod.fst

end Tables

/-- The store, as far as its calls depend on it. -/
structure GuildStore where
  schema : GuildSchema

namespace GuildStore

variable (store : GuildStore) (t : Tables)

/-- `id` is the fresh identifier of the guild. -/
def create (id : GuildId) (founder : AccountId) (name : String) (realmId : RealmId)
    (chatChannelId : Option ChannelId) : Except Error Tables := do
  ensure (!isBlank name) (.new "guild" "guild name must not be empty")
  ensure (t.guildOf founder).isNone (.new "guild" "account is already in a guild")
  let t ← okOrElse (t.insertGuild { id, name, realmId, chatChannelId })
    (.wrap "guild" "failed to create guild")
  okOrElse (t.insertMember
      { guildId := id, accountId := founder, rankKey := store.schema.founderRank.key })
    (.wrap "guild" "failed to add founder to new guild")

def acceptInvite (inviter invitee : AccountId) : Except Error Tables := do
  ensure (inviter ≠ invitee) (.new "guild" "an account cannot invite itself")
  ensure (t.guildOf invitee).isNone (.new "guild" "invitee is already in a guild")
  let (guildId, inviterRankKey) ←
    okOrElse (t.membership inviter) (.new "guild" "inviter is not in a guild")
  let inviterRank ← store.schema.resolve inviterRankKey
  ensure (inviterRank.has .invite)
    (.new "guild" "inviter's rank does not have permission to invite")
  okOrElse (t.insertMember
      { guildId, accountId := invitee, rankKey := store.schema.defaultMemberRank.key })
    (.wrap "guild" "failed to add invitee to guild")

def kick (actor target : AccountId) : Except Error Tables := do
  let (guildId, actorRankKey) ←
    okOrElse (t.membership actor) (.new "guild" "actor is not in a guild")
  let actorRank ← store.schema.resolve actorRankKey
  ensure (actorRank.has .kick) (.new "guild" "actor's rank does not have permission to kick")
  let (targetGuildId, targetRankKey) ←
    okOrElse (t.membership target) (.new "guild" "target is not in a guild")
  ensure (targetGuildId = guildId) (.new "guild" "target is not in actor's guild")
  ensure (!store.schema.isFounderRank targetRankKey)
    (.new "guild" "cannot kick a member at the founder rank")
  return t.deleteMember guildId target

/-- Shared by `promote` and `demote`. -/
def changeRank (actor target : AccountId) (newRankKey : String)
    (requiredPermission : GuildPermission) : Except Error Tables := do
  let newRank ← store.schema.resolve newRankKey
  let (guildId, actorRankKey) ←
    okOrElse (t.membership actor) (.new "guild" "actor is not in a guild")
  let actorRank ← store.schema.resolve actorRankKey
  ensure (actorRank.has requiredPermission) (.new "guild"
    s!"actor's rank does not have permission to {requiredPermission.debug}")
  let (targetGuildId, targetRankKey) ←
    okOrElse (t.membership target) (.new "guild" "target is not in a guild")
  ensure (targetGuildId = guildId) (.new "guild" "target is not in actor's guild")
  let movesFounderRank :=
    store.schema.isFounderRank newRankKey || store.schema.isFounderRank targetRankKey
  ensure (!(movesFounderRank && !store.schema.isFounderRank actorRankKey)) (.new "guild"
    "only a founder-rank member may promote or demote into or out of the founder rank")
  return t.updateRank newRank.key guildId target

def promote (actor target : AccountId) (newRankKey : String) : Except Error Tables :=
  store.changeRank t actor target newRankKey .promote

def demote (actor target : AccountId) (newRankKey : String) : Except Error Tables :=
  store.changeRank t actor target newRankKey .demote

def leave (accountId : AccountId) : Except Error Tables := do
  let (guildId, rankKey) ←
    okOrElse (t.membership accountId) (.new "guild" "account is not in a guild")
  if store.schema.isFounderRank rankKey then
    let others := t.members.count fun m => m.guildId = guildId && m.accountId ≠ accountId
    ensure (others = 0) (.new "guild"
      ("a founder-rank member must transfer leadership or disband before leaving a guild with " ++
        "other members"))
    return t.deleteGuild guildId
  else return t.deleteMember guildId accountId

def disband (requestedBy : AccountId) : Except Error Tables := do
  let (guildId, rankKey) ←
    okOrElse (t.membership requestedBy) (.new "guild" "account is not in a guild")
  ensure (store.schema.isFounderRank rankKey)
    (.new "guild" "only a founder-rank member may disband a guild")
  return t.deleteGuild guildId

end GuildStore

/-! ### What a statement leaves -/

namespace Tables

variable {t t' : Tables} {g d : GuildId} {a x : AccountId} {k r : String} {m m' : MemberRow}

/-- An account has one row. -/
theorem eq_of_accountId (here : m ∈ t.members) (here' : m' ∈ t.members)
    (same : m.accountId = m'.accountId) : m = m' :=
  Rows.eq_of_key here here' same

theorem membership_eq_some : t.membership a = some (g, k) ↔ ⟨g, a, k⟩ ∈ t.members := by
  unfold membership
  rw [Option.map_eq_some_iff]
  constructor
  · rintro ⟨m, found, same⟩
    obtain ⟨here, rfl⟩ := Rows.find_eq_some.mp found
    cases same
    exact here
  · intro here
    exact ⟨_, Rows.find_eq_some.mpr ⟨here, rfl⟩, rfl⟩

theorem mem_deleteGuild : m ∈ (t.deleteGuild d).members ↔ m ∈ t.members ∧ m.guildId ≠ d :=
  Rows.mem_delete.trans (and_congr_right fun _ => by simp)

theorem guild_mem_deleteGuild {row : GuildRow} :
    row ∈ (t.deleteGuild d).guilds ↔ row ∈ t.guilds ∧ row.id ≠ d :=
  Rows.mem_delete.trans (and_congr_right fun _ => by simp)

theorem mem_deleteMember :
    m ∈ (t.deleteMember d x).members ↔ m ∈ t.members ∧ ¬ (m.guildId = d ∧ m.accountId = x) :=
  Rows.mem_delete.trans (and_congr_right fun _ => by simp)

theorem mem_updateRank :
    m ∈ (t.updateRank r d x).members ↔
      ∃ old ∈ t.members,
        m = if old.guildId = d && old.accountId = x then { old with rankKey := r } else old := by
  exact Rows.mem_update (by intro; rfl)

/-- Another member's row is as it was. -/
theorem mem_updateRank_of_ne (other : a ≠ x) :
    ⟨g, a, k⟩ ∈ (t.updateRank r d x).members ↔ ⟨g, a, k⟩ ∈ t.members := by
  constructor
  · intro here
    obtain ⟨old, there, same⟩ := mem_updateRank.mp here
    split at same
    next named =>
      simp only [Bool.and_eq_true, decide_eq_true_eq] at named
      rw [MemberRow.mk.injEq] at same
      exact absurd (same.2.1.trans named.2) other
    · exact same ▸ there
  · intro here
    refine mem_updateRank.mpr ⟨_, here, ?_⟩
    simp [other]

/-- Another guild's rows are as they were. -/
theorem mem_updateRank_of_guild_ne (other : g ≠ d) :
    ⟨g, a, k⟩ ∈ (t.updateRank r d x).members ↔ ⟨g, a, k⟩ ∈ t.members := by
  constructor
  · intro here
    obtain ⟨old, there, same⟩ := mem_updateRank.mp here
    split at same
    next named =>
      simp only [Bool.and_eq_true, decide_eq_true_eq] at named
      rw [MemberRow.mk.injEq] at same
      exact absurd (same.1.trans named.1) other
    · exact same ▸ there
  · intro here
    refine mem_updateRank.mpr ⟨_, here, ?_⟩
    simp [other]

/-- The member named by an update has the new rank. -/
theorem mem_updateRank_self (here : ⟨d, x, k⟩ ∈ t.members) {k' : String} :
    ⟨g, x, k'⟩ ∈ (t.updateRank r d x).members ↔ g = d ∧ k' = r := by
  constructor
  · intro there
    obtain ⟨old, before, same⟩ := mem_updateRank.mp there
    have account : old.accountId = x := by
      split at same <;> rw [← congrArg MemberRow.accountId same]
    cases eq_of_accountId before here account
    simp only [decide_true, Bool.and_self, if_true, MemberRow.mk.injEq, true_and] at same
    exact same
  · rintro ⟨rfl, rfl⟩
    refine mem_updateRank.mpr ⟨_, here, ?_⟩
    simp

/-- An insertion goes to its own table, under the key of the table. -/
theorem insertMember_rows (inserted : t.insertMember m = some t') :
    t.members.insert m = some t'.members ∧ t'.guilds = t.guilds := by
  unfold insertMember at inserted
  split at inserted
  · split at inserted
    · cases inserted
    next members rows =>
      cases inserted
      exact ⟨rows, rfl⟩
  · cases inserted

theorem insertGuild_rows {row : GuildRow} (inserted : t.insertGuild row = some t') :
    t.guilds.insert row = some t'.guilds ∧ t'.members = t.members := by
  unfold insertGuild at inserted
  split at inserted
  · split at inserted
    · cases inserted
    next guilds rows =>
      cases inserted
      exact ⟨rows, rfl⟩
  · cases inserted

theorem accounts_of_insertMember (inserted : t.insertMember m = some t') :
    t'.accounts = t.accounts ∧ m.accountId ∈ t.accounts := by
  unfold insertMember at inserted
  split at inserted
  next referenced =>
    split at inserted
    · cases inserted
    · cases inserted
      exact ⟨rfl, referenced.1⟩
  · cases inserted

theorem accounts_of_insertGuild {row : GuildRow} (inserted : t.insertGuild row = some t') :
    t'.accounts = t.accounts := by
  unfold insertGuild at inserted
  split at inserted
  · split at inserted <;> cases inserted
    rfl
  · cases inserted

theorem insertGuild_isSome {row : GuildRow} :
    (t.insertGuild row).isSome ↔ row.realmId ∈ t.realms ∧ t.guilds.find row.id = none := by
  have rows : (t.insertGuild row).isSome ↔
      row.realmId ∈ t.realms ∧ (t.guilds.insert row).isSome := by
    unfold insertGuild
    split
    · split <;> simp_all
    · simp_all
  rw [rows, Rows.insert_isSome, Rows.find_eq_none]

theorem insertMember_isSome :
    (t.insertMember m).isSome ↔
      m.accountId ∈ t.accounts ∧ (t.guilds.find m.guildId).isSome ∧
        t.members.find m.accountId = none := by
  have rows : (t.insertMember m).isSome ↔
      (m.accountId ∈ t.accounts ∧ (t.guilds.find m.guildId).isSome) ∧
        (t.members.insert m).isSome := by
    unfold insertMember
    split
    · split <;> simp_all
    · simp_all
  rw [rows, Rows.insert_isSome, Rows.find_eq_none, and_assoc]

theorem mem_insertMember (inserted : t.insertMember m = some t') :
    m' ∈ t'.members ↔ m' ∈ t.members ∨ m' = m :=
  Rows.mem_insert (insertMember_rows inserted).1

theorem fresh_of_insertMember (inserted : t.insertMember m = some t') (here : m' ∈ t.members) :
    m'.accountId ≠ m.accountId :=
  Rows.fresh_of_insert (insertMember_rows inserted).1 here

theorem guilds_of_insertMember (inserted : t.insertMember m = some t') : t'.guilds = t.guilds :=
  (insertMember_rows inserted).2

theorem guild_mem_insertGuild {row row' : GuildRow} (inserted : t.insertGuild row = some t') :
    row' ∈ t'.guilds ↔ row' ∈ t.guilds ∨ row' = row :=
  Rows.mem_insert (insertGuild_rows inserted).1

theorem guild_fresh_of_insertGuild {row row' : GuildRow} (inserted : t.insertGuild row = some t')
    (here : row' ∈ t.guilds) : row'.id ≠ row.id :=
  Rows.fresh_of_insert (insertGuild_rows inserted).1 here

theorem members_of_insertGuild {row : GuildRow} (inserted : t.insertGuild row = some t') :
    t'.members = t.members :=
  (insertGuild_rows inserted).2

end Tables

/-! ### What a successful call has checked and done -/

namespace GuildStore

variable {store : GuildStore} {t t' : Tables} {actor target : AccountId}

theorem create_ok {id : GuildId} {founder : AccountId} {name : String} {realmId : RealmId}
    {chatChannelId : Option ChannelId}
    (h : store.create t id founder name realmId chatChannelId = .ok t') :
    ∃ t₁, t.insertGuild ⟨id, name, realmId, chatChannelId⟩ = some t₁ ∧
      t₁.insertMember ⟨id, founder, store.schema.founderRank.key⟩ = some t' := by
  simp only [create, bind_ok, ensure_ok, exists_const, okOrElse_ok] at h
  exact h.2.2

theorem exists_create {id : GuildId} {founder : AccountId} {name : String} {realmId : RealmId}
    {chatChannelId : Option ChannelId} :
    (∃ t', store.create t id founder name realmId chatChannelId = .ok t') ↔
      isBlank name = false ∧ t.guildOf founder = none ∧ realmId ∈ t.realms ∧
        t.guilds.find id = none ∧ founder ∈ t.accounts := by
  simp only [create, bind_ok, ensure_ok, exists_const, okOrElse_ok, Bool.not_eq_true',
    Option.isNone_iff_eq_none]
  constructor
  · rintro ⟨t', named, free, t₁, created, joined⟩
    obtain ⟨realm, fresh⟩ :=
      Tables.insertGuild_isSome.mp (Option.isSome_iff_exists.mpr ⟨_, created⟩)
    have known := (Tables.accounts_of_insertMember joined).2
    rw [Tables.accounts_of_insertGuild created] at known
    exact ⟨named, free, realm, fresh, known⟩
  · rintro ⟨named, free, realm, fresh, known⟩
    have creatable : (t.insertGuild ⟨id, name, realmId, chatChannelId⟩).isSome :=
      Tables.insertGuild_isSome.mpr ⟨realm, fresh⟩
    obtain ⟨t₁, created⟩ := Option.isSome_iff_exists.mp creatable
    have found : (t₁.guilds.find id).isSome := by
      rw [Rows.find_eq_some.mpr ⟨(Tables.guild_mem_insertGuild created).mpr (.inr rfl), rfl⟩]
      rfl
    have alone : t₁.members.find founder = none := by
      rw [Tables.members_of_insertGuild created]
      simpa [Tables.guildOf, Tables.membership] using free
    have joinable : (t₁.insertMember ⟨id, founder, store.schema.founderRank.key⟩).isSome :=
      Tables.insertMember_isSome.mpr
        ⟨Tables.accounts_of_insertGuild created ▸ known, found, alone⟩
    obtain ⟨t', joined⟩ := Option.isSome_iff_exists.mp joinable
    exact ⟨t', named, free, t₁, created, joined⟩

theorem acceptInvite_ok {inviter invitee : AccountId}
    (h : store.acceptInvite t inviter invitee = .ok t') :
    ∃ g k rank, ⟨g, inviter, k⟩ ∈ t.members ∧ store.schema.resolve k = .ok rank ∧
      rank.has .invite = true ∧
      t.insertMember ⟨g, invitee, store.schema.defaultMemberRank.key⟩ = some t' := by
  simp only [acceptInvite, bind_ok, exists_const, okOrElse_ok, ensure_ok, Prod.exists] at h
  obtain ⟨-, -, g, k, member, rank, resolved, permitted, inserted⟩ := h
  exact ⟨g, k, rank, Tables.membership_eq_some.mp member, resolved, permitted, inserted⟩

theorem kick_ok (h : store.kick t actor target = .ok t') :
    ∃ g k k', ⟨g, actor, k⟩ ∈ t.members ∧ ⟨g, target, k'⟩ ∈ t.members ∧
      k' ≠ store.schema.founderRank.key ∧ t' = t.deleteMember g target := by
  simp only [kick, bind_ok, exists_const, okOrElse_ok, ensure_ok, Prod.exists,
    decide_eq_true_eq] at h
  obtain ⟨g, k, member, rank, -, -, g', k', targeted, rfl, guarded, done⟩ := h
  refine ⟨g', k, k', Tables.membership_eq_some.mp member, Tables.membership_eq_some.mp targeted,
    fun founder => ?_, ?_⟩
  · rw [GuildSchema.isFounderRank_iff.mpr founder] at guarded
    cases guarded
  · cases done
    rfl

/-- A rank is changed exactly when the actor's rank permits it and the founder rank is
moved by a founder only. -/
theorem changeRank_ok {newRankKey : String} {permission : GuildPermission} :
    store.changeRank t actor target newRankKey permission = .ok t' ↔
      ∃ newRank g k k' rank, store.schema.resolve newRankKey = .ok newRank ∧
        ⟨g, actor, k⟩ ∈ t.members ∧ store.schema.resolve k = .ok rank ∧
        rank.has permission = true ∧ ⟨g, target, k'⟩ ∈ t.members ∧
        (newRankKey = store.schema.founderRank.key ∨ k' = store.schema.founderRank.key →
          k = store.schema.founderRank.key) ∧
        t' = t.updateRank newRank.key g target := by
  simp only [changeRank, bind_ok, exists_const, okOrElse_ok, ensure_ok, Prod.exists,
    decide_eq_true_eq,
    Tables.membership_eq_some]
  constructor
  · rintro ⟨newRank, declared, g, k, member, rank, resolved, permitted, g', k', targeted, rfl,
      guarded, done⟩
    refine ⟨newRank, g', k, k', rank, declared, member, resolved, permitted, targeted,
      fun moves => ?_,
      ?_⟩
    · by_contra other
      have moved :
          (store.schema.isFounderRank newRankKey || store.schema.isFounderRank k') = true := by
        rw [Bool.or_eq_true, GuildSchema.isFounderRank_iff, GuildSchema.isFounderRank_iff]
        exact moves
      have below : store.schema.isFounderRank k = false := by
        rw [Bool.eq_false_iff]
        exact fun founder => other (GuildSchema.isFounderRank_iff.mp founder)
      rw [moved, below] at guarded
      cases guarded
    · cases done
      rfl
  · rintro ⟨newRank, g, k, k', rank, declared, member, resolved, permitted, targeted, guarded, rfl⟩
    refine ⟨newRank, declared, g, k, member, rank, resolved, permitted, g, k', targeted, rfl, ?_,
      rfl⟩
    rw [Bool.not_eq_true', Bool.and_eq_false_iff, Bool.not_eq_false', Bool.or_eq_false_iff]
    by_cases moves : newRankKey = store.schema.founderRank.key ∨ k' = store.schema.founderRank.key
    · exact .inr (GuildSchema.isFounderRank_iff.mpr (guarded moves))
    · rw [not_or] at moves
      simp only [Bool.eq_false_iff, ne_eq, GuildSchema.isFounderRank_iff]
      exact .inl moves

theorem leave_ok {accountId : AccountId} (h : store.leave t accountId = .ok t') :
    ∃ g k, ⟨g, accountId, k⟩ ∈ t.members ∧
      (k = store.schema.founderRank.key ∧ t' = t.deleteGuild g ∧
          (∀ m ∈ t.members, m.guildId = g → m.accountId = accountId) ∨
        k ≠ store.schema.founderRank.key ∧ t' = t.deleteMember g accountId) := by
  simp only [leave, bind_ok, okOrElse_ok, Prod.exists, Tables.membership_eq_some] at h
  obtain ⟨g, k, member, h⟩ := h
  refine ⟨g, k, member, ?_⟩
  split at h
  next founder =>
    simp only [bind_ok, exists_const, ensure_ok, decide_eq_true_eq, Rows.count_eq_zero] at h
    obtain ⟨alone, done⟩ := h
    cases done
    refine .inl ⟨GuildSchema.isFounderRank_iff.mp founder, rfl, fun m here same => ?_⟩
    simpa [same] using alone m here
  next other =>
    cases h
    exact .inr ⟨fun founder => other (GuildSchema.isFounderRank_iff.mpr founder), rfl⟩

theorem disband_ok {requestedBy : AccountId} (h : store.disband t requestedBy = .ok t') :
    ∃ g, ⟨g, requestedBy, store.schema.founderRank.key⟩ ∈ t.members ∧ t' = t.deleteGuild g := by
  simp only [disband, bind_ok, exists_const, okOrElse_ok, ensure_ok, Prod.exists,
    Tables.membership_eq_some, GuildSchema.isFounderRank_iff] at h
  obtain ⟨g, k, member, rfl, done⟩ := h
  cases done
  exact ⟨g, member, rfl⟩

end GuildStore

end WorldZero.Guild
