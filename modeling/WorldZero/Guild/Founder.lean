import WorldZero.Guild.Store
import WorldZero.Transition

/-!
# Founders and ranks over runs

The calls of the guild store one after the other, by any accounts. Every guild keeps a
founder as long as no sole founder gives up the founder rank, and only a founder of a
guild changes who its founders are. `promote` and `demote` move a rank either way.
-/

namespace WorldZero.Guild

open Validation

inductive GuildOp where
  | create (id : GuildId) (founder : AccountId) (name : String) (realmId : RealmId)
      (chatChannelId : Option ChannelId)
  | acceptInvite (inviter invitee : AccountId)
  | kick (actor target : AccountId)
  | promote (actor target : AccountId) (newRankKey : String)
  | demote (actor target : AccountId) (newRankKey : String)
  | leave (accountId : AccountId)
  | disband (requestedBy : AccountId)

/-- The acting account; an invitation is the inviter's. -/
def GuildOp.actor : GuildOp → AccountId
  | .create _ founder _ _ _ => founder
  | .acceptInvite inviter _ => inviter
  | .kick actor _ | .promote actor _ _ | .demote actor _ _ => actor
  | .leave accountId => accountId
  | .disband requestedBy => requestedBy

/-- The guild that the call creates. -/
def GuildOp.creates : GuildOp → Option GuildId
  | .create id _ _ _ _ => some id
  | _ => none

def GuildStore.perform (store : GuildStore) (t : Tables) : GuildOp → Except Error Tables
  | .create id founder name realmId chatChannelId =>
      store.create t id founder name realmId chatChannelId
  | .acceptInvite inviter invitee => store.acceptInvite t inviter invitee
  | .kick actor target => store.kick t actor target
  | .promote actor target newRankKey => store.promote t actor target newRankKey
  | .demote actor target newRankKey => store.demote t actor target newRankKey
  | .leave accountId => store.leave t accountId
  | .disband requestedBy => store.disband t requestedBy

/-- The tables after the call; a call that fails leaves them. -/
def GuildStore.after (store : GuildStore) (t : Tables) (op : GuildOp) : Tables :=
  match store.perform t op with
  | .ok t' => t'
  | .error _ => t

def step (store : GuildStore) (t : Tables) (op : GuildOp) : Option Tables := some (store.after t op)

variable {store : GuildStore} {t t' : Tables} {op : GuildOp} {g : GuildId} {a : AccountId}
  {k k' : String}

/-- A call either fails, or has done its work. -/
@[elab_as_elim]
theorem GuildStore.after_induction {motive : Tables → Prop} (failed : motive t)
    (done : ∀ t', store.perform t op = .ok t' → motive t') : motive (store.after t op) := by
  unfold GuildStore.after
  split
  next t' result => exact done t' result
  · exact failed

/-! ### Every guild has a founder -/

/-- The guild has a member at the founder rank. -/
def Founded (schema : GuildSchema) (t : Tables) : Prop :=
  ∀ row ∈ t.guilds, ∃ a, ⟨row.id, a, schema.founderRank.key⟩ ∈ t.members

/-- The account is the only founder of its guild. -/
def SoleFounder (schema : GuildSchema) (t : Tables) (a : AccountId) : Prop :=
  ∃ g, ⟨g, a, schema.founderRank.key⟩ ∈ t.members ∧
    ∀ a', ⟨g, a', schema.founderRank.key⟩ ∈ t.members → a' = a

/-- A sole founder is permitted to move itself to another declared rank. -/
structure Abdicates (schema : GuildSchema) (t : Tables) (actor target : AccountId)
    (newRankKey : String) (permission : GuildPermission) : Prop where
  itself : actor = target
  sole : SoleFounder schema t actor
  declared : ∃ rank ∈ schema.ranks, rank.key = newRankKey
  other : newRankKey ≠ schema.founderRank.key
  permitted : schema.founderRank.has permission = true

/-- The call is a promotion or a demotion by which a sole founder abdicates. -/
def StepsDown (schema : GuildSchema) (t : Tables) : GuildOp → Prop
  | .promote actor target newRankKey => Abdicates schema t actor target newRankKey .promote
  | .demote actor target newRankKey => Abdicates schema t actor target newRankKey .demote
  | _ => False

theorem founded_create {id : GuildId} {founder : AccountId} {name : String} {realmId : RealmId}
    {chatChannelId : Option ChannelId} (h : Founded store.schema t)
    (done : store.create t id founder name realmId chatChannelId = .ok t') :
    Founded store.schema t' := by
  obtain ⟨t₁, created, joined⟩ := GuildStore.create_ok done
  intro row here
  rw [Tables.guilds_of_insertMember joined, Tables.guild_mem_insertGuild created] at here
  obtain before | rfl := here
  · obtain ⟨a, member⟩ := h row before
    refine ⟨a, (Tables.mem_insertMember joined).mpr (.inl ?_)⟩
    rwa [Tables.members_of_insertGuild created]
  · exact ⟨founder, (Tables.mem_insertMember joined).mpr (.inr rfl)⟩

theorem founded_acceptInvite {inviter invitee : AccountId} (h : Founded store.schema t)
    (done : store.acceptInvite t inviter invitee = .ok t') : Founded store.schema t' := by
  obtain ⟨g, k, rank, -, -, -, joined⟩ := GuildStore.acceptInvite_ok done
  intro row here
  rw [Tables.guilds_of_insertMember joined] at here
  obtain ⟨a, member⟩ := h row here
  exact ⟨a, (Tables.mem_insertMember joined).mpr (.inl member)⟩

/-- Nobody but a founder is taken out of a guild that stays. -/
theorem founded_deleteMember (h : Founded store.schema t) (member : ⟨g, a, k⟩ ∈ t.members)
    (other : k ≠ store.schema.founderRank.key) : Founded store.schema (t.deleteMember g a) := by
  intro row here
  obtain ⟨founder, there⟩ := h row here
  refine ⟨founder, Tables.mem_deleteMember.mpr ⟨there, ?_⟩⟩
  rintro ⟨rfl, rfl⟩
  have same := Tables.eq_of_accountId member there rfl
  exact other (congrArg MemberRow.rankKey same)

theorem founded_deleteGuild (h : Founded store.schema t) :
    Founded store.schema (t.deleteGuild g) := by
  intro row here
  obtain ⟨before, other⟩ := Tables.guild_mem_deleteGuild.mp here
  obtain ⟨founder, there⟩ := h row before
  exact ⟨founder, Tables.mem_deleteGuild.mpr ⟨there, other⟩⟩

theorem founded_changeRank {actor target : AccountId} {newRankKey : String}
    {permission : GuildPermission} (h : Founded store.schema t)
    (stays : ¬ Abdicates store.schema t actor target newRankKey permission)
    (done : store.changeRank t actor target newRankKey permission = .ok t') :
    Founded store.schema t' := by
  obtain ⟨newRank, g, k, k', rank, declared, member, resolved, permitted, targeted, guarded, rfl⟩ :=
    GuildStore.changeRank_ok.mp done
  obtain ⟨newRank_mem, rfl⟩ := GuildSchema.resolve_ok.mp declared
  -- Any founder but the target keeps its rank.
  have keeps : ∀ row ∈ t.guilds, (∃ a, a ≠ target ∧
      ⟨row.id, a, store.schema.founderRank.key⟩ ∈ t.members) →
      ∃ a, ⟨row.id, a, store.schema.founderRank.key⟩ ∈
        (t.updateRank newRank.key g target).members := by
    rintro row - ⟨a, other, there⟩
    exact ⟨a, (Tables.mem_updateRank_of_ne other).mpr there⟩
  intro row here
  obtain ⟨founder, there⟩ := h row here
  by_cases other : founder ≠ target
  · exact keeps row here ⟨founder, other, there⟩
  · rw [not_not] at other
    subst other
    cases Tables.eq_of_accountId targeted there rfl
    by_cases raised : newRank.key = store.schema.founderRank.key
    · exact ⟨founder, (Tables.mem_updateRank_self targeted).mpr ⟨rfl, raised.symm⟩⟩
    · have actor_founder : k = store.schema.founderRank.key := guarded (.inr rfl)
      subst actor_founder
      by_cases itself : actor = founder
      · subst itself
        have founders : ¬ SoleFounder store.schema t actor := by
          intro sole
          refine stays ⟨rfl, sole, ⟨newRank, newRank_mem, rfl⟩, raised, ?_⟩
          rw [GuildSchema.resolve_founderRank] at resolved
          cases resolved
          exact permitted
        have another : ∃ a, a ≠ actor ∧
            ⟨row.id, a, store.schema.founderRank.key⟩ ∈ t.members := by
          by_contra none
          refine founders ⟨row.id, there, fun a member => ?_⟩
          by_contra different
          exact none ⟨a, different, member⟩
        exact keeps row here another
      · exact keeps row here ⟨actor, itself, member⟩

theorem founded_step (h : Founded store.schema t) (stays : ¬ StepsDown store.schema t op)
    (done : store.perform t op = .ok t') : Founded store.schema t' := by
  cases op with
  | create => exact founded_create h done
  | acceptInvite => exact founded_acceptInvite h done
  | kick =>
      obtain ⟨g, k, k', -, targeted, other, rfl⟩ := GuildStore.kick_ok done
      exact founded_deleteMember h targeted other
  | promote => exact founded_changeRank h stays done
  | demote => exact founded_changeRank h stays done
  | leave =>
      obtain ⟨g, k, member, ⟨-, rfl, -⟩ | ⟨other, rfl⟩⟩ := GuildStore.leave_ok done
      · exact founded_deleteGuild h
      · exact founded_deleteMember h member other
  | disband =>
      obtain ⟨g, -, rfl⟩ := GuildStore.disband_ok done
      exact founded_deleteGuild h

/-- A sole founder that abdicates leaves its guild without a founder. -/
theorem not_founded_of_abdicates {actor target : AccountId} {newRankKey : String}
    {permission : GuildPermission}
    (h : Abdicates store.schema t actor target newRankKey permission) :
    ∃ t', store.changeRank t actor target newRankKey permission = .ok t' ∧
      ¬ Founded store.schema t' := by
  obtain ⟨rfl, ⟨g, member, sole⟩, ⟨newRank, newRank_mem, rfl⟩, other, permitted⟩ := h
  refine ⟨t.updateRank newRank.key g actor, GuildStore.changeRank_ok.mpr
    ⟨newRank, g, _, _, _, GuildSchema.resolve_ok.mpr ⟨newRank_mem, rfl⟩, member,
      GuildSchema.resolve_founderRank, permitted, member, fun _ => rfl, rfl⟩, fun founded => ?_⟩
  obtain ⟨row, here, same⟩ := t.references _ member
  obtain ⟨founder, there⟩ := founded row here
  rw [same] at there
  by_cases itself : founder = actor
  · subst itself
    exact other ((Tables.mem_updateRank_self member).mp there).2.symm
  · exact itself (sole founder ((Tables.mem_updateRank_of_ne itself).mp there))

/-- From the empty tables, and under any accepted schema: exactly the runs in which no
sole founder abdicates have a founder in every guild of every state reached. -/
theorem founded_throughout_iff (store : GuildStore) (realms : Finset RealmId)
    (accounts : Finset AccountId) (schedule : List GuildOp) :
    Transition.Admissible (step store) (fun t op => ¬ StepsDown store.schema t op)
        (.empty realms accounts) schedule ↔
      ∀ front, front <+: schedule → ∀ t,
        Transition.exec (step store) (.empty realms accounts) front = some t →
          Founded store.schema t := by
  refine Transition.admissible_iff_throughout ?_ ?_
    fun row here => absurd here (Sql.Rows.notMem_empty row)
  · intro t op t' founded stays hs
    cases hs
    exact GuildStore.after_induction founded fun t' => founded_step founded stays
  · intro t op founded down
    rw [not_not] at down
    refine ⟨store.after t op, rfl, ?_⟩
    have abandoned : ∃ t', store.perform t op = .ok t' ∧ ¬ Founded store.schema t' := by
      cases op with
      | promote => exact not_founded_of_abdicates down
      | demote => exact not_founded_of_abdicates down
      | create | acceptInvite | kick | leave | disband => cases down
    obtain ⟨t', done, lost⟩ := abandoned
    simpa only [GuildStore.after, done] using lost

namespace Clan

def yaml : GuildSchemaYaml where
  schemaVersion := 1
  ranks :=
    [{ key := "leader", name := "Guild Master", permissions := [.invite, .promote, .demote] },
      { key := "officer", name := "Officer" },
      { key := "steward", name := "Steward", permissions := [.demote] },
      { key := "member", name := "Member" }]

def clans : GuildStore where
  schema := ⟨yaml.schemaVersion, yaml.ranks, by decide, by decide⟩

example : GuildSchema.fromYaml (fun _ => some yaml) "" = .ok clans.schema := rfl

def leader : AccountId := ⟨1⟩
def recruit : AccountId := ⟨2⟩

def founding : GuildOp := .create ⟨7⟩ leader "Clan" ⟨5⟩ none

def noGuilds : Tables := .empty {⟨5⟩} {leader, recruit}

/-- The only founder demotes itself: the guild has no founder, and when it has left,
the guild has no members. -/
theorem abandoned_by_demotion :
    (∃ t, Transition.exec (step clans) noGuilds [founding, .demote leader leader "member"] =
        some t ∧ ¬ Founded clans.schema t) ∧
    (∃ t, Transition.exec (step clans) noGuilds
        [founding, .demote leader leader "member", .leave leader] = some t ∧
      (∃ row, row ∈ t.guilds) ∧ ∀ m, m ∉ t.members) := by
  constructor
  · have ends : (Transition.exec (step clans) noGuilds
        [founding, .demote leader leader "member"]).any
        (fun t => decide (∃ row ∈ t.guilds.rows, ∀ m ∈ t.members.rows,
          m.guildId = row.id → m.rankKey ≠ clans.schema.founderRank.key)) = true := by
      decide
    obtain ⟨t, run, row, here, abandoned⟩ := Transition.exec_reaches ends
    refine ⟨t, run, fun founded => ?_⟩
    obtain ⟨a, member⟩ := founded row here
    exact abandoned _ member rfl rfl
  · have ends : (Transition.exec (step clans) noGuilds
        [founding, .demote leader leader "member", .leave leader]).any
        (fun t => decide (t.guilds.rows.length = 1 ∧ t.members.rows = [])) = true := by
      decide
    obtain ⟨t, run, one, none⟩ := Transition.exec_reaches ends
    obtain ⟨row, rows⟩ := List.length_eq_one_iff.mp one
    refine ⟨t, run, ⟨row, ?_⟩, fun m here => ?_⟩
    · exact (rows ▸ List.mem_singleton_self row : row ∈ t.guilds.rows)
    · exact List.not_mem_nil (none ▸ here : m ∈ [])

end Clan

/-! ### Who changes a guild -/

/-- The members of a guild with their ranks. -/
def Tables.roster (t : Tables) (g : GuildId) : Set (AccountId × String) :=
  {row | ⟨g, row.1, row.2⟩ ∈ t.members}

def Tables.founders (t : Tables) (schema : GuildSchema) (g : GuildId) : Set AccountId :=
  {a | (a, schema.founderRank.key) ∈ t.roster g}

/-- The call is the creation of the guild. -/
def Founds (t : Tables) (op : GuildOp) (g : GuildId) : Prop :=
  op.creates = some g ∧ ∀ row ∈ t.guilds, row.id ≠ g

/-- A call changes one guild at most: the one it creates or the one its actor is in. -/
theorem acts_within (done : store.perform t op = .ok t') :
    ∃ g, (Founds t op g ∨ ∃ k, ⟨g, op.actor, k⟩ ∈ t.members) ∧
      ∀ g' ≠ g, t'.roster g' = t.roster g' := by
  have deleted : ∀ g a, ∀ g' ≠ g, (t.deleteMember g a).roster g' = t.roster g' := by
    intro g a g' other
    ext row
    exact Tables.mem_deleteMember.trans (and_iff_left fun same => other same.1)
  have disbanded : ∀ g, ∀ g' ≠ g, (t.deleteGuild g).roster g' = t.roster g' := by
    intro g g' other
    ext row
    exact Tables.mem_deleteGuild.trans (and_iff_left other)
  have joined : ∀ {t t' : Tables} {g a k}, t.insertMember ⟨g, a, k⟩ = some t' → ∀ g' ≠ g,
      t'.roster g' = t.roster g' := by
    intro t t' g a k inserted g' other
    ext row
    refine (Tables.mem_insertMember inserted).trans (or_iff_left fun same => other ?_)
    exact congrArg MemberRow.guildId same
  have changed : ∀ {actor target newRankKey permission},
      store.changeRank t actor target newRankKey permission = .ok t' →
      ∃ g, (∃ k, ⟨g, actor, k⟩ ∈ t.members) ∧ ∀ g' ≠ g, t'.roster g' = t.roster g' := by
    intro actor target newRankKey permission done
    obtain ⟨newRank, g, k, k', rank, -, member, -, -, -, -, rfl⟩ := GuildStore.changeRank_ok.mp done
    refine ⟨g, ⟨k, member⟩, fun g' other => ?_⟩
    ext row
    exact Tables.mem_updateRank_of_guild_ne other
  cases op with
  | create id founder name realmId chatChannelId =>
      obtain ⟨t₁, created, inserted⟩ := GuildStore.create_ok done
      refine ⟨id, .inl ⟨rfl, fun row here => ?_⟩, fun g' other => ?_⟩
      · exact Tables.guild_fresh_of_insertGuild created here
      · rw [joined inserted g' other]
        unfold Tables.roster
        rw [Tables.members_of_insertGuild created]
  | acceptInvite inviter invitee =>
      obtain ⟨g, k, rank, member, -, -, inserted⟩ := GuildStore.acceptInvite_ok done
      exact ⟨g, .inr ⟨k, member⟩, joined inserted⟩
  | kick actor target =>
      obtain ⟨g, k, k', member, -, -, rfl⟩ := GuildStore.kick_ok done
      exact ⟨g, .inr ⟨k, member⟩, deleted g target⟩
  | promote =>
      obtain ⟨g, member, same⟩ := changed done
      exact ⟨g, .inr member, same⟩
  | demote =>
      obtain ⟨g, member, same⟩ := changed done
      exact ⟨g, .inr member, same⟩
  | leave accountId =>
      obtain ⟨g, k, member, ⟨-, rfl, -⟩ | ⟨-, rfl⟩⟩ := GuildStore.leave_ok done
      · exact ⟨g, .inr ⟨k, member⟩, disbanded g⟩
      · exact ⟨g, .inr ⟨k, member⟩, deleted g accountId⟩
  | disband requestedBy =>
      obtain ⟨g, member, rfl⟩ := GuildStore.disband_ok done
      exact ⟨g, .inr ⟨_, member⟩, disbanded g⟩

/-- A member below the founder rank does not change who the founders are. -/
theorem founders_of_below (done : store.perform t op = .ok t')
    (member : ⟨g, op.actor, k⟩ ∈ t.members) (below : k ≠ store.schema.founderRank.key) :
    t'.founders store.schema g = t.founders store.schema g := by
  have actor_row : ∀ {g' k'}, ⟨g', op.actor, k'⟩ ∈ t.members → g' = g ∧ k' = k := by
    intro g' k' there
    cases Tables.eq_of_accountId there member rfl
    exact ⟨rfl, rfl⟩
  -- Whoever leaves the table is no founder.
  have deleted : ∀ {g' a' k'}, ⟨g', a', k'⟩ ∈ t.members → k' ≠ store.schema.founderRank.key →
      (t.deleteMember g' a').founders store.schema g = t.founders store.schema g := by
    intro g' a' k' there other
    ext a
    refine Tables.mem_deleteMember.trans (and_iff_left_of_imp fun founder => ?_)
    rintro ⟨rfl, rfl⟩
    exact other (congrArg MemberRow.rankKey (Tables.eq_of_accountId there founder rfl))
  have changed : ∀ {target newRankKey permission},
      store.changeRank t op.actor target newRankKey permission = .ok t' →
      t'.founders store.schema g = t.founders store.schema g := by
    intro target newRankKey permission done
    obtain ⟨newRank, g', k₁, k', rank, declared, own, -, -, targeted, guarded, rfl⟩ :=
      GuildStore.changeRank_ok.mp done
    obtain ⟨rfl, rfl⟩ := actor_row own
    obtain ⟨-, rfl⟩ := GuildSchema.resolve_ok.mp declared
    have untouched := mt guarded below
    rw [not_or] at untouched
    ext a
    by_cases itself : a = target
    · subst itself
      refine (Tables.mem_updateRank_self targeted).trans (iff_of_false ?_ ?_)
      · exact fun named => untouched.1 named.2.symm
      · exact fun founder => untouched.2 (congrArg MemberRow.rankKey
          (Tables.eq_of_accountId targeted founder rfl))
    · exact Tables.mem_updateRank_of_ne itself
  cases op with
  | create id founder name realmId chatChannelId =>
      obtain ⟨t₁, created, inserted⟩ := GuildStore.create_ok done
      have twice := Tables.fresh_of_insertMember inserted
        (by rw [Tables.members_of_insertGuild created]; exact member)
      exact absurd rfl twice
  | acceptInvite inviter invitee =>
      obtain ⟨g', k₁, rank, own, resolved, -, inserted⟩ := GuildStore.acceptInvite_ok done
      obtain ⟨rfl, rfl⟩ := actor_row own
      obtain ⟨rank_mem, rfl⟩ := GuildSchema.resolve_ok.mp resolved
      ext a
      refine (Tables.mem_insertMember inserted).trans (or_iff_left fun same => below ?_)
      -- Were the new member a founder, the inviter would be one.
      have single := GuildSchema.isFounderRank_iff.mpr (congrArg MemberRow.rankKey same).symm
      rw [GuildSchema.eq_founderRank_of_default single rank_mem]
  | kick actor target =>
      obtain ⟨g', k₁, k', -, targeted, other, rfl⟩ := GuildStore.kick_ok done
      exact deleted targeted other
  | promote => exact changed done
  | demote => exact changed done
  | leave accountId =>
      obtain ⟨g', k₁, own, ⟨founder, -, -⟩ | ⟨other, rfl⟩⟩ := GuildStore.leave_ok done
      · exact absurd ((actor_row own).2 ▸ founder) below
      · exact deleted own other
  | disband requestedBy =>
      obtain ⟨g', own, rfl⟩ := GuildStore.disband_ok done
      exact absurd (actor_row own).2.symm below

/-- Only the creation of a guild and the calls of its founders change who its founders
are, and no call of an account that is not its member changes its members or ranks. -/
theorem founder_authority (store : GuildStore) (t : Tables) (op : GuildOp) (g : GuildId) :
    ((store.after t op).founders store.schema g ≠ t.founders store.schema g →
      Founds t op g ∨ op.actor ∈ t.founders store.schema g) ∧
    (¬ Founds t op g → (∀ k, (op.actor, k) ∉ t.roster g) →
      (store.after t op).roster g = t.roster g) := by
  refine GuildStore.after_induction ⟨fun changed => absurd rfl changed, fun _ _ => rfl⟩ ?_
  intro t' done
  obtain ⟨g', within, elsewhere⟩ := acts_within done
  constructor
  · intro changed
    have here : g = g' := by
      by_contra other
      refine changed ?_
      unfold Tables.founders
      rw [elsewhere g other]
    subst here
    obtain founds | ⟨k, member⟩ := within
    · exact .inl founds
    · refine .inr ?_
      by_contra below
      refine changed (founders_of_below done member ?_)
      rintro rfl
      exact below member
  · intro apart outsider
    refine elsewhere g ?_
    rintro rfl
    obtain founds | ⟨k, member⟩ := within
    · exact apart founds
    · exact outsider k member

/-! ### Which calls move a rank -/

/-- Whatever the direction, a member's rank is moved only by a `promote` or a `demote`
that names the new rank, of an actor in the same guild whose rank grants the call's
permission; and only a founder moves into or out of the founder rank. -/
theorem rank_moved (store : GuildStore) (t : Tables) (op : GuildOp)
    (before : ⟨g, a, k⟩ ∈ t.members) (moved : (⟨g, a, k'⟩ : MemberRow) ∈ (store.after t op).members)
    (other : k' ≠ k) :
    ∃ permission rank, (⟨g, op.actor, rank.key⟩ : MemberRow) ∈ t.members ∧
      rank ∈ store.schema.ranks ∧ rank.has permission = true ∧
      (op = .promote op.actor a k' ∧ permission = .promote ∨
        op = .demote op.actor a k' ∧ permission = .demote) ∧
      (∃ newRank ∈ store.schema.ranks, newRank.key = k') ∧
      (k = store.schema.founderRank.key ∨ k' = store.schema.founderRank.key →
        rank = store.schema.founderRank) := by
  have unmoved : ⟨g, a, k'⟩ ∉ t.members := fun there =>
    other (congrArg MemberRow.rankKey (Tables.eq_of_accountId there before rfl))
  have changed : ∀ {t' : Tables} {target newRankKey permission},
      store.changeRank t op.actor target newRankKey permission = .ok t' →
      ⟨g, a, k'⟩ ∈ t'.members →
      ∃ rank, ⟨g, op.actor, rank.key⟩ ∈ t.members ∧ rank ∈ store.schema.ranks ∧
        rank.has permission = true ∧ target = a ∧ newRankKey = k' ∧
        (∃ newRank ∈ store.schema.ranks, newRank.key = k') ∧
        (k = store.schema.founderRank.key ∨ k' = store.schema.founderRank.key →
          rank = store.schema.founderRank) := by
    intro t' target newRankKey permission done there
    obtain ⟨newRank, g', k₁, k₂, rank, declared, own, resolved, permitted, targeted, guarded,
      rfl⟩ :=
      GuildStore.changeRank_ok.mp done
    obtain ⟨newRank_mem, rfl⟩ := GuildSchema.resolve_ok.mp declared
    obtain ⟨rank_mem, rfl⟩ := GuildSchema.resolve_ok.mp resolved
    have itself : a = target := by
      by_contra different
      exact unmoved ((Tables.mem_updateRank_of_ne different).mp there)
    subst itself
    obtain ⟨rfl, rfl⟩ := (Tables.mem_updateRank_self targeted).mp there
    cases Tables.eq_of_accountId targeted before rfl
    refine ⟨rank, own, rank_mem, permitted, rfl, rfl, ⟨newRank, newRank_mem, rfl⟩, fun moves => ?_⟩
    have founder := guarded moves.symm
    exact List.inj_on_of_nodup_map store.schema.unique rank_mem GuildSchema.founderRank_mem founder
  -- The other calls add a row for a new account or take rows away.
  have joined : ∀ {t₁ t' : Tables} {m}, t₁.insertMember m = some t' → t₁.members = t.members →
      ⟨g, a, k'⟩ ∉ t'.members := by
    intro t₁ t' m inserted same there
    obtain here | rfl := (Tables.mem_insertMember inserted).mp there
    · exact unmoved (same ▸ here)
    · have taken := Tables.fresh_of_insertMember inserted (same.symm ▸ before)
      exact taken rfl
  have result : (∃ t', store.perform t op = .ok t' ∧ ⟨g, a, k'⟩ ∈ t'.members) := by
    revert moved
    refine GuildStore.after_induction (fun there => absurd there unmoved) ?_
    exact fun t' done there => ⟨t', done, there⟩
  obtain ⟨t', done, there⟩ := result
  cases op with
  | promote actor target newRankKey =>
      obtain ⟨rank, own, rank_mem, permitted, rfl, rfl, declared, founders⟩ := changed done there
      exact ⟨_, rank, own, rank_mem, permitted, .inl ⟨rfl, rfl⟩, declared, founders⟩
  | demote actor target newRankKey =>
      obtain ⟨rank, own, rank_mem, permitted, rfl, rfl, declared, founders⟩ := changed done there
      exact ⟨_, rank, own, rank_mem, permitted, .inr ⟨rfl, rfl⟩, declared, founders⟩
  | create id founder name realmId chatChannelId =>
      obtain ⟨t₁, created, inserted⟩ := GuildStore.create_ok done
      exact absurd there (joined inserted (Tables.members_of_insertGuild created))
  | acceptInvite inviter invitee =>
      obtain ⟨g', k₁, rank, -, -, -, inserted⟩ := GuildStore.acceptInvite_ok done
      exact absurd there (joined inserted rfl)
  | kick actor target =>
      obtain ⟨g', k₁, k₂, -, -, -, rfl⟩ := GuildStore.kick_ok done
      exact absurd (Tables.mem_deleteMember.mp there).1 unmoved
  | leave accountId =>
      obtain ⟨g', k₁, -, ⟨-, rfl, -⟩ | ⟨-, rfl⟩⟩ := GuildStore.leave_ok done
      · exact absurd (Tables.mem_deleteGuild.mp there).1 unmoved
      · exact absurd (Tables.mem_deleteMember.mp there).1 unmoved
  | disband requestedBy =>
      obtain ⟨g', -, rfl⟩ := GuildStore.disband_ok done
      exact absurd (Tables.mem_deleteGuild.mp there).1 unmoved

namespace Clan

/-- A recruit at a rank that grants `Demote` and nothing else. -/
def staffed : List GuildOp :=
  [founding, .acceptInvite leader recruit, .promote leader recruit "steward"]

theorem rank_moved_by_promotion :
    ∃ t, Transition.exec (step clans) noGuilds staffed = some t ∧
      (recruit, "officer") ∈ (clans.after t (.promote leader recruit "officer")).roster ⟨7⟩ ∧
      ∃ (permission : GuildPermission) (rank : GuildRank),
        (⟨⟨7⟩, leader, rank.key⟩ : MemberRow) ∈ t.members ∧
        rank.has permission = true ∧ permission = .promote := by
  have ends : (Transition.exec (step clans) noGuilds staffed).any
      (fun t => decide ((⟨⟨7⟩, recruit, "steward"⟩ : MemberRow) ∈ t.members ∧
        (⟨⟨7⟩, recruit, "officer"⟩ : MemberRow) ∈
          (clans.after t (.promote leader recruit "officer")).members)) = true := by
    decide
  obtain ⟨t, run, before, moved⟩ := Transition.exec_reaches ends
  obtain ⟨permission, rank, own, -, permitted, ⟨-, promotes⟩ | ⟨demotes, -⟩, -⟩ :=
    rank_moved clans t (.promote leader recruit "officer") before moved (by decide)
  · exact ⟨t, run, moved, permission, rank, own, permitted, promotes⟩
  · cases demotes

/-- The recruit's `demote` raises itself, and a `promote` lowers it. -/
theorem raised_by_demote_lowered_by_promote :
    (clans.schema.ranks.map GuildRank.key = ["leader", "officer", "steward", "member"] ∧
      (clans.schema.resolve "steward").map GuildRank.permissions = .ok [.demote]) ∧
    ∃ t, Transition.exec (step clans) noGuilds staffed = some t ∧
      (recruit, "steward") ∈ t.roster ⟨7⟩ ∧
      (recruit, "officer") ∈ (clans.after t (.demote recruit recruit "officer")).roster ⟨7⟩ ∧
      (recruit, "member") ∈ (clans.after t (.promote leader recruit "member")).roster ⟨7⟩ := by
  refine ⟨⟨rfl, rfl⟩, ?_⟩
  have ends : (Transition.exec (step clans) noGuilds staffed).any
      (fun t => decide ((⟨⟨7⟩, recruit, "steward"⟩ : MemberRow) ∈ t.members ∧
        (⟨⟨7⟩, recruit, "officer"⟩ : MemberRow) ∈
          (clans.after t (.demote recruit recruit "officer")).members ∧
        (⟨⟨7⟩, recruit, "member"⟩ : MemberRow) ∈
          (clans.after t (.promote leader recruit "member")).members)) = true := by
    decide
  obtain ⟨t, run, before, raised, lowered⟩ := Transition.exec_reaches ends
  exact ⟨t, run, before, raised, lowered⟩

end Clan

end WorldZero.Guild
