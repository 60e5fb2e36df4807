import WorldZero.Guild.Founder
import WorldZero.Server.GuildRosters

/-!
# Guild invites

`GuildInvite` notes the inviter's entity for the invitee, and `GuildInviteResponse` has the
store look up, only then, in which guild the inviter is and whether its rank may invite.
Meanwhile guilds are founded, left and disbanded, ranks change, connections come and go,
and a later invite takes the place of an earlier one.

An invite carries what its inviter was when it was sent, and what it has entered since;
the specifications alone read that.
-/

namespace WorldZero.Server.GuildInvites

open Guild (GuildStore GuildSchema GuildOp Tables)

structure SessionDeps where
  guildStore : GuildStore
  /-- The text form of an entity id. -/
  parseEntityId : String → Option EntityId

/-- What is sent to a client. -/
inductive Message where
  | error (message : String)
  | guildInviteReceived (fromEntityId : EntityId)
  | guildInviteDeclined (byEntityId : EntityId)

/-- The inviter when it sent the invite. -/
structure Sent where
  inviter : AccountId
  membership : Option (GuildId × String)
  /-- The guild that the inviter has entered last since. -/
  entered : Option GuildId := none

structure Invite where
  inviterEntityId : EntityId
  sent : Sent

/-- An accepting response whose inviter has been looked up. -/
structure Acceptance where
  inviterAccountId : AccountId
  sent : Sent

structure State where
  guild : Tables
  /-- The entity ids that have been given out; each is fresh. -/
  entities : List EntityId
  entityAccounts : EntityId → Option AccountId
  pendingGuildInvites : EntityId → Option Invite
  accepting : EntityId → Option Acceptance

/-- The tables change, and whoever enters a guild by that has entered it. -/
def Sent.follow (t t' : Tables) (sent : Sent) : Sent :=
  if t'.guildOf sent.inviter = t.guildOf sent.inviter then sent
  else
    match t'.guildOf sent.inviter with
    | some g => { sent with entered := some g }
    | none => sent

def State.setGuild (s : State) (t : Tables) : State :=
  { s with
    guild := t
    pendingGuildInvites := fun e => (s.pendingGuildInvites e).map fun invite =>
      { invite with sent := invite.sent.follow s.guild t }
    accepting := fun e => (s.accepting e).map fun acceptance =>
      { acceptance with sent := acceptance.sent.follow s.guild t } }

abbrev Replies := List (EntityId × Message)

section Handlers

variable (deps : SessionDeps) (s : State) (entityId : EntityId) (accountId : AccountId)

def guildInvite (targetEntityId : String) : State × Replies :=
  match deps.parseEntityId targetEntityId with
  | none =>
      (s, [(entityId, .error s!"{debugStr targetEntityId} is not a valid entity id")])
  | some target =>
      if target = entityId then (s, [(entityId, .error "you can't invite yourself")])
      else if (s.entityAccounts target).isNone then
        (s, [(entityId, .error "that entity isn't a player you can invite")])
      else
        ({ s with
          pendingGuildInvites := Function.update s.pendingGuildInvites target
            (some ⟨entityId, ⟨accountId, s.guild.membership accountId, none⟩⟩) },
          [(target, .guildInviteReceived entityId)])

/-- The response up to the call of the store. -/
def guildInviteResponse (accept : Bool) : State × Replies :=
  match s.pendingGuildInvites entityId with
  | none => (s, [(entityId, .error "you have no pending guild invite")])
  | some invite =>
      let s :=
        { s with pendingGuildInvites := Function.update s.pendingGuildInvites entityId none }
      if !accept then (s, [(invite.inviterEntityId, .guildInviteDeclined entityId)])
      else
        match s.entityAccounts invite.inviterEntityId with
        | none =>
            (s, [(entityId, .error "the player who invited you is no longer connected")])
        | some inviterAccountId =>
            ({ s with
              accepting := Function.update s.accepting entityId
                (some ⟨inviterAccountId, invite.sent⟩) }, [])

/-- The call of the store; the updates that follow it concern neither guilds nor invites. -/
def acceptInvite (acceptance : Acceptance) : State × Replies :=
  let s := { s with accepting := Function.update s.accepting entityId none }
  match deps.guildStore.acceptInvite s.guild acceptance.inviterAccountId accountId with
  | .ok t => (s.setGuild t, [])
  | .error e => (s, [(entityId, .error (toString e))])

end Handlers

inductive Label where
  | connect (entityId : EntityId) (accountId : AccountId)
  | disconnect (entityId : EntityId)
  | guildInvite (entityId : EntityId) (targetEntityId : String)
  | guildInviteResponse (entityId : EntityId) (accept : Bool)
  | acceptInvite (entityId : EntityId)
  /-- Any other call of the store. -/
  | call (op : GuildOp)

/-- A session handles one message after the other; other sessions do not wait for it. -/
def react (deps : SessionDeps) (s : State) : Label → Option (State × Replies)
  | .connect e a =>
      if e ∈ s.entities then none
      else some ({ s with
        entities := e :: s.entities
        entityAccounts := Function.update s.entityAccounts e (some a) }, [])
  | .disconnect e =>
      if (s.accepting e).isSome then none
      else some ({ s with entityAccounts := Function.update s.entityAccounts e none }, [])
  | .guildInvite e target =>
      match s.entityAccounts e, s.accepting e with
      | some a, none => some (guildInvite deps s e a target)
      | _, _ => none
  | .guildInviteResponse e accept =>
      match s.entityAccounts e, s.accepting e with
      | some _, none => some (guildInviteResponse s e accept)
      | _, _ => none
  | .acceptInvite e =>
      match s.entityAccounts e, s.accepting e with
      | some a, some acceptance => some (acceptInvite deps s e a acceptance)
      | _, _ => none
  | .call (.acceptInvite ..) => none
  | .call op => some (s.setGuild (deps.guildStore.after s.guild op), [])

def step (deps : SessionDeps) (s : State) (l : Label) : Option State :=
  (react deps s l).map Prod.fst

/-- Nobody has connected yet. -/
def start (guild : Tables) : State where
  guild
  entities := []
  entityAccounts _ := none
  pendingGuildInvites _ := none
  accepting _ := none

/-! ### Consent -/

/-- A member of the guild at a rank that may invite. -/
def MayInvite (schema : GuildSchema) (membership : Option (GuildId × String)) (g : GuildId) :
    Prop :=
  ∃ k rank, membership = some (g, k) ∧ schema.resolve k = .ok rank ∧ rank.has .invite = true

/-- The store adds the invitee to the guild in which the inviter might invite when it sent the
invite and still may, or the response is rejected and nothing but the invite is gone. -/
def Consented (deps : SessionDeps) (s : State) (l : Label) : Prop :=
  ∀ t replies, react deps s l = some (t, replies) →
    match l with
    | .guildInviteResponse .. => t.guild = s.guild
    | .acceptInvite e => ∀ a acceptance, s.entityAccounts e = some a →
        s.accepting e = some acceptance →
        (replies = [] ∧ ∃ g, t.guild.guildOf a = some g ∧
          MayInvite deps.guildStore.schema acceptance.sent.membership g ∧
          MayInvite deps.guildStore.schema (s.guild.membership acceptance.sent.inviter) g) ∨
        ∃ message, replies = [(e, .error message)] ∧
          t = { s with accepting := Function.update s.accepting e none }
    | _ => True

/-- What the store asks for when the invite is accepted. -/
def Acceptable (store : GuildStore) (t : Tables) (inviter invitee : AccountId) : Prop :=
  inviter ≠ invitee ∧ t.guildOf invitee = none ∧ invitee ∈ t.accounts ∧
    ∃ g, MayInvite store.schema (t.membership inviter) g

/-- An invite that the store is about to accept was sent by a member whose rank might invite,
and its inviter has not entered another guild since. -/
def RightlySent (deps : SessionDeps) (s : State) : Label → Prop
  | .acceptInvite e => ∀ a acceptance, s.entityAccounts e = some a →
      s.accepting e = some acceptance →
      Acceptable deps.guildStore s.guild acceptance.inviterAccountId a →
      ∃ g, MayInvite deps.guildStore.schema acceptance.sent.membership g ∧
        ∀ g', acceptance.sent.entered = some g' → g' = g
  | _ => True

/-! ### When the store accepts -/

section Acceptance

variable {store : GuildStore} {t t' : Tables} {inviter invitee : AccountId} {g g' : GuildId}

theorem MayInvite.unique {schema : GuildSchema} {membership : Option (GuildId × String)}
    (may : MayInvite schema membership g) (also : MayInvite schema membership g') : g = g' := by
  obtain ⟨_, _, rfl, -, -⟩ := may
  obtain ⟨_, _, same, -, -⟩ := also
  exact congrArg Prod.fst (Option.some.inj same)

theorem MayInvite.guildOf {schema : GuildSchema}
    (may : MayInvite schema (t.membership inviter) g) : t.guildOf inviter = some g := by
  obtain ⟨_, _, member, -, -⟩ := may
  rw [Tables.guildOf, member, Option.map_some]

theorem acceptInvite_isOk_iff :
    (∃ t', store.acceptInvite t inviter invitee = .ok t') ↔ Acceptable store t inviter invitee := by
  simp only [GuildStore.acceptInvite, Validation.bind_ok, Validation.okOrElse_ok,
    Validation.ensure_ok, exists_const, Prod.exists, Option.isNone_iff_eq_none, decide_eq_true_eq]
  constructor
  · rintro ⟨t', other, free, g, k, member, rank, resolved, permitted, inserted⟩
    obtain ⟨known, -, -⟩ :=
      Tables.insertMember_isSome.mp (Option.isSome_iff_exists.mpr ⟨_, inserted⟩)
    exact ⟨other, free, known, g, k, rank, member, resolved, permitted⟩
  · rintro ⟨other, free, known, g, k, rank, member, resolved, permitted⟩
    obtain ⟨row, there, same⟩ := t.references _ (Tables.membership_eq_some.mp member)
    have insertable : (t.insertMember ⟨g, invitee, store.schema.defaultMemberRank.key⟩).isSome := by
      refine Tables.insertMember_isSome.mpr ⟨known, ?_, ?_⟩
      · rw [Sql.Rows.find_eq_some.mpr ⟨there, same⟩]
        rfl
      · simpa [Tables.guildOf, Tables.membership] using free
    obtain ⟨t', inserted⟩ := Option.isSome_iff_exists.mp insertable
    exact ⟨t', other, free, g, k, member, rank, resolved, permitted, inserted⟩

/-- The invitee joins the guild in which the inviter may invite now. -/
theorem acceptInvite_joins (done : store.acceptInvite t inviter invitee = .ok t') :
    ∃ g, MayInvite store.schema (t.membership inviter) g ∧ t'.guildOf invitee = some g := by
  obtain ⟨g, k, rank, member, resolved, permitted, inserted⟩ := GuildStore.acceptInvite_ok done
  exact ⟨g, ⟨k, rank, Tables.membership_eq_some.mpr member, resolved, permitted⟩,
    Rosters.guildOf_eq_some.mpr ⟨_, (Tables.mem_insertMember inserted).mpr (.inr rfl)⟩⟩

end Acceptance

/-! ### What an invite knows about its inviter -/

section Tracking

variable {deps : SessionDeps} {s s' : State} {t t' : Tables} {l : Label}

/-- The inviter is in the guild that it has entered last, if it is in one. -/
def Sent.Tracks (sent : Sent) (t : Tables) : Prop :=
  ∀ g, t.guildOf sent.inviter = some g →
    sent.entered = some g ∨ sent.entered = none ∧ sent.membership.map Prod.fst = some g

@[simp] theorem Sent.inviter_follow {sent : Sent} : (sent.follow t t').inviter = sent.inviter := by
  unfold Sent.follow
  split
  · rfl
  · split <;> rfl

theorem Sent.Tracks.follow {sent : Sent} (tracks : sent.Tracks t) :
    (sent.follow t t').Tracks t' := by
  intro g member
  rw [Sent.inviter_follow] at member
  unfold Sent.follow
  split
  next same => exact tracks g (same ▸ member)
  · rw [member]
    exact .inl rfl

/-- Entities are fresh, so an invite whose inviter is connected is that account's. -/
structure Tracked (s : State) : Prop where
  connected : ∀ e a, s.entityAccounts e = some a → e ∈ s.entities
  pending : ∀ e invite, s.pendingGuildInvites e = some invite →
    invite.inviterEntityId ∈ s.entities ∧
      (∀ a, s.entityAccounts invite.inviterEntityId = some a → a = invite.sent.inviter) ∧
      invite.sent.Tracks s.guild
  accepting : ∀ e acceptance, s.accepting e = some acceptance →
    acceptance.inviterAccountId = acceptance.sent.inviter ∧ acceptance.sent.Tracks s.guild

theorem tracked_start : Tracked (start t) where
  connected _ _ here := nomatch here
  pending _ _ here := nomatch here
  accepting _ _ here := nomatch here

theorem Tracked.setGuild (inv : Tracked s) : Tracked (s.setGuild t) where
  connected := inv.connected
  pending e invite here := by
    obtain ⟨old, there, rfl⟩ := Option.map_eq_some_iff.mp here
    obtain ⟨known, account, tracks⟩ := inv.pending e old there
    exact ⟨known, fun a named => (account a named).trans Sent.inviter_follow.symm, tracks.follow⟩
  accepting e acceptance here := by
    obtain ⟨old, there, rfl⟩ := Option.map_eq_some_iff.mp here
    obtain ⟨account, tracks⟩ := inv.accepting e old there
    exact ⟨account.trans Sent.inviter_follow.symm, tracks.follow⟩

/-- An entry of a map is forgotten. -/
theorem of_update_none {α β : Type} [DecidableEq α] {f : α → Option β} {x y : α} {b : β}
    (here : Function.update f x none y = some b) : f y = some b := by
  by_cases itself : y = x
  · subst itself
    rw [Function.update_self] at here
    cases here
  · rwa [Function.update_of_ne itself] at here

theorem Tracked.connect {e : EntityId} {a : AccountId} (inv : Tracked s) (fresh : e ∉ s.entities) :
    Tracked { s with
      entities := e :: s.entities
      entityAccounts := Function.update s.entityAccounts e (some a) } where
  connected e' a' here := by
    by_cases itself : e' = e
    · exact itself ▸ List.mem_cons_self
    · exact List.mem_cons_of_mem _
        (inv.connected e' a' ((Function.update_of_ne itself _ _).symm.trans here))
  pending e' invite here := by
    obtain ⟨known, account, tracks⟩ := inv.pending e' invite here
    have other : invite.inviterEntityId ≠ e := fun itself => fresh (itself ▸ known)
    exact ⟨List.mem_cons_of_mem _ known,
      fun a' named => account a' ((Function.update_of_ne other _ _).symm.trans named), tracks⟩
  accepting := inv.accepting

theorem Tracked.disconnect (inv : Tracked s) (e : EntityId) :
    Tracked { s with entityAccounts := Function.update s.entityAccounts e none } where
  connected e' a here := inv.connected e' a (of_update_none here)
  pending e' invite here := by
    obtain ⟨known, account, tracks⟩ := inv.pending e' invite here
    exact ⟨known, fun a named => account a (of_update_none named), tracks⟩
  accepting := inv.accepting

/-- When it is sent, an invite knows the guild of its inviter. -/
theorem tracks_sent (a : AccountId) : Sent.Tracks ⟨a, t.membership a, none⟩ t :=
  fun _ member => .inr ⟨rfl, member⟩

theorem tracked_guildInvite {e : EntityId} {a : AccountId} {target : String} (inv : Tracked s)
    (here : s.entityAccounts e = some a) : Tracked (guildInvite deps s e a target).1 := by
  unfold guildInvite
  split
  · exact inv
  · split
    · exact inv
    · split
      · exact inv
      · refine ⟨inv.connected, fun e' invite pending => ?_, inv.accepting⟩
        simp only [Function.update_apply] at pending
        split at pending
        · cases pending
          refine ⟨inv.connected e a here, fun a' named => ?_, tracks_sent a⟩
          exact Option.some.inj (named.symm.trans here)
        · exact inv.pending e' invite pending

theorem Tracked.forget (inv : Tracked s) (e : EntityId) :
    Tracked { s with pendingGuildInvites := Function.update s.pendingGuildInvites e none } where
  connected := inv.connected
  pending e' invite here := inv.pending e' invite (of_update_none here)
  accepting := inv.accepting

theorem tracked_guildInviteResponse {e : EntityId} {accept : Bool} (inv : Tracked s) :
    Tracked (guildInviteResponse s e accept).1 := by
  unfold guildInviteResponse
  split
  · exact inv
  next invite pending =>
    simp only
    split
    · exact inv.forget e
    · split
      · exact inv.forget e
      next inviterAccountId named =>
        refine ⟨inv.connected, (inv.forget e).pending, fun e' acceptance here => ?_⟩
        simp only [Function.update_apply] at here
        split at here
        · cases here
          obtain ⟨-, account, tracks⟩ := inv.pending e invite pending
          exact ⟨account inviterAccountId named, tracks⟩
        · exact inv.accepting e' acceptance here

theorem Tracked.answered (inv : Tracked s) (e : EntityId) :
    Tracked { s with accepting := Function.update s.accepting e none } where
  connected := inv.connected
  pending := inv.pending
  accepting e' acceptance here := inv.accepting e' acceptance (of_update_none here)

theorem tracked_acceptInvite {e : EntityId} {a : AccountId} {acceptance : Acceptance}
    (inv : Tracked s) : Tracked (acceptInvite deps s e a acceptance).1 := by
  unfold acceptInvite
  simp only
  split
  · exact (inv.answered e).setGuild
  · exact inv.answered e

theorem tracked_step (inv : Tracked s) (taken : step deps s l = some s') : Tracked s' := by
  obtain ⟨⟨t, replies⟩, reacted, rfl⟩ := Option.map_eq_some_iff.mp taken
  cases l with
  | connect e a =>
      simp only [react] at reacted
      split at reacted <;> cases reacted
      next fresh => exact inv.connect fresh
  | disconnect e =>
      simp only [react] at reacted
      split at reacted <;> cases reacted
      exact inv.disconnect e
  | guildInvite e target =>
      simp only [react] at reacted
      split at reacted
      next a here _ =>
        rw [← Option.some.inj reacted]
        exact tracked_guildInvite inv here
      · cases reacted
  | guildInviteResponse e accept =>
      simp only [react] at reacted
      split at reacted
      · rw [← Option.some.inj reacted]
        exact tracked_guildInviteResponse inv
      · cases reacted
  | acceptInvite e =>
      simp only [react] at reacted
      split at reacted
      · rw [← Option.some.inj reacted]
        exact tracked_acceptInvite inv
      · cases reacted
  | call op =>
      cases op <;> cases reacted <;> exact inv.setGuild

/-! ### Runs -/

theorem guild_guildInviteResponse {e : EntityId} {accept : Bool} :
    (guildInviteResponse s e accept).1.guild = s.guild := by
  unfold guildInviteResponse
  split
  · rfl
  · simp only
    split
    · rfl
    · split <;> rfl

/-- The guild that the inviter is in when its invite is accepted is the one it was in when it
sent the invite, exactly when it has entered no other since. -/
theorem mayInvite_sent_iff {schema : GuildSchema} {sent : Sent} {g : GuildId}
    (tracks : sent.Tracks t) (member : t.guildOf sent.inviter = some g) :
    MayInvite schema sent.membership g ↔
      ∃ g', MayInvite schema sent.membership g' ∧ ∀ g'', sent.entered = some g'' → g'' = g' := by
  constructor
  · refine fun may => ⟨g, may, fun g'' entered => ?_⟩
    obtain same | ⟨none, -⟩ := tracks g member
    · exact Option.some.inj (entered.symm.trans same)
    · rw [none] at entered
      cases entered
  · rintro ⟨g', may, only⟩
    obtain entered | ⟨-, same⟩ := tracks g member
    · rwa [only g entered]
    · have there := may
      obtain ⟨k, rank, sent_member, -, -⟩ := there
      rw [sent_member] at same
      rwa [← Option.some.inj same]

/-- The store's answer is a consented one exactly when the invite was rightly sent. -/
theorem acceptInvite_consented_iff (e : EntityId) {a : AccountId} {acceptance : Acceptance}
    (account : acceptance.inviterAccountId = acceptance.sent.inviter)
    (tracks : acceptance.sent.Tracks s.guild) :
    let outcome := acceptInvite deps s e a acceptance
    let schema := deps.guildStore.schema
    ((outcome.2 = [] ∧ ∃ g, outcome.1.guild.guildOf a = some g ∧
        MayInvite schema acceptance.sent.membership g ∧
        MayInvite schema (s.guild.membership acceptance.sent.inviter) g) ∨
      ∃ message, outcome.2 = [(e, .error message)] ∧
        outcome.1 = { s with accepting := Function.update s.accepting e none }) ↔
    (Acceptable deps.guildStore s.guild acceptance.inviterAccountId a →
      ∃ g, MayInvite schema acceptance.sent.membership g ∧
        ∀ g', acceptance.sent.entered = some g' → g' = g) := by
  unfold acceptInvite
  simp only
  cases done : deps.guildStore.acceptInvite s.guild acceptance.inviterAccountId a with
  | ok t' =>
      obtain ⟨g, may, joined⟩ := acceptInvite_joins done
      have member : s.guild.guildOf acceptance.sent.inviter = some g := account ▸ may.guildOf
      constructor
      · rintro (⟨-, g', there, sent, -⟩ | ⟨_, refused, -⟩) -
        · obtain rfl := Option.some.inj (there.symm.trans joined)
          exact (mayInvite_sent_iff tracks member).mp sent
        · cases refused
      · intro right
        have sent := right (acceptInvite_isOk_iff.mp ⟨t', done⟩)
        exact .inl ⟨rfl, g, joined, (mayInvite_sent_iff tracks member).mpr sent, account ▸ may⟩
  | error e' =>
      refine iff_of_true (.inr ⟨_, rfl, rfl⟩) fun acceptable => ?_
      obtain ⟨t', ok⟩ := acceptInvite_isOk_iff.mpr acceptable
      rw [done] at ok
      cases ok

theorem consented_iff (inv : Tracked s) : Consented deps s l ↔ RightlySent deps s l := by
  cases l with
  | connect | disconnect | guildInvite | call => exact iff_of_true (fun _ _ _ => trivial) trivial
  | guildInviteResponse e accept =>
      refine iff_of_true (fun t replies reacted => ?_) trivial
      simp only [react] at reacted
      split at reacted
      · show t.guild = s.guild
        rw [show t = _ from (congrArg Prod.fst (Option.some.inj reacted)).symm]
        exact guild_guildInviteResponse
      · cases reacted
  | acceptInvite e =>
      -- both conditions are about the one acceptance that the session is to answer
      have answered : ∀ a acceptance, s.entityAccounts e = some a →
          s.accepting e = some acceptance →
          react deps s (.acceptInvite e) = some (acceptInvite deps s e a acceptance) := by
        intro a acceptance here answers
        simp only [react, here, answers]
      constructor
      · intro consented a acceptance here answers
        obtain ⟨account, tracks⟩ := inv.accepting e acceptance answers
        refine (acceptInvite_consented_iff e account tracks).mp ?_
        exact consented _ _ (answered a acceptance here answers) a acceptance here answers
      · intro right t replies reacted a acceptance here answers
        obtain ⟨account, tracks⟩ := inv.accepting e acceptance answers
        have consented := (acceptInvite_consented_iff e account tracks).mpr
          (right a acceptance here answers)
        rwa [← Option.some.inj (reacted.symm.trans (answered a acceptance here answers))]
          at consented

/-- Whatever happens between them, an invite and the response to it amount to consent exactly
in the runs in which every invite that is accepted was rightly sent. -/
theorem consented_throughout_iff (deps : SessionDeps) (guild : Tables) (ls : List Label) :
    Transition.Admissible (step deps) (Consented deps) (start guild) ls ↔
      Transition.Admissible (step deps) (RightlySent deps) (start guild) ls := by
  have kept : ∀ s l t, Tracked s → step deps s l = some t → Tracked t :=
    fun _ _ _ inv taken => tracked_step inv taken
  constructor
  · exact Transition.Admissible.of_invariant (fun s l t inv _ => kept s l t inv)
      (fun _ _ inv => (consented_iff inv).mp) tracked_start
  · exact Transition.Admissible.of_invariant (fun s l t inv _ => kept s l t inv)
      (fun _ _ inv => (consented_iff inv).mpr) tracked_start

end Tracking

namespace Clan

def deps : SessionDeps where
  guildStore := Guild.Clan.clans
  parseEntityId text := if text = "2" then some ⟨2⟩ else none

def leader : AccountId := ⟨1⟩
def recruit : AccountId := ⟨2⟩

/-- The leader invites the recruit to its clan, and leads another one when the recruit accepts. -/
def movedOn : List Label :=
  [.connect ⟨1⟩ leader, .connect ⟨2⟩ recruit, .call (.create ⟨7⟩ leader "Clan" ⟨5⟩ none),
    .guildInvite ⟨1⟩ "2", .call (.leave leader), .call (.create ⟨8⟩ leader "Order" ⟨5⟩ none),
    .guildInviteResponse ⟨2⟩ true]

/-- The recruit was invited to the clan and becomes a member of the order. -/
theorem joins_another_guild : ∃ s,
    Transition.exec (step deps) (start (.empty {⟨5⟩} {leader, recruit})) movedOn = some s ∧
      (s.accepting ⟨2⟩).map (fun acceptance => acceptance.sent.membership) =
        some (some (⟨7⟩, "leader")) ∧
      (step deps s (.acceptInvite ⟨2⟩)).bind (fun t => t.guild.guildOf recruit) = some ⟨8⟩ ∧
      ¬ Consented deps s (.acceptInvite ⟨2⟩) := by
  have reached : ∃ s, Transition.exec (step deps) (start (.empty {⟨5⟩} {leader, recruit}))
      movedOn = some s ∧ (s.entityAccounts ⟨2⟩ = some recruit ∧
        (s.accepting ⟨2⟩).map (fun acceptance => acceptance.sent.membership) =
          some (some (⟨7⟩, "leader")) ∧
        (step deps s (.acceptInvite ⟨2⟩)).bind (fun t => t.guild.guildOf recruit) = some ⟨8⟩ ∧
        (react deps s (.acceptInvite ⟨2⟩)).map (fun outcome => outcome.2.length) = some 0) :=
    Transition.exec_reaches (by decide)
  obtain ⟨s, run, here, sent, joined, silent⟩ := reached
  refine ⟨s, run, sent, joined, fun consented => ?_⟩
  obtain ⟨acceptance, answers, membership⟩ := Option.map_eq_some_iff.mp sent
  obtain ⟨⟨t, replies⟩, reacted, quiet⟩ := Option.map_eq_some_iff.mp silent
  have guild : t.guild.guildOf recruit = some ⟨8⟩ := by
    rwa [step, reacted, Option.map_some, Option.bind_some] at joined
  obtain ⟨-, g, there, ⟨k, rank, sent', -, -⟩, -⟩ | ⟨_, told, -⟩ :=
    consented t replies reacted recruit acceptance here answers
  · obtain rfl := Option.some.inj (there.symm.trans guild)
    rw [membership] at sent'
    cases sent'
  · rw [told] at quiet
    cases quiet

end Clan

end WorldZero.Server.GuildInvites
