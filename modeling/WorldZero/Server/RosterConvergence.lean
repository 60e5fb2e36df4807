import WorldZero.Guild.Founder
import WorldZero.Server.GuildRosters
import WorldZero.Server.PartyRosters

/-!
# Convergence of the rosters

Handlers of parties and guilds run side by side. As long as each step is answered and in
order, whoever's party or guild one of them has changed is told of what it is now, by that
handler or by one that has looked later.
-/

namespace WorldZero.Server.Rosters

open Sql (Fault)

/-- The condition on the step of a session's handler. -/
def InOrder (deps : SessionDeps) (s : State) : Label → Prop
  | .request _ _ => True
  | .run e fault =>
      match s.handlers e with
      | some (.party phase) => phase.Answered fault ∧ phase.InOrder deps s e
      | some (.guild phase) => phase.Answered fault ∧ phase.InOrder deps s e
      | none => True

def State.Grounded (s : State) (connected : Connected) : Prop :=
  ∀ e phase, s.handlers e = some (.guild phase) → phase.Grounded connected s.guild e

/-- No player is forgotten. -/
structure State.Accounted (s : State) (deps : SessionDeps) : Prop where
  constraints : s.party.Constraints
  grounded : s.Grounded deps.connected
  party : Refresh.Kept (partyProtocol deps.connected) s.partyBoard
  guild : Refresh.Kept (guildProtocol deps) s.guildBoard

section Run

variable {deps : SessionDeps} {s s' : State} {e : EntityId} {fault : Option Fault}

theorem accounted_start {party : Character.Party.Tables} {guild : Guild.Tables}
    (constraints : party.Constraints) : (State.start party guild).Accounted deps where
  constraints := constraints
  grounded := nofun
  party := nofun
  guild := nofun

theorem request_grounded {connected : Connected} {t : Guild.Tables} {c : CharacterId}
    {a : AccountId} {request : Request} {phase : GuildPhase}
    (own : connected.entityAccounts e = some a) (begun : request.handler c a = .guild phase) :
    phase.Grounded connected t e := by
  have here := (connected.accounts e a).mp own
  cases request <;> cases begun
  case guildInviteResponse | guildLeave | guildDisband | guildKick => exact here
  case guildPromote | guildDemote => trivial

/-- A request begins a handler where there is none. -/
theorem accounted_request {request : Request} (accounted : s.Accounted deps)
    (taken : step deps s (.request e request) = some s') : s'.Accounted deps := by
  simp only [step] at taken
  split at taken
  next c a idle found own =>
    cases taken
    refine ⟨accounted.constraints, fun e' phase busy => ?_, ?_, ?_⟩
    · by_cases here : e' = e
      · subst here
        simp only [Function.update_self, Option.some.injEq] at busy
        exact request_grounded own busy
      · simp only [Function.update_of_ne here] at busy
        exact accounted.grounded e' phase busy
    · refine kept_party_of_other accounted.party (e := e) (fun phase busy => ?_) rfl
      rw [idle] at busy
      cases busy
    · refine kept_guild_of_other accounted.guild (e := e) (fun phase busy => ?_) rfl
      rw [idle] at busy
      cases busy
  next => cases taken

theorem accounted_party {phase : PartyPhase} (accounted : s.Accounted deps)
    (running : s.handlers e = some (.party phase)) (answered : phase.Answered fault)
    (ordered : phase.InOrder deps s e) (taken : step deps s (.run e fault) = some s') :
    s'.Accounted deps := by
  have kept := kept_party_run accounted.constraints accounted.party running answered ordered taken
  have constraints : (phase.next deps fault s.party).tables.Constraints :=
    constraints_party_run accounted.constraints
  simp only [step, running, Option.some.injEq] at taken
  subst taken
  refine ⟨constraints, fun e' phase' busy => ?_, kept, ?_⟩
  · by_cases here : e' = e
    · subst here
      simp only [Function.update_self] at busy
      obtain ⟨next, -, other⟩ := Option.map_eq_some_iff.mp busy
      cases other
    · simp only [Function.update_of_ne here] at busy
      exact accounted.grounded e' phase' busy
  · refine kept_guild_of_other accounted.guild (e := e) (fun phase' busy => ?_) rfl
    rw [running] at busy
    cases busy

theorem accounted_guild {phase : GuildPhase} (accounted : s.Accounted deps)
    (running : s.handlers e = some (.guild phase)) (answered : phase.Answered fault)
    (ordered : phase.InOrder deps s e) (taken : step deps s (.run e fault) = some s') :
    s'.Accounted deps := by
  have grounded := accounted.grounded e phase running
  have kept := kept_guild_run grounded accounted.guild running answered ordered taken
  simp only [step, running, Option.some.injEq] at taken
  subst taken
  refine ⟨accounted.constraints, fun e' phase' busy => ?_, ?_, kept⟩
  · by_cases here : e' = e
    · subst here
      simp only [Function.update_self] at busy
      obtain ⟨next, continues, same⟩ := Option.map_eq_some_iff.mp busy
      cases same
      exact grounded_next grounded answered continues
    · simp only [Function.update_of_ne here] at busy
      refine (accounted.grounded e' phase' busy).of_leaves fun a g own member => ?_
      refine guildOf_of_guildOf_next grounded (fun same => here ?_) member
      exact Option.some.inj (own.symm.trans same)
  · refine kept_party_of_other accounted.party (e := e) (fun phase' busy => ?_) rfl
    rw [running] at busy
    cases busy

theorem accounted_step {l : Label} (accounted : s.Accounted deps) (ordered : InOrder deps s l)
    (taken : step deps s l = some s') : s'.Accounted deps := by
  cases l with
  | request e request => exact accounted_request accounted taken
  | run e fault =>
      match running : s.handlers e with
      | none => simp [step, running] at taken
      | some (.party phase) =>
          simp only [InOrder, running] at ordered
          exact accounted_party accounted running ordered.1 ordered.2 taken
      | some (.guild phase) =>
          simp only [InOrder, running] at ordered
          exact accounted_guild accounted running ordered.1 ordered.2 taken

end Run

/-- Once all handlers have finished, the last updates to those whose party or guild was
changed say what these are now. -/
theorem last_updates (deps : SessionDeps) (party : Character.Party.Tables) (guild : Guild.Tables)
    (constraints : party.Constraints) (run : List Label)
    (ordered : Transition.Admissible (step deps) (InOrder deps) (.start party guild) run)
    (s : State) (reached : Transition.exec (step deps) (.start party guild) run = some s)
    (finished : ∀ e, s.handlers e = none) (e : EntityId) :
    (s.partyChanged e = true → (s.partyUpdates e).getLast? =
      some (partyUpdate deps.connected (partyView deps.connected s.party e))) ∧
    (s.guildChanged e = true → (s.guildUpdates e).getLast? =
      some (guildUpdate deps (guildView deps.connected s.guild e))) := by
  have accounted : s.Accounted deps :=
    Transition.exec_invariant (I := (·.Accounted deps)) (fun _ _ _ => accounted_step)
      (accounted_start constraints) ordered reached
  constructor
  · refine accounted.party.settled fun other owes => ?_
    have idle : s.partyBoard.handlers other = none := finished other
    rw [idle] at owes
    exact owes
  · refine accounted.guild.settled fun other owes => ?_
    have idle : s.guildBoard.handlers other = none := finished other
    rw [idle] at owes
    exact owes

/-! ### Handlers whose reads are still so -/

/-- Nothing fails, whoever the next step concerns is among those whom the handler has read,
and what it pushes is what the player sees. -/
def UpToDate (deps : SessionDeps) (s : State) : Label → Bool
  | .request _ _ => true
  | .run _ (some _) => false
  | .run e none =>
      match s.handlers e with
      | some (.party (.leave c members)) => (fellows s.party c).all (· ∈ members)
      | some (.party (.push player members _)) =>
          members = partyUpdate deps.connected (partyView deps.connected s.party player)
      | some (.guild (.leave a true _ membersBefore)) =>
          ((s.guild.guildOf a).map fun g =>
            (guildMembers s.guild g).all (·.1 ∈ membersBefore)).getD true
      | some (.guild (.push told (a :: _) _)) =>
          ((deps.connected.accountEntities a).map fun player =>
            decide (guildUpdate deps told =
              guildUpdate deps (guildView deps.connected s.guild player))).getD true
      | _ => true

theorem PartyPhase.answered_none (phase : PartyPhase) : phase.Answered none := by
  cases phase <;> simp [PartyPhase.Answered]

theorem GuildPhase.answered_none (phase : GuildPhase) : phase.Answered none := by
  cases phase <;> simp [GuildPhase.Answered]

theorem inOrder_of_upToDate {deps : SessionDeps} {s : State} {l : Label}
    (upToDate : UpToDate deps s l = true) : InOrder deps s l := by
  cases l with
  | request => trivial
  | run e fault =>
      obtain _ | fault := fault
      case some => cases upToDate
      simp only [UpToDate] at upToDate
      simp only [InOrder]
      cases running : s.handlers e with
      | none => trivial
      | some handler =>
      rw [running] at upToDate
      cases handler with
      | party phase =>
          refine ⟨phase.answered_none, ?_⟩
          cases phase with
          | leave c members =>
              simp only [List.all_eq_true, decide_eq_true_eq] at upToDate
              exact fun _ _ x fellow _ _ => .inl (upToDate x fellow)
          | push player members interested => exact .inl (of_decide_eq_true upToDate)
          | _ => trivial
      | guild phase =>
          refine ⟨phase.answered_none, ?_⟩
          cases phase with
          | leave a disband guildIdBefore membersBefore =>
              cases disband with
              | false => trivial
              | true =>
                  intro t' disbanded x same player here
                  obtain ⟨g, founder, -⟩ := Guild.GuildStore.disband_ok disbanded
                  have founder : s.guild.guildOf a = some g := guildOf_eq_some.mpr ⟨_, founder⟩
                  simp only [founder, Option.map_some, Option.getD_some, List.all_eq_true,
                    decide_eq_true_eq] at upToDate
                  obtain ⟨member, listed, rfl⟩ :=
                    List.mem_map.mp (mem_map_guildMembers.mpr (same.trans founder))
                  exact .inl (upToDate member listed)
          | push told interested remaining =>
              cases interested with
              | nil => trivial
              | cons a interested =>
                  intro player here
                  simp only [here, Option.map_some, Option.getD_some, decide_eq_true_eq]
                    at upToDate
                  exact .inl upToDate
          | _ => trivial

def Label.session : Label → EntityId
  | .request e _ | .run e _ => e

/-- A session that no label names has no handler. -/
theorem handlers_of_forall_ne {deps : SessionDeps} {s s' : State} {ls : List Label} {e : EntityId}
    (others : ∀ l ∈ ls, l.session ≠ e)
    (reached : Transition.exec (step deps) s ls = some s') : s'.handlers e = s.handlers e := by
  induction ls generalizing s with
  | nil => rw [Transition.exec_nil.mp reached]
  | cons l ls ih =>
      obtain ⟨u, taken, rest⟩ := Transition.exec_cons.mp reached
      rw [ih (fun l' there => others l' (List.mem_cons_of_mem _ there)) rest]
      have apart : e ≠ l.session := (others l List.mem_cons_self).symm
      cases l with
      | request e' request =>
          simp only [step] at taken
          split at taken <;> cases taken
          exact Function.update_of_ne apart ..
      | run e' fault =>
          simp only [step] at taken
          split at taken <;> cases taken <;> exact Function.update_of_ne apart ..

namespace Company

/-- Entities, characters and accounts with the same number belong together. -/
def connected : Connected where
  entityCharacters e := some ⟨e.uuid⟩
  characterEntities c := some ⟨c.uuid⟩
  entityAccounts e := some ⟨e.uuid⟩
  accountEntities a := some ⟨a.uuid⟩
  characters e c := by
    constructor <;> (intro same; cases same; rfl)
  accounts e a := by
    constructor <;> (intro same; cases same; rfl)

def deps : SessionDeps where
  partyStore := ⟨1, [⟨"raid", none⟩], by decide⟩
  guildStore := Guild.Clan.clans
  connected
  motd _ := none
  tag _ := none

def four : Character.Party.Tables where
  characters := [⟨1⟩, ⟨2⟩, ⟨3⟩, ⟨4⟩]
  parties := [⟨⟨9⟩, "raid"⟩]
  members := [⟨⟨9⟩, ⟨1⟩⟩, ⟨⟨9⟩, ⟨2⟩⟩, ⟨⟨9⟩, ⟨3⟩⟩, ⟨⟨9⟩, ⟨4⟩⟩]

/-- The leader and the recruit of a clan. -/
def clan : Guild.Tables :=
  Guild.Clan.clans.after (Guild.Clan.clans.after Guild.Clan.noGuilds Guild.Clan.founding)
    (.acceptInvite Guild.Clan.leader Guild.Clan.recruit)

def runs (e : EntityId) (n : Nat) : List Label := List.replicate n (.run e none)

/-- The fourth leaves the party, and meanwhile the leader promotes the recruit. -/
def inTurn : List Label :=
  [.request ⟨4⟩ .partyLeave, .request ⟨1⟩ (.guildPromote ⟨2⟩ "officer")] ++ runs ⟨4⟩ 3 ++
    runs ⟨1⟩ 4 ++ runs ⟨4⟩ 8 ++ runs ⟨1⟩ 4

/-- Sessions without a request are idle, as they were at the start. -/
theorem idle_of_two {ls : List Label} {s : State} {e₁ e₂ : EntityId}
    (two : ∀ l ∈ ls, l.session = e₁ ∨ l.session = e₂)
    (reached : Transition.exec (step deps) (.start four clan) ls = some s)
    (first : s.handlers e₁ = none) (second : s.handlers e₂ = none) (e : EntityId) :
    s.handlers e = none := by
  by_cases named : e = e₁ ∨ e = e₂
  · obtain rfl | rfl := named
    · exact first
    · exact second
  · refine handlers_of_forall_ne (fun l here same => named ?_) reached
    rw [← same]
    exact two l here

theorem constraints_four : four.Constraints := ⟨by decide, by decide, by decide⟩

theorem last_updates_inTurn :
    ∃ s, Transition.exec (step deps) (.start four clan) inTurn = some s ∧
      (s.partyUpdates ⟨1⟩).getLast? = some [⟨2⟩, ⟨3⟩] ∧
      (s.guildUpdates ⟨2⟩).getLast? =
        some ⟨some ⟨7⟩, "Clan", "", "", [⟨some ⟨1⟩, "leader"⟩, ⟨some ⟨2⟩, "officer"⟩]⟩ := by
  have upToDate : Transition.Admissible (step deps) (fun s l => UpToDate deps s l = true)
      (.start four clan) inTurn := by decide
  have ordered : Transition.Admissible (step deps) (InOrder deps) (.start four clan) inTurn :=
    upToDate.mono fun _ _ => inOrder_of_upToDate
  have ends : (Transition.exec (step deps) (.start four clan) inTurn).any fun s =>
      decide (s.handlers ⟨1⟩ = none ∧ s.handlers ⟨4⟩ = none ∧ s.partyChanged ⟨1⟩ = true ∧
        s.guildChanged ⟨2⟩ = true ∧
        partyUpdate deps.connected (partyView deps.connected s.party ⟨1⟩) = [⟨2⟩, ⟨3⟩] ∧
        guildUpdate deps (guildView deps.connected s.guild ⟨2⟩) =
          ⟨some ⟨7⟩, "Clan", "", "", [⟨some ⟨1⟩, "leader"⟩, ⟨some ⟨2⟩, "officer"⟩]⟩) := by
    decide
  obtain ⟨s, reached, first, fourth, party, guild, roster, clan⟩ := Transition.exec_reaches ends
  have finished := idle_of_two (by decide) reached first fourth
  have updates := last_updates deps four _ constraints_four inTurn ordered s reached finished
  refine ⟨s, reached, ?_, ?_⟩
  · rw [(updates ⟨1⟩).1 party, roster]
  · rw [(updates ⟨2⟩).2 guild, clan]

/-- The third and the fourth leave. The handler of the third has read what it tells the first
before the fourth leaves, and tells it afterwards. -/
def overtaken : List Label :=
  [.request ⟨3⟩ .partyLeave, .request ⟨4⟩ .partyLeave] ++ runs ⟨3⟩ 3 ++ runs ⟨4⟩ 9 ++ runs ⟨3⟩ 8

/-- The first has been told last that the fourth is in its party, in which it is not. -/
theorem outdated_of_overtaken :
    ∃ s, Transition.exec (step deps) (.start four clan) overtaken = some s ∧
      (∀ e, s.handlers e = none) ∧ s.partyChanged ⟨1⟩ = true ∧
      (s.partyUpdates ⟨1⟩).getLast? = some [⟨2⟩, ⟨4⟩] ∧
      partyUpdate deps.connected (partyView deps.connected s.party ⟨1⟩) = [⟨2⟩] := by
  have ends : (Transition.exec (step deps) (.start four clan) overtaken).any fun s =>
      decide (s.handlers ⟨3⟩ = none ∧ s.handlers ⟨4⟩ = none ∧ s.partyChanged ⟨1⟩ = true ∧
        (s.partyUpdates ⟨1⟩).getLast? = some [⟨2⟩, ⟨4⟩] ∧
        partyUpdate deps.connected (partyView deps.connected s.party ⟨1⟩) = [⟨2⟩]) := by
    decide
  obtain ⟨s, reached, third, fourth, changed, last, roster⟩ := Transition.exec_reaches ends
  exact ⟨s, reached, idle_of_two (by decide) reached third fourth, changed, last, roster⟩

end Company

end WorldZero.Server.Rosters
