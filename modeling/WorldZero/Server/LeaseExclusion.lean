import WorldZero.Server.Login
import Mathlib.Data.Fintype.Basic

/-!
# At most one grant of a character's lease

`acquire` takes over expired leases only and `renew` only one's own, but `release`
deletes the row by character: a connection whose lease has expired and has been
taken over deletes the lease of its successor. Grants exclude each other in every
run in which nobody releases while another connection's grant runs in its place.

On open realms the lease makes sure that one connection at a time is joined. On a
bound realm nothing does, by design.
-/

namespace WorldZero.Server.Login

variable {ι Position : Type} [DecidableEq ι] {d : Deployment ι} {characterId : CharacterId}
  {s t : State ι Position} {l : Label ι Position}

/-- No release has deleted an unexpired lease of somebody else. -/
def ReleasedOwn (history : List (Event ι)) : Prop :=
  ∀ c deleted now, .released c deleted now ∈ history →
    ∀ lease ∈ deleted, lease.holder ≠ c → lease.expiresAt < now

/-- The lease is released by whom it was granted to, or while nobody else's grant
runs. -/
def ReleasedByHolder (s : State ι Position) : Label ι Position → Prop
  | .resume c false =>
      match s.phase c with
      | .despawned _ _ => s.granted c = true ∨ ∀ h ≠ c, s.granted h = false
      | _ => True
  | _ => True

instance [Fintype ι] (s : State ι Position) (l : Label ι Position) :
    Decidable (ReleasedByHolder s l) := by
  unfold ReleasedByHolder
  split
  · split <;> infer_instance
  · infer_instance

namespace Moves

/-- Releases by the holder keep every running grant in the row. -/
theorem backed (moved : Moves d characterId s l t) (legal : ReleasedByHolder s l)
    (backed : s.leases.Backed s.now) : t.leases.Backed t.now := by
  cases moved with
  | waits elapsed => exact backed.mono (Nat.le_add_right _ _)
  | goes | beats | reads | stores => exact backed
  | authorizes c character leases selected ok =>
      obtain ⟨-, -, rfl⟩ | ⟨-, rfl, row, acquired⟩ := authorizeLogin_ok ok
      · exact backed
      · exact backed.acquire acquired
  | renews c row loggedIn renewed => exact backed.renew renewed
  | releases c zoneId final despawned =>
      simp only [ReleasedByHolder, despawned] at legal
      exact backed.delete legal

theorem releasedOwn (moved : Moves d characterId s l t) (legal : ReleasedByHolder s l)
    (backed : s.leases.Backed s.now) (own : ReleasedOwn s.history) : ReleasedOwn t.history := by
  cases moved with
  | waits | goes | beats | renews => exact own
  | reads c selecting =>
      exact fun c' deleted n noted => own c' deleted n (by simpa [State.read] using noted)
  | authorizes =>
      exact fun c' deleted n noted => own c' deleted n (by simpa using noted)
  | stores =>
      exact fun c' deleted n noted =>
        own c' deleted n (by simpa [State.updatePositionAndZone] using noted)
  | releases c zoneId final despawned =>
      intro c' deleted n noted lease in_row foreign
      simp only [State.release, State.note_history, List.mem_cons, Event.released.injEq] at noted
      rcases noted with ⟨rfl, rfl, rfl⟩ | noted
      · by_contra unexpired
        have running := backed.running_of_row in_row (not_lt.mp unexpired)
        simp only [ReleasedByHolder, despawned] at legal
        rcases legal with mine | others
        · exact foreign (backed.exclusive running mine)
        · exact absurd running (by simpa [State.granted] using others lease.holder foreign)
      · exact own c' deleted n noted lease in_row foreign

end Moves

/-- Two connections never have a running grant at a time, and no release deletes
an unexpired lease of another connection, in every run whose releases are made by
whom the lease was granted to or while nobody else's grant runs. -/
theorem granted_exclusive (d : Deployment ι) (characterId : CharacterId)
    (character : CharacterSummary Position) {ls : List (Label ι Position)} {s : State ι Position}
    (byHolder : Transition.Admissible (step d characterId) ReleasedByHolder (start character) ls)
    (run : Transition.exec (step d characterId) (start character) ls = some s) :
    (∀ c c', s.granted c = true → s.granted c' = true → c = c') ∧ ReleasedOwn s.history := by
  have inv : s.leases.Backed s.now ∧ ReleasedOwn s.history := by
    refine Transition.exec_invariant
      (I := fun s => s.leases.Backed s.now ∧ ReleasedOwn s.history) ?_ ?_ byHolder run
    · rintro s l t ⟨backed, own⟩ legal taken
      have moved := Moves.of_step taken
      exact ⟨moved.backed legal backed, moved.releasedOwn legal backed own⟩
    · exact ⟨.empty 0, by simp [ReleasedOwn, start]⟩
  exact ⟨fun c c' run run' => inv.1.exclusive run run', inv.2⟩

/-! ### One connection at a time -/

namespace Phase

def isJoined : Phase Position → Bool
  | .joined _ _ => true
  | _ => false

/-- Registered as connected and still in the world. -/
def registered : Phase Position → Bool
  | .recorded _ | .joined _ _ => true
  | _ => false

end Phase

/-- The connection's lease or liveness row, if it needs one, lasts until `later`. -/
def State.lasts (d : Deployment ι) (s : State ι Position) (c : ι) (later : ℕ) : Bool :=
  if d.isOpen c then !(s.phase c).loggedIn || s.leases.running c later
  else !(s.phase c).registered || BoundLiveness.isLive s.liveness later

/-- Connections join before the lease that they have acquired expires, and joined
ones heartbeat: time passes only as far as the leases and the liveness rows last. -/
def SessionsKept (d : Deployment ι) (s : State ι Position) : Label ι Position → Prop
  | .tick elapsed => ∀ c, s.lasts d c (s.now + elapsed) = true
  | _ => True

instance [Fintype ι] (s : State ι Position) (l : Label ι Position) :
    Decidable (SessionsKept d s l) := by
  unfold SessionsKept
  split <;> infer_instance

/-- A login through an open realm holds the lease as long as it lasts. -/
structure Leased (d : Deployment ι) (s : State ι Position) : Prop where
  backed : s.leases.Backed s.now
  granted : ∀ c, (s.phase c).loggedIn = true → d.isOpen c = true → s.granted c = true

theorem Leased.step (inv : Leased d s) (kept : SessionsKept d s l)
    (byHolder : ReleasedByHolder s l) (taken : Login.step d characterId s l = some t) :
    Leased d t := by
  have moved := Moves.of_step taken
  refine ⟨moved.backed byHolder inv.backed, fun h loggedIn unbound => ?_⟩
  cases moved with
  | waits elapsed =>
      have lasts := kept h
      simp only [State.lasts, unbound, if_true] at lasts
      simpa [loggedIn, State.granted] using lasts
  | goes c phase liveness leads =>
      refine inv.granted h ?_ unbound
      by_cases same : h = c
      · subst same
        exact leads.loggedIn (by simpa using loggedIn)
      · simpa [same] using loggedIn
  | beats => exact inv.granted h loggedIn unbound
  | reads c selecting =>
      by_cases same : h = c
      · subst same
        simp [State.read, Phase.loggedIn] at loggedIn
      · exact inv.granted h (by simpa [State.read, same] using loggedIn) unbound
  | authorizes c character leases selected ok =>
      by_cases same : h = c
      · subst same
        obtain ⟨bound, -, -⟩ | ⟨-, rfl, -⟩ := authorizeLogin_ok ok
        · simp [bound] at unbound
        · exact Lease.Book.running_give_self
      · have before := inv.granted h (by simpa [same] using loggedIn) unbound
        obtain ⟨-, -, rfl⟩ | ⟨-, rfl, -⟩ := authorizeLogin_ok ok
        · exact before
        · exact (Lease.Book.running_give_of_ne same).trans before
  | renews c row =>
      by_cases same : h = c
      · subst same
        exact Lease.Book.running_give_self
      · exact (Lease.Book.running_give_of_ne same).trans (inv.granted h loggedIn unbound)
  | releases c zoneId final despawned =>
      have other : h ≠ c := by
        rintro rfl
        simp [State.release, Phase.loggedIn] at loggedIn
      have before := inv.granted h (by simpa [State.release, other] using loggedIn) unbound
      exact (Lease.Book.running_delete_of_ne other).trans before
  | stores c zoneId position cleared =>
      by_cases same : h = c
      · subst same
        simp [State.updatePositionAndZone, Phase.loggedIn] at loggedIn
      · refine inv.granted h ?_ unbound
        simpa [State.updatePositionAndZone, same] using loggedIn

omit [DecidableEq ι] in
theorem leased_start (character : CharacterSummary Position) :
    Leased d (start character : State ι Position) where
  backed := .empty 0
  granted _ h := by cases h

/-- At most one connection at a time is joined to the world as the character
through an open realm, in every run that keeps the sessions alive and in which no
cleanup takes the lease from another connection. -/
theorem joined_once_on_open (d : Deployment ι) (characterId : CharacterId)
    (character : CharacterSummary Position) {ls : List (Label ι Position)} {s : State ι Position}
    (legal : Transition.Admissible (step d characterId)
      (fun s l => SessionsKept d s l ∧ ReleasedByHolder s l) (start character) ls)
    (run : Transition.exec (step d characterId) (start character) ls = some s) {c c' : ι}
    (joined : (s.phase c).isJoined = true) (joined' : (s.phase c').isJoined = true)
    (unbound : d.isOpen c = true) (unbound' : d.isOpen c' = true) : c = c' := by
  have inv : Leased d s :=
    Transition.exec_invariant (fun _ _ _ inv legal taken => inv.step legal.1 legal.2 taken)
      (leased_start character) legal run
  have loggedIn : ∀ phase : Phase Position, phase.isJoined = true → phase.loggedIn = true := by
    intro phase h
    cases phase <;> cases h
    rfl
  exact inv.backed.exclusive (inv.granted c (loggedIn _ joined) unbound)
    (inv.granted c' (loggedIn _ joined') unbound')

namespace ThreeConnections

-- Connections to one server, with a lease of thirty seconds.
def home : RealmId := .fromUuid 1

def hero : CharacterId := .fromUuid 7

def server (policy : OpenOrBound) : Deployment (Fin 3) where
  realmId _ := home
  openOrBound _ := policy
  leaseTtl := 30000000
  zones zoneId := zoneId = "meadow"
  defaultZoneId := "meadow"

def stored : CharacterSummary ℕ := ⟨home, "meadow", 0⟩

/-- The character is read, the login authorized and recorded, the world joined. -/
def logsIn (c : Fin 3) : List (Label (Fin 3) ℕ) := List.replicate 4 (.resume c false)

/-- The entity is despawned, the lease released, liveness cleared, the position
stored. -/
def logsOut (c : Fin 3) : List (Label (Fin 3) ℕ) :=
  .disconnect c true :: List.replicate 3 (.resume c false)

/-- One session after the other, with a heartbeat in each. -/
def inTurn : List (Label (Fin 3) ℕ) :=
  logsIn 0 ++ [.tick 20000000, .heartbeat 0 false, .tick 20000000] ++ logsOut 0 ++
    logsIn 1 ++ [.tick 5000000] ++ logsIn 2

theorem granted_exclusive_in_turn :
    ∃ s, Transition.exec (step (server .openRealm) hero) (start stored) inTurn = some s ∧
      s.granted 1 = true ∧ (∀ c, s.granted c = true → c = 1) ∧ ReleasedOwn s.history := by
  have ends : (Transition.exec (step (server .openRealm) hero) (start stored) inTurn).any
      (fun s => decide (s.granted 1 = true)) = true := by decide
  obtain ⟨s, run, granted⟩ := Transition.exec_reaches ends
  have exclusive := granted_exclusive _ _ _ (by decide) run
  exact ⟨s, run, granted, fun c h => exclusive.1 c 1 h granted, exclusive.2⟩

theorem joined_once_on_open_in_turn :
    ∃ s, Transition.exec (step (server .openRealm) hero) (start stored) inTurn = some s ∧
      (s.phase 1).isJoined = true ∧ ∀ c, (s.phase c).isJoined = true → c = 1 := by
  have ends : (Transition.exec (step (server .openRealm) hero) (start stored) inTurn).any
      (fun s => decide ((s.phase 1).isJoined = true)) = true := by decide
  obtain ⟨s, run, joined⟩ := Transition.exec_reaches ends
  refine ⟨s, run, joined, fun c h => ?_⟩
  exact joined_once_on_open _ _ _ (by decide) run h joined rfl rfl

/-- The first connection stops heartbeating, the second takes its lease over, and
then the cleanup of the first deletes it: the third acquires it as well. -/
theorem release_frees_foreign_lease :
    ¬ ∀ (ls : List (Label (Fin 3) ℕ)) (s : State (Fin 3) ℕ),
      Transition.exec (step (server .openRealm) hero) (start stored) ls = some s →
      (∀ c c', s.granted c = true → s.granted c' = true → c = c') ∧ ReleasedOwn s.history := by
  intro exclusive
  have ends : (Transition.exec (step (server .openRealm) hero) (start stored)
      (logsIn 0 ++ [.heartbeat 0 true, .tick 30000001] ++ logsIn 1 ++ logsOut 0 ++ logsIn 2)).any
      (fun s => decide (s.granted 1 = true ∧ s.granted 2 = true)) = true := by decide
  obtain ⟨s, run, second, third⟩ := Transition.exec_reaches ends
  exact absurd ((exclusive _ s run).1 1 2 second third) (by decide)

/-- On a bound realm two connections join as one character. -/
theorem joined_twice_on_bound :
    ¬ ∀ (ls : List (Label (Fin 3) ℕ)) (s : State (Fin 3) ℕ),
      Transition.Admissible (step (server .boundRealm) hero) (SessionsKept (server .boundRealm))
        (start stored) ls →
      Transition.exec (step (server .boundRealm) hero) (start stored) ls = some s →
      ∀ c c', (s.phase c).isJoined = true → (s.phase c').isJoined = true → c = c' := by
  intro once
  have ends : (Transition.exec (step (server .boundRealm) hero) (start stored)
      (logsIn 0 ++ logsIn 1)).any
      (fun s => decide ((s.phase 0).isJoined = true ∧ (s.phase 1).isJoined = true)) = true := by
    decide
  obtain ⟨s, run, first, second⟩ := Transition.exec_reaches ends
  exact absurd (once _ s (by decide) run 0 1 first second) (by decide)

end ThreeConnections

end WorldZero.Server.Login
