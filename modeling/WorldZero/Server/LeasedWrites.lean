import WorldZero.Server.LeaseExclusion

/-!
# Reading and writing the stored position

The lease is to make sure that a session starts from what the session before it
has stored. But the row is read before the lease is acquired, and the final
position is written after it has been released, so neither access is made under
the lease. Sessions still follow each other in every run in which nobody logs in
while another session without a running grant is yet to finish, and no position is
stored while another connection has read the row and not been authorized yet.
-/

namespace WorldZero.Server.Login

variable {ι Position : Type} [DecidableEq ι] {d : Deployment ι} {characterId : CharacterId}
  {s t : State ι Position} {l : Label ι Position}

/-- Every access to the stored position was made by a connection with a running
grant. -/
def InsideGrant (history : List (Event ι)) : Prop :=
  ∀ c, .read c false ∉ history ∧ .wrote c false ∉ history

/-- Somebody has stored a position since the connection has read the row. -/
def writtenSinceRead (c : ι) : List (Event ι) → Bool
  | [] => false
  | .read c' _ :: earlier => if c' = c then false else writtenSinceRead c earlier
  | .wrote _ _ :: _ => true
  | _ :: earlier => writtenSinceRead c earlier

/-- Another session has been authorized since the connection's was. -/
def takenSince (c : ι) : List (Event ι) → Bool
  | [] => false
  | .authorized c' :: _ => c' ≠ c
  | _ :: earlier => takenSince c earlier

/-- No session starts from a position that has been replaced since it was read,
and none stores its own after the next session has started. -/
def Fresh : List (Event ι) → Prop
  | [] => True
  | .authorized c :: earlier => writtenSinceRead c earlier = false ∧ Fresh earlier
  | .wrote c _ :: earlier => takenSince c earlier = false ∧ Fresh earlier
  | .read _ _ :: earlier => Fresh earlier
  | .released _ _ _ :: earlier => Fresh earlier

instance decidableFresh : ∀ history : List (Event ι), Decidable (Fresh history)
  | [] => isTrue trivial
  | .authorized c :: earlier =>
      haveI := decidableFresh earlier
      inferInstanceAs (Decidable (writtenSinceRead c earlier = false ∧ Fresh earlier))
  | .wrote c _ :: earlier =>
      haveI := decidableFresh earlier
      inferInstanceAs (Decidable (takenSince c earlier = false ∧ Fresh earlier))
  | .read _ _ :: earlier => decidableFresh earlier
  | .released _ _ _ :: earlier => decidableFresh earlier

/-! ### Accesses and grants -/

/-- A connection has no grant before it is authorized, so that its read is made
without one; and only who has read comes to write. -/
structure Accesses (s : State ι Position) : Prop where
  early : ∀ c, (s.phase c).early = true → s.leases.grant c = none
  begun : ∀ c, (s.phase c).begun = true → ∃ granted, .read c granted ∈ s.history
  read : ∀ c granted, .read c granted ∈ s.history → granted = false
  wrote : ∀ c granted, .wrote c granted ∈ s.history → ∃ granted, .read c granted ∈ s.history

/-- A step of `c` concerns only its own phase and grant. -/
theorem Accesses.of_own {c : ι} (inv : Accesses s)
    (others : ∀ c' ≠ c, t.phase c' = s.phase c' ∧ t.leases.grant c' = s.leases.grant c')
    (early : (t.phase c).early = true → t.leases.grant c = none)
    (begun : (t.phase c).begun = true → ∃ granted, .read c granted ∈ t.history)
    (history : ∃ events, t.history = events ++ s.history ∧
      (∀ c' granted, .read c' granted ∈ events → granted = false) ∧
      ∀ c' granted, .wrote c' granted ∈ events → (s.phase c').begun = true) : Accesses t := by
  obtain ⟨events, history, reads, writes⟩ := history
  refine ⟨fun c' h => ?_, fun c' h => ?_, fun c' granted h => ?_, fun c' granted h => ?_⟩
  · by_cases same : c' = c
    · subst same
      exact early h
    · rw [(others c' same).2]
      exact inv.early c' ((others c' same).1 ▸ h)
  · by_cases same : c' = c
    · subst same
      exact begun h
    · obtain ⟨granted, noted⟩ := inv.begun c' ((others c' same).1 ▸ h)
      exact ⟨granted, by simp [history, noted]⟩
  · rcases List.mem_append.mp (history ▸ h) with new | old
    · exact reads c' granted new
    · exact inv.read c' granted old
  · have earlier : ∃ granted, .read c' granted ∈ s.history := by
      rcases List.mem_append.mp (history ▸ h) with new | old
      · exact inv.begun c' (writes c' granted new)
      · exact inv.wrote c' granted old
    obtain ⟨granted, noted⟩ := earlier
    exact ⟨granted, by simp [history, noted]⟩

theorem Accesses.step (inv : Accesses s) (taken : Login.step d characterId s l = some t) :
    Accesses t := by
  cases Moves.of_step taken with
  | waits elapsed => exact ⟨inv.early, inv.begun, inv.read, inv.wrote⟩
  | goes c phase liveness leads =>
      refine inv.of_own (c := c) (fun c' ne => ⟨by simp [ne], rfl⟩) (fun h => ?_) (fun h => ?_)
        ⟨[], by simp⟩
      · exact inv.early c (leads.early (by simpa using h))
      · exact inv.begun c (leads.begun (by simpa using h))
  | beats liveness => exact ⟨inv.early, inv.begun, inv.read, inv.wrote⟩
  | reads c selecting =>
      have unleased : s.leases.grant c = none := inv.early c (by rw [selecting]; rfl)
      have ungranted : s.granted c = false := by simp [State.granted, Lease.Book.running, unleased]
      refine inv.of_own (c := c) (fun c' ne => ⟨by simp [State.read, ne], rfl⟩) (fun _ => unleased)
        (fun _ => ⟨false, by simp [State.read, ungranted]⟩) ⟨[.read c false], ?_⟩
      simp [State.read, ungranted]
  | authorizes c character leases selected ok =>
      refine inv.of_own (c := c) (fun c' ne => ⟨by simp [ne], ?_⟩) (fun h => ?_) (fun _ => ?_)
        ⟨[.authorized c], by simp⟩
      · obtain ⟨-, -, rfl⟩ | ⟨-, rfl, -⟩ := authorizeLogin_ok ok
        · rfl
        · simp [Lease.Book.give, ne]
      · simp [Phase.early] at h
      · obtain ⟨granted, noted⟩ := inv.begun c (by rw [selected]; rfl)
        exact ⟨granted, by simp [noted]⟩
  | renews c row loggedIn renewed =>
      refine inv.of_own (c := c) (fun c' ne => ⟨rfl, by simp [Lease.Book.give, ne]⟩) (fun h => ?_)
        (inv.begun c) ⟨[], by simp⟩
      cases at_phase : s.phase c <;> simp_all [Phase.loggedIn, Phase.early]
  | releases c zoneId final despawned =>
      refine inv.of_own (c := c) (fun c' ne => ?_) (fun _ => ?_) (fun _ => ?_)
        ⟨[.released c s.leases.row s.now], by simp [State.release]⟩
      · simp [State.release, Lease.Book.delete, ne]
      · simp [State.release, Lease.Book.delete]
      · obtain ⟨granted, noted⟩ := inv.begun c (by rw [despawned]; rfl)
        exact ⟨granted, by simp [State.release, noted]⟩
  | stores c zoneId position cleared =>
      refine inv.of_own (c := c) (fun c' ne => ⟨by simp [State.updatePositionAndZone, ne], rfl⟩)
        (fun h => ?_) (fun h => ?_) ⟨[.wrote c (s.granted c)], ?_⟩
      · simp [State.updatePositionAndZone, Phase.early] at h
      · simp [State.updatePositionAndZone, Phase.begun] at h
      · have begun : (s.phase c).begun = true := by rw [cleared]; rfl
        simp [State.updatePositionAndZone, begun]

omit [DecidableEq ι] in
theorem accesses_start (character : CharacterSummary Position) :
    Accesses (start character : State ι Position) where
  early _ _ := rfl
  begun _ h := by cases h
  read _ _ h := by cases h
  wrote _ _ h := by cases h

omit [DecidableEq ι] in
/-- Whatever a login does to the stored position, it begins with a read without a
grant. -/
theorem Accesses.insideGrant_iff (inv : Accesses s) :
    InsideGrant s.history ↔ ∀ c granted, .read c granted ∉ s.history := by
  constructor
  · intro inside c granted noted
    obtain rfl := inv.read c granted noted
    exact (inside c).1 noted
  · intro unread c
    refine ⟨unread c false, fun noted => ?_⟩
    obtain ⟨granted, earlier⟩ := inv.wrote c false noted
    exact unread c granted earlier

/-! ### Sessions that follow each other -/

/-- A login is authorized only while every other session that is yet to finish has
a running grant, and a position is stored only while no other connection is
between its read and its authorization. -/
def StoredInTurn (s : State ι Position) : Label ι Position → Prop
  | .resume c false =>
      match s.phase c with
      | .selected _ => ∀ p ≠ c, (s.phase p).unfinished = true → s.granted p = true
      | .cleared _ (some _) => ∀ p ≠ c, (s.phase p).isSelected = false
      | _ => True
  | _ => True

instance [Fintype ι] (s : State ι Position) : ∀ l : Label ι Position, Decidable (StoredInTurn s l)
  | .resume c false => by
      unfold StoredInTurn
      dsimp only
      exact match s.phase c with
        | .selected _ =>
            inferInstanceAs (Decidable (∀ p ≠ c, (s.phase p).unfinished = true →
              s.granted p = true))
        | .cleared _ (some _) =>
            inferInstanceAs (Decidable (∀ p ≠ c, (s.phase p).isSelected = false))
        | .selecting | .authorized _ | .recorded _ | .joined .. | .despawned .. | .released ..
        | .cleared _ none | .gone => .isTrue trivial
  | .resume _ true | .tick _ | .heartbeat .. | .move .. | .disconnect .. | .crash _ =>
      .isTrue trivial

/-- One session at a time is yet to finish, and nobody has been authorized after
it; whoever has read the row has read what is stored. -/
structure Serial (s : State ι Position) : Prop where
  backed : s.leases.Backed s.now
  alone : ∀ p q, (s.phase p).unfinished = true → (s.phase q).unfinished = true → p = q
  latest : ∀ p, (s.phase p).unfinished = true → takenSince p s.history = false
  current : ∀ c, (s.phase c).isSelected = true → writtenSinceRead c s.history = false
  others : ∀ p, (s.phase p).unfinished = true → ∀ c ≠ p, s.granted c = false
  fresh : Fresh s.history

namespace Serial

/-- Nobody's grant runs when a session that is yet to finish releases the lease,
except its own. -/
theorem releasedByHolder (inv : Serial s) : ReleasedByHolder s l := by
  unfold ReleasedByHolder
  split
  · next c =>
      split
      · next zoneId final despawned =>
          exact .inr (inv.others c (by rw [despawned]; rfl))
      · trivial
  · trivial

/-- A step after which no more sessions are unfinished and no more rows read. -/
theorem of_leads (inv : Serial s) (backed : t.leases.Backed t.now)
    (unfinished : ∀ p, (t.phase p).unfinished = true → (s.phase p).unfinished = true)
    (selected : ∀ c, (t.phase c).isSelected = true → (s.phase c).isSelected = true)
    (granted : ∀ c, t.granted c = true → s.granted c = true)
    (taken : ∀ p, takenSince p t.history = takenSince p s.history)
    (written : ∀ c, (t.phase c).isSelected = true →
      writtenSinceRead c t.history = writtenSinceRead c s.history)
    (fresh : Fresh s.history → Fresh t.history) : Serial t where
  backed := backed
  alone p q hp hq := inv.alone p q (unfinished p hp) (unfinished q hq)
  latest p h := (taken p).trans (inv.latest p (unfinished p h))
  current c h := (written c h).trans (inv.current c (selected c h))
  others p h c ne := by
    by_contra running
    have before := granted c (by simpa using running)
    rw [inv.others p (unfinished p h) c ne] at before
    cases before
  fresh := fresh inv.fresh

theorem read {c : ι} (inv : Serial s) (selecting : s.phase c = .selecting) :
    Serial (s.read c) := by
  have unfinished : ∀ p, ((s.read c).phase p).unfinished = true →
      (s.phase p).unfinished = true := by
    intro p h
    by_cases same : p = c
    · subst same
      simp [State.read, Phase.unfinished] at h
    · simpa [State.read, same] using h
  refine ⟨inv.backed, fun p q hp hq => inv.alone p q (unfinished p hp) (unfinished q hq),
    fun p h => inv.latest p (unfinished p h), fun c' h => ?_,
    fun p h => inv.others p (unfinished p h), inv.fresh⟩
  by_cases same : c = c'
  · simp [State.read, writtenSinceRead, same]
  · have before : (s.phase c').isSelected = true := by
      simpa [State.read, Ne.symm same] using h
    simpa [State.read, writtenSinceRead, same] using inv.current c' before

/-- The lease is acquired only after every other session has finished. -/
theorem authorized {c : ι} {character : CharacterSummary Position} {leases : Lease.Book ι}
    (inv : Serial s) (unbound : d.isOpen c = true)
    (legal : StoredInTurn s (.resume c false)) (selected : s.phase c = .selected character)
    (ok : authorizeLogin d characterId s.leases s.now c character.realmId = .ok leases) :
    Serial (({ s with leases }.goto c (.authorized character)).note (.authorized c)) := by
  obtain ⟨bound, -, -⟩ | ⟨-, rfl, row, acquired⟩ := authorizeLogin_ok ok
  · rw [bound] at unbound
    cases unbound
  have finished : ∀ p ≠ c, (s.phase p).unfinished = false := by
    intro p ne
    by_contra h
    simp only [StoredInTurn, selected] at legal
    have running := legal p ne (by simpa using h)
    rw [inv.backed.acquire_eq_none running ne] at acquired
    cases acquired
  have only : ∀ p, (((({ s with leases := s.leases.give c s.now d.leaseTtl } :
      State ι Position).goto c (.authorized character)).note (.authorized c)).phase
        p).unfinished = true → p = c := by
    intro p h
    by_contra ne
    have before : (s.phase p).unfinished = true := by simpa [ne] using h
    rw [finished p ne] at before
    cases before
  have backed := inv.backed.acquire acquired
  refine ⟨backed, fun p q hp hq => (only p hp).trans (only q hq).symm, fun p h => ?_,
    fun c' h => ?_, fun p h c' ne => ?_, ?_⟩
  · obtain rfl := only p h
    simp [takenSince]
  · have other : c' ≠ c := by
      rintro rfl
      simp [Phase.isSelected] at h
    exact inv.current c' (by simpa [other] using h)
  · obtain rfl := only p h
    by_contra running
    exact ne (backed.exclusive (by simpa [State.granted] using running)
      Lease.Book.running_give_self)
  · exact ⟨inv.current c (by rw [selected]; rfl), inv.fresh⟩

theorem renewed {c : ι} (inv : Serial s) (loggedIn : (s.phase c).loggedIn = true)
    (backed : (s.leases.give c s.now d.leaseTtl).Backed s.now) :
    Serial { s with leases := s.leases.give c s.now d.leaseTtl } := by
  have unfinished : (s.phase c).unfinished = true := by
    cases at_phase : s.phase c <;> simp_all [Phase.loggedIn, Phase.unfinished]
  refine ⟨backed, inv.alone, inv.latest, inv.current, fun p h c' ne => ?_, inv.fresh⟩
  obtain rfl := inv.alone p c h unfinished
  exact (Lease.Book.running_give_of_ne ne).trans (inv.others p h c' ne)

theorem step (inv : Serial s) (unbound : ∀ c, d.isOpen c = true) (legal : StoredInTurn s l)
    (taken : Login.step d characterId s l = some t) : Serial t := by
  have moved := Moves.of_step taken
  have backed := moved.backed inv.releasedByHolder inv.backed
  cases moved with
  | waits elapsed =>
      refine inv.of_leads backed (fun _ => id) (fun _ => id) (fun c running => ?_) (fun _ => rfl)
        (fun _ _ => rfl) id
      exact Lease.Book.running_mono (Nat.le_add_right _ _) running
  | goes c phase liveness leads =>
      refine inv.of_leads backed (fun p h => ?_) (fun p h => ?_) (fun _ => id) (fun _ => rfl)
        (fun _ _ => rfl) id
      · by_cases same : p = c
        · subst same
          exact leads.unfinished (by simpa using h)
        · simpa [same] using h
      · by_cases same : p = c
        · subst same
          exact leads.isSelected (by simpa using h)
        · simpa [same] using h
  | beats liveness =>
      exact inv.of_leads backed (fun _ => id) (fun _ => id) (fun _ => id) (fun _ => rfl)
        (fun _ _ => rfl) id
  | reads c selecting => exact inv.read selecting
  | authorizes c character leases selected ok =>
      exact inv.authorized (unbound c) legal selected ok
  | renews c row loggedIn renewed => exact inv.renewed loggedIn backed
  | releases c zoneId final despawned =>
      refine inv.of_leads backed (fun p h => ?_) (fun p h => ?_) (fun p running => ?_)
        (fun _ => rfl) (fun _ _ => rfl) id
      · by_cases same : p = c
        · rw [same, despawned]
          rfl
        · simpa [State.release, same] using h
      · by_cases same : p = c
        · simp [State.release, same, Phase.isSelected] at h
        · simpa [State.release, same] using h
      · by_cases same : p = c
        · simp [State.granted, State.release, same] at running
        · exact (Lease.Book.running_delete_of_ne same).symm.trans running
  | stores c zoneId position cleared =>
      have unselected : ∀ p, ((s.updatePositionAndZone c zoneId position).phase p).isSelected =
          true → p ≠ c ∧ (s.phase p).isSelected = true := by
        intro p h
        by_cases same : p = c
        · simp [State.updatePositionAndZone, same, Phase.isSelected] at h
        · exact ⟨same, by simpa [State.updatePositionAndZone, same] using h⟩
      simp only [StoredInTurn, cleared] at legal
      refine inv.of_leads backed (fun p h => ?_) (fun p h => (unselected p h).2) (fun _ => id)
        (fun _ => rfl) (fun p h => ?_) (fun fresh => ?_)
      · by_cases same : p = c
        · simp [State.updatePositionAndZone, same, Phase.unfinished] at h
        · simpa [State.updatePositionAndZone, same] using h
      · obtain ⟨other, reading⟩ := unselected p h
        rw [legal p other] at reading
        cases reading
      · exact ⟨inv.latest c (by rw [cleared]; rfl), fresh⟩

end Serial

theorem serial_start (character : CharacterSummary Position) :
    Serial (start character : State ι Position) where
  backed := .empty 0
  alone _ _ h := by cases h
  latest _ h := by cases h
  current _ h := by cases h
  others _ h := by cases h
  fresh := trivial

/-- On open realms, every run in which a character is logged in to accesses its
stored position outside a grant. What follows in spite of that: in every run in
which logins and final writes wait for the sessions before them, no session starts
from a replaced position or overwrites what the next one stores. -/
theorem insideGrant_iff_and_fresh (d : Deployment ι) (characterId : CharacterId)
    (character : CharacterSummary Position) (unbound : ∀ c, d.isOpen c = true)
    {ls : List (Label ι Position)} {s : State ι Position}
    (run : Transition.exec (step d characterId) (start character) ls = some s) :
    (InsideGrant s.history ↔ ∀ c granted, .read c granted ∉ s.history) ∧
      (Transition.Admissible (step d characterId) StoredInTurn (start character) ls →
        Fresh s.history) := by
  have accesses : Accesses s :=
    Transition.exec_invariant_of_step (fun _ _ _ inv taken => inv.step taken)
      (accesses_start character) run
  refine ⟨accesses.insideGrant_iff, fun inTurn => ?_⟩
  have serial : Serial s :=
    Transition.exec_invariant (fun _ _ _ inv legal taken => inv.step unbound legal taken)
      (serial_start character) inTurn run
  exact serial.fresh

namespace ThreeConnections

/-- Sessions in turn, the third login being refused. -/
theorem insideGrant_iff_and_fresh_in_turn :
    ∃ s, Transition.exec (step (server .openRealm) hero) (start stored) inTurn = some s ∧
      .wrote 0 false ∈ s.history ∧ ¬ InsideGrant s.history ∧ Fresh s.history := by
  have ends : (Transition.exec (step (server .openRealm) hero) (start stored) inTurn).any
      (fun s => decide (.wrote 0 false ∈ s.history)) = true := by decide
  obtain ⟨s, run, wrote⟩ := Transition.exec_reaches ends
  have accesses := insideGrant_iff_and_fresh _ hero stored (fun _ => rfl) run
  exact ⟨s, run, wrote, fun inside => (inside 0).2 wrote, accesses.2 (by decide)⟩

/-- The first session moves and leaves. Between the release of its lease and its
final write the second reads the row and acquires the lease: it starts from the
position before. -/
def crossed : List (Label (Fin 3) ℕ) :=
  logsIn 0 ++ [.move 0 "meadow" 5, .disconnect 0 true, .resume 0 false, .resume 0 false] ++
    [.resume 1 false, .resume 1 false, .resume 0 false, .resume 1 false, .resume 1 false]

theorem accesses_outside_grant :
    (¬ ∀ (ls : List (Label (Fin 3) ℕ)) (s : State (Fin 3) ℕ),
      Transition.exec (step (server .openRealm) hero) (start stored) ls = some s →
        InsideGrant s.history) ∧
    ¬ ∀ (ls : List (Label (Fin 3) ℕ)) (s : State (Fin 3) ℕ),
      Transition.exec (step (server .openRealm) hero) (start stored) ls = some s →
        Fresh s.history := by
  have ends : (Transition.exec (step (server .openRealm) hero) (start stored) crossed).any
      (fun s => decide (.read 0 false ∈ s.history ∧ s.phase 1 = .joined "meadow" 0 ∧
        s.character.position = 5 ∧ ¬ Fresh s.history)) = true := by decide
  obtain ⟨s, run, read, -, -, stale⟩ := Transition.exec_reaches ends
  constructor
  · intro inside
    exact (inside _ s run 0).1 read
  · intro fresh
    exact stale (fresh _ s run)

end ThreeConnections

end WorldZero.Server.Login
