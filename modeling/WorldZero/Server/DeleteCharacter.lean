import WorldZero.Server.LoginWrites

/-!
# Deleting a character

`DeleteCharacter` reads the row, the lease and the liveness row, and then deletes the
character: four statements, between which the statements of other connections may stand.
The deletion cascades to the lease and the liveness row. Afterwards the row is not found,
and an insertion that refers to it fails, but a login that has passed its last insertion
joins the world without looking at the database again.
-/

namespace WorldZero.Server.Login

/-- A connection between the statements of a `DeleteCharacter`. -/
inductive DeletePhase where
  | idle
  /-- The row has been read for the account that owns it. -/
  | owned
  /-- No lease was active. -/
  | unleased
  /-- No liveness row was live either. -/
  | deletable
  deriving DecidableEq

/-- The connections are those of the account that owns the character; others are refused
at the first read. -/
structure DeleteState (ι Position : Type) where
  /-- Its `character` counts as long as the row is present. -/
  login : State ι Position
  present : Bool
  deleting : ι → DeletePhase

inductive DeleteLabel (ι Position : Type) where
  | login (l : Label ι Position)
  /-- The next statement of a connection's `DeleteCharacter`. -/
  | delete (c : ι) (fails : Bool)

variable {ι Position : Type} [DecidableEq ι]

namespace DeleteState

variable (s : DeleteState ι Position) (c : ι)

@[simps]
def goto (phase : DeletePhase) : DeleteState ι Position :=
  { s with deleting := Function.update s.deleting c phase }

/-- A failing statement ends the connection. -/
@[simps!]
def close : DeleteState ι Position :=
  { s.goto c .idle with login := s.login.goto c .gone }

/-- `DELETE FROM characters WHERE id = $1`. -/
@[simps!]
def deleteRow : DeleteState ι Position :=
  { s.goto c .idle with
    login := { s.login with leases := { s.login.leases with row := none }, liveness := none }
    present := false }

/-- A refused request stays at the selection of a character. -/
def delete (fails : Bool) : DeletePhase → DeleteState ι Position
  | .idle => if fails then s.close c else if s.present then s.goto c .owned else s
  | .owned =>
      if fails then s.close c
      else if Lease.isActive s.login.leases.row s.login.now then s.goto c .idle
      else s.goto c .unleased
  | .unleased =>
      if fails then s.close c
      else if BoundLiveness.isLive s.login.liveness s.login.now then s.goto c .idle
      else s.goto c .deletable
  | .deletable => if fails then s.close c else s.deleteRow c

/-- Without the row a login does not find it, and neither `acquire` nor `join` can insert
a row that refers to it. -/
def loginResume (d : Deployment ι) (characterId : CharacterId) (fails : Bool) :
    Option (State ι Position) :=
  if s.present then s.login.resume d c characterId fails (s.login.phase c)
  else match s.login.phase c with
    | .selecting => some (if fails then s.login.goto c .gone else s.login)
    | .selected character =>
        s.login.resume d c characterId (fails || d.isOpen c) (.selected character)
    | .authorized character =>
        s.login.resume d c characterId (fails || !d.isOpen c) (.authorized character)
    | phase => s.login.resume d c characterId fails phase

end DeleteState

/-- A connection handles one request at a time. -/
def deleteStep (d : Deployment ι) (characterId : CharacterId) (s : DeleteState ι Position) :
    DeleteLabel ι Position → Option (DeleteState ι Position)
  | .login (.crash c) => some (s.close c)
  | .login (.resume c fails) =>
      if s.deleting c = .idle then
        (s.loginResume c d characterId fails).map fun login => { s with login }
      else none
  | .login (.heartbeat c fails) =>
      (step d characterId s.login (.heartbeat c (fails || (!s.present && !d.isOpen c)))).map
        fun login => { s with login }
  | .login l => (step d characterId s.login l).map fun login => { s with login }
  | .delete c fails =>
      match s.login.phase c with
      | .selecting => some (s.delete c fails (s.deleting c))
      | _ => none

/-- Nobody is logged in, and no request is being handled. -/
def deleteStart (character : CharacterSummary Position) : DeleteState ι Position where
  login := start character
  present := true
  deleting _ := .idle

variable {d : Deployment ι} {characterId : CharacterId}

/-! ### The guard -/

/-- Joined, with an unexpired lease of its own or, on a bound realm, an unexpired liveness
row. -/
def State.connected (d : Deployment ι) (s : State ι Position) (c : ι) : Bool :=
  (s.phase c).isJoined &&
    (s.leases.row.any (fun lease => decide (lease.holder = c ∧ s.now < lease.expiresAt)) ||
      (!d.isOpen c && BoundLiveness.isLive s.liveness s.now))

/-- What the guard of `DeleteCharacter` is for. -/
structure Guarded (d : Deployment ι) (s t : DeleteState ι Position) : Prop where
  deleted : s.present = true → t.present = false → ∀ c, s.login.connected d c = false
  joined : ∀ c, (s.login.phase c).isJoined = false → (t.login.phase c).isJoined = true →
    s.present = true

def DeletePhase.pastLease : DeletePhase → Bool
  | .unleased | .deletable => true
  | _ => false

def DeletePhase.pastLiveness : DeletePhase → Bool
  | .deletable => true
  | _ => false

/-- From the guard's look at the lease, and at the liveness row, to the deletion nobody
takes or moves the one or the other, and no login is admitted when the row is deleted. -/
def Undisturbed (d : Deployment ι) (s : DeleteState ι Position) : DeleteLabel ι Position → Prop
  | .login l => s.present = true →
      ((l.leases d s.login).isSome = true → ∀ c, (s.deleting c).pastLease = false) ∧
      ((l.registers d s.login).isSome = true → ∀ c, (s.deleting c).pastLiveness = false)
  | .delete c false => s.deleting c = .deletable →
      ∀ c', (s.login.phase c').admitted (d.isOpen c') = false
  | .delete _ true => True

instance [Fintype ι] (s t : DeleteState ι Position) : Decidable (Guarded d s t) :=
  decidable_of_iff _
    ⟨fun h => ⟨h.1, h.2⟩, fun h => (⟨h.deleted, h.joined⟩ : _ ∧ _)⟩

instance [Fintype ι] (s : DeleteState ι Position) (l : DeleteLabel ι Position) :
    Decidable (Undisturbed d s l) := by
  unfold Undisturbed
  split <;> infer_instance

/-! ### Every step of a run -/

section Runs

variable {s t : DeleteState ι Position} {l : Label ι Position} {c : ι}

/-- A label of a login takes the step of one, with the same effect as long as the row is
present, and without writing a row that refers to it afterwards. -/
inductive LoginMoves (d : Deployment ι) (characterId : CharacterId) (s : DeleteState ι Position)
    (l : Label ι Position) : DeleteState ι Position → Prop where
  | closes (c : ι) : LoginMoves d characterId s l (s.close c)
  | steps (l' : Label ι Position) (login : State ι Position)
      (taken : step d characterId s.login l' = some login)
      (present : s.present = true → l' = l)
      (absent : s.present = false → s.login.leases.row = none →
        (l'.leases d s.login).isSome = false ∧ (l'.registers d s.login).isSome = false) :
      LoginMoves d characterId s l { s with login }

/-- What a `DeleteCharacter` has found still holds. Without the row there is no row that
refers to it, and no login is admitted. -/
structure Checked (d : Deployment ι) (s : DeleteState ι Position) : Prop where
  lease : ∀ c, (s.deleting c).pastLease = true →
    Lease.isActive s.login.leases.row s.login.now = false
  liveness : ∀ c, (s.deleting c).pastLiveness = true →
    BoundLiveness.isLive s.login.liveness s.login.now = false
  absent : s.present = false → s.login.leases.row = none ∧ s.login.liveness = none ∧
    ∀ c, (s.login.phase c).admitted (d.isOpen c) = false

namespace Checked

theorem login {l : Label ι Position} {login : State ι Position} (inv : Checked d s)
    (taken : step d characterId s.login l = some login)
    (leases : (l.leases d s.login).isSome = true → ∀ c, (s.deleting c).pastLease = false)
    (registers : (l.registers d s.login).isSome = true →
      ∀ c, (s.deleting c).pastLiveness = false)
    (absent : s.present = false →
      (l.leases d s.login).isSome = false ∧ (l.registers d s.login).isSome = false) :
    Checked d { s with login } where
  lease c past := by
    by_contra active
    have later := Lease.isActive_mono (now_of_step taken) (by simpa using active)
    obtain same | none | takes := row_of_step taken
    · rw [same, inv.lease c past] at later
      cases later
    · rw [none] at later
      cases later
    · rw [leases takes c] at past
      cases past
  liveness c past := by
    by_contra live
    have later := isLive_mono (now_of_step taken) (by simpa using live)
    obtain same | none | takes := liveness_or_registers taken
    · rw [same, inv.liveness c past] at later
      cases later
    · rw [none] at later
      cases later
    · rw [registers takes c] at past
      cases past
  absent gone := by
    obtain ⟨row, liveness, admitted⟩ := inv.absent gone
    obtain ⟨unleased, unregistered⟩ := absent gone
    refine ⟨?_, ?_, fun c => ?_⟩
    · obtain same | none | takes := row_of_step taken
      · exact same.trans row
      · exact none
      · rw [unleased] at takes
        cases takes
    · obtain same | none | takes := liveness_or_registers taken
      · exact same.trans liveness
      · exact none
      · rw [unregistered] at takes
        cases takes
    · by_contra enters
      have entry : Enters d s.login login l c := .of_step taken
      obtain before | takes | takes := entry.admitted (by simpa using enters)
      · rw [admitted c] at before
        cases before
      · simp [takes] at unleased
      · simp [takes] at unregistered

/-- A request that ends, or goes on after it has found what the next phase says. -/
theorem goto (inv : Checked d s) {phase : DeletePhase}
    (lease : phase.pastLease = true →
      Lease.isActive s.login.leases.row s.login.now = false)
    (liveness : phase.pastLiveness = true →
      BoundLiveness.isLive s.login.liveness s.login.now = false) :
    Checked d (s.goto c phase) where
  lease c' past := by
    by_cases same : c' = c
    · subst same
      exact lease (by simpa using past)
    · exact inv.lease c' (by simpa [same] using past)
  liveness c' past := by
    by_cases same : c' = c
    · subst same
      exact liveness (by simpa using past)
    · exact inv.liveness c' (by simpa [same] using past)
  absent := inv.absent

theorem idle (inv : Checked d s) : Checked d (s.goto c .idle) :=
  inv.goto (fun past => nomatch past) (fun past => nomatch past)

theorem close (inv : Checked d s) : Checked d (s.close c) where
  lease := (inv.idle (c := c)).lease
  liveness := (inv.idle (c := c)).liveness
  absent gone := by
    obtain ⟨row, liveness, admitted⟩ := inv.absent gone
    refine ⟨row, liveness, fun c' => ?_⟩
    by_cases same : c' = c
    · subst same
      simp [Phase.admitted]
    · simpa [same] using admitted c'

theorem deleteRow (free : ∀ c', (s.login.phase c').admitted (d.isOpen c') = false) :
    Checked d (s.deleteRow c) where
  lease _ _ := rfl
  liveness _ _ := rfl
  absent _ := ⟨rfl, rfl, free⟩

theorem delete (inv : Checked d s) {fails : Bool}
    (undisturbed : Undisturbed d s (.delete c fails)) :
    Checked d (s.delete c fails (s.deleting c)) := by
  cases fails with
  | true => cases s.deleting c <;> exact inv.close
  | false =>
      cases at_phase : s.deleting c with
      | idle =>
          simp only [DeleteState.delete, Bool.false_eq_true, if_false]
          split
          · exact inv.goto (fun past => nomatch past) (fun past => nomatch past)
          · exact inv
      | owned =>
          simp only [DeleteState.delete, Bool.false_eq_true, if_false]
          split
          · exact inv.idle
          · next unleased =>
              exact inv.goto (fun _ => by simpa using unleased) (fun past => nomatch past)
      | unleased =>
          simp only [DeleteState.delete, Bool.false_eq_true, if_false]
          split
          · exact inv.idle
          · next offline =>
              exact inv.goto (fun _ => inv.lease c (by rw [at_phase]; rfl))
                (fun _ => by simpa using offline)
      | deletable => exact deleteRow (undisturbed at_phase)

end Checked

theorem LoginMoves.of_resume {fails : Bool} {login : State ι Position}
    (taken : s.loginResume c d characterId fails = some login) :
    LoginMoves d characterId s (.resume c fails) { s with login } := by
  unfold DeleteState.loginResume at taken
  split at taken
  · next present =>
      exact .steps (.resume c fails) login taken (fun _ => rfl) fun absent => by
        rw [present] at absent
        cases absent
  · next absent =>
      have elsewhere {l' : Label ι Position} : s.present = true → l' = .resume c fails :=
        fun present => absurd present absent
      split at taken
      · cases fails <;> cases taken
        · exact .steps (.tick 0) _ rfl elsewhere fun _ _ => ⟨rfl, rfl⟩
        · exact .steps (.crash c) _ rfl elsewhere fun _ _ => ⟨rfl, rfl⟩
      · next character at_phase =>
          refine .steps (.resume c (fails || d.isOpen c)) login ?_ elsewhere fun _ _ => ?_
          · simpa only [step, at_phase] using taken
          · cases fails <;> cases unbound : d.isOpen c <;>
              simp [Label.leases, Label.registers, unbound, at_phase]
      · next character at_phase =>
          refine .steps (.resume c (fails || !d.isOpen c)) login ?_ elsewhere fun _ _ => ?_
          · simpa only [step, at_phase] using taken
          · cases fails <;> cases unbound : d.isOpen c <;>
              simp [Label.leases, Label.registers, unbound, at_phase, Phase.isSelected]
      · next other_selected other_authorized =>
          refine .steps (.resume c fails) login taken elsewhere fun _ _ => ?_
          cases fails <;> cases at_phase : s.login.phase c <;>
            simp_all [Label.leases, Label.registers, Phase.isSelected]

theorem LoginMoves.of_step (taken : deleteStep d characterId s (.login l) = some t) :
    LoginMoves d characterId s l t := by
  have itself {login : State ι Position} (taken : step d characterId s.login l = some login)
      (quiet : (l.leases d s.login).isSome = false ∧ (l.registers d s.login).isSome = false) :
      LoginMoves d characterId s l { s with login } :=
    .steps l login taken (fun _ => rfl) fun _ _ => quiet
  cases l with
  | crash c =>
      cases taken
      exact .closes c
  | resume c fails =>
      simp only [deleteStep] at taken
      split at taken
      · obtain ⟨login, resumed, rfl⟩ := Option.map_eq_some_iff.mp taken
        exact of_resume resumed
      · cases taken
  | heartbeat c fails =>
      obtain ⟨login, beaten, rfl⟩ := Option.map_eq_some_iff.mp taken
      refine .steps _ login beaten (fun present => by simp [present]) fun absent row => ?_
      cases fails <;> cases unbound : d.isOpen c <;>
        simp [absent, unbound, row, Label.leases, Label.registers, Lease.renew]
  | tick | move | disconnect =>
      simp only [deleteStep] at taken
      obtain ⟨login, moved, rfl⟩ := Option.map_eq_some_iff.mp taken
      exact itself moved ⟨rfl, rfl⟩

theorem Checked.step {l : DeleteLabel ι Position} (inv : Checked d s)
    (undisturbed : Undisturbed d s l) (taken : deleteStep d characterId s l = some t) :
    Checked d t := by
  cases l with
  | login l =>
      cases LoginMoves.of_step taken with
      | closes c => exact inv.close
      | steps l' login moved present absent =>
          by_cases row : s.present = true
          · obtain rfl := present row
            obtain ⟨leases, registers⟩ := undisturbed row
            exact inv.login moved leases registers (by simp [row])
          · have row : s.present = false := by simpa using row
            obtain ⟨unleased, unregistered⟩ := absent row (inv.absent row).1
            exact inv.login moved (by simp [unleased]) (by simp [unregistered])
              fun _ => ⟨unleased, unregistered⟩
  | delete c fails =>
      simp only [deleteStep] at taken
      split at taken <;> cases taken
      exact inv.delete undisturbed

/-- A step that leaves the row, or deletes it with nobody connected, and lets nobody join. -/
theorem Guarded.of_joined (deleted : s.present = true → t.present = false →
      ∀ c, s.login.connected d c = false)
    (joined : ∀ c, (t.login.phase c).isJoined = true → (s.login.phase c).isJoined = true) :
    Guarded d s t :=
  ⟨deleted, fun c outside joins => absurd (joined c joins) (by simp [outside])⟩

theorem Guarded.goto {phase : DeletePhase} : Guarded d s (s.goto c phase) :=
  .of_joined (fun row gone => absurd (row.symm.trans gone) (by simp)) fun _ => id

theorem Guarded.close : Guarded d s (s.close c) := by
  refine .of_joined (fun row gone => absurd (row.symm.trans gone) (by simp)) fun c' joins => ?_
  by_cases same : c' = c
  · subst same
    simp [Phase.isJoined] at joins
  · simpa [same] using joins

/-- Nobody is connected once both rows have been found missing or expired. -/
theorem Checked.not_connected (inv : Checked d s) (past : (s.deleting c).pastLiveness = true)
    (c' : ι) : s.login.connected d c' = false := by
  have past_lease : (s.deleting c).pastLease = true := by
    cases at_phase : s.deleting c with
    | deletable => rfl
    | idle | owned | unleased =>
        rw [at_phase] at past
        cases past
  have unleased := inv.lease c past_lease
  have offline := inv.liveness c past
  by_contra connected
  simp only [State.connected, offline, Bool.and_false, Bool.or_false, Bool.not_eq_false,
    Bool.and_eq_true, Option.any_eq_true, decide_eq_true_eq] at connected
  obtain ⟨-, lease, in_row, -, unexpired⟩ := connected
  rw [Lease.isActive, Option.any_eq_false] at unleased
  exact of_decide_eq_false (unleased lease in_row) unexpired

theorem Checked.guarded_delete (inv : Checked d s) {fails : Bool} :
    Guarded d s (s.delete c fails (s.deleting c)) := by
  cases fails with
  | true => cases s.deleting c <;> exact .close
  | false =>
      cases at_phase : s.deleting c with
      | idle =>
          simp only [DeleteState.delete, Bool.false_eq_true, if_false]
          split
          · exact .goto
          · exact .of_joined (fun row gone => absurd (row.symm.trans gone) (by simp)) fun _ => id
      | owned | unleased =>
          simp only [DeleteState.delete, Bool.false_eq_true, if_false]
          split <;> exact .goto
      | deletable =>
          exact .of_joined (fun _ _ => inv.not_connected (c := c) (by rw [at_phase]; rfl))
            fun _ => id

theorem Checked.guarded {l : DeleteLabel ι Position} (inv : Checked d s)
    (taken : deleteStep d characterId s l = some t) : Guarded d s t := by
  cases l with
  | login l =>
      cases LoginMoves.of_step taken with
      | closes c => exact .close
      | steps l' login moved present absent =>
          refine ⟨fun row gone => absurd (row.symm.trans gone) (by simp), ?_⟩
          intro c outside joins
          by_contra row
          have entry : Enters d s.login login l' c := .of_step moved
          obtain before | admitted := entry.joined joins
          · rw [outside] at before
            cases before
          · rw [(inv.absent (by simpa using row)).2.2 c] at admitted
            cases admitted
  | delete c fails =>
      simp only [deleteStep] at taken
      split at taken <;> cases taken
      exact inv.guarded_delete

/-- In every run in which nobody takes or moves the lease or the liveness row between the
guard's look at it and the deletion, and in which no login is admitted when the row is
deleted, the row is not deleted while a connection is joined with an unexpired lease or
liveness row, and nobody joins without the row. -/
theorem deletion_guarded (d : Deployment ι) (characterId : CharacterId)
    (character : CharacterSummary Position) {ls : List (DeleteLabel ι Position)}
    (undisturbed : Transition.Admissible (deleteStep d characterId) (Undisturbed d)
      (deleteStart character) ls) :
    Transition.Admissible (deleteStep d characterId)
      (fun s l => ∀ t ∈ deleteStep d characterId s l, Guarded d s t) (deleteStart character)
      ls := by
  refine Transition.Admissible.of_invariant (I := Checked d) ?_ ?_ ?_ undisturbed
  · intro s l t inv legal taken
    exact inv.step legal taken
  · intro s l inv _ t taken
    exact inv.guarded taken
  · refine ⟨?_, ?_, ?_⟩
    · intro c past
      cases past
    · intro c past
      cases past
    · intro absent
      cases absent

end Runs

namespace ThreeConnections

/-- The next statements of a `DeleteCharacter`. -/
def deletes (c : Fin 3) (statements : ℕ) : List (DeleteLabel (Fin 3) ℕ) :=
  List.replicate statements (.delete c false)

/-- The guard refuses while the character is connected; after that it is deleted, and no
longer found. -/
def afterLogout : List (DeleteLabel (Fin 3) ℕ) :=
  (logsIn 1).map .login ++ deletes 0 2 ++ (logsOut 1).map .login ++ deletes 0 4 ++
    (logsIn 2).map .login

theorem deletion_guarded_after_logout :
    (Transition.exec (deleteStep (server .openRealm) hero) (deleteStart stored) afterLogout).any
        (fun s => !s.present && !(s.login.phase 2).isJoined) = true ∧
      Transition.Admissible (deleteStep (server .openRealm) hero)
        (fun s l => ∀ t ∈ deleteStep (server .openRealm) hero s l,
          Guarded (server .openRealm) s t) (deleteStart stored) afterLogout :=
  ⟨by decide, deletion_guarded _ _ _ (by decide)⟩

/-- On an open realm another connection joins between the guard and the deletion. On a
bound realm one that takes longer to join than its liveness row lasts joins after it. -/
theorem deleted_while_connected :
    (¬ ∀ ls : List (DeleteLabel (Fin 3) ℕ),
      Transition.Admissible (deleteStep (server .openRealm) hero)
        (fun s l => ∀ t ∈ deleteStep (server .openRealm) hero s l,
          Guarded (server .openRealm) s t) (deleteStart stored) ls) ∧
    ¬ ∀ ls : List (DeleteLabel (Fin 3) ℕ),
      Transition.Admissible (deleteStep (server .boundRealm) hero)
        (fun s l => ∀ t ∈ deleteStep (server .boundRealm) hero s l,
          Guarded (server .boundRealm) s t) (deleteStart stored) ls := by
  constructor
  · intro guarded
    have joined_meanwhile := guarded (deletes 0 3 ++ (logsIn 1).map .login ++ deletes 0 1)
    revert joined_meanwhile
    decide
  · intro guarded
    have joined_after := guarded ((List.replicate 3 (.resume 1 false)).map .login ++
      [.login (.tick 30000000)] ++ deletes 0 4 ++ [.login (.resume 1 false)])
    revert joined_after
    decide

end ThreeConnections

end WorldZero.Server.Login
