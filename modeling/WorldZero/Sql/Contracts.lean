import WorldZero.Sql.Transactions

/-!
# What concurrent calls return

`RelyGuarantee` asks of every single change that the calls in progress tolerate it. A
`Contract` judges a call by all that it commits, which its conclusion describes, and speaks
of the results: what holds of a result from its commit on, and which errors a call returns
although no statement of its own has failed. `Meets` is the obligation of each call by
itself; `honoured_run` is the rule for the runs of all of them.
-/

namespace Sql.Transactions

variable {S : Type} {Result : S → Type} {D W L ι ε α : Type}

/-- The transaction that the step commits. -/
def commits (s : State ι Result D W L ε α) (l : Label ι) : Option (Pending S W L) :=
  match s.calls l.call with
  | .running ⟨.pure _, a⟩ => if l.fails then none else some a
  | _ => none

/-- An invariant of the committed tables, and for each call the changes that it tolerates while
it is in progress, what it concludes with when it commits, the errors that it may return of its
own accord, and what holds of its result once it has returned. -/
structure Contract (e : Engine Result D W L) (ι ε α : Type) where
  inv : D → Prop
  rely : ι → Pending S W L → D → D → Prop
  concludes : ι → α → Pending S W L → D → Prop
  refuses : ι → ε → Prop
  returned : ι → α → D → Prop
  /-- The commit of the first call's transaction is not tolerated by the second call. -/
  disturbs : ι → Pending S W L → ι → Pending S W L → Prop
  symm : ∀ l l', e.conflicts l l' = true → e.conflicts l' l = true
  rely_refl : ∀ i a d, rely i a d d
  rely_trans : ∀ i a d d' d'', rely i a d d' → rely i a d' d'' → rely i a d d''
  restores : ∀ i x a d, inv d → concludes i x a d → inv (e.applyAll a.writes d)
  returns : ∀ i x a d, inv d → concludes i x a d → returned i x (e.applyAll a.writes d)
  keeps : ∀ i x a d j y, inv d → concludes i x a d → returned j y d →
    returned j y (e.applyAll a.writes d)
  guarantee : ∀ i x a d j b, j ≠ i → inv d → concludes i x a d →
    (∀ l ∈ a.locks, ∀ l' ∈ b.locks, e.conflicts l l' = false) → ¬ disturbs i a j b →
      rely j b d (e.applyAll a.writes d)

namespace Contract

variable {e : Engine Result D W L} (c : Contract e ι ε α)

/-- The call keeps to the contract, whatever others commit before each of its steps as far as
it tolerates it. -/
def Meets (i : ι) : Program Result ε α → Pending S W L → D → Prop
  | .pure x, a, d => ∀ d', c.rely i a d d' → c.inv d' → c.concludes i x a d'
  | .throw err, _, _ => c.refuses i err
  | .statement s failure next, a, d => ∀ d', c.rely i a d d' → c.inv d' →
      (e.exec s (e.applyAll a.writes d') = none → c.refuses i failure) ∧
      ∀ r ws, e.exec s (e.applyAll a.writes d') = some (r, ws) →
        Meets i (next r) (a.after e s (e.applyAll a.writes d') ws) d'

/-- No call in progress is disturbed by what the step commits. -/
def Calm (s : State ι Result D W L ε α) (l : Label ι) : Prop :=
  ∀ a ∈ commits s l, ∀ j, j ≠ l.call → ∀ b ∈ (s.calls j).pending, ¬ c.disturbs l.call a j b

/-- The step is calm, and a statement that fails is one of the `faulty` calls. -/
def Legal (faulty : ι → Prop) (s : State ι Result D W L ε α) (l : Label ι) : Prop :=
  c.Calm s l ∧ (l.fails = true → faulty l.call)

/-- Every call in progress keeps to the contract, no two of them hold conflicting locks, and
what has been returned holds. -/
structure Honoured (faulty : ι → Prop) (s : State ι Result D W L ε α) : Prop where
  inv : c.inv s.committed
  meets : ∀ i a, s.calls i = .running a → c.Meets i a.program a.pending s.committed
  exclusive : ∀ i j, j ≠ i → ∀ l ∈ (s.calls i).locks, ∀ l' ∈ (s.calls j).locks,
    e.conflicts l l' = false
  returned : ∀ i x, s.calls i = .finished (.ok x) → c.returned i x s.committed
  refused : ∀ i err, s.calls i = .finished (.error err) → faulty i ∨ c.refuses i err

variable {c} {i : ι} {p : Program Result ε α} {a : Pending S W L} {d d' : D}

theorem Meets.later (h : c.Meets i p a d) (change : c.rely i a d d') : c.Meets i p a d' := by
  cases p with
  | pure x => exact fun d'' later => h d'' (c.rely_trans i a d d' d'' change later)
  | throw err => exact h
  | statement s failure next =>
      exact fun d'' later => h d'' (c.rely_trans i a d d' d'' change later)

variable {faulty : ι → Prop} {s t : State ι Result D W L ε α} {l : Label ι}

/-- One call is at its new place and the others are where they were, whatever has been
committed. -/
theorem Honoured.next [DecidableEq ι] (h : c.Honoured faulty s) (call : Call Result W L ε α)
    (inv : c.inv d')
    (others : ∀ j, j ≠ i → ∀ b, s.calls j = .running b → c.Meets j b.program b.pending d')
    (kept : ∀ j y, s.calls j = .finished (.ok y) → c.returned j y d')
    (meets : ∀ a, call = .running a → c.Meets i a.program a.pending d')
    (exclusive : ∀ j, j ≠ i → ∀ l ∈ call.locks, ∀ l' ∈ (s.calls j).locks,
      e.conflicts l l' = false)
    (returned : ∀ x, call = .finished (.ok x) → c.returned i x d')
    (refused : ∀ err, call = .finished (.error err) → faulty i ∨ c.refuses i err) :
    c.Honoured faulty ({ s with committed := d' }.put i call) := by
  have self : (State.put { s with committed := d' } i call).calls i = call :=
    Function.update_self ..
  have apart : ∀ j, j ≠ i → (State.put { s with committed := d' } i call).calls j = s.calls j :=
    fun j other => Function.update_of_ne other ..
  refine ⟨inv, fun j => ?_, fun j k other => ?_, fun j => ?_, fun j => ?_⟩
  · by_cases same : j = i
    · subst same
      rw [self]
      exact meets
    · rw [apart j same]
      exact others j same
  · by_cases first : j = i
    · subst first
      rw [self, apart k other]
      exact exclusive k other
    · rw [apart j first]
      by_cases second : k = i
      · subst second
        rw [self]
        intro l hl l' hl'
        have free := exclusive j first l' hl' l hl
        exact Bool.eq_false_iff.mpr fun conflict =>
          Bool.eq_false_iff.mp free (c.symm l l' conflict)
      · rw [apart k second]
        exact h.exclusive j k other
  · by_cases same : j = i
    · subst same
      rw [self]
      exact returned
    · rw [apart j same]
      exact kept j
  · by_cases same : j = i
    · subst same
      rw [self]
      exact refused
    · rw [apart j same]
      exact h.refused j

/-- A call that fails gives up its locks only. -/
theorem Honoured.fail [DecidableEq ι] (h : c.Honoured faulty s) {err : ε}
    (refused : faulty i ∨ c.refuses i err) :
    c.Honoured faulty (s.put i (.finished (.error err))) := by
  refine h.next _ h.inv (fun j _ => h.meets j) h.returned nofun (fun j _ l hl => nomatch hl)
    nofun fun err' same => ?_
  cases same
  exact refused

theorem Honoured.commit [DecidableEq ι] {x : α} (h : c.Honoured faulty s)
    (at_i : s.calls i = .running ⟨.pure x, a⟩)
    (calm : ∀ j, j ≠ i → ∀ b ∈ (s.calls j).pending, ¬ c.disturbs i a j b) :
    c.Honoured faulty
      ({ s with committed := e.applyAll a.writes s.committed }.put i (.finished (.ok x))) := by
  have concludes : c.concludes i x a s.committed :=
    h.meets i _ at_i _ (c.rely_refl i a s.committed) h.inv
  refine h.next _ (c.restores i x a _ h.inv concludes) (fun j other b at_j => ?_)
    (fun j y at_j => c.keeps i x a _ j y h.inv concludes (h.returned j y at_j)) nofun
    (fun j _ l hl => nomatch hl) (fun y same => ?_) nofun
  · have apart := h.exclusive i j other
    rw [at_i, at_j] at apart
    refine (h.meets j b at_j).later ?_
    exact c.guarantee i x a _ j b.pending other h.inv concludes apart
      (calm j other b.pending (by rw [at_j]; rfl))
  · cases same
    exact c.returns i x a _ h.inv concludes

/-- What is to be shown of a call that goes on, or ends at once with an error of its own. -/
theorem Meets.of (h : c.Meets i p a d) :
    (∀ b, Call.of p a = .running b → c.Meets i b.program b.pending d) ∧
      (∀ x, Call.of p a ≠ .finished (.ok x)) ∧
      ∀ err, Call.of p a = .finished (.error err) → c.refuses i err := by
  cases p with
  | pure x => exact ⟨fun b same => by cases same; exact h, nofun, nofun⟩
  | throw err => exact ⟨nofun, nofun, fun err' same => by cases same; exact h⟩
  | statement s failure next => exact ⟨fun b same => by cases same; exact h, nofun, nofun⟩

variable [DecidableEq ι] [Fintype ι] {w : Workload ι Result ε α}

omit [Fintype ι] in
theorem Honoured.proceed {stmt : S} {failure : ε} {next : Result stmt → Program Result ε α}
    {r : Result stmt} {ws : List W} (h : c.Honoured faulty s)
    (at_i : s.calls i = .running ⟨.statement stmt failure next, a⟩)
    (free : ¬ Blocked e s i stmt (e.applyAll a.writes s.committed))
    (exec : e.exec stmt (e.applyAll a.writes s.committed) = some (r, ws)) :
    c.Honoured faulty
      (s.put i (.of (next r) (a.after e stmt (e.applyAll a.writes s.committed) ws))) := by
  have meets := (h.meets i _ at_i _ (c.rely_refl i a _) h.inv).2 r ws exec
  obtain ⟨running, not_ok, refused⟩ := meets.of
  refine h.next _ h.inv (fun j _ => h.meets j) h.returned running (fun j other l hl l' hl' => ?_)
    (fun x same => absurd same (not_ok x)) fun err same => .inr (refused err same)
  obtain new | old := List.mem_append.mp (RelyGuarantee.Call.locks_of_subset hl)
  · by_contra conflict
    exact free ⟨l, new, j, other, l', hl', by simpa using conflict⟩
  · have apart := h.exclusive i j other
    rw [at_i] at apart
    exact apart l old l' hl'

theorem Honoured.step (h : c.Honoured faulty s) (legal : c.Legal faulty s l)
    (taken : step e w s l = some t) : c.Honoured faulty t := by
  obtain ⟨calm, faults⟩ := legal
  obtain ⟨⟨p, a⟩, at_i, ⟨fails, err, rfl⟩ | ⟨runs, committed | statement⟩⟩ := step_eq_some taken
  · exact h.fail (.inl (faults fails))
  · obtain ⟨x, rfl, rfl⟩ := committed
    have committing : commits s l = some a := by simp [commits, at_i, runs]
    exact h.commit at_i (calm a committing)
  · obtain ⟨stmt, failure, next, rfl, free, ⟨exec, rfl⟩ | ⟨r, ws, exec, rfl⟩⟩ := statement
    · have meets := h.meets l.call _ at_i _ (c.rely_refl l.call a s.committed) h.inv
      exact h.fail (.inr (meets.1 exec))
    · exact h.proceed at_i free exec

omit [DecidableEq ι] [Fintype ι] in
theorem honoured_start {db : D} (inv : c.inv db) (meets : ∀ i, c.Meets i (w.program i) {} db) :
    c.Honoured faulty (start w db) where
  inv := inv
  meets i := (meets i).of.1
  exclusive _ _ _ _ hl := absurd (RelyGuarantee.Call.locks_of_subset hl) List.not_mem_nil
  returned i x same := absurd same ((meets i).of.2.1 x)
  refused i err same := .inr ((meets i).of.2.2 err same)

/-- In every schedule in which nothing is disturbed, the invariant holds of the committed
tables, what has been returned holds, and a call of which no statement has failed has returned
no error but those of its own accord. -/
theorem honoured_run {db : D} {ls : List (Label ι)} (inv : c.inv db)
    (meets : ∀ i, c.Meets i (w.program i) {} db)
    (calm : Transition.Admissible (Transactions.step e w) c.Calm (start w db) ls)
    (run : Transition.exec (Transactions.step e w) (start w db) ls = some t) :
    c.Honoured (fun i => ∃ l ∈ ls, l.call = i ∧ l.fails = true) t := by
  have legal : Transition.Admissible (Transactions.step e w)
      (c.Legal fun i => ∃ l ∈ ls, l.call = i ∧ l.fails = true) (start w db) ls :=
    calm.and fun l here => fun s fails => ⟨l, here, rfl, fails⟩
  exact Transition.exec_invariant (fun _ _ _ h legal taken => h.step legal taken)
    (honoured_start inv meets) legal run

end Contract

/-- What the call has returned. -/
def Call.value : Call Result W L ε α → Option α
  | .finished (.ok x) => some x
  | .finished (.error _) | .running _ => none

theorem Call.value_eq_some {call : Call Result W L ε α} {x : α} :
    call.value = some x ↔ call = .finished (.ok x) := by
  cases call with
  | running a => simp [value]
  | finished r => cases r <;> simp [value]

/-! ### How far a call has to go -/

/-- The call takes at most so many steps more. -/
def Program.Within : ℕ → Program Result ε α → Prop
  | _, .throw _ => True
  | 0, _ => False
  | _ + 1, .pure _ => True
  | n + 1, .statement _ _ next => ∀ r, Within n (next r)

def Call.Within (n : ℕ) : Call Result W L ε α → Prop
  | .running a => a.program.Within n
  | .finished _ => True

theorem Call.within_of {n : ℕ} {p : Program Result ε α} {a : Pending S W L} (h : p.Within n) :
    (Call.of p a).Within n := by
  cases p with
  | pure | statement => exact h
  | throw => trivial

variable [DecidableEq ι] [Fintype ι] {e : Engine Result D W L} {w : Workload ι Result ε α}
  {s t : State ι Result D W L ε α} {l : Label ι} {ls : List (Label ι)} {i : ι}

theorem calls_of_step (taken : step e w s l = some t) (other : i ≠ l.call) :
    t.calls i = s.calls i := by
  obtain ⟨a, -, ⟨err, rfl⟩ | ⟨x, -, -, rfl⟩ | ⟨_, _, _, _, _, -, -, -, rfl⟩⟩ := step_cases taken
  all_goals exact Function.update_of_ne other ..

theorem within_of_step {n : ℕ} (h : (s.calls l.call).Within n) (taken : step e w s l = some t) :
    ∃ m, n = m + 1 ∧ (t.calls l.call).Within m := by
  have self : ∀ c, (State.put s l.call c).calls l.call = c := fun c => Function.update_self ..
  obtain ⟨⟨p, a⟩, at_call, ⟨err, rfl⟩ | ⟨x, rfl, -, rfl⟩ | ⟨stmt, _, next, r, ws, rfl, -,
    -, rfl⟩⟩ := step_cases taken
  · rw [at_call] at h
    cases n with
    | zero =>
        cases p with
        | throw => unfold step at taken; simp [at_call] at taken
        | pure | statement => exact h.elim
    | succ m => exact ⟨m, rfl, by rw [self]; trivial⟩
  · rw [at_call] at h
    cases n with
    | zero => exact h.elim
    | succ m =>
        refine ⟨m, rfl, ?_⟩
        simp [State.put, Call.Within]
  · rw [at_call] at h
    cases n with
    | zero => exact h.elim
    | succ m => exact ⟨m, rfl, by rw [self]; exact Call.within_of (h r)⟩

/-- A call takes no more steps than its program allows, in whatever schedule. -/
theorem steps_le {n : ℕ} (h : (s.calls i).Within n)
    (run : Transition.exec (step e w) s ls = some t) : ls.countP (fun l => l.call = i) ≤ n := by
  induction ls generalizing s n with
  | nil => exact Nat.zero_le n
  | cons l ls ih =>
      obtain ⟨u, taken, rest⟩ := Transition.exec_cons.mp run
      by_cases same : l.call = i
      · subst same
        obtain ⟨m, rfl, later⟩ := within_of_step h taken
        simpa using ih later rest
      · rw [List.countP_cons_of_neg (by simpa using same)]
        refine ih ?_ rest
        rwa [calls_of_step taken fun other => same other.symm]

/-! ### What the calls in progress have in common -/

/-- Every call in progress has a next step, and has the property. -/
def Running (Q : ι → Program Result ε α → Pending S W L → Prop)
    (s : State ι Result D W L ε α) : Prop :=
  ∀ i a, s.calls i = .running a → (∀ err, a.program ≠ .throw err) ∧ Q i a.program a.pending

omit [DecidableEq ι] [Fintype ι] in
theorem running_of {Q : ι → Program Result ε α → Pending S W L → Prop} {p : Program Result ε α}
    {b : Pending S W L} {a : Activity Result W L ε α} (h : Q i p b)
    (runs : Call.of p b = .running a) :
    (∀ err, a.program ≠ .throw err) ∧ Q i a.program a.pending := by
  cases p with
  | throw err => cases runs
  | pure | statement =>
      cases runs
      exact ⟨nofun, h⟩

variable {Q : ι → Program Result ε α → Pending S W L → Prop}

theorem running_step
    (next : ∀ i stmt failure next a view r ws, Q i (.statement stmt failure next) a →
      e.exec stmt view = some (r, ws) → Q i (next r) (a.after e stmt view ws))
    (here : Running Q s) (taken : step e w s l = some t) : Running Q t := by
  intro i a at_i
  by_cases same : i = l.call
  · subst same
    obtain ⟨⟨p, b⟩, at_call, ⟨err, rfl⟩ | ⟨x, rfl, -, rfl⟩ | ⟨stmt, failure, cont, r, ws, rfl, -,
      exec, rfl⟩⟩ := step_cases taken
    · simp [State.put] at at_i
    · simp [State.put] at at_i
    · have carried := next l.call stmt failure cont b _ r ws (here l.call _ at_call).2 exec
      exact running_of carried (by simpa [State.put] using at_i)
  · rw [calls_of_step taken same] at at_i
    exact here i a at_i

/-- What holds of every call at its start and after each of its statements. -/
theorem running_run {db : D} (initially : ∀ i, Q i (w.program i) {})
    (next : ∀ i stmt failure next a view r ws, Q i (.statement stmt failure next) a →
      e.exec stmt view = some (r, ws) → Q i (next r) (a.after e stmt view ws))
    (run : Transition.exec (step e w) (start w db) ls = some s) : Running Q s :=
  Transition.exec_invariant_of_step (fun _ _ _ here taken => running_step next here taken)
    (fun i _ runs => running_of (initially i) runs) run

/-! ### Waiting -/

/-- A statement that takes such a lock is the last one of the call. -/
def Program.LocksLast (e : Engine Result D W L) (P : L → Prop) : Program Result ε α → Prop
  | .pure _ | .throw _ => True
  | .statement s _ next =>
      (∀ d r ws, e.exec s d = some (r, ws) → (∃ l ∈ e.locks s d, P l) → ∃ x, next r = .pure x) ∧
        ∀ r, LocksLast e P (next r)

/-- The call asks for no other locks. -/
def Program.LocksOnly (e : Engine Result D W L) (P : L → Prop) : Program Result ε α → Prop
  | .pure _ | .throw _ => True
  | .statement s _ next => (∀ d, ∀ l ∈ e.locks s d, P l) ∧ ∀ r, LocksOnly e P (next r)

theorem step_commit {x : α} {b : Pending S W L} (at_i : s.calls i = .running ⟨.pure x, b⟩) :
    step e w s { call := i } = some ({ s with committed := e.applyAll b.writes s.committed }.put i
      (.finished (.ok x))) := by
  simp only [step, at_i, Bool.false_eq_true, if_false]

/-- The next step of a call is enabled unless another one holds a lock that it asks for. -/
theorem enabled_or_blocked {a : Activity Result W L ε α} (at_i : s.calls i = .running a)
    (goes_on : ∀ err, a.program ≠ .throw err) :
    (∃ t, step e w s { call := i } = some t) ∨
      ∃ stmt failure next, a.program = .statement stmt failure next ∧
        Blocked e s i stmt (e.applyAll a.pending.writes s.committed) := by
  obtain ⟨p, b⟩ := a
  cases p with
  | throw err => exact absurd rfl (goes_on err)
  | pure x => exact .inl ⟨_, step_commit at_i⟩
  | statement stmt failure next =>
      by_cases blocked : Blocked e s i stmt (e.applyAll b.writes s.committed)
      · exact .inr ⟨stmt, failure, next, rfl, blocked⟩
      · refine .inl ?_
        simp only [step, at_i, blocked, Bool.false_eq_true, if_false]
        split <;> exact ⟨_, rfl⟩

/-- A call that asks only for locks which every call takes last waits, if it does, for the commit
of another one. -/
theorem enabled_or_awaits_commit {db : D} {P : L → Prop}
    (shared : ∀ l l', e.conflicts l l' = true → P l → P l')
    (last : ∀ i, (w.program i).LocksLast e P) (only : (w.program i).LocksOnly e P)
    (run : Transition.exec (step e w) (start w db) ls = some s) {a : Activity Result W L ε α}
    (at_i : s.calls i = .running a) :
    (∃ t, step e w s { call := i } = some t) ∨
      ∃ j, j ≠ i ∧ ∃ x b, s.calls j = .running ⟨.pure x, b⟩ := by
  have running : Running (fun j p b => p.LocksLast e P ∧ ((∃ l ∈ b.locks, P l) → ∃ x, p = .pure x) ∧
      (j = i → p.LocksOnly e P)) s := by
    refine running_run (fun j => ⟨last j, nofun, fun same => same ▸ only⟩) ?_ run
    rintro j stmt failure next b view r ws ⟨⟨last, rest⟩, held, asks⟩ exec
    refine ⟨rest r, ?_, fun same => (asks same).2 r⟩
    rintro ⟨l, here, matching⟩
    obtain new | old := List.mem_append.mp here
    · exact last view r ws exec ⟨l, new, matching⟩
    · obtain ⟨x, pure⟩ := held ⟨l, old, matching⟩
      cases pure
  obtain ⟨goes_on, -, -, asks⟩ := running i a at_i
  refine (enabled_or_blocked at_i goes_on).imp_right ?_
  rintro ⟨stmt, failure, next, program, l, mine, j, other, l', held, conflict⟩
  have asks := asks rfl
  rw [program] at asks
  cases at_j : s.calls j with
  | finished r => simp [at_j, Call.locks] at held
  | running b =>
      rw [at_j] at held
      obtain ⟨-, -, pure, -⟩ := running j b at_j
      obtain ⟨x, done⟩ := pure ⟨l', held, shared l l' conflict (asks.1 _ l mine)⟩
      exact ⟨j, other, x, b.pending, by rw [at_j, ← done]⟩

end Sql.Transactions
