import WorldZero.Transition
import Mathlib.Data.Fintype.Basic

/-!
# Transactions of arbitrary statements

`Sql.Program` knows statements on single keyed rows. Here a statement is anything that an
`Engine` can execute: it reads the tables that it sees, returns a result and the row
changes to make, and names the locks that it takes. `run` executes a call alone;
`step` interleaves the statements of any number of transactions under READ COMMITTED,
where each statement sees what is committed, and what its own transaction has written, at
the moment when it is executed.

`RelyGuarantee.committed` is the rule for an invariant of the committed tables. It asks
of each transaction by itself that it restores the invariant when it commits, whatever
the others may have committed between its statements. What they may commit is the
`rely` of the transaction; it follows from the locks that the transaction holds, and,
where it relies on more than that, from a condition on the schedule.
-/

namespace Sql.Transactions

variable {S : Type} {Result : S → Type} {D W L ι ε α β : Type}

/-- A call: a tree of statements. `failure` is the error that the call reports if the
statement fails. -/
inductive Program (Result : S → Type) (ε α : Type) where
  | pure (a : α)
  | throw (e : ε)
  | statement (s : S) (failure : ε) (next : Result s → Program Result ε α)

namespace Program

def bind : Program Result ε α → (α → Program Result ε β) → Program Result ε β
  | .pure a, f => f a
  | .throw e, _ => .throw e
  | .statement s failure next, f => .statement s failure fun r => (next r).bind f

instance : Monad (Program Result ε) where
  pure := Program.pure
  bind := Program.bind

@[simp] theorem pure_def (a : α) : (Pure.pure a : Program Result ε α) = .pure a := rfl

@[simp] theorem bind_def (p : Program Result ε α) (f : α → Program Result ε β) :
    p >>= f = p.bind f := rfl

@[simp] theorem pure_bind (a : α) (f : α → Program Result ε β) :
    (Program.pure a).bind f = f a := rfl

@[simp] theorem throw_bind (e : ε) (f : α → Program Result ε β) :
    (Program.throw e).bind f = .throw e := rfl

@[simp] theorem statement_bind (s : S) (failure : ε) (next : Result s → Program Result ε α)
    (f : α → Program Result ε β) :
    (Program.statement s failure next).bind f = .statement s failure fun r => (next r).bind f :=
  rfl

/-- A single statement. -/
def call (s : S) (failure : ε) : Program Result ε (Result s) := .statement s failure .pure

@[simp] theorem call_bind (s : S) (failure : ε) (f : Result s → Program Result ε α) :
    (call s failure).bind f = .statement s failure f := rfl

def ofExcept : Except ε α → Program Result ε α
  | .ok a => .pure a
  | .error e => .throw e

@[simp] theorem ofExcept_ok (a : α) :
    (ofExcept (.ok a) : Program Result ε α) = .pure a := rfl

@[simp] theorem ofExcept_error (e : ε) :
    (ofExcept (.error e) : Program Result ε α) = .throw e := rfl

end Program

/-- How statements are executed. `exec` returns `none` when a constraint is violated. A
statement waits while another transaction holds a lock that conflicts with one of its own. -/
structure Engine (Result : S → Type) (D W L : Type) where
  exec : (s : S) → D → Option (Result s × List W)
  locks : S → D → List L
  apply : W → D → D
  conflicts : L → L → Bool

namespace Engine

variable (e : Engine Result D W L)

def applyAll (ws : List W) (d : D) : D := ws.foldl (fun d w => e.apply w d) d

@[simp] theorem applyAll_nil (d : D) : e.applyAll [] d = d := rfl

@[simp] theorem applyAll_cons (w : W) (ws : List W) (d : D) :
    e.applyAll (w :: ws) d = e.applyAll ws (e.apply w d) := rfl

/-- Execute the call alone. -/
def run : Program Result ε α → D → Except ε α × D
  | .pure a, d => (.ok a, d)
  | .throw err, d => (.error err, d)
  | .statement s failure next, d =>
      match e.exec s d with
      | none => (.error failure, d)
      | some (r, ws) => run (next r) (e.applyAll ws d)

theorem run_bind (p : Program Result ε α) (f : α → Program Result ε β) (d : D) :
    e.run (p.bind f) d =
      match e.run p d with
      | (.ok a, d') => e.run (f a) d'
      | (.error err, d') => (.error err, d') := by
  induction p generalizing d with
  | pure a => rfl
  | throw err => rfl
  | statement s failure next ih =>
      simp only [Program.statement_bind, run]
      cases e.exec s d with
      | none => rfl
      | some o => exact ih o.1 _

/-- `BEGIN … COMMIT`: an error rolls every change back. -/
def transaction (p : Program Result ε α) (d : D) : Except ε α × D :=
  match e.run p d with
  | (.ok a, d') => (.ok a, d')
  | (.error err, _) => (.error err, d)

/-- A call that returns has executed its first statement. -/
theorem exec_of_run {s : S} {failure : ε} {next : Result s → Program Result ε α} {d d' : D} {a : α}
    (h : e.run (.statement s failure next) d = (.ok a, d')) :
    ∃ r ws, e.exec s d = some (r, ws) ∧ e.run (next r) (e.applyAll ws d) = (.ok a, d') := by
  rw [run] at h
  split at h
  · cases h
  · next r ws exec => exact ⟨r, ws, exec, h⟩

/-- A transaction leaves its tables alone, or leaves what its call returns with. -/
theorem transaction_cases (p : Program Result ε α) (d : D) :
    (e.transaction p d).2 = d ∨ ∃ a, e.run p d = (.ok a, (e.transaction p d).2) := by
  unfold transaction
  rcases run : e.run p d with ⟨_ | a, d'⟩
  · exact .inl rfl
  · exact .inr ⟨a, rfl⟩

theorem run_of_transaction {p : Program Result ε α} {d d' : D} {a : α}
    (h : e.transaction p d = (.ok a, d')) : e.run p d = (.ok a, d') := by
  unfold transaction at h
  split at h
  next a d₁ run =>
    cases h
    exact run
  · cases h

end Engine

/-! ### READ COMMITTED -/

/-- What a transaction in progress has written, the locks that it holds, and the statements
that it has executed, the latest first. -/
structure Pending (S W L : Type) where
  writes : List W := []
  locks : List L := []
  log : List S := []

structure Activity (Result : S → Type) (W L ε α : Type) where
  program : Program Result ε α
  pending : Pending S W L

inductive Call (Result : S → Type) (W L ε α : Type) where
  | running (a : Activity Result W L ε α)
  | finished (r : Except ε α)

/-- An error abandons the transaction. -/
def Call.of (p : Program Result ε α) (pending : Pending S W L) : Call Result W L ε α :=
  match p with
  | .throw e => .finished (.error e)
  | p => .running ⟨p, pending⟩

structure Workload (ι : Type) (Result : S → Type) (ε α : Type) where
  program : ι → Program Result ε α
  commitFailure : ι → ε

structure State (ι : Type) (Result : S → Type) (D W L ε α : Type) where
  committed : D
  calls : ι → Call Result W L ε α

/-- The next statement of one transaction is taken, or fails. -/
structure Label (ι : Type) where
  call : ι
  fails : Bool := false
  deriving DecidableEq

variable (e : Engine Result D W L) (w : Workload ι Result ε α)

def start (db : D) : State ι Result D W L ε α :=
  { committed := db, calls := fun i => .of (w.program i) {} }

def State.put [DecidableEq ι] (s : State ι Result D W L ε α) (i : ι) (c : Call Result W L ε α) :
    State ι Result D W L ε α :=
  { s with calls := Function.update s.calls i c }

def Call.pending : Call Result W L ε α → Option (Pending S W L)
  | .running a => some a.pending
  | .finished _ => none

/-- The locks of a call in progress. -/
def Call.locks : Call Result W L ε α → List L
  | .running a => a.pending.locks
  | .finished _ => []

/-- A statement that has been executed on `view`. -/
def Pending.after (a : Pending S W L) (stmt : S) (view : D) (ws : List W) : Pending S W L where
  writes := a.writes ++ ws
  locks := e.locks stmt view ++ a.locks
  log := stmt :: a.log

/-- Another transaction holds a lock that conflicts with one of the statement's. -/
def Blocked (s : State ι Result D W L ε α) (i : ι) (stmt : S) (view : D) : Prop :=
  ∃ l ∈ e.locks stmt view, ∃ j, j ≠ i ∧ ∃ l' ∈ (s.calls j).locks, e.conflicts l l' = true

variable [DecidableEq ι] [Fintype ι]

instance (s : State ι Result D W L ε α) (i : ι) (stmt : S) (view : D) :
    Decidable (Blocked e s i stmt view) :=
  inferInstanceAs (Decidable (∃ l ∈ e.locks stmt view, ∃ j, j ≠ i ∧
    ∃ l' ∈ (s.calls j).locks, e.conflicts l l' = true))

/-- One statement, or the `COMMIT` of a transaction whose statements are done. -/
def step (s : State ι Result D W L ε α) (l : Label ι) : Option (State ι Result D W L ε α) :=
  match s.calls l.call with
  | .finished _ => none
  | .running a =>
      match a.program with
      | .throw _ => none
      | .pure x =>
          if l.fails then some (s.put l.call (.finished (.error (w.commitFailure l.call))))
          else some ({ s with committed := e.applyAll a.pending.writes s.committed }.put l.call
            (.finished (.ok x)))
      | .statement stmt failure next =>
          let view := e.applyAll a.pending.writes s.committed
          if l.fails then some (s.put l.call (.finished (.error failure)))
          else if Blocked e s l.call stmt view then none
          else match e.exec stmt view with
            | none => some (s.put l.call (.finished (.error failure)))
            | some (r, ws) =>
                some (s.put l.call (.of (next r) (a.pending.after e stmt view ws)))

variable {e w}

/-- What one step does: it fails, or the call commits, or its next statement is executed. -/
theorem step_eq_some {s t : State ι Result D W L ε α} {l : Label ι} (h : step e w s l = some t) :
    ∃ a, s.calls l.call = .running a ∧
      ((l.fails = true ∧ ∃ err, t = s.put l.call (.finished (.error err))) ∨
        l.fails = false ∧
          ((∃ x, a.program = .pure x ∧
            t = { s with committed := e.applyAll a.pending.writes s.committed }.put l.call
              (.finished (.ok x))) ∨
          ∃ stmt failure next, a.program = .statement stmt failure next ∧
            ¬ Blocked e s l.call stmt (e.applyAll a.pending.writes s.committed) ∧
            ((e.exec stmt (e.applyAll a.pending.writes s.committed) = none ∧
              t = s.put l.call (.finished (.error failure))) ∨
            ∃ r ws, e.exec stmt (e.applyAll a.pending.writes s.committed) = some (r, ws) ∧
              t = s.put l.call (.of (next r)
                (a.pending.after e stmt (e.applyAll a.pending.writes s.committed) ws))))) := by
  unfold step at h
  cases at_call : s.calls l.call with
  | finished r => simp [at_call] at h
  | running a =>
      refine ⟨a, rfl, ?_⟩
      simp only [at_call] at h
      cases program : a.program with
      | throw err => simp [program] at h
      | pure x =>
          simp only [program] at h
          split at h
          · next fails => exact .inl ⟨fails, _, (Option.some.inj h).symm⟩
          · next runs =>
              exact .inr ⟨by simpa using runs, .inl ⟨x, rfl, (Option.some.inj h).symm⟩⟩
      | statement stmt failure next =>
          simp only [program] at h
          split at h
          · next fails => exact .inl ⟨fails, _, (Option.some.inj h).symm⟩
          next runs =>
          split at h
          · cases h
          next free =>
            refine .inr ⟨by simpa using runs, .inr ⟨stmt, failure, next, rfl, free, ?_⟩⟩
            cases exec : e.exec stmt (e.applyAll a.pending.writes s.committed) with
            | none =>
                simp only [exec] at h
                exact .inl ⟨rfl, (Option.some.inj h).symm⟩
            | some o =>
                obtain ⟨r, ws⟩ := o
                simp only [exec] at h
                exact .inr ⟨r, ws, rfl, (Option.some.inj h).symm⟩

/-- What one step does: the call is abandoned without a trace, commits, or goes on. -/
theorem step_cases {s t : State ι Result D W L ε α} {l : Label ι} (h : step e w s l = some t) :
    ∃ a, s.calls l.call = .running a ∧
      ((∃ err, t = s.put l.call (.finished (.error err))) ∨
        (∃ x, a.program = .pure x ∧ l.fails = false ∧
          t = { s with committed := e.applyAll a.pending.writes s.committed }.put l.call
            (.finished (.ok x))) ∨
        ∃ stmt failure next r ws, a.program = .statement stmt failure next ∧
          ¬ Blocked e s l.call stmt (e.applyAll a.pending.writes s.committed) ∧
          e.exec stmt (e.applyAll a.pending.writes s.committed) = some (r, ws) ∧
          t = s.put l.call (.of (next r)
            (a.pending.after e stmt (e.applyAll a.pending.writes s.committed) ws))) := by
  obtain ⟨a, at_call, ⟨-, failed⟩ | ⟨runs, ⟨x, program, rfl⟩ | statement⟩⟩ := step_eq_some h
  · exact ⟨a, at_call, .inl failed⟩
  · exact ⟨a, at_call, .inr (.inl ⟨x, program, runs, rfl⟩)⟩
  · obtain ⟨stmt, failure, next, program, free, ⟨-, rfl⟩ | ⟨r, ws, exec, rfl⟩⟩ := statement
    · exact ⟨a, at_call, .inl ⟨failure, rfl⟩⟩
    · exact ⟨a, at_call, .inr (.inr ⟨stmt, failure, next, r, ws, program, free, exec, rfl⟩)⟩

/-- The changes that a step commits. -/
def committing (s : State ι Result D W L ε α) (l : Label ι) : List W :=
  match s.calls l.call with
  | .running ⟨.pure _, a⟩ => if l.fails then [] else a.writes
  | _ => []

/-- No change that the step commits disturbs another transaction in progress. -/
def Undisturbed (disturbs : ι → W → Pending S W L → Prop) (s : State ι Result D W L ε α)
    (l : Label ι) : Prop :=
  ∀ w ∈ committing s l, ∀ j, j ≠ l.call → ∀ b ∈ (s.calls j).pending, ¬ disturbs j w b

instance (disturbs : ι → W → Pending S W L → Prop) [∀ i w a, Decidable (disturbs i w a)]
    (s : State ι Result D W L ε α) (l : Label ι) : Decidable (Undisturbed disturbs s l) :=
  inferInstanceAs (Decidable (∀ w ∈ committing s l, ∀ j, j ≠ l.call →
    ∀ b ∈ (s.calls j).pending, ¬ disturbs j w b))

/-! ### Rely and guarantee -/

/-- An invariant of the committed tables, and for each transaction in progress the changes
of the committed tables that it tolerates. `owners` are the locks that a transaction holds
when it has made a change; `disturbs` are the changes that the locks do not exclude. -/
structure RelyGuarantee (e : Engine Result D W L) (ι : Type) where
  inv : D → Prop
  rely : ι → Pending S W L → D → D → Prop
  owners : W → List L
  disturbs : ι → W → Pending S W L → Prop
  symm : ∀ l l', e.conflicts l l' = true → e.conflicts l' l = true
  owned : ∀ s d r ws, e.exec s d = some (r, ws) → ∀ w ∈ ws, ∀ l ∈ owners w, l ∈ e.locks s d
  rely_refl : ∀ i a d, rely i a d d
  rely_trans : ∀ i a d d' d'', rely i a d d' → rely i a d' d'' → rely i a d d''
  guarantee : ∀ i a w d, (∀ l ∈ owners w, ∀ l' ∈ a.locks, e.conflicts l l' = false) →
    ¬ disturbs i w a → rely i a d (e.apply w d)

namespace RelyGuarantee

variable (g : RelyGuarantee e ι)

/-- The transaction can go on, and restores the invariant if it commits, whatever others
commit before each of its steps as far as it tolerates it. -/
def Safe (i : ι) : Program Result ε α → Pending S W L → D → Prop
  | .pure _, a, d => ∀ d', g.rely i a d d' → g.inv d' → g.inv (e.applyAll a.writes d')
  | .throw _, _, _ => True
  | .statement s _ next, a, d => ∀ d', g.rely i a d d' → g.inv d' →
      ∀ r ws, e.exec s (e.applyAll a.writes d') = some (r, ws) →
        Safe i (next r) (a.after e s (e.applyAll a.writes d') ws) d'

/-- The invariant holds of the committed tables, each transaction in progress is safe and
owns its changes, and no two of them hold conflicting locks. -/
structure Coherent (s : State ι Result D W L ε α) : Prop where
  inv : g.inv s.committed
  safe : ∀ i a, s.calls i = .running a → g.Safe i a.program a.pending s.committed
  owns : ∀ i a, s.calls i = .running a →
    ∀ w ∈ a.pending.writes, ∀ l ∈ g.owners w, l ∈ a.pending.locks
  exclusive : ∀ i j, i ≠ j → ∀ l ∈ (s.calls i).locks, ∀ l' ∈ (s.calls j).locks,
    e.conflicts l l' = false

variable {g} {i : ι} {p : Program Result ε α} {a : Pending S W L} {d d' : D}

omit [DecidableEq ι] [Fintype ι] in
theorem Safe.later (h : g.Safe i p a d) (change : g.rely i a d d') : g.Safe i p a d' := by
  cases p with
  | pure x => exact fun d'' later => h d'' (g.rely_trans i a d d' d'' change later)
  | throw err => trivial
  | statement s failure next =>
      exact fun d'' later => h d'' (g.rely_trans i a d d' d'' change later)

omit [DecidableEq ι] [Fintype ι] in
theorem rely_applyAll {ws : List W}
    (free : ∀ w ∈ ws, ∀ l ∈ g.owners w, ∀ l' ∈ a.locks, e.conflicts l l' = false)
    (calm : ∀ w ∈ ws, ¬ g.disturbs i w a) : g.rely i a d (e.applyAll ws d) := by
  induction ws generalizing d with
  | nil => exact g.rely_refl i a d
  | cons w ws ih =>
      refine g.rely_trans i a d (e.apply w d) _ ?_ ?_
      · exact g.guarantee i a w d (free w List.mem_cons_self) (calm w List.mem_cons_self)
      · exact ih (fun w' h => free w' (List.mem_cons_of_mem w h))
          fun w' h => calm w' (List.mem_cons_of_mem w h)

omit [DecidableEq ι] [Fintype ι] in
theorem Call.of_eq_running {a : Pending S W L} {b : Activity Result W L ε α}
    (h : Call.of p a = .running b) : b = ⟨p, a⟩ := by
  cases p <;> cases h <;> rfl

omit [DecidableEq ι] [Fintype ι] in
theorem Call.locks_of_subset {l : L} (h : l ∈ (Call.of p a).locks) : l ∈ a.locks := by
  cases p with
  | pure x => exact h
  | throw err => cases h
  | statement s failure next => exact h

section
variable {s t : State ι Result D W L ε α} {l : Label ι}

omit [Fintype ι] in
/-- A call that leaves gives up its locks only. -/
theorem Coherent.finish (h : g.Coherent s) (r : Except ε α) :
    g.Coherent (s.put i (.finished r)) where
  inv := h.inv
  safe j a at_j := by
    by_cases same : j = i
    · subst same
      simp [State.put] at at_j
    · exact h.safe j a (by simpa [State.put, same] using at_j)
  owns j a at_j := by
    by_cases same : j = i
    · subst same
      simp [State.put] at at_j
    · exact h.owns j a (by simpa [State.put, same] using at_j)
  exclusive j k other l hl l' hl' := by
    by_cases same : j = i
    · subst same
      simp [State.put, Call.locks] at hl
    by_cases same' : k = i
    · subst same'
      simp [State.put, Call.locks] at hl'
    exact h.exclusive j k other l (by simpa [State.put, same] using hl) l'
      (by simpa [State.put, same'] using hl')

omit [DecidableEq ι] [Fintype ι] in
/-- Another call tolerates a commit that is undisturbed. -/
theorem Coherent.tolerates {a b : Activity Result W L ε α} {j : ι} (h : g.Coherent s)
    (at_i : s.calls i = .running a) (other : j ≠ i) (at_j : s.calls j = .running b)
    (calm : ∀ w ∈ a.pending.writes, ¬ g.disturbs j w b.pending) :
    g.rely j b.pending s.committed (e.applyAll a.pending.writes s.committed) := by
  refine rely_applyAll (fun w hw l hl l' hl' => ?_) calm
  exact h.exclusive i j other.symm l (by rw [at_i]; exact h.owns i a at_i w hw l hl) l'
    (by rw [at_j]; exact hl')

omit [Fintype ι] in
theorem Coherent.commit {a : Activity Result W L ε α} {x : α} (h : g.Coherent s)
    (at_i : s.calls i = .running a) (program : a.program = .pure x)
    (calm : ∀ w ∈ a.pending.writes, ∀ j, j ≠ i → ∀ b, s.calls j = .running b →
      ¬ g.disturbs j w b.pending) (r : Except ε α) :
    g.Coherent ({ s with committed := e.applyAll a.pending.writes s.committed }.put i
      (.finished r)) := by
  have left := h.finish (i := i) r
  refine { left with inv := ?_, safe := fun j b at_j => ?_ }
  · have safe := h.safe i a at_i
    rw [program] at safe
    exact safe _ (g.rely_refl i _ _) h.inv
  · have other : j ≠ i := by
      rintro rfl
      simp [State.put] at at_j
    have at_j' : s.calls j = .running b := by simpa [State.put, other] using at_j
    exact (h.safe j b at_j').later
      (h.tolerates at_i other at_j' fun w hw => calm w hw j other b at_j')

omit [Fintype ι] in
theorem Coherent.proceed {a : Activity Result W L ε α} {stmt : S} {failure : ε}
    {next : Result stmt → Program Result ε α} {r : Result stmt} {ws : List W}
    (h : g.Coherent s) (at_i : s.calls i = .running a)
    (program : a.program = .statement stmt failure next)
    (free : ¬ Blocked e s i stmt (e.applyAll a.pending.writes s.committed))
    (exec : e.exec stmt (e.applyAll a.pending.writes s.committed) = some (r, ws)) :
    g.Coherent (s.put i (.of (next r)
      (a.pending.after e stmt (e.applyAll a.pending.writes s.committed) ws))) := by
  have newly : ∀ l ∈ e.locks stmt (e.applyAll a.pending.writes s.committed), ∀ j, j ≠ i →
      ∀ l' ∈ (s.calls j).locks, e.conflicts l l' = false := by
    intro l hl j other l' hl'
    by_contra conflict
    exact free ⟨l, hl, j, other, l', hl', by simpa using conflict⟩
  -- the locks that the call holds now do not conflict with those of another one
  have apart : ∀ l ∈ (Call.of (next r)
      (a.pending.after e stmt (e.applyAll a.pending.writes s.committed) ws)).locks,
      ∀ j, j ≠ i → ∀ l' ∈ (s.calls j).locks, e.conflicts l l' = false := by
    intro l hl j other l' hl'
    obtain new | old := List.mem_append.mp (Call.locks_of_subset hl)
    · exact newly l new j other l' hl'
    · exact h.exclusive i j other.symm l (by rw [at_i]; exact old) l' hl'
  refine { inv := h.inv, safe := ?_, owns := ?_, exclusive := ?_ }
  · intro j b at_j
    by_cases same : j = i
    · subst same
      obtain rfl := Call.of_eq_running (by simpa [State.put] using at_j)
      have safe := h.safe j a at_i
      rw [program] at safe
      exact safe _ (g.rely_refl j _ _) h.inv r ws exec
    · exact h.safe j b (by simpa [State.put, same] using at_j)
  · intro j b at_j
    by_cases same : j = i
    · subst same
      obtain rfl := Call.of_eq_running (by simpa [State.put] using at_j)
      intro w hw l hl
      obtain old | new := List.mem_append.mp hw
      · exact List.mem_append_right _ (h.owns j a at_i w old l hl)
      · exact List.mem_append_left _ (g.owned stmt _ r ws exec w new l hl)
    · exact h.owns j b (by simpa [State.put, same] using at_j)
  · intro j k other l hl l' hl'
    by_cases same : j = i
    · subst same
      have hl'' : l' ∈ (s.calls k).locks := by simpa [State.put, other.symm] using hl'
      exact apart l (by simpa [State.put] using hl) k other.symm l' hl''
    have hl'' : l ∈ (s.calls j).locks := by simpa [State.put, same] using hl
    by_cases same' : k = i
    · subst same'
      have := apart l' (by simpa [State.put] using hl') j other l hl''
      exact Bool.eq_false_iff.mpr fun conflict =>
        Bool.eq_false_iff.mp this (g.symm l l' conflict)
    · exact h.exclusive j k other l hl'' l' (by simpa [State.put, same'] using hl')

omit [DecidableEq ι] [Fintype ι] in
theorem committing_eq {a : Activity Result W L ε α} {x : α}
    (at_call : s.calls l.call = .running a) (program : a.program = .pure x)
    (commits : l.fails = false) : committing s l = a.pending.writes := by
  obtain ⟨p, pending⟩ := a
  obtain rfl : p = .pure x := program
  simp only [committing, at_call, commits, Bool.false_eq_true, if_false]

theorem Coherent.step (h : g.Coherent s) (calm : Undisturbed g.disturbs s l)
    (taken : step e w s l = some t) : g.Coherent t := by
  obtain ⟨a, at_call, abandoned | committed | proceeds⟩ := step_cases taken
  · obtain ⟨err, rfl⟩ := abandoned
    exact h.finish _
  · obtain ⟨x, program, commits, rfl⟩ := committed
    refine h.commit at_call program (fun w hw j other b at_j => ?_) _
    rw [← committing_eq at_call program commits] at hw
    exact calm w hw j other b.pending (by rw [at_j]; rfl)
  · obtain ⟨stmt, failure, next, r, ws, program, free, exec, rfl⟩ := proceeds
    exact h.proceed at_call program free exec

end

variable {db : D} {ls : List (Label ι)}

omit [DecidableEq ι] [Fintype ι] in
theorem coherent_start (holds : g.inv db) (safe : ∀ i, g.Safe i (w.program i) {} db) :
    g.Coherent (start w db) where
  inv := holds
  safe i a at_i := by
    obtain rfl := Call.of_eq_running at_i
    exact safe i
  owns i a at_i := by
    obtain rfl := Call.of_eq_running at_i
    exact nofun
  exclusive i j _ l hl := absurd (Call.locks_of_subset hl) List.not_mem_nil

/-- The invariant holds of the committed tables throughout a schedule in which nothing is
disturbed. -/
theorem committed (holds : g.inv db) (safe : ∀ i, g.Safe i (w.program i) {} db)
    (legal : Transition.Admissible (step e w) (Undisturbed g.disturbs) (start w db) ls) :
    ∀ front, front <+: ls → ∀ t, Transition.exec (step e w) (start w db) front = some t →
      g.inv t.committed := by
  intro front front_of t run
  have coherent : g.Coherent t :=
    Transition.throughout (I := g.Coherent) (fun _ _ _ h calm taken => h.step calm taken)
      (coherent_start holds safe) legal front front_of t run
  exact coherent.inv

/-! ### What a call concludes with -/

/-- When the call is about to commit its result, whatever others have committed before each of
its steps as far as it tolerates it, `post` holds. -/
def Concludes (g : RelyGuarantee e ι) (i : ι) (post : α → Pending S W L → D → Prop) :
    Program Result ε α → Pending S W L → D → Prop
  | .pure x, a, d => ∀ d', g.rely i a d d' → g.inv d' → post x a d'
  | .throw _, _, _ => True
  | .statement s _ next, a, d => ∀ d', g.rely i a d d' → g.inv d' →
      ∀ r ws, e.exec s (e.applyAll a.writes d') = some (r, ws) →
        Concludes g i post (next r) (a.after e s (e.applyAll a.writes d') ws) d'

section Concludes

variable {post : α → Pending S W L → D → Prop}

omit [DecidableEq ι] [Fintype ι] in
theorem Concludes.later (h : g.Concludes i post p a d) (change : g.rely i a d d') :
    g.Concludes i post p a d' := by
  cases p with
  | pure x => exact fun d'' later => h d'' (g.rely_trans i a d d' d'' change later)
  | throw err => trivial
  | statement s failure next =>
      exact fun d'' later => h d'' (g.rely_trans i a d d' d'' change later)

omit [DecidableEq ι] [Fintype ι] in
/-- A call that concludes with the invariant is safe. -/
theorem Concludes.safe (h : g.Concludes i post p a d)
    (restores : ∀ x a d, post x a d → g.inv d → g.inv (e.applyAll a.writes d)) :
    g.Safe i p a d := by
  induction p generalizing a d with
  | pure x => exact fun d' change holds => restores x a d' (h d' change holds) holds
  | throw err => trivial
  | statement s failure next ih =>
      exact fun d' change holds r ws exec => ih r (h d' change holds r ws exec)

end Concludes

/-- Each call in progress concludes as told for it. -/
def Concluding (g : RelyGuarantee e ι) (post : ι → α → Pending S W L → D → Prop)
    (s : State ι Result D W L ε α) : Prop :=
  ∀ i a, s.calls i = .running a → g.Concludes i (post i) a.program a.pending s.committed

section Concluding

variable {post : ι → α → Pending S W L → D → Prop} {s t : State ι Result D W L ε α} {l : Label ι}

omit [Fintype ι] in
theorem Concluding.finish (h : g.Concluding post s) (r : Except ε α) :
    g.Concluding post (s.put i (.finished r)) := by
  intro j b at_j
  by_cases same : j = i
  · subst same
    simp [State.put] at at_j
  · exact h j b (by simpa [State.put, same] using at_j)

theorem Concluding.step (h : g.Concluding post s) (coherent : g.Coherent s)
    (calm : Undisturbed g.disturbs s l) (taken : step e w s l = some t) :
    g.Concluding post t := by
  obtain ⟨a, at_call, abandoned | committed | proceeds⟩ := step_cases taken
  · obtain ⟨err, rfl⟩ := abandoned
    exact h.finish _
  · obtain ⟨x, program, commits, rfl⟩ := committed
    intro j b at_j
    have other : j ≠ l.call := by
      rintro rfl
      simp [State.put] at at_j
    have at_j' : s.calls j = .running b := by simpa [State.put, other] using at_j
    refine (h j b at_j').later (coherent.tolerates at_call other at_j' fun w hw => ?_)
    rw [← committing_eq at_call program commits] at hw
    exact calm w hw j other b.pending (by rw [at_j']; rfl)
  · obtain ⟨stmt, failure, next, r, ws, program, -, exec, rfl⟩ := proceeds
    intro j b at_j
    by_cases same : j = l.call
    · subst same
      obtain rfl := Call.of_eq_running (by simpa [State.put] using at_j)
      have concludes := h l.call a at_call
      rw [program] at concludes
      exact concludes _ (g.rely_refl l.call _ _) coherent.inv r ws exec
    · exact h j b (by simpa [State.put, same] using at_j)

omit [DecidableEq ι] [Fintype ι] in
/-- A call that commits has concluded. -/
theorem Concluding.commits {a : Activity Result W L ε α} {x : α} (h : g.Concluding post s)
    (coherent : g.Coherent s) (at_i : s.calls i = .running a) (program : a.program = .pure x) :
    post i x a.pending s.committed := by
  have concludes := h i a at_i
  rw [program] at concludes
  exact concludes _ (g.rely_refl i _ _) coherent.inv

omit [DecidableEq ι] [Fintype ι] in
theorem concluding_start {db : D} (concludes : ∀ i, g.Concludes i (post i) (w.program i) {} db) :
    g.Concluding post (start w db) := by
  intro i a at_i
  obtain rfl := Call.of_eq_running at_i
  exact concludes i

end Concluding

end RelyGuarantee

end Sql.Transactions
