import WorldZero.Transition
import WorldZero.Sql.Logic
import Mathlib.Algebra.BigOperators.Ring.Finset
import Mathlib.Data.Fintype.Basic

/-!
# Concurrent calls under READ COMMITTED

A workload is a family of calls. Each call is either a transaction, which keeps
its row images and row locks to itself until it commits, or a sequence of
autocommitted statements. A schedule interleaves single statements. A statement
that must lock a row held by another call is not enabled until the lock is
released, and then sees the row as it is at that moment. Any statement may also
fail for a reason outside the model, a deadlock for instance.

`measure_committed` is the accounting rule: if the serial logic says that each
call changes a row by `delta` when it returns, then in every schedule that leaves
watched reads undisturbed, the committed rows are the initial ones plus the
deltas of the calls that have returned.
-/

namespace Sql.ReadCommitted

variable {ι K : Type} {V : K → Type} {ε α : Type}

/-- How a call uses its connection; a transaction names the error of a failed
`COMMIT`. -/
inductive Mode (ε : Type) where
  | autocommit
  | transaction (commitFailure : ε)
  deriving DecidableEq

/-- The calls issued, and which of them rely on what they have merely read. -/
structure Workload (ι : Type) (V : K → Type) (ε α : Type) where
  mode : ι → Mode ε
  program : ι → Program V ε α
  watch : ι → Bool

/-- A call in progress: the statements to come, its uncommitted row images, the
row locks that it holds, and the rows that it has read without a lock. -/
structure Activity (V : K → Type) (ε α : Type) where
  program : Program V ε α
  writes : List (Write V) := []
  locks : List K := []
  reads : List K := []

inductive Call (V : K → Type) (ε α : Type) where
  | running (a : Activity V ε α)
  | finished (r : Except ε α)

def Call.locks : Call V ε α → List K
  | .running a => a.locks
  | .finished _ => []

def Call.reads : Call V ε α → List K
  | .running a => a.reads
  | .finished _ => []

def Call.returnedOk : Call V ε α → Bool
  | .finished (.ok _) => true
  | _ => false

def Call.isFinished : Call V ε α → Bool
  | .finished _ => true
  | .running _ => false

structure State (ι : Type) (V : K → Type) (ε α : Type) where
  committed : Table V
  calls : ι → Call V ε α

/-- The next statement of one call is taken, or fails. -/
structure Label (ι : Type) where
  call : ι
  fails : Bool
  deriving DecidableEq

/-- Client-side progress: an error abandons the call, and an autocommitting call
has nothing left to commit when it returns. -/
def Activity.resume (mode : Mode ε) (a : Activity V ε α) : Call V ε α :=
  match a.program, mode with
  | .throw e, _ => .finished (.error e)
  | .pure x, .autocommit => .finished (.ok x)
  | _, _ => .running a

def start (w : Workload ι V ε α) (db : Table V) : State ι V ε α :=
  { committed := db, calls := fun i => Activity.resume (w.mode i) { program := w.program i } }

def readsOf : Stmt V → List K
  | .select k => [k]
  | _ => []

section
variable [DecidableEq K]

/-- The row that a statement must lock. An insertion also waits for a row that
another call has inserted and not yet committed. -/
def waitsFor (s : Stmt V) (view : Table V) : List K :=
  match s with
  | .select _ | .count _ => []
  | .selectForUpdate k | .update k _ | .delete k =>
      if (view.lookup k).isSome then [k] else []
  | .upsert k _ _ _ => [k]

/-- A call sees the committed rows through its own uncommitted images. -/
def Activity.view (a : Activity V ε α) (committed : Table V) : Table V :=
  applyAll a.writes committed

end

namespace State

variable [DecidableEq ι]

def put (s : State ι V ε α) (i : ι) (c : Call V ε α) : State ι V ε α :=
  { s with calls := Function.update s.calls i c }

variable [DecidableEq K]

def commit (s : State ι V ε α) (ws : List (Write V)) : State ι V ε α :=
  { s with committed := applyAll ws s.committed }

/-- The call after a statement that returned `o`. -/
def proceed (s : State ι V ε α) (mode : Mode ε) (i : ι) (a : Activity V ε α) (stmt : Stmt V)
    (o : Outcome V stmt.Result) (next : Program V ε α) : State ι V ε α :=
  match mode with
  | .autocommit =>
      (s.commit o.writes).put i (Activity.resume mode
        { program := next, reads := readsOf stmt ++ a.reads })
  | .transaction _ =>
      s.put i (Activity.resume mode
        { program := next, writes := a.writes ++ o.writes, locks := o.locks ++ a.locks,
          reads := readsOf stmt ++ a.reads })

end State

section
variable [DecidableEq ι] [Fintype ι] [DecidableEq K]

/-- Another call holds a lock that the statement needs. -/
def Blocked (s : State ι V ε α) (i : ι) (stmt : Stmt V) (view : Table V) : Prop :=
  ∃ k ∈ waitsFor stmt view, ∃ j, j ≠ i ∧ k ∈ (s.calls j).locks

instance (s : State ι V ε α) (i : ι) (stmt : Stmt V) (view : Table V) :
    Decidable (Blocked s i stmt view) :=
  inferInstanceAs (Decidable (∃ k ∈ waitsFor stmt view, ∃ j, j ≠ i ∧ k ∈ (s.calls j).locks))

/-- One statement, or the `COMMIT` of a transaction whose statements are done. -/
def step (w : Workload ι V ε α) (s : State ι V ε α) (l : Label ι) : Option (State ι V ε α) :=
  match s.calls l.call with
  | .finished _ => none
  | .running a =>
      match a.program, w.mode l.call with
      | .throw _, _ => none
      | .pure _, .autocommit => none
      | .pure x, .transaction commitFailure =>
          if l.fails then some (s.put l.call (.finished (.error commitFailure)))
          else some ((s.commit a.writes).put l.call (.finished (.ok x)))
      | .statement stmt failure next, mode =>
          if l.fails then some (s.put l.call (.finished (.error failure)))
          else if Blocked s l.call stmt (a.view s.committed) then none
          else match stmt.exec (a.view s.committed) with
            | none => some (s.put l.call (.finished (.error failure)))
            | some o => some (s.proceed mode l.call a stmt o (next o.result))

/-- The step commits no change to a row that another watched call has read. -/
def Undisturbed (w : Workload ι V ε α) (s : State ι V ε α) (l : Label ι) : Prop :=
  ∀ t ∈ step w s l, ∀ j, j ≠ l.call → w.watch j = true →
    ∀ k ∈ (s.calls j).reads, t.committed.lookup k = s.committed.lookup k

instance [∀ k, DecidableEq (V k)] (w : Workload ι V ε α) (s : State ι V ε α) (l : Label ι) :
    Decidable (Undisturbed w s l) :=
  inferInstanceAs (Decidable (∀ t ∈ step w s l, ∀ j, j ≠ l.call → w.watch j = true →
    ∀ k ∈ (s.calls j).reads, t.committed.lookup k = s.committed.lookup k))

/-- What one step does: the call is abandoned without a trace, a transaction
commits, or a statement goes through. -/
theorem step_cases {w : Workload ι V ε α} {s t : State ι V ε α} {l : Label ι}
    (h : step w s l = some t) :
    ∃ a, s.calls l.call = .running a ∧
      ((∃ e, t = s.put l.call (.finished (.error e))) ∨
        (∃ x failure, a.program = .pure x ∧ w.mode l.call = .transaction failure ∧
          t = (s.commit a.writes).put l.call (.finished (.ok x))) ∨
        ∃ stmt failure next o, a.program = .statement stmt failure next ∧
          ¬ Blocked s l.call stmt (a.view s.committed) ∧
          stmt.exec (a.view s.committed) = some o ∧
          t = s.proceed (w.mode l.call) l.call a stmt o (next o.result)) := by
  unfold step at h
  cases hc : s.calls l.call with
  | finished r => simp [hc] at h
  | running a =>
      refine ⟨a, rfl, ?_⟩
      simp only [hc] at h
      cases hprogram : a.program with
      | throw e => simp [hprogram] at h
      | pure x =>
          cases hmode : w.mode l.call with
          | autocommit => simp [hprogram, hmode] at h
          | transaction failure =>
              simp only [hprogram, hmode] at h
              split at h
              · exact .inl ⟨failure, (Option.some.inj h).symm⟩
              · exact .inr (.inl ⟨x, failure, rfl, rfl, (Option.some.inj h).symm⟩)
      | statement stmt failure next =>
          simp only [hprogram] at h
          split at h
          · exact .inl ⟨failure, (Option.some.inj h).symm⟩
          split at h
          · cases h
          next free =>
            cases hexec : stmt.exec (a.view s.committed) with
            | none =>
                simp only [hexec] at h
                exact .inl ⟨failure, (Option.some.inj h).symm⟩
            | some o =>
                simp only [hexec] at h
                exact .inr (.inr ⟨stmt, failure, next, o, rfl, free, hexec,
                  (Option.some.inj h).symm⟩)

end

/-! ### Soundness of the serial logic under interleaving -/

/-- The logic describes a call in progress: everything that the call relies on is
locked, or read by a watched call, and everything that it has written is relied
on. -/
def Activity.Sound [DecidableEq K] (a : Activity V ε α) (watch : Bool)
    (Q : α → Footprint V → Prop) (committed : Table V) : Prop :=
  ∃ F : Footprint V, a.program.wp watch Q F ∧ F.Holds committed (a.view committed) ∧
    (∀ k, F k ≠ none → k ∈ a.locks ∨ (watch = true ∧ k ∈ a.reads)) ∧
    ∀ w ∈ a.writes, w.1 ∈ a.locks ∧ F w.1 ≠ none

def isRead : Stmt V → Bool
  | .select _ | .count _ => true
  | _ => false

/-- Every statement that locks or writes a row is the last one of the call. -/
def LocksLast : Program V ε α → Prop
  | .pure _ | .throw _ => True
  | .statement s _ next =>
      ∀ r, LocksLast (next r) ∧ (isRead s = true ∨ ∃ x, next r = .pure x)

/-- A call that neither locks nor writes. -/
def ReadsOnly : Program V ε α → Prop
  | .pure _ | .throw _ => True
  | .statement s _ next => isRead s = true ∧ ∀ r, ReadsOnly (next r)

section
variable {β : Type} {p : Program V ε α}

theorem LocksLast.last (s : Stmt V) (failure : ε) (f : s.Result → β) :
    LocksLast (.statement s failure fun r => (.pure (f r) : Program V ε β)) :=
  fun r => ⟨trivial, .inr ⟨f r, rfl⟩⟩

theorem ReadsOnly.bind {f : α → Program V ε β} (h : ReadsOnly p) (rest : ∀ a, LocksLast (f a)) :
    LocksLast (p.bind f) := by
  induction p with
  | pure a => exact rest a
  | throw e => trivial
  | statement s failure next ih => exact fun r => ⟨ih r (h.2 r), .inl h.1⟩

theorem LocksLast.map (h : LocksLast p) (f : α → β) :
    LocksLast (p.bind fun a => .pure (f a)) := by
  induction p with
  | pure a => trivial
  | throw e => trivial
  | statement s failure next ih =>
      refine fun r => ⟨ih r (h r).1, (h r).2.imp_right ?_⟩
      rintro ⟨x, hx⟩
      exact ⟨f x, by simp only [hx, Program.pure_bind]⟩

end

variable [DecidableEq K]

/-- A call stays sound as long as the committed rows that it relies on stay. -/
theorem Activity.Sound.congr {a : Activity V ε α} {watch : Bool} {Q : α → Footprint V → Prop}
    {committed committed' : Table V} (h : a.Sound watch Q committed)
    (locked : ∀ k ∈ a.locks, committed'.lookup k = committed.lookup k)
    (read : watch = true → ∀ k ∈ a.reads, committed'.lookup k = committed.lookup k) :
    a.Sound watch Q committed' := by
  obtain ⟨F, hwp, holds, known, written⟩ := h
  refine ⟨F, hwp, fun k => ?_, known, written⟩
  cases hF : F k with
  | none =>
      have unwritten : ∀ w ∈ a.writes, k ≠ w.1 := by
        rintro w hw rfl
        exact (written w hw).2 hF
      rw [Footprint.admits_of_none hF]
      exact (lookup_applyAll_of_notMem committed' unwritten).symm
  | some i =>
      have kept : committed'.lookup k = committed.lookup k := by
        rcases known k (by simp [hF]) with hk | ⟨hwatch, hk⟩
        · exact locked k hk
        · exact read hwatch k hk
      have hk := holds k
      rw [Footprint.admits_of_some hF] at hk ⊢
      rw [← hk, kept]
      simp only [Activity.view, lookup_applyAll_congr kept]

/-- A statement locks only rows that it has waited for. -/
theorem locks_subset_waitsFor {stmt : Stmt V} {view : Table V} {o : Outcome V stmt.Result}
    (h : stmt.exec view = some o) {k : K} (hk : k ∈ o.locks) : k ∈ waitsFor stmt view := by
  cases stmt with
  | select key =>
      obtain rfl : _ = o := Option.some.inj h
      exact hk
  | count rows =>
      obtain rfl : _ = o := Option.some.inj h
      exact hk
  | selectForUpdate key =>
      cases hrow : view.lookup key <;> simp only [Stmt.exec, hrow] at h <;>
        obtain rfl : _ = o := Option.some.inj h
      · cases hk
      · simpa [waitsFor, hrow] using hk
  | update key set =>
      cases hrow : view.lookup key with
      | none =>
          simp only [Stmt.exec, hrow] at h
          obtain rfl : _ = o := Option.some.inj h
          cases hk
      | some v =>
          simp only [Stmt.exec, hrow] at h
          obtain ⟨w, -, rfl⟩ := Option.map_eq_some_iff.mp h
          simpa [waitsFor, hrow] using hk
  | delete key =>
      cases hrow : view.lookup key <;> simp only [Stmt.exec, hrow] at h <;>
        obtain rfl : _ = o := Option.some.inj h
      · cases hk
      · simpa [waitsFor, hrow] using hk
  | upsert key references row merge =>
      obtain ⟨w, -, rfl⟩ := Option.map_eq_some_iff.mp h
      exact hk

/-- A statement locks the rows that it writes. -/
theorem mem_locks_of_mem_writes {stmt : Stmt V} {view : Table V} {o : Outcome V stmt.Result}
    (h : stmt.exec view = some o) {w : Write V} (hw : w ∈ o.writes) : w.1 ∈ o.locks := by
  cases stmt with
  | select key | count rows =>
      cases h
      cases hw
  | selectForUpdate key =>
      simp only [Stmt.exec] at h
      split at h <;> cases h <;> cases hw
  | update key set =>
      simp only [Stmt.exec] at h
      split at h
      · cases h
        cases hw
      · obtain ⟨row, -, rfl⟩ := Option.map_eq_some_iff.mp h
        cases List.mem_singleton.mp hw
        exact List.mem_cons_self
  | delete key =>
      simp only [Stmt.exec] at h
      split at h <;> cases h
      · cases hw
      · cases List.mem_singleton.mp hw
        exact List.mem_cons_self
  | upsert key references row merge =>
      obtain ⟨image, -, rfl⟩ := Option.map_eq_some_iff.mp h
      cases List.mem_singleton.mp hw
      exact List.mem_cons_self

/-- In an autocommitting call a statement that does not end the call leaves no
trace. -/
theorem no_trace {stmt : Stmt V} {view : Table V} {o : Outcome V stmt.Result} {failure : ε}
    {next : stmt.Result → Program V ε α} (last : LocksLast (.statement stmt failure next))
    (h : stmt.exec view = some o) (more : ∀ x, next o.result ≠ .pure x) :
    o.writes = [] ∧ o.locks = [] := by
  have read : isRead stmt = true := (last o.result).2.resolve_right fun ⟨x, hx⟩ => more x hx
  cases stmt with
  | select key =>
      obtain rfl : _ = o := Option.some.inj h
      exact ⟨rfl, rfl⟩
  | count rows =>
      obtain rfl : _ = o := Option.some.inj h
      exact ⟨rfl, rfl⟩
  | selectForUpdate key => cases read
  | update key set => cases read
  | delete key => cases read
  | upsert key references row merge => cases read

/-- An autocommitting call that fails, run alone, has changed nothing. -/
theorem LocksLast.eq_of_run_error {p : Program V ε α} (last : LocksLast p) {t t' : Table V}
    {e : ε} (run : p.run t = (.error e, t')) : t' = t := by
  induction p generalizing t with
  | pure a => cases run
  | throw e' =>
      cases run
      rfl
  | statement stmt failure next ih =>
      rw [Program.run_statement] at run
      cases exec : stmt.exec t with
      | none =>
          rw [exec] at run
          cases run
          rfl
      | some o =>
          rw [exec] at run
          have more : ∀ x, next o.result ≠ .pure x := by
            intro x returned
            simp only [returned, Program.run_pure] at run
            cases run
          simp only [(no_trace last exec more).1, applyAll_nil] at run
          exact ih o.result (last o.result).1 run

/-- After a statement the logic describes the rest of the call. -/
theorem Activity.Sound.statement {a : Activity V ε α} {watch : Bool}
    {Q : α → Footprint V → Prop} {committed : Table V} {stmt : Stmt V} {failure : ε}
    {next : stmt.Result → Program V ε α} {o : Outcome V stmt.Result}
    (h : a.Sound watch Q committed) (program : a.program = .statement stmt failure next)
    (exec : stmt.exec (a.view committed) = some o) :
    ∃ F : Footprint V, (next o.result).wp watch Q F ∧
      F.Holds committed (applyAll (a.writes ++ o.writes) committed) ∧
      (∀ k, F k ≠ none →
        k ∈ o.locks ++ a.locks ∨ (watch = true ∧ k ∈ readsOf stmt ++ a.reads)) ∧
      ∀ w ∈ a.writes ++ o.writes, w.1 ∈ o.locks ++ a.locks ∧ F w.1 ≠ none := by
  obtain ⟨F, hwp, holds, known, written⟩ := h
  rw [program, Program.wp_statement] at hwp
  obtain ⟨F', post, holds', grows, wrote, keeps⟩ := Stmt.wp_exec hwp holds exec
  refine ⟨F', post, by rwa [applyAll_append], fun k hk => ?_, fun w hw => ?_⟩
  · rcases grows k hk with old | locked | ⟨hwatch, rfl⟩
    · exact (known k old).imp (List.mem_append_right _) (.imp_right (List.mem_append_right _))
    · exact .inl (List.mem_append_left _ locked)
    · exact .inr ⟨hwatch, by simp [readsOf]⟩
  · rcases List.mem_append.mp hw with old | new
    · exact ⟨List.mem_append_right _ (written w old).1, keeps _ (written w old).2⟩
    · exact ⟨List.mem_append_left _ (wrote w new).1, (wrote w new).2⟩

omit [DecidableEq K] in
theorem Activity.resume_cases (mode : Mode ε) (a : Activity V ε α) :
    (∃ e, a.program = .throw e ∧ a.resume mode = .finished (.error e)) ∨
      (∃ x, a.program = .pure x ∧ mode = .autocommit ∧ a.resume mode = .finished (.ok x)) ∨
      (a.resume mode = .running a ∧ (mode = .autocommit → ∀ x, a.program ≠ .pure x)) := by
  cases hp : a.program with
  | throw e => exact .inl ⟨e, rfl, by simp [resume, hp]⟩
  | pure x =>
      cases mode with
      | autocommit => exact .inr (.inl ⟨x, rfl, rfl, by simp [resume, hp]⟩)
      | transaction failure => exact .inr (.inr ⟨by simp [resume, hp], by simp⟩)
  | statement stmt failure next => exact .inr (.inr ⟨by simp [resume, hp], by simp⟩)

variable [DecidableEq ι] [Fintype ι]

/-- Calls in progress are described by the logic, row locks are exclusive, and an
autocommitting call holds nothing between its statements. -/
structure Invariant (w : Workload ι V ε α) (Q : ι → α → Footprint V → Prop)
    (s : State ι V ε α) : Prop where
  sound : ∀ i a, s.calls i = .running a → a.Sound (w.watch i) (Q i) s.committed
  bare : ∀ i a, s.calls i = .running a → w.mode i = .autocommit →
    a.writes = [] ∧ a.locks = [] ∧ LocksLast a.program
  exclusive : ∀ i j, i ≠ j → ∀ k ∈ (s.calls i).locks, k ∉ (s.calls j).locks


/-- What a step does to the account of the committed rows: either the call has
not returned and they are unchanged, or it returns and they have moved as its
postcondition says. -/
theorem step_effect {w : Workload ι V ε α} {Q : ι → α → Footprint V → Prop}
    {s t : State ι V ε α} {l : Label ι} (inv : Invariant w Q s) (h : step w s l = some t) :
    (∃ c, t = s.put l.call c ∧ c.returnedOk = false) ∨
      ∃ x F, t.calls = Function.update s.calls l.call (.finished (.ok x)) ∧
        Q l.call x F ∧ F.Holds s.committed t.committed := by
  obtain ⟨a, ha, ⟨e, rfl⟩ | ⟨x, failure, hp, -, rfl⟩ | ⟨stmt, failure, next, o, hp, -, hexec, rfl⟩⟩ :=
    step_cases h
  · exact .inl ⟨_, rfl, rfl⟩
  · obtain ⟨F, hwp, holds, -⟩ := inv.sound _ a ha
    rw [hp] at hwp
    exact .inr ⟨x, F, rfl, hwp, holds⟩
  · obtain ⟨F, hwp, holds, -⟩ := (inv.sound _ a ha).statement hp hexec
    cases hmode : w.mode l.call with
    | transaction commitFailure =>
        refine .inl ⟨_, rfl, ?_⟩
        rcases Activity.resume_cases (.transaction commitFailure)
          { program := next o.result, writes := a.writes ++ o.writes,
            locks := o.locks ++ a.locks, reads := readsOf stmt ++ a.reads } with
          ⟨e, -, hc⟩ | ⟨x, -, hm, -⟩ | ⟨hc, -⟩
        · rw [hc]; rfl
        · cases hm
        · rw [hc]; rfl
    | autocommit =>
        obtain ⟨nothing, -, last⟩ := inv.bare _ a ha hmode
        rw [hp] at last
        rw [nothing] at holds
        have kept : (∀ x, next o.result ≠ .pure x) → s.commit o.writes = s := fun more => by
          rw [State.commit, (no_trace last hexec more).1]; rfl
        simp only [State.proceed]
        rcases Activity.resume_cases (.autocommit : Mode ε)
          { program := next o.result, reads := readsOf stmt ++ a.reads } with
          ⟨e, he, hc⟩ | ⟨x, hx, -, hc⟩ | ⟨hc, more⟩
        · rw [hc, kept fun x hx => by cases he.symm.trans hx]
          exact .inl ⟨_, rfl, rfl⟩
        · have post : (Program.pure x : Program V ε α).wp (w.watch l.call) (Q l.call) F := hx ▸ hwp
          rw [hc]
          exact .inr ⟨x, F, rfl, post, holds⟩
        · rw [hc, kept (more rfl)]
          exact .inl ⟨_, rfl, rfl⟩

omit [DecidableEq ι] [Fintype ι] in
/-- The rows of a call that another call has not locked: those that it holds and
those that its next statement may lock. -/
theorem unshared {w : Workload ι V ε α} {Q : ι → α → Footprint V → Prop} {s : State ι V ε α}
    (inv : Invariant w Q s) {i j : ι} (hj : j ≠ i) {a : Activity V ε α}
    (ha : s.calls i = .running a) {stmt : Stmt V} {o : Outcome V stmt.Result}
    (free : ¬ Blocked s i stmt (a.view s.committed))
    (hexec : stmt.exec (a.view s.committed) = some o) {k : K} (hk : k ∈ o.locks ++ a.locks) :
    k ∉ (s.calls j).locks := by
  rcases List.mem_append.mp hk with new | old
  · exact fun held => free ⟨k, locks_subset_waitsFor hexec new, j, hj, held⟩
  · exact inv.exclusive i j hj.symm k (by simpa [ha, Call.locks] using old)

/-- Everything about a step that the invariant needs: which rows it commits,
which it locks, and that the logic describes what is left of the call. -/
theorem step_frame {w : Workload ι V ε α} {Q : ι → α → Footprint V → Prop}
    {s t : State ι V ε α} {l : Label ι} (inv : Invariant w Q s) (h : step w s l = some t) :
    ∃ c, t.calls = Function.update s.calls l.call c ∧
      (∀ j ≠ l.call, ∀ k ∈ (s.calls j).locks,
        k ∉ c.locks ∧ t.committed.lookup k = s.committed.lookup k) ∧
      ∀ b, c = .running b → b.Sound (w.watch l.call) (Q l.call) t.committed ∧
        (w.mode l.call = .autocommit → b.writes = [] ∧ b.locks = [] ∧ LocksLast b.program) := by
  obtain ⟨a, ha, ⟨e, rfl⟩ | ⟨x, failure, hp, -, rfl⟩ |
    ⟨stmt, failure, next, o, hp, free, hexec, rfl⟩⟩ := step_cases h
  · exact ⟨_, rfl, fun j _ k _ => ⟨by simp [Call.locks], rfl⟩, by simp⟩
  · refine ⟨_, rfl, fun j hj k hk => ⟨by simp [Call.locks], ?_⟩, by simp⟩
    obtain ⟨F, -, -, -, written⟩ := inv.sound _ a ha
    refine lookup_applyAll_of_notMem _ fun w hw same => ?_
    refine inv.exclusive j l.call hj k hk ?_
    rw [ha]
    exact same ▸ (written w hw).1
  · have rest := (inv.sound _ a ha).statement hp hexec
    cases hmode : w.mode l.call with
    | transaction commitFailure =>
        refine ⟨_, rfl, fun j hj k hk => ⟨fun mem => ?_, rfl⟩, fun b hb => ⟨?_, by simp⟩⟩
        · refine unshared inv hj ha free hexec ?_ hk
          unfold Activity.resume at mem
          split at mem <;> first | cases mem | exact mem
        · unfold Activity.resume at hb
          split at hb
          · cases hb
          · cases hb
          · cases hb
            exact rest
    | autocommit =>
        obtain ⟨nothing, unlocked, last⟩ := inv.bare _ a ha hmode
        rw [hp] at last
        rw [nothing, unlocked] at rest
        obtain ⟨F, hwp, holds, known, written⟩ := rest
        refine ⟨_, rfl, fun j hj k hk => ⟨fun mem => ?_, ?_⟩, fun b hb => ?_⟩
        · unfold Activity.resume at mem
          split at mem <;> cases mem
        · refine lookup_applyAll_of_notMem _ fun w hw same => ?_
          have locked := (written w hw).1
          rw [List.append_nil] at locked
          exact unshared inv hj ha free hexec (List.mem_append_left _ (same ▸ locked)) hk
        · rcases Activity.resume_cases (.autocommit : Mode ε)
            { program := next o.result, reads := readsOf stmt ++ a.reads } with
            ⟨e, -, hc⟩ | ⟨x, -, -, hc⟩ | ⟨hc, more⟩
          · cases hc.symm.trans hb
          · cases hc.symm.trans hb
          · obtain rfl : _ = b := Call.running.inj (hc.symm.trans hb)
            obtain ⟨silent, unheld⟩ := no_trace last hexec (more rfl)
            refine ⟨⟨F, hwp, ?_, ?_, by simp⟩, fun _ => ⟨rfl, rfl, (last o.result).1⟩⟩
            · simpa [State.proceed, State.commit, State.put, Activity.view, silent] using holds
            · simpa [unheld] using known

/-- One undisturbed step preserves the invariant. -/
theorem invariant_step {w : Workload ι V ε α} {Q : ι → α → Footprint V → Prop}
    {s t : State ι V ε α} {l : Label ι} (inv : Invariant w Q s) (quiet : Undisturbed w s l)
    (h : step w s l = some t) : Invariant w Q t := by
  obtain ⟨c, hcalls, frame, stepped⟩ := step_frame inv h
  have self : t.calls l.call = c := by rw [hcalls, Function.update_self]
  have other : ∀ j, j ≠ l.call → t.calls j = s.calls j := fun j hj => by
    rw [hcalls, Function.update_of_ne hj]
  refine ⟨fun i a ha => ?_, fun i a ha => ?_, fun i j hij k hk => ?_⟩
  · by_cases hi : i = l.call
    · subst hi
      exact (stepped a (self.symm.trans ha)).1
    · have hs : s.calls i = .running a := (other i hi).symm.trans ha
      refine (inv.sound i a hs).congr (fun k hk => (frame i hi k ?_).2) fun hwatch k hk =>
        quiet t h i hi hwatch k ?_ <;> rw [hs] <;> exact hk
  · by_cases hi : i = l.call
    · subst hi
      exact (stepped a (self.symm.trans ha)).2
    · exact inv.bare i a ((other i hi).symm.trans ha)
  · by_cases hi : i = l.call
    · subst hi
      rw [other j hij.symm]
      rw [self] at hk
      exact fun held => (frame j hij.symm k held).1 hk
    · rw [other i hi] at hk
      by_cases hj : j = l.call
      · subst hj
        rw [self]
        exact (frame i hi k hk).1
      · rw [other j hj]
        exact inv.exclusive i j hij k hk

omit [DecidableEq ι] [Fintype ι] in
/-- The serial logic and the shape of autocommitting calls establish the
invariant. -/
theorem invariant_start {w : Workload ι V ε α} {Q : ι → α → Footprint V → Prop} {db : Table V}
    (correct : ∀ i, (w.program i).wp (w.watch i) (Q i) .empty)
    (last : ∀ i, w.mode i = .autocommit → LocksLast (w.program i)) :
    Invariant w Q (start w db) := by
  have running : ∀ i a, (start w db).calls i = .running a → a = { program := w.program i } := by
    intro i a ha
    rcases Activity.resume_cases (w.mode i) { program := w.program i } with
      ⟨e, -, hc⟩ | ⟨x, -, -, hc⟩ | ⟨hc, -⟩
    · cases hc.symm.trans ha
    · cases hc.symm.trans ha
    · exact (Call.running.inj (hc.symm.trans ha)).symm
  refine ⟨fun i a ha => ?_, fun i a ha hmode => ?_, fun i j hij k hk => ?_⟩
  · rw [running i a ha]
    exact ⟨.empty, correct i, Footprint.holds_empty db, by simp [Footprint.empty], by simp⟩
  · rw [running i a ha]
    exact ⟨rfl, rfl, last i hmode⟩
  · cases hc : (start w db).calls i with
    | finished r =>
        rw [hc] at hk
        cases hk
    | running a =>
        rw [hc, running i a hc] at hk
        cases hk

/-! ### The account of the committed rows -/

/-- The sum of the deltas of the calls that have returned successfully. -/
def credit (s : State ι V ε α) (delta : ι → K → Int) (k : K) : Int :=
  ∑ i, if (s.calls i).returnedOk then delta i k else 0

omit [DecidableEq K] in
/-- Only the call that takes the step can be credited. -/
theorem credit_update {s t : State ι V ε α} (delta : ι → K → Int) (k : K) {i : ι}
    {c : Call V ε α} (pending : (s.calls i).returnedOk = false)
    (hcalls : t.calls = Function.update s.calls i c) :
    credit t delta k = credit s delta k + if c.returnedOk then delta i k else 0 := by
  unfold credit
  rw [hcalls, ← Finset.add_sum_erase _ _ (Finset.mem_univ i),
    ← Finset.add_sum_erase _ _ (Finset.mem_univ i)]
  have others : ∀ j ∈ Finset.univ.erase i,
      (if (Function.update s.calls i c j).returnedOk then delta j k else 0) =
        if (s.calls j).returnedOk then delta j k else 0 := fun j hj => by
    rw [Function.update_of_ne (Finset.ne_of_mem_erase hj)]
  rw [Finset.sum_congr rfl others]
  simp [pending, Int.add_comm]

omit [DecidableEq ι] in
/-- A call that returns at once has changed nothing. -/
theorem credit_start {w : Workload ι V ε α} {measure : ∀ k, Option (V k) → Int}
    {delta : ι → K → Int} (db : Table V)
    (correct : ∀ i, (w.program i).wp (w.watch i)
      (fun _ F => ∀ k, F.change measure k = delta i k) .empty) (k : K) :
    credit (start w db) delta k = 0 := by
  refine Finset.sum_eq_zero fun i _ => ?_
  rcases Activity.resume_cases (w.mode i) { program := w.program i } with
    ⟨e, -, hc⟩ | ⟨x, hx, -, -⟩ | ⟨hc, -⟩
  · simp [start, hc, Call.returnedOk]
  · have unchanged := correct i
    rw [show w.program i = .pure x from hx, Program.wp_pure] at unchanged
    rw [← unchanged k]
    simp
  · simp [start, hc, Call.returnedOk]

/-- The accounting rule. The postcondition of call `i` is that it has changed
each row by `delta i`; `measure` is the amount that a row counts for. -/
theorem measure_committed {w : Workload ι V ε α} {measure : ∀ k, Option (V k) → Int}
    {delta : ι → K → Int} {db : Table V} {s : State ι V ε α} {ls : List (Label ι)}
    (correct : ∀ i, (w.program i).wp (w.watch i)
      (fun _ F => ∀ k, F.change measure k = delta i k) .empty)
    (last : ∀ i, w.mode i = .autocommit → LocksLast (w.program i))
    (legal : Transition.Admissible (step w) (Undisturbed w) (start w db) ls)
    (run : Transition.exec (step w) (start w db) ls = some s) (k : K) :
    measure k (s.committed.lookup k) = measure k (db.lookup k) + credit s delta k := by
  let Q : ι → α → Footprint V → Prop := fun i _ F => ∀ k, F.change measure k = delta i k
  let Account (s : State ι V ε α) : Prop :=
    measure k (s.committed.lookup k) = measure k (db.lookup k) + credit s delta k
  have preserved : ∀ s l t, Invariant w Q s ∧ Account s → Undisturbed w s l →
      step w s l = some t → Invariant w Q t ∧ Account t := by
    rintro s l t ⟨inv, account⟩ quiet h
    refine ⟨invariant_step inv quiet h, ?_⟩
    obtain ⟨a, ha, -⟩ := step_cases h
    have pending : (s.calls l.call).returnedOk = false := by rw [ha]; rfl
    simp only [Account] at account ⊢
    rcases step_effect inv h with ⟨c, rfl, hc⟩ | ⟨x, F, hcalls, post, holds⟩
    · have same : credit (s.put l.call c) delta k = credit s delta k := by
        have calls : (s.put l.call c).calls = Function.update s.calls l.call c := rfl
        simp [credit_update delta k pending calls, hc]
      rw [same]
      exact account
    · have paid := credit_update delta k pending hcalls
      have moved := holds.measure_eq measure k
      simp only [Call.returnedOk, if_true] at paid
      rw [moved, account, paid, post k, Int.add_assoc]
  have initial : Account (start w db) := by
    simp only [Account]
    rw [credit_start db correct k, Int.add_zero]
    rfl
  exact (Transition.exec_invariant preserved ⟨invariant_start correct last, initial⟩ legal run).2

end Sql.ReadCommitted
