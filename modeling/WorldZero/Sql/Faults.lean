import WorldZero.Sql.Program

/-!
# Statements that fail

A call outside a transaction is a sequence of statements, each of which may fail:
it is not performed, or it is performed and its reply is lost. Either way the call
reports the statement's failure. `runFaulty` executes a call under a list of
faults; without faults it is `run`.

`Leads` is the condition on a call and a state that every execution, whatever its
faults, ends in a result and a state as told by a postcondition on both. `Writes`
bounds the rows that a call may change, `Inserts` those that it may insert, and `Keeps` is a
relation between the states before and after a call.
-/

namespace Sql

inductive Fault where
  /-- The statement is not performed. -/
  | failed
  /-- The statement is performed, its reply does not arrive. -/
  | lost
  deriving DecidableEq

/-- What befalls the statements to come, in order; after the last entry nothing does. -/
abbrev Faults := List (Option Fault)

section Calls

variable {T ε α : Type} {fault : Option Fault}

/-- What a call that is one statement or one transaction leaves, and whether its caller hears
that it has been made. -/
def commitUnder (fault : Option Fault) (t : T) : Except ε T → T × Bool
  | .error _ => (t, false)
  | .ok t' =>
      match fault with
      | none => (t', true)
      | some .failed => (t, false)
      | some .lost => (t', false)

/-- What a read brings, unless it fails. -/
def fetchUnder : Option Fault → α → Option α
  | none, a => some a
  | some _, _ => none

@[simp] theorem fetchUnder_none (a : α) : fetchUnder none a = some a := rfl

/-- A call whose reply is not lost is heard of, or changes nothing. -/
theorem commitUnder_cases (t : T) (result : Except ε T) (answered : fault ≠ some .lost) :
    commitUnder fault t result = (t, false) ∨
      ∃ t', result = .ok t' ∧ commitUnder fault t result = (t', true) := by
  cases result with
  | error e => exact .inl rfl
  | ok t' =>
      match fault with
      | none => exact .inr ⟨t', rfl, rfl⟩
      | some .failed => exact .inl rfl
      | some .lost => exact absurd rfl answered

/-- Whatever befalls a call, it leaves what it was called on or what it returns. -/
theorem eq_or_ok_of_commitUnder {t t' : T} {result : Except ε T} {heard : Bool}
    (left : commitUnder fault t result = (t', heard)) : t' = t ∨ result = .ok t' := by
  cases result with
  | error e =>
      cases left
      exact .inl rfl
  | ok u =>
      match fault with
      | none | some .lost =>
          cases left
          exact .inr rfl
      | some .failed =>
          cases left
          exact .inl rfl

end Calls

namespace Program

variable {K : Type} {V : K → Type} {ε α β : Type} [DecidableEq K]

def runFaulty : Program V ε α → Faults → Table V → Except ε α × Table V × Faults
  | .pure a, faults, t => (.ok a, t, faults)
  | .throw e, faults, t => (.error e, t, faults)
  | .statement s failure next, faults, t =>
      match faults.head?.join, s.exec t with
      | some .failed, _ | _, none => (.error failure, t, faults.tail)
      | some .lost, some o => (.error failure, applyAll o.writes t, faults.tail)
      | none, some o => runFaulty (next o.result) faults.tail (applyAll o.writes t)

/-- `BEGIN … COMMIT`: an error rolls every write back, and the commit is a statement that
may fail like any other. -/
def transactionFaulty (p : Program V ε α) (commitFailure : ε) (faults : Faults) (t : Table V) :
    Except ε α × Table V × Faults :=
  match p.runFaulty faults t with
  | (.error e, _, rest) => (.error e, t, rest)
  | (.ok a, t', rest) =>
      match rest.head?.join with
      | none => (.ok a, t', rest.tail)
      | some .failed => (.error commitFailure, t, rest.tail)
      | some .lost => (.error commitFailure, t', rest.tail)

/-- Without faults a call runs as it does alone. -/
theorem runFaulty_nil (p : Program V ε α) (t : Table V) :
    p.runFaulty [] t = ((p.run t).1, (p.run t).2, []) := by
  induction p generalizing t with
  | pure a => rfl
  | throw e => rfl
  | statement s failure next ih =>
      rw [runFaulty, run_statement]
      cases s.exec t with
      | none => rfl
      | some o => exact ih o.result _

/-- A call that returns under faults has not met any, and runs as it does alone. -/
theorem run_of_runFaulty {p : Program V ε α} {faults rest : Faults} {t t' : Table V} {a : α}
    (h : p.runFaulty faults t = (.ok a, t', rest)) : p.run t = (.ok a, t') := by
  induction p generalizing faults t with
  | pure b =>
      cases h
      rfl
  | throw e => cases h
  | statement s failure next ih =>
      rw [runFaulty] at h
      rw [run_statement]
      split at h
      · cases h
      · cases h
      · cases h
      · next o _ exec =>
          rw [exec]
          exact ih o.result h

/-- Every execution from `t` ends in a result and a state that satisfy `Q`. -/
def Leads (Q : Except ε α → Table V → Prop) : Program V ε α → Table V → Prop
  | .pure a, t => Q (.ok a) t
  | .throw e, t => Q (.error e) t
  | .statement s failure next, t =>
      Q (.error failure) t ∧ ∀ o, s.exec t = some o →
        Q (.error failure) (applyAll o.writes t) ∧
          Leads Q (next o.result) (applyAll o.writes t)

variable {Q Q' : Except ε α → Table V → Prop} {p : Program V ε α} {t : Table V}

theorem leads_runFaulty (h : p.Leads Q t) (faults : Faults) :
    Q (p.runFaulty faults t).1 (p.runFaulty faults t).2.1 := by
  induction p generalizing t faults with
  | pure a => exact h
  | throw e => exact h
  | statement s failure next ih =>
      obtain ⟨failed, performed⟩ := h
      rw [runFaulty]
      split
      · exact failed
      · exact failed
      · next o _ exec => exact (performed o exec).1
      · next o _ exec => exact ih o.result (performed o exec).2 _

theorem Leads.trivial (p : Program V ε α) (t : Table V) : p.Leads (fun _ _ => True) t := by
  induction p generalizing t with
  | pure a => exact True.intro
  | throw e => exact True.intro
  | statement s failure next ih => exact ⟨.intro, fun o _ => ⟨.intro, ih o.result _⟩⟩

theorem Leads.mono (h : p.Leads Q t) (imp : ∀ r t', Q r t' → Q' r t') : p.Leads Q' t := by
  induction p generalizing t with
  | pure a => exact imp _ _ h
  | throw e => exact imp _ _ h
  | statement s failure next ih =>
      exact ⟨imp _ _ h.1, fun o exec => ⟨imp _ _ (h.2 o exec).1, ih o.result (h.2 o exec).2⟩⟩

theorem Leads.and (h : p.Leads Q t) (h' : p.Leads Q' t) :
    p.Leads (fun r t' => Q r t' ∧ Q' r t') t := by
  induction p generalizing t with
  | pure a => exact ⟨h, h'⟩
  | throw e => exact ⟨h, h'⟩
  | statement s failure next ih =>
      refine ⟨⟨h.1, h'.1⟩, fun o exec => ⟨⟨(h.2 o exec).1, (h'.2 o exec).1⟩, ?_⟩⟩
      exact ih o.result (h.2 o exec).2 (h'.2 o exec).2

theorem Leads.forall {ι : Sort*} {Q : ι → Except ε α → Table V → Prop}
    (h : ∀ i, p.Leads (Q i) t) : p.Leads (fun r t' => ∀ i, Q i r t') t := by
  induction p generalizing t with
  | pure a => exact h
  | throw e => exact h
  | statement s failure next ih =>
      refine ⟨fun i => (h i).1, fun o exec => ⟨fun i => ((h i).2 o exec).1, ?_⟩⟩
      exact ih o.result fun i => ((h i).2 o exec).2

theorem Leads.bind {f : α → Program V ε β} {R : Except ε β → Table V → Prop}
    (h : p.Leads (fun r t' => match r with
      | .ok a => (f a).Leads R t'
      | .error e => R (.error e) t') t) : (p.bind f).Leads R t := by
  induction p generalizing t with
  | pure a => exact h
  | throw e => exact h
  | statement s failure next ih =>
      exact ⟨h.1, fun o exec => ⟨(h.2 o exec).1, ih o.result (h.2 o exec).2⟩⟩

/-- What the last part of a call sees to when it returns. -/
theorem Leads.last {f : α → Program V ε β} {R : β → Table V → Prop}
    (h : ∀ a t', (f a).Leads (fun r t'' => ∀ b, r = .ok b → R b t'') t') :
    (p.bind f).Leads (fun r t'' => ∀ b, r = .ok b → R b t'') t := by
  induction p generalizing t with
  | pure a => exact h a t
  | throw e => exact nofun
  | statement s failure next ih => exact ⟨nofun, fun o _ => ⟨nofun, ih o.result⟩⟩

theorem Leads.ofExcept {r : Except ε α} (h : Q r t) : (Program.ofExcept r).Leads Q t := by
  cases r <;> exact h

theorem Leads.fetchOne {k : K} {failure : ε} {Q : Except ε (V k) → Table V → Prop}
    (failed : Q (.error failure) t) (found : ∀ v, t.lookup k = some v → Q (.ok v) t) :
    (Program.fetchOne k failure).Leads Q t := by
  refine ⟨failed, fun o exec => ?_⟩
  cases exec
  refine ⟨failed, ?_⟩
  show ((t.lookup k).elim (Program.throw failure) Program.pure).Leads Q t
  cases row : t.lookup k with
  | none => exact failed
  | some v => exact found v row

theorem Leads.fetchOneForUpdate {k : K} {failure : ε} {Q : Except ε (V k) → Table V → Prop}
    (failed : Q (.error failure) t) (found : ∀ v, t.lookup k = some v → Q (.ok v) t) :
    (Program.fetchOneForUpdate k failure).Leads Q t := by
  refine ⟨failed, fun o exec => ?_⟩
  simp only [Stmt.exec] at exec
  split at exec
  · cases exec
    exact ⟨failed, failed⟩
  · next v row =>
      cases exec
      exact ⟨failed, found v row⟩

theorem Leads.executeUpdate {k : K} {set : V k → Option (V k)} {failure : ε}
    {Q : Except ε Bool → Table V → Prop} (failed : Q (.error failure) t)
    (absent : t.lookup k = none → Q (.ok false) t)
    (updated : ∀ v w, t.lookup k = some v → set v = some w →
      Q (.error failure) (t.insert k w) ∧ Q (.ok true) (t.insert k w)) :
    (Program.executeUpdate k set failure).Leads Q t := by
  refine ⟨failed, fun o exec => ?_⟩
  simp only [Stmt.exec] at exec
  split at exec
  · next row =>
      cases exec
      exact ⟨failed, absent row⟩
  · next v row =>
      obtain ⟨w, allowed, rfl⟩ := Option.map_eq_some_iff.mp exec
      exact updated v w row allowed

/-- A transaction does nothing, or all that its body does when it returns. -/
theorem leads_transactionFaulty {R : Table V → Prop} {commitFailure : ε} (rolled_back : R t)
    (h : p.Leads (fun r t' => ∀ a, r = .ok a → R t') t) (faults : Faults) :
    R (p.transactionFaulty commitFailure faults t).2.1 := by
  have body := leads_runFaulty h faults
  rw [transactionFaulty]
  split
  · exact rolled_back
  · next a t' rest run =>
      rw [run] at body
      split
      · exact body a rfl
      · exact rolled_back
      · exact body a rfl

/-- A transaction that returns has done what its body does alone. -/
theorem run_of_transactionFaulty {commitFailure : ε} {faults rest : Faults} {t' : Table V} {a : α}
    (h : p.transactionFaulty commitFailure faults t = (.ok a, t', rest)) :
    p.run t = (.ok a, t') := by
  unfold transactionFaulty at h
  split at h
  · cases h
  next b t'' rest' body =>
    split at h <;> cases h
    exact run_of_runFaulty body

theorem Leads.of_run (h : p.Leads Q t) {r : Except ε α} {t' : Table V} (run : p.run t = (r, t')) :
    Q r t' := by
  have leads := leads_runFaulty h []
  rwa [runFaulty_nil, run] at leads

/-! ### Calls that fail before they write -/

/-- Wherever the call fails, nothing has been written: no statement fails and no check refuses
after a write, by the call or by those before it (`written`), and no write loses its reply. -/
def failsClean : (written : Bool) → Program V ε α → Faults → Table V → Bool
  | _, .pure _, _, _ => true
  | written, .throw _, _, _ => !written
  | written, .statement s _ next, faults, t =>
      match faults.head?.join, s.exec t with
      | some .failed, _ | _, none => !written
      | some .lost, some o => !written && o.writes.isEmpty
      | none, some o =>
          failsClean (written || !o.writes.isEmpty) (next o.result) faults.tail
            (applyAll o.writes t)

theorem unchanged_of_failsClean {written : Bool} {faults rest : Faults} {t' : Table V} {e : ε}
    (ends : p.failsClean written faults t = true)
    (failed : p.runFaulty faults t = (.error e, t', rest)) : written = false ∧ t' = t := by
  induction p generalizing written faults t with
  | pure a => cases failed
  | throw e' =>
      cases failed
      exact ⟨by simpa [failsClean] using ends, rfl⟩
  | statement s failure next ih =>
      rw [failsClean] at ends
      rw [runFaulty] at failed
      split at failed
      next fault =>
        cases failed
        simp only [fault] at ends
        exact ⟨by simpa using ends, rfl⟩
      next refused _ =>
        cases failed
        rw [refused] at ends
        refine ⟨?_, rfl⟩
        cases fault : faults.head?.join with
        | none => simpa [fault] using ends
        | some f => cases f <;> simpa [fault] using ends
      next o fault exec =>
        cases failed
        rw [fault, exec, Bool.and_eq_true, List.isEmpty_iff] at ends
        refine ⟨by simpa using ends.1, ?_⟩
        rw [ends.2]
        rfl
      next o fault exec =>
        rw [fault, exec] at ends
        obtain ⟨none, same⟩ := ih o.result ends failed
        rw [Bool.or_eq_false_iff, Bool.not_eq_false', List.isEmpty_iff] at none
        refine ⟨none.1, same.trans ?_⟩
        rw [none.2]
        rfl

/-- The reply of the commit is not lost. -/
def commitHeard (p : Program V ε α) (faults : Faults) (t : Table V) : Bool :=
  match p.runFaulty faults t with
  | (.ok _, _, rest) => rest.head?.join ≠ some .lost
  | (.error _, _, _) => true

theorem unchanged_of_commitHeard {commitFailure e : ε} {faults rest : Faults} {t' : Table V}
    (heard : p.commitHeard faults t = true)
    (failed : p.transactionFaulty commitFailure faults t = (.error e, t', rest)) : t' = t := by
  unfold commitHeard at heard
  unfold transactionFaulty at failed
  split at failed
  · cases failed
    rfl
  next a t'' rest' body =>
    rw [body] at heard
    split at failed
    · cases failed
    · cases failed
      rfl
    next lost =>
      simp [lost] at heard

/-! ### Relations that a call keeps to -/

/-- Whatever befalls the call, it leads from any state to a related one. -/
def Keeps (R : Table V → Table V → Prop) (p : Program V ε α) : Prop :=
  ∀ t, p.Leads (fun _ t' => R t t') t

section Keeps

variable {R : Table V → Table V → Prop}

theorem Keeps.pure [Std.Refl R] {a : α} : (Program.pure a : Program V ε α).Keeps R :=
  fun t => Std.Refl.refl t

theorem Keeps.throw [Std.Refl R] {e : ε} : (Program.throw e : Program V ε α).Keeps R :=
  fun t => Std.Refl.refl t

theorem Keeps.bind [IsTrans (Table V) R] {f : α → Program V ε β} (first : p.Keeps R)
    (rest : ∀ a, (f a).Keeps R) : (p.bind f).Keeps R := by
  refine fun t => .bind ((first t).mono fun r t' step => ?_)
  cases r with
  | error e => exact step
  | ok a => exact (rest a t').mono fun _ t'' step' => IsTrans.trans t t' t'' step step'

end Keeps

end Program

/-! ### The rows that a call may change or insert -/

variable {K : Type} {V : K → Type} {ε α β : Type}

/-- The row that a statement may write. -/
def Stmt.written : Stmt V → Option K
  | .select _ | .selectForUpdate _ | .count _ => none
  | .update key _ | .delete key | .upsert key _ _ _ => some key

namespace Program

/-- Whatever the call returns satisfies `P`. -/
def Yields (P : α → Prop) : Program V ε α → Prop
  | .pure a => P a
  | .throw _ => True
  | .statement _ _ next => ∀ r, Yields P (next r)

theorem Yields.bind {P : α → Prop} {P' : β → Prop} {p : Program V ε α} {f : α → Program V ε β}
    (h : p.Yields P) (rest : ∀ a, P a → (f a).Yields P') : (p.bind f).Yields P' := by
  induction p with
  | pure a => exact rest a h
  | throw e => trivial
  | statement s failure next ih => exact fun r => ih r (h r)

theorem Yields.trivial {p : Program V ε α} : p.Yields fun _ => True := by
  induction p with
  | pure a => exact True.intro
  | throw e => exact True.intro
  | statement s failure next ih => exact ih

theorem Yields.mono {P P' : α → Prop} {p : Program V ε α} (h : p.Yields P)
    (imp : ∀ a, P a → P' a) : p.Yields P' := by
  induction p with
  | pure a => exact imp a h
  | throw e => trivial
  | statement s failure next ih => exact fun r => ih r (h r)

/-- All rows that the call writes satisfy `P`. -/
def Writes (P : K → Prop) : Program V ε α → Prop
  | .pure _ | .throw _ => True
  | .statement s _ next => (∀ k ∈ s.written, P k) ∧ ∀ r, Writes P (next r)

variable {P : K → Prop} {p : Program V ε α}

theorem Writes.mono {P' : K → Prop} (h : p.Writes P) (imp : ∀ k, P k → P' k) : p.Writes P' := by
  induction p with
  | pure a => trivial
  | throw e => trivial
  | statement s failure next ih =>
      exact ⟨fun k written => imp k (h.1 k written), fun r => ih r (h.2 r)⟩

theorem Writes.bind {f : α → Program V ε β} (h : p.Writes P) (rest : ∀ a, (f a).Writes P) :
    (p.bind f).Writes P := by
  induction p with
  | pure a => exact rest a
  | throw e => trivial
  | statement s failure next ih => exact ⟨h.1, fun r => ih r (h.2 r)⟩

end Program

/-- The row that a statement may insert. -/
def Stmt.inserted : Stmt V → Option K
  | .upsert key _ _ _ => some key
  | _ => none

/-- All rows that the call may insert satisfy `P`. -/
def Program.Inserts (P : K → Prop) : Program V ε α → Prop
  | .pure _ | .throw _ => True
  | .statement s _ next => (∀ k ∈ s.inserted, P k) ∧ ∀ r, Inserts P (next r)

/-- A call inserts no row that it does not write. -/
theorem Program.Writes.inserts {P : K → Prop} {p : Program V ε α} (h : p.Writes P) :
    p.Inserts P := by
  induction p with
  | pure a => trivial
  | throw e => trivial
  | statement s failure next ih =>
      refine ⟨fun k inserted => h.1 k ?_, fun r => ih r (h.2 r)⟩
      cases s with
      | upsert key references row merge => exact inserted
      | select | selectForUpdate | count | update | delete => cases inserted

theorem Program.Inserts.bind {P : K → Prop} {p : Program V ε α} {f : α → Program V ε β}
    (h : p.Inserts P) (rest : ∀ a, (f a).Inserts P) : (p.bind f).Inserts P := by
  induction p with
  | pure a => exact rest a
  | throw e => trivial
  | statement s failure next ih => exact ⟨h.1, fun r => ih r (h.2 r)⟩

theorem Program.Inserts.mono {P P' : K → Prop} {p : Program V ε α} (h : p.Inserts P)
    (imp : ∀ k, P k → P' k) : p.Inserts P' := by
  induction p with
  | pure a => trivial
  | throw e => trivial
  | statement s failure next ih =>
      exact ⟨fun k inserted => imp k (h.1 k inserted), fun r => ih r (h.2 r)⟩

theorem Program.Inserts.ofExcept {P : K → Prop} {r : Except ε α} :
    (Program.ofExcept r : Program V ε α).Inserts P := by
  cases r <;> trivial

variable [DecidableEq K]

theorem Program.Yields.of_run {P : α → Prop} {p : Program V ε α} (h : p.Yields P) {t t' : Table V}
    {a : α} (run : p.run t = (.ok a, t')) : P a := by
  induction p generalizing t with
  | pure b =>
      cases run
      exact h
  | throw e => cases run
  | statement s failure next ih =>
      rw [Program.run_statement] at run
      split at run
      · cases run
      · next o exec => exact ih o.result (h o.result) run

theorem Program.Yields.leads {P : α → Prop} {p : Program V ε α} (h : p.Yields P) (t : Table V) :
    p.Leads (fun r _ => ∀ a, r = .ok a → P a) t := by
  induction p generalizing t with
  | pure b =>
      rintro a ⟨⟩
      exact h
  | throw e => exact nofun
  | statement s failure next ih => exact ⟨nofun, fun o _ => ⟨nofun, ih o.result (h o.result) _⟩⟩

/-- A statement changes the row that it names only. -/
theorem Stmt.exec_writes {s : Stmt V} {t : Table V} {o : Outcome V s.Result}
    (exec : s.exec t = some o) {w : Write V} (hw : w ∈ o.writes) : s.written = some w.1 := by
  cases s with
  | select key | count rows =>
      cases exec
      cases hw
  | selectForUpdate key =>
      simp only [Stmt.exec] at exec
      split at exec <;> cases exec <;> cases hw
  | update key set =>
      simp only [Stmt.exec] at exec
      split at exec
      · cases exec
        cases hw
      · obtain ⟨row, -, rfl⟩ := Option.map_eq_some_iff.mp exec
        rw [List.mem_singleton.mp hw]
        rfl
  | delete key =>
      simp only [Stmt.exec] at exec
      split at exec <;> cases exec
      · cases hw
      · rw [List.mem_singleton.mp hw]
        rfl
  | upsert key references row merge =>
      obtain ⟨image, -, rfl⟩ := Option.map_eq_some_iff.mp exec
      rw [List.mem_singleton.mp hw]
      rfl

/-- The rows that a call may not write are left alone, also by a call that fails. -/
theorem Program.Writes.leads {P : K → Prop} {p : Program V ε α} (h : p.Writes P) {k : K}
    (other : ¬ P k) (t : Table V) : p.Leads (fun _ t' => t'.lookup k = t.lookup k) t := by
  suffices ∀ t', t'.lookup k = t.lookup k →
      p.Leads (fun _ t'' => t''.lookup k = t.lookup k) t' from this t rfl
  induction p with
  | pure a => exact fun t' same => same
  | throw e => exact fun t' same => same
  | statement s failure next ih =>
      intro t' same
      refine ⟨same, fun o exec => ?_⟩
      have kept : (applyAll o.writes t').lookup k = t.lookup k := by
        rw [lookup_applyAll_of_notMem t' fun w hw here => ?_, same]
        exact other (here ▸ h.1 w.1 (Stmt.exec_writes exec hw))
      exact ⟨kept, ih o.result (h.2 o.result) _ kept⟩

theorem Program.Writes.frame {P : K → Prop} {p : Program V ε α} (h : p.Writes P) (t : Table V) :
    p.Leads (fun _ t' => ∀ k, ¬ P k → t'.lookup k = t.lookup k) t :=
  Program.Leads.forall fun k => by
    by_cases own : P k
    · exact (Program.Leads.trivial p t).mono fun _ _ _ other => absurd own other
    · exact (h.leads own t).mono fun _ _ same _ => same

/-- A call that writes nothing leaves the tables as they are. -/
theorem Program.Writes.unchanged {p : Program V ε α} (h : p.Writes fun _ => False) (t : Table V) :
    p.Leads (fun _ t' => t' = t) t := by
  suffices ∀ t', t' = t → p.Leads (fun _ t'' => t'' = t) t' from this t rfl
  induction p with
  | pure a => exact fun t' same => same
  | throw e => exact fun t' same => same
  | statement s failure next ih =>
      intro t' same
      refine ⟨same, fun o exec => ?_⟩
      have kept : applyAll o.writes t' = t := by
        cases writes : o.writes with
        | nil => exact same
        | cons w ws => exact (h.1 w.1 (Stmt.exec_writes exec (writes ▸ List.mem_cons_self ..))).elim
      exact ⟨kept, ih o.result (h.2 o.result) _ kept⟩

/-- The rows after a statement were there before, but for the one that it inserts. -/
theorem Stmt.exec_inserted {s : Stmt V} {t : Table V} {o : Outcome V s.Result}
    (exec : s.exec t = some o) {k : K} (there : k ∈ applyAll o.writes t) :
    k ∈ t ∨ s.inserted = some k := by
  cases s with
  | select key | count rows =>
      cases exec
      exact .inl there
  | selectForUpdate key =>
      simp only [Stmt.exec] at exec
      split at exec <;> cases exec <;> exact .inl there
  | update key set =>
      simp only [Stmt.exec] at exec
      split at exec
      · cases exec
        exact .inl there
      · next v found =>
          obtain ⟨row, -, rfl⟩ := Option.map_eq_some_iff.mp exec
          obtain rfl | before := Finmap.mem_insert.mp there
          · exact .inl (Finmap.mem_of_lookup_eq_some found)
          · exact .inl before
  | delete key =>
      simp only [Stmt.exec] at exec
      split at exec <;> cases exec
      · exact .inl there
      · exact .inl (Finmap.mem_erase.mp there).2
  | upsert key references row merge =>
      obtain ⟨image, -, rfl⟩ := Option.map_eq_some_iff.mp exec
      obtain rfl | before := Finmap.mem_insert.mp there
      · exact .inr rfl
      · exact .inl before

theorem Program.Inserts.keeps {P : K → Prop} {p : Program V ε α} (h : p.Inserts P) :
    p.Keeps fun t t' => ∀ k ∈ t', k ∈ t ∨ P k := by
  induction p with
  | pure a => exact fun t k => .inl
  | throw e => exact fun t k => .inl
  | statement s failure next ih =>
      refine fun t => ⟨fun k => .inl, fun o exec => ?_⟩
      have step : ∀ k ∈ applyAll o.writes t, k ∈ t ∨ P k := fun k there =>
        (Stmt.exec_inserted exec there).imp_right (h.1 k)
      refine ⟨step, (ih o.result (h.2 o.result) _).mono fun _ _ later k there => ?_⟩
      exact (later k there).elim (step k) .inr

end Sql
