import Mathlib.Data.Finmap

/-!
# SQL calls as sequences of keyed statements

A call to the database is a `Program`: a tree of statements, each continued by
the rows it returns. The same program has two meanings. `run` executes it alone,
against one table state, and `transaction` adds the rollback that a failed
transaction performs. `Sql.ReadCommitted` interleaves the statements of several
programs.

Tables are one finite map from row keys to rows. The row type depends on the key,
so a column's `CHECK` constraint is a property of the row type, and an update
whose result violates it is a `none` of the update function.
-/

namespace Sql

variable {K : Type} {V : K → Type} {ε α β : Type}

/-- A committed or private state of all tables. -/
abbrev Table (V : K → Type) := Finmap V

/-- The row image that a statement leaves at a key, `none` for a deleted row. -/
abbrev Write (V : K → Type) := Σ k, Option (V k)

section
variable [DecidableEq K]

def Write.apply (w : Write V) (t : Table V) : Table V :=
  match w.2 with
  | some v => t.insert w.1 v
  | none => t.erase w.1

/-- Replay row images in the order in which they were written. -/
def applyAll (ws : List (Write V)) (t : Table V) : Table V :=
  ws.foldl (fun t w => w.apply t) t

end

/-- One SQL statement on one row, or an aggregate over keys.
A row function returns `none` when the new row violates a constraint. `upsert` is
`INSERT … ON CONFLICT DO UPDATE … RETURNING`: `row` is the proposed row, which must
itself satisfy the constraints, `merge` combines the existing row with the proposed
one, and `references` is the row that a foreign key of the inserted row names. -/
inductive Stmt (V : K → Type) where
  | select (key : K)
  | selectForUpdate (key : K)
  | count (rows : K → Bool)
  | update (key : K) (set : V key → Option (V key))
  | delete (key : K)
  | upsert (key : K) (references : Option K) (row : Option (V key))
      (merge : V key → V key → Option (V key))

/-- What the client receives: rows, a count, whether a row was affected. -/
def Stmt.Result : Stmt V → Type
  | .select key | .selectForUpdate key => Option (V key)
  | .count _ => Nat
  | .update _ _ | .delete _ => Bool
  | .upsert key _ _ _ => V key

/-- The rows returned, the row images written and the row locks taken. -/
structure Outcome (V : K → Type) (R : Type) where
  result : R
  writes : List (Write V) := []
  locks : List K := []

/-- One statement against the table state that it sees; `none` is a constraint
violation. A plain `select` takes no lock; every row that is written or selected
`FOR UPDATE` is locked. -/
def Stmt.exec [DecidableEq K] : (s : Stmt V) → Table V → Option (Outcome V s.Result)
  | .select key, t => some { result := t.lookup key }
  | .selectForUpdate key, t =>
      match t.lookup key with
      | none => some { result := none }
      | some v => some { result := some v, locks := [key] }
  | .count rows, t => some { result := (t.keys.filter fun k => rows k).card }
  | .update key set, t =>
      match t.lookup key with
      | none => some { result := false }
      | some v => (set v).map fun w =>
          { result := true, writes := [⟨key, some w⟩], locks := [key] }
  | .delete key, t =>
      match t.lookup key with
      | none => some { result := false }
      | some _ => some { result := true, writes := [⟨key, none⟩], locks := [key] }
  | .upsert key references row merge, t =>
      let image := row.bind fun excluded =>
        match t.lookup key with
        | none =>
            if references.all fun parent => (t.lookup parent).isSome then some excluded else none
        | some v => merge v excluded
      image.map fun w => { result := w, writes := [⟨key, some w⟩], locks := [key] }

/-- A call: a tree of statements. `failure` is the error that the call reports if
the statement fails. -/
inductive Program (V : K → Type) (ε α : Type) where
  | pure (a : α)
  | throw (e : ε)
  | statement (s : Stmt V) (failure : ε) (next : s.Result → Program V ε α)

namespace Program

def bind : Program V ε α → (α → Program V ε β) → Program V ε β
  | .pure a, f => f a
  | .throw e, _ => .throw e
  | .statement s failure next, f => .statement s failure fun r => (next r).bind f

instance : Monad (Program V ε) where
  pure := Program.pure
  bind := Program.bind

@[simp] theorem pure_def (a : α) : (Pure.pure a : Program V ε α) = .pure a := rfl

@[simp] theorem bind_def (p : Program V ε α) (f : α → Program V ε β) : p >>= f = p.bind f := rfl

@[simp] theorem pure_bind (a : α) (f : α → Program V ε β) : (Program.pure a).bind f = f a := rfl

@[simp] theorem throw_bind (e : ε) (f : α → Program V ε β) :
    (Program.throw e).bind f = .throw e := rfl

@[simp] theorem statement_bind (s : Stmt V) (failure : ε) (next : s.Result → Program V ε α)
    (f : α → Program V ε β) :
    (Program.statement s failure next).bind f = .statement s failure fun r => (next r).bind f :=
  rfl

/-! ### The client's calls -/

def fetchOptional (key : K) (failure : ε) : Program V ε (Option (V key)) :=
  .statement (.select key) failure .pure

def fetchOptionalForUpdate (key : K) (failure : ε) : Program V ε (Option (V key)) :=
  .statement (.selectForUpdate key) failure .pure

def fetchCount (rows : K → Bool) (failure : ε) : Program V ε Nat :=
  .statement (.count rows) failure .pure

def executeUpdate (key : K) (set : V key → Option (V key)) (failure : ε) : Program V ε Bool :=
  .statement (.update key set) failure .pure

def executeDelete (key : K) (failure : ε) : Program V ε Bool :=
  .statement (.delete key) failure .pure

def fetchUpsert (key : K) (references : Option K) (row : Option (V key))
    (merge : V key → V key → Option (V key)) (failure : ε) : Program V ε (V key) :=
  .statement (.upsert key references row merge) failure .pure

/-- A query that must return a row reports its absence as a failure. -/
def fetchOne (key : K) (failure : ε) : Program V ε (V key) :=
  .statement (.select key) failure fun row => row.elim (.throw failure) .pure

/-- `SELECT … FOR UPDATE` of a row that must exist. -/
def fetchOneForUpdate (key : K) (failure : ε) : Program V ε (V key) :=
  .statement (.selectForUpdate key) failure fun row => row.elim (.throw failure) .pure

/-- The client's own computations may fail, too. -/
def ofExcept : Except ε α → Program V ε α
  | .ok a => .pure a
  | .error e => .throw e

/-! ### Serial execution -/

variable [DecidableEq K]

/-- Execute the program alone. On an error the writes done so far remain: rolling
them back is the business of `transaction`. -/
def run : Program V ε α → Table V → Except ε α × Table V
  | .pure a, t => (.ok a, t)
  | .throw e, t => (.error e, t)
  | .statement s failure next, t =>
      match s.exec t with
      | none => (.error failure, t)
      | some o => run (next o.result) (applyAll o.writes t)

/-- `BEGIN … COMMIT`: an error rolls every write back. -/
def transaction (p : Program V ε α) (t : Table V) : Except ε α × Table V :=
  match p.run t with
  | (.ok a, t') => (.ok a, t')
  | (.error e, _) => (.error e, t)

@[simp] theorem run_pure (a : α) (t : Table V) :
    (Program.pure a : Program V ε α).run t = (.ok a, t) := rfl

@[simp] theorem run_throw (e : ε) (t : Table V) :
    (Program.throw e : Program V ε α).run t = (.error e, t) := rfl

theorem run_statement (s : Stmt V) (failure : ε) (next : s.Result → Program V ε α) (t : Table V) :
    (Program.statement s failure next).run t =
      match s.exec t with
      | none => (.error failure, t)
      | some o => (next o.result).run (applyAll o.writes t) := by
  rw [run]

theorem run_bind (p : Program V ε α) (f : α → Program V ε β) (t : Table V) :
    (p.bind f).run t =
      match p.run t with
      | (.ok a, t') => (f a).run t'
      | (.error e, t') => (.error e, t') := by
  induction p generalizing t with
  | pure a => rfl
  | throw e => rfl
  | statement s failure next ih =>
      simp only [statement_bind, run_statement]
      cases s.exec t with
      | none => rfl
      | some o => exact ih o.result _

theorem transaction_ok {p : Program V ε α} {t t' : Table V} {a : α} :
    p.transaction t = (.ok a, t') ↔ p.run t = (.ok a, t') := by
  unfold transaction
  rcases hrun : p.run t with ⟨_ | _, _⟩ <;> simp

/-- A failed transaction leaves the tables as it found them. -/
theorem transaction_error {p : Program V ε α} {t t' : Table V} {e : ε}
    (h : p.transaction t = (.error e, t')) : t' = t := by
  unfold transaction at h
  rcases hrun : p.run t with ⟨_ | _, _⟩ <;> simp_all

end Program

/-! ### Row images -/

variable [DecidableEq K]

@[simp] theorem Write.apply_some (k : K) (v : V k) (t : Table V) :
    Write.apply ⟨k, some v⟩ t = t.insert k v := rfl

@[simp] theorem Write.apply_none (k : K) (t : Table V) :
    Write.apply (⟨k, none⟩ : Write V) t = t.erase k := rfl

@[simp] theorem applyAll_nil (t : Table V) : applyAll [] t = t := rfl

@[simp] theorem applyAll_cons (w : Write V) (ws : List (Write V)) (t : Table V) :
    applyAll (w :: ws) t = applyAll ws (w.apply t) := rfl

theorem applyAll_append (ws ws' : List (Write V)) (t : Table V) :
    applyAll (ws ++ ws') t = applyAll ws' (applyAll ws t) := List.foldl_append

theorem Write.lookup_apply_self (w : Write V) (t : Table V) :
    (w.apply t).lookup w.1 = w.2 := by
  obtain ⟨k, _ | v⟩ := w
  · exact Finmap.lookup_erase k t
  · exact Finmap.lookup_insert t

theorem Write.lookup_apply_of_ne (w : Write V) (t : Table V) {k : K} (h : k ≠ w.1) :
    (w.apply t).lookup k = t.lookup k := by
  obtain ⟨k', _ | v⟩ := w
  · exact Finmap.lookup_erase_ne h
  · exact Finmap.lookup_insert_of_ne t h

/-- A row that no image names keeps its contents. -/
theorem lookup_applyAll_of_notMem {ws : List (Write V)} {k : K} (t : Table V)
    (h : ∀ w ∈ ws, k ≠ w.1) : (applyAll ws t).lookup k = t.lookup k := by
  induction ws generalizing t with
  | nil => rfl
  | cons w ws ih =>
      rw [applyAll_cons, ih _ fun w' hw' => h w' (List.mem_cons_of_mem w hw'),
        w.lookup_apply_of_ne t (h w List.mem_cons_self)]

/-- The row left at a key depends on the underlying row at that key only. -/
theorem lookup_applyAll_congr {ws : List (Write V)} {k : K} {t t' : Table V}
    (h : t.lookup k = t'.lookup k) : (applyAll ws t).lookup k = (applyAll ws t').lookup k := by
  induction ws generalizing t t' with
  | nil => exact h
  | cons w ws ih =>
      apply ih
      by_cases hk : k = w.1
      · subst hk
        rw [w.lookup_apply_self, w.lookup_apply_self]
      · rw [w.lookup_apply_of_ne t hk, w.lookup_apply_of_ne t' hk, h]

end Sql
