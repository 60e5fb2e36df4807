import Mathlib.Logic.Basic

/-!
# Success of a validator

A validator is a sequence of checks in `Except`: it succeeds exactly when every
check succeeds, and a loop of checks succeeds exactly when each element passes.
-/

namespace Validation

variable {ε α β : Type}

/-- One check: report `error` unless the condition holds. -/
def ensure (condition : Bool) (error : ε) : Except ε Unit :=
  if condition then .ok () else .error error

@[simp] theorem ensure_ok {condition : Bool} {error : ε} {u : Unit} :
    ensure condition error = .ok u ↔ condition = true := by
  cases condition <;> simp [ensure]

@[simp] theorem then_ok {x : Except ε Unit} {f : Unit → Except ε β} {b : β} :
    (x >>= f) = .ok b ↔ x = .ok () ∧ f () = .ok b := by
  cases x <;> simp [bind, Except.bind]

theorem bind_ok {x : Except ε α} {f : α → Except ε β} {b : β} :
    (x >>= f) = .ok b ↔ ∃ a, x = .ok a ∧ f a = .ok b := by
  cases x <;> simp [bind, Except.bind]

/-- A value that must be there. -/
def okOrElse (value : Option α) (error : ε) : Except ε α := value.elim (.error error) .ok

@[simp] theorem okOrElse_ok {value : Option α} {error : ε} {a : α} :
    okOrElse value error = .ok a ↔ value = some a := by
  cases value <;> simp [okOrElse]

/-- Check every element in order. -/
def each (check : α → Except ε Unit) : List α → Except ε Unit
  | [] => .ok ()
  | x :: xs => do
      check x
      each check xs

theorem each_ok {check : α → Except ε Unit} {xs : List α} {u : Unit} :
    each check xs = .ok u ↔ ∀ x ∈ xs, check x = .ok () := by
  induction xs with
  | nil => simp [each]
  | cons x xs ih => simp [each, ih]

end Validation
