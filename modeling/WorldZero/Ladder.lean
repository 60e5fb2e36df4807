import Mathlib.Algebra.BigOperators.Group.List.Basic
import Mathlib.Tactic.Linarith

/-!
# Ladders of units

An amount paid out in units, each time as many of the largest unit left as go into the
rest. Units are listed from the largest; one need not divide the next.
-/

namespace Ladder

/-- How many of each unit. -/
def counts (n : ℤ) : List ℤ → List ℤ
  | [] => []
  | r :: units => n / r :: counts (n % r) units

/-- What the units leave unpaid. -/
def leftover (n : ℤ) (units : List ℤ) : ℤ := units.foldl (· % ·) n

/-- What so many of the units come to. -/
def value (counts units : List ℤ) : ℤ := (List.zipWith (· * ·) counts units).sum

variable {n r : ℤ} {units larger smaller : List ℤ}

theorem value_counts (n : ℤ) (units : List ℤ) :
    value (counts n units) units + leftover n units = n := by
  induction units generalizing n with
  | nil => simp [value, counts, leftover]
  | cons r units ih =>
      have rest := ih (n % r)
      simp only [value, counts, leftover, List.zipWith_cons_cons, List.sum_cons,
        List.foldl_cons] at rest ⊢
      rw [add_assoc, rest]
      exact Int.ediv_mul_add_emod n r

theorem length_counts (n : ℤ) (units : List ℤ) : (counts n units).length = units.length := by
  induction units generalizing n with
  | nil => rfl
  | cons r units ih => simp [counts, ih]

theorem counts_append (n : ℤ) (larger smaller : List ℤ) :
    counts n (larger ++ smaller) = counts n larger ++ counts (leftover n larger) smaller := by
  induction larger generalizing n with
  | nil => simp [counts, leftover]
  | cons r larger ih => simp [counts, ih, leftover]

theorem leftover_append (n : ℤ) (larger smaller : List ℤ) :
    leftover n (larger ++ smaller) = leftover (leftover n larger) smaller :=
  List.foldl_append

theorem leftover_nonneg (hn : 0 ≤ n) (positive : ∀ r ∈ units, 0 < r) : 0 ≤ leftover n units := by
  induction units generalizing n with
  | nil => exact hn
  | cons r units ih =>
      obtain ⟨hr, rest⟩ := List.forall_mem_cons.mp positive
      exact ih (Int.emod_nonneg n hr.ne') rest

theorem counts_nonneg (hn : 0 ≤ n) (positive : ∀ r ∈ units, 0 < r) :
    ∀ c ∈ counts n units, 0 ≤ c := by
  induction units generalizing n with
  | nil => simp [counts]
  | cons r units ih =>
      obtain ⟨hr, rest⟩ := List.forall_mem_cons.mp positive
      exact List.forall_mem_cons.mpr
        ⟨Int.ediv_nonneg hn hr.le, ih (Int.emod_nonneg n hr.ne') rest⟩

/-- The smaller units together do not come to one of the next larger. -/
theorem value_counts_lt (hr : 0 < r) (positive : ∀ r ∈ smaller, 0 < r) :
    value (counts (leftover n (larger ++ [r])) smaller) smaller < r := by
  have rest : leftover n (larger ++ [r]) = leftover n larger % r := leftover_append n larger [r]
  have below := Int.emod_lt_of_pos (leftover n larger) hr
  have unpaid := leftover_nonneg (Int.emod_nonneg (leftover n larger) hr.ne') positive
  rw [rest]
  have whole := value_counts (leftover n larger % r) smaller
  linarith

/-- Nothing is left of any amount exactly when the smallest unit is the unit of account. -/
theorem leftover_eq_zero_of_one (n : ℤ) (larger : List ℤ) : leftover n (larger ++ [1]) = 0 := by
  rw [leftover_append]
  exact Int.emod_one _

theorem leftover_of_lt (hn : 0 ≤ n) (large : ∀ r ∈ units, n < r) : leftover n units = n := by
  induction units with
  | nil => rfl
  | cons r units ih =>
      obtain ⟨hr, rest⟩ := List.forall_mem_cons.mp large
      simpa [leftover, Int.emod_eq_of_lt hn hr] using ih rest

end Ladder
