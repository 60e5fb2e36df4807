import Mathlib.Algebra.Order.Field.Basic
import Mathlib.Algebra.Ring.Parity
import Mathlib.Data.List.Rotate
import Mathlib.Tactic.FieldSimp
import Mathlib.Tactic.Linarith
import Mathlib.Tactic.LinearCombination
import Mathlib.Tactic.Ring

/-!
# Rays and closed chains of edges

How many edges of a closed chain a ray crosses. An end of an edge that lies on the line of
the ray counts as lying on its right side, so that a ray through a corner crosses the edges
there as if it passed the corner on the left.
-/

namespace RayCasting

variable {K : Type*} [Field K] [LinearOrder K] [IsStrictOrderedRing K]

/-- Positive where `a` is to the left of the direction `u`. -/
def cross (u a : K × K) : K := u.1 * a.2 - u.2 * a.1

/-- The edge from `a` to `b` passes through the origin. -/
def Through (a b : K × K) : Prop :=
  ∃ t, 0 ≤ t ∧ t ≤ 1 ∧ a.1 + t * (b.1 - a.1) = 0 ∧ a.2 + t * (b.2 - a.2) = 0

/-- The edge from `a` to `b` is crossed by the ray from the origin in the direction `u`. -/
def meets (u a b : K × K) : Bool :=
  if 0 < cross u a then decide (cross u b ≤ 0 ∧ cross a b < 0)
  else decide (0 < cross u b ∧ 0 < cross a b)

variable {u v a b : K × K}

omit [LinearOrder K] [IsStrictOrderedRing K] in
theorem cross_mul (u v a b : K × K) :
    cross u v * cross a b = cross u a * cross v b - cross v a * cross u b := by
  simp only [cross]
  ring

/-- Across the line of `u`, an edge that is parallel to the origin passes through it. -/
theorem through_of_cross_eq_zero (left : 0 < cross u a) (right : cross u b ≤ 0)
    (flat : cross a b = 0) : Through a b := by
  have apart : 0 < cross u a - cross u b := by linarith
  refine ⟨cross u a / (cross u a - cross u b), div_nonneg left.le apart.le,
    (div_le_one apart).mpr (by linarith), ?_, ?_⟩
  · field_simp
    simp only [cross] at flat ⊢
    linear_combination -u.1 * flat
  · field_simp
    simp only [cross] at flat ⊢
    linear_combination -u.2 * flat

omit [LinearOrder K] [IsStrictOrderedRing K] in
theorem cross_comm (a b : K × K) : cross b a = -cross a b := by
  simp only [cross]
  ring

theorem meets_comm (u a b : K × K) : meets u b a = meets u a b := by
  have flip : cross b a = -cross a b := cross_comm a b
  rcases lt_or_ge 0 (cross u a) with ha | ha <;> rcases lt_or_ge 0 (cross u b) with hb | hb <;>
    simp [meets, ha, hb, flip, not_lt.mpr, not_le.mpr]

theorem Through.symm (h : Through a b) : Through b a := by
  obtain ⟨t, nonneg, le_one, first, second⟩ := h
  refine ⟨1 - t, by linarith, by linarith, ?_, ?_⟩
  · linear_combination first
  · linear_combination second

/-! ### Closed chains -/

/-- Every end of an edge is the beginning of an edge. -/
def Closed {P : Type*} (edges : List (P × P)) : Prop :=
  (edges.map Prod.fst).Perm (edges.map Prod.snd)

theorem closed_zip_rotate {P : Type*} (corners : List P) (n : ℕ) :
    Closed (corners.zip (corners.rotate n)) := by
  rw [Closed, List.map_fst_zip (by simp), List.map_snd_zip (by simp)]
  exact (List.rotate_perm corners n).symm

/-- Two ways of counting edges that differ where just one end of the edge counts. -/
theorem odd_countP_iff {P : Type*} {edges : List (P × P)} (closed : Closed edges)
    {f g : P × P → Bool} {c : P → Bool}
    (ends : ∀ e ∈ edges, (f e ^^ g e) = (c e.1 ^^ c e.2)) :
    Odd (edges.countP f) ↔ Odd (edges.countP g) := by
  have sum : ∀ edges : List (P × P), (∀ e ∈ edges, (f e ^^ g e) = (c e.1 ^^ c e.2)) →
      Even (edges.countP f + edges.countP g + edges.countP (c ∘ Prod.fst) +
        edges.countP (c ∘ Prod.snd)) := by
    intro edges ends
    induction edges with
    | nil => simp
    | cons e edges ih =>
        obtain ⟨first, rest⟩ := List.forall_mem_cons.mp ends
        obtain ⟨k, half⟩ := ih rest
        simp only [List.countP_cons, Function.comp_apply]
        by_cases hf : f e <;> by_cases hg : g e <;> by_cases hc : c e.1 <;> by_cases hc' : c e.2 <;>
          simp [hf, hg, hc, hc'] at first ⊢
        all_goals first | exact ⟨k, by omega⟩ | exact ⟨k + 1, by omega⟩ | exact ⟨k + 2, by omega⟩
  obtain ⟨k, half⟩ := sum edges ends
  have same : edges.countP (c ∘ Prod.fst) = edges.countP (c ∘ Prod.snd) := by
    rw [← List.countP_map, ← List.countP_map]
    exact closed.countP_eq c
  rw [Nat.odd_iff, Nat.odd_iff]
  omega

/-! ### Rays from anywhere -/

/-- The point lies on the edge. -/
def Touches (p a b : K × K) : Prop := Through (a - p) (b - p)

/-- The edge is crossed by the ray from a point. -/
def ahead (p u a b : K × K) : Bool := meets u (a - p) (b - p)

theorem ahead_comm (p u a b : K × K) : ahead p u b a = ahead p u a b := meets_comm u _ _

end RayCasting
