import WorldZero.Content.NavMesh
import WorldZero.NotANumber

/-!
# Geometry with coordinates that may be no numbers

A ray crosses an edge only where a comparison holds, so a point that is found inside a polygon
has coordinates that are numbers, whatever the corners are.
-/

namespace WorldZero.Content

open NotANumber Number

noncomputable instance : Sqrt (Number ℝ) where
  sqrt
    | num x => if x < 0 then nan else num (Real.sqrt x)
    | nan => nan

theorem sqrt_num {x : ℝ} (nonneg : 0 ≤ x) : Sqrt.sqrt (num x) = num (Real.sqrt x) :=
  if_neg (not_lt.mpr nonneg)

theorem isNum_of_sqrt {a : Number ℝ} (root : (Sqrt.sqrt a).IsNum) : a.IsNum := by
  cases a
  · exact root.elim
  · trivial

/-- Both coordinates are numbers. -/
def Point.IsNum {F : Type} (p : Point (Number F)) : Prop := Number.IsNum p.1 ∧ Number.IsNum p.2

def Point3.IsNum {F : Type} (p : Point3 (Number F)) : Prop :=
  Number.IsNum p.1 ∧ Number.IsNum p.2.1 ∧ Number.IsNum p.2.2

section Rays

variable {F : Type} [Field F] [LinearOrder F] {point i j : Point (Number F)}
variable {polygon : List (Point (Number F))}

theorem isNum_of_crosses (crossed : crosses point i j = true) : point.IsNum := by
  unfold crosses at crossed
  split at crossed
  next straddles =>
    refine ⟨(isNum_of_lt (of_decide_eq_true crossed)).1, ?_⟩
    by_cases below : point.2 < i.2
    · exact (isNum_of_lt below).1
    · by_cases below' : point.2 < j.2
      · exact (isNum_of_lt below').1
      · simp [below, below'] at straddles
  · cases crossed

/-- A point is inside only if the ray from it crosses an edge. -/
theorem exists_crosses_of_castRay (inside : castRay point polygon = true) :
    ∃ edge ∈ withPrevious polygon, crosses point edge.1 edge.2 = true := by
  by_contra none
  push Not at none
  have outside : ∀ edges : List (Point (Number F) × Point (Number F)),
      (∀ edge ∈ edges, crosses point edge.1 edge.2 = false) →
      edges.foldl (fun inside (i, j) => if crosses point i j then !inside else inside) false =
        false := by
    intro edges uncrossed
    induction edges with
    | nil => rfl
    | cons edge edges ih =>
        simp only [List.foldl_cons, uncrossed edge List.mem_cons_self]
        exact ih fun edge there => uncrossed edge (List.mem_cons_of_mem _ there)
  rw [castRay, outside _ fun edge there => Bool.eq_false_iff.mpr (none edge there)] at inside
  cases inside

theorem isNum_of_castRay (inside : castRay point polygon = true) : point.IsNum := by
  obtain ⟨edge, -, crossed⟩ := exists_crosses_of_castRay inside
  exact isNum_of_crosses crossed

theorem abs_isNum {a : Number F} : (abs a).IsNum ↔ a.IsNum := by
  unfold abs
  split <;> simp

/-- Walkable ground is at a number above a footprint of numbers. -/
theorem isNum_of_navMesh_contains {navmesh : NavMesh (Number F)} {p : Point3 (Number F)}
    (walkable : navmesh.contains p = true) : p.IsNum := by
  obtain ⟨polygon, found⟩ := Option.isSome_iff_exists.mp walkable
  have holds := List.find?_some found
  unfold NavMesh.Polygon.contains at holds
  split at holds
  · cases holds
  next inside =>
    have footprint : Point.IsNum (flat p) :=
      isNum_of_castRay (by simpa [NavMesh.pointInPolygon2d] using inside)
    dsimp only at holds
    split at holds
    · cases holds
    split at holds
    · cases holds
    next =>
      have height := abs_isNum.mp (isNum_of_le (of_decide_eq_true holds)).1
      exact ⟨footprint.1, footprint.2, (isNum_sub.mp height).1⟩

end Rays

end WorldZero.Content
