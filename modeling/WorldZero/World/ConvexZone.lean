import Mathlib.Tactic.NormNum
import WorldZero.Content.PointInPolygon
import WorldZero.World.Movement

/-!
# The bounds of a convex zone

`point_in_polygon` over exact numbers: it tells the inside of a convex polygon from the
outside, and how the corners of any polygon are listed makes no difference.
-/

namespace WorldZero.World

open Content (NavMesh Point flat)
open ConvexPolygon (Inside IsConvex region)

variable {K : Type} [Field K] [LinearOrder K] [IsStrictOrderedRing K]

/-- The test with all its copies: right for a convex polygon, off its sides, and the same on
the sides as well however the corners of a polygon are listed. -/
theorem pointInPolygon_convex (point : Point K) (polygon : List (Point K)) :
    (IsConvex polygon →
      (Inside point polygon → pointInPolygon point polygon = true) ∧
      (point ∉ region polygon → pointInPolygon point polygon = false)) ∧
    (∀ n, pointInPolygon point (polygon.rotate n) = pointInPolygon point polygon) ∧
    pointInPolygon point polygon.reverse = pointInPolygon point polygon ∧
    Content.pointInPolygon point polygon = pointInPolygon point polygon ∧
    ∀ vertices, vertices.map flat = polygon →
      NavMesh.pointInPolygon2d point vertices = pointInPolygon point polygon := by
  refine ⟨fun convex => ⟨Content.castRay_of_inside convex, Content.castRay_of_not_mem_region⟩,
    Content.castRay_rotate point polygon, Content.castRay_reverse point polygon, rfl, ?_⟩
  rintro vertices rfl
  rfl

/-- The corners of a square, one of them twice over and one amid a side. -/
def courtyard : List (Point ℚ) := [(0, 0), (1, 0), (2, 0), (2, 2), (2, 2), (0, 2)]

theorem courtyard_inside :
    IsConvex courtyard ∧ pointInPolygon (1, 1) courtyard = true ∧
      pointInPolygon (3, 1) courtyard = false := by
  have convex : IsConvex courtyard := by decide +kernel
  refine ⟨convex, ((pointInPolygon_convex (1, 1) courtyard).1 convex).1 ⟨?_, ?_⟩,
    ((pointInPolygon_convex (3, 1) courtyard).1 convex).2 fun there => ?_⟩
  · have first : ((0, 0) : Point ℚ) ∈ region courtyard :=
      subset_convexHull ℚ _ (by simp [courtyard])
    have opposite : ((2, 2) : Point ℚ) ∈ region courtyard :=
      subset_convexHull ℚ _ (by simp [courtyard])
    have middle := convex_convexHull ℚ {v | v ∈ courtyard} first opposite
      (by norm_num : (0 : ℚ) ≤ 1 / 2) (by norm_num : (0 : ℚ) ≤ 1 / 2) (by norm_num)
    norm_num at middle
    exact middle
  · intro e he
    simp [ConvexPolygon.sides, courtyard] at he
    rcases he with rfl | rfl | rfl | rfl | rfl | rfl
    all_goals
      rintro ⟨t, low, high, first, second⟩
      simp only [Prod.mk_sub_mk] at first second
      linarith
  · have left : ∀ v ∈ courtyard, 0 ≤ RayCasting.cross (0, 1) (v - (2, 0)) := by decide +kernel
    have inside := ConvexPolygon.cross_nonneg_of_mem_region left there
    norm_num [RayCasting.cross] at inside

end WorldZero.World
