import WorldZero.Content.Manifest
import WorldZero.ConvexPolygon

/-!
# The point-in-polygon test

Over an ordered field the ray casting of the code counts the edges that the ray to the
right crosses, and any other direction would do as well.
-/

namespace WorldZero.Content

open RayCasting (ahead)

variable {K : Type} [Field K] [LinearOrder K] [IsStrictOrderedRing K]

/-- The abscissa that the code computes is to the right of the point exactly when the edge is
ahead of it there. -/
theorem crosses_eq_ahead (point i j : Point K) :
    crosses point i j = ahead point (1, 0) j i := by
  have height : ∀ a : Point K, RayCasting.cross (1, 0) (a - point) = a.2 - point.2 := by
    intro a
    simp [RayCasting.cross]
  have area : (j.1 - point.1) * (i.2 - j.2) + (point.2 - j.2) * (i.1 - j.1) =
      RayCasting.cross (j - point) (i - point) := by
    simp only [RayCasting.cross, Prod.fst_sub, Prod.snd_sub]
    ring
  have right : i.2 - j.2 ≠ 0 →
      j.1 + (point.2 - j.2) / (i.2 - j.2) * (i.1 - j.1) - point.1 =
        RayCasting.cross (j - point) (i - point) / (i.2 - j.2) := by
    intro sloped
    rw [← area]
    field_simp
    ring
  simp only [crosses, ahead, RayCasting.meets, height, sub_pos]
  rcases lt_or_ge point.2 j.2 with hj | hj <;> rcases lt_or_ge point.2 i.2 with hi | hi
  · simp [hi, hj, not_le.mpr]
  · have down : i.2 - j.2 < 0 := by linarith
    simp [hj, hi, not_lt.mpr hi]
    rw [← sub_pos, right down.ne, lt_div_iff_of_neg down, zero_mul]
  · have up : 0 < i.2 - j.2 := by linarith
    simp [hi, not_lt.mpr hj]
    rw [← sub_pos, right up.ne', lt_div_iff₀ up, zero_mul]
  · simp [not_lt.mpr hi, not_lt.mpr hj]

omit [IsStrictOrderedRing K] in
theorem castRay_iff_odd (point : Point K) (polygon : List (Point K)) :
    castRay point polygon = true ↔
      Odd ((withPrevious polygon).countP fun e => crosses point e.1 e.2) := by
  have fold : ∀ (edges : List (Point K × Point K)) (inside : Bool),
      edges.foldl (fun inside e => if crosses point e.1 e.2 then !inside else inside) inside =
        (inside ^^ decide (Odd (edges.countP fun e => crosses point e.1 e.2))) := by
    intro edges
    induction edges with
    | nil => simp
    | cons e edges ih =>
        intro inside
        rw [List.foldl_cons, ih, List.countP_cons]
        by_cases crossed : crosses point e.1 e.2 = true
        · by_cases odd : Odd (edges.countP fun e => crosses point e.1 e.2) <;>
            cases inside <;> simp_all [Nat.odd_add_one]
        · simp [crossed]
  have ray : castRay point polygon = _ := fold (withPrevious polygon) false
  rw [ray]
  simp

/-- The point is in the polygon and on none of its edges. -/
def StrictlyInside (point : Point K) (polygon : List (Point K)) : Prop :=
  pointInPolygon point polygon = true ∧
    ∀ e ∈ withPrevious polygon, ¬ RayCasting.Touches point e.1 e.2

/-! ### Convex polygons and other lists of the same corners -/

theorem withPrevious_perm {P : Type} (polygon : List P) :
    (withPrevious polygon).Perm ((ConvexPolygon.sides polygon).map Prod.swap) := by
  have turned : withPrevious polygon =
      (ConvexPolygon.sides (polygon.rotate (polygon.length - 1))).map Prod.swap := by
    have whole : polygon.rotate (polygon.length - 1 + 1) = polygon := by
      cases polygon with
      | nil => rfl
      | cons v polygon => exact List.rotate_length (v :: polygon)
    rw [ConvexPolygon.sides, List.zip_swap, List.rotate_rotate, whole, withPrevious]
  rw [turned]
  exact (ConvexPolygon.sides_rotate_perm polygon _).map _

theorem castRay_iff (point : Point K) (polygon : List (Point K)) :
    castRay point polygon = true ↔
      Odd ((ConvexPolygon.sides polygon).countP fun e => ahead point (1, 0) e.1 e.2) := by
  rw [castRay_iff_odd, (withPrevious_perm polygon).countP_eq, List.countP_map]
  simp only [crosses_eq_ahead, Function.comp_def, Prod.fst_swap, Prod.snd_swap]

theorem castRay_rotate (point : Point K) (polygon : List (Point K)) (n : ℕ) :
    castRay point (polygon.rotate n) = castRay point polygon := by
  rw [Bool.eq_iff_iff, castRay_iff, castRay_iff,
    (ConvexPolygon.sides_rotate_perm polygon n).countP_eq]

theorem castRay_reverse (point : Point K) (polygon : List (Point K)) :
    castRay point polygon.reverse = castRay point polygon := by
  rw [Bool.eq_iff_iff, castRay_iff, castRay_iff,
    (ConvexPolygon.sides_reverse_perm polygon).countP_eq, List.countP_map]
  simp only [Function.comp_def, Prod.fst_swap, Prod.snd_swap, RayCasting.ahead_comm]

theorem castRay_of_inside {point : Point K} {polygon : List (Point K)}
    (convex : ConvexPolygon.IsConvex polygon) (inside : ConvexPolygon.Inside point polygon) :
    castRay point polygon = true := by
  have right : ((1, 0) : K × K) ≠ 0 := by simp
  rcases convex with turns | turns
  · rw [castRay_iff, inside.countP_ahead turns right]
    exact odd_one
  · rw [← castRay_reverse, castRay_iff,
      (ConvexPolygon.inside_reverse.mpr inside).countP_ahead turns right]
    exact odd_one

theorem castRay_of_not_mem_region {point : Point K} {polygon : List (Point K)}
    (outside : point ∉ ConvexPolygon.region polygon) : castRay point polygon = false := by
  rw [Bool.eq_false_iff]
  intro cast
  exact outside (ConvexPolygon.mem_region_of_odd_ahead ((castRay_iff point polygon).mp cast))

end WorldZero.Content
