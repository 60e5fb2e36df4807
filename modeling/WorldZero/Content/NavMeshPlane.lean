import WorldZero.Content.NavMesh
import WorldZero.Content.PointInPolygon

/-!
# The floor of a navigation polygon

Over exact numbers, where the vertices of a polygon are on one plane, Newell's method finds
the plane, whichever vertex is first and whichever way the list goes around.
-/

namespace WorldZero.Content

variable {K : Type} [Field K] [LinearOrder K] [IsStrictOrderedRing K]

/-- The points with `a x + b y + c z = d`. -/
structure Plane (K : Type) [Zero K] where
  a : K
  b : K
  c : K
  d : K
  proper : a ≠ 0 ∨ b ≠ 0 ∨ c ≠ 0

namespace Plane

variable (plane : Plane K)

def Holds (p : Point3 K) : Prop := plane.a * p.1 + plane.b * p.2.1 + plane.c * p.2.2 = plane.d

/-- How high the plane is above a point of the map. -/
def height (p : Point K) : K := (plane.d - plane.a * p.1 - plane.b * p.2) / plane.c

end Plane

namespace NavMesh

namespace Polygon

/-! ### The normal -/

/-- What one edge adds to the normal. -/
def newell (e : Point3 K × Point3 K) : Point3 K :=
  ((e.1.2.1 - e.2.2.1) * (e.1.2.2 + e.2.2.2), (e.1.2.2 - e.2.2.2) * (e.1.1 + e.2.1),
    (e.1.1 - e.2.1) * (e.1.2.1 + e.2.2.1))

omit [LinearOrder K] [IsStrictOrderedRing K] in
theorem normal_eq_sum (polygon : Polygon K) :
    polygon.normal = ((ConvexPolygon.sides polygon.vertices).map newell).sum := by
  have fold : ∀ (edges : List (Point3 K × Point3 K)) (n : Point3 K),
      edges.foldl (fun n e => (n.1 + (newell e).1, n.2.1 + (newell e).2.1,
        n.2.2 + (newell e).2.2)) n = n + (edges.map newell).sum := by
    intro edges
    induction edges with
    | nil => simp
    | cons e edges ih =>
        intro n
        rw [List.foldl_cons, ih, List.map_cons, List.sum_cons, ← add_assoc]
        rfl
  exact (fold _ _).trans (zero_add _)

omit [LinearOrder K] [IsStrictOrderedRing K] in
theorem normal_rotate (vertices : List (Point3 K)) (n : ℕ) :
    normal ⟨vertices.rotate n⟩ = normal ⟨vertices⟩ := by
  rw [normal_eq_sum, normal_eq_sum]
  exact ((ConvexPolygon.sides_rotate_perm vertices n).map newell).sum_eq

omit [LinearOrder K] [IsStrictOrderedRing K] in
theorem normal_reverse (vertices : List (Point3 K)) :
    normal ⟨vertices.reverse⟩ = -normal ⟨vertices⟩ := by
  have turned : ∀ e : Point3 K × Point3 K, newell e.swap = -newell e := by
    intro e
    simp only [newell, Prod.fst_swap, Prod.snd_swap, Prod.neg_mk, Prod.mk.injEq]
    refine ⟨?_, ?_, ?_⟩ <;> ring
  rw [normal_eq_sum, normal_eq_sum,
    ((ConvexPolygon.sides_reverse_perm vertices).map newell).sum_eq, List.map_map, List.sum_neg,
    List.map_map]
  simp only [Function.comp_def, turned]

section Plane

variable {polygon : Polygon K} {plane : Plane K}

omit [LinearOrder K] [IsStrictOrderedRing K] in
/-- Around a closed chain a quantity at the vertices comes back to where it was. -/
theorem sum_sides_sub {P : Type} (g : P → K) (vertices : List P) :
    ((ConvexPolygon.sides vertices).map fun e => g e.1 - g e.2).sum = 0 := by
  have closed := (RayCasting.closed_zip_rotate vertices 1).map g
  have split : ∀ edges : List (P × P), (edges.map fun e => g e.1 - g e.2).sum =
      ((edges.map Prod.fst).map g).sum - ((edges.map Prod.snd).map g).sum := by
    intro edges
    induction edges with
    | nil => simp
    | cons e edges ih =>
        simp only [List.map_cons, List.sum_cons, ih]
        ring
  rw [split]
  exact sub_eq_zero.mpr closed.sum_eq

omit [LinearOrder K] [IsStrictOrderedRing K] in
theorem sum_newell {edges : List (Point3 K × Point3 K)}
    (level : ∀ e ∈ edges, plane.Holds e.1 ∧ plane.Holds e.2) :
    plane.c * (edges.map newell).sum.1 - plane.a * (edges.map newell).sum.2.2 =
      (edges.map fun e =>
        (2 * plane.d * e.1.2.1 - plane.b * e.1.2.1 ^ 2 - 2 * plane.a * e.1.1 * e.1.2.1) -
          (2 * plane.d * e.2.2.1 - plane.b * e.2.2.1 ^ 2 - 2 * plane.a * e.2.1 * e.2.2.1)).sum ∧
    plane.c * (edges.map newell).sum.2.1 - plane.b * (edges.map newell).sum.2.2 =
      (edges.map fun e =>
        (-plane.a * e.1.1 ^ 2 - 2 * plane.b * e.1.1 * e.1.2.1) -
          (-plane.a * e.2.1 ^ 2 - 2 * plane.b * e.2.1 * e.2.2.1)).sum := by
  induction edges with
  | nil => simp
  | cons e edges ih =>
      obtain ⟨⟨first, second⟩, rest⟩ := List.forall_mem_cons.mp level
      obtain ⟨ihX, ihY⟩ := ih rest
      simp only [Plane.Holds] at first second
      simp only [List.map_cons, List.sum_cons, Prod.fst_add, Prod.snd_add, newell]
      constructor
      · linear_combination ihX + (e.1.2.1 - e.2.2.1) * (first + second)
      · linear_combination ihY + (e.1.1 + e.2.1) * (first - second)

omit [LinearOrder K] [IsStrictOrderedRing K] in
/-- The normal is a multiple of the plane's own. -/
theorem normal_parallel (level : ∀ v ∈ polygon.vertices, plane.Holds v) :
    plane.c * polygon.normal.1 = plane.a * polygon.normal.2.2 ∧
      plane.c * polygon.normal.2.1 = plane.b * polygon.normal.2.2 := by
  have ends : ∀ e ∈ ConvexPolygon.sides polygon.vertices, plane.Holds e.1 ∧ plane.Holds e.2 := by
    intro e he
    have among := List.of_mem_zip
      (show (e.1, e.2) ∈ polygon.vertices.zip (polygon.vertices.rotate 1) from he)
    rw [(List.rotate_perm polygon.vertices 1).mem_iff] at among
    exact ⟨level _ among.1, level _ among.2⟩
  obtain ⟨alongX, alongY⟩ := sum_newell ends
  rw [← normal_eq_sum] at alongX alongY
  constructor
  · refine sub_eq_zero.mp (alongX.trans ?_)
    exact sum_sides_sub (fun v : Point3 K =>
      2 * plane.d * v.2.1 - plane.b * v.2.1 ^ 2 - 2 * plane.a * v.1 * v.2.1) polygon.vertices
  · refine sub_eq_zero.mp (alongY.trans ?_)
    exact sum_sides_sub (fun v : Point3 K =>
      -plane.a * v.1 ^ 2 - 2 * plane.b * v.1 * v.2.1) polygon.vertices

theorem normal_ne_zero (steep : verticalNormalEpsilon ≤ abs polygon.normal.2.2) :
    polygon.normal.2.2 ≠ 0 := by
  intro none
  have positive : (0 : K) < verticalNormalEpsilon := by
    rw [verticalNormalEpsilon]
    positivity
  rw [none, abs, if_neg (lt_irrefl 0)] at steep
  exact positive.not_ge steep

theorem c_ne_zero (level : ∀ v ∈ polygon.vertices, plane.Holds v)
    (steep : verticalNormalEpsilon ≤ abs polygon.normal.2.2) : plane.c ≠ 0 := by
  intro upright
  obtain ⟨alongX, alongY⟩ := normal_parallel level
  have vertical := normal_ne_zero steep
  rw [upright, zero_mul, zero_eq_mul] at alongX alongY
  rcases plane.proper with ha | hb | hc
  · exact ha (alongX.resolve_right vertical)
  · exact hb (alongY.resolve_right vertical)
  · exact hc upright

theorem contains_iff (level : ∀ v ∈ polygon.vertices, plane.Holds v)
    (steep : verticalNormalEpsilon ≤ abs polygon.normal.2.2) (point : Point3 K) :
    polygon.contains point = true ↔
      pointInPolygon2d (flat point) polygon.vertices = true ∧
        abs (point.2.2 - plane.height (flat point)) ≤ heightToleranceMeters := by
  have vertical := normal_ne_zero steep
  have upward := c_ne_zero level steep
  obtain ⟨alongX, alongY⟩ := normal_parallel level
  obtain ⟨vertices⟩ := polygon
  cases vertices with
  | nil => exact absurd rfl vertical
  | cons v vertices =>
      have first : plane.Holds v := level v (by simp)
      have height : v.2.2 - ((normal ⟨v :: vertices⟩).1 * (point.1 - v.1) +
          (normal ⟨v :: vertices⟩).2.1 * (point.2.1 - v.2.1)) / (normal ⟨v :: vertices⟩).2.2 =
            plane.height (flat point) := by
        rw [Plane.height, flat, eq_div_iff upward]
        rw [Plane.Holds] at first
        field_simp
        linear_combination (normal ⟨v :: vertices⟩).2.2 * first - (point.1 - v.1) * alongX -
          (point.2.1 - v.2.1) * alongY
      simp only [contains, height, if_neg steep.not_gt]
      cases pointInPolygon2d (flat point) (v :: vertices) <;> simp

omit [LinearOrder K] [IsStrictOrderedRing K] in
theorem level_congr {vertices : List (Point3 K)} (same : vertices.Perm polygon.vertices)
    (level : ∀ v ∈ polygon.vertices, plane.Holds v) : ∀ v ∈ vertices, plane.Holds v :=
  fun v hv => level v (same.mem_iff.mp hv)

theorem abs_neg (x : K) : abs (-x) = abs x := by
  rcases lt_trichotomy x 0 with neg | rfl | pos
  · simp [abs, neg, neg.le, not_lt.mpr]
  · simp
  · simp [abs, pos, pos.le, not_lt.mpr]

/-- A polygon on a plane that is steep enough contains what is over its footprint and near
enough to the plane, wherever its list of vertices starts and whichever way it goes. -/
theorem contains_of_plane (polygon : Polygon K) (plane : Plane K)
    (level : ∀ v ∈ polygon.vertices, plane.Holds v)
    (steep : verticalNormalEpsilon ≤ abs polygon.normal.2.2) :
    plane.c ≠ 0 ∧ ∀ point,
      (polygon.contains point = true ↔
        pointInPolygon2d (flat point) polygon.vertices = true ∧
          abs (point.2.2 - plane.height (flat point)) ≤ heightToleranceMeters) ∧
      (∀ n, contains ⟨polygon.vertices.rotate n⟩ point = polygon.contains point) ∧
      contains ⟨polygon.vertices.reverse⟩ point = polygon.contains point := by
  refine ⟨c_ne_zero level steep, fun point => ⟨contains_iff level steep point, ?_, ?_⟩⟩
  · intro n
    have rotated : ∀ v ∈ (⟨polygon.vertices.rotate n⟩ : Polygon K).vertices, plane.Holds v :=
      level_congr (List.rotate_perm polygon.vertices n) level
    have steep' : verticalNormalEpsilon ≤ abs (normal ⟨polygon.vertices.rotate n⟩).2.2 := by
      rwa [normal_rotate]
    rw [Bool.eq_iff_iff, contains_iff level steep, contains_iff rotated steep', pointInPolygon2d,
      List.map_rotate, castRay_rotate, pointInPolygon2d]
  · have reversed : ∀ v ∈ (⟨polygon.vertices.reverse⟩ : Polygon K).vertices, plane.Holds v :=
      level_congr (List.reverse_perm polygon.vertices) level
    have steep' : verticalNormalEpsilon ≤ abs (normal ⟨polygon.vertices.reverse⟩).2.2 := by
      rwa [normal_reverse, Prod.snd_neg, Prod.snd_neg, abs_neg]
    rw [Bool.eq_iff_iff, contains_iff level steep, contains_iff reversed steep', pointInPolygon2d,
      List.map_reverse, castRay_reverse, pointInPolygon2d]

/-- A ramp that rises to the east. -/
def ramp : Polygon ℚ := ⟨[(0, 0, 0), (4, 0, 2), (4, 2, 2), (0, 2, 0)]⟩

def rampPlane : Plane ℚ := ⟨-1, 0, 2, 0, by norm_num⟩

theorem ramp_contains :
    ramp.contains (2, 1, 1) = true ∧ ramp.contains (2, 1, 2) = false ∧
      contains ⟨ramp.vertices.reverse⟩ (2, 1, 1) = true := by
  have level : ∀ v ∈ ramp.vertices, rampPlane.Holds v := by
    simp [ramp, rampPlane, Plane.Holds]
    norm_num
  have steep : verticalNormalEpsilon ≤ abs ramp.normal.2.2 := by decide +kernel
  obtain ⟨-, test⟩ := contains_of_plane ramp rampPlane level steep
  have near : ramp.contains (2, 1, 1) = true :=
    (test (2, 1, 1)).1.mpr ⟨by decide +kernel, by decide +kernel⟩
  refine ⟨near, Bool.eq_false_iff.mpr fun high => ?_, (test (2, 1, 1)).2.2.trans near⟩
  have distance : ¬ abs (2 - rampPlane.height (2, 1)) ≤ heightToleranceMeters := by decide +kernel
  exact distance ((test (2, 1, 2)).1.mp high).2

end Plane

end Polygon

end NavMesh

end WorldZero.Content
