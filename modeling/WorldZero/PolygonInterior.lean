import WorldZero.ConvexPolygon

/-!
# What is inside a convex polygon

Where the corners turn left, a point to the left of every side is inside. The mean of the
corners is such a point unless they are all on one line.
-/

namespace ConvexPolygon

open RayCasting (Touches ahead cross)

/-! ### Sides that begin at a corner -/

section Sides

variable {P : Type*} {v w : P}

theorem exists_next {rest : List P} (later : w ∈ rest) (other : w ≠ v) :
    ∃ x, x ≠ v ∧ [v, x] <:+: v :: rest := by
  induction rest with
  | nil => cases later
  | cons x rest ih =>
      by_cases same : x = v
      · subst same
        have later : w ∈ rest := (List.mem_cons.mp later).resolve_left other
        obtain ⟨y, apart, next⟩ := ih later
        exact ⟨y, apart, next.trans (List.suffix_cons x _).isInfix⟩
      · exact ⟨x, same, ⟨[], rest, rfl⟩⟩

/-- Where corners differ, a proper side begins at each of them. -/
theorem exists_side_of_mem {corners : List P} (hv : v ∈ corners) (hw : w ∈ corners)
    (other : w ≠ v) : ∃ x, x ≠ v ∧ (v, x) ∈ sides corners := by
  obtain ⟨n, rest, first⟩ := exists_rotate_eq_cons hv
  rw [← (List.rotate_perm corners n).mem_iff, first] at hw
  have later : w ∈ rest := (List.mem_cons.mp hw).resolve_left other
  obtain ⟨x, apart, next⟩ := exists_next later other
  refine ⟨x, apart, (sides_rotate_perm corners n).mem_iff.mp ?_⟩
  rw [first]
  exact mem_sides_of_adjacent next

end Sides

variable {K : Type*} [Field K] [LinearOrder K] [IsStrictOrderedRing K]
variable {p g x y v : K × K} {corners : List (K × K)}

/-! ### The left of every side -/

/-- The point is strictly to the left of every side that has a direction. -/
def LeftOfSides (p : K × K) (corners : List (K × K)) : Prop :=
  ∀ e ∈ sides corners, e.1 ≠ e.2 → 0 < turn e.1 e.2 p

theorem turn_eq_zero_of_touches (touches : Touches p x y) : turn x y p = 0 := by
  obtain ⟨t, -, -, first, second⟩ := touches
  simp only [turn, cross, Prod.fst_sub, Prod.snd_sub] at first second ⊢
  linear_combination (y.2 - x.2) * first - (y.1 - x.1) * second

/-- In the region, being on the left of the sides keeps a point off all of them. -/
theorem inside_of_mem_region (there : p ∈ region corners) (left : LeftOfSides p corners)
    (hv : v ∈ corners) (hx : x ∈ corners) (other : x ≠ v) : Inside p corners := by
  refine ⟨there, fun e he touches => ?_⟩
  by_cases proper : e.1 = e.2
  · have corner : e.1 ∈ corners :=
      (List.of_mem_zip (show (e.1, e.2) ∈ corners.zip (corners.rotate 1) from he)).1
    have same : p = e.1 := by
      obtain ⟨t, -, -, first, second⟩ := touches
      rw [← proper] at first second
      refine Prod.ext ?_ ?_
      · simp only [Prod.fst_sub] at first
        linear_combination -first
      · simp only [Prod.snd_sub] at second
        linear_combination -second
    obtain ⟨w, hw, apart⟩ : ∃ w ∈ corners, w ≠ e.1 := by
      by_cases first : v = e.1
      · exact ⟨x, hx, first ▸ other⟩
      · exact ⟨v, hv, first⟩
    obtain ⟨z, next, side⟩ := exists_side_of_mem corner hw apart
    have positive := left (e.1, z) side next.symm
    rw [same] at positive
    simp [turn, cross] at positive
  · exact (left e he proper).ne' (turn_eq_zero_of_touches touches)

/-- A point on the left of the sides is between a point inside and where the boundary is met. -/
theorem mem_region_of_leftOfSides (turns : TurnsLeft corners) (inside : Inside g corners)
    (left : LeftOfSides p corners) : p ∈ region corners := by
  by_cases same : p = g
  · exact same ▸ inside.1
  have away : p - g ≠ 0 := sub_ne_zero.mpr same
  have once := inside.countP_ahead turns away
  obtain ⟨e, he, met⟩ : ∃ e ∈ sides corners, ahead g (p - g) e.1 e.2 = true :=
    List.countP_pos_iff.mp (once ▸ Nat.one_pos)
  obtain ⟨t, there, level, front⟩ := exists_on_ray he (straddles_of_ahead met)
  have ahead : 0 < t := of_decide_eq_true (front ▸ met)
  have proper : e.1 ≠ e.2 := by
    intro degenerate
    rw [degenerate] at met
    have level : cross (e.2 - g) (e.2 - g) = 0 := by
      simp [cross, mul_comm]
    by_cases high : 0 < cross (p - g) (e.2 - g) <;>
      simp [RayCasting.ahead, RayCasting.meets, level, high] at met
  have near : 0 < turn e.1 e.2 g := inside.turn_pos turns he proper
  have far : 0 < turn e.1 e.2 p := left e he proper
  -- The side's line is met beyond the point.
  have beyond : 1 < t := by
    by_contra short
    have affine : turn e.1 e.2 (g + t • (p - g)) =
        (1 - t) * turn e.1 e.2 g + t * turn e.1 e.2 p := by
      simp only [turn, cross, Prod.fst_sub, Prod.snd_sub, Prod.fst_add, Prod.snd_add,
        Prod.smul_fst, Prod.smul_snd, smul_eq_mul]
      ring
    have positive : 0 < (1 - t) * turn e.1 e.2 g + t * turn e.1 e.2 p := by
      have rest : 0 ≤ (1 - t) * turn e.1 e.2 g := mul_nonneg (by linarith) near.le
      have part : 0 < t * turn e.1 e.2 p := mul_pos ahead far
      linarith
    exact positive.ne' (affine ▸ level)
  have amid := convex_convexHull K {v | v ∈ corners} inside.1 there
    (sub_nonneg.mpr ((inv_le_one₀ ahead).mpr beyond.le)) (inv_nonneg.mpr ahead.le)
    (sub_add_cancel 1 t⁻¹)
  change p ∈ convexHull K {v | v ∈ corners}
  convert amid using 1
  refine Prod.ext ?_ ?_
  all_goals
    simp only [Prod.fst_add, Prod.snd_add, Prod.smul_fst, Prod.smul_snd, Prod.fst_sub,
      Prod.snd_sub, smul_eq_mul]
    field_simp
    ring

/-! ### The mean of the corners -/

def mean (corners : List (K × K)) : K × K := (corners.length : K)⁻¹ • corners.sum

/-- All the corners are on one line. -/
def Flat (corners : List (K × K)) : Prop :=
  ∀ a ∈ corners, ∀ b ∈ corners, ∀ c ∈ corners, turn a b c = 0

instance (corners : List (K × K)) : Decidable (Flat corners) :=
  inferInstanceAs (Decidable (∀ a ∈ corners, ∀ b ∈ corners, ∀ c ∈ corners, turn a b c = 0))

theorem sum_div_mem {S : Set (K × K)} (convex : Convex K S) (some : corners ≠ [])
    (all : ∀ v ∈ corners, v ∈ S) : mean corners ∈ S := by
  induction corners with
  | nil => exact absurd rfl some
  | cons v corners ih =>
      by_cases last : corners = []
      · subst last
        simpa [mean] using all v (by simp)
      · have rest : mean corners ∈ S := ih last fun w hw => all w (List.mem_cons_of_mem _ hw)
        have many : (0 : K) < corners.length := by
          exact_mod_cast List.length_pos_of_ne_nil last
        have total : (0 : K) < corners.length + 1 := by linarith
        have mixed := convex (all v (by simp)) rest (div_nonneg zero_le_one total.le)
          (div_nonneg many.le total.le) (by field_simp; ring)
        convert mixed using 1
        refine Prod.ext ?_ ?_
        all_goals
          simp only [mean, List.sum_cons, List.length_cons, Nat.cast_add, Nat.cast_one,
            Prod.smul_fst, Prod.smul_snd, Prod.fst_add, Prod.snd_add, smul_eq_mul]
          field_simp

theorem length_mul_turn_mean (x y : K × K) (some : corners ≠ []) :
    corners.length * turn x y (mean corners) = (corners.map (turn x y)).sum := by
  have total : ∀ corners : List (K × K), (corners.map (turn x y)).sum =
      cross (y - x) (corners.sum) - corners.length * cross (y - x) x := by
    intro corners
    induction corners with
    | nil => simp [cross]
    | cons v corners ih =>
        rw [List.map_cons, List.sum_cons, ih, List.sum_cons, List.length_cons]
        simp only [turn, cross, Prod.fst_sub, Prod.snd_sub, Prod.fst_add, Prod.snd_add]
        push_cast
        ring
  have many : (corners.length : K) ≠ 0 := by simpa using some
  rw [total]
  simp only [mean, turn, cross, Prod.fst_sub, Prod.snd_sub, Prod.smul_fst, Prod.smul_snd,
    smul_eq_mul]
  field_simp
  ring

omit [IsStrictOrderedRing K] in
/-- Every side has the corners on its left, or on its line. -/
theorem turn_nonneg_of_mem (turns : TurnsLeft corners) (side : (x, y) ∈ sides corners)
    (proper : x ≠ y) (hv : v ∈ corners) : 0 ≤ turn x y v := by
  obtain ⟨n, rest, fromX⟩ := exists_rotate_of_mem_sides side proper
  rw [← (List.rotate_perm corners n).mem_iff, fromX] at hv
  have around : TurnsLeft (x :: y :: rest) := fromX ▸ turns.rotate n
  obtain rfl | hv := List.mem_cons.mp hv
  · simp [turn, cross]
  obtain rfl | hv := List.mem_cons.mp hv
  · simp [turn, cross, mul_comm]
  · exact around x y v (by simpa using hv)

theorem turn_nonneg_of_mem_region (turns : TurnsLeft corners) (side : (x, y) ∈ sides corners)
    (proper : x ≠ y) (there : p ∈ region corners) : 0 ≤ turn x y p :=
  cross_nonneg_of_mem_region (fun _ hv => turn_nonneg_of_mem turns side proper hv) there

/-- Three points on one line with two different ones are on one line with each other. -/
theorem turn_eq_zero_of_line {a b c : K × K} (proper : x ≠ y) (ha : turn x y a = 0)
    (hb : turn x y b = 0) (hc : turn x y c = 0) : turn a b c = 0 := by
  have square : (y.1 - x.1) * (y.1 - x.1) + (y.2 - x.2) * (y.2 - x.2) ≠ 0 := by
    intro zero
    refine proper (Prod.ext ?_ ?_)
    · nlinarith [mul_self_nonneg (y.1 - x.1), mul_self_nonneg (y.2 - x.2)]
    · nlinarith [mul_self_nonneg (y.1 - x.1), mul_self_nonneg (y.2 - x.2)]
  refine (mul_eq_zero.mp (?_ : _ * turn a b c = 0)).resolve_left square
  simp only [turn, cross, Prod.fst_sub, Prod.snd_sub] at ha hb hc ⊢
  linear_combination
    ((y.1 - x.1) * (b.1 - a.1) + (y.2 - x.2) * (b.2 - a.2)) * (hc - ha) -
      ((y.1 - x.1) * (c.1 - a.1) + (y.2 - x.2) * (c.2 - a.2)) * (hb - ha)

theorem leftOfSides_mean (turns : TurnsLeft corners) (spread : ¬ Flat corners) :
    LeftOfSides (mean corners) corners := by
  intro e he proper
  have some : corners ≠ [] := by
    rintro rfl
    cases he
  obtain ⟨v, hv, off⟩ : ∃ v ∈ corners, turn e.1 e.2 v ≠ 0 := by
    by_contra level
    push Not at level
    exact spread fun a ha b hb c hc =>
      turn_eq_zero_of_line proper (level a ha) (level b hb) (level c hc)
  have each : ∀ v ∈ corners, 0 ≤ turn e.1 e.2 v := fun v hv =>
    turn_nonneg_of_mem turns he proper hv
  have positive : 0 < (corners.map (turn e.1 e.2)).sum := by
    have less := List.sum_lt_sum (l := corners) (fun _ => (0 : K)) (turn e.1 e.2) each
      ⟨v, hv, (each v hv).lt_of_ne off.symm⟩
    simpa using less
  rw [← length_mul_turn_mean e.1 e.2 some] at positive
  exact pos_of_mul_pos_right positive (Nat.cast_nonneg _)

/-- The mean of the corners of a convex polygon is inside. -/
theorem inside_mean (turns : TurnsLeft corners) (spread : ¬ Flat corners) :
    Inside (mean corners) corners := by
  obtain ⟨a, ha, b, hb, c, hc, off⟩ : ∃ a ∈ corners, ∃ b ∈ corners, ∃ c ∈ corners,
      turn a b c ≠ 0 := by
    unfold Flat at spread
    push Not at spread
    exact spread
  have other : b ≠ a := by
    rintro rfl
    simp [turn, cross] at off
  have there : mean corners ∈ region corners :=
    sum_div_mem (convex_convexHull K _) (List.ne_nil_of_mem ha) fun v hv =>
      subset_convexHull K _ hv
  exact inside_of_mem_region there (leftOfSides_mean turns spread) ha hb other

/-- Where the corners turn left, inside is to the left of every side. -/
theorem inside_of_leftOfSides (turns : TurnsLeft corners) (spread : ¬ Flat corners)
    (left : LeftOfSides p corners) : Inside p corners := by
  have inside := inside_mean turns spread
  obtain ⟨a, ha, b, hb, other⟩ : ∃ a ∈ corners, ∃ b ∈ corners, b ≠ a := by
    by_contra same
    push Not at same
    refine spread fun a ha b hb c hc => ?_
    rw [same a ha b hb]
    simp [turn, cross]
  exact inside_of_mem_region (mem_region_of_leftOfSides turns inside left) left ha hb other

end ConvexPolygon
