import Mathlib.Analysis.Convex.Hull
import WorldZero.RayCasting

/-!
# Convex polygons

A polygon is the list of its corners, read around from any of them. Where every three
corners turn left, or every three turn right, a ray from a point within the polygon crosses
its boundary once. From a point that is not in the convex hull of the corners, a ray crosses
any closed chain an even number of times.
-/

namespace ConvexPolygon

open RayCasting (Closed Touches ahead ahead_comm cross)

/-! ### Sides -/

section Sides

variable {P : Type*}

/-- Each corner with the one after it; the first is after the last. -/
def sides (corners : List P) : List (P × P) := corners.zip (corners.rotate 1)

theorem sides_rotate (corners : List P) (n : ℕ) :
    sides (corners.rotate n) = (sides corners).rotate n := by
  simp only [sides, List.zip]
  rw [List.zipWith_rotate_distrib _ _ _ _ (by simp), List.rotate_rotate, List.rotate_rotate,
    Nat.add_comm]

theorem sides_rotate_perm (corners : List P) (n : ℕ) :
    (sides (corners.rotate n)).Perm (sides corners) := by
  rw [sides_rotate]
  exact List.rotate_perm _ _

theorem sides_reverse_perm (corners : List P) :
    (sides corners.reverse).Perm ((sides corners).map Prod.swap) := by
  cases corners with
  | nil => exact List.Perm.refl _
  | cons v corners =>
      have first : (v :: corners).reverse.rotate corners.length = v :: corners.reverse := by
        rw [List.reverse_cons, ← List.length_reverse, List.rotate_append_length_eq,
          List.singleton_append]
      have backward : ((sides (v :: corners)).map Prod.swap).reverse =
          sides (v :: corners.reverse) := by
        rw [sides, List.zip_swap, List.zip, List.reverse_zipWith (by simp)]
        simp [sides, List.zip]
      calc (sides (v :: corners).reverse).Perm (sides ((v :: corners).reverse.rotate _)) :=
            (sides_rotate_perm _ corners.length).symm
        _ = ((sides (v :: corners)).map Prod.swap).reverse := by rw [first, backward]
        List.Perm _ ((sides (v :: corners)).map Prod.swap) := List.reverse_perm _

theorem exists_rotate_eq_cons {corners : List P} {v : P} (hv : v ∈ corners) :
    ∃ n rest, corners.rotate n = v :: rest := by
  obtain ⟨before, after, rfl⟩ := List.append_of_mem hv
  exact ⟨before.length, after ++ before, List.rotate_append_length_eq _ _⟩

theorem mem_sides_of_adjacent {corners : List P} {x y : P} (next : [x, y] <:+: corners) :
    (x, y) ∈ sides corners := by
  obtain ⟨before, after, rfl⟩ := next
  have split : ∀ before : List P, ∀ z, (x, y) ∈ (before ++ [x, y] ++ after).zip
      ((before ++ [x, y] ++ after).tail ++ [z]) := by
    intro before z
    induction before with
    | nil => simp
    | cons b before ih =>
        cases before with
        | nil => simp
        | cons c before =>
            exact List.mem_cons_of_mem _ ih
  cases before with
  | nil => simp [sides]
  | cons b before =>
      have := split (b :: before) b
      simpa [sides] using this

theorem exists_rotate_of_mem_sides {corners : List P} {x y : P} (side : (x, y) ∈ sides corners)
    (proper : x ≠ y) : ∃ n rest, corners.rotate n = x :: y :: rest := by
  obtain ⟨n, others, first⟩ := exists_rotate_eq_cons side
  rw [← sides_rotate] at first
  refine ⟨n, ?_⟩
  cases read : corners.rotate n with
  | nil => simp [read, sides] at first
  | cons v rest =>
      cases rest with
      | nil =>
          obtain ⟨⟨rfl, rfl⟩, -⟩ : (v = x ∧ v = y) ∧ [] = others := by
            simpa [read, sides] using first
          exact absurd rfl proper
      | cons v' rest =>
          obtain ⟨⟨rfl, rfl⟩, -⟩ : (v = x ∧ v' = y) ∧ _ = others := by
            simpa [read, sides] using first
          exact ⟨rest, rfl⟩

end Sides

variable {K : Type*} [Field K] [LinearOrder K] [IsStrictOrderedRing K]

/-- Twice the area of a triangle, positive where it is listed counterclockwise. -/
def turn (a b c : K × K) : K := cross (b - a) (c - a)

omit [LinearOrder K] [IsStrictOrderedRing K] in
theorem turn_rotate (a b c : K × K) : turn b c a = turn a b c := by
  simp only [turn, cross, Prod.fst_sub, Prod.snd_sub]
  ring

omit [LinearOrder K] [IsStrictOrderedRing K] in
theorem turn_swap (a b c : K × K) : turn b a c = -turn a b c := by
  simp only [turn, cross, Prod.fst_sub, Prod.snd_sub]
  ring

/-- Every three corners, in their order, turn to the left or are on one line. -/
def TurnsLeft (corners : List (K × K)) : Prop :=
  ∀ a b c, [a, b, c].Sublist corners → 0 ≤ turn a b c

instance (corners : List (K × K)) : Decidable (TurnsLeft corners) :=
  decidable_of_iff (∀ a ∈ corners, ∀ b ∈ corners, ∀ c ∈ corners,
    [a, b, c].Sublist corners → 0 ≤ turn a b c) <| by
    constructor
    · intro turns a b c among
      exact turns a (among.mem (by simp)) b (among.mem (by simp)) c (among.mem (by simp)) among
    · exact fun turns a _ b _ c _ => turns a b c

/-- The corners are listed around a convex polygon, in either direction. -/
def IsConvex (corners : List (K × K)) : Prop := TurnsLeft corners ∨ TurnsLeft corners.reverse

instance (corners : List (K × K)) : Decidable (IsConvex corners) :=
  inferInstanceAs (Decidable (TurnsLeft corners ∨ TurnsLeft corners.reverse))

/-- The convex hull of the corners. -/
def region (corners : List (K × K)) : Set (K × K) := convexHull K {v | v ∈ corners}

/-- In the region and on none of the sides. -/
def Inside (p : K × K) (corners : List (K × K)) : Prop :=
  p ∈ region corners ∧ ∀ e ∈ sides corners, ¬ Touches p e.1 e.2

variable {p u v w a b c d e x y : K × K} {corners : List (K × K)}

/-! ### Listing the corners otherwise -/

omit [IsStrictOrderedRing K] in
theorem TurnsLeft.rotate (h : TurnsLeft corners) (n : ℕ) : TurnsLeft (corners.rotate n) := by
  have once : ∀ corners : List (K × K), TurnsLeft corners → TurnsLeft (corners.rotate 1) := by
    intro corners h
    cases corners with
    | nil => exact h
    | cons v corners =>
        intro a b c among
        rw [List.rotate_cons_succ, List.rotate_zero] at among
        obtain ⟨early, late, split, before, last⟩ := List.sublist_append_iff.mp among
        rcases List.sublist_singleton.mp last with rfl | rfl
        · rw [List.append_nil] at split
          exact h a b c ((split ▸ before).cons v)
        · obtain ⟨rfl, same⟩ := List.append_inj' (show [a, b] ++ [c] = _ from split) rfl
          obtain rfl : c = v := by simpa using same
          rw [turn_rotate c a b]
          exact h c a b (before.cons_cons c)
  induction n with
  | zero => simpa using h
  | succ n ih =>
      rw [← List.rotate_rotate]
      exact once _ ih

omit [IsStrictOrderedRing K] in
theorem region_congr {corners' : List (K × K)} (same : corners.Perm corners') :
    region corners = region corners' := by
  simp only [region, same.mem_iff]

omit [IsStrictOrderedRing K] in
theorem inside_congr {corners' : List (K × K)} (same : corners.Perm corners')
    (sides : (sides corners).Perm (sides corners')) : Inside p corners ↔ Inside p corners' := by
  simp only [Inside, region_congr same, sides.mem_iff]

omit [IsStrictOrderedRing K] in
theorem inside_rotate (n : ℕ) : Inside p (corners.rotate n) ↔ Inside p corners :=
  inside_congr (List.rotate_perm corners n) (sides_rotate_perm corners n)

theorem inside_reverse : Inside p corners.reverse ↔ Inside p corners := by
  rw [Inside, Inside, region_congr (List.reverse_perm corners)]
  refine and_congr_right fun _ => ?_
  simp only [(sides_reverse_perm corners).mem_iff, List.forall_mem_map, Prod.fst_swap,
    Prod.snd_swap]
  exact forall₂_congr fun e _ => not_congr ⟨RayCasting.Through.symm, RayCasting.Through.symm⟩

/-! ### Half-planes -/

theorem cross_combine (w q x y : K × K) {s t : K} (whole : s + t = 1) :
    cross w (s • x + t • y - q) = s * cross w (x - q) + t * cross w (y - q) := by
  obtain rfl : s = 1 - t := by linarith
  simp only [cross, Prod.fst_sub, Prod.snd_sub, Prod.fst_add, Prod.snd_add, Prod.smul_fst,
    Prod.smul_snd, smul_eq_mul]
  ring

omit [IsStrictOrderedRing K] in
theorem mem_of_mem_region {S : Set (K × K)} (convex : Convex K S) (all : ∀ v ∈ corners, v ∈ S)
    (there : p ∈ region corners) : p ∈ S :=
  convexHull_min all convex there

/-- What every corner has on its left, the whole region has. -/
theorem cross_nonneg_of_mem_region {q : K × K} (all : ∀ v ∈ corners, 0 ≤ cross w (v - q))
    (there : p ∈ region corners) : 0 ≤ cross w (p - q) := by
  refine mem_of_mem_region (S := {x | 0 ≤ cross w (x - q)}) ?_ all there
  intro x hx y hy s t hs ht whole
  rw [Set.mem_ofPred, cross_combine w q x y whole]
  exact add_nonneg (mul_nonneg hs hx) (mul_nonneg ht hy)

/-- Where no corner is to the left of a line through a point of the region, some corner is on
the line, and not wholly on one side of the point there. -/
theorem exists_on_support (there : p ∈ region corners)
    (support : ∀ v ∈ corners, cross u (v - p) ≤ 0) (w : K × K) :
    ∃ v ∈ corners, cross u (v - p) = 0 ∧ cross w (v - p) ≤ 0 := by
  by_contra none
  push Not at none
  have far : p ∈ {x | cross u (x - p) < 0 ∨ cross u (x - p) = 0 ∧ 0 < cross w (x - p)} := by
    refine mem_of_mem_region ?_ (fun v hv => ?_) there
    · intro x hx y hy s t hs ht whole
      rw [Set.mem_ofPred] at hx hy ⊢
      rw [cross_combine u p x y whole, cross_combine w p x y whole]
      rcases hs.eq_or_lt with rfl | hs
      · obtain rfl : t = 1 := by linarith
        simpa using hy
      · rcases hx with hx | ⟨hx, hx'⟩
        · have below : cross u (y - p) ≤ 0 := hy.elim le_of_lt fun h => h.1.le
          exact .inl (by nlinarith [mul_neg_of_pos_of_neg hs hx])
        · rcases hy with hy | ⟨hy, hy'⟩
          · rcases ht.eq_or_lt with rfl | ht
            · exact .inr ⟨by simp [hx], by nlinarith [mul_pos hs hx']⟩
            · exact .inl (by nlinarith [mul_neg_of_pos_of_neg ht hy])
          · exact .inr ⟨by simp [hx, hy], by nlinarith [mul_pos hs hx', mul_nonneg ht hy'.le]⟩
    · rcases (support v hv).lt_or_eq with below | level
      · exact .inl below
      · exact .inr ⟨level, none v hv level⟩
  simp [cross] at far

/-! ### Sides on a line through the point -/

/-- The direction to the right of `u`. -/
def rightOf (u : K × K) : K × K := (u.2, -u.1)

theorem cross_rightOf_neg (hu : u ≠ 0) : cross u (rightOf u) < 0 := by
  have parts : u.1 ≠ 0 ∨ u.2 ≠ 0 := by
    by_contra both
    push Not at both
    exact hu (Prod.ext both.1 both.2)
  simp only [cross, rightOf]
  rcases parts with first | second
  · nlinarith [mul_self_pos.mpr first, mul_self_nonneg u.2]
  · nlinarith [mul_self_pos.mpr second, mul_self_nonneg u.1]

/-- A side on a line through the point, with the point on neither end nor between them. -/
theorem cross_rightOf_pos_of_level (hu : u ≠ 0) (hx : cross u (x - p) = 0)
    (hy : cross u (y - p) = 0) (away : ¬ Touches p x y) (before : 0 < cross (rightOf u) (x - p)) :
    0 < cross (rightOf u) (y - p) := by
  by_contra behind
  refine away (RayCasting.through_of_cross_eq_zero before (not_lt.mp behind) ?_)
  have product := RayCasting.cross_mul u (rightOf u) (x - p) (y - p)
  rw [hx, hy, zero_mul, mul_zero, sub_zero] at product
  exact (mul_eq_zero.mp product).resolve_left (cross_rightOf_neg hu).ne

theorem cross_rightOf_pos_of_chain (hu : u ≠ 0) {s t : K × K} {between : List (K × K)}
    (chain : (t :: between ++ [s]) <:+: corners)
    (away : ∀ e ∈ sides corners, ¬ Touches p e.1 e.2)
    (level : ∀ v ∈ t :: between ++ [s], cross u (v - p) = 0)
    (before : 0 < cross (rightOf u) (t - p)) : 0 < cross (rightOf u) (s - p) := by
  induction between generalizing t with
  | nil =>
      exact cross_rightOf_pos_of_level hu (level t (by simp)) (level s (by simp))
        (away _ (mem_sides_of_adjacent chain)) before
  | cons v between ih =>
      have adjacent : [t, v] <:+: corners :=
        ((List.prefix_append [t, v] (between ++ [s])).isInfix).trans (by simpa using chain)
      refine ih ?_ (fun x hx => level x (List.mem_cons_of_mem _ hx)) ?_
      · exact (List.suffix_cons t _).isInfix.trans chain
      · exact cross_rightOf_pos_of_level hu (level t (by simp)) (level v (by simp))
          (away _ (mem_sides_of_adjacent adjacent)) before

theorem not_mem_of_away (away : ∀ e ∈ sides corners, ¬ Touches p e.1 e.2) : p ∉ corners := by
  intro corner
  have starts : (sides corners).map Prod.fst = corners := List.map_fst_zip (by simp)
  rw [← starts] at corner
  obtain ⟨e, he, rfl⟩ := List.mem_map.mp corner
  exact away e he ⟨0, le_rfl, zero_le_one, by simp, by simp⟩

theorem cross_rightOf_ne_zero_of_level (hu : u ≠ 0) (hv : v ∈ corners)
    (away : ∀ e ∈ sides corners, ¬ Touches p e.1 e.2) (level : cross u (v - p) = 0) :
    cross (rightOf u) (v - p) ≠ 0 := by
  intro foot
  have same : v - p = 0 := by
    have square := (cross_rightOf_neg hu).ne
    simp only [cross, rightOf] at level foot square
    refine Prod.ext ?_ ?_
    · refine (mul_eq_zero.mp (?_ : _ * (v - p).1 = 0)).resolve_left square
      linear_combination -u.1 * foot + u.2 * level
    · refine (mul_eq_zero.mp (?_ : _ * (v - p).2 = 0)).resolve_left square
      linear_combination -u.2 * foot - u.1 * level
  exact not_mem_of_away away (sub_eq_zero.mp same ▸ hv)

/-- From a point inside there is a corner to the left of any direction. -/
theorem Inside.exists_left (inside : Inside p corners) (turns : TurnsLeft corners) (hu : u ≠ 0) :
    ∃ v ∈ corners, 0 < cross u (v - p) := by
  by_contra none
  push Not at none
  obtain ⟨t, ht, levelT, frontT⟩ := exists_on_support inside.1 none (-rightOf u)
  obtain ⟨s, hs, levelS, backS⟩ := exists_on_support inside.1 none (rightOf u)
  have front : 0 < cross (rightOf u) (t - p) := by
    refine lt_of_le_of_ne ?_ (cross_rightOf_ne_zero_of_level hu ht inside.2 levelT).symm
    simp only [cross, rightOf, Prod.neg_mk] at frontT ⊢
    linarith
  have back : cross (rightOf u) (s - p) < 0 :=
    lt_of_le_of_ne backS (cross_rightOf_ne_zero_of_level hu hs inside.2 levelS)
  -- The list is read from `t` on, and up to `s`.
  obtain ⟨n, rest, fromT⟩ := exists_rotate_eq_cons ht
  have same : ∀ v, v ∈ t :: rest ↔ v ∈ corners := fun v => by
    rw [← fromT, (List.rotate_perm corners n).mem_iff]
  have around : TurnsLeft (t :: rest) := fromT ▸ turns.rotate n
  have away : ∀ e ∈ sides (t :: rest), ¬ Touches p e.1 e.2 :=
    (fromT ▸ (inside_rotate n).mpr inside : Inside p (t :: rest)).2
  have later : s ∈ rest := by
    rcases List.mem_cons.mp ((same s).mpr hs) with rfl | later
    · exact absurd front back.not_gt
    · exact later
  obtain ⟨between, after, rfl⟩ := List.append_of_mem later
  by_cases level : ∀ v ∈ t :: between ++ [s], cross u (v - p) = 0
  · exact back.not_gt (cross_rightOf_pos_of_chain hu ⟨[], after, by simp⟩ away level front)
  · push Not at level
    obtain ⟨b, hb, apart⟩ := level
    have below : cross u (b - p) < 0 :=
      lt_of_le_of_ne (none b ((same b).mp (by simp at hb ⊢; tauto))) apart
    have amid : b ∈ between := by
      simp only [List.cons_append, List.mem_cons, List.mem_append, List.not_mem_nil,
        or_false] at hb
      rcases hb with rfl | amid | rfl
      · exact absurd levelT apart
      · exact amid
      · exact absurd levelS apart
    have sign := around t b s ((List.cons_sublist_cons.mpr
      ((List.singleton_sublist.mpr amid).append (List.singleton_sublist.mpr (by simp)))))
    have split : ∀ w x : K × K, cross w (x - t) = cross w (x - p) - cross w (t - p) := by
      intro w x
      simp only [cross, Prod.fst_sub, Prod.snd_sub]
      ring
    have product := RayCasting.cross_mul u (rightOf u) (b - t) (s - t)
    rw [split u b, split u s, split (rightOf u) s, levelT, levelS, sub_zero, sub_zero, mul_zero,
      sub_zero] at product
    have right : 0 < cross u (rightOf u) * cross (b - t) (s - t) := by
      rw [product]
      exact mul_pos_of_neg_of_neg below (by linarith)
    exact right.not_ge (mul_nonpos_of_nonpos_of_nonneg (cross_rightOf_neg hu).le sign)

/-- Every side has the points inside on its left. -/
theorem Inside.turn_pos (inside : Inside p corners) (turns : TurnsLeft corners)
    (side : (x, y) ∈ sides corners) (proper : x ≠ y) : 0 < turn x y p := by
  obtain ⟨n, rest, fromX⟩ := exists_rotate_of_mem_sides side proper
  have all : ∀ v ∈ corners, 0 ≤ cross (y - x) (v - x) := by
    intro v hv
    rw [← (List.rotate_perm corners n).mem_iff, fromX] at hv
    have around : TurnsLeft (x :: y :: rest) := fromX ▸ turns.rotate n
    rcases List.mem_cons.mp hv with rfl | hv
    · simp [cross]
    rcases List.mem_cons.mp hv with rfl | hv
    · simp [cross, mul_comm]
    · exact around x y v (by simpa using hv)
  refine lt_of_le_of_ne (cross_nonneg_of_mem_region all inside.1) fun level => ?_
  obtain ⟨v, hv, left⟩ := inside.exists_left turns (sub_ne_zero.mpr proper)
  have right := all v hv
  simp only [turn, cross, Prod.fst_sub, Prod.snd_sub] at level left right
  linarith

/-! ### Corners on both sides of a line -/

/-- The corners lie alternately higher and lower, as seen from the direction `u`. -/
structure Alternating (u a b c d : K × K) : Prop where
  first : cross u b < cross u a
  second : cross u b < cross u c
  third : cross u d < cross u c
  fourth : cross u d < cross u a

theorem Alternating.turn_eq_zero (alternating : Alternating u a b c d) (turns : TurnsLeft corners)
    (four : [a, b, c, d].Sublist corners) : turn a b c = 0 ∧ turn b c d = 0 ∧ turn a b d = 0 := by
  obtain ⟨first, second, third, fourth⟩ := alternating
  have abc := turns a b c (.trans (by simp) four)
  have bcd := turns b c d (.trans (by simp) four)
  have abd := turns a b d (.trans (by simp) four)
  have acd := turns a c d (.trans (by simp) four)
  have whole : turn a b c + turn a c d = turn a b d + turn b c d := by
    simp only [turn, cross, Prod.fst_sub, Prod.snd_sub]
    ring
  have weighted : turn b c d * cross u a + turn a b d * cross u c =
      turn a c d * cross u b + turn a b c * cross u d := by
    simp only [turn, cross, Prod.fst_sub, Prod.snd_sub]
    ring
  have balance : turn b c d * turn a c d * (cross u a - cross u b) +
      turn b c d * turn a b c * (cross u a - cross u d) +
      turn a b d * turn a c d * (cross u c - cross u b) +
      turn a b d * turn a b c * (cross u c - cross u d) = 0 := by
    linear_combination (turn a b c + turn a c d) * weighted +
      (turn a c d * cross u b + turn a b c * cross u d) * whole
  have p₁ := mul_nonneg (mul_nonneg bcd acd) (sub_pos.mpr first).le
  have p₂ := mul_nonneg (mul_nonneg bcd abc) (sub_pos.mpr fourth).le
  have p₃ := mul_nonneg (mul_nonneg abd acd) (sub_pos.mpr second).le
  have p₄ := mul_nonneg (mul_nonneg abd abc) (sub_pos.mpr third).le
  have none : ∀ {r s t : K}, r * (s - t) = 0 → t < s → r = 0 := fun h lower =>
    (mul_eq_zero.mp h).resolve_right (sub_pos.mpr lower).ne'
  have q₁ := none (by linarith : turn b c d * turn a c d * (cross u a - cross u b) = 0) first
  have q₂ := none (by linarith : turn b c d * turn a b c * (cross u a - cross u d) = 0) fourth
  have q₃ := none (by linarith : turn a b d * turn a c d * (cross u c - cross u b) = 0) second
  have q₄ := none (by linarith : turn a b d * turn a b c * (cross u c - cross u d) = 0) third
  refine ⟨?_, ?_, ?_⟩
  · nlinarith [mul_nonneg abc acd]
  · nlinarith [mul_nonneg bcd abd]
  · nlinarith [mul_nonneg abd bcd]

/-- A corner among others is one of them or stands between two of them. -/
theorem sublist_insert {P : Type*} {some all : List P} {e : P} (h : some.Sublist all)
    (he : e ∈ all) :
    e ∈ some ∨ ∃ before after, some = before ++ after ∧ (before ++ e :: after).Sublist all := by
  induction h with
  | slnil => simp at he
  | @cons some all v h ih =>
      rcases List.mem_cons.mp he with rfl | he
      · exact .inr ⟨[], some, rfl, h.cons_cons e⟩
      · refine (ih he).imp_right ?_
        rintro ⟨before, after, rfl, longer⟩
        exact ⟨before, after, rfl, longer.cons v⟩
  | @cons_cons some all v h ih =>
      rcases List.mem_cons.mp he with rfl | he
      · exact .inl List.mem_cons_self
      · refine (ih he).imp (List.mem_cons_of_mem v) ?_
        rintro ⟨before, after, rfl, longer⟩
        exact ⟨v :: before, after, rfl, longer.cons_cons v⟩

omit [LinearOrder K] [IsStrictOrderedRing K] in
/-- A step along a line and the next one, as seen from `u` and from the point `e`. -/
theorem turn_onward (u e : K × K) (line : turn a b c = 0) :
    (cross u a - cross u b) * turn b c e = (cross u b - cross u c) * turn a b e := by
  simp only [turn, cross, Prod.fst_sub, Prod.snd_sub] at line ⊢
  linear_combination (u.1 * (e.2 - b.2) - u.2 * (e.1 - b.1)) * line

omit [LinearOrder K] [IsStrictOrderedRing K] in
/-- Two steps along a line from one of its points. -/
theorem turn_across (u e : K × K) (line : turn a b d = 0) :
    (cross u a - cross u b) * turn a d e = (cross u a - cross u d) * turn a b e := by
  simp only [turn, cross, Prod.fst_sub, Prod.snd_sub] at line ⊢
  linear_combination (u.1 * (e.2 - a.2) - u.2 * (e.1 - a.1)) * line

/-- After a step along a line and a step back, nothing is to the left of both. -/
theorem turn_eq_zero_of_back (line : turn a b c = 0)
    (back : (cross u a - cross u b) * (cross u b - cross u c) < 0) (first : 0 ≤ turn a b e)
    (second : 0 ≤ turn b c e) : turn a b e = 0 ∧ turn b c e = 0 := by
  have steps := turn_onward u e line
  have apart : cross u a - cross u b ≠ 0 := left_ne_zero_of_mul back.ne
  have square := mul_self_pos.mpr apart
  have sum : (cross u a - cross u b) * (cross u a - cross u b) * turn b c e +
      -((cross u a - cross u b) * (cross u b - cross u c)) * turn a b e = 0 := by
    linear_combination (cross u a - cross u b) * steps
  obtain ⟨hs, hf⟩ := (add_eq_zero_iff_of_nonneg (mul_nonneg square.le second)
    (mul_nonneg (neg_pos.mpr back).le first)).mp sum
  exact ⟨(mul_eq_zero.mp hf).resolve_left (neg_pos.mpr back).ne',
    (mul_eq_zero.mp hs).resolve_left square.ne'⟩

/-- Corners that turn left and lie alternately higher and lower are on one line with all the
others. -/
theorem Alternating.flat (alternating : Alternating u a b c d) (turns : TurnsLeft corners)
    (four : [a, b, c, d].Sublist corners) (he : e ∈ corners) : turn a b e = 0 := by
  obtain ⟨abc, bcd, abd⟩ := alternating.turn_eq_zero turns four
  obtain ⟨first, second, third, fourth⟩ := alternating
  rcases sublist_insert four he with among | ⟨before, after, split, five⟩
  · simp only [List.mem_cons, List.not_mem_nil, or_false] at among
    rcases among with rfl | rfl | rfl | rfl
    · simp [turn, cross]
    · simp [turn, cross, mul_comm]
    · exact abc
    · exact abd
  · have later : ∀ x y z, [x, y, z].Sublist (before ++ e :: after) → 0 ≤ turn x y z :=
      fun x y z sub => turns x y z (sub.trans five)
    have down := mul_neg_of_pos_of_neg (sub_pos.mpr first) (sub_neg.mpr second)
    have up := mul_neg_of_neg_of_pos (sub_neg.mpr second) (sub_pos.mpr third)
    rcases before with _ | ⟨_, _ | ⟨_, _ | ⟨_, _ | ⟨_, before⟩⟩⟩⟩
    · obtain rfl : [a, b, c, d] = after := by simpa using split
      have eab := later e a b (by simp)
      have ebc := later e b c (by simp)
      rw [← turn_rotate] at eab ebc
      exact (turn_eq_zero_of_back abc down eab ebc).1
    · obtain ⟨rfl, rfl⟩ : a = _ ∧ [b, c, d] = after := by simpa using split
      have ebc := later e b c (by simp)
      have ecd := later e c d (by simp)
      rw [← turn_rotate] at ebc ecd
      have level := (turn_eq_zero_of_back bcd up ebc ecd).1
      have steps := turn_onward u e abc
      rw [level, mul_zero, zero_eq_mul] at steps
      exact steps.resolve_left (sub_neg.mpr second).ne
    · obtain ⟨rfl, rfl, rfl⟩ : a = _ ∧ b = _ ∧ [c, d] = after := by simpa using split
      have abe := later a b e (by simp)
      have aed := later a e d (by simp)
      have steps := turn_across u e abd
      rw [← turn_rotate, turn_swap, neg_nonneg, turn_rotate] at aed
      have left := mul_nonneg (sub_pos.mpr fourth).le abe
      have right := mul_nonpos_of_nonneg_of_nonpos (sub_pos.mpr first).le aed
      exact (mul_eq_zero.mp (by linarith : (cross u a - cross u d) * turn a b e = 0)).resolve_left
        (sub_pos.mpr fourth).ne'
    · obtain ⟨rfl, rfl, rfl, rfl⟩ : a = _ ∧ b = _ ∧ c = _ ∧ [d] = after := by simpa using split
      have abe := later a b e (by simp)
      have bce := later b c e (by simp)
      exact (turn_eq_zero_of_back abc down abe bce).1
    · obtain ⟨rfl, rfl, rfl, rfl, -⟩ : a = _ ∧ b = _ ∧ c = _ ∧ d = _ ∧ before ++ after = [] := by
        simpa using split
      have abe := later a b e (by simp)
      have bce := later b c e (by simp)
      exact (turn_eq_zero_of_back abc down abe bce).1

/-- Around a point inside, the corners do not change sides of a line more than twice. -/
theorem Inside.not_alternating (inside : Inside p corners) (turns : TurnsLeft corners)
    (four : [a, b, c, d].Sublist corners) : ¬ Alternating u a b c d := by
  intro alternating
  have line : ∀ v ∈ corners, cross (b - a) (v - a) = 0 := fun v hv =>
    alternating.flat turns four hv
  have apart : b - a ≠ 0 := by
    intro same
    exact alternating.first.ne (by rw [sub_eq_zero.mp same])
  obtain ⟨v, hv, left⟩ := inside.exists_left turns apart
  have above := cross_nonneg_of_mem_region (fun v hv => (line v hv).ge) inside.1
  have split : cross (b - a) (v - p) = cross (b - a) (v - a) - cross (b - a) (p - a) := by
    simp only [cross, Prod.fst_sub, Prod.snd_sub]
    ring
  rw [split, line v hv] at left
  linarith

/-! ### Two runs of corners -/

section Runs

variable {P : Type*} {f : P → Bool}

theorem exists_run (f : P → Bool) (side : Bool) (all : List P) :
    ∃ early rest, all = early ++ rest ∧ (∀ v ∈ early, f v = side) ∧
      ∀ v ∈ rest.head?, f v = !side := by
  induction all with
  | nil => exact ⟨[], [], rfl, by simp, by simp⟩
  | cons x all ih =>
      by_cases hx : f x = side
      · obtain ⟨early, rest, rfl, run, stop⟩ := ih
        exact ⟨x :: early, rest, rfl, List.forall_mem_cons.mpr ⟨hx, run⟩, stop⟩
      · exact ⟨[], x :: all, rfl, by simp, by simpa [Bool.eq_not] using hx⟩

/-- A list whose elements change sides no more than twice. -/
theorem exists_runs {all : List P} (none : ∀ a b c d, [a, b, c, d].Sublist all →
    ¬ (f a = f c ∧ f b = f d ∧ f a ≠ f b)) :
    ∃ side early middle late, all = early ++ (middle ++ late) ∧ (∀ v ∈ early, f v = side) ∧
      (∀ v ∈ middle, f v = !side) ∧ ∀ v ∈ late, f v = side := by
  cases all with
  | nil => exact ⟨true, [], [], [], rfl, by simp, by simp, by simp⟩
  | cons a all =>
      obtain ⟨early, rest, rfl, first, turned⟩ := exists_run f (f a) all
      obtain ⟨middle, late, rfl, second, back⟩ := exists_run f (!f a) rest
      refine ⟨f a, a :: early, middle, late, rfl, List.forall_mem_cons.mpr ⟨rfl, first⟩, second, ?_⟩
      cases middle with
      | nil =>
          cases late with
          | nil => simp
          | cons c late =>
              have one := turned c (by simp)
              have other := back c (by simp)
              simp [one] at other
      | cons b middle =>
          cases late with
          | nil => simp
          | cons c late =>
              have hb := second b (by simp)
              have hc : f c = f a := by simpa using back c (by simp)
              refine List.forall_mem_cons.mpr ⟨hc, fun d hd => ?_⟩
              by_contra hd'
              refine none a b c d ?_ ⟨hc.symm, ?_, by simp [hb]⟩
              · have tail : [c, d].Sublist (c :: late) :=
                  (List.singleton_sublist.mpr hd).cons_cons c
                have mid : [b, c, d].Sublist (b :: middle ++ c :: late) :=
                  (tail.trans (List.sublist_append_right middle _)).cons_cons b
                exact (mid.trans (List.sublist_append_right early _)).cons_cons a
              · rw [hb]
                cases h : f a <;> simp_all

/-- Where a list has one run on each side, one pair of neighbours goes up. -/
theorem countP_up_eq_one {low high : List P} (hLow : ∀ v ∈ low, f v = false)
    (hHigh : ∀ v ∈ high, f v = true) (someLow : low ≠ []) (someHigh : high ≠ []) :
    (sides (low ++ high)).countP (fun e => !f e.1 && f e.2) = 1 := by
  obtain ⟨t, high, rfl⟩ := List.exists_cons_of_ne_nil someHigh
  have flat : ∀ z, ((t :: high).zip (high ++ [z])).countP (fun e => !f e.1 && f e.2) = 0 := by
    intro z
    refine List.countP_eq_zero.mpr fun e he => ?_
    simp [hHigh _ (List.of_mem_zip he).1]
  have chain : ∀ low : List P, low ≠ [] → (∀ v ∈ low, f v = false) → ∀ z,
      ((low ++ t :: high).zip ((low ++ t :: high).tail ++ [z])).countP
        (fun e => !f e.1 && f e.2) = 1 := by
    intro low some hLow z
    induction low with
    | nil => exact absurd rfl some
    | cons x low ih =>
        obtain ⟨hx, hLow⟩ := List.forall_mem_cons.mp hLow
        cases low with
        | nil =>
            have ht := hHigh t (by simp)
            simpa [hx, ht] using flat z
        | cons y low =>
            have hy := hLow y (by simp)
            simpa [hx, hy] using ih (by simp) hLow
  obtain ⟨x, low, rfl⟩ := List.exists_cons_of_ne_nil someLow
  simpa [sides] using chain (x :: low) (by simp) hLow x

/-- A list that changes sides no more than twice has one run on each side, if it is read around
from the right place. -/
theorem exists_rotate_runs {all : List P} (none : ∀ a b c d, [a, b, c, d].Sublist all →
    ¬ (f a = f c ∧ f b = f d ∧ f a ≠ f b)) :
    ∃ n low high, all.rotate n = low ++ high ∧ (∀ v ∈ low, f v = false) ∧
      ∀ v ∈ high, f v = true := by
  obtain ⟨side, early, middle, late, rfl, first, second, third⟩ := exists_runs none
  have outer : ∀ v ∈ late ++ early, f v = side := List.forall_mem_append.mpr ⟨third, first⟩
  cases side with
  | false =>
      refine ⟨(early ++ middle).length, late ++ early, middle, ?_, outer, second⟩
      rw [← List.append_assoc, List.rotate_append_length_eq, List.append_assoc]
  | true =>
      refine ⟨early.length, middle, late ++ early, ?_, second, outer⟩
      rw [List.rotate_append_length_eq, List.append_assoc]

theorem countP_up_eq_one_of_runs {all : List P} (none : ∀ a b c d, [a, b, c, d].Sublist all →
    ¬ (f a = f c ∧ f b = f d ∧ f a ≠ f b)) (someLow : ∃ v ∈ all, f v = false)
    (someHigh : ∃ v ∈ all, f v = true) :
    (sides all).countP (fun e => !f e.1 && f e.2) = 1 := by
  obtain ⟨n, low, high, read, hLow, hHigh⟩ := exists_rotate_runs none
  have among : ∀ v ∈ all, v ∈ low ++ high := fun v hv => by
    rwa [← read, (List.rotate_perm all n).mem_iff]
  rw [← (sides_rotate_perm all n).countP_eq, read]
  refine countP_up_eq_one hLow hHigh ?_ ?_
  · rintro rfl
    obtain ⟨v, hv, below⟩ := someLow
    simp [hHigh v (among v hv)] at below
  · rintro rfl
    obtain ⟨v, hv, above⟩ := someHigh
    simp [hLow v (by simpa using among v hv)] at above

end Runs

/-! ### Rays -/

/-- The line through the point in the direction `u` passes between the ends. -/
def straddles (p u a b : K × K) : Bool :=
  decide (0 < cross u (a - p)) ^^ decide (0 < cross u (b - p))

omit [IsStrictOrderedRing K] in
theorem straddles_of_ahead (met : ahead p u a b = true) : straddles p u a b = true := by
  rcases lt_or_ge 0 (cross u (a - p)) with ha | ha <;>
    rcases lt_or_ge 0 (cross u (b - p)) with hb | hb <;>
      simp [ahead, RayCasting.meets, straddles, ha, hb, not_lt.mpr, not_le.mpr] at met ⊢

omit [IsStrictOrderedRing K] in
/-- A closed chain crosses a line an even number of times. -/
theorem not_odd_straddles (p u : K × K) (corners : List (K × K)) :
    ¬ Odd ((sides corners).countP fun e => straddles p u e.1 e.2) := by
  have closed : Closed (sides corners) := RayCasting.closed_zip_rotate corners 1
  rw [RayCasting.odd_countP_iff closed (g := fun _ => false)
    (c := fun v => decide (0 < cross u (v - p))) (fun e _ => by simp [straddles])]
  simp

omit [LinearOrder K] [IsStrictOrderedRing K] in
theorem turn_along (p u x y : K × K) (t : K) :
    turn x y (p + t • u) =
      cross (x - p) (y - p) - t * (cross u (y - p) - cross u (x - p)) := by
  simp only [turn, cross, Prod.fst_sub, Prod.snd_sub, Prod.fst_add, Prod.snd_add, Prod.smul_fst,
    Prod.smul_snd, smul_eq_mul]
  ring

/-- Where a segment of the region crosses the line of a ray. -/
theorem exists_on_ray_of_low (hx : x ∈ region corners) (hy : y ∈ region corners)
    (low : cross u (x - p) ≤ 0) (high : 0 < cross u (y - p)) :
    ∃ t : K, p + t • u ∈ region corners ∧ turn x y (p + t • u) = 0 ∧
      ahead p u x y = decide (0 < t) := by
  have apart : 0 < cross u (y - p) - cross u (x - p) := by linarith
  refine ⟨cross (x - p) (y - p) / (cross u (y - p) - cross u (x - p)), ?_, ?_, ?_⟩
  · have crossing := convex_convexHull K {v | v ∈ corners} hx hy
      (div_nonneg high.le apart.le) (div_nonneg (neg_nonneg.mpr low) apart.le)
      (by field_simp; ring)
    change _ ∈ convexHull K {v | v ∈ corners}
    convert crossing using 1
    refine Prod.ext ?_ ?_
    all_goals
      simp only [Prod.fst_add, Prod.snd_add, Prod.smul_fst, Prod.smul_snd, smul_eq_mul]
      field_simp
      simp only [cross, Prod.fst_sub, Prod.snd_sub]
      ring
  · rw [turn_along, div_mul_cancel₀ _ apart.ne', sub_self]
  · simp [ahead, RayCasting.meets, not_lt.mpr low, high, div_pos_iff_of_pos_right apart]

/-- The line of the ray crosses a side in the region. -/
theorem exists_on_ray {e : (K × K) × (K × K)} (he : e ∈ sides corners)
    (crossed : straddles p u e.1 e.2 = true) :
    ∃ t : K, p + t • u ∈ region corners ∧ turn e.1 e.2 (p + t • u) = 0 ∧
      ahead p u e.1 e.2 = decide (0 < t) := by
  have ends := List.of_mem_zip (show (e.1, e.2) ∈ corners.zip (corners.rotate 1) from he)
  rw [(List.rotate_perm corners 1).mem_iff] at ends
  have first : e.1 ∈ region corners := subset_convexHull K _ ends.1
  have second : e.2 ∈ region corners := subset_convexHull K _ ends.2
  rcases lt_or_ge 0 (cross u (e.1 - p)) with high | low
  · have low : cross u (e.2 - p) ≤ 0 := by simpa [straddles, high] using crossed
    obtain ⟨t, there, level, front⟩ := exists_on_ray_of_low second first low high
    refine ⟨t, there, ?_, ahead_comm p u e.1 e.2 ▸ front⟩
    rw [turn_swap, level, neg_zero]
  · have high : 0 < cross u (e.2 - p) := by simpa [straddles, not_lt.mpr low] using crossed
    exact exists_on_ray_of_low first second low high

theorem mem_region_of_between {s t : K} (front : p + s • u ∈ region corners)
    (back : p + t • u ∈ region corners) (hs : 0 < s) (ht : t ≤ 0) : p ∈ region corners := by
  have apart : 0 < s - t := by linarith
  change _ ∈ convexHull K {v | v ∈ corners}
  have between := convex_convexHull K {v | v ∈ corners} front back
    (div_nonneg (neg_nonneg.mpr ht) apart.le) (div_nonneg hs.le apart.le) (by field_simp; ring)
  convert between using 1
  refine Prod.ext ?_ ?_
  all_goals
    simp only [Prod.fst_add, Prod.snd_add, Prod.smul_fst, Prod.smul_snd, smul_eq_mul]
    field_simp
    ring

/-- A point with an odd number of sides ahead is in the region: the chain crosses the line of
the ray an even number of times, so behind the point as well. -/
theorem mem_region_of_odd_ahead
    (odd : Odd ((sides corners).countP fun e => ahead p u e.1 e.2)) : p ∈ region corners := by
  obtain ⟨e, he, met⟩ : ∃ e ∈ sides corners, ahead p u e.1 e.2 = true :=
    List.countP_pos_iff.mp odd.pos
  obtain ⟨e', he', crossed, behind⟩ : ∃ e ∈ sides corners, straddles p u e.1 e.2 = true ∧
      ahead p u e.1 e.2 = false := by
    by_contra none
    push Not at none
    refine not_odd_straddles p u corners ?_
    rw [List.countP_congr (q := fun e => ahead p u e.1 e.2) fun e he => ?_]
    · exact odd
    · exact ⟨fun crossed => by simpa using none e he crossed, straddles_of_ahead⟩
  obtain ⟨s, hs, -, positive⟩ := exists_on_ray he (straddles_of_ahead met)
  obtain ⟨t, ht, -, negative⟩ := exists_on_ray he' crossed
  rw [met, eq_comm, decide_eq_true_iff] at positive
  rw [behind, eq_comm, decide_eq_false_iff_not, not_lt] at negative
  exact mem_region_of_between hs ht positive negative

/-- A ray from a point inside crosses one side of the polygon. -/
theorem Inside.countP_ahead (inside : Inside p corners) (turns : TurnsLeft corners)
    (hu : u ≠ 0) : (sides corners).countP (fun e => ahead p u e.1 e.2) = 1 := by
  have opposite : ∀ v, cross (-u) v = -cross u v := by
    intro v
    simp only [cross, Prod.fst_neg, Prod.snd_neg]
    ring
  have shift : ∀ w v : K × K, cross w v = cross w (v - p) + cross w p := by
    intro w v
    simp only [cross, Prod.fst_sub, Prod.snd_sub]
    ring
  rw [← countP_up_eq_one_of_runs (f := fun v => decide (0 < cross u (v - p)))]
  · refine List.countP_congr fun e he => ?_
    have plain : cross (e.1 - p) (e.2 - p) = turn e.1 e.2 p := by
      simp only [turn, cross, Prod.fst_sub, Prod.snd_sub]
      ring
    simp only [ahead, RayCasting.meets, plain]
    by_cases same : e.1 = e.2
    · by_cases high : 0 < cross u (e.2 - p) <;> simp [same, high]
    · have left : 0 < turn e.1 e.2 p := inside.turn_pos turns he same
      by_cases high : 0 < cross u (e.1 - p) <;> simp [high, left, left.le]
  · rintro a b c d four ⟨same, same', differ⟩
    by_cases high : 0 < cross u (a - p)
    · refine inside.not_alternating (u := u) turns four ?_
      have hc : 0 < cross u (c - p) := by simpa [high] using same
      have hb : cross u (b - p) ≤ 0 := by simpa [high] using differ
      have hd : cross u (d - p) ≤ 0 := by simpa [hb.not_gt] using same'
      constructor <;> linarith [shift u a, shift u b, shift u c, shift u d]
    · refine inside.not_alternating (u := -u) turns four ?_
      have hc : cross u (c - p) ≤ 0 := by simpa [high] using same
      have hb : 0 < cross u (b - p) := by simpa [high] using differ
      have hd : 0 < cross u (d - p) := by simpa [hb] using same'
      constructor <;> simp only [opposite] <;>
        linarith [shift u a, shift u b, shift u c, shift u d]
  · obtain ⟨v, hv, right⟩ := inside.exists_left turns (neg_ne_zero.mpr hu)
    rw [opposite] at right
    exact ⟨v, hv, by simpa using (neg_pos.mp right).le⟩
  · obtain ⟨v, hv, left⟩ := inside.exists_left turns hu
    exact ⟨v, hv, by simpa using left⟩

end ConvexPolygon
