import Mathlib.Tactic.NormNum
import Mathlib.Tactic.Ring
import WorldZero.World.Movement

/-!
# Which moves cross a link

Two segments cross properly if each has its ends strictly on opposite sides of the other's
line. `segments_intersect` asks whether exactly one end is strictly to the left, so an end on
the line counts as one to the right, and which side is the left depends on the direction of
the segment.
-/

namespace WorldZero.World

open Content (Point)

/-! ### Two ends and a line -/

section Ends

variable {K : Type} [Zero K] [LT K]

/-- The ends are strictly on opposite sides. -/
def Opposite (d d' : K) : Prop := (d < 0 ∧ 0 < d') ∨ (0 < d ∧ d' < 0)

/-- One end is on the line, and the other is not. -/
def Touches (d d' : K) : Prop := (d = 0 ∧ d' ≠ 0) ∨ (d ≠ 0 ∧ d' = 0)

/-- The ends are neither both to the left, nor both to the right, nor both on the line. -/
def Parted (d d' : K) : Prop := Opposite d d' ∨ Touches d d'

variable [DecidableLT K]

/-- Exactly one end is strictly to the left. -/
def parts (d d' : K) : Bool := decide (0 < d) != decide (0 < d')

end Ends

section Parts

variable {d d' : ℚ}

theorem parts_eq_true : parts d d' = true ↔ (0 < d ∧ d' ≤ 0) ∨ (d ≤ 0 ∧ 0 < d') := by
  simp only [parts, bne_iff_ne, ne_eq, decide_eq_decide]
  grind

theorem parts_comm (d d' : ℚ) : parts d d' = parts d' d := bne_comm

/-- Ends are on opposite sides if they are told apart in either direction of the line. -/
theorem opposite_iff : Opposite d d' ↔ parts d d' = true ∧ parts (-d) (-d') = true := by
  rw [parts_eq_true, parts_eq_true, Opposite]
  grind

/-- One end is on the line if they are told apart in one direction only. -/
theorem touches_iff : Touches d d' ↔ parts d d' ≠ parts (-d) (-d') := by
  rw [ne_eq, Bool.eq_iff_iff, parts_eq_true, parts_eq_true, Touches]
  grind

/-- Ends are parted if they are told apart in some direction of the line. -/
theorem parted_iff : Parted d d' ↔ parts d d' = true ∨ parts (-d) (-d') = true := by
  rw [Parted, opposite_iff, touches_iff]
  generalize parts d d' = a
  generalize parts (-d) (-d') = a'
  revert a a'
  decide

end Parts

/-! ### Two segments -/

section Segments

variable (p₁ p₂ p₃ p₄ : Point ℚ)

/-- The ends of each segment are strictly on opposite sides of the other's line. -/
structure CrossProperly : Prop where
  first : Opposite (orientation p₃ p₄ p₁) (orientation p₃ p₄ p₂)
  second : Opposite (orientation p₁ p₂ p₃) (orientation p₁ p₂ p₄)

theorem orientation_reverse (a b c : Point ℚ) : orientation b a c = -orientation a b c := by
  simp only [orientation]
  ring

theorem segmentsIntersect_eq :
    segmentsIntersect p₁ p₂ p₃ p₄ =
      (parts (orientation p₃ p₄ p₁) (orientation p₃ p₄ p₂) &&
        parts (orientation p₁ p₂ p₃) (orientation p₁ p₂ p₄)) := rfl

/-- The answer is right, and it is the same in whichever directions the two segments are
written. -/
structure AnswersRightly : Prop where
  proper : segmentsIntersect p₁ p₂ p₃ p₄ = true ↔ CrossProperly p₁ p₂ p₃ p₄
  first : segmentsIntersect p₂ p₁ p₃ p₄ = segmentsIntersect p₁ p₂ p₃ p₄
  second : segmentsIntersect p₁ p₂ p₄ p₃ = segmentsIntersect p₁ p₂ p₃ p₄
  both : segmentsIntersect p₂ p₁ p₄ p₃ = segmentsIntersect p₁ p₂ p₃ p₄

/-- One segment has just one end on the other's line, and the line of the first parts the ends
of the other. -/
def Grazes : Prop :=
  (Touches (orientation p₃ p₄ p₁) (orientation p₃ p₄ p₂) ∧
    Parted (orientation p₁ p₂ p₃) (orientation p₁ p₂ p₄)) ∨
  (Touches (orientation p₁ p₂ p₃) (orientation p₁ p₂ p₄) ∧
    Parted (orientation p₃ p₄ p₁) (orientation p₃ p₄ p₂))

/-- The answer is right unless one of the segments grazes the other. -/
theorem answersRightly_iff : AnswersRightly p₁ p₂ p₃ p₄ ↔ ¬ Grazes p₁ p₂ p₃ p₄ := by
  have proper : CrossProperly p₁ p₂ p₃ p₄ ↔
      Opposite (orientation p₃ p₄ p₁) (orientation p₃ p₄ p₂) ∧
        Opposite (orientation p₁ p₂ p₃) (orientation p₁ p₂ p₄) :=
    ⟨fun ⟨first, second⟩ => ⟨first, second⟩, fun ⟨first, second⟩ => ⟨first, second⟩⟩
  have rightly : AnswersRightly p₁ p₂ p₃ p₄ ↔
      (segmentsIntersect p₁ p₂ p₃ p₄ = true ↔ CrossProperly p₁ p₂ p₃ p₄) ∧
      segmentsIntersect p₂ p₁ p₃ p₄ = segmentsIntersect p₁ p₂ p₃ p₄ ∧
      segmentsIntersect p₁ p₂ p₄ p₃ = segmentsIntersect p₁ p₂ p₃ p₄ ∧
      segmentsIntersect p₂ p₁ p₄ p₃ = segmentsIntersect p₁ p₂ p₃ p₄ :=
    ⟨fun ⟨a, b, c, d⟩ => ⟨a, b, c, d⟩, fun ⟨a, b, c, d⟩ => ⟨a, b, c, d⟩⟩
  rw [rightly, proper, Grazes, opposite_iff, opposite_iff, touches_iff, touches_iff, parted_iff,
    parted_iff]
  simp only [segmentsIntersect_eq, orientation_reverse p₁ p₂, orientation_reverse p₃ p₄]
  rw [parts_comm (orientation p₃ p₄ p₂), parts_comm (orientation p₁ p₂ p₄),
    parts_comm (-orientation p₃ p₄ p₂), parts_comm (-orientation p₁ p₂ p₄)]
  -- What is left is about whether each pair of ends is told apart in either direction.
  generalize parts (orientation p₃ p₄ p₁) (orientation p₃ p₄ p₂) = a
  generalize parts (orientation p₁ p₂ p₃) (orientation p₁ p₂ p₄) = b
  generalize parts (-orientation p₃ p₄ p₁) (-orientation p₃ p₄ p₂) = a'
  generalize parts (-orientation p₁ p₂ p₃) (-orientation p₁ p₂ p₄) = b'
  revert a b a' b'
  decide

end Segments

/-- A move that ends on the link counts as crossing it, unless the link is declared in the other
direction. -/
theorem grazing_move :
    segmentsIntersect ((-1, 5) : Point ℚ) (0, 5) (0, 0) (0, 10) = true ∧
      ¬ CrossProperly ((-1, 5) : Point ℚ) (0, 5) (0, 0) (0, 10) ∧
      segmentsIntersect ((-1, 5) : Point ℚ) (0, 5) (0, 10) (0, 0) = false := by
  refine ⟨?_, fun crosses => ?_, ?_⟩
  · norm_num [segmentsIntersect, orientation]
  · have sides := crosses.first
    norm_num [Opposite, orientation] at sides
  · norm_num [segmentsIntersect, orientation]

end WorldZero.World
