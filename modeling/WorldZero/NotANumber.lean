import Mathlib.Algebra.Field.Defs
import Mathlib.Algebra.Order.Ring.Defs
import Mathlib.Data.Nat.Cast.Defs
import Mathlib.Order.Basic
import Mathlib.Tactic.TypeStar

/-!
# Numbers with a value that is none

The numbers of an ordered field and one more value, `nan`. Every operation with `nan` is
`nan`, every comparison with it is false, and so is the division by zero. A check that is
written as a comparison therefore says of the values that it lets pass that they are numbers
if it passes when the comparison holds, and nothing at all if it passes when it fails.
-/

namespace NotANumber

inductive Number (F : Type*) where
  | nan
  | num (x : F)

namespace Number

variable {F : Type*}

/-- The value is a number. -/
def IsNum : Number F → Prop
  | nan => False
  | num _ => True

@[simp] theorem isNum_num (x : F) : (num x).IsNum := trivial

@[simp] theorem not_isNum_nan : ¬ (nan : Number F).IsNum := id

theorem isNum_iff {a : Number F} : a.IsNum ↔ ∃ x, a = num x := by
  cases a with
  | nan => simp
  | num x => simp

/-- Both are numbers, and the operation has a value on them. -/
def map₂ (op : F → F → F) : Number F → Number F → Number F
  | num x, num y => num (op x y)
  | _, _ => nan

theorem isNum_map₂ {op : F → F → F} {a b : Number F} : (map₂ op a b).IsNum ↔ a.IsNum ∧ b.IsNum := by
  cases a <;> cases b <;> simp [map₂]

/-! ### Operations -/

instance [Zero F] : Zero (Number F) := ⟨num 0⟩
instance [One F] : One (Number F) := ⟨num 1⟩
instance [NatCast F] : NatCast (Number F) := ⟨fun n => num (n : F)⟩
instance [Add F] : Add (Number F) := ⟨map₂ (· + ·)⟩
instance [Sub F] : Sub (Number F) := ⟨map₂ (· - ·)⟩
instance [Mul F] : Mul (Number F) := ⟨map₂ (· * ·)⟩

instance [Neg F] : Neg (Number F) where
  neg
    | num x => num (-x)
    | nan => nan

instance [Div F] [Zero F] [DecidableEq F] : Div (Number F) where
  div
    | num x, num y => if y = 0 then nan else num (x / y)
    | _, _ => nan

instance [LT F] : LT (Number F) where
  lt
    | num x, num y => x < y
    | _, _ => False

instance [LE F] : LE (Number F) where
  le
    | num x, num y => x ≤ y
    | _, _ => False

instance [LT F] [DecidableLT F] : DecidableLT (Number F)
  | num x, num y => inferInstanceAs (Decidable (x < y))
  | nan, _ | num _, nan => isFalse id

instance [LE F] [DecidableLE F] : DecidableLE (Number F)
  | num x, num y => inferInstanceAs (Decidable (x ≤ y))
  | nan, _ | num _, nan => isFalse id

section Values

variable (x y : F)

theorem zero_eq [Zero F] : (0 : Number F) = num 0 := rfl
@[simp] theorem num_add_num [Add F] : num x + num y = num (x + y) := rfl
@[simp] theorem num_sub_num [Sub F] : num x - num y = num (x - y) := rfl
@[simp] theorem num_mul_num [Mul F] : num x * num y = num (x * y) := rfl
@[simp] theorem neg_num [Neg F] : -num x = num (-x) := rfl
@[simp] theorem num_lt_num [LT F] {x y : F} : num x < num y ↔ x < y := Iff.rfl
@[simp] theorem num_le_num [LE F] {x y : F} : num x ≤ num y ↔ x ≤ y := Iff.rfl

@[simp] theorem zero_lt_num [Zero F] [LT F] {x : F} : 0 < num x ↔ 0 < x := Iff.rfl

theorem num_div_num [Div F] [Zero F] [DecidableEq F] {x y : F} (nonzero : y ≠ 0) :
    num x / num y = num (x / y) := if_neg nonzero

end Values

section Numbers

variable {a b : Number F}

@[simp] theorem isNum_add [Add F] : (a + b).IsNum ↔ a.IsNum ∧ b.IsNum := isNum_map₂
@[simp] theorem isNum_sub [Sub F] : (a - b).IsNum ↔ a.IsNum ∧ b.IsNum := isNum_map₂
@[simp] theorem isNum_mul [Mul F] : (a * b).IsNum ↔ a.IsNum ∧ b.IsNum := isNum_map₂

@[simp] theorem isNum_neg [Neg F] : (-a).IsNum ↔ a.IsNum := by
  cases a <;> exact Iff.rfl

/-- What is less than another, or at most another, is a number, and so is the other. -/
theorem isNum_of_lt [LT F] (less : a < b) : a.IsNum ∧ b.IsNum := by
  cases a <;> cases b
  case num.num => exact ⟨trivial, trivial⟩
  all_goals exact less.elim

theorem isNum_of_le [LE F] (le : a ≤ b) : a.IsNum ∧ b.IsNum := by
  cases a <;> cases b
  case num.num => exact ⟨trivial, trivial⟩
  all_goals exact le.elim

/-- Of numbers a comparison that fails says that the other one holds. -/
theorem le_of_not_lt [LinearOrder F] (first : a.IsNum) (second : b.IsNum) (fails : ¬ a < b) :
    b ≤ a := by
  obtain ⟨x, rfl⟩ := isNum_iff.mp first
  obtain ⟨y, rfl⟩ := isNum_iff.mp second
  exact not_lt.mp fails

theorem lt_of_not_le [LinearOrder F] (first : a.IsNum) (second : b.IsNum) (fails : ¬ a ≤ b) :
    b < a := by
  obtain ⟨x, rfl⟩ := isNum_iff.mp first
  obtain ⟨y, rfl⟩ := isNum_iff.mp second
  exact not_le.mp fails

end Numbers

end Number

end NotANumber
