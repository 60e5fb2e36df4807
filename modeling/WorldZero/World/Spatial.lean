import Mathlib.Algebra.Order.Floor.Defs
import Mathlib.Logic.Function.Basic
import WorldZero.Content.NavMesh

/-!
# The spatial index of a zone

A uniform grid: every entity is in the bucket of the square cell that it stands in, and a
query looks into the cells that its circle may touch.
-/

namespace WorldZero.World

open Content (Point3 Sqrt)

/-- `x.floor() as i64`, which saturates. -/
class FloorI64 (K : Type) where
  floorI64 : K → Int

noncomputable instance : FloorI64 ℝ := ⟨fun x => max (-2 ^ 63) (min ⌊x⌋ (2 ^ 63 - 1))⟩

section Distance

variable {K : Type} [Add K] [Sub K] [Mul K] [Sqrt K]

def distance (a b : Point3 K) : K :=
  let dx := a.1 - b.1
  let dy := a.2.1 - b.2.1
  let dz := a.2.2 - b.2.2
  Sqrt.sqrt (dx * dx + dy * dy + dz * dz)

end Distance

abbrev CellKey := Int × Int

/-- A cell that no entity stands in has no bucket. -/
structure GridIndex (K : Type) where
  cellSize : K
  cells : CellKey → Option (List EntityId)
  positions : EntityId → Option (Point3 K)

namespace GridIndex

variable {K : Type}

def new (cellSize : K) : GridIndex K where
  cellSize
  cells _ := none
  positions _ := none

section Index

variable (index : GridIndex K)

def positionOf (entity : EntityId) : Option (Point3 K) := index.positions entity

def bucket (key : CellKey) : List EntityId := (index.cells key).getD []

variable [Div K] [FloorI64 K]

def cellKey (position : Point3 K) : CellKey :=
  (FloorI64.floorI64 (position.1 / index.cellSize),
    FloorI64.floorI64 (position.2.1 / index.cellSize))

def removeFromCell (entity : EntityId) (position : Point3 K) : GridIndex K :=
  let key := index.cellKey position
  match index.cells key with
  | none => index
  | some bucket =>
      let bucket := bucket.filter fun e => e ≠ entity
      { index with
        cells := Function.update index.cells key (if bucket.isEmpty then none else some bucket) }

/-- An entity that is in the index is taken out of its cell first. -/
def insert (entity : EntityId) (position : Point3 K) : GridIndex K :=
  let index :=
    match index.positions entity with
    | some previous => index.removeFromCell entity previous
    | none => index
  let key := index.cellKey position
  { index with
    cells := Function.update index.cells key (some (index.bucket key ++ [entity]))
    positions := Function.update index.positions entity (some position) }

def remove (entity : EntityId) : GridIndex K :=
  match index.positions entity with
  | some position =>
      { index with positions := Function.update index.positions entity none }.removeFromCell
        entity position
  | none => index

def update (entity : EntityId) (position : Point3 K) : GridIndex K :=
  if (index.positions entity).isSome then index.insert entity position else index

variable [Add K] [Sub K] [Mul K] [LE K] [DecidableLE K] [Sqrt K]

/-- `lo..=hi`. -/
def cellRange (lo hi : Int) : List Int :=
  (List.range (hi + 1 - lo).toNat).map fun (i : ℕ) => lo + i

/-- The entities of one cell that are within the radius. -/
def nearIn (center : Point3 K) (radius : K) (key : CellKey) : List EntityId :=
  match index.cells key with
  | none => []
  | some bucket =>
      bucket.filter fun entity =>
        match index.positions entity with
        | some position => distance center position ≤ radius
        | none => false

def queryRadius (center : Point3 K) (radius : K) : List EntityId :=
  let minKey := index.cellKey (center.1 - radius, center.2.1 - radius, center.2.2)
  let maxKey := index.cellKey (center.1 + radius, center.2.1 + radius, center.2.2)
  (cellRange minKey.1 maxKey.1).flatMap fun cx =>
    (cellRange minKey.2 maxKey.2).flatMap fun cy => index.nearIn center radius (cx, cy)

end Index

/-! ### Positions -/

section Positions

variable [Div K] [FloorI64 K] (index : GridIndex K) {entity e : EntityId} (position : Point3 K)

@[simp] theorem positions_removeFromCell :
    (index.removeFromCell entity position).positions = index.positions := by
  simp only [removeFromCell]
  split <;> rfl

@[simp] theorem cellSize_removeFromCell :
    (index.removeFromCell entity position).cellSize = index.cellSize := by
  simp only [removeFromCell]
  split <;> rfl

theorem positionOf_insert :
    (index.insert entity position).positionOf =
      Function.update index.positionOf entity (some position) := by
  unfold insert positionOf
  dsimp only
  split
  · rw [positions_removeFromCell]
  · rfl

theorem positionOf_remove :
    (index.remove entity).positionOf = Function.update index.positionOf entity none := by
  unfold remove
  split
  · exact positions_removeFromCell _ _
  next absent => exact (Function.update_eq_self_iff.mpr absent.symm).symm

theorem positionOf_update_of_ne (other : e ≠ entity) :
    (index.update entity position).positionOf e = index.positionOf e := by
  unfold update
  split
  · rw [positionOf_insert, Function.update_of_ne other]
  · rfl

theorem update_of_absent (gone : index.positionOf entity = none) :
    index.update entity position = index := by
  simp only [positionOf] at gone
  simp [update, gone]

theorem positionOf_update_self (there : (index.positionOf entity).isSome) :
    (index.update entity position).positionOf entity = some position := by
  have present : (index.positions entity).isSome := there
  rw [update, if_pos present, positionOf_insert, Function.update_self]

end Positions

/-! ### Buckets -/

section Buckets

variable [Div K] [FloorI64 K] (index : GridIndex K) {entity e : EntityId} {key : CellKey}

/-- An entity is taken out of the bucket of its cell. -/
theorem bucket_removeFromCell (position : Point3 K) :
    (index.removeFromCell entity position).bucket key =
      if key = index.cellKey position then (index.bucket key).filter fun e => e ≠ entity
      else index.bucket key := by
  simp only [removeFromCell, bucket]
  split
  next missing => split <;> simp_all
  next held found =>
    by_cases here : key = index.cellKey position
    · subst here
      simp only [Function.update_self, found, Option.getD_some, if_true]
      split
      next empty => exact (List.isEmpty_iff.mp empty).symm
      next => rfl
    · simp only [if_neg here, Function.update_of_ne here]

theorem mem_bucket_removeFromCell {position : Point3 K}
    (there : e ∈ (index.removeFromCell entity position).bucket key) : e ∈ index.bucket key := by
  rw [bucket_removeFromCell] at there
  split at there
  · exact List.mem_of_mem_filter there
  · exact there

theorem mem_bucket_insert {position : Point3 K}
    (there : e ∈ (index.insert entity position).bucket key) :
    e ∈ index.bucket key ∨ e = entity := by
  have known : ∀ index' : GridIndex K, (∀ e ∈ index'.bucket key, e ∈ index.bucket key) →
      e ∈ (Function.update index'.cells (index'.cellKey position)
        (some (index'.bucket (index'.cellKey position) ++ [entity])) key).getD [] →
      e ∈ index.bucket key ∨ e = entity := by
    intro index' earlier there
    by_cases here : key = index'.cellKey position
    · subst here
      rw [Function.update_self, Option.getD_some, List.mem_append, List.mem_singleton] at there
      exact there.imp_left (earlier e)
    · rw [Function.update_of_ne here] at there
      exact .inl (earlier e there)
  unfold insert at there
  dsimp only at there
  split at there
  · exact known _ (fun _ => index.mem_bucket_removeFromCell) there
  · exact known _ (fun _ h => h) there

variable [Add K] [Sub K] [Mul K] [LE K] [DecidableLE K] [Sqrt K]

omit [Div K] [FloorI64 K] in
theorem mem_nearIn {center : Point3 K} {radius : K} :
    e ∈ index.nearIn center radius key ↔ e ∈ index.bucket key ∧
      ∃ position, index.positionOf e = some position ∧ distance center position ≤ radius := by
  unfold nearIn bucket positionOf
  split
  next missing => simp [missing]
  next held found =>
    rw [found, Option.getD_some, List.mem_filter]
    refine and_congr_right fun _ => ?_
    cases index.positions e <;> simp

theorem mem_queryRadius {center : Point3 K} {radius : K} :
    e ∈ index.queryRadius center radius ↔ ∃ cx cy,
      cx ∈ cellRange (index.cellKey (center.1 - radius, center.2.1 - radius, center.2.2)).1
        (index.cellKey (center.1 + radius, center.2.1 + radius, center.2.2)).1 ∧
      cy ∈ cellRange (index.cellKey (center.1 - radius, center.2.1 - radius, center.2.2)).2
        (index.cellKey (center.1 + radius, center.2.1 + radius, center.2.2)).2 ∧
      e ∈ index.nearIn center radius (cx, cy) := by
  simp only [queryRadius, List.mem_flatMap]
  constructor
  · rintro ⟨cx, ranged, cy, ranged', there⟩
    exact ⟨cx, cy, ranged, ranged', there⟩
  · rintro ⟨cx, cy, ranged, ranged', there⟩
    exact ⟨cx, ranged, cy, ranged', there⟩

end Buckets

end GridIndex

end WorldZero.World
