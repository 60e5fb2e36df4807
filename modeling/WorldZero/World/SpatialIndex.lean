import Mathlib.Algebra.Order.Archimedean.Real.Basic
import WorldZero.World.Spatial

/-!
# The spatial index finds who is near

Buckets and positions are two records of where the entities stand. The operations keep them
in step, and a query passes over no cell that its circle touches, because the cell of a
number grows with the number, also where it is cut off at the range of `i64`.
-/

namespace WorldZero.World

open Content (Point3 Sqrt)

namespace GridIndex

/-! ### Buckets and positions -/

section Filed

variable {K : Type} [Div K] [FloorI64 K]

/-- The known entities are in the buckets of the cells that they stand in, and nobody else is
in any bucket. -/
structure FiledFor (known : EntityId → Prop) (index : GridIndex K) : Prop where
  listed : ∀ key e, e ∈ index.bucket key ↔
    known e ∧ ∃ position, index.positionOf e = some position ∧ index.cellKey position = key
  once : ∀ key, (index.bucket key).Nodup
  nonempty : ∀ key, index.cells key ≠ some []

/-- Every entity is known. -/
abbrev Filed (index : GridIndex K) : Prop := FiledFor (fun _ => True) index

variable {index : GridIndex K} {entity : EntityId} {position : Point3 K}

theorem filed_new (cellSize : K) : (GridIndex.new cellSize).Filed where
  listed key e := by simp [new, bucket, positionOf]
  once key := List.nodup_nil
  nonempty key := nofun

theorem cellKey_removeFromCell :
    (index.removeFromCell entity position).cellKey = index.cellKey := by
  funext p
  simp only [cellKey, cellSize_removeFromCell]

theorem nonempty_removeFromCell (nonempty : ∀ key, index.cells key ≠ some []) (key : CellKey) :
    (index.removeFromCell entity position).cells key ≠ some [] := by
  simp only [removeFromCell]
  split
  · exact nonempty key
  · by_cases here : key = index.cellKey position
    · subst here
      simp only [Function.update_self]
      split
      · rintro ⟨⟩
      next some_left =>
        rw [ne_eq, Option.some.injEq]
        exact fun none_left => some_left (List.isEmpty_iff.mpr none_left)
    · simp only [Function.update_of_ne here]
      exact nonempty key

/-- An entity that is taken out of the bucket of its cell is in no bucket. -/
theorem Filed.removeFromCell (filed : index.Filed) (there : index.positionOf entity = some position) :
    (index.removeFromCell entity position).FiledFor (· ≠ entity) where
  listed key e := by
    have same : (index.removeFromCell entity position).positionOf = index.positionOf :=
      positions_removeFromCell ..
    rw [bucket_removeFromCell, cellKey_removeFromCell, same]
    split
    next here => simp [filed.listed, and_comm]
    next elsewhere =>
      rw [filed.listed]
      refine and_congr_left fun ⟨p, stands, cell⟩ => iff_of_true trivial ?_
      rintro rfl
      rw [there] at stands
      cases stands
      exact elsewhere cell.symm
  once key := by
    rw [bucket_removeFromCell]
    split
    · exact (filed.once key).filter _
    · exact filed.once key
  nonempty := nonempty_removeFromCell filed.nonempty

/-- Who is not in the index is in no bucket. -/
theorem Filed.except (filed : index.Filed) (absent : index.positionOf entity = none) :
    index.FiledFor (· ≠ entity) where
  listed key e := by
    rw [filed.listed]
    refine and_congr_left fun ⟨p, stands, _⟩ => iff_of_true trivial ?_
    rintro rfl
    rw [absent] at stands
    cases stands
  once := filed.once
  nonempty := filed.nonempty

omit [Div K] [FloorI64 K] in
theorem bucket_put (key : CellKey) (held : List EntityId) (positions) (k : CellKey) :
    GridIndex.bucket { index with cells := Function.update index.cells key (some held), positions } k =
      if k = key then held else index.bucket k := by
  split
  next here => simp [bucket, here]
  next elsewhere => simp [bucket, elsewhere]

/-- An entity that is in no bucket is put into that of its cell. -/
theorem FiledFor.push (filed : index.FiledFor (· ≠ entity)) (position : Point3 K) :
    GridIndex.Filed { index with
      cells := Function.update index.cells (index.cellKey position)
        (some (index.bucket (index.cellKey position) ++ [entity]))
      positions := Function.update index.positions entity (some position) } := by
  have outside : ∀ key, entity ∉ index.bucket key :=
    fun key there => ((filed.listed key entity).mp there).1 rfl
  refine ⟨fun key e => ?_, fun key => ?_, fun key => ?_⟩
  · have stands : ∀ p, Function.update index.positions entity (some position) e = some p ↔
        if e = entity then p = position else index.positionOf e = some p := by
      intro p
      split
      next own => simp [own, eq_comm]
      next other => simp [other, positionOf]
    have keyed : (∃ p, Function.update index.positions entity (some position) e = some p ∧
        index.cellKey p = key) ↔
          if e = entity then index.cellKey position = key else e ∈ index.bucket key := by
      simp only [stands]
      split
      next own => simp
      next other => simp [filed.listed, other]
    rw [bucket_put, true_and]
    refine Iff.trans ?_ keyed.symm
    by_cases own : e = entity
    · subst own
      by_cases here : key = index.cellKey position
      · simp [here]
      · simp [here, outside key, eq_comm]
    · by_cases here : key = index.cellKey position
      · simp [here, own]
      · simp [here, own]
  · rw [bucket_put]
    split
    · refine List.nodup_append.mpr ⟨filed.once _, List.nodup_singleton _, ?_⟩
      intro e there e' only
      rw [List.mem_singleton.mp only]
      rintro rfl
      exact outside _ there
    · exact filed.once key
  · by_cases here : key = index.cellKey position
    · subst here
      simp
    · simpa only [Function.update_of_ne here] using filed.nonempty key

/-- An entity that is in no bucket has no position any more. -/
theorem FiledFor.forget (filed : index.FiledFor (· ≠ entity)) :
    GridIndex.Filed { index with positions := Function.update index.positions entity none } where
  listed key e := by
    refine (filed.listed key e).trans ?_
    rw [true_and]
    by_cases own : e = entity
    · subst own
      simp [positionOf]
    · simp [positionOf, own, cellKey]
  once := filed.once
  nonempty := filed.nonempty

theorem Filed.insert (filed : index.Filed) (entity : EntityId) (position : Point3 K) :
    (index.insert entity position).Filed := by
  unfold GridIndex.insert
  dsimp only
  split
  next previous there => exact (filed.removeFromCell there).push position
  next absent => exact (filed.except absent).push position

theorem Filed.remove (filed : index.Filed) (entity : EntityId) : (index.remove entity).Filed := by
  unfold GridIndex.remove
  split
  next position there =>
    have order : GridIndex.removeFromCell
        { index with positions := Function.update index.positions entity none } entity position =
        { index.removeFromCell entity position with
          positions := Function.update index.positions entity none } := by
      unfold GridIndex.removeFromCell
      dsimp only [cellKey]
      split <;> rfl
    rw [order, ← positions_removeFromCell]
    exact (filed.removeFromCell there).forget
  next => exact filed

theorem Filed.update (filed : index.Filed) (entity : EntityId) (position : Point3 K) :
    (index.update entity position).Filed := by
  unfold GridIndex.update
  split
  · exact filed.insert entity position
  · exact filed

end Filed

/-! ### Queries -/

section Query

theorem mem_cellRange {lo hi k : Int} : k ∈ cellRange lo hi ↔ lo ≤ k ∧ k ≤ hi := by
  simp only [cellRange, List.mem_map, List.mem_range]
  constructor
  · rintro ⟨i, within, rfl⟩
    omega
  · intro ⟨above, below⟩
    exact ⟨(k - lo).toNat, by omega, by omega⟩

theorem nodup_cellRange (lo hi : Int) : (cellRange lo hi).Nodup := by
  refine List.nodup_range.map fun i j same => ?_
  simpa using same

theorem floorI64_mono {x y : ℝ} (le : x ≤ y) : FloorI64.floorI64 x ≤ FloorI64.floorI64 y :=
  max_le_max_left _ (min_le_min_right _ (Int.floor_mono le))

/-- The coordinates of a point within the radius differ by the radius at most. -/
theorem abs_sub_le_of_distance_le {center p : Point3 ℝ} {radius : ℝ}
    (near : distance center p ≤ radius) :
    |center.1 - p.1| ≤ radius ∧ |center.2.1 - p.2.1| ≤ radius := by
  have sum : ∀ a b : ℝ, a * a ≤ a * a + b * b := fun a b => by nlinarith [mul_self_nonneg b]
  constructor
  · refine (Real.abs_le_sqrt ?_).trans near
    nlinarith [mul_self_nonneg (center.2.1 - p.2.1), mul_self_nonneg (center.2.2 - p.2.2)]
  · refine (Real.abs_le_sqrt ?_).trans near
    nlinarith [mul_self_nonneg (center.1 - p.1), mul_self_nonneg (center.2.2 - p.2.2)]

variable {index : GridIndex ℝ} {center p : Point3 ℝ} {radius : ℝ} {e : EntityId}

/-- The cell of a point within the radius is one of those that the query looks into. -/
theorem cellKey_mem_of_distance_le (positive : 0 < index.cellSize)
    (near : distance center p ≤ radius) :
    (index.cellKey p).1 ∈
        cellRange (index.cellKey (center.1 - radius, center.2.1 - radius, center.2.2)).1
          (index.cellKey (center.1 + radius, center.2.1 + radius, center.2.2)).1 ∧
      (index.cellKey p).2 ∈
        cellRange (index.cellKey (center.1 - radius, center.2.1 - radius, center.2.2)).2
          (index.cellKey (center.1 + radius, center.2.1 + radius, center.2.2)).2 := by
  obtain ⟨across, along⟩ := abs_sub_le_of_distance_le near
  rw [abs_le] at across along
  have scaled : ∀ {x y : ℝ}, x ≤ y → x / index.cellSize ≤ y / index.cellSize :=
    fun le => div_le_div_of_nonneg_right le positive.le
  simp only [mem_cellRange, cellKey]
  refine ⟨⟨?_, ?_⟩, ?_, ?_⟩ <;> exact floorI64_mono (scaled (by linarith))

/-- A query finds the entities within the radius. -/
theorem Filed.mem_queryRadius_iff (filed : index.Filed) (positive : 0 < index.cellSize) :
    e ∈ index.queryRadius center radius ↔
      ∃ position, index.positionOf e = some position ∧ distance center position ≤ radius := by
  rw [mem_queryRadius]
  constructor
  · intro ⟨_, _, _, _, there⟩
    exact ((mem_nearIn index).mp there).2
  · intro ⟨position, stands, near⟩
    obtain ⟨across, along⟩ := cellKey_mem_of_distance_le positive near
    refine ⟨_, _, across, along, (mem_nearIn index).mpr ⟨?_, position, stands, near⟩⟩
    exact (filed.listed _ e).mpr ⟨trivial, position, stands, rfl⟩

theorem Filed.nodup_nearIn (filed : index.Filed) (key : CellKey) :
    (index.nearIn center radius key).Nodup := by
  unfold nearIn
  split
  · exact List.nodup_nil
  next held there =>
    have once := filed.once key
    rw [bucket, there] at once
    exact once.filter _

/-- No entity is found in two cells. -/
theorem Filed.disjoint_nearIn (filed : index.Filed) {key key' : CellKey} (other : key ≠ key') :
    (index.nearIn center radius key).Disjoint (index.nearIn center radius key') := by
  intro e here there
  obtain ⟨-, position, stands, rfl⟩ := (filed.listed _ e).mp ((mem_nearIn index).mp here).1
  obtain ⟨-, position', stands', rfl⟩ := (filed.listed _ e).mp ((mem_nearIn index).mp there).1
  rw [stands] at stands'
  cases stands'
  exact other rfl

/-- A query finds each entity once. -/
theorem Filed.nodup_queryRadius (filed : index.Filed) :
    (index.queryRadius center radius).Nodup := by
  refine List.nodup_flatMap.mpr ⟨fun cx _ => ?_, ?_⟩
  · refine List.nodup_flatMap.mpr ⟨fun cy _ => filed.nodup_nearIn _, ?_⟩
    refine (nodup_cellRange ..).imp fun {cy cy'} other => ?_
    exact filed.disjoint_nearIn fun same => other (Prod.mk.inj same).2
  · refine (nodup_cellRange ..).imp fun {cx cx'} other => ?_
    intro e here there
    obtain ⟨cy, -, here⟩ := List.mem_flatMap.mp here
    obtain ⟨cy', -, there⟩ := List.mem_flatMap.mp there
    exact filed.disjoint_nearIn (fun same => other (Prod.mk.inj same).1) here there

end Query

/-! ### Every sequence of operations -/

inductive Op (K : Type) where
  | insert (entity : EntityId) (position : Point3 K)
  | remove (entity : EntityId)
  | update (entity : EntityId) (position : Point3 K)

/-- What an operation means for the positions. -/
def Op.store {K : Type} (positions : EntityId → Option (Point3 K)) :
    Op K → EntityId → Option (Point3 K)
  | .insert e position => Function.update positions e (some position)
  | .remove e => Function.update positions e none
  | .update e position =>
      if (positions e).isSome then Function.update positions e (some position) else positions

/-- The position that was stored last for each entity. -/
def lastStored {K : Type} (ops : List (Op K)) : EntityId → Option (Point3 K) :=
  ops.foldl Op.store fun _ => none

section Runs

variable {K : Type} [Div K] [FloorI64 K]

def perform (index : GridIndex K) : Op K → GridIndex K
  | .insert e position => index.insert e position
  | .remove e => index.remove e
  | .update e position => index.update e position

def performAll (index : GridIndex K) (ops : List (Op K)) : GridIndex K := ops.foldl perform index

variable {index : GridIndex K}

theorem positionOf_perform (index : GridIndex K) (op : Op K) :
    (index.perform op).positionOf = op.store index.positionOf := by
  cases op with
  | insert e position => exact positionOf_insert index position
  | remove e => exact positionOf_remove index
  | update e position =>
      unfold perform Op.store
      dsimp only
      cases there : index.positionOf e with
      | none => simp [update_of_absent index position there]
      | some previous =>
          have present : (index.positions e).isSome := Option.isSome_of_eq_some there
          rw [GridIndex.update, if_pos present, positionOf_insert]
          rfl

theorem Filed.perform (filed : index.Filed) (op : Op K) : (index.perform op).Filed := by
  cases op with
  | insert e position => exact filed.insert e position
  | remove e => exact filed.remove e
  | update e position => exact filed.update e position

theorem cellSize_insert (index : GridIndex K) (e : EntityId) (position : Point3 K) :
    (index.insert e position).cellSize = index.cellSize := by
  simp only [GridIndex.insert]
  split
  · exact cellSize_removeFromCell ..
  · rfl

theorem cellSize_perform (index : GridIndex K) (op : Op K) :
    (index.perform op).cellSize = index.cellSize := by
  cases op with
  | insert e position => exact cellSize_insert index e position
  | remove e =>
      simp only [perform, GridIndex.remove]
      split
      · exact cellSize_removeFromCell ..
      · rfl
  | update e position =>
      simp only [perform, GridIndex.update]
      split
      · exact cellSize_insert index e position
      · rfl

/-- The index after the operations: the buckets are in step with the positions, which are those
that were stored last. -/
theorem performAll_new (cellSize : K) (ops : List (Op K)) :
    ((new cellSize).performAll ops).Filed ∧
      ((new cellSize).performAll ops).cellSize = cellSize ∧
      ((new cellSize).performAll ops).positionOf = lastStored ops := by
  induction ops using List.reverseRecOn with
  | nil => exact ⟨filed_new cellSize, rfl, rfl⟩
  | append_singleton ops op ih =>
      obtain ⟨filed, size, positions⟩ := ih
      simp only [performAll, lastStored, List.foldl_append, List.foldl_cons, List.foldl_nil] at *
      refine ⟨filed.perform op, (cellSize_perform _ op).trans size, ?_⟩
      rw [positionOf_perform, positions]

end Runs

/-- After every sequence of operations a query returns the entities whose last stored position
is within the radius, each once; each stored entity is in the bucket of one cell, once; and no
bucket is empty. -/
theorem queryRadius_performAll (cellSize : ℝ) (positive : 0 < cellSize) (ops : List (Op ℝ))
    (center : Point3 ℝ) (radius : ℝ) :
    let index := (GridIndex.new cellSize).performAll ops
    (∀ e, e ∈ index.queryRadius center radius ↔
      ∃ position, lastStored ops e = some position ∧ distance center position ≤ radius) ∧
    (index.queryRadius center radius).Nodup ∧
    (∀ e, (lastStored ops e).isSome → ∃! key, e ∈ index.bucket key) ∧
    (∀ key, (index.bucket key).Nodup ∧ index.cells key ≠ some [] ∧
      ∀ e ∈ index.bucket key, (lastStored ops e).isSome) := by
  intro index
  obtain ⟨filed, size, positions⟩ := performAll_new cellSize ops
  refine ⟨fun e => ?_, filed.nodup_queryRadius, fun e stored => ?_, fun key =>
    ⟨filed.once key, filed.nonempty key, fun e there => ?_⟩⟩
  · rw [← positions]
    exact filed.mem_queryRadius_iff (positive.trans_eq size.symm)
  · obtain ⟨position, stands⟩ := Option.isSome_iff_exists.mp stored
    rw [← positions] at stands
    refine ⟨index.cellKey position, (filed.listed _ e).mpr ⟨trivial, position, stands, rfl⟩, ?_⟩
    intro key there
    obtain ⟨-, position', stands', rfl⟩ := (filed.listed key e).mp there
    rw [stands] at stands'
    cases stands'
    rfl
  · obtain ⟨-, position, stands, -⟩ := (filed.listed key e).mp there
    rw [← positions, stands]
    rfl

/-- An entity that was inserted twice is found where it was inserted last, and nobody is found
where it was before. -/
theorem queryRadius_reinserted :
    let index := (GridIndex.new (10 : ℝ)).performAll
      [.insert ⟨1⟩ (1, 1, 0), .update ⟨2⟩ (1, 1, 0), .insert ⟨1⟩ (-500, 500, 0)]
    ⟨1⟩ ∈ index.queryRadius (-500, 500, 0) 5 ∧ index.queryRadius (1, 1, 0) 5 = [] := by
  intro index
  have stored : ∀ e, lastStored [.insert ⟨1⟩ (1, 1, 0), .update ⟨2⟩ (1, 1, 0),
      .insert ⟨1⟩ ((-500 : ℝ), 500, 0)] e = if e = ⟨1⟩ then some (-500, 500, 0) else none := by
    intro e
    simp [lastStored, Op.store, Function.update_apply]
  have spec := queryRadius_performAll 10 (by norm_num)
    [.insert ⟨1⟩ (1, 1, 0), .update ⟨2⟩ (1, 1, 0), .insert ⟨1⟩ (-500, 500, 0)]
  constructor
  · refine ((spec (-500, 500, 0) 5).1 ⟨1⟩).mpr ⟨_, (stored ⟨1⟩).trans (if_pos rfl), ?_⟩
    norm_num [distance, Sqrt.sqrt]
  · refine List.eq_nil_iff_forall_not_mem.mpr fun e found => ?_
    obtain ⟨position, last, near⟩ := ((spec (1, 1, 0) 5).1 e).mp found
    rw [stored] at last
    split at last
    · cases last
      have far : (5 : ℝ) < distance (1, 1, 0) (-500, 500, 0) := by
        refine Real.lt_sqrt_of_sq_lt ?_
        norm_num
      exact absurd near (not_le.mpr far)
    · cases last

end GridIndex

end WorldZero.World
