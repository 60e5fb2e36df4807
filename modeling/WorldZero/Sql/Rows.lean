import Mathlib.Data.List.Nodup

/-!
# Tables with a unique column

A table is the list of its rows, in the order of insertion, no two of them with the
same key. A statement that names the key finds at most one row; a statement with any
other condition filters. No statement here changes the key of a row.
-/

namespace Sql

/-- The rows of a table whose column `key` is `UNIQUE`. -/
structure Rows {R K : Type} (key : R → K) where
  rows : List R
  unique : (rows.map key).Nodup

namespace Rows

variable {R K : Type} {key : R → K}

instance : Membership R (Rows key) := ⟨fun t r => r ∈ t.rows⟩

instance [DecidableEq R] (t : Rows key) (r : R) : Decidable (r ∈ t) :=
  inferInstanceAs (Decidable (r ∈ t.rows))

def empty (key : R → K) : Rows key := ⟨[], List.nodup_nil⟩

@[simp] theorem notMem_empty (r : R) : r ∉ empty key := List.not_mem_nil

/-- Two rows with one key are one row. -/
theorem eq_of_key {t : Rows key} {r r' : R} (here : r ∈ t) (here' : r' ∈ t)
    (same : key r = key r') : r = r' :=
  List.inj_on_of_nodup_map t.unique here here' same

/-- `SELECT … WHERE condition`. -/
def select (t : Rows key) (condition : R → Bool) : List R := t.rows.filter condition

/-- `SELECT COUNT(*) … WHERE condition`. -/
def count (t : Rows key) (condition : R → Bool) : Nat := t.rows.countP condition

/-- `DELETE … WHERE condition`. -/
def delete (t : Rows key) (condition : R → Bool) : Rows key where
  rows := t.rows.filter fun r => !condition r
  unique := (List.filter_sublist.map key).nodup t.unique

/-- `UPDATE … SET … WHERE condition`. -/
def update (t : Rows key) (condition : R → Bool) (set : R → R) (keeps : ∀ r, key (set r) = key r) :
    Rows key where
  rows := t.rows.map fun r => if condition r then set r else r
  unique := by
    have same : key ∘ (fun r => if condition r then set r else r) = key := by
      funext r
      simp only [Function.comp_apply]
      split
      · exact keeps r
      · rfl
    rw [List.map_map, same]
    exact t.unique

variable {t t' : Rows key} {r r' : R} {condition : R → Bool} {set : R → R}

theorem mem_select : r ∈ t.select condition ↔ r ∈ t ∧ condition r = true := List.mem_filter

theorem count_eq_zero : t.count condition = 0 ↔ ∀ r ∈ t, condition r = false := by
  unfold count
  rw [List.countP_eq_zero]
  exact forall_congr' fun r => imp_congr_right fun _ => by simp

theorem mem_delete : r ∈ t.delete condition ↔ r ∈ t ∧ condition r = false := by
  show r ∈ List.filter _ _ ↔ _
  rw [List.mem_filter, Bool.not_eq_true']
  rfl

theorem mem_update (keeps : ∀ r, key (set r) = key r) :
    r ∈ t.update condition set keeps ↔
      ∃ old ∈ t, r = if condition old then set old else old := by
  show r ∈ List.map _ _ ↔ _
  rw [List.mem_map]
  exact exists_congr fun old => and_congr_right fun _ => eq_comm

variable [DecidableEq K]

/-- `SELECT … WHERE key = $1`. -/
def find (t : Rows key) (k : K) : Option R := t.rows.find? fun r => key r = k

/-- `INSERT`, `none` when the key is taken. -/
def insert (t : Rows key) (r : R) : Option (Rows key) :=
  if fresh : key r ∉ t.rows.map key then
    some {
      rows := t.rows ++ [r]
      unique := by
        rw [List.map_append, List.map_singleton]
        exact t.unique.append (List.nodup_singleton _) (List.disjoint_singleton.mpr fresh) }
  else none

theorem find_eq_some {k : K} : t.find k = some r ↔ r ∈ t ∧ key r = k := by
  constructor
  · intro found
    exact ⟨List.mem_of_find?_eq_some found, by simpa using List.find?_some found⟩
  · rintro ⟨here, rfl⟩
    cases found : t.find (key r) with
    | none => exact absurd (decide_eq_true rfl) (List.find?_eq_none.mp found r here)
    | some r' =>
        have same : key r' = key r := by simpa using List.find?_some found
        rw [eq_of_key (List.mem_of_find?_eq_some found) here same]

theorem find_eq_none {k : K} : t.find k = none ↔ ∀ r ∈ t, key r ≠ k := by
  unfold find
  rw [List.find?_eq_none]
  exact forall_congr' fun r => imp_congr_right fun _ => by simp

theorem find_delete {k : K} : (t.delete condition).find k = (t.find k).filter (!condition ·) := by
  ext r
  rw [find_eq_some, mem_delete, Option.filter_eq_some_iff, find_eq_some]
  rw [and_right_comm, Bool.not_eq_true']

theorem find_update {k : K} (keeps : ∀ r, key (set r) = key r) :
    (t.update condition set keeps).find k =
      (t.find k).map fun r => if condition r then set r else r := by
  ext r
  rw [find_eq_some, mem_update, Option.map_eq_some_iff]
  constructor
  · rintro ⟨⟨old, here, rfl⟩, named⟩
    refine ⟨old, find_eq_some.mpr ⟨here, ?_⟩, rfl⟩
    split at named
    · rwa [keeps] at named
    · exact named
  · rintro ⟨old, found, rfl⟩
    obtain ⟨here, rfl⟩ := find_eq_some.mp found
    refine ⟨⟨old, here, rfl⟩, ?_⟩
    split
    · exact keeps old
    · rfl

theorem rows_insert (inserted : t.insert r = some t') : t'.rows = t.rows ++ [r] := by
  unfold insert at inserted
  split at inserted <;> cases inserted
  rfl

theorem mem_insert (inserted : t.insert r = some t') : r' ∈ t' ↔ r' ∈ t ∨ r' = r := by
  unfold insert at inserted
  split at inserted
  · cases inserted
    show r' ∈ t.rows ++ [r] ↔ _
    rw [List.mem_append, List.mem_singleton]
    rfl
  · cases inserted

theorem exists_insert (fresh : ∀ r' ∈ t, key r' ≠ key r) : ∃ t', t.insert r = some t' := by
  unfold insert
  refine ⟨_, dif_pos fun taken => ?_⟩
  obtain ⟨r', here, same⟩ := List.mem_map.mp taken
  exact fresh r' here same

theorem fresh_of_insert (inserted : t.insert r = some t') (here : r' ∈ t) : key r' ≠ key r := by
  unfold insert at inserted
  split at inserted
  next fresh => exact fun same => fresh (same ▸ List.mem_map_of_mem here)
  · cases inserted

theorem insert_isSome : (t.insert r).isSome ↔ ∀ r' ∈ t, key r' ≠ key r := by
  rw [Option.isSome_iff_exists]
  exact ⟨fun ⟨_, inserted⟩ _ here => fresh_of_insert inserted here, exists_insert⟩

/-- `INSERT … ON CONFLICT DO UPDATE`: a row that has the key already is merged. -/
def upsert (t : Rows key) (r : R) (merge : R → R) (keeps : ∀ r, key (merge r) = key r) :
    Rows key :=
  (t.insert r).getD (t.update (fun r' => key r' = key r) merge keeps)

theorem find_insert {k : K} (inserted : t.insert r = some t') :
    t'.find k = if k = key r then some r else t.find k := by
  ext r'
  split
  next itself =>
    rw [find_eq_some, mem_insert inserted, itself, Option.some.injEq]
    constructor
    · rintro ⟨here | rfl, same⟩
      · exact absurd same (fresh_of_insert inserted here)
      · rfl
    · rintro rfl
      exact ⟨.inr rfl, rfl⟩
  next other =>
    rw [find_eq_some, find_eq_some, mem_insert inserted]
    refine and_congr_left fun named => ⟨?_, .inl⟩
    rintro (here | rfl)
    · exact here
    · exact absurd named.symm other

theorem find_upsert {k : K} (r : R) (merge : R → R) (keeps : ∀ r, key (merge r) = key r) :
    (t.upsert r merge keeps).find k =
      if k = key r then some ((t.find k).elim r merge) else t.find k := by
  unfold upsert
  cases inserted : t.insert r with
  | some t' =>
      rw [Option.getD_some, find_insert inserted]
      split
      next itself =>
        have absent : t.find k = none := find_eq_none.mpr fun r' here same =>
          fresh_of_insert inserted here (same.trans itself)
        rw [absent, Option.elim_none]
      · rfl
  | none =>
      have taken : ¬ (t.insert r).isSome := by rw [inserted]; exact Bool.false_ne_true
      rw [insert_isSome] at taken
      push Not at taken
      obtain ⟨old, here, same⟩ := taken
      rw [Option.getD_none, find_update keeps]
      split
      next itself =>
        rw [find_eq_some.mpr ⟨here, same.trans itself.symm⟩]
        simp [same]
      next other =>
        cases found : t.find k with
        | none => rfl
        | some r' =>
            obtain ⟨-, rfl⟩ := find_eq_some.mp found
            simp [other]

end Rows

end Sql
