import WorldZero.Character.Equipment

/-!
# The bounds of stats

A stat is written on three paths: `set_stat` rejects a value out of the declared
bounds, `apply_stat_delta` goes through it, and the delta of a craft saturates at the
bounds. What is read back where nothing is stored is the declared default, which no
path checks. `reads_admitted_iff` says that the defaults decide.
-/

namespace WorldZero.Character

open Sql

/-- The value is within the bounds that the declaration sets. -/
def StatDeclaration.Admits (decl : StatDeclaration) (value : Int) : Prop :=
  (∀ m ∈ decl.min, m ≤ value) ∧ ∀ m ∈ decl.max, value ≤ m

namespace AttributeSchema

variable {schema : AttributeSchema} {key : String} {value : Int}

theorem validateWrite_ok :
    schema.validateWrite key value = .ok () ↔
      ∃ decl, schema.declaration key = .ok decl ∧ decl.Admits value := by
  unfold validateWrite
  cases found : schema.declaration key with
  | error e => simp [bind, Except.bind]
  | ok decl =>
      cases lower : decl.min <;> cases upper : decl.max <;>
        simp [bind, Except.bind, StatDeclaration.Admits, lower, upper]
      grind

/-- A saturated value is within bounds that some value is within. -/
theorem admits_clamp {decl : StatDeclaration} {v n : Int}
    (found : schema.declaration key = .ok decl) (some_value : decl.Admits v)
    (clamped : schema.clamp key value = .ok n) : decl.Admits n := by
  simp only [clamp, found, bind, Except.bind, Except.ok.injEq] at clamped
  subst clamped
  obtain ⟨above, below⟩ := some_value
  cases lower : decl.min <;> cases upper : decl.max <;>
    simp_all [StatDeclaration.Admits]
  exact above.trans below

/-- The defaults are within the bounds declared beside them. -/
def DefaultsInBounds (schema : AttributeSchema) : Prop :=
  ∀ key decl, schema.declaration key = .ok decl → decl.Admits decl.default

/-- Every stored value that is read is within its bounds. -/
def StoredInBounds (schema : AttributeSchema) (stats : Stats) : Prop :=
  ∀ key decl v, schema.declaration key = .ok decl →
    (stats.lookup key).bind Json.asI64 = some v → decl.Admits v

theorem storedInBounds_empty : schema.StoredInBounds ∅ := by
  intro key decl v _ stored
  cases stored

theorem StoredInBounds.insert {stats : Stats} (h : schema.StoredInBounds stats)
    (admitted : ∀ decl, schema.declaration key = .ok decl → decl.Admits value) :
    schema.StoredInBounds (stats.insert key (.number value)) := by
  intro key' decl v found stored
  by_cases same : key' = key
  · subst same
    simp only [Finmap.lookup_insert, Option.bind_some, Json.asI64] at stored
    split at stored
    · cases stored
      exact admitted decl found
    · cases stored
  · rw [Finmap.lookup_insert_of_ne stats same] at stored
    exact h key' decl v found stored

/-- Every declared stat reads as a value that could be written. -/
def ReadsAdmitted (schema : AttributeSchema) (stats : Stats) : Prop :=
  ∀ key, schema.declares key = true →
    ∃ v, schema.resolveRead stats key = .ok v ∧ schema.validateWrite key v = .ok ()

theorem StoredInBounds.readsAdmitted {stats : Stats} (h : schema.StoredInBounds stats)
    (defaults : schema.DefaultsInBounds) : schema.ReadsAdmitted stats := by
  intro key declared
  obtain ⟨decl, found⟩ := declares_iff.mp declared
  cases stored : (stats.lookup key).bind Json.asI64 with
  | some v =>
      exact ⟨v, resolveRead_stored declared stored,
        validateWrite_ok.mpr ⟨decl, found, h key decl v found stored⟩⟩
  | none =>
      refine ⟨decl.default, ?_, validateWrite_ok.mpr ⟨decl, found, defaults key decl found⟩⟩
      simp only [resolveRead, found, stored]
      rfl

/-- What a fresh character reads are the defaults. -/
theorem defaultsInBounds_of_readsAdmitted (h : schema.ReadsAdmitted ∅) :
    schema.DefaultsInBounds := by
  intro key decl found
  obtain ⟨v, read, written⟩ := h key (declares_iff.mpr ⟨decl, found⟩)
  obtain ⟨decl', found', admitted⟩ := validateWrite_ok.mp written
  cases found.symm.trans found'
  simp only [resolveRead, found, Finmap.lookup_empty, Option.bind_none] at read
  cases read
  exact admitted

end AttributeSchema

/-! ### Runs of the three writes -/

/-- The clamped deltas of one transaction. -/
def applyClampedDeltas (store : CharacterStore) (c : CharacterId) :
    List (String × Int) → StoreM Unit
  | [] => pure ()
  | (key, delta) :: deltas => do
      let _ ← applyStatDeltaClampedTx store c key delta
      applyClampedDeltas store c deltas

inductive StatCall where
  | setStat (key : String) (value : Int)
  | applyStatDelta (key : String) (delta : Int)
  | clamped (deltas : List (String × Int))

/-- The tables after the call, whatever befalls its statements. -/
def StatCall.perform (store : CharacterStore) (c : CharacterId) (t : Tables) :
    StatCall × Faults → Tables
  | (.setStat key value, faults) => ((Character.setStat store c key value).runFaulty faults t).2.1
  | (.applyStatDelta key delta, faults) =>
      ((Character.applyStatDelta store c key delta).runFaulty faults t).2.1
  | (.clamped deltas, faults) =>
      ((applyClampedDeltas store c deltas).transactionFaulty
        (.wrap "character" "failed to commit craft") faults t).2.1

variable {store : CharacterStore} {c : CharacterId} {key : String} {t : Tables}

/-- The character is there, and what it stores is within the bounds. -/
def CharacterInBounds (store : CharacterStore) (c : CharacterId) (t : Tables) : Prop :=
  ∃ stats, t.lookup (.character c) = some stats ∧ store.schema.StoredInBounds stats

theorem CharacterInBounds.write {stats : Stats} {value : Int} (h : CharacterInBounds store c t)
    (row : t.lookup (.character c) = some stats)
    (admitted : ∀ decl, store.schema.declaration key = .ok decl → decl.Admits value) :
    CharacterInBounds store c (t.insert (.character c) (stats.insert key (.number value))) := by
  obtain ⟨stats', row', stored⟩ := h
  cases row.symm.trans row'
  exact ⟨_, Finmap.lookup_insert t, stored.insert admitted⟩

theorem leads_setStat_inBounds {value : Int} (h : CharacterInBounds store c t) :
    (setStat store c key value).Leads (fun _ t' => CharacterInBounds store c t') t := by
  unfold setStat
  refine .bind (.ofExcept ?_)
  cases valid : store.schema.validateWrite key value with
  | error e => exact h
  | ok u =>
      refine .bind (.executeUpdate h (fun _ => h) fun stats w row set => ?_)
      cases set
      have written := h.write row fun decl found => by
        obtain ⟨decl', found', admitted⟩ := AttributeSchema.validateWrite_ok.mp valid
        cases found.symm.trans found'
        exact admitted
      exact ⟨written, written⟩

theorem leads_applyStatDelta_inBounds {delta : Int} (h : CharacterInBounds store c t) :
    (applyStatDelta store c key delta).Leads (fun _ t' => CharacterInBounds store c t') t := by
  unfold applyStatDelta getStat
  refine .bind (.bind (.fetchOne h fun stats row => .ofExcept ?_))
  cases store.schema.resolveRead stats key with
  | error e => exact h
  | ok current =>
      simp only
      cases I64.checkedAdd current delta with
      | none => exact h
      | some newValue =>
          refine .bind ((leads_setStat_inBounds h).mono fun r t' kept => ?_)
          cases r <;> exact kept

theorem leads_applyStatDeltaClampedTx_inBounds {delta : Int}
    (defaults : store.schema.DefaultsInBounds) (h : CharacterInBounds store c t) :
    (applyStatDeltaClampedTx store c key delta).Leads
      (fun _ t' => CharacterInBounds store c t') t := by
  unfold applyStatDeltaClampedTx
  refine .bind (.fetchOneForUpdate h fun stats row => ?_)
  refine .bind (.ofExcept ?_)
  cases store.schema.resolveRead stats key with
  | error e => exact h
  | ok current =>
  refine .bind (.ofExcept ?_)
  cases clamped : store.schema.clamp key (I64.saturatingAdd current delta) with
  | error e => exact h
  | ok newValue =>
  refine .bind (.executeUpdate h (fun _ => h) fun stats' w row' set => ?_)
  cases set
  have written := h.write row' fun decl found =>
    AttributeSchema.admits_clamp found (defaults key decl found) clamped
  exact ⟨written, written⟩

theorem leads_applyClampedDeltas_inBounds {deltas : List (String × Int)}
    (defaults : store.schema.DefaultsInBounds) (h : CharacterInBounds store c t) :
    (applyClampedDeltas store c deltas).Leads (fun _ t' => CharacterInBounds store c t') t := by
  induction deltas generalizing t with
  | nil => exact h
  | cons head deltas ih =>
      refine .bind ((leads_applyStatDeltaClampedTx_inBounds defaults h).mono fun r t' kept => ?_)
      cases r with
      | error e => exact kept
      | ok n => exact ih kept

/-- One call keeps what is stored within the bounds. -/
theorem CharacterInBounds.perform {call : StatCall × Faults}
    (h : CharacterInBounds store c t) (defaults : store.schema.DefaultsInBounds) :
    CharacterInBounds store c (StatCall.perform store c t call) := by
  obtain ⟨call, faults⟩ := call
  cases call with
  | setStat key value => exact Program.leads_runFaulty (leads_setStat_inBounds h) faults
  | applyStatDelta key delta =>
      exact Program.leads_runFaulty (leads_applyStatDelta_inBounds h) faults
  | clamped deltas =>
      exact Program.leads_transactionFaulty h
        ((leads_applyClampedDeltas_inBounds defaults h).mono fun _ _ kept _ _ => kept) faults

theorem CharacterInBounds.run {calls : List (StatCall × Faults)}
    (h : CharacterInBounds store c t) (defaults : store.schema.DefaultsInBounds) :
    CharacterInBounds store c (calls.foldl (StatCall.perform store c) t) := by
  induction calls generalizing t with
  | nil => exact h
  | cons call calls ih => exact ih (h.perform defaults)

/-- After every run of stat writes on a fresh character each declared stat reads as a value
that could be written, exactly when the declared defaults are within their bounds. -/
theorem reads_admitted_iff (fresh : t.lookup (.character c) = some ∅) :
    (∀ calls : List (StatCall × Faults), ∃ stats,
      (calls.foldl (StatCall.perform store c) t).lookup (.character c) = some stats ∧
        store.schema.ReadsAdmitted stats) ↔ store.schema.DefaultsInBounds := by
  constructor
  · intro reads
    obtain ⟨stats, row, admitted⟩ := reads []
    cases fresh.symm.trans row
    exact AttributeSchema.defaultsInBounds_of_readsAdmitted admitted
  · intro defaults calls
    have start : CharacterInBounds store c t := ⟨∅, fresh, AttributeSchema.storedInBounds_empty⟩
    obtain ⟨stats, row, stored⟩ : CharacterInBounds store c (calls.foldl _ t) :=
      start.run defaults
    exact ⟨stats, row, stored.readsAdmitted defaults⟩

/-! ### A default above the maximum -/

namespace Overflowing

def hp (default : Int) : AttributeSchema :=
  { schemaVersion := 1, stats := [⟨"hp", .int, default, some 0, some 100⟩] }

def storeOf (default : Int) : CharacterStore :=
  { schema := hp default, inventoryConfig := {} }

def alice : CharacterId := ⟨1⟩

def created : Tables := Finmap.singleton (.character alice) ∅

theorem created_row : created.lookup (.character alice) = some ∅ :=
  Finmap.lookup_singleton_eq

/-- The loader takes the schema, and the default that it declares is read for good: a delta
that would leave it out of bounds is rejected. -/
theorem default_above_max :
    AttributeSchema.fromYaml (fun _ => some (hp 150)) "stats.schema.yaml" = .ok (hp 150) ∧
      ∃ stats, ([(.applyStatDelta "hp" (-10), [])].foldl
          (StatCall.perform (storeOf 150) alice) created).lookup (.character alice) = some stats ∧
        (hp 150).declares "hp" = true ∧ (hp 150).resolveRead stats "hp" = .ok 150 ∧
        (hp 150).validateWrite "hp" 150 =
          .error (.new "character" "stat hp value 150 is above maximum 100") :=
  ⟨rfl, ∅, by decide⟩

theorem default_at_max :
    (∀ calls : List (StatCall × Faults), ∃ stats,
      (calls.foldl (StatCall.perform (storeOf 100) alice) created).lookup (.character alice) =
          some stats ∧
        (storeOf 100).schema.ReadsAdmitted stats) ↔ (storeOf 100).schema.DefaultsInBounds :=
  reads_admitted_iff created_row

end Overflowing

end WorldZero.Character
