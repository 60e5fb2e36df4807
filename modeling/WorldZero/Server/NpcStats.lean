import WorldZero.Character.Equipment
import WorldZero.Sql.Total

/-!
# The stats of NPCs

A delta to a stat of an NPC goes to a map in memory, one to a stat of a character to the
`stats` column of its row. Both come to `deltaOutcome`, and where they start with the same
stats a sequence of deltas has the same outcomes on both.
-/

namespace WorldZero.Server

open Sql Character

/-- The stats of every NPC that a delta has been requested for. -/
abbrev NpcStats := Finmap fun _ : EntityId => AList fun _ : String => Int

/-- The entry of the entity, or the one that it is given. -/
def NpcStats.statsOf (npcStats : NpcStats) (entity : EntityId) : AList fun _ : String => Int :=
  (npcStats.lookup entity).getD ∅

/-- The map as a JSON object, which is what the schema reads. -/
def toJson (stats : AList fun _ : String => Int) : Stats :=
  (stats.entries.map (.map id fun _ => Json.number)).toFinmap

def applyNpcStatDelta (schema : AttributeSchema) (npcStats : NpcStats) (entity : EntityId)
    (key : String) (delta : Int) : Except Error Int × NpcStats :=
  let stats := npcStats.statsOf entity
  let allStats := npcStats.insert entity stats
  match schema.resolveRead (toJson stats) key with
  | .error e => (.error e, allStats)
  | .ok current =>
  match I64.checkedAdd current delta with
  | none => (.error (.new "server" s!"stat delta overflowed for {debugStr key}"), allStats)
  | some newValue =>
  match schema.validateWrite key newValue with
  | .error e => (.error e, allStats)
  | .ok () => (.ok newValue, allStats.insert entity (stats.insert key newValue))

/-! ### What a delta comes to -/

/-- The value that the stat is set to, or why it stays. -/
def deltaOutcome (schema : AttributeSchema) (overflow : Error) (stats : Stats) (key : String)
    (delta : Int) : Except Error Int := do
  let current ← schema.resolveRead stats key
  let newValue ← (I64.checkedAdd current delta).elim (.error overflow) .ok
  schema.validateWrite key newValue
  .ok newValue

variable {schema : AttributeSchema} {npcStats : NpcStats} {entity : EntityId} {key : String}
  {delta : Int} {store : CharacterStore} {c : CharacterId} {t : Tables} {stats : Stats}

theorem lookup_toJson (stats : AList fun _ : String => Int) (key : String) :
    (toJson stats).lookup key = (stats.lookup key).map .number := by
  rw [toJson, Finmap.dlookup_list_toFinmap]
  exact List.dlookup_map₂ key

theorem toJson_insert (stats : AList fun _ : String => Int) (key : String) (value : Int) :
    toJson (stats.insert key value) = (toJson stats).insert key (.number value) := by
  refine Finmap.ext_lookup fun other => ?_
  by_cases same : other = key
  · subst same
    rw [lookup_toJson, AList.lookup_insert, Finmap.lookup_insert, Option.map_some]
  · rw [lookup_toJson, AList.lookup_insert_ne same, Finmap.lookup_insert_of_ne _ same,
      lookup_toJson]

@[simp] theorem NpcStats.statsOf_insert (stats : AList fun _ : String => Int) :
    NpcStats.statsOf (npcStats.insert entity stats) entity = stats := by
  rw [NpcStats.statsOf, Finmap.lookup_insert, Option.getD_some]

theorem NpcStats.statsOf_insert_of_ne (stats : AList fun _ : String => Int) {other : EntityId}
    (apart : other ≠ entity) :
    NpcStats.statsOf (npcStats.insert entity stats) other = npcStats.statsOf other := by
  rw [NpcStats.statsOf, Finmap.lookup_insert_of_ne _ apart, NpcStats.statsOf]

/-- An overflow, as either side reports it. -/
def overflowOf (sourceCrate key : String) : Error :=
  .new sourceCrate s!"stat delta overflowed for {debugStr key}"

theorem applyNpcStatDelta_eq :
    applyNpcStatDelta schema npcStats entity key delta =
      match deltaOutcome schema (overflowOf "server" key) (toJson (npcStats.statsOf entity)) key
        delta with
      | .error e => (.error e, npcStats.insert entity (npcStats.statsOf entity))
      | .ok newValue => (.ok newValue, (npcStats.insert entity (npcStats.statsOf entity)).insert
          entity ((npcStats.statsOf entity).insert key newValue)) := by
  simp only [applyNpcStatDelta, deltaOutcome, bind, Except.bind]
  cases schema.resolveRead (toJson (npcStats.statsOf entity)) key with
  | error e => rfl
  | ok current =>
  dsimp only
  cases I64.checkedAdd current delta with
  | none => rfl
  | some newValue =>
  dsimp only [Option.elim_some]
  cases schema.validateWrite key newValue with
  | error e => rfl
  | ok u => rfl

theorem run_getStat (row : t.lookup (.character c) = some stats) :
    (getStat store c key).run t = (store.schema.resolveRead stats key, t) := by
  rw [getStat, Program.bind_def, Program.run_bind, Program.fetchOne, Program.run_statement]
  simp only [Stmt.exec, row, Option.elim_some, applyAll_nil, Program.run_pure]
  cases store.schema.resolveRead stats key <;> rfl

theorem run_setStat {value : Int} (row : t.lookup (.character c) = some stats) :
    (setStat store c key value).run t =
      match store.schema.validateWrite key value with
      | .error e => (.error e, t)
      | .ok () => (.ok (), t.insert (.character c) (stats.insert key (.number value))) := by
  rw [setStat, Program.bind_def, Program.run_bind]
  cases store.schema.validateWrite key value with
  | error e => rfl
  | ok u =>
      simp only [Program.ofExcept, Program.run_pure, Program.bind_def, Program.run_bind]
      obtain ⟨_, _, update, rfl⟩ : (Program.executeUpdate (RowKey.character c)
          (fun stats : Stats => some (stats.insert key (.number value)))
          (Error.wrap "character" "failed to write stat")).Returns t fun _ t' =>
            t' = t.insert (RowKey.character c) (stats.insert key (.number value)) :=
        .executeUpdate row rfl rfl
      rw [update]
      rfl

theorem run_applyStatDelta (row : t.lookup (.character c) = some stats) :
    (applyStatDelta store c key delta).run t =
      match deltaOutcome store.schema (overflowOf "character" key) stats key delta with
      | .error e => (.error e, t)
      | .ok newValue =>
          (.ok newValue, t.insert (.character c) (stats.insert key (.number newValue))) := by
  rw [applyStatDelta, Program.bind_def, Program.run_bind, run_getStat row]
  simp only [deltaOutcome, bind, Except.bind]
  cases store.schema.resolveRead stats key with
  | error e => rfl
  | ok current =>
  dsimp only
  cases I64.checkedAdd current delta with
  | none => rfl
  | some newValue =>
  dsimp only [Option.elim_some]
  rw [Program.run_bind, run_setStat row]
  cases store.schema.validateWrite key newValue with
  | error e => rfl
  | ok u => rfl

/-- A character without a row has no stat to move. -/
theorem run_applyStatDelta_absent (row : t.lookup (.character c) = none) :
    (applyStatDelta store c key delta).run t =
      (.error (.wrap "character" "failed to read character stats"), t) := by
  rw [applyStatDelta, Program.bind_def, Program.run_bind, getStat, Program.bind_def,
    Program.run_bind, Program.fetchOne, Program.run_statement]
  simp only [Stmt.exec, row, Option.elim_none, applyAll_nil, Program.run_throw]

/-! ### Sequences of deltas -/

/-- The results of one delta after the other, and what they leave. -/
def outcomes {σ : Type} (apply : σ → String → Int → Except Error Int × σ) :
    σ → List (String × Int) → List (Except Error Int) × σ
  | s, [] => ([], s)
  | s, (key, delta) :: deltas =>
      let (result, s') := apply s key delta
      let (results, final) := outcomes apply s' deltas
      (result :: results, final)

/-- The same value, or rejected with the same message. -/
def Agree : Except Error Int → Except Error Int → Prop
  | .ok value, .ok value' => value = value'
  | .error e, .error e' => e.message = e'.message
  | _, _ => False

/-- The character has stored what the entity has. -/
def SameStats (npcStats : NpcStats) (entity : EntityId) (t : Tables) (c : CharacterId) : Prop :=
  t.lookup (.character c) = some (toJson (npcStats.statsOf entity))

theorem Agree.refl (result : Except Error Int) : Agree result result := by
  cases result <;> exact rfl

/-- An overflow is reported by another crate, in the same words. -/
theorem agree_deltaOutcome (schema : AttributeSchema) (stats : Stats) (key : String) (delta : Int)
    (here there : String) :
    Agree (deltaOutcome schema (overflowOf here key) stats key delta)
      (deltaOutcome schema (overflowOf there key) stats key delta) := by
  simp only [deltaOutcome, bind, Except.bind]
  cases schema.resolveRead stats key with
  | error e => exact .refl _
  | ok current =>
  dsimp only
  cases I64.checkedAdd current delta with
  | none => exact rfl
  | some newValue => exact .refl _

theorem SameStats.apply (same : SameStats npcStats entity t c) :
    Agree (applyNpcStatDelta store.schema npcStats entity key delta).1
        ((applyStatDelta store c key delta).run t).1 ∧
      SameStats (applyNpcStatDelta store.schema npcStats entity key delta).2 entity
        ((applyStatDelta store c key delta).run t).2 c := by
  have agree := agree_deltaOutcome store.schema (toJson (npcStats.statsOf entity)) key delta
    "server" "character"
  rw [applyNpcStatDelta_eq, run_applyStatDelta same]
  cases npc : deltaOutcome store.schema (overflowOf "server" key)
      (toJson (npcStats.statsOf entity)) key delta with
  | error e =>
      cases character : deltaOutcome store.schema (overflowOf "character" key)
          (toJson (npcStats.statsOf entity)) key delta with
      | error e' =>
          rw [npc, character] at agree
          exact ⟨agree, by rw [SameStats, NpcStats.statsOf_insert]; exact same⟩
      | ok value =>
          rw [npc, character] at agree
          exact agree.elim
  | ok value =>
      cases character : deltaOutcome store.schema (overflowOf "character" key)
          (toJson (npcStats.statsOf entity)) key delta with
      | error e =>
          rw [npc, character] at agree
          exact agree.elim
      | ok value' =>
          rw [npc, character] at agree
          obtain rfl : value = value' := agree
          refine ⟨rfl, ?_⟩
          rw [SameStats, NpcStats.statsOf_insert, toJson_insert]
          exact Finmap.lookup_insert t

theorem statsOf_of_rejected {e : Error}
    (rejected : (applyNpcStatDelta schema npcStats entity key delta).1 = .error e)
    (other : EntityId) :
    (applyNpcStatDelta schema npcStats entity key delta).2.statsOf other =
      npcStats.statsOf other := by
  rw [applyNpcStatDelta_eq] at rejected ⊢
  split at rejected
  · by_cases same : other = entity
    · subst same
      exact NpcStats.statsOf_insert _
    · exact NpcStats.statsOf_insert_of_ne _ same
  · cases rejected

theorem tables_of_rejected {e : Error}
    (rejected : ((applyStatDelta store c key delta).run t).1 = .error e) :
    ((applyStatDelta store c key delta).run t).2 = t := by
  cases row : t.lookup (.character c) with
  | none => rw [run_applyStatDelta_absent row]
  | some stats =>
      rw [run_applyStatDelta row] at rejected ⊢
      split at rejected
      · rfl
      · cases rejected

/-- On an NPC and on a character with the same stats every sequence of deltas has the same
results and leaves the same stats, and what is rejected leaves all stats as they are. -/
theorem npc_agrees_with_character (store : CharacterStore) (c : CharacterId) (entity : EntityId)
    (npcStats : NpcStats) (t : Tables) (same : SameStats npcStats entity t c)
    (deltas : List (String × Int)) :
    let onNpc := fun npcStats => applyNpcStatDelta store.schema npcStats entity
    let onCharacter := fun t key delta => (applyStatDelta store c key delta).run t
    (List.Forall₂ Agree (outcomes onNpc npcStats deltas).1 (outcomes onCharacter t deltas).1 ∧
      SameStats (outcomes onNpc npcStats deltas).2 entity (outcomes onCharacter t deltas).2 c) ∧
    (∀ npcStats key delta e, (onNpc npcStats key delta).1 = .error e →
      ∀ other, (onNpc npcStats key delta).2.statsOf other = npcStats.statsOf other) ∧
    ∀ t key delta e, (onCharacter t key delta).1 = .error e → (onCharacter t key delta).2 = t := by
  intro onNpc onCharacter
  refine ⟨?_, fun _ _ _ _ => statsOf_of_rejected, fun _ _ _ _ => tables_of_rejected⟩
  induction deltas generalizing npcStats t with
  | nil => exact ⟨.nil, same⟩
  | cons head deltas ih =>
      obtain ⟨key, delta⟩ := head
      obtain ⟨agree, after⟩ : Agree (onNpc npcStats key delta).1 (onCharacter t key delta).1 ∧ _ :=
        same.apply
      obtain ⟨rest, final⟩ := ih _ _ after
      exact ⟨.cons agree rest, final⟩

namespace Boar

def hp : CharacterStore where
  schema := { schemaVersion := 1, stats := [⟨"hp", .int, 100, some 0, some I64.max⟩] }
  inventoryConfig := {}

def boar : EntityId := ⟨3⟩

def hunter : CharacterId := ⟨4⟩

/-- A wound, a blow that would kill twice, a stat that nobody has, and an overflow. -/
def blows : List (String × Int) := [("hp", -30), ("hp", -150), ("mana", 5), ("hp", I64.max)]

theorem npc_agrees_with_character_blows :
    let t : Tables := Finmap.singleton (.character hunter) ∅
    (outcomes (fun npcStats => applyNpcStatDelta hp.schema npcStats boar) ∅ blows).1 =
        [.ok 70, .error (.new "character" "stat hp value -80 is below minimum 0"),
          .error (.new "character" "unknown stat key: mana"),
          .error (.new "server" "stat delta overflowed for \"hp\"")] ∧
      List.Forall₂ Agree
        (outcomes (fun npcStats => applyNpcStatDelta hp.schema npcStats boar) ∅ blows).1
        (outcomes (fun t key delta => (applyStatDelta hp hunter key delta).run t) t blows).1 :=
  ⟨by decide,
    (npc_agrees_with_character hp hunter boar ∅ _ Finmap.lookup_singleton_eq blows).1.1⟩

end Boar

end WorldZero.Server
