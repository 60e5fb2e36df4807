import Mathlib.Data.Fintype.Basic
import WorldZero.Server.PluginState

/-!
# The plugin-scoped data store as a map

In the cache, a scope, an id and a key are one string, and two of them can be the same
string. As long as no two addresses in use are, the cache is a map of addresses; and if the
writes to each zone are persisted in the order in which they were made, the tables hold what
the cache does.
-/

namespace WorldZero.Server.PluginState

open World (PluginStateScope)

/-! ### Addresses -/

theorem startsWith_append (front rest : String) : startsWith (front ++ rest) front = true := by
  simp [startsWith]

theorem purges_of_belongsTo {e : EntityId} {a : Address} (own : a.belongsTo e = true) :
    purges e a.packed = true := by
  obtain ⟨scope, key⟩ := a
  simp only [Address.belongsTo, Bool.or_eq_true, decide_eq_true_eq] at own
  simp only [purges, Bool.or_eq_true, Address.packed]
  rcases own with rfl | rfl
  · exact .inl (startsWith_append _ _)
  · exact .inr (startsWith_append _ _)

variable {ι : Type}

namespace State

variable (s : State ι) (a : Address)

def Stored : Prop := (s.expected a).isSome

instance : Decidable (s.Stored a) := inferInstanceAs (Decidable (_ = true))

/-- No other stored address is the same string in the cache. -/
def Alone : Prop := ∀ b, s.Stored b → b.packed = a.packed → b = a

/-- The rows are put in place of no set value but their own, under strings of their own. -/
def Welcomes (scope : PluginStateScope) (rows : Bucket ι) : Prop :=
  ∀ row ∈ rows.entries, s.Alone ⟨scope, row.1⟩ ∧
    ∀ value ∈ s.sets ⟨scope, row.1⟩, value = row.2.value

end State

/-- No two addresses that are in use together are one string in the cache, and a session's
cleanup takes out only what belongs to its entity; rows do not replace what has been set; and
a write for a zone is for one that the process runs, does not fail, and is not persisted
after a later one. -/
def Unmixed (hosted : List String) (s : State ι) : Label ι → Prop
  | .set _ a _ => s.Alone a ∧ ∀ zoneId, a.scope = .zone zoneId → zoneId ∈ hosted
  | .get _ a => s.Alone a
  | .persist plugin fails =>
      ∀ w ∈ (s.pendingStateWrites plugin).head?, ∀ zoneId, w.address.scope = .zone zoneId →
        fails = false ∧ s.persisted w.address ≤ w.number
  | .hydrate e => ∀ rows ∈ s.reading e, s.Welcomes (.character (toString e)) rows
  | .loadZone zoneId => s.Welcomes (.zone zoneId) (s.zoneState zoneId)
  | .purge e => ∀ a, s.Stored a → purges e a.packed = true → a.belongsTo e = true
  | _ => True

/-! ### The cache -/

/-- The cache holds what the addresses in use are to yield, each under its own string. -/
structure Mirrored (s : State ι) : Prop where
  value : ∀ a, s.Stored a → s.get a = s.expected a
  address : ∀ packed cell, s.cache packed = some cell → ∃ a, s.Stored a ∧ a.packed = packed
  alone : ∀ a, s.Stored a → s.Alone a

variable {s t : State ι} {a b : Address} {hosted : List String}
  {parseEntityId : String → Option EntityId}

theorem Mirrored.get_eq (inv : Mirrored s) (alone : s.Alone a) : s.get a = s.expected a := by
  by_cases stored : s.Stored a
  · exact inv.value a stored
  · have unset : s.expected a = none := by simpa [State.Stored] using stored
    rw [unset]
    unfold State.get
    cases here : s.cache a.packed with
    | none => rfl
    | some cell =>
        obtain ⟨b, stored_b, same⟩ := inv.address _ _ here
        exact absurd (alone b stored_b same ▸ stored_b) stored

/-- One address is written, the others stay. -/
theorem Mirrored.write (inv : Mirrored s) (alone : s.Alone a) (cell : Cell ι)
    (cache : t.cache = Function.update s.cache a.packed (some cell))
    (written : t.expected a = some cell.value)
    (others : ∀ b, b ≠ a → t.expected b = s.expected b) : Mirrored t := by
  have stored : ∀ b, t.Stored b ↔ b = a ∨ s.Stored b := by
    intro b
    by_cases itself : b = a
    · simp [State.Stored, itself, written]
    · simp [State.Stored, itself, others b itself]
  have apart : ∀ b, s.Stored b → b ≠ a → b.packed ≠ a.packed :=
    fun b stored_b other same => other (alone b stored_b same)
  refine ⟨fun b stored_b => ?_, fun packed cell' here => ?_, fun b stored_b c stored_c same => ?_⟩
  · by_cases itself : b = a
    · rw [itself, written]
      simp [State.get, cache]
    · have before : s.Stored b := ((stored b).mp stored_b).resolve_left itself
      rw [others b itself, ← inv.value b before]
      simp [State.get, cache, Function.update_of_ne (apart b before itself)]
  · rw [cache] at here
    by_cases own : packed = a.packed
    · exact ⟨a, (stored a).mpr (.inl rfl), own.symm⟩
    · rw [Function.update_of_ne own] at here
      obtain ⟨b, stored_b, same⟩ := inv.address _ _ here
      exact ⟨b, (stored b).mpr (.inr stored_b), same⟩
  · rcases (stored b).mp stored_b with rfl | before_b
    · rcases (stored c).mp stored_c with rfl | before_c
      · rfl
      · exact alone c before_c same
    · rcases (stored c).mp stored_c with rfl | before_c
      · exact (alone b before_b same.symm).symm
      · exact inv.alone b before_b c before_c same

/-- A step that touches neither the cache nor what it is to hold. -/
theorem Mirrored.of_eq (inv : Mirrored s) (cache : t.cache = s.cache)
    (expected : t.expected = s.expected) : Mirrored t := by
  have stored : t.Stored = s.Stored := by
    unfold State.Stored
    rw [expected]
  refine ⟨fun a stored_a => ?_, fun packed cell here => ?_, fun a stored_a b stored_b => ?_⟩
  · rw [stored] at stored_a
    rw [expected, ← inv.value a stored_a, State.get, State.get, cache]
  · rw [cache] at here
    rw [stored]
    exact inv.address packed cell here
  · rw [stored] at stored_a stored_b
    exact inv.alone a stored_a b stored_b

theorem Mirrored.set [DecidableEq ι] (inv : Mirrored s) (alone : s.Alone a) (plugin : ι)
    (value : Value) : Mirrored (s.set plugin a value) :=
  inv.write alone ⟨value, plugin⟩ rfl (by simp [State.expected, State.set])
    fun b other => by simp [State.expected, State.set, other]

theorem Mirrored.cacheRow (inv : Mirrored s) {cell : Cell ι} (alone : s.Alone a)
    (fitting : ∀ value ∈ s.sets a, value = cell.value) : Mirrored (s.cacheRow a cell) := by
  refine inv.write alone cell rfl ?_ fun b other => ?_
  · cases own : s.sets a with
    | none => simp [State.expected, State.cacheRow, own]
    | some value => simp [State.expected, State.cacheRow, own, fitting value own]
  · simp [State.expected, State.cacheRow, other]

theorem Mirrored.cacheRows (inv : Mirrored s) {scope : PluginStateScope} {rows : Bucket ι}
    (welcome : s.Welcomes scope rows) : Mirrored (s.cacheRows scope rows) := by
  unfold State.Welcomes at welcome
  unfold State.cacheRows
  generalize rows.entries = entries at welcome ⊢
  induction entries generalizing s with
  | nil => exact inv
  | cons row entries ih =>
      obtain ⟨alone, fitting⟩ := welcome row (.head _)
      refine ih (inv.cacheRow alone fitting) fun row' later => ?_
      obtain ⟨alone', fitting'⟩ := welcome row' (.tail _ later)
      refine ⟨fun b stored same => ?_, fitting'⟩
      by_cases itself : b = ⟨scope, row.1⟩
      · subst itself
        exact congrArg (Address.mk scope) (cacheKey_inj.mp same)
      · refine alone' b ?_ same
        simpa [State.Stored, State.expected, State.cacheRow, itself] using stored

/-- What does not belong to the entity outlasts its session. -/
theorem State.sets_purge {e : EntityId} (other : a.belongsTo e = false) :
    (s.purge e).sets a = s.sets a := filter_kept (by rw [other]; rfl)

theorem State.hydrated_purge {e : EntityId} (other : a.belongsTo e = false) :
    (s.purge e).hydrated a = s.hydrated a := filter_kept (by rw [other]; rfl)

theorem State.stored_purge {e : EntityId} :
    (s.purge e).Stored a ↔ a.belongsTo e = false ∧ s.Stored a := by
  cases own : a.belongsTo e with
  | true => simp [State.Stored, State.expected, State.purge, own]
  | false => simp [State.Stored, State.expected, State.sets_purge own, State.hydrated_purge own]

/-- A cleanup takes out what belongs to its entity, from the cache as from what it is to hold. -/
theorem Mirrored.purge (inv : Mirrored s) {e : EntityId}
    (own : ∀ a, s.Stored a → purges e a.packed = true → a.belongsTo e = true) :
    Mirrored (s.purge e) := by
  have purged : ∀ a, s.Stored a → purges e a.packed = a.belongsTo e := by
    intro a stored_a
    rw [Bool.eq_iff_iff]
    exact ⟨own a stored_a, purges_of_belongsTo⟩
  refine ⟨fun a stored_a => ?_, fun packed cell here => ?_, fun a stored_a b stored_b => ?_⟩
  · obtain ⟨other, before⟩ := State.stored_purge.mp stored_a
    have kept : (s.purge e).cache a.packed = s.cache a.packed :=
      filter_kept (by rw [purged a before, other]; rfl)
    rw [State.expected, State.sets_purge other, State.hydrated_purge other, State.get, kept]
    exact inv.value a before
  · obtain ⟨before, kept⟩ := Option.filter_eq_some_iff.mp here
    obtain ⟨a, stored_a, rfl⟩ := inv.address _ _ before
    refine ⟨a, State.stored_purge.mpr ⟨?_, stored_a⟩, rfl⟩
    rw [← purged a stored_a]
    simpa using kept
  · exact inv.alone a (State.stored_purge.mp stored_a).2 b (State.stored_purge.mp stored_b).2

theorem Mirrored.step [DecidableEq ι] (inv : Mirrored s) {l : Label ι} (legal : Unmixed hosted s l)
    (taken : step parseEntityId hosted s l = some t) : Mirrored t := by
  cases l with
  | set plugin a value =>
      cases taken
      exact inv.set legal.1 plugin value
  | get plugin a =>
      cases taken
      exact inv
  | persist plugin fails =>
      obtain ⟨w, rest, -, rfl⟩ := State.persist_eq taken
      obtain ⟨characterState, zoneState, persisted, applied⟩ := State.apply_eq { s with
        pendingStateWrites := Function.update s.pendingStateWrites plugin rest }
        parseEntityId plugin w fails
      rw [applied]
      exact inv.of_eq rfl rfl
  | register e characterId | read e characterId | unregister e =>
      cases taken
      exact inv.of_eq rfl rfl
  | hydrate e =>
      obtain ⟨rows, reading, rfl⟩ := Option.map_eq_some_iff.mp taken
      exact (inv.cacheRows (legal rows reading)).of_eq rfl rfl
  | purge e =>
      rw [← Option.some.inj taken]
      exact inv.purge legal
  | loadZone zoneId =>
      simp only [PluginState.step, Option.ite_none_right_eq_some, Option.some.injEq] at taken
      obtain ⟨-, rfl⟩ := taken
      have welcome : s.Welcomes (.zone zoneId) (s.zoneState zoneId) := legal
      exact (inv.cacheRows welcome).of_eq rfl rfl

/-! ### The tables -/

/-- What `plugin_zone_state` has for an address of a zone. -/
def State.row (s : State ι) (zoneId key : String) : Option Value :=
  ((s.zoneState zoneId).lookup key).map Cell.value

section Apply

variable {zoneId key : String} {w : Write}

theorem State.apply_own (named : w.address = ⟨.zone zoneId, key⟩) (s : State ι)
    (parseEntityId : String → Option EntityId) (plugin : ι) :
    (s.apply parseEntityId plugin w false).row zoneId key = some w.value ∧
      (s.apply parseEntityId plugin w false).persisted ⟨.zone zoneId, key⟩ = w.number := by
  simp [State.apply, State.row, State.setZoneState, named]

theorem State.apply_other (other : w.address ≠ ⟨.zone zoneId, key⟩) (s : State ι)
    (parseEntityId : String → Option EntityId) (plugin : ι) (fails : Bool) :
    (s.apply parseEntityId plugin w fails).row zoneId key = s.row zoneId key ∧
      (s.apply parseEntityId plugin w fails).persisted ⟨.zone zoneId, key⟩ =
        s.persisted ⟨.zone zoneId, key⟩ := by
  obtain ⟨⟨scope, key'⟩, value, number⟩ := w
  cases scope with
  | character entityId =>
      simp only [State.apply]
      split
      · split <;> exact ⟨rfl, rfl⟩
      · exact ⟨rfl, rfl⟩
  | entity entityId => exact ⟨rfl, rfl⟩
  | zone zoneId' =>
      simp only [State.apply]
      split
      · exact ⟨rfl, rfl⟩
      · refine ⟨?_, Function.update_of_ne other.symm _ _⟩
        by_cases same : zoneId = zoneId'
        · subst same
          have key_ne : key ≠ key' := fun same => other (by rw [same])
          simp [State.row, State.setZoneState, AList.lookup_insert_ne key_ne]
        · simp [State.row, State.setZoneState, same]

end Apply

/-- The latest value set for an address of a zone is in the table, or its write is still
queued; nothing queued is newer; and without a set the cache has what the table has. -/
structure Backed (s : State ι) (zoneId key : String) : Prop where
  unset : s.sets ⟨.zone zoneId, key⟩ = none → zoneId ∈ s.loadedZones →
    s.hydrated ⟨.zone zoneId, key⟩ = s.row zoneId key
  unloaded : zoneId ∉ s.loadedZones → s.hydrated ⟨.zone zoneId, key⟩ = none
  bound : s.persisted ⟨.zone zoneId, key⟩ ≤ s.setCount ⟨.zone zoneId, key⟩
  queued : ∀ plugin, ∀ w ∈ s.pendingStateWrites plugin, w.address = ⟨.zone zoneId, key⟩ →
    (s.sets w.address).isSome ∧ w.number ≤ s.setCount w.address ∧
      (w.number = s.setCount w.address → s.sets w.address = some w.value)
  waiting : (s.sets ⟨.zone zoneId, key⟩).isSome →
    s.persisted ⟨.zone zoneId, key⟩ < s.setCount ⟨.zone zoneId, key⟩ →
      ∃ plugin, ∃ w ∈ s.pendingStateWrites plugin, w.address = ⟨.zone zoneId, key⟩ ∧
        w.number = s.setCount ⟨.zone zoneId, key⟩
  settled : (s.sets ⟨.zone zoneId, key⟩).isSome →
    s.persisted ⟨.zone zoneId, key⟩ = s.setCount ⟨.zone zoneId, key⟩ →
      s.row zoneId key = s.sets ⟨.zone zoneId, key⟩

namespace Backed

variable [DecidableEq ι] {zoneId key : String}

theorem set (inv : Backed s zoneId key) (plugin : ι) (a : Address) (value : Value) :
    Backed (s.set plugin a value) zoneId key := by
  have bound := inv.bound
  by_cases itself : a = ⟨.zone zoneId, key⟩
  · subst itself
    refine ⟨by simp [State.set], inv.unloaded, ?_, fun plugin' w queued named => ?_,
      fun _ _ => ?_, ?_⟩
    · simp only [State.set, Function.update_self]
      omega
    · rcases State.mem_pending_set.mp queued with before | ⟨-, -, rfl⟩
      · have old := (inv.queued plugin' w before named).2.1
        rw [named] at old ⊢
        simp only [State.set, Function.update_self]
        exact ⟨rfl, by omega, by omega⟩
      · simp [State.set]
    · have zoned : ∀ id, (PluginStateScope.zone zoneId) ≠ .entity id := by
        intro id same
        cases same
      exact ⟨plugin, _, State.mem_pending_set.mpr (.inr ⟨rfl, zoned, rfl⟩), rfl,
        by simp [State.set]⟩
    · simp only [State.set, Function.update_self]
      omega
  · have other : ⟨.zone zoneId, key⟩ ≠ a := Ne.symm itself
    refine ⟨?_, inv.unloaded, ?_, fun plugin' w queued named => ?_, fun isSet behind => ?_, ?_⟩
    · simpa [State.set, other, State.row] using inv.unset
    · simpa [State.set, other] using bound
    · rcases State.mem_pending_set.mp queued with before | ⟨-, -, rfl⟩
      · have old := inv.queued plugin' w before named
        rw [named] at old ⊢
        simpa [State.set, other] using old
      · exact absurd named itself
    · obtain ⟨plugin', w, queued, named⟩ :=
        inv.waiting (by simpa [State.set, other] using isSet)
          (by simpa [State.set, other] using behind)
      exact ⟨plugin', w, State.mem_pending_set.mpr (.inl queued),
        by simpa [State.set, other] using named⟩
    · simpa [State.set, other, State.row] using inv.settled

/-- A write for the address is persisted, or any other. -/
theorem persist (inv : Backed s zoneId key) {plugin : ι} {fails : Bool}
    (legal : Unmixed hosted s (.persist plugin fails))
    (taken : s.persist parseEntityId plugin fails = some t) : Backed t zoneId key := by
  obtain ⟨w, rest, queue, rfl⟩ := State.persist_eq taken
  have legal : ∀ zoneId, w.address.scope = .zone zoneId →
      fails = false ∧ s.persisted w.address ≤ w.number :=
    legal w (by rw [queue]; rfl)
  have fewer : ∀ plugin', ∀ w' ∈ Function.update s.pendingStateWrites plugin rest plugin',
      w' ∈ s.pendingStateWrites plugin' := by
    intro plugin' w' queued
    by_cases own : plugin' = plugin
    · subst own
      rw [Function.update_self] at queued
      rw [queue]
      exact .tail _ queued
    · rwa [Function.update_of_ne own] at queued
  have kept : ∀ plugin', ∀ w' ∈ s.pendingStateWrites plugin', w' ≠ w →
      w' ∈ Function.update s.pendingStateWrites plugin rest plugin' := by
    intro plugin' w' queued other
    by_cases own : plugin' = plugin
    · subst own
      rw [queue] at queued
      rw [Function.update_self]
      exact (List.mem_cons.mp queued).resolve_left other
    · rwa [Function.update_of_ne own]
  obtain ⟨characterState, zoneState, persisted, applied⟩ := State.apply_eq { s with
    pendingStateWrites := Function.update s.pendingStateWrites plugin rest }
    parseEntityId plugin w fails
  by_cases itself : w.address = ⟨.zone zoneId, key⟩
  · obtain ⟨rfl, later⟩ := legal zoneId (congrArg Address.scope itself)
    obtain ⟨row, number⟩ := State.apply_own itself { s with
      pendingStateWrites := Function.update s.pendingStateWrites plugin rest } parseEntityId plugin
    obtain ⟨isSet, old, newest⟩ := inv.queued plugin w (by rw [queue]; exact .head _) itself
    rw [itself] at later isSet old newest
    rw [applied] at row number ⊢
    refine ⟨fun unset => ?_, inv.unloaded, Nat.le_trans (Nat.le_of_eq number) old, fun plugin' w' queued => ?_,
      fun _ behind => ?_, fun _ level => row.trans ?_⟩
    · change s.sets _ = none at unset
      rw [unset] at isSet
      cases isSet
    · exact inv.queued plugin' w' (fewer plugin' w' queued)
    · have behind : w.number < s.setCount ⟨.zone zoneId, key⟩ := number ▸ behind
      obtain ⟨plugin', w', queued, named, last⟩ := inv.waiting isSet (Nat.lt_of_le_of_lt later behind)
      refine ⟨plugin', w', kept plugin' w' queued ?_, named, last⟩
      rintro rfl
      exact Nat.ne_of_lt behind last
    · exact (newest (number.symm.trans level)).symm
  · obtain ⟨row, number⟩ := State.apply_other itself { s with
      pendingStateWrites := Function.update s.pendingStateWrites plugin rest } parseEntityId plugin
      fails
    rw [applied] at row number ⊢
    refine ⟨fun unset loaded => (inv.unset unset loaded).trans row.symm, inv.unloaded,
      Nat.le_trans (Nat.le_of_eq number) inv.bound, fun plugin' w' queued => ?_, fun isSet behind => ?_,
      fun isSet level => ?_⟩
    · exact inv.queued plugin' w' (fewer plugin' w' queued)
    · obtain ⟨plugin', w', queued, named, last⟩ := inv.waiting isSet (number ▸ behind)
      refine ⟨plugin', w', kept plugin' w' queued ?_, named, last⟩
      rintro rfl
      exact itself named
    · exact row.trans (inv.settled isSet (number.symm.trans level))

omit [DecidableEq ι] in
/-- Rows of a character are put into the cache. -/
theorem cacheCharacter (inv : Backed s zoneId key) (entityId : String) (rows : Bucket ι) :
    Backed (s.cacheRows (.character entityId) rows) zoneId key := by
  have kept : (s.cacheRows (.character entityId) rows).hydrated ⟨.zone zoneId, key⟩ =
      s.hydrated ⟨.zone zoneId, key⟩ := by
    rw [State.hydrated_cacheRows]
    exact if_neg nofun
  obtain ⟨cache, hydrated, cached⟩ := s.cacheRows_eq (.character entityId) rows
  rw [cached] at kept ⊢
  exact { inv with
    unset := fun unset loaded => kept.trans (inv.unset unset loaded)
    unloaded := fun unloaded => kept.trans (inv.unloaded unloaded) }

omit [DecidableEq ι] in
/-- The rows of a zone are put into the cache. -/
theorem loadZone (inv : Backed s zoneId key) {zoneId' : String}
    (unloaded : zoneId' ∉ s.loadedZones) :
    Backed (s.loadZone zoneId') zoneId key := by
  have cached_row : (s.loadZone zoneId').hydrated ⟨.zone zoneId, key⟩ =
      if zoneId = zoneId' then s.row zoneId key else s.hydrated ⟨.zone zoneId, key⟩ := by
    refine State.hydrated_cacheRows.trans ?_
    by_cases same : zoneId = zoneId'
    · subst same
      simp [State.row, inv.unloaded unloaded]
    · simp [same]
  obtain ⟨cache, hydrated, cached⟩ := s.cacheRows_eq (.zone zoneId') (s.zoneState zoneId')
  unfold State.loadZone at cached_row ⊢
  rw [cached] at cached_row ⊢
  refine { inv with
    unset := fun unset loaded => cached_row.trans ?_
    unloaded := fun other => cached_row.trans ?_ }
  · split
    · rfl
    next different => exact inv.unset unset ((List.mem_cons.mp loaded).resolve_left different)
  · obtain ⟨different, before⟩ := not_or.mp (mt List.mem_cons.mpr other)
    rw [if_neg different]
    exact inv.unloaded before

omit [DecidableEq ι] in
/-- Nothing of a zone belongs to an entity. -/
theorem purge (inv : Backed s zoneId key) (e : EntityId) : Backed (s.purge e) zoneId key := by
  have other : (⟨.zone zoneId, key⟩ : Address).belongsTo e = false := by simp [Address.belongsTo]
  have sets := State.sets_purge (s := s) other
  have hydrated := State.hydrated_purge (s := s) other
  refine ⟨fun unset loaded => ?_, fun unloaded => ?_, inv.bound, fun plugin w queued named => ?_,
    fun isSet => inv.waiting (sets ▸ isSet), fun isSet level => ?_⟩
  · exact hydrated.trans (inv.unset (sets ▸ unset) loaded)
  · exact hydrated.trans (inv.unloaded unloaded)
  · have before := inv.queued plugin w queued named
    rw [named] at before ⊢
    rw [sets]
    exact before
  · exact (inv.settled (sets ▸ isSet) level).trans sets.symm

theorem step (inv : Backed s zoneId key) {l : Label ι} (legal : Unmixed hosted s l)
    (taken : step parseEntityId hosted s l = some t) : Backed t zoneId key := by
  cases l with
  | set plugin a value =>
      cases taken
      exact inv.set plugin a value
  | get plugin a =>
      cases taken
      exact inv
  | persist plugin fails => exact inv.persist legal taken
  | register e characterId | read e characterId | unregister e =>
      cases taken
      exact { inv with }
  | hydrate e =>
      obtain ⟨rows, -, rfl⟩ := Option.map_eq_some_iff.mp taken
      exact { inv.cacheCharacter (toString e) rows with }
  | purge e =>
      rw [← Option.some.inj taken]
      exact inv.purge e
  | loadZone zoneId' =>
      simp only [PluginState.step, Option.ite_none_right_eq_some, Option.some.injEq] at taken
      obtain ⟨⟨-, unloaded⟩, rfl⟩ := taken
      exact inv.loadZone unloaded

end Backed

/-- Only zones that the process runs have been set or loaded. -/
structure Served (hosted : List String) (s : State ι) : Prop where
  sets : ∀ zoneId key, (s.sets ⟨.zone zoneId, key⟩).isSome → zoneId ∈ hosted
  loaded : ∀ zoneId ∈ s.loadedZones, zoneId ∈ hosted

theorem Served.step [DecidableEq ι] (inv : Served hosted s) {l : Label ι}
    (legal : Unmixed hosted s l) (taken : step parseEntityId hosted s l = some t) :
    Served hosted t := by
  cases l with
  | set plugin a value =>
      cases taken
      refine ⟨fun zoneId key isSet => ?_, inv.loaded⟩
      by_cases itself : (⟨.zone zoneId, key⟩ : Address) = a
      · exact legal.2 zoneId (congrArg Address.scope itself).symm
      · exact inv.sets zoneId key (by simpa [State.set, itself] using isSet)
  | get plugin a =>
      cases taken
      exact inv
  | persist plugin fails =>
      obtain ⟨w, rest, -, rfl⟩ := State.persist_eq taken
      obtain ⟨characterState, zoneState, persisted, applied⟩ := State.apply_eq { s with
        pendingStateWrites := Function.update s.pendingStateWrites plugin rest }
        parseEntityId plugin w fails
      rw [applied]
      exact { inv with }
  | register e characterId | read e characterId | unregister e =>
      cases taken
      exact { inv with }
  | hydrate e =>
      obtain ⟨rows, -, rfl⟩ := Option.map_eq_some_iff.mp taken
      obtain ⟨cache, hydrated, cached⟩ := s.cacheRows_eq (.character (toString e)) rows
      rw [cached]
      exact { inv with }
  | purge e =>
      rw [← Option.some.inj taken]
      refine ⟨fun zoneId key isSet => inv.sets zoneId key ?_, inv.loaded⟩
      rwa [State.sets_purge (by simp [Address.belongsTo])] at isSet
  | loadZone zoneId =>
      simp only [PluginState.step, Option.ite_none_right_eq_some, Option.some.injEq] at taken
      obtain ⟨⟨served, -⟩, rfl⟩ := taken
      obtain ⟨cache, hydrated, cached⟩ := s.cacheRows_eq (.zone zoneId) (s.zoneState zoneId)
      unfold State.loadZone
      rw [cached]
      refine ⟨inv.sets, fun zoneId' loaded => ?_⟩
      rcases List.mem_cons.mp loaded with rfl | before
      · exact served
      · exact inv.loaded zoneId' before

/-! ### Runs -/

structure Sound (hosted : List String) (s : State ι) : Prop where
  mirrored : Mirrored s
  backed : ∀ zoneId key, Backed s zoneId key
  served : Served hosted s

theorem sound_start (characterState : CharacterId → Bucket ι) (zoneState : String → Bucket ι) :
    Sound hosted (start characterState zoneState) := by
  refine ⟨⟨?_, ?_, ?_⟩, fun zoneId key => ⟨?_, ?_, ?_, ?_, ?_, ?_⟩, ?_, ?_⟩ <;>
    simp [start, State.Stored, State.expected]

theorem Sound.step [DecidableEq ι] (inv : Sound hosted s) {l : Label ι}
    (legal : Unmixed hosted s l) (taken : step parseEntityId hosted s l = some t) :
    Sound hosted t where
  mirrored := inv.mirrored.step legal taken
  backed zoneId key := (inv.backed zoneId key).step legal taken
  served := inv.served.step legal taken

def Address.ofZone (a : Address) : Bool :=
  match a.scope with
  | .zone _ => true
  | _ => false

/-- Every zone has been loaded and no write to one is queued. -/
def State.Flushed (hosted : List String) (s : State ι) : Prop :=
  (∀ zoneId ∈ hosted, zoneId ∈ s.loadedZones) ∧
    ∀ plugin, ∀ w ∈ s.pendingStateWrites plugin, w.address.ofZone = false

/-- When no write to a zone is queued, its rows are what the cache is to hold. -/
theorem Sound.expected_eq_row (inv : Sound hosted s) (flushed : s.Flushed hosted)
    {zoneId : String} (served : zoneId ∈ hosted) (key : String) :
    s.expected ⟨.zone zoneId, key⟩ = s.row zoneId key := by
  have backed := inv.backed zoneId key
  unfold State.expected
  cases own : s.sets ⟨.zone zoneId, key⟩ with
  | none => exact backed.unset own (flushed.1 zoneId served)
  | some value =>
      have isSet : (s.sets ⟨.zone zoneId, key⟩).isSome := by rw [own]; rfl
      have level : s.persisted ⟨.zone zoneId, key⟩ = s.setCount ⟨.zone zoneId, key⟩ := by
        refine Nat.le_antisymm backed.bound (Nat.le_of_not_lt fun behind => ?_)
        obtain ⟨plugin, w, queued, named, -⟩ := backed.waiting isSet behind
        have unqueued := flushed.2 plugin w queued
        rw [named] at unqueued
        cases unqueued
      exact (own.symm.trans (backed.settled isSet level).symm)

/-- No two rows of the zones are one string in the cache. -/
def Apart (hosted : List String) (s : State ι) : Prop :=
  ∀ zoneId ∈ hosted, ∀ key, (s.row zoneId key).isSome →
    ∀ zoneId' ∈ hosted, ∀ key', (s.row zoneId' key').isSome →
      cacheKey (.zone zoneId) key = cacheKey (.zone zoneId') key' →
        (⟨.zone zoneId, key⟩ : Address) = ⟨.zone zoneId', key'⟩

/-- A start-up that has loaded some of the zones. -/
structure Reloaded (s : State ι) (done : List String) (r : State ι) : Prop where
  mirrored : Mirrored r
  sets : ∀ a, r.sets a = none
  zoneState : r.zoneState = s.zoneState
  zone : ∀ zoneId key, r.hydrated ⟨.zone zoneId, key⟩ =
    if zoneId ∈ done then s.row zoneId key else none
  only : ∀ a, (r.hydrated a).isSome → ∃ zoneId, a.scope = .zone zoneId

theorem Reloaded.loadZone {r : State ι} {done : List String} (inv : Reloaded s done r)
    (apart : Apart hosted s) (before : ∀ zoneId ∈ done, zoneId ∈ hosted) {zoneId : String}
    (served : zoneId ∈ hosted) : Reloaded s (zoneId :: done) (r.loadZone zoneId) := by
  have welcome : r.Welcomes (.zone zoneId) (r.zoneState zoneId) := by
    intro row there
    refine ⟨fun b stored same => ?_, by simp [inv.sets]⟩
    have cached : (r.hydrated b).isSome := by
      simpa [State.Stored, State.expected, inv.sets] using stored
    obtain ⟨scope, key⟩ := b
    obtain ⟨zoneId', rfl⟩ := inv.only _ cached
    rw [inv.zone] at cached
    split at cached
    next earlier =>
      have here : (s.row zoneId row.1).isSome := by
        rw [inv.zoneState] at there
        rw [State.row, AList.mem_lookup_iff.mpr there]
        rfl
      exact (apart zoneId served row.1 here zoneId' (before zoneId' earlier) key cached
        same.symm).symm
    · cases cached
  obtain ⟨cache, hydrated, loaded⟩ := r.cacheRows_eq (.zone zoneId) (r.zoneState zoneId)
  refine ⟨(inv.mirrored.cacheRows welcome).of_eq rfl rfl, fun a => ?_, ?_, fun zoneId' key => ?_,
    fun a isSome => ?_⟩
  · unfold State.loadZone
    rw [loaded]
    exact inv.sets a
  · unfold State.loadZone
    rw [loaded]
    exact inv.zoneState
  · refine State.hydrated_cacheRows.trans ?_
    rw [inv.zone, inv.zoneState]
    by_cases itself : zoneId' = zoneId
    · subst itself
      simp only [if_true, List.mem_cons, true_or]
      change (s.row zoneId' key).or _ = _
      split
      · cases s.row zoneId' key <;> rfl
      · exact Option.or_none
    · simp [itself]
  · have cached := (congrArg Option.isSome State.hydrated_cacheRows).symm.trans isSome
    split at cached
    next own => exact ⟨zoneId, own⟩
    · exact inv.only a cached

theorem Reloaded.loadZones {zones done : List String} {r : State ι} (inv : Reloaded s done r)
    (apart : Apart hosted s) (before : ∀ zoneId ∈ done, zoneId ∈ hosted)
    (served : ∀ zoneId ∈ zones, zoneId ∈ hosted) :
    Reloaded s (zones.reverse ++ done) (zones.foldl State.loadZone r) := by
  induction zones generalizing done r with
  | nil => exact inv
  | cons zoneId zones ih =>
      have here := served zoneId (.head _)
      rw [List.reverse_cons, List.append_assoc]
      exact ih (inv.loadZone apart before here) (List.forall_mem_cons.mpr ⟨here, before⟩)
        fun zoneId' later => served zoneId' (.tail _ later)

theorem reloaded_restarted (apart : Apart hosted s) :
    Reloaded s hosted.reverse (s.restarted hosted) := by
  have started : Sound hosted (start s.characterState s.zoneState) := sound_start _ _
  have fresh : Reloaded s [] (start s.characterState s.zoneState) :=
    ⟨started.mirrored, fun _ => rfl, rfl, fun _ _ => rfl, nofun⟩
  have loaded := fresh.loadZones apart (by simp) fun _ => id
  rwa [List.append_nil] at loaded

instance [Fintype ι] (hosted : List String) (s : State ι) : Decidable (s.Flushed hosted) :=
  inferInstanceAs (Decidable (_ ∧ _))

/-- A get after the queued writes are persisted is one after a restart. -/
theorem Sound.get_restarted (inv : Sound hosted s) (flushed : s.Flushed hosted)
    {zoneId key : String} (alone : s.Alone ⟨.zone zoneId, key⟩) :
    s.get ⟨.zone zoneId, key⟩ = (s.restarted hosted).get ⟨.zone zoneId, key⟩ := by
  have stored : ∀ zoneId ∈ hosted, ∀ key, (s.row zoneId key).isSome →
      s.Stored ⟨.zone zoneId, key⟩ := by
    intro zoneId served key isSome
    unfold State.Stored
    rwa [inv.expected_eq_row flushed served]
  have apart : Apart hosted s := fun z served key isSome z' served' key' isSome' same =>
    inv.mirrored.alone _ (stored z' served' key' isSome') _ (stored z served key isSome) same
  have reloaded := reloaded_restarted apart
  have expected : ∀ a, (s.restarted hosted).expected a = (s.restarted hosted).hydrated a := by
    intro a
    rw [State.expected, reloaded.sets, Option.none_or]
  have alone' : (s.restarted hosted).Alone ⟨.zone zoneId, key⟩ := by
    intro b stored_b same
    refine alone b ?_ same
    rw [State.Stored, expected] at stored_b
    obtain ⟨scope, key'⟩ := b
    obtain ⟨zoneId', rfl⟩ := reloaded.only _ stored_b
    rw [reloaded.zone] at stored_b
    split at stored_b
    next served => exact stored zoneId' (List.mem_reverse.mp served) key' stored_b
    · cases stored_b
  rw [inv.mirrored.get_eq alone, reloaded.mirrored.get_eq alone', expected, reloaded.zone]
  split
  next served => exact inv.expected_eq_row flushed (List.mem_reverse.mp served) key
  next elsewhere =>
    have unserved : zoneId ∉ hosted := mt List.mem_reverse.mpr elsewhere
    have unset : s.sets ⟨.zone zoneId, key⟩ = none := by
      rw [← Option.not_isSome_iff_eq_none]
      exact fun isSet => unserved (inv.served.sets zoneId key isSet)
    rw [State.expected, unset, Option.none_or]
    exact (inv.backed zoneId key).unloaded (mt (inv.served.loaded zoneId) unserved)

/-- In a run in which no two addresses are mixed up, a get returns the value that has been
set for its address last, or else the one hydrated for it; and once all writes to zones have
been persisted, what it returns for a zone is what it would return after a restart. -/
theorem state_is_map [DecidableEq ι] {characterState : CharacterId → Bucket ι}
    {zoneState : String → Bucket ι} {ls : List (Label ι)}
    (unmixed : Transition.Admissible (step parseEntityId hosted) (Unmixed hosted)
      (start characterState zoneState) ls)
    (run : Transition.exec (step parseEntityId hosted) (start characterState zoneState) ls =
      some s) :
    (∀ a, s.Alone a → s.get a = s.expected a) ∧
      (s.Flushed hosted → ∀ zoneId key, s.Alone ⟨.zone zoneId, key⟩ →
        s.get ⟨.zone zoneId, key⟩ = (s.restarted hosted).get ⟨.zone zoneId, key⟩) := by
  have sound : Sound hosted s :=
    Transition.exec_invariant (fun _ _ _ inv legal taken => inv.step legal taken)
      (sound_start characterState zoneState) unmixed run
  exact ⟨fun a alone => sound.mirrored.get_eq alone,
    fun flushed _ _ alone => sound.get_restarted flushed alone⟩

namespace TwoPlugins

def empty : State Bool := start (fun _ => ∅) (fun _ => ∅)

/-- The harbor is loaded; a plugin sets a value for it, which is persisted. -/
def market : List (Label Bool) :=
  [.loadZone "harbor", .set false ⟨.zone "harbor", "fee"⟩ [3], .persist false false]

theorem unmixed_market :
    Transition.Admissible (step (fun _ => none) ["harbor"]) (Unmixed ["harbor"]) empty market := by
  have loaded : step (fun _ => none) ["harbor"] empty (.loadZone "harbor") =
      some (empty.loadZone "harbor") := rfl
  have nothing : ∀ a, ¬ (empty.loadZone "harbor").Stored a := by
    intro a
    simp [State.Stored, State.expected, State.loadZone, State.cacheRows, empty, start]
  refine ⟨fun row there => ?_, fun s taken => ?_⟩
  · exact absurd there List.not_mem_nil
  obtain rfl := Option.some.inj (loaded.symm.trans taken)
  refine ⟨⟨fun b stored => absurd stored (nothing b), fun zoneId named => ?_⟩, fun s taken => ?_⟩
  · cases named
    decide
  obtain rfl := Option.some.inj taken
  refine ⟨fun w queued => ?_, fun _ _ => trivial⟩
  cases queued
  exact fun _ _ => ⟨rfl, by decide⟩

/-- Two addresses of one string; and two plugins whose writes are persisted in the other
order, by which a restart brings the older value back. -/
theorem mixed_up_and_reordered :
    (∃ s, Transition.exec (step (fun _ => none) ["harbor"]) empty
        [.set false ⟨.zone "harbor", "dock:fee"⟩ [3]] = some s ∧
      s.get ⟨.zone "harbor:dock", "fee"⟩ = some [3] ∧
      s.expected ⟨.zone "harbor:dock", "fee"⟩ = none) ∧
    ∃ s, Transition.exec (step (fun _ => none) ["harbor"]) empty
        [.loadZone "harbor", .set false ⟨.zone "harbor", "fee"⟩ [3],
          .set true ⟨.zone "harbor", "fee"⟩ [5], .persist true false, .persist false false] =
        some s ∧
      (s.Flushed ["harbor"] ∧ s.get ⟨.zone "harbor", "fee"⟩ = some [5]) ∧
      (s.restarted ["harbor"]).get ⟨.zone "harbor", "fee"⟩ = some [3] :=
  ⟨Transition.exec_reaches (by decide), Transition.exec_reaches (by decide)⟩

theorem state_is_map_market :
    ∃ s, Transition.exec (step (fun _ => none) ["harbor"]) empty market = some s ∧
      s.get ⟨.zone "harbor", "fee"⟩ = some [3] ∧
      (s.restarted ["harbor"]).get ⟨.zone "harbor", "fee"⟩ = some [3] := by
  obtain ⟨s, run, sets, hydrated, flushed⟩ :
      ∃ s, Transition.exec (step (fun _ => none) ["harbor"]) empty market = some s ∧
        s.sets = Function.update (fun _ : Address => none) ⟨.zone "harbor", "fee"⟩ (some [3]) ∧
        s.hydrated = (fun _ => none) ∧ s.Flushed ["harbor"] := ⟨_, rfl, rfl, rfl, by decide⟩
  have alone : s.Alone ⟨.zone "harbor", "fee"⟩ := by
    intro b stored _
    by_contra other
    simp [State.Stored, State.expected, sets, hydrated, other] at stored
  have set : s.expected ⟨.zone "harbor", "fee"⟩ = some [3] := by simp [State.expected, sets]
  obtain ⟨get, restarted⟩ := state_is_map unmixed_market run
  have first := (get _ alone).trans set
  exact ⟨s, run, first, (restarted flushed _ _ alone).symm.trans first⟩

end TwoPlugins

end WorldZero.Server.PluginState
