import Mathlib.Data.List.AList
import Mathlib.Logic.Function.Basic
import WorldZero.Server.WorldActor
import WorldZero.Transition

/-!
# The plugin-scoped data store

One cache for all plugins of the process, read and written by their host calls, behind it
the tables of the two durable scopes. What is set goes into the cache at once and into the
queue of the plugin that has set it, whose writes are persisted in their order; sessions and
the start-up of the process put rows into the cache, and a cleanup takes entries out.

The scope, the id and the key of a value are three columns of a table, and one string in the
cache.
-/

namespace WorldZero.Server.PluginState

open World (PluginStateScope)

abbrev Value := List UInt8

/-- `cache_key`. -/
def cacheKey : PluginStateScope → String → String
  | .character id, key => "character:" ++ id ++ ":" ++ key
  | .entity id, key => "entity:" ++ id ++ ":" ++ key
  | .zone id, key => "zone:" ++ id ++ ":" ++ key

/-- What a plugin names when it gets or sets a value. -/
structure Address where
  scope : PluginStateScope
  key : String
  deriving DecidableEq

namespace Address

def packed (a : Address) : String := cacheKey a.scope a.key

/-- State of a connected player, of the scope of its character or of its entity. -/
def belongsTo (a : Address) (e : EntityId) : Bool :=
  a.scope = .character (toString e) || a.scope = .entity (toString e)

end Address

/-- `str::starts_with`. -/
def startsWith (packed front : String) : Bool := front.toList.isPrefixOf packed.toList

/-- What the cleanup of a session takes out of the cache. -/
def purges (e : EntityId) (packed : String) : Bool :=
  startsWith packed ("character:" ++ toString e ++ ":") ||
    startsWith packed ("entity:" ++ toString e ++ ":")

/-- A stored value; which plugin has set it is read by the specifications only. -/
structure Cell (ι : Type) where
  value : Value
  setBy : ι
  deriving DecidableEq

/-- The rows of a character or of a zone, by `key`. -/
abbrev Bucket (ι : Type) := AList fun _ : String => Cell ι

/-- An entry of a plugin's `pending_state_writes`, numbered among the sets of its address. -/
structure Write where
  address : Address
  value : Value
  number : ℕ
  deriving DecidableEq

/-- From `sets` on, the fields are read by the specifications only. -/
structure State (ι : Type) where
  cache : String → Option (Cell ι)
  pendingStateWrites : ι → List Write
  /-- `plugin_character_state`. -/
  characterState : CharacterId → Bucket ι
  /-- `plugin_zone_state`. -/
  zoneState : String → Bucket ι
  entityCharacters : EntityId → Option CharacterId
  /-- The rows that a joining session has read, until they are in the cache. -/
  reading : EntityId → Option (Bucket ι)
  loadedZones : List String
  /-- The latest value that has been set. -/
  sets : Address → Option Value
  hydrated : Address → Option Value
  setCount : Address → ℕ
  /-- The number of the set whose value has been persisted last. -/
  persisted : Address → ℕ

inductive Label (ι : Type) where
  | set (plugin : ι) (a : Address) (value : Value)
  | get (plugin : ι) (a : Address)
  /-- The first of the plugin's queued writes is persisted, or fails to be. -/
  | persist (plugin : ι) (fails : Bool)
  /-- A session maps its entity to its character. -/
  | register (e : EntityId) (characterId : CharacterId)
  /-- A session reads the rows of its character. -/
  | read (e : EntityId) (characterId : CharacterId)
  | hydrate (e : EntityId)
  | unregister (e : EntityId)
  | purge (e : EntityId)
  /-- The start-up hydrates a zone that the process runs. -/
  | loadZone (zoneId : String)
  deriving DecidableEq

namespace State

variable {ι : Type} [DecidableEq ι] (parseEntityId : String → Option EntityId) (s : State ι)

/-- `plugin_state_get`. -/
def get (a : Address) : Option Value := (s.cache a.packed).map Cell.value

/-- `plugin_state_set`: a write of the scope of an entity is not queued. -/
def set (plugin : ι) (a : Address) (value : Value) : State ι :=
  let number := s.setCount a + 1
  { s with
    cache := Function.update s.cache a.packed (some ⟨value, plugin⟩)
    pendingStateWrites :=
      match a.scope with
      | .entity _ => s.pendingStateWrites
      | _ => Function.update s.pendingStateWrites plugin
          (s.pendingStateWrites plugin ++ [⟨a, value, number⟩])
    sets := Function.update s.sets a (some value)
    setCount := Function.update s.setCount a number }

def resolveCharacter (entityId : String) : Option CharacterId :=
  (parseEntityId entityId).bind s.entityCharacters

/-- `set_character_state`. -/
def setCharacterState (characterId : CharacterId) (key : String) (cell : Cell ι) : State ι :=
  { s with
    characterState :=
      Function.update s.characterState characterId
        ((s.characterState characterId).insert key cell) }

/-- `set_zone_state`. -/
def setZoneState (zoneId key : String) (cell : Cell ι) : State ι :=
  { s with
    zoneState := Function.update s.zoneState zoneId ((s.zoneState zoneId).insert key cell) }

/-- A write that fails, or that belongs to nobody's character, is only logged. -/
def apply (plugin : ι) (w : Write) (fails : Bool) : State ι :=
  match w.address.scope with
  | .character entityId =>
      match s.resolveCharacter parseEntityId entityId with
      | some characterId =>
          if fails then s else s.setCharacterState characterId w.address.key ⟨w.value, plugin⟩
      | none => s
  | .zone zoneId =>
      if fails then s
      else { s.setZoneState zoneId w.address.key ⟨w.value, plugin⟩ with
        persisted := Function.update s.persisted w.address w.number }
  | .entity _ => s

def persist (plugin : ι) (fails : Bool) : Option (State ι) :=
  match s.pendingStateWrites plugin with
  | [] => none
  | w :: rest =>
      some ({ s with
        pendingStateWrites := Function.update s.pendingStateWrites plugin rest }.apply
          parseEntityId plugin w fails)

/-- A row of a table is put into the cache. -/
def cacheRow (a : Address) (cell : Cell ι) : State ι :=
  { s with
    cache := Function.update s.cache a.packed (some cell)
    hydrated := Function.update s.hydrated a (some cell.value) }

def cacheRows (scope : PluginStateScope) (rows : Bucket ι) : State ι :=
  rows.entries.foldl (fun s row => s.cacheRow ⟨scope, row.1⟩ row.2) s

def hydrate (e : EntityId) : Option (State ι) :=
  (s.reading e).map fun rows =>
    { s.cacheRows (.character (toString e)) rows with
      reading := Function.update s.reading e none }

def loadZone (zoneId : String) : State ι :=
  { s.cacheRows (.zone zoneId) (s.zoneState zoneId) with
    loadedZones := zoneId :: s.loadedZones }

def purge (e : EntityId) : State ι :=
  { s with
    cache := fun packed => (s.cache packed).filter fun _ => !purges e packed
    sets := fun a => (s.sets a).filter fun _ => !a.belongsTo e
    hydrated := fun a => (s.hydrated a).filter fun _ => !a.belongsTo e }

/-- What a get is to return: the latest value set for exactly this address, or else the
value hydrated for it. -/
def expected (a : Address) : Option Value := (s.sets a).or (s.hydrated a)

end State

variable {ι : Type} [DecidableEq ι]

/-- The process runs the zones `hosted`. -/
def step (parseEntityId : String → Option EntityId) (hosted : List String) (s : State ι) :
    Label ι → Option (State ι)
  | .set plugin a value => some (s.set plugin a value)
  | .get _ _ => some s
  | .persist plugin fails => s.persist parseEntityId plugin fails
  | .register e characterId =>
      some { s with entityCharacters := Function.update s.entityCharacters e (some characterId) }
  | .read e characterId =>
      some { s with
        reading := Function.update s.reading e (some (s.characterState characterId)) }
  | .hydrate e => s.hydrate e
  | .unregister e =>
      some { s with entityCharacters := Function.update s.entityCharacters e none }
  | .purge e => some (s.purge e)
  | .loadZone zoneId =>
      if zoneId ∈ hosted ∧ zoneId ∉ s.loadedZones then some (s.loadZone zoneId) else none

/-- The process has just been started. -/
def start (characterState : CharacterId → Bucket ι) (zoneState : String → Bucket ι) : State ι where
  cache _ := none
  pendingStateWrites _ := []
  characterState
  zoneState
  entityCharacters _ := none
  reading _ := none
  loadedZones := []
  sets _ := none
  hydrated _ := none
  setCount _ := 0
  persisted _ := 0

/-- A new process after its start-up. -/
def State.restarted (s : State ι) (hosted : List String) : State ι :=
  hosted.foldl State.loadZone (start s.characterState s.zoneState)

/-! ### What the operations leave alone -/

theorem cacheKey_inj {scope : PluginStateScope} {key key' : String} :
    cacheKey scope key = cacheKey scope key' ↔ key = key' := by
  cases scope <;> simp [cacheKey]

theorem filter_kept {α : Type} {kept : Bool} {o : Option α} (h : kept = true) :
    o.filter (fun _ => kept) = o := by
  subst h
  cases o <;> rfl

section Frame

variable {ι : Type}

theorem State.cacheRows_eq (s : State ι) (scope : PluginStateScope) (rows : Bucket ι) :
    ∃ cache hydrated, s.cacheRows scope rows = { s with cache, hydrated } := by
  unfold State.cacheRows
  induction rows.entries generalizing s with
  | nil => exact ⟨_, _, rfl⟩
  | cons row entries ih => exact ih _

section CacheRows

variable {β γ : Type} [DecidableEq β] {f : String → β} (value : Cell ι → γ) {g : β → Option γ}
  {entries : List (Sigma fun _ : String => Cell ι)}

/-- Rows of different keys are written to different places. -/
theorem foldl_update_at (inj : f.Injective) (distinct : entries.NodupKeys) (key : String) :
    entries.foldl (fun g row => Function.update g (f row.1) (some (value row.2))) g (f key) =
      ((entries.dlookup key).map value).or (g (f key)) := by
  induction entries generalizing g with
  | nil => simp
  | cons row entries ih =>
      obtain ⟨fresh, distinct⟩ := List.nodupKeys_cons.mp distinct
      rw [List.foldl_cons, ih distinct]
      by_cases here : key = row.1
      · have later : entries.dlookup row.1 = none := List.dlookup_eq_none.mpr fresh
        obtain ⟨key', cell⟩ := row
        subst here
        simp [later, List.dlookup_cons_eq]
      · simp [List.dlookup_cons_ne _ _ here, inj.eq_iff, here]

theorem foldl_update_of_ne {b : β} (other : ∀ key, b ≠ f key) :
    entries.foldl (fun g row => Function.update g (f row.1) (some (value row.2))) g b = g b := by
  induction entries generalizing g with
  | nil => rfl
  | cons row entries ih => rw [List.foldl_cons, ih, Function.update_of_ne (other row.1)]

end CacheRows

namespace State

variable {s : State ι} {scope : PluginStateScope} {rows : Bucket ι}

theorem cache_cacheRows_eq : (s.cacheRows scope rows).cache = rows.entries.foldl
    (fun cache row => Function.update cache (cacheKey scope row.1) (some row.2)) s.cache := by
  unfold cacheRows
  induction rows.entries generalizing s with
  | nil => rfl
  | cons row entries ih => exact ih

theorem hydrated_cacheRows_eq : (s.cacheRows scope rows).hydrated = rows.entries.foldl
    (fun hydrated row => Function.update hydrated (Address.mk scope row.1) (some row.2.value))
      s.hydrated := by
  unfold cacheRows
  induction rows.entries generalizing s with
  | nil => rfl
  | cons row entries ih => exact ih

theorem cache_cacheRows (key : String) :
    (s.cacheRows scope rows).cache (cacheKey scope key) =
      (rows.lookup key).or (s.cache (cacheKey scope key)) := by
  rw [cache_cacheRows_eq]
  refine (foldl_update_at (fun cell => cell) (fun _ _ => cacheKey_inj.mp)
    rows.nodupKeys key).trans ?_
  rw [Option.map_id']
  rfl

theorem cache_cacheRows_of_ne {packed : String} (other : ∀ key, packed ≠ cacheKey scope key) :
    (s.cacheRows scope rows).cache packed = s.cache packed := by
  rw [cache_cacheRows_eq]
  exact foldl_update_of_ne (fun cell => cell) other

theorem hydrated_cacheRows {a : Address} :
    (s.cacheRows scope rows).hydrated a =
      if a.scope = scope then ((rows.lookup a.key).map Cell.value).or (s.hydrated a)
      else s.hydrated a := by
  rw [hydrated_cacheRows_eq]
  split
  next own =>
    subst own
    exact foldl_update_at (f := Address.mk a.scope) Cell.value (fun _ _ => congrArg Address.key)
      rows.nodupKeys a.key
  next other =>
    exact foldl_update_of_ne (f := Address.mk scope) Cell.value fun key same =>
      other (congrArg Address.scope same)

end State

variable {s t : State ι} {parseEntityId : String → Option EntityId}

theorem State.mem_pending_set [DecidableEq ι] {plugin plugin' : ι} {a : Address} {value : Value}
    {w : Write} :
    w ∈ (s.set plugin a value).pendingStateWrites plugin' ↔
      w ∈ s.pendingStateWrites plugin' ∨
        plugin' = plugin ∧ (∀ id, a.scope ≠ .entity id) ∧ w = ⟨a, value, s.setCount a + 1⟩ := by
  obtain ⟨scope, key⟩ := a
  by_cases own : plugin' = plugin <;> cases scope <;> simp [State.set, own]

/-- Persisting a write touches the tables and the queue. -/
theorem State.persist_eq [DecidableEq ι] {plugin : ι} {fails : Bool}
    (taken : s.persist parseEntityId plugin fails = some t) :
    ∃ w rest, s.pendingStateWrites plugin = w :: rest ∧
      t = { s with
        pendingStateWrites := Function.update s.pendingStateWrites plugin rest }.apply
          parseEntityId plugin w fails := by
  unfold State.persist at taken
  split at taken
  · cases taken
  next w rest queued => exact ⟨w, rest, queued, (Option.some.inj taken).symm⟩

theorem State.apply_eq (s : State ι) (parseEntityId : String → Option EntityId) (plugin : ι)
    (w : Write) (fails : Bool) :
    ∃ characterState zoneState persisted,
      s.apply parseEntityId plugin w fails = { s with characterState, zoneState, persisted } := by
  unfold State.apply
  split
  · split
    · split
      · exact ⟨_, _, _, rfl⟩
      · exact ⟨_, _, _, rfl⟩
    · exact ⟨_, _, _, rfl⟩
  · split
    · exact ⟨_, _, _, rfl⟩
    · exact ⟨_, _, _, rfl⟩
  · exact ⟨_, _, _, rfl⟩

end Frame

end WorldZero.Server.PluginState
