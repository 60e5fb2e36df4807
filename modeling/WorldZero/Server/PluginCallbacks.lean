import WorldZero.Character.CurrencySchema
import WorldZero.PluginHost.Runtime
import WorldZero.Server.NpcStats
import WorldZero.Server.PluginState
import WorldZero.World.Zone

/-!
# What plugins reach of the server

Behind the host functions there are the queues, which hold what is left to the caller of the
hook, and the maps in memory that a function reads or writes at once. What the queues held is
applied to the zones, to the stats of NPCs, and by calls of the stores; what a store answers
depends on the tables, which others write as well.
-/

namespace WorldZero.Server.Plugins

open Character (AttributeSchema CurrencySchema)
open PluginHost (HostCallbacks HostFunction PluginManifest capabilityEconomy capabilityGated)
open PluginState (cacheKey)
open Server.World (Dispatch Host HostCall HookCall ItemCatalogEntry PluginRuntime Queue Request
  Turn)
open WorldZero.Content (Point Point3 SpawnTable)
open WorldZero.World (FloorI64 Zone)

/-! ### Item types -/

inductive MetadataType where
  | null
  | boolean
  | number
  | string
  | array
  | object
  deriving DecidableEq

def metadataTypeName : MetadataType → String
  | .null => "null"
  | .boolean => "a boolean"
  | .number => "a number"
  | .string => "a string"
  | .array => "an array"
  | .object => "an object"

/-- The loop over the tags, with those that have been seen. -/
def tagProblems (seenTags : List String) : List String → List String
  | [] => []
  | tag :: tags =>
      if isBlank tag then "tags: must not contain an empty string" :: tagProblems seenTags tags
      else if tag ∈ seenTags then
        s!"tags: {debugStr tag} is declared more than once" :: tagProblems seenTags tags
      else tagProblems (tag :: seenTags) tags

def validateEntry (entry : ItemCatalogEntry) (metadata : MetadataType) : List String :=
  (if isBlank entry.itemType then ["item_type: must not be empty"] else []) ++
  (if isBlank entry.displayName then ["display_name: must not be empty"] else []) ++
  tagProblems [] entry.tags ++
  if metadata = .object then []
  else ["metadata: must be a JSON object, got " ++ metadataTypeName metadata]

/-! ### The process -/

/-- A call of a store on behalf of a plugin. -/
inductive StoreCall where
  | applyStatDelta (characterId : CharacterId) (statKey : String) (delta : Int)
  | grantItem (characterId : CharacterId) (itemType : String) (quantity : Int)
  | removeItem (characterId : CharacterId) (itemType : String) (quantity : Int)
  | modifyCurrency (characterId : CharacterId) (currencyKey : String) (delta : Int)
  | setCharacterState (characterId : CharacterId) (key : String) (value : List UInt8)
  | setZoneState (zoneId key : String) (value : List UInt8)
  | register (entry : ItemCatalogEntry)

/-- The sender of a connection, in `Sessions`. -/
inductive Sender where
  | connected
  | closed
  deriving DecidableEq

structure Process (K M : Type) where
  /-- What the plugin of the name remembers. -/
  memory : String → M
  zones : String → Zone K
  /-- The number of NPCs that plugins have had spawned. -/
  spawned : ℕ
  npcStats : NpcStats
  entityCharacters : EntityId → Option CharacterId
  entityRoles : EntityId → Option (List String)
  sessions : EntityId → Option Sender
  /-- The messages of plugins that have been sent to connections. -/
  pluginMessages : List (EntityId × String)
  pluginStateCache : String → Option (List UInt8)
  blockedZoneChannels : EntityId → List String
  itemCatalogCache : String → Option ItemCatalogEntry
  storeCalls : List StoreCall

/-- An exported function of a plugin. -/
inductive Export (Position : Type) where
  | onLoad
  | onZoneLoaded (zoneId : String)
  | onCharacterCreate (characterId zoneId : String)
  | onCraftComplete (characterId recipeKey : String)
  | hook (zoneId : String) (call : HookCall Position)

/-- What a hook leaves: the plugin's memory, and whether it has returned or trapped. -/
structure Returned (M : Type) where
  memory : M
  ok : Bool

/-- What the process does not change, and what is outside it. -/
structure Deployment (K M : Type) where
  /-- In the order in which they are loaded. Plugins are told apart by their names. -/
  discovered : List PluginManifest
  /-- The compiled plugins. -/
  exports : (plugin : String) → M → Export (Point3 K) →
    Sandbox.Guest (fun f : HostFunction (Point3 K) => f.Answer) (Returned M)
  attributeSchema : AttributeSchema
  currencySchema : CurrencySchema
  parseEntityId : String → Option EntityId
  parseCharacterId : String → Option CharacterId
  /-- `serde_json::from_str`: the type of the value and its text. -/
  parseMetadata : String → Except String (MetadataType × String)
  newEntityId : ℕ → EntityId
  /-- What a store answers: the new value, unless the call fails. -/
  answer : List StoreCall → StoreCall → Option Int

/-! ### Host functions -/

/-- The process while a hook runs, with what it has queued. -/
structure Calling (K M : Type) where
  process : Process K M
  queued : List (HostCall (Point3 K))

section Callbacks

variable {K M : Type} (deployment : Deployment K M)

namespace Calling

variable (c : Calling K M)

def queue (call : HostCall (Point3 K)) : Calling K M := { c with queued := c.queued ++ [call] }

def sendMessage (targetEntityId body : String) : Except String Unit × Calling K M :=
  match deployment.parseEntityId targetEntityId with
  | none => (.error s!"{debugStr targetEntityId} is not a valid entity id", c)
  | some entityId =>
      match c.process.sessions entityId with
      | some .connected =>
          (.ok (), { c with process := { c.process with
            pluginMessages := c.process.pluginMessages ++ [(entityId, body)] } })
      | some .closed => (.error s!"{targetEntityId} is no longer connected", c)
      | none => (.error s!"no connected entity {targetEntityId}", c)

def callerRole (entityId : String) : Except String (List String) :=
  match deployment.parseEntityId entityId with
  | none => .error s!"{debugStr entityId} is not a valid entity id"
  | some entityId =>
      match c.process.entityRoles entityId with
      | some roles => .ok roles
      | none => .error s!"{entityId} is not a connected player entity"

/-- The cache is written at once. -/
def pluginStateSet (scope : World.PluginStateScope) (key : String) (value : List UInt8) :
    Calling K M :=
  queue { c with process := { c.process with
    pluginStateCache :=
      Function.update c.process.pluginStateCache (cacheKey scope key) (some value) } }
    (.pluginStateSet scope key value)

def blockZoneChannel (entityId category : String) : Except String Unit × Calling K M :=
  match deployment.parseEntityId entityId with
  | none => (.error s!"{debugStr entityId} is not a valid entity id", c)
  | some entityId =>
      (.ok (), { c with process := { c.process with
        blockedZoneChannels := Function.update c.process.blockedZoneChannels entityId
          ((c.process.blockedZoneChannels entityId).insert category) } })

def registerItemType (itemType displayName : String) (tags : List String) (metadata : String) :
    Except String Unit × Calling K M :=
  match deployment.parseMetadata metadata with
  | .error e => (.error s!"register-item-type metadata is not valid JSON: {e}", c)
  | .ok (type, text) =>
      let entry : ItemCatalogEntry := ⟨itemType, displayName, tags, text⟩
      let problems := validateEntry entry type
      if problems ≠ [] then
        (.error (s!"register-item-type: item {debugStr itemType} is invalid: " ++
          "; ".intercalate problems), c)
      else
        (.ok (), queue { c with process := { c.process with
          itemCatalogCache :=
            Function.update c.process.itemCatalogCache itemType (some entry) } }
          (.registerItemType entry))

end Calling

/-- `PluginCallbacks`. -/
def pluginCallbacks : HostCallbacks (Point3 K) (Calling K M)
  | .spawnNpc spawnTableId, c => (.ok spawnTableId, c.queue (.spawnNpc spawnTableId))
  | .sendMessage targetEntityId body, c => c.sendMessage deployment targetEntityId body
  | .applyStatDelta entityId statKey delta, c =>
      (.ok (), c.queue (.applyStatDelta entityId statKey delta))
  | .applyStatDeltaForCharacter characterId statKey delta, c =>
      (.ok (), c.queue (.applyStatDeltaForCharacter characterId statKey delta))
  | .moveEntity entityId position, c => (.ok (), c.queue (.moveEntity entityId position))
  | .teleportEntity entityId position, c => (.ok (), c.queue (.teleportEntity entityId position))
  | .grantItem entityId itemType quantity, c =>
      (.ok (), c.queue (.grantItem entityId itemType quantity))
  | .removeItem entityId itemType quantity, c =>
      (.ok (), c.queue (.removeItem entityId itemType quantity))
  | .modifyCurrency entityId currencyKey delta, c =>
      (.ok (), c.queue (.modifyCurrency entityId currencyKey delta))
  | .callerRole entityId, c => (c.callerRole deployment entityId, c)
  | .pluginStateGet scope key, c => (.ok (c.process.pluginStateCache (cacheKey scope key)), c)
  | .pluginStateSet scope key value, c => (.ok (), c.pluginStateSet scope key value)
  | .reportDeath entityId, c => (.ok (), c.queue (.reportDeath entityId))
  | .reportRespawn entityId, c => (.ok (), c.queue (.reportRespawn entityId))
  | .blockZoneChannel entityId category, c => c.blockZoneChannel deployment entityId category
  | .registerItemType itemType displayName tags metadata, c =>
      c.registerItemType deployment itemType displayName tags metadata
  | .getItem itemType, c => (.ok (c.process.itemCatalogCache itemType), c)

def capabilities (plugin : String) : List String :=
  ((deployment.discovered.find? fun m => m.plugin.name = plugin).map fun m =>
    m.plugin.capabilities).getD []

/-- A hook of the plugin is called, behind the gate. -/
def call (plugin : String) (hook : Export (Point3 K)) (p : Process K M) :
    Bool × Calling K M :=
  let (returned, c) := (deployment.exports plugin (p.memory plugin) hook).run
    (capabilityGated (capabilities deployment plugin) (pluginCallbacks deployment)) ⟨p, []⟩
  (returned.ok, { c with process := { c.process with
    memory := Function.update c.process.memory plugin returned.memory } })

end Callbacks

/-! ### What the queues held -/

namespace Process

variable {K M : Type} (deployment : Deployment K M) (p : Process K M)

def atZone (zoneId : String) (f : Zone K → Zone K) : Process K M :=
  { p with zones := Function.update p.zones zoneId (f (p.zones zoneId)) }

def store (call : StoreCall) : Option Int × Process K M :=
  (deployment.answer p.storeCalls call, { p with storeCalls := p.storeCalls ++ [call] })

def kindOf (zoneId : String) (entity : EntityId) : Option World.EntityKind :=
  ((p.zones zoneId).entities entity).map fun
    | .player => .player
    | .npc => .npc

/-- An NPC on the ground, of the type that its table declares. -/
def spawnAt [Zero K] [Div K] [FloorI64 K] (table : SpawnTable K) (entityId : EntityId)
    (point : Point K) (zone : Zone K) : Zone K :=
  let position : Point3 K := (point.1, point.2, 0)
  let zone :=
    match table.routeId with
    | some routeId => zone.spawnNpcWithRoute entityId position routeId
    | none => zone.spawn entityId .npc position
  zone.recordEntityType entityId table.entityType

/-- At the first point of the table. -/
def spawnNpcFromTable [Zero K] [Div K] [FloorI64 K] (zoneId spawnTableId : String) :
    Option (EntityId × String) × Process K M :=
  match (p.zones zoneId).manifest.spawnTables.find? fun table => table.id = spawnTableId with
  | none => (none, p)
  | some table =>
      match table.points.head? with
      | none => (none, p)
      | some point =>
          let entityId := deployment.newEntityId p.spawned
          (some (entityId, table.entityType),
            { p.atZone zoneId (spawnAt table entityId point) with spawned := p.spawned + 1 })

end Process

/-- What the world actors call, without the pushes of new values to the connections. -/
def host {K M : Type} [Zero K] [Div K] [FloorI64 K] (deployment : Deployment K M) :
    Host (Process K M) (Point3 K) where
  call plugin zoneId hook p :=
    let (_, c) := call deployment plugin (.hook zoneId hook) p
    (c.queued, c.process)
  parseEntityId := deployment.parseEntityId
  kindOf zoneId entity p := p.kindOf zoneId entity
  characterOf entity p := p.entityCharacters entity
  requestMove zoneId entity position p :=
    p.atZone zoneId fun zone => zone.requestMove entity position 0
  requestTeleport zoneId entity position p :=
    p.atZone zoneId fun zone => zone.requestTeleport entity position
  applyStatDelta characterId statKey delta p :=
    (p.store deployment (.applyStatDelta characterId statKey delta)).2
  applyNpcStatDelta entity statKey delta p :=
    let (_, npcStats) :=
      applyNpcStatDelta deployment.attributeSchema p.npcStats entity statKey delta
    { p with npcStats }
  grantItem characterId itemType quantity p :=
    p.store deployment (.grantItem characterId itemType quantity)
  removeItem characterId itemType quantity p :=
    (p.store deployment (.removeItem characterId itemType quantity)).2
  currencyDeclared := deployment.currencySchema.isDeclared
  modifyCurrency characterId currencyKey delta p :=
    (p.store deployment (.modifyCurrency characterId currencyKey delta)).2
  setCharacterState characterId key value p :=
    (p.store deployment (.setCharacterState characterId key value)).2
  setZoneState zoneId key value p := (p.store deployment (.setZoneState zoneId key value)).2
  spawnNpcFromTable zoneId spawnTableId p := p.spawnNpcFromTable deployment zoneId spawnTableId
  registerItemType entry p := (p.store deployment (.register entry)).2

/-! ### Sessions and the start-up -/

section Hooks

variable {K M : Type} (deployment : Deployment K M)

/-- The actor's turn with a plugin, or a session's. -/
abbrev PluginTurn (K M : Type) := Turn (Process K M) (Point3 K)

namespace PluginTurn

variable (t : PluginTurn K M)

/-- A hook that no world actor calls. -/
def call (hook : Export (Point3 K)) : Bool × PluginTurn K M :=
  let (ok, c) := Plugins.call deployment t.runtime.name hook t.world
  let requests (q : Queue) : List (Outbox.Entry (Request (Point3 K) q)) :=
    (c.queued.filterMap fun call => call.queues q).map fun request => ⟨request, true⟩
  (ok, { t.setBox { t.runtime.outbox with
    pending := fun q => t.runtime.outbox.pending q ++ requests q } with world := c.process })

/-- `drain_pending_character_stat_deltas`, and each delta applied. -/
def applyCharacterStatDeltas : PluginTurn K M :=
  (t.take .characterStatDeltas).applyEach .characterStatDeltas
    (fun (target, statKey, delta) p =>
      match deployment.parseCharacterId target with
      | some targetId => (p.store deployment (.applyStatDelta targetId statKey delta)).2
      | none => p)
    (t.pending .characterStatDeltas)

/-- `fire_on_character_create`. -/
def fireOnCharacterCreate (characterId : CharacterId) (zoneId : String) : PluginTurn K M :=
  if t.runtime.wants "on-character-create" then
    let (_, t) := t.call deployment (.onCharacterCreate (toString characterId) zoneId)
    t.applyCharacterStatDeltas deployment
  else t

/-- `fire_on_craft_complete`. -/
def fireOnCraftComplete (characterId : CharacterId) (recipeKey : String) : PluginTurn K M :=
  if t.runtime.wants "on-craft-complete" &&
      (capabilities deployment t.runtime.name).contains capabilityEconomy then
    let (_, t) := t.call deployment (.onCraftComplete (toString characterId) recipeKey)
    t.applyCharacterStatDeltas deployment
  else t

def fireOnZoneLoaded [Zero K] [Div K] [FloorI64 K] (zoneId : String) : PluginTurn K M :=
  if t.runtime.wants "on-zone-loaded" then
    let (_, t) := t.call deployment (.onZoneLoaded zoneId)
    t.spawnRequestedNpcs (host deployment) zoneId
  else t

/-- Unless the hook fails. -/
def fireOnLoad : Option (PluginTurn K M) :=
  if t.runtime.wants "on-load" then
    let (ok, t) := t.call deployment .onLoad
    if ok then some t else none
  else some t

/-- Each entry has to be stored. -/
def registerAll : List (Outbox.Entry ItemCatalogEntry) → PluginTurn K M → Option (PluginTurn K M)
  | [], t => some t
  | entry :: entries, t =>
      let (registered, p) := t.world.store deployment (.register entry.request)
      if registered.isSome then
        registerAll entries (t.apply .itemRegistrations (fun _ _ => p) entry)
      else none

end PluginTurn

def newRuntime (manifest : PluginManifest) : PluginRuntime (Point3 K) where
  name := manifest.plugin.name
  messageTypes := manifest.plugin.messageTypes
  chatCommands := manifest.plugin.chatCommands
  hooks := manifest.plugin.hooks
  outbox := ⟨fun _ => [], [], fun _ => []⟩

/-- `load_plugin`, and what the start-up does with a plugin that has been loaded. A failure ends
the process. What is to be spawned is dropped, as there is no zone. -/
def loadPlugin (manifest : PluginManifest) (p : Process K M) : Option (PluginTurn K M) :=
  match manifest.checkCompatible with
  | .error _ => none
  | .ok () =>
      (PluginTurn.fireOnLoad deployment ⟨newRuntime manifest, p⟩).bind fun t =>
        let t := t.take .spawns
        PluginTurn.registerAll deployment (t.pending .itemRegistrations) (t.take .itemRegistrations)

structure State (K M : Type) where
  plugins : List (PluginRuntime (Point3 K))
  process : Process K M

def loadAll : List PluginManifest → State K M → Option (State K M)
  | [], s => some s
  | manifest :: manifests, s =>
      (loadPlugin deployment manifest s.process).bind fun t =>
        loadAll manifests ⟨s.plugins ++ [t.runtime], t.world⟩

/-- The start-up, up to where it starts the zones. -/
def boot (p : Process K M) : Option (State K M) := loadAll deployment deployment.discovered ⟨[], p⟩

inductive Label (K M : Type) where
  | zoneLoaded (zoneId : String)
  | dispatch (zoneId : String) (d : Dispatch (Point3 K))
  | characterCreated (characterId : CharacterId) (zoneId : String)
  | craftCompleted (characterId : CharacterId) (recipeKey : String)
  /-- Anything that is not done for a plugin. -/
  | other (change : Process K M → Process K M)

/-- The lock on the plugins is held from a label's first hook to the last of its effects. -/
def step [Zero K] [Div K] [FloorI64 K] (s : State K M) : Label K M → Option (State K M)
  | .zoneLoaded zoneId => some (forEach s fun t => t.fireOnZoneLoaded deployment zoneId)
  | .dispatch zoneId d =>
      let (plugins, process) := Server.World.dispatch (host deployment) zoneId s.plugins s.process d
      some ⟨plugins, process⟩
  | .characterCreated characterId zoneId =>
      some (forEach s fun t => t.fireOnCharacterCreate deployment characterId zoneId)
  | .craftCompleted characterId recipeKey =>
      some (forEach s fun t => t.fireOnCraftComplete deployment characterId recipeKey)
  | .other change => some { s with process := change s.process }
where
  forEach (s : State K M) (turn : PluginTurn K M → PluginTurn K M) : State K M :=
    let (plugins, process) := Server.World.forEachPlugin turn s.plugins s.process
    ⟨plugins, process⟩

end Hooks

end WorldZero.Server.Plugins
