import WorldZero.Common
import WorldZero.Outbox

/-!
# Plugin effects of a world actor

The plugins are shared by the actors of all zones. An actor holds the lock on them from
before it calls the first hook of a dispatch until it has applied what the hooks have
queued, so dispatches of different zones do not interleave; but what a dispatch leaves in
the queues waits there for the next one, of whatever zone.
-/

namespace WorldZero.Server.World

open Outbox

/-! ### Plugins -/

inductive EntityKind where
  | player
  | npc
  deriving DecidableEq

inductive PluginStateScope where
  | character (entityId : String)
  | entity (entityId : String)
  | zone (zoneId : String)
  deriving DecidableEq

structure ItemCatalogEntry where
  itemType : String
  displayName : String
  tags : List String
  metadata : String

/-- The queues of a `PluginRuntime`. -/
inductive Queue where
  | spawns
  | statDeltas
  | characterStatDeltas
  | moves
  | teleports
  | itemGrants
  | itemRemovals
  | currencyDeltas
  | stateWrites
  | deaths
  | respawns
  | itemRegistrations
  deriving DecidableEq

/-- What a queue holds. -/
abbrev Request (Position : Type) : Queue → Type
  | .spawns | .deaths | .respawns => String
  | .moves | .teleports => String × Position
  | .statDeltas | .characterStatDeltas => String × String × Int
  | .itemGrants | .itemRemovals | .currencyDeltas => String × String × Int
  | .stateWrites => PluginStateScope × String × List UInt8
  | .itemRegistrations => ItemCatalogEntry

/-- The calls to host functions that queue something, once the capabilities of the plugin
have admitted them and a registration has been found valid. -/
inductive HostCall (Position : Type) where
  | spawnNpc (spawnTableId : String)
  | applyStatDelta (entityId statKey : String) (delta : Int)
  | applyStatDeltaForCharacter (characterId statKey : String) (delta : Int)
  | moveEntity (entityId : String) (position : Position)
  | teleportEntity (entityId : String) (position : Position)
  | grantItem (entityId itemType : String) (quantity : Int)
  | removeItem (entityId itemType : String) (quantity : Int)
  | modifyCurrency (entityId currencyKey : String) (delta : Int)
  | pluginStateSet (scope : PluginStateScope) (key : String) (value : List UInt8)
  | reportDeath (entityId : String)
  | reportRespawn (entityId : String)
  | registerItemType (entry : ItemCatalogEntry)

/-- `PluginCallbacks`: what a call puts into a queue. State of the scope of an entity is
cached only. -/
def HostCall.queues {Position : Type} :
    HostCall Position → (q : Queue) → Option (Request Position q)
  | .spawnNpc spawnTableId, .spawns => some spawnTableId
  | .applyStatDelta entityId statKey delta, .statDeltas => some (entityId, statKey, delta)
  | .applyStatDeltaForCharacter characterId statKey delta, .characterStatDeltas =>
      some (characterId, statKey, delta)
  | .moveEntity entityId position, .moves => some (entityId, position)
  | .teleportEntity entityId position, .teleports => some (entityId, position)
  | .grantItem entityId itemType quantity, .itemGrants => some (entityId, itemType, quantity)
  | .removeItem entityId itemType quantity, .itemRemovals => some (entityId, itemType, quantity)
  | .modifyCurrency entityId currencyKey delta, .currencyDeltas =>
      some (entityId, currencyKey, delta)
  | .pluginStateSet (.entity _) _ _, .stateWrites => none
  | .pluginStateSet scope key value, .stateWrites => some (scope, key, value)
  | .reportDeath entityId, .deaths => some entityId
  | .reportRespawn entityId, .respawns => some entityId
  | .registerItemType entry, .itemRegistrations => some entry
  | _, _ => none

/-- The exported functions of a plugin that a world actor calls, each for a zone. -/
inductive HookCall (Position : Type) where
  | onTick
  | onNpcTick (entityId : String) (position : Position)
  | onMessage (messageType : UInt16) (senderEntityId : String) (payload : List UInt8)
  | onChatCommand (command args senderEntityId : String)
  | onPlayerJoinZone (entityId : String)
  | onPlayerLeaveZone (entityId : String)
  | onDamageCalc (attacker target statKey : String) (amount : Int)
  | onItemUse (entityId itemType : String)
  | onNpcInteract (npc actor : String)
  | onItemDrop (entityId itemType : String) (quantity : Int)
  | onEntitySpawn (entityId entityType spawnTableId : String)
  | onItemAcquire (entityId itemType : String) (newQuantity : Int)
  | onDeath (entityId : String)
  | onRespawn (entityId : String)

/-- The name in the `hooks` list of `plugin.toml`. -/
def HookCall.hookName {Position : Type} : HookCall Position → String
  | .onTick => "on-tick"
  | .onNpcTick .. => "on-npc-tick"
  | .onMessage .. => "on-message"
  | .onChatCommand .. => "on-chat-command"
  | .onPlayerJoinZone _ => "on-player-join-zone"
  | .onPlayerLeaveZone _ => "on-player-leave-zone"
  | .onDamageCalc .. => "on-damage-calc"
  | .onItemUse .. => "on-item-use"
  | .onNpcInteract .. => "on-npc-interact"
  | .onItemDrop .. => "on-item-drop"
  | .onEntitySpawn .. => "on-entity-spawn"
  | .onItemAcquire .. => "on-item-acquire"
  | .onDeath _ => "on-death"
  | .onRespawn _ => "on-respawn"

structure PluginRuntime (Position : Type) where
  name : String
  messageTypes : List UInt16
  chatCommands : List String
  hooks : List String
  outbox : Box (HookCall Position) (Request Position)

def PluginRuntime.wants {Position : Type} (runtime : PluginRuntime Position) (hook : String) :
    Bool :=
  runtime.hooks.any fun h => h = hook

/-- The rest of the process, with the zones, the stores and the plugins' own state in the
world `σ`. A failing hook or operation is only logged. The operations on a character's
stats, items and currency include the push of the new value to its connection. -/
structure Host (σ Position : Type) where
  /-- A plugin's hook is called for a zone, and calls back. -/
  call : (plugin zoneId : String) → HookCall Position → σ → List (HostCall Position) × σ
  parseEntityId : String → Option EntityId
  kindOf : (zoneId : String) → EntityId → σ → Option EntityKind
  /-- `EntityCharacters`. -/
  characterOf : EntityId → σ → Option CharacterId
  requestMove : (zoneId : String) → EntityId → Position → σ → σ
  requestTeleport : (zoneId : String) → EntityId → Position → σ → σ
  applyStatDelta : CharacterId → String → Int → σ → σ
  applyNpcStatDelta : EntityId → String → Int → σ → σ
  grantItem : CharacterId → String → Int → σ → Option Int × σ
  removeItem : CharacterId → String → Int → σ → σ
  currencyDeclared : String → Bool
  modifyCurrency : CharacterId → String → Int → σ → σ
  setCharacterState : CharacterId → String → List UInt8 → σ → σ
  setZoneState : String → String → List UInt8 → σ → σ
  /-- The new entity and its type, if the table is known and not empty. -/
  spawnNpcFromTable : (zoneId spawnTableId : String) → σ → Option (EntityId × String) × σ
  registerItemType : ItemCatalogEntry → σ → σ

namespace Host

variable {σ Position : Type} (host : Host σ Position) (zoneId : String)

def resolveCharacter (entityId : String) (world : σ) : Option CharacterId :=
  (host.parseEntityId entityId).bind fun id => host.characterOf id world

/-! ### `apply_plugin_pending_effects`, request by request -/

def move : String × Position → σ → σ
  | (entityId, position), world =>
      match host.parseEntityId entityId with
      | some id => host.requestMove zoneId id position world
      | none => world

def teleport : String × Position → σ → σ
  | (entityId, position), world =>
      match host.parseEntityId entityId with
      | some id => host.requestTeleport zoneId id position world
      | none => world

def statDelta : String × String × Int → σ → σ
  | (entityId, statKey, delta), world =>
      match host.parseEntityId entityId with
      | none => world
      | some id =>
          match host.kindOf zoneId id world with
          | some .player =>
              match host.resolveCharacter entityId world with
              | some characterId => host.applyStatDelta characterId statKey delta world
              | none => world
          | some .npc => host.applyNpcStatDelta id statKey delta world
          | none => world

/-- The new quantity, if the grant has been applied. -/
def itemGrant : String × String × Int → σ → Option Int × σ
  | (entityId, itemType, quantity), world =>
      match host.resolveCharacter entityId world with
      | some characterId => host.grantItem characterId itemType quantity world
      | none => (none, world)

def itemRemoval : String × String × Int → σ → σ
  | (entityId, itemType, quantity), world =>
      match host.resolveCharacter entityId world with
      | some characterId => host.removeItem characterId itemType quantity world
      | none => world

def currencyDelta : String × String × Int → σ → σ
  | (entityId, currencyKey, delta), world =>
      match host.resolveCharacter entityId world with
      | some characterId =>
          if host.currencyDeclared currencyKey then
            host.modifyCurrency characterId currencyKey delta world
          else world
      | none => world

def stateWrite : PluginStateScope × String × List UInt8 → σ → σ
  | (.character entityId, key, value), world =>
      match host.resolveCharacter entityId world with
      | some characterId => host.setCharacterState characterId key value world
      | none => world
  | (.zone id, key, value), world => host.setZoneState id key value world
  | (.entity _, _, _), world => world

end Host

/-! ### Dispatches -/

/-- The actor's turn with one plugin. -/
structure Turn (σ Position : Type) where
  runtime : PluginRuntime Position
  world : σ

namespace Turn

variable {σ Position : Type} (host : Host σ Position) (zoneId : String) (t : Turn σ Position)

def setBox (outbox : Box (HookCall Position) (Request Position)) : Turn σ Position :=
  { t with runtime := { t.runtime with outbox } }

def pending (q : Queue) : List (Entry (Request Position q)) := t.runtime.outbox.pending q

/-- `std::mem::take`. -/
def take (q : Queue) : Turn σ Position := t.setBox (t.runtime.outbox.take q)

def call (hook : HookCall Position) : Turn σ Position :=
  let (calls, world) := host.call t.runtime.name zoneId hook t.world
  { t.setBox (t.runtime.outbox.push hook fun q => calls.filterMap fun call => call.queues q) with
    world }

def callIfWanted (hook : HookCall Position) : Turn σ Position :=
  if t.runtime.wants hook.hookName then t.call host zoneId hook else t

/-- One entry of a queue is applied. -/
def apply (q : Queue) (op : Request Position q → σ → σ) (entry : Entry (Request Position q)) :
    Turn σ Position :=
  { t.setBox (t.runtime.outbox.done q entry) with world := op entry.request t.world }

def applyEach (q : Queue) (op : Request Position q → σ → σ)
    (entries : List (Entry (Request Position q))) : Turn σ Position :=
  entries.foldl (fun t entry => t.apply q op entry) t

/-- The grants, with what has been acquired. -/
def applyGrants : List (Entry (Request Position .itemGrants)) → Turn σ Position →
    List (String × String × Int) × Turn σ Position
  | [], t => ([], t)
  | entry :: entries, t =>
      let (newQuantity, world) := host.itemGrant entry.request t.world
      let (acquired, t) := applyGrants entries (t.apply .itemGrants (fun _ _ => world) entry)
      match newQuantity with
      | some newQuantity => ((entry.request.1, entry.request.2.1, newQuantity) :: acquired, t)
      | none => (acquired, t)

/-- Each entry is confirmed by a hook of the plugin, if it wants that. -/
def confirmEach (q : Queue) (hook : Request Position q → HookCall Position)
    (entries : List (Entry (Request Position q))) : Turn σ Position :=
  entries.foldl (fun t entry =>
    (t.apply q (fun _ world => world) entry).callIfWanted host zoneId (hook entry.request)) t

/-- What a plugin has queued for `apply_plugin_pending_effects`. -/
structure PendingEffects (Position : Type) where
  moves : List (Entry (Request Position .moves))
  teleports : List (Entry (Request Position .teleports))
  statDeltas : List (Entry (Request Position .statDeltas))
  itemGrants : List (Entry (Request Position .itemGrants))
  itemRemovals : List (Entry (Request Position .itemRemovals))
  currencyDeltas : List (Entry (Request Position .currencyDeltas))
  stateWrites : List (Entry (Request Position .stateWrites))

def pendingEffects : PendingEffects Position where
  moves := t.pending .moves
  teleports := t.pending .teleports
  statDeltas := t.pending .statDeltas
  itemGrants := t.pending .itemGrants
  itemRemovals := t.pending .itemRemovals
  currencyDeltas := t.pending .currencyDeltas
  stateWrites := t.pending .stateWrites

def takePendingEffects : Turn σ Position :=
  ((((((t.take .moves).take .teleports).take .statDeltas).take .itemGrants).take
    .itemRemovals).take .currencyDeltas).take .stateWrites

def applyPluginPendingEffects (effects : PendingEffects Position) :
    List (String × String × Int) × Turn σ Position :=
  let t := t.applyEach .moves (host.move zoneId) effects.moves
  let t := t.applyEach .teleports (host.teleport zoneId) effects.teleports
  let t := t.applyEach .statDeltas (host.statDelta zoneId) effects.statDeltas
  let (acquired, t) := applyGrants host effects.itemGrants t
  let t := t.applyEach .itemRemovals host.itemRemoval effects.itemRemovals
  let t := t.applyEach .currencyDeltas host.currencyDelta effects.currencyDeltas
  (acquired, t.applyEach .stateWrites host.stateWrite effects.stateWrites)

/-- The confirmations, which may queue again, and the registrations. -/
def confirm (acquired : List (String × String × Int)) : Turn σ Position :=
  let t := acquired.foldl (fun t (entityId, itemType, newQuantity) =>
    t.callIfWanted host zoneId (.onItemAcquire entityId itemType newQuantity)) t
  let t := (t.take .deaths).confirmEach host zoneId .deaths .onDeath (t.pending .deaths)
  let t := (t.take .respawns).confirmEach host zoneId .respawns .onRespawn (t.pending .respawns)
  (t.take .itemRegistrations).applyEach .itemRegistrations host.registerItemType
    (t.pending .itemRegistrations)

/-- `drain_and_apply_plugin_effects`. -/
def drainAndApply : Turn σ Position :=
  let (acquired, t) :=
    t.takePendingEffects.applyPluginPendingEffects host zoneId t.pendingEffects
  t.confirm host zoneId acquired

/-- One NPC is spawned and, if that has worked, the plugin told its id. -/
def spawnNpc (entry : Entry String) : Turn σ Position :=
  let (spawned, world) := host.spawnNpcFromTable zoneId entry.request t.world
  let t := t.apply .spawns (fun _ _ => world) entry
  match spawned with
  | some (entityId, entityType) =>
      t.callIfWanted host zoneId (.onEntitySpawn (toString entityId) entityType entry.request)
  | none => t

def spawnRequestedNpcs : Turn σ Position :=
  (t.pending .spawns).foldl (fun t entry => t.spawnNpc host zoneId entry) (t.take .spawns)

/-- The turn of a plugin in `fire_hook`. -/
def fireHook (hook : HookCall Position) : Turn σ Position :=
  if t.runtime.wants hook.hookName then (t.call host zoneId hook).drainAndApply host zoneId else t

/-- The turn of a plugin in a tick of the zone. -/
def tick (routes : List (EntityId × Position)) : Turn σ Position :=
  if !t.runtime.wants "on-npc-tick" && !t.runtime.wants "on-tick" then t
  else
    let t :=
      if t.runtime.wants "on-npc-tick" then
        routes.foldl (fun t (entity, position) =>
          t.call host zoneId (.onNpcTick (toString entity) position)) t
      else t
    let t := if t.runtime.wants "on-tick" then t.call host zoneId .onTick else t
    t.drainAndApply host zoneId

/-- The turn of the plugin that owns a message type or a chat command. -/
def ownHook (hook : HookCall Position) : Turn σ Position :=
  ((t.call host zoneId hook).spawnRequestedNpcs host zoneId).drainAndApply host zoneId

end Turn

section Plugins

variable {σ Position : Type}

/-- The turns of all plugins in load order. -/
def forEachPlugin (turn : Turn σ Position → Turn σ Position) :
    List (PluginRuntime Position) → σ → List (PluginRuntime Position) × σ
  | [], world => ([], world)
  | runtime :: runtimes, world =>
      let t := turn ⟨runtime, world⟩
      let (runtimes, world) := forEachPlugin turn runtimes t.world
      (t.runtime :: runtimes, world)

/-- The turn of the first plugin that there is of its kind. -/
def forOwner (owns : PluginRuntime Position → Bool) (turn : Turn σ Position → Turn σ Position) :
    List (PluginRuntime Position) → σ → List (PluginRuntime Position) × σ
  | [], world => ([], world)
  | runtime :: runtimes, world =>
      if owns runtime then
        let t := turn ⟨runtime, world⟩
        (t.runtime :: runtimes, t.world)
      else
        let (runtimes, world) := forOwner owns turn runtimes world
        (runtime :: runtimes, world)

/-- What makes an actor call hooks: its tick, or a `WorldCommand`. -/
inductive Dispatch (Position : Type) where
  /-- With the NPCs of the zone that have a route. -/
  | tick (routes : List (EntityId × Position))
  | pluginMessage (messageType : UInt16) (sender : EntityId) (payload : List UInt8)
  | chatCommand (command args : String) (sender : EntityId)
  | playerJoin (entityId : EntityId)
  | playerLeave (entityId : EntityId)
  | attack (attacker target : EntityId) (statKey : String)
  | useItem (entityId : EntityId) (itemType : String)
  | interactNpc (npc actor : EntityId)
  | itemDropped (entityId : EntityId) (itemType : String) (quantity : Int)

/-- What the actor of the zone does with the plugins. -/
def runDispatch (host : Host σ Position) (zoneId : String) (plugins : List (PluginRuntime Position))
    (world : σ) : Dispatch Position → List (PluginRuntime Position) × σ
  | .tick routes => forEachPlugin (fun t => t.tick host zoneId routes) plugins world
  | .pluginMessage messageType sender payload =>
      forOwner (fun runtime => runtime.messageTypes.contains messageType)
        (fun t => t.ownHook host zoneId (.onMessage messageType (toString sender) payload))
        plugins world
  | .chatCommand command args sender =>
      forOwner (fun runtime => runtime.chatCommands.contains command)
        (fun t => t.ownHook host zoneId (.onChatCommand command args (toString sender)))
        plugins world
  | .playerJoin entityId => fanOut (.onPlayerJoinZone (toString entityId))
  | .playerLeave entityId => fanOut (.onPlayerLeaveZone (toString entityId))
  | .attack attacker target statKey =>
      if (host.kindOf zoneId target world).isNone then (plugins, world)
      else fanOut (.onDamageCalc (toString attacker) (toString target) statKey 0)
  | .useItem entityId itemType => fanOut (.onItemUse (toString entityId) itemType)
  | .interactNpc npc actor =>
      if host.kindOf zoneId npc world ≠ some .npc then (plugins, world)
      else fanOut (.onNpcInteract (toString npc) (toString actor))
  | .itemDropped entityId itemType quantity =>
      fanOut (.onItemDrop (toString entityId) itemType quantity)
where
  fanOut (hook : HookCall Position) : List (PluginRuntime Position) × σ :=
    forEachPlugin (fun t => t.fireHook host zoneId hook) plugins world

/-- A dispatch is a round of each plugin's queues. -/
def dispatch (host : Host σ Position) (zoneId : String) (plugins : List (PluginRuntime Position))
    (world : σ) (d : Dispatch Position) : List (PluginRuntime Position) × σ :=
  runDispatch host zoneId
    (plugins.map fun runtime => { runtime with outbox := runtime.outbox.newRound }) world d

end Plugins

end WorldZero.Server.World
