import WorldZero.Server.PluginCallbacks
import WorldZero.Transition

/-!
# Capabilities confine plugins

What a plugin does goes through the gate, and then waits in the queues of the plugin for
whoever drains them, in this dispatch or a later one, at this zone or another. So the queues
of a plugin hold only what its capabilities cover, always; and what no plugin's capabilities
cover stays as everything else in the server leaves it.
-/

namespace WorldZero.Server

open Outbox

/-! ### What a plugin's turn keeps -/

namespace World

variable {σ Position β : Type}

/-- What can be seen of the world is left alone by the hooks of a plugin, which queue only
what is granted, and by whatever is done for the requests that are granted. -/
structure Keeps (host : Host σ Position) (plugin : String) (Granted : Queue → Prop)
    (view : σ → β) : Prop where
  call : ∀ zoneId hook w, view (host.call plugin zoneId hook w).2 = view w ∧
    ∀ call ∈ (host.call plugin zoneId hook w).1, ∀ q, call.queues q ≠ none → Granted q
  move : Granted .moves → ∀ zoneId request w, view (host.move zoneId request w) = view w
  teleport : Granted .teleports →
    ∀ zoneId request w, view (host.teleport zoneId request w) = view w
  statDelta : Granted .statDeltas →
    ∀ zoneId request w, view (host.statDelta zoneId request w) = view w
  itemGrant : Granted .itemGrants → ∀ request w, view (host.itemGrant request w).2 = view w
  itemRemoval : Granted .itemRemovals → ∀ request w, view (host.itemRemoval request w) = view w
  currencyDelta : Granted .currencyDeltas →
    ∀ request w, view (host.currencyDelta request w) = view w
  stateWrite : ∀ request w, view (host.stateWrite request w) = view w
  spawnNpc : Granted .spawns →
    ∀ zoneId request w, view (host.spawnNpcFromTable zoneId request w).2 = view w
  registerItemType : Granted .itemRegistrations →
    ∀ entry w, view (host.registerItemType entry w) = view w

namespace Turn

variable {host : Host σ Position} {plugin zoneId : String} {Granted : Queue → Prop}
  {view : σ → β} {v : β} {t : Turn σ Position} {q : Queue}

/-- A turn of the plugin, in whose queues there is only what is granted, with nothing changed
that is seen. -/
structure Kept (plugin : String) (Granted : Queue → Prop) (view : σ → β) (v : β)
    (t : Turn σ Position) : Prop where
  name : t.runtime.name = plugin
  within : ∀ q, t.pending q ≠ [] → Granted q
  same : view t.world = v

namespace Kept

/-- A hook has queued what it has been granted. -/
theorem queue {t' : Turn σ Position} {calls : List (HostCall Position)}
    (kept : Kept plugin Granted view v t) (name : t'.runtime.name = t.runtime.name)
    (pending : ∀ q, t'.pending q = t.pending q ++
      (calls.filterMap fun call => call.queues q).map fun request => ⟨request, true⟩)
    (seen : view t'.world = view t.world)
    (granted : ∀ call ∈ calls, ∀ q, call.queues q ≠ none → Granted q) :
    Kept plugin Granted view v t' := by
  refine ⟨name.trans kept.name, fun q queued => ?_, seen.trans kept.same⟩
  by_cases before : t.pending q = []
  · rw [pending, before, List.nil_append, ne_eq, List.map_eq_nil_iff,
      List.filterMap_eq_nil_iff] at queued
    obtain ⟨call, made, here⟩ := not_forall₂.mp queued
    exact granted call made q here
  · exact kept.within q before

theorem call (kept : Kept plugin Granted view v t) (keeps : Keeps host plugin Granted view)
    (hook : HookCall Position) : Kept plugin Granted view v (t.call host zoneId hook) := by
  obtain ⟨seen, granted⟩ := keeps.call zoneId hook t.world
  rw [← kept.name] at seen granted
  exact kept.queue rfl (fun q => rfl) seen granted

theorem callIfWanted (kept : Kept plugin Granted view v t)
    (keeps : Keeps host plugin Granted view) (hook : HookCall Position) :
    Kept plugin Granted view v (t.callIfWanted host zoneId hook) := by
  unfold Turn.callIfWanted
  split
  · exact kept.call keeps hook
  · exact kept

theorem take (kept : Kept plugin Granted view v t) (q : Queue) :
    Kept plugin Granted view v (t.take q) := by
  refine ⟨kept.name, fun q' queued => kept.within q' fun empty => queued ?_, kept.same⟩
  change (t.runtime.outbox.take q).pending q' = []
  by_cases same : q' = q
  · subst same
    exact Box.pending_take_self
  · rw [Box.pending_take_of_ne same]
    exact empty

theorem apply (kept : Kept plugin Granted view v t) {op : Request Position q → σ → σ}
    (entry : Entry (Request Position q)) (keeps : ∀ w, view (op entry.request w) = view w) :
    Kept plugin Granted view v (t.apply q op entry) :=
  ⟨kept.name, kept.within, (keeps t.world).trans kept.same⟩

theorem applyEach {entries : List (Entry (Request Position q))}
    (kept : Kept plugin Granted view v t) {op : Request Position q → σ → σ}
    (granted : entries ≠ [] → Granted q)
    (keeps : Granted q → ∀ request w, view (op request w) = view w) :
    Kept plugin Granted view v (t.applyEach q op entries) := by
  induction entries generalizing t with
  | nil => exact kept
  | cons entry entries ih =>
      have here : Granted q := granted (List.cons_ne_nil _ _)
      exact ih (kept.apply entry (keeps here entry.request)) fun _ => here

theorem applyGrants {entries : List (Entry (Request Position .itemGrants))}
    (kept : Kept plugin Granted view v t) (granted : entries ≠ [] → Granted .itemGrants)
    (keeps : Keeps host plugin Granted view) :
    Kept plugin Granted view v (applyGrants host entries t).2 := by
  induction entries generalizing t with
  | nil => exact kept
  | cons entry entries ih =>
      have here : Granted .itemGrants := granted (List.cons_ne_nil _ _)
      have next : Kept plugin Granted view v (t.apply .itemGrants
          (fun _ _ => (host.itemGrant entry.request t.world).2) entry) :=
        ⟨kept.name, kept.within, (keeps.itemGrant here entry.request t.world).trans kept.same⟩
      simp only [Turn.applyGrants]
      split <;> exact ih next fun _ => here

/-- A queue whose entries are confirmed only. -/
theorem confirmEach (zoneId : String) (kept : Kept plugin Granted view v t)
    (keeps : Keeps host plugin Granted view) (q : Queue)
    (hook : Request Position q → HookCall Position) :
    Kept plugin Granted view v ((t.take q).confirmEach host zoneId q hook (t.pending q)) := by
  have each (entries : List (Entry (Request Position q))) {t : Turn σ Position}
      (kept : Kept plugin Granted view v t) :
      Kept plugin Granted view v (t.confirmEach host zoneId q hook entries) := by
    induction entries generalizing t with
    | nil => exact kept
    | cons entry entries ih =>
        exact ih ((kept.apply entry fun _ => rfl).callIfWanted keeps (hook entry.request))
  exact each (t.pending q) (kept.take q)

theorem acquired (zoneId : String) (kept : Kept plugin Granted view v t)
    (keeps : Keeps host plugin Granted view)
    (hook : String × String × Int → HookCall Position) (grants : List (String × String × Int)) :
    Kept plugin Granted view v
      (grants.foldl (fun t grant => t.callIfWanted host zoneId (hook grant)) t) := by
  induction grants generalizing t with
  | nil => exact kept
  | cons grant grants ih => exact ih (kept.callIfWanted keeps (hook grant))

theorem takePendingEffects (kept : Kept plugin Granted view v t) :
    Kept plugin Granted view v t.takePendingEffects :=
  ((((((kept.take .moves).take .teleports).take .statDeltas).take .itemGrants).take
    .itemRemovals).take .currencyDeltas).take .stateWrites

/-- The entries have been in the queues before they were taken. -/
theorem applyPluginPendingEffects {t' : Turn σ Position} (kept : Kept plugin Granted view v t)
    (kept' : Kept plugin Granted view v t') (keeps : Keeps host plugin Granted view) :
    Kept plugin Granted view v
      (t'.applyPluginPendingEffects host zoneId t.pendingEffects).2 := by
  have moved := kept'.applyEach (kept.within .moves) fun granted => keeps.move granted zoneId
  have teleported := moved.applyEach (kept.within .teleports) fun granted =>
    keeps.teleport granted zoneId
  have changed := teleported.applyEach (kept.within .statDeltas) fun granted =>
    keeps.statDelta granted zoneId
  have gained := changed.applyGrants (kept.within .itemGrants) keeps
  have removed := gained.applyEach (kept.within .itemRemovals) keeps.itemRemoval
  have paid := removed.applyEach (kept.within .currencyDeltas) keeps.currencyDelta
  exact paid.applyEach (kept.within .stateWrites) fun _ => keeps.stateWrite

theorem confirm (kept : Kept plugin Granted view v t) (keeps : Keeps host plugin Granted view)
    (grants : List (String × String × Int)) :
    Kept plugin Granted view v (t.confirm host zoneId grants) := by
  have told := kept.acquired zoneId keeps
    (fun grant => .onItemAcquire grant.1 grant.2.1 grant.2.2) grants
  have died := told.confirmEach zoneId keeps .deaths .onDeath
  have respawned := died.confirmEach zoneId keeps .respawns .onRespawn
  exact (respawned.take .itemRegistrations).applyEach (respawned.within .itemRegistrations)
    keeps.registerItemType

theorem drainAndApply (kept : Kept plugin Granted view v t)
    (keeps : Keeps host plugin Granted view) :
    Kept plugin Granted view v (t.drainAndApply host zoneId) :=
  (kept.applyPluginPendingEffects kept.takePendingEffects keeps).confirm keeps _

theorem spawnNpc (kept : Kept plugin Granted view v t) (keeps : Keeps host plugin Granted view)
    (granted : Granted .spawns) (entry : Entry String) :
    Kept plugin Granted view v (t.spawnNpc host zoneId entry) := by
  have spawned : Kept plugin Granted view v (t.apply .spawns
      (fun _ _ => (host.spawnNpcFromTable zoneId entry.request t.world).2) entry) :=
    ⟨kept.name, kept.within, (keeps.spawnNpc granted zoneId entry.request t.world).trans kept.same⟩
  unfold Turn.spawnNpc
  simp only
  split
  · exact spawned.callIfWanted keeps _
  · exact spawned

theorem spawnRequestedNpcs (kept : Kept plugin Granted view v t)
    (keeps : Keeps host plugin Granted view) :
    Kept plugin Granted view v (t.spawnRequestedNpcs host zoneId) := by
  have each (entries : List (Entry String)) (granted : entries ≠ [] → Granted .spawns)
      {t : Turn σ Position} (kept : Kept plugin Granted view v t) :
      Kept plugin Granted view v
        (entries.foldl (fun t entry => t.spawnNpc host zoneId entry) t) := by
    induction entries generalizing t with
    | nil => exact kept
    | cons entry entries ih =>
        have here : Granted .spawns := granted (List.cons_ne_nil _ _)
        exact ih (fun _ => here) (kept.spawnNpc keeps here entry)
  exact each (t.pending .spawns) (kept.within .spawns) (kept.take .spawns)

theorem fireHook (kept : Kept plugin Granted view v t) (keeps : Keeps host plugin Granted view)
    (hook : HookCall Position) : Kept plugin Granted view v (t.fireHook host zoneId hook) := by
  unfold Turn.fireHook
  split
  · exact (kept.call keeps hook).drainAndApply keeps
  · exact kept

theorem routes (kept : Kept plugin Granted view v t) (keeps : Keeps host plugin Granted view)
    (routes : List (EntityId × Position)) :
    Kept plugin Granted view v (routes.foldl (fun t (entity, position) =>
      t.call host zoneId (.onNpcTick (toString entity) position)) t) := by
  induction routes generalizing t with
  | nil => exact kept
  | cons npc routes ih => exact ih (kept.call keeps _)

theorem tick (kept : Kept plugin Granted view v t) (keeps : Keeps host plugin Granted view)
    (routes : List (EntityId × Position)) :
    Kept plugin Granted view v (t.tick host zoneId routes) := by
  have ticked {t : Turn σ Position} (kept : Kept plugin Granted view v t) :
      Kept plugin Granted view v
        (if t.runtime.wants "on-tick" then t.call host zoneId .onTick else t) := by
    split
    · exact kept.call keeps .onTick
    · exact kept
  unfold Turn.tick
  split
  · exact kept
  · refine drainAndApply (ticked ?_) keeps
    split
    · exact kept.routes keeps routes
    · exact kept

theorem ownHook (kept : Kept plugin Granted view v t) (keeps : Keeps host plugin Granted view)
    (hook : HookCall Position) : Kept plugin Granted view v (t.ownHook host zoneId hook) :=
  ((kept.call keeps hook).spawnRequestedNpcs keeps).drainAndApply keeps

end Kept

end Turn

/-! ### What all plugins keep -/

/-- The queues of each plugin hold only what it is granted, and what is seen is as it was. -/
structure AllKept (Granted : String → Queue → Prop) (view : σ → β) (v : β)
    (s : List (PluginRuntime Position) × σ) : Prop where
  within : ∀ runtime ∈ s.1, ∀ q, runtime.outbox.pending q ≠ [] → Granted runtime.name q
  same : view s.2 = v

namespace AllKept

variable {host : Host σ Position} {zoneId : String} {Granted : String → Queue → Prop}
  {view : σ → β} {v : β} {plugins : List (PluginRuntime Position)} {world : σ}
  {runtime : PluginRuntime Position} {turn : Turn σ Position → Turn σ Position}

theorem head (kept : AllKept Granted view v (runtime :: plugins, world)) :
    Turn.Kept runtime.name (Granted runtime.name) view v ⟨runtime, world⟩ :=
  ⟨rfl, kept.within runtime List.mem_cons_self, kept.same⟩

theorem tail (kept : AllKept Granted view v (runtime :: plugins, world)) :
    AllKept Granted view v (plugins, world) :=
  ⟨fun runtime here => kept.within runtime (List.mem_cons_of_mem _ here), kept.same⟩

theorem cons {plugin : String} {t : Turn σ Position}
    (first : Turn.Kept plugin (Granted plugin) view v t)
    (rest : AllKept Granted view v (plugins, world)) :
    AllKept Granted view v (t.runtime :: plugins, world) := by
  refine ⟨fun runtime here => ?_, rest.same⟩
  rcases List.mem_cons.mp here with rfl | later
  · rw [first.name]
    exact first.within
  · exact rest.within runtime later

theorem forEachPlugin (kept : AllKept Granted view v (plugins, world))
    (each : ∀ plugin t, Turn.Kept plugin (Granted plugin) view v t →
      Turn.Kept plugin (Granted plugin) view v (turn t)) :
    AllKept Granted view v (World.forEachPlugin turn plugins world) := by
  induction plugins generalizing world with
  | nil => exact kept
  | cons runtime plugins ih =>
      have first := each runtime.name ⟨runtime, world⟩ kept.head
      exact cons first (ih ⟨kept.tail.within, first.same⟩)

theorem forOwner {owns : PluginRuntime Position → Bool}
    (kept : AllKept Granted view v (plugins, world))
    (each : ∀ plugin t, Turn.Kept plugin (Granted plugin) view v t →
      Turn.Kept plugin (Granted plugin) view v (turn t)) :
    AllKept Granted view v (World.forOwner owns turn plugins world) := by
  induction plugins generalizing world with
  | nil => exact kept
  | cons runtime plugins ih =>
      simp only [World.forOwner]
      split
      · have own := each runtime.name ⟨runtime, world⟩ kept.head
        exact cons own ⟨kept.tail.within, own.same⟩
      · exact cons kept.head (ih kept.tail)

theorem runDispatch (kept : AllKept Granted view v (plugins, world))
    (keeps : ∀ plugin, Keeps host plugin (Granted plugin) view) (d : Dispatch Position) :
    AllKept Granted view v (World.runDispatch host zoneId plugins world d) := by
  have fanOut (hook : HookCall Position) :
      AllKept Granted view v (runDispatch.fanOut host zoneId plugins world hook) :=
    kept.forEachPlugin fun plugin t own => own.fireHook (keeps plugin) hook
  cases d with
  | tick routes => exact kept.forEachPlugin fun plugin t own => own.tick (keeps plugin) routes
  | pluginMessage => exact kept.forOwner fun plugin t own => own.ownHook (keeps plugin) _
  | chatCommand => exact kept.forOwner fun plugin t own => own.ownHook (keeps plugin) _
  | playerJoin | playerLeave | useItem | itemDropped => exact fanOut _
  | attack =>
      simp only [World.runDispatch]
      split
      · exact kept
      · exact fanOut _
  | interactNpc =>
      simp only [World.runDispatch]
      split
      · exact kept
      · exact fanOut _

theorem dispatch (kept : AllKept Granted view v (plugins, world))
    (keeps : ∀ plugin, Keeps host plugin (Granted plugin) view) (d : Dispatch Position) :
    AllKept Granted view v (World.dispatch host zoneId plugins world d) := by
  have renewed : AllKept Granted view v
      (plugins.map fun runtime => { runtime with outbox := runtime.outbox.newRound }, world) := by
    refine ⟨fun runtime here q queued => ?_, kept.same⟩
    obtain ⟨before, loaded, rfl⟩ := List.mem_map.mp here
    refine kept.within before loaded q fun empty => queued ?_
    change (before.outbox.pending q).map _ = []
    rw [empty, List.map_nil]
  exact renewed.runDispatch keeps d

end AllKept

end World

/-! ### The plugins of a process -/

namespace Plugins

open PluginHost (HostFunction PluginManifest capabilityCombat capabilityEconomy capabilityAdmin
  capabilityMessaging capabilityMovement capabilitySpawning queueCapability requiredCapability)
open Server.World (Dispatch HostCall Keeps PluginRuntime Queue Request Turn)
open WorldZero.Content (Point Point3 SpawnTable)
open WorldZero.World (FloorI64 GridIndex Zone)

/-- What a capability guards. -/
inductive Aspect where
  | npcs
  | moves
  | teleports
  | stats
  | holdings
  | itemCatalog
  | messages
  | zoneChannels
  deriving DecidableEq

namespace Aspect

def capability : Aspect → String
  | .npcs => capabilitySpawning
  | .moves => capabilityMovement
  | .teleports => capabilityAdmin
  | .stats => capabilityCombat
  | .holdings | .itemCatalog => capabilityEconomy
  | .messages | .zoneChannels => capabilityMessaging

abbrev View (K : Type) : Aspect → Type
  | .npcs => String → (EntityId → Option WorldZero.World.EntityKind) ×
      (EntityId → Option String) × (EntityId → Option String) × GridIndex K
  | .moves => String → List (EntityId × Point3 K × UInt32)
  | .teleports => String → List (EntityId × Point3 K)
  | .stats => NpcStats × List StoreCall
  | .holdings => List StoreCall
  | .itemCatalog => (String → Option World.ItemCatalogEntry) × List StoreCall
  | .messages => List (EntityId × String)
  | .zoneChannels => EntityId → List String

end Aspect

/-- The aspect that a call of a store is about; plugins' own data is none. -/
def StoreCall.about : StoreCall → Option Aspect
  | .applyStatDelta .. => some .stats
  | .grantItem .. | .removeItem .. | .modifyCurrency .. => some .holdings
  | .register _ => some .itemCatalog
  | .setCharacterState .. | .setZoneState .. => none

variable {K M : Type}

def npcsOf (zone : Zone K) : (EntityId → Option WorldZero.World.EntityKind) ×
    (EntityId → Option String) × (EntityId → Option String) × GridIndex K :=
  (zone.entities, zone.npcRoutes, zone.entityTypes, zone.index)

def Process.callsAbout (p : Process K M) (a : Aspect) : List StoreCall :=
  p.storeCalls.filter fun call => call.about = some a

/-- The aspect of a process. -/
def Process.view (p : Process K M) : (a : Aspect) → a.View K
  | .npcs => fun zoneId => npcsOf (p.zones zoneId)
  | .moves => fun zoneId => (p.zones zoneId).pendingMoves
  | .teleports => fun zoneId => (p.zones zoneId).pendingTeleports
  | .stats => (p.npcStats, p.callsAbout .stats)
  | .holdings => p.callsAbout .holdings
  | .itemCatalog => (p.itemCatalogCache, p.callsAbout .itemCatalog)
  | .messages => p.pluginMessages
  | .zoneChannels => p.blockedZoneChannels

/-- The plugin has declared the capability without which nothing comes into the queue. -/
def Granted (deployment : Deployment K M) (plugin : String) (q : Queue) : Prop :=
  ∀ capability, queueCapability q = some capability → capability ∈ capabilities deployment plugin

section Keeps

variable {deployment : Deployment K M} {plugin zoneId : String} {a : Aspect} {p : Process K M}
  {q : Queue}

/-- An aspect that is not declared is not one that a granted request is about. -/
theorem ne_of_granted {b : Aspect} (undeclared : a.capability ∉ capabilities deployment plugin)
    (granted : Granted deployment plugin q) (guards : queueCapability q = some b.capability) :
    a ≠ b := by
  rintro rfl
  exact undeclared (granted _ guards)

variable (deployment) in
theorem view_store (call : StoreCall) (other : call.about ≠ some a) :
    (p.store deployment call).2.view a = p.view a := by
  cases a with
  | stats | holdings | itemCatalog =>
      simp [Process.store, Process.view, Process.callsAbout, other]
  | npcs | moves | teleports | messages | zoneChannels => rfl

theorem atZone_view {γ : Type} (g : Zone K → γ) (f : Zone K → Zone K)
    (kept : ∀ zone, g (f zone) = g zone) :
    (fun id => g ((p.atZone zoneId f).zones id)) = fun id => g (p.zones id) := by
  funext id
  by_cases here : id = zoneId
  · subst here
    simp [Process.atZone, kept]
  · simp [Process.atZone, here]

/-- A change of a zone is one of the aspects that it is about. -/
theorem view_atZone {f : Zone K → Zone K}
    (npcs : a = .npcs → ∀ zone, npcsOf (f zone) = npcsOf zone)
    (moves : a = .moves → ∀ zone, (f zone).pendingMoves = zone.pendingMoves)
    (teleports : a = .teleports → ∀ zone, (f zone).pendingTeleports = zone.pendingTeleports) :
    (p.atZone zoneId f).view a = p.view a := by
  cases a with
  | npcs => exact atZone_view npcsOf f (npcs rfl)
  | moves => exact atZone_view (fun zone => zone.pendingMoves) f (moves rfl)
  | teleports => exact atZone_view (fun zone => zone.pendingTeleports) f (teleports rfl)
  | stats | holdings | itemCatalog | messages | zoneChannels => rfl

theorem view_requestMove {entity : EntityId} {position : Point3 K} (other : a ≠ .moves) :
    (p.atZone zoneId fun zone => zone.requestMove entity position 0).view a = p.view a :=
  view_atZone (fun _ _ => rfl) (fun same => absurd same other) fun _ _ => rfl

theorem view_requestTeleport {entity : EntityId} {position : Point3 K} (other : a ≠ .teleports) :
    (p.atZone zoneId fun zone => zone.requestTeleport entity position).view a = p.view a :=
  view_atZone (fun _ _ => rfl) (fun _ _ => rfl) fun same => absurd same other

theorem view_npcStats {npcStats : NpcStats} (other : a ≠ .stats) :
    { p with npcStats }.view a = p.view a := by
  cases a with
  | stats => exact absurd rfl other
  | npcs | moves | teleports | holdings | itemCatalog | messages | zoneChannels => rfl

theorem view_memory {memory : String → M} : { p with memory }.view a = p.view a := by
  cases a <;> rfl

theorem view_spawned {spawned : ℕ} : { p with spawned }.view a = p.view a := by
  cases a <;> rfl

section Spawn

variable [Zero K] [Div K] [FloorI64 K] {table : SpawnTable K} {entityId : EntityId}
  {point : Point K} {zone : Zone K} {spawnTableId : String}

/-- The NPC waits for nothing. -/
theorem pending_spawnAt :
    (Process.spawnAt table entityId point zone).pendingMoves = zone.pendingMoves ∧
      (Process.spawnAt table entityId point zone).pendingTeleports = zone.pendingTeleports := by
  unfold Process.spawnAt
  cases table.routeId with
  | none => exact ⟨rfl, rfl⟩
  | some routeId =>
      simp only [Zone.spawnNpcWithRoute]
      split <;> exact ⟨rfl, rfl⟩

theorem view_spawnNpcFromTable (other : a ≠ .npcs) :
    (p.spawnNpcFromTable deployment zoneId spawnTableId).2.view a = p.view a := by
  unfold Process.spawnNpcFromTable
  split
  · rfl
  split
  · rfl
  · refine view_spawned.trans (view_atZone (fun same => absurd same other) ?_ ?_)
    · exact fun _ _ => pending_spawnAt.1
    · exact fun _ _ => pending_spawnAt.2

end Spawn

/-- From one state of a call to another the aspect is as it was, and what has been queued is
granted. -/
def Calling.Kept (deployment : Deployment K M) (plugin : String) (a : Aspect)
    (c c' : Calling K M) : Prop :=
  c'.process.view a = c.process.view a ∧ ∀ call ∈ c'.queued, call ∈ c.queued ∨
    ∀ q, call.queues q ≠ none → Granted deployment plugin q

namespace Calling.Kept

variable {c c' c'' : Calling K M}

theorem refl (c : Calling K M) : Kept deployment plugin a c c :=
  ⟨rfl, fun _ here => .inl here⟩

theorem trans (first : Kept deployment plugin a c c') (second : Kept deployment plugin a c' c'') :
    Kept deployment plugin a c c'' := by
  refine ⟨second.1.trans first.1, fun call here => ?_⟩
  rcases second.2 call here with earlier | granted
  · exact first.2 call earlier
  · exact .inr granted

theorem process {process : Process K M} (same : process.view a = c.process.view a) :
    Kept deployment plugin a c { c with process } :=
  ⟨same, fun _ here => .inl here⟩

theorem queue {call : HostCall (Point3 K)}
    (granted : ∀ q, call.queues q ≠ none → Granted deployment plugin q) :
    Kept deployment plugin a c (c.queue call) := by
  refine ⟨rfl, fun call' here => ?_⟩
  rcases List.mem_append.mp here with before | new
  · exact .inl before
  · rw [List.mem_singleton.mp new]
    exact .inr granted

end Calling.Kept

/-- The capability that admits a function covers what it queues. -/
theorem granted_of_admitted {call : HostCall (Point3 K)} {f : HostFunction (Point3 K)}
    (admitted : ∀ capability, requiredCapability f.name = some capability →
      capability ∈ capabilities deployment plugin)
    (covers : ∀ q, call.queues q ≠ none → queueCapability q = requiredCapability f.name) :
    ∀ q, call.queues q ≠ none → Granted deployment plugin q := by
  intro q queued capability required
  rw [covers q queued] at required
  exact admitted capability required

theorem pluginCallbacks_kept (undeclared : a.capability ∉ capabilities deployment plugin)
    (f : HostFunction (Point3 K))
    (admitted : ∀ capability, requiredCapability f.name = some capability →
      capability ∈ capabilities deployment plugin) (c : Calling K M) :
    Calling.Kept deployment plugin a c (pluginCallbacks deployment f c).2 := by
  have queued {call : HostCall (Point3 K)}
      (covers : ∀ q, call.queues q ≠ none → queueCapability q = requiredCapability f.name) :
      Calling.Kept deployment plugin a c (c.queue call) :=
    .queue (granted_of_admitted admitted covers)
  cases f with
  | sendMessage targetEntityId body =>
      have declared : capabilityMessaging ∈ capabilities deployment plugin := admitted _ rfl
      simp only [pluginCallbacks, Calling.sendMessage]
      split
      · exact .refl c
      split
      · refine .process ?_
        cases a with
        | messages => exact absurd declared undeclared
        | npcs | moves | teleports | stats | holdings | itemCatalog | zoneChannels => rfl
      · exact .refl c
      · exact .refl c
  | blockZoneChannel entityId category =>
      have declared : capabilityMessaging ∈ capabilities deployment plugin := admitted _ rfl
      simp only [pluginCallbacks, Calling.blockZoneChannel]
      split
      · exact .refl c
      · refine .process ?_
        cases a with
        | zoneChannels => exact absurd declared undeclared
        | npcs | moves | teleports | stats | holdings | itemCatalog | messages => rfl
  | registerItemType itemType displayName tags metadata =>
      have declared : capabilityEconomy ∈ capabilities deployment plugin := admitted _ rfl
      simp only [pluginCallbacks, Calling.registerItemType]
      split
      · exact .refl c
      split
      · exact .refl c
      · refine .trans (.process ?_) (.queue (granted_of_admitted admitted fun q queued => ?_))
        · cases a with
          | itemCatalog => exact absurd declared undeclared
          | npcs | moves | teleports | stats | holdings | messages | zoneChannels => rfl
        · cases q <;> first | rfl | exact absurd rfl queued
  | pluginStateSet scope key value =>
      refine .trans (.process ?_) (.queue fun q queued => ?_)
      · cases a <;> rfl
      · cases scope <;> cases q <;>
          first | exact absurd rfl queued | exact fun _ required => by cases required
  | callerRole | pluginStateGet | getItem => exact .refl c
  | _ =>
      refine queued fun q here => ?_
      cases q <;> first | rfl | exact absurd rfl here

theorem call_kept (undeclared : a.capability ∉ capabilities deployment plugin)
    (hook : Export (Point3 K)) (p : Process K M) :
    Calling.Kept deployment plugin a ⟨p, []⟩ (call deployment plugin hook p).2 := by
  have gated : Sandbox.Functions.Keeps (Calling.Kept deployment plugin a)
      (PluginHost.capabilityGated (capabilities deployment plugin) (pluginCallbacks deployment)) :=
    Sandbox.Functions.keeps_gate Calling.Kept.refl fun f admitted c =>
      pluginCallbacks_kept undeclared f (PluginHost.refusal_eq_none.mp admitted) c
  exact (Sandbox.Guest.run_rel Calling.Kept.refl Calling.Kept.trans gated _ ⟨p, []⟩).trans
    (.process view_memory)

theorem granted_of_call (undeclared : a.capability ∉ capabilities deployment plugin)
    (hook : Export (Point3 K)) (p : Process K M) :
    ∀ queued ∈ (Plugins.call deployment plugin hook p).2.queued, ∀ q, queued.queues q ≠ none →
      Granted deployment plugin q := by
  intro queued here
  rcases (call_kept undeclared hook p).2 queued here with before | granted
  · cases before
  · exact granted

variable [Zero K] [Div K] [FloorI64 K]

/-- An aspect whose capability the plugin has not declared. -/
theorem keeps_host (undeclared : a.capability ∉ capabilities deployment plugin) :
    Keeps (host deployment) plugin (Granted deployment plugin) fun p => p.view a where
  call zoneId hook p := ⟨(call_kept undeclared _ p).1, granted_of_call undeclared _ p⟩
  move granted zoneId request p := by
    obtain ⟨entityId, position⟩ := request
    simp only [World.Host.move]
    split
    · exact view_requestMove (ne_of_granted undeclared granted rfl)
    · rfl
  teleport granted zoneId request p := by
    obtain ⟨entityId, position⟩ := request
    simp only [World.Host.teleport]
    split
    · exact view_requestTeleport (ne_of_granted undeclared granted rfl)
    · rfl
  statDelta granted zoneId request p := by
    obtain ⟨entityId, statKey, delta⟩ := request
    have other : a ≠ .stats := ne_of_granted undeclared granted rfl
    simp only [World.Host.statDelta]
    split
    · rfl
    split
    · split
      · exact view_store deployment _ (mt Option.some.inj other.symm)
      · rfl
    · exact view_npcStats other
    · rfl
  itemGrant granted request p := by
    obtain ⟨entityId, itemType, quantity⟩ := request
    have other : a ≠ .holdings := ne_of_granted undeclared granted rfl
    simp only [World.Host.itemGrant]
    split
    · exact view_store deployment _ (mt Option.some.inj other.symm)
    · rfl
  itemRemoval granted request p := by
    obtain ⟨entityId, itemType, quantity⟩ := request
    have other : a ≠ .holdings := ne_of_granted undeclared granted rfl
    simp only [World.Host.itemRemoval]
    split
    · exact view_store deployment _ (mt Option.some.inj other.symm)
    · rfl
  currencyDelta granted request p := by
    obtain ⟨entityId, currencyKey, delta⟩ := request
    have other : a ≠ .holdings := ne_of_granted undeclared granted rfl
    simp only [World.Host.currencyDelta]
    split
    · split
      · exact view_store deployment _ (mt Option.some.inj other.symm)
      · rfl
    · rfl
  stateWrite request p := by
    obtain ⟨scope, key, value⟩ := request
    cases scope with
    | character entityId =>
        simp only [World.Host.stateWrite]
        split
        · exact view_store deployment _ (Option.some_ne_none a).symm
        · rfl
    | entity => rfl
    | zone => exact view_store deployment _ (Option.some_ne_none a).symm
  spawnNpc granted zoneId request p :=
    view_spawnNpcFromTable (ne_of_granted undeclared granted rfl)
  registerItemType granted entry p := by
    have other : a ≠ .itemCatalog := ne_of_granted undeclared granted rfl
    exact view_store deployment _ (mt Option.some.inj other.symm)

end Keeps

/-! ### Runs -/

section Runs

variable {deployment : Deployment K M} {a : Aspect} {s t : State K M}

/-- No plugin of the deployment has declared the capability that guards the aspect. -/
def Undeclared (deployment : Deployment K M) (a : Aspect) : Prop :=
  ∀ manifest ∈ deployment.discovered, a.capability ∉ manifest.plugin.capabilities

theorem Undeclared.plugin (undeclared : Undeclared deployment a) (plugin : String) :
    a.capability ∉ capabilities deployment plugin := by
  unfold capabilities
  cases found : deployment.discovered.find? fun m => m.plugin.name = plugin with
  | none => simp
  | some manifest => exact undeclared manifest (List.mem_of_find?_eq_some found)

/-- The turn has kept the aspect. -/
abbrev TurnKept (deployment : Deployment K M) (a : Aspect) (v : a.View K) (plugin : String)
    (t : PluginTurn K M) : Prop :=
  Turn.Kept plugin (Granted deployment plugin) (fun p => p.view a) v t

section Turns

variable {v : a.View K} {plugin : String} {t : PluginTurn K M}

theorem TurnKept.call (kept : TurnKept deployment a v plugin t)
    (undeclared : Undeclared deployment a) (hook : Export (Point3 K)) :
    TurnKept deployment a v plugin (t.call deployment hook).2 := by
  obtain rfl := kept.name
  have its := undeclared.plugin t.runtime.name
  exact kept.queue rfl (fun q => rfl) (call_kept its hook t.world).1
    (granted_of_call its hook t.world)

theorem TurnKept.applyCharacterStatDeltas (kept : TurnKept deployment a v plugin t)
    (undeclared : Undeclared deployment a) :
    TurnKept deployment a v plugin (t.applyCharacterStatDeltas deployment) := by
  refine (kept.take .characterStatDeltas).applyEach (kept.within .characterStatDeltas) ?_
  intro granted request p
  obtain ⟨target, statKey, delta⟩ := request
  have other : a ≠ .stats := ne_of_granted (undeclared.plugin plugin) granted rfl
  simp only
  split
  · exact view_store deployment _ (mt Option.some.inj other.symm)
  · rfl

theorem TurnKept.fireOnCharacterCreate (kept : TurnKept deployment a v plugin t)
    (undeclared : Undeclared deployment a) (characterId : CharacterId) (zoneId : String) :
    TurnKept deployment a v plugin (t.fireOnCharacterCreate deployment characterId zoneId) := by
  unfold PluginTurn.fireOnCharacterCreate
  split
  · exact (kept.call undeclared _).applyCharacterStatDeltas undeclared
  · exact kept

theorem TurnKept.fireOnCraftComplete (kept : TurnKept deployment a v plugin t)
    (undeclared : Undeclared deployment a) (characterId : CharacterId) (recipeKey : String) :
    TurnKept deployment a v plugin (t.fireOnCraftComplete deployment characterId recipeKey) := by
  unfold PluginTurn.fireOnCraftComplete
  split
  · exact (kept.call undeclared _).applyCharacterStatDeltas undeclared
  · exact kept

theorem TurnKept.fireOnZoneLoaded [Zero K] [Div K] [FloorI64 K]
    (kept : TurnKept deployment a v plugin t) (undeclared : Undeclared deployment a)
    (zoneId : String) : TurnKept deployment a v plugin (t.fireOnZoneLoaded deployment zoneId) := by
  unfold PluginTurn.fireOnZoneLoaded
  split
  · exact (kept.call undeclared _).spawnRequestedNpcs (keeps_host (undeclared.plugin plugin))
  · exact kept

theorem TurnKept.registerAll {t' : PluginTurn K M}
    {entries : List (Entry (Request (Point3 K) .itemRegistrations))}
    (kept : TurnKept deployment a v plugin t) (undeclared : Undeclared deployment a)
    (granted : entries ≠ [] → Granted deployment plugin .itemRegistrations)
    (registered : PluginTurn.registerAll deployment entries t = some t') :
    TurnKept deployment a v plugin t' := by
  induction entries generalizing t with
  | nil => exact Option.some.inj registered ▸ kept
  | cons entry entries ih =>
      have here : Granted deployment plugin .itemRegistrations := granted (List.cons_ne_nil _ _)
      have other : a ≠ .itemCatalog := ne_of_granted (undeclared.plugin plugin) here rfl
      simp only [PluginTurn.registerAll] at registered
      split at registered
      · have next : TurnKept deployment a v plugin (t.apply .itemRegistrations
            (fun _ _ => (t.world.store deployment (.register entry.request)).2) entry) :=
          ⟨kept.name, kept.within,
            (view_store deployment (.register entry.request)
              (mt Option.some.inj other.symm)).trans kept.same⟩
        exact ih next (fun _ => here) registered
      · cases registered

end Turns

/-- The plugins that have been loaded, and the process. -/
abbrev StateKept (deployment : Deployment K M) (a : Aspect) (v : a.View K) (s : State K M) : Prop :=
  World.AllKept (Granted deployment) (fun p : Process K M => p.view a) v (s.plugins, s.process)

section Load

variable {v : a.View K} {manifest : PluginManifest} {p : Process K M} {u : PluginTurn K M}

theorem turnKept_of_loadPlugin (undeclared : Undeclared deployment a)
    (loaded : loadPlugin deployment manifest p = some u) :
    TurnKept deployment a (p.view a) manifest.plugin.name u := by
  have fresh : TurnKept deployment a (p.view a) manifest.plugin.name ⟨newRuntime manifest, p⟩ :=
    ⟨rfl, fun _ queued => absurd rfl queued, rfl⟩
  unfold loadPlugin at loaded
  split at loaded
  · cases loaded
  obtain ⟨t, fired, registered⟩ := Option.bind_eq_some_iff.mp loaded
  have kept : TurnKept deployment a (p.view a) manifest.plugin.name t := by
    simp only [PluginTurn.fireOnLoad] at fired
    split at fired
    · split at fired
      · exact Option.some.inj fired ▸ fresh.call undeclared .onLoad
      · cases fired
    · exact Option.some.inj fired ▸ fresh
  have dropped := kept.take .spawns
  exact TurnKept.registerAll (dropped.take .itemRegistrations) undeclared
    (dropped.within .itemRegistrations) registered

theorem stateKept_of_loadAll {manifests : List PluginManifest}
    (undeclared : Undeclared deployment a) (kept : StateKept deployment a v s)
    (loaded : loadAll deployment manifests s = some t) :
    StateKept deployment a v t := by
  induction manifests generalizing s with
  | nil => exact Option.some.inj loaded ▸ kept
  | cons manifest manifests ih =>
      obtain ⟨u, first, rest⟩ := Option.bind_eq_some_iff.mp loaded
      have own := turnKept_of_loadPlugin undeclared first
      refine ih ⟨fun runtime here => ?_, own.same.trans kept.same⟩ rest
      rcases List.mem_append.mp here with before | new
      · exact kept.within runtime before
      · rw [List.mem_singleton.mp new, own.name]
        exact own.within

end Load

variable [Zero K] [Div K] [FloorI64 K] {labels : List (Label K M)} {l : Label K M}

/-- What is not done for a plugin leaves the aspect as it is. -/
def Label.Leaves (a : Aspect) (s : State K M) : Label K M → Prop
  | .other change => (change s.process).view a = s.process.view a
  | _ => True

theorem StateKept.step {v : a.View K} (kept : StateKept deployment a v s)
    (undeclared : Undeclared deployment a) (leaves : l.Leaves a s)
    (taken : Plugins.step deployment s l = some t) : StateKept deployment a v t := by
  cases l with
  | zoneLoaded zoneId =>
      obtain rfl := Option.some.inj taken
      exact World.AllKept.forEachPlugin kept fun plugin t own =>
        TurnKept.fireOnZoneLoaded own undeclared zoneId
  | dispatch zoneId d =>
      obtain rfl := Option.some.inj taken
      exact World.AllKept.dispatch kept (fun plugin => keeps_host (undeclared.plugin plugin)) d
  | characterCreated characterId zoneId =>
      obtain rfl := Option.some.inj taken
      exact World.AllKept.forEachPlugin kept fun plugin t own =>
        TurnKept.fireOnCharacterCreate own undeclared characterId zoneId
  | craftCompleted characterId recipeKey =>
      obtain rfl := Option.some.inj taken
      exact World.AllKept.forEachPlugin kept fun plugin t own =>
        TurnKept.fireOnCraftComplete own undeclared characterId recipeKey
  | other change =>
      obtain rfl := Option.some.inj taken
      exact ⟨kept.within, leaves.trans kept.same⟩

/-- Whatever the plugins do, in whichever hooks, in every run of the process: an aspect of it that
is guarded by a capability which no plugin has declared changes only by what is not done for
plugins. -/
theorem confined {p : Process K M} (undeclared : ∀ manifest ∈ deployment.discovered,
      a.capability ∉ manifest.plugin.capabilities)
    (booted : boot deployment p = some s)
    (leaves : Transition.Admissible (Plugins.step deployment) (fun s l => l.Leaves a s) s labels)
    (run : Transition.exec (Plugins.step deployment) s labels = some t) :
    t.process.view a = p.view a := by
  have start : StateKept deployment a (p.view a) (⟨[], p⟩ : State K M) :=
    ⟨fun _ here => absurd here List.not_mem_nil, rfl⟩
  have loaded := stateKept_of_loadAll undeclared start booted
  have kept : StateKept deployment a (p.view a) t := Transition.exec_invariant
    (I := fun s => StateKept deployment a (p.view a) s)
    (fun _ _ _ kept leaves taken => kept.step undeclared leaves taken) loaded leaves run
  exact kept.same

end Runs

namespace Wolves

instance : FloorI64 Int := ⟨fun n => n⟩

/-- A plugin that may move entities. -/
def manifest : PluginManifest :=
  ⟨{ name := "wolves", hostApiVersion := "0.16.0", capabilities := ["movement"],
     hooks := ["on-player-join-zone"] }⟩

def wolf : EntityId := .fromUuid 1

/-- It tries to put its wolf next to whoever comes, and then has it walk there. -/
def hunt : Sandbox.Guest (fun f : HostFunction (Point3 Int) => f.Answer) (Returned Unit) :=
  .call (.teleportEntity "wolf" (0, 0, 0)) fun _ =>
    .call (.moveEntity "wolf" (0, 0, 0)) fun _ => .done ⟨(), true⟩

def deployment : Deployment Int Unit where
  discovered := [manifest]
  exports _ _ _ := hunt
  attributeSchema := ⟨1, []⟩
  currencySchema := ⟨1, []⟩
  parseEntityId _ := some wolf
  parseCharacterId _ := none
  parseMetadata _ := .error "expected value"
  newEntityId _ := wolf
  answer _ _ := none

def forest : Zone Int :=
  .new ⟨1, "forest", "Forest", ⟨"polygon", ⟨"meters", (0, 0)⟩, []⟩, ⟨"", ""⟩, [], [], [], []⟩
    ⟨20, 1, 1⟩ ⟨[]⟩

def process : Process Int Unit where
  memory _ := ()
  zones _ := forest
  spawned := 0
  npcStats := ∅
  entityCharacters _ := none
  entityRoles _ := none
  sessions _ := none
  pluginMessages := []
  pluginStateCache _ := none
  blockedZoneChannels _ := []
  itemCatalogCache _ := none
  storeCalls := []

def labels : List (Label Int Unit) := [.dispatch "forest" (.playerJoin (.fromUuid 2))]

theorem confined_wolves : ∃ s t, boot deployment process = some s ∧
    Transition.exec (Plugins.step deployment) s labels = some t ∧
      t.process.view .teleports = process.view .teleports ∧
      (t.process.zones "forest").pendingMoves = [(wolf, (0, 0, 0), 0)] := by
  have undeclared : ∀ manifest ∈ deployment.discovered,
      Aspect.teleports.capability ∉ manifest.plugin.capabilities := by decide
  have leaves (s : State Int Unit) : Transition.Admissible (Plugins.step deployment)
      (fun s l => l.Leaves .teleports s) s labels :=
    Transition.admissible_cons.mpr ⟨trivial, fun _ _ => trivial⟩
  exact ⟨_, _, rfl, rfl, confined undeclared rfl (leaves _) rfl, rfl⟩

end Wolves

end Plugins

end WorldZero.Server
