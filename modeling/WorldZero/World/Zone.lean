import WorldZero.World.Movement

/-!
# A zone

The simulation of one zone: its entities, the requests that wait for the next tick, and
the tick, which takes the requested moves in the order of the requests and then the
teleports.
-/

namespace WorldZero.World

open Content (NavMesh Point3 Sqrt ZoneManifest)

inductive EntityKind where
  | player
  | npc
  deriving DecidableEq

structure Zone (K : Type) where
  manifest : ZoneManifest K
  navmesh : NavMesh K
  config : WorldConfig K
  index : GridIndex K
  entities : EntityId → Option EntityKind
  npcRoutes : EntityId → Option String
  entityTypes : EntityId → Option String
  pendingMoves : List (EntityId × Point3 K × UInt32)
  pendingTeleports : List (EntityId × Point3 K)
  tickCount : ℕ

inductive MovementOutcome (K : Type) where
  | applied (seq : UInt32) (target : Point3 K)
  | rejected (seq : UInt32) (rejection : MovementRejection K)
  | zoneTransition (targetZone : String)

/-- A transition has no sequence number. -/
def MovementOutcome.seq {K : Type} : MovementOutcome K → Option UInt32
  | .applied seq _ | .rejected seq _ => some seq
  | .zoneTransition _ => none

abbrev Outcomes (K : Type) := List (EntityId × MovementOutcome K)

namespace Zone

section

variable {K : Type}

def new (manifest : ZoneManifest K) (config : WorldConfig K) (navmesh : NavMesh K) : Zone K where
  manifest
  navmesh
  config
  index := .new config.gridCellSizeMeters
  entities _ := none
  npcRoutes _ := none
  entityTypes _ := none
  pendingMoves := []
  pendingTeleports := []
  tickCount := 0

variable (zone : Zone K)

def positionOf (entity : EntityId) : Option (Point3 K) := zone.index.positionOf entity

def recordEntityType (entity : EntityId) (entityType : String) : Zone K :=
  { zone with entityTypes := Function.update zone.entityTypes entity (some entityType) }

/-- The request waits for the next tick. -/
def requestMove (entity : EntityId) (target : Point3 K) (seq : UInt32) : Zone K :=
  { zone with pendingMoves := zone.pendingMoves ++ [(entity, target, seq)] }

def requestTeleport (entity : EntityId) (target : Point3 K) : Zone K :=
  { zone with pendingTeleports := zone.pendingTeleports ++ [(entity, target)] }

variable [Div K] [FloorI64 K]

def spawn (entity : EntityId) (kind : EntityKind) (position : Point3 K) : Zone K :=
  { zone with
    entities := Function.update zone.entities entity (some kind)
    index := zone.index.insert entity position }

/-- A route that the manifest does not declare is not recorded. -/
def spawnNpcWithRoute (entity : EntityId) (position : Point3 K) (routeId : String) : Zone K :=
  let zone := zone.spawn entity .npc position
  if zone.manifest.routes.any fun route => route.id == routeId then
    { zone with npcRoutes := Function.update zone.npcRoutes entity (some routeId) }
  else zone

def despawn (entity : EntityId) : Zone K :=
  { zone with
    entities := Function.update zone.entities entity none
    npcRoutes := Function.update zone.npcRoutes entity none
    entityTypes := Function.update zone.entityTypes entity none
    index := zone.index.remove entity }

/-- A teleport is not validated. -/
def applyTeleport (entity : EntityId) (target : Point3 K) : Zone K × Outcomes K :=
  match zone.positionOf entity with
  | none => (zone, [])
  | some _ =>
      ({ zone with index := zone.index.update entity target }, [(entity, .applied 0 target)])

end

variable {K : Type} [Zero K] [One K] [NatCast K] [Add K] [Sub K] [Mul K] [Div K] [Neg K]
variable [LT K] [DecidableLT K] [LE K] [DecidableLE K] [Sqrt K] [FloorI64 K]

/-- One of the queued moves. A player who crosses a link leaves the zone, and only the speed
of that move is checked. -/
def applyMove (zone : Zone K) (entity : EntityId) (target : Point3 K) (seq : UInt32) :
    Zone K × Outcomes K :=
  match zone.positionOf entity with
  | none => (zone, [])
  | some origin =>
      match if zone.entities entity = some .player then
          crossedLink zone.manifest.links origin target else none with
      | some link =>
          let maxAllowed := zone.config.maxSpeedMetersPerSecond * zone.config.dt
          let attemptedDistance := distance origin target
          if maxAllowed < attemptedDistance then
            (zone, [(entity, .rejected seq (.tooFast attemptedDistance maxAllowed))])
          else (zone.despawn entity, [(entity, .zoneTransition link.targetZone)])
      | none =>
          match validateMovement zone.manifest zone.navmesh zone.index entity
              zone.config.maxSpeedMetersPerSecond zone.config.dt origin target with
          | none =>
              ({ zone with index := zone.index.update entity target },
                [(entity, .applied seq target)])
          | some rejection => (zone, [(entity, .rejected seq rejection)])

def applyMoves (zone : Zone K) : List (EntityId × Point3 K × UInt32) → Zone K × Outcomes K
  | [] => (zone, [])
  | (entity, target, seq) :: moves =>
      let (zone, outcomes) := zone.applyMove entity target seq
      let (zone, later) := applyMoves zone moves
      (zone, outcomes ++ later)

def applyTeleports (zone : Zone K) : List (EntityId × Point3 K) → Zone K × Outcomes K
  | [] => (zone, [])
  | (entity, target) :: teleports =>
      let (zone, outcomes) := zone.applyTeleport entity target
      let (zone, later) := applyTeleports zone teleports
      (zone, outcomes ++ later)

def tick (zone : Zone K) : Zone K × Outcomes K :=
  let (moved, outcomes) :=
    { zone with tickCount := zone.tickCount + 1, pendingMoves := [] }.applyMoves zone.pendingMoves
  let (teleported, later) :=
    { moved with pendingTeleports := [] }.applyTeleports moved.pendingTeleports
  (teleported, outcomes ++ later)

/-! ### Positions -/

section Positions

omit [Zero K] [One K] [NatCast K] [Add K] [Sub K] [Mul K] [Neg K] [LT K] [DecidableLT K] [LE K]
omit [DecidableLE K] [Sqrt K]

variable (zone : Zone K) (entity : EntityId) {e : EntityId}

theorem positionOf_spawn (kind : EntityKind) (position : Point3 K) :
    (zone.spawn entity kind position).positionOf =
      Function.update zone.positionOf entity (some position) :=
  GridIndex.positionOf_insert zone.index position

theorem positionOf_spawnNpcWithRoute (position : Point3 K) (routeId : String) :
    (zone.spawnNpcWithRoute entity position routeId).positionOf =
      Function.update zone.positionOf entity (some position) := by
  rw [← positionOf_spawn zone entity .npc position, spawnNpcWithRoute]
  split <;> rfl

theorem positionOf_despawn :
    (zone.despawn entity).positionOf = Function.update zone.positionOf entity none :=
  GridIndex.positionOf_remove zone.index

theorem positionOf_moved_self {origin : Point3 K} (there : zone.positionOf e = some origin)
    (target : Point3 K) :
    { zone with index := zone.index.update e target }.positionOf e = some target :=
  GridIndex.positionOf_update_self zone.index target (Option.isSome_of_eq_some there)

theorem positionOf_moved_of_ne (target : Point3 K) (other : e ≠ entity) :
    { zone with index := zone.index.update entity target }.positionOf e = zone.positionOf e :=
  GridIndex.positionOf_update_of_ne zone.index target other

end Positions

/-- What a queued move leads to. -/
inductive Moves (zone : Zone K) (entity : EntityId) (target : Point3 K) (seq : UInt32) :
    Zone K × Outcomes K → Prop
  | absent (gone : zone.positionOf entity = none) : Moves zone entity target seq (zone, [])
  | left {origin link} (there : zone.positionOf entity = some origin)
      (player : zone.entities entity = some .player)
      (crosses : crossedLink zone.manifest.links origin target = some link)
      (slow : ¬ zone.config.maxAllowed < distance origin target) :
      Moves zone entity target seq
        (zone.despawn entity, [(entity, .zoneTransition link.targetZone)])
  | applied {origin} (there : zone.positionOf entity = some origin)
      (valid : validateMovement zone.manifest zone.navmesh zone.index entity
        zone.config.maxSpeedMetersPerSecond zone.config.dt origin target = none) :
      Moves zone entity target seq
        ({ zone with index := zone.index.update entity target }, [(entity, .applied seq target)])
  | rejected {origin} (there : zone.positionOf entity = some origin) (rejection) :
      Moves zone entity target seq (zone, [(entity, .rejected seq rejection)])

theorem moves_applyMove (zone : Zone K) (entity : EntityId) (target : Point3 K) (seq : UInt32) :
    Moves zone entity target seq (zone.applyMove entity target seq) := by
  unfold applyMove
  split
  next gone => exact .absent gone
  next origin there =>
    split
    next link found =>
      split at found
      next player =>
        dsimp only
        split
        · exact .rejected there _
        next slow => exact .left there player found slow
      · cases found
    next unlinked =>
      split
      next valid => exact .applied there valid
      next rejection invalid => exact .rejected there rejection

/-- What the moves of a tick leave as it was. -/
structure SameSetting (zone zone' : Zone K) : Prop where
  manifest : zone'.manifest = zone.manifest
  config : zone'.config = zone.config
  pendingTeleports : zone'.pendingTeleports = zone.pendingTeleports

theorem sameSetting_applyMove (zone : Zone K) (entity : EntityId) (target : Point3 K)
    (seq : UInt32) : zone.SameSetting (zone.applyMove entity target seq).1 := by
  have spec := zone.moves_applyMove entity target seq
  generalize zone.applyMove entity target seq = result at spec
  cases spec <;> exact ⟨rfl, rfl, rfl⟩

theorem sameSetting_applyMoves (zone : Zone K) (moves : List (EntityId × Point3 K × UInt32)) :
    zone.SameSetting (zone.applyMoves moves).1 := by
  induction moves generalizing zone with
  | nil => exact ⟨rfl, rfl, rfl⟩
  | cons move moves ih =>
      have first := zone.sameSetting_applyMove move.1 move.2.1 move.2.2
      have rest := ih (zone.applyMove move.1 move.2.1 move.2.2).1
      exact ⟨rest.manifest.trans first.manifest, rest.config.trans first.config,
        rest.pendingTeleports.trans first.pendingTeleports⟩

end Zone

end WorldZero.World
