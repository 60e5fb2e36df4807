import WorldZero.Transition
import WorldZero.World.Zone

/-!
# Runs of a zone

The calls that a zone takes, one after another, and what its configuration has to meet.
-/

namespace WorldZero.World

open Content (Point3 Sqrt)

/-- The calls on a zone. -/
inductive Op (K : Type) where
  | spawn (entity : EntityId) (kind : EntityKind) (position : Point3 K)
  | spawnNpcWithRoute (entity : EntityId) (position : Point3 K) (routeId : String)
  | despawn (entity : EntityId)
  | recordEntityType (entity : EntityId) (entityType : String)
  | requestMove (entity : EntityId) (target : Point3 K) (seq : UInt32)
  | requestTeleport (entity : EntityId) (target : Point3 K)
  | tick

variable {K : Type} [Zero K] [One K] [NatCast K] [Add K] [Sub K] [Mul K] [Div K] [Neg K]
variable [LT K] [DecidableLT K] [LE K] [DecidableLE K] [Sqrt K] [FloorI64 K]

def Zone.perform (zone : Zone K) : Op K → Zone K × Outcomes K
  | .spawn entity kind position => (zone.spawn entity kind position, [])
  | .spawnNpcWithRoute entity position routeId =>
      (zone.spawnNpcWithRoute entity position routeId, [])
  | .despawn entity => (zone.despawn entity, [])
  | .recordEntityType entity entityType => (zone.recordEntityType entity entityType, [])
  | .requestMove entity target seq => (zone.requestMove entity target seq, [])
  | .requestTeleport entity target => (zone.requestTeleport entity target, [])
  | .tick => zone.tick

def Zone.run (zone : Zone K) : List (Op K) → Zone K × Outcomes K
  | [] => (zone, [])
  | op :: ops =>
      let (zone, outcomes) := zone.perform op
      let (zone, later) := Zone.run zone ops
      (zone, outcomes ++ later)

def Zone.step (zone : Zone K) (op : Op K) : Option (Zone K) := some (zone.perform op).1

/-- What `from_env` refuses. -/
def WorldConfig.problem (config : WorldConfig K) : Option String :=
  if config.tickRateHz = 0 then some "WZ_WORLD_TICK_RATE_HZ must be greater than 0"
  else if config.gridCellSizeMeters ≤ 0 then
    some "WZ_WORLD_GRID_CELL_SIZE_METERS must be greater than 0"
  else if config.maxSpeedMetersPerSecond ≤ 0 then
    some "WZ_WORLD_MAX_SPEED_MPS must be greater than 0"
  else none

end WorldZero.World
