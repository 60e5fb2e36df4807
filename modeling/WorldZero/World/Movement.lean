import WorldZero.World.Spatial

/-!
# Movement

What a move may do: how far it goes in one tick, where it may end, and which link of the
zone's edge it crosses.
-/

namespace WorldZero.World

open Content (Link NavMesh Point Point3 Sqrt ZoneManifest castRay flat)

variable {K : Type} [Zero K] [One K] [NatCast K] [Add K] [Sub K] [Mul K] [Div K] [Neg K]
variable [LT K] [DecidableLT K] [LE K] [DecidableLE K] [Sqrt K] [FloorI64 K]

/-! ### Configuration -/

structure WorldConfig (K : Type) where
  tickRateHz : ℕ
  gridCellSizeMeters : K
  maxSpeedMetersPerSecond : K

namespace WorldConfig

/-- A quotient rounded to a whole number, to the even one of two that are as near. -/
def roundedQuotient (a b : ℕ) : ℕ :=
  let quotient := a / b
  let rest := a % b
  if 2 * rest < b then quotient
  else if b < 2 * rest then quotient + 1
  else quotient + quotient % 2

/-- `tick_interval`: the seconds `1.0 / tick_rate_hz` are rounded to the 53 bits of an `f64`,
and `from_secs_f64` rounds these to a whole number of nanoseconds. -/
def tickInterval (config : WorldConfig K) : ℕ :=
  let scale := 2 ^ (53 + (config.tickRateHz - 1).log2)
  roundedQuotient (roundedQuotient scale config.tickRateHz * 1000000000) scale

-- The exact quotient lies in the middle of two nanoseconds.
example : (⟨5120, 0, 0⟩ : WorldConfig ℕ).tickInterval = 195313 := by decide

/-- `tick_interval().as_secs_f64()`. -/
def dt (config : WorldConfig K) : K := (config.tickInterval : K) / 1000000000

/-- The distance that a move may cover in one tick. -/
def maxAllowed (config : WorldConfig K) : K := config.maxSpeedMetersPerSecond * config.dt

end WorldConfig

/-! ### Links -/

def orientation (a b c : Point K) : K :=
  (b.1 - a.1) * (c.2 - a.2) - (b.2 - a.2) * (c.1 - a.1)

def segmentsIntersect (p₁ p₂ p₃ p₄ : Point K) : Bool :=
  let d₁ := orientation p₃ p₄ p₁
  let d₂ := orientation p₃ p₄ p₂
  let d₃ := orientation p₁ p₂ p₃
  let d₄ := orientation p₁ p₂ p₄
  (decide (0 < d₁) != decide (0 < d₂)) && (decide (0 < d₃) != decide (0 < d₄))

/-- The first link whose edge the move crosses. -/
def crossedLink (links : List (Link K)) (origin target : Point3 K) : Option (Link K) :=
  links.find? fun link =>
    match link.edge with
    | a :: b :: _ => segmentsIntersect (flat origin) (flat target) a b
    | _ => false

/-! ### Validation -/

inductive MovementRejection (K : Type) where
  | outOfBounds
  | notWalkable
  | tooFast (attemptedDistance maxAllowed : K)
  | blocked (blockingEntity : EntityId)

/-- `COLLISION_RADIUS_METERS`. -/
def collisionRadiusMeters : K := 1 / 2

/-- `world::movement::point_in_polygon`. -/
def pointInPolygon (point : Point K) (polygon : List (Point K)) : Bool := castRay point polygon

/-- `validate_movement`; `none` is `Ok(())`. The speed is checked before the zone's bounds,
these before the ground, and who stands there at last. -/
def validateMovement (manifest : ZoneManifest K) (navmesh : NavMesh K) (index : GridIndex K)
    (mover : EntityId) (maxSpeed dtSeconds : K) (origin target : Point3 K) :
    Option (MovementRejection K) :=
  let maxAllowed := maxSpeed * dtSeconds
  let attemptedDistance := distance origin target
  if maxAllowed < attemptedDistance then some (.tooFast attemptedDistance maxAllowed)
  else if !pointInPolygon (flat target) manifest.bounds.points then some .outOfBounds
  else if !navmesh.contains target then some .notWalkable
  else
    match (index.queryRadius target collisionRadiusMeters).find? fun other => other ≠ mover with
    | some blockingEntity => some (.blocked blockingEntity)
    | none => none

theorem validateMovement_eq_none {manifest : ZoneManifest K} {navmesh : NavMesh K}
    {index : GridIndex K} {mover : EntityId} {maxSpeed dtSeconds : K} {origin target : Point3 K} :
    validateMovement manifest navmesh index mover maxSpeed dtSeconds origin target = none ↔
      ¬ maxSpeed * dtSeconds < distance origin target ∧
      pointInPolygon (flat target) manifest.bounds.points = true ∧
      navmesh.contains target = true ∧
      ∀ other ∈ index.queryRadius target collisionRadiusMeters, other = mover := by
  simp only [validateMovement]
  split
  next fast => exact iff_of_false nofun fun h => h.1 fast
  next slow =>
    split
    next outside => exact iff_of_false nofun fun h => by simp [h.2.1] at outside
    next inside =>
      split
      next unwalkable => exact iff_of_false nofun fun h => by simp [h.2.2.1] at unwalkable
      next walkable =>
        split
        next blocking found =>
          have other : blocking ≠ mover := by simpa using List.find?_some found
          exact iff_of_false nofun fun h => other (h.2.2.2 _ (List.mem_of_find?_eq_some found))
        next free =>
          refine iff_of_true rfl ⟨slow, by simpa using inside, by simpa using walkable, ?_⟩
          simpa using free

end WorldZero.World
