import WorldZero.World.Bookkeeping
import WorldZero.World.Bounds
import WorldZero.World.SpeedCap

/-!
# Nobody collides

A move is checked against the positions that the moves before it in the tick have left, so
entities that stand apart stay apart, and where a move ends is in the bounds and on walkable
ground.
-/

namespace WorldZero.World

open Content (Point3 Sqrt flat)

namespace Zone

/-! ### The index of a zone -/

section Index

variable {K : Type} [Zero K] [One K] [NatCast K] [Add K] [Sub K] [Mul K] [Div K] [Neg K]
variable [LT K] [DecidableLT K] [LE K] [DecidableLE K] [Sqrt K] [FloorI64 K]

/-- What becomes of an index by operations of its own. -/
def Descends (index index' : GridIndex K) : Prop := ∃ ops, index' = index.performAll ops

omit [Zero K] [One K] [NatCast K] [Add K] [Sub K] [Mul K] [Neg K] [LT K] [DecidableLT K] [LE K]
  [DecidableLE K] [Sqrt K]

theorem Descends.refl (index : GridIndex K) : Descends index index := ⟨[], rfl⟩

theorem Descends.trans {index index' index'' : GridIndex K} (first : Descends index index')
    (second : Descends index' index'') : Descends index index'' := by
  obtain ⟨ops, rfl⟩ := first
  obtain ⟨ops', rfl⟩ := second
  exact ⟨ops ++ ops', List.foldl_append.symm⟩

theorem descends_perform (index : GridIndex K) (op : GridIndex.Op K) :
    Descends index (index.perform op) := ⟨[op], rfl⟩

theorem descends_applyTeleports (zone : Zone K) (teleports : List (EntityId × Point3 K)) :
    Descends zone.index (zone.applyTeleports teleports).1.index := by
  induction teleports generalizing zone with
  | nil => exact .refl _
  | cons teleport teleports ih =>
      have here : Descends zone.index (zone.applyTeleport teleport.1 teleport.2).1.index := by
        rw [applyTeleport_eq]
        exact descends_perform zone.index (.update teleport.1 teleport.2)
      exact here.trans (ih _)

variable [Zero K] [One K] [NatCast K] [Add K] [Sub K] [Mul K] [Neg K] [LT K] [DecidableLT K] [LE K]
variable [DecidableLE K] [Sqrt K]

theorem descends_applyMove (zone : Zone K) (e : EntityId) (target : Point3 K) (seq : UInt32) :
    Descends zone.index (zone.applyMove e target seq).1.index := by
  have spec := moves_applyMove zone e target seq
  generalize zone.applyMove e target seq = result at spec
  cases spec with
  | absent | rejected => exact .refl _
  | left => exact descends_perform zone.index (.remove e)
  | applied => exact descends_perform zone.index (.update e target)

theorem descends_applyMoves (zone : Zone K) (moves : List (EntityId × Point3 K × UInt32)) :
    Descends zone.index (zone.applyMoves moves).1.index := by
  induction moves generalizing zone with
  | nil => exact .refl _
  | cons move moves ih => exact (zone.descends_applyMove _ _ _).trans (ih _)

theorem descends_perform_op (zone : Zone K) (op : Op K) :
    Descends zone.index (zone.perform op).1.index := by
  cases op with
  | spawn e kind position => exact descends_perform zone.index (.insert e position)
  | spawnNpcWithRoute e position routeId =>
      have same : (zone.spawnNpcWithRoute e position routeId).index =
          zone.index.insert e position := by
        unfold spawnNpcWithRoute
        dsimp only
        split <;> rfl
      exact ⟨[.insert e position], same⟩
  | despawn e => exact descends_perform zone.index (.remove e)
  | recordEntityType | requestMove | requestTeleport => exact .refl _
  | tick =>
      exact (descends_applyMoves { zone with
        tickCount := zone.tickCount + 1, pendingMoves := [] } zone.pendingMoves).trans
          (descends_applyTeleports _ _)

omit [Zero K] [One K] [NatCast K] [Add K] [Sub K] [Mul K] [Neg K] [LT K] [DecidableLT K] [LE K]
  [DecidableLE K] [Sqrt K] in
theorem Descends.filed {index index' : GridIndex K} (descends : Descends index index')
    (filed : index.Filed) : index'.Filed ∧ index'.cellSize = index.cellSize := by
  obtain ⟨ops, rfl⟩ := descends
  induction ops generalizing index with
  | nil => exact ⟨filed, rfl⟩
  | cons op ops ih =>
      obtain ⟨filed', size⟩ := ih (filed.perform op)
      exact ⟨filed', size.trans (GridIndex.cellSize_perform index op)⟩

/-- The index of every zone has become what it is by operations of its own. -/
theorem descends_run {manifest : Content.ZoneManifest K} {config : WorldConfig K}
    {navmesh : Content.NavMesh K} {ops : List (Op K)} {zone : Zone K}
    (reached : Transition.exec Zone.step (.new manifest config navmesh) ops = some zone) :
    Descends (.new config.gridCellSizeMeters) zone.index := by
  refine Transition.exec_invariant_of_step
    (I := fun zone => Descends (.new config.gridCellSizeMeters) zone.index)
    (fun zone op zone' descends taken => ?_) (Descends.refl _) reached
  cases taken
  exact descends.trans (zone.descends_perform_op op)

end Index

/-! ### Distances between entities -/

/-- Any two entities are farther from each other than the collision radius. -/
def Apart (zone : Zone ℝ) : Prop :=
  ∀ e e' p p', e ≠ e' → zone.positionOf e = some p → zone.positionOf e' = some p' →
    collisionRadiusMeters < distance p p'

theorem distance_comm (a b : Point3 ℝ) : distance a b = distance b a := by
  simp only [distance]
  congr 1
  ring

variable {zone : Zone ℝ} {e : EntityId} {target : Point3 ℝ} {seq : UInt32}

theorem Apart.despawn (apart : zone.Apart) (e : EntityId) : (zone.despawn e).Apart := by
  have remains : ∀ e' p, (zone.despawn e).positionOf e' = some p → zone.positionOf e' = some p := by
    intro e' p there
    rw [positionOf_despawn] at there
    by_cases own : e' = e
    · simp [own] at there
    · simpa [own] using there
  intro e₁ e₂ p₁ p₂ other there₁ there₂
  exact apart e₁ e₂ p₁ p₂ other (remains _ _ there₁) (remains _ _ there₂)

/-- Nobody else is within the radius of where a valid move ends. -/
theorem Apart.moved (apart : zone.Apart) (filed : zone.index.Filed)
    (positive : 0 < zone.index.cellSize) {origin : Point3 ℝ}
    (there : zone.positionOf e = some origin)
    (free : ∀ other ∈ zone.index.queryRadius target collisionRadiusMeters, other = e) :
    Apart { zone with index := zone.index.update e target } := by
  have far : ∀ e' p, e' ≠ e → zone.positionOf e' = some p →
      collisionRadiusMeters < distance target p := by
    intro e' p other stands
    by_contra near
    exact other (free e' ((filed.mem_queryRadius_iff positive).mpr ⟨p, stands, not_lt.mp near⟩))
  intro e₁ e₂ p₁ p₂ other there₁ there₂
  rw [positionOf_moved there target] at there₁ there₂
  by_cases own₁ : e₁ = e
  · have other₂ : e₂ ≠ e := fun own₂ => other (own₁.trans own₂.symm)
    subst own₁
    rw [Function.update_self] at there₁
    rw [Function.update_of_ne other₂] at there₂
    cases there₁
    exact far e₂ p₂ other₂ there₂
  · rw [Function.update_of_ne own₁] at there₁
    by_cases own₂ : e₂ = e
    · subst own₂
      rw [Function.update_self] at there₂
      cases there₂
      rw [distance_comm]
      exact far e₁ p₁ own₁ there₁
    · rw [Function.update_of_ne own₂] at there₂
      exact apart e₁ e₂ p₁ p₂ other there₁ there₂

/-- Where a move ends is in the bounds and on walkable ground. -/
def Grounds (zone : Zone ℝ) (target : Point3 ℝ) : Prop :=
  InBounds zone.manifest target = true ∧ zone.navmesh.contains target = true

/-- The outcomes apply moves only to such places. -/
def Grounded (zone : Zone ℝ) (outcomes : Outcomes ℝ) : Prop :=
  ∀ e seq target, (e, MovementOutcome.applied seq target) ∈ outcomes → zone.Grounds target

theorem applyMove_apart (apart : zone.Apart) (filed : zone.index.Filed)
    (positive : 0 < zone.index.cellSize) (e : EntityId) (target : Point3 ℝ) (seq : UInt32) :
    (zone.applyMove e target seq).1.Apart ∧ zone.Grounded (zone.applyMove e target seq).2 ∧
      (zone.applyMove e target seq).1.manifest = zone.manifest ∧
      (zone.applyMove e target seq).1.navmesh = zone.navmesh := by
  have spec := moves_applyMove zone e target seq
  generalize zone.applyMove e target seq = result at spec
  cases spec with
  | absent gone => exact ⟨apart, fun _ _ _ => nofun, rfl, rfl⟩
  | left there player crosses slow =>
      refine ⟨apart.despawn e, fun e' seq' target' applied => ?_, rfl, rfl⟩
      cases List.mem_singleton.mp applied
  | applied there valid =>
      obtain ⟨-, inside, walkable, free⟩ := validateMovement_eq_none.mp valid
      refine ⟨apart.moved filed positive there free, fun e' seq' target' applied => ?_, rfl, rfl⟩
      cases List.mem_singleton.mp applied
      exact ⟨inside, walkable⟩
  | rejected there rejection =>
      refine ⟨apart, fun e' seq' target' applied => ?_, rfl, rfl⟩
      cases List.mem_singleton.mp applied

/-- Each move of the queue is checked against what the moves before it have left. -/
theorem applyMoves_apart (apart : zone.Apart) (filed : zone.index.Filed)
    (positive : 0 < zone.index.cellSize) (moves : List (EntityId × Point3 ℝ × UInt32)) :
    (zone.applyMoves moves).1.Apart ∧ zone.Grounded (zone.applyMoves moves).2 := by
  induction moves generalizing zone with
  | nil => exact ⟨apart, fun _ _ _ => nofun⟩
  | cons move moves ih =>
      obtain ⟨apart', grounded, manifest, navmesh⟩ :=
        applyMove_apart apart filed positive move.1 move.2.1 move.2.2
      obtain ⟨filed', size⟩ := (zone.descends_applyMove move.1 move.2.1 move.2.2).filed filed
      obtain ⟨apart'', grounded'⟩ := ih apart' filed' (positive.trans_eq size.symm)
      refine ⟨apart'', fun e seq target applied => ?_⟩
      obtain first | later := List.mem_append.mp applied
      · exact grounded e seq target first
      · have grounds := grounded' e seq target later
        rw [Grounds, manifest, navmesh] at grounds
        exact grounds

/-- A tick without teleports leaves the entities of a zone apart from each other, if they were
before, and the moves that it applies end in the bounds and on walkable ground. -/
theorem apart_tick (manifest : Content.ZoneManifest ℝ) (config : WorldConfig ℝ)
    (navmesh : Content.NavMesh ℝ) (positive : 0 < config.gridCellSizeMeters) (ops : List (Op ℝ))
    (zone : Zone ℝ)
    (reached : Transition.exec Zone.step (.new manifest config navmesh) ops = some zone)
    (walking : zone.pendingTeleports = []) (apart : zone.Apart) :
    zone.tick.1.Apart ∧ zone.Grounded zone.tick.2 := by
  obtain ⟨filed, size⟩ := (descends_run reached).filed (GridIndex.filed_new _)
  have start : Apart { zone with tickCount := zone.tickCount + 1, pendingMoves := [] } := apart
  have moved := applyMoves_apart start filed (positive.trans_eq size.symm) zone.pendingMoves
  have queued := (sameSetting_applyMoves
    { zone with tickCount := zone.tickCount + 1, pendingMoves := [] }
    zone.pendingMoves).pendingTeleports
  unfold tick
  generalize applyMoves _ zone.pendingMoves = result at moved queued ⊢
  dsimp only at queued ⊢
  rw [queued, walking]
  simp only [applyTeleports, List.append_nil]
  exact moved

end Zone

namespace Den

/-- Another wolf. -/
def mate : EntityId := ⟨2⟩

/-- Two wolves on the meadow. -/
noncomputable def zone : Zone ℝ :=
  ((Zone.new Meadow.manifest Meadow.config Meadow.navmesh).spawn wolf .npc (1, 1, 0)).spawn mate
    .npc (5, 1, 0)

/-- One of them is to move towards the other. -/
def pair : List (Op ℝ) :=
  [.spawn wolf .npc (1, 1, 0), .spawn mate .npc (5, 1, 0), .requestMove wolf (2, 1, 0) 1]

theorem stands {e : EntityId} {p : Point3 ℝ} (there : zone.positionOf e = some p) :
    (e = mate ∧ p = (5, 1, 0)) ∨ (e = wolf ∧ p = (1, 1, 0)) := by
  rw [zone, Zone.positionOf_spawn, Zone.positionOf_spawn] at there
  by_cases second : e = mate
  · subst second
    rw [Function.update_self] at there
    cases there
    exact .inl ⟨rfl, rfl⟩
  · rw [Function.update_of_ne second] at there
    by_cases first : e = wolf
    · subst first
      rw [Function.update_self] at there
      cases there
      exact .inr ⟨rfl, rfl⟩
    · rw [Function.update_of_ne first] at there
      cases there

theorem positionOf_wolf : zone.positionOf wolf = some (1, 1, 0) := by
  have other : wolf ≠ mate := by decide
  rw [zone, Zone.positionOf_spawn, Function.update_of_ne other, Zone.positionOf_spawn,
    Function.update_self]

theorem far_of_sq {p q : Point3 ℝ} (apart : collisionRadiusMeters ^ 2 <
    (p.1 - q.1) * (p.1 - q.1) + (p.2.1 - q.2.1) * (p.2.1 - q.2.1) +
      (p.2.2 - q.2.2) * (p.2.2 - q.2.2)) :
    (collisionRadiusMeters : ℝ) < distance p q := Real.lt_sqrt_of_sq_lt apart

theorem apart_zone : zone.Apart := by
  have far : (collisionRadiusMeters : ℝ) < distance (1, 1, 0) (5, 1, 0) :=
    far_of_sq (by norm_num [collisionRadiusMeters])
  intro e₁ e₂ p₁ p₂ other there₁ there₂
  obtain ⟨rfl, rfl⟩ | ⟨rfl, rfl⟩ := stands there₁ <;>
    obtain ⟨rfl, rfl⟩ | ⟨rfl, rfl⟩ := stands there₂
  · exact absurd rfl other
  · rw [Zone.distance_comm]
    exact far
  · exact far
  · exact absurd rfl other

theorem filed_zone : zone.index.Filed :=
  ((GridIndex.filed_new _).perform (.insert wolf (1, 1, 0))).perform (.insert mate (5, 1, 0))

/-- A step of one meter is neither too fast nor too close to the other. -/
theorem validateMovement_stride :
    validateMovement Meadow.manifest Meadow.navmesh zone.index wolf
      Meadow.config.maxSpeedMetersPerSecond Meadow.config.dt (1, 1, 0) (2, 1, 0) = none := by
  obtain ⟨inside, walked⟩ := Meadow.walkable (by norm_num : (0 : ℝ) < 2) (by norm_num)
  have slow : ¬ Meadow.config.maxAllowed < distance (1, 1, 0) (2, 1, 0) := by
    norm_num [Meadow.maxAllowed_config, distance, Sqrt.sqrt]
  have far : (collisionRadiusMeters : ℝ) < distance (2, 1, 0) (5, 1, 0) :=
    far_of_sq (by norm_num [collisionRadiusMeters])
  have cell : (0 : ℝ) < zone.index.cellSize := by
    show (0 : ℝ) < Meadow.config.gridCellSizeMeters
    norm_num [Meadow.config]
  refine validateMovement_eq_none.mpr ⟨slow, inside, walked, ?_⟩
  intro other near
  obtain ⟨p, there, close⟩ := (filed_zone.mem_queryRadius_iff cell).mp near
  obtain ⟨rfl, rfl⟩ | ⟨rfl, -⟩ := stands there
  · exact absurd close (not_le.mpr far)
  · rfl

/-- The zone on whose tick the wolf moves. -/
noncomputable def queued : Zone ℝ := zone.requestMove wolf (2, 1, 0) 1

theorem positionOf_tick : queued.tick.1.positionOf wolf = some (2, 1, 0) := by
  let started : Zone ℝ := { queued with tickCount := queued.tickCount + 1, pendingMoves := [] }
  have there : started.positionOf wolf = some (1, 1, 0) := positionOf_wolf
  have valid : validateMovement started.manifest started.navmesh started.index wolf
      started.config.maxSpeedMetersPerSecond started.config.dt (1, 1, 0) (2, 1, 0) = none :=
    validateMovement_stride
  have unlinked : (if started.entities wolf = some .player then
      crossedLink started.manifest.links (1, 1, 0) (2, 1, 0) else none) = none := by
    split <;> rfl
  have moved : started.applyMove wolf (2, 1, 0) 1 =
      ({ started with index := started.index.update wolf (2, 1, 0) },
        [(wolf, .applied 1 (2, 1, 0))]) := by
    simp only [Zone.applyMove, there, unlinked, valid]
  have only : started.applyMoves queued.pendingMoves =
      ({ started with index := started.index.update wolf (2, 1, 0) },
        [(wolf, .applied 1 (2, 1, 0))]) := by
    show started.applyMoves [(wolf, (2, 1, 0), 1)] = _
    simp only [Zone.applyMoves, moved, List.append_nil]
  have ticked : queued.tick.1 =
      { started with index := started.index.update wolf (2, 1, 0) } := by
    simp only [Zone.tick]
    rw [only]
    rfl
  rw [ticked]
  exact Zone.positionOf_moved_self started there (2, 1, 0)

theorem apart_tick_pair :
    ∃ zone, Transition.exec Zone.step (.new Meadow.manifest Meadow.config Meadow.navmesh) pair =
        some zone ∧
      zone.tick.1.positionOf wolf = some (2, 1, 0) ∧ zone.tick.1.Apart ∧
      zone.Grounded zone.tick.2 := by
  have positive : 0 < Meadow.config.gridCellSizeMeters := by norm_num [Meadow.config]
  exact ⟨queued, rfl, positionOf_tick,
    Zone.apart_tick Meadow.manifest Meadow.config Meadow.navmesh positive pair queued rfl rfl
      apart_zone⟩

end Den

end WorldZero.World
