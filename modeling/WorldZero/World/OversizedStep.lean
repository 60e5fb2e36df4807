import WorldZero.Content.Numbers
import WorldZero.World.Bounds

/-!
# Steps that are not numbers

The speed of a move is refused if it is greater than the allowance, so a distance that is no
number is let pass. What ends in the bounds on walkable ground is a number all the same, but a
move across a link is not asked for its height, and nobody asks for where an entity is.
-/

namespace WorldZero.World

open Content NotANumber Number

/-- `as i64` of what is not a number is 0. -/
noncomputable instance : FloorI64 (Number ℝ) where
  floorI64
    | num x => FloorI64.floorI64 x
    | nan => 0

theorem isNum_distance {p q : Point3 (Number ℝ)} :
    (distance p q).IsNum → p.IsNum ∧ q.IsNum := by
  intro length
  have squares := isNum_of_sqrt length
  simp only [isNum_add, isNum_mul, isNum_sub] at squares
  exact ⟨⟨squares.1.1.1.1, squares.1.2.1.1, squares.2.1.1⟩,
    squares.1.1.1.2, squares.1.2.1.2, squares.2.1.2⟩

theorem distance_isNum {p q : Point3 (Number ℝ)} (first : p.IsNum) (second : q.IsNum) :
    (distance p q).IsNum := by
  obtain ⟨x, y, z⟩ := p
  obtain ⟨x', y', z'⟩ := q
  obtain ⟨⟨x, rfl⟩, ⟨y, rfl⟩, ⟨z, rfl⟩⟩ :=
    And.imp isNum_iff.mp (And.imp isNum_iff.mp isNum_iff.mp) first
  obtain ⟨⟨x', rfl⟩, ⟨y', rfl⟩, ⟨z', rfl⟩⟩ :=
    And.imp isNum_iff.mp (And.imp isNum_iff.mp isNum_iff.mp) second
  have nonneg : 0 ≤ (x - x') * (x - x') + (y - y') * (y - y') + (z - z') * (z - z') := by
    nlinarith [mul_self_nonneg (x - x'), mul_self_nonneg (y - y'), mul_self_nonneg (z - z')]
  simp [distance, sqrt_num nonneg]

/-- A link is crossed between footprints of numbers only. -/
theorem isNum_of_crossedLink {links : List (Link (Number ℝ))} {origin target : Point3 (Number ℝ)}
    {link : Link (Number ℝ)} (crosses : crossedLink links origin target = some link) :
    Point.IsNum (flat origin) ∧ Point.IsNum (flat target) := by
  have holds := List.find?_some crosses
  split at holds
  next a b rest edge =>
    simp only [segmentsIntersect, Bool.and_eq_true, bne_iff_ne, ne_eq, decide_eq_decide] at holds
    obtain ⟨-, across⟩ := holds
    have some_left : 0 < orientation (flat origin) (flat target) a ∨
        0 < orientation (flat origin) (flat target) b := by
      by_contra none
      push Not at none
      exact across (iff_of_false none.1 none.2)
    have ends : ∀ c, 0 < orientation (flat origin) (flat target) c →
        Point.IsNum (flat origin) ∧ Point.IsNum (flat target) := by
      intro c left
      have area := (isNum_of_lt left).2
      simp only [orientation, isNum_sub, isNum_mul] at area
      exact ⟨⟨area.1.1.2, area.1.2.2⟩, area.1.1.1, area.2.1.1⟩
    exact some_left.elim (ends a) (ends b)
  · cases holds

namespace Zone

section Moves

variable {K : Type} [Zero K] [One K] [NatCast K] [Add K] [Sub K] [Mul K] [Div K] [Neg K]
variable [LT K] [DecidableLT K] [LE K] [DecidableLE K] [Sqrt K] [FloorI64 K]

/-- The zone as the tick has made it by the moves at the front of the queue. -/
def beforeMove (zone : Zone K) (front : List (EntityId × Point3 K × UInt32)) : Zone K :=
  ({ zone with tickCount := zone.tickCount + 1, pendingMoves := [] }.applyMoves front).1

/-- The move is applied, or the entity leaves the zone by it. -/
def Takes (zone : Zone K) (e : EntityId) (target : Point3 K) (seq : UInt32) : Prop :=
  (e, .applied seq target) ∈ (zone.applyMove e target seq).2 ∨
    ∃ targetZone, (e, .zoneTransition targetZone) ∈ (zone.applyMove e target seq).2

/-- The move of a player that goes across a link. -/
def Leaves (zone : Zone K) (e : EntityId) (origin target : Point3 K) : Prop :=
  zone.entities e = some .player ∧ (crossedLink zone.manifest.links origin target).isSome

/-- Where the move ends is in the bounds, on walkable ground and free. -/
def Opens (zone : Zone K) (e : EntityId) (target : Point3 K) : Prop :=
  InBounds zone.manifest target = true ∧ zone.navmesh.contains target = true ∧
    ∀ other ∈ zone.index.queryRadius target collisionRadiusMeters, other = e

variable {zone : Zone K} {e : EntityId} {target : Point3 K} {seq : UInt32}

theorem takes_iff : zone.Takes e target seq ↔
    ∃ origin, zone.positionOf e = some origin ∧
      ¬ zone.config.maxAllowed < distance origin target ∧
      (zone.Leaves e origin target ∨ zone.Opens e target) := by
  constructor
  · intro takes
    have moves := moves_applyMove zone e target seq
    unfold Takes at takes
    generalize zone.applyMove e target seq = result at moves takes
    cases moves with
    | absent gone => simp at takes
    | left there player crosses slow =>
        exact ⟨_, there, slow, .inl ⟨player, Option.isSome_of_eq_some crosses⟩⟩
    | applied there valid =>
        obtain ⟨slow, inside, walkable, free⟩ := validateMovement_eq_none.mp valid
        exact ⟨_, there, slow, .inr ⟨inside, walkable, free⟩⟩
    | rejected there rejection => simp at takes
  · rintro ⟨origin, there, slow, taken⟩
    unfold Takes applyMove
    simp only [there]
    by_cases leaves : zone.Leaves e origin target
    · obtain ⟨player, crosses⟩ := leaves
      obtain ⟨link, crosses⟩ := Option.isSome_iff_exists.mp crosses
      right
      refine ⟨link.targetZone, ?_⟩
      simp only [player, if_true, crosses]
      have slow : ¬ zone.config.maxSpeedMetersPerSecond * zone.config.dt < distance origin target :=
        slow
      rw [if_neg slow]
      exact List.mem_singleton_self _
    · have uncrossed : (if zone.entities e = some .player then
          crossedLink zone.manifest.links origin target else none) = none := by
        split
        next player =>
          by_contra crosses
          exact leaves ⟨player, Option.isSome_iff_ne_none.mpr crosses⟩
        · rfl
      have valid : validateMovement zone.manifest zone.navmesh zone.index e
          zone.config.maxSpeedMetersPerSecond zone.config.dt origin target = none := by
        obtain ⟨inside, walkable, free⟩ := taken.resolve_left leaves
        exact validateMovement_eq_none.mpr ⟨slow, inside, walkable, free⟩
      left
      simp only [uncrossed, valid]
      exact List.mem_singleton_self _

/-- The outcome of a move in the queue is among those of the tick, which has no other allowance
for it. -/
theorem tick_beforeMove {front rest : List (EntityId × Point3 K × UInt32)}
    (queued : zone.pendingMoves = front ++ (e, target, seq) :: rest) :
    (zone.beforeMove front).config = zone.config ∧
      ∃ earlier later, zone.tick.2 =
        earlier ++ ((zone.beforeMove front).applyMove e target seq).2 ++ later := by
  have split : ∀ (zone : Zone K) (moves moves'), (zone.applyMoves (moves ++ moves')) =
      (((zone.applyMoves moves).1.applyMoves moves').1,
        (zone.applyMoves moves).2 ++ ((zone.applyMoves moves).1.applyMoves moves').2) := by
    intro zone moves moves'
    induction moves generalizing zone with
    | nil => rfl
    | cons move moves ih => simp only [List.cons_append, applyMoves, ih, List.append_assoc]
  refine ⟨(sameSetting_applyMoves _ front).config, ?_⟩
  refine ⟨({ zone with
    tickCount := zone.tickCount + 1, pendingMoves := [] }.applyMoves front).2, ?_⟩
  simp only [tick, queued, split, applyMoves, beforeMove, List.append_assoc]
  exact ⟨_, rfl⟩

end Moves

/-! ### Where the distance is checked -/

variable {zone : Zone (Number ℝ)} {e : EntityId} {target : Point3 (Number ℝ)} {seq : UInt32}

/-- The destination is one of numbers, no farther from the entity than the allowance. -/
def Sound (zone : Zone (Number ℝ)) (e : EntityId) (target : Point3 (Number ℝ)) : Prop :=
  ∀ origin, zone.positionOf e = some origin →
    target.IsNum ∧ distance origin target ≤ zone.config.maxAllowed

/-- The position of the entity, the height of the destination and the allowance are numbers; or
the move goes across no link as a player's, and ends where it is refused. -/
def Measured (zone : Zone (Number ℝ)) (e : EntityId) (target : Point3 (Number ℝ)) : Prop :=
  ∀ origin, zone.positionOf e = some origin →
    (origin.IsNum ∧ Number.IsNum target.2.2 ∧ zone.config.maxAllowed.IsNum) ∨
      ¬ zone.Leaves e origin target ∧ ¬ zone.Opens e target

theorem isNum_of_opens (opens : zone.Opens e target) : target.IsNum :=
  isNum_of_navMesh_contains opens.2.1

theorem sound_of_measured (measured : zone.Measured e target) (takes : zone.Takes e target seq) :
    zone.Sound e target := by
  obtain ⟨origin, there, slow, taken⟩ := takes_iff.mp takes
  intro origin' there'
  rw [there] at there'
  cases there'
  obtain ⟨stands, height, allowance⟩ | ⟨stays, shut⟩ := measured origin there
  · have ends : target.IsNum := by
      obtain leaves | opens := taken
      · obtain ⟨link, crosses⟩ := Option.isSome_iff_exists.mp leaves.2
        have footprint := (isNum_of_crossedLink crosses).2
        exact ⟨footprint.1, footprint.2, height⟩
      · exact isNum_of_opens opens
    exact ⟨ends, le_of_not_lt allowance (distance_isNum stands ends) slow⟩
  · exact absurd taken (not_or.mpr ⟨stays, shut⟩)

/-- A distance or an allowance that is no number passes the check of the speed. -/
theorem measured_of_sound (sound : zone.Takes e target seq → zone.Sound e target) :
    zone.Measured e target := by
  intro origin there
  by_contra unmeasured
  push Not at unmeasured
  obtain ⟨odd, taken⟩ := unmeasured
  have taken : zone.Leaves e origin target ∨ zone.Opens e target := by
    by_cases leaves : zone.Leaves e origin target
    · exact .inl leaves
    · exact .inr (taken leaves)
  have passes : ∀ le : distance origin target ≤ zone.config.maxAllowed, False := by
    intro le
    obtain ⟨length, allowance⟩ := isNum_of_le le
    obtain ⟨stands, ends⟩ := isNum_distance length
    exact odd stands ends.2.2 allowance
  have slow : ¬ zone.config.maxAllowed < distance origin target := by
    intro fast
    obtain ⟨allowance, length⟩ := isNum_of_lt fast
    obtain ⟨stands, ends⟩ := isNum_distance length
    exact odd stands ends.2.2 allowance
  exact passes (sound (takes_iff.mpr ⟨origin, there, slow, taken⟩) origin there).2

/-- In a tick, a move that is taken goes no farther than the allowance exactly when it is
measured, or refused for another reason. -/
theorem sound_iff_measured (zone : Zone (Number ℝ))
    (front rest : List (EntityId × Point3 (Number ℝ) × UInt32)) (e : EntityId)
    (target : Point3 (Number ℝ)) (seq : UInt32)
    (queued : zone.pendingMoves = front ++ (e, target, seq) :: rest) :
    ((zone.beforeMove front).config = zone.config ∧
      ∃ earlier later, zone.tick.2 =
        earlier ++ ((zone.beforeMove front).applyMove e target seq).2 ++ later) ∧
    (((zone.beforeMove front).Takes e target seq → (zone.beforeMove front).Sound e target) ↔
      (zone.beforeMove front).Measured e target) :=
  ⟨tick_beforeMove queued, measured_of_sound, sound_of_measured⟩

end Zone

namespace Doorway

def links : List (Link (Number ℝ)) := [⟨"garden", [(num 10, num 0), (num 10, num 10)]⟩]

def manifest : ZoneManifest (Number ℝ) where
  schemaVersion := 1
  id := "house"
  displayName := "House"
  bounds := ⟨"polygon", ⟨"meters", (num 0, num 0)⟩,
    [(num 0, num 0), (num 10, num 0), (num 10, num 10), (num 0, num 10)]⟩
  collision := ⟨"", "navmesh_v1"⟩
  links := links
  spawnTables := []
  routes := []
  triggers := []

def guest : EntityId := ⟨1⟩

/-- A guest in front of the door who wants to go somewhere. -/
noncomputable def zone (target : Point3 (Number ℝ)) : Zone (Number ℝ) :=
  ((Zone.new manifest ⟨20, num 25, num 10⟩ ⟨[]⟩).spawn guest .player
    (num (39 / 4), num 5, num 0)).requestMove guest target 1

theorem positionOf_guest (target : Point3 (Number ℝ)) :
    ((zone target).beforeMove []).positionOf guest = some (num (39 / 4), num 5, num 0) := by
  have spawned := Zone.positionOf_spawn (Zone.new manifest ⟨20, num 25, num 10⟩ ⟨[]⟩) guest .player
    (num (39 / 4), num 5, num 0)
  exact (congrFun spawned guest).trans (Function.update_self ..)

theorem maxAllowed_zone (target : Point3 (Number ℝ)) :
    ((zone target).beforeMove []).config.maxAllowed = num (1 / 2) := by
  have dt : (⟨20, num 25, num 10⟩ : WorldConfig (Number ℝ)).dt = num (50000000 / 1000000000) := by
    rw [← num_div_num (F := ℝ) (by norm_num)]
    rfl
  have product : ((zone target).beforeMove []).config.maxAllowed =
      num (10 * (50000000 / 1000000000)) := congrArg (num 10 * ·) dt
  rw [product]
  norm_num

theorem leaves_of_crosses {x z : Number ℝ}
    (crosses : segmentsIntersect (num (39 / 4), num 5) (x, num 5) (num 10, num 0)
      (num 10, num 10) = true) :
    ((zone (x, num 5, z)).beforeMove []).Leaves guest (num (39 / 4), num 5, num 0)
      (x, num 5, z) := by
  have found : crossedLink links (num (39 / 4), num 5, num 0) (x, num 5, z) =
      some ⟨"garden", [(num 10, num 0), (num 10, num 10)]⟩ := List.find?_cons_of_pos crosses
  have player : ((zone (x, num 5, z)).beforeMove []).entities guest = some .player := by
    exact Function.update_self guest (some EntityKind.player) fun _ => none
  exact ⟨player, Option.isSome_of_eq_some found⟩

/-- A step through the door that goes as far as the allowance. -/
theorem sound_step :
    ((zone (num (41 / 4), num 5, num 0)).beforeMove []).Takes guest (num (41 / 4), num 5, num 0) 1 ∧
      ((zone (num (41 / 4), num 5, num 0)).beforeMove []).Sound guest
        (num (41 / 4), num 5, num 0) := by
  have length : distance (num (39 / 4), num 5, num 0) (num (41 / 4), num 5, num 0) =
      num (1 / 2 : ℝ) := by
    have root : √(1 / 4 : ℝ) = 1 / 2 := by
      rw [show (1 / 4 : ℝ) = (1 / 2) ^ 2 by norm_num]
      exact Real.sqrt_sq (by norm_num)
    have square : distance (num (39 / 4), num 5, num 0) (num (41 / 4), num 5, num 0) =
        Sqrt.sqrt (num (1 / 4 : ℝ)) := by
      norm_num [distance]
    rw [square, sqrt_num (by norm_num), root]
  have takes : ((zone (num (41 / 4), num 5, num 0)).beforeMove []).Takes guest
      (num (41 / 4), num 5, num 0) 1 := by
    refine Zone.takes_iff.mpr ⟨_, positionOf_guest _, fun fast => ?_, .inl (leaves_of_crosses ?_)⟩
    · rw [maxAllowed_zone, length] at fast
      exact lt_irrefl (1 / 2 : ℝ) fast
    · norm_num [segmentsIntersect, orientation]
  refine ⟨takes, (Zone.sound_iff_measured (zone (num (41 / 4), num 5, num 0)) [] [] guest
    (num (41 / 4), num 5, num 0) 1 rfl).2.mpr (fun origin there => .inl ?_) takes⟩
  rw [positionOf_guest] at there
  cases there
  rw [maxAllowed_zone]
  exact ⟨⟨trivial, trivial, trivial⟩, trivial, trivial⟩

/-- A step through the door that goes a thousand kilometers, to a height that is no number. -/
theorem unsound_step :
    ((zone (num 1000000, num 5, nan)).beforeMove []).Takes guest (num 1000000, num 5, nan) 1 ∧
      ¬ ((zone (num 1000000, num 5, nan)).beforeMove []).Sound guest (num 1000000, num 5, nan) := by
  constructor
  · refine Zone.takes_iff.mpr ⟨_, positionOf_guest _, fun fast => ?_, .inl (leaves_of_crosses ?_)⟩
    · exact (isNum_distance (isNum_of_lt fast).2).2.2.2
    · norm_num [segmentsIntersect, orientation]
  · exact fun sound => (sound _ (positionOf_guest _)).1.2.2

end Doorway

end WorldZero.World
