import WorldZero.Content.PointInPolygon
import WorldZero.PolygonInterior

/-!
# Where a zone is entered

Two meters from the middle of the door, toward the mean of the corners, or at the mean
of the corners itself. Neither the convexity of the bounds nor their width is checked, so
that either point can be outside of the zone. In a convex zone the mean is inside, and so is
the other point where there is room behind the door.
-/

namespace WorldZero.Server

open WorldZero.Content
open ConvexPolygon

section

variable {K : Type} [Zero K] [One K] [NatCast K] [Add K] [Sub K] [Mul K] [Div K]

/-- The mean of the corners. -/
def centroid (points : List (Point K)) : Point K :=
  if points.isEmpty then (0, 0)
  else
    let sum := points.foldl (fun sum p => (sum.1 + p.1, sum.2 + p.2)) ((0, 0) : Point K)
    (sum.1 / (points.length : K), sum.2 / (points.length : K))

/-- The length of the way from a point to another. -/
def wayLength [Sqrt K] (point target : Point K) : K :=
  let dx := target.1 - point.1
  let dy := target.2 - point.2
  Sqrt.sqrt (dx * dx + dy * dy)

variable [LT K] [DecidableLT K] [Sqrt K]

def nudgeToward (point target : Point K) (meters : K) : Point K :=
  let dx := target.1 - point.1
  let dy := target.2 - point.2
  let len := wayLength point target
  if len < 1 / 1000000 then point
  else (point.1 + dx / len * meters, point.2 + dy / len * meters)

def middle (a b : Point K) : Point K := ((a.1 + b.1) / 2, (a.2 + b.2) / 2)

/-- The first two ends of the first link's edge that leads back. -/
def door (manifest : ZoneManifest K) (fromZone : String) : Option (Point K × Point K) :=
  (manifest.links.find? fun link => link.targetZone == fromZone).bind fun link =>
    match link.edge with
    | a :: b :: _ => some (a, b)
    | _ => none

/-- The `manifests` of a `ZoneRegistry`. -/
abbrev Manifests (K : Type) := String → Option (ZoneManifest K)

/-- `ZoneRegistry::entry_point`. -/
def entryPoint (manifests : Manifests K) (fromZone targetZone : String) : Point K :=
  match manifests targetZone with
  | none => (0, 0)
  | some manifest =>
      match door manifest fromZone with
      | some (a, b) => nudgeToward (middle a b) (centroid manifest.bounds.points) 2
      | none => centroid manifest.bounds.points

end

/-! ### When the zone is entered at a point inside -/

/-- How far the point is from the line of the wall. -/
noncomputable def fromWall (wall : Point ℝ × Point ℝ) (point : Point ℝ) : ℝ :=
  |turn wall.1 wall.2 point| / wayLength wall.1 wall.2

/-- How far the corners are from it on average. -/
noncomputable def cornersFromWall (polygon : List (Point ℝ)) (wall : Point ℝ × Point ℝ) : ℝ :=
  (polygon.map (fromWall wall)).sum / polygon.length

/-- Some wall has the corners on average two meters farther off than the point, or nearer. -/
def Deep (polygon : List (Point ℝ)) (point : Point ℝ) : Prop :=
  ∃ wall ∈ sides polygon, wall.1 ≠ wall.2 ∧
    2 ≤ |cornersFromWall polygon wall - fromWall wall point|

/-- No wall is within two meters of the point, except walls from which the corners are on
average as far as the point. -/
def Wide (polygon : List (Point ℝ)) (point : Point ℝ) : Prop :=
  ∀ wall ∈ sides polygon, wall.1 ≠ wall.2 →
    2 < fromWall wall point ∨
      (fromWall wall point ≤ cornersFromWall polygon wall ∧
        1 / 1000000 ≤ cornersFromWall polygon wall)

/-- The zone is convex, the door leads into it, and there is room behind the door. -/
structure Roomy (manifest : ZoneManifest ℝ) (fromZone : String) : Prop where
  convex : IsConvex manifest.bounds.points
  spread : ¬ Flat manifest.bounds.points
  door : ∀ a b, door manifest fromZone = some (a, b) →
    middle a b ∈ region manifest.bounds.points ∧
      (Deep manifest.bounds.points (middle a b) ∨ Wide manifest.bounds.points (middle a b))

section Walls

variable {polygon : List (Point ℝ)} {wall : Point ℝ × Point ℝ} {m g p : Point ℝ}

theorem wayLength_pos (proper : m ≠ g) : 0 < wayLength m g := by
  refine Real.sqrt_pos.mpr ?_
  by_cases first : m.1 = g.1
  · have second : g.2 - m.2 ≠ 0 := fun same =>
      proper (Prod.ext first (sub_eq_zero.mp same).symm)
    nlinarith [mul_self_pos.mpr second, mul_self_nonneg (g.1 - m.1)]
  · have first : g.1 - m.1 ≠ 0 := fun same => first (sub_eq_zero.mp same).symm
    nlinarith [mul_self_pos.mpr first, mul_self_nonneg (g.2 - m.2)]

theorem wayLength_comm (m g : Point ℝ) : wayLength g m = wayLength m g := by
  simp only [wayLength]
  congr 1
  ring

theorem fromWall_swap (wall : Point ℝ × Point ℝ) : fromWall wall.swap = fromWall wall := by
  funext p
  rw [fromWall, fromWall, Prod.fst_swap, Prod.snd_swap, turn_swap, abs_neg, wayLength_comm]

theorem centroid_eq_mean (polygon : List (Point ℝ)) : centroid polygon = mean polygon := by
  have sum : ∀ (points : List (Point ℝ)) p,
      points.foldl (fun sum p => (sum.1 + p.1, sum.2 + p.2)) p = p + points.sum := by
    intro points
    induction points with
    | nil => simp
    | cons q points ih =>
        intro p
        rw [List.foldl_cons, ih, List.sum_cons, ← add_assoc]
        rfl
  by_cases empty : polygon = []
  · subst empty
    simp [centroid, mean]
  · simp only [centroid, List.isEmpty_iff, empty, if_false, sum, Prod.mk_zero_zero, zero_add]
    exact Prod.ext (div_eq_inv_mul _ _) (div_eq_inv_mul _ _)

/-! ### Distances from a wall -/

theorem fromWall_of_nonneg (left : 0 ≤ turn wall.1 wall.2 p) :
    fromWall wall p = turn wall.1 wall.2 p / wayLength wall.1 wall.2 := by
  rw [fromWall, abs_of_nonneg left]

theorem cornersFromWall_eq (turns : TurnsLeft polygon) (side : wall ∈ sides polygon)
    (proper : wall.1 ≠ wall.2) :
    cornersFromWall polygon wall =
      turn wall.1 wall.2 (mean polygon) / wayLength wall.1 wall.2 := by
  have some : polygon ≠ [] := by
    rintro rfl
    cases side
  have each : polygon.map (fromWall wall) =
      polygon.map fun v => turn wall.1 wall.2 v / wayLength wall.1 wall.2 :=
    List.map_congr_left fun v hv =>
      fromWall_of_nonneg (turn_nonneg_of_mem turns side proper hv)
  have many : (polygon.length : ℝ) ≠ 0 := by simpa using some
  have whole := length_mul_turn_mean wall.1 wall.2 some
  rw [cornersFromWall, each]
  simp only [div_eq_mul_inv, List.sum_map_mul_right]
  rw [← whole]
  field_simp

/-- Walking changes the distance from a wall by no more than the way. -/
theorem abs_turn_sub_le (wall : Point ℝ × Point ℝ) (m g : Point ℝ) :
    |turn wall.1 wall.2 g - turn wall.1 wall.2 m| ≤ wayLength wall.1 wall.2 * wayLength m g := by
  have square : 0 ≤ (wall.2.1 - wall.1.1) * (wall.2.1 - wall.1.1) +
      (wall.2.2 - wall.1.2) * (wall.2.2 - wall.1.2) :=
    add_nonneg (mul_self_nonneg _) (mul_self_nonneg _)
  refine (Real.abs_le_sqrt ?_).trans_eq (Real.sqrt_mul square _)
  simp only [turn, RayCasting.cross, Prod.fst_sub, Prod.snd_sub]
  -- What is missing is the square of the way along the wall.
  nlinarith [sq_nonneg ((wall.2.1 - wall.1.1) * (g.1 - m.1) +
    (wall.2.2 - wall.1.2) * (g.2 - m.2))]

theorem turn_add_smul (a b m g : Point ℝ) (t : ℝ) :
    turn a b (m + t • (g - m)) = turn a b m + t * (turn a b g - turn a b m) := by
  simp only [turn, RayCasting.cross, Prod.fst_sub, Prod.snd_sub, Prod.fst_add, Prod.snd_add,
    Prod.smul_fst, Prod.smul_snd, smul_eq_mul]
  ring

theorem nudgeToward_of_far (far : ¬ wayLength m g < 1 / 1000000) (meters : ℝ) :
    nudgeToward m g meters = m + (meters / wayLength m g) • (g - m) := by
  simp only [nudgeToward, if_neg far]
  refine Prod.ext ?_ ?_
  all_goals
    simp only [Prod.fst_add, Prod.snd_add, Prod.smul_fst, Prod.smul_snd, Prod.fst_sub,
      Prod.snd_sub, smul_eq_mul]
    ring

/-- With room behind it, two meters from the door are to the left of every wall. -/
theorem leftOfSides_nudgeToward (turns : TurnsLeft polygon) (spread : ¬ Flat polygon)
    (inside : m ∈ region polygon) (room : Deep polygon m ∨ Wide polygon m) :
    LeftOfSides (nudgeToward m (mean polygon) 2) polygon := by
  have centre := leftOfSides_mean turns spread
  set g := mean polygon
  have near : ∀ wall ∈ sides polygon, wall.1 ≠ wall.2 →
      |cornersFromWall polygon wall - fromWall wall m| ≤ wayLength m g := by
    intro wall side proper
    have length := wayLength_pos proper
    rw [cornersFromWall_eq turns side proper,
      fromWall_of_nonneg (turn_nonneg_of_mem_region turns side proper inside), ← sub_div,
      abs_div, abs_of_pos length, div_le_iff₀ length, mul_comm]
    exact abs_turn_sub_le wall m g
  intro wall side proper
  have length := wayLength_pos proper
  have start := turn_nonneg_of_mem_region turns side proper inside
  have goal := centre wall side proper
  have here := fromWall_of_nonneg start
  have there := cornersFromWall_eq turns side proper
  have way := abs_le.mp (near wall side proper)
  by_cases close : wayLength m g < 1 / 1000000
  · have stays : nudgeToward m g 2 = m := if_pos close
    rw [stays]
    have positive : 0 < fromWall wall m := by
      obtain ⟨other, side', proper', deep⟩ | wide := room
      · have short := deep.trans (near other side' proper')
        norm_num at close
        linarith
      · obtain far | ⟨-, apart⟩ := wide wall side proper
        · linarith
        · linarith [way.2]
    rw [here] at positive
    exact (div_pos_iff_of_pos_right length).mp positive
  · have some : 0 < wayLength m g := lt_of_lt_of_le (by norm_num) (not_lt.mp close)
    rw [nudgeToward_of_far close, turn_add_smul]
    have step : 0 < 2 / wayLength m g := div_pos two_pos some
    obtain ⟨other, side', proper', deep⟩ | wide := room
    · -- The mean is no nearer than two meters.
      have short : 2 / wayLength m g ≤ 1 :=
        (div_le_one some).mpr (deep.trans (near other side' proper'))
      have part : 0 < 2 / wayLength m g * turn wall.1 wall.2 g := mul_pos step goal
      have rest : 0 ≤ (1 - 2 / wayLength m g) * turn wall.1 wall.2 m :=
        mul_nonneg (by linarith) start
      linarith
    · obtain far | ⟨away, -⟩ := wide wall side proper
      · have back := abs_le.mp (abs_turn_sub_le wall m g)
        rw [here, lt_div_iff₀ length] at far
        have most : 2 / wayLength m g * (wayLength wall.1 wall.2 * wayLength m g) =
            2 * wayLength wall.1 wall.2 := by
          field_simp
        have less := mul_le_mul_of_nonneg_left back.1 step.le
        linarith
      · rw [here, there, div_le_div_iff_of_pos_right length] at away
        obtain level | left := start.eq_or_lt
        · rw [← level, sub_zero, zero_add]
          exact mul_pos step goal
        · exact add_pos_of_pos_of_nonneg left (mul_nonneg step.le (sub_nonneg.mpr away))

/-! ### Walls in the other direction -/

theorem mem_sides_reverse : wall ∈ sides polygon.reverse ↔ wall.swap ∈ sides polygon := by
  rw [(sides_reverse_perm polygon).mem_iff, List.mem_map]
  constructor
  · rintro ⟨e, side, rfl⟩
    rwa [Prod.swap_swap]
  · exact fun side => ⟨wall.swap, side, Prod.swap_swap wall⟩

theorem cornersFromWall_reverse (polygon : List (Point ℝ)) (wall : Point ℝ × Point ℝ) :
    cornersFromWall polygon.reverse wall = cornersFromWall polygon wall := by
  rw [cornersFromWall, cornersFromWall, List.map_reverse, List.sum_reverse, List.length_reverse]

theorem cornersFromWall_swap (polygon : List (Point ℝ)) (wall : Point ℝ × Point ℝ) :
    cornersFromWall polygon wall.swap = cornersFromWall polygon wall := by
  rw [cornersFromWall, cornersFromWall, fromWall_swap]

theorem Deep.reverse (deep : Deep polygon m) : Deep polygon.reverse m := by
  obtain ⟨wall, side, proper, far⟩ := deep
  refine ⟨wall.swap, mem_sides_reverse.mpr ((Prod.swap_swap wall).symm ▸ side), proper.symm, ?_⟩
  rwa [cornersFromWall_reverse, cornersFromWall_swap, fromWall_swap]

theorem Wide.reverse (wide : Wide polygon m) : Wide polygon.reverse m := by
  intro wall side proper
  have room := wide wall.swap (mem_sides_reverse.mp side) proper.symm
  rwa [cornersFromWall_swap, fromWall_swap, ← cornersFromWall_reverse] at room

theorem mean_reverse (polygon : List (Point ℝ)) : mean polygon.reverse = mean polygon := by
  rw [mean, mean, List.sum_reverse, List.length_reverse]

theorem Flat.of_reverse (flat : Flat polygon.reverse) : Flat polygon := by
  intro a ha b hb c hc
  exact flat a (List.mem_reverse.mpr ha) b (List.mem_reverse.mpr hb) c (List.mem_reverse.mpr hc)

theorem strictlyInside_of_inside (convex : IsConvex polygon) (inside : Inside p polygon) :
    StrictlyInside p polygon := by
  refine ⟨castRay_of_inside convex inside, fun e he touches => ?_⟩
  obtain ⟨side, there, rfl⟩ := List.mem_map.mp ((withPrevious_perm polygon).mem_iff.mp he)
  exact inside.2 side there touches.symm

end Walls

/-- In a convex zone with room behind the door, or without a door, entering puts the entity
strictly inside of the bounds. -/
theorem strictlyInside_entryPoint {manifests : Manifests ℝ} {fromZone targetZone : String}
    {manifest : ZoneManifest ℝ} (known : manifests targetZone = some manifest)
    (roomy : Roomy manifest fromZone) :
    StrictlyInside (entryPoint manifests fromZone targetZone) manifest.bounds.points := by
  refine strictlyInside_of_inside roomy.convex ?_
  simp only [entryPoint, known, centroid_eq_mean]
  obtain turns | turns := roomy.convex
  · cases leads : door manifest fromZone with
    | none => exact inside_mean turns roomy.spread
    | some ends =>
        obtain ⟨within, room⟩ := roomy.door ends.1 ends.2 leads
        exact inside_of_leftOfSides turns roomy.spread
          (leftOfSides_nudgeToward turns roomy.spread within room)
  · have spread := fun flat => roomy.spread (Flat.of_reverse flat)
    rw [← inside_reverse, ← mean_reverse]
    cases leads : door manifest fromZone with
    | none => exact inside_mean turns spread
    | some ends =>
        obtain ⟨within, room⟩ := roomy.door ends.1 ends.2 leads
        rw [region_congr (List.reverse_perm _).symm] at within
        exact inside_of_leftOfSides turns spread
          (leftOfSides_nudgeToward turns spread within (room.imp Deep.reverse Wide.reverse))

/-! ### Two zones that pass every check -/

namespace Entry

/-- A zone of the given corners and links. -/
def manifest (id : String) (points : List (Point ℝ)) (links : List (Link ℝ)) : ZoneManifest ℝ where
  schemaVersion := 1
  id := id
  displayName := id
  bounds := { shape := "polygon", coordinateSystem := ⟨"meters", (0, 0)⟩, points := points }
  collision :=
    { assetRef := "sha256:9f2ac1b3e4d5c6a7b8c9d0e1f2a3b4c5d6e7f8a9b0c1d2e3f4a5b6c7d8e9f0a1"
      format := "navmesh_v1" }
  links := links
  spawnTables := []
  routes := []
  triggers := []

/-- A corridor one meter wide, with a door in its long side. -/
def corridor : ZoneManifest ℝ :=
  manifest "corridor" [(0, 0), (10, 0), (10, 1), (0, 1)] [⟨"hall", [(4, 0), (6, 0)]⟩]

/-- A corridor three meters wide. -/
def wideCorridor : ZoneManifest ℝ :=
  manifest "wide-corridor" [(0, 0), (10, 0), (10, 3), (0, 3)] [⟨"hall", [(4, 0), (6, 0)]⟩]

/-- A zone in the form of an arrowhead. -/
def arrowhead : ZoneManifest ℝ := manifest "arrowhead" [(0, 0), (10, 5), (0, 10), (9, 5)] []

def manifests : Manifests ℝ
  | "corridor" => some corridor
  | "wide-corridor" => some wideCorridor
  | "arrowhead" => some arrowhead
  | _ => none

theorem entryPoint_corridor : entryPoint manifests "hall" "corridor" = (5, 2) := by
  have root : Real.sqrt (1 / 4) = 1 / 2 := by
    rw [show (1 / 4 : ℝ) = (1 / 2) ^ 2 by norm_num]
    exact Real.sqrt_sq (by norm_num)
  norm_num [entryPoint, manifests, corridor, manifest, door, middle, centroid, nudgeToward,
    wayLength, Sqrt.sqrt, root]

theorem entryPoint_arrowhead : entryPoint manifests "hall" "arrowhead" = (19 / 4, 5) := by
  norm_num [entryPoint, manifests, arrowhead, manifest, door, centroid]

/-- What is left to check of a zone without spawns, routes and triggers. -/
theorem validate_manifest {id : String} {points : List (Point ℝ)} {links : List (Link ℝ)}
    (named : isBlank id = false) (corners : 3 ≤ points.length)
    (area : 1 / 1000000 ≤ Content.abs (polygonSignedArea points))
    (doors : ∀ p ∈ links.zipIdx, p.1.validate (manifest id points links).bounds p.2 = []) :
    (manifest id points links).validate = [] := by
  have hashed : isValidAssetRef
      "sha256:9f2ac1b3e4d5c6a7b8c9d0e1f2a3b4c5d6e7f8a9b0c1d2e3f4a5b6c7d8e9f0a1" = true := by decide
  have bounded : (manifest id points links).bounds.validate = [] := by
    simp [Bounds.validate, Bounds.degenerate, manifest, require, not_lt.mpr corners,
      degeneratePolygonAreaEpsilon]
    simpa using area
  have linked : ((manifest id points links).links.zipIdx.flatMap fun (link, i) =>
      link.validate (manifest id points links).bounds i) = [] := List.flatMap_eq_nil_iff.mpr doors
  simp only [ZoneManifest.validate, bounded, linked]
  simp [manifest, supportedSchemaVersion, named, hashed, require, unique]

theorem area_arrowhead : polygonSignedArea arrowhead.bounds.points = 5 := by
  norm_num [polygonSignedArea, withNext, arrowhead, manifest, List.rotate]

theorem validate_arrowhead : arrowhead.validate = [] := by
  refine validate_manifest (by decide) (by decide) ?_ (by simp)
  have area := area_arrowhead
  simp only [arrowhead, manifest] at area
  norm_num [area, Content.abs]

theorem foldl_minDistance_le {distances : List ℝ} {least : Option ℝ} {d : ℝ}
    (there : d ∈ distances ∨ least = some d) :
    ∃ m, distances.foldl minDistance least = some m ∧ m ≤ d := by
  induction distances generalizing least d with
  | nil =>
      obtain never | here := there
      · cases never
      · exact ⟨d, here, le_rfl⟩
  | cons x distances ih =>
      have smaller : ∀ e, x = e ∨ least = some e → ∃ m, minDistance least x = some m ∧ m ≤ e := by
        intro e cause
        cases least with
        | none => exact ⟨x, if_pos le_rfl, (cause.resolve_right (by simp)).le⟩
        | some m =>
            simp only [Option.some.injEq] at cause
            by_cases closer : x < m
            · exact ⟨x, if_pos closer, by obtain rfl | rfl := cause <;> linarith⟩
            · exact ⟨m, if_neg closer, by obtain rfl | rfl := cause <;> linarith⟩
      rw [List.foldl_cons, List.mem_cons] at *
      obtain (rfl | later) | first := there
      · obtain ⟨m, next, less⟩ := smaller d (.inl rfl)
        obtain ⟨m', last, less'⟩ := ih (.inr next)
        exact ⟨m', last, less'.trans less⟩
      · exact ih (.inl later)
      · obtain ⟨m, next, less⟩ := smaller d (.inr first)
        obtain ⟨m', last, less'⟩ := ih (.inr next)
        exact ⟨m', last, less'.trans less⟩

/-- A point on a wall is not off the boundary. -/
theorem offBoundary_of_wall {bounds : Bounds ℝ} {point : Point ℝ} {wall : Point ℝ × Point ℝ}
    (side : wall ∈ withNext bounds.points)
    (on : distancePointToSegment point wall.1 wall.2 = 0) : bounds.offBoundary point = false := by
  have among : (0 : ℝ) ∈ (withNext bounds.points).map fun (a, b) =>
      distancePointToSegment point a b := List.mem_map.mpr ⟨wall, side, on⟩
  obtain ⟨m, least, close⟩ := foldl_minDistance_le (.inl among)
  have found : distanceToPolygonBoundary point bounds.points = some m := least
  rw [Bounds.offBoundary, found]
  have tolerated : m ≤ linkEdgeBoundaryToleranceMeters := close.trans (by
    norm_num [linkEdgeBoundaryToleranceMeters])
  simpa using tolerated

/-- A corridor with a door in its long side passes every check. -/
theorem validate_door {id : String} {width : ℝ} (named : isBlank id = false)
    (wide : 1 / 1000000 ≤ 10 * width) :
    (manifest id [(0, 0), (10, 0), (10, width), (0, width)]
      [⟨"hall", [(4, 0), (6, 0)]⟩]).validate = [] := by
  refine validate_manifest named (by simp) ?_ ?_
  · have area : polygonSignedArea [((0, 0) : Point ℝ), (10, 0), (10, width), (0, width)] =
        10 * width := by
      simp [polygonSignedArea, withNext, List.rotate]
    have positive : ¬ 10 * width < 0 := by linarith
    rw [area, Content.abs, if_neg positive]
    exact wide
  · intro link there
    simp only [List.zipIdx_cons, List.zipIdx_nil, List.mem_singleton] at there
    subst there
    have wall : (((0, 0), (10, 0)) : Point ℝ × Point ℝ) ∈
        withNext (manifest id [(0, 0), (10, 0), (10, width), (0, width)]
          [⟨"hall", [(4, 0), (6, 0)]⟩]).bounds.points := by
      simp [withNext, manifest, List.rotate]
    have ends : ∀ point ∈ [((4, 0) : Point ℝ), (6, 0)],
        (manifest id [(0, 0), (10, 0), (10, width), (0, width)]
          [⟨"hall", [(4, 0), (6, 0)]⟩]).bounds.offBoundary point = false := by
      intro point here
      refine offBoundary_of_wall wall ?_
      simp only [List.mem_cons, List.not_mem_nil, or_false] at here
      obtain rfl | rfl := here <;>
        norm_num [distancePointToSegment, clampUnit, Sqrt.sqrt]
    simp [Link.validate, require, ends]

theorem validate_corridor : corridor.validate = [] := validate_door (by decide) (by norm_num)

theorem turnsLeft_wideCorridor : TurnsLeft wideCorridor.bounds.points := by
  intro a b c among
  have among := List.mem_sublists'.mpr among
  simp [wideCorridor, manifest] at among
  obtain ⟨rfl, rfl, rfl⟩ | ⟨rfl, rfl, rfl⟩ | ⟨rfl, rfl, rfl⟩ | ⟨rfl, rfl, rfl⟩ := among <;>
    norm_num [turn, RayCasting.cross]

theorem roomy_wideCorridor : Roomy wideCorridor "hall" := by
  refine ⟨.inl turnsLeft_wideCorridor, fun flat => ?_, fun a b leads => ?_⟩
  · have corner := flat (0, 0) (by simp [wideCorridor, manifest]) (10, 0)
      (by simp [wideCorridor, manifest]) (10, 3) (by simp [wideCorridor, manifest])
    norm_num [turn, RayCasting.cross] at corner
  · have ends : a = (4, 0) ∧ b = (6, 0) := by
      simpa [door, wideCorridor, manifest, eq_comm] using leads
    obtain ⟨rfl, rfl⟩ := ends
    have centre : middle ((4, 0) : Point ℝ) (6, 0) = (5, 0) := by norm_num [middle]
    rw [centre]
    refine ⟨?_, .inr fun wall side _ => ?_⟩
    · have left : ((0, 0) : Point ℝ) ∈ region wideCorridor.bounds.points :=
        subset_convexHull ℝ _ (by simp [wideCorridor, manifest])
      have right : ((10, 0) : Point ℝ) ∈ region wideCorridor.bounds.points :=
        subset_convexHull ℝ _ (by simp [wideCorridor, manifest])
      have between := convex_convexHull ℝ {v | v ∈ wideCorridor.bounds.points} left right
        (by norm_num : (0 : ℝ) ≤ 1 / 2) (by norm_num : (0 : ℝ) ≤ 1 / 2) (by norm_num)
      norm_num at between
      exact between
    · have hundred : Real.sqrt 100 = 10 := by
        rw [show (100 : ℝ) = 10 ^ 2 by norm_num]
        exact Real.sqrt_sq (by norm_num)
      have nine : Real.sqrt 9 = 3 := by
        rw [show (9 : ℝ) = 3 ^ 2 by norm_num]
        exact Real.sqrt_sq (by norm_num)
      simp [sides, wideCorridor, manifest] at side
      obtain rfl | rfl | rfl | rfl := side <;>
        norm_num [fromWall, cornersFromWall, wideCorridor, manifest, turn, RayCasting.cross,
          wayLength, Sqrt.sqrt, hundred, nine]

theorem strictlyInside_wideCorridor :
    wideCorridor.validate = [] ∧
      StrictlyInside (entryPoint manifests "hall" "wide-corridor") wideCorridor.bounds.points :=
  ⟨validate_door (by decide) (by norm_num), strictlyInside_entryPoint rfl roomy_wideCorridor⟩

/-- The way in goes through the corridor to the other side of it, and the mean of the
arrowhead's corners is between its barbs. -/
theorem not_strictlyInside_entryPoint :
    corridor.validate = [] ∧
      ¬ StrictlyInside (entryPoint manifests "hall" "corridor") corridor.bounds.points ∧
    arrowhead.validate = [] ∧
      ¬ StrictlyInside (entryPoint manifests "hall" "arrowhead") arrowhead.bounds.points := by
  refine ⟨validate_corridor, ?_, validate_arrowhead, ?_⟩
  · rw [entryPoint_corridor, StrictlyInside]
    norm_num [pointInPolygon, castRay, withPrevious, crosses, corridor, manifest, List.rotate]
  · rw [entryPoint_arrowhead, StrictlyInside]
    norm_num [pointInPolygon, castRay, withPrevious, crosses, arrowhead, manifest, List.rotate]

end Entry

end WorldZero.Server
