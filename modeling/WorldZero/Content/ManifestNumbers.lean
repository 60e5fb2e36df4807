import WorldZero.Content.Numbers

/-!
# Manifests whose numbers are none

`validate` reports a problem where a comparison holds or where one fails. A value that is no
number is reported only by the checks of the second kind, and only if the bounds are usable,
which those with such a corner are not.
-/

namespace WorldZero.Content

open NotANumber Number

/-! ### What the checks ask -/

section Reports

variable {K : Type}

@[simp] theorem require_eq_nil {ok : Bool} {problem : Problem K} :
    require ok problem = [] ↔ ok = true := by
  cases ok <;> simp [require]

/-- Nothing is reported about a list if nothing is reported about any item. -/
theorem flatMap_zipIdx_eq_nil {X : Type} {items : List X} {check : X → ℕ → List (Problem K)}
    {ok : X → Prop} (spec : ∀ x i, check x i = [] ↔ ok x) :
    (items.zipIdx.flatMap fun (x, i) => check x i) = [] ↔ ∀ x ∈ items, ok x := by
  simp only [List.flatMap_eq_nil_iff]
  constructor
  · intro silent x here
    obtain ⟨i, there⟩ := List.mem_iff_getElem?.mp here
    exact (spec x i).mp (silent (x, i) (List.mk_mem_zipIdx_iff_getElem?.mpr there))
  · intro each (x, i) there
    exact (spec x i).mpr (each x (List.fst_mem_of_mem_zipIdx there))

variable [Zero K]

theorem Route.validate_eq_nil [LE K] [DecidableLE K] (route : Route K) (i : ℕ) :
    route.validate i = [] ↔ 2 ≤ route.waypoints.length ∧ ¬ route.speed ≤ 0 := by
  simp [Route.validate]

variable [One K] [NatCast K] [Add K] [Sub K] [Mul K] [Div K] [Neg K] [LT K] [DecidableLT K]

theorem Bounds.validate_eq_nil (bounds : Bounds K) :
    bounds.validate = [] ↔ bounds.shape = "polygon" ∧ bounds.coordinateSystem.units = "meters" ∧
      3 ≤ bounds.points.length ∧ bounds.degenerate = false := by
  unfold Bounds.validate
  split
  next few => simp [few]
  next enough => simp [not_lt.mp enough]

variable [LE K] [DecidableLE K]

theorem SpawnTable.validate_eq_nil (bounds : Bounds K) (routeIds : List String)
    (spawnTable : SpawnTable K) (i : ℕ) :
    spawnTable.validate bounds routeIds i = [] ↔ (spawnTable.points ≠ [] ∧
      (bounds.usable = true → ∀ p ∈ spawnTable.points, pointInPolygon p bounds.points = true)) ∧
      ∀ routeId ∈ spawnTable.routeId, routeId ∈ routeIds := by
  unfold SpawnTable.validate
  rw [List.append_eq_nil_iff]
  refine and_congr ?_ ?_
  · split
    next nowhere => simp [List.isEmpty_iff.mp nowhere]
    next somewhere =>
      have somewhere : spawnTable.points ≠ [] :=
        fun nowhere => somewhere (List.isEmpty_iff.mpr nowhere)
      split
      next usable =>
        have each : ∀ (p : Point K) (j : ℕ),
            require (pointInPolygon p bounds.points) (.spawnPoint i j p) = [] ↔
              pointInPolygon p bounds.points = true := fun p j => require_eq_nil
        refine (flatMap_zipIdx_eq_nil each).trans ?_
        simp [somewhere, usable]
      next unusable => simp [somewhere, unusable]
  · split
    next routeId named => simp [named]
    next unnamed => simp [unnamed]

theorem Trigger.validate_eq_nil (bounds : Bounds K) (trigger : Trigger K) (i : ℕ) :
    trigger.validate bounds i = [] ↔ trigger.shape.shapeType = "circle" ∧
      ¬ trigger.shape.radius ≤ 0 ∧
      (bounds.usable = true → pointInPolygon trigger.shape.center bounds.points = true) := by
  simp only [Trigger.validate, List.append_eq_nil_iff, require_eq_nil, beq_iff_eq, and_assoc]
  cases bounds.usable <;> simp

variable [Sqrt K]

theorem Link.validate_eq_nil (bounds : Bounds K) (link : Link K) (i : ℕ) :
    link.validate bounds i = [] ↔ link.edge.length = 2 ∧
      (bounds.usable = true → ∀ p ∈ link.edge, bounds.offBoundary p = false) := by
  unfold Link.validate
  split
  next other => simp [other]
  next two =>
    rw [ne_eq, not_not] at two
    split
    next usable =>
      have each : ∀ (p : Point K) (j : ℕ), require (!bounds.offBoundary p)
          (.edgePoint i j p (distanceToPolygonBoundary p bounds.points)) = [] ↔
            bounds.offBoundary p = false := fun p j => by simp
      refine (flatMap_zipIdx_eq_nil each).trans ?_
      simp [two, usable]
    next unusable => simp [two, unusable]

/-- Every check of `validate` passes. -/
structure ZoneManifest.Passes (m : ZoneManifest K) : Prop where
  version : m.schemaVersion = supportedSchemaVersion
  id : isBlank m.id = false
  displayName : isBlank m.displayName = false
  bounds : m.bounds.shape = "polygon" ∧ m.bounds.coordinateSystem.units = "meters" ∧
    3 ≤ m.bounds.points.length ∧ m.bounds.degenerate = false
  assetRef : isValidAssetRef m.collision.assetRef = true
  format : m.collision.format = "navmesh_v1"
  links : ∀ link ∈ m.links, link.edge.length = 2 ∧
    (m.bounds.usable = true → ∀ p ∈ link.edge, m.bounds.offBoundary p = false)
  routeIds : unique (m.routes.map Route.id) = true
  routes : ∀ route ∈ m.routes, 2 ≤ route.waypoints.length ∧ ¬ route.speed ≤ 0
  spawnTableIds : unique (m.spawnTables.map SpawnTable.id) = true
  spawnTables : ∀ spawnTable ∈ m.spawnTables, (spawnTable.points ≠ [] ∧
    (m.bounds.usable = true → ∀ p ∈ spawnTable.points, pointInPolygon p m.bounds.points = true)) ∧
    ∀ routeId ∈ spawnTable.routeId, routeId ∈ m.routes.map Route.id
  triggerIds : unique (m.triggers.map Trigger.id) = true
  triggers : ∀ trigger ∈ m.triggers, trigger.shape.shapeType = "circle" ∧
    ¬ trigger.shape.radius ≤ 0 ∧
    (m.bounds.usable = true → pointInPolygon trigger.shape.center m.bounds.points = true)

theorem ZoneManifest.validate_eq_nil (m : ZoneManifest K) : m.validate = [] ↔ m.Passes := by
  unfold ZoneManifest.validate
  split
  next unknown => exact iff_of_false (by simp) fun passes => unknown passes.version
  next known =>
    dsimp only
    simp only [List.append_eq_nil_iff, require_eq_nil, Bounds.validate_eq_nil, beq_iff_eq,
      Bool.not_eq_true', flatMap_zipIdx_eq_nil (Link.validate_eq_nil m.bounds),
      flatMap_zipIdx_eq_nil Route.validate_eq_nil,
      flatMap_zipIdx_eq_nil (SpawnTable.validate_eq_nil m.bounds (m.routes.map Route.id)),
      flatMap_zipIdx_eq_nil (Trigger.validate_eq_nil m.bounds)]
    constructor
    · rintro ⟨⟨⟨⟨⟨⟨⟨⟨⟨⟨⟨a, b⟩, c⟩, d⟩, e⟩, f⟩, g⟩, h⟩, i⟩, j⟩, k⟩, l⟩
      exact ⟨not_not.mp known, a, b, c, d, e, f, g, h, i, j, k, l⟩
    · rintro ⟨-, a, b, c, d, e, f, g, h, i, j, k, l⟩
      exact ⟨⟨⟨⟨⟨⟨⟨⟨⟨⟨⟨a, b⟩, c⟩, d⟩, e⟩, f⟩, g⟩, h⟩, i⟩, j⟩, k⟩, l⟩

end Reports

/-! ### Areas and distances -/

section Geometry

variable {polygon : List (Point (Number ℝ))} {point a b : Point (Number ℝ)} {d : Number ℝ}

theorem mem_withNext {P : Type} {polygon : List P} {edge : P × P} (here : edge ∈ withNext polygon) :
    edge.1 ∈ polygon ∧ edge.2 ∈ polygon := by
  obtain ⟨first, second⟩ := List.of_mem_zip here
  exact ⟨first, List.mem_rotate.mp second⟩

/-- The area of a polygon of numbers is a number. -/
theorem polygonSignedArea_isNum (corners : ∀ p ∈ polygon, p.IsNum) :
    (polygonSignedArea polygon).IsNum := by
  have sum : ∀ (edges : List (Point (Number ℝ) × Point (Number ℝ))) (area : Number ℝ),
      (∀ edge ∈ edges, edge.1.IsNum ∧ edge.2.IsNum) → area.IsNum →
      (edges.foldl (fun area (p, q) => area + (p.1 * q.2 - q.1 * p.2)) area).IsNum := by
    intro edges
    induction edges with
    | nil => exact fun _ _ known => known
    | cons edge edges ih =>
        intro area known start
        obtain ⟨first, second⟩ := known edge List.mem_cons_self
        refine ih _ (fun e there => known e (List.mem_cons_of_mem _ there)) ?_
        simp only [isNum_add, isNum_sub, isNum_mul]
        exact ⟨start, ⟨first.1, second.2⟩, second.1, first.2⟩
  have total := sum (withNext polygon) 0 (fun edge here =>
    ⟨corners _ (mem_withNext here).1, corners _ (mem_withNext here).2⟩) trivial
  obtain ⟨x, known⟩ := isNum_iff.mp total
  have halved : polygonSignedArea polygon = num x / num 2 := congrArg (· / num 2) known
  rw [halved, num_div_num two_ne_zero]
  trivial

theorem isNum_of_distancePointToSegment (known : (distancePointToSegment point a b).IsNum) :
    point.IsNum := by
  have squares := isNum_of_sqrt known
  simp only [isNum_add, isNum_mul, isNum_sub] at squares
  exact ⟨squares.1.1.1, squares.2.1.1⟩

theorem eq_of_minDistance {least : Option (Number ℝ)} {x : Number ℝ}
    (found : minDistance least x = some d) : least = some d ∨ (x = d ∧ d.IsNum) := by
  cases least with
  | none =>
      simp only [minDistance] at found
      split at found
      next known =>
        cases found
        exact .inr ⟨rfl, (isNum_of_le known).1⟩
      next => cases found
  | some m =>
      simp only [minDistance] at found
      split at found
      next less =>
        cases found
        exact .inr ⟨rfl, (isNum_of_lt less).1⟩
      next => exact .inl found

/-- The least of some distances is one of them, and a number. -/
theorem mem_of_foldl_minDistance {distances : List (Number ℝ)} {least : Option (Number ℝ)}
    (found : distances.foldl minDistance least = some d) :
    least = some d ∨ (d ∈ distances ∧ d.IsNum) := by
  induction distances generalizing least with
  | nil => exact .inl found
  | cons x distances ih =>
      obtain now | ⟨later, known⟩ := ih found
      · refine (eq_of_minDistance now).imp id fun ⟨same, known⟩ => ⟨?_, known⟩
        exact same ▸ List.mem_cons_self
      · exact .inr ⟨List.mem_cons_of_mem _ later, known⟩

/-- A point that is not off the boundary is one of numbers, and within the tolerance of it. -/
theorem near_of_not_offBoundary {bounds : Bounds (Number ℝ)}
    (near : bounds.offBoundary point = false) : point.IsNum ∧
      ∃ d, distanceToPolygonBoundary point bounds.points = some d ∧
        d ≤ linkEdgeBoundaryToleranceMeters := by
  unfold Bounds.offBoundary at near
  split at near
  · cases near
  next d found =>
    obtain start | ⟨there, known⟩ := mem_of_foldl_minDistance found
    · cases start
    · obtain ⟨edge, -, rfl⟩ := List.mem_map.mp there
      refine ⟨isNum_of_distancePointToSegment known, _, found, ?_⟩
      exact le_of_not_lt trivial known (of_decide_eq_false near)

theorem degeneratePolygonAreaEpsilon_eq :
    (degeneratePolygonAreaEpsilon : Number ℝ) = num (1 / 1000000) :=
  num_div_num (by norm_num : (1000000 : ℝ) ≠ 0)

theorem usable_of_corners {bounds : Bounds (Number ℝ)} (corners : ∀ p ∈ bounds.points, p.IsNum)
    (enough : 3 ≤ bounds.points.length) (proper : bounds.degenerate = false) :
    bounds.usable = true ∧
      degeneratePolygonAreaEpsilon ≤ abs (polygonSignedArea bounds.points) := by
  have area := abs_isNum.mpr (polygonSignedArea_isNum corners)
  have epsilon : (degeneratePolygonAreaEpsilon : Number ℝ).IsNum := by
    rw [degeneratePolygonAreaEpsilon_eq]
    trivial
  have large := le_of_not_lt area epsilon (of_decide_eq_false proper)
  refine ⟨?_, large⟩
  simp [Bounds.usable, enough, large]

end Geometry

/-! ### What is taken on trust -/

namespace ZoneManifest

/-- The numbers that no check reports, or only a comparison that holds. -/
structure TrustedNumbers (m : ZoneManifest (Number ℝ)) : Prop where
  corners : ∀ p ∈ m.bounds.points, p.IsNum
  origin : m.bounds.coordinateSystem.origin.IsNum
  waypoints : ∀ route ∈ m.routes, ∀ p ∈ route.waypoints, p.IsNum
  speeds : ∀ route ∈ m.routes, route.speed.IsNum
  radii : ∀ trigger ∈ m.triggers, trigger.shape.radius.IsNum

/-- Every number of the manifest is one, the bounds are a polygon with an area, what is placed
in them is inside, the links are at the boundary, and speeds and radii are positive. -/
structure Sound (m : ZoneManifest (Number ℝ)) : Prop extends m.TrustedNumbers where
  edges : ∀ link ∈ m.links, ∀ p ∈ link.edge, p.IsNum
  spawnPoints : ∀ spawnTable ∈ m.spawnTables, ∀ p ∈ spawnTable.points, p.IsNum
  centers : ∀ trigger ∈ m.triggers, trigger.shape.center.IsNum
  enough : 3 ≤ m.bounds.points.length
  area : degeneratePolygonAreaEpsilon ≤ abs (polygonSignedArea m.bounds.points)
  spawnsInside : ∀ spawnTable ∈ m.spawnTables, ∀ p ∈ spawnTable.points,
    pointInPolygon p m.bounds.points = true
  centersInside : ∀ trigger ∈ m.triggers, pointInPolygon trigger.shape.center m.bounds.points = true
  linksNear : ∀ link ∈ m.links, ∀ p ∈ link.edge,
    ∃ d, distanceToPolygonBoundary p m.bounds.points = some d ∧ d ≤ linkEdgeBoundaryToleranceMeters
  fast : ∀ route ∈ m.routes, 0 < route.speed
  wide : ∀ trigger ∈ m.triggers, 0 < trigger.shape.radius

variable {m : ZoneManifest (Number ℝ)}

theorem sound_of_passes (trusted : m.TrustedNumbers) (passes : m.Passes) : m.Sound := by
  obtain ⟨-, -, enough, proper⟩ := passes.bounds
  obtain ⟨usable, area⟩ := usable_of_corners trusted.corners enough proper
  have near : ∀ link ∈ m.links, ∀ p ∈ link.edge, p.IsNum ∧
      ∃ d, distanceToPolygonBoundary p m.bounds.points = some d ∧
        d ≤ linkEdgeBoundaryToleranceMeters :=
    fun link here p there => near_of_not_offBoundary ((passes.links link here).2 usable p there)
  have spawns : ∀ spawnTable ∈ m.spawnTables, ∀ p ∈ spawnTable.points,
      pointInPolygon p m.bounds.points = true :=
    fun spawnTable here => (passes.spawnTables spawnTable here).1.2 usable
  have centers : ∀ trigger ∈ m.triggers,
      pointInPolygon trigger.shape.center m.bounds.points = true :=
    fun trigger here => (passes.triggers trigger here).2.2 usable
  exact
    { trusted with
      edges := fun link here p there => (near link here p there).1
      spawnPoints := fun spawnTable here p there =>
        isNum_of_castRay (spawns spawnTable here p there)
      centers := fun trigger here => isNum_of_castRay (centers trigger here)
      enough
      area
      spawnsInside := spawns
      centersInside := centers
      linksNear := fun link here p there => (near link here p there).2
      fast := fun route here =>
        lt_of_not_le (trusted.speeds route here) trivial (passes.routes route here).2
      wide := fun trigger here =>
        lt_of_not_le (trusted.radii trigger here) trivial (passes.triggers trigger here).2.1 }

/-- A manifest without a reported problem is sound exactly when the numbers that are taken on
trust are numbers, or another check fails. -/
theorem sound_of_validate_iff (m : ZoneManifest (Number ℝ)) :
    (m.validate = [] → m.Sound) ↔ m.TrustedNumbers ∨ ¬ m.Passes := by
  rw [validate_eq_nil]
  constructor
  · intro sound
    by_cases passes : m.Passes
    · exact .inl (sound passes).toTrustedNumbers
    · exact .inr passes
  · rintro (trusted | fails) passes
    · exact sound_of_passes trusted passes
    · exact absurd passes fails

end ZoneManifest

/-! ### A speed that is none -/

/-- A square with one route. -/
def patrolled : ZoneManifest (Number ℝ) where
  schemaVersion := 1
  id := "yard"
  displayName := "Yard"
  bounds := ⟨"polygon", ⟨"meters", (num 0, num 0)⟩,
    [(num 0, num 0), (num 10, num 0), (num 10, num 10), (num 0, num 10)]⟩
  collision := ⟨"sha256:" ++ String.ofList (List.replicate 64 '0'), "navmesh_v1"⟩
  links := []
  spawnTables := []
  routes := [⟨"patrol", [(num 1, num 1), (num 9, num 9)], nan⟩]
  triggers := []

theorem patrolled_area : polygonSignedArea patrolled.bounds.points = num 100 := by
  have sum : (0 + num 0 + num 100 + num 100 + num 0 : Number ℝ) = num 200 := by
    rw [zero_eq]
    norm_num
  have doubled : polygonSignedArea patrolled.bounds.points = num 200 / num 2 := by
    norm_num [polygonSignedArea, patrolled, withNext, List.rotate]
    exact congrArg (· / num 2) sum
  rw [doubled, num_div_num two_ne_zero]
  norm_num

theorem patrolled_passes_unsound : patrolled.validate = [] ∧ ¬ patrolled.Sound := by
  constructor
  · refine patrolled.validate_eq_nil.mpr
      { version := rfl
        id := by decide
        displayName := by decide
        bounds := ⟨rfl, rfl, by decide, ?_⟩
        assetRef := by decide
        format := rfl
        links := nofun
        routeIds := by decide
        routes := ?_
        spawnTableIds := by decide
        spawnTables := nofun
        triggerIds := by decide
        triggers := nofun }
    · have large : ¬ abs (num 100) < (degeneratePolygonAreaEpsilon : Number ℝ) := by
        have positive : ¬ (num 100 : Number ℝ) < 0 := by
          rw [zero_eq, num_lt_num]
          norm_num
        rw [degeneratePolygonAreaEpsilon_eq, abs, if_neg positive, num_lt_num]
        norm_num
      rw [Bounds.degenerate, patrolled_area]
      exact decide_eq_false large
    · intro route here
      obtain rfl := List.mem_singleton.mp here
      exact ⟨by decide, id⟩
  · exact fun sound => sound.speeds _ List.mem_cons_self

end WorldZero.Content
