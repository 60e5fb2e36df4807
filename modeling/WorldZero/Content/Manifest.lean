import Mathlib.Data.List.Dedup
import Mathlib.Data.List.Rotate
import Mathlib.Analysis.Real.Sqrt
import WorldZero.Common

/-!
# Zone manifests

`zone.manifest.yaml` and the checks that it has to pass. Coordinates are of any type
with the operations that the code uses, so a manifest can be read over the real numbers,
over the rationals, or over a type with values of its own for what is not a number.
-/

namespace WorldZero.Content

/-- `f64::sqrt`. -/
class Sqrt (K : Type) where
  sqrt : K → K

noncomputable instance : Sqrt ℝ := ⟨Real.sqrt⟩

/-! ### Numerals

Each number that several modules write as a coordinate. -/

namespace Numeral

instance two : Nat.AtLeastTwo 2 := ⟨by decide⟩
instance four : Nat.AtLeastTwo 4 := ⟨by decide⟩
instance five : Nat.AtLeastTwo 5 := ⟨by decide⟩
instance six : Nat.AtLeastTwo 6 := ⟨by decide⟩
instance nine : Nat.AtLeastTwo 9 := ⟨by decide⟩
instance ten : Nat.AtLeastTwo 10 := ⟨by decide⟩
instance twentyFive : Nat.AtLeastTwo 25 := ⟨by decide⟩
instance million : Nat.AtLeastTwo 1000000 := ⟨by decide⟩
instance billion : Nat.AtLeastTwo 1000000000 := ⟨by decide⟩

end Numeral

/-- A point of the map. -/
abbrev Point (K : Type) := K × K

structure CoordinateSystem (K : Type) where
  units : String
  origin : Point K

structure Bounds (K : Type) where
  shape : String
  coordinateSystem : CoordinateSystem K
  points : List (Point K)

structure Collision where
  assetRef : String
  format : String

structure Link (K : Type) where
  targetZone : String
  edge : List (Point K)

structure SpawnTable (K : Type) where
  id : String
  entityType : String
  points : List (Point K)
  routeId : Option String

structure Route (K : Type) where
  id : String
  waypoints : List (Point K)
  speed : K

structure TriggerShape (K : Type) where
  shapeType : String
  center : Point K
  radius : K

structure Trigger (K : Type) where
  id : String
  shape : TriggerShape K

structure ZoneManifest (K : Type) where
  schemaVersion : ℕ
  id : String
  displayName : String
  bounds : Bounds K
  collision : Collision
  links : List (Link K)
  spawnTables : List (SpawnTable K)
  routes : List (Route K)
  triggers : List (Trigger K)

def supportedSchemaVersion : ℕ := 1

/-! ### Geometry -/

section Geometry

variable {K : Type}

/-- Each corner with the one before it; the last is before the first. -/
def withPrevious {P : Type} (polygon : List P) : List (P × P) :=
  polygon.zip (polygon.rotate (polygon.length - 1))

/-- Each corner with the one after it; the first is after the last. -/
def withNext {P : Type} (polygon : List P) : List (P × P) := polygon.zip (polygon.rotate 1)

variable [Zero K] [One K] [NatCast K] [Add K] [Sub K] [Mul K] [Div K] [LT K] [DecidableLT K]

def polygonSignedArea (points : List (Point K)) : K :=
  (withNext points).foldl (fun area (p, q) => area + (p.1 * q.2 - q.1 * p.2)) 0 / 2

/-- An edge, from its end `j` to its end `i`, is crossed by the ray to the right. -/
def crosses (point i j : Point K) : Bool :=
  if decide (point.2 < i.2) != decide (point.2 < j.2) then
    decide (point.1 < j.1 + (point.2 - j.2) / (i.2 - j.2) * (i.1 - j.1))
  else false

/-- The ray casting that `content::manifest`, `content::navmesh` and `world::movement` each
have a copy of. -/
def castRay (point : Point K) (polygon : List (Point K)) : Bool :=
  (withPrevious polygon).foldl (fun inside (i, j) => if crosses point i j then !inside else inside)
    false

/-- `content::manifest::point_in_polygon`. -/
def pointInPolygon (point : Point K) (polygon : List (Point K)) : Bool := castRay point polygon

/-- `f64::clamp` to the numbers between 0 and 1. -/
def clampUnit (x : K) : K := if x < 0 then 0 else if 1 < x then 1 else x

variable [Sqrt K]

def distancePointToSegment (p a b : Point K) : K :=
  let dx := b.1 - a.1
  let dy := b.2 - a.2
  let lenSq := dx * dx + dy * dy
  let t := if 0 < lenSq then clampUnit (((p.1 - a.1) * dx + (p.2 - a.2) * dy) / lenSq) else 0
  let cx := a.1 + t * dx
  let cy := a.2 + t * dy
  Sqrt.sqrt ((p.1 - cx) * (p.1 - cx) + (p.2 - cy) * (p.2 - cy))

variable [LE K] [DecidableLE K]

/-- `f64::min`, which passes over what is not a number; `none` is the infinity. -/
def minDistance (least : Option K) (d : K) : Option K :=
  match least with
  | none => if d ≤ d then some d else none
  | some m => if d < m then some d else some m

def distanceToPolygonBoundary (point : Point K) (polygon : List (Point K)) : Option K :=
  ((withNext polygon).map fun (a, b) => distancePointToSegment point a b).foldl minDistance none

end Geometry

/-! ### Validation -/

/-- What `validate` reports, with what it puts into the text. -/
inductive Problem (K : Type) where
  | schemaVersion (version : ℕ)
  | id
  | displayName
  | shape (shape : String)
  | units (units : String)
  | points (count : ℕ)
  | degenerate
  | assetRef (assetRef : String)
  | format (format : String)
  | edge (i count : ℕ)
  | edgePoint (i j : ℕ) (point : Point K) (distance : Option K)
  | routeIds
  | waypoints (i count : ℕ)
  | speed (i : ℕ) (speed : K)
  | spawnTableIds
  | spawnPoints (i : ℕ)
  | spawnPoint (i j : ℕ) (point : Point K)
  | routeId (i : ℕ) (routeId : String)
  | triggerIds
  | triggerShape (i : ℕ) (shapeType : String)
  | radius (i : ℕ) (radius : K)
  | center (i : ℕ) (center : Point K)

/-- The dotted path that the text starts with. -/
def Problem.path {K : Type} : Problem K → String
  | .schemaVersion _ => "schema_version"
  | .id => "id"
  | .displayName => "display_name"
  | .shape _ => "bounds.shape"
  | .units _ => "bounds.coordinate_system.units"
  | .points _ | .degenerate => "bounds.points"
  | .assetRef _ => "collision.asset_ref"
  | .format _ => "collision.format"
  | .edge i _ => s!"links[{i}].edge"
  | .edgePoint i j _ _ => s!"links[{i}].edge[{j}]"
  | .routeIds => "routes"
  | .waypoints i _ => s!"routes[{i}].waypoints"
  | .speed i _ => s!"routes[{i}].speed"
  | .spawnTableIds => "spawn_tables"
  | .spawnPoints i => s!"spawn_tables[{i}].points"
  | .spawnPoint i j _ => s!"spawn_tables[{i}].points[{j}]"
  | .routeId i _ => s!"spawn_tables[{i}].route_id"
  | .triggerIds => "triggers"
  | .triggerShape i _ => s!"triggers[{i}].shape.type"
  | .radius i _ => s!"triggers[{i}].shape.radius"
  | .center i _ => s!"triggers[{i}].shape.center"

/-- `sha256:` and 64 digits, none of them in upper case. -/
def isValidAssetRef (value : String) : Bool :=
  match value.toList with
  | 's' :: 'h' :: 'a' :: '2' :: '5' :: '6' :: ':' :: hex =>
      hex.length == 64 && hex.all fun c => c.isDigit || ('a' ≤ c && c ≤ 'f')
  | _ => false

section Validate

variable {K : Type} [Zero K] [One K] [NatCast K] [Add K] [Sub K] [Mul K] [Div K] [Neg K]
variable [LT K] [DecidableLT K] [LE K] [DecidableLE K] [Sqrt K]

/-- `f64::abs`. -/
def abs (x : K) : K := if x < 0 then -x else x

/-- `LINK_EDGE_BOUNDARY_TOLERANCE_METERS`. -/
def linkEdgeBoundaryToleranceMeters : K := 1

/-- `DEGENERATE_POLYGON_AREA_EPSILON`. -/
def degeneratePolygonAreaEpsilon : K := 1 / 1000000

/-- The check, and the problem that it reports when it fails. -/
def require (ok : Bool) (problem : Problem K) : List (Problem K) := if ok then [] else [problem]

namespace Bounds

variable (bounds : Bounds K)

def degenerate : Bool := abs (polygonSignedArea bounds.points) < degeneratePolygonAreaEpsilon

/-- `bounds_are_usable`. -/
def usable : Bool :=
  3 ≤ bounds.points.length &&
    decide (degeneratePolygonAreaEpsilon ≤ abs (polygonSignedArea bounds.points))

def validate : List (Problem K) :=
  require (bounds.shape == "polygon") (.shape bounds.shape) ++
    require (bounds.coordinateSystem.units == "meters") (.units bounds.coordinateSystem.units) ++
    if bounds.points.length < 3 then [.points bounds.points.length]
    else require (!bounds.degenerate) .degenerate

/-- An end of a link's edge is farther than the tolerance from the boundary. -/
def offBoundary (point : Point K) : Bool :=
  match distanceToPolygonBoundary point bounds.points with
  | none => true
  | some distance => linkEdgeBoundaryToleranceMeters < distance

end Bounds

def Link.validate (bounds : Bounds K) (link : Link K) (i : ℕ) : List (Problem K) :=
  if link.edge.length ≠ 2 then [.edge i link.edge.length]
  else if bounds.usable then
    link.edge.zipIdx.flatMap fun (point, j) =>
      require (!bounds.offBoundary point)
        (.edgePoint i j point (distanceToPolygonBoundary point bounds.points))
  else []

omit [One K] [NatCast K] [Add K] [Sub K] [Mul K] [Div K] [Neg K] [LT K] [DecidableLT K] [Sqrt K] in
def Route.validate (route : Route K) (i : ℕ) : List (Problem K) :=
  require (2 ≤ route.waypoints.length) (.waypoints i route.waypoints.length) ++
    require (!decide (route.speed ≤ 0)) (.speed i route.speed)

def SpawnTable.validate (bounds : Bounds K) (routeIds : List String) (spawnTable : SpawnTable K)
    (i : ℕ) : List (Problem K) :=
  (if spawnTable.points.isEmpty then [.spawnPoints i]
    else if bounds.usable then
      spawnTable.points.zipIdx.flatMap fun (point, j) =>
        require (pointInPolygon point bounds.points) (.spawnPoint i j point)
    else []) ++
  match spawnTable.routeId with
  | some routeId => require (routeId ∈ routeIds) (.routeId i routeId)
  | none => []

def Trigger.validate (bounds : Bounds K) (trigger : Trigger K) (i : ℕ) : List (Problem K) :=
  require (trigger.shape.shapeType == "circle") (.triggerShape i trigger.shape.shapeType) ++
    require (!decide (trigger.shape.radius ≤ 0)) (.radius i trigger.shape.radius) ++
    require (!bounds.usable || pointInPolygon trigger.shape.center bounds.points)
      (.center i trigger.shape.center)

/-- A set of the identifiers has as many elements as there are. -/
def unique (ids : List String) : Bool := ids.dedup.length == ids.length

/-- `ZoneManifest::validate`: every problem, unless the version of the format is not known. -/
def ZoneManifest.validate (manifest : ZoneManifest K) : List (Problem K) :=
  if manifest.schemaVersion ≠ supportedSchemaVersion then
    [.schemaVersion manifest.schemaVersion]
  else
    let routeIds := manifest.routes.map Route.id
    require (!isBlank manifest.id) .id ++ require (!isBlank manifest.displayName) .displayName ++
      manifest.bounds.validate ++
      require (isValidAssetRef manifest.collision.assetRef)
        (.assetRef manifest.collision.assetRef) ++
      require (manifest.collision.format == "navmesh_v1") (.format manifest.collision.format) ++
      manifest.links.zipIdx.flatMap (fun (link, i) => link.validate manifest.bounds i) ++
      require (unique routeIds) .routeIds ++
      manifest.routes.zipIdx.flatMap (fun (route, i) => route.validate i) ++
      require (unique (manifest.spawnTables.map SpawnTable.id)) .spawnTableIds ++
      manifest.spawnTables.zipIdx.flatMap
        (fun (spawnTable, i) => spawnTable.validate manifest.bounds routeIds i) ++
      require (unique (manifest.triggers.map Trigger.id)) .triggerIds ++
      manifest.triggers.zipIdx.flatMap (fun (trigger, i) => trigger.validate manifest.bounds i)

end Validate

end WorldZero.Content
