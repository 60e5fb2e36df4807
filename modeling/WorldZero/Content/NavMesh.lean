import WorldZero.Content.Manifest

/-!
# Navigation meshes

The `navmesh_v1` asset of a zone: the walkable polygons, a floor above another being
another polygon.
-/

namespace WorldZero.Content

abbrev Point3 (K : Type) := K × K × K

/-- The footprint of a point. -/
def flat {K : Type} (p : Point3 K) : Point K := (p.1, p.2.1)

namespace NavMesh

structure Polygon (K : Type) where
  vertices : List (Point3 K)

section Polygon

variable {K : Type} [Zero K] [One K] [NatCast K] [Add K] [Sub K] [Mul K] [Div K] [Neg K]
variable [LT K] [DecidableLT K] [LE K] [DecidableLE K]

/-- `HEIGHT_TOLERANCE_METERS`. -/
def heightToleranceMeters : K := 1 / 2

/-- `VERTICAL_NORMAL_EPSILON`. -/
def verticalNormalEpsilon : K := 1 / 1000000000

def pointInPolygon2d (point : Point K) (vertices : List (Point3 K)) : Bool :=
  castRay point (vertices.map flat)

namespace Polygon

variable (polygon : Polygon K)

/-- Newell's method. -/
def normal : Point3 K :=
  (withNext polygon.vertices).foldl (fun n (p, q) =>
    (n.1 + (p.2.1 - q.2.1) * (p.2.2 + q.2.2), n.2.1 + (p.2.2 - q.2.2) * (p.1 + q.1),
      n.2.2 + (p.1 - q.1) * (p.2.1 + q.2.1))) (0, 0, 0)

def contains (point : Point3 K) : Bool :=
  if !pointInPolygon2d (flat point) polygon.vertices then false
  else
    let n := polygon.normal
    if abs n.2.2 < verticalNormalEpsilon then false
    else
      match polygon.vertices with
      | [] => false
      | v :: _ =>
          let expectedZ := v.2.2 - (n.1 * (point.1 - v.1) + n.2.1 * (point.2.1 - v.2.1)) / n.2.2
          abs (point.2.2 - expectedZ) ≤ heightToleranceMeters

end Polygon

end Polygon

end NavMesh

structure NavMesh (K : Type) where
  polygons : List (NavMesh.Polygon K)

namespace NavMesh

variable {K : Type}

/-- The asset file. -/
structure Raw (K : Type) where
  format : String
  polygons : List (Polygon K)

inductive Problem where
  | format (format : String)
  | noPolygons
  | vertices (i count : ℕ)

/-- `NavMesh::from_json`, once the file is parsed. -/
def fromRaw (raw : Raw K) : Except Problem (NavMesh K) :=
  if raw.format ≠ "navmesh_v1" then .error (.format raw.format)
  else if raw.polygons.isEmpty then .error .noPolygons
  else
    match raw.polygons.zipIdx.find? fun p => p.1.vertices.length < 3 with
    | some (polygon, i) => .error (.vertices i polygon.vertices.length)
    | none => .ok ⟨raw.polygons⟩

/-- A mesh that is loaded has a polygon, and each of its polygons has three vertices or more. -/
theorem of_fromRaw {raw : Raw K} {mesh : NavMesh K} (loaded : fromRaw raw = .ok mesh) :
    mesh.polygons ≠ [] ∧ ∀ polygon ∈ mesh.polygons, 3 ≤ polygon.vertices.length := by
  unfold fromRaw at loaded
  split at loaded
  · cases loaded
  · split at loaded
    · cases loaded
    next some_polygon =>
      split at loaded
      · cases loaded
      next none_short =>
        cases loaded
        refine ⟨fun none => some_polygon (by simpa using none), fun polygon there => ?_⟩
        obtain ⟨i, bound, rfl⟩ := List.mem_iff_getElem.mp there
        have long := List.find?_eq_none.mp none_short (raw.polygons[i], i)
          (List.mem_zipIdx_iff_getElem?.mpr (List.getElem?_eq_getElem bound))
        simpa using long

variable [Zero K] [One K] [NatCast K] [Add K] [Sub K] [Mul K] [Div K] [Neg K]
variable [LT K] [DecidableLT K] [LE K] [DecidableLE K]

def containingPolygon (navmesh : NavMesh K) (point : Point3 K) : Option (Polygon K) :=
  navmesh.polygons.find? fun polygon => polygon.contains point

def contains (navmesh : NavMesh K) (point : Point3 K) : Bool :=
  (navmesh.containingPolygon point).isSome

end NavMesh

end WorldZero.Content
