import Mathlib.Data.Finset.Insert
import WorldZero.World.Zone

/-!
# Who is in the bounds of a zone

A move that is applied ends in the bounds, and one that leaves them across a link takes the
entity out of the zone. Only a spawn and a teleport, which nothing validates, put an entity
elsewhere.
-/

namespace WorldZero.World

open Content (Point3 Sqrt ZoneManifest flat)

variable {K : Type} [Add K] [Sub K] [Mul K] [Div K] [LT K] [DecidableLT K]

def InBounds (manifest : ZoneManifest K) (position : Point3 K) : Bool :=
  pointInPolygon (flat position) manifest.bounds.points

namespace Zone

/-- Every entity that is not an NPC is in the bounds. -/
def Contained (npcs : Finset EntityId) (zone : Zone K) : Prop :=
  ∀ e ∉ npcs, ∀ p, zone.positionOf e = some p → InBounds zone.manifest p = true

/-- The teleports that wait for the tick lead into the bounds, except for NPCs. -/
def Tethered (npcs : Finset EntityId) (zone : Zone K) : Prop :=
  ∀ p ∈ zone.pendingTeleports, p.1 ∉ npcs → InBounds zone.manifest p.2 = true

variable {npcs : Finset EntityId} {zone : Zone K}

theorem Contained.new (npcs : Finset EntityId) (manifest : ZoneManifest K)
    (config : WorldConfig K) (navmesh) : (Zone.new manifest config navmesh).Contained npcs :=
  fun _ _ _ there => nomatch there

theorem Contained.mono (contained : zone.Contained npcs) {more : Finset EntityId}
    (larger : npcs ⊆ more) : zone.Contained more :=
  fun e player => contained e fun npc => player (larger npc)

variable [FloorI64 K]

theorem Contained.spawn (contained : zone.Contained npcs) {e : EntityId} (kind : EntityKind)
    {p : Point3 K} (inside : e ∉ npcs → InBounds zone.manifest p = true) :
    (zone.spawn e kind p).Contained npcs := by
  intro e' player p' there
  rw [positionOf_spawn] at there
  by_cases same : e' = e
  · subst same
    rw [Function.update_self] at there
    cases there
    exact inside player
  · rw [Function.update_of_ne same] at there
    exact contained e' player p' there

theorem Contained.despawn (contained : zone.Contained npcs) (e : EntityId) :
    (zone.despawn e).Contained npcs := by
  intro e' player p' there
  rw [positionOf_despawn] at there
  by_cases same : e' = e
  · subst same
    rw [Function.update_self] at there
    cases there
  · rw [Function.update_of_ne same] at there
    exact contained e' player p' there

theorem Contained.moved (contained : zone.Contained npcs) {e : EntityId} {p : Point3 K}
    (inside : e ∉ npcs → InBounds zone.manifest p = true) :
    { zone with index := zone.index.update e p }.Contained npcs := by
  intro e' player p' there
  by_cases same : e' = e
  · subst same
    cases stood : zone.positionOf e' with
    | none =>
        rw [GridIndex.update_of_absent zone.index p stood] at there
        exact contained e' player p' there
    | some origin =>
        rw [positionOf_moved_self zone stood] at there
        cases there
        exact inside player
  · rw [positionOf_moved_of_ne zone e p same] at there
    exact contained e' player p' there

omit [Add K] [Sub K] [Mul K] [LT K] [DecidableLT K] in
theorem applyTeleport_eq (zone : Zone K) (e : EntityId) (target : Point3 K) :
    (zone.applyTeleport e target).1 = { zone with index := zone.index.update e target } := by
  unfold applyTeleport
  split
  next gone => rw [GridIndex.update_of_absent zone.index target gone]
  next => rfl

omit [Add K] [Sub K] [Mul K] [LT K] [DecidableLT K] in
theorem manifest_applyTeleports (zone : Zone K) (teleports : List (EntityId × Point3 K)) :
    (zone.applyTeleports teleports).1.manifest = zone.manifest := by
  induction teleports generalizing zone with
  | nil => rfl
  | cons teleport teleports ih =>
      have here : (zone.applyTeleport teleport.1 teleport.2).1.manifest = zone.manifest := by
        rw [applyTeleport_eq]
      exact (ih _).trans here

theorem Contained.applyTeleports (contained : zone.Contained npcs)
    {teleports : List (EntityId × Point3 K)}
    (tethered : ∀ p ∈ teleports, p.1 ∉ npcs → InBounds zone.manifest p.2 = true) :
    (zone.applyTeleports teleports).1.Contained npcs := by
  induction teleports generalizing zone with
  | nil => exact contained
  | cons teleport teleports ih =>
      obtain ⟨first, rest⟩ := List.forall_mem_cons.mp tethered
      have same := applyTeleport_eq zone teleport.1 teleport.2
      have here : (zone.applyTeleport teleport.1 teleport.2).1.Contained npcs := by
        rw [same]
        exact contained.moved first
      refine ih here fun p among player => ?_
      exact (congrArg (fun next => InBounds next.manifest p.2) same).trans (rest p among player)

variable [Zero K] [One K] [NatCast K] [Neg K] [LE K] [DecidableLE K] [Sqrt K]

theorem Contained.applyMove (contained : zone.Contained npcs) (e : EntityId) (target : Point3 K)
    (seq : UInt32) : (zone.applyMove e target seq).1.Contained npcs := by
  have spec := moves_applyMove zone e target seq
  generalize zone.applyMove e target seq = result at spec
  cases spec with
  | absent => exact contained
  | left => exact contained.despawn e
  | applied there valid => exact contained.moved fun _ => (validateMovement_eq_none.mp valid).2.1
  | rejected => exact contained

theorem Contained.applyMoves (contained : zone.Contained npcs)
    (moves : List (EntityId × Point3 K × UInt32)) :
    (zone.applyMoves moves).1.Contained npcs := by
  induction moves generalizing zone with
  | nil => exact contained
  | cons move moves ih => exact ih (contained.applyMove _ _ _)

theorem manifest_tick (zone : Zone K) : zone.tick.1.manifest = zone.manifest :=
  (manifest_applyTeleports _ _).trans
    (sameSetting_applyMoves
      { zone with tickCount := zone.tickCount + 1, pendingMoves := [] } _).manifest

/-- A tick without teleports out of the bounds leaves every player in them. -/
theorem Contained.tick (contained : zone.Contained npcs) (tethered : zone.Tethered npcs) :
    zone.tick.1.Contained npcs := by
  have start : { zone with tickCount := zone.tickCount + 1, pendingMoves := [] }.Contained npcs :=
    contained
  have moved := start.applyMoves zone.pendingMoves
  obtain ⟨manifest, -, teleports⟩ :=
    sameSetting_applyMoves { zone with tickCount := zone.tickCount + 1, pendingMoves := [] }
      zone.pendingMoves
  unfold Zone.tick
  generalize Zone.applyMoves _ zone.pendingMoves = result at moved manifest teleports ⊢
  have emptied : { result.1 with pendingTeleports := [] }.Contained npcs := moved
  refine emptied.applyTeleports fun p among player => ?_
  rw [teleports] at among
  exact (congrArg (InBounds · p.2) manifest).trans (tethered p among player)

end Zone

end WorldZero.World
