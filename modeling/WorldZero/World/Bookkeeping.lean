import Mathlib.Data.List.ReduceOption
import WorldZero.World.SpatialIndex
import WorldZero.World.ZoneRuns

/-!
# The books of a zone

A zone keeps its entities, where they are, the routes of its NPCs and their types in four
places. The calls keep them in step, and the outcomes of a tick tell, in the order of the
requests, all that the tick has done to the positions.
-/

namespace WorldZero.World

open Content (Point3 Sqrt)

/-! ### Entities -/

section Books

variable {K : Type} [Div K] [FloorI64 K]

/-- The four places speak of the same entities. -/
structure Zone.Bookkept (zone : Zone K) : Prop where
  filed : zone.index.Filed
  present : ∀ e, (zone.entities e).isSome = (zone.positionOf e).isSome
  routes : ∀ e, (zone.npcRoutes e).isSome → (zone.entities e).isSome
  types : ∀ e, (zone.entityTypes e).isSome → (zone.entities e).isSome

namespace Zone

variable {zone : Zone K}

theorem bookkept_new (manifest config navmesh) : (Zone.new manifest config navmesh : Zone K).Bookkept where
  filed := GridIndex.filed_new _
  present _ := rfl
  routes _ := nofun
  types _ := nofun

theorem Bookkept.spawn (books : zone.Bookkept) (e : EntityId) (kind : EntityKind)
    (position : Point3 K) : (zone.spawn e kind position).Bookkept where
  filed := books.filed.insert e position
  present e' := by
    rw [positionOf_spawn]
    by_cases own : e' = e
    · simp [Zone.spawn, own]
    · simpa [Zone.spawn, own] using books.present e'
  routes e' assigned := by
    by_cases own : e' = e
    · simp [Zone.spawn, own]
    · simpa [Zone.spawn, own] using books.routes e' assigned
  types e' recorded := by
    by_cases own : e' = e
    · simp [Zone.spawn, own]
    · simpa [Zone.spawn, own] using books.types e' recorded

/-- A route is assigned to an NPC that has just been spawned. -/
theorem Bookkept.spawnNpcWithRoute (books : zone.Bookkept) (e : EntityId) (position : Point3 K)
    (routeId : String) : (zone.spawnNpcWithRoute e position routeId).Bookkept := by
  have spawned := books.spawn e .npc position
  unfold Zone.spawnNpcWithRoute
  dsimp only
  split
  · refine ⟨spawned.filed, spawned.present, fun e' assigned => ?_, spawned.types⟩
    by_cases own : e' = e
    · simp [Zone.spawn, own]
    · exact spawned.routes e' (by simpa [own] using assigned)
  · exact spawned

theorem Bookkept.despawn (books : zone.Bookkept) (e : EntityId) : (zone.despawn e).Bookkept where
  filed := books.filed.remove e
  present e' := by
    rw [positionOf_despawn]
    by_cases own : e' = e
    · simp [Zone.despawn, own]
    · simpa [Zone.despawn, own] using books.present e'
  routes e' assigned := by
    by_cases own : e' = e
    · simp [Zone.despawn, own] at assigned
    · simp only [Zone.despawn, Function.update_of_ne own] at assigned ⊢
      exact books.routes e' assigned
  types e' recorded := by
    by_cases own : e' = e
    · simp [Zone.despawn, own] at recorded
    · simp only [Zone.despawn, Function.update_of_ne own] at recorded ⊢
      exact books.types e' recorded

theorem Bookkept.recordEntityType (books : zone.Bookkept) {e : EntityId}
    (there : (zone.entities e).isSome) (entityType : String) :
    (zone.recordEntityType e entityType).Bookkept where
  filed := books.filed
  present := books.present
  routes := books.routes
  types e' recorded := by
    by_cases own : e' = e
    · exact own ▸ there
    · refine books.types e' ?_
      simpa [Zone.recordEntityType, own] using recorded

/-- An entity that is in the index stays in it when it moves. -/
theorem Bookkept.moved (books : zone.Bookkept) (e : EntityId) (target : Point3 K) :
    Bookkept { zone with index := zone.index.update e target } where
  filed := books.filed.update e target
  present e' := by
    rw [books.present]
    by_cases own : e' = e
    · subst own
      cases stood : zone.positionOf e' with
      | none =>
          rw [GridIndex.update_of_absent zone.index target stood]
          exact (congrArg Option.isSome stood).symm
      | some origin => rw [positionOf_moved_self zone stood]; rfl
    · rw [positionOf_moved_of_ne zone e target own]
  routes := books.routes
  types := books.types

end Zone

end Books

/-! ### Outcomes -/

section Outcomes

variable {K : Type}

/-- What waits for the next tick. -/
inductive Request (K : Type) where
  | move (entity : EntityId) (target : Point3 K) (seq : UInt32)
  | teleport (entity : EntityId) (target : Point3 K)

/-- The queued moves in the order of the requests, then the queued teleports. -/
def Zone.requests (zone : Zone K) : List (Request K) :=
  zone.pendingMoves.map (fun m => .move m.1 m.2.1 m.2.2) ++
    zone.pendingTeleports.map fun m => .teleport m.1 m.2

/-- The outcome is one of the request, if there is one. -/
inductive Request.AnsweredBy : Request K → Option (EntityId × MovementOutcome K) → Prop
  | unanswered (request) : AnsweredBy request none
  | applied (e target seq) : AnsweredBy (.move e target seq) (some (e, .applied seq target))
  | rejected (e target seq rejection) :
      AnsweredBy (.move e target seq) (some (e, .rejected seq rejection))
  | left (e target seq targetZone) :
      AnsweredBy (.move e target seq) (some (e, .zoneTransition targetZone))
  | teleported (e target) : AnsweredBy (.teleport e target) (some (e, .applied 0 target))

/-- The outcomes come in the order of the requests, at most one for each. -/
def Answers (requests : List (Request K)) (outcomes : Outcomes K) : Prop :=
  ∃ answers, List.Forall₂ Request.AnsweredBy requests answers ∧ outcomes = answers.reduceOption

/-- What an outcome says of the positions. -/
def MovementOutcome.replay (positions : EntityId → Option (Point3 K)) :
    EntityId × MovementOutcome K → EntityId → Option (Point3 K)
  | (e, .applied _ target) => Function.update positions e (some target)
  | (e, .zoneTransition _) => Function.update positions e none
  | (_, .rejected ..) => positions

def replay (positions : EntityId → Option (Point3 K)) (outcomes : Outcomes K) :
    EntityId → Option (Point3 K) := outcomes.foldl MovementOutcome.replay positions

theorem replay_append (positions : EntityId → Option (Point3 K)) (outcomes later : Outcomes K) :
    replay positions (outcomes ++ later) = replay (replay positions outcomes) later :=
  List.foldl_append

theorem Answers.append {requests requests' : List (Request K)} {outcomes outcomes' : Outcomes K}
    (first : Answers requests outcomes) (second : Answers requests' outcomes') :
    Answers (requests ++ requests') (outcomes ++ outcomes') := by
  obtain ⟨answers, answered, rfl⟩ := first
  obtain ⟨answers', answered', rfl⟩ := second
  exact ⟨answers ++ answers', List.rel_append answered answered', by
    rw [List.reduceOption_append]⟩

theorem answers_single {request : Request K} {answer : Option (EntityId × MovementOutcome K)}
    (answered : request.AnsweredBy answer) : Answers [request] answer.toList :=
  ⟨[answer], .cons answered .nil, by cases answer <;> rfl⟩

namespace Zone

variable [Div K] [FloorI64 K]

theorem positionOf_moved {zone : Zone K} {e : EntityId} {origin : Point3 K}
    (there : zone.positionOf e = some origin) (target : Point3 K) :
    { zone with index := zone.index.update e target }.positionOf =
      Function.update zone.positionOf e (some target) := by
  funext e'
  by_cases own : e' = e
  · subst own
    rw [Function.update_self, positionOf_moved_self zone there]
  · rw [Function.update_of_ne own, positionOf_moved_of_ne zone e target own]

/-- What a teleport does: its outcome, its effect on the positions and on the books. -/
theorem applyTeleport_spec (zone : Zone K) (e : EntityId) (target : Point3 K) :
    Answers [.teleport e target] (zone.applyTeleport e target).2 ∧
      (zone.applyTeleport e target).1.positionOf =
        replay zone.positionOf (zone.applyTeleport e target).2 ∧
      (zone.Bookkept → (zone.applyTeleport e target).1.Bookkept) := by
  unfold applyTeleport
  split
  next gone => exact ⟨answers_single (.unanswered _), rfl, id⟩
  next origin there =>
    exact ⟨answers_single (.teleported e target), positionOf_moved there target,
      fun books => books.moved e target⟩

theorem applyTeleports_spec (zone : Zone K) (teleports : List (EntityId × Point3 K)) :
    Answers (teleports.map fun m => .teleport m.1 m.2) (zone.applyTeleports teleports).2 ∧
      (zone.applyTeleports teleports).1.positionOf =
        replay zone.positionOf (zone.applyTeleports teleports).2 ∧
      (zone.Bookkept → (zone.applyTeleports teleports).1.Bookkept) := by
  induction teleports generalizing zone with
  | nil => exact ⟨⟨[], .nil, rfl⟩, rfl, id⟩
  | cons teleport teleports ih =>
      obtain ⟨answered, replayed, books⟩ := zone.applyTeleport_spec teleport.1 teleport.2
      obtain ⟨answered', replayed', books'⟩ := ih (zone.applyTeleport teleport.1 teleport.2).1
      refine ⟨answered.append answered', ?_, books' ∘ books⟩
      simp only [applyTeleports, replay_append]
      rw [← replayed]
      exact replayed'

variable [Zero K] [One K] [NatCast K] [Add K] [Sub K] [Mul K] [Neg K]
variable [LT K] [DecidableLT K] [LE K] [DecidableLE K] [Sqrt K]

theorem applyMove_spec (zone : Zone K) (e : EntityId) (target : Point3 K) (seq : UInt32) :
    Answers [.move e target seq] (zone.applyMove e target seq).2 ∧
      (zone.applyMove e target seq).1.positionOf =
        replay zone.positionOf (zone.applyMove e target seq).2 ∧
      (zone.Bookkept → (zone.applyMove e target seq).1.Bookkept) := by
  have moves := moves_applyMove zone e target seq
  generalize zone.applyMove e target seq = result at moves
  cases moves with
  | absent gone => exact ⟨answers_single (.unanswered _), rfl, id⟩
  | left there player crosses slow =>
      exact ⟨answers_single (.left e target seq _), positionOf_despawn zone e,
        fun books => books.despawn e⟩
  | applied there valid =>
      exact ⟨answers_single (.applied e target seq), positionOf_moved there target,
        fun books => books.moved e target⟩
  | rejected there rejection => exact ⟨answers_single (.rejected e target seq _), rfl, id⟩

theorem applyMoves_spec (zone : Zone K) (moves : List (EntityId × Point3 K × UInt32)) :
    Answers (moves.map fun m => .move m.1 m.2.1 m.2.2) (zone.applyMoves moves).2 ∧
      (zone.applyMoves moves).1.positionOf = replay zone.positionOf (zone.applyMoves moves).2 ∧
      (zone.Bookkept → (zone.applyMoves moves).1.Bookkept) := by
  induction moves generalizing zone with
  | nil => exact ⟨⟨[], .nil, rfl⟩, rfl, id⟩
  | cons move moves ih =>
      obtain ⟨answered, replayed, books⟩ := zone.applyMove_spec move.1 move.2.1 move.2.2
      obtain ⟨answered', replayed', books'⟩ := ih (zone.applyMove move.1 move.2.1 move.2.2).1
      refine ⟨answered.append answered', ?_, books' ∘ books⟩
      simp only [applyMoves, replay_append]
      rw [← replayed]
      exact replayed'

theorem tick_spec (zone : Zone K) :
    Answers zone.requests zone.tick.2 ∧
      zone.tick.1.positionOf = replay zone.positionOf zone.tick.2 ∧
      (zone.Bookkept → zone.tick.1.Bookkept) := by
  have start : zone.Bookkept →
      Bookkept { zone with tickCount := zone.tickCount + 1, pendingMoves := [] } :=
    fun books => ⟨books.filed, books.present, books.routes, books.types⟩
  obtain ⟨answered, replayed, books⟩ :=
    applyMoves_spec { zone with tickCount := zone.tickCount + 1, pendingMoves := [] }
      zone.pendingMoves
  have queued := (sameSetting_applyMoves
    { zone with tickCount := zone.tickCount + 1, pendingMoves := [] }
    zone.pendingMoves).pendingTeleports
  unfold tick requests
  generalize applyMoves _ zone.pendingMoves = result at answered replayed books queued ⊢
  dsimp only at queued ⊢
  have emptied : result.1.Bookkept → Bookkept { result.1 with pendingTeleports := [] } :=
    fun books => ⟨books.filed, books.present, books.routes, books.types⟩
  obtain ⟨answered', replayed', books'⟩ :=
    applyTeleports_spec { result.1 with pendingTeleports := [] } result.1.pendingTeleports
  refine ⟨?_, ?_, books' ∘ emptied ∘ books ∘ start⟩
  · rw [queued] at answered' ⊢
    exact answered.append answered'
  · rw [replay_append]
    exact replayed'.trans (congrArg (replay · _) replayed)

/-! ### Runs -/

/-- A type is recorded for an entity that is in the zone. -/
def RecordsPresent (zone : Zone K) : Op K → Prop
  | .recordEntityType e _ => (zone.entities e).isSome
  | _ => True

theorem Bookkept.perform {zone : Zone K} (books : zone.Bookkept) {op : Op K}
    (recorded : RecordsPresent zone op) : (zone.perform op).1.Bookkept := by
  cases op with
  | spawn e kind position => exact books.spawn e kind position
  | spawnNpcWithRoute e position routeId => exact books.spawnNpcWithRoute e position routeId
  | despawn e => exact books.despawn e
  | recordEntityType e entityType => exact books.recordEntityType recorded entityType
  | requestMove | requestTeleport =>
      exact ⟨books.filed, books.present, books.routes, books.types⟩
  | tick => exact zone.tick_spec.2.2 books

theorem bookkept_run {manifest : Content.ZoneManifest K} {config : WorldConfig K}
    {navmesh : Content.NavMesh K} {ops : List (Op K)} {zone : Zone K}
    (recorded : Transition.Admissible Zone.step RecordsPresent (.new manifest config navmesh) ops)
    (reached : Transition.exec Zone.step (.new manifest config navmesh) ops = some zone) :
    zone.Bookkept := by
  refine Transition.exec_invariant (I := Zone.Bookkept) (fun zone op zone' books recorded taken => ?_)
    (bookkept_new manifest config navmesh) recorded reached
  cases taken
  exact books.perform recorded

/-- After every sequence of calls the four places speak of the same entities, and the next
tick answers the requests in their order and tells what becomes of the positions. -/
theorem books_kept (manifest : Content.ZoneManifest K) (config : WorldConfig K)
    (navmesh : Content.NavMesh K) (ops : List (Op K)) (zone : Zone K)
    (recorded : Transition.Admissible Zone.step RecordsPresent (.new manifest config navmesh) ops)
    (reached : Transition.exec Zone.step (.new manifest config navmesh) ops = some zone) :
    zone.Bookkept ∧ Answers zone.requests zone.tick.2 ∧
      zone.tick.1.positionOf = replay zone.positionOf zone.tick.2 :=
  ⟨bookkept_run recorded reached, zone.tick_spec.1, zone.tick_spec.2.1⟩

end Zone

end Outcomes

namespace Den

def manifest : Content.ZoneManifest ℝ where
  schemaVersion := 1
  id := "den"
  displayName := "Den"
  bounds := ⟨"polygon", ⟨"meters", (0, 0)⟩, []⟩
  collision := ⟨"", "navmesh_v1"⟩
  links := []
  spawnTables := []
  routes := [⟨"patrol", [(0, 0), (4, 0)], 1⟩]
  triggers := []

def wolf : EntityId := ⟨1⟩

/-- A wolf is spawned, and it is to be teleported. -/
def calls : List (Op ℝ) :=
  [.spawnNpcWithRoute wolf (0, 0, 0) "patrol", .recordEntityType wolf "wolf",
    .requestTeleport wolf (4, 0, 0)]

theorem books_kept_calls :
    ∃ zone, Transition.exec Zone.step (.new manifest ⟨20, 10, 1⟩ ⟨[]⟩) calls = some zone ∧
      zone.entityTypes wolf = some "wolf" ∧ zone.Bookkept ∧
      Answers [.teleport wolf (4, 0, 0)] zone.tick.2 := by
  have recorded : Transition.Admissible Zone.step Zone.RecordsPresent
      (.new manifest ⟨20, 10, 1⟩ ⟨[]⟩) calls := by
    refine ⟨trivial, ?_⟩
    rintro _ ⟨⟩
    refine ⟨?_, ?_⟩
    · rfl
    · rintro _ ⟨⟩
      exact ⟨trivial, fun _ _ => trivial⟩
  have kept := Zone.books_kept manifest ⟨20, 10, 1⟩ ⟨[]⟩ calls _ recorded rfl
  exact ⟨_, rfl, rfl, kept.1, kept.2.1⟩

end Den

end WorldZero.World
