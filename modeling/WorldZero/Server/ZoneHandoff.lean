import Mathlib.Data.List.Basic
import Mathlib.Logic.Function.Basic
import WorldZero.Transition

/-!
# Moving a player entity between layers

One player entity, the world actors of all layers, its session's task and the
tasks that `handle_tick_outcomes` spawns for its zone transitions. An actor sees
its own zone only through its command queue; the tasks only send commands and
await replies. Every such section is a step, and a schedule is any interleaving
of the actors, the transitions and the session.

`lost` is read by the specifications only.
-/

namespace WorldZero.Server.Handoff

/-- A layer of a zone: one `ZoneRuntime`, with a world actor and a `Sessions` map. -/
structure Layer where
  zoneId : String
  index : ℕ
  deriving DecidableEq

/-- Who awaits the reply of an actor. -/
inductive Waiter where
  | session
  | transition (id : ℕ)
  deriving DecidableEq

/-- The commands that concern the entity. Of `PlayerLeave`, `EntitiesSnapshot` and
`CurrentTick` it only matters that somebody awaits their reply. -/
inductive WorldCommand where
  | spawn
  | despawn
  | positionOf
  | ask (waiter : Waiter)
  deriving DecidableEq

/-- The sections of `complete_zone_transition` and `spawn_into_layer`. -/
inductive TransitionPhase where
  | resolving (targetZoneId : String)
  /-- The entity is being spawned in the target. -/
  | registering (target : Layer)
  /-- It is also in the target's `Sessions`; the replies are awaited. -/
  | surveying (target : Layer)
  deriving DecidableEq

structure ZoneTransition where
  id : ℕ
  phase : TransitionPhase
  deriving DecidableEq

/-- Where the session's task is. -/
inductive SessionPhase where
  | live
  /-- `ZoneChanged` is being handled, the leave dispatch of the old zone is awaited. -/
  | switching (newZone : Layer)
  /-- A group move awaits the entity's position. -/
  | locating (target : Layer)
  | located (target : Layer) (found : Bool)
  /-- The entity is being despawned in the layer that it leaves. -/
  | departing (target : Layer)
  | arriving (target : Layer)
  | registering (target : Layer)
  | surveying (target : Layer)
  /-- The cleanup awaits the leave dispatch and the final position. -/
  | leaving
  | removing
  | gone
  deriving DecidableEq

structure State where
  /-- The entity is in the layer's `world::Zone`. -/
  spawned : Layer → Bool
  queue : Layer → List WorldCommand
  /-- The layer's `Sessions` map has the entity's sender. -/
  sessions : Layer → Bool
  transitions : List ZoneTransition
  launched : ℕ
  /-- The `ZoneChanged` messages that the session has not received. -/
  outgoing : List String
  session : SessionPhase
  /-- `zone` and `current_zone_id` of the session. -/
  zone : Layer
  /-- A transition led to a zone that this process does not run. -/
  lost : Bool

inductive Label where
  /-- A tick of the layer moves the entity across a link. -/
  | cross (l : Layer) (targetZoneId : String)
  /-- The layer's actor takes the next command. -/
  | act (l : Layer)
  | transition (id : ℕ)
  /-- The session's task goes on. -/
  | resume
  | receive
  | groupMove (target : Layer)
  | disconnect
  deriving DecidableEq

/-- `ZoneRegistry::get`: layer 0, if the process runs the zone. -/
def get (hosted : String → Bool) (zoneId : String) : Option Layer :=
  if hosted zoneId then some ⟨zoneId, 0⟩ else none

namespace State

variable (hosted : String → Bool) (s : State)

@[simps]
def send (l : Layer) (command : WorldCommand) : State :=
  { s with queue := Function.update s.queue l (s.queue l ++ [command]) }

@[simps]
def register (l : Layer) (inserted : Bool) : State :=
  { s with sessions := Function.update s.sessions l inserted }

@[simps]
def proceed (id : ℕ) (phase : TransitionPhase) : State :=
  { s with transitions := s.transitions.map fun t => if t.id = id then { t with phase } else t }

@[simps]
def finish (id : ℕ) : State :=
  { s with transitions := s.transitions.filter fun t => t.id ≠ id }

/-- `Zone::tick` despawns the entity, `handle_tick_outcomes` takes its sender along. -/
def cross (l : Layer) (targetZoneId : String) : State :=
  if s.sessions l then
    { s with
      spawned := Function.update s.spawned l false
      sessions := Function.update s.sessions l false
      transitions := s.transitions ++ [⟨s.launched, .resolving targetZoneId⟩]
      launched := s.launched + 1 }
  else { s with spawned := Function.update s.spawned l false }

def perform (l : Layer) : WorldCommand → State
  | .spawn => { s with spawned := Function.update s.spawned l true }
  | .despawn => { s with spawned := Function.update s.spawned l false }
  | .positionOf =>
      match s.session with
      | .locating target => { s with session := .located target (s.spawned l) }
      | _ => s
  | .ask _ => s

def act (l : Layer) : Option State :=
  match s.queue l with
  | [] => none
  | command :: rest =>
      some ({ s with queue := Function.update s.queue l rest }.perform l command)

/-- Nobody is told of a transition to a zone that this process does not run. -/
def completeZoneTransition (t : ZoneTransition) : Option State :=
  match t.phase with
  | .resolving targetZoneId =>
      match get hosted targetZoneId with
      | none => some { s.finish t.id with lost := true }
      | some target => some ((s.send target .spawn).proceed t.id (.registering target))
  | .registering target =>
      some (((s.register target true).send target (.ask (.transition t.id))).proceed t.id
        (.surveying target))
  | .surveying target =>
      if .ask (.transition t.id) ∈ s.queue target then none
      else some { s.finish t.id with outgoing := s.outgoing ++ [target.zoneId] }

/-- The next section of the session's task between two messages. -/
def resume : SessionPhase → Option State
  | .live | .locating _ | .gone => none
  | .switching newZone =>
      if .ask .session ∈ s.queue s.zone then none
      else some { s with zone := newZone, session := .live }
  | .located _ false => some { s with session := .live }
  | .located target true => some { s.send s.zone .despawn with session := .departing target }
  | .departing target => some { s.register s.zone false with session := .arriving target }
  | .arriving target => some { s.send target .spawn with session := .registering target }
  | .registering target =>
      some { (s.register target true).send target (.ask .session) with
        session := .surveying target }
  | .surveying target =>
      if .ask .session ∈ s.queue target then none
      else some { s with zone := target, session := .live }
  | .leaving =>
      if .ask .session ∈ s.queue s.zone then none
      else some { s.send s.zone .despawn with session := .removing }
  | .removing => some { s.register s.zone false with session := .gone }

/-- The next `ZoneChanged` of the outgoing channel. -/
def receive : Option State :=
  match s.outgoing with
  | [] => none
  | zoneId :: rest =>
      match get hosted zoneId with
      | some newZone =>
          some { s.send s.zone (.ask .session) with
            outgoing := rest, session := .switching newZone }
      | none => some { s with outgoing := rest }

/-- `join_layer_of` has found the other player in a layer of the session's zone. -/
def performGroupLayerMove (target : Layer) : Option State :=
  if target.zoneId = s.zone.zoneId ∧ target ≠ s.zone then
    some { s.send s.zone .positionOf with session := .locating target }
  else none

def disconnect : State := { s.send s.zone (.ask .session) with session := .leaving }

end State

def step (hosted : String → Bool) (s : State) : Label → Option State
  | .cross l targetZoneId => if s.spawned l then some (s.cross l targetZoneId) else none
  | .act l => s.act l
  | .transition id => (s.transitions.find? (·.id = id)).bind (s.completeZoneTransition hosted)
  | .resume => s.resume s.session
  | .receive => if s.session = .live then s.receive hosted else none
  | .groupMove target => if s.session = .live then s.performGroupLayerMove target else none
  | .disconnect => if s.session = .live then some s.disconnect else none

/-- The session has joined the layer, nothing else has happened. -/
def start (l : Layer) : State where
  spawned := Function.update (fun _ => false) l true
  queue _ := []
  sessions := Function.update (fun _ => false) l true
  transitions := []
  launched := 0
  outgoing := []
  session := .live
  zone := l
  lost := false

/-! ### Where the entity is -/

/-- Whether the entity is in the zone once the command has been performed. -/
def WorldCommand.after : Bool → WorldCommand → Bool
  | _, .spawn => true
  | _, .despawn => false
  | spawned, _ => spawned

namespace State

variable (s : State)

/-- The entity is in the layer when the commands already sent have been performed. -/
def present (l : Layer) : Bool := (s.queue l).foldl WorldCommand.after (s.spawned l)

/-- No transition runs and the session has been told of all that have ended. -/
def Quiet : Prop := s.transitions = [] ∧ s.outgoing = []

instance : Decidable s.Quiet := inferInstanceAs (Decidable (_ ∧ _))

end State

/-- Between handoffs, or while one of them is only being announced. -/
def SessionPhase.roaming : SessionPhase → Bool
  | .live | .switching _ | .locating _ => true
  | _ => false

/-- Crossings, group moves and the cleanup do not overlap: the entity crosses a link
while no earlier transition runs and neither a group move has found it nor the
cleanup has begun, and these two begin when all transitions have been announced. -/
def InTurn (s : State) : Label → Prop
  | .cross l _ =>
      s.sessions l = true ∨ s.present l = true →
        s.transitions = [] ∧ s.session.roaming = true
  | .resume =>
      match s.session with
      | .located _ true => s.Quiet
      | _ => True
  | .disconnect => s.Quiet
  | _ => True

instance (s : State) (l : Label) : Decidable (InTurn s l) := by
  unfold InTurn
  split
  · infer_instance
  · split <;> infer_instance
  · infer_instance
  · infer_instance

end WorldZero.Server.Handoff
