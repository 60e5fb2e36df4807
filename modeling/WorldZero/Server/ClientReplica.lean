import WorldZero.Common
import WorldZero.Server.LayerPresence
import WorldZero.Server.WorldActor

/-!
# What clients are shown of the world

All layers of a process, each with a world actor and a `Sessions` map, and the sessions of all
players: their joins, the handoffs that a tick or a group move begins, their cleanups, and the
channel through which each client is told of the others. A section of a task between two awaits
is a step as far as it holds one lock, and so is a command that an actor performs. Of a tick the
model takes any outcomes that the zone can have.

A client keeps the entities of the last roster it was sent, as the messages after it change
them.
-/

namespace WorldZero.Server.ClientReplica

open Handoff (Layer Waiter get)
open Replica (Update replay)

inductive WorldCommand (P : Type) where
  | spawn (entity : EntityId) (position : P)
  | despawn (entity : EntityId)
  | entitiesSnapshot (entity : EntityId) (waiter : Waiter)

inductive MovementOutcome (P : Type) where
  | applied (target : P)
  | rejected
  | zoneTransition (targetZone : String)

abbrev Roster (P : Type) := EntityId → Option P

/-- `EntitySpawned`, `EntityDespawned` and `Moved` are updates. -/
inductive ServerMessage (P : Type) where
  | joined (roster : Roster P)
  | zoneChanged (zoneId : String) (roster : Roster P)
  | update (u : Update EntityId P)

/-- The next thing that a task does. -/
inductive Action (P : Type) where
  /-- `complete_zone_transition` resolves the target of the transition. -/
  | resolve (sourceZoneId targetZoneId : String)
  | inLayer (l : Layer) (sec : Section P)
  /-- `Joined` or `ZoneChanged` goes into the channel of the connection. -/
  | joined (l : Layer)
  | zoneChanged (target : Layer)
  /-- `ZoneChanged` is sent to the client at once, and the session goes on in the layer. -/
  | sinkZoneChanged (target : Layer)

/-- `ZoneRegistry`: which zones the process runs, and where one arrives in them. -/
structure Deployment (P : Type) where
  hosted : String → Bool
  entryPoint : String → String → P

variable {P : Type}

/-! ### Tasks -/

/-- The join: the session is put on the map only after the roster has been taken. -/
def handleSession (l : Layer) (position : P) : List (Action P) :=
  [.inLayer l (.spawn position), .inLayer l .entitiesSnapshot, .inLayer l .snapshotReply,
    .inLayer l .insert, .joined l, .inLayer l (.broadcastExcept (some position))]

def spawnIntoLayer (target : Layer) (position : P) : List (Action P) :=
  [.inLayer target (.spawn position), .inLayer target .insert, .inLayer target .entitiesSnapshot,
    .inLayer target .snapshotReply, .inLayer target (.broadcastExcept (some position))]

def despawnFromLayer (source : Layer) : List (Action P) :=
  [.inLayer source .despawn, .inLayer source .remove, .inLayer source (.broadcastExcept none)]

/-- A transition to a zone that the process does not run ends at once. -/
def completeZoneTransition (d : Deployment P) (sourceZoneId targetZoneId : String) :
    List (Action P) :=
  match get d.hosted targetZoneId with
  | none => []
  | some target =>
      spawnIntoLayer target (d.entryPoint sourceZoneId targetZoneId) ++ [.zoneChanged target]

def performGroupLayerMove (source target : Layer) (position : P) : List (Action P) :=
  despawnFromLayer source ++ spawnIntoLayer target position ++ [.sinkZoneChanged target]

/-- What the cleanup does in the layer of the session. -/
def cleanup (l : Layer) : List (Action P) := despawnFromLayer l

/-! ### States and steps -/

structure State (P : Type) where
  world : Layer → EntityId → Option P
  kind : EntityId → Option Server.World.EntityKind
  commands : Layer → List (WorldCommand P)
  /-- The outcomes of the last tick that `handle_tick_outcomes` has not come to. -/
  outcomes : Layer → List (EntityId × MovementOutcome P)
  /-- It has removed the sender of the entity and is about to broadcast `EntityDespawned`. -/
  removed : Layer → Option (EntityId × String)
  sessions : Layer → EntityId → Bool
  tasks : EntityId → Waiter → List (Action P)
  /-- The roster that a task has been replied. -/
  roster : EntityId → Waiter → Roster P
  launched : ℕ
  /-- `zone` of a session, from its join to its end. -/
  zone : EntityId → Option Layer
  outgoing : EntityId → List (ServerMessage P)
  received : EntityId → List (ServerMessage P)

inductive Label (P : Type) where
  | join (entity : EntityId) (l : Layer) (position : P)
  /-- A read from the database fails after the spawn. -/
  | joinFails (entity : EntityId)
  /-- A task goes on. -/
  | resume (entity : EntityId) (waiter : Waiter)
  | tick (l : Layer) (outcomes : List (EntityId × MovementOutcome P))
  /-- `handle_tick_outcomes` goes on. -/
  | report (l : Layer)
  /-- The layer's actor takes the next command. -/
  | act (l : Layer)
  | spawnNpc (l : Layer) (entity : EntityId) (point : P)
  /-- The actor answers where the entity is, `join_layer_of` having found another layer. -/
  | groupMove (entity : EntityId) (target : Layer)
  /-- The session's task takes the next message of its channel. -/
  | forward (entity : EntityId)
  | disconnect (entity : EntityId)
  /-- The client cannot be reached any more, and the task ends without its cleanup. -/
  | lost (entity : EntityId)

namespace State

variable (s : State P)

@[simps]
def send (l : Layer) (command : WorldCommand P) : State P :=
  { s with commands := Function.update s.commands l (s.commands l ++ [command]) }

@[simps]
def register (l : Layer) (e : EntityId) (inserted : Bool) : State P :=
  { s with sessions := Function.update s.sessions l (Function.update (s.sessions l) e inserted) }

@[simps]
def goOn (e : EntityId) (w : Waiter) (rest : List (Action P)) : State P :=
  { s with tasks := Function.update s.tasks e (Function.update (s.tasks e) w rest) }

@[simps]
def queue (e : EntityId) (message : ServerMessage P) : State P :=
  { s with outgoing := Function.update s.outgoing e (s.outgoing e ++ [message]) }

/-- To all who are in the layer's `Sessions`, except for one. -/
@[simps]
def broadcast (l : Layer) (except : Option EntityId) (u : Update EntityId P) : State P :=
  { s with
    outgoing := fun e =>
      if s.sessions l e = true ∧ except ≠ some e then s.outgoing e ++ [.update u]
      else s.outgoing e }

/-- The session's task does something else than to wait for the next message. -/
def busy (e : EntityId) : Prop := s.tasks e .session ≠ []

def resume (d : Deployment P) (e : EntityId) (w : Waiter) : Option (State P) :=
  match s.tasks e w with
  | [.resolve sourceZoneId targetZoneId] =>
      some (s.goOn e w (completeZoneTransition d sourceZoneId targetZoneId))
  | [] | .resolve _ _ :: _ => none
  | .inLayer l sec :: rest =>
      match sec with
      | .spawn position => some ((s.send l (.spawn e position)).goOn e w rest)
      | .despawn => some ((s.send l (.despawn e)).goOn e w rest)
      | .insert => some ((s.register l e true).goOn e w rest)
      | .remove => some ((s.register l e false).goOn e w rest)
      | .entitiesSnapshot => some ((s.send l (.entitiesSnapshot e w)).goOn e w rest)
      | .snapshotReply => none
      | .broadcastExcept position =>
          some ((s.broadcast l (some e) (.announce e position)).goOn e w rest)
  | .joined _ :: rest => some ((s.queue e (.joined (s.roster e w))).goOn e w rest)
  | .zoneChanged target :: rest =>
      some ((s.queue e (.zoneChanged target.zoneId (s.roster e w))).goOn e w rest)
  | .sinkZoneChanged target :: rest =>
      some ({ s with
        received := Function.update s.received e
          (s.received e ++ [ServerMessage.zoneChanged target.zoneId (s.roster e w)])
        zone := Function.update s.zone e (some target) }.goOn e w rest)

/-- A request that the zone takes up; only players cross links. -/
def move (l : Layer) : EntityId × MovementOutcome P → Option (State P)
  | (e, outcome) =>
      if (s.world l e).isNone then none
      else
        let outcomes := Function.update s.outcomes l (s.outcomes l ++ [(e, outcome)])
        let world (position : Option P) :=
          Function.update s.world l (Function.update (s.world l) e position)
        match outcome with
        | .applied target => some { s with outcomes, world := world (some target) }
        | .rejected => some { s with outcomes }
        | .zoneTransition _ =>
            if s.kind e = some .player then some { s with outcomes, world := world none }
            else none

def moves (l : Layer) : List (EntityId × MovementOutcome P) → State P → Option (State P)
  | [], s => some s
  | outcome :: outcomes, s => (s.move l outcome).bind (moves l outcomes)

/-- The actor has nothing left of the last tick to report. -/
def idle (l : Layer) : Prop := s.outcomes l = [] ∧ s.removed l = none

def handleTickOutcomes (l : Layer) : Option (State P) :=
  match s.removed l with
  | some (e, targetZone) =>
      some ({ s with
        removed := Function.update s.removed l none
        launched := s.launched + 1 }.goOn e (.transition s.launched)
          [.resolve l.zoneId targetZone] |>.broadcast l (some e) (.despawned e))
  | none =>
      match s.outcomes l with
      | [] => none
      | (e, outcome) :: rest =>
          let s := { s with outcomes := Function.update s.outcomes l rest }
          match outcome with
          | .applied target => some (s.broadcast l none (.moved e target))
          | .rejected => some s
          | .zoneTransition targetZone =>
              if s.sessions l e = true then
                some { s.register l e false with
                  removed := Function.update s.removed l (some (e, targetZone)) }
              else some s

/-- `EntitiesSnapshot` is replied to with the others in the zone, if the task still waits. -/
def perform (l : Layer) : WorldCommand P → State P
  | .spawn e position =>
      { s with world := Function.update s.world l (Function.update (s.world l) e (some position)) }
  | .despawn e =>
      { s with world := Function.update s.world l (Function.update (s.world l) e none) }
  | .entitiesSnapshot e w =>
      match s.tasks e w with
      | .inLayer l' .snapshotReply :: rest =>
          if l' = l then
            { s.goOn e w rest with
              roster := Function.update s.roster e (Function.update (s.roster e) w fun other =>
                if other = e then none else s.world l other) }
          else s
      | _ => s

/-- An NPC that a plugin has requested is in the zone, and nobody is told. -/
@[simps]
def spawnNpc (l : Layer) (e : EntityId) (point : P) : State P :=
  { s with
    kind := Function.update s.kind e (some .npc)
    world := Function.update s.world l (Function.update (s.world l) e (some point)) }

/-- The session goes on in the new zone. -/
def forward (hosted : String → Bool) (e : EntityId) : Option (State P) :=
  match s.outgoing e with
  | [] => none
  | message :: rest =>
      some { s with
        outgoing := Function.update s.outgoing e rest
        received := Function.update s.received e (s.received e ++ [message])
        zone := match message with
          | .zoneChanged zoneId _ =>
              match get hosted zoneId with
              | some newZone => Function.update s.zone e (some newZone)
              | none => s.zone
          | _ => s.zone }

end State

instance (s : State P) (e : EntityId) : Decidable (s.busy e) :=
  match h : s.tasks e .session with
  | [] => isFalse fun busy => busy h
  | _ :: _ => isTrue fun idle => by cases h.symm.trans idle

instance (s : State P) (l : Layer) : Decidable (s.idle l) :=
  match h : s.outcomes l, h' : s.removed l with
  | [], none => isTrue ⟨h, h'⟩
  | _ :: _, _ => isFalse fun idle => by cases h.symm.trans idle.1
  | _, some _ => isFalse fun idle => by cases h'.symm.trans idle.2

def step (d : Deployment P) (s : State P) : Label P → Option (State P)
  | .join e l position =>
      if s.kind e = none then
        some ({ s with
          kind := Function.update s.kind e (some .player)
          zone := Function.update s.zone e (some l) }.goOn e .session (handleSession l position))
      else none
  | .joinFails e =>
      match s.tasks e .session with
      | .inLayer _ .entitiesSnapshot :: .inLayer _ .snapshotReply :: .inLayer _ .insert :: _ =>
          some ({ s with zone := Function.update s.zone e none }.goOn e .session [])
      | _ => none
  | .resume e w => s.resume d e w
  | .tick l outcomes => if s.idle l then s.moves l outcomes else none
  | .report l => s.handleTickOutcomes l
  | .act l =>
      match s.commands l with
      | [] => none
      | command :: rest =>
          if s.idle l then
            some ({ s with commands := Function.update s.commands l rest }.perform l command)
          else none
  | .spawnNpc l e point =>
      if s.kind e = none ∧ s.idle l then
        some (s.spawnNpc l e point)
      else none
  | .groupMove e target =>
      match s.zone e with
      | none => none
      | some source =>
          if target.zoneId = source.zoneId ∧ target ≠ source ∧ ¬ s.busy e ∧ s.idle source then
            (s.world source e).map fun position =>
              s.goOn e .session (performGroupLayerMove source target position)
          else none
  | .forward e => if (s.zone e).isSome ∧ ¬ s.busy e then s.forward d.hosted e else none
  | .disconnect e =>
      match s.zone e with
      | none => none
      | some l =>
          if s.busy e then none
          else some ({ s with zone := Function.update s.zone e none }.goOn e .session (cleanup l))
  | .lost e =>
      match s.zone e, s.tasks e .session with
      | some _, [] | some _, [.sinkZoneChanged _] =>
          some ({ s with zone := Function.update s.zone e none }.goOn e .session [])
      | _, _ => none

/-- The process has started: there are no sessions, and in the layers are the NPCs that have
been spawned for them. -/
structure State.Fresh (s : State P) : Prop where
  npcs : ∀ l e, (s.world l e).isSome → s.kind e = some .npc
  players : ∀ e, s.kind e ≠ some .player
  commands : ∀ l, s.commands l = []
  idle : ∀ l, s.idle l
  sessions : ∀ l e, s.sessions l e = false
  tasks : ∀ e w, s.tasks e w = []
  zone : ∀ e, s.zone e = none
  outgoing : ∀ e, s.outgoing e = []
  received : ∀ e, s.received e = []

/-! ### What a client has been shown -/

def ServerMessage.apply (shown : Option (Roster P)) : ServerMessage P → Option (Roster P)
  | .joined roster | .zoneChanged _ roster => some roster
  | .update u => shown.map fun roster e => u.cell e (roster e)

/-- Of an update, other than of a roster. -/
def ServerMessage.update? : ServerMessage P → Option (Update EntityId P)
  | .update u => some u
  | _ => none

/-- The roster that was sent last, as the messages after it change it. -/
def replica (messages : List (ServerMessage P)) : Option (Roster P) :=
  messages.foldl ServerMessage.apply none

namespace State

variable (s : State P)

/-- All steps in flight have completed. What is left in the channel of a session that has ended
is never delivered. -/
structure Quiescent : Prop where
  commands : ∀ l, s.commands l = []
  idle : ∀ l, s.idle l
  tasks : ∀ e w, s.tasks e w = []
  outgoing : ∀ e, (s.zone e).isSome → s.outgoing e = []

/-- What the client of each session has been shown is the others in the session's layer. -/
def Converged : Prop :=
  ∀ e l, s.zone e = some l → ∃ shown, replica (s.received e) = some shown ∧
    ∀ other, other ≠ e → shown other = s.world l other

end State

/-! ### Where clients are told all -/

def Action.at (l : Layer) : Action P → Option (Section P)
  | .inLayer l' sec => if l' = l then some sec else none
  | _ => none

/-- The layer of the roster that a task is to put into the channel. -/
def rosterOf : List (Action P) → Option Layer
  | [] => none
  | .joined l :: _ | .zoneChanged l :: _ => some l
  | _ :: rest => rosterOf rest

/-- The task does not have its roster yet. -/
def Unsurveyed (rest : List (Action P)) : Prop := ∃ l, .inLayer l .snapshotReply ∈ rest

namespace WorldCommand

def about (e : EntityId) : WorldCommand P → Option (Presence.Command P)
  | .spawn e' position => if e' = e then some (.spawn position) else none
  | .despawn e' => if e' = e then some .despawn else none
  | .entitiesSnapshot e' w => if e' = e then some (.entitiesSnapshot w) else none

end WorldCommand

def MovementOutcome.about (e : EntityId) :
    EntityId × MovementOutcome P → Option (Presence.Outcome P)
  | (e', .applied target) => if e' = e then some (.applied target) else none
  | (e', .zoneTransition _) => if e' = e then some .zoneTransition else none
  | (_, .rejected) => none

def removedAbout (e : EntityId) : EntityId × String → Option (Presence.Outcome P)
  | (e', _) => if e' = e then some .removed else none

namespace State

variable (s : State P)

/-- What the layer has of the entity. -/
def presence (l : Layer) (e : EntityId) : Presence P where
  world := s.world l e
  commands := (s.commands l).filterMap (WorldCommand.about e)
  outcomes := (s.removed l).toList.filterMap (removedAbout e) ++
    (s.outcomes l).filterMap (MovementOutcome.about e)
  registered := s.sessions l e
  tasks w := (s.tasks e w).filterMap (Action.at l)

/-- The session's task has a roster of the layer that is not in the channel yet. -/
def Holds (x : EntityId) (w : Waiter) (l : Layer) : Prop :=
  (s.zone x).isSome ∧ rosterOf (s.tasks x w) = some l ∧ ¬ Unsurveyed (s.tasks x w)

/-- The rosters that sessions hold have nothing to learn from the update, which comes before
them or is missed. -/
def Foretold (l : Layer) (u : Update EntityId P) : Prop :=
  ∀ x, x ≠ u.entity → ∀ w, s.Holds x w l →
    u.cell u.entity (s.roster x w u.entity) = s.roster x w u.entity

/-- A session has been given a roster of the layer, or is to be given none. -/
def Watches (x : EntityId) (l : Layer) : Prop :=
  (s.zone x).isSome ∧ (s.sessions l x = true ∨ ∃ w, s.Holds x w l) ∧
    ∀ w, ¬ Unsurveyed (s.tasks x w)

/-- What is in the channel and comes after the roster that the task sends to the client. -/
def overtaken (x : EntityId) (w : Waiter) : List (Update EntityId P) :=
  match rosterOf (s.tasks x w) with
  | some _ => []
  | none => (s.outgoing x).filterMap ServerMessage.update?

/-- The commands that have been sent take the entity out of the layer. -/
def Doomed (l : Layer) (e : EntityId) : Prop :=
  ∀ x, (s.presence l e).commands.foldl Presence.Command.after x = none

/-- No task is under way for the entity. -/
def AtRest (e : EntityId) : Prop := ∀ w, s.tasks e w = []

/-- An entity takes part in a tick only when it has been announced. To cross a link it is in the
layer's `Sessions`, unless it is being despawned; and a session then has no other handoff under
way, and crosses to a zone that the process runs. -/
def MovesInTurn (hosted : String → Bool) (l : Layer) : EntityId × MovementOutcome P → Prop
  | (_, .rejected) => True
  | (e, .applied _) => ∀ w p, Section.owes ((s.presence l e).tasks w) ≠ some (some p)
  | (e, .zoneTransition targetZone) =>
      (∀ w p, Section.owes ((s.presence l e).tasks w) ≠ some (some p)) ∧
        (s.sessions l e = true ∨ s.Doomed l e) ∧
        ((s.zone e).isSome → s.sessions l e = true ∧ s.AtRest e ∧ hosted targetZone = true)

/-- With the messages that it overtakes, the roster shows where each of the others is to be,
unless that will be announced. -/
def RostersInTurn (x : EntityId) (w : Waiter) (l : Layer) : Prop :=
  (s.zone x).isSome → ∀ e, e ≠ x → (s.presence l e).Settled →
    replay (s.overtaken x w) e (s.world l e) = (s.presence l e).eventual

/-- What brings an entity into a layer or takes it out waits until the announcement before has
been made, and nothing is broadcast past a roster on its way. -/
def ResumesInTurn (e : EntityId) (w : Waiter) : Prop :=
  match s.tasks e w with
  | .inLayer l (.spawn _) :: _ => (s.presence l e).Settled ∧ (s.presence l e).outcomes = []
  | .inLayer l .despawn :: _ => (s.presence l e).Settled
  | .inLayer l (.broadcastExcept position) :: _ => s.Foretold l (.announce e position)
  | _ => True

def ReportsInTurn (l : Layer) : Prop :=
  match s.removed l, s.outcomes l with
  | some (e, _), _ => s.Foretold l (.despawned e)
  | none, (e, .applied target) :: _ => s.Foretold l (.moved e target)
  | _, _ => True

def PerformsInTurn (l : Layer) : Prop :=
  match s.commands l with
  | .entitiesSnapshot x w :: _ => s.RostersInTurn x w l
  | _ => True

end State

/-- No step that loses an update. Besides what is said above, no join fails half-way, an NPC is
not spawned where somebody watches, and a group move does not begin during another handoff, or
with a roster in the channel. -/
def InTurn (d : Deployment P) (s : State P) : Label P → Prop
  | .joinFails _ => False
  | .resume e w => s.ResumesInTurn e w
  | .tick l outcomes => ∀ outcome ∈ outcomes, s.MovesInTurn d.hosted l outcome
  | .report l => s.ReportsInTurn l
  | .act l => s.PerformsInTurn l
  | .spawnNpc l _ _ => ∀ x, ¬ s.Watches x l
  | .groupMove e _ => ∀ l, s.zone e = some l →
      s.sessions l e = true ∧ s.AtRest e ∧ ∀ message ∈ s.outgoing e, message.update?.isSome
  | .join .. | .forward _ | .disconnect _ | .lost _ => True

end WorldZero.Server.ClientReplica
