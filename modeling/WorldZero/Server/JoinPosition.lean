import WorldZero.Server.EntryPoint
import WorldZero.Server.ZoneHandoff
import WorldZero.Transition
import WorldZero.World.Bounds

/-!
# Where a character joins

The stored zone and the stored position of the characters, and the server processes that read
and write them: a session takes its row, spawns the entity there, and stores where the
entity was when the session ends. Any number of processes, each with zones of its own, run on
one database, and each can end and be started again with other zones. No step compares a
position with the bounds of the zone before it is used in it, apart from the moves.

A command to a world takes effect when it is sent: a world's actor takes its commands in
their order, and nothing is known of a world but by its replies.
-/

namespace WorldZero.Server.Join

open Content (NavMesh Point3 Sqrt ZoneManifest)
open Handoff (Layer)
open WorldZero.World (FloorI64 InBounds WorldConfig Zone)

/-- `zone_id` and the three coordinates of a row of `characters`. -/
structure Row (K : Type) where
  zoneId : String
  position : Point3 K

section Definitions

variable (K : Type) [Zero K] [One K] [NatCast K] [Add K] [Sub K] [Mul K] [Div K] [Neg K]
variable [LT K] [DecidableLT K] [LE K] [DecidableLE K] [Sqrt K]

/-- What a process is started with: at least one zone, and every manifest accepted. -/
structure ContentPack where
  zones : List (ZoneManifest K)
  zones_ne_nil : zones ≠ []
  accepted : ∀ manifest ∈ zones, manifest.validate = []
  navmeshes : String → NavMesh K
  worldConfig : WorldConfig K

end Definitions

namespace ContentPack

variable {K : Type} [Zero K] [One K] [NatCast K] [Add K] [Sub K] [Mul K] [Div K] [Neg K]
variable [LT K] [DecidableLT K] [LE K] [DecidableLE K] [Sqrt K] (pack : ContentPack K)

/-- The manifests by their ids; of two with one id, the later one. -/
def manifests : Manifests K := fun zoneId => pack.zones.reverse.find? fun m => m.id == zoneId

/-- `default_zone_id`: the first zone. -/
def defaultZoneId : String := (pack.zones.head pack.zones_ne_nil).id

/-- The zone in which a session with a stored zone begins. -/
def initialZoneId (zoneId : String) : String :=
  if (pack.manifests zoneId).isSome then zoneId else pack.defaultZoneId

/-- A layer as it is started. -/
def newZone (zoneId : String) : Option (Zone K) :=
  (pack.manifests zoneId).map fun manifest =>
    .new manifest pack.worldConfig (pack.navmeshes zoneId)

/-- The row that `create` inserts, the position by the defaults of the columns. -/
def createdRow : Row K := ⟨pack.defaultZoneId, (0, 0, 0)⟩

/-- A session that begins with the row begins in the bounds of its zone. -/
def Admits (row : Row K) : Prop :=
  ∀ manifest, pack.manifests (pack.initialZoneId row.zoneId) = some manifest →
    InBounds manifest row.position = true

end ContentPack

/-- How far a session is. -/
inductive Phase (K : Type) where
  /-- The row has been read. -/
  | joining (row : Row K)
  | live (zone : Layer)
  /-- A group move has read the position of the entity. -/
  | moving (zone target : Layer) (position : Point3 K)
  /-- The final position has been read. -/
  | leaving (zone : Layer) (position : Option (Point3 K))
  /-- The entity has been despawned, and the row is to be written. -/
  | storing (row : Row K)

structure Connection (K : Type) where
  characterId : CharacterId
  phase : Phase K

structure Process (K : Type) [Zero K] [One K] [NatCast K] [Add K] [Sub K] [Mul K] [Div K] [Neg K]
    [LT K] [DecidableLT K] [LE K] [DecidableLE K] [Sqrt K] where
  pack : ContentPack K
  layers : Layer → Option (Zone K)
  sessions : EntityId → Option (Connection K)
  /-- The identifiers that NPCs have been given. -/
  npcs : Finset EntityId
  /-- The entities on their way from a zone to another. -/
  transitions : List (EntityId × String × String)
  /-- The `ZoneChanged` messages that a session has not received. -/
  outgoing : EntityId → List String

/-- A process and the table. -/
structure State (K : Type) [Zero K] [One K] [NatCast K] [Add K] [Sub K] [Mul K] [Div K] [Neg K]
    [LT K] [DecidableLT K] [LE K] [DecidableLE K] [Sqrt K] extends Process K where
  rows : CharacterId → Option (Row K)

inductive Label (K : Type) [Zero K] [One K] [NatCast K] [Add K] [Sub K] [Mul K] [Div K] [Neg K]
    [LT K] [DecidableLT K] [LE K] [DecidableLE K] [Sqrt K] where
  | create (c : CharacterId)
  /-- A new connection reads the row of its character. -/
  | select (c : CharacterId) (e : EntityId)
  /-- The entity is spawned in one of the layers of its zone, or in a new one. -/
  | join (e : EntityId) (index : ℕ)
  | requestMove (l : Layer) (e : EntityId) (target : Point3 K) (seq : UInt32)
  | requestTeleport (l : Layer) (e : EntityId) (target : Point3 K)
  | spawnNpc (l : Layer) (e : EntityId) (position : Point3 K)
  | tick (l : Layer)
  | completeTransition (e : EntityId) (sourceZoneId targetZoneId : String)
  /-- The session takes the next `ZoneChanged`. -/
  | receive (e : EntityId)
  | groupMove (e : EntityId) (target : Layer)
  | finishGroupMove (e : EntityId)
  | leave (e : EntityId)
  | despawn (e : EntityId)
  | updatePositionAndZone (e : EntityId)
  /-- The session ends without its cleanup. -/
  | fail (e : EntityId)

variable {K : Type} [Zero K] [One K] [NatCast K] [Add K] [Sub K] [Mul K] [Div K] [Neg K]
variable [LT K] [DecidableLT K] [LE K] [DecidableLE K] [Sqrt K]

/-- The process has just been started. -/
def Process.start (pack : ContentPack K) : Process K where
  pack
  layers l := if l.index = 0 then pack.newZone l.zoneId else none
  sessions _ := none
  npcs := ∅
  transitions := []
  outgoing _ := []

namespace State

variable (s : State K)

/-- The layer of the process, changed. -/
def modify (l : Layer) (f : Zone K → Zone K) : State K :=
  { s with layers := Function.update s.layers l ((s.layers l).map f) }

def setSession (e : EntityId) (session : Option (Connection K)) : State K :=
  { s with sessions := Function.update s.sessions e session }

def setPhase (e : EntityId) (c : CharacterId) (phase : Phase K) : State K :=
  s.setSession e (some ⟨c, phase⟩)

/-- The layer `assign_layer` or the party's layer: a running one, or the next one. -/
def layerFor (l : Layer) : Option (Zone K) :=
  match s.layers l with
  | some zone => some zone
  | none =>
      if 0 < l.index ∧ (s.layers ⟨l.zoneId, l.index - 1⟩).isSome then s.pack.newZone l.zoneId
      else none

def positionIn (l : Layer) (e : EntityId) : Option (Point3 K) :=
  (s.layers l).bind fun zone => zone.positionOf e

end State

/-- Where the outcomes of a tick lead the entities. One whose session is over is moved on
like the others, and nobody takes its `ZoneChanged`. -/
def departures (sourceZoneId : String) (outcomes : World.Outcomes K) :
    List (EntityId × String × String) :=
  outcomes.filterMap fun
    | (e, .zoneTransition targetZoneId) => some (e, sourceZoneId, targetZoneId)
    | _ => none

section Step

variable [FloorI64 K]

def step (s : State K) : Label K → Option (State K)
  | .create c =>
      match s.rows c with
      | some _ => none
      | none => some { s with rows := Function.update s.rows c (some s.pack.createdRow) }
  | .select c e =>
      match s.rows c, s.sessions e with
      | some row, none => if e ∈ s.npcs then none else some (s.setPhase e c (.joining row))
      | _, _ => none
  | .join e index =>
      match s.sessions e with
      | some ⟨c, .joining row⟩ =>
          let l : Layer := ⟨s.pack.initialZoneId row.zoneId, index⟩
          (s.layerFor l).map fun zone =>
            { s.setPhase e c (.live l) with
              layers := Function.update s.layers l (some (zone.spawn e .player row.position)) }
      | _ => none
  | .requestMove l e target seq => some (s.modify l fun zone => zone.requestMove e target seq)
  | .requestTeleport l e target => some (s.modify l fun zone => zone.requestTeleport e target)
  | .spawnNpc l e position =>
      match s.sessions e with
      | none =>
          some { s.modify l fun zone => zone.spawn e .npc position with npcs := insert e s.npcs }
      | some _ => none
  | .tick l =>
      (s.layers l).map fun zone =>
        { s.modify l fun zone => zone.tick.1 with
          transitions := s.transitions ++ departures l.zoneId zone.tick.2 }
  | .completeTransition e sourceZoneId targetZoneId =>
      if (e, sourceZoneId, targetZoneId) ∈ s.transitions then
        let s := { s with transitions := s.transitions.erase (e, sourceZoneId, targetZoneId) }
        match s.layers ⟨targetZoneId, 0⟩ with
        | none => some s
        | some _ =>
            let entry := entryPoint s.pack.manifests sourceZoneId targetZoneId
            some { s.modify ⟨targetZoneId, 0⟩ fun zone => zone.spawn e .player (entry.1, entry.2, 0)
              with outgoing := Function.update s.outgoing e (s.outgoing e ++ [targetZoneId]) }
      else none
  | .receive e =>
      match s.outgoing e, s.sessions e with
      | zoneId :: rest, some ⟨c, .live _⟩ =>
          let s := { s with outgoing := Function.update s.outgoing e rest }
          match s.layers ⟨zoneId, 0⟩ with
          | some _ => some (s.setPhase e c (.live ⟨zoneId, 0⟩))
          | none => some s
      | _, _ => none
  | .groupMove e target =>
      match s.sessions e with
      | some ⟨c, .live zone⟩ =>
          if target.zoneId = zone.zoneId ∧ target ≠ zone ∧ (s.layers target).isSome then
            match s.positionIn zone e with
            | some position => some (s.setPhase e c (.moving zone target position))
            | none => some s
          else none
      | _ => none
  | .finishGroupMove e =>
      match s.sessions e with
      | some ⟨c, .moving zone target position⟩ =>
          some (((s.modify zone fun zone => zone.despawn e).modify target fun zone =>
            zone.spawn e .player position).setPhase e c (.live target))
      | _ => none
  | .leave e =>
      match s.sessions e with
      | some ⟨c, .live zone⟩ => some (s.setPhase e c (.leaving zone (s.positionIn zone e)))
      | _ => none
  | .despawn e =>
      match s.sessions e with
      | some ⟨c, .leaving zone position⟩ =>
          let left := s.modify zone fun zone => zone.despawn e
          match position with
          | some position => some (left.setPhase e c (.storing ⟨zone.zoneId, position⟩))
          | none => some (left.setSession e none)
      | _ => none
  | .updatePositionAndZone e =>
      match s.sessions e with
      | some ⟨c, .storing row⟩ =>
          some { s.setSession e none with rows := Function.update s.rows c (some row) }
      | _ => none
  | .fail e =>
      match s.sessions e with
      | some _ => some (s.setSession e none)
      | none => none

end Step

/-! ### Several processes -/

/-- The processes that are running. -/
structure Cluster (π K : Type) [Zero K] [One K] [NatCast K] [Add K] [Sub K] [Mul K] [Div K]
    [Neg K] [LT K] [DecidableLT K] [LE K] [DecidableLE K] [Sqrt K] where
  rows : CharacterId → Option (Row K)
  process : π → Option (Process K)

inductive ClusterLabel (π K : Type) [Zero K] [One K] [NatCast K] [Add K] [Sub K] [Mul K] [Div K]
    [Neg K] [LT K] [DecidableLT K] [LE K] [DecidableLE K] [Sqrt K] where
  /-- A process is started, in the place of an earlier one perhaps. -/
  | launch (p : π) (pack : ContentPack K)
  | exit (p : π)
  | run (p : π) (l : Label K)

namespace Cluster

variable {π : Type}

/-- An empty database, and nothing running on it. -/
def empty : Cluster π K := ⟨fun _ => none, fun _ => none⟩

def step [DecidableEq π] [FloorI64 K] (s : Cluster π K) :
    ClusterLabel π K → Option (Cluster π K)
  | .launch p pack => some { s with process := Function.update s.process p (some (.start pack)) }
  | .exit p => some { s with process := Function.update s.process p none }
  | .run p l =>
      (s.process p).bind fun process => (Join.step ⟨process, s.rows⟩ l).map fun t =>
        { rows := t.rows, process := Function.update s.process p (some t.toProcess) }

end Cluster

/-! ### The condition and the invariant -/

/-- The origin is in the bounds in which a new character begins, the entry points are inside,
and teleports lead players nowhere else. -/
def InPlace (s : State K) : Label K → Prop
  | .create _ => s.pack.Admits s.pack.createdRow
  | .completeTransition _ sourceZoneId targetZoneId =>
      ∀ manifest, s.pack.manifests targetZoneId = some manifest →
        Content.pointInPolygon (entryPoint s.pack.manifests sourceZoneId targetZoneId)
          manifest.bounds.points = true
  | .tick l => ∀ zone, s.layers l = some zone → zone.Tethered s.npcs
  | _ => True

/-- The step inserts the row or replaces another one by it. -/
def Writes (s : State K) : Label K → Row K → Prop
  | .create _, row => row = s.pack.createdRow
  | .updatePositionAndZone e, row => ∃ c, s.sessions e = some ⟨c, .storing row⟩
  | _, _ => False

/-- A process is in place; and rows that are there when another one starts, or that are written
while it runs, lie in the bounds in which its sessions begin as well. -/
def Cluster.InPlace {π : Type} (s : Cluster π K) : ClusterLabel π K → Prop
  | .launch _ pack => ∀ c row, s.rows c = some row → pack.Admits row
  | .exit _ => True
  | .run p l => ∀ process, s.process p = some process → Join.InPlace ⟨process, s.rows⟩ l ∧
      ∀ row, Writes ⟨process, s.rows⟩ l row →
        ∀ p' ≠ p, ∀ other, s.process p' = some other → other.pack.Admits row

/-- What a session holds is in the bounds of the zone to which it belongs. -/
def Phase.Settled (pack : ContentPack K) : Phase K → Prop
  | .joining row | .storing row => pack.Admits row
  | .live _ => True
  | .moving _ target position =>
      ∀ manifest, pack.manifests target.zoneId = some manifest → InBounds manifest position = true
  | .leaving zone position => ∀ p, position = some p → pack.Admits ⟨zone.zoneId, p⟩

structure Inv (s : State K) : Prop where
  layers : ∀ l zone, s.layers l = some zone →
    s.pack.manifests l.zoneId = some zone.manifest ∧ zone.Contained s.npcs
  rows : ∀ c row, s.rows c = some row → s.pack.Admits row
  sessions : ∀ e session, s.sessions e = some session →
    e ∉ s.npcs ∧ session.phase.Settled s.pack

section Runs

variable {s : State K} {pack : ContentPack K}

theorem admits_of_inBounds {zoneId : String} {manifest : ZoneManifest K} {position : Point3 K}
    (known : pack.manifests zoneId = some manifest) (inside : InBounds manifest position = true) :
    pack.Admits ⟨zoneId, position⟩ := by
  intro placed found
  simp only [ContentPack.initialZoneId, known, Option.isSome_some, if_true, Option.some.injEq]
    at found
  exact found ▸ inside

theorem inv_start {rows : CharacterId → Option (Row K)}
    (admitted : ∀ c row, rows c = some row → pack.Admits row) : Inv ⟨.start pack, rows⟩ where
  layers l zone found := by
    simp only [Process.start, ContentPack.newZone] at found
    split at found
    · obtain ⟨manifest, known, rfl⟩ := Option.map_eq_some_iff.mp found
      exact ⟨known, .new _ _ _ _⟩
    · cases found
  rows := admitted
  sessions _ _ found := nomatch found

/-- A layer of the process is changed into one of the same zone in which players are in the
bounds. -/
theorem Inv.modify (inv : Inv s) {l : Layer} {f : Zone K → Zone K}
    (same : ∀ zone, (f zone).manifest = zone.manifest)
    (inside : ∀ zone, s.layers l = some zone → zone.Contained s.npcs →
      s.pack.manifests l.zoneId = some zone.manifest → (f zone).Contained s.npcs) :
    Inv (s.modify l f) where
  layers l' zone found := by
    by_cases here : l' = l
    · subst here
      simp only [State.modify, Function.update_self] at found
      obtain ⟨before, there, rfl⟩ := Option.map_eq_some_iff.mp found
      obtain ⟨known, contained⟩ := inv.layers _ _ there
      exact ⟨known.trans (congrArg some (same before).symm), inside before there contained known⟩
    · simp only [State.modify, Function.update_of_ne here] at found
      exact inv.layers l' zone found
  rows := inv.rows
  sessions := inv.sessions

theorem Inv.setSession (inv : Inv s) (e : EntityId) {session : Option (Connection K)}
    (settled : ∀ next, session = some next → e ∉ s.npcs ∧ next.phase.Settled s.pack) :
    Inv (s.setSession e session) where
  layers := inv.layers
  rows := inv.rows
  sessions e' next found := by
    by_cases here : e' = e
    · subst here
      simp only [State.setSession, Function.update_self] at found
      exact settled next found
    · simp only [State.setSession, Function.update_of_ne here] at found
      exact inv.sessions e' next found

theorem Inv.setPhase (inv : Inv s) {e : EntityId} {c : CharacterId} {phase : Phase K}
    (player : e ∉ s.npcs) (settled : phase.Settled s.pack) : Inv (s.setPhase e c phase) := by
  refine inv.setSession e fun next here => ?_
  cases here
  exact ⟨player, settled⟩

theorem Inv.setLayer (inv : Inv s) {l : Layer} {zone : Zone K}
    (known : s.pack.manifests l.zoneId = some zone.manifest) (contained : zone.Contained s.npcs) :
    Inv { s with layers := Function.update s.layers l (some zone) } where
  layers l' zone' found := by
    by_cases here : l' = l
    · subst here
      simp only [Function.update_self, Option.some.injEq] at found
      exact found ▸ ⟨known, contained⟩
    · simp only [Function.update_of_ne here] at found
      exact inv.layers l' zone' found
  rows := inv.rows
  sessions := inv.sessions

theorem Inv.writeRow (inv : Inv s) {c : CharacterId} {row : Row K}
    (admitted : s.pack.Admits row) :
    Inv { s with rows := Function.update s.rows c (some row) } where
  layers := inv.layers
  rows c' row' found := by
    by_cases here : c' = c
    · subst here
      simp only [Function.update_self, Option.some.injEq] at found
      exact found ▸ admitted
    · simp only [Function.update_of_ne here] at found
      exact inv.rows c' row' found
  sessions := inv.sessions

/-- An NPC is given an identifier that no session has. -/
theorem Inv.insert_npc (inv : Inv s) {e : EntityId} (absent : s.sessions e = none) :
    Inv { s with npcs := insert e s.npcs } where
  layers l zone found := by
    obtain ⟨known, contained⟩ := inv.layers l zone found
    exact ⟨known, contained.mono (Finset.subset_insert e s.npcs)⟩
  rows := inv.rows
  sessions e' session found := by
    obtain ⟨player, settled⟩ := inv.sessions e' session found
    have other : e' ≠ e := by
      rintro rfl
      simp only [absent] at found
      cases found
    exact ⟨by simp [player, other], settled⟩

theorem Inv.positionIn (inv : Inv s) {l : Layer} {e : EntityId} {position : Point3 K}
    (player : e ∉ s.npcs) (there : s.positionIn l e = some position) :
    ∃ manifest, s.pack.manifests l.zoneId = some manifest ∧ InBounds manifest position = true := by
  obtain ⟨zone, found, stands⟩ := Option.bind_eq_some_iff.mp there
  obtain ⟨known, contained⟩ := inv.layers l zone found
  exact ⟨zone.manifest, known, contained e player position stands⟩

theorem Inv.layerFor (inv : Inv s) {l : Layer} {zone : Zone K} (there : s.layerFor l = some zone) :
    s.pack.manifests l.zoneId = some zone.manifest ∧ zone.Contained s.npcs := by
  simp only [State.layerFor] at there
  split at there
  next running found =>
    cases there
    exact inv.layers l zone found
  next =>
    split at there
    · obtain ⟨manifest, known, rfl⟩ := Option.map_eq_some_iff.mp there
      exact ⟨known, .new _ _ _ _⟩
    · cases there

/-- A group move has read where the entity stands in a layer of its zone. -/
theorem Inv.groupMove (inv : Inv s) {e : EntityId} {c : CharacterId} {zone target : Layer}
    {position : Point3 K} (found : s.sessions e = some ⟨c, .live zone⟩)
    (near : target.zoneId = zone.zoneId) (there : s.positionIn zone e = some position) :
    Inv (s.setPhase e c (.moving zone target position)) := by
  have player := (inv.sessions e _ found).1
  obtain ⟨manifest, known, inside⟩ := inv.positionIn player there
  refine inv.setPhase player fun manifest' known' => ?_
  rw [near, known] at known'
  cases known'
  exact inside

theorem Inv.leave (inv : Inv s) {e : EntityId} {c : CharacterId} {zone : Layer}
    (found : s.sessions e = some ⟨c, .live zone⟩) :
    Inv (s.setPhase e c (.leaving zone (s.positionIn zone e))) := by
  have player := (inv.sessions e _ found).1
  refine inv.setPhase player fun position there => ?_
  obtain ⟨manifest, known, inside⟩ := inv.positionIn player there
  exact admits_of_inBounds known inside

variable [FloorI64 K]

theorem Inv.spawn_player (inv : Inv s) {l : Layer} {e : EntityId} {position : Point3 K}
    (inside : ∀ manifest, s.pack.manifests l.zoneId = some manifest →
      InBounds manifest position = true) :
    Inv (s.modify l fun zone => zone.spawn e .player position) :=
  inv.modify (fun _ => rfl) fun _ _ contained known =>
    contained.spawn .player fun _ => inside _ known

theorem Inv.despawn (inv : Inv s) (l : Layer) (e : EntityId) :
    Inv (s.modify l fun zone => zone.despawn e) :=
  inv.modify (fun _ => rfl) fun _ _ contained _ => contained.despawn e

theorem Inv.join (inv : Inv s) {e : EntityId} {c : CharacterId} {row : Row K} {index : ℕ}
    {zone : Zone K} (found : s.sessions e = some ⟨c, .joining row⟩)
    (there : s.layerFor ⟨s.pack.initialZoneId row.zoneId, index⟩ = some zone) :
    Inv { s.setPhase e c (.live ⟨s.pack.initialZoneId row.zoneId, index⟩) with
      layers := Function.update s.layers ⟨s.pack.initialZoneId row.zoneId, index⟩
        (some (zone.spawn e .player row.position)) } := by
  obtain ⟨player, admitted⟩ := inv.sessions e _ found
  obtain ⟨known, contained⟩ := inv.layerFor there
  have live : Inv (s.setPhase e c (.live ⟨s.pack.initialZoneId row.zoneId, index⟩)) :=
    inv.setPhase player trivial
  exact live.setLayer known (contained.spawn .player fun _ => admitted _ known)

theorem inv_step {t : State K} {l : Label K} (inv : Inv s) (legal : InPlace s l)
    (taken : step s l = some t) : Inv t := by
  cases l with
  | create c =>
      simp only [step] at taken
      split at taken <;> cases taken
      exact inv.writeRow legal
  | select c e =>
      simp only [step] at taken
      split at taken
      next row found _ =>
        split at taken <;> cases taken
        next player => exact inv.setPhase player (inv.rows c row found)
      next => cases taken
  | join e index =>
      simp only [step] at taken
      split at taken
      next c row found =>
        obtain ⟨zone, there, rfl⟩ := Option.map_eq_some_iff.mp taken
        exact inv.join found there
      next => cases taken
  | requestMove l e target seq =>
      cases taken
      exact inv.modify (fun _ => rfl) fun _ _ contained _ => contained
  | requestTeleport l e target =>
      cases taken
      exact inv.modify (fun _ => rfl) fun _ _ contained _ => contained
  | spawnNpc l e position =>
      simp only [step] at taken
      split at taken <;> cases taken
      next absent =>
        exact (inv.insert_npc absent).modify (fun _ => rfl) fun _ _ contained _ =>
          contained.spawn .npc fun guest => absurd (Finset.mem_insert_self e s.npcs) guest
  | tick l =>
      simp only [step] at taken
      obtain ⟨zone, there, rfl⟩ := Option.map_eq_some_iff.mp taken
      have ticked := inv.modify (f := fun zone => zone.tick.1) (l := l) Zone.manifest_tick
        fun before found contained _ => contained.tick (legal before found)
      exact ⟨ticked.layers, ticked.rows, ticked.sessions⟩
  | completeTransition e sourceZoneId targetZoneId =>
      simp only [step] at taken
      split at taken
      next due =>
        split at taken <;> cases taken
        · exact ⟨inv.layers, inv.rows, inv.sessions⟩
        · have inside : ∀ manifest, s.pack.manifests targetZoneId = some manifest →
              InBounds manifest ((entryPoint s.pack.manifests sourceZoneId targetZoneId).1,
                (entryPoint s.pack.manifests sourceZoneId targetZoneId).2, 0) = true := legal
          have arrived := inv.spawn_player (l := ⟨targetZoneId, 0⟩) (e := e) inside
          exact ⟨arrived.layers, arrived.rows, arrived.sessions⟩
      next => cases taken
  | receive e =>
      simp only [step] at taken
      split at taken
      next zoneId rest c zone pending found =>
        have same : Inv { s with outgoing := Function.update s.outgoing e rest } :=
          ⟨inv.layers, inv.rows, inv.sessions⟩
        split at taken <;> cases taken
        · exact same.setPhase (inv.sessions e _ found).1 trivial
        · exact same
      next => cases taken
  | groupMove e target =>
      simp only [step] at taken
      split at taken
      next c zone found =>
        split at taken
        next near =>
          split at taken <;> cases taken
          next position there => exact inv.groupMove found near.1 there
          next => exact inv
        next => cases taken
      next => cases taken
  | finishGroupMove e =>
      simp only [step] at taken
      split at taken <;> cases taken
      next c zone target position found =>
        obtain ⟨player, inside⟩ := inv.sessions e _ found
        exact ((inv.despawn zone e).spawn_player inside).setPhase player trivial
  | leave e =>
      simp only [step] at taken
      split at taken <;> cases taken
      next c zone found => exact inv.leave found
  | despawn e =>
      simp only [step] at taken
      split at taken
      next c zone position found =>
        obtain ⟨player, admitted⟩ := inv.sessions e _ found
        split at taken <;> cases taken
        next p => exact (inv.despawn zone e).setPhase player (admitted p rfl)
        next => exact (inv.despawn zone e).setSession e nofun
      next => cases taken
  | updatePositionAndZone e =>
      simp only [step] at taken
      split at taken <;> cases taken
      next c row found =>
        have ended : Inv (s.setSession e none) := inv.setSession e nofun
        exact ended.writeRow (inv.sessions e _ found).2
  | fail e =>
      simp only [step] at taken
      split at taken <;> cases taken
      exact inv.setSession e nofun

/-- Only a creation and the end of a session write rows. -/
theorem rows_of_step {t : State K} {l : Label K} (taken : step s l = some t) {c : CharacterId}
    {row : Row K} (found : t.rows c = some row) : s.rows c = some row ∨ Writes s l row := by
  cases l with
  | create c' =>
      simp only [step] at taken
      split at taken <;> cases taken
      by_cases here : c = c'
      · subst here
        simp only [Function.update_self, Option.some.injEq] at found
        exact .inr found.symm
      · simp only [Function.update_of_ne here] at found
        exact .inl found
  | updatePositionAndZone e =>
      simp only [step] at taken
      split at taken
      next c' stored session =>
        cases taken
        by_cases here : c = c'
        · subst here
          simp only [Function.update_self, Option.some.injEq] at found
          exact .inr ⟨c, found ▸ session⟩
        · simp only [Function.update_of_ne here] at found
          exact .inl found
      next => cases taken
  | requestMove l e target seq | requestTeleport l e target =>
      cases taken
      exact .inl found
  | tick l =>
      obtain ⟨zone, -, rfl⟩ := Option.map_eq_some_iff.mp taken
      exact .inl found
  | join e index =>
      simp only [step] at taken
      split at taken
      · obtain ⟨zone, -, rfl⟩ := Option.map_eq_some_iff.mp taken
        exact .inl found
      · cases taken
  | groupMove e target =>
      simp only [step] at taken
      split at taken
      · split at taken
        · split at taken <;> cases taken <;> exact .inl found
        · cases taken
      · cases taken
  | select c' e | completeTransition e sourceZoneId targetZoneId | receive e | despawn e =>
      simp only [step] at taken
      split at taken
      · split at taken <;> cases taken <;> exact .inl found
      · cases taken
  | spawnNpc l e position | finishGroupMove e | leave e | fail e =>
      simp only [step] at taken
      split at taken <;> cases taken
      exact .inl found

theorem Cluster.inv_step {π : Type} [DecidableEq π] {s t : Cluster π K} {l : ClusterLabel π K}
    (inv : ∀ p process, s.process p = some process → Inv ⟨process, s.rows⟩)
    (legal : s.InPlace l) (taken : s.step l = some t) (p : π) (process : Process K)
    (running : t.process p = some process) : Inv ⟨process, t.rows⟩ := by
  cases l with
  | launch p' pack =>
      cases taken
      by_cases here : p = p'
      · subst here
        simp only [Function.update_self, Option.some.injEq] at running
        exact running ▸ inv_start legal
      · simp only [Function.update_of_ne here] at running
        exact inv p process running
  | exit p' =>
      cases taken
      by_cases here : p = p'
      · simp [here] at running
      · simp only [Function.update_of_ne here] at running
        exact inv p process running
  | run p' l =>
      obtain ⟨before, started, moved⟩ := Option.bind_eq_some_iff.mp taken
      obtain ⟨after, stepped, rfl⟩ := Option.map_eq_some_iff.mp moved
      obtain ⟨inPlace, admitted⟩ := legal before started
      have kept := Join.inv_step (inv p' before started) inPlace stepped
      by_cases here : p = p'
      · subst here
        simp only [Function.update_self, Option.some.injEq] at running
        exact running ▸ kept
      · -- The other processes see what has been written.
        simp only [Function.update_of_ne here] at running
        have other := inv p process running
        refine ⟨other.layers, fun c row found => ?_, other.sessions⟩
        obtain same | written := rows_of_step stepped found
        · exact other.rows c row same
        · exact admitted row written p here process running

theorem Cluster.run_of_step {π : Type} [DecidableEq π] {s : Cluster π K} {t : State K} {p : π}
    {process : Process K} {l : Label K} (running : s.process p = some process)
    (taken : Join.step ⟨process, s.rows⟩ l = some t) :
    s.step (.run p l) = some ⟨t.rows, Function.update s.process p (some t.toProcess)⟩ := by
  simp only [Cluster.step, running, Option.bind_some, taken, Option.map_some]

/-- In every run from an empty database whose steps are all in place, whoever joins, through
whichever process, is in the bounds of the zone. -/
theorem joins_in_bounds {π : Type} [DecidableEq π] {run : List (ClusterLabel π K)}
    {s t : Cluster π K} (inPlace : Transition.Admissible Cluster.step Cluster.InPlace .empty run)
    (reached : Transition.exec Cluster.step .empty run = some s) {p : π} {e : EntityId}
    {index : ℕ} (joins : s.step (.run p (.join e index)) = some t) :
    ∃ process, t.process p = some process ∧ ∃ c l zone position,
      process.sessions e = some ⟨c, .live l⟩ ∧ process.layers l = some zone ∧
      zone.positionOf e = some position ∧ InBounds zone.manifest position = true := by
  have invs : ∀ p process, s.process p = some process → Inv ⟨process, s.rows⟩ := by
    refine Transition.exec_invariant
      (I := fun s : Cluster π K => ∀ p process, s.process p = some process → Inv ⟨process, s.rows⟩)
      ?_ ?_ inPlace reached
    · intro s l t inv legal taken
      exact Cluster.inv_step inv legal taken
    · intro p process running
      cases running
  obtain ⟨before, started, moved⟩ := Option.bind_eq_some_iff.mp joins
  obtain ⟨after, joined, rfl⟩ := Option.map_eq_some_iff.mp moved
  have inv := invs p before started
  refine ⟨after.toProcess, Function.update_self _ _ _, ?_⟩
  simp only [step] at joined
  split at joined
  next c row found =>
    obtain ⟨zone, there, rfl⟩ := Option.map_eq_some_iff.mp joined
    obtain ⟨known, _⟩ := inv.layerFor there
    refine ⟨c, ⟨before.pack.initialZoneId row.zoneId, index⟩, zone.spawn e .player row.position,
      row.position, ?_, ?_, ?_, (inv.sessions e _ found).2 _ known⟩
    · simp [State.setPhase, State.setSession]
    · simp
    · rw [Zone.positionOf_spawn, Function.update_self]
  next => cases joined

/-! ### A new character -/

omit [FloorI64 K] in
theorem manifests_initialZoneId (pack : ContentPack K) (zoneId : String) :
    ∃ manifest, pack.manifests (pack.initialZoneId zoneId) = some manifest := by
  rw [← Option.isSome_iff_exists, ContentPack.initialZoneId]
  split
  · assumption
  · rw [ContentPack.manifests, List.find?_isSome]
    exact ⟨pack.zones.head pack.zones_ne_nil, by simp, by simp [ContentPack.defaultZoneId]⟩

/-- A session of a process that has just been started begins where the row says. -/
theorem begins (pack : ContentPack K) {rows : CharacterId → Option (Row K)} {c : CharacterId}
    {row : Row K} (stored : rows c = some row) (e : EntityId) :
    ∃ s t zone, step ⟨.start pack, rows⟩ (.select c e) = some s ∧ step s (.join e 0) = some t ∧
      t.sessions e = some ⟨c, .live ⟨pack.initialZoneId row.zoneId, 0⟩⟩ ∧
      t.layers ⟨pack.initialZoneId row.zoneId, 0⟩ = some zone ∧
      pack.manifests (pack.initialZoneId row.zoneId) = some zone.manifest ∧
      zone.positionOf e = some row.position := by
  obtain ⟨manifest, known⟩ := manifests_initialZoneId pack row.zoneId
  let zone : Zone K := .new manifest pack.worldConfig
    (pack.navmeshes (pack.initialZoneId row.zoneId))
  let fresh : State K := ⟨.start pack, rows⟩
  let selected : State K := fresh.setPhase e c (.joining row)
  have running : selected.layerFor ⟨pack.initialZoneId row.zoneId, 0⟩ = some zone := by
    simp [State.layerFor, selected, fresh, State.setPhase, State.setSession, Process.start,
      ContentPack.newZone, known, zone]
  have select : step fresh (.select c e) = some selected := by
    simp [step, selected, fresh, stored, Process.start]
  have joined : step selected (.join e 0) = some
      { selected.setPhase e c (.live ⟨pack.initialZoneId row.zoneId, 0⟩) with
        layers := Function.update selected.layers ⟨pack.initialZoneId row.zoneId, 0⟩
          (some (zone.spawn e .player row.position)) } := by
    have found : selected.sessions e = some ⟨c, .joining row⟩ := Function.update_self _ _ _
    have same : selected.pack = pack := rfl
    simp only [step, found, same, running, Option.map_some]
  refine ⟨selected, _, zone.spawn e .player row.position, select, joined, ?_, ?_, known, ?_⟩
  · exact Function.update_self _ _ _
  · exact Function.update_self _ _ _
  · rw [Zone.positionOf_spawn, Function.update_self]

/-- A character is created through one process and selected through another one, or through
the same one. -/
def arrival {π : Type} (p q : π) (a b : ContentPack K) (c : CharacterId) (e : EntityId) :
    List (ClusterLabel π K) :=
  [.launch p a, .launch q b, .run p (.create c), .run q (.select c e)]

/-- Whoever joins with a character that has just been created begins at the origin. -/
theorem newcomer {π : Type} [DecidableEq π] {p q : π} {a b : ContentPack K} (same : p = q → a = b)
    (c : CharacterId) (e : EntityId) :
    ∃ s t process zone, Transition.exec Cluster.step .empty (arrival p q a b c e) = some s ∧
      s.step (.run q (.join e 0)) = some t ∧ t.process q = some process ∧
      process.sessions e = some ⟨c, .live ⟨b.initialZoneId a.defaultZoneId, 0⟩⟩ ∧
      process.layers ⟨b.initialZoneId a.defaultZoneId, 0⟩ = some zone ∧
      b.manifests (b.initialZoneId a.defaultZoneId) = some zone.manifest ∧
      zone.positionOf e = some (0, 0, 0) := by
  let launched : Cluster π K :=
    { rows := fun _ => none
      process := Function.update (Function.update (fun _ => none) p (some (.start a))) q
        (some (.start b)) }
  have there : launched.process p = some (.start a) := by
    by_cases here : p = q
    · simp [launched, here, same here]
    · simp [launched, here]
  let rows : CharacterId → Option (Row K) := Function.update (fun _ => none) c (some a.createdRow)
  let created : Cluster π K :=
    { rows, process := Function.update launched.process p (some (.start a)) }
  have create : launched.step (.run p (.create c)) = some created :=
    Cluster.run_of_step (t := ⟨.start a, rows⟩) there rfl
  have running : created.process q = some (.start b) := by
    by_cases here : q = p
    · simp [created, here, same here.symm]
    · simp [created, launched, here]
  have stored : rows c = some a.createdRow := Function.update_self _ _ _
  obtain ⟨s, t, zone, select, joined, live, layer, known, stands⟩ := begins b stored e
  let selected : Cluster π K :=
    { rows := s.rows, process := Function.update created.process q (some s.toProcess) }
  have selects : created.step (.run q (.select c e)) = some selected :=
    Cluster.run_of_step running select
  refine ⟨selected, ⟨t.rows, Function.update selected.process q (some t.toProcess)⟩, t.toProcess,
    zone, ?_, ?_, Function.update_self _ _ _, live, layer, known, stands⟩
  · refine Transition.exec_cons.mpr ⟨_, rfl, Transition.exec_cons.mpr ⟨launched, rfl, ?_⟩⟩
    refine Transition.exec_cons.mpr ⟨created, create, ?_⟩
    exact Transition.exec_cons.mpr ⟨selected, selects, rfl⟩
  · exact Cluster.run_of_step (Function.update_self _ _ _) joined

end Runs

namespace Yard

/-- Ten meters in both directions from a corner. -/
def corners (x : ℝ) : List (ℝ × ℝ) := [(x, x), (x + 10, x), (x + 10, x + 10), (x, x + 10)]

theorem validate_yard (x : ℝ) : (Entry.manifest "yard" (corners x) []).validate = [] := by
  refine Entry.validate_manifest (by decide) (by simp [corners]) ?_ (by simp)
  have area : Content.polygonSignedArea (corners x) = 100 := by
    simp [Content.polygonSignedArea, Content.withNext, corners, List.rotate]
    ring
  norm_num [area, Content.abs]

/-- One zone, a square with a given corner. -/
def pack (x : ℝ) : ContentPack ℝ where
  zones := [Entry.manifest "yard" (corners x) []]
  zones_ne_nil := by simp
  accepted := by simp [validate_yard]
  navmeshes _ := ⟨[⟨(corners x).map fun p => (p.1, p.2, 0)⟩]⟩
  worldConfig := ⟨20, 25, 10⟩

def traveler : CharacterId := ⟨1⟩

def body : EntityId := ⟨1⟩

theorem manifests_pack {x : ℝ} {zoneId : String} {manifest : ZoneManifest ℝ}
    (known : (pack x).manifests zoneId = some manifest) :
    manifest = Entry.manifest "yard" (corners x) [] := by
  simpa [pack] using List.mem_of_find?_eq_some known

theorem initialZoneId_pack (x : ℝ) (zoneId : String) : (pack x).initialZoneId zoneId = "yard" := by
  simp only [ContentPack.initialZoneId, ContentPack.manifests, pack, ContentPack.defaultZoneId]
  by_cases same : zoneId = "yard"
  · simp [same, Entry.manifest]
  · simp only [Entry.manifest]
    simpa using Eq.symm

/-- The origin is in the yard around it. -/
theorem admits_createdRow {x y : ℝ} (low : -10 < x) (high : x < 0) :
    (pack x).Admits (pack y).createdRow := by
  intro manifest known
  rw [manifests_pack known]
  have right : 0 < x + 10 := by linarith
  have left : ¬ 0 < x := by linarith
  norm_num [InBounds, World.pointInPolygon, Content.flat, Content.castRay, Content.withPrevious,
    Content.crosses, Entry.manifest, corners, ContentPack.createdRow, List.rotate, right, left,
    high.le]

/-- A new character of one process joins through another one, whose yard lies a little
further. -/
theorem joins_in_yard :
    ∃ s t, Transition.exec Cluster.step .empty
        (arrival false true (pack (-5)) (pack (-6)) traveler body) = some s ∧
      s.step (.run true (.join body 0)) = some t ∧
      ∃ process, t.process true = some process ∧ ∃ c l zone position,
        process.sessions body = some ⟨c, .live l⟩ ∧ process.layers l = some zone ∧
        zone.positionOf body = some position ∧ InBounds zone.manifest position = true := by
  obtain ⟨s, t, _, _, reached, joined, _⟩ := newcomer (p := false) (q := true) (a := pack (-5))
    (b := pack (-6)) (fun same => nomatch same) traveler body
  have origin : ∀ p process, (Function.update (Function.update (fun _ => none) false
      (some (.start (pack (-5))))) true (some (.start (pack (-6)))) : Bool → Option (Process ℝ)) p =
        some process → process.pack.Admits (pack (-5)).createdRow := by
    rintro (_ | _) process running
    · cases running
      exact admits_createdRow (by norm_num) (by norm_num)
    · cases running
      exact admits_createdRow (by norm_num) (by norm_num)
  have inPlace : Transition.Admissible Cluster.step Cluster.InPlace .empty
      (arrival false true (pack (-5)) (pack (-6)) traveler body) := by
    refine ⟨nofun, ?_⟩
    rintro _ ⟨⟩
    refine ⟨nofun, ?_⟩
    rintro _ ⟨⟩
    refine ⟨fun process running => ?_, fun _ _ => ⟨fun _ _ => ⟨trivial, nofun⟩, fun _ _ => trivial⟩⟩
    have own := origin false process running
    cases running
    refine ⟨own, ?_⟩
    rintro row rfl p' - other there
    exact origin p' other there
  exact ⟨s, t, reached, joined, joins_in_bounds inPlace reached joined⟩

/-- Where the yard is ten meters from the origin in both directions, a new character begins
outside of it. -/
theorem not_joins_in_yard :
    ∃ s t process zone, Transition.exec Cluster.step .empty
        (arrival () () (pack 10) (pack 10) traveler body) = some s ∧
      s.step (.run () (.join body 0)) = some t ∧ t.process () = some process ∧
      process.sessions body = some ⟨traveler, .live ⟨"yard", 0⟩⟩ ∧
      process.layers ⟨"yard", 0⟩ = some zone ∧
      zone.positionOf body = some (0, 0, 0) ∧ InBounds zone.manifest (0, 0, 0) = false := by
  obtain ⟨s, t, process, zone, reached, joined, running, live, there, known, stands⟩ :=
    newcomer (p := ()) (q := ()) (a := pack 10) (b := pack 10) (fun _ => rfl) traveler body
  rw [initialZoneId_pack] at live there
  refine ⟨s, t, process, zone, reached, joined, running, live, there, stands, ?_⟩
  rw [manifests_pack known]
  norm_num [InBounds, World.pointInPolygon, Content.flat, Content.castRay, Content.withPrevious,
    Content.crosses, Entry.manifest, corners, List.rotate]

end Yard

end WorldZero.Server.Join
