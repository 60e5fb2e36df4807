import Mathlib.Data.List.Count
import WorldZero.Server.ZoneHandoff

/-!
# A player entity is in one layer

The layer that the entity has been sent to is determined by what is in progress: a
transition, the `ZoneChanged` messages on their way, or the session. In a run whose
handoffs do not overlap, the commands already sent put the entity there and nowhere
else.

A queue is processed in order, so whoever has its reply knows that the commands
before it have been performed; the entity crosses a link only in a layer whose
queue holds no more spawns and despawns of it.
-/

namespace WorldZero.Server.Handoff

/-! ### Queues -/

namespace WorldCommand

def moves : WorldCommand → Bool
  | .spawn | .despawn => true
  | _ => false

theorem after_of_not_moves {command : WorldCommand} (h : command.moves = false) (b : Bool) :
    after b command = b := by
  cases command <;> first | rfl | cases h

end WorldCommand

open WorldCommand (after)

/-- No spawn or despawn is left in the queue. -/
def Settled (queue : List WorldCommand) : Prop := ∀ command ∈ queue, command.moves = false

/-- When the waiter has its reply, no spawn or despawn is left in the queue. -/
def Covered (w : Waiter) : List WorldCommand → Prop
  | [] => True
  | command :: rest => (command.moves = true → .ask w ∈ rest) ∧ Covered w rest

variable {queue rest : List WorldCommand} {command : WorldCommand} {w : Waiter} {b : Bool}

theorem Settled.tail (h : Settled (command :: rest)) : Settled rest :=
  fun c hc => h c (.tail _ hc)

theorem Settled.append (h : Settled queue) (hc : command.moves = false) :
    Settled (queue ++ [command]) := by
  intro c in_queue
  rcases List.mem_append.mp in_queue with earlier | last
  · exact h c earlier
  · rwa [List.mem_singleton.mp last]

theorem Settled.not_mem (h : Settled queue) (hc : command.moves = true) : command ∉ queue := by
  intro in_queue
  rw [h command in_queue] at hc
  cases hc

theorem foldl_after_of_settled (h : Settled queue) : queue.foldl after b = b := by
  induction queue with
  | nil => rfl
  | cons command rest ih =>
      rw [List.foldl_cons, WorldCommand.after_of_not_moves (h command (.head _))]
      exact ih h.tail

/-- What is in the zone now can only help. -/
theorem foldl_after_mono (h : queue.foldl after false = true) : queue.foldl after true = true := by
  induction queue with
  | nil => cases h
  | cons command rest ih => cases command <;> first | exact h | exact ih h

theorem foldl_after_of_no_despawn (h : .despawn ∉ queue) : queue.foldl after true = true := by
  induction queue with
  | nil => rfl
  | cons command rest ih =>
      have later : .despawn ∉ rest := fun hr => h (.tail _ hr)
      cases command with
      | despawn => exact absurd (.head _) h
      | spawn | positionOf | ask => exact ih later

theorem Covered.tail (h : Covered w (command :: rest)) : Covered w rest := h.2

theorem Covered.append (h : Covered w queue) (hc : command.moves = false) :
    Covered w (queue ++ [command]) := by
  induction queue with
  | nil => exact ⟨fun moves => (by rw [hc] at moves; cases moves), trivial⟩
  | cons first rest ih =>
      exact ⟨fun moves => List.mem_append_left _ (h.1 moves), ih h.2⟩

theorem covered_ask : Covered w (queue ++ [.ask w]) := by
  induction queue with
  | nil => exact ⟨fun moves => (by cases moves), trivial⟩
  | cons first rest ih => exact ⟨fun _ => by simp, ih⟩

theorem Covered.settled (h : Covered w queue) (replied : .ask w ∉ queue) : Settled queue := by
  induction queue with
  | nil => intro c hc; cases hc
  | cons first rest ih =>
      have later : .ask w ∉ rest := fun hr => replied (.tail _ hr)
      intro c hc
      cases hc with
      | head =>
          by_contra moves
          exact later (h.1 (by simpa using moves))
      | tail _ hr => exact ih h.2 later c hr

/-! ### Where the entity has been sent -/

namespace TransitionPhase

def target : TransitionPhase → Option Layer
  | .resolving _ => none
  | .registering target | .surveying target => some target

/-- Where the transition has registered the entity's sender. -/
def desk : TransitionPhase → Option Layer
  | .surveying target => some target
  | _ => none

end TransitionPhase

namespace SessionPhase

/-- Where the session takes the entity to be. -/
def stops (zone : Layer) : SessionPhase → List Layer
  | .live | .locating _ | .located _ _ | .leaving => [zone]
  | .switching newZone => [newZone]
  | .registering target | .surveying target => [target]
  | .departing _ | .arriving _ | .removing | .gone => []

/-- The session is moving the entity itself or has begun its cleanup. -/
def apart : SessionPhase → Bool
  | .live | .switching _ | .locating _ | .located _ _ => false
  | _ => true

def moving : SessionPhase → Bool
  | .departing _ | .arriving _ | .registering _ | .surveying _ => true
  | _ => false

/-- The spawn of the entity in its new layer may still be queued. -/
def handing : SessionPhase → Bool
  | .registering _ | .surveying _ => true
  | _ => false

def isLocating : SessionPhase → Bool
  | .locating _ => true
  | _ => false

end SessionPhase

namespace State

variable (s : State)

/-- The layers that the session has in view, the current one first. -/
def route : List Layer := s.session.stops s.zone ++ s.outgoing.map fun zoneId => ⟨zoneId, 0⟩

/-- The layer that the entity has been sent to last. -/
def home : Option Layer :=
  match s.transitions with
  | t :: _ => t.phase.target
  | [] => if s.lost then none else s.route.getLast?

/-- The layer in whose `Sessions` the entity's sender is. -/
def desk : Option Layer :=
  match s.transitions with
  | t :: _ => t.phase.desk
  | [] =>
      if s.lost then none
      else
        match s.session with
        | .departing _ | .removing => some s.zone
        | .registering _ => none
        | _ => s.route.getLast?

end State

variable {hosted : String → Bool} {s t : State} {l l' : Layer}

/-- The entity is where it has been sent. -/
structure Placed (hosted : String → Bool) (s : State) : Prop where
  present : ∀ l, s.present l = true ↔ s.home = some l
  sessions : ∀ l, s.sessions l = true ↔ s.desk = some l
  single : s.transitions.length ≤ 1
  target : ∀ t ∈ s.transitions, ∀ l ∈ t.phase.target, get hosted l.zoneId = some l
  announced : ∀ zoneId ∈ s.outgoing, hosted zoneId = true
  apart : s.session.apart = true → s.Quiet
  lost : s.lost = true → s.transitions = [] ∧ s.session.moving = false
  found : ∀ target, s.session = .located target true → s.home = some s.zone
  clean : s.session.handing = false → ∀ l ∈ s.route, .despawn ∉ s.queue l
  settled : s.transitions = [] → s.session.handing = false →
    ∀ l, s.home = some l → Settled (s.queue l)
  surveyed : ∀ t ∈ s.transitions, ∀ l, t.phase = .surveying l →
    Covered (.transition t.id) (s.queue l)
  joined : ∀ l, s.session = .surveying l → Covered .session (s.queue l)
  asked : ∀ l, (s.queue l).count .positionOf ≤
    if l = s.zone ∧ s.session.isLocating = true then 1 else 0

/-! ### Steps -/

theorem State.present_send {command : WorldCommand} :
    (s.send l command).present l' =
      if l' = l then after (s.present l) command else s.present l' := by
  by_cases same : l' = l
  · subst same
    simp [State.present, List.foldl_append]
  · simp [State.present, same]

theorem State.present_send_ask : (s.send l (.ask w)).present l' = s.present l' := by
  rw [State.present_send]
  split
  · next same => rw [same]; rfl
  · rfl

namespace Placed

/-- A roaming session knows in whose `Sessions` it is. -/
theorem desk_eq_home (roaming : s.session.roaming = true) (idle : s.transitions = []) :
    s.desk = s.home := by
  cases at_session : s.session <;> simp_all [State.desk, State.home, SessionPhase.roaming]

theorem transitions_eq (inv : Placed hosted s) {x : ZoneTransition}
    (running : x ∈ s.transitions) : s.transitions = [x] := by
  have single := inv.single
  match at_list : s.transitions, single, running with
  | [y], _, running => rw [List.mem_singleton.mp running]

/-- While a transition runs the session is not handing the entity over. -/
theorem not_apart (inv : Placed hosted s) {x : ZoneTransition}
    (running : s.transitions = [x]) : ¬ s.session.apart = true := by
  intro apart
  have quiet := (inv.apart apart).1
  rw [running] at quiet
  cases quiet

theorem not_lost (inv : Placed hosted s) {x : ZoneTransition}
    (running : s.transitions = [x]) : ¬ s.lost = true := by
  intro lost
  have idle := (inv.lost lost).1
  rw [running] at idle
  cases idle

/-- The entity crosses a link where it is registered: this is where it has been
sent, and nothing of it is left in that queue. -/
theorem cross_registered (inv : Placed hosted s) {targetZoneId : String}
    (registered : s.sessions l = true) (idle : s.transitions = [])
    (roaming : s.session.roaming = true) : Placed hosted (s.cross l targetZoneId) := by
  have not_apart : s.session.apart = false ∧ s.session.handing = false ∧
      s.session.moving = false ∧ ∀ target, s.session ≠ .located target true := by
    cases at_session : s.session <;>
      simp_all [SessionPhase.roaming, SessionPhase.apart, SessionPhase.handing,
        SessionPhase.moving]
  obtain ⟨not_apart, not_handing, not_moving, not_located⟩ := not_apart
  have at_desk := (inv.sessions l).mp registered
  have at_home : s.home = some l := desk_eq_home roaming idle ▸ at_desk
  have settled := inv.settled idle not_handing l at_home
  have not_lost : s.lost = false := by
    by_contra lost
    simp_all [State.home]
  simp only [State.cross, registered, if_true, idle, List.nil_append]
  refine ⟨fun l' => ?_, fun l' => ?_, by simp, ?_, inv.announced, ?_, ?_, ?_, inv.clean, ?_, ?_,
    inv.joined, inv.asked⟩
  · by_cases same : l' = l
    · subst same
      simp [State.present, State.home, TransitionPhase.target, foldl_after_of_settled settled]
    · have elsewhere := inv.present l'
      simp_all [State.present, State.home, TransitionPhase.target, Ne.symm same]
  · by_cases same : l' = l
    · subst same
      simp [State.desk, TransitionPhase.desk]
    · have elsewhere := inv.sessions l'
      simp_all [State.desk, TransitionPhase.desk, Ne.symm same]
  · simp [TransitionPhase.target]
  · intro apart
    rw [not_apart] at apart
    cases apart
  · intro lost
    rw [not_lost] at lost
    cases lost
  · intro target located
    exact absurd located (not_located target)
  · simp
  · simp

/-- A crossing where the entity has not been registered only ends its stay there. -/
theorem cross_unregistered (inv : Placed hosted s) {targetZoneId : String}
    (unregistered : s.sessions l = false) (absent : s.present l = false) :
    Placed hosted (s.cross l targetZoneId) := by
  have present : ∀ l', (s.cross l targetZoneId).present l' = s.present l' := by
    intro l'
    simp only [State.cross, unregistered, State.present]
    by_cases same : l' = l
    · subst same
      rw [State.present] at absent
      have mono : (s.queue l').foldl after false = true → (s.queue l').foldl after true = true :=
        foldl_after_mono
      cases at_spawned : s.spawned l' <;> simp_all
    · simp [same]
  have other : ∀ l', (s.cross l targetZoneId).present l' = true ↔ s.home = some l' := by
    intro l'
    rw [present]
    exact inv.present l'
  simp only [State.cross, unregistered] at other ⊢
  exact ⟨other, inv.sessions, inv.single, inv.target, inv.announced, inv.apart, inv.lost,
    inv.found, inv.clean, inv.settled, inv.surveyed, inv.joined, inv.asked⟩

/-- The actor performs the next command; what it will have performed does not change. -/
theorem taken (inv : Placed hosted s) (at_queue : s.queue l = command :: rest) :
    Placed hosted { s with
      queue := Function.update s.queue l rest
      spawned := Function.update s.spawned l (after (s.spawned l) command) } := by
  have queue : ∀ l', Function.update s.queue l rest l' <:+ s.queue l' := by
    intro l'
    by_cases same : l' = l
    · subst same
      simp [at_queue]
    · simp [same]
  have covered :
      ∀ w l', Covered w (s.queue l') → Covered w (Function.update s.queue l rest l') := by
    intro w l' before
    by_cases same : l' = l
    · subst same
      rw [at_queue] at before
      simpa using before.tail
    · simpa [same] using before
  refine ⟨fun l' => ?_, inv.sessions, inv.single, inv.target, inv.announced, inv.apart,
    inv.lost, inv.found, ?_, ?_, ?_, ?_, fun l' => ?_⟩
  · refine Iff.trans ?_ (inv.present l')
    by_cases same : l' = l
    · subst same
      simp [State.present, at_queue]
    · simp [State.present, same]
  · exact fun handing l' hl queued => inv.clean handing l' hl ((queue l').subset queued)
  · intro idle handing l' hl c queued
    exact inv.settled idle handing l' hl c ((queue l').subset queued)
  · exact fun t ht l' at_phase => covered _ l' (inv.surveyed t ht l' at_phase)
  · exact fun l' at_session => covered _ l' (inv.joined l' at_session)
  · exact Nat.le_trans ((queue l').sublist.count_le _) (inv.asked l')

/-- The session goes on between two handoffs. -/
theorem goto (inv : Placed hosted s) {session : SessionPhase} {zone : Layer}
    {outgoing : List String} (before : s.session.handing = false)
    (announced : ∀ zoneId ∈ outgoing, zoneId ∈ s.outgoing)
    (apart : session.apart = true → s.transitions = [] ∧ outgoing = [])
    (steady : session.moving = false)
    (home : ({ s with session, zone, outgoing } : State).home = s.home)
    (desk : ({ s with session, zone, outgoing } : State).desk = s.desk)
    (found : ∀ target, session = .located target true → s.home = some zone)
    (route : ∀ l ∈ ({ s with session, zone, outgoing } : State).route, l ∈ s.route)
    (asked : ∀ l, (s.queue l).count .positionOf ≤
      if l = zone ∧ session.isLocating = true then 1 else 0) :
    Placed hosted { s with session, zone, outgoing } where
  present l := by
    rw [home]
    exact inv.present l
  sessions l := by
    rw [desk]
    exact inv.sessions l
  single := inv.single
  target := inv.target
  announced zoneId h := inv.announced zoneId (announced zoneId h)
  apart := apart
  lost h := ⟨(inv.lost h).1, steady⟩
  found target located := home.trans (found target located)
  clean _ l hl := inv.clean before l (route l hl)
  settled idle _ l hl := inv.settled idle before l (home ▸ hl)
  surveyed := inv.surveyed
  joined l at_session := by
    subst at_session
    cases steady
  asked := asked

/-- No position is asked for except by a group move. -/
theorem unasked (inv : Placed hosted s) (not_locating : s.session.isLocating = false) (l : Layer)
    (zone : Layer) (session : SessionPhase) :
    (s.queue l).count .positionOf ≤
      if l = zone ∧ session.isLocating = true then 1 else 0 := by
  have none_asked : (s.queue l).count .positionOf ≤ 0 := by
    simpa [not_locating] using inv.asked l
  omega

/-- The answer to the group move is that of the session's own layer, which has no
despawn of the entity in its queue. -/
theorem locate (inv : Placed hosted s) {target : Layer} (at_session : s.session = .locating target)
    (at_queue : s.queue l = .positionOf :: rest) :
    Placed hosted { s with
      queue := Function.update s.queue l rest, session := .located target (s.spawned l) } := by
  have popped : Placed hosted { s with queue := Function.update s.queue l rest } := by
    simpa [after] using inv.taken at_queue
  have at_zone : l = s.zone := by
    by_contra other
    have count := inv.asked l
    simp [at_queue, other] at count
  have unasked : ∀ l', (Function.update s.queue l rest l').count .positionOf = 0 := by
    intro l'
    have count := inv.asked l'
    by_cases same : l' = l
    · subst same
      rw [at_queue, List.count_cons_self] at count
      rw [Function.update_self]
      split at count <;> omega
    · have other : l' ≠ s.zone := at_zone ▸ same
      simpa [same, other] using count
  refine popped.goto (by rw [at_session]; rfl) (fun _ h => h) (fun h => by cases h) rfl ?_ ?_ ?_ ?_
    fun l' => ?_
  · simp [State.home, State.route, SessionPhase.stops, at_session]
  · simp [State.desk, State.route, SessionPhase.stops, at_session]
  · intro target' located
    have here : s.spawned l = true := by simp_all
    have clean := popped.clean (by rw [at_session]; rfl) s.zone
      (by simp [State.route, at_session, SessionPhase.stops])
    refine (popped.present s.zone).mp ?_
    rw [State.present, ← at_zone, here]
    exact foldl_after_of_no_despawn (at_zone ▸ clean)
  · simp [State.route, at_session, SessionPhase.stops]
  · simp [unasked l']

theorem act (inv : Placed hosted s) (acted : s.act l = some t) : Placed hosted t := by
  unfold State.act at acted
  split at acted
  · cases acted
  next command rest at_queue =>
  cases acted
  have taken := inv.taken at_queue
  cases command with
  | spawn | despawn => exact taken
  | ask w => simpa [after, State.perform] using taken
  | positionOf =>
      simp only [State.perform]
      split
      · next target at_session => exact inv.locate at_session at_queue
      · simpa [after] using taken

/-- A command that somebody awaits the reply of changes nothing. -/
theorem send_ask (inv : Placed hosted s) : Placed hosted (s.send l (.ask w)) := by
  have queue : ∀ l', (s.send l (.ask w)).queue l' = s.queue l' ∨
      (s.send l (.ask w)).queue l' = s.queue l' ++ [.ask w] := by
    intro l'
    by_cases same : l' = l
    · subst same
      right
      simp
    · left
      simp [same]
  refine ⟨fun l' => ?_, inv.sessions, inv.single, inv.target, inv.announced, inv.apart, inv.lost,
    inv.found, ?_, ?_, ?_, ?_, ?_⟩
  · rw [State.present_send_ask]
    exact inv.present l'
  · intro handing l' hl
    have clean := inv.clean handing l' hl
    rcases queue l' with same | longer
    · rwa [same]
    · rw [longer]
      simpa using clean
  · intro idle handing l' hl
    have settled := inv.settled idle handing l' hl
    rcases queue l' with same | longer
    · rwa [same]
    · rw [longer]
      exact settled.append rfl
  · intro t ht l' at_phase
    have surveyed := inv.surveyed t ht l' at_phase
    rcases queue l' with same | longer
    · rwa [same]
    · rw [longer]
      exact surveyed.append rfl
  · intro l' at_session
    have joined := inv.joined l' at_session
    rcases queue l' with same | longer
    · rwa [same]
    · rw [longer]
      exact joined.append rfl
  · intro l'
    have asked := inv.asked l'
    rcases queue l' with same | longer
    · rwa [same]
    · rw [longer, List.count_append]
      simpa using asked

section Transitions

variable {x : ZoneTransition}

/-- The target zone is not hosted: the entity stays where it has been sent, nowhere. -/
theorem lose (inv : Placed hosted s) {targetZoneId : String} (running : s.transitions = [x])
    (at_phase : x.phase = .resolving targetZoneId) :
    Placed hosted { s.finish x.id with lost := true } := by
  have not_apart := inv.not_apart running
  have nowhere : s.home = none ∧ s.desk = none := by
    simp [State.home, State.desk, running, at_phase, TransitionPhase.target, TransitionPhase.desk]
  have idle : (s.finish x.id).transitions = [] := by simp [running]
  refine ⟨fun l' => ?_, fun l' => ?_, by simp [running], by simp [running], inv.announced,
    fun apart => ?_, fun _ => ⟨idle, ?_⟩, fun target located => ?_, inv.clean, fun _ _ l' hl => ?_,
    by simp [running], inv.joined, inv.asked⟩
  · have absent := inv.present l'
    simp_all [State.home, State.present]
  · have absent := inv.sessions l'
    simp_all [State.desk]
  · exact absurd apart not_apart
  · show s.session.moving = false
    cases at_session : s.session <;> simp_all [SessionPhase.apart, SessionPhase.moving]
  · have found := inv.found target located
    rw [nowhere.1] at found
    cases found
  · rw [State.home, idle] at hl
    cases hl

/-- The entity is sent to the target. -/
theorem spawn (inv : Placed hosted s) {targetZoneId : String} {target : Layer}
    (running : s.transitions = [x]) (at_phase : x.phase = .resolving targetZoneId)
    (resolved : get hosted targetZoneId = some target) :
    Placed hosted ((s.send target .spawn).proceed x.id (.registering target)) := by
  have not_apart := inv.not_apart running
  have not_lost := inv.not_lost running
  have nowhere : s.home = none ∧ s.desk = none := by
    simp [State.home, State.desk, running, at_phase, TransitionPhase.target, TransitionPhase.desk]
  have proceeded : ((s.send target .spawn).proceed x.id (.registering target)).transitions =
      [⟨x.id, .registering target⟩] := by simp [running]
  have home : ((s.send target .spawn).proceed x.id (.registering target)).home = some target := by
    rw [State.home, proceeded]
    rfl
  have desk : ((s.send target .spawn).proceed x.id (.registering target)).desk = none := by
    rw [State.desk, proceeded]
    rfl
  refine ⟨fun l' => ?_, fun l' => ?_, by simp [running], fun t ht l' hl => ?_, inv.announced,
    fun apart => ?_, fun lost => ?_, fun target' located => ?_, fun handing l' hl => ?_,
    fun idle => ?_, fun t ht l' ht' => ?_, fun l' at_session => ?_, fun l' => ?_⟩
  · have absent := inv.present l'
    show (s.send target .spawn).present l' = true ↔ _
    rw [State.present_send, home]
    by_cases same : l' = target
    · simp [same, after]
    · simp_all [Ne.symm same]
  · have absent := inv.sessions l'
    simp_all
  · rw [proceeded, List.mem_singleton] at ht
    subst ht
    cases hl
    simp only [get] at resolved
    split at resolved
    · next hosts =>
        cases resolved
        simp [get, hosts]
    · cases resolved
  · exact absurd apart not_apart
  · exact absurd lost not_lost
  · have found := inv.found target' located
    rw [nowhere.1] at found
    cases found
  · have clean := inv.clean handing l' hl
    by_cases same : l' = target
    · subst same
      simpa using clean
    · simpa [same] using clean
  · rw [proceeded] at idle
    cases idle
  · rw [proceeded, List.mem_singleton] at ht
    subst ht
    cases ht'
  · rw [show s.session = .surveying l' from at_session] at not_apart
    exact absurd rfl not_apart
  · have asked := inv.asked l'
    by_cases same : l' = target
    · subst same
      simpa [List.count_append] using asked
    · simpa [same] using asked

/-- The entity is registered where it has been sent. -/
theorem enter (inv : Placed hosted s) {target : Layer} (running : s.transitions = [x])
    (at_phase : x.phase = .registering target) :
    Placed hosted (((s.register target true).send target (.ask (.transition x.id))).proceed x.id
      (.surveying target)) := by
  have asking := inv.send_ask (l := target) (w := .transition x.id)
  have not_lost := inv.not_lost running
  have proceeded : (((s.register target true).send target (.ask (.transition x.id))).proceed x.id
      (.surveying target)).transitions = [⟨x.id, .surveying target⟩] := by simp [running]
  have home : (((s.register target true).send target (.ask (.transition x.id))).proceed x.id
      (.surveying target)).home = s.home := by
    simp [State.home, running, at_phase, TransitionPhase.target]
  have desk : (((s.register target true).send target (.ask (.transition x.id))).proceed x.id
      (.surveying target)).desk = some target := by
    rw [State.desk, proceeded]
    rfl
  have unregistered : s.desk = none := by
    simp [State.desk, running, at_phase, TransitionPhase.desk]
  refine ⟨fun l' => ?_, fun l' => ?_, by simp [running], fun t ht l' hl => ?_, inv.announced,
    fun apart => ?_, fun lost => ?_, fun target' located => ?_, asking.clean,
    fun idle => ?_, fun t ht l' ht' => ?_, asking.joined, asking.asked⟩
  · rw [home]
    exact asking.present l'
  · have nowhere := inv.sessions l'
    by_cases same : l' = target
    · simp [same, desk]
    · simp_all [Ne.symm same]
  · rw [proceeded, List.mem_singleton] at ht
    subst ht
    refine inv.target x (by simp [running]) l' ?_
    cases hl
    simp [at_phase, TransitionPhase.target]
  · have quiet := (inv.apart apart).1
    rw [running] at quiet
    cases quiet
  · exact absurd lost not_lost
  · exact home.trans (inv.found target' located)
  · rw [proceeded] at idle
    cases idle
  · rw [proceeded, List.mem_singleton] at ht
    subst ht
    cases ht'
    simpa using covered_ask

/-- The session will be told where the entity is. -/
theorem announce (inv : Placed hosted s) {target : Layer} (running : s.transitions = [x])
    (at_phase : x.phase = .surveying target)
    (replied : .ask (.transition x.id) ∉ s.queue target) :
    Placed hosted { s.finish x.id with outgoing := s.outgoing ++ [target.zoneId] } := by
  have not_apart := inv.not_apart running
  have not_lost := inv.not_lost running
  have resolved : get hosted target.zoneId = some target :=
    inv.target x (by simp [running]) target (by simp [at_phase, TransitionPhase.target])
  have layer : hosted target.zoneId = true ∧ (⟨target.zoneId, 0⟩ : Layer) = target := by
    simp only [get] at resolved
    split at resolved
    · next hosts => exact ⟨hosts, Option.some.inj resolved⟩
    · cases resolved
  have settled : Settled (s.queue target) :=
    (inv.surveyed x (by simp [running]) target at_phase).settled replied
  have idle : (s.finish x.id).transitions = [] := by simp [running]
  have route : ({ s.finish x.id with
      outgoing := s.outgoing ++ [target.zoneId] } : State).route = s.route ++ [target] := by
    simp [State.route, layer.2]
  have here : s.home = some target ∧ s.desk = some target := by
    simp [State.home, State.desk, running, at_phase, TransitionPhase.target, TransitionPhase.desk]
  have home : ({ s.finish x.id with
      outgoing := s.outgoing ++ [target.zoneId] } : State).home = some target := by
    rw [State.home, idle]
    refine (if_neg not_lost).trans ?_
    rw [route]
    simp
  have desk : ({ s.finish x.id with
      outgoing := s.outgoing ++ [target.zoneId] } : State).desk = some target := by
    rw [State.desk, idle]
    refine (if_neg not_lost).trans ?_
    rw [route]
    cases at_session : s.session <;> simp_all [SessionPhase.apart]
  refine ⟨fun l' => ?_, fun l' => ?_, by simp [running], by simp [running], fun zoneId hz => ?_,
    fun apart => ?_, fun lost => ?_, fun target' located => ?_, fun handing l' hl => ?_,
    fun _ _ l' hl => ?_, by simp [running], inv.joined, inv.asked⟩
  · rw [home, ← here.1]
    exact inv.present l'
  · rw [desk, ← here.2]
    exact inv.sessions l'
  · rcases List.mem_append.mp hz with earlier | last
    · exact inv.announced zoneId earlier
    · rw [List.mem_singleton.mp last]
      exact layer.1
  · exact absurd apart not_apart
  · exact absurd lost not_lost
  · rw [home, ← here.1]
    exact inv.found target' located
  · rw [route] at hl
    rcases List.mem_append.mp hl with earlier | last
    · exact inv.clean handing l' earlier
    · rw [List.mem_singleton.mp last]
      exact settled.not_mem rfl
  · cases home.symm.trans hl
    exact settled

theorem completeZoneTransition (inv : Placed hosted s) (running : x ∈ s.transitions)
    (taken : s.completeZoneTransition hosted x = some t) : Placed hosted t := by
  have only := inv.transitions_eq running
  unfold State.completeZoneTransition at taken
  split at taken
  · next targetZoneId at_phase =>
      split at taken
      · cases taken
        exact inv.lose only at_phase
      · next target resolved =>
          cases taken
          exact inv.spawn only at_phase resolved
  · next target at_phase =>
      cases taken
      exact inv.enter only at_phase
  · next target at_phase =>
      split at taken
      · cases taken
      · next replied =>
          cases taken
          exact inv.announce only at_phase replied

end Transitions

section Session

variable {target : Layer}

/-- The group move takes the entity out of the layer where it has found it. -/
theorem depart (inv : Placed hosted s) (at_session : s.session = .located target true)
    (quiet : s.Quiet) :
    Placed hosted { s.send s.zone .despawn with session := .departing target } := by
  obtain ⟨idle, told⟩ := quiet
  have found := inv.found target at_session
  have not_lost : ¬ s.lost = true := by
    intro lost
    simp [State.home, idle, lost] at found
  have home : ({ s.send s.zone .despawn with session := .departing target } : State).home =
      none := by
    simp [State.home, State.route, SessionPhase.stops, idle, told]
  have desk : ({ s.send s.zone .despawn with session := .departing target } : State).desk =
      s.desk := by
    simp [State.desk, State.route, SessionPhase.stops, idle, told, at_session]
  refine ⟨fun l' => ?_, fun l' => ?_, by simp [idle], by simp [idle], inv.announced,
    fun _ => ⟨idle, told⟩, fun lost => absurd lost not_lost, fun target' located => ?_,
    fun _ l' hl => ?_, fun _ _ l' hl => ?_, by simp [idle], fun l' at_phase => ?_, fun l' => ?_⟩
  · have only := inv.present l'
    rw [home]
    show (s.send s.zone .despawn).present l' = true ↔ _
    rw [State.present_send]
    by_cases same : l' = s.zone
    · simp [same, after]
    · simp_all [Ne.symm same]
  · rw [desk]
    exact inv.sessions l'
  · cases located
  · simp [State.route, SessionPhase.stops, told] at hl
  · cases home.symm.trans hl
  · cases at_phase
  · have unasked := inv.unasked (by rw [at_session]; rfl) l' s.zone (.departing target)
    by_cases same : l' = s.zone
    · subst same
      simpa [List.count_append] using unasked
    · simpa [same] using unasked

theorem unregister (inv : Placed hosted s) (at_session : s.session = .departing target) :
    Placed hosted { s.register s.zone false with session := .arriving target } := by
  obtain ⟨idle, told⟩ := inv.apart (by rw [at_session]; rfl)
  have home : s.home = none := by
    simp [State.home, State.route, SessionPhase.stops, idle, told, at_session]
  refine ⟨fun l' => ?_, fun l' => ?_, inv.single, inv.target, inv.announced, fun _ => ⟨idle, told⟩,
    fun lost => ?_, fun target' located => ?_, fun _ l' hl => ?_, fun _ _ l' hl => ?_,
    inv.surveyed, fun l' at_phase => ?_, fun l' => ?_⟩
  · have absent := inv.present l'
    simp_all [State.home, State.route, SessionPhase.stops, State.present]
  · have only := inv.sessions l'
    by_cases same : l' = s.zone
    · subst same
      simp [State.desk, State.route, SessionPhase.stops, idle, told]
    · simp_all [State.desk, State.route, SessionPhase.stops, Ne.symm same]
  · have steady := (inv.lost lost).2
    rw [at_session] at steady
    cases steady
  · cases located
  · simp [State.route, SessionPhase.stops, told] at hl
  · simp [State.home, State.route, SessionPhase.stops, idle, told] at hl
  · cases at_phase
  · exact inv.unasked (by rw [at_session]; rfl) l' s.zone (.arriving target)

theorem arrive (inv : Placed hosted s) (at_session : s.session = .arriving target) :
    Placed hosted { s.send target .spawn with session := .registering target } := by
  obtain ⟨idle, told⟩ := inv.apart (by rw [at_session]; rfl)
  have not_lost : ¬ s.lost = true := by
    intro lost
    have steady := (inv.lost lost).2
    rw [at_session] at steady
    cases steady
  have home : s.home = none ∧ s.desk = none := by
    simp [State.home, State.desk, State.route, SessionPhase.stops, idle, told, at_session]
  have sent : ({ s.send target .spawn with session := .registering target } : State).home =
      some target := by
    simp [State.home, State.route, SessionPhase.stops, idle, told, not_lost]
  refine ⟨fun l' => ?_, fun l' => ?_, inv.single, inv.target, inv.announced, fun _ => ⟨idle, told⟩,
    fun lost => absurd lost not_lost, fun target' located => ?_, fun handing => ?_,
    fun _ handing => ?_, by simp [idle], fun l' at_phase => ?_, fun l' => ?_⟩
  · have absent := inv.present l'
    rw [sent]
    show (s.send target .spawn).present l' = true ↔ _
    rw [State.present_send]
    by_cases same : l' = target
    · simp [same, after]
    · simp_all [Ne.symm same]
  · have absent := inv.sessions l'
    simp_all [State.desk]
  · cases located
  · cases handing
  · cases handing
  · cases at_phase
  · have unasked := inv.unasked (by rw [at_session]; rfl) l' s.zone (.registering target)
    by_cases same : l' = target
    · subst same
      simpa [List.count_append] using unasked
    · simpa [same] using unasked

theorem sign_in (inv : Placed hosted s) (at_session : s.session = .registering target) :
    Placed hosted { (s.register target true).send target (.ask .session) with
      session := .surveying target } := by
  obtain ⟨idle, told⟩ := inv.apart (by rw [at_session]; rfl)
  have asking := inv.send_ask (l := target) (w := .session)
  have not_lost : ¬ s.lost = true := by
    intro lost
    have steady := (inv.lost lost).2
    rw [at_session] at steady
    cases steady
  have home : ({ (s.register target true).send target (.ask .session) with
      session := .surveying target } : State).home = s.home := by
    simp [State.home, State.route, SessionPhase.stops, at_session]
  have desk : ({ (s.register target true).send target (.ask .session) with
      session := .surveying target } : State).desk = some target := by
    simp [State.desk, State.route, SessionPhase.stops, idle, told, not_lost]
  have unregistered : s.desk = none := by
    simp [State.desk, idle, at_session]
  refine ⟨fun l' => ?_, fun l' => ?_, inv.single, inv.target, inv.announced, fun _ => ⟨idle, told⟩,
    fun lost => absurd lost not_lost, fun target' located => ?_, fun handing => ?_,
    fun _ handing => ?_, asking.surveyed, fun l' at_phase => ?_, fun l' => ?_⟩
  · rw [home]
    exact asking.present l'
  · have absent := inv.sessions l'
    rw [desk]
    by_cases same : l' = target
    · simp [same]
    · simp_all [Ne.symm same]
  · cases located
  · cases handing
  · cases handing
  · cases at_phase
    simpa using covered_ask
  · exact asking.unasked (by show s.session.isLocating = false; rw [at_session]; rfl) l' s.zone
      (.surveying target)

/-- The group move has ended, the entity is in its new layer. -/
theorem settle (inv : Placed hosted s) (at_session : s.session = .surveying target)
    (replied : .ask .session ∉ s.queue target) :
    Placed hosted { s with zone := target, session := .live } := by
  obtain ⟨idle, told⟩ := inv.apart (by rw [at_session]; rfl)
  have settled := (inv.joined target at_session).settled replied
  have home : ({ s with zone := target, session := .live } : State).home = s.home := by
    simp [State.home, State.route, SessionPhase.stops, at_session]
  have desk : ({ s with zone := target, session := .live } : State).desk = s.desk := by
    simp [State.desk, State.route, SessionPhase.stops, at_session]
  refine ⟨fun l' => ?_, fun l' => ?_, inv.single, inv.target, inv.announced,
    fun apart => (by cases apart), fun _ => ⟨idle, rfl⟩, fun target' located => (by cases located),
    fun _ l' hl => ?_, fun _ _ l' hl => ?_, inv.surveyed, fun l' at_phase => (by cases at_phase),
    fun l' => ?_⟩
  · rw [home]
    exact inv.present l'
  · rw [desk]
    exact inv.sessions l'
  · have only : l' = target := by simpa [State.route, SessionPhase.stops, told] using hl
    subst only
    exact settled.not_mem rfl
  · have only : s.lost = false ∧ target = l' := by
      simpa [State.home, State.route, SessionPhase.stops, told, idle] using hl
    obtain ⟨-, rfl⟩ := only
    exact settled
  · exact inv.unasked (by rw [at_session]; rfl) l' target .live

/-- The cleanup takes the entity out of the session's layer. -/
theorem remove (inv : Placed hosted s) (at_session : s.session = .leaving) :
    Placed hosted { s.send s.zone .despawn with session := .removing } := by
  obtain ⟨idle, told⟩ := inv.apart (by rw [at_session]; rfl)
  have home : s.home = if s.lost then none else some s.zone := by
    simp [State.home, State.route, SessionPhase.stops, idle, told, at_session]
  have removed : ({ s.send s.zone .despawn with session := .removing } : State).home = none := by
    simp [State.home, State.route, SessionPhase.stops, idle, told]
  have desk : ({ s.send s.zone .despawn with session := .removing } : State).desk = s.desk := by
    simp [State.desk, State.route, SessionPhase.stops, idle, told, at_session]
  refine ⟨fun l' => ?_, fun l' => ?_, inv.single, inv.target, inv.announced, fun _ => ⟨idle, told⟩,
    fun lost => ⟨idle, rfl⟩, fun target' located => (by cases located), fun _ l' hl => ?_,
    fun _ _ l' hl => ?_, by simp [idle], fun l' at_phase => (by cases at_phase), fun l' => ?_⟩
  · have only := inv.present l'
    rw [removed]
    show (s.send s.zone .despawn).present l' = true ↔ _
    rw [State.present_send]
    by_cases same : l' = s.zone
    · simp [same, after]
    · cases at_lost : s.lost <;> simp_all [Ne.symm same]
  · rw [desk]
    exact inv.sessions l'
  · simp [State.route, SessionPhase.stops, told] at hl
  · cases removed.symm.trans hl
  · have unasked := inv.unasked (by rw [at_session]; rfl) l' s.zone .removing
    by_cases same : l' = s.zone
    · subst same
      simpa [List.count_append] using unasked
    · simpa [same] using unasked

theorem sign_out (inv : Placed hosted s) (at_session : s.session = .removing) :
    Placed hosted { s.register s.zone false with session := .gone } := by
  obtain ⟨idle, told⟩ := inv.apart (by rw [at_session]; rfl)
  have home : ({ s.register s.zone false with session := .gone } : State).home = s.home := by
    simp [State.home, State.route, SessionPhase.stops, at_session]
  have desk : ({ s.register s.zone false with session := .gone } : State).desk = none := by
    simp [State.desk, State.route, SessionPhase.stops, idle, told]
  refine ⟨fun l' => ?_, fun l' => ?_, inv.single, inv.target, inv.announced, fun _ => ⟨idle, told⟩,
    fun lost => ⟨idle, rfl⟩, fun target' located => (by cases located), fun _ l' hl => ?_,
    fun _ _ l' hl => ?_, inv.surveyed, fun l' at_phase => (by cases at_phase), fun l' => ?_⟩
  · rw [home]
    exact inv.present l'
  · have only := inv.sessions l'
    rw [desk]
    by_cases same : l' = s.zone
    · simp [same]
    · cases at_lost : s.lost <;> simp_all [State.desk, Ne.symm same]
  · simp [State.route, SessionPhase.stops, told] at hl
  · simp [State.home, State.route, SessionPhase.stops, idle, told] at hl
  · exact inv.unasked (by rw [at_session]; rfl) l' s.zone .gone

theorem switch (inv : Placed hosted s) (at_session : s.session = .switching target) :
    Placed hosted { s with zone := target, session := .live } := by
  refine inv.goto (by rw [at_session]; rfl) (fun _ h => h) (fun h => by cases h) rfl ?_ ?_
    (fun _ h => by cases h) ?_ (fun l' => ?_)
  · simp [State.home, State.route, SessionPhase.stops, at_session]
  · simp [State.desk, State.route, SessionPhase.stops, at_session]
  · simp [State.route, SessionPhase.stops, at_session]
  · exact inv.unasked (by rw [at_session]; rfl) l' target .live

/-- The group move has not found the entity in the session's layer. -/
theorem stay (inv : Placed hosted s) (at_session : s.session = .located target false) :
    Placed hosted { s with session := .live } := by
  refine inv.goto (by rw [at_session]; rfl) (fun _ h => h) (fun h => by cases h) rfl ?_ ?_
    (fun _ h => by cases h) ?_ (fun l' => ?_)
  · simp [State.home, State.route, SessionPhase.stops, at_session]
  · simp [State.desk, State.route, SessionPhase.stops, at_session]
  · simp [State.route, SessionPhase.stops, at_session]
  · exact inv.unasked (by rw [at_session]; rfl) l' s.zone .live

theorem resume (inv : Placed hosted s) (turn : InTurn s .resume)
    (taken : s.resume s.session = some t) : Placed hosted t := by
  cases at_session : s.session with
  | live | locating | gone =>
      rw [at_session] at taken
      cases taken
  | switching newZone =>
      simp only [at_session, State.resume] at taken
      split at taken <;> cases taken
      exact inv.switch at_session
  | located target found =>
      simp only [at_session] at taken
      cases found <;> cases taken
      · exact inv.stay at_session
      · exact inv.depart at_session (by simpa [InTurn, at_session] using turn)
  | departing target =>
      rw [at_session] at taken
      cases taken
      exact inv.unregister at_session
  | arriving target =>
      rw [at_session] at taken
      cases taken
      exact inv.arrive at_session
  | registering target =>
      rw [at_session] at taken
      cases taken
      exact inv.sign_in at_session
  | surveying target =>
      simp only [at_session, State.resume] at taken
      split at taken <;> cases taken
      exact inv.settle at_session ‹_›
  | leaving =>
      simp only [at_session, State.resume] at taken
      split at taken <;> cases taken
      exact inv.remove at_session
  | removing =>
      rw [at_session] at taken
      cases taken
      exact inv.sign_out at_session

/-- The session follows the entity to the next zone. -/
theorem receive (inv : Placed hosted s) (at_session : s.session = .live)
    (taken : s.receive hosted = some t) : Placed hosted t := by
  unfold State.receive at taken
  split at taken
  · cases taken
  next zoneId rest at_outgoing =>
  have hosts : hosted zoneId = true := inv.announced zoneId (by simp [at_outgoing])
  simp only [get, hosts, if_true] at taken
  cases taken
  refine (inv.send_ask (l := s.zone) (w := .session)).goto ?_ ?_ ?_ rfl ?_ ?_ ?_ ?_ ?_
  · show s.session.handing = false
    rw [at_session]
    rfl
  · intro zoneId' later
    show zoneId' ∈ s.outgoing
    rw [at_outgoing]
    exact .tail _ later
  · intro apart
    cases apart
  · simp [State.home, State.route, SessionPhase.stops, at_session, at_outgoing]
  · simp [State.desk, State.route, SessionPhase.stops, at_session, at_outgoing]
  · intro target located
    cases located
  · intro l' hl
    have ahead : l' ∈ s.outgoing.map fun zoneId => (⟨zoneId, 0⟩ : Layer) := by
      simpa [State.route, SessionPhase.stops, at_outgoing] using hl
    exact List.mem_append_right _ ahead
  · intro l'
    exact (inv.send_ask (l := s.zone) (w := .session)).unasked
      (by show s.session.isLocating = false; rw [at_session]; rfl) l' s.zone _

theorem performGroupLayerMove (inv : Placed hosted s) (at_session : s.session = .live)
    (taken : s.performGroupLayerMove target = some t) : Placed hosted t := by
  unfold State.performGroupLayerMove at taken
  split at taken
  swap
  · cases taken
  cases taken
  have home : ({ s.send s.zone .positionOf with session := .locating target } : State).home =
      s.home := by
    simp [State.home, State.route, SessionPhase.stops, at_session]
  have desk : ({ s.send s.zone .positionOf with session := .locating target } : State).desk =
      s.desk := by
    simp [State.desk, State.route, SessionPhase.stops, at_session]
  have route : ({ s.send s.zone .positionOf with session := .locating target } : State).route =
      s.route := by
    simp [State.route, SessionPhase.stops, at_session]
  have not_handing : s.session.handing = false := by rw [at_session]; rfl
  have queue : ∀ l', (s.send s.zone .positionOf).queue l' = s.queue l' ∨
      (s.send s.zone .positionOf).queue l' = s.queue l' ++ [.positionOf] := by
    intro l'
    by_cases same : l' = s.zone
    · subst same
      right
      simp
    · left
      simp [same]
  refine ⟨fun l' => ?_, fun l' => ?_, inv.single, inv.target, inv.announced,
    fun h => (by cases h), fun lost => ⟨(inv.lost lost).1, rfl⟩, fun target' h => (by cases h),
    fun _ l' hl => ?_, fun idle _ l' hl => ?_, fun t ht l' at_phase => ?_,
    fun l' h => (by cases h), fun l' => ?_⟩
  · have only := inv.present l'
    rw [home]
    show (s.send s.zone .positionOf).present l' = true ↔ _
    rw [State.present_send]
    by_cases same : l' = s.zone
    · simpa [same, after] using inv.present s.zone
    · simpa [same] using only
  · rw [desk]
    exact inv.sessions l'
  · rw [route] at hl
    have clean := inv.clean not_handing l' hl
    rcases queue l' with same | longer
    · rwa [show State.queue _ l' = _ from same]
    · rw [show State.queue _ l' = _ from longer]
      simpa using clean
  · rw [home] at hl
    have settled := inv.settled idle not_handing l' hl
    rcases queue l' with same | longer
    · rwa [show State.queue _ l' = _ from same]
    · rw [show State.queue _ l' = _ from longer]
      exact settled.append rfl
  · have surveyed := inv.surveyed t ht l' at_phase
    rcases queue l' with same | longer
    · rwa [show State.queue _ l' = _ from same]
    · rw [show State.queue _ l' = _ from longer]
      exact surveyed.append rfl
  · have unasked := inv.asked l'
    by_cases same : l' = s.zone
    · subst same
      simpa [List.count_append, at_session, SessionPhase.isLocating] using unasked
    · simpa [same] using unasked

theorem disconnect (inv : Placed hosted s) (at_session : s.session = .live)
    (quiet : s.Quiet) : Placed hosted s.disconnect := by
  refine (inv.send_ask (l := s.zone) (w := .session)).goto ?_ (fun _ h => h) (fun _ => quiet) rfl
    ?_ ?_ (fun _ h => by cases h) ?_ ?_
  · show s.session.handing = false
    rw [at_session]
    rfl
  · simp [State.home, State.route, SessionPhase.stops, at_session]
  · simp [State.desk, State.route, SessionPhase.stops, at_session]
  · simp [State.route, SessionPhase.stops, at_session]
  · intro l'
    exact (inv.send_ask (l := s.zone) (w := .session)).unasked
      (by show s.session.isLocating = false; rw [at_session]; rfl) l' s.zone _

end Session

theorem step {label : Label} (inv : Placed hosted s) (turn : InTurn s label)
    (taken : Handoff.step hosted s label = some t) : Placed hosted t := by
  cases label with
  | cross l targetZoneId =>
      simp only [Handoff.step] at taken
      split at taken <;> cases taken
      cases registered : s.sessions l with
      | true =>
          obtain ⟨idle, roaming⟩ := turn (.inl registered)
          exact inv.cross_registered registered idle roaming
      | false =>
          refine inv.cross_unregistered registered ?_
          -- present but not registered is only an entity whose transition is not over
          by_contra present
          have present : s.present l = true := by simpa using present
          obtain ⟨idle, roaming⟩ := turn (.inr present)
          have at_desk := (desk_eq_home roaming idle).trans ((inv.present l).mp present)
          rw [(inv.sessions l).mpr at_desk] at registered
          cases registered
  | act l => exact inv.act taken
  | transition id =>
      obtain ⟨x, found, taken⟩ := Option.bind_eq_some_iff.mp taken
      exact inv.completeZoneTransition (List.mem_of_find?_eq_some found) taken
  | resume => exact inv.resume turn taken
  | receive =>
      simp only [Handoff.step] at taken
      split at taken
      · exact inv.receive ‹_› taken
      · cases taken
  | groupMove target =>
      simp only [Handoff.step] at taken
      split at taken
      · exact inv.performGroupLayerMove ‹_› taken
      · cases taken
  | disconnect =>
      simp only [Handoff.step] at taken
      split at taken <;> cases taken
      exact inv.disconnect ‹_› turn

end Placed

theorem placed_start (l : Layer) : Placed hosted (start l) := by
  have home : (start l).home = some l := by
    simp [State.home, State.route, SessionPhase.stops, start]
  have desk : (start l).desk = some l := by
    simp [State.desk, State.route, SessionPhase.stops, start]
  refine ⟨fun l' => ?_, fun l' => ?_, by simp [start], by simp [start], by simp [start],
    fun h => (by cases h), fun h => (by cases h), fun target h => (by cases h),
    by simp [start], fun _ _ l' _ c hc => (by cases hc), by simp [start],
    fun l' h => (by cases h), fun l' => (by simp [start])⟩
  · rw [home]
    by_cases same : l' = l
    · simp [same, start, State.present]
    · simp [same, start, State.present, Ne.symm same]
  · rw [desk]
    by_cases same : l' = l
    · simp [same, start]
    · simp [same, start, Ne.symm same]

/-- In every run whose handoffs, group moves and cleanup do not overlap, the commands
sent put the entity in one layer at most, so that it is in two only while one of them
is about to despawn it; while the session is live and has been told of all
transitions it is in exactly one, unless one of them led out of this process; and
when the session has cleaned up it is in none. -/
theorem placed_of_inTurn {l : Layer} {labels : List Label}
    (turns : Transition.Admissible (step hosted) InTurn (start l) labels)
    (run : Transition.exec (step hosted) (start l) labels = some t) :
    (∀ l₁ l₂, t.present l₁ = true → t.present l₂ = true → l₁ = l₂) ∧
    (∀ l₁ l₂, t.spawned l₁ = true → t.spawned l₂ = true →
      l₁ = l₂ ∨ .despawn ∈ t.queue l₁ ∨ .despawn ∈ t.queue l₂) ∧
    (t.session = .live → t.Quiet → t.lost = false →
      t.present t.zone = true ∧ ∀ l', t.present l' = true → l' = t.zone) ∧
    (t.session = .gone →
      (∀ l', t.present l' = false) ∧ ∀ l', t.queue l' = [] → t.spawned l' = false) := by
  have inv : Placed hosted t :=
    Transition.exec_invariant (fun _ _ _ inv turn taken => inv.step turn taken)
      (placed_start l) turns run
  have unique : ∀ l₁ l₂, t.present l₁ = true → t.present l₂ = true → l₁ = l₂ := by
    intro l₁ l₂ h₁ h₂
    exact Option.some.inj (((inv.present l₁).mp h₁).symm.trans ((inv.present l₂).mp h₂))
  refine ⟨unique, fun l₁ l₂ h₁ h₂ => ?_, fun live quiet not_lost => ?_, fun gone => ?_⟩
  · by_contra apart
    push Not at apart
    obtain ⟨different, stays₁, stays₂⟩ := apart
    refine different (unique l₁ l₂ ?_ ?_)
    · rw [State.present, h₁]
      exact foldl_after_of_no_despawn stays₁
    · rw [State.present, h₂]
      exact foldl_after_of_no_despawn stays₂
  · obtain ⟨idle, told⟩ := quiet
    have home : t.home = some t.zone := by
      simp [State.home, State.route, SessionPhase.stops, idle, told, not_lost, live]
    have here := (inv.present t.zone).mpr home
    exact ⟨here, fun l' h => unique l' t.zone h here⟩
  · obtain ⟨idle, told⟩ := inv.apart (by rw [gone]; rfl)
    have absent : ∀ l', t.present l' = false := by
      intro l'
      have only := inv.present l'
      simp only [State.home, State.route, idle, told, gone, SessionPhase.stops] at only
      simpa using only
    refine ⟨absent, fun l' drained => ?_⟩
    simpa [State.present, drained] using absent l'

namespace TwoZones

/-- The process runs two zones; a third one is linked. -/
def runsZone (zoneId : String) : Bool := zoneId = "meadow" ∨ zoneId = "forest"

def meadow : Layer := ⟨"meadow", 0⟩
def crowdedMeadow : Layer := ⟨"meadow", 1⟩
def forest : Layer := ⟨"forest", 0⟩

/-- To the forest and back to the meadow, into the group's layer, and away. -/
def roundTrip : List Label :=
  [.cross meadow "forest", .transition 0, .act forest, .transition 0, .act forest, .transition 0,
    .cross forest "meadow", .transition 1, .transition 1, .receive, .act meadow, .act meadow,
    .act meadow, .transition 1, .resume, .receive, .act forest, .resume,
    .groupMove crowdedMeadow, .act meadow, .resume, .resume, .resume, .act crowdedMeadow,
    .resume, .act meadow, .act crowdedMeadow, .resume,
    .disconnect, .act crowdedMeadow, .resume, .resume]

theorem placed_of_inTurn_roundTrip : ∃ t,
    Transition.exec (step runsZone) (start meadow) roundTrip = some t ∧ t.session = .gone ∧
      ∀ l, t.present l = false := by
  have ends : (Transition.exec (step runsZone) (start meadow) roundTrip).any
      (fun t => decide (t.session = .gone)) = true := by decide
  obtain ⟨t, run, gone⟩ := Transition.exec_reaches ends
  have turns : Transition.Admissible (step runsZone) InTurn (start meadow) roundTrip := by decide
  exact ⟨t, run, gone, ((placed_of_inTurn turns run).2.2.2 gone).1⟩

/-- A group move whose two layers answer in the other order; a crossing to a zone that
is not hosted; and a disconnect while a transition runs. -/
theorem duplicated_vanished_left_behind :
    (∃ t, Transition.exec (step runsZone) (start meadow)
        [.groupMove crowdedMeadow, .act meadow, .resume, .resume, .resume,
          .act crowdedMeadow] = some t ∧
      t.spawned meadow = true ∧ t.spawned crowdedMeadow = true) ∧
    (∃ t, Transition.exec (step runsZone) (start meadow)
        [.cross meadow "mountains", .transition 0] = some t ∧
      t.session = .live ∧ t.Quiet ∧ ∀ l, t.queue l = [] ∧ t.spawned l = false) ∧
    (∃ t, Transition.exec (step runsZone) (start meadow)
        [.cross meadow "forest", .disconnect, .act meadow, .resume, .resume, .act meadow,
          .transition 0, .transition 0, .act forest, .act forest, .transition 0] = some t ∧
      t.session = .gone ∧ t.transitions = [] ∧ t.queue meadow = [] ∧ t.queue forest = [] ∧
      t.spawned forest = true) := by
  refine ⟨⟨_, rfl, rfl, rfl⟩, ⟨_, rfl, rfl, ⟨rfl, rfl⟩, fun l => ?_⟩,
    ⟨_, rfl, rfl, rfl, rfl, rfl, rfl⟩⟩
  refine ⟨rfl, ?_⟩
  simp [State.cross, start]

end TwoZones

end WorldZero.Server.Handoff
