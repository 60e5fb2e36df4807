import WorldZero.Server.ClientReplica

/-!
# A step is about one entity

Each step acts for one entity: it is a step of that entity's presence in each layer, and what
it broadcasts is about that entity. So whoever agrees with a layer about all others, and hears
what is broadcast there, agrees with it after the step.
-/

namespace WorldZero.Server.ClientReplica

open Handoff (Layer Waiter get)
open Replica (Update replay)
open Section (owes)

variable {P : Type} {d : Deployment P} {s t : State P} {l l' : Layer} {e e' x : EntityId}
  {w : Waiter} {rest : List (Action P)} {sec : Section P}

/-! ### Projections -/

namespace WorldCommand

def entity : WorldCommand P → EntityId
  | .spawn e _ | .despawn e | .entitiesSnapshot e _ => e

theorem about_of_ne {command : WorldCommand P} (other : e ≠ command.entity) :
    command.about e = none := by
  cases command <;> exact if_neg other.symm

@[simp] theorem about_spawn {position : P} :
    (WorldCommand.spawn e position).about e = some (.spawn position) := if_pos rfl

@[simp] theorem about_despawn : (WorldCommand.despawn e : WorldCommand P).about e = some .despawn :=
  if_pos rfl

@[simp] theorem about_entitiesSnapshot :
    (WorldCommand.entitiesSnapshot e w : WorldCommand P).about e = some (.entitiesSnapshot w) :=
  if_pos rfl

end WorldCommand

namespace State

theorem tasks_presence_self (here : s.tasks e w = .inLayer l sec :: rest) :
    (s.presence l e).tasks w = sec :: rest.filterMap (Action.at l) := by
  simp [presence, here, Action.at]

theorem tasks_presence_of_ne (here : s.tasks e w = .inLayer l sec :: rest) (other : l' ≠ l) :
    (s.presence l' e).tasks w = rest.filterMap (Action.at l') := by
  simp [presence, here, Action.at, other.symm]

theorem commands_presence {command : WorldCommand P} {commands : List (WorldCommand P)}
    {c : Presence.Command P} (next : s.commands l = command :: commands)
    (own : command.about e = some c) :
    (s.presence l e).commands = c :: commands.filterMap (WorldCommand.about e) := by
  simp [presence, next, own]

theorem outcomes_presence {outcome : MovementOutcome P} {o : Presence.Outcome P}
    {outcomes : List (EntityId × MovementOutcome P)} (clear : s.removed l = none)
    (next : s.outcomes l = (e, outcome) :: outcomes)
    (own : MovementOutcome.about e (e, outcome) = some o) :
    (s.presence l e).outcomes = o :: outcomes.filterMap (MovementOutcome.about e) := by
  simp [presence, clear, next, own]

theorem outcomes_presence_removed {targetZone : String}
    (departing : s.removed l = some (e, targetZone)) :
    (s.presence l e).outcomes = .removed :: (s.outcomes l).filterMap (MovementOutcome.about e) := by
  simp [presence, departing, removedAbout]

theorem presence_goOn_self :
    (s.goOn e w rest).presence l e = (s.presence l e).goOn w (rest.filterMap (Action.at l)) := by
  simp only [presence, goOn, Presence.goOn, Presence.mk.injEq, true_and]
  funext w'
  by_cases own : w' = w
  · subst own
    simp
  · simp [own]

theorem presence_goOn_of_ne (other : e' ≠ e) :
    (s.goOn e w rest).presence l e' = s.presence l e' := by
  simp [presence, goOn, other]

/-- A section of another layer is none here. -/
theorem goOn_eq_self {a : Presence P} {program : List (Section P)} (same : a.tasks w = program) :
    a.goOn w program = a := by
  simp [Presence.goOn, ← same]

theorem presence_send_self {command : WorldCommand P} {c : Presence.Command P}
    (own : command.about e = some c) :
    (s.send l command).presence l e = (s.presence l e).send c := by
  simp [presence, send, Presence.send, own]

theorem presence_send_of_none {command : WorldCommand P} (other : command.about e = none) :
    (s.send l command).presence l' e = s.presence l' e := by
  by_cases same : l' = l
  · subst same
    simp [presence, send, other]
  · simp [presence, send, same]

theorem presence_send_of_ne {command : WorldCommand P} (other : l' ≠ l) :
    (s.send l command).presence l' e = s.presence l' e := by
  simp [presence, send, other]

theorem presence_register_self {inserted : Bool} :
    (s.register l e inserted).presence l e =
      { s.presence l e with registered := inserted } := by
  simp [presence, register]

theorem presence_register_of_ne {inserted : Bool} (other : l' ≠ l ∨ e' ≠ e) :
    (s.register l e inserted).presence l' e' = s.presence l' e' := by
  by_cases same : l' = l
  · subst same
    simp [presence, register, other.resolve_left (· rfl)]
  · simp [presence, register, same]

end State

@[simp] theorem filterMap_about_rejected {outcomes : List (EntityId × MovementOutcome P)} :
    ((e', .rejected) :: outcomes).filterMap (MovementOutcome.about e) =
      outcomes.filterMap (MovementOutcome.about e) := rfl

/-! ### Steps act for one entity -/

/-- What the session of another entity is sent. -/
def delivered (s : State P) (said : Option (Layer × Update EntityId P)) (x : EntityId) :
    List (Update EntityId P) :=
  match said with
  | some (l, u) => if s.sessions l x = true then [u] else []
  | none => []

/-- Nothing changes for others than `e`, except for what they are told of it. -/
structure Acts (e : EntityId) (said : Option (Layer × Update EntityId P)) (s t : State P) :
    Prop where
  presence : ∀ l x, x ≠ e → t.presence l x = s.presence l x := by intros; rfl
  kind : ∀ x, x ≠ e → t.kind x = s.kind x := by intros; rfl
  tasks : ∀ x, x ≠ e → t.tasks x = s.tasks x := by intros; rfl
  roster : ∀ x, x ≠ e → t.roster x = s.roster x := by intros; rfl
  zone : ∀ x, x ≠ e → t.zone x = s.zone x := by intros; rfl
  received : ∀ x, x ≠ e → t.received x = s.received x := by intros; rfl
  outgoing : ∀ x, x ≠ e → t.outgoing x = s.outgoing x ++ (delivered s said x).map .update := by
    intros; exact (List.append_nil _).symm
  removed : ∀ l x targetZone, x ≠ e →
    (t.removed l = some (x, targetZone) ↔ s.removed l = some (x, targetZone)) := by
    intros; exact Iff.rfl
  outcomes : ∀ l x outcome, x ≠ e → (x, outcome) ∈ t.outcomes l → (x, outcome) ∈ s.outcomes l := by
    intros; assumption

variable {said : Option (Layer × Update EntityId P)} {u : State P}

namespace Acts

theorem sessions (h : Acts e said s t) (other : x ≠ e) (l : Layer) :
    t.sessions l x = s.sessions l x :=
  congrArg Presence.registered (h.presence l x other)

theorem trans (first : Acts e none s t) (second : Acts e said t u) : Acts e said s u where
  presence l x other := (second.presence l x other).trans (first.presence l x other)
  kind x other := (second.kind x other).trans (first.kind x other)
  tasks x other := (second.tasks x other).trans (first.tasks x other)
  roster x other := (second.roster x other).trans (first.roster x other)
  zone x other := (second.zone x other).trans (first.zone x other)
  received x other := (second.received x other).trans (first.received x other)
  outgoing x other := by
    have same : delivered t said x = delivered s said x := by
      unfold delivered
      split
      · rw [first.sessions other]
      · rfl
    rw [second.outgoing x other, first.outgoing x other, same]
    simp [delivered]
  removed l x targetZone other :=
    (second.removed l x targetZone other).trans (first.removed l x targetZone other)
  outcomes l x outcome other there :=
    first.outcomes l x outcome other (second.outcomes l x outcome other there)

/-- Only the presence, the tasks and what is known of the session itself may change. -/
theorem of_same (presence : ∀ l x, x ≠ e → t.presence l x = s.presence l x)
    (tasks : ∀ x, x ≠ e → t.tasks x = s.tasks x) (kind : ∀ x, x ≠ e → t.kind x = s.kind x)
    (roster : ∀ x, x ≠ e → t.roster x = s.roster x) (zone : ∀ x, x ≠ e → t.zone x = s.zone x)
    (received : ∀ x, x ≠ e → t.received x = s.received x) (outgoing : t.outgoing = s.outgoing)
    (removed : t.removed = s.removed) (outcomes : t.outcomes = s.outcomes) : Acts e none s t where
  presence := presence
  kind := kind
  tasks := tasks
  roster := roster
  zone := zone
  received := received
  outgoing _ _ := by
    rw [outgoing]
    exact (List.append_nil _).symm
  removed _ _ _ _ := by rw [removed]
  outcomes _ _ _ _ there := outcomes ▸ there

/-- Only the presence may change. -/
theorem of_presence (presence : ∀ l x, x ≠ e → t.presence l x = s.presence l x)
    (tasks : t.tasks = s.tasks) (kind : t.kind = s.kind) (roster : t.roster = s.roster)
    (zone : t.zone = s.zone) (received : t.received = s.received)
    (outgoing : t.outgoing = s.outgoing) (removed : t.removed = s.removed)
    (outcomes : t.outcomes = s.outcomes) : Acts e none s t :=
  of_same presence (fun _ _ => by rw [tasks]) (fun _ _ => by rw [kind])
    (fun _ _ => by rw [roster]) (fun _ _ => by rw [zone]) (fun _ _ => by rw [received]) outgoing
    removed outcomes

theorem goOn : Acts e none s (s.goOn e w rest) :=
  of_same (fun _ _ other => State.presence_goOn_of_ne other)
    (fun _ other => Function.update_of_ne other ..) (fun _ _ => rfl) (fun _ _ => rfl)
    (fun _ _ => rfl) (fun _ _ => rfl) rfl rfl rfl

theorem send {command : WorldCommand P} (own : command.entity = e) :
    Acts e none s (s.send l command) :=
  of_presence
    (fun _ _ other => State.presence_send_of_none (WorldCommand.about_of_ne (own ▸ other)))
    rfl rfl rfl rfl rfl rfl rfl rfl

theorem send_goOn {command : WorldCommand P} (own : command.entity = e) :
    Acts e none s ((s.send l command).goOn e w rest) := (send own).trans goOn

theorem register {inserted : Bool} : Acts e none s (s.register l e inserted) :=
  of_presence (fun _ _ other => State.presence_register_of_ne (.inr other))
    rfl rfl rfl rfl rfl rfl rfl rfl

/-- Nothing but what is sent to sessions. -/
theorem of_outgoing (presence : ∀ l x, t.presence l x = s.presence l x)
    (tasks : t.tasks = s.tasks) (kind : t.kind = s.kind) (roster : t.roster = s.roster)
    (zone : t.zone = s.zone) (received : t.received = s.received)
    (outgoing : ∀ x, x ≠ e → t.outgoing x = s.outgoing x ++ (delivered s said x).map .update)
    (removed : t.removed = s.removed) (outcomes : t.outcomes = s.outcomes) : Acts e said s t where
  presence l x _ := presence l x
  kind _ _ := by rw [kind]
  tasks _ _ := by rw [tasks]
  roster _ _ := by rw [roster]
  zone _ _ := by rw [zone]
  received _ _ := by rw [received]
  outgoing := outgoing
  removed _ _ _ _ := by rw [removed]
  outcomes _ _ _ _ there := outcomes ▸ there

theorem queue {message : ServerMessage P} : Acts e none s (s.queue e message) := by
  refine of_outgoing (fun _ _ => rfl) rfl rfl rfl rfl rfl (fun x other => ?_) rfl rfl
  simp [delivered, other]

theorem broadcast {update : Update EntityId P} {except : Option EntityId}
    (own : except = none ∨ except = some e) :
    Acts e (some (l, update)) s (s.broadcast l except update) := by
  refine of_outgoing (fun _ _ => rfl) rfl rfl rfl rfl rfl (fun x other => ?_) rfl rfl
  have included : except ≠ some x := by
    rintro rfl
    obtain nobody | same := own
    · cases nobody
    · exact other (Option.some.inj same)
  simp only [State.broadcast_outgoing, delivered, included, ne_eq, not_false_eq_true, and_true]
  split <;> simp

theorem world (position : Option P) :
    Acts e none s { s with
      world := Function.update s.world l (Function.update (s.world l) e position) } := by
  refine of_presence (fun l' x other => ?_) rfl rfl rfl rfl rfl rfl rfl rfl
  by_cases same : l' = l
  · subst same
    simp [State.presence, other]
  · simp [State.presence, same]

/-- The actor takes a command from its queue. -/
theorem take {command : WorldCommand P} {commands : List (WorldCommand P)}
    (next : s.commands l = command :: commands) (own : command.entity = e) :
    Acts e none s { s with commands := Function.update s.commands l commands } := by
  refine of_presence (fun l' x other => ?_) rfl rfl rfl rfl rfl rfl rfl rfl
  by_cases same : l' = l
  · subst same
    simp [State.presence, next, WorldCommand.about_of_ne (own ▸ other)]
  · simp [State.presence, same]

theorem zoneUpdate (l : Option Layer) :
    Acts e none s { s with zone := Function.update s.zone e l } :=
  of_same (fun _ _ _ => rfl) (fun _ _ => rfl) (fun _ _ => rfl) (fun _ _ => rfl)
    (fun _ other => Function.update_of_ne other ..) (fun _ _ => rfl) rfl rfl rfl

/-- Nothing but what the zone has for `handle_tick_outcomes`. -/
theorem of_outcomes (presence : ∀ l x, x ≠ e → t.presence l x = s.presence l x)
    (tasks : t.tasks = s.tasks) (kind : t.kind = s.kind) (roster : t.roster = s.roster)
    (zone : t.zone = s.zone) (received : t.received = s.received)
    (outgoing : t.outgoing = s.outgoing)
    (removed : ∀ l x targetZone, x ≠ e →
      (t.removed l = some (x, targetZone) ↔ s.removed l = some (x, targetZone)))
    (outcomes : ∀ l x outcome, x ≠ e → (x, outcome) ∈ t.outcomes l →
      (x, outcome) ∈ s.outcomes l) : Acts e none s t where
  presence := presence
  kind _ _ := by rw [kind]
  tasks _ _ := by rw [tasks]
  roster _ _ := by rw [roster]
  zone _ _ := by rw [zone]
  received _ _ := by rw [received]
  outgoing _ _ := by
    rw [outgoing]
    exact (List.append_nil _).symm
  removed := removed
  outcomes := outcomes

/-- The zone has an outcome for the entity. -/
theorem collect (outcome : MovementOutcome P) :
    Acts e none s { s with
      outcomes := Function.update s.outcomes l (s.outcomes l ++ [(e, outcome)]) } := by
  refine of_outcomes (fun l' x other => ?_) rfl rfl rfl rfl rfl rfl (fun _ _ _ _ => Iff.rfl)
    fun l' x outcome' other there => ?_
  · by_cases same : l' = l
    · subst same
      cases outcome <;> simp [State.presence, MovementOutcome.about, other.symm]
    · simp [State.presence, same]
  · by_cases same : l' = l
    · subst same
      simpa [other] using there
    · simpa [same] using there

/-- `handle_tick_outcomes` comes to the next outcome. -/
theorem drop {outcome : MovementOutcome P} {outcomes : List (EntityId × MovementOutcome P)}
    (next : s.outcomes l = (e, outcome) :: outcomes) :
    Acts e none s { s with outcomes := Function.update s.outcomes l outcomes } := by
  refine of_outcomes (fun l' x other => ?_) rfl rfl rfl rfl rfl rfl (fun _ _ _ _ => Iff.rfl)
    fun l' x outcome' other there => ?_
  · by_cases same : l' = l
    · subst same
      cases outcome <;> simp [State.presence, MovementOutcome.about, other.symm, next]
    · simp [State.presence, same]
  · by_cases same : l' = l
    · subst same
      rw [next]
      exact List.mem_cons_of_mem _ (by simpa using there)
    · simpa [same] using there

/-- The sender is out of the map, or that has been announced. -/
theorem remove {departing : Option (EntityId × String)}
    (before : ∀ x targetZone, s.removed l = some (x, targetZone) → x = e)
    (after : ∀ x targetZone, departing = some (x, targetZone) → x = e) :
    Acts e none s { s with removed := Function.update s.removed l departing } := by
  refine of_outcomes (fun l' x other => ?_) rfl rfl rfl rfl rfl rfl
    (fun l' x targetZone other => ?_) fun _ _ _ _ there => there
  · by_cases same : l' = l
    · subst same
      have none_before : ((s.removed l').toList.filterMap (removedAbout x) :
          List (Presence.Outcome P)) = [] := by
        cases there : s.removed l' with
        | none => rfl
        | some r =>
            obtain rfl := before r.1 r.2 there
            simp [removedAbout, other.symm]
      have none_after : (departing.toList.filterMap (removedAbout x) :
          List (Presence.Outcome P)) = [] := by
        cases there : departing with
        | none => rfl
        | some r =>
            obtain rfl := after r.1 r.2 there
            simp [removedAbout, other.symm]
      simp [State.presence, none_before, none_after]
    · simp [State.presence, same]
  · by_cases same : l' = l
    · subst same
      simp only [Function.update_self]
      exact ⟨fun there => absurd (after x targetZone there) other,
        fun there => absurd (before x targetZone there) other⟩
    · simp only [ne_eq, same, not_false_eq_true, Function.update_of_ne]

end Acts

/-- What is known of an entity after what has been said in the layer. -/
def hear (said : Option (Layer × Update EntityId P)) (l : Layer) (e : EntityId) (x : Option P) :
    Option P :=
  match said with
  | some (l', u) => if l' = l then u.cell e x else x
  | none => x

theorem hear_self {update : Update EntityId P} :
    hear (some (l, update)) l e = fun x => update.cell e x := by
  funext x
  exact if_pos rfl

theorem hear_of_ne {update : Update EntityId P} (other : l' ≠ l) :
    hear (some (l, update)) l' e = id := by
  funext x
  exact if_neg other.symm

/-- A step for one entity, which is a step of its presence in each layer. -/
structure ActsFor (e : EntityId) (said : Option (Layer × Update EntityId P)) (s t : State P) :
    Prop extends Acts e said s t where
  own : ∀ l, Presence.Step (s.presence l e) (hear said l e) (t.presence l e)
  about : ∀ l u, said = some (l, u) → u.entity = e ∧ s.Foretold l u

theorem Acts.actsFor (h : Acts e none s t)
    (own : ∀ l, Presence.Step (s.presence l e) id (t.presence l e)) : ActsFor e none s t :=
  ⟨h, own, nofun⟩

theorem presence_goOn_of_layer (here : s.tasks e w = .inLayer l sec :: rest) (other : l' ≠ l)
    (same : u.presence l' e = s.presence l' e) :
    (u.goOn e w rest).presence l' e = s.presence l' e := by
  rw [State.presence_goOn_self, same]
  exact State.goOn_eq_self (State.tasks_presence_of_ne here other)

/-- Sections that concern no layer. -/
theorem own_of_filterMap_eq (same : (s.tasks e w).filterMap (Action.at l) =
      rest.filterMap (Action.at l)) (there : u.presence l e = s.presence l e) :
    Presence.Step (s.presence l e) id ((u.goOn e w rest).presence l e) := by
  rw [State.presence_goOn_self, there, State.goOn_eq_self same]
  exact .stay

/-! ### Programs -/

section Programs

variable {rest : List (Action P)}

@[simp] theorem filterMap_at_joined :
    (.joined l' :: rest).filterMap (Action.at l) = rest.filterMap (Action.at l) := rfl

@[simp] theorem filterMap_at_zoneChanged :
    (.zoneChanged l' :: rest).filterMap (Action.at l) = rest.filterMap (Action.at l) := rfl

@[simp] theorem filterMap_at_sinkZoneChanged :
    (.sinkZoneChanged l' :: rest).filterMap (Action.at l) = rest.filterMap (Action.at l) := rfl

@[simp] theorem filterMap_at_self :
    (.inLayer l sec :: rest).filterMap (Action.at l) = sec :: rest.filterMap (Action.at l) := by
  simp [Action.at]

theorem filterMap_at_of_ne (other : l' ≠ l) :
    (.inLayer l' sec :: rest).filterMap (Action.at l) = rest.filterMap (Action.at l) := by
  simp [Action.at, other]

end Programs

theorem proper_handleSession {position : P} (l' : Layer) :
    Section.Proper ((handleSession l position).filterMap (Action.at l')) ∧
      owes ((handleSession l position).filterMap (Action.at l')) = none := by
  by_cases same : l = l'
  · simp [handleSession, same, Section.Proper, owes]
  · simp [handleSession, filterMap_at_of_ne same, Section.Proper, owes]

theorem proper_completeZoneTransition (d : Deployment P) (sourceZoneId targetZoneId : String)
    (l : Layer) :
    Section.Proper ((completeZoneTransition d sourceZoneId targetZoneId).filterMap (Action.at l)) ∧
      owes ((completeZoneTransition d sourceZoneId targetZoneId).filterMap (Action.at l)) =
        none := by
  unfold completeZoneTransition
  split
  · exact ⟨trivial, rfl⟩
  next target _ =>
    by_cases same : target = l
    · simp [spawnIntoLayer, same, Section.Proper, owes]
    · simp [spawnIntoLayer, filterMap_at_of_ne same, Section.Proper, owes]

theorem proper_cleanup (l' : Layer) :
    Section.Proper ((cleanup l : List (Action P)).filterMap (Action.at l')) ∧
      owes ((cleanup l : List (Action P)).filterMap (Action.at l')) = none := by
  by_cases same : l = l'
  · simp [cleanup, despawnFromLayer, same, Section.Proper, owes]
  · simp [cleanup, despawnFromLayer, filterMap_at_of_ne same, Section.Proper, owes]

theorem proper_performGroupLayerMove {target : Layer} {position : P} (apart : target ≠ l)
    (l' : Layer) :
    Section.Proper ((performGroupLayerMove l target position).filterMap (Action.at l')) ∧
      owes ((performGroupLayerMove l target position).filterMap (Action.at l')) = none := by
  by_cases source : l = l'
  · have other : target ≠ l' := source ▸ apart
    simp [performGroupLayerMove, despawnFromLayer, spawnIntoLayer, source,
      filterMap_at_of_ne other, Section.Proper, owes]
  · by_cases same : target = l'
    · simp [performGroupLayerMove, despawnFromLayer, spawnIntoLayer, filterMap_at_of_ne source,
        same, Section.Proper, owes]
    · simp [performGroupLayerMove, despawnFromLayer, spawnIntoLayer, filterMap_at_of_ne source,
        filterMap_at_of_ne same, Section.Proper, owes]

/-- A task begins that has its first section before it. -/
theorem own_launch {program : List (Action P)} (free : (s.tasks e w).filterMap (Action.at l) = [])
    (proper : Section.Proper (program.filterMap (Action.at l)) ∧
      owes (program.filterMap (Action.at l)) = none) (there : u.presence l e = s.presence l e) :
    Presence.Step (s.presence l e) id ((u.goOn e w program).presence l e) := by
  rw [State.presence_goOn_self, there]
  exact .launch free proper.1 proper.2

/-! ### Steps -/

theorem actsFor_resume (inTurn : s.ResumesInTurn e w) (taken : s.resume d e w = some t) :
    ∃ said, ActsFor e said s t := by
  unfold State.resume at taken
  unfold State.ResumesInTurn at inTurn
  cases here : s.tasks e w with
  | nil => simp [here] at taken
  | cons action rest =>
  rw [here] at taken inTurn
  cases action with
  | resolve sourceZoneId targetZoneId =>
      cases rest with
      | cons _ _ => simp at taken
      | nil =>
          cases taken
          refine ⟨none, Acts.goOn, fun l => ?_, nofun⟩
          exact own_launch (by rw [here]; rfl)
            (proper_completeZoneTransition d sourceZoneId targetZoneId l) rfl
  | joined l | zoneChanged l =>
      cases taken
      refine ⟨none, Acts.queue.trans Acts.goOn, fun l' => ?_, nofun⟩
      exact own_of_filterMap_eq (by rw [here]; rfl) rfl
  | sinkZoneChanged target =>
      cases taken
      refine ⟨none, ?_, fun l' => own_of_filterMap_eq (by rw [here]; rfl) rfl, nofun⟩
      refine Acts.trans (t := { s with
        received := Function.update s.received e
          (s.received e ++ [ServerMessage.zoneChanged target.zoneId (s.roster e w)])
        zone := Function.update s.zone e (some target) }) ?_ Acts.goOn
      exact Acts.of_same (fun _ _ _ => rfl) (fun _ _ => rfl) (fun _ _ => rfl) (fun _ _ => rfl)
        (fun _ other => Function.update_of_ne other ..)
        (fun _ other => Function.update_of_ne other ..) rfl rfl rfl
  | inLayer l sec =>
  have self : ∀ {u : State P}, (u.goOn e w rest).presence l e =
      (u.presence l e).goOn w (rest.filterMap (Action.at l)) := State.presence_goOn_self
  have task := State.tasks_presence_self here
  cases sec with
  | snapshotReply => simp at taken
  | spawn position =>
      cases taken
      refine ⟨none, Acts.send_goOn rfl, fun l' => ?_, nofun⟩
      by_cases same : l' = l
      · subst same
        rw [self, State.presence_send_self WorldCommand.about_spawn]
        exact .spawn task inTurn.1 inTurn.2
      · rw [presence_goOn_of_layer here same (State.presence_send_of_ne same)]
        exact .stay
  | despawn =>
      cases taken
      refine ⟨none, Acts.send_goOn rfl, fun l' => ?_, nofun⟩
      by_cases same : l' = l
      · subst same
        rw [self, State.presence_send_self WorldCommand.about_despawn]
        exact .despawn task inTurn
      · rw [presence_goOn_of_layer here same (State.presence_send_of_ne same)]
        exact .stay
  | entitiesSnapshot =>
      cases taken
      refine ⟨none, Acts.send_goOn rfl, fun l' => ?_, nofun⟩
      by_cases same : l' = l
      · subst same
        rw [self, State.presence_send_self WorldCommand.about_entitiesSnapshot]
        exact .ask task
      · rw [presence_goOn_of_layer here same (State.presence_send_of_ne same)]
        exact .stay
  | insert =>
      cases taken
      refine ⟨none, Acts.register.trans Acts.goOn, fun l' => ?_, nofun⟩
      by_cases same : l' = l
      · subst same
        rw [self, State.presence_register_self]
        exact .insert task
      · rw [presence_goOn_of_layer here same (State.presence_register_of_ne (.inl same))]
        exact .stay
  | remove =>
      cases taken
      refine ⟨none, Acts.register.trans Acts.goOn, fun l' => ?_, nofun⟩
      by_cases same : l' = l
      · subst same
        rw [self, State.presence_register_self]
        exact .remove task
      · rw [presence_goOn_of_layer here same (State.presence_register_of_ne (.inl same))]
        exact .stay
  | broadcastExcept position =>
      cases taken
      refine ⟨some (l, .announce e position), ?_, fun l' => ?_, ?_⟩
      · exact (Acts.goOn (s := s)).trans (Acts.broadcast (.inr rfl))
      · by_cases same : l' = l
        · subst same
          rw [self, hear_self]
          simp only [Update.cell_announce]
          exact .announce task
        · rw [hear_of_ne same, presence_goOn_of_layer here same]
          · exact .stay
          · rfl
      · rintro l' u said
        cases said
        exact ⟨Update.entity_announce e position, inTurn⟩

theorem actsFor_move {outcome : MovementOutcome P} (inTurn : s.MovesInTurn d.hosted l (e, outcome))
    (taken : s.move l (e, outcome) = some t) : ActsFor e none s t := by
  unfold State.move at taken
  cases there : s.world l e with
  | none => simp [there] at taken
  | some q =>
  simp only [there, Option.isNone_some, Bool.false_eq_true, if_false] at taken
  have others : ∀ {u : State P} {l'}, l' ≠ l → u.presence l' e = s.presence l' e →
      Presence.Step (s.presence l' e) id (u.presence l' e) := by
    intro u l' _ same
    rw [same]
    exact .stay
  cases outcome with
  | rejected =>
      cases taken
      refine (Acts.collect .rejected).actsFor fun l' => ?_
      by_cases same : l' = l
      · subst same
        simpa [State.presence, MovementOutcome.about] using Presence.Step.stay
      · exact others same (by simp [State.presence, same])
  | applied target =>
      cases taken
      refine ((Acts.collect (.applied target)).trans (Acts.world (some target))).actsFor
        fun l' => ?_
      by_cases same : l' = l
      · subst same
        have moved := Presence.Step.moved (a := s.presence l' e) (p := target) there inTurn
        simpa [State.presence, MovementOutcome.about] using moved
      · exact others same (by simp [State.presence, same])
  | zoneTransition targetZone =>
      by_cases player : s.kind e = some .player
      · simp only [player, if_true, Option.some.injEq] at taken
        subst taken
        refine ((Acts.collect (.zoneTransition targetZone)).trans (Acts.world none)).actsFor
          fun l' => ?_
        by_cases same : l' = l
        · subst same
          have crossed := Presence.Step.crossed (a := s.presence l' e) there inTurn.1
            (inTurn.2.1.imp id fun doomed => doomed _)
          simpa [State.presence, MovementOutcome.about] using crossed
        · exact others same (by simp [State.presence, same])
      · simp [player] at taken

/-- What `handle_tick_outcomes` does next, and what it says. -/
inductive Reports (s : State P) (l : Layer) (e : EntityId) :
    Option (Layer × Update EntityId P) → State P → Prop
  | departed {targetZone : String} (departing : s.removed l = some (e, targetZone)) :
      Reports s l e (some (l, .despawned e)) (({ s with
        removed := Function.update s.removed l none
        launched := s.launched + 1 }.goOn e (.transition s.launched)
          [.resolve l.zoneId targetZone]).broadcast l (some e) (.despawned e))
  | applied {target : P} {rest : List (EntityId × MovementOutcome P)}
      (clear : s.removed l = none) (next : s.outcomes l = (e, .applied target) :: rest) :
      Reports s l e (some (l, .moved e target))
        ({ s with outcomes := Function.update s.outcomes l rest }.broadcast l none
          (.moved e target))
  | rejected {rest : List (EntityId × MovementOutcome P)}
      (clear : s.removed l = none) (next : s.outcomes l = (e, .rejected) :: rest) :
      Reports s l e none { s with outcomes := Function.update s.outcomes l rest }
  | left {targetZone : String} {rest : List (EntityId × MovementOutcome P)}
      (clear : s.removed l = none)
      (next : s.outcomes l = (e, .zoneTransition targetZone) :: rest)
      (there : s.sessions l e = true) :
      Reports s l e none { { s with
        outcomes := Function.update s.outcomes l rest }.register l e false with
        removed := Function.update s.removed l (some (e, targetZone)) }
  | gone {targetZone : String} {rest : List (EntityId × MovementOutcome P)}
      (clear : s.removed l = none)
      (next : s.outcomes l = (e, .zoneTransition targetZone) :: rest)
      (absent : s.sessions l e = false) :
      Reports s l e none { s with outcomes := Function.update s.outcomes l rest }

theorem reports_of_handleTickOutcomes (taken : s.handleTickOutcomes l = some t) :
    ∃ e said, Reports s l e said t := by
  unfold State.handleTickOutcomes at taken
  cases departing : s.removed l with
  | some r =>
      simp only [departing] at taken
      cases taken
      exact ⟨_, _, .departed departing⟩
  | none =>
      cases next : s.outcomes l with
      | nil => simp [departing, next] at taken
      | cons o rest =>
          obtain ⟨e, outcome⟩ := o
          simp only [departing, next] at taken
          cases outcome with
          | applied target =>
              cases taken
              exact ⟨e, _, .applied departing next⟩
          | rejected =>
              cases taken
              exact ⟨e, _, .rejected departing next⟩
          | zoneTransition targetZone =>
              cases there : s.sessions l e with
              | true =>
                  simp only [there, if_true, Option.some.injEq] at taken
                  subst taken
                  exact ⟨e, _, .left departing next there⟩
              | false =>
                  simp only [there, if_false, Option.some.injEq, Bool.false_eq_true] at taken
                  subst taken
                  exact ⟨e, _, .gone departing next there⟩

/-- What is reported in one layer is nothing to the others. -/
theorem own_of_presence_eq (other : l' ≠ l) {update : Update EntityId P}
    (same : t.presence l' e = s.presence l' e) :
    Presence.Step (s.presence l' e) (hear (some (l, update)) l' e) (t.presence l' e) := by
  rw [hear_of_ne other, same]
  exact .stay

theorem actsFor_report (inTurn : s.ReportsInTurn l) (reports : Reports s l e said t)
    (free : s.tasks e (.transition s.launched) = []) : ActsFor e said s t := by
  unfold State.ReportsInTurn at inTurn
  cases reports with
  | @departed targetZone departing =>
      rw [departing] at inTurn
      have still : ∀ l', (({ s with removed := Function.update s.removed l none, launched :=
          s.launched + 1 } : State P).goOn e (.transition s.launched)
          [.resolve l.zoneId targetZone]).presence l' e =
          ({ s with removed := Function.update s.removed l none } : State P).presence l' e := by
        intro l'
        rw [State.presence_goOn_self]
        refine State.goOn_eq_self ?_
        show (s.tasks e (.transition s.launched)).filterMap (Action.at l') = _
        rw [free]
        rfl
      refine ⟨?_, fun l' => ?_, ?_⟩
      · have removing : Acts e none s { s with removed := Function.update s.removed l none } := by
          refine Acts.remove (fun x z there => ?_) nofun
          cases departing.symm.trans there
          rfl
        have launching : Acts e none { s with removed := Function.update s.removed l none } { s with
            removed := Function.update s.removed l none, launched := s.launched + 1 } :=
          Acts.of_presence (fun _ _ _ => rfl) rfl rfl rfl rfl rfl rfl rfl rfl
        exact (removing.trans (launching.trans Acts.goOn)).trans (Acts.broadcast (.inr rfl))
      · by_cases same : l' = l
        · subst same
          rw [hear_self]
          have left := Presence.Step.left (State.outcomes_presence_removed departing)
          refine (still l').symm ▸ ?_
          simpa [State.presence] using left
        · exact own_of_presence_eq same ((still l').trans (by simp [State.presence, same]))
      · rintro l' u said
        cases said
        exact ⟨rfl, inTurn⟩
  | @applied target rest clear next =>
      rw [clear, next] at inTurn
      refine ⟨?_, fun l' => ?_, ?_⟩
      · exact (Acts.drop next).trans (Acts.broadcast (.inl rfl))
      · by_cases same : l' = l
        · subst same
          rw [hear_self]
          have report := Presence.Step.report (State.outcomes_presence clear next (if_pos rfl))
          simpa [State.presence, clear, State.broadcast] using report
        · exact own_of_presence_eq same (by simp [State.presence, same, State.broadcast])
      · rintro l' u said
        cases said
        exact ⟨rfl, inTurn⟩
  | @rejected rest clear next =>
      refine (Acts.drop next).actsFor fun l' => ?_
      by_cases same : l' = l
      · subst same
        simpa [State.presence, clear, next] using Presence.Step.stay
      · simpa [State.presence, same] using Presence.Step.stay
  | @left targetZone rest clear next there =>
      refine Acts.actsFor ?_ fun l' => ?_
      · refine (Acts.drop next).trans (Acts.register.trans (Acts.remove ?_ ?_))
        · intro x z departing
          cases clear.symm.trans departing
        · rintro x z departing
          cases departing
          rfl
      · by_cases same : l' = l
        · subst same
          have leave :=
            Presence.Step.leave (State.outcomes_presence clear next (if_pos rfl)) there
          simpa [State.presence, clear, removedAbout] using leave
        · simpa [State.presence, same] using Presence.Step.stay
  | @gone targetZone rest clear next absent =>
      refine (Acts.drop next).actsFor fun l' => ?_
      by_cases same : l' = l
      · subst same
        have gone := Presence.Step.gone (State.outcomes_presence clear next (if_pos rfl)) absent
        simpa [State.presence, clear] using gone
      · simpa [State.presence, same] using Presence.Step.stay

theorem perform_of_waiting (here : s.tasks e w = .inLayer l .snapshotReply :: rest) :
    s.perform l (.entitiesSnapshot e w) =
      { s.goOn e w rest with
        roster := Function.update s.roster e (Function.update (s.roster e) w fun other =>
          if other = e then none else s.world l other) } := by
  simp [State.perform, here]

theorem perform_of_not_waiting (absent : ∀ rest, s.tasks e w ≠ .inLayer l .snapshotReply :: rest) :
    s.perform l (.entitiesSnapshot e w) = s := by
  simp only [State.perform]
  split
  next l' rest here =>
    refine if_neg ?_
    rintro rfl
    exact absent rest here
  · rfl

/-- The actor performs the next command. -/
theorem actsFor_perform {command : WorldCommand P} {commands : List (WorldCommand P)}
    (next : s.commands l = command :: commands) (own : command.entity = e) :
    ActsFor e none s
      ({ s with commands := Function.update s.commands l commands }.perform l command) := by
  have taking := Acts.take next own
  have others : ∀ {u : State P} {l'}, u.presence l' e =
      ({ s with commands := Function.update s.commands l commands } : State P).presence l' e →
      l' ≠ l → Presence.Step (s.presence l' e) id (u.presence l' e) := by
    intro u l' same other
    rw [same]
    simpa [State.presence, other] using Presence.Step.stay
  cases command with
  | spawn e' position =>
      obtain rfl : e' = e := own
      refine (taking.trans (Acts.world (some position))).actsFor fun l' => ?_
      by_cases same : l' = l
      · subst same
        have spawned := Presence.Step.spawned
          (State.commands_presence next (WorldCommand.about_spawn (e := e')))
        simpa [State.presence, State.perform] using spawned
      · exact others (by simp [State.presence, same]) same
  | despawn e' =>
      obtain rfl : e' = e := own
      refine (taking.trans (Acts.world none)).actsFor fun l' => ?_
      by_cases same : l' = l
      · subst same
        have despawned := Presence.Step.despawned
          (State.commands_presence next (WorldCommand.about_despawn (e := e')))
        simpa [State.presence, State.perform] using despawned
      · exact others (by simp [State.presence, same]) same
  | entitiesSnapshot e' w =>
      obtain rfl : e' = e := own
      by_cases waits : ∃ rest, s.tasks e' w = .inLayer l .snapshotReply :: rest
      · obtain ⟨rest, here⟩ := waits
        rw [perform_of_waiting (s := { s with commands := Function.update s.commands l commands })
          here]
        have replying : ∀ (u : State P) roster, Acts e' none u { u with
            roster := Function.update u.roster e' roster } := fun _ _ =>
          Acts.of_same (fun _ _ _ => rfl) (fun _ _ => rfl) (fun _ _ => rfl)
            (fun _ other => Function.update_of_ne other ..) (fun _ _ => rfl) (fun _ _ => rfl)
            rfl rfl rfl
        refine (taking.trans (Acts.goOn.trans (replying _ _))).actsFor fun l' => ?_
        by_cases same : l' = l
        · subst same
          have replied := Presence.Step.replied
            (State.commands_presence next WorldCommand.about_entitiesSnapshot)
            (State.tasks_presence_self here)
          have taken : ({ s with commands := Function.update s.commands l' commands } :
              State P).presence l' e' = { s.presence l' e' with
                commands := commands.filterMap (WorldCommand.about e') } := by
            simp [State.presence]
          have after : ∀ u : State P, u.presence l' e' = { s.presence l' e' with
              commands := commands.filterMap (WorldCommand.about e') } →
              Presence.Step (s.presence l' e') id ((u.goOn e' w rest).presence l' e') := by
            intro u same
            rw [State.presence_goOn_self, same]
            exact replied
          exact after _ taken
        · have elsewhere : ({ s with commands := Function.update s.commands l commands } :
              State P).presence l' e' = s.presence l' e' := by
            simp [State.presence, same]
          have after : ∀ u : State P, u.presence l' e' = s.presence l' e' →
              Presence.Step (s.presence l' e') id ((u.goOn e' w rest).presence l' e') := by
            intro u there
            rw [presence_goOn_of_layer here same there]
            exact .stay
          exact after _ elsewhere
      · rw [perform_of_not_waiting (s := { s with
          commands := Function.update s.commands l commands }) fun rest here => waits ⟨rest, here⟩]
        refine taking.actsFor fun l' => ?_
        by_cases same : l' = l
        · subst same
          have ignored := Presence.Step.ignored
            (State.commands_presence next (WorldCommand.about_entitiesSnapshot (e := e')))
          simpa [State.presence] using ignored
        · exact others rfl same

theorem actsFor_join {position : P} (free : s.tasks e .session = []) :
    ActsFor e none s ({ s with
      kind := Function.update s.kind e (some .player)
      zone := Function.update s.zone e (some l) }.goOn e .session (handleSession l position)) := by
  have entering : Acts e none s { s with
      kind := Function.update s.kind e (some .player)
      zone := Function.update s.zone e (some l) } :=
    Acts.of_same (fun _ _ _ => rfl) (fun _ _ => rfl) (fun _ other => Function.update_of_ne other ..)
      (fun _ _ => rfl) (fun _ other => Function.update_of_ne other ..) (fun _ _ => rfl) rfl rfl rfl
  refine (entering.trans Acts.goOn).actsFor fun l' => ?_
  exact own_launch (by rw [free]; rfl) (proper_handleSession l') rfl

theorem actsFor_groupMove {target : Layer} {position : P} (free : s.tasks e .session = [])
    (apart : target ≠ l) :
    ActsFor e none s (s.goOn e .session (performGroupLayerMove l target position)) := by
  refine Acts.goOn.actsFor fun l' => ?_
  exact own_launch (by rw [free]; rfl) (proper_performGroupLayerMove apart l') rfl

theorem actsFor_disconnect (free : s.tasks e .session = []) :
    ActsFor e none s ({ s with zone := Function.update s.zone e none }.goOn e .session
      (cleanup l)) := by
  refine ((Acts.zoneUpdate none).trans Acts.goOn).actsFor fun l' => ?_
  exact own_launch (by rw [free]; rfl) (proper_cleanup l') rfl

theorem actsFor_lost (ends : ∀ l, (s.tasks e .session).filterMap (Action.at l) = []) :
    ActsFor e none s ({ s with zone := Function.update s.zone e none }.goOn e .session []) := by
  refine ((Acts.zoneUpdate none).trans Acts.goOn).actsFor fun l' => ?_
  exact own_of_filterMap_eq (ends l') rfl

theorem actsFor_forward {hosted : String → Bool} (taken : s.forward hosted e = some t) :
    ActsFor e none s t := by
  unfold State.forward at taken
  cases queued : s.outgoing e with
  | nil => simp [queued] at taken
  | cons message rest =>
      rw [queued] at taken
      cases taken
      refine Acts.actsFor ?_ fun l' => .stay
      exact {
        presence := fun _ _ _ => rfl
        kind := fun _ _ => rfl
        tasks := fun _ _ => rfl
        roster := fun _ _ => rfl
        zone := fun x other => by
          cases message with
          | zoneChanged zoneId roster =>
              dsimp only
              cases get hosted zoneId with
              | none => rfl
              | some newZone => exact Function.update_of_ne other ..
          | _ => rfl
        received := fun _ other => Function.update_of_ne other ..
        outgoing := fun x other => by simp [delivered, other]
        removed := fun _ _ _ _ => Iff.rfl
        outcomes := fun _ _ _ _ there => there }

end WorldZero.Server.ClientReplica
