import WorldZero.Replica
import WorldZero.Server.ZoneHandoff

/-!
# One entity in one layer

Whoever is told of an entity by the broadcasts of a layer is told by two parties: the layer's
actor, which reports the outcomes of its ticks, and the tasks that bring the entity into the
layer or take it out, each of which sends the actor a command first and announces what it has
done when it goes on. What is known of the entity is right up to what these still owe.
-/

namespace WorldZero.Server.ClientReplica

open Handoff (Waiter)

/-- A section of a task that concerns a layer. -/
inductive Section (P : Type) where
  | spawn (position : P)
  | despawn
  /-- The entity's sender goes into the layer's `Sessions`, or comes out. -/
  | insert
  | remove
  | entitiesSnapshot
  /-- The reply to `EntitiesSnapshot` is awaited. -/
  | snapshotReply
  /-- `EntitySpawned` with a position, `EntityDespawned` without, to all others. -/
  | broadcastExcept (position : Option P)

variable {P : Type}

namespace Section

/-- What is announced by a task whose command has been sent. -/
def owes : List (Section P) → Option (Option P)
  | [] | .spawn _ :: _ | .despawn :: _ => none
  | .broadcastExcept x :: _ => some x
  | _ :: rest => owes rest

/-- What follows each section of `spawn_into_layer`, of the join and of `despawn_from_layer`. -/
def Proper : List (Section P) → Prop
  | [] => True
  | .spawn p :: rest => owes rest = some (some p) ∧ .snapshotReply ∈ rest ∧ Proper rest
  | .despawn :: rest => owes rest = some none ∧ Proper rest
  | .insert :: rest => (∃ p, owes rest = some (some p)) ∧ Proper rest
  | .remove :: rest => owes rest = some none ∧ Proper rest
  | .entitiesSnapshot :: rest => (∃ later, rest = .snapshotReply :: later) ∧ Proper rest
  | .snapshotReply :: rest =>
      (∃ p, owes rest = some (some p)) ∧ .snapshotReply ∉ rest ∧ Proper rest
  | .broadcastExcept _ :: rest => rest = []

end Section

namespace Presence

/-- A command about the entity. -/
inductive Command (P : Type) where
  | spawn (position : P)
  | despawn
  | entitiesSnapshot (waiter : Waiter)

/-- An outcome that others are told of. -/
inductive Outcome (P : Type) where
  | applied (target : P)
  | zoneTransition
  /-- The sender has been removed, `EntityDespawned` is broadcast next. -/
  | removed

def Command.after (x : Option P) : Command P → Option P
  | .spawn p => some p
  | .despawn => none
  | .entitiesSnapshot _ => x

/-- Nobody is told that an entity has left which has no sender. -/
def Outcome.tell (registered : Bool) (x : Option P) : Outcome P → Option P
  | .applied p => x.map fun _ => p
  | .zoneTransition => if registered then none else x
  | .removed => none

end Presence

/-- What a layer has of an entity: its position, the commands about it that are in the queue,
the outcomes of the last tick that have not been reported, whether its sender is in `Sessions`,
and what its tasks have yet to do here. -/
structure Presence (P : Type) where
  world : Option P
  commands : List (Presence.Command P)
  outcomes : List (Presence.Outcome P)
  registered : Bool
  tasks : Waiter → List (Section P)

namespace Presence

open Section

/-- Where the entity is once the commands that have been sent are performed. -/
def eventual (a : Presence P) : Option P := a.commands.foldl Command.after a.world

/-- What is known of the entity once the outcomes are reported. -/
def told (a : Presence P) (x : Option P) : Option P :=
  a.outcomes.foldl (Outcome.tell a.registered) x

/-- No task has to announce what it has done. -/
def Settled (a : Presence P) : Prop := ∀ w, owes (a.tasks w) = none

/-- Who knows `x` of the entity knows where it is, or will be told. -/
def Agrees (a : Presence P) (x : Option P) : Prop := a.Settled → a.told x = a.eventual

@[simps world commands outcomes registered]
def goOn (a : Presence P) (w : Waiter) (rest : List (Section P)) : Presence P :=
  { a with tasks := Function.update a.tasks w rest }

@[simps]
def send (a : Presence P) (command : Command P) : Presence P :=
  { a with commands := a.commands ++ [command] }

/-- What changes, and what it does to what others know of the entity. -/
inductive Step (a : Presence P) : (Option P → Option P) → Presence P → Prop
  | stay : Step a id a
  | launch {w program} (free : a.tasks w = []) (proper : Proper program)
      (first : owes program = none) : Step a id (a.goOn w program)
  | spawn {w p rest} (here : a.tasks w = .spawn p :: rest) (settled : a.Settled)
      (reported : a.outcomes = []) :
      Step a id ((a.send (.spawn p)).goOn w rest)
  | despawn {w rest} (here : a.tasks w = .despawn :: rest) (settled : a.Settled) :
      Step a id ((a.send .despawn).goOn w rest)
  | insert {w rest} (here : a.tasks w = .insert :: rest) :
      Step a id ({ a with registered := true }.goOn w rest)
  | remove {w rest} (here : a.tasks w = .remove :: rest) :
      Step a id ({ a with registered := false }.goOn w rest)
  | ask {w rest} (here : a.tasks w = .entitiesSnapshot :: rest) :
      Step a id ((a.send (.entitiesSnapshot w)).goOn w rest)
  | announce {w x rest} (here : a.tasks w = .broadcastExcept x :: rest) :
      Step a (fun _ => x) (a.goOn w rest)
  | spawned {p rest} (next : a.commands = .spawn p :: rest) :
      Step a id { a with world := some p, commands := rest }
  | despawned {rest} (next : a.commands = .despawn :: rest) :
      Step a id { a with world := none, commands := rest }
  | replied {w rest later} (next : a.commands = .entitiesSnapshot w :: rest)
      (here : a.tasks w = .snapshotReply :: later) :
      Step a id ({ a with commands := rest }.goOn w later)
  | ignored {w rest} (next : a.commands = .entitiesSnapshot w :: rest) :
      Step a id { a with commands := rest }
  | moved {p q} (there : a.world = some q) (announced : ∀ w p, owes (a.tasks w) ≠ some (some p)) :
      Step a id { a with world := some p, outcomes := a.outcomes ++ [.applied p] }
  | crossed {q} (there : a.world = some q) (announced : ∀ w p, owes (a.tasks w) ≠ some (some p))
      (told : a.registered = true ∨ a.eventual = none) :
      Step a id { a with world := none, outcomes := a.outcomes ++ [.zoneTransition] }
  | report {p rest} (next : a.outcomes = .applied p :: rest) :
      Step a (Option.map fun _ => p) { a with outcomes := rest }
  | leave {rest} (next : a.outcomes = .zoneTransition :: rest) (there : a.registered = true) :
      Step a id { a with registered := false, outcomes := .removed :: rest }
  | gone {rest} (next : a.outcomes = .zoneTransition :: rest) (absent : a.registered = false) :
      Step a id { a with outcomes := rest }
  | left {rest} (next : a.outcomes = .removed :: rest) :
      Step a (fun _ => none) { a with outcomes := rest }

/-! ### What tasks have done and have to do -/

structure Sound (a : Presence P) : Prop where
  proper : ∀ w, Proper (a.tasks w)
  single : ∀ w w' x x', owes (a.tasks w) = some x → owes (a.tasks w') = some x' → w = w'
  /-- What is announced is what the command does that has been sent. -/
  value : ∀ w x, owes (a.tasks w) = some x → a.eventual = x
  /-- A spawn is performed before the task has its roster. -/
  spawns : ∀ p, .spawn p ∈ a.commands →
    ∃ w p', .snapshotReply ∈ a.tasks w ∧ owes (a.tasks w) = some (some p')
  asked : ∀ w front back, a.commands = front ++ .entitiesSnapshot w :: back →
    (∃ later, a.tasks w = .snapshotReply :: later) ∧ .entitiesSnapshot w ∉ back ∧
      ∀ p, .spawn p ∉ back
  /-- Before its spawn is announced the entity has no part in a tick. -/
  quiet : ∀ w p, owes (a.tasks w) = some (some p) → a.outcomes = []
  /-- Who has crossed a link is not in the zone, and has no further outcome. -/
  final : ∀ front outcome back, a.outcomes = front ++ outcome :: back →
    (∀ p, outcome ≠ .applied p) → a.world = none ∧ back = []

variable {a b : Presence P} {w : Waiter} {rest : List (Section P)} {f : Option P → Option P}
  {x : Option P}

@[simp] theorem goOn_tasks_self : (a.goOn w rest).tasks w = rest := Function.update_self ..

theorem goOn_tasks_of_ne {w' : Waiter} (other : w' ≠ w) : (a.goOn w rest).tasks w' = a.tasks w' :=
  Function.update_of_ne other ..

theorem foldl_after_cases (commands : List (Command P)) :
    (∀ x, commands.foldl Command.after x = x) ∨ ∃ y, ∀ x, commands.foldl Command.after x = y := by
  induction commands with
  | nil => exact .inl fun _ => rfl
  | cons command commands ih =>
      cases command with
      | spawn p => exact .inr ⟨commands.foldl Command.after (some p), fun _ => rfl⟩
      | despawn => exact .inr ⟨commands.foldl Command.after none, fun _ => rfl⟩
      | entitiesSnapshot w => exact ih

/-- Without a spawn the commands leave the entity alone, or take it out. -/
theorem foldl_after_of_unspawned {commands : List (Command P)}
    (unspawned : ∀ p, .spawn p ∉ commands) :
    (∀ x, commands.foldl Command.after x = x) ∨ ∀ x, commands.foldl Command.after x = none := by
  induction commands with
  | nil => exact .inl fun _ => rfl
  | cons command commands ih =>
      have rest := ih fun p later => unspawned p (List.mem_cons_of_mem _ later)
      cases command with
      | spawn p => exact absurd List.mem_cons_self (unspawned p)
      | despawn => exact .inr fun _ => rest.elim (fun same => same none) fun gone => gone none
      | entitiesSnapshot w => exact rest

@[simp] theorem foldl_tell_none (registered : Bool) (outcomes : List (Outcome P)) :
    outcomes.foldl (Outcome.tell registered) none = none := by
  induction outcomes with
  | nil => rfl
  | cons outcome outcomes ih =>
      have absent : outcome.tell registered none = none := by
        cases outcome <;> cases registered <;> rfl
      rw [List.foldl_cons, absent, ih]

/-- Where an entity has been that will be gone makes no difference. -/
theorem eventual_of_none {q : P} (there : a.world = some q) (gone : a.eventual = none)
    (y : Option P) : a.commands.foldl Command.after y = none := by
  unfold eventual at gone
  obtain same | ⟨z, settled⟩ := foldl_after_cases a.commands
  · rw [same, there] at gone
    cases gone
  · rw [settled] at gone ⊢
    exact gone

/-- The task goes on, with as much to announce as before. -/
theorem Sound.goOn (h : a.Sound) (proper : Proper rest) (same : owes rest = owes (a.tasks w))
    (asks : .snapshotReply ∈ a.tasks w → .snapshotReply ∈ rest)
    (awake : ∀ later, a.tasks w ≠ .snapshotReply :: later) : (a.goOn w rest).Sound := by
  have owed : ∀ w', owes ((a.goOn w rest).tasks w') = owes (a.tasks w') := by
    intro w'
    by_cases own : w' = w
    · rw [own, goOn_tasks_self, same]
    · rw [goOn_tasks_of_ne own]
  constructor
  · intro w'
    by_cases own : w' = w
    · rw [own, goOn_tasks_self]
      exact proper
    · rw [goOn_tasks_of_ne own]
      exact h.proper w'
  · intro w₁ w₂ x x' first second
    rw [owed] at first second
    exact h.single w₁ w₂ x x' first second
  · intro w' x owing
    rw [owed] at owing
    exact h.value w' x owing
  · intro p sent
    obtain ⟨w', p', awaits, owing⟩ := h.spawns p sent
    refine ⟨w', p', ?_, by rwa [owed]⟩
    by_cases own : w' = w
    · rw [own, goOn_tasks_self]
      exact asks (own ▸ awaits)
    · rwa [goOn_tasks_of_ne own]
  · intro w' front back split
    obtain ⟨⟨later, awaits⟩, once, unspawned⟩ := h.asked w' front back split
    have other : w' ≠ w := by
      rintro rfl
      exact awake later awaits
    rw [goOn_tasks_of_ne other]
    exact ⟨⟨later, awaits⟩, once, unspawned⟩
  · intro w' p owing
    rw [owed] at owing
    exact h.quiet w' p owing
  · exact h.final

/-- A settled entity is not brought in: nobody waits for a roster on its behalf. -/
theorem Sound.unasked (h : a.Sound) (settled : a.Settled) (w : Waiter) :
    .entitiesSnapshot w ∉ a.commands := by
  intro asked
  obtain ⟨front, back, split⟩ := List.append_of_mem asked
  obtain ⟨⟨later, awaits⟩, -⟩ := h.asked w front back split
  have proper := h.proper w
  rw [awaits] at proper
  obtain ⟨p, owing⟩ := proper.1
  have silent := settled w
  rw [awaits] at silent
  exact absurd (owing.symm.trans silent) nofun

theorem Sound.unspawned (h : a.Sound) (settled : a.Settled) (p : P) : .spawn p ∉ a.commands := by
  intro sent
  obtain ⟨w, p', -, owing⟩ := h.spawns p sent
  rw [settled w] at owing
  cases owing

/-- A task sends its command, which it will announce. -/
theorem Sound.send {command : Command P} (h : a.Sound) (settled : a.Settled)
    (proper : Proper rest) (owing : owes rest = some x) (does : ∀ y, command.after y = x)
    (asks : (∃ p, x = some p) ∧ .snapshotReply ∈ rest ∨ ∀ p, command ≠ .spawn p)
    (quiet : x = none ∨ a.outcomes = [])
    (moves : ∀ w, command ≠ .entitiesSnapshot w) :
    ((a.send command).goOn w rest).Sound := by
  have alone : ∀ {w' y}, owes ((a.goOn w rest).tasks w') = some y → w' = w ∧ y = x := by
    intro w' y owed
    by_cases own : w' = w
    · rw [own, goOn_tasks_self, owing] at owed
      exact ⟨own, (Option.some.inj owed).symm⟩
    · rw [goOn_tasks_of_ne own, settled w'] at owed
      cases owed
  constructor
  · intro w'
    by_cases own : w' = w
    · rw [own]
      exact (goOn_tasks_self (a := a)).symm ▸ proper
    · exact (goOn_tasks_of_ne (a := a) own).symm ▸ h.proper w'
  · exact fun w₁ w₂ x₁ x₂ first second => (alone first).1.trans (alone second).1.symm
  · intro w' y owed
    rw [(alone owed).2]
    simp [eventual, does]
  · intro p sent
    obtain before | now := List.mem_append.mp sent
    · exact absurd before (h.unspawned settled p)
    · obtain ⟨⟨p', rfl⟩, waits⟩ :=
        asks.resolve_right fun other => other p (List.mem_singleton.mp now).symm
      refine ⟨w, p', ?_, ?_⟩
      · exact (goOn_tasks_self (a := a)).symm ▸ waits
      · exact (goOn_tasks_self (a := a)).symm ▸ owing
  · intro w' front back split
    have split : a.commands ++ [command] = front ++ .entitiesSnapshot w' :: back := split
    have there : .entitiesSnapshot w' ∈ a.commands ++ [command] := by
      rw [split]
      exact List.mem_append_right _ List.mem_cons_self
    obtain before | now := List.mem_append.mp there
    · exact absurd before (h.unasked settled w')
    · exact absurd (List.mem_singleton.mp now).symm (moves w')
  · intro w' p owed
    refine quiet.resolve_left fun nothing => ?_
    exact absurd ((alone owed).2.trans nothing) nofun
  · exact h.final

theorem Sound.ask (h : a.Sound) (here : a.tasks w = .entitiesSnapshot :: rest) :
    ((a.send (.entitiesSnapshot w)).goOn w rest).Sound := by
  have proper := h.proper w
  rw [here] at proper
  obtain ⟨⟨later, awaits⟩, proper⟩ := proper
  have going : (a.goOn w rest).Sound := by
    refine h.goOn proper (by rw [here]; rfl) (fun waits => ?_) fun later' awake => ?_
    · rw [awaits]
      exact List.mem_cons_self
    · rw [here] at awake
      cases awake
  have same : ((a.send (.entitiesSnapshot w)).goOn w rest).eventual = a.eventual := by
    simp [eventual, Command.after]
  refine ⟨going.proper, going.single, ?_, ?_, ?_, going.quiet, h.final⟩
  · intro w' y owed
    rw [same]
    exact going.value w' y owed
  · intro p sent
    obtain before | now := List.mem_append.mp sent
    · exact going.spawns p before
    · cases List.mem_singleton.mp now
  · intro w' front back split
    obtain rfl | ⟨back, last, rfl⟩ := List.eq_nil_or_concat back
    · obtain ⟨-, same⟩ := List.append_inj' split rfl
      cases same
      refine ⟨⟨later, ?_⟩, nofun, nofun⟩
      exact (goOn_tasks_self (a := a)).trans awaits
    · rw [List.concat_eq_append, ← List.cons_append, ← List.append_assoc] at split
      obtain ⟨earlier, same⟩ := List.append_inj' split rfl
      cases same
      obtain ⟨waits, once, unspawned⟩ := h.asked w' front back earlier
      have other : w' ≠ w := by
        rintro rfl
        obtain ⟨later', awake⟩ := waits
        rw [here] at awake
        cases awake
      refine ⟨?_, ?_, ?_⟩
      · exact (goOn_tasks_of_ne (a := a) other).symm ▸ waits
      · simpa [once] using other
      · simpa using unspawned

theorem Sound.announce (h : a.Sound) (here : a.tasks w = .broadcastExcept x :: rest) :
    (a.goOn w rest).Sound := by
  have proper := h.proper w
  rw [here] at proper
  obtain rfl : rest = [] := proper
  have owing : owes (a.tasks w) = some x := by rw [here]; rfl
  have others : ∀ {w' y}, owes ((a.goOn w []).tasks w') = some y →
      owes (a.tasks w') = some y := by
    intro w' y owed
    by_cases own : w' = w
    · rw [own, goOn_tasks_self] at owed
      cases owed
    · rwa [goOn_tasks_of_ne own] at owed
  constructor
  · intro w'
    by_cases own : w' = w
    · rw [own, goOn_tasks_self]
      trivial
    · rw [goOn_tasks_of_ne own]
      exact h.proper w'
  · exact fun w₁ w₂ x₁ x₂ first second => h.single w₁ w₂ x₁ x₂ (others first) (others second)
  · exact fun w' y owed => h.value w' y (others owed)
  · intro p sent
    obtain ⟨w', p', waits, owed⟩ := h.spawns p sent
    obtain rfl := h.single w' w (some p') x owed owing
    rw [here] at waits
    simp at waits
  · intro w' front back split
    obtain ⟨⟨later, awaits⟩, once, unspawned⟩ := h.asked w' front back split
    have other : w' ≠ w := by
      rintro rfl
      rw [here] at awaits
      cases awaits
    rw [goOn_tasks_of_ne other]
    exact ⟨⟨later, awaits⟩, once, unspawned⟩
  · exact fun w' p owed => h.quiet w' p (others owed)
  · exact h.final

/-- The actor performs the next command. -/
theorem Sound.perform {command : Command P} {commands : List (Command P)} (h : a.Sound)
    (next : a.commands = command :: commands) :
    { a with world := command.after a.world, commands }.Sound := by
  have same : { a with world := command.after a.world, commands }.eventual = a.eventual := by
    simp [eventual, next]
  refine ⟨h.proper, h.single, ?_, ?_, ?_, h.quiet, ?_⟩
  · intro w x owing
    rw [same]
    exact h.value w x owing
  · exact fun p sent => h.spawns p (next ▸ List.mem_cons_of_mem _ sent)
  · intro w front back split
    refine h.asked w (command :: front) back ?_
    rw [next, List.cons_append]
    exact congrArg _ split
  · intro front outcome back split leaves
    obtain ⟨gone, last⟩ := h.final front outcome back split leaves
    refine ⟨?_, last⟩
    cases command with
    | spawn p =>
        obtain ⟨w, p', -, owing⟩ := h.spawns p (next ▸ List.mem_cons_self)
        have nothing := h.quiet w p' owing
        simp [nothing] at split
    | despawn => rfl
    | entitiesSnapshot w => exact gone

theorem Sound.reply {commands : List (Command P)} {later : List (Section P)} (h : a.Sound)
    (next : a.commands = .entitiesSnapshot w :: commands)
    (here : a.tasks w = .snapshotReply :: later) :
    ({ a with commands }.goOn w later).Sound := by
  obtain ⟨-, once, unspawned⟩ := h.asked w [] commands next
  have proper := h.proper w
  rw [here] at proper
  obtain ⟨-, -, proper⟩ := proper
  have owed : ∀ w', owes (({ a with commands }.goOn w later).tasks w') = owes (a.tasks w') := by
    intro w'
    by_cases own : w' = w
    · rw [own, goOn_tasks_self, here]
      rfl
    · rw [goOn_tasks_of_ne own]
  have same : ({ a with commands }.goOn w later).eventual = a.eventual := by
    simp [eventual, next, Command.after]
  constructor
  · intro w'
    by_cases own : w' = w
    · rw [own, goOn_tasks_self]
      exact proper
    · rw [goOn_tasks_of_ne own]
      exact h.proper w'
  · intro w₁ w₂ x x' first second
    rw [owed] at first second
    exact h.single w₁ w₂ x x' first second
  · intro w' x owing
    rw [owed] at owing
    rw [same]
    exact h.value w' x owing
  · exact fun p sent => absurd sent (unspawned p)
  · intro w' front back split
    have split' : commands = front ++ .entitiesSnapshot w' :: back := split
    have other : w' ≠ w := by
      rintro rfl
      refine once ?_
      rw [split']
      exact List.mem_append_right _ List.mem_cons_self
    rw [goOn_tasks_of_ne other]
    refine h.asked w' (.entitiesSnapshot w :: front) back ?_
    rw [next, split', List.cons_append]
  · intro w' p owing
    rw [owed] at owing
    exact h.quiet w' p owing
  · exact h.final

/-- A tick changes nothing about what is announced. -/
theorem Sound.tick {q : P} {y : Option P} {outcome : Outcome P} (h : a.Sound)
    (there : a.world = some q) (announced : ∀ w p, owes (a.tasks w) ≠ some (some p))
    (leaves : (∀ p, outcome ≠ .applied p) → y = none) :
    { a with world := y, outcomes := a.outcomes ++ [outcome] }.Sound := by
  refine ⟨h.proper, h.single, ?_, h.spawns, h.asked, ?_, ?_⟩
  · intro w x owing
    cases x with
    | some p => exact absurd owing (announced w p)
    | none => exact eventual_of_none there (h.value w none owing) y
  · exact fun w p owing => absurd owing (announced w p)
  · intro front outcome' back split leaves'
    obtain rfl | ⟨back, last, rfl⟩ := List.eq_nil_or_concat back
    · obtain ⟨-, same⟩ := List.append_inj' split rfl
      cases same
      exact ⟨leaves leaves', rfl⟩
    · rw [List.concat_eq_append, ← List.cons_append, ← List.append_assoc] at split
      obtain ⟨earlier, -⟩ := List.append_inj' split rfl
      have gone := (h.final front outcome' back earlier leaves').1
      cases there.symm.trans gone

theorem Sound.report {outcome : Outcome P} {outcomes outcomes' : List (Outcome P)} (h : a.Sound)
    (next : a.outcomes = outcome :: outcomes) (registered : Bool)
    (later : outcomes' = outcomes ∨
      (∀ p, outcome ≠ .applied p) ∧ ∃ outcome', outcomes' = outcome' :: outcomes) :
    { a with outcomes := outcomes', registered }.Sound := by
  refine ⟨h.proper, h.single, h.value, h.spawns, h.asked, fun w p owing => ?_, ?_⟩
  · have nothing := h.quiet w p owing
    rw [next] at nothing
    cases nothing
  · intro front outcome' back split leaves
    obtain rfl | ⟨leaves', outcome'', rfl⟩ := later
    · refine h.final (outcome :: front) outcome' back ?_ leaves
      rw [next, List.cons_append]
      exact congrArg _ split
    · obtain ⟨gone, rfl⟩ := h.final [] outcome outcomes next leaves'
      refine ⟨gone, ?_⟩
      cases front with
      | nil => exact (List.cons.inj split).2.symm
      | cons _ front => simp at split

theorem Sound.step (h : a.Sound) (taken : Step a f b) : b.Sound := by
  have registering : ∀ registered, { a with registered }.Sound := fun _ =>
    ⟨h.proper, h.single, h.value, h.spawns, h.asked, h.quiet, h.final⟩
  cases taken with
  | stay => exact h
  | launch free proper first =>
      refine h.goOn proper (by rw [first, free]; rfl) (fun waits => ?_) fun later awake => ?_
      · rw [free] at waits
        cases waits
      · rw [free] at awake
        cases awake
  | @spawn w p rest here settled reported =>
      have proper := h.proper w
      rw [here] at proper
      obtain ⟨owing, asks, proper⟩ := proper
      exact h.send settled proper owing (fun _ => rfl) (.inl ⟨⟨p, rfl⟩, asks⟩) (.inr reported) nofun
  | @despawn w rest here settled =>
      have proper := h.proper w
      rw [here] at proper
      obtain ⟨owing, proper⟩ := proper
      exact h.send settled proper owing (fun _ => rfl) (.inr nofun) (.inl rfl) nofun
  | @insert w rest here | @remove w rest here =>
      have proper := h.proper w
      rw [here] at proper
      refine (registering _).goOn proper.2 (by simp only [here]; rfl) (fun waits => ?_) ?_
      · simpa [here] using waits
      · intro later awake
        simp [here] at awake
  | ask here => exact h.ask here
  | announce here => exact h.announce here
  | spawned next | despawned next | ignored next => exact h.perform next
  | replied next here => exact h.reply next here
  | @moved p q there announced =>
      exact h.tick there announced fun leaves => absurd rfl (leaves p)
  | crossed there announced => exact h.tick there announced fun _ => rfl
  | report next | gone next | left next => exact h.report next _ (.inl rfl)
  | leave next => exact h.report next false (.inr ⟨nofun, _, rfl⟩)

/-! ### What others know -/

/-- Whoever agrees, and hears what is broadcast, agrees. -/
theorem Agrees.step (agrees : a.Agrees x) (h : a.Sound) (taken : Step a f b) : b.Agrees (f x) := by
  cases taken with
  | stay => exact agrees
  | @launch w program free proper first =>
      intro settled
      refine agrees fun w' => ?_
      by_cases own : w' = w
      · rw [own, free]
        rfl
      · have silent := settled w'
        rwa [goOn_tasks_of_ne own] at silent
  | @spawn w p rest here | @despawn w rest here | @remove w rest here =>
      have proper := h.proper w
      rw [here] at proper
      intro settled
      have silent := settled w
      rw [goOn_tasks_self, proper.1] at silent
      cases silent
  | @insert w rest here =>
      have proper := h.proper w
      rw [here] at proper
      obtain ⟨⟨p, owing⟩, -⟩ := proper
      intro settled
      have silent := settled w
      rw [goOn_tasks_self, owing] at silent
      cases silent
  | @ask w rest here =>
      have proper := h.proper w
      rw [here] at proper
      obtain ⟨⟨later, rfl⟩, ⟨p, owing⟩, -⟩ := proper
      intro settled
      have silent := settled w
      rw [goOn_tasks_self] at silent
      exact absurd (owing.symm.trans silent) nofun
  | @replied w rest later next here =>
      have proper := h.proper w
      rw [here] at proper
      obtain ⟨⟨p, owing⟩, -⟩ := proper
      intro settled
      have silent := settled w
      rw [goOn_tasks_self, owing] at silent
      cases silent
  | @announce w x' rest here =>
      have owing : owes (a.tasks w) = some x' := by rw [here]; rfl
      intro _
      have value : (a.goOn w rest).eventual = x' := h.value w x' owing
      rw [value]
      cases x' with
      | some p => simp [told, h.quiet w p owing]
      | none => simp [told]
  | spawned next | despawned next | ignored next =>
      intro settled
      refine (agrees settled).trans ?_
      simp [eventual, next, Command.after]
  | @moved p q there announced =>
      intro settled
      have agreed : a.told x = a.eventual := agrees settled
      have told : ({ a with world := some p, outcomes := a.outcomes ++ [.applied p] } :
          Presence P).told x = (a.told x).map fun _ => p := by
        simp [Presence.told, Outcome.tell]
      show _ = a.commands.foldl Command.after (some p)
      rw [id, told, agreed, eventual]
      obtain same | gone := foldl_after_of_unspawned (h.unspawned settled)
      · rw [same, same, there]
        rfl
      · rw [gone, gone]
        rfl
  | @crossed q there announced leaves =>
      intro settled
      have agreed : a.told x = a.eventual := agrees settled
      have told : ({ a with world := none, outcomes := a.outcomes ++ [.zoneTransition] } :
          Presence P).told x = if a.registered then none else a.told x := by
        simp [Presence.told, Outcome.tell]
      have gone : a.commands.foldl Command.after none = none :=
        (foldl_after_of_unspawned (h.unspawned settled)).elim (fun same => same none)
          fun gone => gone none
      show _ = a.commands.foldl Command.after none
      rw [id, told, gone]
      obtain registered | gone := leaves
      · rw [if_pos registered]
      · rw [agreed, gone, ite_self]
  | report next | left next =>
      intro settled
      refine .trans ?_ (agrees settled)
      simp [told, next, Outcome.tell]
  | @leave rest next there =>
      intro settled
      refine .trans ?_ (agrees settled)
      simp [told, next, there, Outcome.tell]
  | @gone rest next absent =>
      intro settled
      refine .trans ?_ (agrees settled)
      simp [told, next, absent, Outcome.tell]

/-! ### Where nothing is under way -/

/-- Nothing is under way: no command, no outcome and no task. -/
structure Still (a : Presence P) : Prop where
  commands : a.commands = []
  outcomes : a.outcomes = []
  tasks : ∀ w, a.tasks w = []

theorem Still.sound (h : a.Still) : a.Sound where
  proper w := by
    rw [h.tasks]
    trivial
  single w w' x x' owing := by
    rw [h.tasks] at owing
    cases owing
  value w x owing := by
    rw [h.tasks] at owing
    cases owing
  spawns p sent := by
    rw [h.commands] at sent
    cases sent
  asked w front back split := by simp [h.commands] at split
  quiet _ _ _ := h.outcomes
  final front outcome back split := by simp [h.outcomes] at split

/-- What is known is right, then, if it is what the layer has. -/
theorem Still.agrees_iff (h : a.Still) : a.Agrees x ↔ x = a.world := by
  have settled : a.Settled := fun w => by
    rw [h.tasks]
    rfl
  unfold Agrees told eventual
  rw [h.commands, h.outcomes]
  exact forall_prop_of_true settled

end Presence

end WorldZero.Server.ClientReplica
