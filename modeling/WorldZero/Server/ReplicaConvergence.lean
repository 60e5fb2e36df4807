import WorldZero.Server.ReplicaStages
import WorldZero.Transition

/-!
# Whether clients are shown what there is

The steps that lose no update keep each connected session at one of its stages, and each
layer's account of each entity in order. What a step does, it does for one entity; the others
hear of it.
-/

namespace WorldZero.Server.ClientReplica

open Handoff (Layer Waiter get)
open Replica (Update replay)

variable {P : Type} {d : Deployment P} {hosted : String → Bool} {s t : State P} {l l' : Layer}
  {e e' x : EntityId} {w : Waiter} {rest program : List (Action P)} {v : Roster P}
  {said : Option (Layer × Update EntityId P)}

/-! ### The invariant -/

/-- Nothing has been heard of the entity yet. -/
structure State.Unknown (s : State P) (e : EntityId) : Prop where
  presence : ∀ l, s.presence l e = ⟨none, [], [], false, fun _ => []⟩
  outcomes : ∀ l outcome, (e, outcome) ∉ s.outcomes l
  free : s.AtRest e
  zone : s.zone e = none
  outgoing : s.outgoing e = []

theorem State.Unknown.unremoved (unknown : s.Unknown e) (l : Layer) (z : String) :
    s.removed l ≠ some (e, z) := by
  intro departing
  have unreported := congrArg Presence.outcomes (unknown.presence l)
  simp [State.presence, departing, removedAbout] at unreported

structure Invariant (d : Deployment P) (s : State P) : Prop where
  sound : ∀ l e, (s.presence l e).Sound
  unknown : ∀ e, s.kind e = none → s.Unknown e
  unlaunched : ∀ e n, s.launched ≤ n → s.tasks e (.transition n) = []
  /-- Who has left is not sent on. -/
  ended : ∀ x, s.zone x = none → ∀ w l, .sinkZoneChanged l ∉ s.tasks x w
  standing : ∀ x, (s.zone x).isSome → Standing d.hosted s x

/-- A step for the entity that leaves the entity itself as it should be. -/
structure Advances (d : Deployment P) (e : EntityId) (said : Option (Layer × Update EntityId P))
    (s t : State P) : Prop extends ActsFor e said s t where
  kind_ne : t.kind e ≠ none
  launched : s.launched ≤ t.launched
  unlaunched : ∀ n, t.launched ≤ n → t.tasks e (.transition n) = []
  ended : t.zone e = none → ∀ w l, .sinkZoneChanged l ∉ t.tasks e w
  standing : (t.zone e).isSome → Standing d.hosted t e

theorem Invariant.advance (h : Invariant d s) (a : Advances d e said s t) : Invariant d t where
  sound l x := by
    by_cases own : x = e
    · subst own
      exact (h.sound l x).step (a.own l)
    · rw [a.presence l x own]
      exact h.sound l x
  unknown x none := by
    have other : x ≠ e := fun own => a.kind_ne (own ▸ none)
    have before := h.unknown x ((a.kind x other).symm.trans none)
    refine ⟨fun l => (a.presence l x other).trans (before.presence l), fun l outcome there =>
      before.outcomes l outcome (a.outcomes l x outcome other there), fun w => ?_,
      (a.zone x other).trans before.zone, ?_⟩
    · rw [a.tasks x other]
      exact before.free w
    · have nothing : delivered s said x = [] := by
        match said with
        | .none => rfl
        | some (l, u) =>
            have away : s.sessions l x = false := congrArg Presence.registered (before.presence l)
            exact if_neg (by simp [away])
      rw [a.outgoing x other, before.outgoing, nothing]
      rfl
  unlaunched x n after := by
    by_cases own : x = e
    · subst own
      exact a.unlaunched n after
    · rw [a.tasks x own]
      exact h.unlaunched x n (a.launched.trans after)
  ended x none := by
    by_cases own : x = e
    · subst own
      exact a.ended none
    · rw [a.tasks x own]
      exact h.ended x ((a.zone x own).symm.trans none)
  standing x alive := by
    by_cases own : x = e
    · subst own
      exact a.standing alive
    · rw [a.zone x own] at alive
      exact (h.standing x alive).hears (a.hears (h.sound · e) own) alive

/-- A task that goes on leaves the rest of its entity alone. -/
structure Resumed (e : EntityId) (w : Waiter) (s t : State P) : Prop where
  kind : t.kind = s.kind
  launched : t.launched = s.launched
  removed : t.removed = s.removed
  outcomes : t.outcomes = s.outcomes
  begun : s.tasks e w ≠ []
  tasks : ∀ w', w' ≠ w → t.tasks e w' = s.tasks e w'
  sink : ∀ l, .sinkZoneChanged l ∈ t.tasks e w → .sinkZoneChanged l ∈ s.tasks e w
  zone : t.zone e = s.zone e ∨ (t.zone e).isSome ∧ ∃ l, .sinkZoneChanged l ∈ s.tasks e w

theorem resumed_of_resume (taken : s.resume d e w = some t) : Resumed e w s t := by
  unfold State.resume at taken
  cases here : s.tasks e w with
  | nil => simp [here] at taken
  | cons action rest =>
  rw [here] at taken
  have goes : ∀ {u : State P} {rest'}, u.tasks = s.tasks →
      ∀ w', w' ≠ w → (u.goOn e w rest').tasks e w' = s.tasks e w' := by
    intro u rest' same w' other
    simp [other, same]
  cases action with
  | resolve sourceZoneId targetZoneId =>
      cases rest with
      | cons _ _ => simp at taken
      | nil =>
          cases taken
          have lands : ∀ l, .sinkZoneChanged l ∉
              completeZoneTransition d sourceZoneId targetZoneId := by
            intro l
            unfold completeZoneTransition
            split
            · exact List.not_mem_nil
            · simp [spawnIntoLayer]
          exact ⟨rfl, rfl, rfl, rfl, by simp [here], goes rfl,
            fun l there => absurd (by simpa using there) (lands l), .inl rfl⟩
  | joined l | zoneChanged l =>
      cases taken
      exact ⟨rfl, rfl, rfl, rfl, by simp [here], goes rfl, by simp [here], .inl rfl⟩
  | sinkZoneChanged target =>
      cases taken
      exact ⟨rfl, rfl, rfl, rfl, by simp [here], goes rfl, fun l => by simp +contextual [here],
        .inr ⟨by simp, target, by simp [here]⟩⟩
  | inLayer l sec =>
  cases sec with
  | snapshotReply => simp at taken
  | _ =>
      cases taken
      exact ⟨rfl, rfl, rfl, rfl, by simp [here], goes rfl, by simp [here], .inl rfl⟩

theorem State.Proceeds.standing (h : t.Proceeds hosted x w)
    (unremoved : ∀ l z, t.removed l ≠ some (x, z))
    (uncrossed : ∀ l z, (x, .zoneTransition z) ∉ t.outcomes l) : Standing hosted t x := by
  obtain ⟨rest, under, ⟨begun, stage⟩ | ⟨rfl, l, entered, shown⟩⟩ := h
  · exact .busy under begun unremoved uncrossed stage
  · have free : t.AtRest x := fun w' => (under.cases w').elim id id
    exact .idle free entered unremoved (fun l z there => absurd there (uncrossed l z)) shown

/-- A session of which a task is under way is at one of its stages. -/
theorem Standing.stage (h : Standing hosted s x) (begun : s.tasks x w ≠ []) :
    s.Only x w (s.tasks x w) ∧ (∀ l z, s.removed l ≠ some (x, z)) ∧
      (∀ l z, (x, .zoneTransition z) ∉ s.outcomes l) ∧ Stage hosted s x w (s.tasks x w) := by
  cases h with
  | idle free | departing free => exact absurd (free w) begun
  | @busy w' program under _ unremoved uncrossed stage =>
      obtain rfl : w = w' := by
        by_contra other
        exact begun (under.2 w other)
      obtain rfl := under.1
      exact ⟨under, unremoved, uncrossed, stage⟩

theorem Invariant.kind_ne (h : Invariant d s) (heard : ¬ s.Unknown e) : s.kind e ≠ none :=
  fun none => heard (h.unknown e none)

theorem Invariant.resume (h : Invariant d s) (inTurn : s.ResumesInTurn e w)
    (taken : s.resume d e w = some t) : Invariant d t := by
  obtain ⟨said, acts⟩ := actsFor_resume inTurn taken
  have task := resumed_of_resume taken
  refine h.advance { acts with
    kind_ne := ?_
    launched := task.launched.ge
    unlaunched := fun n after => ?_
    ended := fun none w' l there => ?_
    standing := fun alive => ?_ }
  · rw [task.kind]
    exact h.kind_ne fun unknown => task.begun (unknown.free w)
  · have before := h.unlaunched e n (task.launched ▸ after)
    rw [task.tasks _ fun own => task.begun (own ▸ before)]
    exact before
  · obtain same | ⟨woken, -⟩ := task.zone
    · have before := h.ended e (same ▸ none)
      by_cases own : w' = w
      · subst own
        exact before w' l (task.sink l there)
      · exact before w' l (task.tasks w' own ▸ there)
    · simp [none] at woken
  · have before : (s.zone e).isSome := by
      obtain same | ⟨-, l, there⟩ := task.zone
      · exact same ▸ alive
      · exact Option.isSome_iff_ne_none.mpr fun none => h.ended e none w l there
    obtain ⟨under, unremoved, uncrossed, stage⟩ := (h.standing e before).stage task.begun
    exact (stage.resume under acts.toActs taken).standing
      (task.removed ▸ unremoved) (task.outcomes ▸ uncrossed)

/-! ### What the actor does -/

/-- A step that is the entity's own and changes nothing for its session. -/
theorem ActsFor.hears_self (h : ActsFor x said s t)
    (crossing : ∀ l z, (x, .zoneTransition z) ∈ t.outcomes l →
      (x, .zoneTransition z) ∈ s.outcomes l)
    (outgoing : t.outgoing x = s.outgoing x ++ (delivered s said x).map .update)
    (tasks : t.tasks x = s.tasks x := by rfl) (roster : t.roster x = s.roster x := by rfl)
    (zone : t.zone x = s.zone x := by rfl) (received : t.received x = s.received x := by rfl)
    (sessions : ∀ l, t.sessions l x = s.sessions l x := by intros; rfl)
    (removed : ∀ l z, t.removed l = some (x, z) ↔ s.removed l = some (x, z) := by
      intros; exact Iff.rfl) : Hears x said s t := by
  have sees : ∀ {l v}, s.Sees x l v → t.Sees x l fun e => hear said l e (v e) := by
    intro l v sees e other
    show (t.presence l e).Agrees (hear said l e (v e))
    rw [h.hear_others other]
    exact h.toActs.sees sees e other
  exact {
    tasks, roster, zone, received, sessions, outgoing, removed, crossing
    sees := fun _ _ _ => sees
    held := fun _ _ _ _ => h.toActs.sees }

/-- The entity's tasks and its session are left alone. -/
theorem Invariant.advance_of_hears (h : Invariant d s) (acts : ActsFor e said s t)
    (kind : s.kind e ≠ none) (same : t.kind e = s.kind e) (launched : t.launched = s.launched)
    (heard : Hears e said s t) : Invariant d t := by
  refine h.advance { acts with
    kind_ne := same ▸ kind
    launched := launched.ge
    unlaunched := fun n after => ?_
    ended := fun none w l => ?_
    standing := fun alive => (h.standing e (heard.zone ▸ alive)).hears heard (heard.zone ▸ alive) }
  · rw [heard.tasks]
    exact h.unlaunched e n (launched ▸ after)
  · rw [heard.tasks]
    exact h.ended e (heard.zone ▸ none) w l

theorem Invariant.perform {command : WorldCommand P} {commands : List (WorldCommand P)}
    (h : Invariant d s) (next : s.commands l = command :: commands) (idle : s.idle l)
    (inTurn : s.PerformsInTurn l) :
    Invariant d
      ({ s with commands := Function.update s.commands l commands }.perform l command) := by
  obtain ⟨e, own⟩ : ∃ e, command.entity = e := ⟨_, rfl⟩
  have acts := actsFor_perform next own
  have kind : s.kind e ≠ none := by
    refine h.kind_ne fun unknown => ?_
    have unasked := congrArg Presence.commands (unknown.presence l)
    cases command <;> cases own <;> simp [State.presence, next, WorldCommand.entity] at unasked
  cases command with
  | spawn e' position | despawn e' =>
      exact h.advance_of_hears acts kind rfl rfl
          (acts.hears_self (fun _ _ => id) (List.append_nil _).symm)
  | entitiesSnapshot e' w =>
      obtain rfl : e' = e := own
      by_cases waits : ∃ rest, s.tasks e' w = .inLayer l .snapshotReply :: rest
      · obtain ⟨rest, here⟩ := waits
        have begun : s.tasks e' w ≠ [] := by simp [here]
        rw [perform_of_waiting (s := { s with commands := Function.update s.commands l commands })
          here] at acts ⊢
        simp only [State.PerformsInTurn, next] at inTurn
        refine h.advance { acts with
          kind_ne := kind
          launched := le_rfl
          unlaunched := fun n after => ?_
          ended := fun none w' l' there => ?_
          standing := fun alive => ?_ }
        · have before := h.unlaunched e' n after
          have other : .transition n ≠ w := fun own => begun (own ▸ before)
          simpa [other] using before
        · have before := h.ended e' none w' l'
          by_cases own : w' = w
          · subst own
            refine before ?_
            rw [here]
            exact List.mem_cons_of_mem _ (by simpa using there)
          · exact before (by simpa [own] using there)
        · obtain ⟨under, unremoved, uncrossed, stage⟩ := (h.standing e' alive).stage begun
          obtain ⟨goes, stage⟩ := stage.reply under inTurn alive idle here acts.toActs rfl rfl rfl
            (by simp)
          exact .busy (under.goOn rfl) goes unremoved uncrossed stage
      · rw [perform_of_not_waiting (s := { s with
          commands := Function.update s.commands l commands }) fun rest here => waits ⟨rest, here⟩]
          at acts ⊢
        exact h.advance_of_hears acts kind rfl rfl
          (acts.hears_self (fun _ _ => id) (List.append_nil _).symm)

theorem Invariant.move {outcome : EntityId × MovementOutcome P} (h : Invariant d s)
    (inTurn : s.MovesInTurn d.hosted l outcome) (taken : s.move l outcome = some t) :
    Invariant d t := by
  obtain ⟨e, outcome⟩ := outcome
  have acts := actsFor_move inTurn taken
  unfold State.move at taken
  cases there : s.world l e with
  | none => simp [there] at taken
  | some q =>
  simp only [there, Option.isNone_some, Bool.false_eq_true, if_false] at taken
  have kind : s.kind e ≠ none := by
    refine h.kind_ne fun unknown => ?_
    have absent : s.world l e = none := congrArg Presence.world (unknown.presence l)
    cases there.symm.trans absent
  cases outcome with
  | rejected | applied target =>
      cases taken
      refine h.advance_of_hears acts kind rfl rfl (acts.hears_self ?_ (List.append_nil _).symm)
      intro l' z crossed
      by_cases same : l' = l
      · subst same
        simpa using crossed
      · simpa [same] using crossed
  | zoneTransition targetZone =>
      by_cases player : s.kind e = some .player
      · simp only [player, if_true, Option.some.injEq] at taken
        subst taken
        refine h.advance { acts with
          kind_ne := kind
          launched := le_rfl
          unlaunched := h.unlaunched e
          ended := h.ended e
          standing := fun alive => ?_ }
        obtain ⟨inserted, free, runs⟩ := inTurn.2.2 alive
        cases h.standing e alive with
        | departing _ outside => simp [outside l] at inserted
        | busy under begun => exact absurd (under.1 ▸ free _) begun
        | @idle l₀ _ entered unremoved crossing shown =>
            obtain rfl : l = l₀ := (entered l).mp inserted
            refine .idle free entered unremoved (fun l' z crossed => ?_) ?_
            · by_cases same : l' = l
              · subst same
                simp only [Function.update_self, List.mem_append, List.mem_singleton] at crossed
                obtain before | now := crossed
                · exact crossing l' z before
                · cases now
                  exact ⟨rfl, runs⟩
              · exact crossing l' z (by simpa [same] using crossed)
            · obtain ⟨home, v, known, sees⟩ := shown
              exact ⟨home, v, known, acts.toActs.sees sees⟩
      · simp [player] at taken

/-- A move leaves tasks and commands alone. -/
theorem movesInTurn_move {outcome outcome' : EntityId × MovementOutcome P}
    (taken : s.move l outcome = some t) (inTurn : s.MovesInTurn hosted l outcome') :
    t.MovesInTurn hosted l outcome' := by
  obtain ⟨e, outcome⟩ := outcome
  unfold State.move at taken
  cases there : s.world l e with
  | none => simp [there] at taken
  | some q =>
  simp only [there, Option.isNone_some, Bool.false_eq_true, if_false] at taken
  cases outcome with
  | rejected | applied target =>
      cases taken
      obtain ⟨e', _ | _ | _⟩ := outcome' <;> exact inTurn
  | zoneTransition targetZone =>
      by_cases player : s.kind e = some .player
      · simp only [player, if_true, Option.some.injEq] at taken
        subst taken
        obtain ⟨e', _ | _ | _⟩ := outcome' <;> exact inTurn
      · simp [player] at taken

theorem Invariant.moves {outcomes : List (EntityId × MovementOutcome P)} (h : Invariant d s)
    (inTurn : ∀ outcome ∈ outcomes, s.MovesInTurn d.hosted l outcome)
    (taken : State.moves l outcomes s = some t) : Invariant d t := by
  induction outcomes generalizing s with
  | nil =>
      cases taken
      exact h
  | cons outcome outcomes ih =>
      obtain ⟨u, moved, rest⟩ := Option.bind_eq_some_iff.mp taken
      obtain ⟨first, others⟩ := List.forall_mem_cons.mp inTurn
      exact ih (h.move first moved)
        (fun outcome' later => movesInTurn_move moved (others outcome' later)) rest

/-- What is left of the tick is what others have done who are in it. -/
theorem crossing_drop {outcome : MovementOutcome P} {outcomes : List (EntityId × MovementOutcome P)}
    (next : s.outcomes l = (e, outcome) :: outcomes) (l' : Layer) (z : String)
    (there : (x, .zoneTransition z) ∈ Function.update s.outcomes l outcomes l') :
    (x, .zoneTransition z) ∈ s.outcomes l' := by
  by_cases same : l' = l
  · subst same
    rw [next]
    exact List.mem_cons_of_mem _ (by simpa using there)
  · simpa [same] using there

theorem Invariant.report (h : Invariant d s) (inTurn : s.ReportsInTurn l)
    (reports : Reports s l e said t) : Invariant d t := by
  have acts := actsFor_report inTurn reports (h.unlaunched e _ le_rfl)
  have kind : s.kind e ≠ none := by
    refine h.kind_ne fun unknown => ?_
    cases reports with
    | departed departing => exact unknown.unremoved l _ departing
    | applied _ next | rejected _ next | left _ next | gone _ next =>
        exact unknown.outcomes l _ (next ▸ List.mem_cons_self)
  cases reports with
  | @departed targetZone departing =>
      refine h.advance { acts with
        kind_ne := kind
        launched := Nat.le_succ _
        unlaunched := fun n after => ?_
        ended := fun none w l' there => ?_
        standing := fun alive => ?_ }
      · have other : n ≠ s.launched := (Nat.lt_of_succ_le after).ne'
        simpa [other] using h.unlaunched e n (Nat.le_of_succ_le after)
      · have before := h.ended e none w l'
        by_cases own : w = .transition s.launched
        · simp [own] at there
        · exact before (by simpa [own] using there)
      · cases h.standing e alive with
        | idle _ _ unremoved | busy _ _ unremoved => exact absurd departing (unremoved l targetZone)
        | @departing l₀ z free outside runs here only uncrossed =>
            obtain rfl : l = l₀ := only l targetZone departing
            cases here.symm.trans departing
            have under : s.Only e (.transition s.launched) [] := ⟨free _, fun w _ => free w⟩
            refine .busy (under.goOn rfl) (by rintro ⟨⟩) (fun l' z' there => ?_) uncrossed
              (.resolving runs outside)
            by_cases same : l' = l
            · simp [same] at there
            · exact same (only l' z' (by simpa [same] using there))
  | @applied target rest clear next =>
      refine h.advance_of_hears acts kind rfl rfl (acts.hears_self (crossing_drop next) ?_)
      simp only [State.broadcast_outgoing, delivered]
      split <;> simp_all
  | rejected clear next | gone clear next =>
      exact h.advance_of_hears acts kind rfl rfl
        (acts.hears_self (crossing_drop next) (List.append_nil _).symm)
  | @left targetZone rest clear next there =>
      have crossed : (e, .zoneTransition targetZone) ∈ s.outcomes l := next ▸ List.mem_cons_self
      have last : ∀ z, (e, .zoneTransition z) ∉ rest := by
        intro z later
        have here := State.outcomes_presence clear next (if_pos rfl)
        obtain ⟨-, nothing⟩ := (h.sound l e).final [] _ _ here (by rintro _ ⟨⟩)
        have silent := List.filterMap_eq_nil_iff.mp nothing _ later
        simp [MovementOutcome.about] at silent
      refine h.advance { acts with
        kind_ne := kind
        launched := le_rfl
        unlaunched := h.unlaunched e
        ended := h.ended e
        standing := fun alive => ?_ }
      cases h.standing e alive with
      | departing _ _ _ _ _ uncrossed | busy _ _ _ uncrossed =>
          exact absurd crossed (uncrossed l targetZone)
      | @idle l₀ free entered unremoved crossing shown =>
          obtain ⟨rfl, runs⟩ := crossing l targetZone crossed
          refine .departing free ?_ runs (Function.update_self ..) (fun l' z' there => ?_)
            fun l' z' there => ?_
          · exact entered.remove
          · by_contra same
            exact unremoved l' z' (by simpa [same] using there)
          · by_cases same : l' = l
            · subst same
              exact last z' (by simpa using there)
            · exact same (crossing l' z' (by simpa [same] using there)).1

/-! ### How sessions begin and end -/

theorem Invariant.join {position : P} (h : Invariant d s) (unheard : s.kind e = none) :
    Invariant d ({ s with
      kind := Function.update s.kind e (some .player)
      zone := Function.update s.zone e (some l) }.goOn e .session (handleSession l position)) := by
  have unknown := h.unknown e unheard
  refine h.advance { actsFor_join (unknown.free .session) with
    kind_ne := by simp
    launched := le_rfl
    unlaunched := fun n _ => by simp [unknown.free (.transition n)]
    ended := fun nowhere => by simp at nowhere
    standing := fun _ => ?_ }
  have under : s.Only e .session [] := ⟨unknown.free _, fun w _ => unknown.free w⟩
  have outside : s.Outside e := fun l' => congrArg Presence.registered (unknown.presence l')
  have home : ({ s with
      kind := Function.update s.kind e (some .player)
      zone := Function.update s.zone e (some l) } : State P).station d.hosted e = some l := by
    simp [State.station, unknown.outgoing]
  exact .busy (under.goOn rfl) (by rintro ⟨⟩) unknown.unremoved
    (fun l' _ => unknown.outcomes l' _) (.joining (Nat.zero_le 2) outside home)

theorem hearing_of_updates (updates : ∀ message ∈ s.outgoing x, message.update?.isSome) :
    s.Hearing x := by
  refine ⟨(s.outgoing x).filterMap ServerMessage.update?, ?_⟩
  generalize s.outgoing x = messages at updates ⊢
  induction messages with
  | nil => rfl
  | cons message messages ih =>
      obtain ⟨first, others⟩ := List.forall_mem_cons.mp updates
      cases message with
      | update u => exact congrArg _ (ih others)
      | joined | zoneChanged => simp [ServerMessage.update?] at first

/-- Who is in a layer's `Sessions`, with no task under way, is there to stay. -/
theorem Standing.entered (h : Standing hosted s x) (free : s.AtRest x)
    (inserted : s.sessions l x = true) :
    s.Entered x l ∧ (∀ l' z, s.removed l' ≠ some (x, z)) ∧
      ∀ l' z, (x, .zoneTransition z) ∈ s.outcomes l' → l' = l := by
  cases h with
  | departing _ outside => simp [outside l] at inserted
  | busy under begun => exact absurd (under.1 ▸ free _) begun
  | @idle l₀ _ entered unremoved crossing =>
      obtain rfl : l = l₀ := (entered l).mp inserted
      exact ⟨entered, unremoved, fun l' z there => (crossing l' z there).1⟩

theorem Invariant.groupMove {target : Layer} {position : P} (h : Invariant d s)
    (here : s.zone e = some l) (apart : target ≠ l) (idle : s.idle l)
    (inserted : s.sessions l e = true) (free : s.AtRest e) (hearing : s.Hearing e) :
    Invariant d (s.goOn e .session (performGroupLayerMove l target position)) := by
  have alive : (s.zone e).isSome := here ▸ rfl
  refine h.advance { actsFor_groupMove (free .session) apart with
    kind_ne := h.kind_ne fun unknown => by simp [unknown.zone] at here
    launched := le_rfl
    unlaunched := fun n _ => by simp [free (.transition n)]
    ended := fun nowhere => by simp [here] at nowhere
    standing := fun _ => ?_ }
  obtain ⟨entered, unremoved, crossing⟩ := (h.standing e alive).entered free inserted
  have under : s.Only e .session [] := ⟨free _, fun w _ => free w⟩
  refine .busy (under.goOn rfl) nofun unremoved (fun l' z there => ?_)
    (.leaving (Nat.zero_le 1) entered hearing)
  obtain rfl := crossing l' z there
  have there : (e, MovementOutcome.zoneTransition z) ∈ s.outcomes l' := there
  simp [idle.1] at there

/-- Only the session's own task sends to the client at once. -/
theorem Stage.sink_not_mem (stage : Stage hosted s x w program) (other : w ≠ .session) (l : Layer) :
    .sinkZoneChanged l ∉ program := by
  have absent : ∀ {l' : Layer} {position : P} {k},
      .sinkZoneChanged l ∉ (spawnIntoLayer l' position ++ [Action.zoneChanged l']).drop k := by
    intro l' position k there
    simpa [spawnIntoLayer] using List.mem_of_mem_drop there
  cases stage with
  | resolving => simp
  | arriving | arrived | announced => exact absent
  | joining | surveyed | inserted | joined | leaving | left | entering | moved =>
      exact absurd rfl other

/-- The session ends, with or without its cleanup. -/
theorem Invariant.leave (h : Invariant d s) (alive : (s.zone e).isSome)
    (acts : ActsFor e none s
      ({ s with zone := Function.update s.zone e none }.goOn e .session program))
    (quits : ∀ l, .sinkZoneChanged l ∉ program) : Invariant d
      ({ s with zone := Function.update s.zone e none }.goOn e .session program) := by
  refine h.advance { acts with
    kind_ne := h.kind_ne fun unknown => by simp [unknown.zone] at alive
    launched := le_rfl
    unlaunched := fun n after => by simpa using h.unlaunched e n after
    ended := fun _ w l there => ?_
    standing := fun alive => by simp at alive }
  by_cases own : w = .session
  · subst own
    exact quits l (by simpa using there)
  · have there : .sinkZoneChanged l ∈ s.tasks e w := by simpa [own] using there
    obtain ⟨-, -, -, stage⟩ := (h.standing e alive).stage (List.ne_nil_of_mem there)
    exact stage.sink_not_mem own l there

theorem State.station_forward {message : ServerMessage P} {messages : List (ServerMessage P)}
    (queued : s.outgoing x = message :: messages) (taken : s.forward hosted x = some t) :
    t.outgoing x = messages ∧ t.received x = s.received x ++ [message] ∧
      t.station hosted x = s.station hosted x := by
  unfold State.forward at taken
  rw [queued] at taken
  cases taken
  refine ⟨by simp, by simp, ?_⟩
  cases message with
  | zoneChanged zoneId roster =>
      cases there : get hosted zoneId <;>
        simp [State.station, queued, ServerMessage.station, there]
  | joined roster | update u => simp [State.station, queued, ServerMessage.station]

theorem State.forward_cases (taken : s.forward hosted x = some t) :
    ∃ message messages zone, s.outgoing x = message :: messages ∧
      (zone x = none → s.zone x = none) ∧ t = { s with
        outgoing := Function.update s.outgoing x messages
        received := Function.update s.received x (s.received x ++ [message])
        zone } := by
  unfold State.forward at taken
  cases queued : s.outgoing x with
  | nil => simp [queued] at taken
  | cons message messages =>
      rw [queued] at taken
      cases taken
      refine ⟨message, messages, _, rfl, ?_, rfl⟩
      cases message with
      | zoneChanged zoneId roster =>
          dsimp only
          cases get hosted zoneId <;> simp
      | joined roster | update u => exact id

theorem Invariant.forward (h : Invariant d s) (alive : (s.zone e).isSome)
    (free : s.tasks e .session = []) (taken : s.forward d.hosted e = some t) : Invariant d t := by
  have acts := actsFor_forward taken
  obtain ⟨message, messages, zone, queued, kept, rfl⟩ := State.forward_cases taken
  obtain ⟨rest, received, home⟩ := State.station_forward queued taken
  refine h.advance { acts with
    kind_ne := h.kind_ne fun unknown => by simp [unknown.zone] at alive
    launched := le_rfl
    unlaunched := h.unlaunched e
    ended := fun nowhere => h.ended e (kept nowhere)
    standing := fun _ => ?_ }
  cases h.standing e alive with
  | idle free entered unremoved crossing shown =>
      obtain ⟨here, v, known, sees⟩ := shown
      refine .idle free entered unremoved crossing ⟨home.trans here, v, ?_, acts.toActs.sees sees⟩
      rwa [received, rest, List.append_assoc, List.singleton_append, ← queued]
  | departing free outside runs here only uncrossed =>
      exact .departing free outside runs here only uncrossed
  | busy under begun unremoved uncrossed stage =>
      refine .busy under begun unremoved uncrossed ?_
      cases stage with
      | resolving runs outside => exact .resolving runs outside
      | arriving early home outside => exact .arriving early home outside
      | arrived late early home entered => exact .arrived late early home entered
      | announced late early home entered sees =>
          exact .announced late early home entered (acts.toActs.sees sees)
      | joining | surveyed | inserted | joined | leaving | left | entering | moved =>
          exact absurd (under.1.symm.trans free) begun

theorem presence_spawnNpc_of_ne {point : P} (other : l' ≠ l ∨ x ≠ e) :
    (s.spawnNpc l e point).presence l' x = s.presence l' x := by
  by_cases same : l' = l
  · subst same
    simp [State.presence, other.resolve_left (· rfl)]
  · simp [State.presence, same]

theorem presence_spawnNpc {point : P} (unknown : s.Unknown e) :
    (s.spawnNpc l e point).presence l e = ⟨some point, [], [], false, fun _ => []⟩ := by
  have before := unknown.presence l
  simp only [State.presence, Presence.mk.injEq] at before
  obtain ⟨-, commands, outcomes, registered, tasks⟩ := before
  simp [State.presence, commands, outcomes, registered, tasks]

/-- Nobody is told of the NPC, and nobody should have been. -/
theorem hears_spawnNpc {point : P} (unwatched : ¬ s.Watches x l) :
    Hears x none s (s.spawnNpc l e point) := by
  have elsewhere : ∀ {l' v}, l' ≠ l → s.Sees x l' v → (s.spawnNpc l e point).Sees x l' v := by
    intro l' v other sees e' known
    rw [presence_spawnNpc_of_ne (.inl other)]
    exact sees e' known
  have watched : ∀ {l'}, s.Watches x l' → l' ≠ l := by
    rintro l' watching rfl
    exact unwatched watching
  exact {
    tasks := rfl, roster := rfl, zone := rfl, received := rfl, sessions := fun _ => rfl
    outgoing := (List.append_nil _).symm, removed := fun _ _ => Iff.rfl
    crossing := fun _ _ => id
    sees := fun l' v watching => elsewhere (watched watching)
    held := fun l' w watching _ => elsewhere (watched watching) }

theorem Invariant.spawnNpc {point : P} (h : Invariant d s) (unheard : s.kind e = none)
    (unwatched : ∀ x, ¬ s.Watches x l) : Invariant d (s.spawnNpc l e point) := by
  have unknown := h.unknown e unheard
  have still : ((s.spawnNpc l e point).presence l e).Still := by
    rw [presence_spawnNpc unknown]
    exact ⟨rfl, rfl, fun _ => rfl⟩
  constructor
  · intro l' x
    by_cases new : l' = l ∧ x = e
    · obtain ⟨rfl, rfl⟩ := new
      exact still.sound
    · rw [presence_spawnNpc_of_ne (not_and_or.mp new)]
      exact h.sound l' x
  · intro x nobody
    by_cases own : x = e
    · simp [own] at nobody
    · have before := h.unknown x (by simpa [own] using nobody)
      exact ⟨fun l' => (presence_spawnNpc_of_ne (.inr own)).trans (before.presence l'),
        before.outcomes, before.free, before.zone, before.outgoing⟩
  · exact h.unlaunched
  · exact h.ended
  · exact fun x alive => (h.standing x alive).hears (hears_spawnNpc (unwatched x)) alive

/-! ### Runs -/

theorem State.Fresh.invariant (fresh : s.Fresh) : Invariant d s := by
  have still : ∀ l e, (s.presence l e).Still := fun l e =>
    ⟨by simp [State.presence, fresh.commands], by simp [State.presence, (fresh.idle l).1,
      (fresh.idle l).2], fun w => by simp [State.presence, fresh.tasks]⟩
  constructor
  · exact fun l e => (still l e).sound
  · intro e unheard
    refine ⟨fun l => ?_, fun l outcome there => ?_, fresh.tasks e, fresh.zone e, fresh.outgoing e⟩
    · have absent : s.world l e = none := by
        by_contra there
        have npc := fresh.npcs l e (Option.isSome_iff_ne_none.mpr there)
        cases unheard.symm.trans npc
      simp [State.presence, absent, fresh.commands, (fresh.idle l).1, (fresh.idle l).2,
        fresh.sessions, fresh.tasks]
    · simp [(fresh.idle l).1] at there
  · exact fun e n _ => fresh.tasks e _
  · intro x _ w l there
    simp [fresh.tasks] at there
  · intro x alive
    simp [fresh.zone] at alive

theorem Invariant.step {a : Label P} (h : Invariant d s) (inTurn : InTurn d s a)
    (taken : step d s a = some t) : Invariant d t := by
  cases a with
  | join e l position =>
      simp only [ClientReplica.step, Option.ite_none_right_eq_some, Option.some.injEq] at taken
      obtain ⟨unheard, rfl⟩ := taken
      exact h.join unheard
  | joinFails e => exact inTurn.elim
  | resume e w => exact h.resume inTurn taken
  | tick l outcomes =>
      simp only [ClientReplica.step, Option.ite_none_right_eq_some] at taken
      exact h.moves inTurn taken.2
  | report l =>
      obtain ⟨e, said, reports⟩ := reports_of_handleTickOutcomes taken
      exact h.report inTurn reports
  | act l =>
      simp only [ClientReplica.step] at taken
      cases next : s.commands l with
      | nil => simp [next] at taken
      | cons command commands =>
          simp only [next, Option.ite_none_right_eq_some, Option.some.injEq] at taken
          obtain ⟨idle, rfl⟩ := taken
          exact h.perform next idle inTurn
  | spawnNpc l e point =>
      simp only [ClientReplica.step, Option.ite_none_right_eq_some, Option.some.injEq] at taken
      obtain ⟨⟨unheard, -⟩, rfl⟩ := taken
      exact h.spawnNpc unheard inTurn
  | groupMove e target =>
      simp only [ClientReplica.step] at taken
      cases here : s.zone e with
      | none => simp [here] at taken
      | some source =>
          simp only [here, Option.ite_none_right_eq_some, Option.map_eq_some_iff] at taken
          obtain ⟨⟨-, apart, -, idle⟩, position, -, rfl⟩ := taken
          obtain ⟨inserted, free, updates⟩ := inTurn source here
          exact h.groupMove here apart idle inserted free (hearing_of_updates updates)
  | forward e =>
      simp only [ClientReplica.step, Option.ite_none_right_eq_some] at taken
      obtain ⟨⟨alive, waits⟩, taken⟩ := taken
      exact h.forward alive (not_not.mp waits) taken
  | disconnect e =>
      simp only [ClientReplica.step] at taken
      cases here : s.zone e with
      | none => simp [here] at taken
      | some l =>
          simp only [here, Option.ite_none_left_eq_some, Option.some.injEq] at taken
          obtain ⟨waits, rfl⟩ := taken
          have acts := actsFor_disconnect (l := l) (not_not.mp waits)
          exact h.leave (here ▸ rfl) acts (by simp [cleanup, despawnFromLayer])
  | lost e =>
      simp only [ClientReplica.step] at taken
      split at taken
      next l _ here free =>
        cases taken
        exact h.leave (here ▸ rfl) (actsFor_lost (by simp [free])) (by simp)
      next l target here sink =>
        cases taken
        exact h.leave (here ▸ rfl) (actsFor_lost (by simp [sink, Action.at])) (by simp)
      · cases taken

/-- In a quiescent state each session stands where its client knows what there is. -/
theorem Invariant.converged (h : Invariant d s) (done : s.Quiescent) : s.Converged := by
  intro x l here
  have empty := done.outgoing x (here ▸ rfl)
  cases h.standing x (here ▸ rfl) with
  | departing _ _ _ there => simp [(done.idle _).2] at there
  | busy under begun => exact absurd (under.1.symm.trans (done.tasks x _)) begun
  | @idle l₀ free entered unremoved crossing shown =>
      obtain ⟨home, v, known, sees⟩ := shown
      obtain rfl : l = l₀ := by
        rw [State.station, empty, List.foldl_nil, here] at home
        exact Option.some.inj home
      rw [empty, List.append_nil] at known
      refine ⟨v, known, fun e other => ?_⟩
      have still : (s.presence l e).Still :=
        ⟨by simp [State.presence, done.commands], by simp [State.presence, (done.idle l).1,
          (done.idle l).2], fun w => by simp [State.presence, done.tasks]⟩
      exact still.agrees_iff.mp (sees e other)

/-- From the start of the process, whatever is done in whatever order: when all steps in flight
have completed, and none of them has lost an update, each client has been shown what there is. -/
theorem converged_of_inTurn {ls : List (Label P)} (fresh : s.Fresh)
    (legal : Transition.Admissible (step d) (InTurn d) s ls)
    (run : Transition.exec (step d) s ls = some t) (done : t.Quiescent) : t.Converged := by
  have kept : Invariant d t :=
    Transition.exec_invariant (fun _ _ _ invariant => invariant.step) fresh.invariant legal run
  exact kept.converged done

namespace Meadow

def meadow : Layer := ⟨"meadow", 0⟩

def deployment : Deployment ℕ := ⟨fun zoneId => zoneId = "meadow", fun _ _ => 0⟩

def player : EntityId := ⟨1⟩
def wolf : EntityId := ⟨2⟩

/-- The process has started, and there is an NPC if its zone has been seeded with one. -/
def start (seed : Roster ℕ) : State ℕ where
  world l e := if l = meadow then seed e else none
  kind e := (seed e).map fun _ => .npc
  commands _ := []
  outcomes _ := []
  removed _ := none
  sessions _ _ := false
  tasks _ _ := []
  roster _ _ _ := none
  launched := 0
  zone _ := none
  outgoing _ := []
  received _ := []

/-- The player joins, and its client has been sent the roster. -/
def joining : List (Label ℕ) :=
  [.join player meadow 3, .resume player .session, .act meadow, .resume player .session,
    .act meadow, .resume player .session, .resume player .session, .resume player .session,
    .forward player]

theorem fresh_start (seed : Roster ℕ) : (start seed).Fresh where
  npcs l e there := by
    by_cases here : l = meadow
    · simp only [start, here, if_true] at there ⊢
      obtain ⟨p, same⟩ := Option.isSome_iff_exists.mp there
      simp [same]
    · simp [start, here] at there
  players e := by simp [start]
  commands _ := rfl
  idle _ := ⟨rfl, rfl⟩
  sessions _ _ := rfl
  tasks _ _ := rfl
  zone _ := rfl
  outgoing _ := rfl
  received _ := rfl

/-- Nobody announces the wolf to the player, who has joined before. -/
theorem unseen_npc : ∃ s t, s.Fresh ∧
    Transition.exec (step deployment) s (joining ++ [.spawnNpc meadow wolf 7]) = some t ∧
      t.Quiescent ∧ ¬ t.Converged := by
  refine ⟨start fun _ => none, _, fresh_start _, rfl, ?_, ?_⟩
  · refine ⟨fun l => ?_, fun l => ⟨rfl, rfl⟩, fun e w => ?_, fun e _ => ?_⟩
    · simp [State.perform, State.goOn, State.send, State.queue, State.register, State.broadcast,
        start]
    · simp [State.perform, State.goOn, State.send, State.queue, State.register, State.broadcast,
        start]
    · by_cases own : e = player
      · subst own
        rfl
      · simp [State.perform, State.goOn, State.send, State.queue, State.register, State.broadcast,
          start, own]
  · intro converged
    obtain ⟨shown, known, agrees⟩ := converged player meadow rfl
    cases known
    have unseen := agrees wolf (by decide)
    revert unseen
    decide

/-- The wolf has been there before, and moves. Then somebody comes by, and is gone before
having been sent what the channel holds. -/
def withWolf : Roster ℕ := fun e => if e = wolf then some 5 else none

def visitor : EntityId := ⟨3⟩

def watching : List (Label ℕ) :=
  joining ++ [.tick meadow [(wolf, .applied 6)], .report meadow, .forward player]

def visiting : List (Label ℕ) :=
  [.join visitor meadow 4, .resume visitor .session, .act meadow, .resume visitor .session,
    .act meadow, .resume visitor .session, .resume visitor .session, .resume visitor .session,
    .forward player, .disconnect visitor, .resume visitor .session, .act meadow,
    .resume visitor .session, .resume visitor .session, .forward player]

theorem eventual_asked {e asking : EntityId} {a : Presence ℕ} (other : e ≠ asking)
    (commands : a.commands = [WorldCommand.entitiesSnapshot asking .session].filterMap
      (WorldCommand.about e)) : a.eventual = a.world := by
  simp [Presence.eventual, commands, WorldCommand.about, other.symm]

/-- Nobody holds a roster. -/
theorem foretold_of_delivered {s : State ℕ}
    (alone : ∀ x, x ≠ player → x ≠ visitor → s.zone x = none)
    (delivered : ∀ w, rosterOf (s.tasks player w) = none ∧ rosterOf (s.tasks visitor w) = none)
    (l : Layer) (u : Update EntityId ℕ) : s.Foretold l u := by
  intro x _ w held
  by_cases own : x = player
  · subst own
    cases (delivered w).1.symm.trans held.2.1
  · by_cases guest : x = visitor
    · subst guest
      cases (delivered w).2.symm.trans held.2.1
    · simp [State.Holds, alone x own guest] at held

theorem inTurn_watching :
    Transition.Admissible (step deployment) (InTurn deployment) (start withWolf) watching := by
  refine ⟨trivial, fun t taken => ?_⟩
  cases taken
  refine ⟨⟨fun w => ?_, rfl⟩, fun t taken => ?_⟩
  · cases w <;> rfl
  cases taken
  refine ⟨trivial, fun t taken => ?_⟩
  cases taken
  refine ⟨trivial, fun t taken => ?_⟩
  cases taken
  refine ⟨fun _ e other settled => ?_, fun t taken => ?_⟩
  · refine Eq.symm (eventual_asked other ?_)
    rfl
  cases taken
  refine ⟨trivial, fun t taken => ?_⟩
  cases taken
  refine ⟨trivial, fun t taken => ?_⟩
  cases taken
  refine ⟨foretold_of_delivered (fun x other _ => Function.update_of_ne other ..) (fun w => ?_) _ _,
    fun t taken => ?_⟩
  · cases w <;> exact ⟨rfl, rfl⟩
  cases taken
  refine ⟨trivial, fun t taken => ?_⟩
  cases taken
  refine ⟨fun outcome there => ?_, fun t taken => ?_⟩
  · cases List.mem_singleton.mp there
    intro w p owing
    cases w <;> cases owing
  cases taken
  refine ⟨foretold_of_delivered (fun x other _ => Function.update_of_ne other ..) (fun w => ?_) _ _,
    fun t taken => ?_⟩
  · cases w <;> exact ⟨rfl, rfl⟩
  cases taken
  exact ⟨trivial, fun _ _ => trivial⟩

theorem inTurn_visited :
    Transition.Admissible (step deployment) (InTurn deployment) (start withWolf)
      (watching ++ visiting) := by
  refine (Transition.admissible_append rfl).mpr ⟨inTurn_watching, ?_⟩
  have alone : ∀ {zone : EntityId → Option Layer} {l l' : Option Layer}, (∀ x, zone x = none) →
      ∀ x, x ≠ player → x ≠ visitor →
        Function.update (Function.update zone player l) visitor l' x = none :=
    fun empty x other guest => (Function.update_of_ne guest ..).trans
      ((Function.update_of_ne other ..).trans (empty x))
  refine ⟨trivial, fun t taken => ?_⟩
  cases taken
  refine ⟨⟨fun w => ?_, rfl⟩, fun t taken => ?_⟩
  · cases w <;> rfl
  cases taken
  refine ⟨trivial, fun t taken => ?_⟩
  cases taken
  refine ⟨trivial, fun t taken => ?_⟩
  cases taken
  refine ⟨fun _ e other settled => ?_, fun t taken => ?_⟩
  · refine Eq.symm (eventual_asked other ?_)
    rfl
  cases taken
  refine ⟨trivial, fun t taken => ?_⟩
  cases taken
  refine ⟨trivial, fun t taken => ?_⟩
  cases taken
  refine ⟨foretold_of_delivered (alone fun _ => rfl) (fun w => ?_) _ _, fun t taken => ?_⟩
  · cases w <;> exact ⟨rfl, rfl⟩
  cases taken
  refine ⟨trivial, fun t taken => ?_⟩
  cases taken
  refine ⟨trivial, fun t taken => ?_⟩
  cases taken
  refine ⟨fun w => ?_, fun t taken => ?_⟩
  · cases w <;> rfl
  cases taken
  refine ⟨trivial, fun t taken => ?_⟩
  cases taken
  refine ⟨trivial, fun t taken => ?_⟩
  cases taken
  refine ⟨foretold_of_delivered (fun x other guest => ?_) (fun w => ?_) _ _, fun t taken => ?_⟩
  · exact (Function.update_of_ne guest ..).trans (alone (fun _ => rfl) x other guest)
  · cases w <;> exact ⟨rfl, rfl⟩
  cases taken
  exact ⟨trivial, fun _ _ => trivial⟩

theorem exec_visited : ∃ t,
    Transition.exec (step deployment) (start withWolf) (watching ++ visiting) = some t ∧
      t.Quiescent ∧ t.outgoing visitor ≠ [] ∧ t.zone player = some meadow ∧
      t.world meadow wolf = some 6 ∧ t.world meadow visitor = none := by
  refine ⟨_, rfl, ⟨fun l => ?_, fun l => ⟨?_, rfl⟩, fun e w => ?_, fun e here => ?_⟩, by decide, rfl,
    rfl, rfl⟩
  · simp [State.perform, State.goOn, State.send, State.queue, State.register, State.broadcast,
      start]
  · simp [State.perform, State.goOn, State.send, State.queue, State.register, State.broadcast,
      start]
  · simp [State.perform, State.goOn, State.send, State.queue, State.register, State.broadcast,
      start]
  · by_cases own : e = player
    · subst own
      rfl
    · by_cases guest : e = visitor
      · subst guest
        cases here
      · simp [State.perform, State.goOn, State.send, State.queue, State.register,
          State.broadcast, start, own, guest] at here

theorem converged_visited : ∃ t,
    Transition.exec (step deployment) (start withWolf) (watching ++ visiting) = some t ∧
      t.Quiescent ∧ t.outgoing visitor ≠ [] ∧
      ∃ shown, replica (t.received player) = some shown ∧ shown wolf = some 6 ∧
        shown visitor = none := by
  obtain ⟨t, run, done, undelivered, here, there, gone⟩ := exec_visited
  obtain ⟨shown, known, agrees⟩ :=
    converged_of_inTurn (fresh_start _) inTurn_visited run done player meadow here
  exact ⟨t, run, done, undelivered, shown, known, (agrees wolf (by decide)).trans there,
    (agrees visitor (by decide)).trans gone⟩

end Meadow

end WorldZero.Server.ClientReplica
