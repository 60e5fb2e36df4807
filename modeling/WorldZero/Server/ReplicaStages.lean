import Mathlib.Tactic.IntervalCases
import WorldZero.Server.ReplicaSteps

/-!
# Where clients are shown what there is

A session that is connected either waits for its next message, or crosses a link, or a task of
its own is under way. What it has been shown, with what is in its channel and with the roster
that its task holds, agrees at each of these stages with the layer that it is in or comes to.
Steps for other entities reach it through the broadcasts of that layer only.
-/

namespace WorldZero.Server.ClientReplica

open Handoff (Layer Waiter get)
open Replica (Update replay)
open Section (owes)

variable {P : Type} {d : Deployment P} {hosted : String → Bool} {s t : State P} {l l' : Layer}
  {e e' x : EntityId} {w : Waiter} {rest program : List (Action P)} {v : Roster P}
  {said : Option (Layer × Update EntityId P)}

/-- The layer that the session is in after the message. -/
def ServerMessage.station (hosted : String → Bool) (zone : Option Layer) :
    ServerMessage P → Option Layer
  | .zoneChanged zoneId _ => (get hosted zoneId).or zone
  | _ => zone

namespace State

variable (s : State P)

/-- The session is in the layer's `Sessions`, and in no other. -/
def Entered (x : EntityId) (l : Layer) : Prop := ∀ l', s.sessions l' x = true ↔ l' = l

def Outside (x : EntityId) : Prop := ∀ l, s.sessions l x = false

/-- What is known of the others is what the layer has, or will be told. -/
def Sees (x : EntityId) (l : Layer) (v : Roster P) : Prop :=
  ∀ e, e ≠ x → (s.presence l e).Agrees (v e)

/-- The layer that the session is in when it has taken the messages of its channel. -/
def station (hosted : String → Bool) (x : EntityId) : Option Layer :=
  (s.outgoing x).foldl (ServerMessage.station hosted) (s.zone x)

/-- The client is right about the layer when it has the messages of the channel. -/
def Shown (hosted : String → Bool) (x : EntityId) (l : Layer) : Prop :=
  s.station hosted x = some l ∧
    ∃ v, replica (s.received x ++ s.outgoing x) = some v ∧ s.Sees x l v

/-- There is no roster in the channel. -/
def Hearing (x : EntityId) : Prop :=
  ∃ us : List (Update EntityId P), s.outgoing x = us.map .update

/-- No task of the session is under way, but for one. -/
def Only (x : EntityId) (w : Waiter) (program : List (Action P)) : Prop :=
  s.tasks x w = program ∧ ∀ w', w' ≠ w → s.tasks x w' = []

end State

/-- How far a task of a session has come, and what the session has been shown by then. -/
inductive Stage (hosted : String → Bool) (s : State P) (x : EntityId) :
    Waiter → List (Action P) → Prop
  | resolving {w sourceZoneId targetZoneId} (runs : hosted targetZoneId = true)
      (outside : s.Outside x) : Stage hosted s x w [.resolve sourceZoneId targetZoneId]
  | joining {l position k} (early : k ≤ 2) (outside : s.Outside x)
      (home : s.station hosted x = some l) :
      Stage hosted s x .session ((handleSession l position).drop k)
  | surveyed {l position} (outside : s.Outside x) (home : s.station hosted x = some l)
      (sees : s.Sees x l (s.roster x .session)) :
      Stage hosted s x .session ((handleSession l position).drop 3)
  | inserted {l position} (entered : s.Entered x l) (home : s.station hosted x = some l)
      (sees : s.Sees x l (s.roster x .session)) :
      Stage hosted s x .session ((handleSession l position).drop 4)
  | joined {l position} (entered : s.Entered x l) (shown : s.Shown hosted x l) :
      Stage hosted s x .session ((handleSession l position).drop 5)
  | arriving {w l position k} (early : k ≤ 1) (home : get hosted l.zoneId = some l)
      (outside : s.Outside x) :
      Stage hosted s x w ((spawnIntoLayer l position ++ [Action.zoneChanged l]).drop k)
  | arrived {w l position k} (late : 2 ≤ k) (early : k ≤ 3) (home : get hosted l.zoneId = some l)
      (entered : s.Entered x l) :
      Stage hosted s x w ((spawnIntoLayer l position ++ [Action.zoneChanged l]).drop k)
  | announced {w l position k} (late : 4 ≤ k) (early : k ≤ 5)
      (home : get hosted l.zoneId = some l) (entered : s.Entered x l)
      (sees : s.Sees x l (s.roster x w)) :
      Stage hosted s x w ((spawnIntoLayer l position ++ [Action.zoneChanged l]).drop k)
  | leaving {source l position k} (early : k ≤ 1) (entered : s.Entered x source)
      (hearing : s.Hearing x) :
      Stage hosted s x .session ((performGroupLayerMove source l position).drop k)
  | left {source l position k} (late : 2 ≤ k) (early : k ≤ 4) (outside : s.Outside x)
      (hearing : s.Hearing x) :
      Stage hosted s x .session ((performGroupLayerMove source l position).drop k)
  | entering {source l position k} (late : 5 ≤ k) (early : k ≤ 6) (entered : s.Entered x l)
      (hearing : s.Hearing x) :
      Stage hosted s x .session ((performGroupLayerMove source l position).drop k)
  | moved {source l position k us} (late : 7 ≤ k) (early : k ≤ 8) (entered : s.Entered x l)
      (heard : s.outgoing x = us.map .update)
      (sees : s.Sees x l fun e => replay us e (s.roster x .session e)) :
      Stage hosted s x .session ((performGroupLayerMove source l position).drop k)

/-- Where a session stands that is connected. -/
inductive Standing (hosted : String → Bool) (s : State P) (x : EntityId) : Prop
  | idle {l : Layer} (free : s.AtRest x) (entered : s.Entered x l)
      (unremoved : ∀ l' z, s.removed l' ≠ some (x, z))
      (crossing : ∀ l' z, (x, .zoneTransition z) ∈ s.outcomes l' → l' = l ∧ hosted z = true)
      (shown : s.Shown hosted x l)
  | departing {l : Layer} {z : String} (free : s.AtRest x) (outside : s.Outside x)
      (runs : hosted z = true) (here : s.removed l = some (x, z)) (only : ∀ l' z', s.removed l' = some (x, z') → l' = l)
      (uncrossed : ∀ l' z', (x, .zoneTransition z') ∉ s.outcomes l')
  | busy {w : Waiter} {program : List (Action P)} (under : s.Only x w program)
      (begun : program ≠ [])
      (unremoved : ∀ l' z, s.removed l' ≠ some (x, z))
      (uncrossed : ∀ l' z', (x, .zoneTransition z') ∉ s.outcomes l')
      (stage : Stage hosted s x w program)

/-! ### What others do -/

/-- What becomes of a session by a step that is none of its own. -/
structure Hears (x : EntityId) (said : Option (Layer × Update EntityId P)) (s t : State P) :
    Prop where
  tasks : t.tasks x = s.tasks x
  roster : t.roster x = s.roster x
  zone : t.zone x = s.zone x
  received : t.received x = s.received x
  sessions : ∀ l, t.sessions l x = s.sessions l x
  outgoing : t.outgoing x = s.outgoing x ++ (delivered s said x).map .update
  removed : ∀ l z, t.removed l = some (x, z) ↔ s.removed l = some (x, z)
  crossing : ∀ l z, (x, .zoneTransition z) ∈ t.outcomes l → (x, .zoneTransition z) ∈ s.outcomes l
  sees : ∀ l v, s.Watches x l → s.Sees x l v → t.Sees x l fun e => hear said l e (v e)
  held : ∀ l w, s.Watches x l → s.Holds x w l → s.Sees x l (s.roster x w) →
    t.Sees x l (s.roster x w)

namespace Hears

theorem entered (h : Hears x said s t) (there : s.Entered x l) : t.Entered x l := by
  intro l'
  rw [h.sessions]
  exact there l'

theorem outside (h : Hears x said s t) (out : s.Outside x) : t.Outside x := by
  intro l
  rw [h.sessions]
  exact out l

theorem atRest (h : Hears x said s t) (free : s.AtRest x) : t.AtRest x := by
  intro w
  rw [h.tasks]
  exact free w

theorem only (h : Hears x said s t) (under : s.Only x w program) : t.Only x w program := by
  unfold State.Only
  rw [h.tasks]
  exact under

end Hears

theorem Hears.hearing (h : Hears x said s t) (hearing : s.Hearing x) : t.Hearing x := by
  obtain ⟨us, heard⟩ := hearing
  exact ⟨us ++ delivered s said x, by rw [h.outgoing, heard, List.map_append]⟩

theorem foldl_station_updates (zone : Option Layer) (us : List (Update EntityId P)) :
    (us.map ServerMessage.update).foldl (ServerMessage.station hosted) zone = zone := by
  induction us with
  | nil => rfl
  | cons u us ih => exact ih

theorem Hears.station (h : Hears x said s t) : t.station hosted x = s.station hosted x := by
  simp only [State.station, h.outgoing, h.zone, List.foldl_append, foldl_station_updates]

theorem foldl_apply_updates (v : Roster P) (us : List (Update EntityId P)) :
    (us.map ServerMessage.update).foldl ServerMessage.apply (some v) =
      some fun e => replay us e (v e) := by
  induction us generalizing v with
  | nil => rfl
  | cons u us ih => exact ih _

/-- Who is in the layer is sent what is said there. -/
theorem replay_delivered (there : s.Entered x l) (e : EntityId) (y : Option P) :
    replay (delivered s said x) e y = hear said l e y := by
  match said with
  | none => rfl
  | some (l', u) =>
      by_cases here : l' = l
      · subst here
        simp [delivered, hear, (there l').mpr rfl]
      · have away : s.sessions l' x = false :=
          Bool.eq_false_iff.mpr fun inserted => here ((there l').mp inserted)
        simp [delivered, hear, away, here]

theorem Hears.shown (h : Hears x said s t) (watching : s.Watches x l) (there : s.Entered x l)
    (shown : s.Shown hosted x l) : t.Shown hosted x l := by
  obtain ⟨home, v, known, sees⟩ := shown
  refine ⟨h.station.trans home, fun e => hear said l e (v e), ?_, h.sees l v watching sees⟩
  unfold replica at known ⊢
  rw [h.received, h.outgoing, ← List.append_assoc, List.foldl_append, known, foldl_apply_updates]
  simp only [replay_delivered there]

namespace State.Only

theorem cases (under : s.Only x w program) (w' : Waiter) :
    s.tasks x w' = program ∨ s.tasks x w' = [] := by
  by_cases own : w' = w
  · exact .inl (own ▸ under.1)
  · exact .inr (under.2 w' own)

theorem surveyed (under : s.Only x w program) (done : ¬ Unsurveyed program) (w' : Waiter) :
    ¬ Unsurveyed (s.tasks x w') := by
  obtain here | free := under.cases w'
  · rwa [here]
  · rw [free]
    rintro ⟨l, there⟩
    cases there

theorem watches (under : s.Only x w program) (alive : (s.zone x).isSome) (entered : s.Entered x l)
    (done : ¬ Unsurveyed program) : s.Watches x l :=
  ⟨alive, .inl ((entered l).mpr rfl), under.surveyed done⟩

theorem holds (under : s.Only x w program) (alive : (s.zone x).isSome)
    (given : rosterOf program = some l) (done : ¬ Unsurveyed program) : s.Holds x w l :=
  ⟨alive, by rw [under.1]; exact ⟨given, done⟩⟩

theorem watches_of_given (under : s.Only x w program) (alive : (s.zone x).isSome)
    (given : rosterOf program = some l) (done : ¬ Unsurveyed program) : s.Watches x l :=
  ⟨alive, .inr ⟨w, under.holds alive given done⟩, under.surveyed done⟩

end State.Only

theorem Stage.hears (stage : Stage hosted s x w program) (h : Hears x said s t)
    (under : s.Only x w program) (alive : (s.zone x).isSome) : Stage hosted t x w program := by
  -- what is said in the layer is not said past a roster that is held
  have keeps : ∀ {l}, rosterOf program = some l → ¬ Unsurveyed program →
      s.Sees x l (s.roster x w) → t.Sees x l (t.roster x w) := by
    intro l given done sees
    rw [h.roster]
    exact h.held l w (under.watches_of_given alive given done) (under.holds alive given done) sees
  cases stage with
  | resolving runs outside => exact .resolving runs (h.outside outside)
  | joining early outside home => exact .joining early (h.outside outside) (h.station.trans home)
  | surveyed outside home sees =>
      refine .surveyed (h.outside outside) (h.station.trans home) ?_
      exact keeps rfl (by simp [Unsurveyed, handleSession]) sees
  | inserted entered home sees =>
      refine .inserted (h.entered entered) (h.station.trans home) ?_
      exact keeps rfl (by simp [Unsurveyed, handleSession]) sees
  | joined entered shown =>
      refine .joined (h.entered entered) (h.shown ?_ entered shown)
      exact under.watches alive entered (by simp [Unsurveyed, handleSession])
  | arriving early home outside => exact .arriving early home (h.outside outside)
  | arrived late early home entered => exact .arrived late early home (h.entered entered)
  | @announced w l position k late early home entered sees =>
      refine .announced late early home (h.entered entered) ?_
      interval_cases k
      · exact keeps rfl (by simp [Unsurveyed, spawnIntoLayer]) sees
      · exact keeps rfl (by simp [Unsurveyed, spawnIntoLayer]) sees
  | leaving early entered hearing => exact .leaving early (h.entered entered) (h.hearing hearing)
  | left late early outside hearing =>
      exact .left late early (h.outside outside) (h.hearing hearing)
  | entering late early entered hearing =>
      exact .entering late early (h.entered entered) (h.hearing hearing)
  | @moved source l position k us late early entered heard sees =>
      have done : ¬ Unsurveyed ((performGroupLayerMove source l position).drop k) := by
        interval_cases k
        · simp [Unsurveyed, performGroupLayerMove, despawnFromLayer, spawnIntoLayer]
        · simp [Unsurveyed, performGroupLayerMove, despawnFromLayer, spawnIntoLayer]
      have queued : t.outgoing x = (us ++ delivered s said x).map .update := by
        rw [h.outgoing, heard, List.map_append]
      refine .moved late early (h.entered entered) queued ?_
      simp only [Replica.replay_append, replay_delivered entered, h.roster]
      exact h.sees _ _ (under.watches alive entered done) sees

theorem Standing.hears (h : Standing hosted s x) (heard : Hears x said s t)
    (alive : (s.zone x).isSome) : Standing hosted t x := by
  cases h with
  | @idle l free entered unremoved crossing shown =>
      have watching : s.Watches x l := by
        refine ⟨alive, .inl ((entered l).mpr rfl), fun w => ?_⟩
        rw [free w]
        rintro ⟨l, there⟩
        cases there
      exact .idle (heard.atRest free) (heard.entered entered)
        (fun l' z there => unremoved l' z ((heard.removed l' z).mp there))
        (fun l' z there => crossing l' z (heard.crossing l' z there))
        (heard.shown watching entered shown)
  | departing free outside runs here only uncrossed =>
      exact .departing (heard.atRest free) (heard.outside outside) runs
        ((heard.removed _ _).mpr here)
        (fun l' z there => only l' z ((heard.removed l' z).mp there))
        (fun l' z there => uncrossed l' z (heard.crossing l' z there))
  | busy under begun unremoved uncrossed stage =>
      exact .busy (heard.only under) begun
        (fun l' z there => unremoved l' z ((heard.removed l' z).mp there))
        (fun l' z there => uncrossed l' z (heard.crossing l' z there))
        (stage.hears heard under alive)

theorem hear_of_entity_ne {u : Update EntityId P} (other : u.entity ≠ e) (y : Option P) :
    hear (some (l', u)) l e y = y := by
  show (if l' = l then u.cell e y else y) = y
  rw [Update.cell_of_ne other, ite_self]

theorem ActsFor.hear_others (h : ActsFor e said s t) (other : e' ≠ e) (y : Option P) :
    hear said l e' y = y := by
  match said, h.about with
  | none, _ => rfl
  | some (l', u), about =>
      refine hear_of_entity_ne ?_ y
      rw [(about l' u rfl).1]
      exact other.symm

theorem ActsFor.agrees {y : Option P} (h : ActsFor e said s t)
    (sound : ∀ l, (s.presence l e).Sound) (agrees : (s.presence l e').Agrees y) :
    (t.presence l e').Agrees (hear said l e' y) := by
  by_cases own : e' = e
  · subst own
    exact agrees.step (sound l) (h.own l)
  · rwa [h.hear_others own, h.presence l e' own]

theorem ActsFor.sees (h : ActsFor e said s t) (sound : ∀ l, (s.presence l e).Sound)
    (sees : s.Sees x l v) : t.Sees x l fun e' => hear said l e' (v e') :=
  fun e' other => h.agrees sound (sees e' other)

theorem ActsFor.hears (h : ActsFor e said s t) (sound : ∀ l, (s.presence l e).Sound)
    (other : x ≠ e) : Hears x said s t where
  tasks := h.tasks x other
  roster := h.roster x other
  zone := h.zone x other
  received := h.received x other
  sessions := h.sessions other
  outgoing := h.outgoing x other
  removed l z := h.removed l x z other
  crossing l z := h.outcomes l x (.zoneTransition z) other
  sees _ _ _ := h.sees sound
  held l w _ held sees e' other' := by
    have told := h.agrees sound (sees e' other')
    have foretold : hear said l e' (s.roster x w e') = s.roster x w e' := by
      by_cases own : e' = e
      · subst own
        match said, h.about with
        | none, _ => rfl
        | some (l', u), about =>
            obtain ⟨rfl, known⟩ := about l' u rfl
            by_cases here : l' = l
            · subst here
              rw [hear_self]
              exact known x other w held
            · exact congrFun (hear_of_ne fun same => here same.symm) _
      · exact h.hear_others own _
    rwa [foretold] at told

/-! ### What a session does itself -/

theorem Acts.sees (h : Acts x said s t) (sees : s.Sees x l v) : t.Sees x l v := by
  intro e other
  rw [h.presence l e other]
  exact sees e other

theorem State.Outside.insert (outside : s.Outside x) : (s.register l x true).Entered x l := by
  intro l'
  by_cases here : l' = l
  · simp [here]
  · simp [here, outside l']

theorem State.Entered.remove (entered : s.Entered x l) : (s.register l x false).Outside x := by
  intro l'
  by_cases here : l' = l
  · simp [here]
  · have away : s.sessions l' x = false :=
      Bool.eq_false_iff.mpr fun inserted => here ((entered l').mp inserted)
    simp [here, away]

theorem State.Only.goOn {u : State P} (under : s.Only x w program) (same : u.tasks = s.tasks) :
    (u.goOn x w rest).Only x w rest := by
  refine ⟨by simp, fun w' other => ?_⟩
  simp [other, same, under.2 w' other]

/-- The session's task has gone on, or has ended with the session in the layer. -/
def State.Proceeds (hosted : String → Bool) (t : State P) (x : EntityId) (w : Waiter) : Prop :=
  ∃ rest, t.Only x w rest ∧
    (rest ≠ [] ∧ Stage hosted t x w rest ∨ rest = [] ∧ ∃ l, t.Entered x l ∧ t.Shown hosted x l)

theorem Stage.resume (stage : Stage d.hosted s x w program) (under : s.Only x w program)
    (acts : Acts x said s t) (taken : s.resume d x w = some t) : t.Proceeds d.hosted x w := by
  cases stage with
  | @resolving w sourceZoneId targetZoneId runs outside =>
      simp only [State.resume, under.1] at taken
      cases taken
      have home : get d.hosted targetZoneId = some ⟨targetZoneId, 0⟩ := if_pos runs
      have stage : Stage d.hosted (s.goOn x w (completeZoneTransition d sourceZoneId targetZoneId))
          x w ((spawnIntoLayer ⟨targetZoneId, 0⟩ (d.entryPoint sourceZoneId targetZoneId) ++
            [Action.zoneChanged ⟨targetZoneId, 0⟩]).drop 0) :=
        .arriving (Nat.zero_le 1) home outside
      refine ⟨_, under.goOn rfl, .inl ?_⟩
      simp only [completeZoneTransition, home] at stage ⊢
      exact ⟨by simp [spawnIntoLayer], stage⟩
  | @joining l position k early outside home =>
      interval_cases k
      · obtain rfl : (s.send l (.spawn x position)).goOn x .session
            ((handleSession l position).drop 1) = t := by
          simpa [State.resume, under.1, handleSession] using taken
        exact ⟨_, under.goOn rfl, .inl ⟨by rintro ⟨⟩, .joining (by decide) outside home⟩⟩
      · obtain rfl : (s.send l (.entitiesSnapshot x .session)).goOn x .session
            ((handleSession l position).drop 2) = t := by
          simpa [State.resume, under.1, handleSession] using taken
        exact ⟨_, under.goOn rfl, .inl ⟨by rintro ⟨⟩, .joining (by decide) outside home⟩⟩
      · simp [State.resume, under.1, handleSession] at taken
  | @surveyed l position outside home sees =>
      obtain rfl : (s.register l x true).goOn x .session
          ((handleSession l position).drop 4) = t := by
        simpa [State.resume, under.1, handleSession] using taken
      exact ⟨_, under.goOn rfl, .inl ⟨by rintro ⟨⟩, .inserted outside.insert home (acts.sees sees)⟩⟩
  | @inserted l position entered home sees =>
      obtain rfl : (s.queue x (.joined (s.roster x .session))).goOn x .session
          ((handleSession l position).drop 5) = t := by
        simpa [State.resume, under.1, handleSession] using taken
      refine ⟨_, under.goOn rfl, .inl ⟨by rintro ⟨⟩, .joined entered
        ⟨?_, s.roster x .session, ?_, acts.sees sees⟩⟩⟩
      · simpa [State.station, ServerMessage.station] using home
      · simp [replica, ServerMessage.apply]
  | @joined l position entered shown =>
      obtain rfl :
          (s.broadcast l (some x) (.announce x (some position))).goOn x .session [] = t := by
        simpa [State.resume, under.1, handleSession] using taken
      refine ⟨_, under.goOn rfl, .inr ⟨rfl, l, entered, ?_⟩⟩
      obtain ⟨home, v, known, sees⟩ := shown
      refine ⟨?_, v, ?_, acts.sees sees⟩
      · simpa [State.station] using home
      · simpa using known
  | @arriving w l position k early home outside =>
      interval_cases k
      · obtain rfl : (s.send l (.spawn x position)).goOn x w
            ((spawnIntoLayer l position ++ [Action.zoneChanged l]).drop 1) = t := by
          simpa [State.resume, under.1, spawnIntoLayer] using taken
        exact ⟨_, under.goOn rfl, .inl ⟨by rintro ⟨⟩, .arriving (by decide) home outside⟩⟩
      · obtain rfl : (s.register l x true).goOn x w
            ((spawnIntoLayer l position ++ [Action.zoneChanged l]).drop 2) = t := by
          simpa [State.resume, under.1, spawnIntoLayer] using taken
        exact ⟨_, under.goOn rfl,
          .inl ⟨by rintro ⟨⟩, .arrived (by decide) (by decide) home outside.insert⟩⟩
  | @arrived w l position k late early home entered =>
      interval_cases k
      · obtain rfl : (s.send l (.entitiesSnapshot x w)).goOn x w
            ((spawnIntoLayer l position ++ [Action.zoneChanged l]).drop 3) = t := by
          simpa [State.resume, under.1, spawnIntoLayer] using taken
        exact ⟨_, under.goOn rfl,
          .inl ⟨by rintro ⟨⟩, .arrived (by decide) (by decide) home entered⟩⟩
      · simp [State.resume, under.1, spawnIntoLayer] at taken
  | @announced w l position k late early home entered sees =>
      interval_cases k
      · obtain rfl : (s.broadcast l (some x) (.announce x (some position))).goOn x w
            ((spawnIntoLayer l position ++ [Action.zoneChanged l]).drop 5) = t := by
          simpa [State.resume, under.1, spawnIntoLayer] using taken
        exact ⟨_, under.goOn rfl,
          .inl ⟨by rintro ⟨⟩, .announced (by decide) (by decide) home entered (acts.sees sees)⟩⟩
      · obtain rfl : (s.queue x (.zoneChanged l.zoneId (s.roster x w))).goOn x w [] = t := by
          simpa [State.resume, under.1, spawnIntoLayer] using taken
        refine ⟨_, under.goOn rfl, .inr ⟨rfl, l, entered, ?_, s.roster x w, ?_, acts.sees sees⟩⟩
        · simp [State.station, ServerMessage.station, home]
        · simp [replica, ServerMessage.apply]
  | @leaving source l position k early entered hearing =>
      interval_cases k
      · obtain rfl : (s.send source (.despawn x)).goOn x .session
            ((performGroupLayerMove source l position).drop 1) = t := by
          simpa [State.resume, under.1, performGroupLayerMove, despawnFromLayer] using taken
        exact ⟨_, under.goOn rfl, .inl ⟨by rintro ⟨⟩, .leaving (by decide) entered hearing⟩⟩
      · obtain rfl : (s.register source x false).goOn x .session
            ((performGroupLayerMove source l position).drop 2) = t := by
          simpa [State.resume, under.1, performGroupLayerMove, despawnFromLayer] using taken
        exact ⟨_, under.goOn rfl,
          .inl ⟨by rintro ⟨⟩, .left (by decide) (by decide) entered.remove hearing⟩⟩
  | @left source l position k late early outside hearing =>
      interval_cases k
      · obtain rfl : (s.broadcast source (some x) (.announce x none)).goOn x .session
            ((performGroupLayerMove source l position).drop 3) = t := by
          simpa [State.resume, under.1, performGroupLayerMove, despawnFromLayer] using taken
        obtain ⟨us, heard⟩ := hearing
        exact ⟨_, under.goOn rfl,
          .inl ⟨by rintro ⟨⟩, .left (by decide) (by decide) outside ⟨us, by simpa using heard⟩⟩⟩
      · obtain rfl : (s.send l (.spawn x position)).goOn x .session
            ((performGroupLayerMove source l position).drop 4) = t := by
          simpa [State.resume, under.1, performGroupLayerMove, despawnFromLayer, spawnIntoLayer]
            using taken
        exact ⟨_, under.goOn rfl,
          .inl ⟨by rintro ⟨⟩, .left (by decide) (by decide) outside hearing⟩⟩
      · obtain rfl : (s.register l x true).goOn x .session
            ((performGroupLayerMove source l position).drop 5) = t := by
          simpa [State.resume, under.1, performGroupLayerMove, despawnFromLayer, spawnIntoLayer]
            using taken
        exact ⟨_, under.goOn rfl,
          .inl ⟨by rintro ⟨⟩, .entering (by decide) (by decide) outside.insert hearing⟩⟩
  | @entering source l position k late early entered hearing =>
      interval_cases k
      · obtain rfl : (s.send l (.entitiesSnapshot x .session)).goOn x .session
            ((performGroupLayerMove source l position).drop 6) = t := by
          simpa [State.resume, under.1, performGroupLayerMove, despawnFromLayer, spawnIntoLayer]
            using taken
        exact ⟨_, under.goOn rfl,
          .inl ⟨by rintro ⟨⟩, .entering (by decide) (by decide) entered hearing⟩⟩
      · simp [State.resume, under.1, performGroupLayerMove, despawnFromLayer, spawnIntoLayer]
          at taken
  | @moved source l position k us late early entered heard sees =>
      interval_cases k
      · obtain rfl : (s.broadcast l (some x) (.announce x (some position))).goOn x .session
            ((performGroupLayerMove source l position).drop 8) = t := by
          simpa [State.resume, under.1, performGroupLayerMove, despawnFromLayer, spawnIntoLayer]
            using taken
        exact ⟨_, under.goOn rfl, .inl ⟨by rintro ⟨⟩,
          .moved (by decide) (by decide) entered (by simpa using heard) (acts.sees sees)⟩⟩
      · obtain rfl : { s with
            received := Function.update s.received x
              (s.received x ++ [ServerMessage.zoneChanged l.zoneId (s.roster x .session)])
            zone := Function.update s.zone x (some l) }.goOn x .session [] = t := by
          simpa [State.resume, under.1, performGroupLayerMove, despawnFromLayer, spawnIntoLayer]
            using taken
        refine ⟨_, under.goOn rfl, .inr ⟨rfl, l, entered, ?_, _, ?_, acts.sees sees⟩⟩
        · simp [State.station, heard, foldl_station_updates]
        · simp [replica, heard, ServerMessage.apply, foldl_apply_updates]

/-- What a session is replied, with what is in its channel already if the roster is to go to the
client at once. -/
theorem State.RostersInTurn.sees (inTurn : s.RostersInTurn x w l) (alive : (s.zone x).isSome)
    (idle : s.idle l) : s.Sees x l fun e =>
      replay (s.overtaken x w) e (if e = x then none else s.world l e) := by
  intro e other settled
  have reported : (s.presence l e).outcomes = [] := by simp [State.presence, idle.1, idle.2]
  simp only [other, if_false, Presence.told, reported, List.foldl_nil]
  exact inTurn alive e other settled

theorem Stage.reply (stage : Stage d.hosted s x w program) (under : s.Only x w program)
    (inTurn : s.RostersInTurn x w l) (alive : (s.zone x).isSome) (idle : s.idle l)
    (here : program = .inLayer l .snapshotReply :: rest)
    (acts : Acts x none s t) (sessions : t.sessions = s.sessions) (zone : t.zone = s.zone)
    (outgoing : t.outgoing = s.outgoing)
    (replied : t.roster x w = fun other => if other = x then none else s.world l other) :
    rest ≠ [] ∧ Stage d.hosted t x w rest := by
  have outside : s.Outside x → t.Outside x := fun out l' => sessions ▸ out l'
  have entered : s.Entered x l → t.Entered x l := fun there l' => sessions ▸ there l'
  have home : t.station d.hosted x = s.station d.hosted x := by
    simp only [State.station, outgoing, zone]
  have shows : t.Sees x l fun e => replay (s.overtaken x w) e (t.roster x w e) := by
    rw [replied]
    exact acts.sees (inTurn.sees alive idle)
  -- a roster that goes into the channel overtakes nothing
  have sees : rosterOf program = some l → t.Sees x l (t.roster x w) := by
    intro given
    have nothing : s.overtaken x w = [] := by
      simp only [State.overtaken, under.1, given]
    simpa only [nothing, Replica.replay_nil] using shows
  cases stage with
  | resolving | surveyed | inserted | joined => simp [handleSession] at here
  | @joining l' position k early out home' =>
      interval_cases k
      · simp [handleSession] at here
      · simp [handleSession] at here
      · obtain ⟨rfl, rfl⟩ : l' = l ∧ (handleSession l' position).drop 3 = rest := by
          simpa [handleSession] using here
        exact ⟨by rintro ⟨⟩, .surveyed (outside out) (home.trans home') (sees rfl)⟩
  | @arriving w l' position k early => interval_cases k <;> simp [spawnIntoLayer] at here
  | @arrived w l' position k late early home' there =>
      interval_cases k
      · simp [spawnIntoLayer] at here
      · obtain ⟨rfl, rfl⟩ : l' = l ∧
            (spawnIntoLayer l' position ++ [Action.zoneChanged l']).drop 4 = rest := by
          simpa [spawnIntoLayer] using here
        exact ⟨by rintro ⟨⟩, .announced (by decide) (by decide) home' (entered there) (sees rfl)⟩
  | @announced w l' position k late early => interval_cases k <;> simp [spawnIntoLayer] at here
  | @leaving source l' position k early =>
      interval_cases k <;> simp [performGroupLayerMove, despawnFromLayer] at here
  | @left source l' position k late early =>
      interval_cases k <;>
        simp [performGroupLayerMove, despawnFromLayer, spawnIntoLayer] at here
  | @entering source l' position k late early there hearing =>
      interval_cases k
      · simp [performGroupLayerMove, despawnFromLayer, spawnIntoLayer] at here
      · have late : s.overtaken x .session = (s.outgoing x).filterMap ServerMessage.update? := by
          simp only [State.overtaken, under.1]
          rfl
        obtain ⟨rfl, rfl⟩ : l' = l ∧ (performGroupLayerMove source l' position).drop 7 = rest := by
          simpa [performGroupLayerMove, despawnFromLayer, spawnIntoLayer] using here
        obtain ⟨us, heard⟩ := hearing
        have same : s.overtaken x .session = us := by
          rw [late, heard, List.filterMap_map]
          exact List.filterMap_some
        rw [same] at shows
        exact ⟨by rintro ⟨⟩,
          .moved (by decide) (by decide) (entered there) (outgoing ▸ heard) shows⟩
  | @moved source l' position k us late early =>
      interval_cases k <;>
        simp [performGroupLayerMove, despawnFromLayer, spawnIntoLayer] at here

end WorldZero.Server.ClientReplica
