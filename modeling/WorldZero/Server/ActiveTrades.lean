import WorldZero.Server.TradeSession

/-!
# The table of active trades

`active_trades` of any number of players, each served by a task of its own. A trade is
entered under both participants in two sections, and removed under both in two sections; the
sections of other players' tasks come in between, and none of them looks at what it overwrites
or removes. Whether `execute_trade` succeeds is a matter of the database.

A connection ends in two ways, as in `Session`: through the cleanup, or by an error that is
propagated past it.
-/

namespace WorldZero.Server.ActiveTrades

open Trade (TradeSession TradeOffer OfferChange)
open Transition (exec Admissible exec_nil exec_cons exec_invariant exec_reaches)

/-- Where a player's task is between two sections. A trade is named by its position among
the sessions. -/
inductive Task where
  /-- Not connected, or not any more. -/
  | offline
  | idle
  /-- The target is a player, the request is about to be recorded. -/
  | requesting (target : EntityId)
  /-- The request has been taken and accepted, the session is about to be opened. -/
  | accepting (requester : EntityId)
  /-- The session is entered under the requester, and is about to be under the task's own. -/
  | joining (trade : ℕ) (requester : EntityId)
  | offering (trade : ℕ) (change : OfferChange)
  | confirming (trade : ℕ)
  /-- Both have confirmed, the characters are about to be looked up. -/
  | resolving (trade : ℕ)
  /-- `execute_trade` is awaited. -/
  | executing (trade : ℕ)
  | resetting (trade : ℕ)
  | removingA (trade : ℕ)
  | removingB (trade : ℕ)
  /-- The own entry has been removed, that of the other is about to be. -/
  | cancelling (trade : ℕ) (leaving : Bool)
  /-- The cleanup: the character, then the request, then the trade. -/
  | leavingCharacter
  | leavingRequest
  | leavingTrade
  deriving DecidableEq

structure State where
  entityCharacters : Finset EntityId
  pendingTradeRequests : EntityId → Option EntityId
  sessions : List TradeSession
  activeTrades : EntityId → Option ℕ
  task : EntityId → Task

inductive Label where
  | connect (e : EntityId)
  | tradeRequest (e target : EntityId)
  | tradeRequestResponse (e : EntityId) (accept : Bool)
  | tradeOffer (e : EntityId) (change : OfferChange)
  | tradeConfirm (e : EntityId)
  | tradeCancel (e : EntityId)
  /-- The loop is left for the cleanup. -/
  | disconnect (e : EntityId)
  /-- A reply cannot be sent, and the handler returns past the cleanup. -/
  | fail (e : EntityId)
  /-- The next section of a task. -/
  | resume (e : EntityId) (executes : Bool)

namespace State

variable (s : State) (e : EntityId)

/-- The participant of a trade that is not `e`. -/
def other (trade : ℕ) : Option EntityId := (s.sessions[trade]?).bind fun session => session.other e

def goto (task : Task) : State := { s with task := Function.update s.task e task }

/-- Enter a trade under an entity, or remove what is there. -/
def assign (trade : Option ℕ) : State :=
  { s with activeTrades := Function.update s.activeTrades e trade }

/-- Work on a session under its own lock. -/
def modify (trade : ℕ) (f : TradeSession → TradeSession) : State :=
  { s with sessions := s.sessions.modify trade f }

/-- The own entry is removed, and the other's is to follow. -/
def take (leaving : Bool) : State :=
  match s.activeTrades e with
  | none => s.goto e (if leaving then .offline else .idle)
  | some trade => (s.assign e none).goto e (.cancelling trade leaving)

/-- The session is opened and entered under the requester. -/
def openSession (requester : EntityId) (distinct : requester ≠ e) : State :=
  let session : TradeSession := ⟨requester, e, .default, .default, distinct⟩
  (State.assign { s with sessions := s.sessions ++ [session] } requester
    (some s.sessions.length)).goto e (.joining s.sessions.length requester)

def changeOffer (trade : ℕ) (change : OfferChange) : State :=
  (s.modify trade fun session => (session.modifyOffer e change.apply).resetConfirmed).goto e .idle

def confirm (trade : ℕ) (session : TradeSession) : State :=
  let confirmed : TradeOffer → TradeOffer := fun offer => { offer with confirmed := true }
  (s.modify trade fun session => session.modifyOffer e confirmed).goto e
    (if (session.modifyOffer e confirmed).bothConfirmed then .resolving trade else .idle)

def resolve (trade : ℕ) (session : TradeSession) : State :=
  s.goto e (if session.entityA ∈ s.entityCharacters ∧ session.entityB ∈ s.entityCharacters
    then .executing trade else .resetting trade)

def resume (executes : Bool) : Task → Option State
  | .offline | .idle => none
  | .requesting target =>
      some (State.goto { s with
        pendingTradeRequests := Function.update s.pendingTradeRequests target (some e) } e .idle)
  | .accepting requester =>
      -- nobody's request is addressed to themselves
      if distinct : requester ≠ e then some (s.openSession e requester distinct) else none
  | .joining trade _ => some ((s.assign e (some trade)).goto e .idle)
  | .offering trade change => some (s.changeOffer e trade change)
  | .confirming trade => s.sessions[trade]?.map (s.confirm e trade)
  | .resolving trade => s.sessions[trade]?.map (s.resolve e trade)
  | .executing trade => some (s.goto e (if executes then .removingA trade else .resetting trade))
  | .resetting trade => some ((s.modify trade TradeSession.resetConfirmed).goto e .idle)
  | .removingA trade => s.sessions[trade]?.map fun session =>
      (s.assign session.entityA none).goto e (.removingB trade)
  | .removingB trade => s.sessions[trade]?.map fun session =>
      (s.assign session.entityB none).goto e .idle
  | .cancelling trade leaving =>
      let s := match s.other e trade with
        | none => s
        | some other => s.assign other none
      some (s.goto e (if leaving then .offline else .idle))
  | .leavingCharacter =>
      some (State.goto { s with entityCharacters := s.entityCharacters.erase e } e .leavingRequest)
  | .leavingRequest =>
      some (State.goto { s with
        pendingTradeRequests := Function.update s.pendingTradeRequests e none } e .leavingTrade)
  | .leavingTrade => some (s.take e true)

end State

/-- A message is handled by a task that is idle; an `Error` is the answer where nothing
changes. -/
def step (s : State) : Label → Option State
  | .connect e =>
      if s.task e = .offline then
        some (State.goto { s with entityCharacters := insert e s.entityCharacters } e .idle)
      else none
  | .tradeRequest e target =>
      if s.task e = .idle then
        some (if target ≠ e ∧ target ∈ s.entityCharacters then s.goto e (.requesting target) else s)
      else none
  | .tradeRequestResponse e accept =>
      if s.task e = .idle then
        match s.pendingTradeRequests e with
        | none => some s
        | some requester =>
            let s := { s with
              pendingTradeRequests := Function.update s.pendingTradeRequests e none }
            some (if accept then s.goto e (.accepting requester) else s)
      else none
  | .tradeOffer e change =>
      if s.task e = .idle then
        some (match s.activeTrades e with
          | none => s
          | some trade => s.goto e (.offering trade change))
      else none
  | .tradeConfirm e =>
      if s.task e = .idle then
        some (match s.activeTrades e with
          | none => s
          | some trade => s.goto e (.confirming trade))
      else none
  | .tradeCancel e => if s.task e = .idle then some (s.take e false) else none
  | .disconnect e => if s.task e = .idle then some (s.goto e .leavingCharacter) else none
  | .fail e => if s.task e = .idle then some (s.goto e .offline) else none
  | .resume e executes => s.resume e executes (s.task e)

/-- Nobody is connected. -/
def start : State := ⟨∅, fun _ => none, [], fun _ => none, fun _ => .offline⟩

/-- No handler is between two of its sections. -/
def Quiet (s : State) : Prop := ∀ e, s.task e = .idle ∨ s.task e = .offline

def State.Connected (s : State) (e : EntityId) : Prop := s.task e ≠ .offline

/-- Whoever is mapped to a trade is a participant of it, the other one is mapped to it as well,
and both are connected. -/
def Paired (s : State) : Prop :=
  ∀ e trade, s.activeTrades e = some trade → ∃ other, s.other e trade = some other ∧
    s.activeTrades other = some trade ∧ s.Connected e ∧ s.Connected other

/-! ### Undisturbed sections -/

/-- The task enters the trade under its own entity next. -/
def Task.joins (trade : ℕ) : Task → Bool
  | .joining trade' _ => trade' = trade
  | _ => false

/-- The task removes the trade under the other participant next. -/
def Task.cancels (trade : ℕ) : Task → Bool
  | .cancelling trade' _ => trade' = trade
  | _ => false

/-- The cleanup of the task has not come past the trade. -/
def Task.present : Task → Bool
  | .offline | .cancelling _ true => false
  | _ => true

/-- The entry is none that the other participant relies on, or is about to. -/
def droppable (s : State) (e : EntityId) : Bool :=
  (s.activeTrades e).all fun trade => (s.other e trade).all fun other =>
    s.activeTrades other ≠ some trade && !(s.task other).joins trade

/-- The section overwrites or removes no entry that somebody relies on, and enters no trade
under a participant that has been cleaned up, or has given the trade up. Nobody returns past
the cleanup with a trade. -/
def undisturbed (s : State) : Label → Bool
  | .fail e => s.activeTrades e = none
  | .resume e _ =>
      match s.task e with
      | .accepting requester =>
          (s.task requester).present && (droppable s requester ||
            (s.activeTrades requester).any fun trade => s.other requester trade = some e)
      | .joining trade requester =>
          (s.activeTrades requester = some trade || (s.task requester).cancels trade) &&
            droppable s e
      | .removingA trade =>
          s.sessions[trade]?.all fun session =>
            s.activeTrades session.entityA = some trade || droppable s session.entityA
      | .removingB trade =>
          s.sessions[trade]?.all fun session => droppable s session.entityB
      | .cancelling trade _ => (s.other e trade).all fun other => droppable s other
      | _ => true
  | _ => true

variable {s t : State} {e x o : EntityId} {trade : ℕ}

/-! ### The participants of a trade -/

theorem session_other_symm (session : TradeSession) (found : session.other e = some o) :
    session.other o = some e := by
  unfold TradeSession.other at found ⊢
  split at found
  next a =>
    cases found
    rw [if_neg session.distinct.symm, if_pos rfl, a]
  · split at found
    next b =>
      cases found
      rw [if_pos rfl, b]
    · cases found

theorem State.other_symm (found : s.other e trade = some o) : s.other o trade = some e := by
  obtain ⟨session, here, found⟩ := Option.bind_eq_some_iff.mp found
  exact Option.bind_eq_some_iff.mpr ⟨session, here, session_other_symm session found⟩

/-- The sessions keep their participants, and no session is lost. -/
def SameParties (s t : State) : Prop :=
  ∀ (trade : ℕ) (session : TradeSession), s.sessions[trade]? = some session →
    ∃ session' : TradeSession, t.sessions[trade]? = some session' ∧
      session'.entityA = session.entityA ∧ session'.entityB = session.entityB

theorem SameParties.refl (s : State) : SameParties s s :=
  fun _ session here => ⟨session, here, rfl, rfl⟩

theorem SameParties.other (same : SameParties s t) (found : s.other e trade = some o) :
    t.other e trade = some o := by
  obtain ⟨session, here, found⟩ := Option.bind_eq_some_iff.mp found
  obtain ⟨session', here', a, b⟩ := same trade session here
  refine Option.bind_eq_some_iff.mpr ⟨session', here', ?_⟩
  unfold TradeSession.other at found ⊢
  rwa [a, b]

theorem sameParties_modify {f : TradeSession → TradeSession}
    (keeps : ∀ session, (f session).entityA = session.entityA ∧
      (f session).entityB = session.entityB) : SameParties s (s.modify trade f) := by
  intro trade' session here
  simp only [State.modify, List.getElem?_modify, here, Option.map_eq_map, Option.map_some,
    Option.some.injEq, exists_eq_left']
  split
  · exact keeps session
  · exact ⟨rfl, rfl⟩

theorem modifyOffer_parties (session : TradeSession) (f : TradeOffer → TradeOffer) :
    (session.modifyOffer e f).entityA = session.entityA ∧
      (session.modifyOffer e f).entityB = session.entityB := by
  unfold TradeSession.modifyOffer
  split
  · exact ⟨rfl, rfl⟩
  · split <;> exact ⟨rfl, rfl⟩

/-! ### The invariant -/

/-- Why the other participant need not be mapped to the trade at the moment: it is about to
enter it, it is about to remove it here, an execution is, or the entry here is about to be
overwritten by another trade with it. -/
def Underway (s : State) (e : EntityId) (trade : ℕ) (o : EntityId) : Prop :=
  (s.task o).joins trade = true ∨ (s.task o).cancels trade = true ∨
    (∃ x session, s.task x = .removingB trade ∧ s.sessions[trade]? = some session ∧
      session.entityB = e) ∨
    ∃ trade', s.task e = .joining trade' o

structure Inv (s : State) : Prop where
  participant : ∀ e trade, s.activeTrades e = some trade → ∃ o, s.other e trade = some o
  paired : ∀ e trade o, s.activeTrades e = some trade → s.other e trade = some o →
    s.activeTrades o = some trade ∨ Underway s e trade o
  present : ∀ e trade, s.activeTrades e = some trade → (s.task e).present = true
  joining : ∀ e trade r, s.task e = .joining trade r → s.other e trade = some r

theorem inv_start : Inv start := by
  constructor <;> simp [start]

/-- In a quiet state there is nothing underway. -/
theorem Inv.paired_of_quiet (inv : Inv s) (quiet : Quiet s) : Paired s := by
  have connected : ∀ e trade, s.activeTrades e = some trade → s.Connected e := by
    intro e trade here offline
    have present := inv.present e trade here
    rw [offline] at present
    cases present
  intro e trade here
  obtain ⟨o, other⟩ := inv.participant e trade here
  have there : s.activeTrades o = some trade := by
    obtain there | joins | cancels | ⟨x, -, removing, -⟩ | ⟨trade', joins⟩ :=
      inv.paired e trade o here other
    · exact there
    · obtain idle | offline := quiet o <;> simp_all [Task.joins]
    · obtain idle | offline := quiet o <;> simp_all [Task.cancels]
    · obtain idle | offline := quiet x <;> simp_all
    · obtain idle | offline := quiet e <;> simp_all
  exact ⟨o, other, there, connected e trade here, connected o trade there⟩

/-- The task has no part in a trade that is underway. -/
def Task.neutral : Task → Bool
  | .joining .. | .cancelling .. | .removingB _ => false
  | _ => true

/-- What is underway stays so, unless the task that takes its section was the one to do it. -/
theorem Underway.persist {e₁ o₁ : EntityId} (h : Underway s e₁ trade o₁)
    (tasks : ∀ y ≠ x, t.task y = s.task y) (parties : SameParties s t)
    (joins : o₁ = x → (s.task x).joins trade = false)
    (cancels : o₁ = x → (s.task x).cancels trade = false)
    (removes : ∀ session : TradeSession, s.task x = .removingB trade →
      s.sessions[trade]? = some session → session.entityB ≠ e₁)
    (overwrites : e₁ = x → ∀ trade', s.task x ≠ .joining trade' o₁) :
    Underway t e₁ trade o₁ := by
  obtain joining | cancelling | ⟨y, session, removing, here, b⟩ | ⟨trade', joining⟩ := h
  · refine .inl ?_
    rwa [tasks]
    rintro rfl
    rw [joins rfl] at joining
    cases joining
  · refine .inr (.inl ?_)
    rwa [tasks]
    rintro rfl
    rw [cancels rfl] at cancelling
    cases cancelling
  · obtain ⟨session', here', -, b'⟩ := parties trade session here
    refine .inr (.inr (.inl ⟨y, session', ?_, here', b'.trans b⟩))
    rwa [tasks]
    rintro rfl
    exact removes session removing here b
  · refine .inr (.inr (.inr ⟨trade', ?_⟩))
    rwa [tasks]
    rintro rfl
    exact overwrites rfl trade' joining

theorem Underway.keep {e₁ o₁ : EntityId} (h : Underway s e₁ trade o₁)
    (tasks : ∀ y ≠ x, t.task y = s.task y) (parties : SameParties s t)
    (own : (s.task x).neutral = true) : Underway t e₁ trade o₁ := by
  refine h.persist tasks parties (fun _ => ?_) (fun _ => ?_) (fun _ removing => ?_)
    (fun _ _ joining => ?_)
  · cases task : s.task x <;> simp_all [Task.joins, Task.neutral]
  · cases task : s.task x <;> simp_all [Task.cancels, Task.neutral]
  · simp [removing, Task.neutral] at own
  · simp [joining, Task.neutral] at own

/-- A section that leaves the table alone. -/
structure Moves (s t : State) (x : EntityId) : Prop where
  active : t.activeTrades = s.activeTrades
  parties : SameParties s t
  tasks : ∀ y ≠ x, t.task y = s.task y
  underway : ∀ e trade o, s.other e trade = some o → Underway s e trade o → Underway t e trade o
  present : ∀ trade, s.activeTrades x = some trade → (t.task x).present = true
  joining : ∀ trade o, t.task x ≠ .joining trade o

theorem Inv.move (inv : Inv s) (h : Moves s t x) : Inv t where
  participant e trade here := by
    rw [h.active] at here
    obtain ⟨o, other⟩ := inv.participant e trade here
    exact ⟨o, h.parties.other other⟩
  paired e trade o here other := by
    rw [h.active] at here ⊢
    obtain ⟨o', other'⟩ := inv.participant e trade here
    cases Option.some.inj (other.symm.trans (h.parties.other other'))
    exact (inv.paired e trade o here other').imp_right (h.underway e trade o other')
  present e trade here := by
    rw [h.active] at here
    by_cases itself : e = x
    · exact itself ▸ h.present trade (itself ▸ here)
    · rw [h.tasks e itself]
      exact inv.present e trade here
  joining e trade r task := by
    by_cases itself : e = x
    · subst itself
      exact absurd task (h.joining trade r)
    · rw [h.tasks e itself] at task
      exact h.parties.other (inv.joining e trade r task)

/-! ### The sections that change the table -/

theorem other_ne (found : s.other e trade = some o) : o ≠ e := by
  obtain ⟨session, -, found⟩ := Option.bind_eq_some_iff.mp found
  rintro rfl
  unfold TradeSession.other at found
  split at found
  next a => exact session.distinct (a.symm.trans (Option.some.inj found).symm)
  · split at found
    next other b => exact other (Option.some.inj found).symm
    · cases found

theorem relied_of_not_droppable {e' : EntityId} (here : s.activeTrades o = some trade)
    (other : s.other o trade = some e') (relied : s.activeTrades e' = some trade) :
    droppable s o = false := by
  simp [droppable, here, other, relied]

variable {task' : Task}

/-- An entry is removed, and whoever relied on it has something underway. -/
theorem Inv.drop (inv : Inv s)
    (kept : ∀ e trade o₁, e ≠ o → Underway s e trade o₁ → s.other e trade = some o₁ →
      Underway ((s.assign o none).goto x task') e trade o₁)
    (lost : ∀ e trade, s.activeTrades o = some trade → s.other o trade = some e →
      s.activeTrades e = some trade → Underway ((s.assign o none).goto x task') e trade o)
    (neutral : ∀ trade r, task' ≠ .joining trade r)
    (present : ∀ trade, x ≠ o → s.activeTrades x = some trade → task'.present = true) :
    Inv ((s.assign o none).goto x task') := by
  have remains : ∀ {e trade}, (s.assign o none).activeTrades e = some trade →
      e ≠ o ∧ s.activeTrades e = some trade := by
    intro e trade here
    have other : e ≠ o := by
      rintro rfl
      simp [State.assign] at here
    exact ⟨other, by simpa only [State.assign, Function.update_of_ne other] using here⟩
  refine ⟨fun e trade here => ?_, fun e trade o₁ here other => ?_, fun e trade here => ?_,
    fun e trade r task => ?_⟩
  · exact inv.participant e trade (remains here).2
  · obtain ⟨different, before⟩ := remains here
    obtain there | underway := inv.paired e trade o₁ before other
    · by_cases dropped : o₁ = o
      · subst dropped
        exact .inr (lost e trade there (State.other_symm other) before)
      · refine .inl ?_
        simpa only [State.goto, State.assign, Function.update_of_ne dropped] using there
    · exact .inr (kept e trade o₁ different underway other)
  · obtain ⟨different, before⟩ := remains here
    by_cases itself : e = x
    · subst itself
      simpa [State.goto] using present trade different before
    · simpa only [State.goto, State.assign, Function.update_of_ne itself] using
        inv.present e trade before
  · by_cases itself : e = x
    · subst itself
      simp only [State.goto, Function.update_self] at task
      exact absurd task (neutral trade r)
    · simp only [State.goto, Function.update_of_ne itself] at task
      exact inv.joining e trade r task

theorem goto_task_of_ne {y : EntityId} (other : y ≠ x) : (s.goto x task').task y = s.task y :=
  Function.update_of_ne other ..

@[simp] theorem goto_task_self : (s.goto x task').task x = task' := Function.update_self ..

theorem sameParties_goto : SameParties s ((s.assign o none).goto x task') := .refl s

/-- The own entry is taken by a cancel or by the cleanup. -/
theorem Inv.take {leaving : Bool} (inv : Inv s) (neutral : (s.task x).neutral = true) :
    Inv (s.take x leaving) := by
  unfold State.take
  cases here : s.activeTrades x with
  | none =>
      refine inv.move (x := x) ⟨rfl, .refl s, fun y other => goto_task_of_ne other,
        fun _ _ _ _ underway =>
          underway.keep (fun y other => goto_task_of_ne other) (.refl s) neutral,
        fun trade there => ?_, fun _ _ joins => ?_⟩
      · cases here.symm.trans there
      · cases leaving <;> simp at joins
  | some trade =>
      refine inv.drop (fun e trade' o₁ _ underway _ => ?_) (fun e trade' there _ _ => ?_)
        (fun _ _ joins => by cases joins) (fun _ itself => absurd rfl itself)
      · exact underway.keep (fun y other => goto_task_of_ne other) sameParties_goto neutral
      · cases here.symm.trans there
        exact .inr (.inl (by simp [Task.cancels]))

/-- A cancel or a cleanup is through with what was underway with it alone. -/
theorem Underway.cancelled {e₁ o₁ : EntityId} {trade' : ℕ} {leaving : Bool}
    (h : Underway s e₁ trade' o₁) (own : s.task x = .cancelling trade leaving)
    (apart : o₁ = x → trade ≠ trade') (tasks : ∀ y ≠ x, t.task y = s.task y)
    (parties : SameParties s t) : Underway t e₁ trade' o₁ := by
  refine h.persist tasks parties (fun _ => by rw [own]; rfl) (fun itself => ?_)
    (fun _ removing => ?_) (fun _ _ joining => ?_)
  · rw [own]
    exact decide_eq_false (apart itself)
  · cases own.symm.trans removing
  · cases own.symm.trans joining

/-- The entry of the other participant is removed by a cancel or by the cleanup. -/
theorem Inv.cancel {leaving : Bool} (inv : Inv s) (own : s.task x = .cancelling trade leaving)
    (safe : ∀ o, s.other x trade = some o → droppable s o = true) :
    Inv (State.goto (match s.other x trade with | none => s | some other => s.assign other none) x
      (if leaving then .offline else .idle)) := by
  have present : ∀ trade', s.activeTrades x = some trade' →
      (if leaving then Task.offline else .idle).present = true := by
    intro trade' here
    have present := inv.present x trade' here
    rw [own] at present
    cases leaving with
    | false => rfl
    | true => cases present
  have joins : ∀ trade' o, (if leaving then Task.offline else .idle) ≠ .joining trade' o := by
    intro trade' o
    split <;> simp
  cases other : s.other x trade with
  | none =>
      refine inv.move (x := x) ⟨rfl, .refl s, fun y other => goto_task_of_ne other,
        fun e trade' o₁ its underway => ?_, by simpa using present, by simpa using joins⟩
      refine underway.cancelled own ?_ (fun y other => goto_task_of_ne other) (.refl s)
      rintro rfl rfl
      cases other.symm.trans (State.other_symm its)
  | some o =>
      refine inv.drop (fun e trade' o₁ different underway its => ?_)
        (fun e trade' here its relied => ?_) joins (fun trade' _ => present trade')
      · refine underway.cancelled own ?_ (fun y other => goto_task_of_ne other) sameParties_goto
        -- the other participant of the same trade is the one whose entry is removed
        rintro rfl rfl
        exact different (Option.some.inj ((State.other_symm its).symm.trans other))
      · have free := safe o other
        rw [relied_of_not_droppable here its relied] at free
        cases free

theorem Inv.removeA {session : TradeSession} (inv : Inv s) (own : s.task x = .removingA trade)
    (here : s.sessions[trade]? = some session)
    (safe : s.activeTrades session.entityA = some trade ∨ droppable s session.entityA = true) :
    Inv ((s.assign session.entityA none).goto x (.removingB trade)) := by
  have neutral : (s.task x).neutral = true := by
    rw [own]
    rfl
  refine inv.drop (fun e trade' o₁ _ underway _ => ?_) (fun e trade' there its relied => ?_)
    (fun _ _ joins => by cases joins) (fun _ _ _ => rfl)
  · exact underway.keep (fun y other => goto_task_of_ne other) sameParties_goto neutral
  · obtain executed | free := safe
    · obtain rfl : trade = trade' := Option.some.inj (executed.symm.trans there)
      have b : session.entityB = e := by
        simpa [State.other, here, TradeSession.other] using its
      exact .inr (.inr (.inl ⟨x, session, goto_task_self, here, b⟩))
    · rw [relied_of_not_droppable there its relied] at free
      cases free

theorem Inv.removeB {session : TradeSession} (inv : Inv s) (own : s.task x = .removingB trade)
    (here : s.sessions[trade]? = some session) (safe : droppable s session.entityB = true) :
    Inv ((s.assign session.entityB none).goto x .idle) := by
  refine inv.drop (fun e trade' o₁ different underway _ => ?_) (fun e trade' there its relied => ?_)
    (fun _ _ joins => by cases joins) (fun _ _ _ => rfl)
  · refine underway.persist (fun y other => goto_task_of_ne other) sameParties_goto
      (fun _ => by rw [own]; rfl) (fun _ => by rw [own]; rfl) (fun session' removing there b => ?_)
      (fun _ _ joining => ?_)
    · obtain rfl : trade = trade' := by simpa [own] using removing
      cases here.symm.trans there
      exact different b.symm
    · cases own.symm.trans joining
  · rw [relied_of_not_droppable there its relied] at safe
    cases safe

theorem sameParties_append (session : TradeSession) :
    SameParties s { s with sessions := s.sessions ++ [session] } := by
  intro trade session' here
  have bound := (List.getElem?_eq_some_iff.mp here).1
  exact ⟨session', by rwa [List.getElem?_append_left bound], rfl, rfl⟩

/-- An accepted request: the requester is mapped to the trade, the task enters it next. -/
theorem Inv.openSession (inv : Inv s) (own : s.task x = .accepting o) (distinct : o ≠ x)
    (there : (s.task o).present = true)
    (safe : droppable s o = true ∨ ∃ trade, s.activeTrades o = some trade ∧
      s.other o trade = some x) : Inv (s.openSession x o distinct) := by
  have parties : SameParties s (s.openSession x o distinct) := sameParties_append _
  have neutral : (s.task x).neutral = true := by
    rw [own]
    rfl
  have entered : (s.openSession x o distinct).activeTrades o = some s.sessions.length :=
    Function.update_self ..
  have entry : ∀ {e}, e ≠ o → (s.openSession x o distinct).activeTrades e = s.activeTrades e :=
    fun other => Function.update_of_ne other ..
  have waiting : (s.openSession x o distinct).task x = .joining s.sessions.length o :=
    goto_task_self
  have tasks : ∀ e ≠ x, (s.openSession x o distinct).task e = s.task e :=
    fun e other => goto_task_of_ne other
  have opened : (s.openSession x o distinct).other o s.sessions.length = some x := by
    simp [State.other, State.openSession, State.goto, State.assign, TradeSession.other]
  refine ⟨fun e trade here => ?_, fun e trade o₁ here other => ?_, fun e trade here => ?_,
    fun e trade r task => ?_⟩
  · by_cases requester : e = o
    · subst requester
      cases entered.symm.trans here
      exact ⟨x, opened⟩
    · rw [entry requester] at here
      obtain ⟨o₁, other⟩ := inv.participant e trade here
      exact ⟨o₁, parties.other other⟩
  · by_cases requester : e = o
    · subst requester
      cases entered.symm.trans here
      cases opened.symm.trans other
      exact .inr (.inl (by simp [waiting, Task.joins]))
    · rw [entry requester] at here
      obtain ⟨o₂, before⟩ := inv.participant e trade here
      cases other.symm.trans (parties.other before)
      obtain relied | underway := inv.paired e trade o₁ here before
      · by_cases overwritten : o₁ = o
        · subst overwritten
          -- only the task itself may rely on the entry, and it is about to overwrite its own
          have back := State.other_symm before
          obtain free | ⟨trade', relied', mine⟩ := safe
          · rw [relied_of_not_droppable relied back here] at free
            cases free
          · cases relied.symm.trans relied'
            cases back.symm.trans mine
            exact .inr (.inr (.inr (.inr ⟨_, waiting⟩)))
        · exact .inl ((entry overwritten).trans relied)
      · exact .inr (underway.keep tasks parties neutral)
  · by_cases itself : e = x
    · rw [itself, waiting]
      rfl
    · rw [tasks e itself]
      by_cases requester : e = o
      · rwa [requester]
      · exact inv.present e trade ((entry requester).symm.trans here)
  · by_cases itself : e = x
    · subst itself
      cases waiting.symm.trans task
      exact State.other_symm opened
    · exact parties.other (inv.joining e trade r ((tasks e itself).symm.trans task))

/-- The accepting player enters the trade under its own entity. -/
theorem Inv.join (inv : Inv s) (own : s.task x = .joining trade o)
    (waited : s.activeTrades o = some trade ∨ (s.task o).cancels trade = true)
    (safe : droppable s x = true) : Inv ((s.assign x (some trade)).goto x .idle) := by
  have other := inv.joining x trade o own
  have distinct := other_ne other
  have entered : ((s.assign x (some trade)).goto x .idle).activeTrades x = some trade :=
    Function.update_self ..
  have entry : ∀ {e}, e ≠ x →
      ((s.assign x (some trade)).goto x .idle).activeTrades e = s.activeTrades e :=
    fun other => Function.update_of_ne other ..
  have tasks : ∀ e ≠ x, ((s.assign x (some trade)).goto x .idle).task e = s.task e :=
    fun e other => goto_task_of_ne other
  refine ⟨fun e trade' here => ?_, fun e trade' o₁ here its => ?_, fun e trade' here => ?_,
    fun e trade' r task => ?_⟩
  · by_cases itself : e = x
    · subst itself
      cases entered.symm.trans here
      exact ⟨o, other⟩
    · exact inv.participant e trade' ((entry itself).symm.trans here)
  · by_cases itself : e = x
    · subst itself
      cases entered.symm.trans here
      cases other.symm.trans its
      exact waited.imp (entry distinct).trans fun cancels =>
        .inr (.inl (by rwa [tasks o distinct]))
    · rw [entry itself] at here
      obtain relied | underway := inv.paired e trade' o₁ here its
      · refine .inl ((entry ?_).trans relied)
        rintro rfl
        rw [relied_of_not_droppable relied (State.other_symm its) here] at safe
        cases safe
      · by_cases joined : o₁ = x ∧ trade' = trade
        · obtain ⟨rfl, rfl⟩ := joined
          exact .inl entered
        · refine .inr (underway.persist tasks (.refl s) (fun mine => ?_) (fun _ => ?_)
            (fun _ removing => ?_) (fun mine => absurd mine itself))
          · rw [own]
            exact decide_eq_false fun same => joined ⟨mine, same.symm⟩
          · rw [own]
            rfl
          · cases own.symm.trans removing
  · by_cases itself : e = x
    · rw [itself, goto_task_self]
      rfl
    · rw [tasks e itself]
      exact inv.present e trade' ((entry itself).symm.trans here)
  · by_cases itself : e = x
    · subst itself
      cases goto_task_self.symm.trans task
    · exact inv.joining e trade' r ((tasks e itself).symm.trans task)

/-! ### The other sections -/

/-- A section of a task that leaves the table alone. -/
theorem Inv.proceed (inv : Inv s) (active : t.activeTrades = s.activeTrades)
    (tasks : t.task = s.task) (parties : SameParties s t) (before : (s.task x).neutral = true)
    (after : task'.neutral = true)
    (present : ∀ trade, s.activeTrades x = some trade → task'.present = true) :
    Inv (t.goto x task') := by
  have others : ∀ y ≠ x, (t.goto x task').task y = s.task y := fun y other => by
    rw [goto_task_of_ne other, tasks]
  refine inv.move (x := x) ⟨active, parties, others,
    fun _ _ _ _ underway => underway.keep others parties before, fun trade here => ?_,
    fun _ _ joins => ?_⟩
  · rw [goto_task_self]
    exact present trade here
  · rw [goto_task_self] at joins
    rw [joins] at after
    cases after

/-- A section that ends with the task idle, or goes on with the trade. -/
theorem Inv.resume {executes : Bool} (inv : Inv s)
    (ok : undisturbed s (.resume x executes) = true)
    (taken : s.resume x executes (s.task x) = some t) : Inv t := by
  simp only [undisturbed] at ok
  cases own : s.task x with
  | offline => simp [own, State.resume] at taken
  | idle => simp [own, State.resume] at taken
  | requesting target =>
      rw [own] at taken
      cases taken
      exact inv.proceed rfl rfl (.refl s) (by rw [own]; rfl) rfl (fun _ _ => rfl)
  | accepting requester =>
      rw [own] at taken ok
      simp only [Bool.and_eq_true, Bool.or_eq_true, Option.any_eq_true, decide_eq_true_eq] at ok
      simp only [State.resume, Option.dite_none_right_eq_some] at taken
      obtain ⟨distinct, taken⟩ := taken
      cases taken
      exact inv.openSession own distinct ok.1 ok.2
  | joining trade requester =>
      rw [own] at taken ok
      simp only [Bool.and_eq_true, Bool.or_eq_true, decide_eq_true_eq] at ok
      cases taken
      exact inv.join own ok.1 ok.2
  | offering trade change =>
      rw [own] at taken
      cases taken
      exact inv.proceed rfl rfl (sameParties_modify fun session => modifyOffer_parties session _)
        (by rw [own]; rfl) rfl (fun _ _ => rfl)
  | confirming trade =>
      rw [own] at taken
      obtain ⟨session, -, rfl⟩ := Option.map_eq_some_iff.mp taken
      refine inv.proceed rfl rfl (sameParties_modify fun session => modifyOffer_parties session _)
        (by rw [own]; rfl) ?_ (fun _ _ => ?_) <;> split <;> rfl
  | resolving trade =>
      rw [own] at taken
      obtain ⟨session, -, rfl⟩ := Option.map_eq_some_iff.mp taken
      refine inv.proceed rfl rfl (.refl s) (by rw [own]; rfl) ?_ (fun _ _ => ?_) <;> split <;> rfl
  | executing trade =>
      rw [own] at taken
      cases taken
      refine inv.proceed rfl rfl (.refl s) (by rw [own]; rfl) ?_ (fun _ _ => ?_) <;>
        cases executes <;> rfl
  | resetting trade =>
      rw [own] at taken
      cases taken
      exact inv.proceed rfl rfl (sameParties_modify fun _ => ⟨rfl, rfl⟩)
        (by rw [own]; rfl) rfl (fun _ _ => rfl)
  | removingA trade =>
      rw [own] at taken ok
      obtain ⟨session, here, rfl⟩ := Option.map_eq_some_iff.mp taken
      simp only [here, Option.all_some, Bool.or_eq_true, decide_eq_true_eq] at ok
      exact inv.removeA own here ok
  | removingB trade =>
      rw [own] at taken ok
      obtain ⟨session, here, rfl⟩ := Option.map_eq_some_iff.mp taken
      simp only [here, Option.all_some] at ok
      exact inv.removeB own here ok
  | cancelling trade leaving =>
      rw [own] at taken ok
      cases taken
      exact inv.cancel own fun o other => (Option.all_eq_true _ _).mp ok o other
  | leavingCharacter | leavingRequest =>
      rw [own] at taken
      cases taken
      exact inv.proceed rfl rfl (.refl s) (by rw [own]; rfl) rfl (fun _ _ => rfl)
  | leavingTrade =>
      rw [own] at taken
      cases taken
      exact inv.take (by rw [own]; rfl)

theorem Inv.step {l : Label} (inv : Inv s) (ok : undisturbed s l = true)
    (taken : step s l = some t) : Inv t := by
  have goto : ∀ {e task'}, s.task e = .idle → task'.neutral = true → task'.present = true →
      Inv (s.goto e task') := fun own after present =>
    inv.proceed rfl rfl (.refl s) (by rw [own]; rfl) after (fun _ _ => present)
  cases l with
  | connect e =>
      obtain ⟨own, taken⟩ := Option.ite_none_right_eq_some.mp taken
      cases taken
      exact inv.proceed rfl rfl (.refl s) (by rw [own]; rfl) rfl (fun _ _ => rfl)
  | tradeRequest e target =>
      obtain ⟨own, taken⟩ := Option.ite_none_right_eq_some.mp taken
      cases taken
      split
      · exact goto own rfl rfl
      · exact inv
  | tradeRequestResponse e accept =>
      obtain ⟨own, taken⟩ := Option.ite_none_right_eq_some.mp taken
      split at taken
      · cases taken
        exact inv
      · cases taken
        cases accept with
        | true => exact inv.proceed rfl rfl (.refl s) (by rw [own]; rfl) rfl (fun _ _ => rfl)
        | false => exact ⟨inv.participant, inv.paired, inv.present, inv.joining⟩
  | tradeOffer e change =>
      obtain ⟨own, taken⟩ := Option.ite_none_right_eq_some.mp taken
      cases taken
      split
      · exact inv
      · exact goto own rfl rfl
  | tradeConfirm e =>
      obtain ⟨own, taken⟩ := Option.ite_none_right_eq_some.mp taken
      cases taken
      split
      · exact inv
      · exact goto own rfl rfl
  | tradeCancel e =>
      obtain ⟨own, taken⟩ := Option.ite_none_right_eq_some.mp taken
      cases taken
      exact inv.take (by rw [own]; rfl)
  | disconnect e =>
      obtain ⟨own, taken⟩ := Option.ite_none_right_eq_some.mp taken
      cases taken
      exact goto own rfl rfl
  | fail e =>
      obtain ⟨own, taken⟩ := Option.ite_none_right_eq_some.mp taken
      cases taken
      have untraded : s.activeTrades e = none := of_decide_eq_true ok
      refine inv.proceed rfl rfl (.refl s) (by rw [own]; rfl) rfl (fun trade here => ?_)
      cases untraded.symm.trans here
  | resume e executes => exact inv.resume ok taken

/-- Whenever no handler is between two of its sections, the trades are entered under both of
their participants, who are connected. -/
theorem paired_if_undisturbed {ls : List Label}
    (legal : Admissible step (fun s l => undisturbed s l = true) start ls)
    (run : exec step start ls = some s) (quiet : Quiet s) : Paired s := by
  have preserved : ∀ s l t, Inv s → undisturbed s l = true → step s l = some t → Inv t :=
    fun _ _ _ inv ok taken => inv.step ok taken
  exact (exec_invariant preserved inv_start legal run).paired_of_quiet quiet

/-! ### Quiet states of concrete runs -/

def Label.player : Label → EntityId
  | .connect e | .tradeRequest e _ | .tradeRequestResponse e _ | .tradeOffer e _
  | .tradeConfirm e | .tradeCancel e | .disconnect e | .fail e | .resume e _ => e

theorem take_task {y : EntityId} {leaving : Bool} (other : y ≠ x) :
    (s.take x leaving).task y = s.task y := by
  unfold State.take
  split <;> exact goto_task_of_ne other

theorem resume_task {y : EntityId} {executes : Bool} (taken : s.resume x executes task' = some t)
    (other : y ≠ x) : t.task y = s.task y := by
  cases task' with
  | offline | idle => cases taken
  | requesting | joining | offering | executing | resetting | leavingCharacter | leavingRequest =>
      cases taken
      exact goto_task_of_ne other
  | accepting requester =>
      obtain ⟨_, taken⟩ := Option.dite_none_right_eq_some.mp taken
      cases taken
      exact goto_task_of_ne other
  | confirming | resolving | removingA | removingB =>
      obtain ⟨session, -, rfl⟩ := Option.map_eq_some_iff.mp taken
      exact goto_task_of_ne other
  | cancelling trade leaving =>
      cases taken
      rw [goto_task_of_ne other]
      split <;> rfl
  | leavingTrade =>
      cases taken
      exact take_task other

/-- A section belongs to one player's task. -/
theorem step_task {l : Label} {y : EntityId} (taken : step s l = some t) (other : y ≠ l.player) :
    t.task y = s.task y := by
  cases l with
  | resume e executes => exact resume_task taken other
  | connect e | disconnect e | fail e =>
      obtain ⟨-, taken⟩ := Option.ite_none_right_eq_some.mp taken
      cases taken
      exact goto_task_of_ne other
  | tradeCancel e =>
      obtain ⟨-, taken⟩ := Option.ite_none_right_eq_some.mp taken
      cases taken
      exact take_task other
  | tradeRequest e target | tradeOffer e change | tradeConfirm e =>
      obtain ⟨-, taken⟩ := Option.ite_none_right_eq_some.mp taken
      cases taken
      split
      all_goals first | rfl | exact goto_task_of_ne other
  | tradeRequestResponse e accept =>
      obtain ⟨-, taken⟩ := Option.ite_none_right_eq_some.mp taken
      split at taken
      · cases taken
        rfl
      · cases taken
        cases accept with
        | true => exact goto_task_of_ne other
        | false => rfl

/-- The players of a run are those that have to be looked at. -/
theorem quiet_of_players {ls : List Label} (run : exec step start ls = some s)
    (settled : ∀ l ∈ ls, s.task l.player = .idle ∨ s.task l.player = .offline) : Quiet s := by
  have unnamed : ∀ (ls : List Label) (t : State) (e : EntityId), exec step t ls = some s →
      (∀ l ∈ ls, e ≠ l.player) → s.task e = t.task e := by
    intro ls
    induction ls with
    | nil => exact fun t e run _ => congrArg (·.task e) (exec_nil.mp run).symm
    | cons l ls ih =>
        intro t e run other
        obtain ⟨u, taken, rest⟩ := exec_cons.mp run
        rw [ih u e rest fun l' later => other l' (List.mem_cons_of_mem _ later),
          step_task taken (other l (List.mem_cons_self ..))]
  intro e
  by_cases named : ∃ l ∈ ls, e = l.player
  · obtain ⟨l, there, rfl⟩ := named
    exact settled l there
  · exact .inr (unnamed ls start e run fun l there same => named ⟨l, there, same⟩)

/-! ### Third parties -/

namespace ThirdParty

def ada : EntityId := ⟨0⟩
def ben : EntityId := ⟨1⟩
def cas : EntityId := ⟨2⟩

/-- The target accepts the request of another player. -/
def accept (requester target : EntityId) : List Label :=
  [.tradeRequest requester target, .resume requester false, .tradeRequestResponse target true,
    .resume target false, .resume target false]

/-- Two trades are opened in turn, the first is cancelled before. -/
def inTurn : List Label :=
  [.connect ada, .connect ben, .connect cas] ++ accept ada ben ++
    [.tradeCancel ben, .resume ben false] ++ accept cas ada

theorem paired_in_turn : ∃ s, exec step start inTurn = some s ∧ Paired s ∧
    s.activeTrades cas = some 1 ∧ s.activeTrades ben = none := by
  have legal : Admissible step (fun s l => undisturbed s l = true) start inTurn := by decide
  obtain ⟨s, run, settled, trading⟩ : ∃ s, exec step start inTurn = some s ∧
      (∀ l ∈ inTurn, s.task l.player = .idle ∨ s.task l.player = .offline) ∧
      s.activeTrades cas = some 1 ∧ s.activeTrades ben = none := exec_reaches (by decide)
  exact ⟨s, run, paired_if_undisturbed legal run (quiet_of_players run settled), trading⟩

/-- A player that is in a trade already accepts the request of a third one. -/
def atOnce : List Label :=
  [.connect ada, .connect ben, .connect cas] ++ accept ada ben ++ accept cas ada

/-- The first trade is entered under one of its participants only. -/
theorem unpaired : ∃ s, exec step start atOnce = some s ∧ Quiet s ∧ ¬ Paired s := by
  obtain ⟨s, run, settled, there, here, opened⟩ : ∃ s, exec step start atOnce = some s ∧
      (∀ l ∈ atOnce, s.task l.player = .idle ∨ s.task l.player = .offline) ∧
      s.activeTrades ben = some 0 ∧ s.activeTrades ada = some 1 ∧ s.other ben 0 = some ada :=
    exec_reaches (by decide)
  refine ⟨s, run, quiet_of_players run settled, fun paired => ?_⟩
  obtain ⟨other, its, back, -⟩ := paired ben 0 there
  cases opened.symm.trans its
  cases here.symm.trans back

end ThirdParty

end WorldZero.Server.ActiveTrades
