import WorldZero.Server.TradeOnce

/-!
# What the participants of a trade are shown

`push_trade_state_both` sends each participant the trade as it is from its own side. Most pushes
are made under the lock of the session. The handler of a trade that has failed copies the session
under the lock, sends an error to its own client and then pushes the copy: by then the session
may have changed, or the error cannot be sent and the handler returns without the push, past the
cleanup of its connection.
-/

namespace WorldZero.Server.TradeViews

open Trade (TradeSession TradeOffer Entries Side Task ClientMessage)
open Character (CharacterStore)

/-- `ServerMessage::TradeStateChanged`. -/
structure TradeStateChanged where
  otherEntityId : EntityId
  yourItems : List (String × Int)
  yourCurrency : List (String × Int)
  yourConfirmed : Bool
  theirItems : List (String × Int)
  theirCurrency : List (String × Int)
  theirConfirmed : Bool
  deriving DecidableEq

def pairs (m : Entries) : List (String × Int) := m.entries.map fun e => (e.1, e.2)

theorem pairs_injective : Function.Injective pairs := fun m m' same =>
  AList.ext (List.map_injective_iff.mpr (fun ⟨_, _⟩ ⟨_, _⟩ h => by simpa using h) same)

theorem offer_ext_iff {offer offer' : TradeOffer} :
    offer = offer' ↔ pairs offer.items = pairs offer'.items ∧
      pairs offer.currency = pairs offer'.currency ∧ offer.confirmed = offer'.confirmed := by
  cases offer
  cases offer'
  simp [pairs_injective.eq_iff]

-- the equality of association lists does not evaluate
instance (offer offer' : TradeOffer) : Decidable (offer = offer') :=
  decidable_of_iff _ offer_ext_iff.symm

def buildTradeState (session : TradeSession) (viewer : EntityId) : Option TradeStateChanged := do
  let otherEntityId ← session.other viewer
  let yourOffer ← session.offer viewer
  let theirOffer ← session.offer otherEntityId
  pure {
    otherEntityId
    yourItems := pairs yourOffer.items
    yourCurrency := pairs yourOffer.currency
    yourConfirmed := yourOffer.confirmed
    theirItems := pairs theirOffer.items
    theirCurrency := pairs theirOffer.currency
    theirConfirmed := theirOffer.confirmed }

/-- Where the handler of a participant is, beyond its task. -/
inductive Stage where
  | following
  /-- The confirmations have been reset, the error is being sent and the copy is to be pushed. -/
  | pushing (snapshot : TradeSession)
  /-- The handler has returned past the cleanup of its connection. -/
  | ended

structure State where
  trade : Trade.State
  stage : Side → Stage
  /-- The last `TradeStateChanged` that has been delivered. -/
  shown : Side → Option TradeStateChanged

inductive Label where
  | trade (label : Trade.Label)
  /-- The error has been sent, the copy is pushed. -/
  | push (x : Side)
  /-- A reply cannot be sent. -/
  | fail (x : Side)

def Stage.isFollowing : Stage → Bool
  | .following => true
  | _ => false

def Stage.snapshot : Stage → Option TradeSession
  | .pushing snapshot => some snapshot
  | _ => none

/-- The cleanup has taken the connection out of `global_sessions`. -/
def left : Task → Bool
  | .leaving | .cancelling true | .announcing true | .gone => true
  | _ => false

/-- The participant whose task takes the step. -/
def actor : Trade.Label → Option Side
  | .receive x _ | .disconnect x | .resume x _ => some x
  | .database _ => none

namespace State

variable (v : State)

def reachable (y : Side) : Bool :=
  match v.stage y with
  | .ended => false
  | _ => !left (v.trade.task y)

def pushTradeStateBoth (session : TradeSession) : State :=
  { v with
    shown := fun y =>
      if v.reachable y then (buildTradeState session (session.entity y)).or (v.shown y)
      else v.shown y }

/-- After a section of the trade: what it pushes under the lock, or what it copies. -/
def after (trade : Trade.State) : Trade.Label → State
  | .resume x _ =>
      match v.trade.task x with
      | .offering _ | .notReady => { v with trade }.pushTradeStateBoth trade.session
      | .resetting =>
          { v with trade, stage := Function.update v.stage x (.pushing trade.session) }
      | _ => { v with trade }
  | _ => { v with trade }

def push (x : Side) (snapshot : TradeSession) : State :=
  { v with stage := Function.update v.stage x .following }.pushTradeStateBoth snapshot

end State

def step (store : CharacterStore) (v : State) : Label → Option State
  | .trade label =>
      if ∀ x ∈ actor label, (v.stage x).isFollowing = true then
        (Trade.step store v.trade label).map fun trade => v.after trade label
      else none
  | .push x => (v.stage x).snapshot.map (v.push x)
  | .fail x =>
      match v.stage x, v.trade.task x with
      | .pushing _, _ | .following, .idle =>
          some { v with stage := Function.update v.stage x .ended }
      | _, _ => none

/-- A request has just been accepted by the second participant, which is about to push the empty
trade. -/
def start (entityA entityB : EntityId) (distinct : entityA ≠ entityB)
    (entityCharacters : EntityId → Option CharacterId) (db : Character.Tables) : State where
  trade := (Trade.start entityA entityB distinct entityCharacters db).goto .b .notReady
  stage _ := .following
  shown _ := none

namespace State

variable (v : State)

/-- Both participants find the trade. -/
def Active : Prop := ∀ y, v.trade.active y = true

/-- No handler of the participant is between two of its steps. -/
def quiet (y : Side) : Bool :=
  match v.stage y, v.trade.task y with
  | .following, .idle | .following, .gone | .ended, _ => true
  | _, _ => false

/-- Each participant has been shown the session as it is, from its own side. -/
def Current : Prop :=
  ∀ y, v.shown y = buildTradeState v.trade.session (v.trade.entity y)

instance : Decidable v.Active := inferInstanceAs (Decidable (∀ _, _))

instance : Decidable v.Current := inferInstanceAs (Decidable (∀ _, _))

end State

/-- A copy is pushed while it still is what the session is, unless the trade has ended or the
other handler has a push to come. No reply fails to be sent in a trade that has not ended. -/
def PushesCurrent (v : State) : Label → Prop
  | .trade _ => True
  | .push x => v.Active → v.quiet x.other = true → ∀ snapshot ∈ (v.stage x).snapshot,
      snapshot.offerA = v.trade.session.offerA ∧ snapshot.offerB = v.trade.session.offerB
  | .fail _ => ¬ v.Active

instance (v : State) : ∀ l, Decidable (PushesCurrent v l)
  | .trade _ => isTrue trivial
  | .push x => inferInstanceAs (Decidable (v.Active → v.quiet x.other = true →
      ∀ snapshot ∈ (v.stage x).snapshot,
        snapshot.offerA = v.trade.session.offerA ∧ snapshot.offerB = v.trade.session.offerB))
  | .fail _ => inferInstanceAs (Decidable (¬ v.Active))

theorem after_trade {v : State} {t : Trade.State} {l : Trade.Label} :
    (v.after t l).trade = t := by
  unfold State.after
  split
  · split <;> rfl
  · rfl

/-- The step of the trade alone. -/
def Label.tradeLabel : Label → Option Trade.Label
  | .trade label => some label
  | _ => none

/-- Without the pushes a run is one of the trade. -/
theorem exec_trade {store : CharacterStore} {v w : State} {ls : List Label}
    (run : Transition.exec (step store) v ls = some w) :
    Transition.exec (Trade.step store) v.trade (ls.filterMap Label.tradeLabel) = some w.trade := by
  induction ls generalizing v with
  | nil => exact congrArg (fun v => some v.trade) (Transition.exec_nil.mp run)
  | cons l ls ih =>
      obtain ⟨u, taken, rest⟩ := Transition.exec_cons.mp run
      have rest := ih rest
      cases l with
      | trade label =>
          simp only [step] at taken
          split at taken
          · obtain ⟨t, moved, rfl⟩ := Option.map_eq_some_iff.mp taken
            rw [after_trade] at rest
            exact Transition.exec_cons.mpr ⟨t, moved, rest⟩
          · cases taken
      | push x =>
          obtain ⟨snapshot, -, rfl⟩ := Option.map_eq_some_iff.mp taken
          exact rest
      | fail x =>
          simp only [step] at taken
          split at taken <;> cases taken
          all_goals exact rest

/-! ### The sections of the trade -/

/-- The task has removed an entry of the trade. -/
def endsTrade : Task → Bool
  | .removingB | .cancelling _ | .announcing _ | .gone => true
  | _ => false

/-- What every section keeps. -/
structure Advances (s t : Trade.State) : Prop where
  entity : t.session.entity = s.session.entity
  active : ∀ y, t.active y = true → s.active y = true
  ending : ∀ y, endsTrade (t.task y) = true → endsTrade (s.task y) = true ∨ ∃ z, t.active z = false

namespace Advances

variable {s t u : Trade.State} {x : Side} {task : Task}

theorem refl (s : Trade.State) : Advances s s := ⟨rfl, fun _ => id, fun _ => .inl⟩

/-- The entities, the entries and the tasks are all that is read. -/
theorem congr (h : Advances s t) (entity : u.session.entity = t.session.entity)
    (entries : u.activeTrades = t.activeTrades) (tasks : u.task = t.task) : Advances s u := by
  have same : ∀ y, u.active y = t.active y := fun y => by
    simp only [Trade.State.active, Trade.State.entity, entity, entries]
  refine ⟨entity.trans h.entity, fun y here => h.active y (same y ▸ here), fun y ends => ?_⟩
  rw [tasks] at ends
  refine (h.ending y ends).imp_right ?_
  rintro ⟨z, absent⟩
  exact ⟨z, (same z).trans absent⟩

theorem goto (stays : endsTrade task = true → endsTrade (s.task x) = true) :
    Advances s (s.goto x task) where
  entity := rfl
  active _ := id
  ending y ends := by
    obtain rfl | rfl := x.eq_or_eq_other y
    · exact .inl (stays (by simpa using ends))
    · exact .inl (by simpa using ends)

/-- A section that removes the entry of a participant. -/
theorem remove (x y : Side) (task : Task) :
    Advances s ((s.goto x task).removeTrade (s.entity y)) where
  entity := rfl
  active z here := by
    rw [Trade.active_removeTrade, Bool.and_eq_true] at here
    exact here.1
  ending _ _ := .inr ⟨y, by simp [Trade.State.entity]⟩

theorem findTrade (continues : endsTrade task = false) : Advances s (s.findTrade x task) := by
  refine goto fun ends => ?_
  split at ends
  · rw [continues] at ends
    cases ends
  · cases ends

theorem receive (message : ClientMessage) : Advances s (s.receive x message) := by
  cases message with
  | tradeOfferItem itemType quantity =>
      simp only [Trade.State.receive]
      split
      · exact refl s
      · exact findTrade rfl
  | tradeOfferCurrency currencyKey amount =>
      simp only [Trade.State.receive]
      split
      · exact refl s
      · exact findTrade rfl
  | tradeConfirm => exact findTrade rfl
  | tradeCancel => exact remove x x _

theorem resume {store : CharacterStore} {fails : Bool} (own : s.task x = task)
    (taken : s.resume x store fails task = some t) : Advances s t := by
  have moves : ∀ task', endsTrade task' = false → Advances s (s.goto x task') := by
    intro task' continues
    refine goto fun ends => ?_
    rw [continues] at ends
    cases ends
  cases task with
  | idle | gone => cases taken
  | offering change =>
      cases taken
      exact (moves .idle rfl).congr (by simp [Trade.State.changeOffer, Trade.State.entity]) rfl rfl
  | confirming =>
      cases taken
      refine (moves (if (s.session.confirm x).bothConfirmed then .reading else .notReady) ?_).congr
        (TradeSession.entity_confirm _ x) rfl rfl
      split <;> rfl
  | notReady | reading =>
      cases taken
      exact moves _ rfl
  | resolving offers =>
      cases taken
      unfold Trade.State.resolve
      split
      · exact (moves _ rfl).congr rfl rfl rfl
      · exact moves _ rfl
  | executing offers characterA characterB =>
      cases taken
      unfold Trade.State.finish
      split <;> exact (moves _ rfl).congr rfl rfl rfl
  | resetting =>
      cases taken
      exact (moves .idle rfl).congr (TradeSession.entity_resetConfirmed _) rfl rfl
  | removingA =>
      cases taken
      exact remove x .a _
  | removingB =>
      cases taken
      exact remove x .b _
  | cancelling thenGone =>
      cases taken
      simp only [Trade.State.dropOther, Trade.State.entity, TradeSession.other_entity]
      exact remove x x.other _
  | announcing thenGone =>
      cases taken
      have moved : Advances s (s.goto x (if thenGone then .gone else .idle)) :=
        goto fun _ => by rw [own]; rfl
      exact moved.congr rfl rfl rfl
  | leaving =>
      cases taken
      exact remove x x _

theorem step {store : CharacterStore} {l : Trade.Label}
    (taken : Trade.step store s l = some t) : Advances s t := by
  cases l with
  | receive x message =>
      simp only [Trade.step] at taken
      split at taken <;> cases taken
      exact receive message
  | disconnect x =>
      simp only [Trade.step] at taken
      split at taken <;> cases taken
      have moved : Advances s (s.goto x .leaving) := goto (by rintro ⟨⟩)
      exact moved.congr rfl rfl rfl
  | resume x fails => exact resume rfl taken
  | database db =>
      cases taken
      exact (refl s).congr rfl rfl rfl

end Advances

/-- Receiving a message looks the trade up. -/
theorem session_receive (s : Trade.State) (x : Side) (message : ClientMessage) :
    (s.receive x message).session = s.session := by
  cases message with
  | tradeOfferItem | tradeOfferCurrency =>
      simp only [Trade.State.receive]
      split <;> rfl
  | tradeConfirm | tradeCancel => rfl

/-- A section moves the task of its own participant only. -/
theorem task_of_step {store : CharacterStore} {l : Trade.Label} {s t : Trade.State} {y : Side}
    (taken : Trade.step store s l = some t) (other : y ∉ actor l) : t.task y = s.task y := by
  have moved : ∀ (s : Trade.State) (x : Side) (task : Task), y ∉ some x →
      (s.goto x task).task y = s.task y := fun s x task other =>
    Function.update_of_ne (fun same => other (congrArg some same.symm)) ..
  cases l with
  | receive x message =>
      simp only [Trade.step] at taken
      split at taken <;> cases taken
      cases message with
      | tradeOfferItem | tradeOfferCurrency =>
          simp only [Trade.State.receive]
          split
          · rfl
          · exact moved s x _ other
      | tradeConfirm | tradeCancel => exact moved s x _ other
  | disconnect x =>
      simp only [Trade.step] at taken
      split at taken <;> cases taken
      exact moved s x _ other
  | resume x fails =>
      have taken : s.resume x store fails (s.task x) = some t := taken
      cases own : s.task x with
      | idle | gone =>
          rw [own] at taken
          cases taken
      | resolving offers =>
          rw [own] at taken
          cases taken
          unfold Trade.State.resolve
          split <;> exact moved s x _ other
      | executing offers characterA characterB =>
          rw [own] at taken
          cases taken
          unfold Trade.State.finish
          split <;> exact moved _ x _ other
      | cancelling thenGone =>
          rw [own] at taken
          cases taken
          unfold Trade.State.dropOther
          split <;> exact moved s x _ other
      | offering | confirming | notReady | reading | resetting | removingA | removingB
      | announcing | leaving =>
          rw [own] at taken
          cases taken
          exact moved _ x _ other
  | database db =>
      cases taken
      rfl

/-- A section after which the handler is done, in a trade that has not ended: it has pushed the
session, or has copied it. -/
theorem pushes_of_idle {store : CharacterStore} {fails : Bool} {s t : Trade.State} {x : Side}
    {task : Task} (taken : s.resume x store fails task = some t)
    (active : ∀ y, t.active y = true) (idle : t.task x = .idle) :
    (∃ change, task = .offering change) ∨ task = .notReady ∨ task = .resetting ∨
      endsTrade task = true := by
  cases task with
  | idle | gone => cases taken
  | offering change => exact .inl ⟨change, rfl⟩
  | notReady => exact .inr (.inl rfl)
  | resetting => exact .inr (.inr (.inl rfl))
  | removingB | cancelling | announcing => exact .inr (.inr (.inr rfl))
  | confirming =>
      cases taken
      simp only [Trade.State.confirm, Trade.State.note_task, Trade.State.goto_task,
        Function.update_self] at idle
      split at idle <;> cases idle
  | reading =>
      cases taken
      simp at idle
  | resolving offers =>
      cases taken
      unfold Trade.State.resolve at idle
      split at idle <;> simp at idle
  | executing offers characterA characterB =>
      cases taken
      unfold Trade.State.finish at idle
      split at idle <;> simp at idle
  | removingA =>
      cases taken
      simp at idle
  | leaving =>
      cases taken
      have absent := active x
      simp [Trade.State.leave, Trade.State.entity] at absent

/-! ### The pushes -/

section Pushes

variable {v : State} {session : TradeSession} {x y : Side}

theorem isSome_buildTradeState : (buildTradeState session (session.entity x)).isSome = true := by
  cases x <;> simp [buildTradeState, TradeSession.entity, TradeSession.other, TradeSession.offer,
    session.distinct.symm]

theorem eq_of_offers {copy : TradeSession} (entity : copy.entity = session.entity)
    (offerA : copy.offerA = session.offerA) (offerB : copy.offerB = session.offerB) :
    copy = session := by
  obtain ⟨entityA, entityB, _, _, distinct⟩ := copy
  obtain rfl : entityA = session.entityA := congrFun entity .a
  obtain rfl : entityB = session.entityB := congrFun entity .b
  subst offerA offerB
  rfl

/-- What a participant is shown is all of the offers. -/
theorem offers_of_buildTradeState {copy : TradeSession}
    (same : buildTradeState copy copy.entityA = buildTradeState session session.entityA) :
    copy.offerA = session.offerA ∧ copy.offerB = session.offerB := by
  simp only [buildTradeState, TradeSession.other, TradeSession.offer, if_true,
    copy.distinct.symm, session.distinct.symm, if_false, Option.pure_def, Option.bind_eq_bind,
    Option.bind_some, Option.some.injEq, TradeStateChanged.mk.injEq] at same
  obtain ⟨-, itemsA, currencyA, confirmedA, itemsB, currencyB, confirmedB⟩ := same
  exact ⟨offer_ext_iff.mpr ⟨itemsA, currencyA, confirmedA⟩,
    offer_ext_iff.mpr ⟨itemsB, currencyB, confirmedB⟩⟩

/-- A push shows the session, from each side, to all that can be reached. -/
theorem shown_push (reachable : v.reachable y = true) :
    (v.pushTradeStateBoth session).shown y = buildTradeState session (session.entity y) := by
  obtain ⟨message, built⟩ := Option.isSome_iff_exists.mp (@isSome_buildTradeState session y)
  refine (if_pos reachable).trans ?_
  rw [built]
  rfl

theorem reachable_of_idle (following : v.stage y = .following) (idle : v.trade.task y = .idle) :
    v.reachable y = true := by
  simp only [State.reachable, following, idle]
  rfl

theorem after_stage {t : Trade.State} {l : Trade.Label} :
    (v.after t l).stage x = v.stage x ∨ (v.after t l).stage x = .pushing t.session ∧
      ∃ fails, l = .resume x fails ∧ v.trade.task x = .resetting := by
  unfold State.after
  split
  next y fails =>
    split
    · exact .inl rfl
    · exact .inl rfl
    next resetting =>
      obtain rfl | rfl := y.eq_or_eq_other x
      · exact .inr ⟨Function.update_self .., fails, rfl, resetting⟩
      · exact .inl (Function.update_of_ne y.other_ne ..)
    · exact .inl rfl
  · exact .inl rfl

/-- While the trade has not ended, a handler is done in one way only. -/
theorem idle_of_quiet (connected : v.stage y ≠ .ended)
    (ended : endsTrade (v.trade.task y) = true → ¬ v.Active) (active : v.Active)
    (quiet : v.quiet y = true) : v.stage y = .following ∧ v.trade.task y = .idle := by
  unfold State.quiet at quiet
  split at quiet
  next following idle => exact ⟨following, idle⟩
  next following gone => exact absurd active (ended (by rw [gone]; rfl))
  next ends => exact absurd ends connected
  · cases quiet

end Pushes

/-! ### The invariant -/

structure Kept (v : State) : Prop where
  connected : v.Active → ∀ x, v.stage x ≠ .ended
  ended : ∀ x, endsTrade (v.trade.task x) = true → ¬ v.Active
  copied : ∀ x snapshot, v.stage x = .pushing snapshot →
    v.trade.task x = .idle ∧ snapshot.entity = v.trade.session.entity
  current : v.Active → (∀ x, v.quiet x = true) → v.Current

namespace Kept

variable {v w : State} {x : Side}

/-- A section with no effect on what is shown. -/
theorem unseen {t : Trade.State} (inv : Kept v) (active : v.Active)
    (session : t.session = v.trade.session)
    (idle : ∀ y, v.stage y = .following ∧ v.trade.task y = .idle) :
    State.Current { v with trade := t } := by
  have quiet : ∀ y, v.quiet y = true := fun y => by
    obtain ⟨following, rest⟩ := idle y
    simp only [State.quiet, following, rest]
  intro y
  show v.shown y = buildTradeState t.session (t.session.entity y)
  rw [session]
  exact inv.current active quiet y

/-- A section after which both handlers are done has pushed the session, or leaves it alone. -/
theorem current_of_resume {store : CharacterStore} {fails : Bool} {t : Trade.State}
    (inv : Kept v) (taken : v.trade.resume x store fails (v.trade.task x) = some t)
    (active : v.Active) (present : ∀ y, t.active y = true)
    (idle : ∀ y, (v.after t (.resume x fails)).stage y = .following ∧ t.task y = .idle) :
    (v.after t (.resume x fails)).Current := by
  have pushed : v.after t (.resume x fails) = { v with trade := t }.pushTradeStateBoth t.session →
      (v.after t (.resume x fails)).Current := by
    intro pushes
    have reachable : ∀ y, State.reachable { v with trade := t } y = true := fun y => by
      obtain ⟨following, rest⟩ := idle y
      rw [pushes] at following
      exact reachable_of_idle following rest
    rw [pushes]
    exact fun y => shown_push (reachable y)
  obtain ⟨change, own⟩ | own | own | ends := pushes_of_idle taken present (idle x).2
  · exact pushed (by simp only [State.after, own])
  · exact pushed (by simp only [State.after, own])
  · have following := (idle x).1
    simp only [State.after, own, Function.update_self] at following
    cases following
  · exact absurd active (inv.ended x ends)

theorem trade {store : CharacterStore} {l : Trade.Label} {t : Trade.State} (inv : Kept v)
    (following : ∀ x ∈ actor l, (v.stage x).isFollowing = true)
    (taken : Trade.step store v.trade l = some t) : Kept (v.after t l) := by
  have advances : Advances v.trade t := Advances.step taken
  have active : (v.after t l).Active → (∀ y, t.active y = true) ∧ v.Active := fun here => by
    have present : ∀ y, t.active y = true := fun y => by
      have present := here y
      rwa [after_trade] at present
    exact ⟨present, fun y => advances.active y (present y)⟩
  have connected : (v.after t l).Active → ∀ y, (v.after t l).stage y ≠ .ended := by
    intro here y ends
    obtain same | ⟨copies, -⟩ := @after_stage v y t l
    · exact inv.connected (active here).2 y (same.symm.trans ends)
    · cases copies.symm.trans ends
  have ended : ∀ y, endsTrade ((v.after t l).trade.task y) = true → ¬ (v.after t l).Active := by
    intro y ends here
    rw [after_trade] at ends
    obtain before | ⟨z, absent⟩ := advances.ending y ends
    · exact inv.ended y before (active here).2
    · cases absent.symm.trans ((active here).1 z)
  refine ⟨connected, ended, fun y snapshot copy => ?_, fun here quiet => ?_⟩
  · rw [after_trade]
    obtain same | ⟨copies, fails, rfl, resetting⟩ := @after_stage v y t l
    · have pushing := same.symm.trans copy
      have other : y ∉ actor l := fun acts => by
        have follows := following y acts
        rw [pushing] at follows
        cases follows
      obtain ⟨idle, entity⟩ := inv.copied y snapshot pushing
      exact ⟨(task_of_step taken other).trans idle, entity.trans advances.entity.symm⟩
    · cases copies.symm.trans copy
      simp only [Trade.step, resetting, Trade.State.resume] at taken
      cases taken
      exact ⟨by simp, rfl⟩
  -- both handlers are done: what the step was decides what they have been shown
  have idle : ∀ y, (v.after t l).stage y = .following ∧ t.task y = .idle := fun y => by
    obtain ⟨following, idle⟩ := idle_of_quiet (connected here y) (ended y) here (quiet y)
    rw [after_trade] at idle
    exact ⟨following, idle⟩
  have moved := taken
  cases l with
  | receive x message =>
      simp only [Trade.step] at taken
      split at taken <;> cases taken
      next own =>
        refine inv.unseen (active here).2 (session_receive v.trade x message)
          fun y => ⟨(idle y).1, ?_⟩
        by_cases acts : y = x
        · exact acts ▸ own
        · have other : y ∉ actor (.receive x message) := fun here =>
            acts (Option.some.inj here).symm
          exact (task_of_step moved other).symm.trans (idle y).2
  | disconnect x =>
      simp only [Trade.step] at taken
      split at taken <;> cases taken
      have left := (idle x).2
      simp at left
  | resume x fails => exact inv.current_of_resume taken (active here).2 (active here).1 idle
  | database db =>
      cases taken
      exact inv.unseen (active here).2 rfl idle

theorem push {snapshot : TradeSession} (inv : Kept v) (copy : v.stage x = .pushing snapshot)
    (legal : v.Active → v.quiet x.other = true →
      snapshot.offerA = v.trade.session.offerA ∧ snapshot.offerB = v.trade.session.offerB) :
    Kept (v.push x snapshot) := by
  have self : (v.push x snapshot).stage x = .following := Function.update_self ..
  have other : (v.push x snapshot).stage x.other = v.stage x.other :=
    Function.update_of_ne x.other_ne ..
  have connected : v.Active → ∀ y, (v.push x snapshot).stage y ≠ .ended := by
    intro here y ends
    obtain rfl | rfl := x.eq_or_eq_other y
    · cases self.symm.trans ends
    · exact inv.connected here x.other (other.symm.trans ends)
  refine ⟨connected, inv.ended, fun y snapshot' copy' => ?_, fun here quiet => ?_⟩
  · obtain rfl | rfl := x.eq_or_eq_other y
    · cases self.symm.trans copy'
    · exact inv.copied x.other snapshot' (other.symm.trans copy')
  · have quiet_other : v.quiet x.other = true := by
      have quiet := quiet x.other
      unfold State.quiet at quiet ⊢
      rwa [other] at quiet
    obtain ⟨offerA, offerB⟩ := legal here quiet_other
    obtain rfl := eq_of_offers (inv.copied x snapshot copy).2 offerA offerB
    intro y
    obtain ⟨following, idle⟩ := idle_of_quiet (connected here y) (inv.ended y) here (quiet y)
    exact shown_push (reachable_of_idle following idle)

/-- Where no other push is to come, a copy that is not current any more is what is seen. -/
theorem diverges {snapshot : TradeSession} (inv : Kept v) (copy : v.stage x = .pushing snapshot)
    (active : v.Active) (other : v.quiet x.other = true)
    (stale : ¬ (snapshot.offerA = v.trade.session.offerA ∧
      snapshot.offerB = v.trade.session.offerB)) :
    (v.push x snapshot).Active ∧ (∀ y, (v.push x snapshot).quiet y = true) ∧
      ¬ (v.push x snapshot).Current := by
  have own : v.trade.task x = .idle := (inv.copied x snapshot copy).1
  have following : ∀ y, (v.push x snapshot).stage y = .following ∧ v.trade.task y = .idle := by
    intro y
    obtain rfl | rfl := x.eq_or_eq_other y
    · exact ⟨Function.update_self .., own⟩
    · obtain ⟨following, idle⟩ :=
        idle_of_quiet (inv.connected active x.other) (inv.ended x.other) active other
      exact ⟨(Function.update_of_ne x.other_ne ..).trans following, idle⟩
  have quiet : ∀ y, (v.push x snapshot).quiet y = true := fun y => by
    have idle : (v.push x snapshot).trade.task y = .idle := (following y).2
    simp only [State.quiet, (following y).1, idle]
  have shown : (v.push x snapshot).shown .a = buildTradeState snapshot (snapshot.entity .a) :=
    shown_push (reachable_of_idle (following .a).1 (following .a).2)
  exact ⟨active, quiet, fun current =>
    stale (offers_of_buildTradeState (shown.symm.trans (current .a)))⟩

theorem fail (inv : Kept v) (legal : ¬ v.Active) (taken : step store v (.fail x) = some w) :
    Kept w := by
  have ends : w = { v with stage := Function.update v.stage x .ended } := by
    simp only [step] at taken
    split at taken <;> cases taken
    all_goals rfl
  subst ends
  refine ⟨fun here => absurd here legal, inv.ended, fun y snapshot copy => ?_,
    fun here => absurd here legal⟩
  obtain rfl | rfl := x.eq_or_eq_other y
  · simp at copy
  · exact inv.copied x.other snapshot (by simpa using copy)

theorem step {store : CharacterStore} {l : Label} (inv : Kept v) (legal : PushesCurrent v l)
    (taken : step store v l = some w) : Kept w := by
  cases l with
  | trade label =>
      simp only [TradeViews.step] at taken
      split at taken
      next following =>
        obtain ⟨t, section_taken, rfl⟩ := Option.map_eq_some_iff.mp taken
        exact inv.trade following section_taken
      · cases taken
  | push x =>
      obtain ⟨snapshot, copy, rfl⟩ := Option.map_eq_some_iff.mp taken
      have pushing : v.stage x = .pushing snapshot := by
        unfold Stage.snapshot at copy
        split at copy
        next snapshot' pushing => exact pushing.trans (congrArg _ (Option.some.inj copy))
        · cases copy
      exact inv.push pushing fun active quiet => legal active quiet snapshot copy
  | fail x => exact inv.fail legal taken

end Kept

theorem kept_start {entityA entityB : EntityId} (distinct : entityA ≠ entityB)
    (entityCharacters : EntityId → Option CharacterId) (db : Character.Tables) :
    Kept (start entityA entityB distinct entityCharacters db) where
  connected _ _ := nofun
  ended x ends := by cases x <;> cases ends
  copied _ _ := nofun
  current _ quiet := by cases quiet .b

/-- Whenever the trade is active and no handler is between two of its steps, each participant has
been shown the session as it is, in every interleaving in which a copy is pushed only while it is
current and no reply fails to be sent. -/
theorem views_converge_of_pushesCurrent (store : CharacterStore) {entityA entityB : EntityId}
    (distinct : entityA ≠ entityB) (entityCharacters : EntityId → Option CharacterId)
    (db : Character.Tables) {ls : List Label}
    (legal : Transition.Admissible (step store) PushesCurrent
      (start entityA entityB distinct entityCharacters db) ls) :
    ∀ front, front <+: ls → ∀ v, Transition.exec (step store)
        (start entityA entityB distinct entityCharacters db) front = some v →
      v.Active → (∀ x, v.quiet x = true) →
        ∀ x, v.shown x = buildTradeState v.trade.session (v.trade.entity x) :=
  fun front front_of v run =>
    have inv := Transition.throughout (fun _ _ _ inv legal taken => inv.step legal taken)
      (kept_start distinct entityCharacters db) legal front front_of v run
    inv.current

namespace SwordForGold

open Trade.SwordForGold (sellerEntity buyerEntity sellerEntity_ne entityCharacters holdings
  plainStore sends offersMade)

def opened : State := start sellerEntity buyerEntity sellerEntity_ne entityCharacters holdings

/-- Both have confirmed, the trade fails in the database, and the buyer's handler has reset the
confirmations. -/
def failed : List Label :=
  let sections : List Trade.Label := .resume .b false :: offersMade ++
    sends .a .tradeConfirm 2 ++ sends .b .tradeConfirm 3 ++ [.resume .b true, .resume .b false]
  sections.map .trade

/-- The copy is pushed at once. -/
theorem views_converge_of_pushesCurrent_failed :
    ∃ v, Transition.exec (step plainStore) opened (failed ++ [.push .b]) = some v ∧
      v.Active ∧ ∀ x, v.shown x = buildTradeState v.trade.session (v.trade.entity x) := by
  have ends : (Transition.exec (step plainStore) opened (failed ++ [.push .b])).any
      (fun v => decide (v.Active ∧ ∀ x, v.quiet x = true)) = true := by decide
  obtain ⟨v, run, active, quiet⟩ := Transition.exec_reaches ends
  exact ⟨v, run, active, views_converge_of_pushesCurrent _ _ _ _ (by decide) _
    List.prefix_rfl v run active quiet⟩

/-- The seller takes the sword back before the copy is pushed, and both are shown the sword. Or
the error cannot be sent, and the seller is shown the confirmation that has been reset. -/
theorem stale_views :
    (∃ v, Transition.exec (step plainStore) opened
        (failed ++ (sends .a (.tradeOfferItem "sword" 0) 1).map .trade ++ [.push .b]) = some v ∧
      v.Active ∧ (∀ x, v.quiet x = true) ∧ ¬ v.Current) ∧
    ∃ v, Transition.exec (step plainStore) opened (failed ++ [.fail .b]) = some v ∧
      v.Active ∧ (∀ x, v.quiet x = true) ∧ ¬ v.Current :=
  ⟨Transition.exec_reaches (by decide), Transition.exec_reaches (by decide)⟩

end SwordForGold

end WorldZero.Server.TradeViews
