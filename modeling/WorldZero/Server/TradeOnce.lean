import WorldZero.Server.TradeAgreement

/-!
# A trade is executed once, and not after it has been cancelled

The session stays in `active_trades` while `execute_trade` is awaited, its flags
stay set, and no handler looks at the other participant's task. The trade is
executed at most once, and never after `TradeCancelled`, in every run in which the
section that completes the confirmations and the section that takes the trade out
of `active_trades` find the other participant's task out of the way.
-/

namespace WorldZero.Server.Trade

open Character

/-- No call of `execute_trade` starts or commits after `TradeCancelled`. -/
def NothingAfterCancel : List Event → Prop
  | [] => True
  | .started _ :: earlier => (∀ x, .tradeCancelled x ∉ earlier) ∧ NothingAfterCancel earlier
  | .finished true :: earlier => (∀ x, .tradeCancelled x ∉ earlier) ∧ NothingAfterCancel earlier
  | _ :: earlier => NothingAfterCancel earlier

instance decidableNothingAfterCancel : ∀ history, Decidable (NothingAfterCancel history)
  | [] => isTrue trivial
  | .started _ :: earlier =>
      haveI := decidableNothingAfterCancel earlier
      inferInstanceAs
        (Decidable ((∀ x, .tradeCancelled x ∉ earlier) ∧ NothingAfterCancel earlier))
  | .finished true :: earlier =>
      haveI := decidableNothingAfterCancel earlier
      inferInstanceAs
        (Decidable ((∀ x, .tradeCancelled x ∉ earlier) ∧ NothingAfterCancel earlier))
  | .finished false :: earlier => decidableNothingAfterCancel earlier
  | .offered _ :: earlier => decidableNothingAfterCancel earlier
  | .confirmed _ _ :: earlier => decidableNothingAfterCancel earlier
  | .tradeCancelled _ :: earlier => decidableNothingAfterCancel earlier

/-- The successful executions. -/
def executions (history : List Event) : Nat := history.count (.finished true)

/-- What a task is about to do to the trade. -/
inductive Stage where
  | quiet
  /-- From the check of `both_confirmed` to the end of the transaction. -/
  | ready
  /-- The transaction has committed, an entry is still to be removed. -/
  | completing
  /-- The own entry has been taken by a cancel or by the cleanup. -/
  | cancelling
  deriving DecidableEq

def Task.stage : Task → Stage
  | .reading | .resolving _ | .executing .. => .ready
  | .removingA | .removingB => .completing
  | .cancelling _ | .announcing _ => .cancelling
  | _ => .quiet

def State.stage (s : State) (x : Side) : Stage := (s.task x).stage

theorem State.stage_of {s : State} {x : Side} {task : Task} (own : s.task x = task) :
    s.stage x = task.stage := by
  rw [State.stage, own]

/-- A participant completes the confirmations only while both still find the
trade and the other's task is not executing it; a participant takes the trade out
of `active_trades` only while the other's task is not about to execute it. -/
def TakenInTurn (s : State) : Label → Prop
  | .receive x .tradeCancel => s.active x = true → s.stage x.other ≠ .ready
  | .resume x _ =>
      match s.task x with
      | .confirming => s.session.confirmed x.other = true →
          (∀ y, s.active y = true) ∧ s.stage x.other ≠ .ready ∧ s.stage x.other ≠ .completing
      | .leaving => s.active x = true → s.stage x.other ≠ .ready
      | _ => True
  | _ => True

instance (s : State) : ∀ l : Label, Decidable (TakenInTurn s l)
  | .receive x .tradeCancel =>
      inferInstanceAs (Decidable (s.active x = true → s.stage x.other ≠ .ready))
  | .resume x _ => by
      unfold TakenInTurn
      dsimp only
      exact match s.task x with
        | .confirming =>
            inferInstanceAs (Decidable (s.session.confirmed x.other = true →
              (∀ y, s.active y = true) ∧ s.stage x.other ≠ .ready ∧
                s.stage x.other ≠ .completing))
        | .leaving => inferInstanceAs (Decidable (s.active x = true → s.stage x.other ≠ .ready))
        | .idle | .offering _ | .notReady | .reading | .resolving _ | .executing .. | .resetting
        | .removingA | .removingB | .cancelling _ | .announcing _ | .gone => .isTrue trivial
  | .receive _ (.tradeOfferItem ..) | .receive _ (.tradeOfferCurrency ..)
  | .receive _ .tradeConfirm | .disconnect _ | .database _ => .isTrue trivial

/-! ### The invariant -/

structure Exclusive (s : State) : Prop where
  alone : ∀ x, s.stage x = .ready ∨ s.stage x = .completing →
    s.stage x.other ≠ .ready ∧ s.stage x.other ≠ .completing
  ready : ∀ x, s.stage x = .ready → ∀ y, s.active y = true
  fresh : (∀ y, s.active y = true) → (∀ y, s.stage y ≠ .completing) →
    .finished true ∉ s.history
  taken : ∀ x, s.stage x = .cancelling → s.active x = false
  cancelled : ∀ x, .tradeCancelled x ∈ s.history → ∃ y, s.active y = false
  once : executions s.history ≤ 1
  ordered : NothingAfterCancel s.history

@[simp] theorem stage_goto (s : State) (x y : Side) (task : Task) :
    (s.goto x task).stage y = if y = x then task.stage else s.stage y := by
  by_cases same : y = x <;> simp [State.stage, same]

@[simp] theorem active_goto (s : State) (x y : Side) (task : Task) :
    (s.goto x task).active y = s.active y := rfl

@[simp] theorem stage_removeTrade (s : State) (e : EntityId) (y : Side) :
    (s.removeTrade e).stage y = s.stage y := rfl

@[simp] theorem active_removeTrade (s : State) (e : EntityId) (y : Side) :
    (s.removeTrade e).active y = (s.active y && decide (s.entity y ≠ e)) := by
  by_cases same : s.session.entity y = e
  · simp [State.active, State.entity, same]
  · simp [State.active, State.entity, same]

@[simp] theorem stage_note (s : State) (event : Event) (y : Side) :
    (s.note event).stage y = s.stage y := rfl

@[simp] theorem active_note (s : State) (event : Event) (y : Side) :
    (s.note event).active y = s.active y := rfl

namespace Exclusive

variable {s t : State} {x : Side} {task : Task}

/-- The invariant reads only the stages, the entries and the history. -/
theorem congr (inv : Exclusive s) (stage : ∀ y, t.stage y = s.stage y)
    (active : ∀ y, t.active y = s.active y) (history : t.history = s.history) : Exclusive t := by
  obtain ⟨alone, ready, fresh, taken, cancelled, once, ordered⟩ := inv
  exact ⟨by simpa only [stage], by simpa only [stage, active],
    by simpa only [stage, active, history], by simpa only [stage, active],
    by simpa only [active, history], by rwa [history], by rwa [history]⟩

theorem goto_same (inv : Exclusive s) (h : task.stage = s.stage x) : Exclusive (s.goto x task) := by
  refine inv.congr (fun y => ?_) (fun _ => rfl) rfl
  rw [stage_goto]
  split
  · next same => rw [h, same]
  · rfl

/-- A task that does not come to execute the trade. -/
theorem goto (inv : Exclusive s) (waits : task.stage ≠ .ready ∧ task.stage ≠ .completing)
    (gone : task.stage = .cancelling → s.active x = false)
    (done : s.stage x = .completing → ∃ y, s.active y = false) : Exclusive (s.goto x task) where
  alone y h := by
    rcases x.eq_or_eq_other y with rfl | rfl
    · simp [waits] at h
    · simpa using waits
  ready y h := by
    rcases x.eq_or_eq_other y with rfl | rfl
    · simp [waits] at h
    · exact inv.ready x.other (by simpa using h)
  fresh present rest := by
    refine inv.fresh present fun y completing => ?_
    rcases x.eq_or_eq_other y with rfl | rfl
    · obtain ⟨z, absent⟩ := done completing
      simp_all
    · exact rest x.other (by simpa using completing)
  taken y h := by
    rcases x.eq_or_eq_other y with rfl | rfl
    · exact gone (by simpa using h)
    · exact inv.taken x.other (by simpa using h)
  cancelled := inv.cancelled
  once := inv.once
  ordered := inv.ordered

/-- The confirmations have been completed while both still found the trade. -/
theorem goto_ready (inv : Exclusive s) (ready : task.stage = .ready) (quiet : s.stage x = .quiet)
    (present : ∀ y, s.active y = true)
    (other : s.stage x.other ≠ .ready ∧ s.stage x.other ≠ .completing) :
    Exclusive (s.goto x task) where
  alone y h := by
    rcases x.eq_or_eq_other y with rfl | rfl
    · simpa using other
    · simp [other] at h
  ready _ _ := present
  fresh _ _ := by
    refine inv.fresh present fun y => ?_
    rcases x.eq_or_eq_other y with rfl | rfl
    · simp [quiet]
    · exact other.2
  taken y h := by
    rcases x.eq_or_eq_other y with rfl | rfl
    · simp [ready] at h
    · exact inv.taken x.other (by simpa using h)
  cancelled := inv.cancelled
  once := inv.once
  ordered := inv.ordered

theorem removeTrade (inv : Exclusive s) (e : EntityId) (waits : ∀ y, s.stage y ≠ .ready) :
    Exclusive (s.removeTrade e) where
  alone := inv.alone
  ready y h := absurd h (waits y)
  fresh present done := by
    refine inv.fresh (fun y => ?_) done
    have := present y
    simp only [active_removeTrade, Bool.and_eq_true] at this
    exact this.1
  taken y h := by simp [inv.taken y h]
  cancelled y h := by
    obtain ⟨z, absent⟩ := inv.cancelled y h
    exact ⟨z, by simp [absent]⟩
  once := inv.once
  ordered := inv.ordered

/-- An event that is neither an execution nor a cancel. -/
theorem note (inv : Exclusive s) {event : Event} (executed : event ≠ .finished true)
    (cancels : ∀ y, event ≠ .tradeCancelled y)
    (ordered : NothingAfterCancel s.history → NothingAfterCancel (event :: s.history)) :
    Exclusive (s.note event) where
  alone := inv.alone
  ready := inv.ready
  fresh present rest := by simpa [executed.symm] using inv.fresh present rest
  taken := inv.taken
  cancelled y h := inv.cancelled y (by simpa [(cancels y).symm] using h)
  once := by simpa [executions, executed] using inv.once
  ordered := ordered inv.ordered

/-- While a task is ready nothing has been executed and nothing cancelled. -/
theorem untouched (inv : Exclusive s) (ready : s.stage x = .ready) :
    .finished true ∉ s.history ∧ ∀ y, .tradeCancelled y ∉ s.history := by
  have present := inv.ready x ready
  refine ⟨inv.fresh present fun y => ?_, fun y h => ?_⟩
  · rcases x.eq_or_eq_other y with rfl | rfl
    · simp [ready]
    · exact (inv.alone x (.inl ready)).2
  · obtain ⟨z, absent⟩ := inv.cancelled y h
    simp [present z] at absent

/-- Nobody executes the trade while a participant does not find it. -/
theorem waits (inv : Exclusive s) (absent : s.active x = false) (y : Side) :
    s.stage y ≠ .ready := by
  intro ready
  simp [inv.ready y ready x] at absent

/-- A transaction commits. -/
theorem committed (inv : Exclusive s) (ready : s.stage x = .ready) :
    Exclusive ((s.goto x .removingA).note (.finished true)) where
  alone y h := by
    have other := inv.alone x (.inl ready)
    rcases x.eq_or_eq_other y with rfl | rfl
    · simpa using other
    · simp [other] at h
  ready _ _ := inv.ready x ready
  fresh _ rest := absurd ((stage_goto s x x .removingA).trans (if_pos rfl)) (rest x)
  taken y h := by
    rcases x.eq_or_eq_other y with rfl | rfl
    · rw [stage_note, stage_goto, if_pos rfl] at h
      cases h
    · exact inv.taken x.other (by simpa using h)
  cancelled y h := inv.cancelled y (by simpa using h)
  once := by
    have none := (inv.untouched ready).1
    simp [executions, List.count_eq_zero.mpr none]
  ordered := ⟨(inv.untouched ready).2, inv.ordered⟩

/-- A section of a task after which it has nothing to do with the trade. -/
theorem goto_quiet (inv : Exclusive s) (quiet : task.stage = .quiet)
    (done : s.stage x ≠ .completing) : Exclusive (s.goto x task) :=
  inv.goto (by simp [quiet]) (by simp [quiet]) fun h => absurd h done

theorem findTrade (inv : Exclusive s) (idle : s.task x = .idle) (quiet : task.stage = .quiet) :
    Exclusive (s.findTrade x task) := by
  have done : s.stage x ≠ .completing := by
    rw [State.stage_of idle]
    exact nofun
  unfold State.findTrade
  split
  · exact inv.goto_quiet quiet done
  · exact inv.goto_quiet rfl done

/-- The own entry is taken out of `active_trades`. -/
theorem take {rest : Task} (inv : Exclusive s) (quiet : s.stage x = .quiet)
    (legal : s.active x = true → s.stage x.other ≠ .ready)
    (cancels : task.stage = .cancelling) (ends : rest.stage = .quiet) :
    Exclusive ((s.goto x (if s.active x then task else rest)).removeTrade (s.entity x)) := by
  have waits : ∀ y, s.stage y ≠ .ready := by
    by_cases present : s.active x = true
    · rw [Side.forall_iff x]
      exact ⟨by simp [quiet], legal present⟩
    · exact inv.waits (by simpa using present)
  have removed := inv.removeTrade (s.entity x) waits
  refine removed.goto (x := x) ?_ (fun _ => by simp) (by simp [quiet])
  split
  · simp [cancels]
  · simp [ends]

theorem receive (inv : Exclusive s) (idle : s.task x = .idle) {message : ClientMessage}
    (legal : TakenInTurn s (.receive x message)) : Exclusive (s.receive x message) := by
  cases message with
  | tradeOfferItem itemType quantity =>
      simp only [State.receive]
      split
      · exact inv
      · exact inv.findTrade idle rfl
  | tradeOfferCurrency currencyKey amount =>
      simp only [State.receive]
      split
      · exact inv
      · exact inv.findTrade idle rfl
  | tradeConfirm => exact inv.findTrade idle rfl
  | tradeCancel => exact inv.take (State.stage_of idle) legal rfl rfl

theorem changeOffer (inv : Exclusive s) {change : OfferChange}
    (own : s.task x = .offering change) : Exclusive (s.changeOffer x change) := by
  have quiet : s.stage x = .quiet := State.stage_of own
  have moved : Exclusive (s.goto x .idle) := inv.goto_quiet rfl (by simp [quiet])
  let offers := (s.changeOffer x change).session.offers
  have noted : Exclusive ((s.goto x .idle).note (.offered offers)) :=
    moved.note (by simp) (by simp) id
  exact noted.congr (fun _ => rfl)
    (fun y => by simp [State.active, State.entity, State.changeOffer]) rfl

theorem confirm (inv : Exclusive s) (own : s.task x = .confirming) {fails : Bool}
    (legal : TakenInTurn s (.resume x fails)) : Exclusive (s.confirm x) := by
  have quiet : s.stage x = .quiet := State.stage_of own
  have moved : Exclusive
      (s.goto x (if (s.session.confirm x).bothConfirmed then .reading else .notReady)) := by
    split
    · next both =>
        have other : s.session.confirmed x.other = true := by
          simpa using (TradeSession.bothConfirmed_iff _).mp both x.other
        simp only [TakenInTurn, own] at legal
        obtain ⟨present, free⟩ := legal other
        exact inv.goto_ready rfl quiet present free
    · exact inv.goto_quiet rfl (by simp [quiet])
  have noted : Exclusive
      ((s.goto x (if (s.session.confirm x).bothConfirmed then .reading else .notReady)).note
        (.confirmed x s.session.offers)) := moved.note (by simp) (by simp) id
  refine noted.congr (fun _ => rfl) (fun y => ?_) ?_
  · simp [State.active, State.entity, State.confirm]
  · simp [State.confirm]

theorem resolve {offers : Offers} (inv : Exclusive s) (own : s.task x = .resolving offers) :
    Exclusive (s.resolve x offers) := by
  have ready : s.stage x = .ready := State.stage_of own
  unfold State.resolve
  split
  · next characterA characterB _ _ =>
      have moved : Exclusive (s.goto x (.executing offers characterA characterB)) :=
        inv.goto_same ready.symm
      exact moved.note (by simp) (by simp) fun ordered => ⟨(inv.untouched ready).2, ordered⟩
  · exact inv.goto_quiet rfl (by simp [ready])

theorem finish (store : CharacterStore) {offers : Offers} {characterA characterB : CharacterId}
    (fails : Bool) (inv : Exclusive s) (ready : s.stage x = .ready) :
    Exclusive (s.finish x store offers characterA characterB fails) := by
  unfold State.finish
  split
  · exact (inv.committed ready).congr (fun _ => rfl) (fun _ => rfl) rfl
  · exact (inv.goto_quiet rfl (by simp [ready])).note (by simp) (by simp) id

theorem reset (inv : Exclusive s) (own : s.task x = .resetting) : Exclusive (s.reset x) := by
  have quiet : s.stage x = .quiet := State.stage_of own
  have moved : Exclusive (s.goto x .idle) := inv.goto_quiet rfl (by simp [quiet])
  exact moved.congr (fun _ => rfl) (fun y => by simp [State.active, State.entity]) rfl

/-- While one task removes the entries, nobody is ready. -/
theorem waits_of_completing (inv : Exclusive s) (completing : s.stage x = .completing) (y : Side) :
    s.stage y ≠ .ready := by
  rcases x.eq_or_eq_other y with rfl | rfl
  · simp [completing]
  · exact (inv.alone x (.inr completing)).1

theorem removeA (inv : Exclusive s) (own : s.task x = .removingA) :
    Exclusive ((s.goto x .removingB).removeTrade s.session.entityA) := by
  have completing : s.stage x = .completing := State.stage_of own
  exact (inv.removeTrade _ (inv.waits_of_completing completing)).goto_same completing.symm

theorem removeB (inv : Exclusive s) (own : s.task x = .removingB) :
    Exclusive ((s.goto x .idle).removeTrade s.session.entityB) := by
  have completing : s.stage x = .completing := State.stage_of own
  have removed := inv.removeTrade s.session.entityB (inv.waits_of_completing completing)
  refine removed.goto (x := x) ⟨nofun, nofun⟩ nofun fun _ => ⟨.b, ?_⟩
  simp [State.entity, TradeSession.entity]

theorem dropOther {thenGone : Bool} (inv : Exclusive s) (own : s.task x = .cancelling thenGone) :
    Exclusive (s.dropOther x thenGone) := by
  have cancelling : s.stage x = .cancelling := State.stage_of own
  have waits := inv.waits (inv.taken x cancelling)
  simp only [State.dropOther, State.entity, TradeSession.other_entity]
  exact (inv.removeTrade _ waits).goto_same cancelling.symm

theorem announce {thenGone : Bool} (inv : Exclusive s) (own : s.task x = .announcing thenGone) :
    Exclusive (s.announce x thenGone) := by
  have cancelling : s.stage x = .cancelling := State.stage_of own
  have absent := inv.taken x cancelling
  have moved : Exclusive (s.goto x (if thenGone then .gone else .idle)) := by
    refine inv.goto_quiet ?_ (by simp [cancelling])
    split <;> rfl
  obtain ⟨alone, ready, fresh, taken, -, once, ordered⟩ := moved
  refine ⟨alone, ready, fun present rest => ?_, taken, fun _ _ => ⟨x, absent⟩, ?_, ordered⟩
  · cases absent.symm.trans (present x)
  · simpa [executions, State.announce] using once

theorem resume {store : CharacterStore} {fails : Bool} (inv : Exclusive s) (own : s.task x = task)
    (legal : TakenInTurn s (.resume x fails))
    (taken : s.resume x store fails task = some t) : Exclusive t := by
  cases task with
  | idle | gone => cases taken
  | offering change =>
      cases taken
      exact inv.changeOffer own
  | confirming =>
      cases taken
      exact inv.confirm own legal
  | notReady =>
      cases taken
      have quiet : s.stage x = .quiet := State.stage_of own
      exact inv.goto_quiet rfl (by simp [quiet])
  | reading =>
      cases taken
      exact inv.goto_same (State.stage_of own).symm
  | resolving offers =>
      cases taken
      exact inv.resolve own
  | executing offers characterA characterB =>
      cases taken
      exact inv.finish store fails (State.stage_of own)
  | resetting =>
      cases taken
      exact inv.reset own
  | removingA =>
      cases taken
      exact inv.removeA own
  | removingB =>
      cases taken
      exact inv.removeB own
  | cancelling thenGone =>
      cases taken
      exact inv.dropOther own
  | announcing thenGone =>
      cases taken
      exact inv.announce own
  | leaving =>
      cases taken
      refine inv.take (State.stage_of own) ?_ rfl rfl
      simpa [TakenInTurn, own] using legal

theorem step {store : CharacterStore} {l : Label} (inv : Exclusive s) (legal : TakenInTurn s l)
    (taken : Trade.step store s l = some t) : Exclusive t := by
  cases l with
  | receive x message =>
      simp only [Trade.step] at taken
      split at taken
      · next idle =>
          cases taken
          exact inv.receive idle legal
      · cases taken
  | disconnect x =>
      simp only [Trade.step] at taken
      split at taken
      · next idle =>
          cases taken
          have quiet : s.stage x = .quiet := State.stage_of idle
          have moved : Exclusive (s.goto x .leaving) := inv.goto_quiet rfl (by simp [quiet])
          exact moved.congr (fun _ => rfl) (fun _ => rfl) rfl
      · cases taken
  | resume x fails => exact inv.resume rfl legal taken
  | database db =>
      cases taken
      exact inv.congr (fun _ => rfl) (fun _ => rfl) rfl

end Exclusive

theorem exclusive_start {entityA entityB : EntityId} (distinct : entityA ≠ entityB)
    (entityCharacters : EntityId → Option CharacterId) (db : Character.Tables) :
    Exclusive (start entityA entityB distinct entityCharacters db) where
  alone _ h := by rcases h with h | h <;> cases h
  ready _ h := by cases h
  fresh _ _ := List.not_mem_nil
  taken _ h := by cases h
  cancelled _ h := by cases h
  once := Nat.zero_le 1
  ordered := trivial

/-- A trade is executed successfully at most once and nothing of it starts or
commits after `TradeCancelled`, in every interleaving in which the completion of
the confirmations and the cancels find the other participant's task out of the
way. -/
theorem executed_once_of_takenInTurn (store : CharacterStore) {entityA entityB : EntityId}
    (distinct : entityA ≠ entityB) (entityCharacters : EntityId → Option CharacterId)
    (db : Character.Tables) {ls : List Label} {s : State}
    (inTurn : Transition.Admissible (step store) TakenInTurn
      (start entityA entityB distinct entityCharacters db) ls)
    (run : Transition.exec (step store)
      (start entityA entityB distinct entityCharacters db) ls = some s) :
    executions s.history ≤ 1 ∧ NothingAfterCancel s.history :=
  have inv := Transition.exec_invariant (fun _ _ _ inv legal taken => inv.step legal taken)
    (exclusive_start distinct entityCharacters db) inTurn run
  ⟨inv.once, inv.ordered⟩

namespace SwordForGold

-- Enough for the exchange to be made twice.
def rich : Character.Tables :=
  (holdings.insert (.item seller "sword") ⟨2, by decide, by decide⟩).insert
    (.currency buyer "gold") purse

def richOpened : State := start sellerEntity buyerEntity sellerEntity_ne entityCharacters rich

/-- The seller confirms, then the buyer does; a later cancel finds no trade. -/
theorem executed_once_of_takenInTurn_then_cancel :
    ∃ s, Transition.exec (step plainStore) richOpened
        (offersMade ++ sends .a .tradeConfirm 2 ++ sends .b .tradeConfirm 6 ++
          sends .a .tradeCancel 0) = some s ∧
      executions s.history = 1 ∧ NothingAfterCancel s.history := by
  have ends : (Transition.exec (step plainStore) richOpened
      (offersMade ++ sends .a .tradeConfirm 2 ++ sends .b .tradeConfirm 6 ++
        sends .a .tradeCancel 0)).any (fun s => decide (executions s.history = 1)) = true := by
    decide
  obtain ⟨s, run, executed⟩ := Transition.exec_reaches ends
  exact ⟨s, run, executed,
    (executed_once_of_takenInTurn _ _ _ _ (by decide) run).2⟩

/-- While the buyer's task awaits the transaction, the seller confirms again: the
exchange is made twice. Or the seller cancels, and the exchange is made after
`TradeCancelled`. -/
theorem execute_again_and_after_cancel :
    (¬ ∀ (ls : List Label) (s : State),
      Transition.exec (step plainStore) richOpened ls = some s → executions s.history ≤ 1) ∧
    ¬ ∀ (ls : List Label) (s : State),
      Transition.exec (step plainStore) richOpened ls = some s →
        NothingAfterCancel s.history := by
  have twice : (Transition.exec (step plainStore) richOpened
      (offersMade ++ sends .a .tradeConfirm 2 ++ sends .b .tradeConfirm 3 ++
        sends .a .tradeConfirm 4 ++ [.resume .b false])).any
      (fun s => decide (executions s.history = 2)) = true := by decide
  have late : (Transition.exec (step plainStore) richOpened
      (offersMade ++ sends .a .tradeConfirm 2 ++ sends .b .tradeConfirm 3 ++
        sends .a .tradeCancel 2 ++ [.resume .b false])).any
      (fun s => decide (executions s.history = 1 ∧ ¬ NothingAfterCancel s.history)) = true := by
    decide
  constructor
  · intro once
    obtain ⟨s, run, executed⟩ := Transition.exec_reaches twice
    have := once _ s run
    omega
  · intro ordered
    obtain ⟨s, run, -, disordered⟩ := Transition.exec_reaches late
    exact disordered (ordered _ s run)

end SwordForGold

end WorldZero.Server.Trade
