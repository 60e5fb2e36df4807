import WorldZero.Server.TradeSession
import Mathlib.Data.Fintype.Basic

/-!
# What the participants of a trade have agreed to

`execute_trade` is to be called only with offers that both participants have
confirmed as they stand. Changing an offer takes the confirmations back, but the
handler of the last confirmation checks `both_confirmed` in one section, reads the
offers in a later one and makes the call in a third. The trade is agreed in every
run in which no offer changes between that check and that call.
-/

namespace WorldZero.Server.Trade

open Character

instance : Fintype Side := ⟨{.a, .b}, fun x => by cases x <;> simp⟩

/-- The offers that a participant has confirmed and that no change has replaced. -/
def standing (x : Side) : List Event → Option Offers
  | [] => none
  | .confirmed y offers :: earlier => if y = x then some offers else standing x earlier
  | .offered offers :: earlier => (standing x earlier).filter (· = offers)
  | _ :: earlier => standing x earlier

/-- Every call of `execute_trade` was made with offers that stood confirmed by both. -/
def Agreed : List Event → Prop
  | [] => True
  | .started offers :: earlier => (∀ x, standing x earlier = some offers) ∧ Agreed earlier
  | _ :: earlier => Agreed earlier

instance decidableAgreed : ∀ history, Decidable (Agreed history)
  | [] => isTrue trivial
  | .started offers :: earlier =>
      haveI := decidableAgreed earlier
      inferInstanceAs (Decidable ((∀ x, standing x earlier = some offers) ∧ Agreed earlier))
  | .offered _ :: earlier => decidableAgreed earlier
  | .confirmed _ _ :: earlier => decidableAgreed earlier
  | .finished _ :: earlier => decidableAgreed earlier
  | .tradeCancelled _ :: earlier => decidableAgreed earlier

/-- Between the check of `both_confirmed` and the call of `execute_trade`. -/
def Task.starting : Task → Bool
  | .reading | .resolving _ => true
  | _ => false

/-- The step changes no offer while the other participant's task is about to call
`execute_trade`. -/
def OffersSettled (s : State) : Label → Prop
  | .resume x _ =>
      match s.task x with
      | .offering change =>
          (s.task x.other).starting = true →
            (s.session.modifyOffer (s.entity x) change.apply).offers = s.session.offers
      | _ => True
  | _ => True

instance (s : State) (l : Label) : Decidable (OffersSettled s l) := by
  unfold OffersSettled
  split
  · split <;> infer_instance
  · infer_instance

/-! ### The invariant -/

structure Settled (s : State) : Prop where
  flagged : ∀ x, s.session.confirmed x = true → standing x s.history = some s.session.offers
  starting : ∀ x, (s.task x).starting = true →
    ∀ y, standing y s.history = some s.session.offers
  current : ∀ x offers, s.task x = .resolving offers → offers = s.session.offers
  agreed : Agreed s.history

/-- A section that touches neither offers nor confirmations. -/
structure Kept (s t : State) : Prop where
  offers : t.session.offers = s.session.offers
  flags : ∀ x, t.session.confirmed x = true → s.session.confirmed x = true
  standing : ∀ x, standing x t.history = standing x s.history
  task : ∀ x, (t.task x).starting = true → t.task x = s.task x
  agreed : Agreed s.history → Agreed t.history

namespace Kept

variable {s t u : State} {x : Side} {task : Task}

theorem settled (h : Kept s t) (inv : Settled s) : Settled t where
  flagged x flag := by
    rw [h.standing, h.offers]
    exact inv.flagged x (h.flags x flag)
  starting x begun y := by
    rw [h.standing, h.offers]
    exact inv.starting x (h.task x begun ▸ begun) y
  current x offers at_resolving := by
    rw [h.offers]
    have unmoved := h.task x (by rw [at_resolving]; rfl)
    exact inv.current x offers (unmoved ▸ at_resolving)
  agreed := h.agreed inv.agreed

theorem refl (s : State) : Kept s s := ⟨rfl, fun _ => id, fun _ => rfl, fun _ _ => rfl, id⟩

theorem trans (h : Kept s t) (k : Kept t u) : Kept s u where
  offers := k.offers.trans h.offers
  flags x flag := h.flags x (k.flags x flag)
  standing x := (k.standing x).trans (h.standing x)
  task x begun := by
    have unmoved := k.task x begun
    exact unmoved.trans (h.task x (unmoved ▸ begun))
  agreed := k.agreed ∘ h.agreed

theorem goto (h : task.starting = false) : Kept s (s.goto x task) where
  offers := rfl
  flags _ := id
  standing _ := rfl
  task y begun := by
    by_cases same : y = x
    · subst same
      simp [h] at begun
    · simp [same]
  agreed := id

theorem removeTrade (e : EntityId) : Kept s (s.removeTrade e) :=
  ⟨rfl, fun _ => id, fun _ => rfl, fun _ _ => rfl, id⟩

theorem findTrade (h : task.starting = false) : Kept s (s.findTrade x task) := by
  unfold State.findTrade
  split
  · exact goto h
  · exact goto rfl

theorem reset : Kept s (s.reset x) := by
  have moved : Kept s (s.goto x .idle) := goto rfl
  exact ⟨rfl, by simp, moved.standing, moved.task, moved.agreed⟩

theorem note {event : Event}
    (standing_cons : ∀ x earlier, Trade.standing x (event :: earlier) = Trade.standing x earlier)
    (agreed_cons : ∀ earlier, Agreed earlier → Agreed (event :: earlier)) :
    Kept s (s.note event) :=
  ⟨rfl, fun _ => id, fun _ => standing_cons _ _, fun _ _ => rfl, agreed_cons _⟩

theorem receive (message : ClientMessage) : Kept s (s.receive x message) := by
  cases message with
  | tradeOfferItem itemType quantity =>
      simp only [State.receive]
      split
      · exact refl s
      · exact findTrade rfl
  | tradeOfferCurrency currencyKey amount =>
      simp only [State.receive]
      split
      · exact refl s
      · exact findTrade rfl
  | tradeConfirm => exact findTrade rfl
  | tradeCancel => exact (findTrade rfl).trans (removeTrade _)

theorem disconnect : Kept s (s.disconnect x) := by
  have moved : Kept s (s.goto x .leaving) := goto rfl
  exact ⟨rfl, fun _ => id, moved.standing, moved.task, moved.agreed⟩

theorem finish (store : CharacterStore) (offers : Offers) (characterA characterB : CharacterId)
    (fails : Bool) : Kept s (s.finish x store offers characterA characterB fails) := by
  have ends (ok : Bool) (s : State) : Kept s (s.note (.finished ok)) :=
    note (fun _ _ => rfl) fun _ => id
  unfold State.finish
  split
  · next db _ =>
      have written : Kept s { s with db } := ⟨rfl, fun _ => id, fun _ => rfl, fun _ _ => rfl, id⟩
      exact written.trans ((goto rfl).trans (ends true _))
  · exact (goto rfl).trans (ends false _)

theorem leave : Kept s (s.leave x) := by
  refine trans (goto ?_) (removeTrade _)
  split <;> rfl

theorem dropOther (thenGone : Bool) : Kept s (s.dropOther x thenGone) := by
  simp only [State.dropOther, State.entity, TradeSession.other_entity]
  exact (goto rfl).trans (removeTrade _)

theorem announce (thenGone : Bool) : Kept s (s.announce x thenGone) := by
  refine trans (goto ?_) (note (fun _ _ => rfl) fun _ => id)
  split <;> rfl

end Kept

namespace Settled

variable {s t : State} {x : Side}

/-- After a change nobody's confirmation counts, unless the offers are the same. -/
theorem changeOffer {change : OfferChange} (inv : Settled s) (own : s.task x = .offering change)
    (legal : (s.task x.other).starting = true →
      (s.session.modifyOffer (s.entity x) change.apply).offers = s.session.offers) :
    Settled (s.changeOffer x change) := by
  have begun : ∀ y, ((s.changeOffer x change).task y).starting = true →
      y = x.other ∧ (s.task x.other).starting = true := by
    intro y h
    rcases x.eq_or_eq_other y with rfl | rfl
    · simp [State.changeOffer, Task.starting] at h
    · exact ⟨rfl, by simpa [State.changeOffer] using h⟩
  have kept : (s.task x.other).starting = true →
      (s.changeOffer x change).session.offers = s.session.offers := by
    intro h
    simpa [State.changeOffer] using legal h
  refine ⟨fun y flag => ?_, fun y h z => ?_, fun y offers h => ?_, inv.agreed⟩
  · simp [State.changeOffer] at flag
  · have other := (begun y h).2
    have stands := inv.starting x.other other z
    have same := legal other
    simp [State.changeOffer, standing, stands, same]
  · have other := begun y (by rw [h]; rfl)
    obtain ⟨rfl, other⟩ := other
    rw [kept other]
    exact inv.current _ offers (by simpa [State.changeOffer] using h)

theorem confirm (inv : Settled s) (own : s.task x = .confirming) : Settled (s.confirm x) := by
  have stands : ∀ y, (s.session.confirm x).confirmed y = true →
      standing y (s.confirm x).history = some s.session.offers := by
    intro y flag
    by_cases same : x = y
    · simp [State.confirm, standing, same]
    · have earlier : s.session.confirmed y = true := by
        simpa [Ne.symm same] using flag
      simpa [State.confirm, standing, same] using inv.flagged y earlier
  refine ⟨fun y flag => ?_, fun y begun z => ?_, fun y offers h => ?_, inv.agreed⟩
  · simpa [State.confirm] using stands y flag
  · suffices ready : ∀ z, standing z (s.confirm x).history = some s.session.offers by
      simpa [State.confirm] using ready z
    rcases x.eq_or_eq_other y with rfl | rfl
    -- the section that has just found both flags set
    · have both : (s.session.confirm y).bothConfirmed = true := by
        by_contra off
        simp [State.confirm, off, Task.starting] at begun
      exact fun z => stands z ((s.session.confirm y).bothConfirmed_iff.mp both z)
    · have other : (s.task x.other).starting = true := by simpa [State.confirm] using begun
      intro z
      by_cases same : x = z
      · simp [State.confirm, standing, same]
      · simpa [State.confirm, standing, same] using inv.starting x.other other z
  · have unmoved : s.task y = .resolving offers := by
      rcases x.eq_or_eq_other y with rfl | rfl
      · simp only [State.confirm, State.note_task, State.goto_task, Function.update_self] at h
        split at h <;> cases h
      · simpa [State.confirm] using h
    simpa [State.confirm] using inv.current y offers unmoved

/-- The offers are read as they were confirmed. -/
theorem read (inv : Settled s) (own : s.task x = .reading) :
    Settled (s.goto x (.resolving s.session.offers)) where
  flagged := inv.flagged
  starting y begun := by
    rcases x.eq_or_eq_other y with rfl | rfl
    · exact inv.starting y (by rw [own]; rfl)
    · exact inv.starting x.other (by simpa using begun)
  current y offers h := by
    rcases x.eq_or_eq_other y with rfl | rfl
    · simpa [eq_comm] using h
    · exact inv.current x.other offers (by simpa using h)
  agreed := inv.agreed

/-- The call is made with the offers that both have confirmed. -/
theorem resolve {offers : Offers} (inv : Settled s) (own : s.task x = .resolving offers) :
    Settled (s.resolve x offers) := by
  have stands : ∀ y, standing y s.history = some offers := by
    rw [inv.current x offers own]
    exact inv.starting x (by rw [own]; rfl)
  unfold State.resolve
  split
  · next characterA characterB _ _ =>
      have moved : Settled (s.goto x (.executing offers characterA characterB)) :=
        (Kept.goto rfl).settled inv
      exact ⟨moved.flagged, moved.starting, moved.current, stands, inv.agreed⟩
  · exact (Kept.goto rfl).settled inv

theorem resume {store : CharacterStore} {fails : Bool} {task : Task} (inv : Settled s)
    (own : s.task x = task) (legal : OffersSettled s (.resume x fails))
    (taken : s.resume x store fails task = some t) : Settled t := by
  cases task with
  | idle | gone => cases taken
  | offering change =>
      cases taken
      exact inv.changeOffer own (by simpa [OffersSettled, own] using legal)
  | confirming =>
      cases taken
      exact inv.confirm own
  | notReady =>
      cases taken
      exact (Kept.goto rfl).settled inv
  | reading =>
      cases taken
      exact inv.read own
  | resolving offers =>
      cases taken
      exact inv.resolve own
  | executing offers characterA characterB =>
      cases taken
      exact (Kept.finish store offers characterA characterB fails).settled inv
  | resetting =>
      cases taken
      exact Kept.reset.settled inv
  | removingA =>
      cases taken
      exact ((Kept.goto rfl).trans (Kept.removeTrade _)).settled inv
  | removingB =>
      cases taken
      exact ((Kept.goto rfl).trans (Kept.removeTrade _)).settled inv
  | cancelling thenGone =>
      cases taken
      exact (Kept.dropOther thenGone).settled inv
  | announcing thenGone =>
      cases taken
      exact (Kept.announce thenGone).settled inv
  | leaving =>
      cases taken
      exact Kept.leave.settled inv

theorem step {store : CharacterStore} {l : Label} (inv : Settled s) (legal : OffersSettled s l)
    (taken : Trade.step store s l = some t) : Settled t := by
  cases l with
  | receive x message =>
      simp only [Trade.step] at taken
      split at taken
      · cases taken
        exact (Kept.receive message).settled inv
      · cases taken
  | disconnect x =>
      simp only [Trade.step] at taken
      split at taken
      · cases taken
        exact Kept.disconnect.settled inv
      · cases taken
  | resume x fails => exact inv.resume rfl legal taken
  | database db =>
      cases taken
      exact ⟨inv.flagged, inv.starting, inv.current, inv.agreed⟩

end Settled

theorem settled_start {entityA entityB : EntityId} (distinct : entityA ≠ entityB)
    (entityCharacters : EntityId → Option CharacterId) (db : Character.Tables) :
    Settled (start entityA entityB distinct entityCharacters db) where
  flagged x flag := by cases x <;> cases flag
  starting _ begun := by cases begun
  current _ _ h := by cases h
  agreed := trivial

/-- A trade is executed with the offers that both participants have confirmed, in
every interleaving in which no offer changes while the other participant's task
is between its check of the confirmations and its call. -/
theorem agreed_of_offersSettled (store : CharacterStore) {entityA entityB : EntityId}
    (distinct : entityA ≠ entityB) (entityCharacters : EntityId → Option CharacterId)
    (db : Character.Tables) {ls : List Label} {s : State}
    (settled : Transition.Admissible (step store) OffersSettled
      (start entityA entityB distinct entityCharacters db) ls)
    (run : Transition.exec (step store)
      (start entityA entityB distinct entityCharacters db) ls = some s) : Agreed s.history :=
  (Transition.exec_invariant (fun _ _ _ inv legal taken => inv.step legal taken)
    (settled_start distinct entityCharacters db) settled run).agreed

namespace SwordForGold

-- A sword of one player for a hundred gold of the other.
def seller : CharacterId := .fromUuid 1

def buyer : CharacterId := .fromUuid 2

def sellerEntity : EntityId := .fromUuid 11

def buyerEntity : EntityId := .fromUuid 12

def entityCharacters (e : EntityId) : Option CharacterId :=
  if e = sellerEntity then some seller else if e = buyerEntity then some buyer else none

def purse : Character.Balance := ⟨250, by decide, by decide⟩

def holdings : Character.Tables :=
  ((((∅ : Character.Tables).insert (.character seller) ∅).insert (.character buyer) ∅).insert
    (.item seller "sword") .one).insert
    (.currency buyer "gold") purse

def plainStore : CharacterStore := ⟨⟨8, []⟩, {}⟩

theorem sellerEntity_ne : sellerEntity ≠ buyerEntity := by decide

def opened : State := start sellerEntity buyerEntity sellerEntity_ne entityCharacters holdings

/-- A participant sends a message and its handler runs through `sections` of its
sections. -/
def sends (x : Side) (message : ClientMessage) (sections : Nat) : List Label :=
  .receive x message :: List.replicate sections (.resume x false)

def offersMade : List Label :=
  sends .a (.tradeOfferItem "sword" 1) 1 ++ sends .b (.tradeOfferCurrency "gold" 100) 1

/-- The seller confirms, then the buyer does and the exchange is made. -/
theorem agreed_of_offersSettled_in_turn :
    ∃ s, Transition.exec (step plainStore) opened
        (offersMade ++ sends .a .tradeConfirm 2 ++ sends .b .tradeConfirm 4) = some s ∧
      .finished true ∈ s.history ∧ Agreed s.history := by
  have ends : (Transition.exec (step plainStore) opened
      (offersMade ++ sends .a .tradeConfirm 2 ++ sends .b .tradeConfirm 4)).any
      (fun s => decide (.finished true ∈ s.history)) = true := by decide
  obtain ⟨s, run, executed⟩ := Transition.exec_reaches ends
  exact ⟨s, run, executed, agreed_of_offersSettled _ _ _ _ (by decide) run⟩

/-- The seller takes the sword back after the buyer's task has found both flags
set: the buyer pays for an offer that neither has confirmed. -/
theorem execute_without_agreement :
    ¬ ∀ (ls : List Label) (s : State),
      Transition.exec (step plainStore) opened ls = some s → Agreed s.history := by
  intro agreed
  have ends : (Transition.exec (step plainStore) opened
      (offersMade ++ sends .a .tradeConfirm 2 ++ sends .b .tradeConfirm 1 ++
        sends .a (.tradeOfferItem "sword" 0) 1 ++ List.replicate 3 (.resume .b false))).any
      (fun s => decide (.finished true ∈ s.history ∧ ¬ Agreed s.history)) = true := by
    decide
  obtain ⟨s, run, -, disagreed⟩ := Transition.exec_reaches ends
  exact disagreed (agreed _ s run)

end SwordForGold

end WorldZero.Server.Trade
