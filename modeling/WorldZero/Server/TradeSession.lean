import WorldZero.Character.Trade
import WorldZero.Transition
import Mathlib.Data.List.AList
import Mathlib.Logic.Function.Basic

/-!
# Trade sessions

A trade is negotiated in memory between two connected players, each served by a
task of its own. A handler takes a lock, works, releases it, and takes the next:
between two such sections the task of the other player may run. `resume` is the
next section of one task, and a schedule is any interleaving of the two. The
await on `execute_trade` begins with one section and ends with another, at which
the transaction commits or fails.

The history records what the sections did and is read by the specification only.
-/

namespace WorldZero.Server.Trade

open Character

/-! ### The session -/

/-- A `HashMap<String, i64>`, in the order in which it is iterated. -/
abbrev Entries := AList fun _ : String => Int

/-- Zero removes the entry. -/
def Entries.set (m : Entries) (key : String) (n : Int) : Entries :=
  if n = 0 then m.erase key else if key ∈ m then m.replace key n else m.insert key n

structure TradeOffer where
  items : Entries
  currency : Entries
  confirmed : Bool
  deriving DecidableEq

def TradeOffer.default : TradeOffer := ⟨∅, ∅, false⟩

/-- The offered entries, as `execute_trade` takes them. -/
def tradeOfferInput (offer : TradeOffer) : TradeOfferInput where
  items := offer.items.entries.map fun e => (e.1, e.2)
  currency := offer.currency.entries.map fun e => (e.1, e.2)

/-- A negotiation between two players. A request to oneself is refused. -/
structure TradeSession where
  entityA : EntityId
  entityB : EntityId
  offerA : TradeOffer
  offerB : TradeOffer
  distinct : entityA ≠ entityB

/-- Both offers, first that of `entity_a`. -/
abbrev Offers := TradeOfferInput × TradeOfferInput

namespace TradeSession

def other (s : TradeSession) (entityId : EntityId) : Option EntityId :=
  if entityId = s.entityA then some s.entityB
  else if entityId = s.entityB then some s.entityA
  else none

def offer (s : TradeSession) (entityId : EntityId) : Option TradeOffer :=
  if entityId = s.entityA then some s.offerA
  else if entityId = s.entityB then some s.offerB
  else none

/-- What the handlers do through `offer_mut`. -/
def modifyOffer (s : TradeSession) (entityId : EntityId) (f : TradeOffer → TradeOffer) :
    TradeSession :=
  if entityId = s.entityA then { s with offerA := f s.offerA }
  else if entityId = s.entityB then { s with offerB := f s.offerB }
  else s

def resetConfirmed (s : TradeSession) : TradeSession :=
  { s with
    offerA := { s.offerA with confirmed := false }
    offerB := { s.offerB with confirmed := false } }

def bothConfirmed (s : TradeSession) : Bool := s.offerA.confirmed && s.offerB.confirmed

def offers (s : TradeSession) : Offers := (tradeOfferInput s.offerA, tradeOfferInput s.offerB)

end TradeSession

/-- The two participants, and the tasks that serve them. -/
inductive Side where
  | a
  | b
  deriving DecidableEq

namespace Side

def other : Side → Side
  | a => b
  | b => a

@[simp] theorem other_other (x : Side) : x.other.other = x := by cases x <;> rfl

@[simp] theorem other_ne (x : Side) : x.other ≠ x := by cases x <;> decide

@[simp] theorem ne_other (x : Side) : x ≠ x.other := x.other_ne.symm

theorem eq_or_eq_other (x y : Side) : y = x ∨ y = x.other := by cases x <;> cases y <;> decide

theorem forall_iff (x : Side) {P : Side → Prop} : (∀ y, P y) ↔ P x ∧ P x.other := by
  constructor
  · intro h
    exact ⟨h x, h x.other⟩
  · rintro ⟨self, other⟩ y
    rcases x.eq_or_eq_other y with rfl | rfl
    · exact self
    · exact other

end Side

namespace TradeSession

variable (s : TradeSession) (x y : Side) (f : TradeOffer → TradeOffer)

/-- The `entity_id` of a participant's task. -/
def entity : Side → EntityId
  | .a => s.entityA
  | .b => s.entityB

def confirmed : Side → Bool
  | .a => s.offerA.confirmed
  | .b => s.offerB.confirmed

@[simp] theorem entity_inj : s.entity x = s.entity y ↔ x = y := by
  cases x <;> cases y <;> simp [entity, s.distinct, s.distinct.symm]

@[simp] theorem other_entity : s.other (s.entity x) = some (s.entity x.other) := by
  cases x <;> simp [other, entity, Side.other, s.distinct.symm]

@[simp] theorem entity_modifyOffer : (s.modifyOffer (s.entity x) f).entity = s.entity := by
  funext y
  cases x <;> cases y <;> simp [modifyOffer, entity, s.distinct.symm]

@[simp] theorem entity_resetConfirmed : s.resetConfirmed.entity = s.entity := by
  funext y
  cases y <;> rfl

@[simp] theorem confirmed_resetConfirmed : s.resetConfirmed.confirmed y = false := by
  cases y <;> rfl

@[simp] theorem offers_resetConfirmed : s.resetConfirmed.offers = s.offers := rfl

theorem bothConfirmed_iff : s.bothConfirmed = true ↔ ∀ y, s.confirmed y = true := by
  rw [Side.forall_iff .a]
  simp [bothConfirmed, confirmed, Side.other]

/-- Setting the flag of one participant. -/
def confirm : TradeSession :=
  s.modifyOffer (s.entity x) fun offer => { offer with confirmed := true }

@[simp] theorem entity_confirm : (s.confirm x).entity = s.entity := s.entity_modifyOffer x _

@[simp] theorem offers_confirm : (s.confirm x).offers = s.offers := by
  cases x <;> simp [confirm, modifyOffer, entity, offers, tradeOfferInput, s.distinct.symm]

@[simp] theorem confirmed_confirm :
    (s.confirm x).confirmed y = (decide (y = x) || s.confirmed y) := by
  cases x <;> cases y <;> simp [confirm, modifyOffer, entity, confirmed, s.distinct.symm]

end TradeSession

/-! ### The handlers, section by section -/

inductive OfferChange where
  | item (itemType : String) (quantity : Int)
  | currency (currencyKey : String) (amount : Int)
  deriving DecidableEq

def OfferChange.apply : OfferChange → TradeOffer → TradeOffer
  | .item itemType quantity, offer => { offer with items := offer.items.set itemType quantity }
  | .currency currencyKey amount, offer =>
      { offer with currency := offer.currency.set currencyKey amount }

inductive ClientMessage where
  | tradeOfferItem (itemType : String) (quantity : Int)
  | tradeOfferCurrency (currencyKey : String) (amount : Int)
  | tradeConfirm
  | tradeCancel
  deriving DecidableEq

/-- Where a participant's task is between two sections. -/
inductive Task where
  | idle
  /-- The trade has been looked up, the offer is about to be changed. -/
  | offering (change : OfferChange)
  /-- The trade has been looked up, the flag is about to be set. -/
  | confirming
  /-- The other side has not confirmed, the state is about to be pushed. -/
  | notReady
  /-- `both_confirmed` was true, the offers are about to be read. -/
  | reading
  /-- The offers have been read, the characters are about to be looked up. -/
  | resolving (offers : Offers)
  /-- `execute_trade` is awaited. -/
  | executing (offers : Offers) (characterA characterB : CharacterId)
  /-- The trade failed, the confirmations are about to be reset. -/
  | resetting
  | removingA
  | removingB
  /-- The own entry has been removed, that of the other side is about to be. -/
  | cancelling (thenGone : Bool)
  /-- Both entries have been removed, `TradeCancelled` is about to be sent. -/
  | announcing (thenGone : Bool)
  /-- The cleanup has removed the character and comes to the trade. -/
  | leaving
  | gone

inductive Event where
  | offered (offers : Offers)
  | confirmed (x : Side) (offers : Offers)
  | started (offers : Offers)
  | finished (ok : Bool)
  | tradeCancelled (x : Side)
  deriving DecidableEq

structure State where
  session : TradeSession
  /-- Whether `active_trades` maps the entity to this session. -/
  activeTrades : EntityId → Bool
  entityCharacters : EntityId → Option CharacterId
  task : Side → Task
  db : Tables
  /-- The latest event comes first. -/
  history : List Event

inductive Label where
  | receive (x : Side) (message : ClientMessage)
  | disconnect (x : Side)
  /-- The next section; `fails` only matters where a transaction is to commit. -/
  | resume (x : Side) (fails : Bool)
  /-- Any other work on the database. -/
  | database (db : Tables)

namespace State

variable (s : State) (x : Side)

def entity : EntityId := s.session.entity x

/-- Whether the participant still finds the trade. -/
def active : Bool := s.activeTrades (s.entity x)

@[simps]
def goto (task : Task) : State := { s with task := Function.update s.task x task }

@[simps]
def note (event : Event) : State := { s with history := event :: s.history }

@[simps]
def removeTrade (entityId : EntityId) : State :=
  { s with activeTrades := Function.update s.activeTrades entityId false }

/-- Look the trade up; the error answers are sent to the participant alone. -/
def findTrade (task : Task) : State := s.goto x (if s.active x then task else .idle)

def receive : ClientMessage → State
  | .tradeOfferItem itemType quantity =>
      if quantity < 0 then s else s.findTrade x (.offering (.item itemType quantity))
  | .tradeOfferCurrency currencyKey amount =>
      if amount < 0 then s else s.findTrade x (.offering (.currency currencyKey amount))
  | .tradeConfirm => s.findTrade x .confirming
  | .tradeCancel => (s.findTrade x (.cancelling false)).removeTrade (s.entity x)

@[simps]
def disconnect : State :=
  { s.goto x .leaving with
    entityCharacters := Function.update s.entityCharacters (s.entity x) none }

/-- The cleanup removes the own entry, as a cancel does. -/
def leave : State :=
  (s.goto x (if s.active x then .cancelling true else .gone)).removeTrade (s.entity x)

/-- Any change of an offer takes both confirmations back. -/
def changeOffer (change : OfferChange) : State :=
  let session := (s.session.modifyOffer (s.entity x) change.apply).resetConfirmed
  ({ s with session }.goto x .idle).note (.offered session.offers)

def confirm : State :=
  let session := s.session.confirm x
  ({ s with session }.goto x (if session.bothConfirmed then .reading else .notReady)).note
    (.confirmed x session.offers)

/-- Look both characters up and call `execute_trade` with the offers read before. -/
def resolve (offers : Offers) : State :=
  match s.entityCharacters s.session.entityA, s.entityCharacters s.session.entityB with
  | some characterA, some characterB =>
      (s.goto x (.executing offers characterA characterB)).note (.started offers)
  | _, _ => s.goto x .resetting

/-- The await ends: the transaction commits, or `execute_trade` returns an error. -/
def finish (store : CharacterStore) (offers : Offers) (characterA characterB : CharacterId)
    (fails : Bool) : State :=
  match (executeTrade store characterA offers.1 characterB offers.2).transaction s.db, fails with
  | (.ok _, db), false => ({ s with db }.goto x .removingA).note (.finished true)
  | _, _ => (s.goto x .resetting).note (.finished false)

@[simps]
def reset : State := { s.goto x .idle with session := s.session.resetConfirmed }

/-- Remove the entry of the other participant. -/
def dropOther (thenGone : Bool) : State :=
  match s.session.other (s.entity x) with
  | some other => (s.goto x (.announcing thenGone)).removeTrade other
  | none => s.goto x (if thenGone then .gone else .idle)

def announce (thenGone : Bool) : State :=
  (s.goto x (if thenGone then .gone else .idle)).note (.tradeCancelled x)

/-- The next section of a task that is at `task`. -/
def resume (store : CharacterStore) (fails : Bool) : Task → Option State
  | .idle | .gone => none
  | .offering change => some (s.changeOffer x change)
  | .confirming => some (s.confirm x)
  | .notReady => some (s.goto x .idle)
  | .reading => some (s.goto x (.resolving s.session.offers))
  | .resolving offers => some (s.resolve x offers)
  | .executing offers characterA characterB =>
      some (s.finish x store offers characterA characterB fails)
  | .resetting => some (s.reset x)
  | .removingA => some ((s.goto x .removingB).removeTrade s.session.entityA)
  | .removingB => some ((s.goto x .idle).removeTrade s.session.entityB)
  | .cancelling thenGone => some (s.dropOther x thenGone)
  | .announcing thenGone => some (s.announce x thenGone)
  | .leaving => some (s.leave x)

end State

def step (store : CharacterStore) (s : State) : Label → Option State
  | .receive x message =>
      match s.task x with
      | .idle => some (s.receive x message)
      | _ => none
  | .disconnect x =>
      match s.task x with
      | .idle => some (s.disconnect x)
      | _ => none
  | .resume x fails => s.resume x store fails (s.task x)
  | .database db => some { s with db }

/-- A request has just been accepted: both participants find the empty trade. -/
def start (entityA entityB : EntityId) (distinct : entityA ≠ entityB)
    (entityCharacters : EntityId → Option CharacterId) (db : Tables) : State where
  session := ⟨entityA, entityB, .default, .default, distinct⟩
  activeTrades e := e = entityA || e = entityB
  entityCharacters
  task _ := .idle
  db
  history := []

end WorldZero.Server.Trade
