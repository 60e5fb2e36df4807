import Mathlib.Data.Fintype.Sum
import Mathlib.Tactic.DeriveFintype
import WorldZero.Character.FailingExchanges
import WorldZero.Delivery
import WorldZero.Server.OtherCharacters
import WorldZero.Transition

/-!
# The inventory view of a client

The handlers of a connection, the handlers of other connections and the world actors change
what a character has and report it. The connection's own handler writes its replies to the
socket itself; everything else joins the connection's queue, which the handler forwards when
it has nothing else to do. So a queued report can be overtaken by a younger reply.

A call that fails after it has changed something is answered by an `Error` only. A hook that
changes a character finds the client to tell by the entry of the character, which the cleanup
of another connection may have taken out.
-/

namespace WorldZero.Server.InventoryView

open Sql Character CraftingSchema
open Delivery (Report)

structure SessionDeps where
  characterStore : CharacterStore
  equipmentSchema : EquipmentSchema
  craftingSchema : CraftingSchema
  bounds : I64Bounds characterStore.schema
  accepted : ∀ recipe ∈ craftingSchema.recipes, Accepted characterStore.schema recipe

/-! ### What a handler does and tells -/

/-- A client's message, with the answers that its handler gets from elsewhere. -/
inductive Request where
  | dropItem (itemType : String) (quantity : Int) (known : Except Error Bool)
  | equipItem (itemType : String)
  | unequipItem (slot : String)
  | craftItem (recipeKey : String) (rolls : ℕ → Bool)

/-- `entity_characters` and `character_entities`: whose character an entity is, and under which
entity a character is known. -/
structure Registry where
  entityCharacters : EntityId → Option CharacterId
  characterEntities : CharacterId → Option EntityId

/-- What plugins, trades and other connections do. A plugin names an entity, a hook that has
none names a character. -/
inductive Effect where
  | applyStatDelta (entity : EntityId) (statKey : String) (delta : Int)
  | applyStatDeltaForCharacter (target : CharacterId) (statKey : String) (delta : Int)
  | grantItem (entity : EntityId) (itemType : String) (quantity : Int)
  | removeItem (entity : EntityId) (itemType : String) (quantity : Int)
  | modifyCurrency (entity : EntityId) (currencyKey : String) (delta : Int)
  | executeTrade (a : EntityId) (offerA : TradeOfferInput) (b : EntityId)
      (offerB : TradeOfferInput) (listing : Listing)
  /-- Of another connection, for the character that it has joined with. -/
  | request (owner : CharacterId) (r : Request)

/-- What a call tells the client, and what it leaves stored. A call that fails tells nothing of
what it may have changed. -/
abbrev Outcome := Option (List Message) × EquipState

section
variable {α : Type} (faults : Faults) (s : EquipState)

def tellCall (m : EquipM α) (tell : α → List Message) : Outcome :=
  let (result, s', _) := m.run faults s
  (result.toOption.map tell, s')

def tellTransaction (p : StoreM α) (commitFailure : Error) (tell : α → List Message) : Outcome :=
  let (result, tables, _) := p.transactionFaulty commitFailure faults s.tables
  (result.toOption.map tell, withTables s tables)

end

def Request.handle (deps : SessionDeps) (c : CharacterId) (faults : Faults) (s : EquipState) :
    Request → Outcome
  | .dropItem itemType quantity (.ok true) =>
      tellCall faults s (.call c (Character.removeItem c itemType quantity)) fun remaining =>
        [.itemChanged itemType remaining]
  | .dropItem _ _ (.ok false) | .dropItem _ _ (.error _) => (none, s)
  | .equipItem itemType =>
      tellCall faults s (Character.equipItem deps.characterStore deps.equipmentSchema c itemType)
        equipMessages
  | .unequipItem slot =>
      tellCall faults s (Character.unequipItem deps.characterStore deps.equipmentSchema c slot)
        unequipMessages
  | .craftItem recipeKey rolls =>
      match deps.craftingSchema.resolve recipeKey with
      | .error _ => (none, s)
      | .ok recipe =>
          tellTransaction faults s (Character.craftItem deps.characterStore c recipe rolls)
            (.wrap "character" "failed to commit craft") craftMessages

/-- The side of the trade that the client is on. -/
def sideOf (me a b : EntityId) (result : TradeResult) : Option TradeSideResult :=
  if me = a then some result.a else if me = b then some result.b else none

/-- What is told to the client `me`. An entity that is nobody's gets nothing. `listing` is the
order in which the hash maps of the client's side of a trade are iterated. -/
def Effect.perform (deps : SessionDeps) (registry : Registry) (me : EntityId) (faults : Faults)
    (s : EquipState) : Effect → Option Outcome
  | .applyStatDelta entity statKey delta =>
      (registry.entityCharacters entity).map fun owner => tellCall faults s
        (.call owner (Character.applyStatDelta deps.characterStore owner statKey delta))
        fun value => if entity = me then [.statChanged statKey value] else []
  | .applyStatDeltaForCharacter target statKey delta =>
      some (tellCall faults s
        (.call target (Character.applyStatDelta deps.characterStore target statKey delta))
        fun value => if registry.characterEntities target = some me then
          [.statChanged statKey value] else [])
  | .grantItem entity itemType quantity =>
      (registry.entityCharacters entity).map fun owner => tellCall faults s
        (.call owner (Character.grantItem deps.characterStore owner itemType quantity))
        fun quantity => if entity = me then [.itemChanged itemType quantity] else []
  | .removeItem entity itemType quantity =>
      (registry.entityCharacters entity).map fun owner => tellCall faults s
        (.call owner (Character.removeItem owner itemType quantity))
        fun remaining => if entity = me then [.itemChanged itemType remaining] else []
  | .modifyCurrency entity currencyKey delta =>
      (registry.entityCharacters entity).map fun owner => tellCall faults s
        (.call owner (Character.modifyCurrency owner currencyKey delta))
        fun balance => if entity = me then [.currencyChanged currencyKey balance] else []
  | .executeTrade a offerA b offerB listing =>
      match registry.entityCharacters a, registry.entityCharacters b with
      | some characterA, some characterB =>
          let (result, tables, _) := (Character.executeTrade deps.characterStore characterA offerA
            characterB offerB).transactionFaulty (.wrap "character" "failed to commit trade")
            faults s.tables
          match result with
          | .error _ => some (none, withTables s tables)
          | .ok result =>
              match sideOf me a b result with
              | none => some (some [], withTables s tables)
              | some side =>
                  if listing.Of side then some (some (tradeMessages listing), withTables s tables)
                  else none
      | _, _ => none
  | .request owner r =>
      let (told, s') := r.handle deps owner faults s
      some (told.map fun _ => [], s')

/-! ### The connection and the tasks around it -/

/-- Who holds reports for the connection. Its own handler holds those that it writes to the
socket itself apart from those that it queues, as the pushes of a trade. -/
inductive Sender (ι : Type) where
  | direct
  | handler
  | task (i : ι)
  deriving DecidableEq, Fintype

structure State (ι : Type) where
  storage : EquipState
  registry : Registry
  view : Delivery.State (Sender ι) Message

variable {ι : Type} [DecidableEq ι]

/-- The connection's handler is between two messages. -/
def State.Idle (s : State ι) : Prop := s.view.hands .direct = [] ∧ s.view.hands .handler = []

instance (s : State ι) : Decidable s.Idle := inferInstanceAs (Decidable (_ ∧ _))

/-- A task that holds nothing may go on; the connection's handler also needs to be idle. -/
def State.Free (s : State ι) : Sender ι → Prop
  | .direct => False
  | .handler => s.Idle
  | .task i => s.view.hands (.task i) = []

instance (s : State ι) : DecidablePred s.Free
  | .direct => inferInstanceAs (Decidable False)
  | .handler => inferInstanceAs (Decidable s.Idle)
  | .task i => inferInstanceAs (Decidable (s.view.hands (.task i) = []))

inductive Label (ι : Type) where
  /-- The handler takes a message of the client, up to its first reply. -/
  | request (r : Request) (faults : Faults)
  /-- A task changes storage. -/
  | effect (p : Sender ι) (e : Effect) (faults : Faults)
  /-- The next report leaves its task, for the socket or for the queue. -/
  | deliver (p : Sender ι)
  /-- The handler forwards from its queue. -/
  | forward
  /-- Another connection writes its entry, or takes it out. -/
  | entityCharacter (entity : EntityId) (entry : Option CharacterId)
  | characterEntity (character : CharacterId) (entry : Option EntityId)

/-- The task now holds what the call tells. -/
def State.after (s : State ι) (p : Sender ι) (o : Outcome) : State ι :=
  ⟨o.2, s.registry, s.view.emit p (o.1.getD [])⟩

/-- The connection of the entity `me`, which has joined with the character `c`. -/
def step (deps : SessionDeps) (me : EntityId) (c : CharacterId) (s : State ι) :
    Label ι → Option (State ι)
  | .request r faults =>
      if s.Idle then some (s.after .direct (r.handle deps c faults s.storage)) else none
  | .effect p e faults =>
      if s.Free p then (e.perform deps s.registry me faults s.storage).map (s.after p) else none
  | .deliver .direct => (s.view.direct .direct).map fun view => { s with view }
  | .deliver p => (s.view.push p).map fun view => { s with view }
  | .forward => if s.Idle then s.view.forward.map fun view => { s with view } else none
  | .entityCharacter entity entry =>
      if entity = me then none
      else some { s with registry := { s.registry with
        entityCharacters := Function.update s.registry.entityCharacters entity entry } }
  | .characterEntity character entry =>
      some { s with registry := { s.registry with
        characterEntities := Function.update s.registry.characterEntities character entry } }

/-- The client has joined with this in storage, and with these entries of other connections. -/
def joined (me : EntityId) (c : CharacterId) (storage : EquipState) (others : Registry) :
    State ι where
  storage
  registry :=
    { entityCharacters := Function.update others.entityCharacters me (some c)
      characterEntities := Function.update others.characterEntities c (some me) }
  view := Delivery.start

/-! ### The condition -/

/-- The inputs of the recipe settle their item types. -/
def Request.Sound (deps : SessionDeps) (c : CharacterId) (s : EquipState) : Request → Prop
  | .craftItem recipeKey _ => ∀ recipe, deps.craftingSchema.resolve recipeKey = .ok recipe →
      Settles recipe (quantity s.tables c)
  | _ => True

/-- A request that fails does so before its first write. A craft is a transaction, whose commit
may not lose its reply. -/
def Request.FailsClean (deps : SessionDeps) (c : CharacterId) (faults : Faults) (s : EquipState) :
    Request → Prop
  | .dropItem itemType quantity (.ok true) =>
      (Character.removeItem c itemType quantity).failsClean false faults s.tables
  | .dropItem _ _ (.ok false) | .dropItem _ _ (.error _) => True
  | .equipItem itemType =>
      equipFailsClean deps.characterStore deps.equipmentSchema c itemType faults s
  | .unequipItem slot =>
      unequipFailsClean deps.characterStore deps.equipmentSchema c slot faults s
  | .craftItem recipeKey rolls => ∀ recipe, deps.craftingSchema.resolve recipeKey = .ok recipe →
      (Character.craftItem deps.characterStore c recipe rolls).commitHeard faults s.tables

/-- What is done to the character `c`, and nothing else, is done through the entity `me`: it is
named, or it is the entity that the character is known under. -/
def Effect.Reaches (registry : Registry) (me : EntityId) (c : CharacterId) : Effect → Prop
  | .applyStatDelta entity .. | .grantItem entity .. | .removeItem entity ..
  | .modifyCurrency entity .. => registry.entityCharacters entity = some c → entity = me
  | .applyStatDeltaForCharacter target .. =>
      registry.characterEntities target = some me ↔ target = c
  | .executeTrade a _ b _ _ =>
      (registry.entityCharacters a = some c → a = me) ∧
        (registry.entityCharacters b = some c → b = me)
  | .request owner _ => owner ≠ c

/-- A character does not trade with itself. -/
def Effect.Sound (registry : Registry) : Effect → Prop
  | .executeTrade a _ b _ _ => ∀ character, registry.entityCharacters a = some character →
      registry.entityCharacters b ≠ some character
  | _ => True

/-- What fails to be done to the character `c` fails before its first write. -/
def Effect.FailsClean (deps : SessionDeps) (registry : Registry) (c : CharacterId)
    (faults : Faults) (s : EquipState) : Effect → Prop
  | .applyStatDelta entity statKey delta => registry.entityCharacters entity = some c →
      (Character.applyStatDelta deps.characterStore c statKey delta).failsClean false faults
        s.tables
  | .applyStatDeltaForCharacter target statKey delta => target = c →
      (Character.applyStatDelta deps.characterStore c statKey delta).failsClean false faults
        s.tables
  | .grantItem entity itemType quantity => registry.entityCharacters entity = some c →
      (Character.grantItem deps.characterStore c itemType quantity).failsClean false faults
        s.tables
  | .removeItem entity itemType quantity => registry.entityCharacters entity = some c →
      (Character.removeItem c itemType quantity).failsClean false faults s.tables
  | .modifyCurrency entity currencyKey delta => registry.entityCharacters entity = some c →
      (Character.modifyCurrency c currencyKey delta).failsClean false faults s.tables
  | .executeTrade a offerA b offerB _ => ∀ characterA characterB,
      registry.entityCharacters a = some characterA →
      registry.entityCharacters b = some characterB → characterA = c ∨ characterB = c →
      (Character.executeTrade deps.characterStore characterA offerA characterB
        offerB).commitHeard faults s.tables
  | .request .. => True

/-- Calls that fail do so before they write, the client is the one that is told of its
character, and reports about one field are delivered in the order in which its values have been
stored. -/
def InOrder (deps : SessionDeps) (me : EntityId) (c : CharacterId) (s : State ι) :
    Label ι → Prop
  | .request r faults => r.Sound deps c s.storage ∧ r.FailsClean deps c faults s.storage
  | .effect _ e faults => e.Sound s.registry ∧ e.Reaches s.registry me c ∧
      e.FailsClean deps s.registry c faults s.storage
  | .deliver .direct => ∀ r ∈ (s.view.hands .direct).head?,
      s.view.Next Message.field .direct r ∧ s.view.Alone Message.field r
  | .deliver p => ∀ r ∈ (s.view.hands p).head?, s.view.Next Message.field p r
  | .forward | .entityCharacter .. | .characterEntity .. => True

/-! ### What is told of one call -/

section Calls

variable {deps : SessionDeps} {registry : Registry} {me : EntityId} {c owner : CharacterId}
  {faults : Faults} {storage : EquipState} {messages : List Message} {α : Type}

theorem tellCall_faithful {m : EquipM α} {tell : α → List Message} {store : CharacterStore}
    (h : m.Leads (fun r s' => ∀ a, r = .ok a → Faithful store c storage s' (tell a)) storage)
    (unchanged : ∀ e s' rest, m.run faults storage = (.error e, s', rest) →
      Piece.Kept storage s') :
    Faithful store c storage (tellCall faults storage m tell).2
      ((tellCall faults storage m tell).1.getD []) := by
  have returned := h faults
  unfold tellCall
  rcases run : m.run faults storage with ⟨e | a, s', rest⟩
  · obtain ⟨tables, slots⟩ := unchanged e s' rest run
    exact .refl fun f => stored_congr (fun k _ => by rw [tables]) slots
  · rw [run] at returned
    exact returned a rfl

theorem tellTransaction_faithful {p : StoreM α} {tell : α → List Message} {commitFailure : Error}
    {store : CharacterStore}
    (h : p.Leads (fun r t' => ∀ a, r = .ok a →
      Faithful store c storage (withTables storage t') (tell a)) storage.tables)
    (heard : p.commitHeard faults storage.tables = true) :
    Faithful store c storage (tellTransaction faults storage p commitFailure tell).2
      ((tellTransaction faults storage p commitFailure tell).1.getD []) := by
  unfold tellTransaction
  rcases run : p.transactionFaulty commitFailure faults storage.tables with ⟨e | a, tables, rest⟩
  · obtain rfl := Program.unchanged_of_commitHeard heard run
    exact .refl fun _ => rfl
  · exact h.of_run (Program.run_of_transactionFaulty run) a rfl

/-- What a request leaves is what its replies tell. -/
theorem Request.handle_faithful {r : Request} (sound : r.Sound deps c storage)
    (clean : r.FailsClean deps c faults storage) :
    Faithful deps.characterStore c storage (r.handle deps c faults storage).2
      ((r.handle deps c faults storage).1.getD []) := by
  cases r with
  | dropItem itemType quantity known =>
      rcases known with e | _ | _
      · exact .refl fun _ => rfl
      · exact .refl fun _ => rfl
      · exact tellCall_faithful (leads_call_item _ leads_removeItem removeItem_writes)
          fun e s' rest failed => (Piece.kept_of_call clean failed).2
  | equipItem itemType =>
      exact tellCall_faithful leads_equipItem fun e s' rest => kept_of_equip clean
  | unequipItem slot =>
      exact tellCall_faithful leads_unequipItem fun e s' rest => kept_of_unequip clean
  | craftItem recipeKey rolls =>
      cases found : deps.craftingSchema.resolve recipeKey with
      | error e =>
          simp only [Request.handle, found]
          exact .refl fun _ => rfl
      | ok recipe =>
          simp only [Request.handle, found]
          have listed := deps.accepted recipe (mem_of_resolve found)
          refine tellTransaction_faithful ?_ (clean recipe found)
          exact leads_craftItem deps.bounds listed.inputs_pos (sound recipe found)

/-- A request for another character leaves this one as it is. -/
theorem Request.handle_elsewhere (r : Request) (other : owner ≠ c) (f : Field) :
    stored deps.characterStore c (r.handle deps owner faults storage).2 f =
      stored deps.characterStore c storage f := by
  cases r with
  | dropItem itemType quantity known =>
      rcases known with e | _ | _
      · rfl
      · rfl
      · have spares : Spares deps.characterStore c
            (.call owner (removeItem owner itemType quantity)) :=
          .call (removeItem_writes.mono fun _ own => .inr (.inl ⟨_, own⟩)) other
        exact spares storage faults f
  | equipItem itemType =>
      have spares : Spares deps.characterStore c
          (Character.equipItem deps.characterStore deps.equipmentSchema owner itemType) :=
        .equipItem other
      exact spares storage faults f
  | unequipItem slot =>
      have spares : Spares deps.characterStore c
          (Character.unequipItem deps.characterStore deps.equipmentSchema owner slot) :=
        .unequipItem other
      exact spares storage faults f
  | craftItem recipeKey rolls =>
      cases found : deps.craftingSchema.resolve recipeKey with
      | error e => simp only [Request.handle, found]
      | ok recipe =>
          simp only [Request.handle, found]
          have writes : (Character.craftItem deps.characterStore owner recipe rolls).Writes _ :=
            craftItem_writes
          have kept : ∀ k, ¬ Owned owner k → ((Character.craftItem deps.characterStore owner recipe
              rolls).transactionFaulty (.wrap "character" "failed to commit craft") faults
                storage.tables).2.1.lookup k = storage.tables.lookup k :=
            Program.leads_transactionFaulty
              (R := fun t' => ∀ k, ¬ Owned owner k → t'.lookup k = storage.tables.lookup k)
              (fun _ _ => rfl) ((writes.frame storage.tables).mono fun _ _ same _ _ => same) faults
          exact stored_congr (fun k row => kept k (not_owned_of_ne other k row)) rfl

/-- A call for one character, heard by the client exactly if that is the client's. -/
theorem call_faithful {store : CharacterStore} {p : StoreM Int} {tell : Int → List Message}
    {heard : Prop} [Decidable heard] (writes : p.Writes (Owned owner)) (same : heard ↔ owner = c)
    (own : owner = c → (EquipM.call owner p).Leads (fun r s' => ∀ n, r = .ok n →
      Faithful store c storage s' (tell n)) storage)
    (clean : owner = c → p.failsClean false faults storage.tables = true) :
    Faithful store c storage
      (tellCall faults storage (.call owner p) fun n => if heard then tell n else []).2
      ((tellCall faults storage (.call owner p) fun n => if heard then tell n else []).1.getD
        []) := by
  by_cases its : owner = c
  · refine tellCall_faithful ?_ fun e s' rest failed => (Piece.kept_of_call (clean its) failed).2
    simpa only [if_pos (same.mpr its)] using own its
  · have spares : Spares store c (EquipM.call owner p) := .call writes its
    have nothing : (tellCall faults storage (.call owner p)
        fun n => if heard then tell n else []).1.getD [] = [] := by
      have unheard : ¬ heard := fun h => its (same.mp h)
      simp only [tellCall, if_neg unheard]
      cases ((EquipM.call owner p).run faults storage).1 <;> rfl
    rw [nothing]
    exact .refl (spares storage faults)

/-- A trade that fails has changed nothing: its own sides hear of the commit, and it writes to
nobody else. -/
theorem trade_failed {a b : EntityId} {offerA offerB : TradeOfferInput} {listing : Listing}
    {characterA characterB : CharacterId} {e : Error} {tables : Tables} {rest : Faults}
    (itsA : registry.entityCharacters a = some characterA)
    (itsB : registry.entityCharacters b = some characterB)
    (clean : (Effect.executeTrade a offerA b offerB listing).FailsClean deps registry c faults
      storage)
    (failed : (Character.executeTrade deps.characterStore characterA offerA characterB
      offerB).transactionFaulty (.wrap "character" "failed to commit trade") faults
        storage.tables = (.error e, tables, rest)) (f : Field) :
    stored deps.characterStore c (withTables storage tables) f =
      stored deps.characterStore c storage f := by
  by_cases mine : characterA = c ∨ characterB = c
  · have heard := clean characterA characterB itsA itsB mine
    obtain rfl := Program.unchanged_of_commitHeard heard failed
    rfl
  · rw [not_or] at mine
    have writes : (Character.executeTrade deps.characterStore characterA offerA characterB
      offerB).Writes _ := executeTrade_writes
    have kept : ∀ k, ¬ (Holding characterA k ∨ Holding characterB k) →
        ((Character.executeTrade deps.characterStore characterA offerA characterB
          offerB).transactionFaulty (.wrap "character" "failed to commit trade") faults
            storage.tables).2.1.lookup k = storage.tables.lookup k :=
      Program.leads_transactionFaulty
        (R := fun t' => ∀ k, ¬ (Holding characterA k ∨ Holding characterB k) →
          t'.lookup k = storage.tables.lookup k)
        (fun _ _ => rfl) ((writes.frame storage.tables).mono fun _ _ same _ _ => same) faults
    rw [failed] at kept
    refine stored_congr (fun k row => kept k ?_) rfl
    rintro (own | own)
    · exact not_owned_of_ne mine.1 k row (.inr own)
    · exact not_owned_of_ne mine.2 k row (.inr own)

/-- What an effect leaves of the client's character is what the client is told. -/
theorem Effect.perform_faithful {e : Effect} {o : Outcome}
    (registered : registry.entityCharacters me = some c) (sound : e.Sound registry)
    (reaches : e.Reaches registry me c) (clean : e.FailsClean deps registry c faults storage)
    (performed : e.perform deps registry me faults storage = some o) :
    Faithful deps.characterStore c storage o.2 (o.1.getD []) := by
  -- an entity is the client's exactly if its character is
  have named : ∀ {entity owner}, registry.entityCharacters entity = some owner →
      (registry.entityCharacters entity = some c → entity = me) → (entity = me ↔ owner = c) := by
    intro entity owner its reaches
    constructor
    · rintro rfl
      exact Option.some.inj (its.symm.trans registered)
    · rintro rfl
      exact reaches its
  cases e with
  | applyStatDelta entity statKey delta =>
      obtain ⟨owner, its, rfl⟩ := Option.map_eq_some_iff.mp performed
      refine call_faithful (applyStatDelta_writes.mono fun _ => .inl) (named its reaches) ?_ ?_
      · rintro rfl
        exact leads_applyStatDelta_faithful
      · rintro rfl
        exact clean its
  | applyStatDeltaForCharacter target statKey delta =>
      cases performed
      refine call_faithful (applyStatDelta_writes.mono fun _ => .inl) reaches ?_ ?_
      · rintro rfl
        exact leads_applyStatDelta_faithful
      · rintro rfl
        exact clean rfl
  | grantItem entity itemType quantity =>
      obtain ⟨owner, its, rfl⟩ := Option.map_eq_some_iff.mp performed
      refine call_faithful (grantItem_writes.mono fun _ own => .inr (.inl ⟨_, own⟩))
        (named its reaches) ?_ ?_
      · rintro rfl
        exact leads_call_item _ leads_grantItem grantItem_writes
      · rintro rfl
        exact clean its
  | removeItem entity itemType quantity =>
      obtain ⟨owner, its, rfl⟩ := Option.map_eq_some_iff.mp performed
      refine call_faithful (removeItem_writes.mono fun _ own => .inr (.inl ⟨_, own⟩))
        (named its reaches) ?_ ?_
      · rintro rfl
        exact leads_call_item _ leads_removeItem removeItem_writes
      · rintro rfl
        exact clean its
  | modifyCurrency entity currencyKey delta =>
      obtain ⟨owner, its, rfl⟩ := Option.map_eq_some_iff.mp performed
      refine call_faithful (modifyCurrency_writes.mono fun _ own => .inr (.inr ⟨_, own⟩))
        (named its reaches) ?_ ?_
      · rintro rfl
        exact leads_call_currency _
      · rintro rfl
        exact clean its
  | executeTrade a offerA b offerB listing =>
      simp only [Effect.perform] at performed
      split at performed
      next characterA characterB itsA itsB =>
        have distinct : characterA ≠ characterB := by
          rintro rfl
          exact sound characterA itsA itsB
        have mineA := named itsA reaches.1
        have mineB := named itsB reaches.2
        rcases run : (Character.executeTrade deps.characterStore characterA offerA characterB
          offerB).transactionFaulty (.wrap "character" "failed to commit trade") faults
            storage.tables with ⟨e | result, tables, rest⟩
        · simp only [run] at performed
          cases performed
          exact .refl (trade_failed itsA itsB clean run)
        · obtain ⟨toldA, toldB, others⟩ := executeTrade_told (s := storage) distinct run
          simp only [run] at performed
          by_cases ownA : me = a
          · obtain rfl := mineA.mp ownA.symm
            simp only [sideOf, if_pos ownA] at performed
            obtain ⟨of, performed⟩ := Option.ite_none_right_eq_some.mp performed
            cases performed
            exact toldA listing of
          by_cases ownB : me = b
          · obtain rfl := mineB.mp ownB.symm
            simp only [sideOf, if_neg ownA, if_pos ownB] at performed
            obtain ⟨of, performed⟩ := Option.ite_none_right_eq_some.mp performed
            cases performed
            exact toldB listing of
          · simp only [sideOf, if_neg ownA, if_neg ownB] at performed
            cases performed
            exact others c (fun same => ownA (mineA.mpr same.symm).symm)
              fun same => ownB (mineB.mpr same.symm).symm
      · cases performed
  | request owner r =>
      have outcome : ((r.handle deps owner faults storage).1.map fun _ => [],
          (r.handle deps owner faults storage).2) = o := Option.some.inj performed
      have nothing : o.1.getD [] = [] := by
        rw [← outcome]
        cases (r.handle deps owner faults storage).1 <;> rfl
      rw [nothing, ← outcome]
      exact .refl (r.handle_elsewhere reaches)

end Calls

/-! ### Runs -/

section Runs

variable {deps : SessionDeps} {me : EntityId} {c : CharacterId} {storage : EquipState}
  {others : Registry} {s t : State ι} {l : Label ι} {ls : List (Label ι)} {p : Sender ι}
  {o : Outcome}

omit [DecidableEq ι] in
theorem State.Free.hands (free : s.Free p) : s.view.hands p = [] := by
  cases p with
  | direct => exact free.elim
  | handler => exact free.2
  | task i => exact free

/-- All that has changed since the join has been told or is underway, in its order. -/
structure Inv (deps : SessionDeps) (me : EntityId) (c : CharacterId) (storage : EquipState)
    (s : State ι) : Prop where
  registered : s.registry.entityCharacters me = some c
  ordered : Delivery.Ordered Message.field s.view
  told : Faithful deps.characterStore c storage s.storage (s.view.log.map Report.message)

/-- A step is a call of a task that holds nothing, moves a report, or is another connection's
entry. -/
theorem step_cases (taken : step deps me c s l = some t) :
    (∃ p o, s.view.hands p = [] ∧ t = s.after p o ∧ (InOrder deps me c s l →
      s.registry.entityCharacters me = some c →
      Faithful deps.characterStore c s.storage o.2 (o.1.getD []))) ∨
    (∃ view, t = { s with view } ∧ view.log = s.view.log ∧ (InOrder deps me c s l →
      Delivery.Ordered Message.field s.view → Delivery.Ordered Message.field view)) ∨
    ∃ registry : Registry, t = { s with registry } ∧
      registry.entityCharacters me = s.registry.entityCharacters me := by
  cases l with
  | request r faults =>
      obtain ⟨idle, taken⟩ := Option.ite_none_right_eq_some.mp taken
      cases taken
      exact .inl ⟨.direct, _, idle.1, rfl, fun ⟨sound, clean⟩ _ => r.handle_faithful sound clean⟩
  | effect p e faults =>
      obtain ⟨free, taken⟩ := Option.ite_none_right_eq_some.mp taken
      obtain ⟨o, performed, rfl⟩ := Option.map_eq_some_iff.mp taken
      exact .inl ⟨p, o, free.hands, rfl, fun ⟨sound, reaches, clean⟩ registered =>
        Effect.perform_faithful registered sound reaches clean performed⟩
  | deliver p =>
      cases p with
      | direct =>
          obtain ⟨view, moved, rfl⟩ := Option.map_eq_some_iff.mp taken
          exact .inr (.inl ⟨view, rfl, Delivery.State.direct_log moved,
            fun legal h => h.direct legal moved⟩)
      | handler | task =>
          obtain ⟨view, moved, rfl⟩ := Option.map_eq_some_iff.mp taken
          exact .inr (.inl ⟨view, rfl, Delivery.State.push_log moved,
            fun legal h => h.push legal moved⟩)
  | forward =>
      obtain ⟨idle, taken⟩ := Option.ite_none_right_eq_some.mp taken
      obtain ⟨view, moved, rfl⟩ := Option.map_eq_some_iff.mp taken
      exact .inr (.inl ⟨view, rfl, Delivery.State.forward_log moved, fun _ h => h.forward moved⟩)
  | entityCharacter entity entry =>
      obtain ⟨other, taken⟩ := Option.ite_none_left_eq_some.mp taken
      cases taken
      refine .inr (.inr ⟨_, rfl, ?_⟩)
      exact Function.update_of_ne (Ne.symm other) entry s.registry.entityCharacters
  | characterEntity character entry =>
      cases taken
      exact .inr (.inr ⟨_, rfl, rfl⟩)

theorem Inv.step (h : Inv deps me c storage s) (legal : InOrder deps me c s l)
    (taken : step deps me c s l = some t) : Inv deps me c storage t := by
  obtain ⟨p, o, free, rfl, told⟩ | ⟨view, rfl, log, ordered⟩ | ⟨registry, rfl, kept⟩ :=
    step_cases taken
  · refine ⟨h.registered, h.ordered.emit free, ?_⟩
    simpa [State.after, Delivery.State.emit] using h.told.trans (told legal h.registered)
  · exact ⟨h.registered, ordered legal h.ordered, log ▸ h.told⟩
  · exact ⟨kept.trans h.registered, h.ordered, h.told⟩

omit [DecidableEq ι] in
/-- Once nothing is underway, the client has been told of each field in order. -/
theorem Inv.lastSent_eq (h : Inv deps me c storage t) (drained : t.view.Drained) (f : Field) :
    lastSent (t.view.sent.map Report.message) f = lastSent (t.view.log.map Report.message) f := by
  have same := congrArg (List.map Report.message) (h.ordered.drained drained f)
  simp only [lastSent, List.filter_map, Function.comp_def]
  rw [same]

end Runs

/-! ### Delivered out of order -/

namespace Potions

def c : CharacterId := .fromUuid 1

def me : EntityId := .fromUuid 2

def deps : SessionDeps where
  characterStore := ⟨⟨1, [⟨"strength", .int, 10, none, none⟩]⟩, {}⟩
  equipmentSchema := ⟨1, [], []⟩
  craftingSchema := ⟨1, []⟩
  bounds := by simp [I64Bounds]
  accepted := nofun

/-- Five potions. -/
def storage : EquipState where
  tables :=
    ((∅ : Tables).insert (.character c) ∅).insert (.item c "potion") ⟨5, by decide, by decide⟩
  equippedItems := ∅
  exchanging := false

/-- Another client is connected with a character of its own. -/
def others : Registry where
  entityCharacters e := if e = .fromUuid 3 then some (.fromUuid 4) else none
  characterEntities d := if d = .fromUuid 4 then some (.fromUuid 3) else none

/-- A plugin grants a potion, of which the client is told at once. -/
def granted : List (Label Unit) :=
  [.effect (.task ()) (.grantItem me "potion" 1) [], .deliver (.task ())]

/-- The client drops two. -/
def dropped : List (Label Unit) :=
  [.request (.dropItem "potion" 2 (.ok true)) [], .deliver .direct]

/-- After the cleanup of an older connection of the same character, a hook's point is stored and
told to nobody. -/
example : ∃ t, Transition.exec (step (ι := Unit) deps me c) (joined me c storage others)
      [.characterEntity c none,
        .effect (.task ()) (.applyStatDeltaForCharacter c "strength" 1) []] = some t ∧
    t.view.Drained ∧ stored deps.characterStore c t.storage (.stat "strength") = some (.number 11) ∧
    t.view.sent = [] :=
  Transition.exec_reaches (by decide)

end Potions

namespace Ring

def c : CharacterId := .fromUuid 1

/-- The ring gives a point of strength, and an inventory holds nothing. -/
def deps : SessionDeps where
  characterStore := ⟨⟨1, [⟨"strength", .int, 10, none, none⟩]⟩, ⟨0, 40⟩⟩
  equipmentSchema := ⟨1, ["finger"], [⟨"ring", "finger", [("strength", 1)]⟩]⟩
  craftingSchema := ⟨1, []⟩
  bounds := by simp [I64Bounds]
  accepted := nofun

def worn : EquipState where
  tables := (∅ : Tables).insert (.character c) ∅
  equippedItems := (∅ : AList fun _ : CharacterId × String => String).insert (c, "finger") "ring"
  exchanging := false

/-- The point is taken back before it turns out that there is no room for the ring. -/
example : ¬ (Request.unequipItem "finger").FailsClean deps c [] worn :=
  Bool.eq_false_iff.mp (by decide)

/-- With a fault before its first write, the same request fails clean. -/
example : (Request.unequipItem "finger").FailsClean deps c [none, some .failed] worn := by
  show unequipFailsClean .. = true
  decide

end Ring

end WorldZero.Server.InventoryView
