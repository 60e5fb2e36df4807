import Mathlib.Data.Finset.Max
import Mathlib.Data.String.Basic
import WorldZero.Character.Crafting
import WorldZero.Character.Trade
import WorldZero.Sql.Transactions

/-!
# Inventory slots

`items.slot_index` is a nullable position of a stack. `move_item_to_slot` is the only call
that writes it, in a transaction of four statements. The statements of the other calls keep
the position of a row that they change; a row that is inserted has none, and with a row that
is deleted its position is gone.
-/

namespace WorldZero.Character

open Sql.Transactions
open Sql (Stmt)

/-- The tables, and the column `slot_index` of `items` beside them. -/
structure Items where
  tables : Tables
  slotIndex : RowKey → Option Int

namespace Slots

/-! ### The statements -/

inductive Statement
  /-- A statement of another call. -/
  | row (s : Stmt Row)
  | selectSlotForUpdate (c : CharacterId) (itemType : String)
  | selectOccupantForUpdate (c : CharacterId) (slotIndex : Int) (itemType : String)
  | updateSlot (c : CharacterId) (itemType : String) (slotIndex : Option Int)

def Statement.Result : Statement → Type
  | .row s => s.Result
  | .selectSlotForUpdate _ _ => Option (Option Int)
  | .selectOccupantForUpdate _ _ _ => Option String
  | .updateSlot _ _ _ => Unit

inductive Write
  | row (w : Sql.Write Row)
  | slot (key : RowKey) (slotIndex : Option Int)

/-- The row that is written. -/
def Write.key : Write → RowKey
  | .row w => w.1
  | .slot key _ => key

/-- Where there is no row before or after a write there is no position left. -/
def Write.apply (w : Write) (d : Items) : Items :=
  match w with
  | .row w =>
      { tables := w.apply d.tables
        slotIndex := if w.2.isSome && (d.tables.lookup w.1).isSome then d.slotIndex
          else Function.update d.slotIndex w.1 none }
  | .slot key slotIndex => { d with slotIndex := Function.update d.slotIndex key slotIndex }

/-- The other stacks of the character in the slot. -/
def occupants (d : Items) (c : CharacterId) (slotIndex : Int) (itemType : String) :
    Finset String :=
  d.tables.keys.biUnion fun
    | .item owner type =>
        if owner = c ∧ d.slotIndex (.item owner type) = some slotIndex ∧ type ≠ itemType then {type}
        else ∅
    | _ => ∅

/-- Of several rows the database returns any. -/
def occupant (d : Items) (c : CharacterId) (slotIndex : Int) (itemType : String) :
    Option String :=
  (occupants d c slotIndex itemType).min

def Statement.exec : (s : Statement) → Items → Option (s.Result × List Write)
  | .row s, d => (s.exec d.tables).map fun o => (o.result, o.writes.map .row)
  | .selectSlotForUpdate c itemType, d =>
      some (if (d.tables.lookup (.item c itemType)).isSome
        then some (d.slotIndex (.item c itemType)) else none, [])
  | .selectOccupantForUpdate c slotIndex itemType, d =>
      some (occupant d c slotIndex itemType, [])
  | .updateSlot c itemType slotIndex, d =>
      some ((), if (d.tables.lookup (.item c itemType)).isSome then
        [.slot (.item c itemType) slotIndex] else [])

/-- The rows that a statement locks. -/
def Statement.locks : Statement → Items → List RowKey
  | .row s, d => Sql.ReadCommitted.waitsFor s d.tables
  | .selectSlotForUpdate c itemType, d | .updateSlot c itemType _, d =>
      if (d.tables.lookup (.item c itemType)).isSome then [.item c itemType] else []
  | .selectOccupantForUpdate c slotIndex itemType, d =>
      (occupant d c slotIndex itemType).toList.map (.item c ·)

def engine : Engine Statement.Result Items Write RowKey where
  exec := Statement.exec
  locks := Statement.locks
  apply := Write.apply
  conflicts k k' := k = k'

/-! ### The calls -/

abbrev SlotM := Program Statement.Result Error

/-- `i32::try_from(slot_count).unwrap_or(i32::MAX)`. -/
def slotCount (store : CharacterStore) : Int :=
  if store.inventoryConfig.slotCount ≤ 2147483647 then store.inventoryConfig.slotCount
  else 2147483647

structure SlotMove where
  movedItemType : String
  movedSlotIndex : Int
  displaced : Option (String × Option Int)
  deriving DecidableEq

/-- The occupant of the slot goes where the stack was that is moved there. -/
def displace (c : CharacterId) (occupant : Option String) (previousSlot : Option Int) :
    SlotM Unit :=
  match occupant with
  | none => pure ()
  | some occupantType => Program.call (Statement.updateSlot c occupantType previousSlot)
      (.wrap "character" "failed to displace occupant slot")

def moveItemToSlot (store : CharacterStore) (c : CharacterId) (itemType : String)
    (slotIndex : Int) : SlotM SlotMove :=
  if slotIndex < 0 ∨ slotCount store ≤ slotIndex then .throw (.new "character"
    s!"slot_index {slotIndex} is out of range [0, {slotCount store}) (WZ_INVENTORY_SLOT_COUNT)")
  else do
    let row : Option (Option Int) ← Program.call (Statement.selectSlotForUpdate c itemType)
      (.wrap "character" "failed to read mover's current slot")
    match row with
    | none => .throw (.new "character" s!"character {c} does not own item {debugStr itemType}")
    | some previousSlot =>
        let occupant : Option String ←
          Program.call (Statement.selectOccupantForUpdate c slotIndex itemType)
            (.wrap "character" "failed to check target slot occupant")
        let _ ← Program.call (Statement.updateSlot c itemType (some slotIndex))
          (.wrap "character" "failed to move item to slot")
        displace c occupant previousSlot
        pure { movedItemType := itemType
               movedSlotIndex := slotIndex
               displaced := occupant.map fun occupantType => (occupantType, previousSlot) }

/-- The statements of another call of the store, which moves nothing. -/
def ofStore {α : Type} : StoreM α → SlotM (Option SlotMove)
  | .pure _ => .pure none
  | .throw e => .throw e
  | .statement s failure next => .statement (.row s) failure fun r => ofStore (next r)

/-- A grant or a removal is not a transaction, but locks a row in its last statement only, and
under READ COMMITTED sees no less for that. -/
inductive Call
  | grantItem (c : CharacterId) (itemType : String) (quantity : Int)
  | removeItem (c : CharacterId) (itemType : String) (quantity : Int)
  | craftItem (c : CharacterId) (recipe : Recipe) (rolls : Nat → Bool)
  | executeTrade (a : CharacterId) (offerA : TradeOfferInput) (b : CharacterId)
      (offerB : TradeOfferInput)
  | moveItemToSlot (c : CharacterId) (itemType : String) (slotIndex : Int)

namespace Call

def program (store : CharacterStore) : Call → SlotM (Option SlotMove)
  | .grantItem c itemType quantity => ofStore (Character.grantItem store c itemType quantity)
  | .removeItem c itemType quantity => ofStore (Character.removeItem c itemType quantity)
  | .craftItem c recipe rolls => ofStore (Character.craftItem store c recipe rolls)
  | .executeTrade a offerA b offerB => ofStore (Character.executeTrade store a offerA b offerB)
  | .moveItemToSlot c itemType slotIndex =>
      (Slots.moveItemToSlot store c itemType slotIndex).bind fun moved => .pure (some moved)

def commitFailure : Call → Error
  | .grantItem .. => .wrap "character" "failed to grant item"
  | .removeItem .. => .wrap "character" "failed to remove item quantity"
  | .craftItem .. => .wrap "character" "failed to commit craft"
  | .executeTrade .. => .wrap "character" "failed to commit trade"
  | .moveItemToSlot .. => .wrap "character" "failed to commit slot-move transaction"

/-- The character who moves a stack. -/
def mover : Call → Option CharacterId
  | .moveItemToSlot c _ _ => some c
  | _ => none

end Call

variable {ι : Type} [DecidableEq ι] [Fintype ι]

def workload (store : CharacterStore) (calls : ι → Call) :
    Workload ι Statement.Result Error (Option SlotMove) where
  program i := (calls i).program store
  commitFailure i := (calls i).commitFailure

abbrev State (ι : Type) :=
  Sql.Transactions.State ι Statement.Result Items Write RowKey Error (Option SlotMove)

/-- The call has executed a statement and goes on. -/
def begun : Sql.Transactions.Call Statement.Result Write RowKey Error (Option SlotMove) → Bool
  | .running a => !a.pending.log.isEmpty
  | .finished _ => false

/-- No step of a move while another move of the same character is under way. -/
def OneAtATime (calls : ι → Call) (s : State ι) (l : Label ι) : Prop :=
  (calls l.call).mover.isSome → ∀ j, j ≠ l.call → (calls j).mover = (calls l.call).mover →
    begun (s.calls j) = false

instance (calls : ι → Call) (s : State ι) (l : Label ι) : Decidable (OneAtATime calls s l) :=
  inferInstanceAs (Decidable (_ → ∀ _, _ → _ → _))

/-! ### The assignment -/

/-- No two stacks of a character are in one slot, the slots are those that there are, and only
stacks are in slots. -/
structure Assigned (store : CharacterStore) (d : Items) : Prop where
  apart : ∀ c itemType itemType' slotIndex, d.slotIndex (.item c itemType) = some slotIndex →
    d.slotIndex (.item c itemType') = some slotIndex → itemType = itemType'
  inRange : ∀ key slotIndex, d.slotIndex key = some slotIndex →
    0 ≤ slotIndex ∧ slotIndex < slotCount store
  placed : ∀ key, d.tables.lookup key = none → d.slotIndex key = none

/-- The stack is in the slot, and who was there is where the stack was. -/
structure Moved (c : CharacterId) (itemType : String) (slotIndex : Int) (d d' : Items) :
    Prop where
  tables : d'.tables = d.tables
  mover : d'.slotIndex (.item c itemType) = some slotIndex
  displaced : ∀ other, other ≠ itemType → d.slotIndex (.item c other) = some slotIndex →
    d'.slotIndex (.item c other) = d.slotIndex (.item c itemType)
  others : ∀ key, key ≠ .item c itemType →
    (∀ other, key = .item c other → d.slotIndex key ≠ some slotIndex) →
    d'.slotIndex key = d.slotIndex key

end Slots

end WorldZero.Character
