import WorldZero.Character.AttributeSchema
import WorldZero.Sql.ReadCommitted

/-!
# Inventory and currency calls

`grant_item`, `remove_item` and `modify_currency` as sequences of autocommitted
statements. None of them runs in a transaction: `remove_item` and
`modify_currency` write back a value computed from an earlier plain read.
-/

namespace WorldZero.Character

open Sql

structure InventoryConfig where
  maxDistinctItemTypes : Nat := 40
  slotCount : Nat := 40
  deriving DecidableEq

structure CharacterStore where
  schema : AttributeSchema
  inventoryConfig : InventoryConfig

/-! ### Calls -/

def itemQuantity (c : CharacterId) (itemType : String) : StoreM Int := do
  let row ← Program.fetchOptional (.item c itemType)
    (.wrap "character" "failed to read item quantity")
  pure (amount (.item c itemType) row)

def currencyBalance (c : CharacterId) (currencyKey : String) : StoreM Int := do
  let row ← Program.fetchOptional (.currency c currencyKey)
    (.wrap "character" "failed to read currency balance")
  pure (amount (.currency c currencyKey) row)

/-- The cap on distinct item types: only a new stack is counted against it. -/
def requireStack (store : CharacterStore) (c : CharacterId) (alreadyOwned : Bool)
    (full : Nat → Nat → Error) : StoreM Unit :=
  if alreadyOwned then pure ()
  else do
    let distinctCount ← countItemStacks c (.wrap "character" "failed to count item stacks")
    if store.inventoryConfig.maxDistinctItemTypes ≤ distinctCount then
      .throw (full distinctCount store.inventoryConfig.maxDistinctItemTypes)
    else pure ()

def upsertItem (c : CharacterId) (itemType : String) (quantity : Int) (failure : Error) :
    StoreM Int := do
  let row ← Program.fetchUpsert (RowKey.item c itemType) (some (.character c))
    (Bounded.check quantity) Bounded.add failure
  pure (amount (.item c itemType) (some row))

/-- Write back what is left of a stack; an empty stack is deleted. -/
def writeRemaining (c : CharacterId) (itemType : String) (remaining : Int)
    (deleteFailure updateFailure : Error) : StoreM Bool :=
  if remaining = 0 then Program.executeDelete (.item c itemType) deleteFailure
  else Program.executeUpdate (.item c itemType) (fun _ => Bounded.check remaining) updateFailure

def grantItem (store : CharacterStore) (c : CharacterId) (itemType : String) (quantity : Int) :
    StoreM Int :=
  if quantity ≤ 0 then
    .throw (.new "character" s!"grant_item quantity must be positive, got {quantity}")
  else do
    let owned ← itemQuantity c itemType
    requireStack store c (0 < owned) fun distinctCount max => .new "character"
      (s!"inventory is full: {distinctCount} distinct item types already owned, " ++
        s!"limit is {max} (WZ_INVENTORY_MAX_ITEM_TYPES)")
    upsertItem c itemType quantity (.wrap "character" "failed to grant item")

def removeItem (c : CharacterId) (itemType : String) (quantity : Int) : StoreM Int :=
  if quantity ≤ 0 then
    .throw (.new "character" s!"remove_item quantity must be positive, got {quantity}")
  else do
    let current ← itemQuantity c itemType
    if current < quantity then
      .throw (.new "character"
        s!"cannot remove {quantity} of {debugStr itemType}, only {current} owned")
    else do
      let remaining := I64.sub current quantity
      let _ ← writeRemaining c itemType remaining
        (.wrap "character" "failed to remove item stack")
        (.wrap "character" "failed to remove item quantity")
      pure remaining

def modifyCurrency (c : CharacterId) (currencyKey : String) (delta : Int) : StoreM Int := do
  let current ← currencyBalance c currencyKey
  match I64.checkedAdd current delta with
  | none => .throw (.new "character" "currency balance delta overflowed")
  | some newBalance =>
      if newBalance < 0 then
        .throw (.new "character"
          s!"currency delta {delta} would take balance {current} negative")
      else do
        let _ ← Program.fetchUpsert (RowKey.currency c currencyKey) (some (.character c))
          (Bounded.check newBalance) (fun _ excluded => some excluded)
          (.wrap "character" "failed to update currency balance")
        pure newBalance

/-! ### What a call that returns has changed -/

variable {store : CharacterStore} {c : CharacterId} {itemType currencyKey : String}
  {quantity delta : Int} {watch : Bool} {F : Footprint Row}

theorem wp_requireStack {alreadyOwned : Bool} {full : Nat → Nat → Error}
    {Q : Unit → Footprint Row → Prop} (post : Q () F) :
    (requireStack store c alreadyOwned full).wp watch Q F := by
  unfold requireStack
  split
  · exact post
  · simp only [countItemStacks, Program.bind_def, Program.wp_bind, Program.wp_fetchCount]
    intro n
    split
    · trivial
    · exact post

theorem wp_upsertItem {failure : Error} {Q : Int → Footprint Row → Prop}
    (post : ∀ i, F.Admits (.item c itemType) i → ∀ row : Row (.item c itemType),
      amount (.item c itemType) (some row) = amount (.item c itemType) i.now + quantity →
      Q (amount (.item c itemType) (some row)) (F.set (.item c itemType) ⟨i.base, some row⟩)) :
    (upsertItem c itemType quantity failure).wp watch Q F := by
  simp only [upsertItem, Program.bind_def, Program.wp_bind, Program.wp_fetchUpsert,
    Program.pure_def, Program.wp_pure]
  intro i hi excluded hrow row hw
  exact post i hi row (amount_item_upsert hrow hw)

/-- The row written back is the one that the call relies on; a row that is gone
stays gone. -/
theorem wp_writeRemaining {remaining : Int} {deleteFailure updateFailure : Error}
    {Q : Bool → Footprint Row → Prop} {i : Image (Row (.item c itemType))}
    (known : F (.item c itemType) = some i) (gone : i.now = none → Q false F)
    (post : ∀ row : Option (Row (.item c itemType)), amount (.item c itemType) row = remaining →
      Q true (F.set (.item c itemType) ⟨i.base, row⟩)) :
    (writeRemaining c itemType remaining deleteFailure updateFailure).wp watch Q F := by
  unfold writeRemaining
  split
  next zero =>
    rw [Program.wp_executeDelete]
    intro j hj
    obtain rfl := (Footprint.admits_of_some known).mp hj
    cases hv : j.now with
    | none => exact gone hv
    | some v => exact post none ((amount_none _).trans zero.symm)
  next nonzero =>
    rw [Program.wp_executeUpdate]
    intro j hj
    obtain rfl := (Footprint.admits_of_some known).mp hj
    cases hv : j.now with
    | none => exact gone hv
    | some v => exact fun w hw => post (some w) (Bounded.value_of_check hw)

/-- `grant_item` adds its quantity to whatever the stack is when it is written. -/
theorem wp_grantItem :
    (grantItem store c itemType quantity).wp false
      (fun _ F => ∀ k, F.change amount k = if k = .item c itemType then quantity else 0)
      .empty := by
  unfold grantItem
  split
  · trivial
  · simp only [itemQuantity, Program.bind_def, Program.wp_bind, Program.wp_fetchOptional,
      Program.pure_def, Program.wp_pure]
    intro i hi
    refine wp_requireStack (wp_upsertItem ?_)
    intro j hj row hrow k
    rw [change_set hj]
    simp [hrow]

/-- `remove_item` takes its quantity from the stack that it has read. -/
theorem wp_removeItem :
    (removeItem c itemType quantity).wp true
      (fun _ F => ∀ k, F.change amount k = if k = .item c itemType then -quantity else 0)
      .empty := by
  unfold removeItem
  split
  · trivial
  next positive =>
    simp only [itemQuantity, Program.bind_def, Program.wp_bind, Program.wp_fetchOptional,
      Program.pure_def, Program.wp_pure, if_true]
    intro i hi
    split
    · trivial
    next enough =>
      have owned : i.now ≠ none := by
        intro none
        rw [none, amount_none] at enough
        omega
      have bounded : amount (.item c itemType) i.now ≤ I64.max := amount_le_max _ _
      refine Program.wp_bind.mpr (wp_writeRemaining Footprint.set_self
        (fun gone => absurd gone owned) fun row hrow k => ?_)
      rw [Footprint.set_set, change_set hi, hrow, I64.sub_eq (by simp [I64.min]; omega) (by omega)]
      simp

/-- `modify_currency` moves the balance that it has read by `delta`. -/
theorem wp_modifyCurrency :
    (modifyCurrency c currencyKey delta).wp true
      (fun _ F => ∀ k, F.change amount k = if k = .currency c currencyKey then delta else 0)
      .empty := by
  simp only [modifyCurrency, currencyBalance, Program.bind_def, Program.wp_bind,
    Program.wp_fetchOptional, Program.pure_def, Program.wp_pure, if_true]
  intro i hi
  cases hsum : I64.checkedAdd (amount (.currency c currencyKey) i.now) delta with
  | none => trivial
  | some newBalance =>
      simp only
      split
      · trivial
      next nonnegative =>
        simp only [Program.wp_bind, Program.wp_fetchUpsert, Program.wp_pure]
        intro j hj excluded hrow row hw k
        obtain rfl := (Footprint.admits_of_some Footprint.set_self).mp hj
        have written : row = excluded := by
          cases hnow : j.now <;> rw [hnow] at hw <;> exact (Option.some.inj hw).symm
        subst written
        have sum := (I64.checkedAdd_eq_some.mp hsum).2
        have value : amount (.currency c currencyKey) (some row) = newBalance :=
          Bounded.value_of_check hrow
        rw [Footprint.set_set, change_set hi, value, ← sum]
        simp

end WorldZero.Character
