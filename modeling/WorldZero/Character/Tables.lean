import WorldZero.Common
import WorldZero.Sql.Logic

/-!
# Item stacks, currency balances and character stats

The rows behind the character store: `items` keyed by character and item type,
`character_currency` keyed by character and currency, and the `stats` document of
`characters`. The `CHECK` constraints and the width of the `BIGINT` columns are
part of the row types. `amount` is what a row counts for; every result about
holdings is about it.
-/

namespace WorldZero.Character

open Sql

/-- A `BIGINT` column with a lower bound. -/
structure Bounded (lo : Int) where
  value : Int
  lower : lo ≤ value
  fits : value ≤ I64.max
  deriving DecidableEq

namespace Bounded

variable {lo : Int}

/-- The `CHECK` constraint together with the range of `BIGINT`. -/
def check (n : Int) : Option (Bounded lo) :=
  if h : lo ≤ n ∧ n ≤ I64.max then some ⟨n, h.1, h.2⟩ else none

/-- `ON CONFLICT … DO UPDATE SET amount = amount + EXCLUDED.amount`. -/
def add (existing excluded : Bounded lo) : Option (Bounded lo) :=
  check (existing.value + excluded.value)

theorem value_of_check {n : Int} {r : Bounded lo} (h : check n = some r) : r.value = n := by
  unfold check at h
  split at h
  · cases h; rfl
  · cases h

theorem check_eq_some {n : Int} (low : lo ≤ n) (high : n ≤ I64.max) :
    check n = some (⟨n, low, high⟩ : Bounded lo) := by simp [check, low, high]

theorem value_of_add {a b r : Bounded lo} (h : a.add b = some r) :
    r.value = a.value + b.value := value_of_check h

end Bounded

/-- `items.quantity BIGINT CHECK (quantity > 0)`. -/
abbrev Quantity := Bounded 1

def Quantity.one : Quantity := ⟨1, by decide, by decide⟩

/-- `character_currency.balance BIGINT CHECK (balance >= 0)`. -/
abbrev Balance := Bounded 0

/-- A JSON value, as far as `as_i64` tells values apart. -/
inductive Json where
  | number (n : Int)
  | other
  deriving DecidableEq

def Json.asI64 : Json → Option Int
  | .number n => if I64.fits n then some n else none
  | .other => none

/-- The `stats` document of a character. -/
abbrev Stats := Finmap fun _ : String => Json

inductive RowKey where
  | character (id : CharacterId)
  | item (character : CharacterId) (itemType : String)
  | currency (character : CharacterId) (currencyKey : String)
  deriving DecidableEq

/-- The columns that the stores read or write. -/
abbrev Row : RowKey → Type
  | .character _ => Stats
  | .item _ _ => Quantity
  | .currency _ _ => Balance

instance : ∀ k, DecidableEq (Row k)
  | .character _ => inferInstanceAs (DecidableEq Stats)
  | .item _ _ => inferInstanceAs (DecidableEq Quantity)
  | .currency _ _ => inferInstanceAs (DecidableEq Balance)

abbrev Tables := Table Row

/-- A call of the store. -/
abbrev StoreM := Program Row Error

/-- Owning no row of an item or a currency is owning none of it. -/
def amount : ∀ k, Option (Row k) → Int
  | .character _, _ => 0
  | .item _ _, row => row.elim 0 Bounded.value
  | .currency _ _, row => row.elim 0 Bounded.value

def quantity (t : Tables) (c : CharacterId) (itemType : String) : Int :=
  amount (.item c itemType) (t.lookup (.item c itemType))

def balance (t : Tables) (c : CharacterId) (currencyKey : String) : Int :=
  amount (.currency c currencyKey) (t.lookup (.currency c currencyKey))

@[simp] theorem amount_none (k : RowKey) : amount k none = 0 := by cases k <;> rfl

@[simp] theorem amount_item_some (c : CharacterId) (itemType : String) (q : Quantity) :
    amount (.item c itemType) (some q) = q.value := rfl

@[simp] theorem amount_currency_some (c : CharacterId) (currencyKey : String) (b : Balance) :
    amount (.currency c currencyKey) (some b) = b.value := rfl

theorem amount_nonneg (k : RowKey) (row : Option (Row k)) : 0 ≤ amount k row := by
  cases row with
  | none => simp
  | some r =>
      cases k with
      | character id => exact Int.le_refl 0
      | item c itemType => exact Int.le_trans (by decide) (Bounded.lower r)
      | currency c currencyKey => exact Bounded.lower r

theorem amount_le_max (k : RowKey) (row : Option (Row k)) : amount k row ≤ I64.max := by
  cases row with
  | none => simp [I64.max]
  | some r =>
      cases k with
      | character id => simp [amount, I64.max]
      | item c itemType => exact Bounded.fits r
      | currency c currencyKey => exact Bounded.fits r

/-- What is left of a row is an `i64`. -/
theorem sub_amount {k : RowKey} (row : Option (Row k)) {n : Int} (low : 0 < n)
    (high : n ≤ I64.max) : I64.sub (amount k row) n = amount k row - n := by
  have lower := amount_nonneg k row
  have upper := amount_le_max k row
  refine I64.sub_eq ?_ (by omega)
  simp only [I64.min, I64.max] at *
  omega

/-- Whether a row is an item stack of the character. -/
def RowKey.isItemOf (c : CharacterId) : RowKey → Bool
  | .item owner _ => owner = c
  | _ => false

/-- `SELECT COUNT(*) FROM items WHERE character_id = $1`. -/
def countItemStacks (c : CharacterId) (failure : Error) : StoreM Nat :=
  Program.fetchCount (RowKey.isItemOf c) failure

/-- The change that a footprint records at a row is the difference that any
admitted image shows. -/
theorem change_eq {F : Footprint Row} {k : RowKey} {i : Image (Row k)} (h : F.Admits k i) :
    F.change amount k = amount k i.now - amount k i.base := by
  unfold Footprint.change
  cases hF : F k with
  | none =>
      rw [Footprint.admits_of_none hF] at h
      simp [h]
  | some j =>
      rw [Footprint.admits_of_some hF] at h
      rw [h]

/-- Writing a row moves its recorded change by the difference of the amounts. -/
theorem change_set {F : Footprint Row} {k : RowKey} {i : Image (Row k)} (h : F.Admits k i)
    (row : Option (Row k)) (k' : RowKey) :
    (F.set k ⟨i.base, row⟩).change amount k' =
      F.change amount k' + if k' = k then amount k row - amount k i.now else 0 := by
  by_cases hk : k' = k
  · subst hk
    rw [Footprint.change_set_self, change_eq h]
    simp only [if_true]
    omega
  · rw [Footprint.change_set_of_ne amount hk, if_neg hk, Int.add_zero]

/-- Relying on a row that has only been read changes nothing. -/
theorem change_watch {F : Footprint Row} {k : RowKey} {i : Image (Row k)} (h : F.Admits k i)
    (k' : RowKey) : (F.set k i).change amount k' = F.change amount k' := by
  have := change_set h i.now k'
  simpa using this

/-- An upsert adds the proposed amount, whether or not there was a row. -/
theorem amount_item_upsert {c : CharacterId} {itemType : String} {n : Int}
    {now : Option (Row (.item c itemType))} {excluded row : Row (.item c itemType)}
    (proposed : Bounded.check n = some excluded)
    (h : now.elim (some excluded) (Bounded.add · excluded) = some row) :
    amount (.item c itemType) (some row) = amount (.item c itemType) now + n := by
  cases now with
  | none =>
      obtain rfl := Option.some.inj h
      rw [amount_none, Int.zero_add]
      exact Bounded.value_of_check proposed
  | some q =>
      have := Bounded.value_of_add h
      rw [Bounded.value_of_check proposed] at this
      exact this

theorem amount_currency_upsert {c : CharacterId} {currencyKey : String} {n : Int}
    {now : Option (Row (.currency c currencyKey))} {excluded row : Row (.currency c currencyKey)}
    (proposed : Bounded.check n = some excluded)
    (h : now.elim (some excluded) (Bounded.add · excluded) = some row) :
    amount (.currency c currencyKey) (some row) = amount (.currency c currencyKey) now + n := by
  cases now with
  | none =>
      obtain rfl := Option.some.inj h
      rw [amount_none, Int.zero_add]
      exact Bounded.value_of_check proposed
  | some b =>
      have := Bounded.value_of_add h
      rw [Bounded.value_of_check proposed] at this
      exact this

end WorldZero.Character
