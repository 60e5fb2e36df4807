import WorldZero.Character.Trade
import Mathlib.Algebra.BigOperators.Fin

/-!
# Concurrent inventory and currency calls

Any finite family of store calls, interleaved statement by statement. Grants and
trades write relative to the row that they have locked, so they compose in every
order. `remove_item` and `modify_currency` write back a value computed from an
unlocked read: the module documentation of the inventory declares them not
transactional against a concurrent writer, and the account is exact as long as
nobody commits a change to the row between that read and the write.
-/

namespace WorldZero.Character

open Sql Sql.ReadCommitted

inductive StoreCall where
  | grantItem (c : CharacterId) (itemType : String) (quantity : Int)
  | removeItem (c : CharacterId) (itemType : String) (quantity : Int)
  | modifyCurrency (c : CharacterId) (currencyKey : String) (delta : Int)
  | executeTrade (a : CharacterId) (offerA : TradeOfferInput) (b : CharacterId)
      (offerB : TradeOfferInput)

namespace StoreCall

/-- The statements of a call; what it returns to its caller is not needed here. -/
def program (store : CharacterStore) : StoreCall → StoreM Unit
  | .grantItem c itemType quantity =>
      (Character.grantItem store c itemType quantity).bind fun _ => .pure ()
  | .removeItem c itemType quantity =>
      (Character.removeItem c itemType quantity).bind fun _ => .pure ()
  | .modifyCurrency c currencyKey delta =>
      (Character.modifyCurrency c currencyKey delta).bind fun _ => .pure ()
  | .executeTrade a offerA b offerB =>
      (Character.executeTrade store a offerA b offerB).bind fun _ => .pure ()

/-- Only a trade runs in a transaction. -/
def mode : StoreCall → Mode Error
  | .executeTrade .. => .transaction (.wrap "character" "failed to commit trade")
  | _ => .autocommit

/-- The calls that compute what they write from a plain read. -/
def writesBack : StoreCall → Bool
  | .removeItem .. | .modifyCurrency .. => true
  | _ => false

/-- What a call that returns should have added to a row. -/
def delta : StoreCall → RowKey → Int
  | .grantItem c itemType quantity, k => if k = .item c itemType then quantity else 0
  | .removeItem c itemType quantity, k => if k = .item c itemType then -quantity else 0
  | .modifyCurrency c currencyKey delta, k => if k = .currency c currencyKey then delta else 0
  | .executeTrade a offerA b offerB, k => exchanged a offerA b offerB k

/-- Run alone, every call moves every row by its delta. -/
theorem wp_program (store : CharacterStore) (call : StoreCall) :
    (call.program store).wp call.writesBack (fun _ F => ∀ k, F.change amount k = call.delta k)
      .empty := by
  cases call with
  | grantItem c itemType quantity => exact Program.wp_bind.mpr wp_grantItem
  | removeItem c itemType quantity => exact Program.wp_bind.mpr wp_removeItem
  | modifyCurrency c currencyKey delta => exact Program.wp_bind.mpr wp_modifyCurrency
  | executeTrade a offerA b offerB =>
      exact Program.wp_bind.mpr (Program.wp_mono wp_executeTrade fun _ _ post => post.1)

theorem readsOnly_requireStack (store : CharacterStore) (c : CharacterId) (alreadyOwned : Bool)
    (full : Nat → Nat → Error) : ReadsOnly (requireStack store c alreadyOwned full) := by
  unfold requireStack
  split
  · trivial
  · refine ⟨rfl, fun (n : Nat) => ?_⟩
    change ReadsOnly (if store.inventoryConfig.maxDistinctItemTypes ≤ n then .throw _ else .pure ())
    split <;> trivial

theorem locksLast_grantItem (store : CharacterStore) (c : CharacterId) (itemType : String)
    (quantity : Int) : LocksLast (Character.grantItem store c itemType quantity) := by
  unfold Character.grantItem
  split
  · trivial
  · refine ReadsOnly.bind ⟨rfl, fun _ => trivial⟩ fun owned => ?_
    exact ReadsOnly.bind (readsOnly_requireStack ..) fun _ => LocksLast.last _ _ _

theorem locksLast_removeItem (c : CharacterId) (itemType : String) (quantity : Int) :
    LocksLast (Character.removeItem c itemType quantity) := by
  unfold Character.removeItem
  split
  · trivial
  · refine ReadsOnly.bind ⟨rfl, fun _ => trivial⟩ fun current => ?_
    split
    · trivial
    · refine LocksLast.map ?_ _
      unfold writeRemaining
      split <;> exact LocksLast.last _ _ _

theorem locksLast_modifyCurrency (c : CharacterId) (currencyKey : String) (delta : Int) :
    LocksLast (Character.modifyCurrency c currencyKey delta) := by
  refine ReadsOnly.bind ⟨rfl, fun _ => trivial⟩ fun current => ?_
  split
  · trivial
  · split
    · trivial
    · exact LocksLast.map (LocksLast.last _ _ _) _

/-- The autocommitting calls write in their last statement. -/
theorem locksLast_program (store : CharacterStore) (call : StoreCall)
    (h : call.mode = .autocommit) : LocksLast (call.program store) := by
  cases call with
  | grantItem c itemType quantity => exact .map (locksLast_grantItem store c itemType quantity) _
  | removeItem c itemType quantity => exact .map (locksLast_removeItem c itemType quantity) _
  | modifyCurrency c currencyKey delta =>
      exact .map (locksLast_modifyCurrency c currencyKey delta) _
  | executeTrade a offerA b offerB => cases h

end StoreCall

variable {ι : Type} [DecidableEq ι] [Fintype ι]

def workload (store : CharacterStore) (calls : ι → StoreCall) : Workload ι Row Error Unit where
  mode i := (calls i).mode
  program i := (calls i).program store
  watch i := (calls i).writesBack

/-- Every holding is the initial one plus the deltas of the calls that returned. -/
def Accounted (calls : ι → StoreCall) (db : Tables) (s : State ι Row Error Unit) : Prop :=
  ∀ k, amount k (s.committed.lookup k) =
    amount k (db.lookup k) + ∑ i, if (s.calls i).returnedOk then (calls i).delta k else 0

/-- No step commits a change to a row between its read and its write-back by
another `remove_item` or `modify_currency`. -/
abbrev WriteBacksUndisturbed (store : CharacterStore) (calls : ι → StoreCall) :
    State ι Row Error Unit → Label ι → Prop :=
  Undisturbed (workload store calls)

/-- Store calls lose no update: in every interleaving that leaves the write-backs
undisturbed, in every state reached, the holdings are accounted for. -/
theorem accounted_of_undisturbed (store : CharacterStore) (calls : ι → StoreCall) (db : Tables)
    {s : State ι Row Error Unit} {ls : List (Label ι)}
    (undisturbed : Transition.Admissible (step (workload store calls))
      (WriteBacksUndisturbed store calls) (start (workload store calls) db) ls)
    (run : Transition.exec (step (workload store calls)) (start (workload store calls) db) ls =
      some s) : Accounted calls db s :=
  measure_committed (fun i => (calls i).wp_program store)
    (fun i => (calls i).locksLast_program store) undisturbed run

namespace TwoDeposits

-- One character with a purse of 100 gold, and two changes to its balance.
def hero : CharacterId := .fromUuid 1

def purse : Tables :=
  ((∅ : Tables).insert (.character hero) ∅).insert (.currency hero "gold")
    ⟨100, by decide, by decide⟩

def deposits : Fin 2 → StoreCall
  | 0 => .modifyCurrency hero "gold" 50
  | 1 => .modifyCurrency hero "gold" 30

def plainStore : CharacterStore := ⟨⟨1, []⟩, {}⟩

def took (i : Fin 2) : Label (Fin 2) := ⟨i, false⟩

/-- One deposit after the other: both are accounted for. -/
theorem accounted_of_undisturbed_deposits :
    ∃ s, Transition.exec (step (workload plainStore deposits))
        (start (workload plainStore deposits) purse) [took 0, took 0, took 1, took 1] = some s ∧
      (∀ i, (s.calls i).isFinished = true) ∧ Accounted deposits purse s := by
  have ends : (Transition.exec (step (workload plainStore deposits))
      (start (workload plainStore deposits) purse) [took 0, took 0, took 1, took 1]).any
      (fun s => decide (∀ i, (s.calls i).isFinished = true)) = true := by decide
  obtain ⟨s, run, finished⟩ := Transition.exec_reaches ends
  exact ⟨s, run, finished, accounted_of_undisturbed _ _ _ (by decide) run⟩

/-- Both deposits read 100 before either writes: both return, and the second
overwrites the first. -/
theorem modifyCurrency_loses_update :
    ¬ ∀ (ls : List (Label (Fin 2))) (s : State (Fin 2) Row Error Unit),
      Transition.exec (step (workload plainStore deposits))
        (start (workload plainStore deposits) purse) ls = some s →
      (∀ i, (s.calls i).isFinished = true) → Accounted deposits purse s := by
  intro noLoss
  have ends : (Transition.exec (step (workload plainStore deposits))
      (start (workload plainStore deposits) purse) [took 0, took 1, took 0, took 1]).any
      (fun s => decide ((∀ i, (s.calls i).returnedOk = true) ∧
        (∀ i, (s.calls i).isFinished = true) ∧
        amount (.currency hero "gold") (s.committed.lookup (.currency hero "gold")) = 130)) =
      true := by decide
  obtain ⟨s, run, returned, finished, held⟩ := Transition.exec_reaches ends
  have account := noLoss _ s run finished (.currency hero "gold")
  have before : amount (.currency hero "gold") (purse.lookup (.currency hero "gold")) = 100 := by
    decide
  have deltas : (deposits 0).delta (.currency hero "gold") +
      (deposits 1).delta (.currency hero "gold") = 80 := by decide
  simp only [Fin.sum_univ_two, returned, if_true, held, before] at account
  omega

end TwoDeposits

end WorldZero.Character
