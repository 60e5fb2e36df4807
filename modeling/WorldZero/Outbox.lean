import Mathlib.Data.List.Basic
import Mathlib.Logic.Function.Basic

/-!
# Requests that are queued now and applied later

While something is called it can only queue requests, in one queue for each kind. Whoever
has called it takes the queues one after the other and applies what they held; and
applying may call again, and so queue more. A round begins with whatever earlier rounds
have left in the queues. What a call queues is applied in the same round exactly if its
kind is still to be taken, which is a matter of where in the round the call stands.
-/

namespace Outbox

variable {K H : Type*} {R : K → Type*}

structure Entry (α : Type*) where
  request : α
  /-- Queued in the current round. -/
  fresh : Bool

/-- The queues. The calls of the current round, and what it has applied so far, are read by
the specifications only. -/
structure Box (H : Type*) (R : K → Type*) where
  pending : (k : K) → List (Entry (R k))
  calls : List (H × ((k : K) → List (R k)))
  applied : (k : K) → List (Entry (R k))

/-- The requests of the current round among the entries. -/
def fresh {α : Type*} (entries : List (Entry α)) : List α :=
  (entries.filter fun entry => entry.fresh).map fun entry => entry.request

@[simp] theorem fresh_nil {α : Type*} : fresh ([] : List (Entry α)) = [] := rfl

@[simp] theorem fresh_append {α : Type*} (xs ys : List (Entry α)) :
    fresh (xs ++ ys) = fresh xs ++ fresh ys := by
  simp [fresh]

@[simp] theorem fresh_new {α : Type*} (requests : List α) :
    fresh (requests.map fun request => ⟨request, true⟩) = requests := by
  simp [fresh, List.filter_map, Function.comp_def]

@[simp] theorem fresh_old {α : Type*} (entries : List (Entry α)) :
    fresh (entries.map fun entry => { entry with fresh := false }) = [] := by
  simp [fresh, List.filter_map, Function.comp_def]

theorem fresh_eq_nil {α : Type*} {entries : List (Entry α)} :
    fresh entries = [] ↔ ∀ entry ∈ entries, entry.fresh = false := by
  simp [fresh]

namespace Box

variable (b : Box H R)

def newRound : Box H R where
  pending k := (b.pending k).map fun entry => { entry with fresh := false }
  calls := []
  applied _ := []

/-- A call has been made and has queued the requests. -/
def push (h : H) (requests : (k : K) → List (R k)) : Box H R where
  pending k := b.pending k ++ (requests k).map fun request => ⟨request, true⟩
  calls := b.calls ++ [(h, requests)]
  applied := b.applied

variable [DecidableEq K]

/-- The queue of a kind is emptied by whoever is going to apply its entries. -/
def take (k : K) : Box H R := { b with pending := Function.update b.pending k [] }

/-- An entry that has been taken is applied. -/
def done (k : K) (entry : Entry (R k)) : Box H R :=
  { b with applied := Function.update b.applied k (b.applied k ++ [entry]) }

omit [DecidableEq K]

/-- The requests of a kind that the calls of the round have queued. -/
def queued (k : K) : List (R k) := b.calls.flatMap fun call => call.2 k

/-- Those among them that were queued too late. -/
def late (drains : H → K → Bool) (k : K) : List (R k) :=
  b.calls.flatMap fun call => if drains call.1 k then [] else call.2 k

section Take

variable [DecidableEq K] {b} {k k' : K} {drains : H → K → Bool} {entry : Entry (R k)}

@[simp] theorem queued_take : (b.take k).queued k' = b.queued k' := rfl

@[simp] theorem late_take : (b.take k).late drains k' = b.late drains k' := rfl

@[simp] theorem queued_done : (b.done k entry).queued k' = b.queued k' := rfl

@[simp] theorem pending_take_self : (b.take k).pending k = [] := by simp [take]

theorem pending_take_of_ne (ne : k' ≠ k) : (b.take k).pending k' = b.pending k' := by
  simp [take, ne]

@[simp] theorem pending_done : (b.done k entry).pending k' = b.pending k' := rfl

@[simp] theorem applied_take : (b.take k).applied k' = b.applied k' := rfl

@[simp] theorem applied_done_self :
    (b.done k entry).applied k = b.applied k ++ [entry] := by simp [done]

theorem applied_done_of_ne (ne : k' ≠ k) : (b.done k entry).applied k' = b.applied k' := by
  simp [done, ne]

end Take

/-- Whatever has been queued in the round has been applied in it, in order and once, and
nothing of it is left. -/
def Contained : Prop :=
  ∀ k, fresh (b.applied k) = b.queued k ∧ ∀ entry ∈ b.pending k, entry.fresh = false

/-- The invariant of a round. `inFlight` has been taken and is still to be applied; the
`settled` kinds will not be taken any more. -/
structure Round (drains : H → K → Bool) (inFlight : (k : K) → List (Entry (R k)))
    (settled : K → Bool) (b : Box H R) : Prop where
  accounted : ∀ k, b.queued k = fresh (b.applied k) ++ fresh (inFlight k) ++ fresh (b.pending k)
  inTime : ∀ k, settled k = false → b.late drains k = []
  leftOver : ∀ k, settled k = true → fresh (b.pending k) = b.late drains k

namespace Round

variable {drains : H → K → Bool} {inFlight : (k : K) → List (Entry (R k))} {settled : K → Bool}
  {b : Box H R} {k : K} {h : H}

theorem newRound : Round drains (fun _ => []) settled b.newRound where
  accounted k := by simp [queued, Box.newRound]
  inTime k _ := rfl
  leftOver k _ := by simp [Box.newRound, late]

/-- A call drains what is not settled. -/
theorem push {requests : (k : K) → List (R k)} (round : Round drains inFlight settled b)
    (stands : ∀ k, drains h k = !settled k) :
    Round drains inFlight settled (b.push h requests) where
  accounted k := by
    have before := round.accounted k
    simp only [queued, Box.push, List.flatMap_append, List.flatMap_singleton, fresh_append,
      fresh_new] at before ⊢
    rw [before, List.append_assoc _ _ (requests k)]
  inTime k unsettled := by
    have before := round.inTime k unsettled
    simp only [late, Box.push, List.flatMap_append, List.flatMap_singleton] at before ⊢
    rw [before, stands k, unsettled]
    rfl
  leftOver k is_settled := by
    have before := round.leftOver k is_settled
    simp only [late, Box.push, List.flatMap_append, List.flatMap_singleton, fresh_append,
      fresh_new] at before ⊢
    rw [before, stands k, is_settled]
    rfl

variable [DecidableEq K]

/-- A kind is taken while every call so far has counted on it. -/
theorem take (round : Round drains inFlight settled b) (idle : inFlight k = [])
    (unsettled : settled k = false) :
    Round drains (Function.update inFlight k (b.pending k)) (Function.update settled k true)
      (b.take k) where
  accounted k' := by
    have before := round.accounted k'
    by_cases same : k' = k
    · subst same
      simpa [idle] using before
    · simpa [pending_take_of_ne same, same] using before
  inTime k' unsettled' := by
    by_cases same : k' = k
    · subst same
      simp at unsettled'
    · exact round.inTime k' (by simpa [same] using unsettled')
  leftOver k' closed := by
    by_cases same : k' = k
    · subst same
      simpa using (round.inTime k' unsettled).symm
    · simpa [pending_take_of_ne same] using round.leftOver k' (by simpa [same] using closed)

theorem done {entry : Entry (R k)} {rest : List (Entry (R k))}
    (round : Round drains inFlight settled b) (next : inFlight k = entry :: rest) :
    Round drains (Function.update inFlight k rest) settled (b.done k entry) where
  accounted k' := by
    have before := round.accounted k'
    by_cases same : k' = k
    · subst same
      rw [next, ← List.singleton_append, fresh_append] at before
      simpa using before
    · simpa [applied_done_of_ne same, same] using before
  inTime := round.inTime
  leftOver := round.leftOver

omit [DecidableEq K] in
/-- At its end a round is contained exactly if every call has queued only requests of the
kinds that were still to be taken. -/
theorem contained_iff (round : Round drains (fun _ => []) (fun _ => true) b) :
    b.Contained ↔ ∀ call ∈ b.calls, ∀ k, call.2 k ≠ [] → drains call.1 k = true := by
  have late_eq_nil (k : K) : b.late drains k = [] ↔
      ∀ call ∈ b.calls, call.2 k ≠ [] → drains call.1 k = true := by
    simp only [late, List.flatMap_eq_nil_iff, ite_eq_left_iff, Bool.not_eq_true]
    refine forall₂_congr fun call _ => ?_
    cases drains call.1 k <;> simp
  have contained : b.Contained ↔ ∀ k, b.late drains k = [] := by
    constructor
    · intro contained k
      rw [← round.leftOver k rfl]
      exact fresh_eq_nil.mpr (contained k).2
    · intro none_late k
      have none_left : fresh (b.pending k) = [] := (round.leftOver k rfl).trans (none_late k)
      have accounted := round.accounted k
      rw [none_left, fresh_nil, List.append_nil, List.append_nil] at accounted
      exact ⟨accounted.symm, fresh_eq_nil.mp none_left⟩
  rw [contained]
  constructor
  · intro none_late call made k
    exact (late_eq_nil k).mp (none_late k) call made
  · intro inTime k
    exact (late_eq_nil k).mpr fun call made => inTime call made k

end Round

end Box

end Outbox
