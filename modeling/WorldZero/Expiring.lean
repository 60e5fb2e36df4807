import Mathlib.Data.List.Basic
import Mathlib.Data.List.Chain
import Mathlib.Logic.Function.Basic
import Mathlib.Tactic.TypeStar

/-!
# Keys that expire

A store keeps a value under each key until a deadline. Setting a key gives it a deadline
anew, and renewing it moves the deadline of a value that is still there. `lookup_run` tells
what is found under a key from the history of calls alone: the value it was last set to, if
no renewal since then and no look at it has come after the deadline before.
-/

namespace Expiring

structure Entry (V : Type*) where
  value : V
  deadline : ℕ

/-- How an operation ends for its caller. -/
inductive Outcome where
  | ok
  | failed
  /-- The operation has been carried out, its answer is lost. -/
  | lost
  deriving DecidableEq

/-- What is past its deadline is in the store until it is touched. -/
abbrev Store (K V : Type*) := K → Option (Entry V)

namespace Store

variable {K V : Type*}

def empty : Store K V := fun _ => none

def lookup (s : Store K V) (now : ℕ) (k : K) : Option V :=
  (s k).bind fun e => if now ≤ e.deadline then some e.value else none

variable [DecidableEq K] (s : Store K V) (now ttl : ℕ) (k : K)

def set (v : V) : Store K V := Function.update s k (some ⟨v, now + ttl⟩)

def delete : Store K V := Function.update s k none

/-- A key that has expired is removed; whether the key was there. -/
def renew : Store K V × Bool :=
  match s.lookup now k with
  | some v => (s.set now ttl k v, true)
  | none => (s.delete k, false)

variable {s now ttl k} {k' : K} {v : V} {later : ℕ}

omit [DecidableEq K] in
@[simp] theorem lookup_empty : (empty : Store K V).lookup now k = none := rfl

@[simp] theorem lookup_set_self :
    (s.set now ttl k v).lookup later k = if later ≤ now + ttl then some v else none := by
  simp [lookup, set]

theorem lookup_set_of_ne (other : k' ≠ k) :
    (s.set now ttl k v).lookup later k' = s.lookup later k' := by
  rw [lookup, set, Function.update_of_ne other, lookup]

@[simp] theorem lookup_delete_self : (s.delete k).lookup later k = none := by
  simp [lookup, delete]

theorem lookup_delete_of_ne (other : k' ≠ k) :
    (s.delete k).lookup later k' = s.lookup later k' := by
  rw [lookup, delete, Function.update_of_ne other, lookup]

theorem lookup_renew_self :
    (s.renew now ttl k).1.lookup later k =
      if later ≤ now + ttl then s.lookup now k else none := by
  unfold renew
  cases s.lookup now k <;> simp

theorem lookup_renew_of_ne (other : k' ≠ k) :
    (s.renew now ttl k).1.lookup later k' = s.lookup later k' := by
  unfold renew
  cases s.lookup now k with
  | some v => exact lookup_set_of_ne other
  | none => exact lookup_delete_of_ne other

end Store

/-! ### Histories -/

inductive Operation (K V : Type*) where
  | set (k : K) (v : V)
  | renew (k : K)
  | delete (k : K)

/-- An operation and when it is done; what it leaves lasts for `ttl`. -/
structure Call (K V : Type*) where
  now : ℕ
  ttl : ℕ
  operation : Operation K V

namespace Call

variable {K V : Type*} [DecidableEq K]

def apply (s : Store K V) (c : Call K V) : Store K V :=
  match c.operation with
  | .set k v => s.set c.now c.ttl k v
  | .renew k => (s.renew c.now c.ttl k).1
  | .delete k => s.delete k

def deadline (c : Call K V) : ℕ := c.now + c.ttl

def renews (c : Call K V) (k : K) : Bool :=
  match c.operation with
  | .renew k' => decide (k' = k)
  | _ => false

/-- The call sets the key or deletes it. -/
def overwrites (c : Call K V) (k : K) : Bool :=
  match c.operation with
  | .set k' _ | .delete k' => decide (k' = k)
  | .renew _ => false

/-- The key that the call sets. -/
def setKey (c : Call K V) : Option K :=
  match c.operation with
  | .set k _ => some k
  | .renew _ | .delete _ => none

end Call

variable {K V : Type*} [DecidableEq K] {calls before after : List (Call K V)} {c d : Call K V}
  {k : K} {v : V} {now : ℕ}

def run (calls : List (Call K V)) : Store K V := calls.foldl Call.apply .empty

theorem run_concat : run (calls ++ [c]) = c.apply (run calls) := by
  simp [run, List.foldl_append]

/-- Every call comes by the deadline that the one before has set, and `now` by the last. -/
def InTime (now : ℕ) (calls : List (Call K V)) : Prop :=
  calls.IsChain (fun c d => d.now ≤ c.deadline) ∧ ∀ c ∈ calls.getLast?, now ≤ c.deadline

omit [DecidableEq K] in
theorem inTime_singleton : InTime now [c] ↔ now ≤ c.deadline := by
  simp [InTime]

omit [DecidableEq K] in
theorem inTime_concat :
    InTime now (c :: calls ++ [d]) ↔ InTime d.now (c :: calls) ∧ now ≤ d.deadline := by
  simp only [InTime, List.isChain_append, List.getLast?_concat, List.isChain_singleton,
    List.head?_cons, Option.mem_def, Option.some.injEq, forall_eq', true_and]

/-- The history says that the key holds the value: it was set to it and not overwritten
since, and every renewal came in time. -/
def Holds (calls : List (Call K V)) (now : ℕ) (k : K) (v : V) : Prop :=
  ∃ before c after, calls = before ++ c :: after ∧ c.operation = .set k v ∧
    (∀ d ∈ after, d.overwrites k = false) ∧ InTime now (c :: after.filter fun d => d.renews k)

theorem not_holds_nil : ¬ Holds ([] : List (Call K V)) now k v := by
  rintro ⟨before, c, after, same, -⟩
  simp at same

omit [DecidableEq K] in
/-- The last call is the one in question or comes after it. -/
theorem concat_eq_append_cons :
    calls ++ [d] = before ++ c :: after ↔
      (after = [] ∧ c = d ∧ before = calls) ∨
        ∃ rest, after = rest ++ [d] ∧ calls = before ++ c :: rest := by
  obtain rfl | ⟨rest, last, rfl⟩ := after.eq_nil_or_concat
  · have inj : calls.concat d = before.concat c ↔ calls = before ∧ d = c := List.concat_inj
    rw [List.concat_eq_append, List.concat_eq_append] at inj
    rw [inj]
    constructor
    · rintro ⟨rfl, rfl⟩
      exact .inl ⟨rfl, rfl, rfl⟩
    · rintro (⟨-, rfl, rfl⟩ | ⟨rest, none, -⟩)
      · exact ⟨rfl, rfl⟩
      · simp at none
  · have inj : calls.concat d = (before ++ c :: rest).concat last ↔
        calls = before ++ c :: rest ∧ d = last := List.concat_inj
    rw [List.concat_eq_append, List.concat_eq_append, List.append_assoc, List.cons_append] at inj
    rw [List.concat_eq_append, inj]
    constructor
    · rintro ⟨same, rfl⟩
      exact .inr ⟨rest, rfl, same⟩
    · rintro (⟨none, -⟩ | ⟨rest', same, rfl⟩)
      · simp at none
      · obtain ⟨rfl, last⟩ := List.append_inj' same rfl
        exact ⟨rfl, (List.singleton_inj.mp last).symm⟩

/-- What the last call does to what the history says. -/
theorem holds_concat :
    Holds (calls ++ [d]) now k v ↔
      (d.operation = .set k v ∧ now ≤ d.deadline) ∨
        (d.overwrites k = false ∧ d.renews k = false ∧ Holds calls now k v) ∨
        (d.renews k = true ∧ Holds calls d.now k v ∧ now ≤ d.deadline) := by
  constructor
  · rintro ⟨before, c, after, same, set, kept, in_time⟩
    obtain ⟨rfl, rfl, rfl⟩ | ⟨rest, rfl, rfl⟩ := concat_eq_append_cons.mp same
    · exact .inl ⟨set, inTime_singleton.mp in_time⟩
    · have earlier : ∀ d ∈ rest, d.overwrites k = false :=
        fun e there => kept e (List.mem_append_left _ there)
      have own : d.overwrites k = false := kept d (List.mem_append_right _ List.mem_cons_self)
      cases renews : d.renews k with
      | false =>
          have untouched : [d].filter (fun d => d.renews k) = [] := by simp [renews]
          rw [List.filter_append, untouched, List.append_nil] at in_time
          exact .inr (.inl ⟨own, rfl, before, c, rest, rfl, set, earlier, in_time⟩)
      | true =>
          have renewed : [d].filter (fun d => d.renews k) = [d] := by simp [renews]
          rw [List.filter_append, renewed, ← List.cons_append, inTime_concat] at in_time
          exact .inr (.inr ⟨rfl, ⟨before, c, rest, rfl, set, earlier, in_time.1⟩, in_time.2⟩)
  · rintro (⟨set, in_time⟩ | ⟨own, renews, before, c, rest, rfl, set, kept, in_time⟩ |
      ⟨renews, ⟨before, c, rest, rfl, set, kept, in_time⟩, last⟩)
    · exact ⟨calls, d, [], rfl, set, by simp, inTime_singleton.mpr in_time⟩
    · refine ⟨before, c, rest ++ [d], by simp, set, ?_, ?_⟩
      · simpa [own, or_imp, forall_and] using kept
      · simpa [List.filter_append, renews] using in_time
    · have own : d.overwrites k = false := by
        unfold Call.renews at renews
        unfold Call.overwrites
        split at renews
        next k' renewal => rw [renewal]
        · cases renews
      refine ⟨before, c, rest ++ [d], by simp, set, ?_, ?_⟩
      · simpa [own, or_imp, forall_and] using kept
      · have renewed : [d].filter (fun d => d.renews k) = [d] := by simp [renews]
        rw [List.filter_append, renewed, ← List.cons_append, inTime_concat]
        exact ⟨in_time, last⟩

/-- What is found under a key is what the history says. -/
theorem lookup_run : (run calls).lookup now k = some v ↔ Holds calls now k v := by
  induction calls using List.reverseRecOn generalizing now with
  | nil => exact iff_of_false (by simp [run]) not_holds_nil
  | append_singleton calls d ih =>
      rw [run_concat, holds_concat, Call.apply]
      obtain ⟨at_time, ttl, operation⟩ := d
      cases operation with
      | set k' v' =>
          by_cases here : k = k'
          · subst here
            simp [Call.deadline, Call.overwrites, Call.renews, and_comm]
          · simp [Store.lookup_set_of_ne here, ih, Call.overwrites, Call.renews, Ne.symm here]
      | renew k' =>
          by_cases here : k = k'
          · subst here
            simp [Store.lookup_renew_self, ih, Call.deadline, Call.overwrites, Call.renews,
              and_comm]
          · simp [Store.lookup_renew_of_ne here, ih, Call.overwrites, Call.renews, Ne.symm here]
      | delete k' =>
          by_cases here : k = k'
          · subst here
            simp [Call.overwrites, Call.renews]
          · simp [Store.lookup_delete_of_ne here, ih, Call.overwrites, Call.renews, Ne.symm here]

theorem Holds.mem_setKey (holds : Holds calls now k v) : k ∈ calls.filterMap Call.setKey := by
  obtain ⟨before, c, after, rfl, set, -⟩ := holds
  refine List.mem_filterMap.mpr ⟨c, by simp, ?_⟩
  rw [Call.setKey, set]

theorem exists_lookup_iff :
    ((run calls).lookup now k).isSome = true ↔ ∃ v, Holds calls now k v := by
  rw [Option.isSome_iff_exists]
  exact exists_congr fun v => lookup_run

/-! ### Without the deadlines -/

namespace Operation

/-- What the operation leaves under a key that held `held`, if nothing expired. -/
def leaves (k : K) (held : Option V) : Operation K V → Option V
  | .set k' v => if k' = k then some v else held
  | .delete k' => if k' = k then none else held
  | .renew _ => held

end Operation

/-- What a key was last set to and has not been deleted since. -/
def contents (calls : List (Call K V)) (k : K) : Option V :=
  calls.foldl (fun held c => c.operation.leaves k held) none

theorem contents_concat : contents (calls ++ [c]) k = c.operation.leaves k (contents calls k) := by
  simp [contents, List.foldl_append]

/-- Deadlines only take away. -/
theorem Holds.contents (holds : Holds calls now k v) : contents calls k = some v := by
  induction calls using List.reverseRecOn generalizing now with
  | nil => exact absurd holds not_holds_nil
  | append_singleton calls d ih =>
      rw [contents_concat]
      obtain ⟨set, -⟩ | ⟨own, -, earlier⟩ | ⟨renews, earlier, -⟩ := holds_concat.mp holds
      · rw [set]
        exact if_pos rfl
      · have held := ih earlier
        unfold Call.overwrites at own
        cases same : d.operation with
        | renew k' => exact held
        | set k' v' | delete k' =>
            rw [same] at own
            exact (if_neg (of_decide_eq_false own)).trans held
      · have held := ih earlier
        unfold Call.renews at renews
        cases same : d.operation with
        | renew k' => exact held
        | set k' v' | delete k' =>
            rw [same] at renews
            cases renews

end Expiring
