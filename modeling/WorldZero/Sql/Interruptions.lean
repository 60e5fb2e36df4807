import WorldZero.Sql.Faults
import WorldZero.Sql.Transactions

/-!
# A call that is interrupted

A call of `Sql.Transactions` alone, with at most one fault: a statement, or the commit of what
has been written, is not performed, or it is performed and its reply is lost. The call is over
with the first fault, so there is no more than one. `trace` is what the call does without a
fault; `attempt_of_trace` tells from it what the call does with one.
-/

namespace Sql.Transactions

variable {S : Type} {Result : S → Type} {D W L ε α : Type}

/-- The number of the statement that the fault befalls, the commit counted as the last. -/
structure Interruption where
  index : ℕ
  fault : Fault
  deriving DecidableEq

namespace Interruption

/-- The fault befalls one of the first statements. -/
def Before (n : ℕ) (i : Option Interruption) : Prop := ∃ f ∈ i, f.index < n

instance (n : ℕ) (i : Option Interruption) : Decidable (Before n i) :=
  inferInstanceAs (Decidable (∃ f ∈ i, f.index < n))

/-- The fault as it is counted from the next statement on. -/
def next (i : Option Interruption) : Option Interruption :=
  i.map fun f => ⟨f.index - 1, f.fault⟩

variable {n : ℕ} {i : Option Interruption} {fault : Fault}

@[simp] theorem not_before_zero : ¬ Before 0 i := fun ⟨_, _, early⟩ => Nat.not_lt_zero _ early

theorem before_next (spared : ¬ Before 1 i) : Before n (next i) ↔ Before (n + 1) i := by
  cases i with
  | none => simp [Before, next]
  | some f =>
      have late : 0 < f.index := by simpa [Before, Nat.pos_iff_ne_zero] using spared
      simp only [Before, next, Option.map_some, Option.mem_def, Option.some.injEq, exists_eq_left']
      omega

theorem next_eq_some (spared : ¬ Before 1 i) :
    next i = some ⟨n, fault⟩ ↔ i = some ⟨n + 1, fault⟩ := by
  cases i with
  | none => simp [next]
  | some f =>
      obtain ⟨index, kind⟩ := f
      have late : 0 < index := by simpa [Before, Nat.pos_iff_ne_zero] using spared
      simp only [next, Option.map_some, Option.some.injEq, Interruption.mk.injEq]
      refine and_congr_left fun _ => ?_
      omega

/-- A fault up to the last step befalls a statement or the commit. -/
theorem before_succ_iff :
    Before (n + 1) i ↔ Before n i ∨ i = some ⟨n, .failed⟩ ∨ i = some ⟨n, .lost⟩ := by
  rcases i with _ | ⟨index, fault⟩
  · simp [Before]
  · cases fault <;> simp [Before] <;> omega

end Interruption

namespace Engine

variable (e : Engine Result D W L) (commitFailure : ε)

/-- Execute the call alone; `ws` is what it has written so far. -/
def attempt : Program Result ε α → Option Interruption → List W → D → Except ε α × D
  | .pure a, i, ws, d =>
      if ws.isEmpty then (.ok a, d)
      else if i = some ⟨0, .failed⟩ then (.error commitFailure, d)
      else if i = some ⟨0, .lost⟩ then (.error commitFailure, e.applyAll ws d)
      else (.ok a, e.applyAll ws d)
  | .throw err, _, _, d => (.error err, d)
  | .statement s failure next, i, ws, d =>
      if Interruption.Before 1 i then (.error failure, d)
      else
        match e.exec s (e.applyAll ws d) with
        | none => (.error failure, d)
        | some (r, ws') => attempt (next r) (Interruption.next i) (ws ++ ws') d

/-- The result of a call without a fault, with what it has written and the number of its
statements. -/
def trace : Program Result ε α → List W → D → Option (α × List W × ℕ)
  | .pure a, ws, _ => some (a, ws, 0)
  | .throw _, _, _ => none
  | .statement s _ next, ws, d =>
      match e.exec s (e.applyAll ws d) with
      | none => none
      | some (r, ws') => (trace (next r) (ws ++ ws') d).map fun o => (o.1, o.2.1, o.2.2 + 1)

variable {e} {ws ws' : List W} {d : D} {p : Program Result ε α} {a : α} {n : ℕ}

theorem trace_statement {s : S} {failure : ε} {next : Result s → Program Result ε α}
    {r : Result s} (executed : e.exec s (e.applyAll ws d) = some (r, ws')) :
    e.trace (.statement s failure next) ws d =
      (e.trace (next r) (ws ++ ws') d).map fun o => (o.1, o.2.1, o.2.2 + 1) := by
  rw [trace, executed]

theorem trace_refused {s : S} {failure : ε} {next : Result s → Program Result ε α}
    (refused : e.exec s (e.applyAll ws d) = none) :
    e.trace (.statement s failure next) ws d = none := by
  rw [trace, refused]

variable (i : Option Interruption)

/-- A call that is refused without a fault changes nothing, and returns an error. -/
theorem attempt_of_trace_none (refused : e.trace p ws d = none) :
    ∃ err, e.attempt commitFailure p i ws d = (.error err, d) := by
  induction p generalizing i ws with
  | pure a => cases refused
  | throw err => exact ⟨err, rfl⟩
  | statement s failure next ih =>
      rw [attempt]
      split
      · exact ⟨failure, rfl⟩
      cases executed : e.exec s (e.applyAll ws d) with
      | none => exact ⟨failure, rfl⟩
      | some o =>
          obtain ⟨r, ws'⟩ := o
          rw [trace_statement executed, Option.map_eq_none_iff] at refused
          exact ih r _ refused

/-- With a fault the call changes nothing if the fault comes before the commit, and otherwise all
that it would without one, unless the commit fails. -/
theorem attempt_of_trace (traced : e.trace p ws d = some (a, ws', n)) :
    (Interruption.Before n i → ∃ err, e.attempt commitFailure p i ws d = (.error err, d)) ∧
      (¬ Interruption.Before n i → e.attempt commitFailure p i ws d =
        if ws'.isEmpty then (.ok a, d)
        else if i = some ⟨n, .failed⟩ then (.error commitFailure, d)
        else if i = some ⟨n, .lost⟩ then (.error commitFailure, e.applyAll ws' d)
        else (.ok a, e.applyAll ws' d)) := by
  induction p generalizing i ws n with
  | throw err => cases traced
  | pure a =>
      cases traced
      exact ⟨fun early => absurd early Interruption.not_before_zero, fun _ => rfl⟩
  | statement s failure next ih =>
      cases executed : e.exec s (e.applyAll ws d) with
      | none =>
          rw [trace_refused executed] at traced
          cases traced
      | some o =>
          obtain ⟨r, written⟩ := o
          rw [trace_statement executed, Option.map_eq_some_iff] at traced
          obtain ⟨⟨a, ws', m⟩, traced, rfl, rfl, rfl⟩ := traced
          obtain ⟨early, late⟩ := ih r (Interruption.next i) traced
          by_cases first : Interruption.Before 1 i
          · have start : e.attempt commitFailure (.statement s failure next) i ws d =
                (.error failure, d) := by rw [attempt, if_pos first]
            refine ⟨fun _ => ⟨failure, start⟩, fun spared => absurd ?_ spared⟩
            obtain ⟨f, here, zero⟩ := first
            exact ⟨f, here, by omega⟩
          · have go : e.attempt commitFailure (.statement s failure next) i ws d =
                e.attempt commitFailure (next r) (Interruption.next i) (ws ++ written) d := by
              rw [attempt, if_neg first, executed]
            rw [go, ← Interruption.before_next first]
            refine ⟨early, fun spared => ?_⟩
            rw [late spared]
            simp only [Interruption.next_eq_some first]

/-- A call that writes: a fault before the commit, in the commit, in its reply, or none. -/
theorem attempt_of_written (traced : e.trace p ws d = some (a, ws', n)) (written : ws' ≠ []) :
    (Interruption.Before n i ∨ i = some ⟨n, .failed⟩ →
      ∃ err, e.attempt commitFailure p i ws d = (.error err, d)) ∧
    (i = some ⟨n, .lost⟩ →
      ∃ err, e.attempt commitFailure p i ws d = (.error err, e.applyAll ws' d)) ∧
    (¬ Interruption.Before (n + 1) i →
      e.attempt commitFailure p i ws d = (.ok a, e.applyAll ws' d)) := by
  obtain ⟨early, late⟩ := attempt_of_trace commitFailure i traced
  have some_written : ¬ ws'.isEmpty = true := by simpa using written
  simp only [some_written] at late
  refine ⟨?_, fun lost => ?_, fun unharmed => ?_⟩
  · rintro (struck | failed)
    · exact early struck
    · have spared : ¬ Interruption.Before n i := by simp [failed, Interruption.Before]
      exact ⟨_, (late spared).trans (if_pos failed)⟩
  · have spared : ¬ Interruption.Before n i := by simp [lost, Interruption.Before]
    have replied : i ≠ some ⟨n, .failed⟩ := by simp [lost]
    exact ⟨commitFailure, (late spared).trans ((if_neg replied).trans (if_pos lost))⟩
  · rw [Interruption.before_succ_iff, not_or, not_or] at unharmed
    exact (late unharmed.1).trans ((if_neg unharmed.2.1).trans (if_neg unharmed.2.2))

end Engine

end Sql.Transactions
