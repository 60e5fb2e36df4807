import Mathlib.Algebra.GroupWithZero.Nat
import Mathlib.Tactic.ByContra
import Mathlib.Tactic.TypeStar

/-!
# Schedules of a labelled transition function

A system is an executable `step : S → L → Option S`: the label carries every
choice of the scheduler and of the environment, and `none` means that the label
is not enabled. `exec` runs a whole schedule. `Admissible` says that each label
of a schedule meets a condition in the state from which it is taken, so a safety
argument that needs an assumption about the steps of a run states it there and
not in the system.
-/

namespace Transition

/-- The numerals of three parties. -/
instance neZero_three : NeZero 3 := ⟨by decide⟩

variable {S L : Type*}

/-- Run the schedule from left to right; a disabled label makes it undefined. -/
def exec (step : S → L → Option S) : S → List L → Option S
  | s, [] => some s
  | s, l :: ls => (step s l).bind fun t => exec step t ls

/-- Every label of the schedule meets `ok` in the state from which it is taken. -/
def Admissible (step : S → L → Option S) (ok : S → L → Prop) : S → List L → Prop
  | _, [] => True
  | s, l :: ls => ok s l ∧ ∀ t, step s l = some t → Admissible step ok t ls

variable {step : S → L → Option S} {ok ok' : S → L → Prop} {s t : S} {l : L} {ls : List L}

@[simp] theorem exec_nil : exec step s [] = some t ↔ s = t := by simp [exec]

@[simp] theorem exec_cons :
    exec step s (l :: ls) = some t ↔ ∃ u, step s l = some u ∧ exec step u ls = some t := by
  simp [exec, Option.bind_eq_some_iff]

theorem exec_append {ls' : List L} :
    exec step s (ls ++ ls') = some t ↔
      ∃ u, exec step s ls = some u ∧ exec step u ls' = some t := by
  induction ls generalizing s with
  | nil => simp
  | cons l ls ih =>
      rw [List.cons_append, exec_cons]
      constructor
      · rintro ⟨v, taken, rest⟩
        obtain ⟨u, front, back⟩ := ih.mp rest
        exact ⟨u, exec_cons.mpr ⟨v, taken, front⟩, back⟩
      · rintro ⟨u, run, back⟩
        obtain ⟨v, taken, front⟩ := exec_cons.mp run
        exact ⟨v, taken, ih.mpr ⟨u, front, back⟩⟩

@[simp] theorem admissible_nil : Admissible step ok s [] := trivial

theorem admissible_cons :
    Admissible step ok s (l :: ls) ↔
      ok s l ∧ ∀ t, step s l = some t → Admissible step ok t ls := Iff.rfl

theorem admissible_append {ls' : List L} (run : exec step s ls = some t) :
    Admissible step ok s (ls ++ ls') ↔
      Admissible step ok s ls ∧ Admissible step ok t ls' := by
  induction ls generalizing s with
  | nil => simp [exec_nil.mp run]
  | cons l ls ih =>
      obtain ⟨u, taken, rest⟩ := exec_cons.mp run
      simp only [List.cons_append, admissible_cons, taken, Option.some.injEq, forall_eq', ih rest,
        and_assoc]

theorem Admissible.mono (h : Admissible step ok s ls) (imp : ∀ s l, ok s l → ok' s l) :
    Admissible step ok' s ls := by
  induction ls generalizing s with
  | nil => trivial
  | cons l ls ih => exact ⟨imp s l h.1, fun t ht => ih (h.2 t ht)⟩

/-- A condition that the labels of the schedule meet in any state can be added. -/
theorem Admissible.and (h : Admissible step ok s ls) (all : ∀ l ∈ ls, ∀ s, ok' s l) :
    Admissible step (fun s l => ok s l ∧ ok' s l) s ls := by
  induction ls generalizing s with
  | nil => trivial
  | cons l ls ih =>
      refine ⟨⟨h.1, all l List.mem_cons_self s⟩, fun t ht => ih (h.2 t ht) fun l' here => ?_⟩
      exact all l' (List.mem_cons_of_mem l here)

/-- With no condition on the steps every schedule is admissible. -/
theorem admissible_of_forall (h : ∀ s l, ok s l) : Admissible step ok s ls := by
  induction ls generalizing s with
  | nil => trivial
  | cons l ls ih => exact ⟨h s l, fun _ _ => ih⟩

/-- The run rule: an invariant that every admissible step preserves holds at the
end of every admissible schedule, hence in every state that it reaches. -/
theorem exec_invariant {I : S → Prop}
    (preserved : ∀ s l t, I s → ok s l → step s l = some t → I t)
    (start : I s) (legal : Admissible step ok s ls) (run : exec step s ls = some t) : I t := by
  induction ls generalizing s with
  | nil => exact exec_nil.mp run ▸ start
  | cons l ls ih =>
      obtain ⟨u, hu, rest⟩ := exec_cons.mp run
      exact ih (preserved s l u start legal.1 hu) (legal.2 u hu) rest

theorem Admissible.of_isPrefix {front : List L} (h : Admissible step ok s ls)
    (front_of : front <+: ls) : Admissible step ok s front := by
  induction front generalizing s ls with
  | nil => trivial
  | cons l front ih =>
      cases ls with
      | nil => cases List.prefix_nil.mp front_of
      | cons l' ls =>
          obtain ⟨same, later⟩ := List.cons_prefix_cons.mp front_of
          subst same
          exact ⟨h.1, fun t taken => ih (h.2 t taken) later⟩

/-- The run rule, for every state that the schedule passes through. -/
theorem throughout {I : S → Prop}
    (preserved : ∀ s l t, I s → ok s l → step s l = some t → I t)
    (start : I s) (legal : Admissible step ok s ls) :
    ∀ front, front <+: ls → ∀ t, exec step s front = some t → I t :=
  fun _ front_of _ run => exec_invariant preserved start (legal.of_isPrefix front_of) run

/-- The run rule for a system without conditions on its steps. -/
theorem exec_invariant_of_step {I : S → Prop}
    (preserved : ∀ s l t, I s → step s l = some t → I t)
    (start : I s) (run : exec step s ls = some t) : I t := by
  have legal : Admissible step (fun _ _ => True) s ls := admissible_of_forall fun _ _ => trivial
  exact exec_invariant (fun s l t hs _ => preserved s l t hs) start legal run

/-- Where the admissible steps keep an invariant that implies the property, and the others
lose the property, the admissible schedules are those along which it holds throughout. -/
theorem admissible_iff_throughout_of {I P : S → Prop}
    (preserved : ∀ s l t, I s → ok s l → step s l = some t → I t) (implied : ∀ s, I s → P s)
    (broken : ∀ s l, I s → ¬ ok s l → ∃ t, step s l = some t ∧ ¬ P t) (start : I s) :
    Admissible step ok s ls ↔
      ∀ front, front <+: ls → ∀ t, exec step s front = some t → P t := by
  refine ⟨fun legal front front_of t run => ?_, fun holds => ?_⟩
  · exact implied t (throughout preserved start legal front front_of t run)
  · induction ls generalizing s with
    | nil => trivial
    | cons l ls ih =>
        have legal : ok s l := by
          by_contra illegal
          obtain ⟨t, ht, lost⟩ := broken s l start illegal
          exact lost (holds [l] (by simp) t (exec_cons.mpr ⟨t, ht, rfl⟩))
        refine ⟨legal, fun u hu => ih (preserved s l u start legal hu) ?_⟩
        intro front rest t run
        exact holds (l :: front) (List.cons_prefix_cons.mpr ⟨rfl, rest⟩) t
          (exec_cons.mpr ⟨u, hu, run⟩)

/-- Where the steps that are not admissible break the invariant, the admissible schedules
are those along which it holds throughout. -/
theorem admissible_iff_throughout {I : S → Prop}
    (preserved : ∀ s l t, I s → ok s l → step s l = some t → I t)
    (broken : ∀ s l, I s → ¬ ok s l → ∃ t, step s l = some t ∧ ¬ I t) (start : I s) :
    Admissible step ok s ls ↔
      ∀ front, front <+: ls → ∀ t, exec step s front = some t → I t :=
  admissible_iff_throughout_of preserved (fun _ => id) broken start

/-- A condition that the invariant and the admissible step imply holds at every step. -/
theorem Admissible.of_invariant {I : S → Prop}
    (preserved : ∀ s l t, I s → ok s l → step s l = some t → I t)
    (implied : ∀ s l, I s → ok s l → ok' s l) (start : I s) (legal : Admissible step ok s ls) :
    Admissible step ok' s ls := by
  induction ls generalizing s with
  | nil => trivial
  | cons l ls ih =>
      exact ⟨implied s l start legal.1,
        fun t ht => ih (preserved s l t start legal.1 ht) (legal.2 t ht)⟩

/-- Decidable admissibility lets a concrete schedule be checked by evaluation. -/
instance decidableAdmissible [∀ s l, Decidable (ok s l)] :
    ∀ (s : S) (ls : List L), Decidable (Admissible step ok s ls)
  | _, [] => isTrue trivial
  | s, l :: ls =>
      match h : step s l with
      | none => decidable_of_iff (ok s l) (by simp [admissible_cons, h])
      | some t =>
          haveI : Decidable (Admissible step ok t ls) := decidableAdmissible t ls
          decidable_of_iff (ok s l ∧ Admissible step ok t ls) (by simp [admissible_cons, h])

/-- A decided property of the state that a concrete schedule reaches. -/
theorem exec_reaches {P : S → Prop} [DecidablePred P]
    (h : (exec step s ls).any (fun t => decide (P t)) = true) :
    ∃ t, exec step s ls = some t ∧ P t := by
  obtain ⟨t, run, holds⟩ := (Option.any_eq_true _ _).mp h
  exact ⟨t, run, of_decide_eq_true holds⟩

end Transition
