import Mathlib.Tactic.TypeStar

/-!
# Guests that act through their host only

A guest is a tree of calls of its host's functions, each continued by what the function has
answered; it can do nothing else. A gate in front of the functions refuses some of the
calls. Whatever the functions behind the gate leave as it is, every guest leaves so.
-/

namespace Sandbox

variable {F : Type*} {A : F → Type*} {σ α : Type*}

/-- What a guest does until it has a result. -/
inductive Guest (A : F → Type*) (α : Type*) where
  | done (result : α)
  | call (f : F) (next : A f → Guest A α)

/-- The functions of a host, with its state. -/
abbrev Functions (A : F → Type*) (σ : Type*) := (f : F) → σ → A f × σ

namespace Functions

/-- The calls that are refused are answered by the gate. -/
def gate (refusal : (f : F) → Option (A f)) (functions : Functions A σ) : Functions A σ :=
  fun f s =>
    match refusal f with
    | some refused => (refused, s)
    | none => functions f s

/-- A relation between what has been before and what is after a call. -/
def Keeps (R : σ → σ → Prop) (functions : Functions A σ) : Prop :=
  ∀ f s, R s (functions f s).2

variable {R : σ → σ → Prop} {functions : Functions A σ} {refusal : (f : F) → Option (A f)}

theorem keeps_gate (refl : ∀ s, R s s)
    (keeps : ∀ f, refusal f = none → ∀ s, R s (functions f s).2) :
    (functions.gate refusal).Keeps R := by
  intro f s
  simp only [gate]
  split
  next => exact refl s
  next admitted => exact keeps f admitted s

end Functions

namespace Guest

def run (functions : Functions A σ) : Guest A α → σ → α × σ
  | .done result, s => (result, s)
  | .call f next, s => (next (functions f s).1).run functions (functions f s).2

variable {R : σ → σ → Prop} {functions : Functions A σ}

theorem run_rel (refl : ∀ s, R s s) (trans : ∀ {s t u}, R s t → R t u → R s u)
    (keeps : functions.Keeps R) (guest : Guest A α) (s : σ) : R s (guest.run functions s).2 := by
  induction guest generalizing s with
  | done => exact refl s
  | call f next ih => exact trans (keeps f s) (ih _ _)

end Guest

end Sandbox
