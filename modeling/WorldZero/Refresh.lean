import Mathlib.Logic.Function.Basic
import Mathlib.Tactic.ByContra
import Mathlib.Tactic.TypeStar

/-!
# Views that many handlers refresh

Recipients have a view of a store, and handlers that change the store tell the recipients
what they see of it now. A handler decides whom to tell, reads and tells in steps of its
own, between which others change the store again. `Kept` says that no recipient is forgotten:
each whose view has been changed has been told of the present one last, or some handler owes
it another message, which will be read from the store as it is now or later.
-/

namespace Refresh

variable {H R S V M Φ : Type*}

/-- What a recipient sees of a store, how it is told, and to whom a handler in a given phase
owes a message as long as the store stays as it is. -/
structure Protocol (R S V M Φ : Type*) where
  view : S → R → V
  shown : V → M
  owes : S → Φ → R → Prop

/-- `changed` is read by the specifications only: whose view a handler has changed. -/
structure State (H R S M Φ : Type*) where
  store : S
  handlers : H → Φ
  last : R → Option M
  changed : R → Prop

namespace State

variable [DecidableEq H] (s : State H R S M Φ)

/-- A handler goes on. -/
def advance (h : H) (φ : Φ) : State H R S M Φ :=
  { s with handlers := Function.update s.handlers h φ }

/-- A handler goes on by telling a recipient. -/
def tell [DecidableEq R] (h : H) (φ : Φ) (r : R) (m : M) : State H R S M Φ :=
  { s.advance h φ with last := Function.update s.last r (some m) }

/-- A handler goes on by changing the store. -/
def change (p : Protocol R S V M Φ) (h : H) (φ : Φ) (store : S) : State H R S M Φ :=
  { s.advance h φ with
    store
    changed := fun r => s.changed r ∨ p.view store r ≠ p.view s.store r }

theorem change_store (p : Protocol R S V M Φ) (h : H) (φ : Φ) :
    s.change p h φ s.store = s.advance h φ := by
  simp [change, advance]

end State

variable (p : Protocol R S V M Φ) (s : State H R S M Φ)

/-- Some handler owes the recipient a message. -/
def Owed (r : R) : Prop := ∃ h, p.owes s.store (s.handlers h) r

/-- The last message to the recipient is of its present view. -/
def Current (r : R) : Prop := s.last r = some (p.shown (p.view s.store r))

def Kept : Prop := ∀ r, s.changed r → Current p s r ∨ Owed p s r

variable {p s} [DecidableEq H] {h : H} {φ : Φ} {r : R}

theorem owed_advance (still : p.owes s.store (s.handlers h) r → p.owes s.store φ r)
    (owed : Owed p s r) : Owed p (s.advance h φ) r := by
  obtain ⟨h', owes⟩ := owed
  refine ⟨h', ?_⟩
  by_cases own : h' = h
  · subst own
    simpa [State.advance] using still owes
  · simpa [State.advance, own] using owes

theorem Kept.advance (kept : Kept p s)
    (still : ∀ r, p.owes s.store (s.handlers h) r → p.owes s.store φ r) :
    Kept p (s.advance h φ) :=
  fun r changed => (kept r changed).imp id (owed_advance (still r))

/-- A message may be out of date when it is sent, if its recipient is owed another one. -/
theorem Kept.tell [DecidableEq R] (kept : Kept p s) {m : M}
    (still : ∀ r' ≠ r, p.owes s.store (s.handlers h) r' → p.owes s.store φ r')
    (fresh : m = p.shown (p.view s.store r) ∨ Owed p (s.advance h φ) r) :
    Kept p (s.tell h φ r m) := by
  intro r' changed
  by_cases here : r' = r
  · subst here
    refine fresh.imp (fun same => ?_) id
    exact (Function.update_self _ _ _).trans (congrArg some same)
  · refine (kept r' changed).imp (fun current => ?_) (owed_advance (still r' here))
    exact (Function.update_of_ne here _ _).trans current

/-- Whoever changes the store sees to it that those whose view it changes are told, and the
promises to the others hold in the new store as well. -/
theorem Kept.change (kept : Kept p s) {store : S}
    (told : ∀ r, p.view store r ≠ p.view s.store r → Owed p (s.change p h φ store) r)
    (still : ∀ r, p.view store r = p.view s.store r → ∀ φ, p.owes s.store φ r → p.owes store φ r)
    (free : ∀ r, ¬ p.owes s.store (s.handlers h) r) : Kept p (s.change p h φ store) := by
  intro r changed
  by_cases same : p.view store r = p.view s.store r
  · have before : s.changed r := changed.resolve_right fun differs => differs same
    refine (kept r before).imp (fun current => ?_) fun ⟨h', owes⟩ => ⟨h', ?_⟩
    · exact current.trans (congrArg (fun v => some (p.shown v)) same.symm)
    · have other : h' ≠ h := by
        rintro rfl
        exact free r owes
      simpa [State.change, State.advance, other] using still r same _ owes
  · exact .inr (told r same)

omit [DecidableEq H] in
/-- Once no handler owes anything, everyone whose view was changed has been told of the
present one last. -/
theorem Kept.settled (kept : Kept p s) (idle : ∀ h, ¬ p.owes s.store (s.handlers h) r)
    (changed : s.changed r) : s.last r = some (p.shown (p.view s.store r)) :=
  (kept r changed).resolve_right fun ⟨h, owes⟩ => idle h owes

end Refresh
