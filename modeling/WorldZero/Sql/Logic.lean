import WorldZero.Sql.Program
import Mathlib.Logic.Function.Basic

/-!
# What a call knows about the rows that it may rely on

A `Footprint` records, for the rows that nobody else can change under a call, the
image that was committed when the call began to rely on the row (`base`) and the
image that the call sees now (`now`). All other rows are unknown to it, and the
weakest precondition `Program.wp` quantifies over their contents at every read.

A call relies on the rows that it has locked. With `watch` it also relies on the
rows that it has read by a plain `select`: such a call is only correct as long
as nobody overwrites what it has read, and `Sql.ReadCommitted` makes that a
condition on the schedule.

`wp_run` is the serial reading of the logic; the same preconditions give the
interleaved reading in `Sql.ReadCommitted`.
-/

namespace Sql

variable {K : Type} {V : K → Type} {ε α β : Type}

/-- The committed image that a call relies on and its own view of the row. -/
structure Image (R : Type) where
  base : Option R
  now : Option R

/-- The rows that a call may rely on. -/
def Footprint (V : K → Type) := ∀ k, Option (Image (V k))

namespace Footprint

def empty : Footprint V := fun _ => none

/-- The images that a row may have: the recorded one, or, for an unknown row,
any that the call has not changed. -/
def Admits (F : Footprint V) (k : K) (i : Image (V k)) : Prop :=
  match F k with
  | some j => i = j
  | none => i.base = i.now

/-- `F` describes a call whose reliance began on `base` and which now sees `view`. -/
def Holds [DecidableEq K] (F : Footprint V) (base view : Table V) : Prop :=
  ∀ k, F.Admits k ⟨base.lookup k, view.lookup k⟩

/-- What the call has done to the rows that it relies on, in a given measure. -/
def change (F : Footprint V) (measure : ∀ k, Option (V k) → Int) (k : K) : Int :=
  match F k with
  | some i => measure k i.now - measure k i.base
  | none => 0

variable {F : Footprint V} {k k' : K} {i j : Image (V k)}

theorem admits_of_some (h : F k = some j) : F.Admits k i ↔ i = j := by simp [Admits, h]

theorem admits_of_none (h : F k = none) : F.Admits k i ↔ i.base = i.now := by simp [Admits, h]

@[simp] theorem change_empty (measure : ∀ k, Option (V k) → Int) :
    (empty : Footprint V).change measure k = 0 := rfl

variable [DecidableEq K]

def set (F : Footprint V) (k : K) (i : Image (V k)) : Footprint V :=
  Function.update F k (some i)

/-- A lock is taken on rows that exist. -/
def hold (F : Footprint V) (k : K) (i : Image (V k)) : Footprint V :=
  if i.now.isSome then F.set k i else F

@[simp] theorem set_self : F.set k i k = some i := Function.update_self ..

@[simp] theorem set_of_ne (h : k' ≠ k) : F.set k i k' = F k' := Function.update_of_ne h ..

@[simp] theorem set_set : (F.set k i).set k j = F.set k j := Function.update_idem ..

/-- What a call relies on, it goes on relying on. -/
theorem set_keeps (h : F k' ≠ none) : F.set k i k' ≠ none := by
  by_cases hk : k' = k
  · subst hk
    simp
  · rwa [set_of_ne hk]

@[simp] theorem change_set_self (measure : ∀ k, Option (V k) → Int) :
    (F.set k i).change measure k = measure k i.now - measure k i.base := by simp [change]

@[simp] theorem change_set_of_ne (measure : ∀ k, Option (V k) → Int) (h : k' ≠ k) :
    (F.set k i).change measure k' = F.change measure k' := by simp [change, h]

theorem holds_empty (t : Table V) : (empty : Footprint V).Holds t t := fun _ => rfl

/-- The measure of a row moves by exactly the change recorded in the footprint. -/
theorem Holds.measure_eq {base view : Table V} (h : F.Holds base view)
    (measure : ∀ k, Option (V k) → Int) (k : K) :
    measure k (view.lookup k) = measure k (base.lookup k) + F.change measure k := by
  have hk := h k
  unfold change
  cases hF : F k with
  | none =>
      rw [admits_of_none hF] at hk
      simp only at hk
      rw [hk, Int.add_zero]
  | some i =>
      rw [admits_of_some hF] at hk
      subst hk
      simp only
      omega

theorem Holds.hold {base view : Table V} (h : F.Holds base view) (k : K) :
    (F.hold k ⟨base.lookup k, view.lookup k⟩).Holds base view := by
  unfold Footprint.hold
  split
  · intro k'
    by_cases hk : k' = k
    · subst hk
      exact (admits_of_some set_self).mpr rfl
    · have := h k'
      rwa [Admits, set_of_ne hk]
  · exact h

/-- Record the image that a statement of the call has just written. -/
theorem Holds.write {base view : Table V} (h : F.Holds base view) (k : K) (row : Option (V k)) :
    (F.set k ⟨base.lookup k, row⟩).Holds base (Write.apply ⟨k, row⟩ view) := by
  intro k'
  by_cases hk : k' = k
  · subst hk
    exact (admits_of_some set_self).mpr (by rw [Write.lookup_apply_self ⟨k', row⟩])
  · have := h k'
    rw [Write.lookup_apply_of_ne ⟨k, row⟩ view hk]
    rwa [Admits, set_of_ne hk]

end Footprint

variable [DecidableEq K]

/-- Weakest precondition of one statement: `Q` holds of the result and of the
updated footprint, whatever an unknown row contains. -/
def Stmt.wp (watch : Bool) : (s : Stmt V) → (s.Result → Footprint V → Prop) → Footprint V → Prop
  | .select k, Q, F => ∀ i, F.Admits k i → Q i.now (if watch then F.set k i else F)
  | .selectForUpdate k, Q, F => ∀ i, F.Admits k i → Q i.now (F.hold k i)
  | .count _, Q, F => ∀ n, Q n F
  | .update k f, Q, F => ∀ i, F.Admits k i →
      match i.now with
      | none => Q false F
      | some v => ∀ w, f v = some w → Q true (F.set k ⟨i.base, some w⟩)
  | .delete k, Q, F => ∀ i, F.Admits k i →
      match i.now with
      | none => Q false F
      | some _ => Q true (F.set k ⟨i.base, none⟩)
  | .upsert k _ row merge, Q, F => ∀ i, F.Admits k i → ∀ excluded, row = some excluded →
      ∀ w, i.now.elim (some excluded) (merge · excluded) = some w →
        Q w (F.set k ⟨i.base, some w⟩)

namespace Program

/-- Weakest precondition of a call. An error is always allowed: a transaction
then leaves no trace. -/
def wp (watch : Bool) : Program V ε α → (α → Footprint V → Prop) → Footprint V → Prop
  | .pure a, Q, F => Q a F
  | .throw _, _, _ => True
  | .statement s _ next, Q, F => s.wp watch (fun r F' => (next r).wp watch Q F') F

variable {watch : Bool} {Q Q' : α → Footprint V → Prop} {F : Footprint V}

@[simp] theorem wp_pure (a : α) : (Program.pure a : Program V ε α).wp watch Q F ↔ Q a F := Iff.rfl

@[simp] theorem wp_throw (e : ε) : (Program.throw e : Program V ε α).wp watch Q F ↔ True :=
  Iff.rfl

theorem wp_statement (s : Stmt V) (failure : ε) (next : s.Result → Program V ε α) :
    (Program.statement s failure next).wp watch Q F ↔
      s.wp watch (fun r F' => (next r).wp watch Q F') F := by
  rw [wp]

end Program

theorem Stmt.wp_mono {watch : Bool} {s : Stmt V} {Q Q' : s.Result → Footprint V → Prop}
    {F : Footprint V} (h : s.wp watch Q F) (imp : ∀ r F', Q r F' → Q' r F') :
    s.wp watch Q' F := by
  cases s with
  | select k => exact fun i hi => imp _ _ (h i hi)
  | selectForUpdate k => exact fun i hi => imp _ _ (h i hi)
  | count rows => exact fun n => imp _ _ (h n)
  | update k f =>
      intro i hi
      have := h i hi
      split at this
      · exact imp _ _ this
      · exact fun w hw => imp _ _ (this w hw)
  | delete k =>
      intro i hi
      have := h i hi
      split at this <;> exact imp _ _ this
  | upsert k references row merge =>
      exact fun i hi excluded hrow w hw => imp _ _ (h i hi excluded hrow w hw)

namespace Program

variable {watch : Bool} {Q Q' : α → Footprint V → Prop} {F : Footprint V}

theorem wp_mono {p : Program V ε α} (h : p.wp watch Q F) (imp : ∀ a F', Q a F' → Q' a F') :
    p.wp watch Q' F := by
  induction p generalizing F with
  | pure a => exact imp a F h
  | throw e => trivial
  | statement s failure next ih =>
      rw [wp_statement] at h ⊢
      exact Stmt.wp_mono h fun r F' => ih r

/-- Calls compose: the precondition of a sequence is the precondition of its head
with the precondition of the rest as its postcondition. -/
theorem wp_bind {p : Program V ε α} {f : α → Program V ε β} {R : β → Footprint V → Prop} :
    (p.bind f).wp watch R F ↔ p.wp watch (fun a F' => (f a).wp watch R F') F := by
  induction p generalizing F with
  | pure a => rfl
  | throw e => rfl
  | statement s failure next ih =>
      simp only [statement_bind, wp_statement, ih]

@[simp] theorem wp_fetchOptional {k : K} {failure : ε} {Q : Option (V k) → Footprint V → Prop} :
    (fetchOptional k failure).wp watch Q F ↔
      ∀ i, F.Admits k i → Q i.now (if watch then F.set k i else F) := Iff.rfl

@[simp] theorem wp_fetchOptionalForUpdate {k : K} {failure : ε}
    {Q : Option (V k) → Footprint V → Prop} :
    (fetchOptionalForUpdate k failure).wp watch Q F ↔
      ∀ i, F.Admits k i → Q i.now (F.hold k i) := Iff.rfl

@[simp] theorem wp_fetchCount {rows : K → Bool} {failure : ε} {Q : Nat → Footprint V → Prop} :
    (fetchCount rows failure).wp watch Q F ↔ ∀ n, Q n F := Iff.rfl

@[simp] theorem wp_executeUpdate {k : K} {f : V k → Option (V k)} {failure : ε}
    {Q : Bool → Footprint V → Prop} :
    (executeUpdate k f failure).wp watch Q F ↔ ∀ i, F.Admits k i →
      match i.now with
      | none => Q false F
      | some v => ∀ w, f v = some w → Q true (F.set k ⟨i.base, some w⟩) := Iff.rfl

@[simp] theorem wp_executeDelete {k : K} {failure : ε} {Q : Bool → Footprint V → Prop} :
    (executeDelete k failure).wp watch Q F ↔ ∀ i, F.Admits k i →
      match i.now with
      | none => Q false F
      | some _ => Q true (F.set k ⟨i.base, none⟩) := Iff.rfl

@[simp] theorem wp_fetchUpsert {k : K} {references : Option K} {row : Option (V k)}
    {merge : V k → V k → Option (V k)} {failure : ε} {Q : V k → Footprint V → Prop} :
    (fetchUpsert k references row merge failure).wp watch Q F ↔
      ∀ i, F.Admits k i → ∀ excluded, row = some excluded →
        ∀ w, i.now.elim (some excluded) (merge · excluded) = some w →
          Q w (F.set k ⟨i.base, some w⟩) :=
  Iff.rfl

@[simp] theorem wp_fetchOne {k : K} {failure : ε} {Q : V k → Footprint V → Prop} :
    (fetchOne k failure).wp watch Q F ↔ ∀ i, F.Admits k i → ∀ v, i.now = some v →
      Q v (if watch then F.set k i else F) := by
  change (∀ i, F.Admits k i → (Option.elim i.now (Program.throw failure) Program.pure).wp watch Q
    (if watch then F.set k i else F)) ↔ _
  refine forall_congr' fun i => imp_congr_right fun _ => ?_
  cases i.now <;> simp

@[simp] theorem wp_fetchOneForUpdate {k : K} {failure : ε} {Q : V k → Footprint V → Prop} :
    (fetchOneForUpdate k failure).wp watch Q F ↔ ∀ i, F.Admits k i → ∀ v, i.now = some v →
      Q v (F.hold k i) := by
  change (∀ i, F.Admits k i → (Option.elim i.now (Program.throw failure) Program.pure).wp watch Q
    (F.hold k i)) ↔ _
  refine forall_congr' fun i => imp_congr_right fun _ => ?_
  cases i.now <;> simp

@[simp] theorem wp_ofExcept {r : Except ε α} {Q : α → Footprint V → Prop} :
    (ofExcept r).wp watch Q F ↔ ∀ a, r = .ok a → Q a F := by
  cases r <;> simp [ofExcept]

end Program

/-- The rows that a statement may come to rely on are among those that it locks,
or, when it watches its reads, the one that it selects. -/
theorem Stmt.wp_exec {watch : Bool} {s : Stmt V} {Q : s.Result → Footprint V → Prop}
    {F : Footprint V} {base view : Table V} {o : Outcome V s.Result}
    (h : s.wp watch Q F) (holds : F.Holds base view) (exec : s.exec view = some o) :
    ∃ F' : Footprint V, Q o.result F' ∧ F'.Holds base (applyAll o.writes view) ∧
      (∀ k, F' k ≠ none → F k ≠ none ∨ k ∈ o.locks ∨ (watch = true ∧ s = .select k)) ∧
      (∀ w ∈ o.writes, w.1 ∈ o.locks ∧ F' w.1 ≠ none) ∧ (∀ k, F k ≠ none → F' k ≠ none) := by
  have grows : ∀ (F : Footprint V) (k : K) (i : Image (V k)) (k' : K),
      F.set k i k' ≠ none → F k' ≠ none ∨ k' = k := by
    intro F k i k' hne
    by_cases hk : k' = k
    · exact .inr hk
    · exact .inl (by rwa [Footprint.set_of_ne hk] at hne)
  -- A written row is recorded with its new image and locked.
  have written : ∀ (k : K) (row : Option (V k)) (r : s.Result),
      Q r (F.set k ⟨base.lookup k, row⟩) →
      o = { result := r, writes := [⟨k, row⟩], locks := [k] } →
      ∃ F' : Footprint V, Q o.result F' ∧ F'.Holds base (applyAll o.writes view) ∧
        (∀ k, F' k ≠ none → F k ≠ none ∨ k ∈ o.locks ∨ (watch = true ∧ s = .select k)) ∧
        (∀ w ∈ o.writes, w.1 ∈ o.locks ∧ F' w.1 ≠ none) ∧ (∀ k, F k ≠ none → F' k ≠ none) := by
    rintro k row r post rfl
    refine ⟨_, post, holds.write k row, ?_, by simp, fun _ => Footprint.set_keeps⟩
    intro k' hk'
    exact (grows F k _ k' hk').imp_right fun h => .inl (by simp [h])
  -- A statement that returns without touching a row leaves the footprint alone.
  have unchanged : ∀ r : s.Result, Q r F → o = { result := r } →
      ∃ F' : Footprint V, Q o.result F' ∧ F'.Holds base (applyAll o.writes view) ∧
        (∀ k, F' k ≠ none → F k ≠ none ∨ k ∈ o.locks ∨ (watch = true ∧ s = .select k)) ∧
        (∀ w ∈ o.writes, w.1 ∈ o.locks ∧ F' w.1 ≠ none) ∧ (∀ k, F k ≠ none → F' k ≠ none) := by
    rintro r post rfl
    exact ⟨F, post, holds, fun _ => .inl, by simp, fun _ => id⟩
  cases s with
  | select k =>
      obtain rfl : _ = o := Option.some.inj exec
      have post := h _ (holds k)
      cases watch with
      | false => exact unchanged _ post rfl
      | true =>
          refine ⟨_, post, ?_, ?_, by simp, fun _ => Footprint.set_keeps⟩
          · intro k'
            by_cases hk : k' = k
            · subst hk
              exact (Footprint.admits_of_some Footprint.set_self).mpr rfl
            · have := holds k'
              rwa [Footprint.Admits, if_pos rfl, Footprint.set_of_ne hk]
          · intro k' hk'
            exact (grows F k _ k' hk').imp_right fun h => .inr ⟨rfl, by rw [h]⟩
  | selectForUpdate k =>
      have post := h _ (holds k)
      simp only [Stmt.exec] at exec
      cases hrow : view.lookup k with
      | none =>
          simp only [hrow, Footprint.hold] at exec post
          exact unchanged _ post (Option.some.inj exec).symm
      | some v =>
          simp only [hrow] at exec
          obtain rfl : _ = o := Option.some.inj exec
          have held := holds.hold k
          simp only [hrow, Footprint.hold, Option.isSome_some, if_true] at post held
          refine ⟨_, post, held, ?_, by simp, fun _ => Footprint.set_keeps⟩
          intro k' hk'
          exact (grows F k _ k' hk').imp_right fun h => .inl (by simp [h])
  | count rows => exact unchanged _ (h _) (Option.some.inj exec).symm
  | update k f =>
      have post := h _ (holds k)
      simp only [Stmt.exec] at exec
      cases hrow : view.lookup k with
      | none =>
          simp only [hrow] at exec post
          exact unchanged _ post (Option.some.inj exec).symm
      | some v =>
          simp only [hrow, Option.map_eq_some_iff] at exec post
          obtain ⟨w, hw, rfl⟩ := exec
          exact written k (some w) true (post w hw) rfl
  | delete k =>
      have post := h _ (holds k)
      simp only [Stmt.exec] at exec
      cases hrow : view.lookup k with
      | none =>
          simp only [hrow] at exec post
          exact unchanged _ post (Option.some.inj exec).symm
      | some v =>
          simp only [hrow] at exec post
          exact written k none true post (Option.some.inj exec).symm
  | upsert k references row merge =>
      obtain ⟨w, image, result⟩ := Option.map_eq_some_iff.mp exec
      obtain ⟨excluded, hrow, hw⟩ := Option.bind_eq_some_iff.mp image
      refine written k (some w) w (h _ (holds k) excluded hrow w ?_) result.symm
      cases hview : view.lookup k with
      | none =>
          simp only [hview] at hw
          simp only [Option.elim_none]
          split at hw
          · exact hw
          · cases hw
      | some v => simpa [hview] using hw

/-- The serial reading: a call that runs alone and returns ends with a footprint
that its postcondition describes and that the final tables match. -/
theorem Program.wp_run {watch : Bool} {p : Program V ε α} {Q : α → Footprint V → Prop}
    {F : Footprint V} {base view final : Table V} {a : α}
    (h : p.wp watch Q F) (holds : F.Holds base view) (run : p.run view = (.ok a, final)) :
    ∃ F', Q a F' ∧ F'.Holds base final := by
  induction p generalizing F view with
  | pure b =>
      obtain ⟨rfl, rfl⟩ : b = a ∧ view = final := by simpa using run
      exact ⟨F, h, holds⟩
  | throw e => simp at run
  | statement s failure next ih =>
      rw [wp_statement] at h
      rw [run_statement] at run
      cases hexec : s.exec view with
      | none => simp [hexec] at run
      | some o =>
          simp only [hexec] at run
          obtain ⟨F', post, holds', -⟩ := Stmt.wp_exec h holds hexec
          exact ih o.result post holds' run

end Sql
