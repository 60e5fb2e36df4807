import WorldZero.Character.Inventory
import WorldZero.Character.CraftingSchema
import WorldZero.Sql.Total

/-!
# Crafting

`craft_item`: one transaction that locks the inputs of a recipe, takes a snapshot of
their quantities, writes every remainder back from that snapshot, grants the output
and applies the stat grants.

A remainder is computed from the snapshot and not from the row, so of two inputs of
one item type only one is paid. The loader accepts such a recipe. `craftItem_exact_iff`
says that this is the only way in which a craft can be inexact.
-/

namespace WorldZero.Character

open Sql CraftingSchema

structure CraftOutcome where
  itemChanges : List (String × Int)
  statChanges : List (String × Int)
  deriving DecidableEq

/-! ### Stats of the crafting character -/

def getStat (store : CharacterStore) (c : CharacterId) (key : String) : StoreM Int := do
  let stats ← Program.fetchOne (RowKey.character c)
    (.wrap "character" "failed to read character stats")
  .ofExcept (store.schema.resolveRead stats key)

def getStatTx (store : CharacterStore) (c : CharacterId) (key : String) : StoreM Int := do
  let stats ← Program.fetchOneForUpdate (RowKey.character c)
    (.wrap "character" "failed to read character stats")
  .ofExcept (store.schema.resolveRead stats key)

def applyStatDeltaClampedTx (store : CharacterStore) (c : CharacterId) (key : String)
    (delta : Int) : StoreM Int := do
  let stats ← Program.fetchOneForUpdate (RowKey.character c)
    (.wrap "character" "failed to read character stats")
  let current ← .ofExcept (store.schema.resolveRead stats key)
  let newValue ← .ofExcept (store.schema.clamp key (I64.saturatingAdd current delta))
  let _ ← Program.executeUpdate (RowKey.character c)
    (fun stats : Stats => some (stats.insert key (.number newValue)))
    (.wrap "character" "failed to write stat")
  pure newValue

/-! ### The transaction -/

def requireStats (store : CharacterStore) (c : CharacterId) (recipe : Recipe) :
    List StatRequirement → StoreM Unit
  | [] => pure ()
  | req :: reqs => do
      let current ← getStat store c req.stat
      if current < req.min.toInt then .throw (.new "character"
        (s!"craft \"{recipe.key}\" requires {req.stat} to be at least {req.min}, " ++
          s!"character {c} is at {current}"))
      else requireStats store c recipe reqs

/-- Lock the inputs; the result is the snapshot of their quantities. -/
def lockInputs (c : CharacterId) (recipe : Recipe) : List CraftingInput → StoreM (List Int)
  | [] => pure []
  | input :: inputs => do
      let row ← Program.fetchOptionalForUpdate (RowKey.item c input.itemType)
        (.wrap "character" "failed to check craft input")
      let current := amount (.item c input.itemType) row
      if current < input.amount.toInt then .throw (.new "character"
        (s!"craft \"{recipe.key}\" requires {input.amount} of {debugStr input.itemType}, " ++
          s!"character {c} only has {current}"))
      else do
        let currents ← lockInputs c recipe inputs
        pure (current :: currents)

/-- Write back what each input leaves of its quantity in the snapshot. -/
def consumeInputs (c : CharacterId) :
    List (CraftingInput × Int) → StoreM (List (String × Int))
  | [] => pure []
  | (input, current) :: rest => do
      let remaining := I64.sub current input.amount.toInt
      let _ ← writeRemaining c input.itemType remaining
        (.wrap "character" "failed to consume craft input")
        (.wrap "character" "failed to consume craft input")
      let results ← consumeInputs c rest
      pure ((input.itemType, remaining) :: results)

/-- Whether a grant with a chance applies; `roll` is the next random outcome, and a
chance of 1 never misses. -/
def hits (chance : Option F64) (roll : Bool) : Bool :=
  match chance with
  | none => true
  | some p => p = .number 1 || roll

/-- The stat grants in order; `rolls n` is the outcome drawn for the grant in place
`n`. -/
def applyGrants (store : CharacterStore) (c : CharacterId) (rolls : Nat → Bool) :
    Nat → List StatGrant → StoreM (List (String × Int))
  | _, [] => pure []
  | n, grant :: grants => do
      let reached ← match grant.below with
        | none => pure false
        | some below => do
            let current ← getStatTx store c grant.stat
            pure (decide (below.toInt ≤ current))
      if reached || !hits grant.chance (rolls n) then applyGrants store c rolls (n + 1) grants
      else do
        let newValue ← applyStatDeltaClampedTx store c grant.stat grant.amount.toInt
        let changes ← applyGrants store c rolls (n + 1) grants
        pure ((grant.stat, newValue) :: changes)

/-- The statements of `craft_item`; the requirements are read before `BEGIN`. -/
def craftItem (store : CharacterStore) (c : CharacterId) (recipe : Recipe)
    (rolls : Nat → Bool) : StoreM CraftOutcome := do
  requireStats store c recipe recipe.requires
  let currents ← lockInputs c recipe recipe.inputs
  let output := recipe.output
  let owned ← Program.fetchOptionalForUpdate (RowKey.item c output.itemType)
    (.wrap "character" "failed to check craft output stack")
  requireStack store c owned.isSome fun distinctCount max => .new "character"
    (s!"inventory is full: {distinctCount} distinct item types already owned, " ++
      s!"limit is {max} (WZ_INVENTORY_MAX_ITEM_TYPES) — craft \"{recipe.key}\" would add a new stack")
  let results ← consumeInputs c (recipe.inputs.zip currents)
  let outputQuantity ← upsertItem c output.itemType output.amount.toInt
    (.wrap "character" "failed to grant craft output")
  let statChanges ← applyGrants store c rolls 0 recipe.grants
  pure { itemChanges := results ++ [(output.itemType, outputQuantity)], statChanges }

/-! ### What is taken for the inputs -/

/-- What the recipe declares to be consumed of an item type. -/
def required (inputs : List CraftingInput) (t : String) : Int :=
  (inputs.map fun input => if input.itemType = t then input.amount.toInt else 0).sum

/-- What the write-backs take of an item type: the amount of one of its inputs. -/
def Taken (inputs : List CraftingInput) (t : String) (n : Int) : Prop :=
  (∃ input ∈ inputs, input.itemType = t ∧ n = input.amount.toInt) ∨
    (∀ input ∈ inputs, input.itemType ≠ t) ∧ n = 0

def itemTypes (inputs : List CraftingInput) : List String := inputs.map CraftingInput.itemType

@[simp] theorem required_nil (t : String) : required [] t = 0 := rfl

@[simp] theorem required_cons (input : CraftingInput) (inputs : List CraftingInput) (t : String) :
    required (input :: inputs) t =
      (if input.itemType = t then input.amount.toInt else 0) + required inputs t := by
  simp [required]

theorem required_eq_zero {inputs : List CraftingInput} {t : String}
    (h : ∀ input ∈ inputs, input.itemType ≠ t) : required inputs t = 0 := by
  induction inputs with
  | nil => rfl
  | cons input inputs ih =>
      obtain ⟨here, rest⟩ := List.forall_mem_cons.mp h
      rw [required_cons, if_neg here, ih rest, Int.add_zero]

/-- With distinct item types exactly the declared amounts are taken. -/
theorem Taken.eq_required {inputs : List CraftingInput} {t : String} {n : Int}
    (distinct : (itemTypes inputs).Nodup) (h : Taken inputs t n) : n = required inputs t := by
  rcases h with ⟨input, hinput, rfl, rfl⟩ | ⟨none, rfl⟩
  · induction inputs with
    | nil => cases hinput
    | cons first inputs ih =>
        obtain ⟨fresh, distinct⟩ := List.nodup_cons.mp distinct
        rcases List.mem_cons.mp hinput with rfl | hinput
        · have others : ∀ other ∈ inputs, other.itemType ≠ input.itemType := fun other ho same =>
            fresh (List.mem_map.mpr ⟨other, ho, same⟩)
          simp [required_eq_zero others]
        · have apart : first.itemType ≠ input.itemType := fun same =>
            fresh (List.mem_map.mpr ⟨input, hinput, same.symm⟩)
          rw [required_cons, if_neg apart, Int.zero_add]
          exact ih distinct hinput
  · rw [required_eq_zero none]

theorem amount_pos {input : CraftingInput} (h : 0 < input.amount) : 0 < input.amount.toInt := by
  simpa using Int64.lt_iff_toInt_lt.mp h

theorem required_nonneg {inputs : List CraftingInput} (pos : ∀ input ∈ inputs, 0 < input.amount)
    (t : String) : 0 ≤ required inputs t := by
  induction inputs with
  | nil => simp
  | cons first inputs ih =>
      obtain ⟨here, rest⟩ := List.forall_mem_cons.mp pos
      have := ih rest
      have := amount_pos here
      rw [required_cons]
      split <;> omega

theorem le_required {inputs : List CraftingInput} (pos : ∀ input ∈ inputs, 0 < input.amount)
    {input : CraftingInput} (mem : input ∈ inputs) :
    input.amount.toInt ≤ required inputs input.itemType := by
  induction inputs with
  | nil => cases mem
  | cons first inputs ih =>
      obtain ⟨here, rest⟩ := List.forall_mem_cons.mp pos
      have := required_nonneg rest input.itemType
      have := amount_pos here
      rw [required_cons]
      rcases List.mem_cons.mp mem with rfl | mem
      · rw [if_pos rfl]
        omega
      · have := ih rest mem
        split <;> omega

/-- An item type that two inputs share is not fully paid for. -/
theorem exists_taken_lt {inputs : List CraftingInput} (pos : ∀ input ∈ inputs, 0 < input.amount)
    (repeated : ¬ (itemTypes inputs).Nodup) :
    ∃ t, ∀ n, Taken inputs t n → n < required inputs t := by
  induction inputs with
  | nil => exact absurd List.nodup_nil repeated
  | cons first inputs ih =>
      obtain ⟨here, rest⟩ := List.forall_mem_cons.mp pos
      have first_pos := amount_pos here
      by_cases again : first.itemType ∈ itemTypes inputs
      · -- The first input is repeated further on.
        obtain ⟨other, hother, same⟩ := List.mem_map.mp again
        have other_pos := amount_pos (rest other hother)
        have other_le := le_required rest hother
        rw [same] at other_le
        refine ⟨first.itemType, fun n taken => ?_⟩
        rw [required_cons, if_pos rfl]
        rcases taken with ⟨input, hinput, htype, rfl⟩ | ⟨none, rfl⟩
        · rcases List.mem_cons.mp hinput with rfl | hinput
          · omega
          · have := le_required rest hinput
            rw [htype] at this
            omega
        · omega
      · -- The repetition is among the other inputs.
        have tail : ¬ (itemTypes inputs).Nodup := fun h =>
          repeated (List.nodup_cons.mpr ⟨again, h⟩)
        obtain ⟨t, less⟩ := ih rest tail
        have fresh : first.itemType ≠ t := by
          rintro rfl
          have others : ∀ input ∈ inputs, input.itemType ≠ first.itemType := fun input h same =>
            again (List.mem_map.mpr ⟨input, h, same⟩)
          have := less 0 (.inr ⟨others, rfl⟩)
          rw [required_eq_zero others] at this
          omega
        refine ⟨t, fun n taken => ?_⟩
        rw [required_cons, if_neg fresh, Int.zero_add]
        refine less n (taken.imp ?_ fun none => ⟨(List.forall_mem_cons.mp none.1).2, none.2⟩)
        rintro ⟨input, hinput, htype, value⟩
        rcases List.mem_cons.mp hinput with rfl | hinput
        · exact absurd htype fresh
        · exact ⟨input, hinput, htype, value⟩

/-! ### What a craft that returns has changed -/

variable {store : CharacterStore} {c : CharacterId} {recipe : Recipe} {rolls : Nat → Bool}
  {F F₀ : Footprint Row}

theorem wp_getStat {key : String} {Q : Int → Footprint Row → Prop} (post : ∀ n, Q n F) :
    (getStat store c key).wp false Q F := by
  simp only [getStat, Program.bind_def, Program.wp_bind, Program.wp_fetchOne,
    Program.wp_ofExcept]
  exact fun _ _ _ _ n _ => post n

theorem wp_requireStats {reqs : List StatRequirement} {Q : Unit → Footprint Row → Prop}
    (post : Q () F) : (requireStats store c recipe reqs).wp false Q F := by
  induction reqs with
  | nil => exact post
  | cons req reqs ih =>
      simp only [requireStats, Program.bind_def, Program.wp_bind]
      refine wp_getStat fun n => ?_
      split
      · trivial
      · exact ih

/-- A call that has only locked rows sees them as they are committed. -/
def Untouched (F : Footprint Row) : Prop := ∀ k i, F k = some i → i.base = i.now

theorem Untouched.admits {k : RowKey} {i : Image (Row k)} (h : Untouched F)
    (hi : F.Admits k i) : i.base = i.now := by
  cases hF : F k with
  | none => exact (Footprint.admits_of_none hF).mp hi
  | some j =>
      obtain rfl := (Footprint.admits_of_some hF).mp hi
      exact h k i hF

theorem Untouched.hold {k : RowKey} {i : Image (Row k)} (h : Untouched F) (hi : F.Admits k i) :
    Untouched (F.hold k i) := by
  unfold Footprint.hold
  split
  · intro k' j hj
    by_cases same : k' = k
    · subst same
      rw [Footprint.set_self] at hj
      exact Option.some.inj hj ▸ h.admits hi
    · rw [Footprint.set_of_ne same] at hj
      exact h k' j hj
  · exact h

/-- Locking another row keeps what is known. -/
theorem hold_extends {k : RowKey} {i : Image (Row k)} (hi : F.Admits k i) :
    ∀ k' j, F k' = some j → F.hold k i k' = some j := by
  intro k' j hj
  unfold Footprint.hold
  split
  · by_cases same : k' = k
    · subst same
      rw [Footprint.set_self, (Footprint.admits_of_some hj).mp hi]
    · rwa [Footprint.set_of_ne same]
  · exact hj

/-- The snapshot of an input is the locked quantity of its row, and it suffices. -/
def Snapshot (c : CharacterId) (F : Footprint Row) (input : CraftingInput) (current : Int) :
    Prop :=
  ∃ i, F (.item c input.itemType) = some i ∧ amount (.item c input.itemType) i.now = current ∧
    input.amount.toInt ≤ current

theorem wp_lockInputs {inputs : List CraftingInput} {Q : List Int → Footprint Row → Prop}
    (pos : ∀ input ∈ inputs, 0 < input.amount) (untouched : Untouched F)
    (post : ∀ currents F', Untouched F' → (∀ k i, F k = some i → F' k = some i) →
      List.Forall₂ (Snapshot c F') inputs currents → Q currents F') :
    (lockInputs c recipe inputs).wp false Q F := by
  induction inputs generalizing F Q with
  | nil => exact post [] F untouched (fun _ _ => id) .nil
  | cons input inputs ih =>
      obtain ⟨here, rest⟩ := List.forall_mem_cons.mp pos
      simp only [lockInputs, Program.bind_def, Program.wp_bind,
        Program.wp_fetchOptionalForUpdate]
      intro i hi
      split
      · trivial
      next enough =>
        have owned : i.now.isSome := by
          cases hnow : i.now with
          | none =>
              have := amount_pos here
              rw [hnow, amount_none] at enough
              omega
          | some v => rfl
        have locked : F.hold (.item c input.itemType) i (.item c input.itemType) = some i := by
          simp [Footprint.hold, owned]
        simp only [Program.wp_bind]
        refine ih rest (untouched.hold hi) fun currents F' untouched' extends' snapshots => ?_
        refine post _ F' untouched' (fun k j hj => extends' k j (hold_extends hi k j hj)) ?_
        exact .cons ⟨i, extends' _ i locked, rfl, Int.not_lt.mp enough⟩ snapshots

/-- The row holds what this input leaves of the locked quantity. -/
def Remainder (c : CharacterId) (F₀ F : Footprint Row) (input : CraftingInput) : Prop :=
  ∃ j i, F₀ (.item c input.itemType) = some j ∧ F (.item c input.itemType) = some i ∧
    i.base = j.base ∧
    amount (.item c input.itemType) i.now =
      amount (.item c input.itemType) j.base - input.amount.toInt

/-- The inputs in `paid` have been written back since the rows were locked. -/
structure ConsumedBy (c : CharacterId) (F₀ F : Footprint Row) (paid : List CraftingInput) :
    Prop where
  frame : ∀ k, (∀ input ∈ paid, k ≠ .item c input.itemType) → F k = F₀ k
  remainder : ∀ t, (∃ input ∈ paid, input.itemType = t) →
    ∃ input ∈ paid, input.itemType = t ∧ Remainder c F₀ F input

theorem ConsumedBy.start (c : CharacterId) (F : Footprint Row) : ConsumedBy c F F [] :=
  ⟨fun _ _ => rfl, by simp⟩

/-- The row of an input whose snapshot has been taken. -/
theorem ConsumedBy.row {paid : List CraftingInput} (h : ConsumedBy c F₀ F paid)
    (untouched : Untouched F₀) {input : CraftingInput} {current : Int}
    (snapshot : Snapshot c F₀ input current) :
    ∃ j i, F₀ (.item c input.itemType) = some j ∧ F (.item c input.itemType) = some i ∧
      i.base = j.base ∧ amount (.item c input.itemType) j.base = current := by
  obtain ⟨j, hj, value, -⟩ := snapshot
  have base := untouched _ j hj
  by_cases seen : ∃ other ∈ paid, other.itemType = input.itemType
  · obtain ⟨other, -, same, j', i, hj', hi, hbase, -⟩ := h.remainder _ seen
    rw [same] at hj' hi hbase
    obtain rfl := Option.some.inj (hj.symm.trans hj')
    exact ⟨j, i, hj, hi, hbase, by rw [base, value]⟩
  · have kept := h.frame (.item c input.itemType) fun other ho same =>
      seen ⟨other, ho, (RowKey.item.inj same).2.symm⟩
    exact ⟨j, j, hj, kept.trans hj, rfl, by rw [base, value]⟩

/-- Writing a remainder back. -/
theorem ConsumedBy.write {paid : List CraftingInput} (h : ConsumedBy c F₀ F paid)
    {input : CraftingInput} {j i : Image (Row (.item c input.itemType))}
    (hj : F₀ (.item c input.itemType) = some j) (base : i.base = j.base)
    {row : Option (Row (.item c input.itemType))}
    (value : amount (.item c input.itemType) row =
      amount (.item c input.itemType) j.base - input.amount.toInt) :
    ConsumedBy c F₀ (F.set (.item c input.itemType) ⟨i.base, row⟩) (paid ++ [input]) := by
  refine ⟨fun k hk => ?_, fun t ht => ?_⟩
  · rw [Footprint.set_of_ne (hk input (by simp))]
    exact h.frame k fun other ho => hk other (List.mem_append_left _ ho)
  · by_cases same : input.itemType = t
    · exact ⟨input, by simp, same, j, _, hj, Footprint.set_self, base, value⟩
    · obtain ⟨other, ho, htype⟩ := ht
      have earlier : other ∈ paid := by
        rcases List.mem_append.mp ho with ho | ho
        · exact ho
        · obtain rfl := List.mem_singleton.mp ho
          exact absurd htype same
      obtain ⟨witness, hw, hwtype, j', i', hj', hi', rest⟩ := h.remainder t ⟨other, earlier, htype⟩
      refine ⟨witness, List.mem_append_left _ hw, hwtype, j', i', hj', ?_, rest⟩
      rwa [Footprint.set_of_ne]
      exact fun eq => same ((RowKey.item.inj eq).2.symm.trans hwtype)

/-- A row that an earlier input has emptied is not found again. -/
theorem ConsumedBy.skip {paid : List CraftingInput} (h : ConsumedBy c F₀ F paid)
    {input : CraftingInput} (seen : ∃ other ∈ paid, other.itemType = input.itemType) :
    ConsumedBy c F₀ F (paid ++ [input]) := by
  refine ⟨fun k hk => h.frame k fun other ho => hk other (List.mem_append_left _ ho),
    fun t ht => ?_⟩
  have earlier : ∃ other ∈ paid, other.itemType = t := by
    obtain ⟨other, ho, rfl⟩ := ht
    rcases List.mem_append.mp ho with ho | ho
    · exact ⟨other, ho, rfl⟩
    · obtain rfl := List.mem_singleton.mp ho
      exact seen
  obtain ⟨witness, hw, rest⟩ := h.remainder t earlier
  exact ⟨witness, List.mem_append_left _ hw, rest⟩

theorem wp_consumeInputs {inputs paid : List CraftingInput} {currents : List Int}
    {Q : List (String × Int) → Footprint Row → Prop}
    (pos : ∀ input ∈ inputs, 0 < input.amount) (untouched : Untouched F₀)
    (snapshots : List.Forall₂ (Snapshot c F₀) inputs currents) (consumed : ConsumedBy c F₀ F paid)
    (post : ∀ results F', ConsumedBy c F₀ F' (paid ++ inputs) → Q results F') :
    (consumeInputs c (inputs.zip currents)).wp false Q F := by
  induction snapshots generalizing F Q paid with
  | nil => exact post [] F (by simpa using consumed)
  | @cons input current inputs currents snapshot snapshots ih =>
      obtain ⟨here, rest⟩ := List.forall_mem_cons.mp pos
      obtain ⟨j, i, hj, hi, base, value⟩ := consumed.row untouched snapshot
      have enough : input.amount.toInt ≤ current := snapshot.choose_spec.2.2
      have fits : current ≤ I64.max := value ▸ amount_le_max _ _
      have positive := amount_pos here
      have exact : I64.sub current input.amount.toInt = current - input.amount.toInt := by
        rw [← value] at fits ⊢
        exact sub_amount _ positive (by omega)
      have next : ∀ F', ConsumedBy c F₀ F' (paid ++ [input]) →
          (consumeInputs c (inputs.zip currents)).wp false
            (fun results F'' =>
              Q ((input.itemType, I64.sub current input.amount.toInt) :: results) F'') F' := by
        intro F' consumed'
        refine ih rest consumed' fun results F'' done => post _ F'' ?_
        rwa [List.append_assoc] at done
      simp only [List.zip_cons_cons, consumeInputs, Program.bind_def, Program.wp_bind,
        Program.pure_def, Program.wp_pure]
      refine wp_writeRemaining hi (fun gone => next F (consumed.skip ?_)) fun row hrow =>
        next _ (consumed.write hj base ?_)
      · by_contra fresh
        have kept := consumed.frame (.item c input.itemType) fun other ho same =>
          fresh ⟨other, ho, (RowKey.item.inj same).2.symm⟩
        obtain rfl := Option.some.inj ((hi.symm.trans kept).trans hj)
        rw [untouched _ i hj, gone, amount_none] at value
        omega
      · rw [hrow, exact, value]

theorem wp_getStatTx {key : String} {Q : Int → Footprint Row → Prop}
    (post : ∀ n F', (∀ t, F'.change amount (.item c t) = F.change amount (.item c t)) → Q n F') :
    (getStatTx store c key).wp false Q F := by
  simp only [getStatTx, Program.bind_def, Program.wp_bind, Program.wp_fetchOneForUpdate,
    Program.wp_ofExcept]
  intro i _ v hv n _
  refine post n _ fun t => ?_
  simp [Footprint.hold, hv]

theorem wp_applyStatDeltaClampedTx {key : String} {delta : Int} {Q : Int → Footprint Row → Prop}
    (post : ∀ n F', (∀ t, F'.change amount (.item c t) = F.change amount (.item c t)) → Q n F') :
    (applyStatDeltaClampedTx store c key delta).wp false Q F := by
  simp only [applyStatDeltaClampedTx, Program.bind_def, Program.wp_bind,
    Program.wp_fetchOneForUpdate, Program.wp_ofExcept, Program.wp_executeUpdate,
    Program.pure_def, Program.wp_pure]
  intro i _ v hv current _ newValue _ j _
  have hold : F.hold (.character c) i = F.set (.character c) i := by simp [Footprint.hold, hv]
  rw [hold]
  cases j.now with
  | none => exact post newValue _ fun t => by simp
  | some w => exact fun w' _ => post newValue _ fun t => by simp

/-- The stat grants touch no item. -/
theorem wp_applyGrants {grants : List StatGrant} {n : Nat}
    {Q : List (String × Int) → Footprint Row → Prop}
    (post : ∀ changes F', (∀ t, F'.change amount (.item c t) = F.change amount (.item c t)) →
      Q changes F') : (applyGrants store c rolls n grants).wp false Q F := by
  induction grants generalizing n F Q with
  | nil => exact post [] F fun _ => rfl
  | cons grant grants ih =>
      have rest : ∀ (reached : Bool) (F' : Footprint Row),
          (∀ t, F'.change amount (.item c t) = F.change amount (.item c t)) →
          (if reached || !hits grant.chance (rolls n) then
            applyGrants store c rolls (n + 1) grants
          else do
            let newValue ← applyStatDeltaClampedTx store c grant.stat grant.amount.toInt
            let changes ← applyGrants store c rolls (n + 1) grants
            pure ((grant.stat, newValue) :: changes)).wp false Q F' := by
        intro reached F' same
        split
        · exact ih fun changes F'' same' => post changes F'' fun t => (same' t).trans (same t)
        · simp only [Program.bind_def, Program.wp_bind, Program.pure_def, Program.wp_pure]
          refine wp_applyStatDeltaClampedTx fun newValue F'' same' => ?_
          refine ih fun changes F₃ same'' => post _ F₃ fun t => ?_
          exact (same'' t).trans ((same' t).trans (same t))
      simp only [applyGrants, Program.bind_def]
      cases grant.below with
      | none => exact rest false F fun _ => rfl
      | some below =>
          simp only [Program.wp_bind, Program.pure_def, Program.wp_pure]
          exact wp_getStatTx fun current F' same => rest _ F' same

/-- The rows of the inputs have moved by what was taken, all other item rows not
at all. -/
theorem ConsumedBy.change {inputs : List CraftingInput} (h : ConsumedBy c F₀ F inputs)
    (untouched : Untouched F₀) (t : String) :
    ∃ n, Taken inputs t n ∧ F.change amount (.item c t) = -n := by
  by_cases paid : ∃ input ∈ inputs, input.itemType = t
  · obtain ⟨input, hinput, rfl, j, i, hj, hi, base, value⟩ := h.remainder t paid
    refine ⟨_, .inl ⟨input, hinput, rfl, rfl⟩, ?_⟩
    rw [change_eq ((Footprint.admits_of_some hi).mpr rfl), value, base]
    omega
  · have others : ∀ input ∈ inputs, input.itemType ≠ t :=
      fun input hi same => paid ⟨input, hi, same⟩
    refine ⟨0, .inr ⟨others, rfl⟩, ?_⟩
    have kept := h.frame (.item c t) fun input hi same =>
      others input hi (RowKey.item.inj same).2.symm
    unfold Footprint.change
    rw [kept]
    cases hj : F₀ (.item c t) with
    | none => rfl
    | some j => simp [untouched _ j hj]

/-- A craft that returns has moved each item by what was taken for the inputs and
by the output. -/
theorem wp_craftItem (pos : ∀ input ∈ recipe.inputs, 0 < input.amount) :
    (craftItem store c recipe rolls).wp false (fun _ F => ∀ t, ∃ n, Taken recipe.inputs t n ∧
      F.change amount (.item c t) =
        (if t = recipe.output.itemType then recipe.output.amount.toInt else 0) - n) .empty := by
  have untouched : Untouched .empty := by simp [Untouched, Footprint.empty]
  simp only [craftItem, Program.bind_def, Program.wp_bind, Program.wp_fetchOptionalForUpdate,
    Program.pure_def, Program.wp_pure]
  refine wp_requireStats (wp_lockInputs pos untouched fun currents F₁ untouched₁ _ snapshots => ?_)
  intro i hi
  refine wp_requireStack ?_
  have kept : List.Forall₂ (Snapshot c (F₁.hold (.item c recipe.output.itemType) i))
      recipe.inputs currents := by
    refine snapshots.imp fun input current snapshot => ?_
    obtain ⟨j, hj, rest⟩ := snapshot
    exact ⟨j, hold_extends hi _ j hj, rest⟩
  refine wp_consumeInputs pos (untouched₁.hold hi) kept (.start _ _) fun results F₂ consumed => ?_
  refine wp_upsertItem fun j hj row hrow => ?_
  refine wp_applyGrants fun changes F₃ same t => ?_
  obtain ⟨n, taken, change⟩ := consumed.change (untouched₁.hold hi) t
  refine ⟨n, by simpa using taken, ?_⟩
  rw [same, change_set hj, hrow, change]
  simp only [RowKey.item.injEq, true_and]
  split <;> omega

/-! ### Inventories for which a craft returns -/

/-- Everything that an accepted recipe needs: stats at the top of the range, and for
each input type the largest amount that an input of that type asks for. -/
structure Stocked (c : CharacterId) (recipe : Recipe) (inputs : List CraftingInput)
    (db : Tables) : Prop where
  stats : ∃ stats : Stats, db.lookup (.character c) = some stats ∧
    ∀ req ∈ recipe.requires, stats.lookup req.stat = some (.number I64.max)
  covers : ∀ input ∈ inputs, input.amount.toInt ≤ quantity db c input.itemType
  largest : ∀ input ∈ inputs, ∃ other ∈ inputs, other.itemType = input.itemType ∧
    other.amount.toInt = quantity db c input.itemType
  only : ∀ t, (∀ input ∈ inputs, input.itemType ≠ t) → db.lookup (.item c t) = none

theorem exists_stats (reqs : List StatRequirement) :
    ∃ stats : Stats, ∀ req ∈ reqs, stats.lookup req.stat = some (.number I64.max) := by
  induction reqs with
  | nil => exact ⟨∅, by simp⟩
  | cons req reqs ih =>
      obtain ⟨stats, h⟩ := ih
      refine ⟨stats.insert req.stat (.number I64.max), fun other ho => ?_⟩
      by_cases same : other.stat = req.stat
      · rw [same, Finmap.lookup_insert]
      · rw [Finmap.lookup_insert_of_ne _ same]
        exact h other ((List.mem_cons.mp ho).resolve_left fun eq => same (eq ▸ rfl))

theorem quantity_insert_self (db : Tables) (c : CharacterId) (t : String) (q : Quantity) :
    quantity (db.insert (.item c t) q) c t = q.value := by
  simp [quantity, amount]

theorem quantity_insert_of_ne (db : Tables) (c : CharacterId) {t t' : String} (h : t' ≠ t)
    (q : Quantity) : quantity (db.insert (.item c t) q) c t' = quantity db c t' := by
  rw [quantity, Finmap.lookup_insert_of_ne]
  · rfl
  · exact fun same => h (RowKey.item.inj same).2

theorem exists_stocked (c : CharacterId) (recipe : Recipe) {inputs : List CraftingInput}
    (pos : ∀ input ∈ inputs, 0 < input.amount) : ∃ db, Stocked c recipe inputs db := by
  induction inputs with
  | nil =>
      obtain ⟨stats, h⟩ := exists_stats recipe.requires
      refine ⟨(∅ : Tables).insert (.character c) stats, ⟨stats, Finmap.lookup_insert _, h⟩,
        by simp, by simp, fun t _ => ?_⟩
      rw [Finmap.lookup_insert_of_ne _ (by simp)]
      rfl
  | cons input inputs ih =>
      obtain ⟨here, rest⟩ := List.forall_mem_cons.mp pos
      obtain ⟨db, stats, covers, largest, only⟩ := ih rest
      by_cases enough : input.amount.toInt ≤ quantity db c input.itemType
      · -- A later input of this type asks for at least as much.
        have later : ∃ other ∈ inputs, other.itemType = input.itemType ∧
            other.amount.toInt = quantity db c input.itemType := by
          by_contra none
          have absent := only input.itemType fun other ho same => by
            obtain ⟨top, htop, htype, value⟩ := largest other ho
            exact none ⟨top, htop, htype.trans same, same ▸ value⟩
          have := amount_pos here
          rw [quantity, absent, amount_none] at enough
          omega
        refine ⟨db, stats, List.forall_mem_cons.mpr ⟨enough, covers⟩,
          List.forall_mem_cons.mpr ⟨?_, fun other ho => ?_⟩, fun t ht => ?_⟩
        · obtain ⟨top, htop, rest⟩ := later
          exact ⟨top, List.mem_cons_of_mem _ htop, rest⟩
        · obtain ⟨top, htop, rest⟩ := largest other ho
          exact ⟨top, List.mem_cons_of_mem _ htop, rest⟩
        · exact only t (List.forall_mem_cons.mp ht).2
      · -- This input asks for the most, so its amount is stored.
        have low : 1 ≤ input.amount.toInt := amount_pos here
        have high : input.amount.toInt ≤ I64.max := Int.le_of_lt_add_one input.amount.toInt_lt
        let q : Quantity := ⟨input.amount.toInt, low, high⟩
        refine ⟨db.insert (.item c input.itemType) q, ?_,
          List.forall_mem_cons.mpr ⟨?_, fun other ho => ?_⟩,
          List.forall_mem_cons.mpr ⟨⟨input, List.mem_cons_self, rfl, ?_⟩, fun other ho => ?_⟩,
          fun t ht => ?_⟩
        · obtain ⟨document, hdoc, h⟩ := stats
          exact ⟨document, by rwa [Finmap.lookup_insert_of_ne _ (by simp)], h⟩
        · rw [quantity_insert_self]
        · by_cases same : other.itemType = input.itemType
          · have := covers other ho
            rw [same] at this ⊢
            rw [quantity_insert_self]
            change other.amount.toInt ≤ input.amount.toInt
            omega
          · rw [quantity_insert_of_ne db c same]
            exact covers other ho
        · rw [quantity_insert_self]
        · by_cases same : other.itemType = input.itemType
          · rw [same, quantity_insert_self]
            exact ⟨input, List.mem_cons_self, rfl, rfl⟩
          · rw [quantity_insert_of_ne db c same]
            obtain ⟨top, htop, rest⟩ := largest other ho
            exact ⟨top, List.mem_cons_of_mem _ htop, rest⟩
        · obtain ⟨apart, others⟩ := List.forall_mem_cons.mp ht
          rw [Finmap.lookup_insert_of_ne _ fun eq => apart (RowKey.item.inj eq).2.symm]
          exact only t others

/-! ### Accepted recipes can be crafted -/

section
variable {t : Tables}

theorem returns_writeRemaining {itemType : String} {remaining : Int}
    {deleteFailure updateFailure : Error} {Q : Bool → Tables → Prop} (low : 0 ≤ remaining)
    (high : remaining ≤ I64.max)
    (post : ∀ found t', (∀ k, k ≠ .item c itemType → t'.lookup k = t.lookup k) →
      (t.lookup (.item c itemType) = none ∨ remaining = 0 →
        t'.lookup (.item c itemType) = none) → Q found t') :
    (writeRemaining c itemType remaining deleteFailure updateFailure).Returns t Q := by
  unfold writeRemaining
  cases hrow : t.lookup (.item c itemType) with
  | none =>
      have same := post false t (fun _ _ => rfl) fun _ => hrow
      split
      · exact .executeDelete_none hrow same
      · exact .executeUpdate_none hrow same
  | some v =>
      split
      next zero =>
        refine .executeDelete hrow (post true _ (fun k hk => Finmap.lookup_erase_ne hk) fun _ => ?_)
        exact Finmap.lookup_erase ..
      next nonzero =>
        have left : 1 ≤ remaining := by omega
        refine .executeUpdate hrow (Bounded.check_eq_some left high)
          (post true _ (fun k hk => Finmap.lookup_insert_of_ne t hk) fun gone => ?_)
        simp [hrow, nonzero] at gone

theorem returns_lockInputs {inputs : List CraftingInput} {Q : List Int → Tables → Prop}
    (covers : ∀ input ∈ inputs, input.amount.toInt ≤ quantity t c input.itemType)
    (post : Q (inputs.map fun input => quantity t c input.itemType) t) :
    (lockInputs c recipe inputs).Returns t Q := by
  induction inputs generalizing Q with
  | nil => exact .pure post
  | cons input inputs ih =>
      obtain ⟨here, rest⟩ := List.forall_mem_cons.mp covers
      have enough := Int.not_lt.mpr here
      simp only [quantity] at enough
      refine .bind (.fetchOptionalForUpdate ?_)
      simp only [enough, if_false]
      exact .bind (ih rest (.pure post))

theorem returns_requireStack {alreadyOwned : Bool} {full : Nat → Nat → Error}
    {Q : Unit → Tables → Prop}
    (room : (t.keys.filter fun k => RowKey.isItemOf c k).card <
      store.inventoryConfig.maxDistinctItemTypes) (post : Q () t) :
    (requireStack store c alreadyOwned full).Returns t Q := by
  unfold requireStack
  split
  · exact .pure post
  · refine .bind (.fetchCount ?_)
    rw [if_neg (Nat.not_le.mpr room)]
    exact .pure post

/-- All inputs are written back, and a row that is missing or asked for in full is
missing afterwards. -/
theorem returns_consumeInputs {inputs : List CraftingInput} {held : String → Int}
    {Q : List (String × Int) → Tables → Prop} (pos : ∀ input ∈ inputs, 0 < input.amount)
    (covers : ∀ input ∈ inputs, input.amount.toInt ≤ held input.itemType)
    (fits : ∀ itemType, held itemType ≤ I64.max)
    (post : ∀ results t', t'.lookup (.character c) = t.lookup (.character c) →
      (∀ itemType, t.lookup (.item c itemType) = none ∨
        (∃ input ∈ inputs, input.itemType = itemType ∧ input.amount.toInt = held itemType) →
          t'.lookup (.item c itemType) = none) → Q results t') :
    (consumeInputs c (inputs.zip (inputs.map fun input => held input.itemType))).Returns t Q := by
  induction inputs generalizing t Q with
  | nil =>
      refine .pure (post [] t rfl fun itemType gone => gone.resolve_right ?_)
      rintro ⟨input, hinput, -⟩
      cases hinput
  | cons input inputs ih =>
      obtain ⟨here, rest⟩ := List.forall_mem_cons.mp pos
      obtain ⟨enough, covers⟩ := List.forall_mem_cons.mp covers
      have positive := amount_pos here
      have high := fits input.itemType
      have exact : I64.sub (held input.itemType) input.amount.toInt =
          held input.itemType - input.amount.toInt := by
        refine I64.sub_eq ?_ (by omega)
        simp only [I64.min]
        omega
      rw [List.map_cons, List.zip_cons_cons, consumeInputs]
      refine .bind (returns_writeRemaining (by omega) (by omega) fun found t₁ same gone => ?_)
      refine .bind (ih rest covers fun results t₂ character gone' => .pure ?_)
      refine post _ t₂ (character.trans (same _ (by simp))) fun itemType h => ?_
      refine gone' itemType ?_
      by_cases this : itemType = input.itemType
      · subst this
        rcases h with absent | ⟨other, ho, htype, value⟩
        · exact .inl (gone (.inl absent))
        · rcases List.mem_cons.mp ho with rfl | ho
          · exact .inl (gone (.inr (by omega)))
          · exact .inr ⟨other, ho, htype, value⟩
      · rcases h with absent | ⟨other, ho, htype, value⟩
        · refine .inl ((same _ fun eq => this (RowKey.item.inj eq).2).trans absent)
        · rcases List.mem_cons.mp ho with rfl | ho
          · exact absurd htype.symm this
          · exact .inr ⟨other, ho, htype, value⟩

theorem returns_requireStats {reqs : List StatRequirement} {stats : Stats}
    {Q : Unit → Tables → Prop} (character : t.lookup (.character c) = some stats)
    (declared : ∀ req ∈ reqs, store.schema.declares req.stat = true)
    (top : ∀ req ∈ reqs, stats.lookup req.stat = some (.number I64.max)) (post : Q () t) :
    (requireStats store c recipe reqs).Returns t Q := by
  induction reqs with
  | nil => exact .pure post
  | cons req reqs ih =>
      obtain ⟨here, declared⟩ := List.forall_mem_cons.mp declared
      obtain ⟨stored, top⟩ := List.forall_mem_cons.mp top
      have read : store.schema.resolveRead stats req.stat = .ok I64.max :=
        AttributeSchema.resolveRead_stored here (by rw [stored]; rfl)
      have met : ¬ I64.max < req.min.toInt := by
        have := req.min.toInt_lt
        simp only [I64.max]
        omega
      refine .bind (.bind (.fetchOne character (.ofExcept read ?_)))
      rw [if_neg met]
      exact ih declared top

theorem returns_applyGrants {grants : List StatGrant} {n : Nat}
    (character : (t.lookup (.character c)).isSome)
    (declared : ∀ grant ∈ grants, store.schema.declares grant.stat = true) :
    (applyGrants store c rolls n grants).Returns t fun _ _ => True := by
  induction grants generalizing n t with
  | nil => exact .pure trivial
  | cons grant grants ih =>
      obtain ⟨here, declared⟩ := List.forall_mem_cons.mp declared
      obtain ⟨stats, hstats⟩ := Option.isSome_iff_exists.mp character
      obtain ⟨current, read⟩ := AttributeSchema.resolveRead_ok here stats
      obtain ⟨newValue, clamped⟩ :=
        AttributeSchema.clamp_ok here (I64.saturatingAdd current grant.amount.toInt)
      have rest : ∀ reached : Bool,
          (if reached || !hits grant.chance (rolls n) then
            applyGrants store c rolls (n + 1) grants
          else do
            let newValue ← applyStatDeltaClampedTx store c grant.stat grant.amount.toInt
            let changes ← applyGrants store c rolls (n + 1) grants
            pure ((grant.stat, newValue) :: changes)).Returns t fun _ _ => True := by
        intro reached
        split
        · exact ih character declared
        · refine .bind (.bind (.fetchOneForUpdate hstats (.bind (.ofExcept read
            (.bind (.ofExcept clamped (.bind (.executeUpdate hstats rfl (.pure ?_)))))))))
          refine .bind ((ih ?_ declared).mono fun _ _ _ => .pure trivial)
          rw [Finmap.lookup_insert]
          rfl
      rw [applyGrants]
      cases grant.below with
      | none => exact .bind (.pure (rest false))
      | some below =>
          exact .bind (.bind (.fetchOneForUpdate hstats (.ofExcept read (.bind (.pure (rest _))))))

/-- With room for one more stack, an accepted recipe can be crafted from an inventory
that is stocked for it. -/
theorem returns_craftItem (accepted : Accepted store.schema recipe)
    (stocked : Stocked c recipe recipe.inputs t)
    (room : (t.keys.filter fun k => RowKey.isItemOf c k).card <
      store.inventoryConfig.maxDistinctItemTypes) :
    (craftItem store c recipe rolls).Returns t fun _ _ => True := by
  obtain ⟨stats, hstats, top⟩ := stocked.stats
  refine .bind (returns_requireStats hstats accepted.requires_declared top ?_)
  refine .bind (returns_lockInputs stocked.covers ?_)
  refine .bind (.fetchOptionalForUpdate (.bind (returns_requireStack room ?_)))
  refine .bind (returns_consumeInputs accepted.inputs_pos stocked.covers
    (fun itemType => amount_le_max _ _) fun results t' character gone => ?_)
  have positive : 0 < recipe.output.amount.toInt := by
    simpa using Int64.lt_iff_toInt_lt.mp accepted.output_pos
  have low : 1 ≤ recipe.output.amount.toInt := by omega
  have high : recipe.output.amount.toInt ≤ I64.max :=
    Int.le_of_lt_add_one recipe.output.amount.toInt_lt
  have absent : t'.lookup (.item c recipe.output.itemType) = none := by
    refine gone _ ?_
    by_cases input : ∃ input ∈ recipe.inputs, input.itemType = recipe.output.itemType
    · obtain ⟨input, hinput, same⟩ := input
      obtain ⟨most, hmost, htype, value⟩ := stocked.largest input hinput
      exact .inr ⟨most, hmost, htype.trans same, same ▸ value⟩
    · exact .inl (stocked.only _ fun other ho same => input ⟨other, ho, same⟩)
  have parent : (t'.lookup (.character c)).isSome := by
    rw [character, hstats]
    rfl
  rw [upsertItem, Bounded.check_eq_some low high]
  refine .bind (.bind (.insert absent parent (.pure ?_)))
  refine .bind ((returns_applyGrants ?_ accepted.grants_declared).mono fun _ _ _ => .pure trivial)
  rw [Finmap.lookup_insert_of_ne _ (by simp)]
  exact parent

end

/-! ### Exactness -/

/-- A craft that runs alone is exact: on success it takes the declared amounts and
adds the output, on an error it changes nothing. -/
def CraftExact (store : CharacterStore) (c : CharacterId) (recipe : Recipe)
    (rolls : Nat → Bool) (db : Tables) : Prop :=
  match (craftItem store c recipe rolls).transaction db with
  | (.ok _, db') => ∀ t, quantity db' c t = quantity db c t - required recipe.inputs t +
      if t = recipe.output.itemType then recipe.output.amount.toInt else 0
  | (.error _, db') => db' = db

theorem quantity_craftItem {db db' : Tables} {outcome : CraftOutcome}
    (pos : ∀ input ∈ recipe.inputs, 0 < input.amount)
    (run : (craftItem store c recipe rolls).transaction db = (.ok outcome, db')) (t : String) :
    ∃ n, Taken recipe.inputs t n ∧ quantity db' c t = quantity db c t - n +
      if t = recipe.output.itemType then recipe.output.amount.toInt else 0 := by
  obtain ⟨F, change, holds⟩ := Program.wp_run (wp_craftItem pos) (Footprint.holds_empty db)
    (Program.transaction_ok.mp run)
  obtain ⟨n, taken, moved⟩ := change t
  refine ⟨n, taken, ?_⟩
  rw [quantity, holds.measure_eq amount, moved, quantity]
  omega

/-- The recipes of an accepted schema that craft exactly, from every inventory, are
those whose inputs have distinct item types. -/
theorem craftItem_exact_iff {attributeSchema : AttributeSchema} {knownItemTypes : KnownItemTypes}
    {display : F64 → String} {parse : String → Option CraftingSchema} {input : String}
    {schema : CraftingSchema} {recipe : Recipe}
    (loaded : fromYaml attributeSchema knownItemTypes display parse input = .ok schema)
    (mem : recipe ∈ schema.recipes) :
    (∀ config c rolls db, CraftExact ⟨attributeSchema, config⟩ c recipe rolls db) ↔
      (itemTypes recipe.inputs).Nodup := by
  have accepted := accepted_of_fromYaml loaded mem
  constructor
  · intro exact
    by_contra repeated
    obtain ⟨t, less⟩ := exists_taken_lt accepted.inputs_pos repeated
    let c : CharacterId := .fromUuid 0
    obtain ⟨db, stocked⟩ := exists_stocked c recipe accepted.inputs_pos
    let store : CharacterStore := ⟨attributeSchema,
      { maxDistinctItemTypes := (db.keys.filter fun k => RowKey.isItemOf c k).card + 1 }⟩
    have crafted : (craftItem store c recipe fun _ => true).Returns db fun _ _ => True :=
      returns_craftItem accepted stocked (Nat.lt_succ_self _)
    obtain ⟨outcome, db', run, -⟩ := crafted
    have committed := Program.transaction_ok.mpr run
    obtain ⟨n, taken, value⟩ := quantity_craftItem accepted.inputs_pos committed t
    have declared := exact store.inventoryConfig c (fun _ => true) db
    simp only [CraftExact] at declared
    rw [committed] at declared
    have := declared t
    have := less n taken
    omega
  · intro distinct config c rolls db
    unfold CraftExact
    rcases run : (craftItem ⟨attributeSchema, config⟩ c recipe rolls).transaction db with
      ⟨e | outcome, db'⟩
    · exact Program.transaction_error run
    · intro t
      obtain ⟨n, taken, value⟩ := quantity_craftItem accepted.inputs_pos run t
      rw [value, taken.eq_required distinct]

/-! ### A recipe that asks for one item type twice -/

namespace TwoFangs

def recipesYaml : String :=
  ("schema_version: 1\nrecipes:\n  - key: wolf-fang-dagger\n    category: blacksmithing\n" ++
    "    inputs:\n      - item_type: wolf-fang\n        amount: 2\n" ++
    "      - item_type: wolf-fang\n        amount: 3\n" ++
    "    output:\n      item_type: wolf-fang-dagger\n      amount: 1\n")

def dagger : Recipe where
  key := "wolf-fang-dagger"
  category := "blacksmithing"
  inputs := [⟨"wolf-fang", 2⟩, ⟨"wolf-fang", 3⟩]
  output := ⟨"wolf-fang-dagger", 1⟩

/-- The parser on the text above. -/
def parseRecipes (input : String) : Option CraftingSchema :=
  if input = recipesYaml then some ⟨1, [dagger]⟩ else none

def catalog : KnownItemTypes :=
  ((∅ : KnownItemTypes).insert "wolf-fang" ∅).insert "wolf-fang-dagger" {"craftable_output"}

def plainStore : CharacterStore := ⟨⟨1, []⟩, {}⟩

def hero : CharacterId := .fromUuid 1

def tenFangs : Tables :=
  ((∅ : Tables).insert (.character hero) ∅).insert (.item hero "wolf-fang")
    ⟨10, by decide, by decide⟩

theorem dagger_loaded : fromYaml plainStore.schema catalog (fun _ => "") parseRecipes recipesYaml =
    .ok ⟨1, [dagger]⟩ := by decide +kernel

/-- The loader accepts the recipe, which asks for five fangs and takes three of
ten. -/
theorem dagger_not_exact :
    ∃ schema, fromYaml plainStore.schema catalog (fun _ => "") parseRecipes recipesYaml =
        .ok schema ∧ dagger ∈ schema.recipes ∧
      ¬ CraftExact plainStore hero dagger (fun _ => true) tenFangs := by
  have left : (match (craftItem plainStore hero dagger fun _ => true).transaction tenFangs with
      | (.ok _, db') => quantity db' hero "wolf-fang"
      | (.error _, _) => 0) = 7 := by decide
  refine ⟨_, dagger_loaded, List.mem_singleton.mpr rfl, fun exact => ?_⟩
  unfold CraftExact at exact
  rcases run : (craftItem plainStore hero dagger fun _ => true).transaction tenFangs with
    ⟨e | outcome, db'⟩
  · simp [run] at left
  · rw [run] at exact
    simp only [run] at left
    have declared := exact "wolf-fang"
    have before : quantity tenFangs hero "wolf-fang" = 10 := by decide
    have asked : required dagger.inputs "wolf-fang" = 5 := by decide
    have other : ("wolf-fang" = dagger.output.itemType) = False := by decide
    rw [left, before, asked] at declared
    simp [other] at declared

/-- The loaded recipe is not exact for every inventory. -/
theorem craftItem_exact_iff_dagger :
    (∀ config c rolls db, CraftExact ⟨plainStore.schema, config⟩ c dagger rolls db) ↔
      (itemTypes dagger.inputs).Nodup :=
  craftItem_exact_iff dagger_loaded (List.mem_singleton.mpr rfl)

end TwoFangs

end WorldZero.Character
