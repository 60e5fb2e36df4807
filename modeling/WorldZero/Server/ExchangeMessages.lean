import WorldZero.Server.InventoryMessages

/-!
# What a client is told about a craft or a trade

The changes that `craft_item` and `execute_trade` report, once their transactions are committed.
A craft computes what its inputs leave from one snapshot: an input that takes the whole stack
deletes the row, and a later input of the same item type, which takes less, is reported with a
remainder that nobody has.
-/

namespace WorldZero.Server.InventoryView

open Sql Character CraftingSchema

variable {store : CharacterStore} {c : CharacterId} {s : EquipState} {t t' : Tables}
  {itemType key : String} {recipe : Recipe} {f : Field} {inputs : List CraftingInput}

/-- The character with these tables. -/
abbrev withTables (s : EquipState) (tables : Tables) : EquipState := { s with tables }

/-! ### The inputs of a craft -/

/-- The input that decides what is reported of an item type. -/
def lastInput (inputs : List CraftingInput) (itemType : String) : Option CraftingInput :=
  (inputs.filter fun input => input.itemType = itemType).getLast?

/-- What an input leaves of the stack in the snapshot. -/
def remainder (held : String → Int) (input : CraftingInput) : Int :=
  I64.sub (held input.itemType) input.amount.toInt

/-- No input takes a whole stack of which a later input is to leave something, unless the output
is granted to it. -/
def Settles (recipe : Recipe) (held : String → Int) : Prop :=
  ∀ input ∈ recipe.inputs, input.itemType ≠ recipe.output.itemType →
    input.amount.toInt = held input.itemType →
      ∀ last ∈ lastInput recipe.inputs input.itemType, last.amount.toInt = held input.itemType

instance (recipe : Recipe) (held : String → Int) : Decidable (Settles recipe held) :=
  inferInstanceAs (Decidable (∀ input ∈ recipe.inputs, _ → _ → _))

theorem remainder_eq_zero {held : String → Int} {input : CraftingInput}
    (low : 0 ≤ held input.itemType) (high : held input.itemType ≤ I64.max) :
    remainder held input = 0 ↔ input.amount.toInt = held input.itemType := by
  have lower := input.amount.le_toInt
  have upper := input.amount.toInt_lt
  simp only [I64.max] at high
  unfold remainder I64.sub
  rw [← Int.dvd_iff_bmod_eq_zero]
  constructor
  · rintro ⟨n, multiple⟩
    omega
  · intro same
    exact ⟨0, by omega⟩

@[simp] theorem lastInput_nil : lastInput [] itemType = none := rfl

theorem lastInput_cons {input : CraftingInput} :
    lastInput (input :: inputs) itemType =
      (lastInput inputs itemType).or (if input.itemType = itemType then some input else none) := by
  by_cases same : input.itemType = itemType
  · simp only [lastInput, List.filter_cons, same, decide_true, if_true, List.getLast?_cons]
    cases (inputs.filter fun input => input.itemType = itemType).getLast? <;> rfl
  · simp [lastInput, same]

theorem lastInput_eq_some {input : CraftingInput} (h : lastInput inputs itemType = some input) :
    input ∈ inputs ∧ input.itemType = itemType := by
  simpa using List.mem_filter.mp (List.mem_of_getLast? h)

/-- The snapshot of a lock that succeeds; every input can be paid from it. -/
theorem leads_lockInputs :
    (lockInputs c recipe inputs).Leads (fun r t' => t' = t ∧ ∀ currents, r = .ok currents →
      inputs.zip currents = inputs.map (fun input => (input, quantity t c input.itemType)) ∧
        ∀ input ∈ inputs, input.amount.toInt ≤ quantity t c input.itemType) t := by
  refine .and (reading_lockInputs.unchanged t) ?_
  induction inputs with
  | nil =>
      rintro currents ⟨⟩
      exact ⟨rfl, by simp⟩
  | cons input inputs ih =>
      refine .bind (leads_fetchOptionalForUpdate (by rintro _ ⟨⟩) ?_)
      show Program.Leads _ (if _ then _ else _) t
      split
      · rintro _ ⟨⟩
      next enough =>
      refine .bind (ih.mono fun r t' locked => ?_)
      cases r with
      | error e => rintro _ ⟨⟩
      | ok currents =>
          rintro all ⟨⟩
          obtain ⟨snapshot, payable⟩ := locked currents rfl
          refine ⟨?_, List.forall_mem_cons.mpr ⟨Int.not_lt.mp enough, payable⟩⟩
          simp only [List.zip_cons_cons, List.map_cons, snapshot]
          rfl

theorem frame_writeRemaining {remaining : Int} {deleteFailure updateFailure : Error} :
    (writeRemaining c itemType remaining deleteFailure updateFailure).Writes
      (· = .item c itemType) := by
  unfold writeRemaining
  split
  all_goals
    refine ⟨?_, fun _ => trivial⟩
    rintro k ⟨⟩
    rfl

/-- A stack of which something is left is written if its row is there; a stack that is used up,
or whose row is not there, has no row then. -/
theorem leads_writeRemaining_row {remaining : Int} {deleteFailure updateFailure : Error} :
    (writeRemaining c itemType remaining deleteFailure updateFailure).Leads (fun r t' => ∀ b,
      r = .ok b →
        (remaining = 0 ∨ t.lookup (.item c itemType) = none) ∧
            t'.lookup (.item c itemType) = none ∨
          quantity t' c itemType = remaining ∧ t'.lookup (.item c itemType) ≠ none) t := by
  unfold writeRemaining
  split
  next zero =>
    refine ⟨by rintro _ ⟨⟩, fun o exec => ⟨by rintro _ ⟨⟩, ?_⟩⟩
    rintro b ⟨⟩
    simp only [Stmt.exec] at exec
    split at exec
    next absent =>
      cases exec
      exact .inl ⟨.inl zero, absent⟩
    · cases exec
      exact .inl ⟨.inl zero, Finmap.lookup_erase _ t⟩
  next some_left =>
    refine .executeUpdate (by rintro _ ⟨⟩) (fun absent => ?_)
      fun v w row written => ⟨by rintro _ ⟨⟩, ?_⟩
    · rintro b ⟨⟩
      exact .inl ⟨.inr absent, absent⟩
    · rintro b ⟨⟩
      have there := Finmap.lookup_insert (b := w) t
      refine .inr ⟨?_, by rw [there]; simp⟩
      exact (congrArg (amount (.item c itemType)) there).trans (Bounded.value_of_check written)

/-- The write-backs leave of an item type what is reported last, if they settle it. -/
theorem leads_consumeInputs {held : String → Int}
    (settled : ∀ last ∈ lastInput inputs itemType,
      (t.lookup (.item c itemType) = none → remainder held last = 0) ∧
        ∀ input ∈ inputs, input.itemType = itemType → remainder held input = 0 →
          remainder held last = 0) :
    (consumeInputs c (inputs.map fun input => (input, held input.itemType))).Leads (fun r t' =>
      ∀ results, r = .ok results → quantity t' c itemType =
        (lastInput inputs itemType).elim (quantity t c itemType) (remainder held)) t := by
  induction inputs generalizing t with
  | nil =>
      rintro results ⟨⟩
      rfl
  | cons input inputs ih =>
      rw [lastInput_cons] at settled ⊢
      have later : ∀ last ∈ lastInput inputs itemType,
          last ∈ (lastInput inputs itemType).or
            (if input.itemType = itemType then some input else none) := by
        intro last here
        rw [Option.mem_def] at here ⊢
        rw [here, Option.some_or]
      refine .bind ((leads_writeRemaining_row.and (frame_writeRemaining.frame t)).mono ?_)
      rintro r t₁ ⟨written, others⟩
      cases r with
      | error e => exact nofun
      | ok b =>
      by_cases own : input.itemType = itemType
      · subst own
        rw [if_pos rfl] at settled later ⊢
        have row := written b rfl
        refine .bind ((ih fun last here => ?_).mono fun r t₂ rest => ?_)
        · obtain ⟨absent, used_up⟩ := settled last (later last here)
          refine ⟨fun gone => ?_, fun input' there => used_up input' (.tail _ there)⟩
          obtain ⟨zero | before, -⟩ | ⟨-, present⟩ := row
          · exact used_up input (.head _) rfl zero
          · exact absent before
          · exact absurd gone present
        · cases r with
          | error e => exact nofun
          | ok results =>
          rintro all ⟨⟩
          rw [rest results rfl]
          cases last : lastInput inputs input.itemType with
          | some last => rfl
          | none =>
              rw [last, Option.none_or] at settled
              obtain ⟨absent, -⟩ := settled input rfl
              show quantity t₁ c input.itemType = remainder held input
              obtain ⟨zero | before, gone⟩ | ⟨value, -⟩ := row
              · rw [quantity, gone, amount_none]
                exact zero.symm
              · rw [quantity, gone, amount_none, absent before]
              · exact value
      · rw [if_neg own, Option.or_none] at settled later ⊢
        have same : t₁.lookup (.item c itemType) = t.lookup (.item c itemType) :=
          others _ fun equal => own (RowKey.item.inj equal).2.symm
        refine .bind ((ih fun last here => ?_).mono fun r t₂ rest => ?_)
        · obtain ⟨absent, used_up⟩ := settled last here
          exact ⟨same ▸ absent, fun input' there => used_up input' (.tail _ there)⟩
        · cases r with
          | error e => exact nofun
          | ok results =>
          rintro all ⟨⟩
          rw [rest results rfl, quantity, quantity, same]

/-- What is reported of the inputs. -/
def reported (held : String → Int) (inputs : List CraftingInput) : List (String × Int) :=
  inputs.map fun input => (input.itemType, remainder held input)

theorem consumeInputs_yields {held : String → Int} :
    (consumeInputs c (inputs.map fun input => (input, held input.itemType))).Yields
      (· = reported held inputs) := by
  induction inputs with
  | nil => exact rfl
  | cons input inputs ih =>
      refine .bind .trivial fun _ _ => .bind ih fun results same => ?_
      subst same
      exact rfl

theorem lastSent_reported {held : String → Int} :
    lastSent (itemMessages (reported held inputs)) (.item itemType) =
      (lastInput inputs itemType).map fun input => .number (remainder held input) := by
  induction inputs with
  | nil => rfl
  | cons input inputs ih =>
      have told : itemMessages (reported held (input :: inputs)) =
          .itemChanged input.itemType (remainder held input) ::
            itemMessages (reported held inputs) := rfl
      rw [told, lastSent_cons, ih, lastInput_cons]
      cases lastInput inputs itemType with
      | some last => rfl
      | none =>
          by_cases own : input.itemType = itemType <;>
            simp [own, Message.field, Message.value]

/-! ### The output and the grants -/

/-- The bounds of a stat are `i64` values. -/
def I64Bounds (schema : AttributeSchema) : Prop :=
  ∀ decl ∈ schema.stats, (∀ m ∈ decl.min, I64.fits m = true) ∧ ∀ m ∈ decl.max, I64.fits m = true

theorem fits_clamp {value n : Int} (bounds : I64Bounds store.schema)
    (fits : I64.fits value = true) (clamped : store.schema.clamp key value = .ok n) :
    store.schema.declares key = true ∧ I64.fits n = true := by
  cases found : store.schema.declaration key with
  | error e => simp [AttributeSchema.clamp, found, bind, Except.bind] at clamped
  | ok decl =>
      refine ⟨AttributeSchema.declares_iff.mpr ⟨decl, found⟩, ?_⟩
      have declared : decl ∈ store.schema.stats := by
        unfold AttributeSchema.declaration at found
        split at found
        next decl' here =>
          cases found
          exact List.mem_of_find?_eq_some here
        · cases found
      obtain ⟨min_fits, max_fits⟩ := bounds decl declared
      simp only [AttributeSchema.clamp, found, bind, Except.bind, Except.ok.injEq] at clamped
      subst clamped
      simp only [I64.fits, I64.min, I64.max, Bool.and_eq_true] at *
      cases lower : decl.min <;> cases upper : decl.max <;>
        simp_all only [Option.mem_def, Option.elim] <;> grind

theorem fits_saturatingAdd (a b : Int) : I64.fits (I64.saturatingAdd a b) = true := by
  simp only [I64.fits, I64.saturatingAdd, I64.min, I64.max, Bool.and_eq_true]
  grind

theorem leads_applyStatDeltaClampedTx {delta : Int} (bounds : I64Bounds store.schema) :
    (applyStatDeltaClampedTx store c key delta).Leads (fun r t' => ∀ n, r = .ok n →
      StatSet store c key n t t') t := by
  refine .bind (.fetchOneForUpdate nofun fun stats row => ?_)
  refine .bind (.ofExcept ?_)
  cases store.schema.resolveRead stats key with
  | error e => exact nofun
  | ok current =>
  refine .bind (.ofExcept ?_)
  cases clamped : store.schema.clamp key (I64.saturatingAdd current delta) with
  | error e => exact nofun
  | ok newValue =>
  obtain ⟨declared, fits⟩ := fits_clamp bounds (fits_saturatingAdd current delta) clamped
  refine .bind (.executeUpdate nofun (fun absent => ?_) fun stats' w row' set => ⟨nofun, ?_⟩)
  · rw [row] at absent
    cases absent
  · obtain rfl := Option.some.inj (row.symm.trans row')
    obtain rfl := Option.some.inj set
    rintro n ⟨⟩
    exact ⟨stats, row, AttributeSchema.resolveRead_stored declared (by simp [Json.asI64, fits]),
      Finmap.lookup_insert t⟩

theorem applyStatDeltaClampedTx_writes {delta : Int} :
    (applyStatDeltaClampedTx store c key delta).Writes (· = .character c) := by
  refine .bind (reading_fetchOneForUpdate.mono nofun) fun stats =>
    .bind (reading_ofExcept.mono nofun) fun current =>
    .bind (reading_ofExcept.mono nofun) fun newValue =>
      .bind ⟨?_, fun _ => trivial⟩ fun _ => trivial
  rintro k ⟨⟩
  rfl

theorem leads_applyGrants {rolls : ℕ → Bool} {n : ℕ} {grants : List StatGrant}
    (bounds : I64Bounds store.schema) :
    (applyGrants store c rolls n grants).Leads (fun r t' => ∀ changes, r = .ok changes →
      Faithful store c (withTables s t) (withTables s t') (statMessages changes)) t := by
  induction grants generalizing n t with
  | nil =>
      rintro changes ⟨⟩
      exact .refl fun _ => rfl
  | cons grant grants ih =>
      have rest : ∀ reached : Bool, (if reached || !hits grant.chance (rolls n) then
            applyGrants store c rolls (n + 1) grants
          else do
            let newValue ← applyStatDeltaClampedTx store c grant.stat grant.amount.toInt
            let changes ← applyGrants store c rolls (n + 1) grants
            pure ((grant.stat, newValue) :: changes)).Leads (fun r t' => ∀ changes,
              r = .ok changes → Faithful store c (withTables s t) (withTables s t')
                (statMessages changes)) t := by
        intro reached
        split
        · exact ih
        refine .bind (((leads_applyStatDeltaClampedTx bounds).and
          (applyStatDeltaClampedTx_writes.frame t)).mono ?_)
        rintro r t₁ ⟨returned, others⟩
        cases r with
        | error e => rintro _ ⟨⟩
        | ok newValue =>
        obtain ⟨stats, before, read, here⟩ := returned newValue rfl
        have first : Faithful store c (withTables s t) (withTables s t₁)
            [.statChanged grant.stat newValue] := .stat read before here others
        refine .bind (ih.mono fun r t₂ rest => ?_)
        cases r with
        | error e => rintro _ ⟨⟩
        | ok changes =>
        rintro all ⟨⟩
        exact first.trans (rest changes rfl)
      rw [applyGrants]
      cases grant.below with
      | none => exact rest false
      | some below =>
          have reading : Reading (getStatTx store c grant.stat) :=
            .bind reading_fetchOneForUpdate fun _ => reading_ofExcept
          refine .bind ((reading.unchanged t).mono fun r t₁ same => ?_)
          subst same
          cases r with
          | error e => rintro _ ⟨⟩
          | ok current => exact rest (below.toInt ≤ current)

/-! ### The whole craft -/

/-- What the handler sends for a craft. -/
def craftMessages (outcome : CraftOutcome) : List Message :=
  itemMessages outcome.itemChanges ++ statMessages outcome.statChanges

/-- The write-backs touch the stacks of the character only. -/
theorem consumeInputs_writes {snapshot : List (CraftingInput × Int)} :
    (consumeInputs c snapshot).Writes fun k => ∃ itemType, k = .item c itemType := by
  induction snapshot with
  | nil => trivial
  | cons paid snapshot ih =>
      exact .bind (frame_writeRemaining.mono fun k own => ⟨_, own⟩) fun b =>
        .bind ih fun results => trivial

/-- The write-backs leave of every item type but the output what is reported last. -/
theorem leads_consumeInputs_reported (pos : ∀ input ∈ recipe.inputs, 0 < input.amount)
    (payable : ∀ input ∈ recipe.inputs, input.amount.toInt ≤ quantity t c input.itemType)
    (settles : Settles recipe (quantity t c)) (other : itemType ≠ recipe.output.itemType) :
    (consumeInputs c (recipe.inputs.map fun input =>
      (input, quantity t c input.itemType))).Leads (fun r t' => ∀ results, r = .ok results →
        quantity t' c itemType = (lastInput recipe.inputs itemType).elim (quantity t c itemType)
          (remainder (quantity t c))) t := by
  have settled_iff {input : CraftingInput} := @remainder_eq_zero (quantity t c) input
    (amount_nonneg (.item c input.itemType) _) (amount_le_max (.item c input.itemType) _)
  refine leads_consumeInputs fun last here => ?_
  obtain ⟨mem, rfl⟩ := lastInput_eq_some here
  refine ⟨fun absent => ?_, fun input there same used_up => ?_⟩
  · have owed := amount_pos (pos last mem)
    have paid := payable last mem
    rw [quantity, absent, amount_none] at paid
    omega
  · rw [← same] at here other
    have whole := settles input there other (settled_iff.mp used_up) last here
    exact settled_iff.mpr (same ▸ whole)

theorem upsertItem_writes {q : Int} {failure : Error} :
    (upsertItem c itemType q failure).Writes (· = .item c itemType) := by
  refine .bind ⟨?_, fun _ => trivial⟩ fun _ => trivial
  rintro k ⟨⟩
  rfl

/-- Messages about stacks, when nothing else has changed. -/
theorem Faithful.items {tables : Tables} {changes : List (String × Int)}
    (kept : ∀ k, (∀ itemType, k ≠ .item c itemType) → tables.lookup k = s.tables.lookup k)
    (told : ∀ itemType, some (Value.number (quantity tables c itemType)) =
      (lastSent (itemMessages changes) (.item itemType)).or
        (some (.number (quantity s.tables c itemType)))) :
    Faithful store c s (withTables s tables) (itemMessages changes) := by
  intro f
  cases f with
  | item itemType => exact told itemType
  | currency | stat | slot =>
      rw [lastSent_itemMessages (by simp), Option.none_or]
      refine stored_congr (fun k row => kept k fun itemType same => ?_) rfl
      subst same
      cases row

theorem leads_craftItem {rolls : ℕ → Bool} (bounds : I64Bounds store.schema)
    (pos : ∀ input ∈ recipe.inputs, 0 < input.amount) (settles : Settles recipe (quantity t c)) :
    (craftItem store c recipe rolls).Leads (fun r t' => ∀ outcome, r = .ok outcome →
      Faithful store c (withTables s t) (withTables s t') (craftMessages outcome)) t := by
  refine .bind ((reading_requireStats.unchanged t).mono ?_)
  rintro r t₀ rfl
  cases r with
  | error e => exact nofun
  | ok u =>
  refine .bind (leads_lockInputs.mono ?_)
  rintro r t₁ ⟨rfl, locked⟩
  cases r with
  | error e => exact nofun
  | ok currents =>
  obtain ⟨snapshot, payable⟩ := locked currents rfl
  refine .bind (leads_fetchOptionalForUpdate nofun ?_)
  refine .bind ((leads_requireStack recipe.output.itemType fun owned =>
    Finmap.lookup_isSome.mp owned).mono ?_)
  rintro r t₂ ⟨rfl, -⟩
  cases r with
  | error e => exact nofun
  | ok u =>
  show Program.Leads _ ((consumeInputs c (recipe.inputs.zip currents)).bind _) _
  rw [snapshot]
  refine .bind (((consumeInputs_yields.leads t₂).and ((consumeInputs_writes.frame t₂).and
    (.forall fun itemType => .forall fun other : itemType ≠ recipe.output.itemType =>
      leads_consumeInputs_reported pos payable settles other))).mono ?_)
  rintro r t₃ ⟨yielded, kept, consumed⟩
  cases r with
  | error e => exact nofun
  | ok results =>
  cases yielded results rfl
  refine .bind ((leads_upsertItem_returned.and (upsertItem_writes.frame t₃)).mono ?_)
  rintro r t₄ ⟨granted, others⟩
  cases r with
  | error e => exact nofun
  | ok outputQuantity =>
  refine .bind ((leads_applyGrants (s := s) bounds).mono fun r t₅ told => ?_)
  cases r with
  | error e => exact nofun
  | ok statChanges =>
  rintro outcome ⟨⟩
  have items : Faithful store c (withTables s t₂) (withTables s t₄)
      (itemMessages (reported (quantity t₂ c) recipe.inputs ++
        [(recipe.output.itemType, outputQuantity)])) := by
    refine .items (fun k other => ?_) fun itemType => ?_
    · rw [others k (other _), kept k fun ⟨itemType, own⟩ => other itemType own]
    · have message : itemMessages (reported (quantity t₂ c) recipe.inputs ++
          [(recipe.output.itemType, outputQuantity)]) =
          itemMessages (reported (quantity t₂ c) recipe.inputs) ++
            [.itemChanged recipe.output.itemType outputQuantity] := by simp [itemMessages]
      rw [message, lastSent_append, lastSent_singleton, lastSent_reported]
      by_cases own : itemType = recipe.output.itemType
      · subst own
        simp [granted outputQuantity rfl, Message.field, Message.value]
      · have same : quantity t₄ c itemType = quantity t₃ c itemType := by
          rw [quantity, quantity, others _ fun equal => own (RowKey.item.inj equal).2]
        rw [same, consumed itemType own _ rfl]
        have apart : recipe.output.itemType ≠ itemType := fun equal => own equal.symm
        cases lastInput recipe.inputs itemType <;> simp [Message.field, apart]
  exact items.trans (told statChanges rfl)

/-! ### A trade -/

/-- The holdings of every key of the offer are reported. -/
def Covers (changes : Changes) (entries : List (String × Int)) : Prop :=
  ∀ key, changes.lookup key = none → ∀ e ∈ entries, e.1 ≠ key

/-- A loop over an offer reports its keys, and those that were reported before. -/
def Extends (changes : Changes) (entries : List (String × Int)) (changes' : Changes) : Prop :=
  Covers changes' entries ∧ ∀ key, changes'.lookup key = none → changes.lookup key = none

theorem Extends.refl {changes : Changes} : Extends changes [] changes := ⟨nofun, fun _ => id⟩

theorem Extends.cons {changes changes' : Changes} {entries : List (String × Int)} {n m : Int}
    (rest : Extends (changes.insert key m) entries changes') :
    Extends changes ((key, n) :: entries) changes' := by
  have before : ∀ key', changes'.lookup key' = none → key' ≠ key ∧ changes.lookup key' = none := by
    intro key' absent
    have inserted := rest.2 key' absent
    by_cases same : key' = key
    · rw [same, Finmap.lookup_insert] at inserted
      cases inserted
    · exact ⟨same, by rwa [Finmap.lookup_insert_of_ne _ same] at inserted⟩
  exact ⟨fun key' absent =>
      List.forall_mem_cons.mpr ⟨(before key' absent).1.symm, rest.1 key' absent⟩,
    fun key' absent => (before key' absent).2⟩

theorem Extends.trans {changes changes' changes'' : Changes} {entries : List (String × Int)}
    {entries' : List (String × Int)} (first : Extends changes entries changes')
    (second : Extends changes' entries' changes'') :
    Covers changes'' entries ∧ Covers changes'' entries' :=
  ⟨fun key absent => first.1 key (second.2 key absent), second.1⟩

variable {offer : List (String × Int)} {changes : Changes}

theorem consumeItems_yields : (consumeItems c offer changes).Yields (Extends changes offer) := by
  induction offer generalizing changes with
  | nil => exact .refl
  | cons entry offer ih =>
      exact .bind .trivial fun row _ => .bind .trivial fun b _ => ih.mono fun _ => .cons

theorem grantItems_yields : (grantItems store c offer changes).Yields (Extends changes offer) := by
  induction offer generalizing changes with
  | nil => exact .refl
  | cons entry offer ih =>
      exact .bind .trivial fun row _ => .bind .trivial fun u _ => .bind .trivial fun n _ =>
        ih.mono fun _ => .cons

theorem consumeCurrency_yields :
    (consumeCurrency c offer changes).Yields (Extends changes offer) := by
  induction offer generalizing changes with
  | nil => exact .refl
  | cons entry offer ih =>
      exact .bind .trivial fun row _ => .bind .trivial fun b _ => ih.mono fun _ => .cons

theorem grantCurrency_yields : (grantCurrency c offer changes).Yields (Extends changes offer) := by
  induction offer generalizing changes with
  | nil => exact .refl
  | cons entry offer ih => exact .bind .trivial fun row _ => ih.mono fun _ => .cons

/-- One side is told of everything that it has given or received. -/
def CoversSide (side : TradeSideResult) (given received : TradeOfferInput) : Prop :=
  (Covers side.itemChanges given.items ∧ Covers side.itemChanges received.items) ∧
    Covers side.currencyChanges given.currency ∧ Covers side.currencyChanges received.currency

variable {a b : CharacterId} {offerA offerB : TradeOfferInput}

theorem executeTrade_yields : (executeTrade store a offerA b offerB).Yields fun result =>
    CoversSide result.a offerA offerB ∧ CoversSide result.b offerB offerA :=
  .bind .trivial fun _ _ => .bind .trivial fun _ _ => .bind .trivial fun _ _ =>
    .bind .trivial fun _ _ => .bind consumeItems_yields fun _ aItems =>
    .bind consumeItems_yields fun _ bItems => .bind consumeCurrency_yields fun _ aCurrency =>
    .bind consumeCurrency_yields fun _ bCurrency => .bind grantItems_yields fun _ bGranted =>
    .bind grantItems_yields fun _ aGranted => .bind grantCurrency_yields fun _ bPaid =>
    .bind grantCurrency_yields fun _ aPaid =>
      ⟨⟨aItems.trans aGranted, aCurrency.trans aPaid⟩, bItems.trans bGranted, bCurrency.trans bPaid⟩

/-- The rows that a trade may write. -/
def Holding (d : CharacterId) (k : RowKey) : Prop :=
  (∃ itemType, k = .item d itemType) ∨ ∃ key, k = .currency d key

theorem consumeItems_writes : (consumeItems c offer changes).Writes (Holding c) := by
  induction offer generalizing changes with
  | nil => trivial
  | cons entry offer ih =>
      exact .bind (reading_fetchOne.mono nofun) fun row =>
        .bind (frame_writeRemaining.mono fun k own => .inl ⟨_, own⟩) fun b => ih

theorem grantItems_writes : (grantItems store c offer changes).Writes (Holding c) := by
  induction offer generalizing changes with
  | nil => trivial
  | cons entry offer ih =>
      exact .bind (reading_fetchOptional.mono nofun) fun row => .bind requireStack_writes fun u =>
        .bind (upsertItem_writes.mono fun k own => .inl ⟨_, own⟩) fun n => ih

theorem consumeCurrency_writes : (consumeCurrency c offer changes).Writes (Holding c) := by
  induction offer generalizing changes with
  | nil => trivial
  | cons entry offer ih =>
      refine .bind (reading_fetchOne.mono nofun) fun row => .bind ⟨?_, fun _ => trivial⟩ fun b => ih
      rintro k ⟨⟩
      exact .inr ⟨_, rfl⟩

theorem grantCurrency_writes : (grantCurrency c offer changes).Writes (Holding c) := by
  induction offer generalizing changes with
  | nil => trivial
  | cons entry offer ih =>
      refine .bind ⟨?_, fun _ => trivial⟩ fun row => ih
      rintro k ⟨⟩
      exact .inr ⟨_, rfl⟩

theorem executeTrade_writes :
    (executeTrade store a offerA b offerB).Writes fun k => Holding a k ∨ Holding b k := by
  have positive : ∀ offer, (requirePositiveOffer offer).Writes _ := fun offer =>
    .bind reading_requirePositive fun _ => reading_requirePositive
  have lock : ∀ c offer, (lockOffer c offer).Writes _ := fun c offer =>
    .bind reading_lockEntries fun _ => reading_lockEntries
  exact .bind ((positive offerA).mono nofun) fun _ => .bind ((positive offerB).mono nofun) fun _ =>
    .bind ((lock a offerA).mono nofun) fun _ => .bind ((lock b offerB).mono nofun) fun _ =>
    .bind (consumeItems_writes.mono fun _ => .inl) fun _ =>
    .bind (consumeItems_writes.mono fun _ => .inr) fun _ =>
    .bind (consumeCurrency_writes.mono fun _ => .inl) fun _ =>
    .bind (consumeCurrency_writes.mono fun _ => .inr) fun _ =>
    .bind (grantItems_writes.mono fun _ => .inr) fun _ =>
    .bind (grantItems_writes.mono fun _ => .inl) fun _ =>
    .bind (grantCurrency_writes.mono fun _ => .inr) fun _ =>
    .bind (grantCurrency_writes.mono fun _ => .inl) fun _ => trivial

/-- A list of the entries of a hash map, in the order in which it is iterated. -/
def Lists (changes : Changes) (listed : List (String × Int)) : Prop :=
  changes.entries = ↑(listed.map fun e => (⟨e.1, e.2⟩ : Sigma fun _ : String => Int))

instance (changes : Changes) (listed : List (String × Int)) : Decidable (Lists changes listed) :=
  inferInstanceAs (Decidable (_ = _))

/-- The two lists that one side is sent. -/
structure Listing where
  itemChanges : List (String × Int)
  currencyChanges : List (String × Int)
  deriving DecidableEq

def Listing.Of (listing : Listing) (side : TradeSideResult) : Prop :=
  Lists side.itemChanges listing.itemChanges ∧
    Lists side.currencyChanges listing.currencyChanges

instance (listing : Listing) (side : TradeSideResult) : Decidable (listing.Of side) :=
  inferInstanceAs (Decidable (_ ∧ _))

/-- What one side of a trade is sent before `TradeCompleted`. -/
def tradeMessages (listing : Listing) : List Message :=
  itemMessages listing.itemChanges ++ currencyMessages listing.currencyChanges

theorem Lists.mem_iff {listed : List (String × Int)} (lists : Lists changes listed) {n : Int} :
    (key, n) ∈ listed ↔ changes.lookup key = some n := by
  rw [Finmap.lookup_eq_some_iff, show changes.entries = _ from lists, Multiset.mem_coe,
    List.mem_map]
  constructor
  · exact fun there => ⟨_, there, rfl⟩
  · rintro ⟨⟨key', n'⟩, there, ⟨⟩⟩
    exact there

/-- Of the entries of a hash map there is one for each key. -/
theorem Lists.lastSent_eq {listed : List (String × Int)} (lists : Lists changes listed)
    {tell : String × Int → Message} {about : String → Field} (apart : Function.Injective about)
    (field : ∀ e, (tell e).field = about e.1) (value : ∀ e, (tell e).value = .number e.2) :
    lastSent (listed.map tell) (about key) = (changes.lookup key).map .number := by
  cases row : changes.lookup key with
  | none =>
      refine lastSent_eq_none fun m here => ?_
      obtain ⟨e, there, rfl⟩ := List.mem_map.mp here
      rw [field]
      intro same
      rw [← apart same, lists.mem_iff.mp there] at row
      cases row
  | some n =>
      have sent := List.mem_map_of_mem (f := tell) (lists.mem_iff.mpr row)
      refine lastSent_eq_some ⟨tell (key, n), sent, field _⟩ ?_
      intro m here same
      obtain ⟨e, there, rfl⟩ := List.mem_map.mp here
      rw [field] at same
      rw [← apart same, lists.mem_iff.mp there] at row
      rw [value, Option.some.inj row]

theorem Listing.lastSent_item {listing : Listing} {side : TradeSideResult} (of : listing.Of side) :
    lastSent (tradeMessages listing) (.item key) = (side.itemChanges.lookup key).map .number := by
  have currency : lastSent (currencyMessages listing.currencyChanges) (.item key) = none :=
    lastSent_eq_none fun m here => by
      obtain ⟨e, -, rfl⟩ := List.mem_map.mp here
      nofun
  rw [tradeMessages, lastSent_append, currency, Option.none_or]
  exact of.1.lastSent_eq (fun _ _ => Field.item.inj) (fun _ => rfl) fun _ => rfl

theorem Listing.lastSent_currency {listing : Listing} {side : TradeSideResult}
    (of : listing.Of side) : lastSent (tradeMessages listing) (.currency key) =
      (side.currencyChanges.lookup key).map .number := by
  rw [tradeMessages, lastSent_append, lastSent_itemMessages (by simp), Option.or_none]
  exact of.2.lastSent_eq (fun _ _ => Field.currency.inj) (fun _ => rfl) fun _ => rfl

theorem total_eq_zero {entries : List (String × Int)} (none : ∀ e ∈ entries, e.1 ≠ key) :
    total entries key = 0 := by
  refine List.sum_eq_zero fun n here => ?_
  obtain ⟨e, there, rfl⟩ := List.mem_map.mp here
  exact if_neg (none e there)

/-- A holding that is not reported has not changed. -/
theorem told_of_exact {given received : List (String × Int)} {before after : Int}
    (covers : Covers changes given ∧ Covers changes received)
    (exact : after = before - total given key + total received key)
    (reported : ∀ n, changes.lookup key = some n → after = n) :
    some (Value.number after) =
      ((changes.lookup key).map Value.number).or (some (.number before)) := by
  cases row : changes.lookup key with
  | some n => rw [reported n row]; rfl
  | none =>
      rw [exact, total_eq_zero (covers.1 key row), total_eq_zero (covers.2 key row)]
      simp

theorem Faithful.side {given received : TradeOfferInput} {side : TradeSideResult}
    {listing : Listing} (exact : ExactSide t t' c given received side)
    (covers : CoversSide side given received) (of : listing.Of side)
    (kept : t'.lookup (.character c) = t.lookup (.character c)) :
    Faithful store c (withTables s t) (withTables s t') (tradeMessages listing) := by
  have others : ∀ f : Field, (∀ key, f ≠ .item key) → (∀ key, f ≠ .currency key) →
      lastSent (tradeMessages listing) f = none := by
    intro f item currency
    refine lastSent_eq_none fun m here => ?_
    obtain here | here := List.mem_append.mp here
    · obtain ⟨e, -, rfl⟩ := List.mem_map.mp here
      exact (item e.1).symm
    · obtain ⟨e, -, rfl⟩ := List.mem_map.mp here
      exact (currency e.1).symm
  intro f
  cases f with
  | item itemType =>
      rw [Listing.lastSent_item of]
      exact told_of_exact covers.1 (exact.items itemType) (exact.itemChanges itemType)
  | currency key =>
      rw [Listing.lastSent_currency of]
      exact told_of_exact covers.2 (exact.currency key) (exact.currencyChanges key)
  | stat key =>
      rw [others _ (by simp) (by simp), Option.none_or]
      refine stored_congr (fun k row => ?_) rfl
      cases row
      exact kept
  | slot => rw [others _ (by simp) (by simp)]; rfl

/-- A trade that is committed tells each side of everything that has changed for it, and changes
nothing for anybody else. -/
theorem executeTrade_told {faults rest : Faults} {commitFailure : Error} {result : TradeResult}
    (distinct : a ≠ b)
    (run : (executeTrade store a offerA b offerB).transactionFaulty commitFailure faults t =
      (.ok result, t', rest)) :
    (∀ listing : Listing, listing.Of result.a →
        Faithful store a (withTables s t) (withTables s t') (tradeMessages listing)) ∧
      (∀ listing : Listing, listing.Of result.b →
        Faithful store b (withTables s t) (withTables s t') (tradeMessages listing)) ∧
      ∀ c, c ≠ a → c ≠ b → Faithful store c (withTables s t) (withTables s t') [] := by
  have body := Program.run_of_transactionFaulty run
  have kept : ∀ k, ¬ (Holding a k ∨ Holding b k) → t'.lookup k = t.lookup k := by
    have writes : (executeTrade store a offerA b offerB).Writes _ := executeTrade_writes
    exact (writes.frame t).of_run body
  have exact := executeTrade_exact store distinct offerA offerB t
  rw [Program.transaction_ok.mpr body] at exact
  obtain ⟨exactA, exactB, -, -⟩ := exact
  obtain ⟨coversA, coversB⟩ := executeTrade_yields.of_run body
  have stats : ∀ d, t'.lookup (.character d) = t.lookup (.character d) := fun d =>
    kept _ (by simp [Holding])
  refine ⟨fun listing of => .side exactA coversA of (stats a),
    fun listing of => .side exactB coversB of (stats b), fun c other other' => ?_⟩
  refine .refl fun f => stored_congr (fun k row => ?_) rfl
  cases f <;> cases row <;> exact kept _ (by simp [Holding, other, other'])

end WorldZero.Server.InventoryView
