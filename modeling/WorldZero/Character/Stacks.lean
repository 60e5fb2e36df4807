import WorldZero.Character.Equipment
import WorldZero.Character.Trade

/-!
# The cap on distinct item types

`grant_item`, `remove_item`, `craft_item`, `execute_trade`, `equip_item` and `unequip_item`
write `items` with statements of their own, under any faults. Rows are only inserted by an
upsert, and before each upsert of an item the cap is checked or the row is known to exist.
-/

namespace WorldZero.Character

open Sql

/-- The number of distinct item types of a character. -/
def distinctCount (t : Tables) (c : CharacterId) : ℕ := (t.keys.filter fun k => k.isItemOf c).card

/-- A character within the cap stays within it. -/
def Capped (max : ℕ) (t t' : Tables) : Prop :=
  ∀ c, distinctCount t c ≤ max → distinctCount t' c ≤ max

theorem Capped.refl {max : ℕ} (t : Tables) : Capped max t t := fun _ => id

theorem Capped.trans {max : ℕ} {t t' t'' : Tables} (first : Capped max t t')
    (second : Capped max t' t'') : Capped max t t'' := fun c within => second c (first c within)

instance (max : ℕ) : Std.Refl (Capped max) := ⟨.refl⟩

instance (max : ℕ) : IsTrans Tables (Capped max) := ⟨fun _ _ _ => .trans⟩

variable {max : ℕ} {t t' : Tables} {c : CharacterId} {itemType : String}

/-- No item row is new. -/
theorem Capped.of_mem (h : ∀ k ∈ t', k ∈ t ∨ ∀ c, k.isItemOf c = false) : Capped max t t' := by
  refine fun c within => (Finset.card_le_card fun k hk => ?_).trans within
  obtain ⟨there, its⟩ := Finset.mem_filter.mp hk
  refine Finset.mem_filter.mpr ⟨?_, its⟩
  obtain before | other := h k (Finmap.mem_keys.mp there)
  · exact Finmap.mem_keys.mpr before
  · rw [other c] at its
    cases its

/-- One item row may be new, and there is room for it. -/
theorem Capped.of_item (h : ∀ k ∈ t', k ∈ t ∨ k = .item c itemType)
    (room : RowKey.item c itemType ∈ t ∨ distinctCount t c < max) : Capped max t t' := by
  obtain owned | room := room
  · refine .of_mem fun k there => .inl ?_
    obtain before | rfl := h k there
    · exact before
    · exact owned
  · intro c' within
    by_cases owner : c = c'
    · subst owner
      have grown : t'.keys.filter (fun k => k.isItemOf c) ⊆
          insert (.item c itemType) (t.keys.filter fun k => k.isItemOf c) := by
        intro k hk
        obtain ⟨there, its⟩ := Finset.mem_filter.mp hk
        obtain before | rfl := h k (Finmap.mem_keys.mp there)
        · exact Finset.mem_insert_of_mem (Finset.mem_filter.mpr ⟨Finmap.mem_keys.mpr before, its⟩)
        · exact Finset.mem_insert_self ..
      exact (Finset.card_le_card grown).trans ((Finset.card_insert_le ..).trans room)
    · refine (Finset.card_le_card fun k hk => ?_).trans within
      obtain ⟨there, its⟩ := Finset.mem_filter.mp hk
      obtain before | rfl := h k (Finmap.mem_keys.mp there)
      · exact Finset.mem_filter.mpr ⟨Finmap.mem_keys.mpr before, its⟩
      · exact absurd (of_decide_eq_true its) owner

/-! ### Calls that insert no item -/

variable {α : Type} {p : StoreM α} {P : RowKey → Prop}

theorem keepsCap_of_inserts (h : p.Inserts P) (others : ∀ k, P k → ∀ c, k.isItemOf c = false) :
    p.Keeps (Capped max) :=
  fun t => (h.keeps t).mono fun _ _ kept =>
    .of_mem fun k there => (kept k there).imp_right (others k)

/-- Nothing is written. -/
abbrev Reading (p : StoreM α) : Prop := p.Writes fun _ => False

/-- Only rows that exist are written. -/
abbrev Frugal (p : StoreM α) : Prop := p.Inserts fun _ => False

theorem Frugal.keepsCap (h : Frugal p) : p.Keeps (Capped max) :=
  keepsCap_of_inserts h fun _ none => none.elim

variable {store : CharacterStore} {key : String} {recipe : Recipe} {failure : Error} {k : RowKey}

theorem reading_fetchOptional : Reading (Program.fetchOptional k failure) :=
  ⟨by simp [Stmt.written], fun _ => trivial⟩

theorem reading_fetchOptionalForUpdate : Reading (Program.fetchOptionalForUpdate k failure) :=
  ⟨by simp [Stmt.written], fun _ => trivial⟩

theorem reading_fetchOne : Reading (Program.fetchOne k failure) := by
  refine ⟨by simp [Stmt.written], fun row => ?_⟩
  cases row <;> trivial

theorem reading_fetchOneForUpdate : Reading (Program.fetchOneForUpdate k failure) := by
  refine ⟨by simp [Stmt.written], fun row => ?_⟩
  cases row <;> trivial

theorem reading_ofExcept {r : Except Error α} : Reading (Program.ofExcept r) := by
  cases r <;> trivial

theorem reading_getStat : Reading (getStat store c key) :=
  .bind reading_fetchOne fun _ => reading_ofExcept

theorem frugal_update {set : Row k → Option (Row k)} :
    Frugal (Program.executeUpdate k set failure) := ⟨by simp [Stmt.inserted], fun _ => trivial⟩

theorem frugal_delete : Frugal (Program.executeDelete k failure) :=
  ⟨by simp [Stmt.inserted], fun _ => trivial⟩

theorem frugal_writeRemaining {remaining : Int} {deleteFailure updateFailure : Error} :
    Frugal (writeRemaining c itemType remaining deleteFailure updateFailure) := by
  unfold writeRemaining
  split
  · exact frugal_delete
  · exact frugal_update

theorem frugal_removeItem {quantity : Int} : Frugal (removeItem c itemType quantity) := by
  unfold removeItem
  split
  · trivial
  · refine .bind (.bind reading_fetchOptional.inserts fun _ => trivial) fun current => ?_
    split
    · trivial
    · exact .bind frugal_writeRemaining fun _ => trivial

theorem frugal_applyStatDelta {delta : Int} : Frugal (applyStatDelta store c key delta) := by
  refine .bind reading_getStat.inserts fun current => ?_
  cases I64.checkedAdd current delta with
  | none => trivial
  | some newValue =>
      exact .bind (.bind .ofExcept fun _ => .bind frugal_update fun _ => trivial) fun _ => trivial

/-! ### Calls that insert an item -/

/-- The cap is checked against the rows as they are. -/
theorem leads_requireStack (itemType : String) {alreadyOwned : Bool} {full : Nat → Nat → Error}
    (owned : alreadyOwned = true → RowKey.item c itemType ∈ t) :
    (requireStack store c alreadyOwned full).Leads (fun r t' => t' = t ∧ ∀ u, r = .ok u →
      RowKey.item c itemType ∈ t ∨
        distinctCount t c < store.inventoryConfig.maxDistinctItemTypes) t := by
  unfold requireStack
  split
  next known => exact ⟨rfl, fun _ _ => .inl (owned known)⟩
  · refine .bind ⟨⟨rfl, by rintro _ ⟨⟩⟩, fun o exec => ?_⟩
    cases exec
    refine ⟨⟨rfl, by rintro _ ⟨⟩⟩, ?_⟩
    show Program.Leads _ (if _ then _ else _) t
    split
    · exact ⟨rfl, by rintro _ ⟨⟩⟩
    next room => exact ⟨rfl, fun _ _ => .inr (Nat.not_le.mp room)⟩

theorem upsertItem_inserts {quantity : Int} :
    (upsertItem c itemType quantity failure).Inserts (· = .item c itemType) := by
  refine .bind ⟨?_, fun _ => trivial⟩ fun _ => trivial
  rintro k ⟨⟩
  rfl

theorem leads_upsertItem {quantity : Int}
    (room : RowKey.item c itemType ∈ t ∨ distinctCount t c < max) :
    (upsertItem c itemType quantity failure).Leads (fun _ t' => Capped max t t') t :=
  (upsertItem_inserts.keeps t).mono fun _ _ kept => .of_item kept room

/-- A quantity is positive, so that owning some of an item is owning a row of it. -/
theorem mem_of_amount_pos (owned : 0 < amount (.item c itemType) (t.lookup (.item c itemType))) :
    RowKey.item c itemType ∈ t := by
  cases row : t.lookup (.item c itemType) with
  | none =>
      rw [row] at owned
      exact absurd owned (amount_none _).le.not_gt
  | some q => exact Finmap.mem_of_lookup_eq_some row

/-- A row that is read is the one that is there. -/
theorem leads_fetchOptional
    {Q : Except Error (Option (Row k)) → Tables → Prop} (failed : Q (.error failure) t)
    (read : Q (.ok (t.lookup k)) t) : (Program.fetchOptional k failure).Leads Q t := by
  refine ⟨failed, fun o exec => ?_⟩
  cases exec
  exact ⟨failed, read⟩

theorem leads_fetchOptionalForUpdate
    {Q : Except Error (Option (Row k)) → Tables → Prop} (failed : Q (.error failure) t)
    (read : Q (.ok (t.lookup k)) t) : (Program.fetchOptionalForUpdate k failure).Leads Q t := by
  refine ⟨failed, fun o exec => ?_⟩
  cases (Program.selectForUpdate_exec t k).symm.trans exec
  exact ⟨failed, read⟩

theorem keepsCap_grantItem {quantity : Int} :
    (grantItem store c itemType quantity).Keeps
      (Capped store.inventoryConfig.maxDistinctItemTypes) := by
  unfold grantItem
  split
  · exact .throw
  · refine fun t => .bind (.bind (leads_fetchOptional (Capped.refl t) ?_))
    refine .bind ((leads_requireStack itemType fun owned =>
      mem_of_amount_pos (of_decide_eq_true owned)).mono ?_)
    rintro r t' ⟨rfl, checked⟩
    cases r with
    | error e => exact Capped.refl t'
    | ok u => exact leads_upsertItem (checked u rfl)

theorem keepsCap_grantItems {items : List (String × Int)} {changes : Changes} :
    (grantItems store c items changes).Keeps
      (Capped store.inventoryConfig.maxDistinctItemTypes) := by
  induction items generalizing changes with
  | nil => exact .pure
  | cons item items ih =>
      refine fun t => .bind (leads_fetchOptional (Capped.refl t) ?_)
      refine .bind ((leads_requireStack item.1 fun owned =>
        Finmap.lookup_isSome.mp owned).mono ?_)
      rintro r t' ⟨rfl, checked⟩
      cases r with
      | error e => exact Capped.refl t'
      | ok u =>
          refine .bind ((leads_upsertItem (checked u rfl)).mono fun r t'' granted => ?_)
          cases r with
          | error e => exact granted
          | ok newQuantity =>
              exact (ih t'').mono fun _ _ later => granted.trans later

/-! ### Crafting -/

theorem reading_requireStats {reqs : List StatRequirement} :
    Reading (requireStats store c recipe reqs) := by
  induction reqs with
  | nil => trivial
  | cons req reqs ih =>
      refine .bind reading_getStat fun current => ?_
      split
      · trivial
      · exact ih

theorem reading_lockInputs {inputs : List CraftingInput} :
    Reading (lockInputs c recipe inputs) := by
  induction inputs with
  | nil => trivial
  | cons input inputs ih =>
      refine .bind reading_fetchOptionalForUpdate fun row => ?_
      dsimp only
      split
      · trivial
      · exact .bind ih fun _ => trivial

theorem frugal_consumeInputs {inputs : List (CraftingInput × Int)} :
    Frugal (consumeInputs c inputs) := by
  induction inputs with
  | nil => trivial
  | cons input inputs ih => exact .bind frugal_writeRemaining fun _ => .bind ih fun _ => trivial

theorem frugal_applyStatDeltaClampedTx {delta : Int} :
    Frugal (applyStatDeltaClampedTx store c key delta) :=
  .bind reading_fetchOneForUpdate.inserts fun _ => .bind .ofExcept fun _ => .bind .ofExcept fun _ =>
    .bind frugal_update fun _ => trivial

theorem frugal_applyGrants {rolls : ℕ → Bool} {n : ℕ} {grants : List StatGrant} :
    Frugal (applyGrants store c rolls n grants) := by
  induction grants generalizing n with
  | nil => trivial
  | cons grant grants ih =>
      have rest : ∀ reached : Bool, Frugal (if reached || !hits grant.chance (rolls n) then
            applyGrants store c rolls (n + 1) grants
          else do
            let newValue ← applyStatDeltaClampedTx store c grant.stat grant.amount.toInt
            let changes ← applyGrants store c rolls (n + 1) grants
            pure ((grant.stat, newValue) :: changes)) := by
        intro reached
        split
        · exact ih
        · exact .bind frugal_applyStatDeltaClampedTx fun _ => .bind ih fun _ => trivial
      rw [applyGrants]
      cases grant.below with
      | none => exact rest false
      | some below =>
          exact .bind (.bind reading_fetchOneForUpdate.inserts fun _ => .ofExcept) fun current =>
            rest (below.toInt ≤ current)

/-- The cap is checked before the inputs are consumed, but no row has been inserted since. -/
theorem keepsCap_craftItem {rolls : ℕ → Bool} :
    (craftItem store c recipe rolls).Keeps
      (Capped store.inventoryConfig.maxDistinctItemTypes) := by
  refine fun t => .bind ((reading_requireStats.unchanged t).mono ?_)
  rintro r t₁ rfl
  cases r with
  | error e => exact Capped.refl t₁
  | ok u =>
  refine .bind ((reading_lockInputs.unchanged t₁).mono ?_)
  rintro r t₂ rfl
  cases r with
  | error e => exact Capped.refl t₂
  | ok currents =>
  refine .bind (leads_fetchOptionalForUpdate (Capped.refl t₂) ?_)
  refine .bind ((leads_requireStack recipe.output.itemType fun owned =>
    Finmap.lookup_isSome.mp owned).mono ?_)
  rintro r t₃ ⟨rfl, checked⟩
  cases r with
  | error e => exact Capped.refl t₃
  | ok u =>
  have crafted : ((consumeInputs c (recipe.inputs.zip currents)).bind fun results =>
      (upsertItem c recipe.output.itemType recipe.output.amount.toInt
        (.wrap "character" "failed to grant craft output")).bind fun outputQuantity =>
      (applyGrants store c rolls 0 recipe.grants).bind fun statChanges =>
      .pure ({ itemChanges := results ++ [(recipe.output.itemType, outputQuantity)],
               statChanges } : CraftOutcome)).Inserts (· = .item c recipe.output.itemType) :=
    .bind (frugal_consumeInputs.mono nofun) fun _ => .bind upsertItem_inserts fun _ =>
      .bind (frugal_applyGrants.mono nofun) fun _ => trivial
  exact (crafted.keeps t₃).mono fun _ _ kept => .of_item kept (checked u rfl)

/-! ### Trades -/

theorem reading_requirePositive {error : String → Int → Error} {entries : List (String × Int)} :
    Reading (requirePositive error entries) := by
  induction entries with
  | nil => trivial
  | cons entry entries ih =>
      rw [requirePositive]
      split
      · trivial
      · exact ih

theorem reading_lockEntries {row : String → RowKey} {short : String → Int → Int → Error}
    {entries : List (String × Int)} : Reading (lockEntries row failure short entries) := by
  induction entries with
  | nil => trivial
  | cons entry entries ih =>
      refine .bind reading_fetchOptionalForUpdate fun found => ?_
      split
      · trivial
      · exact ih

theorem frugal_consumeItems {items : List (String × Int)} {changes : Changes} :
    Frugal (consumeItems c items changes) := by
  induction items generalizing changes with
  | nil => trivial
  | cons item items ih =>
      exact .bind reading_fetchOne.inserts fun _ => .bind frugal_writeRemaining fun _ => ih

theorem frugal_consumeCurrency {currency : List (String × Int)} {changes : Changes} :
    Frugal (consumeCurrency c currency changes) := by
  induction currency generalizing changes with
  | nil => trivial
  | cons entry currency ih =>
      exact .bind reading_fetchOne.inserts fun _ => .bind frugal_update fun _ => ih

theorem keepsCap_grantCurrency {currency : List (String × Int)} {changes : Changes} :
    (grantCurrency c currency changes).Keeps (Capped max) := by
  have inserts :
      (grantCurrency c currency changes).Inserts fun k => ∃ key, k = .currency c key := by
    induction currency generalizing changes with
    | nil => trivial
    | cons entry currency ih =>
        refine .bind ⟨?_, fun _ => trivial⟩ fun _ => ih
        rintro k ⟨⟩
        exact ⟨entry.1, rfl⟩
  refine keepsCap_of_inserts inserts ?_
  rintro k ⟨key, rfl⟩ c
  rfl

theorem keepsCap_executeTrade {characterA characterB : CharacterId}
    {offerA offerB : TradeOfferInput} :
    (executeTrade store characterA offerA characterB offerB).Keeps
      (Capped store.inventoryConfig.maxDistinctItemTypes) := by
  have positive : ∀ offer, Frugal (requirePositiveOffer offer) := fun offer =>
    .bind reading_requirePositive.inserts fun _ => reading_requirePositive.inserts
  have lock : ∀ c offer, Frugal (lockOffer c offer) := fun c offer =>
    .bind reading_lockEntries.inserts fun _ => reading_lockEntries.inserts
  exact .bind (positive offerA).keepsCap fun _ => .bind (positive offerB).keepsCap fun _ =>
    .bind (lock characterA offerA).keepsCap fun _ => .bind (lock characterB offerB).keepsCap fun _ =>
    .bind frugal_consumeItems.keepsCap fun _ => .bind frugal_consumeItems.keepsCap fun _ =>
    .bind frugal_consumeCurrency.keepsCap fun _ => .bind frugal_consumeCurrency.keepsCap fun _ =>
    .bind keepsCap_grantItems fun _ => .bind keepsCap_grantItems fun _ =>
    .bind keepsCap_grantCurrency fun _ => .bind keepsCap_grantCurrency fun _ => .pure

/-! ### Equipment -/

namespace EquipM

variable {β : Type}

/-- Whatever befalls the call, the cap is kept. -/
def KeepsCap (max : ℕ) (m : EquipM α) : Prop :=
  ∀ s, m.Leads (fun _ s' => Capped max s.tables s'.tables) s

variable {m : EquipM α}

theorem KeepsCap.pure {a : α} : (EquipM.pure a).KeepsCap max :=
  fun s => .pure (Capped.refl s.tables)

theorem KeepsCap.throw {e : Error} : (EquipM.throw e : EquipM α).KeepsCap max :=
  fun s => .throw (Capped.refl s.tables)

theorem KeepsCap.ofExcept {r : Except Error α} : (EquipM.ofExcept r).KeepsCap max :=
  fun s => .ofExcept (Capped.refl s.tables)

theorem KeepsCap.bind {f : α → EquipM β} (first : m.KeepsCap max) (rest : ∀ a, (f a).KeepsCap max) :
    (m >>= f).KeepsCap max := by
  refine fun s => .bind ((first s).mono fun r s' step => ?_)
  cases r with
  | error e => exact step
  | ok a => exact (rest a s').mono fun _ _ => step.trans

theorem KeepsCap.call (h : p.Keeps (Capped max)) : (EquipM.call c p).KeepsCap max :=
  fun s => .call ((h s.tables).mono fun _ _ kept _ _ => kept)

theorem KeepsCap.execute {effect : EquipState → Option EquipState}
    (apart : ∀ s s', effect s = some s' → s'.tables = s.tables) :
    (EquipM.execute effect failure).KeepsCap max := by
  refine fun s => .execute (Capped.refl s.tables) fun s' performed => ?_
  rw [apart s s' performed]
  exact ⟨.refl s.tables, .refl s.tables⟩

end EquipM

open EquipM (KeepsCap)

variable {schema : EquipmentSchema} {slot : String}

theorem keepsCap_equippedInSlot : (equippedInSlot c slot).KeepsCap max :=
  fun s => leads_equippedInSlot (Capped.refl s.tables) (Capped.refl s.tables)

theorem keepsCap_recordEquipped : (recordEquipped c slot itemType).KeepsCap max := by
  refine .execute fun s s' performed => ?_
  split at performed <;> cases performed
  rfl

theorem keepsCap_clearSlot : (clearSlot c slot).KeepsCap max := by
  refine .execute fun s s' performed => ?_
  cases performed
  rfl

theorem keepsCap_applyStatDeltas {deltas : List (String × Int64)} :
    (applyStatDeltas store c deltas).KeepsCap max := by
  induction deltas with
  | nil => exact .pure
  | cons d deltas ih =>
      exact .bind (.call frugal_applyStatDelta.keepsCap) fun _ => .bind ih fun _ => .pure

theorem keepsCap_unequipInner :
    (unequipInner store schema c slot itemType).KeepsCap
      store.inventoryConfig.maxDistinctItemTypes :=
  .bind keepsCap_applyStatDeltas fun _ => .bind (.call keepsCap_grantItem) fun _ =>
    .bind keepsCap_clearSlot fun _ => .pure

theorem keepsCap_unequipItem :
    (unequipItem store schema c slot).KeepsCap store.inventoryConfig.maxDistinctItemTypes := by
  refine .bind keepsCap_equippedInSlot fun occupant => ?_
  cases occupant with
  | none => exact .throw
  | some itemType => exact keepsCap_unequipInner

theorem keepsCap_displace :
    (displace store schema c slot).KeepsCap store.inventoryConfig.maxDistinctItemTypes := by
  refine .bind keepsCap_equippedInSlot fun occupant => ?_
  cases occupant with
  | none => exact .pure
  | some itemType => exact .bind keepsCap_unequipInner fun _ => .pure

theorem keepsCap_equipItem :
    (equipItem store schema c itemType).KeepsCap store.inventoryConfig.maxDistinctItemTypes := by
  refine .bind .ofExcept fun declared => ?_
  refine .bind (.call (Frugal.keepsCap (.bind reading_fetchOptional.inserts fun _ => trivial)))
    fun owned => ?_
  dsimp only
  split
  · exact .throw
  · exact .bind keepsCap_displace fun _ => .bind keepsCap_applyStatDeltas fun _ =>
      .bind (.call frugal_removeItem.keepsCap) fun _ => .bind keepsCap_recordEquipped fun _ => .pure

end WorldZero.Character
