import WorldZero.Server.ExchangeMessages

/-!
# What a call leaves of other characters

The calls that equip, unequip and craft write to the rows of their own character only. Whatever
becomes of such a call, every other character has what it had.
-/

namespace WorldZero.Server.InventoryView

open Sql Character CraftingSchema

variable {store : CharacterStore} {schema : EquipmentSchema} {c owner : CharacterId}
  {α β : Type} {f : Field} {slot itemType : String}

/-- The rows of a character. -/
def Owned (d : CharacterId) (k : RowKey) : Prop := k = .character d ∨ Holding d k

theorem not_owned_of_ne (other : owner ≠ c) (k : RowKey) (row : k ∈ f.row c) : ¬ Owned owner k := by
  cases f <;> cases row <;> simp [Owned, Holding, Ne.symm other]

/-- However the call ends, the character has what it had. -/
def Spares (store : CharacterStore) (c : CharacterId) (m : EquipM α) : Prop :=
  ∀ s, m.Leads (fun _ s' => ∀ f, stored store c s' f = stored store c s f) s

namespace Spares

variable {m : EquipM α}

theorem pure (a : α) : Spares store c (EquipM.pure a) := fun _ _ _ => rfl

theorem throw (e : Error) : Spares store c (EquipM.throw e : EquipM α) := fun _ _ _ => rfl

theorem bind {g : α → EquipM β} (first : Spares store c m) (rest : ∀ a, Spares store c (g a)) :
    Spares store c (m >>= g) := by
  refine fun s => .bind ((first s).mono fun r s₁ same => ?_)
  cases r with
  | error e => exact same
  | ok a => exact (rest a s₁).mono fun _ s₂ same' f => (same' f).trans (same f)

theorem call {p : StoreM α} (writes : p.Writes (Owned owner)) (other : owner ≠ c) :
    Spares store c (EquipM.call owner p) := by
  refine fun s => .call ((writes.frame s.tables).mono fun r tables kept exchanging _ f => ?_)
  exact stored_congr (fun k row => kept k (not_owned_of_ne other k row)) rfl

/-- A statement on the slots of another character. -/
theorem execute {effect : EquipState → Option EquipState} {failure : Error} (other : owner ≠ c)
    (slots : ∀ s s', effect s = some s' → s'.tables = s.tables ∧
      ∀ key, key.1 ≠ owner → s'.equippedItems.lookup key = s.equippedItems.lookup key) :
    Spares store c (EquipM.execute effect failure) := by
  refine fun s => .execute (fun _ => rfl) fun s' performed => ?_
  obtain ⟨tables, kept⟩ := slots s s' performed
  have same : ∀ f, stored store c s' f = stored store c s f := by
    intro f
    cases f with
    | slot slot => simp only [stored, kept (c, slot) (Ne.symm other)]
    | item | currency | stat => simp only [stored, tables]
  exact ⟨same, same⟩

theorem equippedInSlot : Spares store c (equippedInSlot owner slot) :=
  fun _ => leads_equippedInSlot (fun _ => rfl) fun _ => rfl

variable (other : owner ≠ c)
include other

theorem recordEquipped : Spares store c (recordEquipped owner slot itemType) := by
  refine .execute other fun s s' performed => ?_
  obtain ⟨-, performed⟩ := Option.ite_none_right_eq_some.mp performed
  cases performed
  refine ⟨rfl, fun key apart => AList.lookup_insert_ne ?_⟩
  rintro rfl
  exact apart rfl

theorem clearSlot : Spares store c (clearSlot owner slot) := by
  refine .execute other fun s s' performed => ?_
  cases performed
  refine ⟨rfl, fun key apart => AList.lookup_erase_ne ?_⟩
  rintro rfl
  exact apart rfl

theorem applyStatDeltas (deltas : List (String × Int64)) :
    Spares store c (applyStatDeltas store owner deltas) := by
  induction deltas with
  | nil => exact .pure _
  | cons d deltas ih =>
      exact .bind (.call (applyStatDelta_writes.mono fun _ => .inl) other) fun newValue =>
        .bind ih fun changes => .pure _

theorem unequipInner : Spares store c (unequipInner store schema owner slot itemType) :=
  .bind (.applyStatDeltas other _) fun _ =>
    .bind (.call (grantItem_writes.mono fun _ own => .inr (.inl ⟨_, own⟩)) other) fun _ =>
      .bind (.clearSlot other) fun _ => .pure _

theorem unequipItem : Spares store c (unequipItem store schema owner slot) := by
  refine .bind .equippedInSlot fun occupant => ?_
  cases occupant with
  | none => exact .throw _
  | some itemType => exact .unequipInner other

theorem displace : Spares store c (displace store schema owner slot) := by
  refine .bind .equippedInSlot fun occupant => ?_
  cases occupant with
  | none => exact .pure _
  | some itemType => exact .bind (.unequipInner other) fun _ => .pure _

theorem equipItem : Spares store c (equipItem store schema owner itemType) := by
  refine .bind ?_ fun declared => .bind (.call ?_ other) fun owned => ?_
  · cases schema.resolve itemType with
    | error e => exact .throw e
    | ok declared => exact .pure declared
  · exact .bind (reading_fetchOptional.mono fun _ => False.elim) fun _ => trivial
  · split
    · exact .throw _
    · refine .bind (.displace other) fun _ => .bind (.applyStatDeltas other _) fun _ =>
        .bind (.call ?_ other) fun _ => .bind (.recordEquipped other) fun _ => .pure _
      exact removeItem_writes.mono fun _ own => .inr (.inl ⟨_, own⟩)

end Spares

theorem applyGrants_writes {rolls : ℕ → Bool} {n : ℕ} {grants : List StatGrant} :
    (applyGrants store c rolls n grants).Writes (· = .character c) := by
  induction grants generalizing n with
  | nil => trivial
  | cons grant grants ih =>
      have rest : ∀ reached : Bool, (if reached || !hits grant.chance (rolls n) then
            applyGrants store c rolls (n + 1) grants
          else do
            let newValue ← applyStatDeltaClampedTx store c grant.stat grant.amount.toInt
            let changes ← applyGrants store c rolls (n + 1) grants
            pure ((grant.stat, newValue) :: changes)).Writes (· = .character c) := by
        intro reached
        split
        · exact ih
        · exact .bind applyStatDeltaClampedTx_writes fun _ => .bind ih fun _ => trivial
      rw [applyGrants]
      cases grant.below with
      | none => exact rest false
      | some below =>
          have reading : Reading (getStatTx store c grant.stat) :=
            .bind reading_fetchOneForUpdate fun _ => reading_ofExcept
          exact .bind (reading.mono fun _ => False.elim) fun current => rest (below.toInt ≤ current)

theorem craftItem_writes {recipe : Recipe} {rolls : ℕ → Bool} :
    (craftItem store c recipe rolls).Writes (Owned c) :=
  .bind (reading_requireStats.mono fun _ => False.elim) fun _ =>
    .bind (reading_lockInputs.mono fun _ => False.elim) fun _ =>
    .bind (reading_fetchOptionalForUpdate.mono fun _ => False.elim) fun _ =>
    .bind requireStack_writes fun _ =>
    .bind (consumeInputs_writes.mono fun _ own => .inr (.inl own)) fun _ =>
    .bind (upsertItem_writes.mono fun _ own => .inr (.inl ⟨_, own⟩)) fun _ =>
    .bind (applyGrants_writes.mono fun _ => .inl) fun _ => trivial

end WorldZero.Server.InventoryView
