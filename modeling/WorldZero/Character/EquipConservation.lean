import WorldZero.Character.Concurrency
import WorldZero.Character.Equipment

/-!
# Items between inventory and equipment

An item that is equipped leaves the inventory before the row is written that records it, and
one that is unequipped comes back before the row goes. Run alone, a call of `equip_item` or
`unequip_item` ends with nothing in hand, whether it returns or reports an error of its own.
-/

namespace WorldZero.Character

open Sql

/-! ### Calls that run alone -/

namespace EquipM

variable {α β : Type} {m : EquipM α} {s : EquipState}

/-- Alone and without faults the call ends in a result and a state that satisfy `Q`. -/
def Ends (Q : Except Error α → EquipState → Prop) (m : EquipM α) (s : EquipState) : Prop :=
  ∃ r s', m.run [] s = (r, s', []) ∧ Q r s'

variable {Q Q' : Except Error α → EquipState → Prop}

theorem Ends.pure {a : α} (h : Q (.ok a) s) : (EquipM.pure a).Ends Q s := ⟨_, _, rfl, h⟩

theorem Ends.throw {e : Error} (h : Q (.error e) s) : (EquipM.throw e : EquipM α).Ends Q s :=
  ⟨_, _, rfl, h⟩

theorem Ends.ofExcept {r : Except Error α} (h : Q r s) : (EquipM.ofExcept r).Ends Q s := by
  cases r with
  | ok a => exact .pure h
  | error e => exact .throw h

theorem Ends.bind {f : α → EquipM β} {R : Except Error β → EquipState → Prop}
    (h : m.Ends (fun r s' => match r with
      | .ok a => (f a).Ends R s'
      | .error e => R (.error e) s') s) : (m >>= f).Ends R s := by
  obtain ⟨r, s', first, post⟩ := h
  cases r with
  | error e => exact ⟨_, s', by rw [run_bind, first], post⟩
  | ok a =>
      obtain ⟨r', s'', rest, post'⟩ := post
      exact ⟨r', s'', by rw [run_bind, first]; exact rest, post'⟩

theorem Ends.mono (h : m.Ends Q s) (imp : ∀ r s', Q r s' → Q' r s') : m.Ends Q' s := by
  obtain ⟨r, s', run, post⟩ := h
  exact ⟨r, s', run, imp r s' post⟩

theorem Ends.call {c : CharacterId} {p : StoreM α}
    (h : ∀ r tables exchanging, p.run s.tables = (r, tables) →
      Q r { s with tables, exchanging }) : (EquipM.call c p).Ends Q s := by
  have run : (EquipM.call c p).run [] s =
      ((p.run s.tables).1, { s with
        tables := (p.run s.tables).2
        exchanging := s.exchanging || decide ((p.run s.tables).2.lookup (.character c) ≠
          s.tables.lookup (.character c)) }, []) := by
    show EquipM.call c p [] s = _
    simp only [EquipM.call, Program.runFaulty_nil]
  exact ⟨_, _, run, h _ _ _ rfl⟩

/-- A statement on `equipped_items` that violates no constraint. -/
theorem Ends.execute {effect : EquipState → Option EquipState} {failure : Error} {s' : EquipState}
    {Q : Except Error Unit → EquipState → Prop} (effective : effect s = some s')
    (h : Q (.ok ()) s') : (EquipM.execute effect failure).Ends Q s :=
  ⟨.ok (), s', by rw [run_execute, effective]; rfl, h⟩

end EquipM

/-! ### What a character holds -/

/-- The rows of `equipped_items` that record the item for the character. -/
def equippedCount (equippedItems : AList fun _ : CharacterId × String => String)
    (c : CharacterId) (itemType : String) : Int :=
  equippedItems.entries.countP fun e => e.1.1 = c ∧ e.2 = itemType

/-- In the inventory and equipped. -/
def held (s : EquipState) (c : CharacterId) (itemType : String) : Int :=
  quantity s.tables c itemType + equippedCount s.equippedItems c itemType

variable {rows : AList fun _ : CharacterId × String => String} {c : CharacterId}
  {slot itemType : String}

theorem equippedCount_insert (free : rows.lookup (c, slot) = none) (owner : CharacterId)
    (type : String) :
    equippedCount (rows.insert (c, slot) itemType) owner type =
      equippedCount rows owner type + if owner = c ∧ type = itemType then 1 else 0 := by
  rw [equippedCount, AList.entries_insert_of_notMem (AList.lookup_eq_none.mp free),
    List.countP_cons]
  simp only [equippedCount, decide_eq_true_eq, eq_comm (a := c), eq_comm (a := itemType)]
  split <;> simp

/-- A row that is cleared has counted for its item. -/
theorem equippedCount_erase (recorded : rows.lookup (c, slot) = some itemType)
    (owner : CharacterId) (type : String) :
    equippedCount rows owner type =
      equippedCount (rows.erase (c, slot)) owner type +
        if owner = c ∧ type = itemType then 1 else 0 := by
  have there : (c, slot) ∈ rows.entries.keys := AList.lookup_isSome.mp (by rw [recorded]; rfl)
  obtain ⟨itemType', before, after, -, entries, erased⟩ := List.exists_of_kerase there
  have same : itemType' = itemType := by
    have entry : (⟨(c, slot), itemType'⟩ : Sigma fun _ : CharacterId × String => String) ∈
        rows.entries := by
      rw [entries]
      exact List.mem_append_right _ List.mem_cons_self
    have recorded' : rows.lookup (c, slot) = some itemType' := AList.mem_lookup_iff.mpr entry
    exact Option.some.inj (recorded'.symm.trans recorded)
  subst same
  have remaining : (rows.erase (c, slot)).entries = before ++ after := erased
  rw [equippedCount, equippedCount, remaining, entries]
  simp only [List.countP_append, List.countP_cons, decide_eq_true_eq, eq_comm (a := c),
    eq_comm (a := itemType')]
  split <;> omega

/-- The inventory has gained `n` of one item. -/
def Gained (c : CharacterId) (itemType : String) (n : Int) (t t' : Tables) : Prop :=
  ∀ owner type, quantity t' owner type =
    quantity t owner type + if owner = c ∧ type = itemType then n else 0

theorem Gained.of_footprint {F : Footprint Row} {n : Int} {t t' : Tables} (holds : F.Holds t t')
    (change : ∀ k, F.change amount k = if k = .item c itemType then n else 0) :
    Gained c itemType n t t' := by
  intro owner type
  have moved := holds.measure_eq amount (.item owner type)
  rw [change] at moved
  simpa only [quantity, RowKey.item.injEq] using moved

theorem Gained.refl (t : Tables) : Gained c itemType 0 t t := by
  intro owner type
  simp

/-- A call of the inventory that has no other statement after its write gains what it says,
or nothing if it fails. -/
theorem gained_of_run {p : StoreM Int} {watch : Bool} {n : Int} {t t' : Tables}
    {r : Except Error Int} (returns : p.wp watch (fun _ F => ∀ k, F.change amount k =
      if k = .item c itemType then n else 0) .empty) (last : ReadCommitted.LocksLast p)
    (run : p.run t = (r, t')) : Gained c itemType (if r.isOk then n else 0) t t' := by
  cases r with
  | error e =>
      rw [last.eq_of_run_error run]
      exact .refl t
  | ok m =>
      obtain ⟨F, change, holds⟩ := Program.wp_run returns (Footprint.holds_empty t) run
      exact .of_footprint holds change

/-! ### The account of a call -/

/-- With what the call has in hand, `n` of the item, the character holds what it has held. -/
structure Balanced (c : CharacterId) (itemType : String)
    (rows : AList fun _ : CharacterId × String => String) (base : CharacterId → String → Int)
    (n : Int) (s : EquipState) : Prop where
  rows : s.equippedItems = rows
  present : (s.tables.lookup (.character c)).isSome
  account : ∀ owner type,
    held s owner type + (if owner = c ∧ type = itemType then n else 0) = base owner type

variable {base : CharacterId → String → Int} {n m : Int} {s : EquipState} {t : Tables}
  {exchanging : Bool} {store : CharacterStore} {schema : EquipmentSchema}

theorem Balanced.gain {left : Int} (h : Balanced c itemType rows base n s)
    (present : (s.tables.lookup (.character c)).isSome → (t.lookup (.character c)).isSome)
    (gained : Gained c itemType m s.tables t) (rest : left = n - m) :
    Balanced c itemType rows base left { s with tables := t, exchanging } where
  rows := h.rows
  present := present h.present
  account owner type := by
    have before := h.account owner type
    have after := gained owner type
    simp only [held] at before ⊢
    split at before <;> simp_all
    all_goals omega

/-- A call that writes no other row of the character than that of an item. -/
theorem present_of_writes {α : Type} {p : StoreM α} {r : Except Error α} {t' : Tables}
    (writes : p.Writes (· = .item c itemType)) (run : p.run t = (r, t')) :
    (t.lookup (.character c)).isSome → (t'.lookup (.character c)).isSome := by
  intro present
  have same := (writes.frame t).of_run run (.character c) nofun
  rwa [same]

/-- Nothing in hand is nothing in hand of any item. -/
theorem Balanced.empty (h : Balanced c itemType rows base 0 s) (other : String) :
    Balanced c other rows base 0 s where
  rows := h.rows
  present := h.present
  account owner type := by simpa using h.account owner type

theorem Balanced.grantItem (h : Balanced c itemType rows base 0 s) :
    (EquipM.call c (grantItem store c itemType 1)).Ends (fun r s' =>
      Balanced c itemType rows base (if r.isOk then -1 else 0) s') s := by
  refine .call fun r t exchanging run => ?_
  have gained := gained_of_run wp_grantItem (StoreCall.locksLast_grantItem ..) run
  exact h.gain (present_of_writes grantItem_writes run) gained (by split <;> rfl)

theorem Balanced.removeItem (h : Balanced c itemType rows base 0 s) :
    (EquipM.call c (removeItem c itemType 1)).Ends (fun r s' =>
      Balanced c itemType rows base (if r.isOk then 1 else 0) s') s := by
  refine .call fun r t exchanging run => ?_
  have gained := gained_of_run wp_removeItem (StoreCall.locksLast_removeItem ..) run
  exact h.gain (present_of_writes removeItem_writes run) gained (by split <;> rfl)

/-- A stat write touches no item. -/
theorem Balanced.applyStatDelta {key : String} {delta : Int}
    (h : Balanced c itemType rows base n s) :
    (EquipM.call c (applyStatDelta store c key delta)).Ends (fun _ s' =>
      Balanced c itemType rows base n s') s := by
  refine .call fun r t exchanging run => ?_
  have frame := (applyStatDelta_writes.frame s.tables).of_run run
  have gained : Gained c itemType 0 s.tables t := by
    intro owner type
    simp [quantity, frame (.item owner type) (by rintro ⟨⟩)]
  refine h.gain (fun present => ?_) gained (by omega)
  have written := leads_applyStatDelta.of_run run
  have set : ∀ {t'}, StatWritten store c key delta s.tables t' →
      (t'.lookup (.character c)).isSome := by
    rintro t' ⟨stats, v, -, -, -, row⟩
    rw [row]
    rfl
  cases r with
  | ok n => exact set written
  | error e =>
      obtain same | written := written
      · rwa [same]
      · exact set written

theorem Balanced.applyStatDeltas {deltas : List (String × Int64)}
    (h : Balanced c itemType rows base n s) :
    (applyStatDeltas store c deltas).Ends (fun _ s' => Balanced c itemType rows base n s') s := by
  induction deltas generalizing s with
  | nil => exact .pure h
  | cons d deltas ih =>
      refine .bind (h.applyStatDelta.mono fun r s₁ after => ?_)
      cases r with
      | error e => exact after
      | ok newValue =>
          refine .bind ((ih after).mono fun r s₂ after => ?_)
          cases r with
          | error e => exact after
          | ok changes => exact .pure after

theorem Balanced.clearSlot (h : Balanced c itemType rows base (-1) s)
    (recorded : rows.lookup (c, slot) = some itemType) :
    (clearSlot c slot).Ends (fun r s' => r = .ok () ∧
      Balanced c itemType (rows.erase (c, slot)) base 0 s') s := by
  refine .execute rfl ⟨rfl, ?_, h.present, fun owner type => ?_⟩
  · rw [h.rows]
  · have before := h.account owner type
    have cleared := equippedCount_erase recorded owner type
    simp only [held, h.rows] at before ⊢
    split at before <;> simp_all
    all_goals omega

theorem Balanced.recordEquipped (h : Balanced c itemType rows base 1 s)
    (free : rows.lookup (c, slot) = none) :
    (recordEquipped c slot itemType).Ends (fun r s' => r = .ok () ∧
      Balanced c itemType (rows.insert (c, slot) itemType) base 0 s') s := by
  refine .execute (if_pos h.present) ⟨rfl, ?_, h.present, fun owner type => ?_⟩
  · rw [h.rows]
  · have before := h.account owner type
    have inserted : equippedCount (rows.insert (c, slot) itemType) owner type = _ :=
      equippedCount_insert free owner type
    simp only [held, h.rows] at before ⊢
    split at before <;> simp_all
    all_goals omega

/-- Whoever calls for the occupant of a slot finds the row that records it. -/
theorem ends_equippedInSlot {Q : Except Error (Option String) → EquipState → Prop}
    (read : Q (.ok (s.equippedItems.lookup (c, slot))) s) : (equippedInSlot c slot).Ends Q s :=
  ⟨_, _, rfl, read⟩

theorem Balanced.unequipInner (h : Balanced c itemType rows base 0 s)
    (recorded : rows.lookup (c, slot) = some itemType) :
    (unequipInner store schema c slot itemType).Ends (fun r s' =>
      Balanced c itemType (if r.isOk then rows.erase (c, slot) else rows) base 0 s') s := by
  refine .bind (h.applyStatDeltas.mono fun r s₁ taken => ?_)
  cases r with
  | error e => exact taken
  | ok changes =>
  refine .bind (taken.grantItem.mono fun r s₂ granted => ?_)
  cases r with
  | error e => exact granted
  | ok quantity =>
  refine .bind ((granted.clearSlot recorded).mono fun r s₃ cleared => ?_)
  obtain ⟨rfl, cleared⟩ := cleared
  exact .pure cleared

theorem Balanced.unequipItem (h : Balanced c itemType rows base 0 s) :
    (unequipItem store schema c slot).Ends (fun _ s' =>
      ∃ rows', Balanced c itemType rows' base 0 s') s := by
  refine .bind (ends_equippedInSlot ?_)
  cases recorded : s.equippedItems.lookup (c, slot) with
  | none => exact .throw ⟨rows, h⟩
  | some occupantType =>
      rw [h.rows] at recorded
      exact ((h.empty occupantType).unequipInner recorded).mono fun _ _ after =>
        ⟨_, after.empty itemType⟩

/-- The occupant goes back to the inventory, or nothing has changed hands. -/
theorem Balanced.displace (h : Balanced c itemType rows base 0 s) :
    (displace store schema c slot).Ends (fun r s' => ∃ rows',
      Balanced c itemType rows' base 0 s' ∧ (r.isOk → rows'.lookup (c, slot) = none)) s := by
  refine .bind (ends_equippedInSlot ?_)
  cases recorded : s.equippedItems.lookup (c, slot) with
  | none =>
      rw [h.rows] at recorded
      exact .pure ⟨rows, h, fun _ => recorded⟩
  | some occupantType =>
      rw [h.rows] at recorded
      refine .bind (((h.empty occupantType).unequipInner recorded).mono fun r s₁ after => ?_)
      cases r with
      | error e => exact ⟨rows, after.empty itemType, nofun⟩
      | ok outcome =>
          exact .pure ⟨_, after.empty itemType, fun _ => AList.lookup_erase (c, slot) rows⟩

theorem Balanced.equipItem (h : Balanced c itemType rows base 0 s) :
    (equipItem store schema c itemType).Ends (fun _ s' =>
      ∃ rows', Balanced c itemType rows' base 0 s') s := by
  refine .bind (.ofExcept ?_)
  cases schema.resolve itemType with
  | error e => exact ⟨rows, h⟩
  | ok declared =>
  refine .bind (.call fun r t exchanging run => ?_)
  obtain ⟨rfl, rfl⟩ : Except.ok _ = r ∧ s.tables = t := Prod.mk.inj run
  have unchanged : Balanced c itemType rows base 0 { s with exchanging } :=
    ⟨h.rows, h.present, h.account⟩
  dsimp only
  split
  · exact .throw ⟨rows, unchanged⟩
  refine .bind (unchanged.displace.mono fun r s₂ displaced => ?_)
  obtain ⟨rows', balanced, free⟩ := displaced
  cases r with
  | error e => exact ⟨rows', balanced⟩
  | ok changes =>
  refine .bind (balanced.applyStatDeltas.mono fun r s₃ applied => ?_)
  cases r with
  | error e => exact ⟨rows', applied⟩
  | ok newChanges =>
  refine .bind (applied.removeItem.mono fun r s₄ removed => ?_)
  cases r with
  | error e => exact ⟨rows', removed⟩
  | ok remaining =>
  refine .bind ((removed.recordEquipped (free rfl)).mono fun r s₅ recorded => ?_)
  obtain ⟨rfl, recorded⟩ := recorded
  exact .pure ⟨_, recorded⟩

/-! ### A call conserves what is held -/

/-- The foreign keys of `items` and `equipped_items`. -/
structure EquipState.References (s : EquipState) (c : CharacterId) : Prop where
  items : ∀ itemType, RowKey.item c itemType ∈ s.tables → RowKey.character c ∈ s.tables
  equippedItems : ∀ slot, (c, slot) ∈ s.equippedItems → RowKey.character c ∈ s.tables

/-- A character without a row owns no item to equip. -/
theorem ends_equipItem_unowned (references : s.References c)
    (absent : RowKey.character c ∉ s.tables) :
    (equipItem store schema c itemType).Ends (fun _ s' => held s' = held s) s := by
  have unowned : s.tables.lookup (.item c itemType) = none :=
    Finmap.lookup_eq_none.mpr (mt (references.items itemType) absent)
  refine .bind (.ofExcept ?_)
  cases schema.resolve itemType with
  | error e => rfl
  | ok declared =>
      refine .bind (.call fun r t exchanging run => ?_)
      obtain ⟨rfl, rfl⟩ : Except.ok (amount (.item c itemType)
        (s.tables.lookup (.item c itemType))) = r ∧ s.tables = t := Prod.mk.inj run
      simp only [unowned]
      exact .throw rfl

theorem ends_unequipItem_unworn (references : s.References c)
    (absent : RowKey.character c ∉ s.tables) :
    (unequipItem store schema c slot).Ends (fun _ s' => held s' = held s) s := by
  have unworn : s.equippedItems.lookup (c, slot) = none :=
    AList.lookup_eq_none.mpr (mt (references.equippedItems slot) absent)
  refine .bind (ends_equippedInSlot ?_)
  rw [unworn]
  exact .throw rfl

/-- Whether it returns or fails, a call that runs alone leaves the character, and everybody
else, with as many of every item, in the inventory and equipped, as before. -/
theorem EquipCall.held_exec (store : CharacterStore) (schema : EquipmentSchema) (c : CharacterId)
    (s : EquipState) (references : s.References c) (call : EquipCall) (owner : CharacterId)
    (itemType : String) :
    held (call.exec store schema c [] s).2 owner itemType = held s owner itemType := by
  have begun : held { s with exchanging := false } = held s := rfl
  by_cases there : RowKey.character c ∈ s.tables
  · have start : ∀ type,
        Balanced c type s.equippedItems (held s) 0 { s with exchanging := false } :=
      fun type => ⟨rfl, Finmap.lookup_isSome.mpr there, fun _ _ => by simp [begun]⟩
    cases call with
    | equipItem type =>
        have ends : (Character.equipItem store schema c type).Ends _ _ := (start type).equipItem
        obtain ⟨r, s', run, rows, after⟩ := ends
        simpa [EquipCall.exec, run] using after.account owner itemType
    | unequipItem slot =>
        have ends : (Character.unequipItem store schema c slot).Ends _ _ :=
          (start itemType).unequipItem
        obtain ⟨r, s', run, rows, after⟩ := ends
        simpa [EquipCall.exec, run] using after.account owner itemType
  · have kept : EquipState.References { s with exchanging := false } c :=
      ⟨references.items, references.equippedItems⟩
    cases call with
    | equipItem type =>
        have ends : (Character.equipItem store schema c type).Ends _ _ :=
          ends_equipItem_unowned kept there
        obtain ⟨r, s', run, after⟩ := ends
        simp [EquipCall.exec, run, after, begun]
    | unequipItem slot =>
        have ends : (Character.unequipItem store schema c slot).Ends _ _ :=
          ends_unequipItem_unworn kept there
        obtain ⟨r, s', run, after⟩ := ends
        simp [EquipCall.exec, run, after, begun]

namespace Wardrobe

/-- The cap on, the helmet in the inventory. -/
def capped : EquipState :=
  ((EquipCall.equipItem "cap").exec (armory 40) headgear knight [] (holding ["cap", "helmet"])).2

/-- A swap returns the cap to the inventory. -/
theorem held_exec_swap :
    let swapped := ((EquipCall.equipItem "helmet").exec (armory 40) headgear knight [] capped).2
    quantity capped.tables knight "cap" = 0 ∧ quantity swapped.tables knight "cap" = 1 ∧
      held swapped knight "cap" = held capped knight "cap" := by
  have there : RowKey.character knight ∈ capped.tables := by decide
  refine ⟨by decide, by decide +kernel, ?_⟩
  exact EquipCall.held_exec (armory 40) headgear knight capped
    ⟨fun _ _ => there, fun _ _ => there⟩ (.equipItem "helmet") knight "cap"

end Wardrobe

end WorldZero.Character
