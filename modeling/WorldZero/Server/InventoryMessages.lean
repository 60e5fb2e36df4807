import WorldZero.Character.Stacks

/-!
# What a client is told about its character

`ItemChanged`, `CurrencyChanged`, `StatChanged` and `EquipmentChanged` carry the value that a
field of the character has from then on. The messages of a call are faithful if they tell of
every field that it has changed, and the last one about a field carries the value that the call
leaves there. Calls one after the other are told by their messages one after the other.
-/

namespace WorldZero.Server.InventoryView

open Sql Character

/-- What a client knows of its character. -/
inductive Field where
  | item (itemType : String)
  | currency (currencyKey : String)
  | stat (statKey : String)
  | slot (slot : String)
  deriving DecidableEq

inductive Message where
  | itemChanged (itemType : String) (quantity : Int)
  | currencyChanged (currencyKey : String) (balance : Int)
  | statChanged (statKey : String) (value : Int)
  /-- An empty `itemType` is an empty slot. -/
  | equipmentChanged (slot itemType : String)
  deriving DecidableEq

inductive Value where
  | number (n : Int)
  | text (s : String)
  deriving DecidableEq

def Message.field : Message → Field
  | .itemChanged itemType _ => .item itemType
  | .currencyChanged currencyKey _ => .currency currencyKey
  | .statChanged statKey _ => .stat statKey
  | .equipmentChanged slot _ => .slot slot

def Message.value : Message → Value
  | .itemChanged _ n | .currencyChanged _ n | .statChanged _ n => .number n
  | .equipmentChanged _ itemType => .text itemType

/-- The value that is stored; a stat that cannot be read has none. -/
def stored (store : CharacterStore) (c : CharacterId) (s : EquipState) : Field → Option Value
  | .item itemType => some (.number (quantity s.tables c itemType))
  | .currency currencyKey => some (.number (balance s.tables c currencyKey))
  | .stat statKey => (statValue store s.tables c statKey).map .number
  | .slot slot => some (.text ((s.equippedItems.lookup (c, slot)).getD ""))

/-- The value of the last message about a field. -/
def lastSent (messages : List Message) (f : Field) : Option Value :=
  ((messages.filter fun m => m.field = f).getLast?).map Message.value

/-- The messages tell of what is stored from then on. -/
def Faithful (store : CharacterStore) (c : CharacterId) (s s' : EquipState)
    (messages : List Message) : Prop :=
  ∀ f, stored store c s' f = (lastSent messages f).or (stored store c s f)

def itemMessages (changes : List (String × Int)) : List Message :=
  changes.map fun (itemType, quantity) => .itemChanged itemType quantity

def currencyMessages (changes : List (String × Int)) : List Message :=
  changes.map fun (currencyKey, balance) => .currencyChanged currencyKey balance

def statMessages (changes : List (String × Int)) : List Message :=
  changes.map fun (statKey, value) => .statChanged statKey value

variable {store : CharacterStore} {c : CharacterId} {s s' s'' : EquipState}
  {messages messages' : List Message} {f : Field} {itemType key slot : String} {n : Int}

@[simp] theorem lastSent_nil : lastSent [] f = none := rfl

@[simp] theorem lastSent_append :
    lastSent (messages ++ messages') f = (lastSent messages' f).or (lastSent messages f) := by
  simp only [lastSent, List.filter_append, List.getLast?_append, Option.map_or]

@[simp] theorem lastSent_singleton {m : Message} :
    lastSent [m] f = if m.field = f then some m.value else none := by
  by_cases same : m.field = f <;> simp [lastSent, same]

theorem lastSent_cons {m : Message} :
    lastSent (m :: messages) f =
      (lastSent messages f).or (if m.field = f then some m.value else none) := by
  show lastSent ([m] ++ messages) f = _
  rw [lastSent_append, lastSent_singleton]

/-- Messages about other fields are not about this one. -/
theorem lastSent_eq_none (other : ∀ m ∈ messages, m.field ≠ f) : lastSent messages f = none := by
  rw [lastSent, List.filter_eq_nil_iff.mpr fun m here => by simpa using other m here]
  rfl

/-- All messages about the field carry one value. -/
theorem lastSent_eq_some {v : Value} (there : ∃ m ∈ messages, m.field = f)
    (same : ∀ m ∈ messages, m.field = f → m.value = v) : lastSent messages f = some v := by
  obtain ⟨m, here, own⟩ := there
  have nonempty : messages.filter (fun m => m.field = f) ≠ [] :=
    List.ne_nil_of_mem (List.mem_filter.mpr ⟨here, by simpa using own⟩)
  obtain ⟨mem, field⟩ := List.mem_filter.mp (List.getLast_mem nonempty)
  rw [lastSent, List.getLast?_eq_some_getLast nonempty, Option.map_some,
    same _ mem (by simpa using field)]

theorem Faithful.refl (same : ∀ f, stored store c s' f = stored store c s f) :
    Faithful store c s s' [] := same

theorem Faithful.trans (first : Faithful store c s s' messages)
    (second : Faithful store c s' s'' messages') :
    Faithful store c s s'' (messages ++ messages') := by
  intro f
  rw [second f, first f, lastSent_append, Option.or_assoc]

theorem Faithful.congr (h : Faithful store c s s' messages)
    (same : ∀ f, lastSent messages f = lastSent messages' f) :
    Faithful store c s s' messages' :=
  fun f => same f ▸ h f

/-! ### One value written -/

/-- The row that the field is read from. -/
def Field.row (c : CharacterId) : Field → Option RowKey
  | .item itemType => some (.item c itemType)
  | .currency currencyKey => some (.currency c currencyKey)
  | .stat _ => some (.character c)
  | .slot _ => none

theorem stored_congr (rows : ∀ k ∈ f.row c, s'.tables.lookup k = s.tables.lookup k)
    (slots : s'.equippedItems = s.equippedItems) : stored store c s' f = stored store c s f := by
  cases f with
  | item itemType => simp only [stored, quantity, rows _ rfl]
  | currency currencyKey => simp only [stored, balance, rows _ rfl]
  | stat statKey => simp only [stored, statValue, rows _ rfl]
  | slot slot => simp only [stored, slots]

/-- A message about the only field that is read from the row that has been written. -/
theorem Faithful.single {k : RowKey} {m : Message}
    (here : stored store c s' m.field = some m.value)
    (own : ∀ f, f.row c = some k → f = m.field)
    (others : ∀ k' ≠ k, s'.tables.lookup k' = s.tables.lookup k')
    (slots : s'.equippedItems = s.equippedItems) : Faithful store c s s' [m] := by
  intro f
  rw [lastSent_singleton]
  split
  next same => rw [← same, here, Option.some_or]
  next other =>
    rw [Option.none_or]
    exact stored_congr (fun k' row => others k' fun same => other (own f (same ▸ row)).symm) slots

theorem Faithful.item {tables : Tables} {exchanging : Bool} (here : quantity tables c itemType = n)
    (others : ∀ k ≠ .item c itemType, tables.lookup k = s.tables.lookup k) :
    Faithful store c s { s with tables, exchanging } [.itemChanged itemType n] := by
  refine .single (k := .item c itemType) (by simp [stored, Message.field, Message.value, here])
    (fun f row => ?_) others rfl
  cases f <;> simp_all [Field.row, Message.field]

theorem Faithful.currency {tables : Tables} {exchanging : Bool} (here : balance tables c key = n)
    (others : ∀ k ≠ .currency c key, tables.lookup k = s.tables.lookup k) :
    Faithful store c s { s with tables, exchanging } [.currencyChanged key n] := by
  refine .single (k := .currency c key) (by simp [stored, Message.field, Message.value, here])
    (fun f row => ?_) others rfl
  cases f <;> simp_all [Field.row, Message.field]

/-- One stat of the document is written. -/
theorem Faithful.stat {tables : Tables} {exchanging : Bool} {stats : Stats}
    (read : store.schema.resolveRead (stats.insert key (.number n)) key = .ok n)
    (before : s.tables.lookup (.character c) = some stats)
    (here : tables.lookup (.character c) = some (stats.insert key (.number n)))
    (others : ∀ k ≠ .character c, tables.lookup k = s.tables.lookup k) :
    Faithful store c s { s with tables, exchanging } [.statChanged key n] := by
  intro f
  rw [lastSent_singleton]
  split
  next same =>
    cases same
    simp only [Message.field, stored, statValue, here, Option.bind_some, read]
    rfl
  next other =>
    rw [Option.none_or]
    cases f with
    | stat key' =>
        have apart : key' ≠ key := fun same => other (same ▸ rfl)
        simp only [stored, statValue, here, before, Option.bind_some,
          resolveRead_insert_of_ne apart]
    | item | currency =>
        refine stored_congr (fun k row => others k ?_) rfl
        rintro rfl
        cases row
    | slot => rfl

theorem Faithful.equipment {exchanging : Bool}
    {equippedItems : AList fun _ : CharacterId × String => String}
    (here : (equippedItems.lookup (c, slot)).getD "" = itemType)
    (others : ∀ key ≠ (c, slot), equippedItems.lookup key = s.equippedItems.lookup key) :
    Faithful store c s { s with equippedItems, exchanging } [.equipmentChanged slot itemType] := by
  intro f
  rw [lastSent_singleton]
  split
  next same =>
    cases same
    simp only [Message.field, stored, here]
    rfl
  next other =>
    rw [Option.none_or]
    cases f with
    | slot slot' =>
        have apart : (c, slot') ≠ (c, slot) := by
          rintro ⟨⟩
          exact other rfl
        simp only [stored, others _ apart]
    | item | currency | stat => rfl

/-! ### Inventory and currency calls -/

section Calls

variable {α : Type} {t t' : Tables} {failure : Error}

theorem leads_upsertItem_returned {q : Int} :
    (upsertItem c itemType q failure).Leads (fun r t' => ∀ n, r = .ok n →
      quantity t' c itemType = n) t := by
  refine .bind ⟨nofun, fun o exec => ⟨nofun, ?_⟩⟩
  obtain ⟨image, -, rfl⟩ := Option.map_eq_some_iff.mp exec
  rintro n ⟨⟩
  exact congrArg (amount (.item c itemType)) (Finmap.lookup_insert t)

theorem leads_grantItem {q : Int} :
    (grantItem store c itemType q).Leads (fun r t' => ∀ n, r = .ok n →
      quantity t' c itemType = n) t := by
  unfold grantItem
  split
  · rintro _ ⟨⟩
  · exact .last fun owned t₁ => .last fun _ t₂ => leads_upsertItem_returned

/-- What is left is written back, also when nothing is. -/
theorem leads_writeRemaining {remaining : Int} {deleteFailure updateFailure : Error}
    (there : remaining ≠ 0 → (t.lookup (.item c itemType)).isSome) :
    (writeRemaining c itemType remaining deleteFailure updateFailure).Leads (fun r t' => ∀ b,
      r = .ok b → quantity t' c itemType = remaining) t := by
  unfold writeRemaining
  split
  next zero =>
    refine ⟨by rintro _ ⟨⟩, fun o exec => ⟨by rintro _ ⟨⟩, ?_⟩⟩
    rintro b ⟨⟩
    simp only [Stmt.exec] at exec
    split at exec
    next absent =>
      cases exec
      show amount _ (t.lookup _) = _
      rw [absent, zero]
      rfl
    · cases exec
      show amount _ ((t.erase (.item c itemType)).lookup _) = _
      rw [Finmap.lookup_erase, zero]
      rfl
  next some_left =>
    refine .executeUpdate (by rintro _ ⟨⟩) (fun absent => ?_)
      fun v w row written => ⟨by rintro _ ⟨⟩, ?_⟩
    · rw [absent] at there
      cases there some_left
    · rintro b ⟨⟩
      show amount _ ((t.insert (.item c itemType) w).lookup _) = _
      rw [Finmap.lookup_insert]
      exact Bounded.value_of_check written

theorem leads_removeItem {q : Int} :
    (removeItem c itemType q).Leads (fun r t' => ∀ n, r = .ok n →
      quantity t' c itemType = n) t := by
  unfold removeItem
  split
  · rintro _ ⟨⟩
  next positive =>
  refine .bind (.bind (leads_fetchOptional (by rintro _ ⟨⟩) ?_))
  show Program.Leads _ (if _ then _ else _) t
  split
  · rintro _ ⟨⟩
  next enough =>
  refine .bind ((leads_writeRemaining fun _ => ?_).mono fun r t' written => ?_)
  · cases row : t.lookup (.item c itemType) with
    | some q => rfl
    | none =>
        rw [row, amount_none] at enough
        omega
  · cases r with
    | error e => rintro _ ⟨⟩
    | ok b =>
        rintro n ⟨⟩
        exact written b rfl

theorem modifyCurrency_writes {delta : Int} :
    (modifyCurrency c key delta).Writes (· = .currency c key) := by
  refine .bind (.bind ⟨by simp [Stmt.written], fun _ => trivial⟩ fun _ => trivial) fun current => ?_
  split
  · trivial
  · split
    · trivial
    · refine .bind ⟨?_, fun _ => trivial⟩ fun _ => trivial
      rintro k ⟨⟩
      rfl

theorem leads_modifyCurrency {delta : Int} :
    (modifyCurrency c key delta).Leads (fun r t' => ∀ n, r = .ok n → balance t' c key = n) t := by
  refine .last fun current t₁ => ?_
  split
  · rintro _ ⟨⟩
  · split
    · rintro _ ⟨⟩
    next newBalance _ _ =>
      refine .bind ⟨by rintro _ ⟨⟩, fun o exec => ⟨by rintro _ ⟨⟩, ?_⟩⟩
      obtain ⟨image, written, rfl⟩ := Option.map_eq_some_iff.mp exec
      rintro n ⟨⟩
      refine (congrArg (amount (.currency c key)) (Finmap.lookup_insert t₁)).trans ?_
      obtain ⟨excluded, proposed, written⟩ := Option.bind_eq_some_iff.mp written
      have same : image = excluded := by
        split at written
        · exact (Option.some.inj (Option.ite_none_right_eq_some.mp written).2).symm
        · exact (Option.some.inj written).symm
      rw [same]
      exact Bounded.value_of_check proposed

/-! ### Stats -/

/-- The stat is written with the value that is returned, and can be read again. -/
def StatSet (store : CharacterStore) (c : CharacterId) (key : String) (n : Int) (t t' : Tables) :
    Prop :=
  ∃ stats : Stats, t.lookup (.character c) = some stats ∧
    store.schema.resolveRead (stats.insert key (.number n)) key = .ok n ∧
    t'.lookup (.character c) = some (stats.insert key (.number n))

theorem leads_applyStatDelta_returned {delta : Int} :
    (applyStatDelta store c key delta).Leads (fun r t' => ∀ n, r = .ok n →
      StatSet store c key n t t') t := by
  unfold applyStatDelta getStat
  refine .bind (.bind (.fetchOne (by rintro _ ⟨⟩) fun stats row => .ofExcept ?_))
  cases read : store.schema.resolveRead stats key with
  | error e => rintro _ ⟨⟩
  | ok v =>
  cases sum : I64.checkedAdd v delta with
  | none =>
      simp only [sum]
      rintro _ ⟨⟩
  | some newValue =>
  obtain ⟨fits, rfl⟩ := I64.checkedAdd_eq_some.mp sum
  simp only [sum]
  unfold setStat
  refine .bind (.bind (.ofExcept ?_))
  cases store.schema.validateWrite key (v + delta) with
  | error e => rintro _ ⟨⟩
  | ok u =>
  refine .bind (.executeUpdate (by rintro _ ⟨⟩) (fun absent => ?_)
    fun stats' w row' set => ⟨by rintro _ ⟨⟩, ?_⟩)
  · rw [row] at absent
    cases absent
  · obtain rfl := Option.some.inj (row.symm.trans row')
    obtain rfl := Option.some.inj set
    rintro n ⟨⟩
    exact ⟨stats, row, resolveRead_insert_self read fits, Finmap.lookup_insert t⟩

theorem leads_applyStatDelta_faithful {delta : Int} :
    (EquipM.call c (applyStatDelta store c key delta)).Leads (fun r s' => ∀ n, r = .ok n →
      Faithful store c s s' [.statChanged key n]) s := by
  refine .call ((leads_applyStatDelta_returned.and (applyStatDelta_writes.frame s.tables)).mono ?_)
  rintro r tables ⟨returned, others⟩ exchanging - n rfl
  obtain ⟨stats, before, read, here⟩ := returned n rfl
  exact .stat read before here others

end Calls

/-! ### Equipping -/

theorem lastSent_itemMessages {changes : List (String × Int)}
    (other : ∀ itemType, f ≠ .item itemType) :
    lastSent (itemMessages changes) f = none :=
  lastSent_eq_none fun m here => by
    obtain ⟨change, -, rfl⟩ := List.mem_map.mp here
    exact (other change.1).symm

theorem lastSent_statMessages {changes : List (String × Int)} (other : ∀ key, f ≠ .stat key) :
    lastSent (statMessages changes) f = none :=
  lastSent_eq_none fun m here => by
    obtain ⟨change, -, rfl⟩ := List.mem_map.mp here
    exact (other change.1).symm

variable {schema : EquipmentSchema} {declared : EquipmentItem}

theorem leads_call_item (store : CharacterStore) {p : StoreM Int}
    (returned : p.Leads (fun r t' => ∀ n, r = .ok n → quantity t' c itemType = n) s.tables)
    (writes : p.Writes (· = .item c itemType)) :
    (EquipM.call c p).Leads (fun r s' => ∀ n, r = .ok n →
      Faithful store c s s' [.itemChanged itemType n]) s := by
  refine .call ((returned.and (writes.frame s.tables)).mono ?_)
  rintro r tables ⟨returned, others⟩ exchanging - n rfl
  exact .item (returned n rfl) others

theorem leads_call_currency (store : CharacterStore) {delta : Int} :
    (EquipM.call c (modifyCurrency c key delta)).Leads (fun r s' => ∀ n, r = .ok n →
      Faithful store c s s' [.currencyChanged key n]) s := by
  refine .call ((leads_modifyCurrency.and (modifyCurrency_writes.frame s.tables)).mono ?_)
  rintro r tables ⟨returned, others⟩ exchanging - n rfl
  exact .currency (returned n rfl) others

theorem leads_applyStatDeltas {deltas : List (String × Int64)} :
    (applyStatDeltas store c deltas).Leads (fun r s' => ∀ changes, r = .ok changes →
      Faithful store c s s' (statMessages changes)) s := by
  induction deltas generalizing s with
  | nil =>
      refine .pure ?_
      rintro changes ⟨⟩
      exact .refl fun _ => rfl
  | cons d deltas ih =>
      refine .bind (leads_applyStatDelta_faithful.mono fun r s₁ first => ?_)
      cases r with
      | error e => exact nofun
      | ok newValue =>
      refine .bind (ih.mono fun r s₂ rest => ?_)
      cases r with
      | error e => exact nofun
      | ok changes =>
      refine .pure ?_
      rintro all ⟨⟩
      exact (first newValue rfl).trans (rest changes rfl)

theorem leads_clearSlot (store : CharacterStore) :
    (clearSlot c slot).Leads (fun r s' => ∀ u, r = .ok u →
      Faithful store c s s' [.equipmentChanged slot ""]) s := by
  refine .execute nofun fun s' performed => ⟨nofun, ?_⟩
  cases performed
  rintro u ⟨⟩
  exact .equipment (by rw [AList.lookup_erase]; rfl) fun key other => AList.lookup_erase_ne other

theorem leads_recordEquipped (store : CharacterStore) :
    (recordEquipped c slot itemType).Leads (fun r s' => ∀ u, r = .ok u →
      Faithful store c s s' [.equipmentChanged slot itemType]) s := by
  refine .execute nofun fun s' performed => ⟨nofun, ?_⟩
  obtain ⟨-, performed⟩ := Option.ite_none_right_eq_some.mp performed
  cases performed
  rintro u ⟨⟩
  exact .equipment (by rw [AList.lookup_insert]; rfl) fun key other => AList.lookup_insert_ne other

/-- What the handler sends for an unequip that has gone through. -/
def unequipMessages (outcome : UnequipOutcome) : List Message :=
  statMessages outcome.statChanges ++ itemMessages outcome.itemChanges ++
    [.equipmentChanged outcome.slot ""]

def equipMessages (outcome : EquipOutcome) : List Message :=
  statMessages outcome.statChanges ++ itemMessages outcome.itemChanges ++
    [.equipmentChanged outcome.slot outcome.itemType]

theorem leads_unequipInner :
    (unequipInner store schema c slot itemType).Leads (fun r s' => ∀ outcome, r = .ok outcome →
      outcome.slot = slot ∧ Faithful store c s s' (unequipMessages outcome)) s := by
  refine .bind (leads_applyStatDeltas.mono fun r s₁ stats => ?_)
  cases r with
  | error e => exact nofun
  | ok statChanges =>
  refine .bind ((leads_call_item store leads_grantItem grantItem_writes).mono fun r s₂ item => ?_)
  cases r with
  | error e => exact nofun
  | ok newQuantity =>
  refine .bind ((leads_clearSlot store).mono fun r s₃ cleared => ?_)
  cases r with
  | error e => exact nofun
  | ok u =>
  refine .pure ?_
  rintro outcome ⟨⟩
  exact ⟨rfl, ((stats statChanges rfl).trans (item newQuantity rfl)).trans (cleared u rfl)⟩

theorem leads_unequipItem :
    (unequipItem store schema c slot).Leads (fun r s' => ∀ outcome, r = .ok outcome →
      Faithful store c s s' (unequipMessages outcome)) s := by
  refine .bind (leads_equippedInSlot nofun ?_)
  cases s.equippedItems.lookup (c, slot) with
  | none => exact .throw nofun
  | some itemType =>
      exact leads_unequipInner.mono fun r s' unequipped outcome returned =>
        (unequipped outcome returned).2

/-- The slot is empty afterwards, which is not told. -/
theorem leads_displace :
    (displace store schema c slot).Leads (fun r s' => ∀ changes, r = .ok changes →
      Faithful store c s s'
        (statMessages changes.1 ++ itemMessages changes.2 ++ [.equipmentChanged slot ""])) s := by
  refine .bind (leads_equippedInSlot nofun ?_)
  cases row : s.equippedItems.lookup (c, slot) with
  | none =>
      refine .pure ?_
      rintro changes ⟨⟩
      have empty : Faithful store c s s [.equipmentChanged slot ""] :=
        .equipment (by rw [row]; rfl) fun _ _ => rfl
      exact empty
  | some occupantType =>
      refine .bind (leads_unequipInner.mono fun r s₁ unequipped => ?_)
      cases r with
      | error e => exact nofun
      | ok occupant =>
      refine .pure ?_
      rintro changes ⟨⟩
      obtain ⟨same, faithful⟩ := unequipped occupant rfl
      exact same ▸ faithful

theorem leads_equipItem :
    (equipItem store schema c itemType).Leads (fun r s' => ∀ outcome, r = .ok outcome →
      Faithful store c s s' (equipMessages outcome)) s := by
  refine .bind (.ofExcept ?_)
  cases schema.resolve itemType with
  | error e => exact nofun
  | ok declared =>
  have reading : Reading (itemQuantity c itemType) :=
    .bind reading_fetchOptional fun _ => trivial
  refine .bind (.call ((reading.unchanged s.tables).mono fun r tables same exchanging _ => ?_))
  cases r with
  | error e => exact nofun
  | ok owned =>
  subst same
  show EquipM.Leads _ (if _ then _ else _) _
  split
  · exact .throw nofun
  refine .bind (leads_displace.mono fun r s₁ displaced => ?_)
  cases r with
  | error e => exact nofun
  | ok changes =>
  obtain ⟨statChanges, itemChanges⟩ := changes
  refine .bind (leads_applyStatDeltas.mono fun r s₂ applied => ?_)
  cases r with
  | error e => exact nofun
  | ok newChanges =>
  refine .bind ((leads_call_item store leads_removeItem removeItem_writes).mono
    fun r s₃ removed => ?_)
  cases r with
  | error e => exact nofun
  | ok remaining =>
  refine .bind ((leads_recordEquipped store).mono fun r s₄ recorded => ?_)
  cases r with
  | error e => exact nofun
  | ok u =>
  refine .pure ?_
  rintro outcome ⟨⟩
  have whole := (((displaced _ rfl).trans (applied _ rfl)).trans (removed _ rfl)).trans
    (recorded _ rfl)
  -- the messages are sorted by kind, which keeps the order of those about one field
  refine Faithful.congr whole fun f => ?_
  have told : equipMessages ⟨declared.slot, itemType, statChanges ++ newChanges,
      itemChanges ++ [(itemType, remaining)]⟩ =
      (statMessages statChanges ++ statMessages newChanges) ++
        (itemMessages itemChanges ++ [.itemChanged itemType remaining]) ++
        [.equipmentChanged declared.slot itemType] := by
    simp [equipMessages, statMessages, itemMessages]
  rw [told]
  simp only [lastSent_append, lastSent_singleton, Message.field, Message.value]
  cases f with
  | item t => simp [lastSent_statMessages]
  | stat key => simp [lastSent_itemMessages]
  | currency key => simp [lastSent_itemMessages, lastSent_statMessages]
  | slot slot => by_cases same : declared.slot = slot <;> simp [same, lastSent_itemMessages, lastSent_statMessages]


end WorldZero.Server.InventoryView
