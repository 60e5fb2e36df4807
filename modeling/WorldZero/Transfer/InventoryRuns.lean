import WorldZero.Character.Stacks
import WorldZero.Transfer.Execute

/-!
# Runs over the inventory

Grants, removals, crafts, trades, equips, unequips and transfers of any characters, one call
after the other on the same tables, each under any faults. A transfer is given here by its
statements on these tables, between what the other tables answer; `transferInner_run` says that
a transfer which `TransferExecutor` commits is one of their runs.
-/

namespace WorldZero.Transfer

open Sql Validation Character RealmDirectory

/-! ### The statements of a transfer -/

/-- The ticket's row is locked, and one unit is taken from it. -/
def takeTicket (c : CharacterId) (itemType : String) : StoreM Unit := do
  let row ← Program.fetchOptionalForUpdate (RowKey.item c itemType)
    (.wrap "transfer" "failed to check ticket item")
  let current := row.map Bounded.value
  if current.getD 0 < 1 then .throw (.new "transfer"
    (s!"transfer requires ticket item {debugStr itemType}, which character {c} " ++
      "does not have"))
  else if current = some 1 then do
    let _ ← Program.executeDelete (RowKey.item c itemType)
      (.wrap "transfer" "failed to consume ticket item")
    pure ()
  else do
    let _ ← Program.executeUpdate (RowKey.item c itemType)
      (fun quantity => Bounded.check (quantity.value - 1))
      (.wrap "transfer" "failed to consume ticket item")
    pure ()

/-- What the other tables and the purchase verifier answer in the course of a transfer. -/
structure Elsewhere where
  /-- The realms, the liveness row and the gate. -/
  gate : Except Error TransferGate
  verifyPurchase : String → Except Error Bool
  audit : Except Error Unit

/-- The statements of `transfer_inner` on the characters and their items. -/
def transferStatements (request : TransferRequest) (elsewhere : Elsewhere) : StoreM Unit := do
  let row ← Program.fetchOptionalForUpdate (RowKey.character request.characterId)
    (.wrap "transfer" "failed to load character")
  match row with
  | none => .throw (.new "transfer" s!"no character with id {request.characterId}")
  | some stats => do
      let gate ← .ofExcept elsewhere.gate
      match gate with
      | .open => pure ()
      | .ticketItem itemType => takeTicket request.characterId itemType
      | .purchase productId => do
          let verified ← .ofExcept (elsewhere.verifyPurchase productId)
          .ofExcept (ensure verified (.new "transfer"
            (s!"transfer requires a verified purchase ({debugStr productId}), none found for " ++
              s!"character {request.characterId}")))
      let _ ← Program.executeUpdate (RowKey.character request.characterId)
        (fun _ => some (request.destinationSchema.migrateStats stats))
        (.wrap "transfer" "failed to update character realm")
      .ofExcept elsewhere.audit

/-! ### The same transfer -/

/-- The row of the tables as it is stored. -/
def storedRow {Position : Type} (db : Database Position) : ∀ k, Option (Row k)
  | .character c => (db.characters.find c).map CharacterRow.stats
  | .item c itemType => (db.items.find (c, itemType)).map ItemRow.quantity
  | .currency c currencyKey => (db.currency.find (c, currencyKey)).map CurrencyRow.balance

/-- The tables hold the rows of the database. -/
def Represents {Position : Type} (db : Database Position) (t : Tables) : Prop :=
  ∀ k, t.lookup k = storedRow db k

variable {Position : Type} {db db' : Database Position} {t : Tables} {c : CharacterId}
  {itemType : String}

theorem Represents.deleteItem (represents : Represents db t) :
    Represents (deleteItem db (c, itemType)) (t.erase (.item c itemType)) := by
  intro k
  by_cases same : k = .item c itemType
  · subst same
    rw [Finmap.lookup_erase, storedRow, Transfer.deleteItem, Rows.find_delete]
    cases found : db.items.find (c, itemType) with
    | none => rfl
    | some item => simp [Option.filter, (Rows.find_eq_some.mp found).2]
  · rw [Finmap.lookup_erase_ne same, represents]
    cases k with
    | character | currency => rfl
    | item c' itemType' =>
        simp only [storedRow, Transfer.deleteItem, Rows.find_delete]
        cases found : db.items.find (c', itemType') with
        | none => rfl
        | some item =>
            have other : item.key ≠ (c, itemType) := by
              rw [(Rows.find_eq_some.mp found).2]
              rintro ⟨⟩
              exact same rfl
            simp [Option.filter, other]

theorem Represents.setQuantity {quantity : Quantity} {item : ItemRow}
    (represents : Represents db t) (found : db.items.find (c, itemType) = some item) :
    Represents (setQuantity db (c, itemType) quantity) (t.insert (.item c itemType) quantity) := by
  intro k
  by_cases same : k = .item c itemType
  · subst same
    rw [Finmap.lookup_insert, storedRow, find_setQuantity, found]
    simp [(Rows.find_eq_some.mp found).2]
  · rw [Finmap.lookup_insert_of_ne t same, represents]
    cases k with
    | character | currency => rfl
    | item c' itemType' =>
        rw [storedRow, storedRow, find_setQuantity]
        cases found' : db.items.find (c', itemType') with
        | none => rfl
        | some item' =>
            have other : item'.key ≠ (c, itemType) := by
              rw [(Rows.find_eq_some.mp found').2]
              rintro ⟨⟩
              exact same rfl
            simp [other]

theorem Represents.updateRealm {realmId : RealmId} {stats : Stats} {row : CharacterRow Position}
    (represents : Represents db t) (found : db.characters.find c = some row)
    (updated : updateRealm db c realmId stats = some db') :
    Represents db' (t.insert (.character c) stats) := by
  obtain ⟨⟨characters, homes, rfl⟩, moved⟩ := updateRealm_eq_some updated
  intro k
  by_cases same : k = .character c
  · subst same
    rw [Finmap.lookup_insert, storedRow, moved, found]
    simp
  · rw [Finmap.lookup_insert_of_ne t same, represents]
    cases k with
    | item | currency => rfl
    | character c' =>
        have other : c' ≠ c := fun equal => same (equal ▸ rfl)
        rw [storedRow, storedRow, moved]
        simp [other]

theorem returns_takeTicket (represents : Represents db t)
    (consumed : consumeTicket db c itemType = .ok db') :
    (takeTicket c itemType).Returns t fun _ t' => Represents db' t' := by
  have row := represents (.item c itemType)
  unfold consumeTicket at consumed
  unfold takeTicket
  refine .bind (.fetchOptionalForUpdate ?_)
  rw [row]
  cases found : db.items.find (c, itemType) with
  | none => simp [found] at consumed
  | some item =>
      have here : t.lookup (.item c itemType) = some item.quantity := by
        rw [row, storedRow, found]
        rfl
      simp only [found, Option.map_some, Option.getD_some, Option.some.injEq] at consumed
      simp only [storedRow, found, Option.map_some, Option.getD_some, Option.some.injEq]
      split at consumed
      · cases consumed
      next enough =>
        rw [if_neg enough]
        split at consumed
        next last =>
          cases consumed
          rw [if_pos last]
          exact .bind (.executeDelete here (.pure represents.deleteItem))
        next several =>
          rw [if_neg several]
          obtain ⟨quantity, checked, done⟩ := bind_ok.mp consumed
          cases done
          exact .bind (.executeUpdate here (okOrElse_ok.mp checked)
            (.pure (represents.setQuantity found)))

/-- A transfer that is committed is a run of its statements, which leaves the rows that it
leaves. -/
theorem transferInner_run {executor : TransferExecutor} {request : TransferRequest} {id : Uuid}
    (represents : Represents db t) (done : executor.transferInner db request id = .ok db') :
    ∃ gate t', (transferStatements request
        ⟨.ok gate, executor.verifyPurchase request.characterId, .ok ()⟩).run t = (.ok (), t') ∧
      Represents db' t' := by
  simp only [TransferExecutor.transferInner, bind_ok, AuditContext.report_ok, okOrElse_ok,
    ensure_ok, exists_const, decide_eq_true_eq] at done
  obtain ⟨row, found, -, -, -, -, -, -, -, gate, -, db₁, passed, db₂, updated, committed⟩ := done
  cases committed
  have here : t.lookup (.character request.characterId) = some row.stats := by
    rw [represents, storedRow, found]
    rfl
  have updates : ∀ t₁, Represents db₁ t₁ → (do
      let _ ← Program.executeUpdate (RowKey.character request.characterId)
        (fun _ => some (request.destinationSchema.migrateStats row.stats))
        (.wrap "transfer" "failed to update character realm")
      .ofExcept (.ok ()) : StoreM Unit).Returns t₁ fun _ t' => Represents db₂ t' := by
    intro t₁ represents₁
    obtain ⟨⟨items, rfl⟩, -⟩ := passGate_ok passed
    have there : t₁.lookup (.character request.characterId) = some row.stats := by
      rw [represents₁, storedRow, found]
      rfl
    exact .bind (.executeUpdate there rfl (.ofExcept rfl (represents₁.updateRealm found updated)))
  suffices (transferStatements request
      ⟨.ok gate, executor.verifyPurchase request.characterId, .ok ()⟩).Returns t
        fun _ t' => Represents db₂ t' by
    obtain ⟨u, t', run, after⟩ := this
    exact ⟨gate, t', run, after⟩
  refine .bind (.fetchOptionalForUpdate ?_)
  rw [here]
  refine .bind (.ofExcept rfl ?_)
  cases gate with
  | «open» =>
      cases passed
      exact updates t represents
  | ticketItem itemType =>
      exact .bind ((returns_takeTicket represents passed).mono fun _ t₁ => updates t₁)
  | purchase productId =>
      obtain ⟨verified, answered, passed⟩ := bind_ok.mp passed
      obtain ⟨purchased, done⟩ := then_ok.mp passed
      cases done
      exact .bind (.ofExcept answered (.bind (.ofExcept purchased (updates t represents))))

theorem frugal_takeTicket : Frugal (takeTicket c itemType) := by
  refine .bind reading_fetchOptionalForUpdate.inserts fun row => ?_
  dsimp only
  split
  · trivial
  · split
    · exact .bind frugal_delete fun _ => trivial
    · exact .bind frugal_update fun _ => trivial

theorem frugal_transferStatements {request : TransferRequest} {elsewhere : Elsewhere} :
    Frugal (transferStatements request elsewhere) := by
  refine .bind reading_fetchOptionalForUpdate.inserts fun row => ?_
  cases row with
  | none => trivial
  | some stats =>
      refine .bind .ofExcept fun gate => ?_
      have updates : ∀ u : Unit, Frugal (do
          let _ ← Program.executeUpdate (RowKey.character request.characterId)
            (fun _ => some (request.destinationSchema.migrateStats stats))
            (.wrap "transfer" "failed to update character realm")
          .ofExcept elsewhere.audit) := fun _ => .bind frugal_update fun _ => .ofExcept
      cases gate with
      | «open» => exact updates ()
      | ticketItem itemType => exact .bind frugal_takeTicket updates
      | purchase productId => exact .bind .ofExcept fun _ => .bind .ofExcept updates

/-! ### Runs of calls -/

inductive InventoryCall where
  | grantItem (c : CharacterId) (itemType : String) (quantity : Int)
  | removeItem (c : CharacterId) (itemType : String) (quantity : Int)
  | craftItem (c : CharacterId) (recipe : Recipe) (rolls : ℕ → Bool)
  | executeTrade (characterA : CharacterId) (offerA : TradeOfferInput)
      (characterB : CharacterId) (offerB : TradeOfferInput)
  | equipItem (c : CharacterId) (itemType : String)
  | unequipItem (c : CharacterId) (slot : String)
  | transfer (request : TransferRequest) (elsewhere : Elsewhere)

/-- The state that a call leaves, whatever it returns. -/
def InventoryCall.exec (store : CharacterStore) (schema : EquipmentSchema) (faults : Faults)
    (s : EquipState) : InventoryCall → EquipState
  | .grantItem c itemType quantity =>
      { s with
        tables := ((Character.grantItem store c itemType quantity).runFaulty faults s.tables).2.1 }
  | .removeItem c itemType quantity =>
      { s with
        tables := ((Character.removeItem c itemType quantity).runFaulty faults s.tables).2.1 }
  | .craftItem c recipe rolls =>
      { s with tables := ((Character.craftItem store c recipe rolls).transactionFaulty
          (.wrap "character" "failed to commit craft") faults s.tables).2.1 }
  | .executeTrade characterA offerA characterB offerB =>
      { s with tables :=
          ((Character.executeTrade store characterA offerA characterB offerB).transactionFaulty
            (.wrap "character" "failed to commit trade") faults s.tables).2.1 }
  | .equipItem c itemType => (EquipCall.exec store schema c faults s (.equipItem itemType)).2
  | .unequipItem c slot => (EquipCall.exec store schema c faults s (.unequipItem slot)).2
  | .transfer request elsewhere =>
      { s with tables := ((transferStatements request elsewhere).transactionFaulty
          (.wrap "transfer" "failed to commit transfer") faults s.tables).2.1 }

def inventoryStep (store : CharacterStore) (schema : EquipmentSchema) (s : EquipState)
    (l : InventoryCall × Faults) : Option EquipState := some (l.1.exec store schema l.2 s)

variable {store : CharacterStore} {schema : EquipmentSchema} {s s' : EquipState}

theorem Keeps.transaction {α : Type} {p : StoreM α} {max : ℕ} {commitFailure : Error}
    (h : p.Keeps (Capped max)) (faults : Faults) (t : Tables) :
    Capped max t (p.transactionFaulty commitFailure faults t).2.1 :=
  Program.leads_transactionFaulty (Capped.refl t) ((h t).mono fun _ _ kept _ _ => kept) faults

/-- Whatever a call is and whatever befalls it, the cap is kept. -/
theorem InventoryCall.capped (call : InventoryCall) (faults : Faults) (s : EquipState) :
    Capped store.inventoryConfig.maxDistinctItemTypes s.tables
      (call.exec store schema faults s).tables := by
  cases call with
  | grantItem c itemType quantity =>
      exact Program.leads_runFaulty (keepsCap_grantItem s.tables) faults
  | removeItem c itemType quantity =>
      exact Program.leads_runFaulty (frugal_removeItem.keepsCap s.tables) faults
  | craftItem c recipe rolls => exact Keeps.transaction keepsCap_craftItem faults s.tables
  | executeTrade characterA offerA characterB offerB =>
      exact Keeps.transaction keepsCap_executeTrade faults s.tables
  | equipItem c itemType => exact keepsCap_equipItem { s with exchanging := false } faults
  | unequipItem c slot => exact keepsCap_unequipItem { s with exchanging := false } faults
  | transfer request elsewhere =>
      exact Keeps.transaction frugal_transferStatements.keepsCap faults s.tables

/-- The rows of `items` for a character and an item type. -/
def itemRows (t : Tables) (c : CharacterId) (itemType : String) : Multiset (Σ k, Row k) :=
  t.entries.filter fun row => RowKey.item c itemType = row.1

theorem card_itemRows_le : (itemRows t c itemType).card ≤ 1 := by
  have distinct := Multiset.nodup_iff_count_le_one.mp (Multiset.nodup_keys.mpr t.nodupKeys)
    (.item c itemType)
  rwa [Multiset.keys, Multiset.count_map] at distinct

theorem amount_itemRows_pos {row : Σ k, Row k} (here : row ∈ itemRows t c itemType) :
    0 < amount row.1 (some row.2) := by
  obtain ⟨k, row⟩ := row
  obtain ⟨-, rfl⟩ := Multiset.mem_filter.mp here
  exact Bounded.lower row

/-- In every run of calls, under any faults, from any state on: an item type of a character has
at most one row, every quantity is positive, and a character within the cap stays within it.
The first two are the `UNIQUE` and the `CHECK` of the table, which its type carries. -/
theorem inventory_well_formed {calls : List (InventoryCall × Faults)}
    (run : Transition.exec (inventoryStep store schema) s calls = some s') :
    (∀ c itemType, (itemRows s'.tables c itemType).card ≤ 1) ∧
      (∀ c itemType, ∀ row ∈ itemRows s'.tables c itemType, 0 < amount row.1 (some row.2)) ∧
      ∀ c, distinctCount s.tables c ≤ store.inventoryConfig.maxDistinctItemTypes →
        distinctCount s'.tables c ≤ store.inventoryConfig.maxDistinctItemTypes := by
  refine ⟨fun _ _ => card_itemRows_le, fun _ _ _ => amount_itemRows_pos, ?_⟩
  refine Transition.exec_invariant_of_step (I := fun s' => Capped _ s.tables s'.tables)
    (fun s₁ l s₂ kept taken => ?_) (Capped.refl s.tables) run
  obtain rfl := Option.some.inj taken
  exact kept.trans (l.1.capped l.2 s₁)

namespace FullInventory

open Character.Wardrobe

/-- Two item types fit. What is worn cannot be taken off while two others are held. -/
def calls : List (InventoryCall × Faults) :=
  [(.equipItem knight "cap", []), (.grantItem knight "torch" 2, [none, none, some .lost]),
    (.grantItem knight "rope" 1, []), (.unequipItem knight "head", []),
    (.grantItem knight "gem" 1, []), (.removeItem knight "rope" 1, []),
    (.unequipItem knight "head", []),
    (.transfer ⟨knight, ⟨1⟩, (armory 2).schema, ⟨0⟩⟩
      ⟨.ok (.ticketItem "torch"), fun _ => .ok false, .ok ()⟩, [])]

theorem inventory_well_formed_full : ∃ s',
    Transition.exec (inventoryStep (armory 2) headgear) (holding ["cap"]) calls = some s' ∧
      (itemRows s'.tables knight "torch").card ≤ 1 ∧ distinctCount s'.tables knight ≤ 2 ∧
      quantity s'.tables knight "torch" = 1 ∧ quantity s'.tables knight "cap" = 1 := by
  obtain ⟨s', run, left⟩ : ∃ s',
      Transition.exec (inventoryStep (armory 2) headgear) (holding ["cap"]) calls = some s' ∧
      quantity s'.tables knight "torch" = 1 ∧ quantity s'.tables knight "cap" = 1 :=
    Transition.exec_reaches (by decide)
  obtain ⟨unique, -, capped⟩ := inventory_well_formed run
  exact ⟨s', run, unique knight "torch", capped knight (by decide), left⟩

end FullInventory

end WorldZero.Transfer
