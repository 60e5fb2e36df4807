import WorldZero.Character.AttributeSchema
import WorldZero.RealmDirectory.Database
import WorldZero.Validation

/-!
# Transfers between bound realms

A transfer is one transaction: a call that fails returns no tables, only its error and
what it had learned for the audit, and the record of the failure is written afterwards.
Whether a purchase is verified is up to a parameter.
-/

namespace WorldZero.Transfer

open Sql Validation Character RealmDirectory Server.Login

variable {Position : Type}

/-! ### Gates -/

inductive TransferGate where
  | open
  | ticketItem (itemType : String)
  | purchase (productId : String)
  deriving DecidableEq

def TransferGate.asDbType : TransferGate → GateType
  | .open => .open
  | .ticketItem _ => .ticketItem
  | .purchase _ => .purchase

def rowToGate (row : GateRow) : Except Error TransferGate :=
  match row.gateType with
  | .open => .ok .open
  | .ticketItem => do
      let itemType ← okOrElse row.ticketItemType
        (.new "transfer" "ticket_item gate row missing ticket_item_type")
      return .ticketItem itemType
  | .purchase => do
      let productId ← okOrElse row.purchaseProductId
        (.new "transfer" "purchase gate row missing purchase_product_id")
      return .purchase productId

/-- `TransferGateStore::get`: no row means open. -/
def gateOf (db : Database Position) (sourceRealmId destinationRealmId : RealmId) :
    Except Error TransferGate :=
  match db.transferGates.find (sourceRealmId, destinationRealmId) with
  | none => .ok .open
  | some row => rowToGate row

/-! ### The executor -/

structure TransferRequest where
  characterId : CharacterId
  destinationRealmId : RealmId
  destinationSchema : AttributeSchema
  initiatedBy : AccountId

/-- What has been learned so far. -/
structure AuditContext where
  sourceRealmId : Option RealmId := none
  gateType : Option GateType := none

/-- An error is reported with what had been learned before it. -/
def AuditContext.report {α : Type} (ctx : AuditContext) : Except Error α →
    Except (Error × AuditContext) α
  | .ok a => .ok a
  | .error e => .error (e, ctx)

structure TransferExecutor where
  verifyPurchase : CharacterId → String → Except Error Bool

/-- `TransferAuditLog::record`. -/
def record (db : Database Position) (entry : TransferLogRecord) : Database Position :=
  { db with transferLog := db.transferLog ++ [entry] }

/-- `UPDATE items SET quantity = … WHERE character_id = $1 AND item_type = $2`. -/
def setQuantity (db : Database Position) (key : CharacterId × String) (quantity : Quantity) :
    Database Position :=
  { db with
    items := db.items.update (fun row => row.key = key) (fun row => { row with quantity })
      (by intro; rfl) }

/-- `DELETE FROM items WHERE character_id = $1 AND item_type = $2`. -/
def deleteItem (db : Database Position) (key : CharacterId × String) : Database Position :=
  { db with items := db.items.delete fun row => row.key = key }

/-- One unit of the item is taken; the last one takes the row with it. -/
def consumeTicket (db : Database Position) (characterId : CharacterId) (itemType : String) :
    Except Error (Database Position) :=
  let current := (db.items.find (characterId, itemType)).map fun row => row.quantity.value
  if current.getD 0 < 1 then
    .error (.new "transfer"
      (s!"transfer requires ticket item {debugStr itemType}, which character {characterId} " ++
        "does not have"))
  else if current = some 1 then .ok (deleteItem db (characterId, itemType))
  else do
    let quantity ← okOrElse (Bounded.check (current.getD 0 - 1))
      (.wrap "transfer" "failed to consume ticket item")
    return setQuantity db (characterId, itemType) quantity

/-- `UPDATE characters SET realm_id = $2, stats = $3 WHERE id = $1`, under the reference to
the realm. -/
def updateRealm (db : Database Position) (characterId : CharacterId) (realmId : RealmId)
    (stats : Stats) : Option (Database Position) :=
  if known : (db.realms.find realmId).isSome then
    some { db with
      characters :=
        db.characters.update (fun c => c.id = characterId)
          (fun c => { c with realmId, stats }) (by intro; rfl)
      homes := fun c here => by
        obtain ⟨old, there, rfl⟩ := (Rows.mem_update (by intro; rfl)).mp here
        split
        · obtain ⟨realm, found⟩ := Option.isSome_iff_exists.mp known
          exact ⟨realm, Rows.find_eq_some.mp found⟩
        · exact db.homes old there }
  else none

namespace TransferExecutor

variable (executor : TransferExecutor) (db : Database Position) (request : TransferRequest)

/-- The gate lets the character through, at the price of its ticket. -/
def passGate : TransferGate → Except Error (Database Position)
  | .open => .ok db
  | .ticketItem itemType => consumeTicket db request.characterId itemType
  | .purchase productId => do
      let verified ← executor.verifyPurchase request.characterId productId
      ensure verified (.new "transfer"
        (s!"transfer requires a verified purchase ({debugStr productId}), none found for " ++
          s!"character {request.characterId}"))
      return db

/-- `id` is the fresh identifier of the audit record. -/
def transferInner (id : Uuid) : Except (Error × AuditContext) (Database Position) := do
  let ctx : AuditContext := {}
  let row ← ctx.report (okOrElse (db.characters.find request.characterId)
    (.new "transfer" s!"no character with id {request.characterId}"))
  let sourceRealmId := row.realmId
  let ctx := { ctx with sourceRealmId := some sourceRealmId }
  let sourceRealm ← ctx.report (okOrElse (db.realms.find sourceRealmId)
    (.new "transfer" s!"character's own realm {sourceRealmId} no longer exists"))
  ctx.report (ensure (sourceRealm.openOrBound ≠ .openRealm) (.new "transfer"
    (s!"character {request.characterId} is on an open realm and cannot be transferred " ++
      "(it can already log into any realm in its group)")))
  let destinationRealm ← ctx.report (okOrElse (db.realms.find request.destinationRealmId)
    (.new "transfer" s!"no realm with id {request.destinationRealmId}"))
  ctx.report (ensure (destinationRealm.openOrBound ≠ .openRealm) (.new "transfer"
    s!"realm {request.destinationRealmId} is open and is not a valid transfer destination"))
  ctx.report (ensure (!BoundLiveness.isLive (db.boundLiveness request.characterId) db.now)
    (.new "transfer"
      s!"character {request.characterId} is currently logged in and cannot be transferred"))
  let gate ← ctx.report (gateOf db sourceRealmId request.destinationRealmId)
  let ctx := { ctx with gateType := some gate.asDbType }
  let db ← ctx.report (executor.passGate db request gate)
  let migratedStats := request.destinationSchema.migrateStats row.stats
  let db ← ctx.report (okOrElse
    (updateRealm db request.characterId request.destinationRealmId migratedStats)
    (.wrap "transfer" "failed to update character realm"))
  return record db
    { id
      characterId := request.characterId
      sourceRealmId := ctx.sourceRealmId
      destinationRealmId := request.destinationRealmId
      gateType := ctx.gateType
      initiatedBy := request.initiatedBy
      outcome := .success }

/-- The transaction, and after its failure the record of it. -/
def transfer (successId failureId : Uuid) : Except Error Unit × Database Position :=
  match executor.transferInner db request successId with
  | .ok db => (.ok (), db)
  | .error (e, ctx) =>
      (.error e, record db
        { id := failureId
          characterId := request.characterId
          sourceRealmId := ctx.sourceRealmId
          destinationRealmId := request.destinationRealmId
          gateType := ctx.gateType
          initiatedBy := request.initiatedBy
          outcome := .failed (toString e) })

end TransferExecutor

/-! ### What a transfer does -/

theorem AuditContext.report_ok {α : Type} {ctx : AuditContext} {x : Except Error α} {a : α} :
    ctx.report x = .ok a ↔ x = .ok a := by
  cases x <;> simp [AuditContext.report]

/-- How many units of an item a character has. -/
def quantityOf (db : Database Position) (characterId : CharacterId) (itemType : String) : Int :=
  ((db.items.find (characterId, itemType)).map fun row => row.quantity.value).getD 0

variable {db db' : Database Position} {characterId c : CharacterId} {itemType t : String}

/-- What the gate charges. -/
def TransferGate.charge (gate : TransferGate) (itemType : String) : Int :=
  if gate = .ticketItem itemType then 1 else 0

theorem find_setQuantity {key key' : CharacterId × String} {quantity : Quantity} :
    (setQuantity db key quantity).items.find key' =
      (db.items.find key').map fun row => if row.key = key then { row with quantity } else row :=
  (Rows.find_update (by intro; rfl)).trans (by simp)

theorem quantityOf_setQuantity {quantity : Quantity}
    (held : (db.items.find (characterId, itemType)).isSome) :
    quantityOf (setQuantity db (characterId, itemType) quantity) c t =
      if c = characterId ∧ t = itemType then quantity.value else quantityOf db c t := by
  unfold quantityOf
  rw [find_setQuantity]
  cases found : db.items.find (c, t) with
  | none =>
      have other : ¬ (c = characterId ∧ t = itemType) := by
        rintro ⟨rfl, rfl⟩
        rw [found] at held
        cases held
      simp [other]
  | some row =>
      have key := (Rows.find_eq_some.mp found).2
      by_cases itself : c = characterId ∧ t = itemType <;> simp [key, itself]

theorem quantityOf_deleteItem :
    quantityOf (deleteItem db (characterId, itemType)) c t =
      if c = characterId ∧ t = itemType then 0 else quantityOf db c t := by
  unfold quantityOf deleteItem
  rw [Rows.find_delete]
  cases found : db.items.find (c, t) with
  | none => simp
  | some row =>
      have key := (Rows.find_eq_some.mp found).2
      by_cases itself : c = characterId ∧ t = itemType <;> simp [key, itself, Option.filter]

/-- Exactly one unit of the ticket is consumed, and nothing else. -/
theorem consumeTicket_ok (consumed : consumeTicket db characterId itemType = .ok db') :
    (∃ items, db' = { db with items }) ∧
      ∀ c t, quantityOf db' c t =
        quantityOf db c t - if c = characterId ∧ t = itemType then 1 else 0 := by
  unfold consumeTicket at consumed
  simp only at consumed
  split at consumed
  · cases consumed
  next enough =>
    obtain ⟨row, found⟩ : ∃ row, db.items.find (characterId, itemType) = some row := by
      cases found : db.items.find (characterId, itemType) with
      | none => exact absurd (by simp [found]) enough
      | some row => exact ⟨row, rfl⟩
    have current : quantityOf db characterId itemType = row.quantity.value := by
      simp [quantityOf, found]
    rw [found] at consumed
    split at consumed
    next last =>
      cases consumed
      refine ⟨⟨_, rfl⟩, fun c t => ?_⟩
      have one : row.quantity.value = 1 := Option.some.inj last
      rw [quantityOf_deleteItem]
      split
      next itself => rw [itself.1, itself.2, current, one, sub_self]
      · rw [sub_zero]
    next several =>
      obtain ⟨quantity, checked, done⟩ := bind_ok.mp consumed
      cases done
      have value : quantity.value = row.quantity.value - 1 :=
        Bounded.value_of_check (okOrElse_ok.mp checked)
      refine ⟨⟨_, rfl⟩, fun c t => ?_⟩
      rw [quantityOf_setQuantity (by rw [found]; rfl)]
      split
      next itself => rw [itself.1, itself.2, current, value]
      · rw [sub_zero]

theorem updateRealm_eq_some {realmId : RealmId} {stats : Stats}
    (updated : updateRealm db characterId realmId stats = some db') :
    (∃ characters homes, db' = { db with characters, homes }) ∧
      ∀ c, db'.characters.find c = (db.characters.find c).map fun row =>
        if c = characterId then { row with realmId, stats } else row := by
  unfold updateRealm at updated
  split at updated
  · cases updated
    refine ⟨⟨_, _, rfl⟩, fun c => ?_⟩
    rw [Rows.find_update]
    cases there : db.characters.find c with
    | none => rfl
    | some row =>
        obtain ⟨-, rfl⟩ := Rows.find_eq_some.mp there
        simp
  · cases updated

/-- The gate costs what it charges; it touches the items only. -/
theorem passGate_ok {executor : TransferExecutor} {request : TransferRequest} {gate : TransferGate}
    (passed : executor.passGate db request gate = .ok db') :
    (∃ items, db' = { db with items }) ∧
      ∀ c t, quantityOf db' c t =
        quantityOf db c t - if c = request.characterId then gate.charge t else 0 := by
  cases gate with
  | «open» =>
      cases passed
      exact ⟨⟨_, rfl⟩, fun c t => by simp [TransferGate.charge]⟩
  | ticketItem itemType =>
      obtain ⟨items, charged⟩ := consumeTicket_ok passed
      refine ⟨items, fun c t => (charged c t).trans ?_⟩
      simp only [TransferGate.charge, TransferGate.ticketItem.injEq, eq_comm (a := itemType)]
      split_ifs <;> simp_all
  | purchase productId =>
      obtain ⟨verified, -, passed⟩ := bind_ok.mp passed
      obtain ⟨-, done⟩ := then_ok.mp passed
      cases done
      exact ⟨⟨_, rfl⟩, fun c t => by simp [TransferGate.charge]⟩

/-- What a transfer that is committed has done to the tables. -/
structure Moved (request : TransferRequest) (gate : TransferGate) (row : CharacterRow Position)
    (entry : TransferLogRecord) (db db' : Database Position) : Prop where
  found : db.characters.find request.characterId = some row
  configured : gateOf db row.realmId request.destinationRealmId = .ok gate
  sourceBound : db.policyOf row.realmId = some .boundRealm
  destinationBound : db.policyOf request.destinationRealmId = some .boundRealm
  offline : BoundLiveness.isLive (db.boundLiveness request.characterId) db.now = false
  /-- The character is at the destination with its stats migrated, the others stay. -/
  characters : ∀ c, db'.characters.find c =
    if c = request.characterId then
      some { row with
        realmId := request.destinationRealmId
        stats := request.destinationSchema.migrateStats row.stats }
    else db.characters.find c
  /-- One unit of the gate's ticket is gone, if it requires one. -/
  items : ∀ c t, quantityOf db' c t =
    quantityOf db c t - if c = request.characterId then gate.charge t else 0
  currency : db'.currency = db.currency
  audited : db'.transferLog = db.transferLog ++ [entry]
  unchanged : db'.realms = db.realms ∧ db'.characterSessions = db.characterSessions ∧
    db'.boundLiveness = db.boundLiveness ∧ db'.transferGates = db.transferGates

/-- A realm that is not open is bound. -/
theorem policyOf_of_not_open {realmId : RealmId} {realm : Realm}
    (found : db.realms.find realmId = some realm) (guarded : realm.openOrBound ≠ .openRealm) :
    db.policyOf realmId = some .boundRealm := by
  rw [Database.policyOf, found]
  cases policy : realm.openOrBound with
  | openRealm => exact absurd policy guarded
  | boundRealm => exact congrArg some policy

theorem transferInner_ok {executor : TransferExecutor} {request : TransferRequest} {id : Uuid}
    (done : executor.transferInner db request id = .ok db') :
    ∃ gate row, Moved request gate row
      ⟨id, request.characterId, some row.realmId, request.destinationRealmId, some gate.asDbType,
        request.initiatedBy, .success⟩ db db' := by
  simp only [TransferExecutor.transferInner, bind_ok, AuditContext.report_ok, okOrElse_ok,
    ensure_ok, exists_const, decide_eq_true_eq] at done
  obtain ⟨row, found, source, source_found, source_bound, destination, destination_found,
    destination_bound, offline, gate, configured, db₁, passed, db₂, updated, committed⟩ := done
  cases committed
  obtain ⟨⟨items, rfl⟩, charged⟩ := passGate_ok passed
  obtain ⟨⟨characters, homes, rfl⟩, moved⟩ := updateRealm_eq_some updated
  refine ⟨gate, row, ⟨found, configured, policyOf_of_not_open source_found source_bound,
    policyOf_of_not_open destination_found destination_bound, by simpa using offline,
    fun c => ?_, charged, rfl, rfl, rfl, rfl, rfl, rfl⟩⟩
  refine (moved c).trans ?_
  by_cases itself : c = request.characterId
  · subst itself
    simp [found]
  · simp [itself]

/-- A character that is live is not transferred. -/
theorem transfer_refused {executor : TransferExecutor} {request : TransferRequest}
    {successId failureId : Uuid}
    (live : BoundLiveness.isLive (db.boundLiveness request.characterId) db.now = true) :
    ∃ e, (executor.transfer db request successId failureId).1 = .error e := by
  unfold TransferExecutor.transfer
  cases result : executor.transferInner db request successId with
  | ok db' =>
      obtain ⟨gate, row, moved⟩ := transferInner_ok result
      rw [moved.offline] at live
      cases live
  | error e => exact ⟨e.1, rfl⟩

/-- A transfer that fails leaves every table but the log, which says once that and why it
failed; one that succeeds has moved the character and is logged once as a success. -/
theorem transfer_atomic (executor : TransferExecutor) (db : Database Position)
    (request : TransferRequest) (successId failureId : Uuid) :
    match executor.transfer db request successId failureId with
    | (.error e, db') => ∃ sourceRealmId gateType, db' = { db with
        transferLog := db.transferLog ++ [⟨failureId, request.characterId, sourceRealmId,
          request.destinationRealmId, gateType, request.initiatedBy, .failed (toString e)⟩] }
    | (.ok (), db') => ∃ gate row, Moved request gate row
        ⟨successId, request.characterId, some row.realmId, request.destinationRealmId,
          some gate.asDbType, request.initiatedBy, .success⟩ db db' := by
  unfold TransferExecutor.transfer
  split
  next e db' result =>
    split at result
    · cases result
    · cases result
      exact ⟨_, _, rfl⟩
  next db' result =>
    split at result
    next db₁ done =>
      cases result
      exact transferInner_ok done
    · cases result

end WorldZero.Transfer
