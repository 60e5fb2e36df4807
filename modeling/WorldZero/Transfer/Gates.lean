import WorldZero.Transfer.Execute
import WorldZero.Transition

/-!
# The gates of realm pairs

What an operator configures: `TransferGateStore::set` keeps one row for each pair of
realms, and none for an open one. After any run of settings and transfers, `get` finds
what was last set. Nothing forbids a gate from a realm to itself, nor a transfer there.
-/

namespace WorldZero.Transfer

open Sql Validation Character RealmDirectory Server.Login

variable {Position : Type}

/-! ### Configuring them -/

namespace TransferGateStore

variable (db : Database Position) (sourceRealmId destinationRealmId : RealmId)

def clear : Database Position :=
  { db with transferGates := db.transferGates.delete fun row =>
      row.key = (sourceRealmId, destinationRealmId) }

/-- The upsert of `TransferGateStore::set`, under the references to both realms. -/
def upsertGate (gateType : GateType) (ticketItemType purchaseProductId : Option String) :
    Except Error (Database Position) := do
  ensure ((db.realms.find sourceRealmId).isSome && (db.realms.find destinationRealmId).isSome)
    (.wrap "transfer" "failed to set transfer gate")
  return { db with
    transferGates := db.transferGates.upsert
      ⟨sourceRealmId, destinationRealmId, gateType, ticketItemType, purchaseProductId⟩
      (fun row => { row with gateType, ticketItemType, purchaseProductId }) (by intro; rfl) }

/-- An open gate is stored as no row. -/
def set (gate : TransferGate) : Except Error (Database Position) :=
  match gate with
  | .open => .ok (clear db sourceRealmId destinationRealmId)
  | .ticketItem itemType =>
      upsertGate db sourceRealmId destinationRealmId gate.asDbType (some itemType) none
  | .purchase productId =>
      upsertGate db sourceRealmId destinationRealmId gate.asDbType none (some productId)

end TransferGateStore

section Configured

variable {db db' : Database Position} {sourceRealmId destinationRealmId s d : RealmId}
  {gate : TransferGate}

theorem gateOf_clear :
    gateOf (TransferGateStore.clear db sourceRealmId destinationRealmId) s d =
      if (s, d) = (sourceRealmId, destinationRealmId) then .ok .open else gateOf db s d := by
  unfold gateOf TransferGateStore.clear
  rw [Rows.find_delete]
  cases found : db.transferGates.find (s, d) with
  | none => simp
  | some row =>
      have key : row.key = (s, d) := (Rows.find_eq_some.mp found).2
      by_cases itself : (s, d) = (sourceRealmId, destinationRealmId) <;>
        simp [key, itself, Option.filter]

/-- Whether a row was there or not, it now has the columns that were given. -/
theorem gateOf_upsertGate {gateType : GateType} {ticketItemType purchaseProductId : Option String}
    (stored : TransferGateStore.upsertGate db sourceRealmId destinationRealmId gateType
      ticketItemType purchaseProductId = .ok db') :
    gateOf db' s d =
      if (s, d) = (sourceRealmId, destinationRealmId) then
        rowToGate
          ⟨sourceRealmId, destinationRealmId, gateType, ticketItemType, purchaseProductId⟩
      else gateOf db s d := by
  obtain ⟨-, done⟩ := then_ok.mp stored
  cases done
  let row : GateRow :=
    ⟨sourceRealmId, destinationRealmId, gateType, ticketItemType, purchaseProductId⟩
  have found := Rows.find_upsert (t := db.transferGates) (k := (s, d)) row
    (fun row => { row with gateType, ticketItemType, purchaseProductId }) (by intro; rfl)
  unfold gateOf
  simp only
  rw [found]
  by_cases itself : (s, d) = (sourceRealmId, destinationRealmId)
  · rw [if_pos (show (s, d) = row.key from itself), if_pos itself]
    cases db.transferGates.find (s, d) <;> rfl
  · rw [if_neg (show ¬ (s, d) = row.key from itself), if_neg itself]

/-- What is set is what is got, for its own pair of realms only. -/
theorem gateOf_set
    (configured : TransferGateStore.set db sourceRealmId destinationRealmId gate = .ok db') :
    gateOf db' s d =
      if (s, d) = (sourceRealmId, destinationRealmId) then .ok gate else gateOf db s d := by
  cases gate with
  | «open» =>
      cases configured
      exact gateOf_clear
  | ticketItem itemType => exact gateOf_upsertGate configured
  | purchase productId => exact gateOf_upsertGate configured

/-- Setting a gate touches the gates only. -/
theorem set_frame
    (configured : TransferGateStore.set db sourceRealmId destinationRealmId gate = .ok db') :
    ∃ transferGates, db' = { db with transferGates } := by
  cases gate with
  | «open» =>
      cases configured
      exact ⟨_, rfl⟩
  | ticketItem itemType | purchase productId =>
      obtain ⟨-, done⟩ := then_ok.mp configured
      cases done
      exact ⟨_, rfl⟩

theorem upsertGate_isOk_iff {gateType : GateType}
    {ticketItemType purchaseProductId : Option String} :
    (∃ db', TransferGateStore.upsertGate db sourceRealmId destinationRealmId gateType
      ticketItemType purchaseProductId = .ok db') ↔
        (db.realms.find sourceRealmId).isSome ∧ (db.realms.find destinationRealmId).isSome := by
  rw [← Bool.and_eq_true]
  constructor
  · rintro ⟨db', stored⟩
    exact ensure_ok.mp (then_ok.mp stored).1
  · intro known
    exact ⟨_, then_ok.mpr ⟨ensure_ok.mpr known, rfl⟩⟩

/-- A setting fails for a realm that does not exist, unless the gate is open. -/
theorem set_isOk_iff :
    (∃ db', TransferGateStore.set db sourceRealmId destinationRealmId gate = .ok db') ↔
      gate = .open ∨
        (db.realms.find sourceRealmId).isSome ∧ (db.realms.find destinationRealmId).isSome := by
  cases gate with
  | «open» => exact ⟨fun _ => .inl rfl, fun _ => ⟨_, rfl⟩⟩
  | ticketItem itemType | purchase productId =>
      exact upsertGate_isOk_iff.trans (by simp)

end Configured

/-! ### When a transfer succeeds -/

section Admission

variable {executor : TransferExecutor} {db db' : Database Position} {request : TransferRequest}
  {characterId : CharacterId} {itemType : String}

/-- A ticket is there to be consumed, or the purchase is verified. -/
def TransferGate.Passes (executor : TransferExecutor) (db : Database Position)
    (request : TransferRequest) : TransferGate → Prop
  | .open => True
  | .ticketItem itemType => 1 ≤ quantityOf db request.characterId itemType
  | .purchase productId => executor.verifyPurchase request.characterId productId = .ok true

theorem consumeTicket_isOk_iff :
    (∃ db', consumeTicket db characterId itemType = .ok db') ↔
      1 ≤ quantityOf db characterId itemType := by
  unfold consumeTicket quantityOf
  simp only
  by_cases enough : ((db.items.find (characterId, itemType)).map
      fun row => row.quantity.value).getD 0 < 1
  · simp [enough]
  · refine iff_of_true ?_ (by omega)
    rw [if_neg enough]
    split
    · exact ⟨_, rfl⟩
    next several =>
      obtain ⟨row, found⟩ : ∃ row, db.items.find (characterId, itemType) = some row := by
        cases found : db.items.find (characterId, itemType) with
        | none => exact absurd (by simp [found]) enough
        | some row => exact ⟨row, rfl⟩
      -- the row had more than one unit, and what is left still fits its column
      have left := row.quantity.lower
      have fits := row.quantity.fits
      have more : row.quantity.value ≠ 1 := fun one =>
        several (by rw [found, Option.map_some, one])
      rw [found, Option.map_some, Option.getD_some,
        Bounded.check_eq_some (show (1 : Int) ≤ _ by omega) (by omega)]
      exact ⟨_, rfl⟩

theorem passGate_isOk_iff {gate : TransferGate} :
    (∃ db', executor.passGate db request gate = .ok db') ↔ gate.Passes executor db request := by
  cases gate with
  | «open» => exact iff_of_true ⟨_, rfl⟩ trivial
  | ticketItem itemType => exact consumeTicket_isOk_iff
  | purchase productId =>
      constructor
      · rintro ⟨db', passed⟩
        obtain ⟨verified, answered, rest⟩ := bind_ok.mp passed
        rwa [ensure_ok.mp (then_ok.mp rest).1] at answered
      · intro verified
        exact ⟨db, bind_ok.mpr ⟨true, verified, rfl⟩⟩

/-- All that a transfer asks for. -/
structure Transferable (executor : TransferExecutor) (db : Database Position)
    (request : TransferRequest) (row : CharacterRow Position) (gate : TransferGate) : Prop where
  found : db.characters.find request.characterId = some row
  sourceBound : db.policyOf row.realmId = some .boundRealm
  destinationBound : db.policyOf request.destinationRealmId = some .boundRealm
  offline : BoundLiveness.isLive (db.boundLiveness request.characterId) db.now = false
  configured : gateOf db row.realmId request.destinationRealmId = .ok gate
  passes : gate.Passes executor db request

theorem policyOf_eq_some {realmId : RealmId} {policy : OpenOrBound} :
    db.policyOf realmId = some policy ↔
      ∃ realm, db.realms.find realmId = some realm ∧ realm.openOrBound = policy :=
  Option.map_eq_some_iff

theorem transferInner_isOk_iff (id : Uuid) :
    (∃ db', executor.transferInner db request id = .ok db') ↔
      ∃ row gate, Transferable executor db request row gate := by
  constructor
  · rintro ⟨db', done⟩
    obtain ⟨gate, row, moved⟩ := transferInner_ok done
    simp only [TransferExecutor.transferInner, bind_ok, AuditContext.report_ok, okOrElse_ok,
      ensure_ok, exists_const] at done
    obtain ⟨row', found, source, -, -, destination, -, -, -, gate', configured, db₁, passed, -⟩ :=
      done
    obtain rfl := Option.some.inj (found.symm.trans moved.found)
    obtain rfl := Except.ok.inj (configured.symm.trans moved.configured)
    exact ⟨row', gate', found, moved.sourceBound, moved.destinationBound, moved.offline,
      configured, passGate_isOk_iff.mp ⟨db₁, passed⟩⟩
  · rintro ⟨row, gate, able⟩
    obtain ⟨source, source_found, source_bound⟩ := policyOf_eq_some.mp able.sourceBound
    obtain ⟨destination, destination_found, destination_bound⟩ :=
      policyOf_eq_some.mp able.destinationBound
    obtain ⟨db₁, passed⟩ := passGate_isOk_iff.mpr able.passes
    obtain ⟨⟨items, rfl⟩, -⟩ := passGate_ok passed
    simp only [TransferExecutor.transferInner, bind_ok, AuditContext.report_ok, okOrElse_ok,
      ensure_ok, exists_const, updateRealm, decide_eq_true_eq]
    refine ⟨_, row, able.found, source, source_found, ?_, destination, destination_found, ?_, ?_,
      gate, able.configured, _, passed, _, dif_pos ?_, rfl⟩
    · rw [source_bound]
      exact OpenOrBound.noConfusion
    · rw [destination_bound]
      exact OpenOrBound.noConfusion
    · rw [able.offline]
      rfl
    · rw [destination_found]
      rfl

theorem transfer_ok_iff (successId failureId : Uuid) :
    (executor.transfer db request successId failureId).1 = .ok () ↔
      ∃ row gate, Transferable executor db request row gate := by
  rw [← transferInner_isOk_iff successId]
  unfold TransferExecutor.transfer
  cases executor.transferInner db request successId <;> simp

end Admission

/-! ### Runs of settings and transfers -/

/-- A call of an operator or of a player. -/
inductive GateCall where
  | set (sourceRealmId destinationRealmId : RealmId) (gate : TransferGate)
  | transfer (request : TransferRequest) (successId failureId : Uuid)

/-- A setting that fails changes nothing. -/
def gateStep (executor : TransferExecutor) (db : Database Position) :
    GateCall → Option (Database Position)
  | .set source destination gate =>
      match TransferGateStore.set db source destination gate with
      | .ok db' => some db'
      | .error _ => some db
  | .transfer request successId failureId =>
      some (executor.transfer db request successId failureId).2

/-- What an operator has configured: one gate for each pair of realms. -/
abbrev Gates := RealmId × RealmId → TransferGate

/-- A setting is one update of the configuration, if the realms of the pair exist. -/
def Gates.after (known : RealmId → Bool) (gates : Gates) : GateCall → Gates
  | .set source destination gate =>
      if gate = .open ∨ known source ∧ known destination then
        Function.update gates (source, destination) gate
      else gates
  | .transfer .. => gates

/-- The rows are the configuration. -/
def Gates.Stored (gates : Gates) (db : Database Position) : Prop :=
  ∀ source destination, gateOf db source destination = .ok (gates (source, destination))

section Runs

variable {executor : TransferExecutor} {db db' db'' : Database Position} {gates : Gates}

theorem transfer_frame (executor : TransferExecutor) (db : Database Position)
    (request : TransferRequest) (successId failureId : Uuid) :
    (executor.transfer db request successId failureId).2.realms = db.realms ∧
      (executor.transfer db request successId failureId).2.transferGates = db.transferGates := by
  have atomic := transfer_atomic executor db request successId failureId
  split at atomic
  next result =>
    obtain ⟨_, _, rfl⟩ := atomic
    rw [result]
    exact ⟨rfl, rfl⟩
  next result =>
    obtain ⟨_, _, moved⟩ := atomic
    rw [result]
    exact ⟨moved.unchanged.1, moved.unchanged.2.2.2⟩

theorem gateStep_stored {call : GateCall} (stored : gates.Stored db)
    (step : gateStep executor db call = some db') :
    db'.realms = db.realms ∧
      (gates.after (fun r => (db.realms.find r).isSome) call).Stored db' := by
  cases call with
  | set source destination gate =>
      simp only [gateStep] at step
      split at step
      next db₁ configured =>
        cases step
        obtain ⟨transferGates, rfl⟩ := set_frame configured
        refine ⟨rfl, fun s d => ?_⟩
        have accepted := set_isOk_iff.mp ⟨_, configured⟩
        rw [gateOf_set configured, Gates.after, if_pos accepted, Function.update_apply, stored s d]
        split <;> rfl
      next e refused =>
        cases step
        refine ⟨rfl, ?_⟩
        have rejected : ¬ _ := fun accepted => by
          obtain ⟨db', configured⟩ := set_isOk_iff.mpr accepted
          rw [refused] at configured
          cases configured
        rwa [Gates.after, if_neg rejected]
  | transfer request successId failureId =>
      obtain rfl := Option.some.inj step
      obtain ⟨realms, transferGates⟩ := transfer_frame executor db request successId failureId
      refine ⟨realms, fun s d => ?_⟩
      simp only [gateOf, transferGates]
      exact stored s d

/-- In any run of settings and transfers, the gate of a pair is the one that was last set for
it. -/
theorem gates_refine {calls : List GateCall} {gates : Gates} (stored : gates.Stored db)
    (run : Transition.exec (gateStep executor) db calls = some db') :
    (calls.foldl (Gates.after fun r => (db.realms.find r).isSome) gates).Stored db' := by
  induction calls generalizing db gates with
  | nil =>
      obtain rfl := Transition.exec_nil.mp run
      exact stored
  | cons call calls ih =>
      obtain ⟨db₁, step, rest⟩ := Transition.exec_cons.mp run
      obtain ⟨realms, stored⟩ := gateStep_stored stored step
      have refined := ih stored rest
      rw [realms] at refined
      exact refined

/-- The gates after a run. -/
def lastGates (db : Database Position) (gates : Gates) (calls : List GateCall) : Gates :=
  calls.foldl (Gates.after fun r => (db.realms.find r).isSome) gates

/-- After any run of settings and transfers, from any configuration, a transfer is let through
by the gate that was last set for its pair of realms, and is charged what that gate charges. -/
theorem transfer_by_last_gate {calls : List GateCall} {request : TransferRequest}
    {successId failureId : Uuid} (start : gates.Stored db)
    (run : Transition.exec (gateStep executor) db calls = some db') :
    let gate (row : CharacterRow Position) :=
      lastGates db gates calls (row.realmId, request.destinationRealmId)
    ((executor.transfer db' request successId failureId).1 = .ok () ↔
      ∃ row, Transferable executor db' request row (gate row)) ∧
    ∀ db'', executor.transfer db' request successId failureId = (.ok (), db'') →
      ∃ row, db'.characters.find request.characterId = some row ∧
        ∀ c t, quantityOf db'' c t =
          quantityOf db' c t - if c = request.characterId then (gate row).charge t else 0 := by
  have stored := gates_refine start run
  refine ⟨(transfer_ok_iff successId failureId).trans (exists_congr fun row => ?_),
    fun db'' done => ?_⟩
  · constructor
    · rintro ⟨gate, able⟩
      obtain rfl := Except.ok.inj (able.configured.symm.trans (stored _ _))
      exact able
    · exact fun able => ⟨_, able⟩
  · have atomic := transfer_atomic executor db' request successId failureId
    rw [done] at atomic
    obtain ⟨gate, row, moved⟩ := atomic
    obtain rfl := Except.ok.inj (moved.configured.symm.trans (stored _ _))
    exact ⟨row, moved.found, moved.items⟩

namespace TwoRealms

def hero : CharacterRow Unit := ⟨⟨7⟩, ⟨3⟩, "Hero", ⟨1⟩, "meadow", (), ∅, 0⟩

def aldmoor : Realm := ⟨⟨1⟩, "Aldmoor", .boundRealm⟩

/-- Two bound realms, and on the first of them one character with one ticket. -/
def before : Database Unit where
  now := 0
  realms := ⟨[aldmoor, ⟨⟨2⟩, "Brackwater", .boundRealm⟩], by decide⟩
  characters := ⟨[hero], by decide⟩
  homes c here := ⟨aldmoor, List.mem_cons_self, by rw [List.mem_singleton.mp here]; rfl⟩
  items := ⟨[⟨⟨7⟩, "ticket", .one⟩], by decide⟩
  currency := .empty _
  characterSessions _ := none
  boundLiveness _ := none
  transferGates := .empty _
  transferLog := []

def denyAll : TransferExecutor := ⟨fun _ _ => .ok false⟩

def requestTo (destination : RealmId) : TransferRequest := ⟨⟨7⟩, destination, ⟨1, []⟩, ⟨3⟩⟩

/-- From the first realm to the second one a pass is to be bought. -/
def gated : Database Unit :=
  { before with transferGates := ⟨[⟨⟨1⟩, ⟨2⟩, .purchase, none, some "pass"⟩], by decide⟩ }

def passOnly : Gates := fun pair => if pair = (⟨1⟩, ⟨2⟩) then .purchase "pass" else .open

theorem passOnly_stored : passOnly.Stored gated := by
  intro source destination
  by_cases named : ((⟨1⟩, ⟨2⟩) : RealmId × RealmId) = (source, destination)
  · cases named
    rfl
  · have unset : gated.transferGates.find (source, destination) = none := by
      simpa [gated, Rows.find, GateRow.key] using named
    rw [gateOf, unset, passOnly, if_neg fun same => named same.symm]

/-- The gate is replaced before the transfer: a purchase is no longer asked for. -/
def calls : List GateCall :=
  [.transfer (requestTo ⟨2⟩) 0 1, .set ⟨1⟩ ⟨2⟩ (.ticketItem "ticket"), .set ⟨2⟩ ⟨3⟩ .open]

theorem transfer_by_last_gate_ticket : ∃ db',
    Transition.exec (gateStep denyAll) gated calls = some db' ∧
      lastGates gated passOnly calls (⟨1⟩, ⟨2⟩) = .ticketItem "ticket" ∧
      ((denyAll.transfer db' (requestTo ⟨2⟩) 2 3).1 = .ok () ↔
        ∃ row, Transferable denyAll db' (requestTo ⟨2⟩) row
          (lastGates gated passOnly calls (row.realmId, ⟨2⟩))) :=
  ⟨_, rfl, rfl, (transfer_by_last_gate passOnly_stored rfl).1⟩

end TwoRealms

end Runs

end WorldZero.Transfer
