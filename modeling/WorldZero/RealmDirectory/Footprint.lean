import WorldZero.RealmDirectory.LoginPolicy
import WorldZero.Transfer.Execute

/-!
# What the tables hold of a character

The row of a character and the rows that refer to it. A statement that names a character
leaves the footprint of every other one as it is, and only its insertion makes somebody its
owner.
-/

namespace WorldZero.RealmDirectory

open Sql Validation Character Transfer
open Server.Login (BoundLiveness)

@[ext]
structure Footprint (Position : Type) where
  row : Option (CharacterRow Position)
  items : String → Option ItemRow
  currency : String → Option CurrencyRow
  session : Option (Lease.Row String)
  liveness : Option BoundLiveness

variable {Position : Type}

namespace Database

variable (db : Database Position)

def footprint (c : CharacterId) : Footprint Position where
  row := db.characters.find c
  items itemType := db.items.find (c, itemType)
  currency currencyKey := db.currency.find (c, currencyKey)
  session := db.characterSessions c
  liveness := db.boundLiveness c

def owner (c : CharacterId) : Option AccountId := (db.characters.find c).map CharacterRow.accountId

/-! ### The statements of the character store -/

/-- `CharacterStore::create`, under the reference to the realm. -/
def insertCharacter (row : CharacterRow Position) : Option (Database Position) :=
  if known : (db.realms.find row.realmId).isSome then
    match inserted : db.characters.insert row with
    | none => none
    | some characters => some { db with
        characters
        homes := fun c here => by
          obtain there | rfl := (Rows.mem_insert inserted).mp here
          · exact db.homes c there
          · obtain ⟨realm, found⟩ := Option.isSome_iff_exists.mp known
            exact ⟨realm, Rows.find_eq_some.mp found⟩ }
  else none

/-- `CharacterStore::delete`, which cascades to what refers to the character. -/
def deleteCharacter (id : CharacterId) : Database Position :=
  { db with
    characters := db.characters.delete fun c => c.id = id
    homes := fun c here => db.homes c (Rows.mem_delete.mp here).1
    items := db.items.delete fun row => row.characterId = id
    currency := db.currency.delete fun row => row.characterId = id
    characterSessions := Function.update db.characterSessions id none
    boundLiveness := Function.update db.boundLiveness id none }

variable (schema : AttributeSchema) (id : CharacterId) (key : String)

def getStat : Except Error ℤ := do
  let row ← okOrElse (db.characters.find id) (.wrap "character" "failed to read character stats")
  schema.resolveRead row.stats key

def setStat (value : ℤ) : Except Error (Database Position) := do
  schema.validateWrite key value
  return { db with
    characters := db.characters.update (fun c => c.id = id)
      (fun c => { c with stats := c.stats.insert key (.number value) }) (by intro; rfl)
    homes := fun c here => by
      obtain ⟨old, there, rfl⟩ := (Rows.mem_update (by intro; rfl)).mp here
      split
      · exact db.homes old there
      · exact db.homes old there }

def applyStatDelta (delta : ℤ) : Except Error (Database Position) := do
  let current ← db.getStat schema id key
  let newValue ← okOrElse (I64.checkedAdd current delta)
    (.new "character" s!"stat delta overflowed for {debugStr key}")
  db.setStat schema id key newValue

end Database

/-! ### What a statement leaves -/

/-- The tables are as they were, but for the character; it has no owner that it had not. -/
structure Touches (id : CharacterId) (db db' : Database Position) : Prop where
  others : ∀ c, c ≠ id → db'.footprint c = db.footprint c
  owner : ∀ accountId, db'.owner id = some accountId → db.owner id = some accountId

variable {db db' db'' : Database Position} {id c : CharacterId}

namespace Touches

theorem refl : Touches id db db := ⟨fun _ _ => rfl, fun _ h => h⟩

theorem trans (first : Touches id db db') (second : Touches id db' db'') : Touches id db db'' :=
  ⟨fun c other => (second.others c other).trans (first.others c other),
    fun accountId owner => first.owner accountId (second.owner accountId owner)⟩

theorem owner_of_footprint (same : db'.footprint c = db.footprint c) : db'.owner c = db.owner c :=
  congrArg (fun f => f.row.map CharacterRow.accountId) same

/-- Whoever owns a character has owned it. -/
theorem owned (touches : Touches id db db') {accountId : AccountId}
    (owner : db'.owner c = some accountId) : db.owner c = some accountId := by
  by_cases own : c = id
  · subst own
    exact touches.owner accountId owner
  · exact (owner_of_footprint (touches.others c own)).symm.trans owner

end Touches

section Rows

variable {R K : Type} {key : R → K} [DecidableEq K] {t : Rows key} {condition : R → Bool} {k : K}

theorem find_delete_of_ne (other : ∀ r, key r = k → condition r = false) :
    (t.delete condition).find k = t.find k := by
  rw [Rows.find_delete]
  cases found : t.find k with
  | none => rfl
  | some r => simp [Option.filter, other r (Rows.find_eq_some.mp found).2]

theorem find_update_of_ne {set : R → R} (keeps : ∀ r, key (set r) = key r)
    (other : ∀ r, key r = k → condition r = false) :
    (t.update condition set keeps).find k = t.find k := by
  rw [Rows.find_update]
  cases found : t.find k with
  | none => rfl
  | some r => simp [other r (Rows.find_eq_some.mp found).2]

end Rows

theorem owner_of_getForAccount {accountId : AccountId} {character : CharacterSummary Position}
    (found : db.getForAccount id accountId = some character) :
    db.owner id = some accountId ∧ character.id = id := by
  obtain ⟨row, own, rfl⟩ := Option.map_eq_some_iff.mp found
  obtain ⟨there, same⟩ := Option.filter_eq_some_iff.mp own
  refine ⟨?_, (Rows.find_eq_some.mp there).2⟩
  rw [Database.owner, there]
  exact congrArg some (of_decide_eq_true same)

/-- A new character is nobody's before, and leaves the others as they are. -/
theorem insertCharacter_eq_some {row : CharacterRow Position}
    (inserted : db.insertCharacter row = some db') :
    (∀ c, c ≠ row.id → db'.footprint c = db.footprint c) ∧ db.owner row.id = none ∧
      db'.owner row.id = some row.accountId := by
  unfold Database.insertCharacter at inserted
  split at inserted
  · split at inserted
    · cases inserted
    next characters there =>
      cases inserted
      refine ⟨fun c other => ?_, ?_, ?_⟩
      · ext1
        case row => exact (Rows.find_insert there).trans (if_neg other)
        all_goals rfl
      · have absent : db.characters.find row.id = none :=
          Rows.find_eq_none.mpr fun r here => Rows.fresh_of_insert there here
        rw [Database.owner, absent]
        rfl
      · rw [Database.owner, Rows.find_insert there, if_pos rfl]
        rfl
  · cases inserted

theorem touches_deleteCharacter : Touches id db (db.deleteCharacter id) where
  others c other := by
    ext1
    · exact find_delete_of_ne fun r same => decide_eq_false (same ▸ other)
    · funext itemType
      exact find_delete_of_ne fun r same =>
        decide_eq_false fun own => other ((congrArg Prod.fst same).symm.trans own)
    · funext currencyKey
      exact find_delete_of_ne fun r same =>
        decide_eq_false fun own => other ((congrArg Prod.fst same).symm.trans own)
    · exact Function.update_of_ne other _ _
    · exact Function.update_of_ne other _ _
  owner accountId owner := by
    have gone : (db.deleteCharacter id).characters.find id = none :=
      Rows.find_eq_none.mpr fun r here same =>
        of_decide_eq_false (Rows.mem_delete.mp here).2 same
    rw [Database.owner, gone] at owner
    cases owner

theorem touches_setStat {schema : AttributeSchema} {key : String} {value : ℤ}
    (set : db.setStat schema id key value = .ok db') : Touches id db db' := by
  obtain ⟨-, done⟩ := then_ok.mp set
  cases done
  refine ⟨fun c other => ?_, fun accountId owner => ?_⟩
  · ext1
    · exact find_update_of_ne (by intro; rfl) fun r same => decide_eq_false (same ▸ other)
    all_goals rfl
  · rw [Database.owner, Rows.find_update, Option.map_map] at owner
    rw [Database.owner, ← owner]
    congr 1
    funext row
    simp only [Function.comp_apply]
    split <;> rfl

theorem touches_applyStatDelta {schema : AttributeSchema} {key : String} {delta : ℤ}
    (applied : db.applyStatDelta schema id key delta = .ok db') : Touches id db db' := by
  obtain ⟨current, -, rest⟩ := bind_ok.mp applied
  obtain ⟨newValue, -, set⟩ := bind_ok.mp rest
  exact touches_setStat set

/-- A login takes the lease of its character, or nothing. -/
theorem touches_authorizeLogin {policy : LoginPolicy} {realmId targetRealmId : RealmId}
    {zoneServiceId : String}
    (granted : policy.authorizeLogin db id realmId targetRealmId zoneServiceId = .ok db') :
    Touches id db db' := by
  obtain ⟨realm, -, rest⟩ := bind_ok.mp granted
  cases policy : realm.openOrBound with
  | boundRealm =>
      rw [policy] at rest
      obtain ⟨-, same⟩ := then_ok.mp rest
      cases same
      exact .refl
  | openRealm =>
      rw [policy] at rest
      obtain ⟨outcome, acquired, taken⟩ := bind_ok.mp rest
      obtain ⟨_, -, done⟩ := bind_ok.mp acquired
      cases done
      obtain ⟨row, -, rfl⟩ := Option.map_eq_some_iff.mp (okOrElse_ok.mp taken)
      refine ⟨fun c other => ?_, fun accountId owner => owner⟩
      ext1
      case session => exact Function.update_of_ne other _ _
      all_goals rfl

theorem touches_consumeTicket {itemType : String}
    (consumed : consumeTicket db id itemType = .ok db') : Touches id db db' := by
  have items : ∀ t : Rows ItemRow.key,
      (∀ c, c ≠ id → ∀ itemType, t.find (c, itemType) = db.items.find (c, itemType)) →
      Touches id db { db with items := t } := by
    intro t same
    refine ⟨fun c other => ?_, fun accountId owner => owner⟩
    ext1
    case items => exact funext (same c other)
    all_goals rfl
  have apart : ∀ c, c ≠ id → ∀ t, ∀ row : ItemRow, row.key = (c, t) →
      decide (row.key = (id, itemType)) = false := by
    intro c other t row same
    refine decide_eq_false fun own => other ?_
    exact congrArg Prod.fst (same.symm.trans own)
  unfold consumeTicket at consumed
  simp only at consumed
  split at consumed
  · cases consumed
  · split at consumed
    · cases consumed
      exact items _ fun c other t => find_delete_of_ne (apart c other t)
    · obtain ⟨quantity, -, done⟩ := bind_ok.mp consumed
      cases done
      exact items _ fun c other t => find_update_of_ne (by intro; rfl) (apart c other t)

theorem touches_updateRealm {realmId : RealmId} {stats : Stats}
    (updated : updateRealm db id realmId stats = some db') : Touches id db db' := by
  obtain ⟨⟨characters, homes, rfl⟩, rows⟩ := updateRealm_eq_some updated
  refine ⟨fun c other => ?_, fun accountId owner => ?_⟩
  · ext1
    case row =>
      refine (rows c).trans ?_
      simp [other, Database.footprint]
    all_goals rfl
  · have same := rows id
    simp only [if_true] at same
    unfold Database.owner at owner ⊢
    rw [same, Option.map_map] at owner
    exact owner

theorem touches_passGate {executor : TransferExecutor} {request : TransferRequest}
    {gate : TransferGate} (passed : executor.passGate db request gate = .ok db') :
    Touches request.characterId db db' := by
  cases gate with
  | «open» =>
      cases passed
      exact .refl
  | ticketItem itemType => exact touches_consumeTicket passed
  | purchase productId =>
      obtain ⟨verified, -, passed⟩ := bind_ok.mp passed
      obtain ⟨-, done⟩ := then_ok.mp passed
      cases done
      exact .refl

/-- A transfer touches the character that it is asked for, whether it succeeds or not. -/
theorem touches_transfer (executor : TransferExecutor) (db : Database Position)
    (request : TransferRequest) (successId failureId : Uuid) :
    Touches request.characterId db (executor.transfer db request successId failureId).2 := by
  unfold TransferExecutor.transfer
  cases done : executor.transferInner db request successId with
  | error e => exact ⟨fun _ _ => rfl, fun _ owner => owner⟩
  | ok db' =>
      simp only [TransferExecutor.transferInner, bind_ok, AuditContext.report_ok, okOrElse_ok,
        ensure_ok, exists_const] at done
      obtain ⟨row, -, source, -, -, destination, -, -, -, gate, -, db₁, passed, db₂, updated,
        committed⟩ := done
      cases committed
      have moved := (touches_passGate passed).trans (touches_updateRealm updated)
      exact ⟨moved.others, moved.owner⟩

end WorldZero.RealmDirectory
