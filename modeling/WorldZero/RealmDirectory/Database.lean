import WorldZero.Character.Tables
import WorldZero.Server.Login
import WorldZero.Sql.Rows

/-!
# The tables behind logins and transfers

The rows that `realm-directory` and `transfer` read and write, with their keys. A
character's realm exists. `now` is the database clock, which stands still during a
call.
-/

namespace WorldZero.RealmDirectory

open Sql Character Server.Login

structure Realm where
  id : RealmId
  name : String
  openOrBound : OpenOrBound

/-- The columns of `characters` that a login or a transfer reads or writes. -/
structure CharacterRow (Position : Type) where
  id : CharacterId
  accountId : AccountId
  name : String
  realmId : RealmId
  zoneId : String
  position : Position
  stats : Stats
  createdAt : ℕ

structure ItemRow where
  characterId : CharacterId
  itemType : String
  quantity : Quantity

def ItemRow.key (row : ItemRow) : CharacterId × String := (row.characterId, row.itemType)

structure CurrencyRow where
  characterId : CharacterId
  currencyKey : String
  balance : Balance

def CurrencyRow.key (row : CurrencyRow) : CharacterId × String := (row.characterId, row.currencyKey)

inductive GateType where
  | open
  | ticketItem
  | purchase
  deriving DecidableEq

structure GateRow where
  sourceRealmId : RealmId
  destinationRealmId : RealmId
  gateType : GateType
  ticketItemType : Option String
  purchaseProductId : Option String

def GateRow.key (row : GateRow) : RealmId × RealmId := (row.sourceRealmId, row.destinationRealmId)

inductive TransferOutcome where
  | success
  | failed (reason : String)
  deriving DecidableEq

structure TransferLogRecord where
  id : Uuid
  characterId : CharacterId
  sourceRealmId : Option RealmId
  destinationRealmId : RealmId
  gateType : Option GateType
  initiatedBy : AccountId
  outcome : TransferOutcome
  deriving DecidableEq

structure Database (Position : Type) where
  now : ℕ
  realms : Rows Realm.id
  characters : Rows (CharacterRow.id : CharacterRow Position → CharacterId)
  homes : ∀ c ∈ characters, ∃ r ∈ realms, r.id = c.realmId
  items : Rows ItemRow.key
  currency : Rows CurrencyRow.key
  /-- A lease names its `zone_service_id`. -/
  characterSessions : CharacterId → Option (Lease.Row String)
  boundLiveness : CharacterId → Option BoundLiveness
  transferGates : Rows GateRow.key
  transferLog : List TransferLogRecord

namespace Database

variable {Position : Type} (db : Database Position)

/-- `RealmStore::get`, as far as the policy goes. -/
def policyOf (realmId : RealmId) : Option OpenOrBound :=
  (db.realms.find realmId).map Realm.openOrBound

/-- The home realm of a character has a policy. -/
theorem policyOf_home {db : Database Position} {c : CharacterRow Position}
    (here : c ∈ db.characters) :
    ∃ policy, db.policyOf c.realmId = some policy := by
  obtain ⟨home, there, same⟩ := db.homes c here
  refine ⟨home.openOrBound, ?_⟩
  rw [policyOf, Rows.find_eq_some.mpr ⟨there, same⟩]
  rfl

end Database

end WorldZero.RealmDirectory
