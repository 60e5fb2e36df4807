import Mathlib.Data.List.Sort
import WorldZero.RealmDirectory.Database
import WorldZero.Validation

/-!
# Who may log in where

The three places that know the rule: a login is authorized, a login resolves the
character of an account, and a client lists the characters that it may select. The
list leaves out every character of a bound realm; the authorization for an open realm
does not look at the character's realm.
-/

namespace WorldZero.RealmDirectory

open Sql Validation

/-- What the character selection shows. -/
structure CharacterSummary (Position : Type) where
  id : CharacterId
  name : String
  realmId : RealmId
  zoneId : String
  position : Position

variable {Position : Type}

def CharacterRow.summary (row : CharacterRow Position) : CharacterSummary Position :=
  ⟨row.id, row.name, row.realmId, row.zoneId, row.position⟩

/-! ### The character store -/

namespace Database

variable (db : Database Position)

/-- `WHERE … ORDER BY created_at DESC`. -/
def listWhere (condition : CharacterRow Position → Bool) : List (CharacterSummary Position) :=
  ((db.characters.select condition).mergeSort fun a b => b.createdAt ≤ a.createdAt).map
    CharacterRow.summary

def listByAccount (accountId : AccountId) (realmId : RealmId) : List (CharacterSummary Position) :=
  db.listWhere fun c => c.accountId = accountId && c.realmId = realmId

/-- The join keeps the characters of realms that are open now. -/
def listByAccountInOpenRealms (accountId : AccountId) : List (CharacterSummary Position) :=
  db.listWhere fun c => c.accountId = accountId && db.policyOf c.realmId = some .openRealm

def findByAccount (accountId : AccountId) (realmId : RealmId) :
    Option (CharacterSummary Position) :=
  (db.listByAccount accountId realmId).head?

def findByAccountInOpenRealms (accountId : AccountId) : Option (CharacterSummary Position) :=
  (db.listByAccountInOpenRealms accountId).head?

/-- The row, if it is the account's. -/
def getForAccount (characterId : CharacterId) (accountId : AccountId) :
    Option (CharacterSummary Position) :=
  ((db.characters.find characterId).filter fun c => c.accountId = accountId).map
    CharacterRow.summary

/-- `CharacterSessionLease::acquire`; a lease is a character's. -/
def acquire (characterId : CharacterId) (zoneServiceId : String) (ttl : ℕ) :
    Except Error (Option (Database Position)) := do
  let _ ← okOrElse (db.characters.find characterId)
    (.wrap "character" "failed to acquire session lease")
  return (Lease.acquire (db.characterSessions characterId) zoneServiceId db.now ttl).map fun row =>
    { db with characterSessions := Function.update db.characterSessions characterId (some row) }

end Database

/-! ### The login policy -/

structure LoginPolicy where
  leaseTtl : ℕ

namespace LoginPolicy

variable (policy : LoginPolicy) (db : Database Position)

def realm (targetRealmId : RealmId) : Except Error Realm :=
  okOrElse (db.realms.find targetRealmId)
    (.new "realm-directory" s!"no realm with id {targetRealmId}")

/-- On an open realm `Ok` comes with the lease. -/
def authorizeLogin (characterId : CharacterId) (characterRealmId targetRealmId : RealmId)
    (zoneServiceId : String) : Except Error (Database Position) := do
  let realm ← realm db targetRealmId
  match realm.openOrBound with
  | .boundRealm =>
      ensure (characterRealmId = targetRealmId) (.new "realm-directory"
        (s!"character {characterId} is bound to a different realm and cannot log into " ++
          s!"realm {targetRealmId}"))
      return db
  | .openRealm =>
      let outcome ← db.acquire characterId zoneServiceId policy.leaseTtl
      okOrElse outcome
        (.new "realm-directory" s!"character {characterId} is already logged in elsewhere")

def resolveCharacter (accountId : AccountId) (targetRealmId : RealmId) :
    Except Error (Option (CharacterSummary Position)) := do
  let realm ← realm db targetRealmId
  match realm.openOrBound with
  | .boundRealm => return db.findByAccount accountId targetRealmId
  | .openRealm => return db.findByAccountInOpenRealms accountId

def listCharacters (accountId : AccountId) (targetRealmId : RealmId) :
    Except Error (List (CharacterSummary Position)) := do
  let realm ← realm db targetRealmId
  match realm.openOrBound with
  | .boundRealm => return db.listByAccount accountId targetRealmId
  | .openRealm => return db.listByAccountInOpenRealms accountId

/-- `ClientMessage::SelectCharacter` on the server of `targetRealmId`. -/
def selectCharacter (parse : String → Option CharacterId) (accountId : AccountId)
    (targetRealmId : RealmId) (leaseHolderId characterId : String) :
    Except Error (CharacterSummary Position × Database Position) := do
  let parsedId ← okOrElse (parse characterId)
    (.new "server" s!"{debugStr characterId} is not a valid character id")
  let character ← okOrElse (db.getForAccount parsedId accountId)
    (.new "server" s!"{debugStr characterId} is not one of your characters")
  let db ← policy.authorizeLogin db character.id character.realmId targetRealmId leaseHolderId
  return (character, db)

end LoginPolicy

/-! ### What the calls answer -/

variable {policy : LoginPolicy} {db db' : Database Position} {c : CharacterRow Position}
  {accountId : AccountId} {targetRealmId : RealmId} {zoneServiceId : String}

/-- No lease of the character is left that has not expired. -/
def Offline (db : Database Position) (characterId : CharacterId) : Prop :=
  ∀ lease ∈ db.characterSessions characterId, lease.expiresAt < db.now

/-- The lease can be had by `zoneServiceId`. -/
def Free (policy : LoginPolicy) (db : Database Position) (characterId : CharacterId)
    (zoneServiceId : String) : Prop :=
  (Lease.acquire (db.characterSessions characterId) zoneServiceId db.now policy.leaseTtl).isSome

/-- The client may select the character. -/
def Selectable (policy : LoginPolicy) (db : Database Position) (accountId : AccountId)
    (targetRealmId : RealmId) (leaseHolderId : String) (characterId : CharacterId) : Prop :=
  ∀ parse text, parse text = some characterId →
    (policy.selectCharacter db parse accountId targetRealmId leaseHolderId text).isOk = true

/-- The client is shown the character. -/
def Listed (db : Database Position) (accountId : AccountId) (targetRealmId : RealmId)
    (characterId : CharacterId) : Prop :=
  ∃ characters, LoginPolicy.listCharacters db accountId targetRealmId = .ok characters ∧
    ∃ summary ∈ characters, summary.id = characterId

theorem free_of_offline (offline : Offline db c.id) : Free policy db c.id zoneServiceId := by
  unfold Free Lease.acquire
  split
  · rfl
  next lease row =>
    rw [if_pos (.inl (offline lease row))]
    rfl

theorem mem_listWhere {condition : CharacterRow Position → Bool} (here : c ∈ db.characters) :
    (∃ summary ∈ db.listWhere condition, summary.id = c.id) ↔ condition c = true := by
  simp only [Database.listWhere, List.mem_map, List.mem_mergeSort, Rows.mem_select]
  constructor
  · rintro ⟨_, ⟨other, ⟨there, met⟩, rfl⟩, same⟩
    rwa [Rows.eq_of_key there here same] at met
  · exact fun met => ⟨c.summary, ⟨c, ⟨here, met⟩, rfl⟩, rfl⟩

theorem getForAccount_isSome (here : c ∈ db.characters) :
    db.getForAccount c.id accountId = if c.accountId = accountId then some c.summary else none := by
  rw [Database.getForAccount, Rows.find_eq_some.mpr ⟨here, rfl⟩]
  by_cases own : c.accountId = accountId <;> simp [Option.filter, own]

/-- A bound realm asks for its own characters, an open realm for a free lease. -/
theorem authorizeLogin_isOk (here : c ∈ db.characters) :
    (policy.authorizeLogin db c.id c.realmId targetRealmId zoneServiceId).isOk = true ↔
      db.policyOf targetRealmId = some .boundRealm ∧ c.realmId = targetRealmId ∨
      db.policyOf targetRealmId = some .openRealm ∧ Free policy db c.id zoneServiceId := by
  unfold LoginPolicy.authorizeLogin LoginPolicy.realm Database.policyOf Free
  cases db.realms.find targetRealmId with
  | none => simp [okOrElse, bind, Except.bind, Except.isOk, Except.toBool]
  | some realm =>
      obtain ⟨id, name, openOrBound⟩ := realm
      cases openOrBound with
      | boundRealm =>
          by_cases home : c.realmId = targetRealmId <;>
            simp [okOrElse, ensure, home, bind, Except.bind, Except.isOk, Except.toBool, pure,
              Except.pure]
      | openRealm =>
          rw [Database.acquire, Rows.find_eq_some.mpr ⟨here, rfl⟩]
          cases Lease.acquire (db.characterSessions c.id) zoneServiceId db.now policy.leaseTtl <;>
            simp [okOrElse, bind, Except.bind, Except.isOk, Except.toBool, pure, Except.pure]

theorem selectable_iff (here : c ∈ db.characters) :
    Selectable policy db accountId targetRealmId zoneServiceId c.id ↔
      c.accountId = accountId ∧
        (policy.authorizeLogin db c.id c.realmId targetRealmId zoneServiceId).isOk = true := by
  have select : ∀ parse text, parse text = some c.id →
      ((policy.selectCharacter db parse accountId targetRealmId zoneServiceId text).isOk = true ↔
        c.accountId = accountId ∧
          (policy.authorizeLogin db c.id c.realmId targetRealmId zoneServiceId).isOk = true) := by
    intro parse text parsed
    rw [LoginPolicy.selectCharacter, parsed]
    simp only [okOrElse, Option.elim_some, bind, Except.bind, getForAccount_isSome here]
    by_cases own : c.accountId = accountId
    · simp only [own, if_true, Option.elim_some, true_and, CharacterRow.summary]
      cases policy.authorizeLogin db c.id c.realmId targetRealmId zoneServiceId <;> rfl
    · simp [own, Except.isOk, Except.toBool]
  constructor
  · intro selectable
    exact (select (fun _ => some c.id) "" rfl).mp (selectable _ _ rfl)
  · intro granted parse text parsed
    exact (select parse text parsed).mpr granted

theorem listed_iff (here : c ∈ db.characters) :
    Listed db accountId targetRealmId c.id ↔
      c.accountId = accountId ∧
        (db.policyOf targetRealmId = some .boundRealm ∧ c.realmId = targetRealmId ∨
          db.policyOf targetRealmId = some .openRealm ∧
          db.policyOf c.realmId = some .openRealm) := by
  unfold Listed LoginPolicy.listCharacters LoginPolicy.realm
  cases found : db.realms.find targetRealmId with
  | none =>
      have unknown : db.policyOf targetRealmId = none := by rw [Database.policyOf, found]; rfl
      simp [okOrElse, bind, Except.bind, unknown]
  | some realm =>
      have known : db.policyOf targetRealmId = some realm.openOrBound := by
        rw [Database.policyOf, found]
        rfl
      rw [known]
      obtain ⟨id, name, openOrBound⟩ := realm
      cases openOrBound with
      | boundRealm =>
          simp only [okOrElse, Option.elim_some, bind, Except.bind, pure, Except.pure,
            Except.ok.injEq, exists_eq_left', Database.listByAccount, mem_listWhere here]
          simp
      | openRealm =>
          simp only [okOrElse, Option.elim_some, bind, Except.bind, pure, Except.pure,
            Except.ok.injEq, exists_eq_left', Database.listByAccountInOpenRealms,
            mem_listWhere here]
          simp

/-- On one connection of a deployment this is the authorization of its logins. -/
theorem authorizeLogin_deployment {ι : Type} [DecidableEq ι] (d : Server.Login.Deployment ι)
    {leases : Lease.Book ι} {i : ι} (holder : ι → String) (injective : Function.Injective holder)
    (here : c ∈ db.characters) (ttl : policy.leaseTtl = d.leaseTtl)
    (realm : db.policyOf (d.realmId i) = some (d.openOrBound (d.realmId i)))
    (row : db.characterSessions c.id =
      leases.row.map fun lease => ⟨holder lease.holder, lease.expiresAt⟩) :
    (policy.authorizeLogin db c.id c.realmId (d.realmId i) (holder i)).isOk =
      (Server.Login.authorizeLogin d c.id leases db.now i c.realmId).isOk := by
  rw [Bool.eq_iff_iff, authorizeLogin_isOk here, realm]
  unfold Server.Login.authorizeLogin Free
  rw [row, ttl]
  cases d.openOrBound (d.realmId i) with
  | boundRealm =>
      by_cases home : c.realmId = d.realmId i <;> simp [home, Except.isOk, Except.toBool]
  | openRealm =>
      cases leases.row with
      | none => simp [Lease.acquire, Except.isOk, Except.toBool]
      | some lease =>
          by_cases own : lease.expiresAt < db.now ∨ lease.holder = i <;>
            simp [Lease.acquire, injective.eq_iff, own, Except.isOk, Except.toBool]

/-- Who is authorized is at home or goes from open realm to open realm, and an offline
character can be selected where it is listed, unless a character of a bound realm finds
its lease free on an open realm. -/
theorem bound_iff (policy : LoginPolicy) (db : Database Position) (here : c ∈ db.characters)
    (targetRealmId : RealmId) (zoneServiceId : String) :
    (((policy.authorizeLogin db c.id c.realmId targetRealmId zoneServiceId).isOk = true →
        c.realmId = targetRealmId ∨
          db.policyOf c.realmId = some .openRealm ∧
            db.policyOf targetRealmId = some .openRealm) ∧
      (Offline db c.id → ∀ accountId,
        (Selectable policy db accountId targetRealmId zoneServiceId c.id ↔
          Listed db accountId targetRealmId c.id))) ↔
      ¬ (db.policyOf targetRealmId = some .openRealm ∧ db.policyOf c.realmId = some .boundRealm ∧
        Free policy db c.id zoneServiceId) := by
  rw [authorizeLogin_isOk here]
  constructor
  · rintro ⟨granted, -⟩ ⟨target, home, free⟩
    obtain same | ⟨unbound, -⟩ := granted (.inr ⟨target, free⟩)
    · rw [same, target] at home
      cases home
    · rw [home] at unbound
      cases unbound
  · intro excluded
    have home : db.policyOf targetRealmId = some .openRealm → Free policy db c.id zoneServiceId →
        db.policyOf c.realmId = some .openRealm := by
      intro target free
      obtain ⟨own, known⟩ := Database.policyOf_home here
      cases own with
      | openRealm => exact known
      | boundRealm => exact absurd ⟨target, known, free⟩ excluded
    constructor
    · rintro (⟨-, same⟩ | ⟨target, free⟩)
      · exact .inl same
      · exact .inr ⟨home target free, target⟩
    · intro offline accountId
      have free : Free policy db c.id zoneServiceId := free_of_offline offline
      rw [selectable_iff here, listed_iff here, authorizeLogin_isOk here]
      refine and_congr_right fun _ => or_congr_right (and_congr_right fun target => ?_)
      exact ⟨fun _ => home target free, fun _ => free⟩

namespace TwoRealms

def haven : RealmId := ⟨1⟩
def market : RealmId := ⟨2⟩

def knight : CharacterRow Unit where
  id := ⟨3⟩
  accountId := ⟨4⟩
  name := "Aria"
  realmId := haven
  zoneId := "greenwood-forest"
  position := ()
  stats := ∅
  createdAt := 0

/-- The knight's home is bound; the market is open. -/
def group : Database Unit where
  now := 0
  realms := ⟨[⟨haven, "Haven", .boundRealm⟩, ⟨market, "Market", .openRealm⟩], by decide⟩
  characters := ⟨[knight], by simp⟩
  homes := by
    intro c here
    rw [List.mem_singleton.mp here]
    exact ⟨⟨haven, "Haven", .boundRealm⟩, List.mem_cons_self, rfl⟩
  items := .empty _
  currency := .empty _
  characterSessions _ := none
  boundLiveness _ := none
  transferGates := .empty _
  transferLog := []

def rules : LoginPolicy := ⟨30⟩

theorem knight_mem : knight ∈ group.characters := List.mem_singleton_self _

theorem knight_offline : Offline group knight.id := by
  intro lease row
  cases row

theorem bound_iff_haven :
    Selectable rules group knight.accountId haven "a" knight.id ∧
      Listed group knight.accountId haven knight.id := by
  have agree := ((bound_iff rules group knight_mem haven "a").mpr
    (by rintro ⟨target, -, -⟩; cases target)).2 knight_offline knight.accountId
  have listed : Listed group knight.accountId haven knight.id :=
    (listed_iff knight_mem).mpr ⟨rfl, .inl ⟨rfl, rfl⟩⟩
  exact ⟨agree.mpr listed, listed⟩

/-- By its id the knight can be selected on the market, where it is not listed. -/
theorem selectable_unlisted_market :
    (rules.authorizeLogin group knight.id knight.realmId market "a").isOk = true ∧
      knight.realmId ≠ market ∧ group.policyOf knight.realmId = some .boundRealm ∧
      Offline group knight.id ∧
      Selectable rules group knight.accountId market "a" knight.id ∧
      ¬ Listed group knight.accountId market knight.id := by
  have granted : (rules.authorizeLogin group knight.id knight.realmId market "a").isOk = true :=
    (authorizeLogin_isOk knight_mem).mpr (.inr ⟨rfl, rfl⟩)
  refine ⟨granted, by decide, rfl, knight_offline,
    (selectable_iff knight_mem).mpr ⟨rfl, granted⟩, fun listed => ?_⟩
  obtain ⟨-, ⟨target, -⟩ | ⟨-, home⟩⟩ := (listed_iff knight_mem).mp listed
  · cases target
  · cases home

end TwoRealms

end WorldZero.RealmDirectory
