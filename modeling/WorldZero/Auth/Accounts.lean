import Mathlib.Logic.Function.Basic
import WorldZero.Common
import WorldZero.Sql.Rows

/-!
# Accounts and their roles

The two stores of the `auth` crate, each as it stands in memory for tests and as it is in
Postgres. The implementations answer every sequence of calls alike, the roles in some
order, exactly if no role is granted to an account that does not exist, the table of the
roles having a foreign key and the map none, and Postgres takes every text of the calls.
-/

namespace WorldZero.Auth

open Sql

structure Account where
  id : AccountId
  username : String
  passwordHash : String
  deriving DecidableEq

def usernameTaken (username : String) : Error :=
  .new "auth" s!"username already taken: {username}"

/-- `AccountStore` and `AccountRoleStore`, over one state. The id of a new account is drawn
by `AccountId::new`. -/
structure Stores (S : Type) where
  create : S → AccountId → (username passwordHash : String) → Except Error AccountId × S
  findByUsername : S → String → Except Error (Option Account)
  findById : S → AccountId → Option Account
  grantRole : S → AccountId → String → Except Error Unit × S
  revokeRole : S → AccountId → String → Except Error Unit × S
  rolesFor : S → AccountId → List String

/-! ### In memory -/

/-- A `HashMap` under the usernames, and one of sets of roles. -/
structure InMemory where
  byUsername : Rows Account.username
  byAccount : AccountId → Option (List String)

namespace InMemory

def empty : InMemory := ⟨.empty _, fun _ => none⟩

variable (m : InMemory)

def create (id : AccountId) (username passwordHash : String) : Except Error AccountId × InMemory :=
  match m.byUsername.insert ⟨id, username, passwordHash⟩ with
  | some byUsername => (.ok id, { m with byUsername })
  | none => (.error (usernameTaken username), m)

def findByUsername (username : String) : Except Error (Option Account) :=
  .ok (m.byUsername.find username)

def findById (id : AccountId) : Option Account := m.byUsername.rows.find? fun a => a.id = id

def rolesFor (id : AccountId) : List String := (m.byAccount id).getD []

def grantRole (id : AccountId) (role : String) : Except Error Unit × InMemory :=
  (.ok (), { m with
    byAccount := Function.update m.byAccount id (some ((m.rolesFor id).insert role)) })

def revokeRole (id : AccountId) (role : String) : Except Error Unit × InMemory :=
  match m.byAccount id with
  | some roles => (.ok (), { m with
      byAccount := Function.update m.byAccount id (some (roles.erase role)) })
  | none => (.ok (), m)

def stores : Stores InMemory :=
  ⟨create, findByUsername, findById, grantRole, revokeRole, rolesFor⟩

end InMemory

/-! ### In Postgres -/

/-- A `TEXT` holds any character but U+0000. -/
def storable (text : String) : Bool := text.toList.all fun c => c.toNat != 0

/-- Which texts leave room in a page for their entry of the unique index, compressed as
Postgres does it. -/
structure Indexes where
  username : String → Bool
  role : String → Bool

structure RoleRow where
  accountId : AccountId
  role : String
  deriving DecidableEq

/-- `accounts` and `account_roles`; the rows of the latter are their own key. -/
structure Tables where
  accounts : Rows Account.id
  usernames : (accounts.rows.map Account.username).Nodup
  accountRoles : Rows (id : RoleRow → RoleRow)
  owned : ∀ row ∈ accountRoles, ∃ a ∈ accounts, a.id = row.accountId

namespace Tables

def empty : Tables := ⟨.empty _, List.nodup_nil, .empty _, by simp⟩

variable (t : Tables)

/-- `INSERT INTO accounts`, `none` for a unique violation. -/
def insertAccount (a : Account) : Option Tables :=
  match inserted : t.accounts.insert a with
  | none => none
  | some accounts =>
      if free : a.username ∉ t.accounts.rows.map Account.username then
        some { t with
          accounts
          usernames := by
            rw [Rows.rows_insert inserted, List.map_append, List.map_singleton]
            exact t.usernames.append (List.nodup_singleton _)
              (List.disjoint_singleton.mpr free)
          owned := by
            intro row here
            obtain ⟨b, there, same⟩ := t.owned row here
            exact ⟨b, (Rows.mem_insert inserted).mpr (.inl there), same⟩ }
      else none

/-- A statement with a text that cannot be stored fails before it runs, an entry that has
no room when the row is there and found to be unique. -/
def create (ix : Indexes) (t : Tables) (id : AccountId) (username passwordHash : String) :
    Except Error AccountId × Tables :=
  if storable username && storable passwordHash then
    match t.insertAccount ⟨id, username, passwordHash⟩ with
    | none => (.error (usernameTaken username), t)
    | some t' =>
        if ix.username username then (.ok id, t')
        else (.error (.wrap "auth" "failed to create account"), t)
  else (.error (.wrap "auth" "failed to create account"), t)

def findByUsername (username : String) : Except Error (Option Account) :=
  if storable username then .ok (t.accounts.rows.find? fun a => a.username = username)
  else .error (.wrap "auth" "failed to query account")

def findById (id : AccountId) : Option Account := t.accounts.find id

/-- The insert does nothing on a conflict and fails on an unknown account. -/
def grantRole (ix : Indexes) (t : Tables) (id : AccountId) (role : String) :
    Except Error Unit × Tables :=
  let failed : Except Error Unit × Tables := (.error (.wrap "auth" "failed to grant role"), t)
  if storable role then
    match inserted : t.accountRoles.insert ⟨id, role⟩ with
    | none => (.ok (), t)
    | some accountRoles =>
        if ix.role role then
          match known : t.accounts.find id with
          | none => failed
          | some a => (.ok (), { t with
              accountRoles
              owned := by
                intro row here
                obtain there | rfl := (Rows.mem_insert inserted).mp here
                · exact t.owned row there
                · exact ⟨a, Rows.find_eq_some.mp known⟩ })
        else failed
  else failed

def revokeRole (id : AccountId) (role : String) : Except Error Unit × Tables :=
  if storable role then
    (.ok (), { t with
      accountRoles := t.accountRoles.delete fun row => row = ⟨id, role⟩
      owned := fun row here => t.owned row (Rows.mem_delete.mp here).1 })
  else (.error (.wrap "auth" "failed to revoke role"), t)

def rolesFor (id : AccountId) : List String :=
  (t.accountRoles.select fun row => row.accountId = id).map RoleRow.role

def stores (ix : Indexes) : Stores Tables :=
  ⟨create ix, findByUsername, findById, grantRole ix, revokeRole, rolesFor⟩

end Tables

/-! ### What the calls answer -/

namespace Tables

variable {t t' : Tables} {a : Account} {id : AccountId} {username role : String}

theorem insertAccount_eq_some (inserted : t.insertAccount a = some t') :
    (∀ b, b ∈ t'.accounts ↔ b ∈ t.accounts ∨ b = a) ∧ t'.accountRoles = t.accountRoles := by
  unfold insertAccount at inserted
  split at inserted
  · cases inserted
  next accounts there =>
    split at inserted
    · cases inserted
      exact ⟨fun b => Rows.mem_insert there, rfl⟩
    · cases inserted

/-- An account can be inserted if its id and its name are new. -/
theorem insertAccount_isSome :
    (t.insertAccount a).isSome ↔ ∀ b ∈ t.accounts, b.id ≠ a.id ∧ b.username ≠ a.username := by
  have taken : a.username ∉ t.accounts.rows.map Account.username ↔
      ∀ b ∈ t.accounts, b.username ≠ a.username := by
    rw [List.mem_map, not_exists]
    exact forall_congr' fun b => not_and
  unfold insertAccount
  split
  next none =>
    refine iff_of_false Bool.false_ne_true fun fresh => ?_
    obtain ⟨accounts, inserted⟩ := Rows.exists_insert fun b here => (fresh b here).1
    rw [none] at inserted
    cases inserted
  next accounts inserted =>
    have fresh : ∀ b ∈ t.accounts, b.id ≠ a.id := fun b => Rows.fresh_of_insert inserted
    split
    next free => exact iff_of_true rfl fun b here => ⟨fresh b here, taken.mp free b here⟩
    next free =>
      refine iff_of_false Bool.false_ne_true fun new => free (taken.mpr fun b here => ?_)
      exact (new b here).2

theorem create_eq (ix : Indexes) {passwordHash : String} (name : storable username)
    (hash : storable passwordHash) (room : ix.username username)
    (unknown : ∀ b ∈ t.accounts, b.id ≠ id) :
    (t.create ix id username passwordHash).1 =
        (if ∃ b ∈ t.accounts, b.username = username then .error (usernameTaken username)
          else .ok id) ∧
      (∀ b, b ∈ (t.create ix id username passwordHash).2.accounts ↔ b ∈ t.accounts ∨
        (∀ c ∈ t.accounts, c.username ≠ username) ∧ b = ⟨id, username, passwordHash⟩) ∧
      (t.create ix id username passwordHash).2.accountRoles = t.accountRoles := by
  have free := insertAccount_isSome (t := t) (a := ⟨id, username, passwordHash⟩)
  simp only [create, name, hash, room, Bool.and_self, if_true]
  cases inserted : t.insertAccount ⟨id, username, passwordHash⟩ with
  | some t' =>
      rw [inserted] at free
      have new : ∀ c ∈ t.accounts, c.username ≠ username := fun c here =>
        (free.mp rfl c here).2
      obtain ⟨accounts, roles⟩ := insertAccount_eq_some inserted
      refine ⟨?_, fun b => ?_, roles⟩
      · rw [if_neg]
        rintro ⟨c, here, same⟩
        exact new c here same
      · rw [accounts, and_iff_right new]
  | none =>
      have taken : ∃ c ∈ t.accounts, c.username = username := by
        by_contra none
        push Not at none
        rw [inserted] at free
        exact Bool.false_ne_true (free.mpr fun b here => ⟨unknown b here, none b here⟩)
      refine ⟨(if_pos taken).symm, fun b => ?_, rfl⟩
      obtain ⟨c, here, same⟩ := taken
      exact (or_iff_left fun new => new.1 c here same).symm

/-- No account has a name that has no room in the index, so such a name is not found taken. -/
theorem create_refused {ix : Indexes} {passwordHash : String}
    (names : ∀ b ∈ t.accounts, ix.username b.username) (unknown : ∀ b ∈ t.accounts, b.id ≠ id)
    (refused : ¬ (storable username ∧ storable passwordHash ∧ ix.username username)) :
    t.create ix id username passwordHash =
      (.error (.wrap "auth" "failed to create account"), t) := by
  unfold create
  split
  next texts =>
    rw [Bool.and_eq_true] at texts
    have full : ix.username username ≠ true := fun room => refused ⟨texts.1, texts.2, room⟩
    have free : (t.insertAccount ⟨id, username, passwordHash⟩).isSome := by
      refine insertAccount_isSome.mpr fun b here => ⟨unknown b here, ?_⟩
      rintro rfl
      exact full (names b here)
    obtain ⟨t', inserted⟩ := Option.isSome_iff_exists.mp free
    rw [inserted]
    exact if_neg full
  · rfl

/-- An account is refused, and nothing happens, or it is added. -/
theorem create_cases (ix : Indexes) (t : Tables) (id : AccountId)
    (username passwordHash : String) :
    (∃ error, t.create ix id username passwordHash = (.error error, t)) ∨
      ∃ t', t.create ix id username passwordHash = (.ok id, t') ∧
        ∀ b, b ∈ t'.accounts ↔ b ∈ t.accounts ∨ b = ⟨id, username, passwordHash⟩ := by
  unfold create
  split
  · split
    · exact .inl ⟨_, rfl⟩
    next t' inserted =>
      split
      · exact .inr ⟨t', rfl, (insertAccount_eq_some inserted).1⟩
      · exact .inl ⟨_, rfl⟩
  · exact .inl ⟨_, rfl⟩

theorem findByUsername_eq_some :
    t.findByUsername username = .ok (some a) ↔
      storable username ∧ a ∈ t.accounts ∧ a.username = username := by
  let named : Rows Account.username := ⟨t.accounts.rows, t.usernames⟩
  have found : named.find username = some a ↔ a ∈ t.accounts ∧ a.username = username :=
    Rows.find_eq_some
  unfold findByUsername
  split
  next stored => rw [Except.ok.injEq, and_iff_right stored, ← found]; rfl
  next refused => exact iff_of_false (fun ok => by cases ok) fun h => refused h.1

theorem mem_rolesFor : role ∈ t.rolesFor id ↔ (⟨id, role⟩ : RoleRow) ∈ t.accountRoles := by
  simp only [rolesFor, List.mem_map, Rows.mem_select, decide_eq_true_eq]
  constructor
  · rintro ⟨⟨accountId, role⟩, ⟨here, rfl⟩, rfl⟩
    exact here
  · exact fun here => ⟨_, ⟨here, rfl⟩, rfl⟩

theorem nodup_rolesFor : (t.rolesFor id).Nodup := by
  have rows : (t.accountRoles.select fun row => row.accountId = id).Nodup :=
    List.Nodup.filter _ (by simpa using t.accountRoles.unique)
  refine (List.nodup_map_iff_inj_on rows).mpr ?_
  rintro ⟨a, role⟩ here ⟨b, role'⟩ here' same
  obtain ⟨-, own⟩ := Rows.mem_select.mp here
  obtain ⟨-, own'⟩ := Rows.mem_select.mp here'
  simp only [decide_eq_true_eq] at own own'
  rw [own, own', show role = role' from same]

theorem mem_accountRoles_of_conflict (taken : t.accountRoles.insert ⟨id, role⟩ = none) :
    (⟨id, role⟩ : RoleRow) ∈ t.accountRoles := by
  by_contra absent
  have fresh : ∀ row ∈ t.accountRoles, row ≠ ⟨id, role⟩ := by
    rintro row here rfl
    exact absent here
  obtain ⟨rows, inserted⟩ := Rows.exists_insert fresh
  rw [taken] at inserted
  cases inserted

theorem grantRole_eq (ix : Indexes) (text : storable role) (room : ix.role role)
    (known : ∃ a ∈ t.accounts, a.id = id) :
    (t.grantRole ix id role).1 = .ok () ∧
      ∀ row, row ∈ (t.grantRole ix id role).2.accountRoles ↔
        row ∈ t.accountRoles ∨ row = ⟨id, role⟩ := by
  rw [grantRole, if_pos text]
  split
  next taken =>
    refine ⟨rfl, fun row => (or_iff_left_of_imp ?_).symm⟩
    rintro rfl
    exact mem_accountRoles_of_conflict taken
  next rows inserted =>
    rw [if_pos room]
    split
    next unknown =>
      obtain ⟨a, here, same⟩ := known
      exact absurd same (Rows.find_eq_none.mp unknown a here)
    next a known => exact ⟨rfl, fun row => Rows.mem_insert inserted⟩

theorem grantRole_refused {ix : Indexes} (roles : ∀ row ∈ t.accountRoles, ix.role row.role)
    (refused : ¬ (storable role ∧ ix.role role ∧ ∃ a ∈ t.accounts, a.id = id)) :
    t.grantRole ix id role = (.error (.wrap "auth" "failed to grant role"), t) := by
  unfold grantRole
  split
  next text =>
    split
    next taken =>
      have there := mem_accountRoles_of_conflict taken
      exact absurd ⟨text, roles _ there, t.owned _ there⟩ refused
    next rows inserted =>
      split
      next room =>
        split
        · rfl
        next a known =>
          exact absurd ⟨text, room, a, Rows.find_eq_some.mp known⟩ refused
      · rfl
  · rfl

theorem accounts_grantRole (ix : Indexes) (t : Tables) (id : AccountId) (role : String) :
    (t.grantRole ix id role).2.accounts = t.accounts := by
  unfold grantRole
  split
  · split
    · rfl
    · split
      · split <;> rfl
      · rfl
  · rfl

theorem accounts_revokeRole (t : Tables) (id : AccountId) (role : String) :
    (t.revokeRole id role).2.accounts = t.accounts := by
  unfold revokeRole
  split <;> rfl

end Tables

namespace InMemory

variable {m : InMemory} {a : Account} {id id' : AccountId} {username role role' : String}

theorem create_eq (m : InMemory) (id : AccountId) (username passwordHash : String) :
    (m.create id username passwordHash).1 =
        (if ∃ b ∈ m.byUsername, b.username = username then .error (usernameTaken username)
          else .ok id) ∧
      (∀ b, b ∈ (m.create id username passwordHash).2.byUsername ↔ b ∈ m.byUsername ∨
        (∀ c ∈ m.byUsername, c.username ≠ username) ∧ b = ⟨id, username, passwordHash⟩) ∧
      (m.create id username passwordHash).2.byAccount = m.byAccount := by
  unfold create
  cases inserted : m.byUsername.insert ⟨id, username, passwordHash⟩ with
  | some byUsername =>
      have new : ∀ c ∈ m.byUsername, c.username ≠ username := fun c =>
        Rows.fresh_of_insert inserted
      refine ⟨?_, fun b => ?_, rfl⟩
      · rw [if_neg]
        rintro ⟨c, here, same⟩
        exact new c here same
      · rw [and_iff_right new]
        exact Rows.mem_insert inserted
  | none =>
      have taken : ∃ c ∈ m.byUsername, c.username = username := by
        by_contra none
        push Not at none
        let row : Account := ⟨id, username, passwordHash⟩
        obtain ⟨rows, free⟩ := Rows.exists_insert (r := row) none
        rw [inserted] at free
        cases free
      refine ⟨(if_pos taken).symm, fun b => ?_, rfl⟩
      obtain ⟨c, here, same⟩ := taken
      exact (or_iff_left fun new => new.1 c here same).symm

theorem findById_eq_some (unique : ∀ b ∈ m.byUsername, ∀ c ∈ m.byUsername, b.id = c.id → b = c) :
    m.findById id = some a ↔ a ∈ m.byUsername ∧ a.id = id := by
  constructor
  · intro found
    exact ⟨List.mem_of_find?_eq_some found, by simpa using List.find?_some found⟩
  · rintro ⟨here, rfl⟩
    cases found : m.findById a.id with
    | none => exact absurd (decide_eq_true rfl) (List.find?_eq_none.mp found a here)
    | some b =>
        have same : b.id = a.id := by simpa using List.find?_some found
        rw [unique b (List.mem_of_find?_eq_some found) a here same]

theorem rolesFor_grantRole :
    (m.grantRole id role).2.rolesFor id' =
      if id' = id then (m.rolesFor id).insert role else m.rolesFor id' := by
  by_cases own : id' = id
  · subst own
    simp [grantRole, rolesFor]
  · simp [grantRole, rolesFor, own]

theorem rolesFor_revokeRole :
    (m.revokeRole id role).2.rolesFor id' =
      if id' = id then (m.rolesFor id).erase role else m.rolesFor id' := by
  unfold revokeRole
  cases held : m.byAccount id with
  | none =>
      by_cases own : id' = id
      · subst own
        simp [rolesFor, held]
      · simp [own]
  | some roles =>
      by_cases own : id' = id
      · subst own
        simp [rolesFor, held]
      · simp [rolesFor, own]

theorem revokeRole_eq (m : InMemory) (id : AccountId) (role : String) :
    (m.revokeRole id role).1 = .ok () ∧
    (m.revokeRole id role).2.byUsername = m.byUsername := by
  unfold revokeRole
  split <;> exact ⟨rfl, rfl⟩

end InMemory

/-! ### Any sequence of calls -/

inductive Call where
  | create (id : AccountId) (username passwordHash : String)
  | findByUsername (username : String)
  | findById (id : AccountId)
  | grantRole (id : AccountId) (role : String)
  | revokeRole (id : AccountId) (role : String)
  | rolesFor (id : AccountId)

inductive Answer where
  | created (result : Except Error AccountId)
  | found (account : Except Error (Option Account))
  | done (result : Except Error Unit)
  | roles (roles : List String)

/-- The roles of an account come in no particular order. -/
def Answer.Same : Answer → Answer → Prop
  | .roles held, .roles held' => held.Perm held'
  | answer, answer' => answer = answer'

namespace Call

def newId : Call → Option AccountId
  | .create id _ _ => some id
  | _ => none

variable {S : Type} (stores : Stores S)

def run (s : S) : Call → Answer × S
  | .create id username passwordHash =>
      let (result, s) := stores.create s id username passwordHash
      (.created result, s)
  | .findByUsername username => (.found (stores.findByUsername s username), s)
  | .findById id => (.found (.ok (stores.findById s id)), s)
  | .grantRole id role =>
      let (result, s) := stores.grantRole s id role
      (.done result, s)
  | .revokeRole id role =>
      let (result, s) := stores.revokeRole s id role
      (.done result, s)
  | .rolesFor id => (.roles (stores.rolesFor s id), s)

/-- Postgres takes the texts of the call: those it stores, and those it looks for. -/
def Stored (ix : Indexes) : Call → Prop
  | .create _ username passwordHash =>
      storable username ∧ storable passwordHash ∧ ix.username username
  | .findByUsername username => storable username
  | .grantRole _ role => storable role ∧ ix.role role
  | .revokeRole _ role => storable role
  | .findById _ | .rolesFor _ => True

instance decidableStored (ix : Indexes) : ∀ call, Decidable (Stored ix call)
  | .create _ username passwordHash =>
      inferInstanceAs (Decidable
        (storable username ∧ storable passwordHash ∧ ix.username username))
  | .findByUsername username => inferInstanceAs (Decidable (storable username))
  | .grantRole _ role => inferInstanceAs (Decidable (storable role ∧ ix.role role))
  | .revokeRole _ role => inferInstanceAs (Decidable (storable role))
  | .findById _ | .rolesFor _ => isTrue trivial

/-- Roles are granted to accounts that exist. -/
def Known (t : Tables) : Call → Prop
  | .grantRole id _ => ∃ a ∈ t.accounts, a.id = id
  | _ => True

instance decidableKnown (t : Tables) : ∀ call, Decidable (Known t call)
  | .grantRole id _ => inferInstanceAs (Decidable (∃ a ∈ t.accounts, a.id = id))
  | .create .. | .findByUsername _ | .findById _ | .revokeRole .. | .rolesFor _ => isTrue trivial

end Call

/-- What the calls answer, one after the other. -/
def Stores.answers {S : Type} (stores : Stores S) : S → List Call → List Answer
  | _, [] => []
  | s, call :: calls => (call.run stores s).1 :: stores.answers (call.run stores s).2 calls

def GrantsKnown (ix : Indexes) : Tables → List Call → Prop
  | _, [] => True
  | t, call :: calls =>
      call.Known t ∧ GrantsKnown ix (call.run (Tables.stores ix) t).2 calls

instance decidableGrantsKnown (ix : Indexes) : ∀ t calls, Decidable (GrantsKnown ix t calls)
  | _, [] => isTrue trivial
  | t, call :: calls =>
      have := decidableGrantsKnown ix (call.run (Tables.stores ix) t).2 calls
      inferInstanceAs (Decidable
        (call.Known t ∧ GrantsKnown ix (call.run (Tables.stores ix) t).2 calls))

/-- The map and the tables hold the same accounts and roles, all of them with room for their
entries in the indexes. -/
structure Alike (ix : Indexes) (m : InMemory) (t : Tables) : Prop where
  accounts : ∀ a, a ∈ m.byUsername ↔ a ∈ t.accounts
  distinct : ∀ id, (m.rolesFor id).Nodup
  roles : ∀ id role, role ∈ m.rolesFor id ↔ (⟨id, role⟩ : RoleRow) ∈ t.accountRoles
  usernameRoom : ∀ a ∈ t.accounts, ix.username a.username
  roleRoom : ∀ row ∈ t.accountRoles, ix.role row.role

namespace Alike

variable {ix : Indexes} {m : InMemory} {t : Tables} {id : AccountId}
  {username passwordHash role : String}

theorem empty : Alike ix .empty .empty where
  accounts _ := iff_of_false (Rows.notMem_empty _) (Rows.notMem_empty _)
  distinct _ := List.nodup_nil
  roles _ _ := iff_of_false List.not_mem_nil (Rows.notMem_empty _)
  usernameRoom a here := absurd here (Rows.notMem_empty a)
  roleRoom row here := absurd here (Rows.notMem_empty row)

theorem findByUsername (alike : Alike ix m t) (name : storable username) :
    m.findByUsername username = t.findByUsername username := by
  rw [InMemory.findByUsername, Tables.findByUsername, if_pos name]
  let named : Rows Account.username := ⟨t.accounts.rows, t.usernames⟩
  refine congrArg Except.ok (Option.ext fun a => ?_)
  have found : named.find username = some a ↔ a ∈ t.accounts ∧ a.username = username :=
    Rows.find_eq_some
  rw [Rows.find_eq_some, alike.accounts]
  exact found.symm

theorem findById (alike : Alike ix m t) : m.findById id = t.findById id := by
  ext a
  have unique : ∀ b ∈ m.byUsername, ∀ c ∈ m.byUsername, b.id = c.id → b = c :=
    fun b here c there => Rows.eq_of_key ((alike.accounts b).mp here) ((alike.accounts c).mp there)
  rw [InMemory.findById_eq_some unique, Tables.findById, Rows.find_eq_some, alike.accounts]

theorem rolesFor (alike : Alike ix m t) : (m.rolesFor id).Perm (t.rolesFor id) := by
  refine (List.perm_ext_iff_of_nodup (alike.distinct id) Tables.nodup_rolesFor).mpr fun role => ?_
  rw [alike.roles, Tables.mem_rolesFor]

theorem create (alike : Alike ix m t) (name : storable username) (hash : storable passwordHash)
    (room : ix.username username) (unknown : ∀ b ∈ t.accounts, b.id ≠ id) :
    (m.create id username passwordHash).1 = (t.create ix id username passwordHash).1 ∧
      Alike ix (m.create id username passwordHash).2
        (t.create ix id username passwordHash).2 := by
  obtain ⟨answer, accounts, roles⟩ := InMemory.create_eq m id username passwordHash
  obtain ⟨answer', accounts', roles'⟩ := Tables.create_eq ix name hash room unknown
  refine ⟨?_, fun a => ?_, fun id' => ?_, fun id' role => ?_, fun a here => ?_, ?_⟩
  · simp only [answer, answer', alike.accounts]
  · simp only [accounts, accounts', alike.accounts]
  · simpa only [InMemory.rolesFor, roles] using alike.distinct id'
  · simpa only [InMemory.rolesFor, roles, roles'] using alike.roles id' role
  · obtain there | ⟨-, rfl⟩ := (accounts' a).mp here
    · exact alike.usernameRoom a there
    · exact room
  · rw [roles']
    exact alike.roleRoom

theorem grantRole (alike : Alike ix m t) (text : storable role) (room : ix.role role)
    (known : ∃ a ∈ t.accounts, a.id = id) :
    (m.grantRole id role).1 = (t.grantRole ix id role).1 ∧
      Alike ix (m.grantRole id role).2 (t.grantRole ix id role).2 := by
  obtain ⟨answer, roles⟩ := Tables.grantRole_eq ix text room known
  have accounts := Tables.accounts_grantRole ix t id role
  refine ⟨answer.symm, fun a => ?_, fun id' => ?_, fun id' role' => ?_, ?_, fun row here => ?_⟩
  · rw [accounts]
    exact alike.accounts a
  · rw [InMemory.rolesFor_grantRole]
    split
    · exact (alike.distinct id).insert
    · exact alike.distinct id'
  · rw [InMemory.rolesFor_grantRole, roles, RoleRow.mk.injEq]
    split
    next own =>
      rw [List.mem_insert_iff, alike.roles, own, and_iff_right rfl, or_comm]
    next other =>
      rw [alike.roles]
      exact (or_iff_left fun same => other same.1).symm
  · rw [accounts]
    exact alike.usernameRoom
  · obtain there | rfl := (roles row).mp here
    · exact alike.roleRoom row there
    · exact room

theorem revokeRole (alike : Alike ix m t) (id : AccountId) (text : storable role) :
    (m.revokeRole id role).1 = (t.revokeRole id role).1 ∧
      Alike ix (m.revokeRole id role).2 (t.revokeRole id role).2 := by
  obtain ⟨answer, accounts⟩ := InMemory.revokeRole_eq m id role
  rw [Tables.revokeRole, if_pos text]
  refine ⟨answer, fun a => ?_, fun id' => ?_, fun id' role' => ?_, alike.usernameRoom,
    fun row here => alike.roleRoom row (Rows.mem_delete.mp here).1⟩
  · rw [accounts]
    exact alike.accounts a
  · rw [InMemory.rolesFor_revokeRole]
    split
    · exact (alike.distinct id).erase _
    · exact alike.distinct id'
  · rw [InMemory.rolesFor_revokeRole, Rows.mem_delete]
    split
    next own =>
      rw [(alike.distinct id).mem_erase_iff, alike.roles, own]
      simp [and_comm]
    next other =>
      rw [alike.roles]
      simp [other]

end Alike

/-- The two refusals of an account read differently. -/
theorem usernameTaken_ne (username : String) :
    usernameTaken username ≠ .wrap "auth" "failed to create account" := by
  intro same
  have text : "username already taken: " ++ username = "failed to create account" :=
    congrArg Error.message same
  have chars := congrArg (fun s => s.toList.head?) text
  simp at chars

namespace Call

variable {ix : Indexes} {m : InMemory} {t : Tables} {call : Call}

/-- One call whose texts Postgres takes answers alike and leaves the stores alike, unless it
grants to nobody. -/
theorem run_alike (alike : Alike ix m t) (unknown : ∀ b ∈ t.accounts, call.newId ≠ some b.id)
    (known : call.Known t) (stored : call.Stored ix) :
    (call.run InMemory.stores m).1.Same (call.run (Tables.stores ix) t).1 ∧
      Alike ix (call.run InMemory.stores m).2 (call.run (Tables.stores ix) t).2 := by
  cases call with
  | create id username passwordHash =>
      have fresh : ∀ b ∈ t.accounts, b.id ≠ id := by
        rintro b here rfl
        exact unknown b here rfl
      obtain ⟨name, hash, room⟩ := stored
      obtain ⟨same, after⟩ := alike.create name hash room fresh
      exact ⟨congrArg Answer.created same, after⟩
  | findByUsername username =>
      exact ⟨congrArg Answer.found (alike.findByUsername stored), alike⟩
  | findById id => exact ⟨congrArg (fun a => Answer.found (.ok a)) alike.findById, alike⟩
  | grantRole id role =>
      obtain ⟨same, after⟩ := alike.grantRole stored.1 stored.2 known
      exact ⟨congrArg Answer.done same, after⟩
  | revokeRole id role =>
      obtain ⟨same, after⟩ := alike.revokeRole id stored
      exact ⟨congrArg Answer.done same, after⟩
  | rolesFor id => exact ⟨alike.rolesFor, alike⟩

/-- A grant to nobody, or a text that Postgres does not take, is answered differently. -/
theorem known_and_stored_of_same (alike : Alike ix m t)
    (unknown : ∀ b ∈ t.accounts, call.newId ≠ some b.id)
    (same : (call.run InMemory.stores m).1.Same (call.run (Tables.stores ix) t).1) :
    call.Known t ∧ call.Stored ix := by
  cases call with
  | create id username passwordHash =>
      refine ⟨trivial, by_contra fun refused => ?_⟩
      have fresh : ∀ b ∈ t.accounts, b.id ≠ id := by
        rintro b here rfl
        exact unknown b here rfl
      have failed := Tables.create_refused alike.usernameRoom fresh refused
      have answer := Answer.created.inj same
      have error : (m.create id username passwordHash).1 =
          .error (.wrap "auth" "failed to create account") :=
        answer.trans (congrArg Prod.fst failed)
      rw [(InMemory.create_eq m id username passwordHash).1] at error
      split at error
      · exact usernameTaken_ne username (Except.error.inj error)
      · cases error
  | findByUsername username =>
      refine ⟨trivial, by_contra fun refused : ¬ storable username => ?_⟩
      have answer : InMemory.findByUsername m username = t.findByUsername username :=
        Answer.found.inj same
      rw [Tables.findByUsername, if_neg refused] at answer
      cases answer
  | grantRole id role =>
      by_contra refused
      have failed : t.grantRole ix id role = (.error (.wrap "auth" "failed to grant role"), t) :=
        Tables.grantRole_refused alike.roleRoom fun h => refused ⟨h.2.2, h.1, h.2.1⟩
      have answer : .ok () = (t.grantRole ix id role).1 := Answer.done.inj same
      rw [failed] at answer
      cases answer
  | revokeRole id role =>
      refine ⟨trivial, by_contra fun refused : ¬ storable role => ?_⟩
      have ok := (InMemory.revokeRole_eq m id role).1
      have answer : (m.revokeRole id role).1 = (t.revokeRole id role).1 := Answer.done.inj same
      rw [ok, Tables.revokeRole, if_neg refused] at answer
      cases answer
  | findById | rolesFor => exact ⟨trivial, trivial⟩

theorem accounts_run {b : Account} (unknown : ∀ b ∈ t.accounts, call.newId ≠ some b.id)
    (stored : call.Stored ix) (here : b ∈ (call.run (Tables.stores ix) t).2.accounts) :
    b ∈ t.accounts ∨ call.newId = some b.id := by
  cases call with
  | create id username passwordHash =>
      have fresh : ∀ b ∈ t.accounts, b.id ≠ id := by
        rintro c there rfl
        exact unknown c there rfl
      obtain ⟨name, hash, room⟩ := stored
      obtain ⟨-, accounts, -⟩ := Tables.create_eq ix name hash room fresh
      refine ((accounts b).mp here).imp_right ?_
      rintro ⟨-, rfl⟩
      rfl
  | grantRole id role => exact .inl (Tables.accounts_grantRole ix t id role ▸ here)
  | revokeRole id role => exact .inl (Tables.accounts_revokeRole t id role ▸ here)
  | findByUsername | findById | rolesFor => exact .inl here

end Call

theorem answers_same_iff {ix : Indexes} {calls : List Call} {m : InMemory} {t : Tables}
    (alike : Alike ix m t) (fresh : (calls.filterMap Call.newId).Nodup)
    (unknown : ∀ b ∈ t.accounts, b.id ∉ calls.filterMap Call.newId) :
    List.Forall₂ Answer.Same (InMemory.stores.answers m calls)
        ((Tables.stores ix).answers t calls) ↔
      GrantsKnown ix t calls ∧ ∀ call ∈ calls, call.Stored ix := by
  induction calls generalizing m t with
  | nil => exact iff_of_true .nil ⟨trivial, List.forall_mem_nil _⟩
  | cons call calls ih =>
      have new : ∀ b ∈ t.accounts, call.newId ≠ some b.id := fun b here same =>
        unknown b here (List.mem_filterMap.mpr ⟨call, List.mem_cons_self, same⟩)
      have later : (calls.filterMap Call.newId).Nodup :=
        ((List.sublist_cons_self call calls).filterMap _).nodup fresh
      rw [Stores.answers, Stores.answers, List.forall₂_cons, GrantsKnown, List.forall_mem_cons,
        and_and_and_comm]
      by_cases taken : call.Known t ∧ call.Stored ix
      · obtain ⟨same, after⟩ := Call.run_alike alike new taken.1 taken.2
        refine and_congr (iff_of_true same taken) (ih after later fun b here again => ?_)
        obtain there | now := Call.accounts_run new taken.2 here
        · obtain ⟨other, among, same⟩ := List.mem_filterMap.mp again
          exact unknown b there
            (List.mem_filterMap.mpr ⟨other, List.mem_cons_of_mem _ among, same⟩)
        · rw [List.filterMap_cons_some now, List.nodup_cons] at fresh
          exact fresh.1 again
      · refine iff_of_false (fun agree => taken ?_) fun agree => taken agree.1
        exact Call.known_and_stored_of_same alike new agree.1

/-- Two empty stores answer alike, as long as the ids that are drawn differ, exactly if every
role is granted to an account that exists and Postgres takes every text. -/
theorem stores_agree_iff (ix : Indexes) (calls : List Call)
    (fresh : (calls.filterMap Call.newId).Nodup) :
    List.Forall₂ Answer.Same (InMemory.stores.answers .empty calls)
        ((Tables.stores ix).answers .empty calls) ↔
      GrantsKnown ix .empty calls ∧ ∀ call ∈ calls, call.Stored ix :=
  answers_same_iff .empty fresh fun b here => absurd here (Rows.notMem_empty b)

namespace Alice

def account : AccountId := ⟨0x1f0a3c5e7b9d4f21a8c64e02d97b35f8⟩

/-- Short texts have room in a page, compressed or not. -/
def indexes : Indexes := ⟨fun username => username.utf8ByteSize ≤ 2000,
  fun role => role.utf8ByteSize ≤ 2000⟩

/-- A name that is taken, two grants of a role, and a role that is revoked. -/
def calls : List Call :=
  [.create account "alice" "a", .create ⟨2⟩ "alice" "b", .findByUsername "alice",
    .grantRole account "admin", .grantRole account "admin", .grantRole account "dev",
    .revokeRole account "dev", .rolesFor account, .findById ⟨2⟩]

/-- A name with the character U+0000 in it, which nobody has. -/
def nul : String := String.ofList ['a', Char.ofNat 0]

theorem stores_agree_alice :
    List.Forall₂ Answer.Same (InMemory.stores.answers .empty calls)
        ((Tables.stores indexes).answers .empty calls) ∧
      (¬ List.Forall₂ Answer.Same
        (InMemory.stores.answers .empty (calls ++ [.grantRole ⟨2⟩ "admin"]))
        ((Tables.stores indexes).answers .empty (calls ++ [.grantRole ⟨2⟩ "admin"]))) ∧
      ¬ List.Forall₂ Answer.Same
        (InMemory.stores.answers .empty (calls ++ [.findByUsername nul]))
        ((Tables.stores indexes).answers .empty (calls ++ [.findByUsername nul])) := by
  refine ⟨(stores_agree_iff indexes calls (by decide)).mpr ?_,
    mt (stores_agree_iff indexes _ (by decide)).mp ?_,
    mt (stores_agree_iff indexes _ (by decide)).mp ?_⟩
  · exact ⟨by decide, by decide⟩
  · exact fun h => absurd h.1 (by decide)
  · exact fun h => absurd h.2 (by decide)

end Alice

end WorldZero.Auth
