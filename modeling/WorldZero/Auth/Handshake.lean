import WorldZero.Auth.Accounts
import WorldZero.Auth.GatewayProtocol
import WorldZero.Expiring
import WorldZero.Transition

/-!
# Who is authenticated

Any number of connections register, log in or resume a session, each statement of a
handshake a step between which the others go on, time passes and roles change. Tokens are
kept in Redis for a day after their last use. Whoever is authenticated has shown the
password of the account, or presents a token that was issued to somebody who has.
-/

namespace WorldZero.Auth

open Expiring (Store Outcome)
open Gateway (parseId parseId_toString uuidText)
open GatewayProtocol (ClientMessage)
open Transition (Admissible exec exec_cons exec_invariant)

def SESSION_TTL_SECONDS : ℕ := 24 * 60 * 60

/-- What the handshake uses of `argon2` and `uuid`, and what room Postgres has. -/
structure Libraries where
  /-- Each call draws a salt. -/
  hashPassword : (salt password : String) → Option String
  /-- `none` when the stored hash cannot be read. -/
  verifyPassword : (password hash : String) → Option Bool
  parseUuid : String → Option Uuid
  indexes : Indexes

def sessionKey (token : String) : String := "session:" ++ token

theorem sessionKey_injective : Function.Injective sessionKey := by
  intro token token' same
  have chars : (sessionKey token).toList = (sessionKey token').toList := by rw [same]
  rw [sessionKey, sessionKey, String.toList_append, String.toList_append] at chars
  exact String.toList_inj.mp (List.append_cancel_left chars)

/-! ### The phases of a handshake -/

/-- Each phase but the first and the last ones stands before a statement. -/
inductive Phase where
  | waiting
  /-- Before the insert of the account. -/
  | registering (username passwordHash : String)
  /-- Before the account is looked up by its name. -/
  | loggingIn (username password : String)
  /-- `SessionManager::issue`. -/
  | issuing (accountId : AccountId) (username : String)
  /-- `SessionManager::resolve`, before the token is looked up. -/
  | resolving (sessionToken : String)
  /-- The same, before the token is kept for another day. -/
  | renewing (accountId : AccountId) (sessionToken : String)
  /-- Before the account is looked up by its id. -/
  | naming (accountId : AccountId) (sessionToken : String)
  /-- Before the roles are read. -/
  | greeting (accountId : AccountId) (username sessionToken : String)
  | authenticated (accountId : AccountId) (username sessionToken : String) (roles : List String)
  | refused (error : Error)
  /-- Closed without an answer. -/
  | closed
  deriving DecidableEq

/-- A token that was issued. -/
structure Issue (κ : Type) where
  connection : κ
  sessionToken : String
  accountId : AccountId
  deriving DecidableEq

/-- The messages and the issued tokens are read by the specifications only. Redis is given by
the calls it was sent. -/
structure State (κ : Type) where
  /-- In milliseconds. -/
  now : ℕ
  tables : Tables
  sessions : List (Expiring.Call String String)
  phase : κ → Phase
  message : κ → Option ClientMessage
  issued : List (Issue κ)

inductive Label (κ : Type) where
  | tick (elapsed : ℕ)
  /-- The first frame; what `hash_password` draws. -/
  | receive (k : κ) (frame : Except Error ClientMessage) (salt : String)
  /-- The next statement; what `AccountId::new` and `generate_token` draw. -/
  | resume (k : κ) (outcome : Outcome) (id : AccountId) (token : String)
  /-- The `role` program. -/
  | grantRole (id : AccountId) (role : String)
  | revokeRole (id : AccountId) (role : String)

def invalidCredentials : Error := .new "auth" "invalid credentials"

def sessionInvalid : Error := .new "auth" "session token is invalid or has expired"

variable {κ : Type} [DecidableEq κ]

namespace State

variable (lib : Libraries) (s : State κ) (k : κ)

def goto (phase : Phase) : State κ := { s with phase := Function.update s.phase k phase }

def redis : Store String String := Expiring.run s.sessions

/-- `SETEX` and `EXPIRE`. -/
def send (operation : Expiring.Operation String String) : State κ :=
  { s with sessions := s.sessions ++ [⟨s.now, SESSION_TTL_SECONDS * 1000, operation⟩] }

def issue (accountId : AccountId) (token : String) : State κ :=
  { s.send (.set (sessionKey token) (toString accountId)) with
    issued := ⟨k, token, accountId⟩ :: s.issued }

/-- What a statement has done, then the phase that follows it. -/
def answer (outcome : Outcome) (failure : Error) (next : Phase) (done : State κ) : State κ :=
  match outcome with
  | .ok => done.goto k next
  | .failed => s.goto k (.refused failure)
  | .lost => done.goto k (.refused failure)

/-- `authenticate`, up to its first statement. -/
def authenticate (salt : String) : ClientMessage → Phase
  | .register username password =>
      match lib.hashPassword salt password with
      | some passwordHash => .registering username passwordHash
      | none => .refused (.wrap "auth" "failed to hash password")
  | .login username password => .loggingIn username password
  | .resume sessionToken => .resolving sessionToken

/-- `verify_credentials`, from the row that was found. -/
def verify (username password : String) : Option Account → Phase
  | none => .refused invalidCredentials
  | some account =>
      match lib.verifyPassword password account.passwordHash with
      | none => .refused (.wrap "auth" "stored password hash is invalid")
      | some true => .issuing account.id username
      | some false => .refused invalidCredentials

/-- `SessionManager::resolve`, from what was found. -/
def identify (sessionToken : String) : Option String → Phase
  | none => .refused sessionInvalid
  | some stored =>
      match parseId lib.parseUuid stored with
      | none => .refused (.wrap "auth" "corrupt session record")
      | some accountId => .renewing accountId sessionToken

def name (accountId : AccountId) (sessionToken : String) : Option Account → Phase
  | none => .refused (.new "auth" "account no longer exists")
  | some account => .greeting accountId account.username sessionToken

def resume (outcome : Outcome) (id : AccountId) (token : String) : Phase → Option (State κ)
  | .waiting => none
  | .registering username passwordHash =>
      let (created, tables) := s.tables.create lib.indexes id username passwordHash
      some (s.answer k outcome (.wrap "auth" "failed to create account")
        (match created with
          | .ok accountId => .issuing accountId username
          | .error error => .refused error)
        { s with tables })
  | .loggingIn username password =>
      some (s.answer k outcome (.wrap "auth" "failed to query account")
        (match s.tables.findByUsername username with
          | .ok found => verify lib username password found
          | .error error => .refused error) s)
  | .issuing accountId username =>
      some (s.answer k outcome (.wrap "auth" "failed to persist session")
        (.greeting accountId username token) (s.issue k accountId token))
  | .resolving sessionToken =>
      some (s.answer k outcome (.wrap "auth" "failed to look up session")
        (identify lib sessionToken (s.redis.lookup s.now (sessionKey sessionToken))) s)
  | .renewing accountId sessionToken =>
      some (s.answer k outcome (.wrap "auth" "failed to renew session")
        (.naming accountId sessionToken) (s.send (.renew (sessionKey sessionToken))))
  | .naming accountId sessionToken =>
      some (s.answer k outcome (.wrap "auth" "failed to query account")
        (name accountId sessionToken (s.tables.findById accountId)) s)
  | .greeting accountId username sessionToken =>
      some (match outcome with
        | .ok => s.goto k
            (.authenticated accountId username sessionToken (s.tables.rolesFor accountId))
        | .failed | .lost => s.goto k .closed)
  | .authenticated .. | .refused _ | .closed => none

end State

def step (lib : Libraries) (s : State κ) : Label κ → Option (State κ)
  | .tick elapsed => some { s with now := s.now + elapsed }
  | .receive k frame salt =>
      match s.phase k, frame with
      | .waiting, .ok message =>
          some { s.goto k (State.authenticate lib salt message) with
            message := Function.update s.message k (some message) }
      | .waiting, .error error => some (s.goto k (.refused error))
      | _, _ => none
  | .resume k outcome id token => s.resume lib k outcome id token (s.phase k)
  | .grantRole id role => some { s with tables := (s.tables.grantRole lib.indexes id role).2 }
  | .revokeRole id role => some { s with tables := (s.tables.revokeRole id role).2 }

def start : State κ := ⟨0, .empty, [], fun _ => .waiting, fun _ => none, []⟩

/-! ### What each phase rests on -/

variable (lib : Libraries) {s t : State κ} {k k' : κ}

/-- The message shows the password of the account. -/
def Shows (account : Account) : ClientMessage → Prop
  | .register username password =>
      username = account.username ∧
        ∃ salt, lib.hashPassword salt password = some account.passwordHash
  | .login username password =>
      username = account.username ∧ lib.verifyPassword password account.passwordHash = some true
  | .resume _ => False

/-- The connection has shown the password of the account. -/
def Owner (s : State κ) (k : κ) (accountId : AccountId) (username : String) : Prop :=
  ∃ account ∈ s.tables.accounts, account.id = accountId ∧ account.username = username ∧
    ∃ message, s.message k = some message ∧ Shows lib account message

/-- The account exists, and the token was issued for it, to the connection itself or to
another one whose token it presents. -/
def Admitted (s : State κ) (k : κ) (accountId : AccountId) (username sessionToken : String) :
    Prop :=
  (∃ account ∈ s.tables.accounts, account.id = accountId ∧ account.username = username) ∧
    ∃ i ∈ s.issued, i.sessionToken = sessionToken ∧ i.accountId = accountId ∧
      (i.connection = k ∨ s.message k = some (.resume sessionToken))

def Rests (s : State κ) (k : κ) : Phase → Prop
  | .waiting => s.message k = none
  | .registering username passwordHash =>
      ∃ password salt, s.message k = some (.register username password) ∧
        lib.hashPassword salt password = some passwordHash
  | .loggingIn username password => s.message k = some (.login username password)
  | .issuing accountId username => Owner lib s k accountId username
  | .resolving sessionToken => s.message k = some (.resume sessionToken)
  | .renewing accountId sessionToken | .naming accountId sessionToken =>
      s.message k = some (.resume sessionToken) ∧
        ∃ i ∈ s.issued, i.sessionToken = sessionToken ∧ i.accountId = accountId
  | .greeting accountId username sessionToken
  | .authenticated accountId username sessionToken _ =>
      Admitted s k accountId username sessionToken
  | .refused _ | .closed => True

/-- What a call has to do with the issued tokens. -/
def Recorded (s : State κ) (c : Expiring.Call String String) : Prop :=
  match c.operation with
  | .set key value =>
      ∃ i ∈ s.issued, key = sessionKey i.sessionToken ∧ value = toString i.accountId ∧
        parseId lib.parseUuid value = some i.accountId
  | .renew _ => True
  | .delete _ => False

structure Sound (s : State κ) : Prop where
  rests : ∀ k, Rests lib s k (s.phase k)
  owned : ∀ i ∈ s.issued, ∃ username, Owner lib s i.connection i.accountId username
  distinct : (s.issued.map Issue.sessionToken).Nodup
  recorded : ∀ c ∈ s.sessions, Recorded lib s c
  readable : ∀ a ∈ s.tables.accounts, parseId lib.parseUuid (toString a.id) = some a.id

/-- What is drawn is new: the id reads back from its text form, and the token is not that of
an earlier session. -/
def Drawn (s : State κ) : Label κ → Prop
  | .resume _ _ id token =>
      parseId lib.parseUuid (toString id) = some id ∧
        token ∉ s.issued.map Issue.sessionToken
  | _ => True

instance decidableDrawn (s : State κ) : ∀ l, Decidable (Drawn lib s l)
  | .resume _ _ id token =>
      inferInstanceAs (Decidable (parseId lib.parseUuid (toString id) = some id ∧
        token ∉ s.issued.map Issue.sessionToken))
  | .tick _ | .receive .. | .grantRole .. | .revokeRole .. => isTrue trivial

/-- Nothing that a phase rests on is lost. -/
structure Extends (s t : State κ) : Prop where
  accounts : ∀ a ∈ s.tables.accounts, a ∈ t.tables.accounts
  message : ∀ k m, s.message k = some m → t.message k = some m
  issued : ∀ i ∈ s.issued, i ∈ t.issued

variable {lib} {accountId : AccountId} {username sessionToken : String} {phase : Phase}

omit [DecidableEq κ] in
theorem Extends.of_eq (tables : t.tables = s.tables) (message : t.message = s.message)
    (issued : t.issued = s.issued) : Extends s t :=
  ⟨fun _ here => tables ▸ here, fun _ _ sent => message ▸ sent, fun _ there => issued ▸ there⟩

omit [DecidableEq κ] in
theorem Owner.mono (owner : Owner lib s k accountId username) (ext : Extends s t) :
    Owner lib t k accountId username := by
  obtain ⟨account, here, same, named, message, sent, shows⟩ := owner
  exact ⟨account, ext.accounts account here, same, named, message, ext.message k message sent,
    shows⟩

omit [DecidableEq κ] in
theorem Admitted.mono (admitted : Admitted s k accountId username sessionToken)
    (ext : Extends s t) : Admitted t k accountId username sessionToken := by
  obtain ⟨⟨account, here, same⟩, i, there, token, owner, way⟩ := admitted
  exact ⟨⟨account, ext.accounts account here, same⟩, i, ext.issued i there, token, owner,
    way.imp_right (ext.message k _)⟩

omit [DecidableEq κ] in
theorem Rests.mono (rests : Rests lib s k phase) (ext : Extends s t)
    (silent : s.message k = none → t.message k = none) : Rests lib t k phase := by
  cases phase with
  | waiting => exact silent rests
  | registering username passwordHash =>
      obtain ⟨password, salt, sent, hashed⟩ := rests
      exact ⟨password, salt, ext.message k _ sent, hashed⟩
  | loggingIn | resolving => exact ext.message k _ rests
  | issuing => exact Owner.mono rests ext
  | renewing | naming =>
      obtain ⟨sent, i, there, token⟩ := rests
      exact ⟨ext.message k _ sent, i, ext.issued i there, token⟩
  | greeting | authenticated => exact Admitted.mono rests ext
  | refused | closed => trivial

omit [DecidableEq κ] in
theorem Recorded.mono {c : Expiring.Call String String} (recorded : Recorded lib s c)
    (ext : Extends s t) : Recorded lib t c := by
  unfold Recorded at recorded ⊢
  split
  next key value set =>
    rw [set] at recorded
    obtain ⟨i, there, key, value⟩ := recorded
    exact ⟨i, ext.issued i there, key, value⟩
  · trivial
  next key delete => rwa [delete] at recorded

namespace Sound

omit [DecidableEq κ] in
theorem start : Sound lib (start : State κ) where
  rests _ := rfl
  owned := by simp [Auth.start]
  distinct := List.nodup_nil
  recorded := by simp [Auth.start]
  readable a here := absurd here (Sql.Rows.notMem_empty a)

theorem goto (inv : Sound lib s) (rests : Rests lib s k phase) : Sound lib (s.goto k phase) := by
  have ext : Extends s (s.goto k phase) := .of_eq rfl rfl rfl
  refine ⟨fun k' => ?_, fun i there => ?_, inv.distinct, inv.recorded, inv.readable⟩
  · by_cases own : k' = k
    · subst own
      simpa [State.goto] using rests.mono ext fun silent => silent
    · simpa [State.goto, own] using (inv.rests k').mono ext fun silent => silent
  · obtain ⟨username, owner⟩ := inv.owned i there
    exact ⟨username, owner.mono ext⟩

omit [DecidableEq κ] in
/-- Where only accounts are added, what was sound is sound. -/
theorem tables (inv : Sound lib s) {tables : Tables}
    (more : ∀ a ∈ s.tables.accounts, a ∈ tables.accounts)
    (readable : ∀ a ∈ tables.accounts, parseId lib.parseUuid (toString a.id) = some a.id) :
    Sound lib { s with tables } := by
  have ext : Extends s { s with tables } := ⟨more, fun _ _ h => h, fun _ h => h⟩
  refine ⟨fun k => (inv.rests k).mono ext fun silent => silent, fun i there => ?_, inv.distinct,
    fun c there => (inv.recorded c there).mono ext, readable⟩
  obtain ⟨username, owner⟩ := inv.owned i there
  exact ⟨username, owner.mono ext⟩

omit [DecidableEq κ] in
theorem renew (inv : Sound lib s) (key : String) : Sound lib (s.send (.renew key)) := by
  have ext : Extends s (s.send (.renew key)) := .of_eq rfl rfl rfl
  refine ⟨fun k => (inv.rests k).mono ext fun silent => silent, fun i there => ?_, inv.distinct,
    fun c there => ?_, inv.readable⟩
  · obtain ⟨username, owner⟩ := inv.owned i there
    exact ⟨username, owner.mono ext⟩
  · obtain before | last := List.mem_append.mp there
    · exact (inv.recorded c before).mono ext
    · rw [List.mem_singleton.mp last]
      trivial

omit [DecidableEq κ] in
theorem extends_issue (token : String) : Extends s (s.issue k accountId token) :=
  ⟨fun _ h => h, fun _ _ h => h, fun _ there => List.mem_cons_of_mem _ there⟩

omit [DecidableEq κ] in
theorem issue (inv : Sound lib s) (owner : Owner lib s k accountId username) {token : String}
    (new : token ∉ s.issued.map Issue.sessionToken) : Sound lib (s.issue k accountId token) := by
  have ext : Extends s (s.issue k accountId token) := extends_issue token
  refine ⟨fun k' => (inv.rests k').mono ext fun silent => silent, fun i there => ?_,
    List.nodup_cons.mpr ⟨new, inv.distinct⟩, fun c there => ?_, inv.readable⟩
  · obtain rfl | before := List.mem_cons.mp there
    · exact ⟨username, owner.mono ext⟩
    · obtain ⟨username, owner⟩ := inv.owned i before
      exact ⟨username, owner.mono ext⟩
  · obtain before | last := List.mem_append.mp there
    · exact (inv.recorded c before).mono ext
    · obtain ⟨account, here, rfl, -⟩ := owner
      rw [List.mem_singleton.mp last]
      exact ⟨⟨k, token, account.id⟩, List.mem_cons_self, rfl, rfl, inv.readable account here⟩

theorem answer (inv : Sound lib s) {outcome : Outcome} {failure : Error} {done : State κ}
    (sound : Sound lib done) (rests : Rests lib done k phase) :
    Sound lib (s.answer k outcome failure phase done) := by
  cases outcome with
  | ok => exact sound.goto rests
  | failed => exact inv.goto trivial
  | lost => exact sound.goto trivial

theorem receive (inv : Sound lib s) (waiting : s.phase k = .waiting) (salt : String)
    (message : ClientMessage) :
    Sound lib { s.goto k (State.authenticate lib salt message) with
      message := Function.update s.message k (some message) } := by
  have silent : s.message k = none := by
    have rests := inv.rests k
    rwa [waiting] at rests
  have ext : Extends s { s.goto k (State.authenticate lib salt message) with
      message := Function.update s.message k (some message) } := by
    refine ⟨fun _ h => h, fun k' m sent => ?_, fun _ h => h⟩
    have other : k' ≠ k := by
      rintro rfl
      rw [silent] at sent
      cases sent
    exact (Function.update_of_ne other _ _).trans sent
  refine ⟨fun k' => ?_, fun i there => ?_, inv.distinct,
    fun c there => (inv.recorded c there).mono ext, inv.readable⟩
  · by_cases own : k' = k
    · subst own
      simp only [State.goto, Function.update_self]
      cases message with
      | register username password =>
          simp only [State.authenticate]
          cases hashed : lib.hashPassword salt password with
          | none => trivial
          | some passwordHash =>
              exact ⟨password, salt, Function.update_self .., hashed⟩
      | login | resume => exact Function.update_self ..
    · have rests := (inv.rests k').mono ext fun silent =>
        (Function.update_of_ne own _ _).trans silent
      simpa [State.goto, own] using rests
  · obtain ⟨username, owner⟩ := inv.owned i there
    exact ⟨username, owner.mono ext⟩

omit [DecidableEq κ] in
/-- Whatever is found in Redis was stored when a token was issued. -/
theorem stored (inv : Sound lib s) {key value : String}
    (found : s.redis.lookup s.now key = some value) :
    ∃ i ∈ s.issued, key = sessionKey i.sessionToken ∧ value = toString i.accountId ∧
      parseId lib.parseUuid value = some i.accountId := by
  obtain ⟨before, c, after, same, set, -⟩ := Expiring.lookup_run.mp found
  have recorded : Recorded lib s c := inv.recorded c (by simp [same])
  rwa [Recorded, set] at recorded

omit [DecidableEq κ] in
theorem account_of_issue (inv : Sound lib s)
    (issued : ∃ i ∈ s.issued, i.sessionToken = sessionToken ∧ i.accountId = accountId) :
    ∃ account ∈ s.tables.accounts, account.id = accountId := by
  obtain ⟨i, there, -, rfl⟩ := issued
  obtain ⟨username, account, here, same, -⟩ := inv.owned i there
  exact ⟨account, here, same⟩

omit [DecidableEq κ] in
theorem later (inv : Sound lib s) {now : ℕ} : Sound lib { s with now } := by
  have ext : Extends s { s with now } := .of_eq rfl rfl rfl
  refine ⟨fun k => (inv.rests k).mono ext fun silent => silent, fun i there => ?_, inv.distinct,
    fun c there => (inv.recorded c there).mono ext, inv.readable⟩
  obtain ⟨username, owner⟩ := inv.owned i there
  exact ⟨username, owner.mono ext⟩

/-- A new account is owned by whoever registers it. -/
theorem registering (inv : Sound lib s) {passwordHash : String} (outcome : Outcome)
    (failure : Error) (at_ : s.phase k = .registering username passwordHash)
    (readable : parseId lib.parseUuid (toString accountId) = some accountId) :
    Sound lib (s.answer k outcome failure
      (match (s.tables.create lib.indexes accountId username passwordHash).1 with
        | .ok accountId => .issuing accountId username
        | .error error => .refused error)
      { s with tables := (s.tables.create lib.indexes accountId username passwordHash).2 }) := by
  have rests := inv.rests k
  rw [at_] at rests
  obtain ⟨password, salt, sent, hashed⟩ := rests
  obtain ⟨error, refused⟩ | ⟨tables, created, accounts⟩ :=
    Tables.create_cases lib.indexes s.tables accountId username passwordHash
  · rw [refused]
    exact inv.answer inv trivial
  · rw [created]
    have sound : Sound lib { s with tables } := by
      refine inv.tables (fun a here => (accounts a).mpr (.inl here)) fun a here => ?_
      obtain there | rfl := (accounts a).mp here
      · exact inv.readable a there
      · exact readable
    refine inv.answer sound
      ⟨⟨accountId, username, passwordHash⟩, ?_, rfl, rfl, _, sent, rfl, salt, hashed⟩
    exact (accounts _).mpr (.inr rfl)

theorem loggingIn (inv : Sound lib s) {password : String} (outcome : Outcome) (failure : Error)
    (at_ : s.phase k = .loggingIn username password) :
    Sound lib (s.answer k outcome failure
      (match s.tables.findByUsername username with
        | .ok found => State.verify lib username password found
        | .error error => .refused error) s) := by
  have sent := inv.rests k
  rw [at_] at sent
  refine inv.answer inv ?_
  cases found : s.tables.findByUsername username with
  | error error => trivial
  | ok row =>
      cases row with
      | none => trivial
      | some account =>
          obtain ⟨-, here, rfl⟩ := Tables.findByUsername_eq_some.mp found
          simp only [State.verify]
          split
          · trivial
          next verified => exact ⟨account, here, rfl, rfl, _, sent, rfl, verified⟩
          · trivial

theorem issuing (inv : Sound lib s) {token : String} (outcome : Outcome) (failure : Error)
    (at_ : s.phase k = .issuing accountId username)
    (new : token ∉ s.issued.map Issue.sessionToken) :
    Sound lib (s.answer k outcome failure (.greeting accountId username token)
      (s.issue k accountId token)) := by
  have owner := inv.rests k
  rw [at_] at owner
  refine inv.answer (inv.issue owner new)
    ⟨?_, ⟨k, token, accountId⟩, List.mem_cons_self, rfl, rfl, .inl rfl⟩
  obtain ⟨account, here, own, named, -⟩ := owner
  exact ⟨account, here, own, named⟩

/-- What is found under a token is the account that the token was issued for. -/
theorem resolving (inv : Sound lib s) (outcome : Outcome) (failure : Error)
    (at_ : s.phase k = .resolving sessionToken) :
    Sound lib (s.answer k outcome failure
      (State.identify lib sessionToken (s.redis.lookup s.now (sessionKey sessionToken))) s) := by
  have sent := inv.rests k
  rw [at_] at sent
  refine inv.answer inv ?_
  cases found : s.redis.lookup s.now (sessionKey sessionToken) with
  | none => trivial
  | some stored =>
      obtain ⟨i, there, token, -, reads⟩ := inv.stored found
      simp only [State.identify, reads]
      exact ⟨sent, i, there, (sessionKey_injective token).symm, rfl⟩

theorem naming (inv : Sound lib s) (outcome : Outcome) (failure : Error)
    (at_ : s.phase k = .naming accountId sessionToken) :
    Sound lib (s.answer k outcome failure
      (State.name accountId sessionToken (s.tables.findById accountId)) s) := by
  have rests := inv.rests k
  rw [at_] at rests
  obtain ⟨sent, i, there, token⟩ := rests
  refine inv.answer inv ?_
  cases found : s.tables.findById accountId with
  | none => trivial
  | some account =>
      obtain ⟨here, own⟩ := Sql.Rows.find_eq_some.mp found
      exact ⟨⟨account, here, own, rfl⟩, i, there, token.1, token.2, .inr sent⟩

/-- One step of any handshake. -/
theorem step (inv : Sound lib s) {l : Label κ} (drawn : Drawn lib s l)
    (taken : Auth.step lib s l = some t) : Sound lib t := by
  cases l with
  | tick elapsed =>
      obtain rfl := Option.some.inj taken
      exact inv.later
  | receive k frame salt =>
      simp only [Auth.step] at taken
      split at taken
      next message waiting =>
        obtain rfl := Option.some.inj taken
        exact inv.receive waiting salt message
      next error waiting =>
        obtain rfl := Option.some.inj taken
        exact inv.goto trivial
      · cases taken
  | grantRole id role =>
      obtain rfl := Option.some.inj taken
      have same := Tables.accounts_grantRole lib.indexes s.tables id role
      exact inv.tables (fun a here => same ▸ here) fun a here => inv.readable a (same ▸ here)
  | revokeRole id role =>
      obtain rfl := Option.some.inj taken
      have same := Tables.accounts_revokeRole s.tables id role
      exact inv.tables (fun a here => same ▸ here) fun a here => inv.readable a (same ▸ here)
  | resume k outcome id token =>
      simp only [Auth.step] at taken
      cases at_ : s.phase k with
      | waiting | authenticated | refused | closed =>
          rw [at_] at taken
          cases taken
      | registering username passwordHash =>
          rw [at_] at taken
          obtain rfl := Option.some.inj taken
          exact inv.registering outcome _ at_ drawn.1
      | loggingIn username password =>
          rw [at_] at taken
          obtain rfl := Option.some.inj taken
          exact inv.loggingIn outcome _ at_
      | issuing accountId username =>
          rw [at_] at taken
          obtain rfl := Option.some.inj taken
          exact inv.issuing outcome _ at_ drawn.2
      | resolving sessionToken =>
          rw [at_] at taken
          obtain rfl := Option.some.inj taken
          exact inv.resolving outcome _ at_
      | renewing accountId sessionToken =>
          rw [at_] at taken
          obtain rfl := Option.some.inj taken
          have rests := inv.rests k
          rw [at_] at rests
          exact inv.answer (inv.renew _) rests
      | naming accountId sessionToken =>
          rw [at_] at taken
          obtain rfl := Option.some.inj taken
          exact inv.naming outcome _ at_
      | greeting accountId username sessionToken =>
          rw [at_] at taken
          obtain rfl := Option.some.inj taken
          have rests := inv.rests k
          rw [at_] at rests
          cases outcome with
          | ok => exact inv.goto rests
          | failed | lost => exact inv.goto trivial

end Sound

theorem sound_of_run {labels : List (Label κ)}
    (drawn : Admissible (step lib) (Drawn lib) start labels)
    (run : exec (step lib) start labels = some s) : Sound lib s :=
  exec_invariant (fun _ _ _ inv drawn taken => inv.step drawn taken) Sound.start drawn run

omit [DecidableEq κ] in
theorem Sound.issue_of_authenticated (inv : Sound lib s) {roles : List String}
    (authenticated : s.phase k = .authenticated accountId username sessionToken roles) :
    ∃ i ∈ s.issued, (∀ j ∈ s.issued, j.sessionToken = sessionToken ↔ j = i) ∧
      i.accountId = accountId ∧ Owner lib s i.connection accountId username ∧
      (i.connection = k ∨ s.message k = some (.resume sessionToken)) := by
  have rests := inv.rests k
  rw [authenticated] at rests
  obtain ⟨⟨account, here, rfl, rfl⟩, i, there, rfl, own, way⟩ := rests
  refine ⟨i, there, fun j here => ⟨fun same => ?_, ?_⟩, own, ?_, way⟩
  · exact List.inj_on_of_nodup_map inv.distinct here there same
  · rintro rfl
    rfl
  · obtain ⟨username, account', here', same, named, message⟩ := inv.owned i there
    have one : account' = account := Sql.Rows.eq_of_key here' here (same.trans own)
    subst one
    exact ⟨account', here', rfl, rfl, message⟩

/-- Whoever is authenticated holds the one token that was issued under its name, to a
connection that has shown the password of the account: itself, or the one whose token it
presents. -/
theorem authenticated_by_owner {labels : List (Label κ)} {roles : List String}
    (drawn : Admissible (step lib) (Drawn lib) start labels)
    (run : exec (step lib) start labels = some s)
    (authenticated : s.phase k = .authenticated accountId username sessionToken roles) :
    ∃ i ∈ s.issued, (∀ j ∈ s.issued, j.sessionToken = sessionToken ↔ j = i) ∧
      i.accountId = accountId ∧ Owner lib s i.connection accountId username ∧
      (i.connection = k ∨ s.message k = some (.resume sessionToken)) :=
  (sound_of_run drawn run).issue_of_authenticated authenticated

/-! ### How long a token lasts -/

def Label.resumes (k : κ) : Label κ → Bool
  | .resume k' .. => decide (k' = k)
  | _ => false

/-- How far a connection has come that resumes a session, `n` statements after the token was
found. -/
def Phase.Resumed (accountId : AccountId) (sessionToken : String) : ℕ → Phase → Prop
  | 0, .renewing a token | 1, .naming a token | 2, .greeting a _ token
  | 3, .authenticated a _ token _ => a = accountId ∧ token = sessionToken
  | _, _ => False

theorem Phase.Resumed.accountId_eq {accountId' : AccountId} {n : ℕ}
    (resumed : phase.Resumed accountId sessionToken n)
    (resumed' : phase.Resumed accountId' sessionToken n) : accountId = accountId' := by
  unfold Phase.Resumed at resumed resumed'
  split at resumed
  · exact resumed.1.symm.trans resumed'.1
  · exact resumed.1.symm.trans resumed'.1
  · exact resumed.1.symm.trans resumed'.1
  · exact resumed.1.symm.trans resumed'.1
  · exact resumed.elim

theorem phase_of_other {l : Label κ} (other : l.resumes k = false)
    (begun : s.phase k ≠ .waiting) (taken : step lib s l = some t) : t.phase k = s.phase k := by
  cases l with
  | tick | grantRole | revokeRole =>
      obtain rfl := Option.some.inj taken
      rfl
  | receive k' frame salt =>
      have apart : s.phase k' = .waiting → k ≠ k' := by
        rintro waiting rfl
        exact begun waiting
      simp only [step] at taken
      split at taken
      next message waiting =>
        obtain rfl := Option.some.inj taken
        exact Function.update_of_ne (apart waiting) _ _
      next error waiting =>
        obtain rfl := Option.some.inj taken
        exact Function.update_of_ne (apart waiting) _ _
      · cases taken
  | resume k' outcome id token =>
      have apart : k ≠ k' := by
        rintro rfl
        simp [Label.resumes] at other
      have goto : ∀ (u : State κ) phase, u.phase = s.phase →
          (u.goto k' phase).phase k = s.phase k := by
        intro u phase same
        exact (Function.update_of_ne apart phase u.phase).trans (congrFun same k)
      have answer : ∀ outcome failure phase (u : State κ), u.phase = s.phase →
          (s.answer k' outcome failure phase u).phase k = s.phase k := by
        intro outcome failure phase u same
        cases outcome with
        | ok | lost => exact goto u _ same
        | failed => exact goto s _ rfl
      simp only [step] at taken
      cases at_ : s.phase k' with
      | waiting | authenticated | refused | closed =>
          rw [at_] at taken
          cases taken
      | registering | loggingIn | issuing | resolving | renewing | naming =>
          rw [at_] at taken
          obtain rfl := Option.some.inj taken
          exact answer _ _ _ _ rfl
      | greeting accountId username sessionToken =>
          rw [at_] at taken
          obtain rfl := Option.some.inj taken
          cases outcome with
          | ok | failed | lost => exact goto s _ rfl

/-- The connection hears what its statements answer. -/
def Label.HeardBy (k : κ) (l : Label κ) : Prop :=
  l.resumes k → ∃ id token, l = .resume k .ok id token

theorem Sound.resumed_step (inv : Sound lib s) {n : ℕ} {l : Label κ} (heard : l.HeardBy k)
    (resumed : (s.phase k).Resumed accountId sessionToken n) (taken : Auth.step lib s l = some t) :
    (t.phase k).Resumed accountId sessionToken (n + if l.resumes k then 1 else 0) := by
  cases own : l.resumes k with
  | false =>
      have begun : s.phase k ≠ .waiting := by
        intro waiting
        rw [waiting] at resumed
        simp [Phase.Resumed] at resumed
      rw [phase_of_other own begun taken]
      exact resumed
  | true =>
      obtain ⟨id, token, rfl⟩ := heard own
      have rests := inv.rests k
      simp only [Auth.step] at taken
      generalize at_ : s.phase k = phase at resumed taken rests
      unfold Phase.Resumed at resumed
      split at resumed
      next a token' =>
        obtain ⟨rfl, rfl⟩ := resumed
        obtain rfl := Option.some.inj taken
        simp [State.answer, State.goto, Phase.Resumed]
      next a token' =>
        obtain ⟨rfl, rfl⟩ := resumed
        obtain rfl := Option.some.inj taken
        obtain ⟨account, here, same⟩ := inv.account_of_issue rests.2
        have found : s.tables.findById a = some account := Sql.Rows.find_eq_some.mpr ⟨here, same⟩
        simp [State.answer, State.goto, Phase.Resumed, State.name, found]
      next a username token' =>
        obtain ⟨rfl, rfl⟩ := resumed
        obtain rfl := Option.some.inj taken
        simp [State.goto, Phase.Resumed]
      · cases taken
      · exact resumed.elim

/-- Once it is found, a token resumes its session: the account is still there. -/
theorem Sound.resumed_run {labels : List (Label κ)} {n : ℕ} (inv : Sound lib s)
    (drawn : Admissible (Auth.step lib) (Drawn lib) s labels)
    (heard : ∀ l ∈ labels, l.HeardBy k)
    (resumed : (s.phase k).Resumed accountId sessionToken n)
    (run : exec (Auth.step lib) s labels = some t) :
    (t.phase k).Resumed accountId sessionToken (n + labels.countP fun l => l.resumes k) := by
  induction labels generalizing s n with
  | nil =>
      obtain rfl := Transition.exec_nil.mp run
      simpa using resumed
  | cons l labels ih =>
      obtain ⟨u, taken, rest⟩ := exec_cons.mp run
      have after := ih (inv.step drawn.1 taken) (drawn.2 u taken)
        (fun l' here => heard l' (List.mem_cons_of_mem l here))
        (inv.resumed_step (heard l List.mem_cons_self) resumed taken) rest
      rwa [List.countP_cons, add_comm (labels.countP _), ← add_assoc]

theorem refused_run {labels : List (Label κ)} {error : Error}
    (refused : s.phase k = .refused error) (run : exec (step lib) s labels = some t) :
    t.phase k = .refused error := by
  refine Transition.exec_invariant_of_step (I := fun s => s.phase k = .refused error)
    (fun s l t refused taken => ?_) refused run
  cases own : l.resumes k with
  | false => exact (phase_of_other own (by simp [refused]) taken).trans refused
  | true =>
      unfold Label.resumes at own
      split at own
      next k' outcome id token =>
        obtain rfl := of_decide_eq_true own
        simp only [step, refused] at taken
        cases taken
      · cases own

/-- A connection that presents a token and hears the answers is let in as an account exactly
if the token was issued for it, and every use of it since, this one included, has come within
a day of the one before. Otherwise it is told that the session has expired. -/
theorem resumed_iff {before after : List (Label κ)} {id : AccountId} {token : String}
    (drawn : Admissible (step lib) (Drawn lib) start (before ++ .resume k .ok id token :: after))
    (reached : exec (step lib) start before = some s)
    (resolving : s.phase k = .resolving sessionToken)
    (run : exec (step lib) s (.resume k .ok id token :: after) = some t)
    (heard : ∀ l ∈ after, l.HeardBy k) :
    (∀ accountId, (t.phase k).Resumed accountId sessionToken
        (after.countP fun l => l.resumes k) ↔
      (∃ i ∈ s.issued, i.sessionToken = sessionToken ∧ i.accountId = accountId) ∧
        Expiring.Holds s.sessions s.now (sessionKey sessionToken) (toString accountId)) ∧
    (t.phase k = .refused sessionInvalid ∨ ∃ accountId, (t.phase k).Resumed accountId sessionToken
        (after.countP fun l => l.resumes k)) := by
  obtain ⟨earlier, later⟩ := (Transition.admissible_append reached).mp drawn
  have inv : Sound lib s := sound_of_run earlier reached
  obtain ⟨u, taken, rest⟩ := exec_cons.mp run
  have sound : Sound lib u := inv.step later.1 taken
  have answered : u.phase k =
      State.identify lib sessionToken (s.redis.lookup s.now (sessionKey sessionToken)) := by
    simp only [step, resolving] at taken
    obtain rfl := Option.some.inj taken
    exact Function.update_self ..
  simp only [← Expiring.lookup_run]
  cases found : (Expiring.run s.sessions).lookup s.now (sessionKey sessionToken) with
  | none =>
      rw [State.redis, found] at answered
      have refused : t.phase k = .refused sessionInvalid := refused_run answered rest
      refine ⟨fun accountId => ?_, .inl refused⟩
      simp [refused, Phase.Resumed]
  | some stored =>
      obtain ⟨i, there, key, rfl, reads⟩ := inv.stored found
      obtain rfl := sessionKey_injective key
      rw [State.redis, found] at answered
      simp only [State.identify, reads] at answered
      have start : (u.phase k).Resumed i.accountId i.sessionToken 0 := by
        rw [answered]
        exact ⟨rfl, rfl⟩
      have resumed := sound.resumed_run (later.2 u taken) heard start rest
      rw [zero_add] at resumed
      refine ⟨fun accountId => ⟨fun as => ?_, ?_⟩, .inr ⟨i.accountId, resumed⟩⟩
      · obtain rfl := resumed.accountId_eq as
        exact ⟨⟨i, there, rfl, rfl⟩, rfl⟩
      · rintro ⟨⟨j, here, same, rfl⟩, -⟩
        rwa [List.inj_on_of_nodup_map inv.distinct here there same]

namespace Alice

/-- The salt that is drawn, in the form in which a hash holds it. -/
def salt : String := "RoT0QtqgcF5OrGxagrgoJg"

def passwordHash : String :=
  "$argon2id$v=19$m=19456,t=2,p=1$RoT0QtqgcF5OrGxagrgoJg$" ++
    "Zd0DlPQggJNiJCYXecB4oUKTkvc9qoP82AlzuyvTQJA"

/-- What they answer to her texts. -/
def libraries : Libraries where
  hashPassword drawn password :=
    if drawn = salt ∧ password = "hunter2" then some passwordHash else none
  verifyPassword password hash :=
    if hash = passwordHash then some (password == "hunter2") else none
  parseUuid text :=
    if text = "1f0a3c5e-7b9d-4f21-a8c6-4e02d97b35f8" then some account.uuid else none
  indexes := indexes

/-- 32 random bytes each. -/
def token : String := "q7Lk0cW3v9TzXoYw1B5uGdM2rJ8eHnPfSaIiKtUsVbE"

def otherToken : String := "A3xNfJ0mRzUoYp6vLhQe9sWkTgBdCiX2uHn1Ea7cZt8"

/-- She registers, and comes back with her token on another connection. -/
def registers : List (Label Bool) :=
  [.receive false (.ok (.register "alice" "hunter2")) salt, .resume false .ok account token,
    .resume false .ok account token, .resume false .ok account otherToken, .tick 1000,
    .receive true (.ok (.resume token)) ""]

def resumes : List (Label Bool) := List.replicate 4 (.resume true .ok account otherToken)

theorem authenticated_by_owner_alice :
    ∃ s, exec (step libraries) start (registers ++ resumes) = some s ∧
      ∃ i ∈ s.issued, (∀ j ∈ s.issued, j.sessionToken = token ↔ j = i) ∧ i.accountId = account ∧
        Owner libraries s i.connection account "alice" ∧
        (i.connection = true ∨ s.message true = some (.resume token)) := by
  have drawn : Admissible (step libraries) (Drawn libraries) start (registers ++ resumes) := by
    decide
  obtain ⟨s, run, authenticated⟩ :
      ∃ s, exec (step libraries) start (registers ++ resumes) = some s ∧
        s.phase true = .authenticated account "alice" token [] :=
    Transition.exec_reaches (by decide)
  exact ⟨s, run, authenticated_by_owner drawn run authenticated⟩

theorem resumed_iff_alice :
    ∃ s, exec (step libraries) start registers = some s ∧
      Expiring.Holds s.sessions s.now (sessionKey token) (toString account) := by
  have drawn : Admissible (step libraries) (Drawn libraries) start (registers ++ resumes) := by
    decide
  obtain ⟨s, reached, resolving⟩ :
      ∃ s, exec (step libraries) start registers = some s ∧ s.phase true = .resolving token :=
    Transition.exec_reaches (by decide)
  obtain ⟨t, run, authenticated⟩ :
      ∃ t, exec (step libraries) start (registers ++ resumes) = some t ∧
        t.phase true = .authenticated account "alice" token [] :=
    Transition.exec_reaches (by decide)
  obtain ⟨s', reached', rest⟩ := Transition.exec_append.mp run
  rw [reached] at reached'
  obtain rfl := Option.some.inj reached'
  have heard : ∀ l ∈ List.replicate 3 (Label.resume true .ok account otherToken),
      l.HeardBy true :=
    fun l here _ => ⟨account, otherToken, List.eq_of_mem_replicate here⟩
  have resumed := (resumed_iff drawn reached resolving rest heard).1 account
  refine ⟨s, reached, (resumed.mp ?_).2⟩
  rw [authenticated]
  exact ⟨rfl, rfl⟩

end Alice

end WorldZero.Auth
