import WorldZero.Expiring
import WorldZero.Gateway.Protocol
import WorldZero.RealmDirectory.Footprint
import WorldZero.Server.CharacterCap
import WorldZero.Server.SelectionProtocols
import WorldZero.Transition

/-!
# Up to the world

Between its handshake and the world a connection lists, creates, transfers, deletes and at
last selects characters. Each request is a few statements, between which the statements of
any other connections stand, on this server or another one. Whatever they do, no connection
touches a character of an account that is not its own, or is admitted with one.
-/

namespace WorldZero.Server.Admission

open Character RealmDirectory Transfer CharacterProtocol
open CharacterCap (CharacterArchetype resolveRequest failedToCreate)
open Expiring (Outcome)
open Gateway (parseId)
open Transition (exec exec_cons exec_invariant Admissible)

/-- What the server of a connection is set up with. -/
structure SessionDeps (κ Position : Type) extends CharacterCap.Config κ where
  attributeSchema : AttributeSchema
  loginPolicy : LoginPolicy
  transferExecutor : TransferExecutor
  parseUuid : String → Option Uuid
  leaseHolderId : κ → String
  /-- The default of the columns of the position. -/
  origin : Position

/-- What a request is after, once the character is known to be the account's. -/
inductive Request where
  | transfer (destinationRealmId : RealmId) (text : String)
  | delete
  | select

/-- The statement of a request that comes next. A character id that came from the client goes
along as it was written. -/
inductive Stage (Position : Type) where
  | listing
  | counting (name : String) (archetype : CharacterArchetype)
  | inserting (name : String) (archetype : CharacterArchetype)
  | presetting (id : CharacterId) (key : String) (value : ℤ) (rest : List (String × ℤ))
  /-- The plugins' hook. -/
  | hooking (id : CharacterId)
  /-- `get_for_account`. -/
  | asking (id : CharacterId) (text : String) (request : Request)
  | transferring (id : CharacterId) (text : String) (destinationRealmId : RealmId)
      (destination : String)
  | checkingLease (id : CharacterId) (text : String)
  | checkingLiveness (id : CharacterId) (text : String)
  | deleting (id : CharacterId) (text : String)
  | authorizing (character : CharacterSummary Position)

inductive Phase (Position : Type) where
  | connecting
  /-- Before the next message. -/
  | choosing
  | running (stage : Stage Position)
  | admitted (character : CharacterSummary Position)
  | closed

structure State (κ Position : Type) where
  db : Database Position
  phase : κ → Phase Position
  replies : List (κ × ServerMessage)

/-- What a statement draws: the id of a new character, those of the audit records, and the
stats that the plugins' hook asks to change. -/
structure Draws where
  id : CharacterId
  successId : Uuid
  failureId : Uuid
  deltas : List (CharacterId × String × ℤ)

inductive Label (κ : Type) where
  | tick (elapsed : ℕ)
  /-- The handshake and the selection of the realm are over. -/
  | enter (k : κ)
  /-- A frame, or what is wrong with it. -/
  | receive (k : κ) (frame : Except Error ClientMessage)
  /-- The next statement, and the error if it fails. -/
  | resume (k : κ) (outcome : Outcome) (error : Error) (draws : Draws)
  | leave (k : κ)

variable {κ Position : Type} [DecidableEq κ]

namespace SessionDeps

variable (deps : SessionDeps κ Position) (k : κ) (db : Database Position)

def notValid (kind text : String) : ServerMessage :=
  .error s!"{debugStr text} is not a valid {kind} id"

def notYours (text : String) : ServerMessage :=
  .error s!"{debugStr text} is not one of your characters"

def connected (text : String) : ServerMessage :=
  .error s!"{debugStr text} is currently connected and cannot be deleted"

/-- A message, up to its first statement. -/
def receive : ClientMessage → Phase Position × Option ServerMessage
  | .listCharacters => (.running .listing, none)
  | .createCharacter name archetypeKey =>
      match resolveRequest deps.toConfig name archetypeKey with
      | .ok archetype => (.running (.counting name archetype), none)
      | .error message => (.choosing, some (.error message))
  | .listCharacterOptions =>
      (.choosing, some (.characterOptions
        (deps.archetypeSchema.archetypes.map fun a => ⟨a.key, a.name, a.description⟩)))
  | .requestTransfer characterId destinationRealmId =>
      match parseId deps.parseUuid characterId with
      | none => (.choosing, some (notValid "character" characterId))
      | some id =>
          match parseId deps.parseUuid destinationRealmId with
          | none => (.choosing, some (notValid "realm" destinationRealmId))
          | some realmId =>
              (.running (.asking id characterId (.transfer realmId destinationRealmId)), none)
  | .deleteCharacter characterId =>
      match parseId deps.parseUuid characterId with
      | none => (.choosing, some (notValid "character" characterId))
      | some id => (.running (.asking id characterId .delete), none)
  | .selectCharacter characterId =>
      match parseId deps.parseUuid characterId with
      | none => (.choosing, some (notValid "character" characterId))
      | some id => (.running (.asking id characterId .select), none)

/-- The starting stats one by one, then the hook. -/
def preset (id : CharacterId) : List (String × ℤ) → Phase Position
  | [] => .running (.hooking id)
  | (key, value) :: rest => .running (.presetting id key value rest)

/-- A stat that cannot be changed is left. -/
def applyDeltas (deltas : List (CharacterId × String × ℤ)) : Database Position :=
  deltas.foldl (fun db d =>
    match db.applyStatDelta deps.attributeSchema d.1 d.2.1 d.2.2 with
    | .ok db => db
    | .error _ => db) db

/-- What the tables are after a statement, where the connection goes and what it answers. -/
structure Done (Position : Type) where
  db : Database Position
  phase : Phase Position
  reply : Option ServerMessage

/-- An error that `?` hands on ends the connection. -/
def perform (draws : Draws) : Stage Position → Done Position
  | .listing =>
      match LoginPolicy.listCharacters db (deps.accountOf k) deps.realmId with
      | .ok characters => ⟨db, .choosing, some (.characterList
          (characters.map fun c => ⟨toString c.id, c.name, c.zoneId⟩))⟩
      | .error _ => ⟨db, .closed, none⟩
  | .counting name archetype =>
      let existing := db.characters.count fun c =>
        c.accountId = deps.accountOf k ∧ c.realmId = deps.realmId
      if deps.maxCharactersPerAccount ≤ existing then
        ⟨db, .choosing, some (.error
          (s!"character limit reached: {existing} already exist on this realm, limit is " ++
            s!"{deps.maxCharactersPerAccount} (WZ_CHARACTER_MAX_PER_ACCOUNT)"))⟩
      else ⟨db, .running (.inserting name archetype), none⟩
  | .inserting name archetype =>
      match db.insertCharacter ⟨draws.id, deps.accountOf k, name, deps.realmId,
          deps.defaultZoneId, deps.origin, ∅, db.now⟩ with
      | some db => ⟨db, preset draws.id archetype.stats, none⟩
      | none => ⟨db, .choosing, some (.error (toString failedToCreate))⟩
  | .presetting id key value rest =>
      match db.setStat deps.attributeSchema id key value with
      | .ok db => ⟨db, preset id rest, none⟩
      | .error _ => ⟨db, .closed, none⟩
  | .hooking id =>
      ⟨deps.applyDeltas db draws.deltas, .choosing, some (.characterCreated (toString id))⟩
  | .asking id text request =>
      match db.getForAccount id (deps.accountOf k) with
      | none => ⟨db, .choosing, some (notYours text)⟩
      | some character =>
          match request with
          | .transfer realmId destination =>
              ⟨db, .running (.transferring id text realmId destination), none⟩
          | .delete => ⟨db, .running (.checkingLease id text), none⟩
          | .select => ⟨db, .running (.authorizing character), none⟩
  | .transferring id text realmId destination =>
      let (result, db) := deps.transferExecutor.transfer db
        ⟨id, realmId, deps.attributeSchema, deps.accountOf k⟩ draws.successId draws.failureId
      match result with
      | .ok () => ⟨db, .choosing, some (.transferComplete text destination)⟩
      | .error e => ⟨db, .choosing, some (.error (toString e))⟩
  | .checkingLease id text =>
      if Lease.isActive (db.characterSessions id) db.now then
        ⟨db, .choosing, some (connected text)⟩
      else ⟨db, .running (.checkingLiveness id text), none⟩
  | .checkingLiveness id text =>
      if Login.BoundLiveness.isLive (db.boundLiveness id) db.now then
        ⟨db, .choosing, some (connected text)⟩
      else ⟨db, .running (.deleting id text), none⟩
  | .deleting id text => ⟨db.deleteCharacter id, .choosing, some (.characterDeleted text)⟩
  | .authorizing character =>
      match deps.loginPolicy.authorizeLogin db character.id character.realmId deps.realmId
          (deps.leaseHolderId k) with
      | .ok db =>
          ⟨db, .admitted character, some (.characterSelected (toString character.id))⟩
      | .error e => ⟨db, .choosing, some (.error (toString e))⟩

/-- Where a connection goes whose statement fails. -/
def failed (error : Error) : Stage Position → Phase Position × Option ServerMessage
  | .inserting .. => (.choosing, some (.error (toString failedToCreate)))
  | .transferring .. | .authorizing _ => (.choosing, some (.error (toString error)))
  | .listing | .counting .. | .presetting .. | .hooking _ | .asking .. | .checkingLease ..
  | .checkingLiveness .. | .deleting .. => (.closed, none)

end SessionDeps

def State.goto (s : State κ Position) (k : κ) (db : Database Position)
    (next : Phase Position × Option ServerMessage) : State κ Position :=
  ⟨db, Function.update s.phase k next.1, s.replies ++ next.2.toList.map fun reply => (k, reply)⟩

@[simp] theorem State.phase_goto (s : State κ Position) (k : κ) (db : Database Position)
    (next : Phase Position × Option ServerMessage) :
    (s.goto k db next).phase = Function.update s.phase k next.1 := rfl

variable (deps : κ → SessionDeps κ Position)

/-- A connection handles one message at a time. -/
def step (s : State κ Position) : Label κ → Option (State κ Position)
  | .tick elapsed => some { s with db := { s.db with now := s.db.now + elapsed } }
  | .enter k =>
      match s.phase k with
      | .connecting => some (s.goto k s.db (.choosing, none))
      | _ => none
  | .receive k frame =>
      match s.phase k, frame with
      | .choosing, .ok message => some (s.goto k s.db ((deps k).receive message))
      | .choosing, .error e => some (s.goto k s.db (.closed, some (.error (toString e))))
      | _, _ => none
  | .resume k outcome error draws =>
      match s.phase k with
      | .running stage =>
          let done := (deps k).perform k s.db draws stage
          some (match outcome with
            | .ok => s.goto k done.db (done.phase, done.reply)
            | .failed => s.goto k s.db (SessionDeps.failed error stage)
            | .lost => s.goto k done.db (SessionDeps.failed error stage))
      | _ => none
  | .leave k =>
      match s.phase k with
      | .admitted _ => none
      | _ => some (s.goto k s.db (.closed, none))

def start (db : Database Position) : State κ Position := ⟨db, fun _ => .connecting, []⟩

/-! ### Whose characters a connection touches -/

def account (k : κ) : AccountId := (deps k).accountOf k

/-- The character that a request has found to be the account's own, or has created. -/
def Stage.character : Stage Position → Option CharacterId
  | .listing | .counting .. | .inserting .. | .asking .. => none
  | .presetting id .. | .hooking id | .transferring id .. | .checkingLease id _
  | .checkingLiveness id _ | .deleting id _ => some id
  | .authorizing character => some character.id

def Phase.character : Phase Position → Option CharacterId
  | .connecting | .choosing | .closed => none
  | .running stage => stage.character
  | .admitted character => some character.id

/-- The new character whose hook is about to run. -/
def Phase.hooking : Phase Position → Option CharacterId
  | .running (.hooking id) => some id
  | _ => none

/-- The id of a new character is nobody's, and the plugins' hook changes the stats of the new
character only. -/
def Drawn (s : State κ Position) : Label κ → Prop
  | .resume k _ _ draws =>
      s.db.owner draws.id = none ∧ (∀ k', (s.phase k').character ≠ some draws.id) ∧
        ∀ id ∈ (s.phase k).hooking, ∀ d ∈ draws.deltas, d.1 = id
  | .tick _ | .enter _ | .receive .. | .leave _ => True

/-- No connection is busy with a character of another account. -/
def Own (s : State κ Position) : Prop :=
  ∀ k id, (s.phase k).character = some id →
    ∀ accountId, s.db.owner id = some accountId → accountId = account deps k

/-- What the connection of an account may do to the tables, with the id of a character that
is new. -/
structure Permitted (accountId : AccountId) (new : Option CharacterId)
    (db db' : Database Position) : Prop where
  others : ∀ c a, db.owner c = some a → a ≠ accountId → db'.footprint c = db.footprint c
  owner : ∀ c a, db'.owner c = some a → db.owner c = some a ∨
    new = some c ∧ db.owner c = none ∧ a = accountId

variable {deps} {s t : State κ Position} {k : κ} {l : Label κ} {db db' : Database Position}
  {id : CharacterId} {new : Option CharacterId} {accountId : AccountId} {draws : Draws}
  {stage : Stage Position}

namespace Permitted

theorem refl : Permitted accountId new db db :=
  ⟨fun _ _ _ _ => rfl, fun _ _ owner => .inl owner⟩

theorem of_touches (touches : Touches id db db')
    (own : ∀ a, db.owner id = some a → a = accountId) : Permitted accountId new db db' where
  others c a owner other := by
    refine touches.others c ?_
    rintro rfl
    exact other (own a owner)
  owner c a owner := .inl (touches.owned owner)

theorem of_insert {row : CharacterRow Position} (inserted : db.insertCharacter row = some db') :
    Permitted row.accountId (some row.id) db db' := by
  obtain ⟨others, absent, owner⟩ := insertCharacter_eq_some inserted
  refine ⟨fun c a owned _ => others c ?_, fun c a owned => ?_⟩
  · rintro rfl
    rw [absent] at owned
    cases owned
  · by_cases new : c = row.id
    · subst new
      rw [owner] at owned
      exact .inr ⟨rfl, absent, (Option.some.inj owned).symm⟩
    · rw [Touches.owner_of_footprint (others c new)] at owned
      exact .inl owned

end Permitted

omit [DecidableEq κ] in
theorem touches_applyDeltas {server : SessionDeps κ Position}
    {deltas : List (CharacterId × String × ℤ)} (own : ∀ d ∈ deltas, d.1 = id) :
    Touches id db (server.applyDeltas db deltas) := by
  induction deltas generalizing db with
  | nil => exact .refl
  | cons d deltas ih =>
      have rest : ∀ db, Touches id db (server.applyDeltas db deltas) := fun db =>
        ih fun d' here => own d' (List.mem_cons_of_mem d here)
      obtain ⟨target, key, delta⟩ := d
      obtain rfl := own _ List.mem_cons_self
      simp only [SessionDeps.applyDeltas, List.foldl_cons]
      split
      next db' applied => exact (touches_applyStatDelta applied).trans (rest db')
      · exact rest db

section Perform

variable {server : SessionDeps κ Position}

omit [DecidableEq κ]

theorem perform_permitted
    (own : ∀ id, stage.character = some id →
      ∀ a, db.owner id = some a → a = server.accountOf k)
    (hook : ∀ id, stage = .hooking id → ∀ d ∈ draws.deltas, d.1 = id) :
    Permitted (server.accountOf k) (some draws.id) db (server.perform k db draws stage).db := by
  cases stage with
  | listing =>
      simp only [SessionDeps.perform]
      split <;> exact .refl
  | counting name archetype =>
      simp only [SessionDeps.perform]
      split <;> exact .refl
  | inserting name archetype =>
      simp only [SessionDeps.perform]
      split
      next db' inserted => exact .of_insert inserted
      · exact .refl
  | presetting id key value rest =>
      simp only [SessionDeps.perform]
      split
      next db' set => exact .of_touches (touches_setStat set) (own id rfl)
      · exact .refl
  | hooking id => exact .of_touches (touches_applyDeltas (hook id rfl)) (own id rfl)
  | asking id text request =>
      simp only [SessionDeps.perform]
      split
      · exact .refl
      · cases request <;> exact .refl
  | transferring id text realmId destination =>
      have moved := touches_transfer server.transferExecutor db
        ⟨id, realmId, server.attributeSchema, server.accountOf k⟩ draws.successId draws.failureId
      simp only [SessionDeps.perform]
      split <;> exact .of_touches moved (own id rfl)
  | checkingLease id text =>
      simp only [SessionDeps.perform]
      split <;> exact .refl
  | checkingLiveness id text =>
      simp only [SessionDeps.perform]
      split <;> exact .refl
  | deleting id text => exact .of_touches touches_deleteCharacter (own id rfl)
  | authorizing character =>
      simp only [SessionDeps.perform]
      split
      next db' granted => exact .of_touches (touches_authorizeLogin granted) (own character.id rfl)
      · exact .refl

theorem preset_character {stats : List (String × ℤ)} :
    (SessionDeps.preset id stats : Phase Position).character = some id := by
  cases stats <;> rfl

/-- What a connection goes on with is its own. -/
theorem perform_character
    (own : ∀ id, stage.character = some id →
      ∀ a, db.owner id = some a → a = server.accountOf k)
    (next : (server.perform k db draws stage).phase.character = some id) :
    ∀ a, db.owner id = some a → a = server.accountOf k := by
  cases stage with
  | listing | counting =>
      simp only [SessionDeps.perform] at next
      split at next <;> cases next
  | inserting name archetype =>
      simp only [SessionDeps.perform] at next
      split at next
      next db' inserted =>
        rw [preset_character] at next
        obtain rfl := Option.some.inj next
        intro a owner
        have absent := (insertCharacter_eq_some inserted).2.1
        rw [absent] at owner
        cases owner
      · cases next
  | presetting id' key value rest =>
      simp only [SessionDeps.perform] at next
      split at next
      · rw [preset_character] at next
        exact own id next
      · cases next
  | hooking => cases next
  | asking id' text request =>
      simp only [SessionDeps.perform] at next
      split at next
      · cases next
      next character found =>
        obtain ⟨owner, same⟩ := owner_of_getForAccount found
        have its : id' = id := by
          cases request with
          | transfer | delete => exact Option.some.inj next
          | select => exact same.symm.trans (Option.some.inj next)
        subst its
        intro a owned
        rw [owner] at owned
        exact (Option.some.inj owned).symm
  | transferring =>
      simp only [SessionDeps.perform] at next
      split at next <;> cases next
  | checkingLease id' text | checkingLiveness id' text =>
      simp only [SessionDeps.perform] at next
      split at next
      · cases next
      · exact own id next
  | deleting => cases next
  | authorizing character =>
      simp only [SessionDeps.perform] at next
      split at next
      · exact own id next
      · cases next

theorem receive_character (message : ClientMessage) :
    (server.receive message).1.character = none := by
  cases message with
  | listCharacters | listCharacterOptions => rfl
  | createCharacter | deleteCharacter | selectCharacter =>
      simp only [SessionDeps.receive]
      split <;> rfl
  | requestTransfer =>
      simp only [SessionDeps.receive]
      split
      · rfl
      · split <;> rfl

theorem failed_character (error : Error) (stage : Stage Position) :
    (SessionDeps.failed error stage).1.character = none := by
  cases stage <;> rfl

end Perform

/-! ### Every step of a run -/

def Label.connection : Label κ → Option κ
  | .tick _ => none
  | .enter k | .receive k _ | .resume k .. | .leave k => some k

/-- A label is that of no connection and changes no footprint, or the tables change as the
account of its connection may change them, and the connection goes on with what is its own. -/
theorem step_cases (own : Own deps s) (drawn : Drawn s l) (taken : step deps s l = some t) :
    (l.connection = none ∧ t.phase = s.phase ∧ ∀ c, t.db.footprint c = s.db.footprint c) ∨
      ∃ k new, l.connection = some k ∧ (∀ k', k' ≠ k → t.phase k' = s.phase k') ∧
        Permitted (account deps k) new s.db t.db ∧
        (∀ k' id, (s.phase k').character = some id → new ≠ some id) ∧
        ∀ id, (t.phase k).character = some id →
          ∀ a, s.db.owner id = some a → a = account deps k := by
  have goto : ∀ k (db : Database Position) next new, l.connection = some k →
      Permitted (account deps k) new s.db db →
      (∀ k' id, (s.phase k').character = some id → new ≠ some id) →
      (∀ id, next.1.character = some id →
        ∀ a, s.db.owner id = some a → a = account deps k) →
      ∃ k' new, l.connection = some k' ∧
        (∀ k'', k'' ≠ k' → (s.goto k db next).phase k'' = s.phase k'') ∧
        Permitted (account deps k') new s.db (s.goto k db next).db ∧
        (∀ k'' id, (s.phase k'').character = some id → new ≠ some id) ∧
        ∀ id, ((s.goto k db next).phase k').character = some id →
          ∀ a, s.db.owner id = some a → a = account deps k' := by
    intro k db next new its permitted fresh onward
    refine ⟨k, new, its, fun k' other => Function.update_of_ne other _ _, permitted, fresh, ?_⟩
    simpa only [State.goto, Function.update_self] using onward
  have idle : ∀ k next, l.connection = some k → next.1.character = none →
      ∃ k' new, l.connection = some k' ∧
        (∀ k'', k'' ≠ k' → (s.goto k s.db next).phase k'' = s.phase k'') ∧
        Permitted (account deps k') new s.db (s.goto k s.db next).db ∧
        (∀ k'' id, (s.phase k'').character = some id → new ≠ some id) ∧
        ∀ id, ((s.goto k s.db next).phase k').character = some id →
          ∀ a, s.db.owner id = some a → a = account deps k' := by
    intro k next its none
    refine goto k s.db next .none its .refl (by simp) fun id here => ?_
    rw [none] at here
    cases here
  cases l with
  | tick elapsed =>
      obtain rfl := Option.some.inj taken
      exact .inl ⟨rfl, rfl, fun c => rfl⟩
  | enter k =>
      simp only [step] at taken
      split at taken
      · obtain rfl := Option.some.inj taken
        exact .inr (idle k _ rfl rfl)
      · cases taken
  | receive k frame =>
      simp only [step] at taken
      split at taken
      · obtain rfl := Option.some.inj taken
        exact .inr (idle k _ rfl (receive_character _))
      · obtain rfl := Option.some.inj taken
        exact .inr (idle k _ rfl rfl)
      · cases taken
  | leave k =>
      simp only [step] at taken
      split at taken
      · cases taken
      · obtain rfl := Option.some.inj taken
        exact .inr (idle k _ rfl rfl)
  | resume k outcome error draws =>
      simp only [step] at taken
      split at taken
      next stage running =>
        obtain rfl := Option.some.inj taken
        obtain ⟨absent, fresh, hook⟩ := drawn
        have mine : ∀ id, stage.character = some id →
            ∀ a, s.db.owner id = some a → a = account deps k := by
          intro id here
          exact own k id (by rw [running]; exact here)
        have hooks : ∀ id, stage = .hooking id → ∀ d ∈ draws.deltas, d.1 = id := by
          rintro id rfl
          exact hook id (by rw [running]; rfl)
        have permitted := perform_permitted mine hooks
        have unused : ∀ k' id, (s.phase k').character = some id → some draws.id ≠ some id := by
          intro k' id here same
          exact fresh k' (same ▸ here)
        cases outcome with
        | ok =>
            exact .inr (goto k _ (_, _) (some draws.id) rfl permitted unused
              fun id next => perform_character mine next)
        | failed => exact .inr (idle k _ rfl (failed_character _ _))
        | lost =>
            refine .inr (goto k _ _ (some draws.id) rfl permitted unused fun id next => ?_)
            rw [failed_character] at next
            cases next
      · cases taken

theorem Own.step (own : Own deps s) (drawn : Drawn s l)
    (taken : Admission.step deps s l = some t) : Own deps t := by
  intro k id here a owner
  obtain ⟨-, phase, same⟩ | ⟨k', new, -, others, permitted, fresh, onward⟩ :=
    step_cases own drawn taken
  · rw [Touches.owner_of_footprint (same id)] at owner
    rw [phase] at here
    exact own k id here a owner
  · by_cases its : k = k'
    · subst its
      obtain before | ⟨-, -, mine⟩ := permitted.owner id a owner
      · exact onward id here a before
      · exact mine
    · rw [others k its] at here
      obtain before | ⟨new, -, -⟩ := permitted.owner id a owner
      · exact own k id here a before
      · exact absurd new (fresh k id here)

theorem own_of_run {labels : List (Label κ)}
    (drawn : Admissible (Admission.step deps) Drawn (start db) labels)
    (run : exec (Admission.step deps) (start db) labels = some s) : Own deps s := by
  refine exec_invariant (I := Own deps) (fun _ _ _ own drawn taken => own.step drawn taken) ?_
    drawn run
  intro k id here
  cases here

/-- The connection has entered and has not left. -/
def Phase.active : Phase Position → Bool
  | .connecting | .closed => false
  | .choosing | .running _ | .admitted _ => true

theorem active_goto {k' : κ} {db : Database Position}
    {next : Phase Position × Option ServerMessage}
    (before : (s.phase k').active = true) (after : ((s.goto k' db next).phase k).active = true) :
    (s.phase k).active = true := by
  by_cases own : k = k'
  · exact own ▸ before
  · rwa [State.phase_goto, Function.update_of_ne own] at after

theorem active_step (taken : Admission.step deps s l = some t)
    (active : (t.phase k).active = true) : (s.phase k).active = true ∨ l = .enter k := by
  cases l with
  | tick elapsed =>
      obtain rfl := Option.some.inj taken
      exact .inl active
  | enter k' =>
      by_cases own : k = k'
      · exact .inr (own ▸ rfl)
      · simp only [Admission.step] at taken
        split at taken
        · obtain rfl := Option.some.inj taken
          rw [State.phase_goto, Function.update_of_ne own] at active
          exact .inl active
        · cases taken
  | receive k' frame =>
      simp only [Admission.step] at taken
      split at taken
      next choosing =>
        obtain rfl := Option.some.inj taken
        exact .inl (active_goto (by rw [choosing]; rfl) active)
      next choosing =>
        obtain rfl := Option.some.inj taken
        exact .inl (active_goto (by rw [choosing]; rfl) active)
      · cases taken
  | resume k' outcome error draws =>
      simp only [Admission.step] at taken
      split at taken
      next stage running =>
        obtain rfl := Option.some.inj taken
        have before : (s.phase k').active = true := by rw [running]; rfl
        cases outcome with
        | ok | failed | lost => exact .inl (active_goto before active)
      · cases taken
  | leave k' =>
      simp only [Admission.step] at taken
      split at taken
      · cases taken
      · obtain rfl := Option.some.inj taken
        by_cases own : k = k'
        · subst own
          rw [State.phase_goto, Function.update_self] at active
          cases active
        · rw [State.phase_goto, Function.update_of_ne own] at active
          exact .inl active

/-- Only an active connection changes the tables. -/
theorem footprint_of_inactive (inactive : ∀ k, l.connection = some k → (s.phase k).active = false)
    (taken : Admission.step deps s l = some t) (c : CharacterId) :
    t.db.footprint c = s.db.footprint c := by
  cases l with
  | tick elapsed =>
      obtain rfl := Option.some.inj taken
      rfl
  | enter k | receive k =>
      simp only [Admission.step] at taken
      split at taken <;> cases taken <;> rfl
  | leave k =>
      simp only [Admission.step] at taken
      split at taken <;> cases taken
      rfl
  | resume k outcome error draws =>
      simp only [Admission.step] at taken
      split at taken
      next stage running =>
        have active := inactive k rfl
        rw [running] at active
        cases active
      · cases taken

/-- What the connections of other accounts leave of an account: its characters are the same
and so is everything that the tables hold of them. -/
structure Spared (accountId : AccountId) (db db' : Database Position) : Prop where
  footprint : ∀ c, db.owner c = some accountId → db'.footprint c = db.footprint c
  owner : ∀ c, db'.owner c = some accountId → db.owner c = some accountId

theorem Spared.trans {db'' : Database Position} (first : Spared accountId db db')
    (second : Spared accountId db' db'') : Spared accountId db db'' where
  footprint c owner := by
    have same := first.footprint c owner
    have still := (Touches.owner_of_footprint same).trans owner
    exact (second.footprint c still).trans same
  owner c owner := first.owner c (second.owner c owner)

theorem spared_step (own : Own deps s) (drawn : Drawn s l)
    (taken : Admission.step deps s l = some t)
    (other : ∀ k, l.connection = some k → account deps k ≠ accountId) :
    Spared accountId s.db t.db := by
  obtain ⟨-, -, same⟩ | ⟨k, new, its, -, permitted, -, -⟩ := step_cases own drawn taken
  · exact ⟨fun c _ => same c, fun c owner => (Touches.owner_of_footprint (same c)).symm.trans owner⟩
  · refine ⟨fun c owner => permitted.others c accountId owner (other k its).symm, fun c owner => ?_⟩
    obtain before | ⟨-, -, mine⟩ := permitted.owner c accountId owner
    · exact before
    · exact absurd mine.symm (other k its)

/-- Whatever requests the connections of other accounts make, in any order of their statements,
nothing that the tables hold of an account's characters changes; and no connection is ever
admitted with a character of an account that is not its own. -/
theorem untouched_by_others {before after : List (Label κ)}
    (drawn : Admissible (Admission.step deps) Drawn (start db) (before ++ after))
    (reached : exec (Admission.step deps) (start db) before = some s)
    (run : exec (Admission.step deps) s after = some t)
    (others : ∀ l ∈ after, ∀ k, l.connection = some k → account deps k ≠ accountId) :
    Spared accountId s.db t.db ∧
      ∀ k character, t.phase k = .admitted character →
        ∀ a, t.db.owner character.id = some a → a = account deps k := by
  obtain ⟨first, second⟩ := (Transition.admissible_append reached).mp drawn
  have own : Own deps s := own_of_run first reached
  clear first reached drawn
  induction after generalizing s with
  | nil =>
      obtain rfl := Transition.exec_nil.mp run
      refine ⟨⟨fun _ _ => rfl, fun _ owner => owner⟩, fun k character at_ => ?_⟩
      exact own k character.id (by rw [at_]; rfl)
  | cons l after ih =>
      obtain ⟨u, taken, rest⟩ := exec_cons.mp run
      obtain ⟨spared, admitted⟩ := ih rest
        (fun l' here => others l' (List.mem_cons_of_mem l here)) (second.2 u taken)
        (own.step second.1 taken)
      exact ⟨(spared_step own second.1 taken (others l List.mem_cons_self)).trans spared, admitted⟩

instance decidableDrawn [Fintype κ] (s : State κ Position) : ∀ l, Decidable (Drawn s l)
  | .resume k _ _ draws =>
      inferInstanceAs (Decidable (s.db.owner draws.id = none ∧
        (∀ k', (s.phase k').character ≠ some draws.id) ∧
          ∀ id ∈ (s.phase k).hooking, ∀ d ∈ draws.deltas, d.1 = id))
  | .tick _ | .enter _ | .receive .. | .leave _ => isTrue trivial

namespace Stranger

open RealmDirectory.TwoRealms (group haven knight rules)

def strength : StatDeclaration := ⟨"strength", .int, 10, some 0, some 100⟩

def knightId : String := "00000000-0000-0000-0000-000000000003"

/-- A server of the knight's realm, for the knight's owner and for another account. -/
def server : SessionDeps Bool Unit where
  realmId := haven
  defaultZoneId := "greenwood-forest"
  maxCharactersPerAccount := 3
  archetypeSchema := ⟨1, [⟨"wanderer", "Wanderer", "", [("strength", 12)]⟩], by simp⟩
  accountOf k := if k then knight.accountId else ⟨5⟩
  attributeSchema := ⟨1, [strength]⟩
  loginPolicy := rules
  transferExecutor := ⟨fun _ _ => .ok true⟩
  parseUuid text := if text = knightId then some knight.id.uuid else none
  leaseHolderId k := if k then "a" else "b"
  origin := ()

def resume (k : Bool) (id : CharacterId) (deltas : List (CharacterId × String × ℤ)) :
    Label Bool :=
  .resume k .ok ⟨"", ""⟩ ⟨id, 10, 11, deltas⟩

/-- The owner is admitted with the knight. -/
def enters : List (Label Bool) :=
  [.enter true, .enter false, .receive true (.ok (.selectCharacter knightId)),
    resume true ⟨9⟩ [], resume true ⟨9⟩ []]

/-- The other one creates a character, to which a plugin gives more strength, and asks to
delete the knight. -/
def creates : List (Label Bool) :=
  [.receive false (.ok (.createCharacter "Bran" "wanderer")), resume false ⟨9⟩ [],
    resume false ⟨9⟩ [], resume false ⟨12⟩ [], resume false ⟨12⟩ [(⟨9⟩, "strength", 3)],
    .receive false (.ok (.deleteCharacter knightId)), resume false ⟨12⟩ []]

theorem untouched_by_others_knight :
    ∃ s t, exec (step fun _ => server) (start group) enters = some s ∧
      exec (step fun _ => server) s creates = some t ∧
      (t.db.owner ⟨9⟩ = some ⟨5⟩ ∧ t.db.owner knight.id = some knight.accountId ∧
        t.replies.length = 3) ∧
      Spared knight.accountId s.db t.db := by
  have drawn : Admissible (step fun _ => server) Drawn (start group) (enters ++ creates) := by
    decide
  obtain ⟨t, run, answers⟩ : ∃ t, exec (step fun _ => server) (start group) (enters ++ creates) =
      some t ∧ t.db.owner ⟨9⟩ = some ⟨5⟩ ∧ t.db.owner knight.id = some knight.accountId ∧
        t.replies.length = 3 := Transition.exec_reaches (by decide)
  obtain ⟨s, reached, rest⟩ := Transition.exec_append.mp run
  have others : ∀ l ∈ creates, ∀ k, l.connection = some k →
      account (fun _ => server) k ≠ knight.accountId := by decide
  exact ⟨s, t, reached, rest, answers, (untouched_by_others drawn reached rest others).1⟩

end Stranger

end WorldZero.Server.Admission
