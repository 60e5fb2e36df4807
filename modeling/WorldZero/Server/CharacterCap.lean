import WorldZero.Common
import WorldZero.Sql.Rows
import WorldZero.Transition

/-!
# The character cap

`CreateCharacter` counts the characters that the account owns on the realm and then inserts
one: two statements, between which the statements of the account's other connections, and
deletions, may stand.
-/

namespace WorldZero.Server.CharacterCap

open Sql Transition

structure CharacterArchetype where
  key : String
  name : String
  description : String
  stats : List (String × Int)
  deriving DecidableEq

/-- A schema that the loader accepts. -/
structure ArchetypeSchema where
  schemaVersion : ℕ
  archetypes : List CharacterArchetype
  archetypes_ne_nil : archetypes ≠ []

namespace ArchetypeSchema

def defaultArchetype (schema : ArchetypeSchema) : CharacterArchetype :=
  schema.archetypes.head schema.archetypes_ne_nil

def resolve (schema : ArchetypeSchema) (key : String) : Except Error CharacterArchetype :=
  match schema.archetypes.find? fun a => a.key = key with
  | some archetype => .ok archetype
  | none => .error (.new "character" s!"unknown archetype: {key}")

end ArchetypeSchema

structure CharacterRow where
  id : CharacterId
  accountId : AccountId
  name : String
  realmId : RealmId
  zoneId : String
  deriving DecidableEq

/-- `character_protocol::ServerMessage`. -/
inductive Reply where
  | characterCreated (characterId : String)
  | error (message : String)
  deriving DecidableEq

/-- The next statement of a `CreateCharacter`. -/
inductive Stage where
  | count
  | insert
  /-- The starting stats and the plugins' hook, for the new character. -/
  | presets (id : CharacterId)
  deriving DecidableEq

structure Handler (κ : Type) where
  connection : κ
  name : String
  archetype : CharacterArchetype
  stage : Stage := .count
  deriving DecidableEq

structure Config (κ : Type) where
  realmId : RealmId
  defaultZoneId : String
  maxCharactersPerAccount : ℕ
  archetypeSchema : ArchetypeSchema
  /-- The account that a connection has logged in with. -/
  accountOf : κ → AccountId

structure State (κ : Type) where
  characters : Rows CharacterRow.id
  /-- The requests that are between two of their statements. -/
  handlers : List (Handler κ)
  replies : List (κ × Reply)

inductive Label (κ : Type) where
  | createCharacter (k : κ) (name archetypeKey : String)
  | count (k : κ)
  | insert (k : κ) (id : CharacterId)
  | finish (k : κ)
  /-- A statement fails, or the connection ends. -/
  | fail (k : κ)
  | delete (id : CharacterId)

variable {κ : Type} [DecidableEq κ]

namespace State

variable (s : State κ) (k : κ)

def handler : Option (Handler κ) := s.handlers.find? fun h => h.connection = k

def reply (message : Reply) : State κ := { s with replies := s.replies ++ [(k, message)] }

/-- The request goes on to its next statement. -/
def goto (h : Handler κ) (stage : Stage) : State κ :=
  { s with handlers := { h with stage } :: s.handlers.erase h }

/-- The request has been answered or given up. -/
def drop (h : Handler κ) : State κ := { s with handlers := s.handlers.erase h }

end State

section Step

variable (config : Config κ) (s : State κ)

/-- `count_for_account`. -/
def countForAccount (accountId : AccountId) : ℕ :=
  s.characters.count fun r => r.accountId = accountId ∧ r.realmId = config.realmId

/-- What is checked before any statement. -/
def resolveRequest (name archetypeKey : String) : Except String CharacterArchetype :=
  if isBlank name then .error "character name must not be empty"
  else if isBlank archetypeKey then .ok config.archetypeSchema.defaultArchetype
  else
    match config.archetypeSchema.resolve archetypeKey with
    | .ok archetype => .ok archetype
    | .error e => .error (toString e)

def createCharacter (k : κ) (name archetypeKey : String) : State κ :=
  match resolveRequest config name archetypeKey with
  | .ok archetype => { s with handlers := { connection := k, name, archetype } :: s.handlers }
  | .error message => s.reply k (.error message)

def count (h : Handler κ) : State κ :=
  let existing := countForAccount config s (config.accountOf h.connection)
  if config.maxCharactersPerAccount ≤ existing then
    (s.drop h).reply h.connection (.error
      (s!"character limit reached: {existing} already exist on this realm, limit is " ++
        s!"{config.maxCharactersPerAccount} (WZ_CHARACTER_MAX_PER_ACCOUNT)"))
  else s.goto h .insert

def failedToCreate : Error := .wrap "character" "failed to create character"

/-- `CharacterStore::create`. -/
def insert (h : Handler κ) (id : CharacterId) : State κ :=
  match s.characters.insert
      ⟨id, config.accountOf h.connection, h.name, config.realmId, config.defaultZoneId⟩ with
  | some characters => State.goto { s with characters } h (.presets id)
  | none => (s.drop h).reply h.connection (.error (toString failedToCreate))

/-- A failing insertion is answered; any other failure ends the connection. -/
def fail (h : Handler κ) : State κ :=
  match h.stage with
  | .insert => (s.drop h).reply h.connection (.error (toString failedToCreate))
  | _ => s.drop h

/-- A connection handles one message at a time. -/
def step : Label κ → Option (State κ)
  | .createCharacter k name archetypeKey =>
      if (s.handler k).isNone then some (createCharacter config s k name archetypeKey) else none
  | .count k => (s.handler k).bind fun h =>
      match h.stage with
      | .count => some (count config s h)
      | _ => none
  | .insert k id => (s.handler k).bind fun h =>
      match h.stage with
      | .insert => some (insert config s h id)
      | _ => none
  | .finish k => (s.handler k).bind fun h =>
      match h.stage with
      | .presets id => some ((s.drop h).reply k (.characterCreated (toString id)))
      | _ => none
  | .fail k => (s.handler k).map (fail s)
  | .delete id => some { s with characters := s.characters.delete fun r => r.id = id }

/-- The requests of the account that have passed the check and not inserted yet. -/
def passed (accountId : AccountId) : ℕ :=
  s.handlers.countP fun h => config.accountOf h.connection = accountId ∧ h.stage = .insert

/-- A check that passes leaves room for the requests that have passed it before. -/
def InTurn (accountId : AccountId) (s : State κ) : Label κ → Prop
  | .count k => config.accountOf k = accountId →
      countForAccount config s accountId < config.maxCharactersPerAccount →
        countForAccount config s accountId + passed config s accountId <
          config.maxCharactersPerAccount
  | _ => True

instance (accountId : AccountId) : (l : Label κ) → Decidable (InTurn config accountId s l)
  | .count _ => inferInstanceAs (Decidable (_ → _ → _))
  | .createCharacter .. | .insert .. | .finish _ | .fail _ | .delete _ => isTrue trivial

end Step

section Run

variable {config : Config κ} {s t : State κ} {k : κ} {h : Handler κ} {l : Label κ}
  {ls : List (Label κ)} {accountId : AccountId}

theorem State.handler_eq_some (found : s.handler k = some h) :
    h ∈ s.handlers ∧ h.connection = k :=
  ⟨List.mem_of_find?_eq_some found, by simpa using List.find?_some found⟩

/-- Nobody owns more characters than the cap, with those that are about to be inserted. -/
def Reserved (config : Config κ) (accountId : AccountId) (s : State κ) : Prop :=
  countForAccount config s accountId + passed config s accountId ≤ config.maxCharactersPerAccount

theorem passed_drop_le (config : Config κ) (s : State κ) (accountId : AccountId) (h : Handler κ) :
    passed config (s.drop h) accountId ≤ passed config s accountId :=
  List.erase_sublist.countP_le

theorem passed_goto (stage : Stage) : passed config (s.goto h stage) accountId =
    passed config (s.drop h) accountId +
      if config.accountOf h.connection = accountId ∧ stage = .insert then 1 else 0 := by
  simp [passed, State.goto, State.drop, List.countP_cons]

theorem passed_drop (among : h ∈ s.handlers) (ready : h.stage = .insert)
    (owner : config.accountOf h.connection = accountId) :
    passed config (s.drop h) accountId + 1 = passed config s accountId := by
  rw [passed, passed, (List.perm_cons_erase among).countP_eq, List.countP_cons]
  simp [State.drop, ready, owner]

omit [DecidableEq κ] in
theorem countForAccount_insert (config : Config κ) (accountId : AccountId) {row : CharacterRow}
    {characters : Rows CharacterRow.id}
    (inserted : s.characters.insert row = some characters) :
    countForAccount config { s with characters } accountId =
      countForAccount config s accountId +
        if row.accountId = accountId ∧ row.realmId = config.realmId then 1 else 0 := by
  simp [countForAccount, Rows.count, Rows.rows_insert inserted, List.countP_append,
    List.countP_cons]

theorem Reserved.drop (reserved : Reserved config accountId s) (h : Handler κ) :
    Reserved config accountId (s.drop h) :=
  Nat.le_trans (Nat.add_le_add_left (passed_drop_le config s accountId h) _) reserved

theorem reserved_count (reserved : Reserved config accountId s) (h : Handler κ)
    (turn : config.accountOf h.connection = accountId →
      countForAccount config s accountId < config.maxCharactersPerAccount →
        countForAccount config s accountId + passed config s accountId <
          config.maxCharactersPerAccount) :
    Reserved config accountId (count config s h) := by
  rw [count]
  split
  · exact reserved.drop h
  next below =>
    rw [Reserved, passed_goto]
    have fewer := passed_drop_le config s accountId h
    have room : countForAccount config (s.goto h .insert) accountId =
        countForAccount config s accountId := rfl
    rw [room]
    split
    next owner =>
      obtain ⟨rfl, -⟩ := owner
      have spare := turn rfl (Nat.not_le.mp below)
      omega
    next other =>
      rw [Reserved] at reserved
      omega

theorem reserved_insert (reserved : Reserved config accountId s) (among : h ∈ s.handlers)
    (ready : h.stage = .insert) (id : CharacterId) :
    Reserved config accountId (insert config s h id) := by
  rw [insert]
  split
  next characters inserted =>
    have owned := countForAccount_insert config accountId inserted
    have same : countForAccount config (State.goto { s with characters } h (.presets id))
        accountId = countForAccount config { s with characters } accountId := rfl
    have done : passed config (State.goto { s with characters } h (.presets id)) accountId =
        passed config (s.drop h) accountId := by
      simp [passed, State.goto, State.drop]
    rw [Reserved, same, owned, done]
    rw [Reserved] at reserved
    split
    next owner =>
      have gone := passed_drop among ready owner.1
      omega
    next other =>
      have fewer := passed_drop_le config s accountId h
      omega
  · exact reserved.drop h

theorem reserved_step (reserved : Reserved config accountId s)
    (turn : InTurn config accountId s l) (taken : step config s l = some t) :
    Reserved config accountId t := by
  cases l with
  | createCharacter k name archetypeKey =>
      simp only [step, Option.ite_none_right_eq_some, Option.some.injEq] at taken
      obtain ⟨-, rfl⟩ := taken
      rw [createCharacter]
      split
      · rw [Reserved, passed, List.countP_cons_of_neg (by simp)]
        exact reserved
      · exact reserved
  | count k =>
      simp only [step, Option.bind_eq_some_iff] at taken
      obtain ⟨h, found, taken⟩ := taken
      obtain ⟨-, rfl⟩ := State.handler_eq_some found
      split at taken <;> cases taken
      exact reserved_count reserved h turn
  | insert k id =>
      simp only [step, Option.bind_eq_some_iff] at taken
      obtain ⟨h, found, taken⟩ := taken
      split at taken <;> cases taken
      next ready => exact reserved_insert reserved (State.handler_eq_some found).1 ready id
  | finish k =>
      simp only [step, Option.bind_eq_some_iff] at taken
      obtain ⟨h, -, taken⟩ := taken
      split at taken <;> cases taken
      exact reserved.drop h
  | fail k =>
      simp only [step, Option.map_eq_some_iff] at taken
      obtain ⟨h, -, rfl⟩ := taken
      rw [fail]
      split <;> exact reserved.drop h
  | delete id =>
      simp only [step, Option.some.injEq] at taken
      subst taken
      have fewer : countForAccount config
          { s with characters := s.characters.delete fun r => r.id = id } accountId ≤
            countForAccount config s accountId := List.filter_sublist.countP_le
      exact Nat.le_trans (Nat.add_le_add_right fewer _) reserved

/-- The account does not come to own more characters than the cap, as long as every check that
passes leaves room for those that have passed before it and are not inserted yet. -/
theorem countForAccount_le_of_inTurn
    (within : countForAccount config s accountId ≤ config.maxCharactersPerAccount)
    (idle : s.handlers = []) (legal : Admissible (step config) (InTurn config accountId) s ls) :
    ∀ front, front <+: ls → ∀ t, exec (step config) s front = some t →
      countForAccount config t accountId ≤ config.maxCharactersPerAccount := by
  have start : Reserved config accountId s := by
    rw [Reserved, passed, idle]
    exact within
  intro front front_of t run
  have reserved : Reserved config accountId t :=
    throughout (fun _ _ _ => reserved_step) start legal front front_of t run
  exact Nat.le_trans (Nat.le_add_right _ _) reserved

end Run

/-! ### Two connections of one account -/

namespace Twins

def archetype : CharacterArchetype := ⟨"wanderer", "Wanderer", "", []⟩

def config : Config Bool where
  realmId := ⟨1⟩
  defaultZoneId := "meadow"
  maxCharactersPerAccount := 1
  archetypeSchema := ⟨1, [archetype], by simp⟩
  accountOf _ := ⟨7⟩

def start : State Bool := ⟨Rows.empty _, [], []⟩

/-- One after the other: the second is refused. -/
def inTurn : List (Label Bool) :=
  [.createCharacter true "Ada" "", .count true, .insert true ⟨1⟩, .finish true,
    .createCharacter false "Bea" "", .count false]

/-- Both count before either inserts. -/
def crossed : List (Label Bool) :=
  [.createCharacter true "Ada" "", .createCharacter false "Bea" "", .count true, .count false,
    .insert true ⟨1⟩, .insert false ⟨2⟩]

theorem inTurn_within : ∃ t, exec (step config) start inTurn = some t ∧ t.replies.length = 2 ∧
    countForAccount config t ⟨7⟩ ≤ 1 := by
  have within : countForAccount config start ⟨7⟩ ≤ config.maxCharactersPerAccount := by decide
  obtain ⟨t, run, one⟩ : ∃ t, exec (step config) start inTurn = some t ∧ t.replies.length = 2 :=
    exec_reaches (by decide)
  exact ⟨t, run, one,
    countForAccount_le_of_inTurn within rfl (by decide) inTurn List.prefix_rfl t run⟩

theorem crossed_exceeds : countForAccount config start ⟨7⟩ ≤ 1 ∧
    ∃ t, exec (step config) start crossed = some t ∧ countForAccount config t ⟨7⟩ = 2 := by
  refine ⟨by decide, ?_⟩
  exact exec_reaches (by decide)

end Twins

end WorldZero.Server.CharacterCap
