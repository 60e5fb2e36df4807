import WorldZero.Common
import WorldZero.Sql.Transactions
import Mathlib.Data.List.Nodup

/-!
# Parties

The declared party types (`party.schema.yaml`), the tables `parties` and `party_members`
with the statements on them, and the calls of `PartyStore`. The engine executes a
statement under the constraints that the tables declare: a character is a member once, a
member's party and character exist, and deleting either of them cascades.
-/

namespace WorldZero.Character

open Sql.Transactions

structure PartyType where
  key : String
  maxMembers : Option UInt32
  deriving DecidableEq

/-- There is room for one more. -/
def PartyType.checkCap (partyType : PartyType) (key : String) (currentSize : Nat) :
    Except Error Unit :=
  match partyType.maxMembers with
  | some maxMembers =>
      if maxMembers.toNat ≤ currentSize then
        .error (.new "character"
          s!"party is already at its \"{key}\" cap of {maxMembers} members")
      else .ok ()
  | none => .ok ()

theorem PartyType.checkCap_ok {partyType : PartyType} {key : String} {currentSize : Nat}
    (h : partyType.checkCap key currentSize = .ok ()) :
    ∀ maxMembers ∈ partyType.maxMembers, currentSize < maxMembers.toNat := by
  intro maxMembers declared
  simp only [PartyType.checkCap, Option.mem_def.mp declared] at h
  split at h
  · cases h
  · next room => exact Nat.lt_of_not_le room

structure PartySchema where
  schemaVersion : UInt32
  partyTypes : List PartyType
  nonempty : partyTypes ≠ []

namespace PartySchema

def fromYaml (parse : String → Option (UInt32 × List PartyType)) (input : String) :
    Except Error PartySchema :=
  match parse input with
  | none => .error (.wrap "character" "failed to parse party.schema.yaml")
  | some (schemaVersion, partyTypes) =>
      if empty : partyTypes = [] then
        .error (.new "character" "party.schema.yaml must declare at least one party_types entry")
      else .ok { schemaVersion, partyTypes, nonempty := empty }

variable (schema : PartySchema)

def defaultType : PartyType := schema.partyTypes.head schema.nonempty

def resolve (key : String) : Except Error PartyType :=
  match schema.partyTypes.find? fun t => t.key = key with
  | some partyType => .ok partyType
  | none => .error (.new "character" s!"unknown party type: {key}")

/-- The type of a party that is founded. -/
def requested (key : String) : Except Error PartyType :=
  if key = "" then .ok schema.defaultType else schema.resolve key

end PartySchema

namespace Party

/-! ### The tables -/

structure PartyRow where
  id : PartyId
  partyType : String
  deriving DecidableEq

structure MemberRow where
  partyId : PartyId
  characterId : CharacterId
  deriving DecidableEq

structure Tables where
  characters : List CharacterId
  parties : List PartyRow
  members : List MemberRow
  deriving DecidableEq

def Tables.size (t : Tables) (party : PartyId) : Nat := t.members.countP fun m => m.partyId = party

inductive Statement where
  /-- `SELECT party_id FROM party_members WHERE character_id = $1`. -/
  | selectPartyId (characterId : CharacterId)
  /-- `SELECT p.id, p.party_type FROM party_members pm JOIN parties p …`. -/
  | selectParty (characterId : CharacterId)
  /-- The other members of the character's party. -/
  | selectMembers (characterId : CharacterId)
  | countMembers (party : PartyId)
  | insertParty (row : PartyRow)
  | insertMember (row : MemberRow)
  | deleteMember (row : MemberRow)
  | deleteParty (party : PartyId)
  | deleteCharacter (characterId : CharacterId)
  deriving DecidableEq

abbrev Statement.Result : Statement → Type
  | .selectPartyId _ => Option PartyId
  | .selectParty _ => Option PartyRow
  | .selectMembers _ => List CharacterId
  | .countMembers _ => Nat
  | _ => Unit

inductive Write where
  | insertParty (row : PartyRow)
  | insertMember (row : MemberRow)
  | deleteMember (row : MemberRow)
  | deleteParty (party : PartyId)
  | deleteCharacter (characterId : CharacterId)
  deriving DecidableEq

/-- A row, or the entry of a row in a unique index. -/
inductive Resource where
  | party (id : PartyId)
  | member (characterId : CharacterId)
  | character (id : CharacterId)
  deriving DecidableEq

structure Lock where
  resource : Resource
  exclusive : Bool
  deriving DecidableEq

/-- Both deletions of a referenced row cascade to `party_members`. -/
def Write.apply (t : Tables) : Write → Tables
  | .insertParty row => { t with parties := t.parties ++ [row] }
  | .insertMember row => { t with members := t.members ++ [row] }
  | .deleteMember row => { t with members := t.members.filter (· ≠ row) }
  | .deleteParty party =>
      { t with
        parties := t.parties.filter (·.id ≠ party)
        members := t.members.filter (·.partyId ≠ party) }
  | .deleteCharacter c =>
      { t with
        characters := t.characters.filter (· ≠ c)
        members := t.members.filter (·.characterId ≠ c) }

def Statement.exec : (s : Statement) → Tables → Option (s.Result × List Write)
  | .selectPartyId c, t =>
      some ((t.members.find? fun m => m.characterId = c).map MemberRow.partyId, [])
  | .selectParty c, t =>
      some (t.members.findSome? fun m =>
        if m.characterId = c then t.parties.find? fun p => p.id = m.partyId else none, [])
  | .selectMembers c, t =>
      some ((t.members.filter fun m => m.characterId = c).flatMap fun m =>
        (t.members.filter fun m' => m'.partyId = m.partyId && m'.characterId ≠ c).map
          MemberRow.characterId, [])
  | .countMembers party, t => some (t.size party, [])
  | .insertParty row, t =>
      if row.id ∈ t.parties.map PartyRow.id then none else some ((), [.insertParty row])
  | .insertMember row, t =>
      if row.characterId ∈ t.members.map MemberRow.characterId ∨
          row.partyId ∉ t.parties.map PartyRow.id ∨ row.characterId ∉ t.characters then none
      else some ((), [.insertMember row])
  | .deleteMember row, t => some ((), if row ∈ t.members then [.deleteMember row] else [])
  | .deleteParty party, t =>
      some ((), if party ∈ t.parties.map PartyRow.id then [.deleteParty party] else [])
  | .deleteCharacter c, t => some ((), if c ∈ t.characters then [.deleteCharacter c] else [])

/-- An insertion locks the entry in the unique index and shares the rows that it refers to;
a deletion locks the rows that it deletes, those of the cascade among them. -/
def Statement.locks : Statement → Tables → List Lock
  | .insertParty row, _ => [⟨.party row.id, true⟩]
  | .insertMember row, _ =>
      [⟨.member row.characterId, true⟩, ⟨.party row.partyId, false⟩,
        ⟨.character row.characterId, false⟩]
  | .deleteMember row, t => if row ∈ t.members then [⟨.member row.characterId, true⟩] else []
  | .deleteParty party, t =>
      if party ∈ t.parties.map PartyRow.id then
        ⟨.party party, true⟩ :: (t.members.filter (·.partyId = party)).map
          fun m => ⟨.member m.characterId, true⟩
      else []
  | .deleteCharacter c, t =>
      if c ∈ t.characters then
        ⟨.character c, true⟩ :: (t.members.filter (·.characterId = c)).map
          fun m => ⟨.member m.characterId, true⟩
      else []
  | _, _ => []

/-- Two locks on one resource conflict unless both are shared. -/
def Lock.conflicts (l l' : Lock) : Bool := l.resource = l'.resource && (l.exclusive || l'.exclusive)

def engine : Engine Statement.Result Tables Write Lock where
  exec := Statement.exec
  locks := Statement.locks
  apply w t := Write.apply t w
  conflicts := Lock.conflicts

/-- A call of the store. -/
abbrev StoreM := Program Statement.Result Error

/-! ### The calls -/

structure PartyStore where
  schema : PartySchema

namespace PartyStore

variable (store : PartyStore)

def membersOf (characterId : CharacterId) : StoreM (List CharacterId) :=
  Program.call (Statement.selectMembers characterId)
    (.wrap "character" "failed to look up party members")

/-- The party that the invitee is to join: its identifier, its type and its size. The
inviter founds one, under the fresh identifier `id`, if it is in none. -/
def partyToJoin (inviter : CharacterId) (requestedPartyType : String) (id : PartyId) :
    Option PartyRow → StoreM (PartyId × String × Nat)
  | some row => do
      let size ← Program.call (Statement.countMembers row.id)
        (.wrap "character" "failed to count party members")
      pure (row.id, row.partyType, size)
  | none => do
      let partyType ← .ofExcept (store.schema.requested requestedPartyType)
      let _ ← Program.call (Statement.insertParty { id, partyType := partyType.key })
        (.wrap "character" "failed to create party")
      let _ ← Program.call (Statement.insertMember { partyId := id, characterId := inviter })
        (.wrap "character" "failed to add inviter to new party")
      pure (id, partyType.key, 1)

/-- The invitee becomes a member, if there is room for one more. -/
def addInvitee (invitee : CharacterId) : PartyId × String × Nat → StoreM PartyId
  | (partyId, partyTypeKey, currentSize) => do
      let partyType ← .ofExcept (store.schema.resolve partyTypeKey)
      .ofExcept (partyType.checkCap partyTypeKey currentSize)
      let _ ← Program.call (Statement.insertMember { partyId, characterId := invitee })
        (.wrap "character" "failed to add invitee to party")
      pure partyId

def acceptInvite (inviter invitee : CharacterId) (requestedPartyType : String) (id : PartyId) :
    StoreM PartyId :=
  if inviter = invitee then
    .throw (.new "character" "a character cannot party with itself")
  else do
    let inviteeParty ← Program.call (Statement.selectPartyId invitee)
      (.wrap "character" "failed to look up invitee's party")
    match inviteeParty with
    | some _ => .throw (.new "character" "invitee is already in a party")
    | none => do
        let inviterParty ← Program.call (Statement.selectParty inviter)
          (.wrap "character" "failed to look up inviter's party")
        let party ← store.partyToJoin inviter requestedPartyType id inviterParty
        store.addInvitee invitee party

def leave (characterId : CharacterId) : StoreM Unit := do
  let party ← Program.call (Statement.selectPartyId characterId)
    (.wrap "character" "failed to look up party membership")
  match party with
  | none => .throw (.new "character" "character is not in a party")
  | some partyId => do
      let _ ← Program.call (Statement.deleteMember { partyId, characterId })
        (.wrap "character" "failed to remove party member")
      let remaining ← Program.call (Statement.countMembers partyId)
        (.wrap "character" "failed to count remaining party members")
      if remaining < 2 then
        Program.call (Statement.deleteParty partyId) (.wrap "character" "failed to dissolve party")
      else pure ()

end PartyStore

/-- `CharacterStore::delete`, as far as the party tables are concerned. -/
def deleteCharacter (characterId : CharacterId) : StoreM Unit :=
  Program.call (Statement.deleteCharacter characterId)
    (.wrap "character" "failed to delete character")

/-! ### What the tables declare -/

/-- The unique columns and the reference to `parties`. -/
structure Tables.Constraints (t : Tables) : Prop where
  keys : (t.parties.map PartyRow.id).Nodup
  unique : (t.members.map MemberRow.characterId).Nodup
  references : ∀ m ∈ t.members, m.partyId ∈ t.parties.map PartyRow.id

def Write.deletes : Write → Bool
  | .insertParty _ | .insertMember _ => false
  | .deleteMember _ | .deleteParty _ | .deleteCharacter _ => true

variable {t : Tables} {w : Write} {party : PartyId}

theorem members_sublist_of_deletes (h : w.deletes = true) :
    (w.apply t).members.Sublist t.members := by
  cases w with
  | insertParty row | insertMember row => cases h
  | deleteMember row | deleteParty party | deleteCharacter c => exact List.filter_sublist

theorem parties_sublist_of_deletes (h : w.deletes = true) :
    (w.apply t).parties.Sublist t.parties := by
  cases w with
  | insertParty row | insertMember row => cases h
  | deleteMember row | deleteCharacter c => exact .refl _
  | deleteParty party => exact List.filter_sublist

theorem size_le_of_deletes (h : w.deletes = true) : (w.apply t).size party ≤ t.size party :=
  (members_sublist_of_deletes h).countP_le

/-- A size counts the members whose row names the party, so without rows there are none. -/
theorem Tables.Constraints.size_eq_zero (h : t.Constraints)
    (absent : party ∉ t.parties.map PartyRow.id) : t.size party = 0 := by
  refine List.countP_eq_zero.mpr fun m hm => ?_
  simp only [decide_eq_true_eq]
  rintro rfl
  exact absent (h.references m hm)

theorem size_insertMember (row : MemberRow) :
    (Write.apply t (.insertMember row)).size party =
      t.size party + if row.partyId = party then 1 else 0 := by
  simp [Write.apply, Tables.size, List.countP_append, List.countP_singleton]

namespace Tables.Constraints

/-- Deletions keep the constraints: those of referenced rows cascade. -/
theorem delete (h : t.Constraints) (deletes : w.deletes = true) : (w.apply t).Constraints where
  keys := ((parties_sublist_of_deletes deletes).map _).nodup h.keys
  unique := ((members_sublist_of_deletes deletes).map _).nodup h.unique
  references m hm := by
    have there := h.references m ((members_sublist_of_deletes deletes).subset hm)
    cases w with
    | insertParty row | insertMember row => cases deletes
    | deleteMember row | deleteCharacter c => exact there
    | deleteParty party =>
        obtain ⟨row, hrow, same⟩ := List.mem_map.mp there
        have kept : m.partyId ≠ party := by simpa using (List.mem_filter.mp hm).2
        exact List.mem_map.mpr ⟨row, List.mem_filter.mpr ⟨hrow, by simpa [same] using kept⟩, same⟩

theorem insertParty (h : t.Constraints) {row : PartyRow}
    (fresh : row.id ∉ t.parties.map PartyRow.id) :
    (Write.apply t (.insertParty row)).Constraints where
  keys := by
    rw [Write.apply, List.map_append, List.map_singleton]
    exact h.keys.append (List.nodup_singleton _) (List.disjoint_singleton.mpr fresh)
  unique := h.unique
  references m hm := by
    rw [Write.apply, List.map_append]
    exact List.mem_append_left _ (h.references m hm)

theorem insertMember (h : t.Constraints) {row : MemberRow}
    (fresh : row.characterId ∉ t.members.map MemberRow.characterId)
    (there : row.partyId ∈ t.parties.map PartyRow.id) :
    (Write.apply t (.insertMember row)).Constraints where
  keys := h.keys
  unique := by
    rw [Write.apply, List.map_append, List.map_singleton]
    exact h.unique.append (List.nodup_singleton _) (List.disjoint_singleton.mpr fresh)
  references m hm := by
    obtain old | new := List.mem_append.mp hm
    · exact h.references m old
    · rw [List.mem_singleton.mp new]
      exact there

end Tables.Constraints

/-! ### What a statement finds and does -/

theorem exec_insertMember {row : MemberRow} {r : Unit} {ws : List Write}
    (h : Statement.exec (.insertMember row) t = some (r, ws)) :
    ws = [.insertMember row] ∧ row.characterId ∉ t.members.map MemberRow.characterId ∧
      row.partyId ∈ t.parties.map PartyRow.id ∧ row.characterId ∈ t.characters := by
  simp only [Statement.exec] at h
  split at h
  · cases h
  · next allowed =>
      cases h
      push Not at allowed
      exact ⟨rfl, allowed⟩

theorem exec_insertParty {row : PartyRow} {r : Unit} {ws : List Write}
    (h : Statement.exec (.insertParty row) t = some (r, ws)) :
    ws = [.insertParty row] ∧ row.id ∉ t.parties.map PartyRow.id := by
  simp only [Statement.exec] at h
  split at h
  · cases h
  · next fresh =>
      cases h
      exact ⟨rfl, fresh⟩

/-- A character whose party is found is a member of it. -/
theorem selectParty_eq_some {c : CharacterId} {row : PartyRow}
    (h : (t.members.findSome? fun m =>
      if m.characterId = c then t.parties.find? fun p => p.id = m.partyId else none) = some row) :
    row ∈ t.parties ∧ { partyId := row.id, characterId := c } ∈ t.members := by
  obtain ⟨m, hm, found⟩ := List.exists_of_findSome?_eq_some h
  split at found
  · next same =>
      have here : row.id = m.partyId := by simpa using List.find?_some found
      refine ⟨List.mem_of_find?_eq_some found, ?_⟩
      rw [here, ← same]
      exact hm
  · cases found

/-- A character for which no party is found is in none. -/
theorem selectParty_eq_none (constraints : t.Constraints) {c : CharacterId}
    (h : (t.members.findSome? fun m =>
      if m.characterId = c then t.parties.find? fun p => p.id = m.partyId else none) = none) :
    c ∉ t.members.map MemberRow.characterId := by
  intro member
  obtain ⟨m, hm, rfl⟩ := List.mem_map.mp member
  have missing := List.findSome?_eq_none_iff.mp h m hm
  rw [if_pos rfl] at missing
  obtain ⟨row, hrow, same⟩ := List.mem_map.mp (constraints.references m hm)
  exact absurd same (by simpa using List.find?_eq_none.mp missing row hrow)

end Party

end WorldZero.Character
