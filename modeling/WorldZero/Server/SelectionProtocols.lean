import WorldZero.Gateway.Protocol

/-!
# Selecting a realm and a character

The protocols that a connection speaks between its authentication and the world: which
realm it is for (`proto/realm.proto`), and with which character it joins
(`proto/character.proto`). Their identifiers are strings, which the session parses.
-/

namespace WorldZero.Server

open Gateway

/-! ### Realms -/

namespace RealmProtocol

def REALM_MESSAGE_TYPE : UInt16 := 2

namespace Proto

structure ListRealms where

structure SelectRealm where (realmId : String)

inductive ClientMessage.Kind where
  | listRealms (message : ListRealms)
  | selectRealm (message : SelectRealm)

structure ClientMessage where
  kind : Option ClientMessage.Kind

structure RealmSummary where
  (realmId name openOrBound : String)
  characterCount : Int64
  liveConnectionCount : UInt64
  selectableCharacterCount : Int64

structure RealmList where (realms : List RealmSummary)

structure RealmSelected where (realmId : String)

structure Error where (message : String)

inductive ServerMessage.Kind where
  | realmList (message : RealmList)
  | realmSelected (message : RealmSelected)
  | error (message : Error)

structure ServerMessage where
  kind : Option ServerMessage.Kind

end Proto

inductive ClientMessage where
  | listRealms
  | selectRealm (realmId : String)

structure RealmSummary where
  (realmId name openOrBound : String)
  characterCount : Int64
  liveConnectionCount : UInt64
  selectableCharacterCount : Int64

inductive ServerMessage where
  | realmList (realms : List RealmSummary)
  | realmSelected (realmId : String)
  | error (message : String)

def noKind : Error := .new "server" "gateway realm message has no kind set"

namespace ClientMessage

def toProto (message : ClientMessage) : Proto.ClientMessage :=
  { kind := some <|
      match message with
      | .listRealms => .listRealms {}
      | .selectRealm realmId => .selectRealm { realmId } }

/-- `TryFrom<proto::ClientMessage>`. -/
def tryFrom (message : Proto.ClientMessage) : Except Error ClientMessage :=
  match message.kind with
  | some (.listRealms {}) => .ok .listRealms
  | some (.selectRealm { realmId }) => .ok (.selectRealm realmId)
  | none => .error noKind

def protocol : Protocol ClientMessage Proto.ClientMessage :=
  ⟨⟨REALM_MESSAGE_TYPE, "server", "realm"⟩, toProto, tryFrom⟩

def intoEnvelope (prost : Prost Proto.ClientMessage) : ClientMessage → Envelope :=
  protocol.intoEnvelope prost

def fromEnvelope (prost : Prost Proto.ClientMessage) : Envelope → Except Error ClientMessage :=
  protocol.fromEnvelope prost

theorem tryFrom_toProto (message : ClientMessage) : tryFrom message.toProto = .ok message := by
  cases message <;> rfl

end ClientMessage

def RealmSummary.toProto (summary : RealmSummary) : Proto.RealmSummary :=
  { realmId := summary.realmId, name := summary.name, openOrBound := summary.openOrBound
    characterCount := summary.characterCount, liveConnectionCount := summary.liveConnectionCount
    selectableCharacterCount := summary.selectableCharacterCount }

def RealmSummary.fromProto (summary : Proto.RealmSummary) : RealmSummary :=
  { realmId := summary.realmId, name := summary.name, openOrBound := summary.openOrBound
    characterCount := summary.characterCount
    selectableCharacterCount := summary.selectableCharacterCount
    liveConnectionCount := summary.liveConnectionCount }

theorem RealmSummary.fromProto_comp_toProto :
    RealmSummary.fromProto ∘ RealmSummary.toProto = id := rfl

namespace ServerMessage

def toProto (message : ServerMessage) : Proto.ServerMessage :=
  { kind := some <|
      match message with
      | .realmList realms => .realmList { realms := realms.map RealmSummary.toProto }
      | .realmSelected realmId => .realmSelected { realmId }
      | .error message => .error { message } }

/-- `TryFrom<proto::ServerMessage>`. -/
def tryFrom (message : Proto.ServerMessage) : Except Error ServerMessage :=
  match message.kind with
  | some (.realmList { realms }) => .ok (.realmList (realms.map RealmSummary.fromProto))
  | some (.realmSelected { realmId }) => .ok (.realmSelected realmId)
  | some (.error { message }) => .ok (.error message)
  | none => .error noKind

def protocol : Protocol ServerMessage Proto.ServerMessage :=
  ⟨⟨REALM_MESSAGE_TYPE, "server", "realm"⟩, toProto, tryFrom⟩

def intoEnvelope (prost : Prost Proto.ServerMessage) : ServerMessage → Envelope :=
  protocol.intoEnvelope prost

def fromEnvelope (prost : Prost Proto.ServerMessage) : Envelope → Except Error ServerMessage :=
  protocol.fromEnvelope prost

theorem tryFrom_toProto (message : ServerMessage) : tryFrom message.toProto = .ok message := by
  cases message with
  | realmList realms =>
      simp [toProto, tryFrom, List.map_map, RealmSummary.fromProto_comp_toProto]
  | realmSelected realmId | error message => rfl

end ServerMessage

end RealmProtocol

/-! ### Characters -/

namespace CharacterProtocol

def CHARACTER_MESSAGE_TYPE : UInt16 := 3

namespace Proto

structure ListCharacters where

structure ListCharacterOptions where

structure CreateCharacter where (name archetypeKey : String)

structure SelectCharacter where (characterId : String)

structure RequestTransfer where (characterId destinationRealmId : String)

structure DeleteCharacter where (characterId : String)

inductive ClientMessage.Kind where
  | listCharacters (message : ListCharacters)
  | createCharacter (message : CreateCharacter)
  | selectCharacter (message : SelectCharacter)
  | listCharacterOptions (message : ListCharacterOptions)
  | requestTransfer (message : RequestTransfer)
  | deleteCharacter (message : DeleteCharacter)

structure ClientMessage where
  kind : Option ClientMessage.Kind

structure ArchetypeOption where (key name description : String)

structure CharacterOptions where (archetypes : List ArchetypeOption)

structure CharacterSummary where (characterId name zoneId : String)

structure CharacterList where (characters : List CharacterSummary)

structure CharacterCreated where (characterId : String)

structure CharacterSelected where (characterId : String)

structure Error where (message : String)

structure TransferComplete where (characterId realmId : String)

structure CharacterDeleted where (characterId : String)

inductive ServerMessage.Kind where
  | characterList (message : CharacterList)
  | characterCreated (message : CharacterCreated)
  | characterSelected (message : CharacterSelected)
  | error (message : Error)
  | characterOptions (message : CharacterOptions)
  | transferComplete (message : TransferComplete)
  | characterDeleted (message : CharacterDeleted)

structure ServerMessage where
  kind : Option ServerMessage.Kind

end Proto

inductive ClientMessage where
  | listCharacters
  | createCharacter (name archetypeKey : String)
  | selectCharacter (characterId : String)
  | listCharacterOptions
  | requestTransfer (characterId destinationRealmId : String)
  | deleteCharacter (characterId : String)

structure CharacterSummary where (characterId name zoneId : String)

structure ArchetypeOption where (key name description : String)

inductive ServerMessage where
  | characterList (characters : List CharacterSummary)
  | characterCreated (characterId : String)
  | characterSelected (characterId : String)
  | error (message : String)
  | characterOptions (archetypes : List ArchetypeOption)
  | transferComplete (characterId realmId : String)
  | characterDeleted (characterId : String)

def noKind : Error := .new "server" "gateway character message has no kind set"

namespace ClientMessage

def toProto (message : ClientMessage) : Proto.ClientMessage :=
  { kind := some <|
      match message with
      | .listCharacters => .listCharacters {}
      | .createCharacter name archetypeKey => .createCharacter { name, archetypeKey }
      | .selectCharacter characterId => .selectCharacter { characterId }
      | .listCharacterOptions => .listCharacterOptions {}
      | .requestTransfer characterId destinationRealmId =>
          .requestTransfer { characterId, destinationRealmId }
      | .deleteCharacter characterId => .deleteCharacter { characterId } }

/-- `TryFrom<proto::ClientMessage>`. -/
def tryFrom (message : Proto.ClientMessage) : Except Error ClientMessage :=
  match message.kind with
  | some (.listCharacters {}) => .ok .listCharacters
  | some (.createCharacter { name, archetypeKey }) => .ok (.createCharacter name archetypeKey)
  | some (.selectCharacter { characterId }) => .ok (.selectCharacter characterId)
  | some (.listCharacterOptions {}) => .ok .listCharacterOptions
  | some (.requestTransfer { characterId, destinationRealmId }) =>
      .ok (.requestTransfer characterId destinationRealmId)
  | some (.deleteCharacter { characterId }) => .ok (.deleteCharacter characterId)
  | none => .error noKind

def protocol : Protocol ClientMessage Proto.ClientMessage :=
  ⟨⟨CHARACTER_MESSAGE_TYPE, "server", "character"⟩, toProto, tryFrom⟩

def intoEnvelope (prost : Prost Proto.ClientMessage) : ClientMessage → Envelope :=
  protocol.intoEnvelope prost

def fromEnvelope (prost : Prost Proto.ClientMessage) : Envelope → Except Error ClientMessage :=
  protocol.fromEnvelope prost

theorem tryFrom_toProto (message : ClientMessage) : tryFrom message.toProto = .ok message := by
  cases message <;> rfl

end ClientMessage

def CharacterSummary.toProto (summary : CharacterSummary) : Proto.CharacterSummary :=
  { characterId := summary.characterId, name := summary.name, zoneId := summary.zoneId }

def CharacterSummary.fromProto (summary : Proto.CharacterSummary) : CharacterSummary :=
  { characterId := summary.characterId, name := summary.name, zoneId := summary.zoneId }

def ArchetypeOption.toProto (option : ArchetypeOption) : Proto.ArchetypeOption :=
  { key := option.key, name := option.name, description := option.description }

def ArchetypeOption.fromProto (option : Proto.ArchetypeOption) : ArchetypeOption :=
  { key := option.key, name := option.name, description := option.description }

theorem CharacterSummary.fromProto_comp_toProto :
    CharacterSummary.fromProto ∘ CharacterSummary.toProto = id := rfl

theorem ArchetypeOption.fromProto_comp_toProto :
    ArchetypeOption.fromProto ∘ ArchetypeOption.toProto = id := rfl

namespace ServerMessage

def toProto (message : ServerMessage) : Proto.ServerMessage :=
  { kind := some <|
      match message with
      | .characterList characters =>
          .characterList { characters := characters.map CharacterSummary.toProto }
      | .characterCreated characterId => .characterCreated { characterId }
      | .characterSelected characterId => .characterSelected { characterId }
      | .error message => .error { message }
      | .characterOptions archetypes =>
          .characterOptions { archetypes := archetypes.map ArchetypeOption.toProto }
      | .transferComplete characterId realmId => .transferComplete { characterId, realmId }
      | .characterDeleted characterId => .characterDeleted { characterId } }

/-- `TryFrom<proto::ServerMessage>`. -/
def tryFrom (message : Proto.ServerMessage) : Except Error ServerMessage :=
  match message.kind with
  | some (.characterList { characters }) =>
      .ok (.characterList (characters.map CharacterSummary.fromProto))
  | some (.characterCreated { characterId }) => .ok (.characterCreated characterId)
  | some (.characterSelected { characterId }) => .ok (.characterSelected characterId)
  | some (.error { message }) => .ok (.error message)
  | some (.characterOptions { archetypes }) =>
      .ok (.characterOptions (archetypes.map ArchetypeOption.fromProto))
  | some (.transferComplete { characterId, realmId }) =>
      .ok (.transferComplete characterId realmId)
  | some (.characterDeleted { characterId }) => .ok (.characterDeleted characterId)
  | none => .error noKind

def protocol : Protocol ServerMessage Proto.ServerMessage :=
  ⟨⟨CHARACTER_MESSAGE_TYPE, "server", "character"⟩, toProto, tryFrom⟩

def intoEnvelope (prost : Prost Proto.ServerMessage) : ServerMessage → Envelope :=
  protocol.intoEnvelope prost

def fromEnvelope (prost : Prost Proto.ServerMessage) : Envelope → Except Error ServerMessage :=
  protocol.fromEnvelope prost

theorem tryFrom_toProto (message : ServerMessage) : tryFrom message.toProto = .ok message := by
  cases message with
  | characterList characters =>
      simp [toProto, tryFrom, List.map_map, CharacterSummary.fromProto_comp_toProto]
  | characterOptions archetypes =>
      simp [toProto, tryFrom, List.map_map, ArchetypeOption.fromProto_comp_toProto]
  | _ => rfl

end ServerMessage

end CharacterProtocol

end WorldZero.Server
