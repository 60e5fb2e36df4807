import WorldZero.Auth.GatewayProtocol
import WorldZero.Server.ChatRequests
import WorldZero.Server.SelectionProtocols

/-!
# The handshake and chat protocols

The four protocols besides that of the session, in both directions. A message survives its
envelope, the decoders of the other protocols reject it, and the reader that looks for the
body of a `Send` alone agrees with the one that reads the whole message.
-/

namespace WorldZero.Server.ProtocolRoundTrips

open Gateway Auth

/-! ### Chat, in full -/

namespace ChatProtocol

open Chat.GatewayProtocol (ClientMessage)
open ChatRequests (ServerMessage)

namespace Proto

inductive ServerMessage.Kind where
  | joined (channelId channel : String)
  | left (channel : String)
  | chat (channelId channel sender body : String)
  | error (message : String)

structure ServerMessage where
  kind : Option ServerMessage.Kind

end Proto

def noKind : Error := .new "chat" "gateway chat message has no kind set"

def clientToProto (message : ClientMessage) : Chat.GatewayProtocol.Proto.ClientMessage :=
  { kind := some <|
      match message with
      | .join channel => .join channel
      | .leave channel => .leave channel
      | .send channelId body => .send (toString channelId) body }

def serverToProto (message : ServerMessage) : Proto.ServerMessage :=
  { kind := some <|
      match message with
      | .joined channelId channel => .joined (toString channelId) channel
      | .left channel => .left channel
      | .chat channelId channel sender body => .chat (toString channelId) channel sender body
      | .error message => .error message }

section

variable (parseUuid : String → Option Uuid)

/-- `TryFrom<proto::ServerMessage>`. -/
def serverTryFrom (message : Proto.ServerMessage) : Except Error ServerMessage :=
  match message.kind with
  | some (.joined channelId channel) =>
      match parseId parseUuid channelId with
      | some channelId => .ok (.joined channelId channel)
      | none => .error (.wrap "chat" "invalid channel_id in wire message")
  | some (.left channel) => .ok (.left channel)
  | some (.chat channelId channel sender body) =>
      match parseId parseUuid channelId with
      | some channelId => .ok (.chat channelId channel sender body)
      | none => .error (.wrap "chat" "invalid channel_id in wire message")
  | some (.error message) => .ok (.error message)
  | none => .error noKind

def clientProtocol : Protocol ClientMessage Chat.GatewayProtocol.Proto.ClientMessage :=
  ⟨Chat.GatewayProtocol.format, clientToProto, ClientMessage.tryFrom (parseId parseUuid)⟩

def serverProtocol : Protocol ServerMessage Proto.ServerMessage :=
  ⟨Chat.GatewayProtocol.format, serverToProto, serverTryFrom parseUuid⟩

end

def clientUuids : ClientMessage → List Uuid
  | .send channelId _ => [channelId.uuid]
  | _ => []

def serverUuids : ServerMessage → List Uuid
  | .joined channelId _ | .chat channelId .. => [channelId.uuid]
  | _ => []

variable {parseUuid : String → Option Uuid}

theorem tryFrom_clientToProto {message : ClientMessage}
    (back : ∀ u ∈ clientUuids message, parseUuid (uuidText u) = some u) :
    ClientMessage.tryFrom (parseId parseUuid) (clientToProto message) = .ok message := by
  cases message with
  | join channel | leave channel => rfl
  | send channelId body =>
      simp only [clientToProto, ClientMessage.tryFrom,
        parseId_toString (back _ List.mem_cons_self)]

theorem tryFrom_serverToProto {message : ServerMessage}
    (back : ∀ u ∈ serverUuids message, parseUuid (uuidText u) = some u) :
    serverTryFrom parseUuid (serverToProto message) = .ok message := by
  cases message with
  | left channel | error message => rfl
  | joined channelId channel =>
      simp only [serverToProto, serverTryFrom, parseId_toString (back _ List.mem_cons_self)]
  | chat channelId channel sender body =>
      simp only [serverToProto, serverTryFrom, parseId_toString (back _ List.mem_cons_self)]

/-- The decoder of the chat is that of its protocol. -/
theorem fromEnvelope_eq {prost : Prost Chat.GatewayProtocol.Proto.ClientMessage}
    {envelope : Envelope} :
    ClientMessage.fromEnvelope prost.decode (parseId parseUuid) envelope =
      (clientProtocol parseUuid).fromEnvelope prost envelope := rfl

/-- The body of a `Send`. -/
def sendBody : ClientMessage → Option String
  | .send _ body => some body
  | .join _ | .leave _ => none

/-- The second reader finds the body of a `Send` and nothing else. -/
theorem peekSendBody_of_fromEnvelope {prost : Prost Chat.GatewayProtocol.Proto.ClientMessage}
    {envelope : Envelope} {message : ClientMessage}
    (decoded : ClientMessage.fromEnvelope prost.decode (parseId parseUuid) envelope =
      .ok message) :
    ClientMessage.peekSendBody prost.decode envelope = .ok (sendBody message) := by
  rw [ClientMessage.fromEnvelope] at decoded
  obtain ⟨⟨kind⟩, read, converts⟩ := Validation.bind_ok.mp decoded
  rw [ClientMessage.peekSendBody, read]
  rcases kind with _ | ⟨channel | channel | ⟨channelId, body⟩⟩
  · cases converts
  · cases converts
    rfl
  · cases converts
    rfl
  · simp only [ClientMessage.tryFrom] at converts
    split at converts <;> cases converts
    rfl

end ChatProtocol

/-! ### The four protocols -/

inductive Name where
  | auth
  | realm
  | character
  | chat
  deriving DecidableEq

/-- Who sends the message. -/
inductive Direction where
  | client
  | server

def Message : Name → Direction → Type
  | .auth, .client => GatewayProtocol.ClientMessage
  | .auth, .server => GatewayProtocol.ServerMessage
  | .realm, .client => RealmProtocol.ClientMessage
  | .realm, .server => RealmProtocol.ServerMessage
  | .character, .client => CharacterProtocol.ClientMessage
  | .character, .server => CharacterProtocol.ServerMessage
  | .chat, .client => Chat.GatewayProtocol.ClientMessage
  | .chat, .server => ChatRequests.ServerMessage

/-- The generated messages. -/
def Generated : Name → Direction → Type
  | .auth, .client => GatewayProtocol.Proto.ClientMessage
  | .auth, .server => GatewayProtocol.Proto.ServerMessage
  | .realm, .client => RealmProtocol.Proto.ClientMessage
  | .realm, .server => RealmProtocol.Proto.ServerMessage
  | .character, .client => CharacterProtocol.Proto.ClientMessage
  | .character, .server => CharacterProtocol.Proto.ServerMessage
  | .chat, .client => Chat.GatewayProtocol.Proto.ClientMessage
  | .chat, .server => ChatProtocol.Proto.ServerMessage

def protocol (parseUuid : String → Option Uuid) :
    ∀ name direction, Protocol (Message name direction) (Generated name direction)
  | .auth, .client => GatewayProtocol.ClientMessage.protocol
  | .auth, .server => GatewayProtocol.ServerMessage.protocol parseUuid
  | .realm, .client => RealmProtocol.ClientMessage.protocol
  | .realm, .server => RealmProtocol.ServerMessage.protocol
  | .character, .client => CharacterProtocol.ClientMessage.protocol
  | .character, .server => CharacterProtocol.ServerMessage.protocol
  | .chat, .client => ChatProtocol.clientProtocol parseUuid
  | .chat, .server => ChatProtocol.serverProtocol parseUuid

/-- The identifiers that a message carries as text. -/
def uuids : ∀ {name direction}, Message name direction → List Uuid
  | .auth, .server, message => GatewayProtocol.ServerMessage.uuids message
  | .chat, .client, message => ChatProtocol.clientUuids message
  | .chat, .server, message => ChatProtocol.serverUuids message
  | .auth, .client, _ | .realm, _, _ | .character, _, _ => []

variable {parseUuid : String → Option Uuid} {name other : Name} {direction opposite : Direction}

/-- The two conversions are inverse, in every protocol. -/
theorem tryFrom_toProto {message : Message name direction}
    (back : ∀ u ∈ uuids message, parseUuid (uuidText u) = some u) :
    (protocol parseUuid name direction).tryFrom
      ((protocol parseUuid name direction).toProto message) = .ok message := by
  cases name with
  | auth =>
      cases direction with
      | client => exact GatewayProtocol.ClientMessage.tryFrom_toProto message
      | server => exact GatewayProtocol.ServerMessage.tryFrom_toProto back
  | realm =>
      cases direction with
      | client => exact RealmProtocol.ClientMessage.tryFrom_toProto message
      | server => exact RealmProtocol.ServerMessage.tryFrom_toProto message
  | character =>
      cases direction with
      | client => exact CharacterProtocol.ClientMessage.tryFrom_toProto message
      | server => exact CharacterProtocol.ServerMessage.tryFrom_toProto message
  | chat =>
      cases direction with
      | client => exact ChatProtocol.tryFrom_clientToProto back
      | server => exact ChatProtocol.tryFrom_serverToProto back

def Name.messageType : Name → UInt16
  | .auth => 1
  | .realm => 2
  | .character => 3
  | .chat => 100

theorem messageType_protocol :
    (protocol parseUuid name direction).messageType = name.messageType := by
  cases name <;> cases direction <;> rfl

/-- The type of an envelope tells the protocols apart. -/
theorem messageType_ne (different : name ≠ other) :
    (protocol parseUuid name direction).messageType ≠
      (protocol parseUuid other opposite).messageType := by
  rw [messageType_protocol, messageType_protocol]
  revert different
  cases name <;> cases other <;> decide

/-- A message survives its envelope, given that `prost` decodes what it has encoded and that a
UUID is parsed from its text form; the other protocols reject the envelope; and of the chat's
envelopes the second reader finds the body of each `Send`, and no body in a `Join` or `Leave`. -/
theorem gateway_protocols (parseUuid : String → Option Uuid)
    (prost : ∀ name direction, Prost (Generated name direction)) :
    (∀ name direction (message : Message name direction),
      (prost name direction).Inverse ((protocol parseUuid name direction).toProto message) →
      (∀ u ∈ uuids message, parseUuid (uuidText u) = some u) →
        (protocol parseUuid name direction).fromEnvelope (prost name direction)
          ((protocol parseUuid name direction).intoEnvelope (prost name direction) message) =
            .ok message) ∧
    (∀ name direction other opposite (message : Message name direction), name ≠ other →
      ∃ e, (protocol parseUuid other opposite).fromEnvelope (prost other opposite)
        ((protocol parseUuid name direction).intoEnvelope (prost name direction) message) =
          .error e) ∧
    ∀ envelope message,
      (protocol parseUuid .chat .client).fromEnvelope (prost .chat .client) envelope =
        .ok message →
      Chat.GatewayProtocol.ClientMessage.peekSendBody (prost .chat .client).decode envelope =
        .ok (ChatProtocol.sendBody message) := by
  refine ⟨fun name direction message inverse back => ?_,
    fun name direction other opposite message different => ?_, fun envelope message decoded => ?_⟩
  · exact Protocol.fromEnvelope_intoEnvelope inverse (tryFrom_toProto back)
  · exact ⟨_, Protocol.fromEnvelope_of_ne (messageType_ne different)⟩
  · exact ChatProtocol.peekSendBody_of_fromEnvelope
      (ChatProtocol.fromEnvelope_eq.trans decoded)

namespace Greeting

def channel : ChannelId := ⟨7⟩

def parseSeven (text : String) : Option Uuid := if text = uuidText 7 then some 7 else none

/-- A field that is a string of less than 128 bytes; an empty one is left out. -/
def field (key : UInt8) (text : String) : Bytes :=
  let bytes := text.toUTF8.toList
  if bytes.isEmpty then [] else key :: UInt8.ofNat bytes.length :: bytes

/-- Field 3 of the message, with the channel as its field 1 and the body as its field 2. -/
def payload (channelId body : String) : Bytes :=
  let send := field 0x0A channelId ++ field 0x12 body
  0x1A :: UInt8.ofNat send.length :: send

/-- The encoding of a `Send`, and the decoding of this one. -/
def prost : ∀ name direction, Prost (Generated name direction)
  | .chat, .client => {
      encodeToVec
        | ⟨some (.send channelId body)⟩ => payload channelId body
        | _ => []
      decode bytes :=
        if bytes = payload (uuidText 7) "hello" then some ⟨some (.send (uuidText 7) "hello")⟩
        else none }
  | _, _ => ⟨fun _ => [], fun _ => none⟩

def envelope : Envelope :=
  (protocol parseSeven .chat .client).intoEnvelope (prost .chat .client) (.send channel "hello")

theorem hello_survives :
    (protocol parseSeven .chat .client).fromEnvelope (prost .chat .client) envelope =
        .ok (.send channel "hello") ∧
      (∃ e, (protocol parseSeven .realm .server).fromEnvelope (prost .realm .server) envelope =
        .error e) ∧
      Chat.GatewayProtocol.ClientMessage.peekSendBody (prost .chat .client).decode envelope =
        .ok (some "hello") := by
  obtain ⟨round, rejected, body⟩ := gateway_protocols parseSeven prost
  have parsed : ∀ u ∈ ChatProtocol.clientUuids (.send channel "hello"),
      parseSeven (uuidText u) = some u := by
    intro u here
    obtain rfl := List.mem_singleton.mp here
    exact if_pos rfl
  have survives := round .chat .client (.send channel "hello") (if_pos rfl) parsed
  exact ⟨survives, rejected .chat .client .realm .server (.send channel "hello") (by decide),
    body envelope (.send channel "hello") survives⟩

end Greeting

end WorldZero.Server.ProtocolRoundTrips
