import WorldZero.Gateway.Protocol

/-!
# The authentication protocol

The handshake of a connection (`proto/auth.proto`): a client registers, logs in or resumes
a session, and is told which account it is.
-/

namespace WorldZero.Auth.GatewayProtocol

open Gateway

def AUTH_MESSAGE_TYPE : UInt16 := 1

namespace Proto

structure Register where (username password : String)

structure Login where (username password : String)

structure Resume where (sessionToken : String)

inductive ClientMessage.Kind where
  | register (message : Register)
  | login (message : Login)
  | resume (message : Resume)

structure ClientMessage where
  kind : Option ClientMessage.Kind

structure Authenticated where
  (accountId username sessionToken : String)
  roles : List String

structure Error where (message : String)

inductive ServerMessage.Kind where
  | authenticated (message : Authenticated)
  | error (message : Error)

structure ServerMessage where
  kind : Option ServerMessage.Kind

end Proto

inductive ClientMessage where
  | register (username password : String)
  | login (username password : String)
  | resume (sessionToken : String)

inductive ServerMessage where
  | authenticated (accountId : AccountId) (username sessionToken : String) (roles : List String)
  | error (message : String)

def noKind : Error := .new "auth" "gateway auth message has no kind set"

namespace ClientMessage

def toProto (message : ClientMessage) : Proto.ClientMessage :=
  { kind := some <|
      match message with
      | .register username password => .register { username, password }
      | .login username password => .login { username, password }
      | .resume sessionToken => .resume { sessionToken } }

/-- `TryFrom<proto::ClientMessage>`. -/
def tryFrom (message : Proto.ClientMessage) : Except Error ClientMessage :=
  match message.kind with
  | some (.register { username, password }) => .ok (.register username password)
  | some (.login { username, password }) => .ok (.login username password)
  | some (.resume { sessionToken }) => .ok (.resume sessionToken)
  | none => .error noKind

def protocol : Protocol ClientMessage Proto.ClientMessage :=
  ⟨⟨AUTH_MESSAGE_TYPE, "auth", "auth"⟩, toProto, tryFrom⟩

def intoEnvelope (prost : Prost Proto.ClientMessage) : ClientMessage → Envelope :=
  protocol.intoEnvelope prost

def fromEnvelope (prost : Prost Proto.ClientMessage) : Envelope → Except Error ClientMessage :=
  protocol.fromEnvelope prost

theorem tryFrom_toProto (message : ClientMessage) : tryFrom message.toProto = .ok message := by
  cases message <;> rfl

end ClientMessage

namespace ServerMessage

def toProto (message : ServerMessage) : Proto.ServerMessage :=
  { kind := some <|
      match message with
      | .authenticated accountId username sessionToken roles =>
          .authenticated { accountId := toString accountId, username, sessionToken, roles }
      | .error message => .error { message } }

section

variable (parseUuid : String → Option Uuid)

/-- `TryFrom<proto::ServerMessage>`. -/
def tryFrom (message : Proto.ServerMessage) : Except Error ServerMessage :=
  match message.kind with
  | some (.authenticated { accountId, username, sessionToken, roles }) =>
      match parseId parseUuid accountId with
      | some accountId => .ok (.authenticated accountId username sessionToken roles)
      | none => .error (.wrap "auth" "invalid account_id in wire message")
  | some (.error { message }) => .ok (.error message)
  | none => .error noKind

def protocol : Protocol ServerMessage Proto.ServerMessage :=
  ⟨⟨AUTH_MESSAGE_TYPE, "auth", "auth"⟩, toProto, tryFrom parseUuid⟩

def intoEnvelope (prost : Prost Proto.ServerMessage) : ServerMessage → Envelope :=
  (protocol parseUuid).intoEnvelope prost

def fromEnvelope (prost : Prost Proto.ServerMessage) : Envelope → Except Error ServerMessage :=
  (protocol parseUuid).fromEnvelope prost

end

/-- The identifiers that the message carries as text. -/
def uuids : ServerMessage → List Uuid
  | .authenticated accountId .. => [accountId.uuid]
  | .error _ => []

theorem tryFrom_toProto {parseUuid : String → Option Uuid} {message : ServerMessage}
    (back : ∀ u ∈ message.uuids, parseUuid (uuidText u) = some u) :
    tryFrom parseUuid message.toProto = .ok message := by
  cases message with
  | authenticated accountId username sessionToken roles =>
      simp only [toProto, tryFrom, parseId_toString (back _ List.mem_cons_self)]
  | error message => rfl

end ServerMessage

end WorldZero.Auth.GatewayProtocol
