import WorldZero.Gateway.Protocol

/-!
# The chat protocol

What a client may say to the chat (`proto/chat.proto`), and the two ways of reading an
envelope of it: in full, and the body of a `Send` alone. The deserializer that `prost`
generates and the parser of identifiers are parameters.
-/

namespace WorldZero.Chat.GatewayProtocol

open Gateway

def CHAT_MESSAGE_TYPE : UInt16 := 100

def format : Format := ⟨CHAT_MESSAGE_TYPE, "chat", "chat"⟩

inductive ClientMessage where
  | join (channel : String)
  | leave (channel : String)
  | send (channelId : ChannelId) (body : String)
  deriving DecidableEq

namespace Proto

inductive ClientMessage.Kind where
  | join (channel : String)
  | leave (channel : String)
  | send (channelId body : String)
  deriving DecidableEq

structure ClientMessage where
  kind : Option ClientMessage.Kind
  deriving DecidableEq

end Proto

section

variable (prost : Bytes → Option Proto.ClientMessage) (parse : String → Option ChannelId)
  (envelope : Envelope)

def decode : Except Error Proto.ClientMessage := format.decode prost envelope

/-- `TryFrom<proto::ClientMessage>`. -/
def ClientMessage.tryFrom (message : Proto.ClientMessage) : Except Error ClientMessage :=
  match message.kind with
  | some (.join channel) => .ok (.join channel)
  | some (.leave channel) => .ok (.leave channel)
  | some (.send channelId body) =>
      match parse channelId with
      | some channelId => .ok (.send channelId body)
      | none => .error (.wrap "chat" "invalid channel_id in wire message")
  | none => .error (.new "chat" "gateway chat message has no kind set")

def ClientMessage.fromEnvelope : Except Error ClientMessage := do
  ClientMessage.tryFrom parse (← decode prost envelope)

/-- The body of a `Send`, whether or not its channel is a well-formed identifier. -/
def ClientMessage.peekSendBody : Except Error (Option String) := do
  match (← decode prost envelope).kind with
  | some (.send _ body) => .ok (some body)
  | _ => .ok none

/-- The envelope is a `Send` with the body. -/
def IsSend (body : String) : Prop :=
  envelope.messageType = CHAT_MESSAGE_TYPE ∧
    ∃ channelId, prost envelope.payload = some ⟨some (.send channelId body)⟩

variable {prost parse envelope}

theorem peekSendBody_eq_some {body : String} :
    ClientMessage.peekSendBody prost envelope = .ok (some body) ↔ IsSend prost envelope body := by
  rw [IsSend, ClientMessage.peekSendBody, decode]
  by_cases chat : envelope.messageType = CHAT_MESSAGE_TYPE
  · have type : envelope.messageType = format.messageType := chat
    rw [Format.decode_of_eq type]
    cases prost envelope.payload with
    | none => simp [bind, Except.bind]
    | some message =>
        obtain ⟨kind⟩ := message
        rcases kind with _ | ⟨_ | _ | _⟩ <;> simp [bind, Except.bind, chat]
  · have type : envelope.messageType ≠ format.messageType := chat
    rw [Format.decode_of_ne type]
    simp [bind, Except.bind, chat]

end

end WorldZero.Chat.GatewayProtocol
