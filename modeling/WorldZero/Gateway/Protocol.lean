import WorldZero.Gateway.Envelope

/-!
# Protocols over the gateway

Every protocol of the gateway wraps the messages that `prost` generates in the same way:
an envelope of its own type carries the encoded message, and a decoder looks at the type,
decodes the payload and converts the message. What differs between two protocols is their
`Protocol`.
-/

namespace WorldZero.Gateway

/-- What `prost` generates for a message. -/
structure Prost (M : Type) where
  encodeToVec : M → Bytes
  decode : Bytes → Option M

/-- What is decoded from the encoding of the message is the message. -/
def Prost.Inverse {M : Type} (prost : Prost M) (message : M) : Prop :=
  prost.decode (prost.encodeToVec message) = some message

/-- How the envelopes of a protocol are told from others. -/
structure Format where
  messageType : UInt16
  /-- The crate that reports its errors. -/
  sourceCrate : String
  name : String

def Format.decode {P : Type} (format : Format) (read : Bytes → Option P) (envelope : Envelope) :
    Except Error P :=
  if envelope.messageType ≠ format.messageType then
    .error (.new format.sourceCrate
      s!"expected message_type {format.messageType} ({format.name}), got {envelope.messageType}")
  else
    match read envelope.payload with
    | some message => .ok message
    | none => .error (.wrap format.sourceCrate s!"failed to decode gateway {format.name} message")

namespace Format

variable {P : Type} {format : Format} {read : Bytes → Option P} {envelope : Envelope}

theorem decode_of_ne (other : envelope.messageType ≠ format.messageType) :
    format.decode read envelope = .error (.new format.sourceCrate
      s!"expected message_type {format.messageType} ({format.name}), got {envelope.messageType}") :=
  if_pos other

theorem decode_of_eq (same : envelope.messageType = format.messageType) :
    format.decode read envelope =
      match read envelope.payload with
      | some message => .ok message
      | none => .error (.wrap format.sourceCrate
          s!"failed to decode gateway {format.name} message") :=
  if_neg (not_not.mpr same)

end Format

/-- One direction of a protocol: the messages `M` and the generated messages `P`. -/
structure Protocol (M P : Type) extends Format where
  toProto : M → P
  tryFrom : P → Except Error M

namespace Protocol

variable {M P : Type} (p : Protocol M P) (prost : Prost P)

def encode (message : P) : Envelope :=
  { messageType := p.messageType, payload := prost.encodeToVec message }

def decode (envelope : Envelope) : Except Error P := p.toFormat.decode prost.decode envelope

def intoEnvelope (message : M) : Envelope := p.encode prost (p.toProto message)

def fromEnvelope (envelope : Envelope) : Except Error M := do
  p.tryFrom (← p.decode prost envelope)

variable {p prost} {envelope : Envelope} {message : M}

/-- An envelope of another type is rejected. -/
theorem fromEnvelope_of_ne (other : envelope.messageType ≠ p.messageType) :
    p.fromEnvelope prost envelope = .error (.new p.sourceCrate
      s!"expected message_type {p.messageType} ({p.name}), got {envelope.messageType}") := by
  rw [fromEnvelope, decode, Format.decode_of_ne other]
  rfl

/-- What is accepted has the protocol's type and a payload that decodes and converts. -/
theorem fromEnvelope_eq_ok :
    p.fromEnvelope prost envelope = .ok message ↔ envelope.messageType = p.messageType ∧
      ∃ m, prost.decode envelope.payload = some m ∧ p.tryFrom m = .ok message := by
  by_cases same : envelope.messageType = p.messageType
  · rw [fromEnvelope, decode, Format.decode_of_eq same]
    cases prost.decode envelope.payload with
    | none => simp [bind, Except.bind]
    | some m => simp [bind, Except.bind, same]
  · rw [fromEnvelope_of_ne same]
    exact iff_of_false (by simp) fun accepted => same accepted.1

/-- An envelope of another type is rejected, and so is one whose message does not convert. -/
theorem fromEnvelope_of_malformed (malformed : envelope.messageType ≠ p.messageType ∨
    ∃ m e, prost.decode envelope.payload = some m ∧ p.tryFrom m = .error e) :
    ∃ e, p.fromEnvelope prost envelope = .error e := by
  cases answered : p.fromEnvelope prost envelope with
  | error e => exact ⟨e, rfl⟩
  | ok message =>
      obtain ⟨same, m, read, converts⟩ := fromEnvelope_eq_ok.mp answered
      obtain other | ⟨m', e, read', fails⟩ := malformed
      · exact absurd same other
      · cases read.symm.trans read'
        cases converts.symm.trans fails

/-- A message survives its envelope. -/
theorem fromEnvelope_intoEnvelope (inverse : prost.Inverse (p.toProto message))
    (converts : p.tryFrom (p.toProto message) = .ok message) :
    p.fromEnvelope prost (p.intoEnvelope prost message) = .ok message :=
  fromEnvelope_eq_ok.mpr ⟨rfl, _, inverse, converts⟩

end Protocol

/-- `Id::from_str`, given the parser of UUIDs. -/
def parseId {Marker : Type} (parseUuid : String → Option Uuid) (text : String) :
    Option (Id Marker) := (parseUuid text).map .fromUuid

/-- The text form of a UUID, which identifiers of every domain share. -/
def uuidText (uuid : Uuid) : String := toString (Id.fromUuid uuid : Id Unit)

theorem parseId_toString {Marker : Type} {parseUuid : String → Option Uuid} {id : Id Marker}
    (back : parseUuid (uuidText id.uuid) = some id.uuid) :
    parseId parseUuid (toString id) = some id := by
  have text : toString id = uuidText id.uuid := rfl
  rw [parseId, text, back]
  rfl

end WorldZero.Gateway
