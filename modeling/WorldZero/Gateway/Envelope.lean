import WorldZero.Common
import WorldZero.Framing

/-!
# The message envelope and its framings

An envelope is a message type and a payload. Over UDP a datagram is one envelope; over
TCP each envelope is a frame of `tokio_util`'s `LengthDelimitedCodec`, which is a
parameter here: `LengthDelimitedCodec.Documented` says what is relied on.
-/

namespace WorldZero.Gateway

open Framing

abbrev Bytes := List UInt8

structure Envelope where
  messageType : UInt16
  payload : Bytes
  deriving DecidableEq

/-- `std::io::Error`, as far as it is reported. -/
structure IoError where
  kind : String
  message : String
  deriving DecidableEq

def IoError.other (e : Error) : IoError := ⟨"other", toString e⟩

namespace Envelope

def encodeTo (envelope : Envelope) (buf : Bytes) : Bytes :=
  buf ++ bigEndian 2 envelope.messageType.toNat ++ envelope.payload

def decodeFrom (buf : Bytes) : Except Error Envelope :=
  if buf.length < 2 then
    .error (.new "gateway" s!"envelope too short: {buf.length} bytes, need at least 2")
  else
    .ok { messageType := .ofNat (ofBigEndian (buf.take 2)), payload := buf.drop 2 }

theorem length_encodeTo (envelope : Envelope) :
    (envelope.encodeTo []).length = 2 + envelope.payload.length := by
  simp [encodeTo]

theorem decodeFrom_encodeTo (envelope : Envelope) :
    decodeFrom (envelope.encodeTo []) = .ok envelope := by
  have header : ofBigEndian (bigEndian 2 envelope.messageType.toNat) =
      envelope.messageType.toNat := ofBigEndian_bigEndian envelope.messageType.toNat_lt
  have long : ¬ (envelope.encodeTo []).length < 2 := by
    rw [length_encodeTo]
    omega
  simp only [decodeFrom, long, if_false]
  rw [encodeTo, List.nil_append, List.take_left' (by simp), List.drop_left' (by simp), header,
    UInt16.ofNat_toNat]

end Envelope

def encodeDatagram (envelope : Envelope) : Bytes := envelope.encodeTo []

def decodeDatagram (datagram : Bytes) : Except Error Envelope :=
  Envelope.decodeFrom datagram

/-! ### The stream codec -/

/-- The state of a codec, the one it is created with, and its two operations: `encode`
appends to the destination, `decode` takes from the source. -/
structure LengthDelimitedCodec (σ : Type) where
  new : σ
  encode : Bytes → Bytes → Except IoError Bytes
  decode : Decode σ UInt8 Bytes IoError

/-- A 4-byte big-endian length and the bytes themselves. -/
def frame (body : Bytes) : Bytes := bigEndian 4 body.length ++ body

/-- What the codec documents. `held` are the bytes that it has taken from the source and not
yet returned: the length of a frame of which not all bytes have arrived. -/
structure LengthDelimitedCodec.Documented {σ : Type} (codec : LengthDelimitedCodec σ)
    (maxFrameLength : Nat) (held : σ → Bytes) : Prop where
  length_field : maxFrameLength < 2 ^ 32
  fresh : held codec.new = []
  encodes : ∀ body dst, body.length ≤ maxFrameLength →
    codec.encode body dst = .ok (dst ++ frame body)
  refuses : ∀ body dst, maxFrameLength < body.length → ∃ e, codec.encode body dst = .error e
  /-- Too few bytes for the length, or for a frame of that length. -/
  waits : ∀ s src, (held s ++ src).length < 4 ∨
      (ofBigEndian ((held s ++ src).take 4) ≤ maxFrameLength ∧
        (held s ++ src).length < 4 + ofBigEndian ((held s ++ src).take 4)) →
    ∃ s' src', codec.decode s src = .ok (none, s', src') ∧ held s' ++ src' = held s ++ src
  returns : ∀ s src n, 4 + n ≤ (held s ++ src).length → n ≤ maxFrameLength →
    ofBigEndian ((held s ++ src).take 4) = n →
      ∃ s' src', codec.decode s src = .ok (some (((held s ++ src).drop 4).take n), s', src') ∧
        held s' ++ src' = ((held s ++ src).drop 4).drop n
  rejects : ∀ s src, 4 ≤ (held s ++ src).length →
    maxFrameLength < ofBigEndian ((held s ++ src).take 4) → ∃ e, codec.decode s src = .error e

namespace EnvelopeCodec

variable {σ : Type} (codec : LengthDelimitedCodec σ)

def decode : Decode σ UInt8 Envelope IoError :=
  fun s src =>
    match codec.decode s src with
    | .error e => .error e
    | .ok (some body, left) =>
        match Envelope.decodeFrom body with
        | .ok envelope => .ok (some envelope, left)
        | .error e => .error (.other e)
    | .ok (none, left) => .ok (none, left)

def encode (item : Envelope) (dst : Bytes) : Except IoError Bytes :=
  codec.encode (item.encodeTo []) dst

/-- One envelope after the other into one destination. -/
def encodeAll : List Envelope → Bytes → Except IoError Bytes
  | [], dst => .ok dst
  | item :: items, dst => do
      let dst ← encode codec item dst
      encodeAll items dst

end EnvelopeCodec

variable {σ : Type} {codec : LengthDelimitedCodec σ} {maxFrameLength : Nat} {held : σ → Bytes}

theorem length_frame (body : Bytes) : (frame body).length = 4 + body.length := by
  simp [frame]

theorem take_frame {body rest : Bytes} (fits : body.length < 2 ^ 32) :
    ofBigEndian ((frame body ++ rest).take 4) = body.length := by
  rw [frame, List.append_assoc, List.take_left' (by simp), ofBigEndian_bigEndian fits]

namespace LengthDelimitedCodec.Documented

/-- The documented behaviour inverts the framing. -/
theorem inverts (h : codec.Documented maxFrameLength held) :
    Inverts codec.decode frame (fun body => body.length ≤ maxFrameLength) held where
  whole body s src rest small stream := by
    have size : 4 + body.length ≤ (held s ++ src).length := by
      rw [stream, List.length_append, length_frame]
      omega
    have head : ofBigEndian ((held s ++ src).take 4) = body.length := by
      rw [stream, take_frame (Nat.lt_of_le_of_lt small h.length_field)]
    obtain ⟨s', src', decoded, left⟩ := h.returns s src body.length size small head
    have after_head : (held s ++ src).drop 4 = body ++ rest := by
      rw [stream, frame, List.append_assoc, List.drop_left' (by simp)]
    rw [after_head, List.take_left' rfl] at decoded
    rw [after_head, List.drop_left' rfl] at left
    exact ⟨s', src', decoded, left⟩
  part body s src more small open_end stream := by
    have total : (held s ++ src).length + more.length = 4 + body.length := by
      rw [← List.length_append, stream, length_frame]
    have missing : 0 < more.length := List.length_pos_iff.mpr open_end
    refine h.waits s src ?_
    by_cases short : (held s ++ src).length < 4
    · exact .inl short
    · have head : ofBigEndian ((held s ++ src).take 4) = body.length := by
        have there : (held s ++ src ++ more).take 4 = (held s ++ src).take 4 :=
          List.take_append_of_le_length (Nat.le_of_not_lt short)
        rw [← take_frame (Nat.lt_of_le_of_lt small h.length_field), List.append_nil, ← stream,
          there]
      exact .inr ⟨by omega, by omega⟩
  nothing s src empty := by
    obtain ⟨s', src', decoded, left⟩ := h.waits s src (.inl (by simp [empty]))
    exact ⟨s', src', decoded, left.trans empty⟩

end LengthDelimitedCodec.Documented

namespace EnvelopeCodec

theorem decode_eq : EnvelopeCodec.decode codec = codec.decode.andThen fun body =>
    match Envelope.decodeFrom body with
    | .ok envelope => .ok envelope
    | .error e => .error (IoError.other e) := by
  funext s src
  unfold EnvelopeCodec.decode Decode.andThen
  cases codec.decode s src with
  | error e => rfl
  | ok result =>
      obtain ⟨_ | body, left⟩ := result
      · rfl
      · simp only
        cases Envelope.decodeFrom body <;> rfl

/-- Both layers of framing agree. -/
theorem inverts (h : codec.Documented maxFrameLength held) :
    Inverts (EnvelopeCodec.decode codec) (fun item => frame (item.encodeTo []))
      (fun item => (item.encodeTo []).length ≤ maxFrameLength) held := by
  rw [decode_eq]
  exact h.inverts.andThen fun item _ => by rw [Envelope.decodeFrom_encodeTo]

theorem encodeAll_eq (h : codec.Documented maxFrameLength held) {items : List Envelope}
    (small : ∀ item ∈ items, (item.encodeTo []).length ≤ maxFrameLength) (dst : Bytes) :
    encodeAll codec items dst =
      .ok (dst ++ items.flatMap fun item => frame (item.encodeTo [])) := by
  induction items generalizing dst with
  | nil => simp [encodeAll]
  | cons item items ih =>
      have encoded := h.encodes (item.encodeTo []) dst (small item List.mem_cons_self)
      have rest := ih (fun item' h' => small item' (List.mem_cons_of_mem item h'))
        (dst ++ frame (item.encodeTo []))
      simp only [encodeAll, EnvelopeCodec.encode, encoded, bind, Except.bind, rest,
        List.flatMap_cons, List.append_assoc]

end EnvelopeCodec

/-- A stream of envelopes is delivered as it was sent, however it is cut, and a datagram holds
the envelope that was put into it. -/
theorem envelopes_delivered (h : codec.Documented maxFrameLength held) :
    (∀ items : List Envelope, (∀ item ∈ items, 2 + item.payload.length ≤ maxFrameLength) →
      ∃ output, EnvelopeCodec.encodeAll codec items [] = .ok output ∧
        ∀ chunks : List Bytes, chunks.flatten = output → ∀ fuel, items.length < fuel →
          ∃ s, feed (EnvelopeCodec.decode codec) fuel codec.new [] chunks = .ok (items, s, []) ∧
            held s = []) ∧
      (∀ item, decodeDatagram (encodeDatagram item) = .ok item) ∧
      ∀ datagram : Bytes, datagram.length < 2 → decodeDatagram datagram =
        .error (.new "gateway"
          s!"envelope too short: {datagram.length} bytes, need at least 2") := by
  refine ⟨fun items small => ?_, Envelope.decodeFrom_encodeTo, fun datagram short => if_pos short⟩
  have fits : ∀ item ∈ items, (item.encodeTo []).length ≤ maxFrameLength := fun item hi => by
    rw [Envelope.length_encodeTo]
    exact small item hi
  refine ⟨_, EnvelopeCodec.encodeAll_eq h fits [], fun chunks cut fuel enough => ?_⟩
  obtain ⟨s, left, fed, nothing_left⟩ :=
    (EnvelopeCodec.inverts h).feed_eq h.fresh fits enough (by simpa using cut)
  obtain ⟨nothing_held, rfl⟩ := List.append_eq_nil_iff.mp nothing_left
  exact ⟨s, fed, nothing_held⟩

/-! ### The codec of `tokio_util` -/

namespace Tokio

/-- The length of a frame is awaited, or its bytes are. -/
inductive DecodeState (maxFrameLength : Nat) where
  | head
  | data (n : Fin (maxFrameLength + 1))

variable {maxFrameLength : Nat}

def decodeData (n : Fin (maxFrameLength + 1)) (src : Bytes) :
    Except IoError (Option Bytes × DecodeState maxFrameLength × Bytes) :=
  if src.length < n then .ok (none, .data n, src)
  else .ok (some (src.take n), .head, src.drop n)

def lengthDelimited (maxFrameLength : Nat) : LengthDelimitedCodec (DecodeState maxFrameLength) where
  new := .head
  encode body dst :=
    if maxFrameLength < body.length then .error ⟨"invalid input", "frame size too big"⟩
    else .ok (dst ++ frame body)
  decode
    | .head, src =>
        if src.length < 4 then .ok (none, .head, src)
        else if small : ofBigEndian (src.take 4) ≤ maxFrameLength then
          decodeData ⟨ofBigEndian (src.take 4), Nat.lt_succ_of_le small⟩ (src.drop 4)
        else .error ⟨"invalid data", "frame size too big"⟩
    | .data n, src => decodeData n src

def heldHead : DecodeState maxFrameLength → Bytes
  | .head => []
  | .data n => bigEndian 4 n

/-- What is decoded depends on the length and the bytes behind it only, whether the length has
been taken from the source before or is taken now. -/
theorem decode_eq {s : DecodeState maxFrameLength} {src : Bytes} (fits : maxFrameLength < 2 ^ 32)
    (long : 4 ≤ (heldHead s ++ src).length)
    (small : ofBigEndian ((heldHead s ++ src).take 4) ≤ maxFrameLength) :
    (lengthDelimited maxFrameLength).decode s src =
      decodeData ⟨ofBigEndian ((heldHead s ++ src).take 4), Nat.lt_succ_of_le small⟩
        ((heldHead s ++ src).drop 4) := by
  cases s with
  | head =>
      have long' : ¬ src.length < 4 := Nat.not_lt.mpr long
      have small' : ofBigEndian (src.take 4) ≤ maxFrameLength := small
      simp only [lengthDelimited, long', if_false, small', dif_pos, heldHead, List.nil_append]
  | data n =>
      have size : (n : Nat) < 256 ^ 4 := by have := n.isLt; omega
      simp only [lengthDelimited, heldHead, List.take_left' (length_bigEndian 4 n),
        List.drop_left' (length_bigEndian 4 n), ofBigEndian_bigEndian size]

theorem documented (fits : maxFrameLength < 2 ^ 32) :
    (lengthDelimited maxFrameLength).Documented maxFrameLength heldHead where
  length_field := fits
  fresh := rfl
  encodes body dst small := if_neg (Nat.not_lt.mpr small)
  refuses body dst large := ⟨_, if_pos large⟩
  waits s src := by
    rintro (short | ⟨small, missing⟩)
    · cases s with
      | head => exact ⟨.head, src, if_pos short, rfl⟩
      | data n =>
          simp only [heldHead, List.length_append, length_bigEndian] at short
          omega
    · by_cases long : 4 ≤ (heldHead s ++ src).length
      · have drop : ((heldHead s ++ src).drop 4).length <
            ofBigEndian ((heldHead s ++ src).take 4) := by
          rw [List.length_drop]
          omega
        refine ⟨_, _, (decode_eq fits long small).trans (if_pos drop), ?_⟩
        have width : ((heldHead s ++ src).take 4).length = 4 := by
          rw [List.length_take]
          omega
        have head := bigEndian_ofBigEndian ((heldHead s ++ src).take 4)
        rw [width] at head
        exact (congrArg (· ++ _) head).trans (List.take_append_drop 4 _)
      · cases s with
        | head => exact ⟨.head, src, if_pos (Nat.lt_of_not_le long), rfl⟩
        | data n => simp [heldHead] at long
  returns s src n long small head := by
    subst head
    have enough : ¬ ((heldHead s ++ src).drop 4).length <
        ofBigEndian ((heldHead s ++ src).take 4) := by
      rw [List.length_drop]
      omega
    exact ⟨.head, _, (decode_eq fits (by omega) small).trans (if_neg enough), rfl⟩
  rejects s src long large := by
    cases s with
    | head =>
        exact ⟨_, (if_neg (Nat.not_lt.mpr long)).trans (dif_neg (Nat.not_le.mpr large))⟩
    | data n =>
        have size : (n : Nat) < 256 ^ 4 := by have := n.isLt; omega
        simp only [heldHead, List.take_left' (length_bigEndian 4 n),
          ofBigEndian_bigEndian size] at large
        exact absurd n.isLt (by omega)

/-- Two envelopes, the second without a payload, cut within a length, a header and a frame. -/
theorem two_envelopes_in_three_chunks :
    ∃ s, feed (EnvelopeCodec.decode (lengthDelimited (8 * 1024 * 1024))) 3 .head []
        [[0, 0, 0], [3, 0], [9, 42, 0, 0, 0, 2, 0, 1]] =
      .ok ([⟨9, [42]⟩, ⟨1, []⟩], s, []) ∧ heldHead s = [] := by
  obtain ⟨output, encoded, delivered⟩ :=
    (envelopes_delivered (documented (by decide : 8 * 1024 * 1024 < 2 ^ 32))).1
      [⟨9, [42]⟩, ⟨1, []⟩] (by decide)
  exact delivered _ (Except.ok.inj (.trans (by decide) encoded)) 3 (by decide)

end Tokio

end WorldZero.Gateway
