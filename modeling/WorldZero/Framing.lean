import Mathlib.Algebra.Group.Nat.Defs
import Mathlib.Data.List.Induction
import Mathlib.Tactic.TypeStar

/-!
# Incremental decoding of a byte stream

A decoder is called with the bytes buffered so far and returns an item, or `none` when
it needs more. It may keep part of an item in its own state, so a specification speaks
of the bytes received and not yet delivered. `Inverts` is the contract of one call;
`feed_eq` is what it gives for a whole stream, however the stream is cut.

Big-endian numbers of a fixed width are here as well, for length prefixes and headers.
-/

namespace Framing

/-! ### Big-endian numbers -/

def bigEndian : Nat → Nat → List UInt8
  | 0, _ => []
  | width + 1, n => bigEndian width (n / 256) ++ [UInt8.ofNat n]

def ofBigEndian (bytes : List UInt8) : Nat := bytes.foldl (fun n b => n * 256 + b.toNat) 0

@[simp] theorem length_bigEndian (width n : Nat) : (bigEndian width n).length = width := by
  induction width generalizing n with
  | zero => rfl
  | succ width ih => simp [bigEndian, ih]

theorem ofBigEndian_concat (bytes : List UInt8) (b : UInt8) :
    ofBigEndian (bytes ++ [b]) = ofBigEndian bytes * 256 + b.toNat := by
  simp [ofBigEndian]

theorem ofBigEndian_bigEndian {width n : Nat} (fits : n < 256 ^ width) :
    ofBigEndian (bigEndian width n) = n := by
  induction width generalizing n with
  | zero =>
      have : n = 0 := by simpa using fits
      subst this
      rfl
  | succ width ih =>
      have high : n / 256 < 256 ^ width := by
        rw [Nat.div_lt_iff_lt_mul (by decide)]
        rwa [Nat.pow_succ] at fits
      rw [bigEndian, ofBigEndian_concat, ih high, UInt8.toNat_ofNat']
      omega

theorem bigEndian_ofBigEndian (bytes : List UInt8) :
    bigEndian bytes.length (ofBigEndian bytes) = bytes := by
  induction bytes using List.reverseRecOn with
  | nil => rfl
  | append_singleton bytes b ih =>
      have byte : b.toNat < 256 := b.toNat_lt
      have high : (ofBigEndian bytes * 256 + b.toNat) / 256 = ofBigEndian bytes := by omega
      have low : UInt8.ofNat (ofBigEndian bytes * 256 + b.toNat) = b := by
        apply UInt8.toNat_inj.mp
        rw [UInt8.toNat_ofNat']
        omega
      rw [List.length_append, List.length_singleton, bigEndian, ofBigEndian_concat, high, low, ih]

/-! ### Decoders -/

variable {σ β α γ ε : Type*}

/-- The item, if one is complete, with the state and the buffer that remain. -/
abbrev Decode (σ β α ε : Type*) := σ → List β → Except ε (Option α × σ × List β)

/-- Call the decoder until it needs more, at most `fuel` times. -/
def drain (decode : Decode σ β α ε) : Nat → σ → List β → Except ε (List α × σ × List β)
  | 0, s, buffer => .ok ([], s, buffer)
  | fuel + 1, s, buffer =>
      match decode s buffer with
      | .error e => .error e
      | .ok (none, s, buffer) => .ok ([], s, buffer)
      | .ok (some item, s, buffer) =>
          (drain decode fuel s buffer).map fun (items, left) => (item :: items, left)

/-- Buffer one chunk after the other, and drain the decoder after each. -/
def feed (decode : Decode σ β α ε) (fuel : Nat) :
    σ → List β → List (List β) → Except ε (List α × σ × List β)
  | s, buffer, [] => .ok ([], s, buffer)
  | s, buffer, chunk :: chunks =>
      match drain decode fuel s (buffer ++ chunk) with
      | .error e => .error e
      | .ok (items, s, buffer) =>
          (feed decode fuel s buffer chunks).map fun (rest, left) => (items ++ rest, left)

/-- One call delivers the item whose encoding comes first in the bytes received and not yet
delivered, and nothing while that encoding is incomplete. `held` is the part of these bytes
that the state stands for. -/
structure Inverts (decode : Decode σ β α ε) (encode : α → List β) (fits : α → Prop)
    (held : σ → List β) : Prop where
  whole : ∀ a s buffer rest, fits a → held s ++ buffer = encode a ++ rest →
    ∃ s' buffer', decode s buffer = .ok (some a, s', buffer') ∧ held s' ++ buffer' = rest
  part : ∀ a s buffer more, fits a → more ≠ [] → held s ++ buffer ++ more = encode a →
    ∃ s' buffer', decode s buffer = .ok (none, s', buffer') ∧
      held s' ++ buffer' = held s ++ buffer
  nothing : ∀ s buffer, held s ++ buffer = [] →
    ∃ s' buffer', decode s buffer = .ok (none, s', buffer') ∧ held s' ++ buffer' = []

/-- Interpret every item of a decoder, which may fail. -/
def Decode.andThen (decode : Decode σ β α ε) (interpret : α → Except ε γ) : Decode σ β γ ε :=
  fun s buffer =>
    match decode s buffer with
    | .error e => .error e
    | .ok (none, left) => .ok (none, left)
    | .ok (some a, left) => (interpret a).map fun c => (some c, left)

variable {decode : Decode σ β α ε} {encode : α → List β} {fits : α → Prop} {held : σ → List β}
  {s : σ} {buffer : List β}

namespace Inverts

theorem andThen (h : Inverts decode encode fits held) {interpret : α → Except ε γ}
    {represent : γ → α} (inverse : ∀ c, fits (represent c) → interpret (represent c) = .ok c) :
    Inverts (decode.andThen interpret) (fun c => encode (represent c))
      (fun c => fits (represent c)) held where
  whole c s buffer rest small stream := by
    obtain ⟨s', buffer', decoded, left⟩ := h.whole (represent c) s buffer rest small stream
    exact ⟨s', buffer', by simp [Decode.andThen, decoded, inverse c small, Except.map], left⟩
  part c s buffer more small open_end stream := by
    obtain ⟨s', buffer', decoded, left⟩ := h.part (represent c) s buffer more small open_end stream
    exact ⟨s', buffer', by simp [Decode.andThen, decoded], left⟩
  nothing s buffer empty := by
    obtain ⟨s', buffer', decoded, left⟩ := h.nothing s buffer empty
    exact ⟨s', buffer', by simp [Decode.andThen, decoded], left⟩

/-- An encoding is not empty, as nothing is delivered from nothing. -/
theorem encode_ne_nil (h : Inverts decode encode fits held) (start : held s = []) {a : α}
    (small : fits a) : encode a ≠ [] := by
  intro empty
  obtain ⟨_, _, delivered, _⟩ := h.whole a s [] [] small (by simp [start, empty])
  obtain ⟨_, _, silent, _⟩ := h.nothing s [] (by simp [start])
  rw [delivered] at silent
  cases silent

/-- Draining delivers a front part of the items; what it leaves is the rest of the stream, and
nothing remains when the stream is at its end. -/
theorem drain_eq (h : Inverts decode encode fits held) {items : List α}
    (small : ∀ a ∈ items, fits a) {later : List β} {fuel : Nat} (enough : items.length < fuel)
    (stream : held s ++ buffer ++ later = items.flatMap encode) :
    ∃ front back s' buffer', items = front ++ back ∧
      drain decode fuel s buffer = .ok (front, s', buffer') ∧
      held s' ++ buffer' ++ later = back.flatMap encode ∧ (later = [] → back = []) := by
  induction items generalizing s buffer fuel with
  | nil =>
      obtain ⟨empty, rfl⟩ := List.append_eq_nil_iff.mp stream
      obtain ⟨s', buffer', decoded, left⟩ := h.nothing s buffer empty
      obtain ⟨fuel, rfl⟩ := Nat.exists_eq_succ_of_ne_zero (Nat.ne_zero_of_lt enough)
      exact ⟨[], [], s', buffer', rfl, by simp [drain, decoded], by simp [left], fun _ => rfl⟩
  | cons a items ih =>
      obtain ⟨fuel, rfl⟩ := Nat.exists_eq_succ_of_ne_zero (Nat.ne_zero_of_lt enough)
      rw [List.flatMap_cons] at stream
      obtain ⟨more, whole, rest⟩ | ⟨rest, received, later_eq⟩ :=
        List.append_eq_append_iff.mp stream
      -- the first encoding ends in what is still to come, or it is there
      · by_cases open_end : more = []
        · subst open_end
          rw [List.append_nil] at whole
          obtain ⟨s', buffer', decoded, left⟩ :=
            h.whole a s buffer [] (small a List.mem_cons_self) (by simp [whole])
          have stream' : held s' ++ buffer' ++ later = items.flatMap encode := by
            simpa [left] using rest
          obtain ⟨front, back, s'', buffer'', split, drained, left', done⟩ :=
            ih (fun b hb => small b (List.mem_cons_of_mem a hb)) (Nat.lt_of_succ_lt_succ enough)
              stream'
          exact ⟨a :: front, back, s'', buffer'', by simp [split],
            by simp [drain, decoded, drained, Except.map], left', done⟩
        · obtain ⟨s', buffer', decoded, left⟩ :=
            h.part a s buffer more (small a List.mem_cons_self) open_end whole.symm
          refine ⟨[], a :: items, s', buffer', rfl, by simp [drain, decoded], ?_, ?_⟩
          · rw [left, stream, List.flatMap_cons]
          · intro ended
            rw [ended] at rest
            exact absurd (List.append_eq_nil_iff.mp rest.symm).1 open_end
      · obtain ⟨s', buffer', decoded, left⟩ :=
          h.whole a s buffer rest (small a List.mem_cons_self) received
        have stream' : held s' ++ buffer' ++ later = items.flatMap encode := by
          rw [left, later_eq]
        obtain ⟨front, back, s'', buffer'', split, drained, left', done⟩ :=
          ih (fun b hb => small b (List.mem_cons_of_mem a hb)) (Nat.lt_of_succ_lt_succ enough)
            stream'
        exact ⟨a :: front, back, s'', buffer'', by simp [split],
          by simp [drain, decoded, drained, Except.map], left', done⟩

theorem feed_eq_of_stream (h : Inverts decode encode fits held) {items : List α}
    (small : ∀ a ∈ items, fits a) {chunks : List (List β)} {fuel : Nat}
    (enough : items.length < fuel)
    (stream : held s ++ buffer ++ chunks.flatten = items.flatMap encode)
    (drained : chunks = [] → items = []) :
    ∃ s' buffer', feed decode fuel s buffer chunks = .ok (items, s', buffer') ∧
      held s' ++ buffer' = [] := by
  induction chunks generalizing items s buffer with
  | nil =>
      obtain rfl := drained rfl
      exact ⟨s, buffer, rfl, by simpa using stream⟩
  | cons chunk chunks ih =>
      have stream' : held s ++ (buffer ++ chunk) ++ chunks.flatten = items.flatMap encode := by
        simpa using stream
      obtain ⟨front, back, s', buffer', rfl, delivered, left, done⟩ :=
        h.drain_eq small enough stream'
      obtain ⟨s'', buffer'', rest, ended⟩ :=
        ih (fun a ha => small a (List.mem_append_right front ha))
          (by rw [List.length_append] at enough; omega) left
          (fun last => done (by simp [last]))
      exact ⟨s'', buffer'', by simp [feed, delivered, rest, Except.map], ended⟩

/-- However a stream of encodings is cut into chunks, a fresh decoder delivers its items in
order and keeps nothing. -/
theorem feed_eq (h : Inverts decode encode fits held) (start : held s = []) {items : List α}
    (small : ∀ a ∈ items, fits a) {chunks : List (List β)} {fuel : Nat}
    (enough : items.length < fuel) (stream : chunks.flatten = items.flatMap encode) :
    ∃ s' buffer', feed decode fuel s [] chunks = .ok (items, s', buffer') ∧
      held s' ++ buffer' = [] := by
  refine h.feed_eq_of_stream small enough (by simpa [start] using stream) fun none_left => ?_
  rw [none_left, List.flatten_nil, eq_comm, List.flatMap_eq_nil_iff] at stream
  by_contra some_item
  obtain ⟨a, ha⟩ := List.exists_mem_of_ne_nil items some_item
  exact h.encode_ne_nil start (small a ha) (stream a ha)

end Inverts

end Framing
