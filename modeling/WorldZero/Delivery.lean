import Mathlib.Data.List.Nodup
import Mathlib.Data.List.Sort
import Mathlib.Data.Fintype.Defs
import Mathlib.Logic.Function.Basic

/-!
# Messages that are delivered by many producers

A receiver is told of changes by several producers. Each of them holds the messages of its
latest change until it has delivered them, one after the other, into the receiver's queue or
past it. Messages about different keys may overtake each other. As long as those about one key
are delivered in the order in which they have come about, the receiver ends up with that order.
-/

namespace Delivery

variable {P M F : Type*}

/-- A message with its place in the order of all messages. -/
structure Report (M : Type*) where
  order : ℕ
  message : M
  deriving DecidableEq

/-- `log` is read by the specifications only: all messages in the order in which they have come
about. -/
structure State (P M : Type*) where
  hands : P → List (Report M)
  queue : List (Report M)
  sent : List (Report M)
  log : List (Report M)

/-- Nothing has happened. -/
def start : State P M := ⟨fun _ => [], [], [], []⟩

def number : ℕ → List M → List (Report M)
  | _, [] => []
  | n, m :: messages => ⟨n, m⟩ :: number (n + 1) messages

namespace State

variable [DecidableEq P] (d : State P M)

/-- The producer has come to these messages. -/
def emit (p : P) (messages : List M) : State P M :=
  let reports := number d.log.length messages
  { d with hands := Function.update d.hands p reports, log := d.log ++ reports }

/-- The producer's next message is sent past the queue. -/
def direct (p : P) : Option (State P M) :=
  match d.hands p with
  | [] => none
  | r :: rest => some { d with hands := Function.update d.hands p rest, sent := d.sent ++ [r] }

/-- The producer's next message joins the queue. -/
def push (p : P) : Option (State P M) :=
  match d.hands p with
  | [] => none
  | r :: rest => some { d with hands := Function.update d.hands p rest, queue := d.queue ++ [r] }

def forward : Option (State P M) :=
  match d.queue with
  | [] => none
  | r :: rest => some { d with queue := rest, sent := d.sent ++ [r] }

/-- Nothing is underway. -/
def Drained : Prop := d.queue = [] ∧ ∀ p, d.hands p = []

instance [Fintype P] : Decidable d.Drained := inferInstanceAs (Decidable (_ ∧ _))

/-- What other producers hold about the key has come about later. -/
def Next (key : M → F) (p : P) (r : Report M) : Prop :=
  ∀ q ≠ p, ∀ r' ∈ d.hands q, key r.message = key r'.message → r.order < r'.order

/-- Nothing about the key is queued. -/
def Alone (key : M → F) (r : Report M) : Prop :=
  ∀ r' ∈ d.queue, key r.message ≠ key r'.message

variable {d} {d' : State P M} {p : P}

theorem direct_log (h : d.direct p = some d') : d'.log = d.log := by
  unfold direct at h
  split at h <;> cases h
  rfl

theorem push_log (h : d.push p = some d') : d'.log = d.log := by
  unfold push at h
  split at h <;> cases h
  rfl

omit [DecidableEq P] in
theorem forward_log (h : d.forward = some d') : d'.log = d.log := by
  unfold forward at h
  split at h <;> cases h
  rfl

end State

/-! ### Numbers -/

variable {r r' : Report M} {n : ℕ} {messages : List M}

@[simp] theorem length_number : (number n messages).length = messages.length := by
  induction messages generalizing n with
  | nil => rfl
  | cons m messages ih => rw [number, List.length_cons, ih, List.length_cons]

@[simp] theorem message_number : (number n messages).map Report.message = messages := by
  induction messages generalizing n with
  | nil => rfl
  | cons m messages ih => rw [number, List.map_cons, ih]

theorem order_of_mem_number (h : r ∈ number n messages) :
    n ≤ r.order ∧ r.order < n + messages.length := by
  induction messages generalizing n with
  | nil => cases h
  | cons m messages ih =>
      rw [List.length_cons]
      obtain rfl | later := List.mem_cons.mp h
      · exact ⟨Nat.le_refl n, by simp⟩
      · obtain ⟨low, high⟩ := ih later
        exact ⟨by omega, by omega⟩

theorem sorted_number : (number n messages).Pairwise fun r r' => r.order < r'.order := by
  induction messages generalizing n with
  | nil => exact .nil
  | cons m messages ih =>
      exact .cons (fun r later => (order_of_mem_number later).1) ih

/-! ### What keeps to the order -/

/-- What has gone through is sorted key by key, and earlier than what is still held. -/
structure Ordered (key : M → F) (d : State P M) : Prop where
  log : d.log.Pairwise fun r r' => r.order < r'.order
  bound : ∀ r ∈ d.log, r.order < d.log.length
  hands : ∀ p, (d.hands p).Pairwise fun r r' => r.order < r'.order
  through : (d.sent ++ d.queue).Pairwise fun r r' =>
    key r.message = key r'.message → r.order < r'.order
  before : ∀ r ∈ d.sent ++ d.queue, ∀ p, ∀ r' ∈ d.hands p,
    key r.message = key r'.message → r.order < r'.order
  mem : ∀ r, r ∈ d.log ↔ r ∈ d.sent ++ d.queue ∨ ∃ p, r ∈ d.hands p

variable {key : M → F} {d d' : State P M} {p : P}

theorem Ordered.forward (h : Ordered key d) (taken : d.forward = some d') : Ordered key d' := by
  unfold State.forward at taken
  split at taken
  · cases taken
  next r rest queued =>
    cases taken
    have same : d.sent ++ [r] ++ rest = d.sent ++ d.queue := by rw [queued, List.append_assoc]; rfl
    exact ⟨h.log, h.bound, h.hands, same ▸ h.through, same ▸ h.before, fun x => by
      rw [h.mem x, same]⟩

/-- Once nothing is underway, the receiver has been told of each key in order. -/
theorem Ordered.drained [DecidableEq F] (h : Ordered key d) (drained : d.Drained) (k : F) :
    d.sent.filter (fun r => key r.message = k) = d.log.filter (fun r => key r.message = k) := by
  obtain ⟨queue, hands⟩ := drained
  have through := h.through
  rw [queue, List.append_nil] at through
  have sent : (d.sent.filter fun r => key r.message = k).Pairwise fun r r' => r.order < r'.order :=
    (through.filter _).imp_of_mem fun here there later => later (by
      simp only [List.mem_filter, decide_eq_true_eq] at here there
      rw [here.2, there.2])
  have log := h.log.filter fun r => key r.message = k
  have distinct : ∀ {l : List (Report M)}, (l.Pairwise fun r r' => r.order < r'.order) → l.Nodup :=
    fun sorted => sorted.imp fun less same => (same ▸ less).false
  refine List.Perm.eq_of_pairwise (fun r r' _ _ less more => absurd more less.asymm) sent log ?_
  refine (List.perm_ext_iff_of_nodup (distinct sent) (distinct log)).mpr fun r => ?_
  simp [h.mem r, queue, hands]

variable [DecidableEq P] {rest : List (Report M)}

theorem Ordered.emit (h : Ordered key d) (free : d.hands p = []) :
    Ordered key (d.emit p messages) where
  log := by
    refine List.pairwise_append.mpr ⟨h.log, sorted_number, fun r early r' late => ?_⟩
    exact (h.bound r early).trans_le (order_of_mem_number late).1
  bound r here := by
    simp only [State.emit, List.length_append, length_number]
    obtain early | late := List.mem_append.mp here
    · exact (h.bound r early).trans_le (Nat.le_add_right ..)
    · exact (order_of_mem_number late).2
  hands q := by
    by_cases own : q = p
    · subst own
      simpa [State.emit] using sorted_number
    · simpa [State.emit, own] using h.hands q
  through := h.through
  before r early q r' late same := by
    by_cases own : q = p
    · subst own
      simp only [State.emit, Function.update_self] at late
      exact (h.bound r ((h.mem r).mpr (.inl early))).trans_le (order_of_mem_number late).1
    · simp only [State.emit, Function.update_of_ne own] at late
      exact h.before r early q r' late same
  mem r := by
    simp only [State.emit, List.mem_append]
    constructor
    · rintro (early | late)
      · obtain gone | ⟨q, held⟩ := (h.mem r).mp early
        · exact .inl (List.mem_append.mp gone)
        · refine .inr ⟨q, ?_⟩
          have other : q ≠ p := by
            rintro rfl
            rw [free] at held
            cases held
          rwa [Function.update_of_ne other]
      · exact .inr ⟨p, by rwa [Function.update_self]⟩
    · rintro (gone | ⟨q, held⟩)
      · exact .inl ((h.mem r).mpr (.inl (List.mem_append.mpr gone)))
      · by_cases own : q = p
        · subst own
          exact .inr (by rwa [Function.update_self] at held)
        · rw [Function.update_of_ne own] at held
          exact .inl ((h.mem r).mpr (.inr ⟨q, held⟩))

/-- A producer's next message goes through, wherever it finds its place there. -/
theorem Ordered.deliver (h : Ordered key d) (held : d.hands p = r :: rest) (next : d.Next key p r)
    (hands : d'.hands = Function.update d.hands p rest) (log : d'.log = d.log)
    (mem : ∀ x, x ∈ d'.sent ++ d'.queue ↔ x ∈ d.sent ++ d.queue ∨ x = r)
    (through : (d'.sent ++ d'.queue).Pairwise fun r r' =>
      key r.message = key r'.message → r.order < r'.order) : Ordered key d' := by
  have sorted := h.hands p
  rw [held, List.pairwise_cons] at sorted
  have still : ∀ q, ∀ x ∈ d'.hands q, x ∈ d.hands q ∧
      (key r.message = key x.message → r.order < x.order) := by
    intro q x here
    rw [hands] at here
    by_cases own : q = p
    · subst own
      rw [Function.update_self] at here
      exact ⟨by simp [held, here], fun _ => sorted.1 x here⟩
    · rw [Function.update_of_ne own] at here
      exact ⟨here, next q own x here⟩
  refine ⟨log ▸ h.log, log ▸ h.bound, fun q => ?_, through, fun x gone q x' here same => ?_,
    fun x => ?_⟩
  · rw [hands]
    by_cases own : q = p
    · subst own
      rw [Function.update_self]
      exact sorted.2
    · rw [Function.update_of_ne own]
      exact h.hands q
  · obtain ⟨held', later⟩ := still q x' here
    obtain before | rfl := (mem x).mp gone
    · exact h.before x before q x' held' same
    · exact later same
  · rw [log, h.mem x, mem x, or_assoc]
    refine or_congr_right ?_
    constructor
    · rintro ⟨q, here⟩
      by_cases own : q = p
      · subst own
        rw [held] at here
        exact (List.mem_cons.mp here).imp_right fun later => ⟨q, by
          rwa [hands, Function.update_self]⟩
      · exact .inr ⟨q, by rwa [hands, Function.update_of_ne own]⟩
    · rintro (rfl | ⟨q, here⟩)
      · exact ⟨p, by simp [held]⟩
      · exact ⟨q, (still q x here).1⟩

theorem Ordered.push (h : Ordered key d) (next : ∀ r ∈ (d.hands p).head?, d.Next key p r)
    (taken : d.push p = some d') : Ordered key d' := by
  unfold State.push at taken
  split at taken
  · cases taken
  next r rest held =>
    cases taken
    rw [held] at next
    refine h.deliver held (next r rfl) rfl rfl (fun x => by simp [or_assoc]) ?_
    rw [← List.append_assoc]
    refine List.pairwise_append.mpr ⟨h.through, List.pairwise_singleton .., ?_⟩
    intro x gone x' last
    rw [List.mem_singleton.mp last]
    exact h.before x gone p r (by simp [held])

theorem Ordered.direct (h : Ordered key d)
    (next : ∀ r ∈ (d.hands p).head?, d.Next key p r ∧ d.Alone key r)
    (taken : d.direct p = some d') : Ordered key d' := by
  unfold State.direct at taken
  split at taken
  · cases taken
  next r rest held =>
    cases taken
    rw [held] at next
    obtain ⟨next, alone⟩ := next r rfl
    refine h.deliver held next rfl rfl (fun x => by simp; tauto) ?_
    obtain ⟨sent, queue, apart⟩ := List.pairwise_append.mp h.through
    rw [List.append_assoc]
    refine List.pairwise_append.mpr ⟨sent, .cons ?_ queue, fun x gone x' later same => ?_⟩
    · exact fun x' queued same => absurd same (alone x' queued)
    · obtain rfl | queued := List.mem_cons.mp later
      · exact h.before x (List.mem_append_left _ gone) p _ (by simp [held]) same
      · exact apart x gone x' queued same

end Delivery
