import WorldZero.Chat.ChannelRuns

/-!
# One channel for everybody

What `converged` says of the three calls that look a channel up before they create it. Only
`ensure_zone_channel` is safe in every schedule; the other two are as long as none of their
calls commits a channel between another one's lookup and its end.
-/

namespace WorldZero.Chat

open Sql.Transactions
open Sql (Rows)

section

variable {ι : Type} [DecidableEq ι] [Fintype ι] {ids : ι → ChannelId} {calls : ι → Request}
  {db : Tables} {ls : List (Label ι)} {s : ChatState ι} {k : Key} {i j : ι}

/-- The state after a schedule, from the start of the calls. -/
def Reaches (ids : ι → ChannelId) (calls : ι → Request) (db : Tables) (ls : List (Label ι))
    (s : ChatState ι) : Prop :=
  Transition.exec (step engine (workload ids calls)) (start (workload ids calls) db) ls = some s

omit [DecidableEq ι] [Fintype ι] in
/-- All calls of the key return one channel. -/
theorem Converged.agree {accounts : Finset AccountId} (h : Converged accounts calls k ls s)
    (first : (calls i).key = some k) (second : (calls j).key = some k) {x y : Option ChannelId}
    (at_i : s.calls i = .finished (.ok x)) (at_j : s.calls j = .finished (.ok y)) : x = y := by
  obtain ⟨c, rfl, -, only⟩ := h.same i first x at_i
  obtain ⟨c', rfl, has, -⟩ := h.same j second y at_j
  rw [only c' has]

/-! ### Direct channels -/

/-- Two accounts have one channel at most, whichever of them asks for it, and nobody else is a
member of it, as long as no call for the two commits a channel while another one that has looked
theirs up is in progress. -/
theorem direct_channel_of_inTurn {a b : AccountId} (apart : a ≠ b)
    (distinct : Function.Injective ids) (fresh : ∀ i, ∀ r ∈ db.channels, r.id ≠ ids i)
    (paired : db.Paired)
    (one : ∀ c c', db.Has (.direct s(a, b)) c → db.Has (.direct s(a, b)) c' → c = c')
    (legal : Transition.Admissible (step engine (workload ids calls))
      (InTurn calls (.direct s(a, b))) (start (workload ids calls) db) ls) :
    ∀ front, front <+: ls → ∀ s, Reaches ids calls db front s →
      (∀ c c', s.committed.Has (.direct s(a, b)) c →
        s.committed.Has (.direct s(a, b)) c' → c = c') ∧
      ∀ i, calls i = .createDirect a b ∨ calls i = .createDirect b a →
        (∀ x, s.calls i = .finished (.ok x) → ∃ c, x = some c ∧
          s.committed.Only (.direct s(a, b)) c ∧
          (∀ y, ⟨c, y⟩ ∈ s.committed.members ↔ y = a ∨ y = b) ∧
          ∀ j, calls j = .createDirect a b ∨ calls j = .createDirect b a →
            ∀ x', s.calls j = .finished (.ok x') → x' = some c) ∧
        (a ∈ db.accounts → b ∈ db.accounts → Unharmed front i →
          ∀ err, s.calls i ≠ .finished (.error err)) := by
  intro front front_of s run
  have holds : Converged db.accounts calls (.direct s(a, b)) front s :=
    converged distinct fresh
      (fun pair same => ⟨by cases same; simpa using apart, paired⟩) one
      (fun _ => legal.of_isPrefix front_of) run
  have key : ∀ i, calls i = .createDirect a b ∨ calls i = .createDirect b a →
      (calls i).key = some (.direct s(a, b)) := by
    rintro i (call | call)
    · rw [call]
      rfl
    · rw [call, Request.key, Sym2.eq_swap]
  refine ⟨holds.one, fun i call => ⟨fun x at_i => ?_, fun first second unharmed => ?_⟩⟩
  · obtain ⟨c, rfl, only⟩ := holds.same i (key i call) x at_i
    obtain ⟨row, -, rfl, -, members⟩ := only.1
    refine ⟨row.id, rfl, only, fun y => ?_, ?_⟩
    · exact (members y).trans Sym2.mem_iff
    · intro j call' x' at_j
      exact holds.agree (key j call') (key i call) at_j at_i
  · refine holds.sound i (key i call) ?_ unharmed
    rcases call with call | call <;> rw [call]
    · exact ⟨apart, first, second⟩
    · exact ⟨apart.symm, second, first⟩

end

namespace FirstContact

def db : Tables := .empty {⟨1⟩, ⟨2⟩, ⟨3⟩}

def ids (i : Bool) : ChannelId := if i then ⟨10⟩ else ⟨11⟩

/-- Each of two accounts writes to the other. -/
def writeEachOther : Bool → Request
  | true => .createDirect ⟨1⟩ ⟨2⟩
  | false => .createDirect ⟨2⟩ ⟨1⟩

def schedule (turns : List Bool) : List (Label Bool) := turns.map fun i => { call := i }

def inTurn : List (Label Bool) :=
  schedule [true, true, true, true, true, true, false, false]

/-- Both look the channel up before either commits one. -/
def crossed : List (Label Bool) :=
  schedule [true, false, true, true, true, true, true, false, false, false, false, false]

/-- An account that has a channel with another writes to itself. -/
def alone : Bool → Request
  | true => .createDirect ⟨1⟩ ⟨2⟩
  | false => .createDirect ⟨1⟩ ⟨1⟩

theorem direct_channel_mutual :
    ∃ s, Reaches ids writeEachOther db inTurn s ∧ (s.calls true).value = some (some ⟨10⟩) ∧
      (s.calls false).value = some (some ⟨10⟩) ∧ s.committed.Only (.direct s(⟨1⟩, ⟨2⟩)) ⟨10⟩ := by
  have none : ∀ r, r ∉ db.channels := fun r here => absurd here (Rows.notMem_empty r)
  obtain ⟨s, run, first, second⟩ : ∃ s, Reaches ids writeEachOther db inTurn s ∧
      (s.calls true).value = some (some ⟨10⟩) ∧ (s.calls false).value = some (some ⟨10⟩) :=
    Transition.exec_reaches (by decide)
  have converges := direct_channel_of_inTurn (a := ⟨1⟩) (b := ⟨2⟩) (by decide) (by decide)
    (fun i r here => absurd here (none r)) (fun r here => absurd here (none r))
    (fun c c' ⟨r, here, _⟩ => absurd here (none r)) (by decide) inTurn List.prefix_rfl s run
  obtain ⟨c, same, only, -⟩ := (converges.2 true (.inl rfl)).1 _ (Call.value_eq_some.mp first)
  cases same
  exact ⟨s, run, first, second, only⟩

theorem two_direct_channels :
    (∃ s, Reaches ids writeEachOther db crossed s ∧
      (s.calls true).value = some (some ⟨10⟩) ∧ (s.calls false).value = some (some ⟨11⟩) ∧
      s.committed.membersOf ⟨10⟩ = [⟨1⟩, ⟨2⟩] ∧ s.committed.membersOf ⟨11⟩ = [⟨2⟩, ⟨1⟩]) ∧
    ∃ s, Reaches ids alone db inTurn s ∧ (s.calls false).value = some (some ⟨10⟩) ∧
      s.committed.membersOf ⟨10⟩ = [⟨1⟩, ⟨2⟩] :=
  ⟨Transition.exec_reaches (by decide), Transition.exec_reaches (by decide)⟩

end FirstContact

section

variable {ι : Type} [DecidableEq ι] [Fintype ι] {ids : ι → ChannelId} {calls : ι → Request}
  {db : Tables} {ls : List (Label ι)}

/-! ### Named channels -/

/-- Whoever asks for the name is given the one channel of the name, as long as no call for it
commits a channel while another one that has looked it up is in progress. A call for a name that
is not blank, by someone who has an account, returns no error unless a statement of it fails. -/
theorem named_channel_of_inTurn {name : String} (distinct : Function.Injective ids)
    (fresh : ∀ i, ∀ r ∈ db.channels, r.id ≠ ids i)
    (one : ∀ c c', db.Has (.group name) c → db.Has (.group name) c' → c = c')
    (legal : Transition.Admissible (step engine (workload ids calls))
      (InTurn calls (.group name)) (start (workload ids calls) db) ls) :
    ∀ front, front <+: ls → ∀ s, Reaches ids calls db front s →
      (∀ c c', s.committed.Has (.group name) c → s.committed.Has (.group name) c' → c = c') ∧
      ∀ i creator, calls i = .findOrCreateNamedChannel creator name →
        (∀ x, s.calls i = .finished (.ok x) → ∃ c, x = some c ∧ s.committed.Only (.group name) c ∧
          ∀ j creator', calls j = .findOrCreateNamedChannel creator' name →
            ∀ x', s.calls j = .finished (.ok x') → x' = some c) ∧
        (isBlank name = false → creator ∈ db.accounts → Unharmed front i →
          ∀ err, s.calls i ≠ .finished (.error err)) := by
  intro front front_of s run
  have holds : Converged db.accounts calls (.group name) front s :=
    converged distinct fresh (fun pair same => by cases same) one
      (fun _ => legal.of_isPrefix front_of) run
  have key : ∀ i creator, calls i = .findOrCreateNamedChannel creator name →
      (calls i).key = some (.group name) := by
    intro i creator call
    rw [call]
    rfl
  refine ⟨holds.one, fun i creator call => ⟨fun x at_i => ?_, fun named known unharmed => ?_⟩⟩
  · obtain ⟨c, rfl, only⟩ := holds.same i (key i creator call) x at_i
    exact ⟨c, rfl, only, fun j creator' call' x' at_j =>
      holds.agree (key j creator' call') (key i creator call) at_j at_i⟩
  · exact holds.sound i (key i creator call) (by rw [call]; exact ⟨named, known⟩) unharmed

end

namespace Demo

def db : Tables := .empty {⟨1⟩, ⟨2⟩}

def ids (i : Bool) : ChannelId := if i then ⟨10⟩ else ⟨11⟩

/-- Two connections join the same name. -/
def joins : Bool → Request
  | true => .findOrCreateNamedChannel ⟨1⟩ "demo"
  | false => .findOrCreateNamedChannel ⟨2⟩ "demo"

def inTurn : List (Label Bool) :=
  [true, true, true, true, true, false, false].map fun i => { call := i }

/-- Both look the name up before either commits a channel. -/
def crossed : List (Label Bool) :=
  [true, false, true, true, true, true, false, false, false, false].map fun i => { call := i }

theorem named_channel_demo :
    ∃ s, Reaches ids joins db inTurn s ∧ (s.calls true).value = some (some ⟨10⟩) ∧
      (s.calls false).value = some (some ⟨10⟩) ∧ s.committed.Only (.group "demo") ⟨10⟩ := by
  have none : ∀ r, r ∉ db.channels := fun r here => absurd here (Rows.notMem_empty r)
  obtain ⟨s, run, first, second⟩ : ∃ s, Reaches ids joins db inTurn s ∧
      (s.calls true).value = some (some ⟨10⟩) ∧ (s.calls false).value = some (some ⟨10⟩) :=
    Transition.exec_reaches (by decide)
  have legal : Transition.Admissible (step engine (workload ids joins))
      (InTurn joins (.group "demo")) (start (workload ids joins) db) inTurn := by decide
  have converges := named_channel_of_inTurn (by decide) (fun i r here => absurd here (none r))
    (fun c c' ⟨r, here, _⟩ => absurd here (none r)) legal inTurn List.prefix_rfl s run
  obtain ⟨c, same, only, -⟩ := (converges.2 true ⟨1⟩ rfl).1 _ (Call.value_eq_some.mp first)
  cases same
  exact ⟨s, run, first, second, only⟩

theorem two_demo_channels :
    ∃ s, Reaches ids joins db crossed s ∧
      (s.calls true).value = some (some ⟨10⟩) ∧ (s.calls false).value = some (some ⟨11⟩) ∧
      s.committed.channels.count (fun c => c.channelType = .group && c.name = some "demo") = 2 :=
  Transition.exec_reaches (by decide)

end Demo

section

variable {ι : Type} [DecidableEq ι] [Fintype ι] {ids : ι → ChannelId} {calls : ι → Request}
  {db : Tables} {ls : List (Label ι)} {s : ChatState ι} {i : ι}

/-! ### Zone channels -/

/-- The locks on entries of the unique index. -/
def Lock.IsZone : Lock → Prop
  | .zone .. => True
  | .member _ => False

/-- Only an insertion of a `zone` channel locks an entry of the index. -/
theorem not_isZone {s : Statement} {t : Tables} {l : Lock} (here : l ∈ s.locks t)
    (other : ∀ id zoneId category name, s ≠ .insertZoneChannel id zoneId category name) :
    ¬ l.IsZone := by
  cases s with
  | insertZoneChannel id zoneId category name => exact absurd rfl (other id zoneId category name)
  | insertMember m | joinMember m | deleteMember m =>
      simp only [Statement.locks] at here
      split at here
      all_goals simp only [List.mem_singleton, List.not_mem_nil] at here
      subst here
      exact id
  | begin | findDirect | findNamed | findZoneChannel | channelType | insertChannel => cases here

section LocksLast

variable {p : ChatM (Option ChannelId)} {id : ChannelId} {failure : Error}

theorem locksLast_statement {s : Statement} {next : s.Result → ChatM (Option ChannelId)}
    (other : ∀ id zoneId category name, s ≠ .insertZoneChannel id zoneId category name)
    (h : ∀ r, (next r).LocksLast engine Lock.IsZone) :
    (Program.statement s failure next).LocksLast engine Lock.IsZone :=
  ⟨fun _ _ _ _ ⟨_, here, zone⟩ => absurd zone (not_isZone here other), h⟩

theorem locksLast_addMembers (members : List AccountId) (h : p.LocksLast engine Lock.IsZone) :
    ((ChannelStore.addMembers id failure members).bind fun _ => p).LocksLast engine
      Lock.IsZone := by
  induction members with
  | nil => exact h
  | cons account rest ih => exact locksLast_statement nofun fun _ => ih

theorem locksLast_createNamed {channelType : ChannelType} {creator : AccountId} {name : String} :
    ((ChannelStore.createNamed id channelType creator name).bind fun c => .pure (some c)).LocksLast
      engine Lock.IsZone := by
  cases blank : isBlank name with
  | true =>
      simp only [ChannelStore.createNamed, Validation.ensure, blank]
      trivial
  | false =>
      simp only [ChannelStore.createNamed, Validation.ensure, blank]
      refine locksLast_statement (by rintro _ _ _ _ ⟨⟩) fun _ =>
        locksLast_statement (by rintro _ _ _ _ ⟨⟩) fun _ => locksLast_addMembers [creator] trivial

theorem locksLast_requireJoinable {channel : ChannelId} {q : ChatM Unit}
    (h : (q.bind fun _ => p).LocksLast engine Lock.IsZone) :
    (((ChannelStore.requireJoinable channel).bind fun _ => q).bind fun _ => p).LocksLast engine
      Lock.IsZone := by
  refine locksLast_statement nofun fun found => ?_
  show (((Program.ofExcept (ChannelStore.joinable found)).bind fun _ => q).bind
    fun _ => p).LocksLast engine Lock.IsZone
  cases ChannelStore.joinable found with
  | error err => trivial
  | ok u => exact h

/-- A call that has inserted a `zone` channel has nothing to do but to commit it. -/
theorem locksLast_program (r : Request) : (r.program id).LocksLast engine Lock.IsZone := by
  cases r with
  | createDirect a b =>
      refine locksLast_statement nofun fun found => ?_
      cases (found : Option ChannelId) with
      | some existing => trivial
      | none => exact locksLast_statement nofun fun _ => locksLast_statement nofun fun _ =>
          locksLast_addMembers [a, b] trivial
  | findOrCreateNamedChannel creator name =>
      refine locksLast_statement nofun fun found => ?_
      cases (found : Option ChannelId) with
      | some existing => trivial
      | none => exact locksLast_createNamed
  | createGuild creator name => exact locksLast_createNamed
  | ensureZoneChannel zoneId category name =>
      refine locksLast_statement nofun fun found => ?_
      cases (found : Option ChannelId) with
      | some existing => trivial
      | none =>
          refine ⟨fun t r ws executed held => ?_, fun created => ?_⟩
          · obtain ⟨rfl, -, -⟩ | ⟨rfl, -, conflicts⟩ := exec_insertZoneChannel executed
            · exact ⟨some id, rfl⟩
            · have none : engine.locks (.insertZoneChannel id zoneId category name) t = [] :=
                if_neg (by simp [conflicts])
              rw [none] at held
              obtain ⟨l, here, -⟩ := held
              cases here
          · cases (created : Bool) with
            | true => trivial
            | false =>
                refine locksLast_statement nofun fun found => ?_
                cases (found : Option ChannelId) <;> trivial
  | join channel account =>
      exact locksLast_requireJoinable (locksLast_statement nofun fun _ => trivial)
  | leave channel account =>
      exact locksLast_requireJoinable (locksLast_statement nofun fun _ => trivial)

end LocksLast

variable {zoneId : Option String} {category name : String} {id : ChannelId}

theorem locksOnly_ensureZoneChannel :
    ((Request.ensureZoneChannel zoneId category name).program id).LocksOnly engine
      Lock.IsZone := by
  refine ⟨fun t l here => (List.not_mem_nil here).elim, fun found => ?_⟩
  cases (found : Option ChannelId) with
  | some existing => trivial
  | none =>
      refine ⟨fun t l here => ?_, fun created => ?_⟩
      · have here : l ∈ if t.admitsZone id zoneId category then [Lock.zone zoneId category]
            else [] := here
        split at here
        · rw [List.mem_singleton.mp here]
          trivial
        · cases here
      · cases (created : Bool) with
        | true => trivial
        | false =>
            refine ⟨fun t l here => (List.not_mem_nil here).elim, fun found => ?_⟩
            cases (found : Option ChannelId) <;> trivial

/-- A lookup, an insertion, a second lookup and the end. -/
theorem within_ensureZoneChannel :
    ((Request.ensureZoneChannel zoneId category name).program id).Within 4 := by
  intro found
  cases (found : Option ChannelId) with
  | some existing => trivial
  | none =>
      intro created
      cases (created : Bool) with
      | true => trivial
      | false =>
          intro found
          cases (found : Option ChannelId) <;> trivial

/-- In every schedule there is one `zone` channel of the scope and category at most, and every
call for it of which no statement fails returns this one: it takes four steps at most, and as long
as it has not returned, its next step is enabled, or the commit for which it waits. -/
theorem zone_channel_ensured (distinct : Function.Injective ids)
    (fresh : ∀ i, ∀ r ∈ db.channels, r.id ≠ ids i)
    (index : ∀ c c', db.Has (.zone zoneId category) c → db.Has (.zone zoneId category) c' → c = c')
    (run : Reaches ids calls db ls s) :
    (∀ c c', s.committed.Has (.zone zoneId category) c →
      s.committed.Has (.zone zoneId category) c' → c = c') ∧
    ∀ i name, calls i = .ensureZoneChannel zoneId category name →
      (∀ r, s.calls i = .finished r → Unharmed ls i →
        ∃ c, r = .ok (some c) ∧ s.committed.Only (.zone zoneId category) c ∧
          ∀ j name', calls j = .ensureZoneChannel zoneId category name' →
            ∀ x, s.calls j = .finished (.ok x) → x = some c) ∧
      ls.countP (fun l => l.call = i) ≤ 4 ∧
      ∀ a, s.calls i = .running a →
        ∃ j t, step engine (workload ids calls) s { call := j } = some t ∧
          (j = i ∨ ∃ x b, s.calls j = .running ⟨.pure x, b⟩) := by
  have holds : Converged db.accounts calls (.zone zoneId category) ls s :=
    converged distinct fresh (fun pair same => by cases same) index (by rintro ⟨⟩) run
  have key : ∀ i name, calls i = .ensureZoneChannel zoneId category name →
      (calls i).key = some (.zone zoneId category) := by
    intro i name call
    rw [call]
    rfl
  refine ⟨holds.one, fun i name call => ⟨fun r at_i unharmed => ?_, ?_, fun a at_i => ?_⟩⟩
  · cases r with
    | error err =>
        have sound : (calls i).Sound db.accounts := by rw [call]; trivial
        exact absurd at_i (holds.sound i (key i name call) sound unharmed err)
    | ok x =>
        obtain ⟨c, rfl, only⟩ := holds.same i (key i name call) x at_i
        exact ⟨c, rfl, only, fun j name' call' x' at_j =>
          holds.agree (key j name' call') (key i name call) at_j at_i⟩
  · refine steps_le ?_ run
    refine Call.within_of (?_ : ((calls i).program (ids i)).Within 4)
    rw [call]
    exact within_ensureZoneChannel
  · have only : ((workload ids calls).program i).LocksOnly engine Lock.IsZone := by
      show ((calls i).program (ids i)).LocksOnly engine Lock.IsZone
      rw [call]
      exact locksOnly_ensureZoneChannel
    have shared : ∀ l l', engine.conflicts l l' = true → l.IsZone → l'.IsZone := by
      intro l l' same zone
      have same : l = l' := of_decide_eq_true same
      exact same ▸ zone
    obtain ⟨t, enabled⟩ | ⟨j, -, x, b, at_j⟩ :=
      enabled_or_awaits_commit shared (fun j => locksLast_program (calls j)) only run at_i
    · exact ⟨i, t, enabled, .inl rfl⟩
    · exact ⟨j, _, step_commit at_j, .inr ⟨x, b, at_j⟩⟩

end

namespace Global

def db : Tables := .empty ∅

def ids (i : Fin 3) : ChannelId := ⟨10 + i⟩

def calls (_ : Fin 3) : Request := .ensureZoneChannel none "trade" "trade"

/-- All three find nothing, one of them inserts, another waits for its commit. -/
def race : List (Label (Fin 3)) :=
  [0, 1, 2, 0, 0, 1, 1, 1, 2, 2, 2].map fun i => { call := i }

theorem global_trade_channel :
    ∃ s, Reaches ids calls db race s ∧ (∀ i, (s.calls i).value = some (some ⟨10⟩)) ∧
      s.committed.Only (.zone none "trade") ⟨10⟩ := by
  have empty : ∀ c, ¬ db.Has (.zone none "trade") c :=
    fun c ⟨r, here, _⟩ => absurd here (Rows.notMem_empty r)
  obtain ⟨s, run, all⟩ : ∃ s, Reaches ids calls db race s ∧
      ∀ i, (s.calls i).value = some (some ⟨10⟩) := Transition.exec_reaches (by decide)
  have ensured := zone_channel_ensured (by decide)
    (fun i r here => absurd here (Rows.notMem_empty r))
    (fun c c' has => absurd has (empty c)) run
  obtain ⟨c, same, only, -⟩ :=
    (ensured.2 0 "trade" rfl).1 _ (Call.value_eq_some.mp (all 0)) (by unfold Unharmed; decide)
  cases same
  exact ⟨s, run, all, only⟩

end Global

end WorldZero.Chat
