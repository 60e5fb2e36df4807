import WorldZero.Common
import WorldZero.Lease
import WorldZero.Transition

/-!
# Logging in to a character

Any number of connections, each with a server of its own realm, log in to one
character: read the row, have the login authorized, record the connection, join
the world, and clean up after leaving it. Every database statement is a step, and
a schedule is any interleaving of the steps of all connections with the passing of
time and with connections that end without a cleanup.

A connection is its own lease holder: `lease_holder_id` is its fresh entity id.
The table `character_sessions` is the `row` of `leases`; the grants next to it and
the history are read by the specifications only.
-/

namespace WorldZero.Server.Login

/-- Named `open` and `bound` by the realm's row. -/
inductive OpenOrBound where
  | openRealm
  | boundRealm
  deriving DecidableEq

/-- The columns of `characters` that a login reads or a disconnect writes. -/
structure CharacterSummary (Position : Type) where
  realmId : RealmId
  zoneId : String
  position : Position
  deriving DecidableEq

/-- The row of `character_bound_liveness`. -/
structure BoundLiveness where
  realmId : RealmId
  expiresAt : ℕ
  deriving DecidableEq

namespace BoundLiveness

/-- The first call and the heartbeat. -/
def join (realmId : RealmId) (now ttl : ℕ) : BoundLiveness := ⟨realmId, now + ttl⟩

def isLive (row : Option BoundLiveness) (now : ℕ) : Bool :=
  row.any fun liveness => decide (now < liveness.expiresAt)

end BoundLiveness

/-- The servers of a group of realms and their configuration. The realms' rows
are not changed. -/
structure Deployment (ι : Type) where
  /-- The realm of the server that a connection is with. -/
  realmId : ι → RealmId
  openOrBound : RealmId → OpenOrBound
  leaseTtl : ℕ
  zones : String → Bool
  defaultZoneId : String

inductive Phase (Position : Type) where
  | selecting
  /-- The row has been read. -/
  | selected (character : CharacterSummary Position)
  | authorized (character : CharacterSummary Position)
  /-- The connection is registered, on a bound realm as live. -/
  | recorded (character : CharacterSummary Position)
  | joined (zoneId : String) (position : Position)
  /-- The entity has been taken out of the world, at its final position. -/
  | despawned (zoneId : String) (final : Option Position)
  /-- The lease has been released. -/
  | released (zoneId : String) (final : Option Position)
  /-- The liveness row has been cleared as well. -/
  | cleared (zoneId : String) (final : Option Position)
  | gone
  deriving DecidableEq

/-- Reads and writes of the stored position tell whether the connection's grant
was running, a release what it deleted. -/
inductive Event (ι : Type) where
  | read (c : ι) (granted : Bool)
  /-- On an open realm the login has acquired the lease. -/
  | authorized (c : ι)
  | released (c : ι) (deleted : Option (Lease.Row ι)) (now : ℕ)
  | wrote (c : ι) (granted : Bool)
  deriving DecidableEq

structure State (ι Position : Type) where
  /-- The database clock, in microseconds. -/
  now : ℕ
  leases : Lease.Book ι
  liveness : Option BoundLiveness
  character : CharacterSummary Position
  phase : ι → Phase Position
  /-- The latest event comes first. -/
  history : List (Event ι)

inductive Label (ι Position : Type) where
  | tick (elapsed : ℕ)
  /-- The next step of a login or of a cleanup; a failing statement has no effect. -/
  | resume (c : ι) (fails : Bool)
  | heartbeat (c : ι) (fails : Bool)
  | move (c : ι) (zoneId : String) (position : Position)
  /-- The connection ends; its entity may already be missing in the world. -/
  | disconnect (c : ι) (present : Bool)
  /-- The connection's task ends without a cleanup. -/
  | crash (c : ι)

variable {ι Position : Type} [DecidableEq ι]

/-- `Ok` carries what the login holds from now on: an open realm takes a lease. -/
def authorizeLogin (d : Deployment ι) (characterId : CharacterId) (leases : Lease.Book ι)
    (now : ℕ) (c : ι) (characterRealmId : RealmId) : Except Error (Lease.Book ι) :=
  match d.openOrBound (d.realmId c) with
  | .boundRealm =>
      if characterRealmId ≠ d.realmId c then
        .error (.new "realm-directory"
          (s!"character {characterId} is bound to a different realm and cannot log into " ++
            s!"realm {d.realmId c}"))
      else .ok leases
  | .openRealm =>
      match Lease.acquire leases.row c now d.leaseTtl with
      | some _ => .ok (leases.give c now d.leaseTtl)
      | none => .error (.new "realm-directory"
          s!"character {characterId} is already logged in elsewhere")

namespace State

variable (d : Deployment ι) (s : State ι Position) (c : ι)

@[simps]
def goto (phase : Phase Position) : State ι Position :=
  { s with phase := Function.update s.phase c phase }

@[simps]
def note (event : Event ι) : State ι Position := { s with history := event :: s.history }

/-- Whether the connection's grant of the lease runs. -/
def granted : Bool := s.leases.running c s.now

def read : State ι Position := (s.goto c (.selected s.character)).note (.read c (s.granted c))

/-- A refused login stays at the selection of a character. -/
def authorize (characterId : CharacterId) (character : CharacterSummary Position) :
    State ι Position :=
  match authorizeLogin d characterId s.leases s.now c character.realmId with
  | .ok leases => ({ s with leases }.goto c (.authorized character)).note (.authorized c)
  | .error _ => s.goto c .selecting

def record (character : CharacterSummary Position) : State ι Position :=
  match d.openOrBound (d.realmId c) with
  | .boundRealm =>
      { s.goto c (.recorded character) with
        liveness := some (.join (d.realmId c) s.now d.leaseTtl) }
  | .openRealm => s.goto c (.recorded character)

/-- A zone that the content pack no longer declares is replaced by the default. -/
def join (character : CharacterSummary Position) : State ι Position :=
  s.goto c (.joined (if d.zones character.zoneId then character.zoneId else d.defaultZoneId)
    character.position)

def heartbeat : State ι Position :=
  match d.openOrBound (d.realmId c) with
  | .boundRealm => { s with liveness := some (.join (d.realmId c) s.now d.leaseTtl) }
  | .openRealm =>
      match Lease.renew s.leases.row c s.now d.leaseTtl with
      | some _ => { s with leases := s.leases.give c s.now d.leaseTtl }
      | none => s

/-- `DELETE … WHERE character_id = $1`, whoever holds the lease. -/
def release (zoneId : String) (final : Option Position) : State ι Position :=
  ({ s with leases := s.leases.delete c }.goto c (.released zoneId final)).note
    (.released c s.leases.row s.now)

def leave (zoneId : String) (final : Option Position) : State ι Position :=
  { s.goto c (.cleared zoneId final) with liveness := none }

def updatePositionAndZone (zoneId : String) (position : Position) : State ι Position :=
  ({ s with character := { s.character with zoneId, position } }.goto c .gone).note
    (.wrote c (s.granted c))

/-- The next step of a connection that is at `phase`. -/
def resume (characterId : CharacterId) (fails : Bool) : Phase Position → Option (State ι Position)
  | .selecting => some (if fails then s.goto c .gone else s.read c)
  | .selected character =>
      some (if fails then s.goto c .selecting else s.authorize d c characterId character)
  | .authorized character => some (if fails then s.goto c .gone else s.record d c character)
  | .recorded character => some (s.join d c character)
  | .joined _ _ => none
  | .despawned zoneId final =>
      some (if fails then s.goto c (.released zoneId final) else s.release c zoneId final)
  | .released zoneId final =>
      some (if fails then s.goto c (.cleared zoneId final) else s.leave c zoneId final)
  | .cleared zoneId (some position) =>
      some (if fails then s.goto c .gone else s.updatePositionAndZone c zoneId position)
  | .cleared _ none => some (s.goto c .gone)
  | .gone => none

end State

def step (d : Deployment ι) (characterId : CharacterId) (s : State ι Position) :
    Label ι Position → Option (State ι Position)
  | .tick elapsed => some { s with now := s.now + elapsed }
  | .resume c fails => s.resume d c characterId fails (s.phase c)
  | .heartbeat c fails =>
      match s.phase c with
      | .joined _ _ => some (if fails then s else s.heartbeat d c)
      | _ => none
  | .move c zoneId position =>
      match s.phase c with
      | .joined _ _ => some (s.goto c (.joined zoneId position))
      | _ => none
  | .disconnect c present =>
      match s.phase c with
      | .joined zoneId position =>
          some (s.goto c (.despawned zoneId (if present then some position else none)))
      | _ => none
  | .crash c => some (s.goto c .gone)

/-- Nobody is logged in. -/
def start (character : CharacterSummary Position) : State ι Position where
  now := 0
  leases := ⟨none, fun _ => none⟩
  liveness := none
  character
  phase _ := .selecting
  history := []

/-! ### What a step does -/

def Deployment.isOpen (d : Deployment ι) (c : ι) : Bool :=
  d.openOrBound (d.realmId c) = .openRealm

namespace Phase

/-- The login has not been authorized yet. -/
def early : Phase Position → Bool
  | .selecting | .selected _ => true
  | _ => false

/-- The row has been read and the connection has not ended. -/
def begun : Phase Position → Bool
  | .selecting | .gone => false
  | _ => true

def isSelected : Phase Position → Bool
  | .selected _ => true
  | _ => false

/-- The login has been authorized and the world has not been left again. -/
def loggedIn : Phase Position → Bool
  | .authorized _ | .recorded _ | .joined _ _ => true
  | _ => false

/-- The lease is still to be released or the position to be stored. -/
def unfinished : Phase Position → Bool
  | .authorized _ | .recorded _ | .joined _ _ | .despawned _ _ => true
  | .released _ (some _) | .cleared _ (some _) => true
  | _ => false

/-- A connection comes from `p` to `q` without reading the row, without being
authorized and without storing a position. -/
structure Leads (p q : Phase Position) : Prop where
  early : q.early = true → p.early = true
  begun : q.begun = true → p.begun = true
  isSelected : q.isSelected = true → p.isSelected = true
  loggedIn : q.loggedIn = true → p.loggedIn = true
  unfinished : q.unfinished = true → p.unfinished = true

theorem Leads.of_eval {p q : Phase Position}
    (h : ((p.early || !q.early) && (p.begun || !q.begun) && (p.isSelected || !q.isSelected) &&
      (p.loggedIn || !q.loggedIn) && (p.unfinished || !q.unfinished)) = true) : p.Leads q := by
  simp only [Bool.and_eq_true, Bool.or_eq_true, Bool.not_eq_true', ← imp_iff_or_not,
    ← Bool.not_eq_true] at h
  obtain ⟨⟨⟨⟨early, begun⟩, isSelected⟩, loggedIn⟩, unfinished⟩ := h
  exact ⟨early, begun, isSelected, loggedIn, unfinished⟩

theorem Leads.to_gone (p : Phase Position) : p.Leads .gone := by
  constructor <;> intro h <;> cases h

end Phase

theorem authorizeLogin_ok {d : Deployment ι} {characterId : CharacterId}
    {leases leases' : Lease.Book ι} {now : ℕ} {c : ι} {realmId : RealmId}
    (ok : authorizeLogin d characterId leases now c realmId = .ok leases') :
    (d.isOpen c = false ∧ realmId = d.realmId c ∧ leases' = leases) ∨
      (d.isOpen c = true ∧ leases' = leases.give c now d.leaseTtl ∧
        ∃ row, Lease.acquire leases.row c now d.leaseTtl = some row) := by
  unfold authorizeLogin at ok
  split at ok
  · next bound =>
      split at ok
      · cases ok
      · next home =>
          cases ok
          exact .inl ⟨by simp [Deployment.isOpen, bound], not_not.mp home, rfl⟩
  · next unbound =>
      split at ok
      · next row acquired =>
          cases ok
          exact .inr ⟨by simp [Deployment.isOpen, unbound], rfl, row, acquired⟩
      · cases ok

/-- What a step can do, with the guards under which it does so. -/
inductive Moves (d : Deployment ι) (characterId : CharacterId) (s : State ι Position) :
    Label ι Position → State ι Position → Prop where
  | waits (elapsed : ℕ) :
      Moves d characterId s (.tick elapsed) { s with now := s.now + elapsed }
  | goes {l : Label ι Position} (c : ι) (phase : Phase Position)
      (liveness : Option BoundLiveness) (leads : (s.phase c).Leads phase) :
      Moves d characterId s l { s.goto c phase with liveness }
  | beats {l : Label ι Position} (liveness : Option BoundLiveness) :
      Moves d characterId s l { s with liveness }
  | reads {l : Label ι Position} (c : ι) (selecting : s.phase c = .selecting) :
      Moves d characterId s l (s.read c)
  | authorizes (c : ι) (character : CharacterSummary Position) (leases : Lease.Book ι)
      (selected : s.phase c = .selected character)
      (ok : authorizeLogin d characterId s.leases s.now c character.realmId = .ok leases) :
      Moves d characterId s (.resume c false)
        (({ s with leases }.goto c (.authorized character)).note (.authorized c))
  | renews {l : Label ι Position} (c : ι) (row : Lease.Row ι)
      (loggedIn : (s.phase c).loggedIn = true)
      (renewed : Lease.renew s.leases.row c s.now d.leaseTtl = some row) :
      Moves d characterId s l { s with leases := s.leases.give c s.now d.leaseTtl }
  | releases (c : ι) (zoneId : String) (final : Option Position)
      (despawned : s.phase c = .despawned zoneId final) :
      Moves d characterId s (.resume c false) (s.release c zoneId final)
  | stores (c : ι) (zoneId : String) (position : Position)
      (cleared : s.phase c = .cleared zoneId (some position)) :
      Moves d characterId s (.resume c false) (s.updatePositionAndZone c zoneId position)

namespace Moves

variable {d : Deployment ι} {characterId : CharacterId} {s t : State ι Position}
  {l : Label ι Position} {c : ι} {phase next : Phase Position}

theorem silent (at_phase : s.phase c = phase) (leads : phase.Leads next) :
    Moves d characterId s l (s.goto c next) :=
  .goes c next s.liveness (at_phase ▸ leads)

theorem of_authorize {character : CharacterSummary Position}
    (selected : s.phase c = .selected character) :
    Moves d characterId s (.resume c false) (s.authorize d c characterId character) := by
  unfold State.authorize
  split
  · next leases ok => exact .authorizes c character leases selected ok
  · exact silent selected (.of_eval rfl)

theorem of_resume {fails : Bool} (at_phase : s.phase c = phase)
    (taken : s.resume d c characterId fails phase = some t) :
    Moves d characterId s (.resume c fails) t := by
  cases phase with
  | selecting =>
      cases fails <;> cases taken
      · exact .reads c at_phase
      · exact silent at_phase (.to_gone _)
  | selected character =>
      cases fails <;> cases taken
      · exact of_authorize at_phase
      · exact silent at_phase (.of_eval rfl)
  | authorized character =>
      cases fails <;> cases taken
      · have leads : (s.phase c).Leads (.recorded character) := by
          rw [at_phase]
          exact .of_eval rfl
        simp only [State.record, Bool.false_eq_true, if_false]
        split
        · exact .goes c _ _ leads
        · exact .goes c _ s.liveness leads
      · exact silent at_phase (.to_gone _)
  | recorded character =>
      cases taken
      exact silent at_phase (.of_eval rfl)
  | joined zoneId position => cases taken
  | despawned zoneId final =>
      cases fails <;> cases taken
      · exact .releases c zoneId final at_phase
      · exact silent at_phase (.of_eval rfl)
  | released zoneId final =>
      have leads : (s.phase c).Leads (.cleared zoneId final) := by
        rw [at_phase]
        cases final <;> exact .of_eval rfl
      cases fails <;> cases taken
      · exact .goes c _ none leads
      · exact .goes c _ s.liveness leads
  | cleared zoneId final =>
      cases final with
      | none =>
          cases taken
          exact silent at_phase (.to_gone _)
      | some position =>
          cases fails <;> cases taken
          · exact .stores c zoneId position at_phase
          · exact silent at_phase (.to_gone _)
  | gone => cases taken

theorem of_heartbeat (loggedIn : (s.phase c).loggedIn = true) :
    Moves d characterId s l (s.heartbeat d c) := by
  unfold State.heartbeat
  split
  · exact .beats _
  · split
    · next row renewed => exact .renews c row loggedIn renewed
    · exact .beats s.liveness

theorem of_step (taken : step d characterId s l = some t) : Moves d characterId s l t := by
  cases l with
  | tick elapsed =>
      cases taken
      exact .waits elapsed
  | resume c fails => exact of_resume rfl taken
  | heartbeat c fails =>
      simp only [step] at taken
      split at taken
      · next at_phase =>
          cases fails <;> cases taken
          · exact of_heartbeat (by rw [at_phase]; rfl)
          · exact .beats s.liveness
      · cases taken
  | move c zoneId position =>
      simp only [step] at taken
      split at taken
      · next at_phase =>
          cases taken
          exact silent at_phase (.of_eval rfl)
      · cases taken
  | disconnect c present =>
      simp only [step] at taken
      split at taken
      · next at_phase =>
          cases taken
          exact silent at_phase (.of_eval rfl)
      · cases taken
  | crash c =>
      cases taken
      exact silent rfl (.to_gone _)

end Moves

end WorldZero.Server.Login
