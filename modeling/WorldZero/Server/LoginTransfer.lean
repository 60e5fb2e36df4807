import WorldZero.Server.LeaseExclusion

/-!
# Logins to bound realms and transfers

A transfer locks the character's row, refuses if the character is recorded as
live, and rewrites its realm, all in one transaction. A login reads the row, is
authorized by what it has read, and records liveness afterwards. The foreign key
of the liveness row makes its insertion wait for the transfer's lock, but not the
update of an expired one that is there, and nothing makes a login look at the
character's row again.

The two exclude each other as long as no transfer commits between a login's read
and its record, no expired row is renewed between a transfer's check and its
commit, and sessions have not lost their rows when a transfer checks.
-/

namespace WorldZero.Server.Login

/-- Where the transaction of a transfer is. Its `now()` is the time at which it began. -/
inductive TransferPhase where
  | requested
  | begun (now : ℕ)
  /-- The row is locked, its realm has been read. -/
  | loaded (now : ℕ) (source : RealmId)
  /-- Both realms are bound and the character is not live. -/
  | unlogged (source : RealmId)
  /-- The gate has let the character pass and its realm is rewritten, uncommitted. -/
  | moved (source : RealmId)
  | ended
  deriving DecidableEq

structure TransferState (ι τ Position : Type) where
  login : State ι Position
  /-- Whose transaction holds the character's row `FOR UPDATE`. -/
  lockedBy : Option τ
  transfer : τ → TransferPhase

inductive TransferLabel (ι τ Position : Type) where
  | login (l : Label ι Position)
  /-- The next statement of a transfer; it may fail, and the gate may refuse. -/
  | transfer (x : τ) (fails : Bool)

variable {ι τ Position : Type}

namespace TransferState

variable (s : TransferState ι τ Position)

/-- The insertion of a liveness row checks its foreign key and waits for the lock;
the update of one that is there does not. -/
def recordBlocked : Bool := s.lockedBy.isSome && s.login.liveness.isNone

/-- The statement waits for the lock. -/
def waits : Label ι Position → Bool
  | .resume c false =>
      match s.login.phase c with
      | .authorized _ => s.recordBlocked
      | .cleared _ (some _) => s.lockedBy.isSome
      | _ => false
  | .heartbeat _ false => s.recordBlocked
  | _ => false

variable [DecidableEq τ]

@[simps]
def goto (x : τ) (phase : TransferPhase) : TransferState ι τ Position :=
  { s with transfer := Function.update s.transfer x phase }

@[simps!]
def lock (x : τ) (now : ℕ) : TransferState ι τ Position :=
  { s.goto x (.loaded now s.login.character.realmId) with lockedBy := some x }

@[simps!]
def abort (x : τ) : TransferState ι τ Position := { s.goto x .ended with lockedBy := none }

def commit (x : τ) (destination : RealmId) : TransferState ι τ Position :=
  { s.abort x with
    login := { s.login with
      character := { s.login.character with realmId := destination } } }

/-- The next statement of the transaction. -/
def resume (d : Deployment ι) (destination : RealmId) (x : τ) (fails : Bool) :
    TransferPhase → Option (TransferState ι τ Position)
  | .requested => some (s.goto x (if fails then .ended else .begun s.login.now))
  | .begun now =>
      if fails then some (s.goto x .ended)
      else if s.lockedBy.isSome then none
      else some (s.lock x now)
  | .loaded now source =>
      if fails ∨ d.openOrBound source = .openRealm ∨ d.openOrBound destination = .openRealm ∨
          BoundLiveness.isLive s.login.liveness now then some (s.abort x)
      else some (s.goto x (.unlogged source))
  | .unlogged source => some (if fails then s.abort x else s.goto x (.moved source))
  | .moved _ => some (if fails then s.abort x else s.commit x destination)
  | .ended => none

end TransferState

def transferStep [DecidableEq ι] [DecidableEq τ] (d : Deployment ι) (characterId : CharacterId)
    (destination : τ → RealmId) (s : TransferState ι τ Position) :
    TransferLabel ι τ Position → Option (TransferState ι τ Position)
  | .login l =>
      if s.waits l then none
      else (step d characterId s.login l).map fun login => { s with login }
  | .transfer x fails => s.resume d (destination x) x fails (s.transfer x)

/-- Any rows, at any time. -/
def transferStart (rows : State ι Position) : TransferState ι τ Position where
  login := rows
  lockedBy := none
  transfer _ := .requested

/-- Joined to the world and recorded as live. -/
def TransferState.liveJoined (s : TransferState ι τ Position) (c : ι) : Bool :=
  (s.login.phase c).isJoined && BoundLiveness.isLive s.login.liveness s.login.now

namespace Phase

/-- The login has read a row of its own realm and is yet to record liveness. -/
def pendingAt (realmId : RealmId) : Phase Position → Bool
  | .selected character => character.realmId = realmId
  | .authorized _ => true
  | _ => false

def isAuthorized : Phase Position → Bool
  | .authorized _ => true
  | _ => false

end Phase

namespace TransferPhase

/-- The transaction holds the lock of the row. -/
def holdsLock : TransferPhase → Bool
  | .loaded _ _ | .unlogged _ | .moved _ => true
  | _ => false

/-- The transaction has found the character not live. -/
def checked : TransferPhase → Bool
  | .unlogged _ | .moved _ => true
  | _ => false

theorem holdsLock_of_checked {p : TransferPhase} (h : p.checked = true) : p.holdsLock = true := by
  cases p <;> first | rfl | cases h

end TransferPhase

/-! ### What keeps them apart -/

section Apart

variable (d : Deployment ι) (destination : τ → RealmId) (s : TransferState ι τ Position)

/-- No transfer to elsewhere commits between a login's read and its record. -/
def CommitsApart : TransferLabel ι τ Position → Prop
  | .transfer x false =>
      match s.transfer x with
      | .moved _ => ∀ c, (s.login.phase c).pendingAt (d.realmId c) = true →
          destination x = d.realmId c
      | _ => True
  | _ => True

/-- No login renews a row that is there between the check of a transfer to elsewhere and its
commit. -/
def RecordsApart : TransferLabel ι τ Position → Prop
  | .login (.resume c false) =>
      (s.login.phase c).isAuthorized = true → s.login.liveness.isSome = true →
        ∀ x, (s.transfer x).checked = true → destination x = d.realmId c
  | _ => True

/-- A transfer that checks finds a row that has not expired if anybody is connected
elsewhere. -/
def ChecksCovered : TransferLabel ι τ Position → Prop
  | .transfer x false =>
      match s.transfer x with
      | .loaded now _ => ∀ c, (s.login.phase c).registered = true → destination x ≠ d.realmId c →
          BoundLiveness.isLive s.login.liveness now = true
      | _ => True
  | _ => True

def Apart (l : TransferLabel ι τ Position) : Prop :=
  CommitsApart d destination s l ∧ RecordsApart d destination s l ∧ ChecksCovered d destination s l

instance [Fintype ι] (l : TransferLabel ι τ Position) :
    Decidable (CommitsApart d destination s l) := by
  unfold CommitsApart
  split
  · split <;> infer_instance
  · infer_instance

instance [Fintype τ] (l : TransferLabel ι τ Position) :
    Decidable (RecordsApart d destination s l) := by
  unfold RecordsApart
  split <;> infer_instance

instance [Fintype ι] (l : TransferLabel ι τ Position) :
    Decidable (ChecksCovered d destination s l) := by
  unfold ChecksCovered
  split
  · split <;> infer_instance
  · infer_instance

instance [Fintype ι] [Fintype τ] (l : TransferLabel ι τ Position) :
    Decidable (Apart d destination s l) := by
  unfold Apart
  infer_instance

end Apart

/-! ### The invariant -/

/-- Whoever is on the way to the world, or in it, is at home; and a transfer past its check
has the row locked, and nobody is connected elsewhere. -/
structure Homed (d : Deployment ι) (destination : τ → RealmId) (s : TransferState ι τ Position) :
    Prop where
  pending : ∀ c, (s.login.phase c).pendingAt (d.realmId c) = true →
    s.login.character.realmId = d.realmId c
  registered : ∀ c, (s.login.phase c).registered = true →
    s.login.character.realmId = d.realmId c
  locked : ∀ x, (s.transfer x).holdsLock = true → s.lockedBy = some x
  checked : ∀ x, (s.transfer x).checked = true → ∀ c, (s.login.phase c).registered = true →
    destination x = d.realmId c

namespace Homed

variable {d : Deployment ι} {characterId : CharacterId} {destination : τ → RealmId}
  {s t : TransferState ι τ Position} {c : ι} {x : τ} {phase next : Phase Position}
  {stage : TransferPhase} {login : State ι Position}

/-- A session that has joined is at home. -/
theorem at_home (inv : Homed d destination s) (live : s.liveJoined c = true) :
    s.login.character.realmId = d.realmId c := by
  simp only [TransferState.liveJoined, Bool.and_eq_true] at live
  refine inv.registered c ?_
  cases at_phase : s.login.phase c with
  | joined zoneId position => rfl
  | selecting | selected | authorized | recorded | despawned | released | cleared | gone =>
      rw [at_phase] at live
      cases live.1

section Logins

variable [DecidableEq ι]

/-- A statement that takes one connection on and leaves the character where it is. -/
theorem login_goto (inv : Homed d destination s)
    (goes : login.phase = Function.update s.login.phase c next)
    (stays : login.character.realmId = s.login.character.realmId)
    (pending : next.pendingAt (d.realmId c) = true → s.login.character.realmId = d.realmId c)
    (registered : next.registered = true → s.login.character.realmId = d.realmId c ∧
      ∀ x, (s.transfer x).checked = true → destination x = d.realmId c) :
    Homed d destination { s with login } where
  pending c' h := by
    simp only [goes, stays] at h ⊢
    by_cases same : c' = c
    · subst same
      exact pending (by simpa using h)
    · exact inv.pending c' (by simpa [same] using h)
  registered c' h := by
    simp only [goes, stays] at h ⊢
    by_cases same : c' = c
    · subst same
      exact (registered (by simpa using h)).1
    · exact inv.registered c' (by simpa [same] using h)
  locked := inv.locked
  checked x past c' h := by
    simp only [goes] at h
    by_cases same : c' = c
    · subst same
      exact (registered (by simpa using h)).2 x past
    · exact inv.checked x past c' (by simpa [same] using h)

omit [DecidableEq ι] in
/-- A statement that leaves everybody where they are. -/
theorem login_stay (inv : Homed d destination s) (goes : login.phase = s.login.phase)
    (stays : login.character.realmId = s.login.character.realmId) :
    Homed d destination { s with login } where
  pending c h := by
    simp only [goes, stays] at h ⊢
    exact inv.pending c h
  registered c h := by
    simp only [goes, stays] at h ⊢
    exact inv.registered c h
  locked := inv.locked
  checked x past c h := by
    simp only [goes] at h
    exact inv.checked x past c h

/-- Whoever leaves neither is on the way to the world any more nor in it. -/
theorem login_out (inv : Homed d destination s)
    (goes : login.phase = Function.update s.login.phase c next)
    (stays : login.character.realmId = s.login.character.realmId)
    (out : next.pendingAt (d.realmId c) = false ∧ next.registered = false) :
    Homed d destination { s with login } := by
  refine inv.login_goto goes stays (fun h => ?_) fun h => ?_
  · rw [out.1] at h
    cases h
  · rw [out.2] at h
    cases h

/-- Whoever is connected and goes on as connected. -/
theorem login_on (inv : Homed d destination s) (before : (s.login.phase c).registered = true)
    (goes : login.phase = Function.update s.login.phase c next)
    (stays : login.character.realmId = s.login.character.realmId) :
    Homed d destination { s with login } :=
  inv.login_goto goes stays (fun _ => inv.registered c before) fun _ =>
    ⟨inv.registered c before, fun x past => inv.checked x past c before⟩

theorem authorize {character : CharacterSummary Position} (inv : Homed d destination s)
    (bound : d.isOpen c = false) (selected : s.login.phase c = .selected character) :
    Homed d destination { s with login := s.login.authorize d c characterId character } := by
  unfold State.authorize
  split
  · next leases ok =>
      obtain ⟨-, home, -⟩ | ⟨unbound, -, -⟩ := authorizeLogin_ok ok
      · refine inv.login_goto (c := c) rfl rfl (fun _ => ?_) (fun h => by cases h)
        exact inv.pending c (by simp [selected, Phase.pendingAt, home])
      · rw [bound] at unbound
        cases unbound
  · exact inv.login_out (c := c) rfl rfl ⟨rfl, rfl⟩

/-- The lock keeps a new row from being inserted past a transfer's check, and the condition
an old one from being renewed. -/
theorem record {character : CharacterSummary Position} (inv : Homed d destination s)
    (authorized : s.login.phase c = .authorized character) (free : s.recordBlocked = false)
    (apart : s.login.liveness.isSome = true →
      ∀ x, (s.transfer x).checked = true → destination x = d.realmId c) :
    Homed d destination { s with login := s.login.record d c character } := by
  have goes : (s.login.record d c character).phase =
      Function.update s.login.phase c (.recorded character) := by
    unfold State.record
    split <;> rfl
  have stays : (s.login.record d c character).character = s.login.character := by
    unfold State.record
    split <;> rfl
  have home : s.login.character.realmId = d.realmId c :=
    inv.pending c (by rw [authorized]; rfl)
  refine inv.login_goto goes (congrArg _ stays) (fun h => by cases h) fun _ => ⟨home, ?_⟩
  intro x past
  have held := inv.locked x (TransferPhase.holdsLock_of_checked past)
  refine apart ?_ x past
  simpa [TransferState.recordBlocked, held] using free

theorem login_resume (inv : Homed d destination s) (bound : d.isOpen c = false) {fails : Bool}
    (free : s.waits (.resume c fails) = false)
    (apart : RecordsApart d destination s (.login (.resume c fails)))
    (at_phase : s.login.phase c = phase)
    (taken : s.login.resume d c characterId fails phase = some login) :
    Homed d destination { s with login } := by
  cases phase with
  | selecting =>
      cases fails <;> cases taken
      · refine inv.login_goto (c := c) rfl rfl (fun h => ?_) (fun h => by cases h)
        simpa [Phase.pendingAt] using h
      · exact inv.login_out (c := c) rfl rfl ⟨rfl, rfl⟩
  | selected character =>
      cases fails <;> cases taken
      · exact inv.authorize bound at_phase
      · exact inv.login_out (c := c) rfl rfl ⟨rfl, rfl⟩
  | authorized character =>
      cases fails <;> cases taken
      · simp only [TransferState.waits, at_phase] at free
        exact inv.record at_phase free (apart (by rw [at_phase]; rfl))
      · exact inv.login_out (c := c) rfl rfl ⟨rfl, rfl⟩
  | recorded character =>
      cases taken
      exact inv.login_on (c := c) (by rw [at_phase]; rfl) rfl rfl
  | despawned zoneId final | released zoneId final =>
      cases fails <;> cases taken <;> exact inv.login_out (c := c) rfl rfl ⟨rfl, rfl⟩
  | cleared zoneId final =>
      cases final <;> cases fails <;> cases taken <;>
        exact inv.login_out (c := c) rfl rfl ⟨rfl, rfl⟩
  | joined | gone => cases taken

theorem heartbeat (inv : Homed d destination s) :
    Homed d destination { s with login := s.login.heartbeat d c } := by
  unfold State.heartbeat
  split
  · exact inv.login_stay rfl rfl
  · split <;> exact inv.login_stay rfl rfl

theorem of_login {l : Label ι Position} (inv : Homed d destination s)
    (bound : ∀ c, d.isOpen c = false) (free : s.waits l = false)
    (apart : RecordsApart d destination s (.login l))
    (taken : Login.step d characterId s.login l = some login) :
    Homed d destination { s with login } := by
  cases l with
  | tick elapsed =>
      cases taken
      exact inv.login_stay rfl rfl
  | resume c fails => exact inv.login_resume (bound c) free apart rfl taken
  | heartbeat c fails =>
      simp only [Login.step] at taken
      split at taken
      · cases fails <;> cases taken
        · exact inv.heartbeat
        · exact inv.login_stay rfl rfl
      · cases taken
  | move c zoneId position =>
      simp only [Login.step] at taken
      split at taken
      · next at_phase =>
          cases taken
          exact inv.login_on (c := c) (by rw [at_phase]; rfl) rfl rfl
      · cases taken
  | disconnect c present =>
      simp only [Login.step] at taken
      split at taken <;> cases taken
      exact inv.login_out (c := c) rfl rfl ⟨rfl, rfl⟩
  | crash c =>
      cases taken
      exact inv.login_out (c := c) rfl rfl ⟨rfl, rfl⟩

end Logins

section Transfers

variable [DecidableEq τ]

/-- A statement of a transaction that writes nothing that others see. -/
theorem goto (inv : Homed d destination s) (lock : stage.holdsLock = true → s.lockedBy = some x)
    (checked : stage.checked = true → ∀ c, (s.login.phase c).registered = true →
      destination x = d.realmId c) : Homed d destination (s.goto x stage) where
  pending := inv.pending
  registered := inv.registered
  locked y h := by
    by_cases same : y = x
    · rw [same] at h ⊢
      exact lock (by simpa using h)
    · exact inv.locked y (by simpa [same] using h)
  checked y h := by
    by_cases same : y = x
    · subst same
      exact checked (by simpa using h)
    · exact inv.checked y (by simpa [same] using h)

/-- The lock is taken while nobody holds it. -/
theorem lock (inv : Homed d destination s) {now : ℕ} (free : s.lockedBy.isSome = false) :
    Homed d destination (s.lock x now) where
  pending := inv.pending
  registered := inv.registered
  locked y h := by
    by_cases same : y = x
    · simp [same]
    · have held := inv.locked y (by simpa [same] using h)
      simp [held] at free
  checked y h := by
    by_cases same : y = x
    · simp [same, TransferPhase.checked] at h
    · exact inv.checked y (by simpa [same] using h)

/-- The lock is given back by whom it belongs to. -/
theorem abort (inv : Homed d destination s) (held : s.lockedBy = some x) :
    Homed d destination (s.abort x) where
  pending := inv.pending
  registered := inv.registered
  locked y h := by
    by_cases same : y = x
    · simp [same, TransferPhase.holdsLock] at h
    · have other := inv.locked y (by simpa [same] using h)
      exact absurd (Option.some.inj (other.symm.trans held)) same
  checked y h := by
    by_cases same : y = x
    · simp [same, TransferPhase.checked] at h
    · exact inv.checked y (by simpa [same] using h)

/-- When a transfer commits, nobody is connected elsewhere or on the way there. -/
theorem commit (inv : Homed d destination s) (past : (s.transfer x).checked = true)
    (apart : ∀ c, (s.login.phase c).pendingAt (d.realmId c) = true →
      destination x = d.realmId c) : Homed d destination (s.commit x (destination x)) := by
  have released := inv.abort (inv.locked x (TransferPhase.holdsLock_of_checked past))
  exact ⟨apart, inv.checked x past, released.locked, released.checked⟩

theorem resume (inv : Homed d destination s) {fails : Bool} (at_stage : s.transfer x = stage)
    (commits : CommitsApart d destination s (.transfer x fails))
    (covered : ChecksCovered d destination s (.transfer x fails))
    (taken : s.resume d (destination x) x fails stage = some t) : Homed d destination t := by
  have held : stage.holdsLock = true → s.lockedBy = some x := fun h =>
    inv.locked x (at_stage ▸ h)
  cases stage with
  | requested =>
      cases fails <;> cases taken <;>
        exact inv.goto (fun h => by cases h) (fun h => by cases h)
  | begun now =>
      simp only [TransferState.resume] at taken
      split at taken
      · cases taken
        exact inv.goto (fun h => by cases h) (fun h => by cases h)
      · split at taken
        · cases taken
        · next free =>
            cases taken
            exact inv.lock (by simpa using free)
  | loaded now source =>
      simp only [TransferState.resume] at taken
      split at taken
      · cases taken
        exact inv.abort (held rfl)
      · next passed =>
          cases taken
          refine inv.goto (fun _ => held rfl) fun _ c connected => ?_
          -- whoever is connected elsewhere would have been found live
          by_contra elsewhere
          push Not at passed
          obtain ⟨works, -, -, dead⟩ := passed
          obtain rfl : fails = false := by simpa using works
          simp only [ChecksCovered, at_stage] at covered
          exact dead (covered c connected elsewhere)
  | unlogged source =>
      cases fails <;> cases taken
      · refine inv.goto (fun _ => held rfl) fun _ => ?_
        exact inv.checked x (by rw [at_stage]; rfl)
      · exact inv.abort (held rfl)
  | moved source =>
      cases fails <;> cases taken
      · simp only [CommitsApart, at_stage] at commits
        exact inv.commit (by rw [at_stage]; rfl) commits
      · exact inv.abort (held rfl)
  | ended => cases taken

end Transfers

theorem step [DecidableEq ι] [DecidableEq τ] {l : TransferLabel ι τ Position}
    (inv : Homed d destination s) (bound : ∀ c, d.isOpen c = false)
    (apart : Apart d destination s l)
    (taken : transferStep d characterId destination s l = some t) : Homed d destination t := by
  obtain ⟨commits, records, covered⟩ := apart
  cases l with
  | login l =>
      simp only [transferStep] at taken
      split at taken
      · cases taken
      · next free =>
          obtain ⟨login, moved, rfl⟩ := Option.map_eq_some_iff.mp taken
          exact inv.of_login bound (by simpa using free) records moved
  | transfer x fails => exact inv.resume rfl commits covered taken

end Homed

theorem homed_start {d : Deployment ι} {destination : τ → RealmId} {rows : State ι Position}
    (nobody : ∀ c, rows.phase c = .selecting) : Homed d destination (transferStart rows) where
  pending c h := by
    simp only [transferStart, nobody c] at h
    cases h
  registered c h := by
    simp only [transferStart, nobody c] at h
    cases h
  locked _ h := by cases h
  checked _ h := by cases h

/-- A character that is joined live on a bound realm is not stored as one of another bound
realm, from any rows and in every interleaving of logins, heartbeats, departures and
transfers that keep apart. -/
theorem live_at_home [DecidableEq ι] [DecidableEq τ] (d : Deployment ι)
    (characterId : CharacterId) (destination : τ → RealmId) (bound : ∀ c, d.isOpen c = false)
    (rows : State ι Position) (nobody : ∀ c, rows.phase c = .selecting)
    {ls : List (TransferLabel ι τ Position)} {s : TransferState ι τ Position}
    (apart : Transition.Admissible (transferStep d characterId destination)
      (Apart d destination) (transferStart rows) ls)
    (run : Transition.exec (transferStep d characterId destination) (transferStart rows) ls =
      some s) (c : ι) (live : s.liveJoined c = true) :
    ¬ (d.openOrBound s.login.character.realmId = .boundRealm ∧
      s.login.character.realmId ≠ d.realmId c) := by
  have inv : Homed d destination s :=
    Transition.exec_invariant (fun _ _ _ inv apart taken => inv.step bound apart taken)
      (homed_start nobody) apart run
  rintro ⟨-, elsewhere⟩
  exact elsewhere (inv.at_home live)

namespace ThreeConnections

def elsewhere : RealmId := .fromUuid 2

/-- The third connection is with a server of another realm. -/
def servers : Deployment (Fin 3) :=
  { server .boundRealm with realmId := fun c => if c = 2 then elsewhere else home }

/-- A liveness row has been left behind and has expired. -/
def leftBehind : State (Fin 3) ℕ :=
  { start stored with now := 90000000, liveness := some ⟨home, 60000000⟩ }

def logins (ls : List (Label (Fin 3) ℕ)) : List (TransferLabel (Fin 3) (Fin 2) ℕ) :=
  ls.map .login

def statements (x : Fin 2) (n : ℕ) : List (TransferLabel (Fin 3) (Fin 2) ℕ) :=
  List.replicate n (.transfer x false)

/-- The first transfer finds the character live. Its server then goes down, and the second
transfer moves the character, which thereafter logs in on the other realm only. -/
def movesOn : List (TransferLabel (Fin 3) (Fin 2) ℕ) :=
  logins (logsIn 0 ++ [.tick 20000000, .heartbeat 0 false, .tick 20000000]) ++ statements 0 3 ++
    logins [.crash 0, .tick 10000001] ++ statements 1 5 ++
    logins ([.resume 1 false, .resume 1 false] ++ logsIn 2 ++ [.tick 5000000])

theorem live_at_home_after_transfer :
    ∃ s, Transition.exec (transferStep servers hero fun _ => elsewhere)
        (transferStart leftBehind) movesOn = some s ∧ s.liveJoined 2 = true ∧
      ¬ (servers.openOrBound s.login.character.realmId = .boundRealm ∧
        s.login.character.realmId ≠ servers.realmId 2) := by
  have ends : (Transition.exec (transferStep servers hero fun _ => elsewhere)
      (transferStart leftBehind) movesOn).any (fun s => decide (s.liveJoined 2 = true)) = true := by
    decide
  obtain ⟨s, run, live⟩ := Transition.exec_reaches ends
  exact ⟨s, run, live, live_at_home _ _ _ (by decide) _ (fun _ => rfl) (by decide) run 2
    live⟩

/-- The transfer commits after the login has been authorized and before it is
recorded: the character is joined on the realm that it has left. -/
theorem live_after_transfer :
    ¬ ∀ (ls : List (TransferLabel (Fin 3) (Fin 2) ℕ)) (s : TransferState (Fin 3) (Fin 2) ℕ),
      Transition.exec (transferStep (server .boundRealm) hero fun _ => elsewhere)
        (transferStart (start stored)) ls = some s →
      ∀ c, s.liveJoined c = true →
        ¬ ((server .boundRealm).openOrBound s.login.character.realmId = .boundRealm ∧
          s.login.character.realmId ≠ (server .boundRealm).realmId c) := by
  intro atHome
  have ends : (Transition.exec (transferStep (server .boundRealm) hero fun _ => elsewhere)
      (transferStart (start stored)) (logins [.resume 0 false, .resume 0 false] ++
        statements 0 5 ++ logins [.resume 0 false, .resume 0 false])).any
      (fun s => decide (s.liveJoined 0 = true ∧ s.login.character.realmId = elsewhere)) =
      true := by decide
  obtain ⟨s, run, live, moved⟩ := Transition.exec_reaches ends
  refine atHome _ s run 0 live ⟨rfl, ?_⟩
  rw [moved]
  decide

end ThreeConnections

end WorldZero.Server.Login
