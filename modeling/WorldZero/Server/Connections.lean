import WorldZero.Auth.Handshake
import WorldZero.Server.Admission

/-!
# From the handshake to the world

The handshakes and the requests that follow them, of any number of connections at once. What
the tables hold of a character changes only by a request of a connection that holds a token
of its account, issued to somebody who has shown the password.
-/

namespace WorldZero.Server.Connections

open Admission (SessionDeps account Own)
open Auth (Libraries Owner Sound)
open Transition (exec exec_cons exec_invariant Admissible)

structure State (κ Position : Type) where
  handshake : Auth.State κ
  admission : Admission.State κ Position

inductive Label (κ : Type) where
  | handshake (l : Auth.Label κ)
  | admission (l : Admission.Label κ)

variable {κ Position : Type} [DecidableEq κ] (lib : Libraries)
  (deps : κ → SessionDeps κ Position)

def authenticatedAs (accountId : AccountId) : Auth.Phase → Bool
  | .authenticated a _ _ _ => a = accountId
  | _ => false

/-- The requests of a connection begin when it is authenticated. -/
def enters (s : State κ Position) : Admission.Label κ → Bool
  | .enter k => authenticatedAs (account deps k) (s.handshake.phase k)
  | _ => true

def step (s : State κ Position) : Label κ → Option (State κ Position)
  | .handshake l => (Auth.step lib s.handshake l).map fun handshake => { s with handshake }
  | .admission l =>
      if enters deps s l then
        (Admission.step deps s.admission l).map fun admission => { s with admission }
      else none

def start (db : RealmDirectory.Database Position) : State κ Position :=
  ⟨Auth.start, Admission.start db⟩

def Drawn (s : State κ Position) : Label κ → Prop
  | .handshake l => Auth.Drawn lib s.handshake l
  | .admission l => Admission.Drawn s.admission l

/-- Whoever makes requests is authenticated. -/
structure Safe (s : State κ Position) : Prop where
  sound : Sound lib s.handshake
  own : Own deps s.admission
  entered : ∀ k, (s.admission.phase k).active = true →
    authenticatedAs (account deps k) (s.handshake.phase k) = true

variable {lib deps} {s t : State κ Position} {k : κ} {l : Label κ}

theorem authenticatedAs_iff {accountId : AccountId} {phase : Auth.Phase} :
    authenticatedAs accountId phase = true ↔
      ∃ username token roles, phase = .authenticated accountId username token roles := by
  cases phase <;> simp [authenticatedAs, eq_comm]

theorem authenticatedAs_step {handshake : Auth.State κ} {l : Auth.Label κ} {accountId : AccountId}
    (authenticated : authenticatedAs accountId (s.handshake.phase k) = true)
    (taken : Auth.step lib s.handshake l = some handshake) :
    authenticatedAs accountId (handshake.phase k) = true := by
  obtain ⟨username, token, roles, at_⟩ := authenticatedAs_iff.mp authenticated
  cases own : l.resumes k with
  | false =>
      rw [Auth.phase_of_other own (by simp [at_]) taken]
      exact authenticated
  | true =>
      unfold Auth.Label.resumes at own
      split at own
      next k' outcome id token =>
        obtain rfl := of_decide_eq_true own
        simp only [Auth.step, at_] at taken
        cases taken
      · cases own

theorem Safe.step (safe : Safe lib deps s) (drawn : Drawn lib s l)
    (taken : Connections.step lib deps s l = some t) : Safe lib deps t := by
  cases l with
  | handshake l =>
      obtain ⟨handshake, done, rfl⟩ := Option.map_eq_some_iff.mp taken
      exact ⟨safe.sound.step drawn done, safe.own,
        fun k active => authenticatedAs_step (safe.entered k active) done⟩
  | admission l =>
      simp only [Connections.step] at taken
      split at taken
      next enters =>
        obtain ⟨admission, done, rfl⟩ := Option.map_eq_some_iff.mp taken
        refine ⟨safe.sound, safe.own.step drawn done, fun k active => ?_⟩
        obtain before | rfl := Admission.active_step done active
        · exact safe.entered k before
        · exact enters
      · cases taken

/-- In every run what the tables hold of a character changes only by a request of a connection
that is authenticated as its owner, with the one token that was issued under its name, to a
connection that has shown the owner's password: itself, or the one whose token it presents. -/
theorem changed_by_owner {db : RealmDirectory.Database Position} {labels : List (Label κ)}
    {c : CharacterId} {accountId : AccountId}
    (drawn : Admissible (Connections.step lib deps) (Drawn lib) (start db) (labels ++ [l]))
    (reached : exec (Connections.step lib deps) (start db) labels = some s)
    (taken : Connections.step lib deps s l = some t)
    (owner : s.admission.db.owner c = some accountId)
    (changed : t.admission.db.footprint c ≠ s.admission.db.footprint c) :
    ∃ k username token roles, (∃ l', l = .admission l' ∧ l'.connection = some k) ∧
      s.handshake.phase k = .authenticated accountId username token roles ∧
      ∃ i ∈ s.handshake.issued, (∀ j ∈ s.handshake.issued, j.sessionToken = token ↔ j = i) ∧
        i.accountId = accountId ∧ Owner lib s.handshake i.connection accountId username ∧
        (i.connection = k ∨ s.handshake.message k = some (.resume token)) := by
  obtain ⟨first, last⟩ := (Transition.admissible_append reached).mp drawn
  have safe : Safe lib deps s := by
    refine exec_invariant (I := Safe lib deps) (fun _ _ _ safe drawn taken => safe.step drawn taken)
      ⟨Sound.start, ?_, ?_⟩ first reached
    · intro k id here
      cases here
    · intro k active
      cases active
  cases l with
  | handshake l =>
      obtain ⟨handshake, -, rfl⟩ := Option.map_eq_some_iff.mp taken
      exact absurd rfl changed
  | admission l =>
      simp only [Connections.step] at taken
      split at taken
      · obtain ⟨admission, done, rfl⟩ := Option.map_eq_some_iff.mp taken
        obtain ⟨-, -, same⟩ | ⟨k, new, its, -, permitted, -, -⟩ :=
          Admission.step_cases safe.own last.1 done
        · exact absurd (same c) changed
        · have mine : accountId = account deps k := by
            by_contra other
            exact changed (permitted.others c accountId owner other)
          have active : (s.admission.phase k).active = true := by
            by_contra inactive
            refine changed (Admission.footprint_of_inactive (fun k' its' => ?_) done c)
            rw [its] at its'
            obtain rfl := Option.some.inj its'
            exact Bool.eq_false_iff.mpr inactive
          obtain ⟨username, token, roles, at_⟩ := authenticatedAs_iff.mp (safe.entered k active)
          rw [← mine] at at_
          exact ⟨k, username, token, roles, ⟨l, rfl, its⟩, at_,
            safe.sound.issue_of_authenticated at_⟩
      · cases taken

namespace Knight

open Admission.Stranger (server knightId)
open Auth.Alice (salt token otherToken)
open RealmDirectory.TwoRealms (group knight)

def libraries : Libraries :=
  { Auth.Alice.libraries with
    parseUuid := fun text =>
      if text = "00000000-0000-0000-0000-000000000004" then some knight.accountId.uuid else none }

instance decidableDrawn (s : State Bool Unit) : ∀ l, Decidable (Drawn libraries s l)
  | .handshake l => inferInstanceAs (Decidable (Auth.Drawn libraries s.handshake l))
  | .admission l => inferInstanceAs (Decidable (Admission.Drawn s.admission l))

def answers (token : String) : Label Bool :=
  .handshake (.resume true .ok knight.accountId token)

def proceeds : Label Bool := .admission (.resume true .ok ⟨"", ""⟩ ⟨⟨9⟩, 10, 11, []⟩)

/-- The knight's owner registers and asks to delete it. -/
def asks : List (Label Bool) :=
  [.handshake (.receive true (.ok (.register "alice" "hunter2")) salt), answers token,
    answers token, answers otherToken, .admission (.enter true),
    .admission (.receive true (.ok (.deleteCharacter knightId))), proceeds, proceeds, proceeds]

theorem changed_by_owner_knight :
    ∃ s t, exec (step libraries fun _ => server) (start group) asks = some s ∧
      step libraries (fun _ => server) s proceeds = some t ∧
      t.admission.db.footprint knight.id ≠ s.admission.db.footprint knight.id ∧
      ∃ k username token roles,
        (∃ l', proceeds = .admission l' ∧ l'.connection = some k) ∧
        s.handshake.phase k = .authenticated knight.accountId username token roles ∧
        ∃ i ∈ s.handshake.issued, (∀ j ∈ s.handshake.issued, j.sessionToken = token ↔ j = i) ∧
          i.accountId = knight.accountId ∧
          Owner libraries s.handshake i.connection knight.accountId username ∧
          (i.connection = k ∨ s.handshake.message k = some (.resume token)) := by
  have drawn : Admissible (step libraries fun _ => server) (Drawn libraries) (start group)
      (asks ++ [proceeds]) := by decide
  obtain ⟨t, run, gone⟩ : ∃ t, exec (step libraries fun _ => server) (start group)
      (asks ++ [proceeds]) = some t ∧ t.admission.db.owner knight.id = none :=
    Transition.exec_reaches (by decide)
  obtain ⟨s, reached, rest⟩ := Transition.exec_append.mp run
  obtain ⟨s', reached', owner⟩ : ∃ s, exec (step libraries fun _ => server) (start group) asks =
      some s ∧ s.admission.db.owner knight.id = some knight.accountId :=
    Transition.exec_reaches (by decide)
  rw [reached] at reached'
  obtain rfl := Option.some.inj reached'
  obtain ⟨t', taken, same⟩ := exec_cons.mp rest
  obtain rfl := Transition.exec_nil.mp same
  have changed : t'.admission.db.footprint knight.id ≠ s.admission.db.footprint knight.id := by
    intro same
    rw [RealmDirectory.Touches.owner_of_footprint same, owner] at gone
    cases gone
  exact ⟨s, t', reached, taken, changed, changed_by_owner drawn reached taken owner changed⟩

end Knight

end WorldZero.Server.Connections
