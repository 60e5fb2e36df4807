import WorldZero.Server.DeleteCharacter
import WorldZero.Transfer.Execute

/-!
# Liveness of a bound character

The liveness row has no owner: every connection of the character, of whatever server,
refreshes the one row, and each one's cleanup deletes it. A connection that heartbeats in
time is therefore not covered by it once another one has left. It is covered in every run
in which whoever leaves is the last, and in which no server's time to live cuts short what
another's has promised.
-/

namespace WorldZero.Server.Login

open Transfer RealmDirectory

variable {ι Position : Type} [DecidableEq ι] {d : Deployment ι} {ttl : ι → ℕ}
  {characterId : CharacterId}

/-- The connection whose task or heartbeat takes the step. -/
def Label.connection : Label ι Position → Option ι
  | .tick _ => none
  | .resume c _ | .heartbeat c _ | .move c _ _ | .disconnect c _ | .crash c => some c

/-- Each server is configured with its own time to live. -/
def Deployment.configured (d : Deployment ι) (ttl : ι → ℕ) (l : Label ι Position) :
    Deployment ι :=
  { d with leaseTtl := (l.connection.map ttl).getD d.leaseTtl }

/-- The logins, and when each connection has last registered as live. -/
structure LiveState (ι Position : Type) where
  login : State ι Position
  beat : ι → Option ℕ

def liveStep (d : Deployment ι) (ttl : ι → ℕ) (characterId : CharacterId)
    (s : LiveState ι Position) (l : Label ι Position) : Option (LiveState ι Position) :=
  (step (d.configured ttl l) characterId s.login l).map fun login =>
    { login
      beat :=
        match l.registers d s.login with
        | some c => Function.update s.beat c (some s.login.now)
        | none => s.beat }

def liveStart (character : CharacterSummary Position) : LiveState ι Position :=
  ⟨start character, fun _ => none⟩

/-- In the world of a bound realm, or about to join it, and not late with its heartbeat. -/
def LiveState.inTime (d : Deployment ι) (ttl : ι → ℕ) (s : LiveState ι Position) (c : ι) : Bool :=
  !d.isOpen c && (s.login.phase c).registered &&
    (s.beat c).any fun beat => decide (s.login.now < beat + ttl c)

/-- Whoever leaves leaves no connection behind that is in time. -/
def LeavesLast (d : Deployment ι) (ttl : ι → ℕ) (s : LiveState ι Position)
    (l : Label ι Position) : Prop :=
  l.leaves s.login = true → ∀ c, s.inTime d ttl c = false

/-- Whoever registers as live does so for at least as long as the others rely on. -/
def Outlasts (d : Deployment ι) (ttl : ι → ℕ) (s : LiveState ι Position)
    (l : Label ι Position) : Prop :=
  ∀ c' ∈ l.registers d s.login, ∀ c ≠ c', s.inTime d ttl c = true →
    ∀ beat ∈ s.beat c, beat + ttl c ≤ s.login.now + ttl c'

/-- The row lasts as long as every connection that is in time has been promised. -/
def Covered (d : Deployment ι) (ttl : ι → ℕ) (s : LiveState ι Position) : Prop :=
  ∀ c, s.inTime d ttl c = true →
    ∃ row ∈ s.login.liveness, ∃ beat ∈ s.beat c, beat + ttl c ≤ row.expiresAt

section Steps

variable {s t : LiveState ι Position} {l : Label ι Position} {c c' : ι}

omit [DecidableEq ι] in
theorem inTime_iff :
    s.inTime d ttl c = true ↔ d.isOpen c = false ∧ (s.login.phase c).registered = true ∧
      ∃ beat ∈ s.beat c, s.login.now < beat + ttl c := by
  simp [LiveState.inTime, Option.any_eq_true, and_assoc]

omit [DecidableEq ι] in
theorem connection_of_registers (registers : l.registers d s.login = some c) :
    l.connection = some c := by
  cases l with
  | resume c' fails =>
      cases fails with
      | false =>
          simp only [Label.registers] at registers
          split at registers
          · split at registers <;> cases registers
            rfl
          · cases registers
      | true => cases registers
  | heartbeat c' fails =>
      cases fails with
      | false =>
          simp only [Label.registers] at registers
          split at registers <;> cases registers
          rfl
      | true => cases registers
  | tick | move | disconnect | crash => cases registers

theorem isOpen_of_leases {login : State ι Position} (leases : l.leases d login = some c) :
    d.isOpen c = true := by
  cases l with
  | resume c' fails =>
      cases fails with
      | false =>
          simp only [Label.leases] at leases
          split at leases
          next taken =>
            cases leases
            simp only [Bool.and_eq_true] at taken
            exact taken.1.2
          · cases leases
      | true => cases leases
  | heartbeat c' fails =>
      cases fails with
      | false =>
          simp only [Label.leases] at leases
          split at leases
          next taken =>
            cases leases
            simp only [Bool.and_eq_true] at taken
            exact taken.1
          · cases leases
      | true => cases leases
  | tick | move | disconnect | crash => cases leases

/-- On a bound realm only the registration itself makes a connection a registered one. -/
theorem registered_of_step {login login' : State ι Position} (bound : d.isOpen c = false)
    (taken : step d characterId login l = some login')
    (registered : (login'.phase c).registered = true) :
    (login.phase c).registered = true ∨ l.registers d login = some c := by
  have enters : Enters d login login' l c := .of_step taken
  have of_admitted {phase : Phase Position} (admitted : phase.admitted (d.isOpen c) = true) :
      phase.registered = true := by
    rw [bound] at admitted
    cases phase <;> first | rfl | cases admitted
  have of_joined {phase : Phase Position} (joined : phase.isJoined = true) :
      phase.registered = true := by
    cases phase <;> first | rfl | cases joined
  cases at_phase : login'.phase c with
  | recorded character =>
      obtain admitted | leases | registers := enters.admitted (by rw [at_phase]; rfl)
      · exact .inl (of_admitted admitted)
      · rw [isOpen_of_leases leases] at bound
        cases bound
      · exact .inr registers
  | joined zoneId position =>
      obtain joined | admitted := enters.joined (by rw [at_phase]; rfl)
      · exact .inl (of_joined joined)
      · exact .inl (of_admitted admitted)
  | selecting | selected | authorized | despawned | released | cleared | gone =>
      rw [at_phase] at registered
      cases registered

/-- A step registers one connection, which the row then covers, or clears the row, or leaves
it as it is. -/
theorem liveStep_eq_some (taken : liveStep d ttl characterId s l = some t) :
    step (d.configured ttl l) characterId s.login l = some t.login ∧
      ((∃ c, l.registers d s.login = some c ∧
        t.beat = Function.update s.beat c (some s.login.now) ∧
        t.login.liveness = some (.join (d.realmId c) s.login.now (ttl c))) ∨
      (l.registers d s.login = none ∧ t.beat = s.beat ∧
        t.login.liveness = if l.leaves s.login then none else s.login.liveness)) := by
  obtain ⟨login, moved, rfl⟩ := Option.map_eq_some_iff.mp taken
  refine ⟨moved, ?_⟩
  have written := liveness_of_step moved
  have same : l.registers (d.configured ttl l) s.login = l.registers d s.login := rfl
  rw [same] at written
  cases registers : l.registers d s.login with
  | some c =>
      have configured : (d.configured ttl l).leaseTtl = ttl c := by
        simp [Deployment.configured, connection_of_registers registers]
      rw [registers] at written
      simp only [configured] at written
      exact .inl ⟨c, rfl, rfl, written⟩
  | none =>
      rw [registers] at written
      exact .inr ⟨rfl, rfl, written⟩

/-- A connection that does not register is in time only if it has been so before. -/
theorem inTime_of_step (taken : liveStep d ttl characterId s l = some t)
    (other : l.registers d s.login ≠ some c) (in_time : t.inTime d ttl c = true) :
    s.inTime d ttl c = true ∧ t.beat c = s.beat c := by
  obtain ⟨moved, effect⟩ := liveStep_eq_some taken
  have same : t.beat c = s.beat c := by
    obtain ⟨c', registers, beat, -⟩ | ⟨-, beat, -⟩ := effect
    · have ne : c ≠ c' := fun eq => other (eq ▸ registers)
      rw [beat, Function.update_of_ne ne]
    · rw [beat]
  obtain ⟨bound, registered, last, last_beat, running⟩ := inTime_iff.mp in_time
  rw [same] at last_beat
  have before : (s.login.phase c).registered = true := by
    obtain before | registers := registered_of_step (d := d.configured ttl l) bound moved registered
    · exact before
    · exact absurd registers other
  have earlier : s.login.now < last + ttl c := lt_of_le_of_lt (now_of_step moved) running
  exact ⟨inTime_iff.mpr ⟨bound, before, last, last_beat, earlier⟩, same⟩

theorem Covered.step (covered : Covered d ttl s) (leavesLast : LeavesLast d ttl s l)
    (outlasts : Outlasts d ttl s l) (taken : liveStep d ttl characterId s l = some t) :
    Covered d ttl t := by
  intro c in_time
  obtain ⟨-, ⟨c', registers, beat, written⟩ | ⟨registers, beat, written⟩⟩ :=
    liveStep_eq_some taken
  · refine ⟨_, written, ?_⟩
    by_cases own : c = c'
    · subst own
      exact ⟨s.login.now, by rw [beat, Function.update_self]; rfl, le_rfl⟩
    · have other : l.registers d s.login ≠ some c := by
        rw [registers]
        exact fun eq => own (Option.some.inj eq).symm
      obtain ⟨before, same⟩ := inTime_of_step taken other in_time
      obtain ⟨-, -, last, last_beat, -⟩ := inTime_iff.mp before
      exact ⟨last, same ▸ last_beat, outlasts c' registers c own before last last_beat⟩
  · obtain ⟨before, same⟩ := inTime_of_step taken (by simp [registers]) in_time
    have stays : ¬ l.leaves s.login = true := by
      intro leaves
      rw [leavesLast leaves c] at before
      cases before
    rw [if_neg stays] at written
    obtain ⟨row, in_row, last, last_beat, promised⟩ := covered c before
    exact ⟨row, written ▸ in_row, last, same ▸ last_beat, promised⟩

omit [DecidableEq ι] in
theorem Covered.isLive (covered : Covered d ttl s) (in_time : s.inTime d ttl c = true) :
    BoundLiveness.isLive s.login.liveness s.login.now = true := by
  obtain ⟨row, in_row, last, last_beat, promised⟩ := covered c in_time
  obtain ⟨-, -, last', last_beat', running⟩ := inTime_iff.mp in_time
  obtain rfl : last = last' := Option.some.inj (last_beat.symm.trans last_beat')
  exact (Option.any_eq_true _ _).mpr
    ⟨row, in_row, decide_eq_true (lt_of_lt_of_le running promised)⟩

end Steps

/-- In every run in which whoever leaves is the last that is in time, and in which nobody's
registration is shorter than what another one has been promised, a character is live as
long as one of its connections is in time; so that no transfer and no guarded deletion of
it goes through. -/
theorem live_while_in_time (d : Deployment ι) (ttl : ι → ℕ) (characterId : CharacterId)
    (character : CharacterSummary Position) {ls : List (Label ι Position)}
    {s : LiveState ι Position}
    (legal : Transition.Admissible (liveStep d ttl characterId)
      (fun s l => LeavesLast d ttl s l ∧ Outlasts d ttl s l) (liveStart character) ls)
    (run : Transition.exec (liveStep d ttl characterId) (liveStart character) ls = some s)
    {c : ι} (in_time : s.inTime d ttl c = true) :
    BoundLiveness.isLive s.login.liveness s.login.now = true ∧
      (∀ (executor : TransferExecutor) (db : Database Position) (request : TransferRequest)
        (successId failureId : Uuid),
        db.boundLiveness request.characterId = s.login.liveness → db.now = s.login.now →
        ∃ e, (executor.transfer db request successId failureId).1 = .error e) ∧
      ∀ (request : DeleteState ι Position) (c' : ι), request.login = s.login →
        request.delete c' false .unleased = request.goto c' .idle := by
  have covered : Covered d ttl s := by
    refine Transition.exec_invariant ?_ ?_ legal run
    · intro s l t covered legal taken
      exact covered.step legal.1 legal.2 taken
    · intro c in_time
      obtain ⟨-, registered, -⟩ := inTime_iff.mp in_time
      cases registered
  have live := covered.isLive in_time
  refine ⟨live, ?_, ?_⟩
  · intro executor db request successId failureId row now
    refine transfer_refused ?_
    rw [row, now]
    exact live
  · intro request c' same
    simp only [DeleteState.delete, Bool.false_eq_true, if_false]
    rw [same, if_pos live]

/-- Under a common time to live no registration is too short. -/
theorem outlasts_of_common_ttl (character : CharacterSummary Position)
    {ls : List (Label ι Position)} (common : ∀ c c', ttl c = ttl c')
    (legal : Transition.Admissible (liveStep d ttl characterId) (LeavesLast d ttl)
      (liveStart character) ls) :
    Transition.Admissible (liveStep d ttl characterId)
      (fun s l => LeavesLast d ttl s l ∧ Outlasts d ttl s l) (liveStart character) ls := by
  refine Transition.Admissible.of_invariant
    (I := fun s : LiveState ι Position => ∀ c, ∀ beat ∈ s.beat c, beat ≤ s.login.now)
    ?_ ?_ ?_ legal
  · intro s l t past _ taken c beat last_beat
    obtain ⟨moved, effect⟩ := liveStep_eq_some taken
    refine le_trans ?_ (now_of_step moved)
    obtain ⟨c', -, same, -⟩ | ⟨-, same, -⟩ := effect
    · rw [same] at last_beat
      by_cases own : c = c'
      · subst own
        simp only [Function.update_self, Option.mem_def, Option.some.injEq] at last_beat
        exact last_beat.ge
      · rw [Function.update_of_ne own] at last_beat
        exact past c beat last_beat
    · rw [same] at last_beat
      exact past c beat last_beat
  · intro s l past leavesLast
    refine ⟨leavesLast, fun c' _ c _ _ beat last_beat => ?_⟩
    rw [common c c']
    exact Nat.add_le_add_right (past c beat last_beat) (ttl c')
  · intro c beat last_beat
    cases last_beat

namespace ThreeConnections

/-- The second connection's server lets a liveness row last for twenty seconds only. -/
def ttls (c : Fin 3) : ℕ := if c = 1 then 20000000 else 30000000

instance (s : LiveState (Fin 3) ℕ) (l : Label (Fin 3) ℕ) :
    Decidable (LeavesLast (server .boundRealm) ttls s l) := by
  unfold LeavesLast
  infer_instance

instance (s : LiveState (Fin 3) ℕ) (l : Label (Fin 3) ℕ) :
    Decidable (Outlasts (server .boundRealm) ttls s l) := by
  unfold Outlasts
  infer_instance

/-- After one connection has left, two others are in the world at once, and both heartbeat. -/
def overlap : List (Label (Fin 3) ℕ) :=
  logsIn 2 ++ logsOut 2 ++ logsIn 1 ++ logsIn 0 ++
    [.tick 10000000, .heartbeat 1 false, .tick 5000000, .heartbeat 0 false, .tick 10000000]

theorem live_while_in_time_alone :
    ∃ s, Transition.exec (liveStep (server .boundRealm) ttls hero) (liveStart stored) overlap =
        some s ∧ (s.login.phase 0).isJoined = true ∧ (s.login.phase 1).isJoined = true ∧
      s.inTime (server .boundRealm) ttls 0 = true ∧
      BoundLiveness.isLive s.login.liveness s.login.now = true := by
  have ends : (Transition.exec (liveStep (server .boundRealm) ttls hero) (liveStart stored)
      overlap).any
      (fun s => decide ((s.login.phase 0).isJoined = true ∧ (s.login.phase 1).isJoined = true ∧
        s.inTime (server .boundRealm) ttls 0 = true ∧
        s.inTime (server .boundRealm) ttls 1 = true)) = true := by decide
  obtain ⟨s, run, joined₀, joined₁, in_time₀, in_time₁⟩ := Transition.exec_reaches ends
  exact ⟨s, run, joined₀, joined₁, in_time₀,
    (live_while_in_time _ _ _ _ (by decide) run in_time₁).1⟩

/-- Two connections join, one of them disconnects, and the other is no longer live. -/
theorem not_live_after_other_leaves :
    ¬ ∀ (ls : List (Label (Fin 3) ℕ)) (s : LiveState (Fin 3) ℕ),
      Transition.exec (liveStep (server .boundRealm) (fun _ => 30000000) hero)
        (liveStart stored) ls = some s →
      ∀ c, (s.login.phase c).isJoined = true →
        s.inTime (server .boundRealm) (fun _ => 30000000) c = true →
        BoundLiveness.isLive s.login.liveness s.login.now = true := by
  intro live
  have ends : (Transition.exec (liveStep (server .boundRealm) (fun _ => 30000000) hero)
      (liveStart stored) (logsIn 0 ++ logsIn 1 ++ logsOut 0)).any
      (fun s => decide ((s.login.phase 1).isJoined = true ∧
        s.inTime (server .boundRealm) (fun _ => 30000000) 1 = true ∧
        BoundLiveness.isLive s.login.liveness s.login.now = false)) = true := by decide
  obtain ⟨s, run, joined, in_time, dead⟩ := Transition.exec_reaches ends
  exact absurd (live _ s run 1 joined in_time) (by simp [dead])

end ThreeConnections

end WorldZero.Server.Login
