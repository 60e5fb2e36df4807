import WorldZero.Server.LeaseExclusion

/-!
# What a login writes

Which steps of a connection write the lease and the liveness row of the character, what the
rows are afterwards, and how a connection comes into the world: it is admitted by a row
that it has written itself.
-/

namespace WorldZero.Server.Login

variable {ι Position : Type} [DecidableEq ι] {d : Deployment ι} {characterId : CharacterId}

/-- Whose lease the step inserts or moves. -/
def Label.leases (d : Deployment ι) (s : State ι Position) : Label ι Position → Option ι
  | .resume c false =>
      if (s.phase c).isSelected && d.isOpen c &&
          (Lease.acquire s.leases.row c s.now d.leaseTtl).isSome then some c else none
  | .heartbeat c false =>
      if d.isOpen c && (Lease.renew s.leases.row c s.now d.leaseTtl).isSome then some c else none
  | _ => none

/-- Which connection the step registers as live. -/
def Label.registers (d : Deployment ι) (s : State ι Position) : Label ι Position → Option ι
  | .resume c false =>
      match s.phase c with
      | .authorized _ => if d.isOpen c then none else some c
      | _ => none
  | .heartbeat c false => if d.isOpen c then none else some c
  | _ => none

/-- The step clears the liveness row. -/
def Label.leaves (s : State ι Position) : Label ι Position → Bool
  | .resume c false =>
      match s.phase c with
      | .released _ _ => true
      | _ => false
  | _ => false

theorem isLive_mono {row : Option BoundLiveness} {now later : ℕ} (le : now ≤ later)
    (live : BoundLiveness.isLive row later = true) : BoundLiveness.isLive row now = true :=
  Lease.unexpired_mono le live

section Writes

variable {s t : State ι Position} {l : Label ι Position} {c : ι}

theorem now_of_step (taken : step d characterId s l = some t) : s.now ≤ t.now := by
  cases Moves.of_step taken with
  | waits elapsed => exact Nat.le_add_right _ _
  | goes | beats | reads | authorizes | renews | releases | stores => exact le_rfl

theorem heartbeat_of_step {fails : Bool}
    (taken : step d characterId s (.heartbeat c fails) = some t) :
    (s.phase c).isJoined = true ∧ t = if fails then s else s.heartbeat d c := by
  simp only [step] at taken
  split at taken
  · next at_phase =>
      cases taken
      exact ⟨by rw [at_phase]; rfl, rfl⟩
  · cases taken

theorem move_of_step {zoneId : String} {position : Position}
    (taken : step d characterId s (.move c zoneId position) = some t) :
    (s.phase c).isJoined = true ∧ t = s.goto c (.joined zoneId position) := by
  simp only [step] at taken
  split at taken
  · next at_phase =>
      cases taken
      exact ⟨by rw [at_phase]; rfl, rfl⟩
  · cases taken

theorem disconnect_of_step {present : Bool}
    (taken : step d characterId s (.disconnect c present) = some t) :
    ∃ zoneId final, t = s.goto c (.despawned zoneId final) := by
  simp only [step] at taken
  split at taken
  · cases taken
    exact ⟨_, _, rfl⟩
  · cases taken

theorem liveness_heartbeat :
    (s.heartbeat d c).liveness =
      if d.isOpen c then s.liveness else some (.join (d.realmId c) s.now d.leaseTtl) := by
  unfold State.heartbeat
  split
  · next bound => simp [Deployment.isOpen, bound]
  · next unbound => split <;> simp [Deployment.isOpen, unbound]

theorem row_heartbeat :
    (s.heartbeat d c).leases.row = s.leases.row ∨
      ((Label.heartbeat c false).leases d s).isSome = true := by
  unfold State.heartbeat
  split
  · exact .inl rfl
  · next unbound =>
      split
      · next row renewed => exact .inr (by simp [Label.leases, Deployment.isOpen, unbound, renewed])
      · exact .inl rfl

/-- The world's own steps write neither row. -/
theorem rows_of_step (taken : step d characterId s l = some t)
    (world : (∀ c fails, l ≠ .resume c fails) ∧ ∀ c fails, l ≠ .heartbeat c fails) :
    t.leases = s.leases ∧ t.liveness = s.liveness := by
  cases l with
  | tick elapsed =>
      cases taken
      exact ⟨rfl, rfl⟩
  | resume c fails => exact absurd rfl (world.1 c fails)
  | heartbeat c fails => exact absurd rfl (world.2 c fails)
  | move c zoneId position =>
      obtain ⟨-, rfl⟩ := move_of_step taken
      exact ⟨rfl, rfl⟩
  | disconnect c present =>
      obtain ⟨zoneId, final, rfl⟩ := disconnect_of_step taken
      exact ⟨rfl, rfl⟩
  | crash c =>
      cases taken
      exact ⟨rfl, rfl⟩

theorem row_authorize {character : CharacterSummary Position}
    (selected : s.phase c = .selected character) :
    (s.authorize d c characterId character).leases.row = s.leases.row ∨
      ((Label.resume c false).leases d s).isSome = true := by
  unfold State.authorize
  split
  · next ok =>
      obtain ⟨-, -, rfl⟩ | ⟨unbound, rfl, row, acquired⟩ := authorizeLogin_ok ok
      · exact .inl rfl
      · exact .inr (by simp [Label.leases, selected, Phase.isSelected, unbound, acquired])
  · exact .inl rfl

theorem liveness_authorize {character : CharacterSummary Position} :
    (s.authorize d c characterId character).liveness = s.liveness := by
  unfold State.authorize
  split <;> rfl

theorem liveness_record {character : CharacterSummary Position} :
    (s.record d c character).liveness =
      if d.isOpen c then s.liveness else some (.join (d.realmId c) s.now d.leaseTtl) := by
  unfold State.record
  split
  · next bound => simp [Deployment.isOpen, bound]
  · next unbound => simp [Deployment.isOpen, unbound]

theorem leases_record {character : CharacterSummary Position} :
    (s.record d c character).leases = s.leases := by
  unfold State.record
  split <;> rfl

theorem row_of_resume {fails : Bool} {phase : Phase Position} (at_phase : s.phase c = phase)
    (taken : s.resume d c characterId fails phase = some t) :
    t.leases.row = s.leases.row ∨ t.leases.row = none ∨
      ((Label.resume c fails).leases d s).isSome = true := by
  cases phase with
  | selected character =>
      cases fails <;> cases taken
      · exact (row_authorize at_phase).imp_right .inr
      · exact .inl rfl
  | authorized character =>
      cases fails <;> cases taken
      · exact .inl (congrArg _ leases_record)
      · exact .inl rfl
  | despawned zoneId final =>
      cases fails <;> cases taken
      · exact .inr (.inl rfl)
      · exact .inl rfl
  | selecting | released =>
      cases fails <;> cases taken <;> exact .inl rfl
  | recorded =>
      cases taken
      exact .inl rfl
  | cleared zoneId final =>
      cases final <;> cases fails <;> cases taken <;> exact .inl rfl
  | joined | gone => cases taken

theorem row_of_step (taken : step d characterId s l = some t) :
    t.leases.row = s.leases.row ∨ t.leases.row = none ∨ (l.leases d s).isSome = true := by
  cases l with
  | resume c fails => exact row_of_resume rfl taken
  | heartbeat c fails =>
      obtain ⟨-, rfl⟩ := heartbeat_of_step taken
      cases fails with
      | false => exact row_heartbeat.imp_right .inr
      | true => exact .inl rfl
  | tick | move | disconnect | crash =>
      exact .inl (congrArg _ (rows_of_step taken (by simp)).1)

theorem liveness_of_resume {fails : Bool} {phase : Phase Position} (at_phase : s.phase c = phase)
    (taken : s.resume d c characterId fails phase = some t) :
    t.liveness = match (Label.resume c fails).registers d s with
      | some c => some (.join (d.realmId c) s.now d.leaseTtl)
      | none => if (Label.resume c fails).leaves s then none else s.liveness := by
  cases phase with
  | selected character =>
      cases fails <;> cases taken
      · simpa [Label.registers, Label.leaves, at_phase] using liveness_authorize
      · rfl
  | authorized character =>
      cases fails <;> cases taken
      · refine liveness_record.trans ?_
        cases unbound : d.isOpen c <;>
          simp [Label.registers, Label.leaves, at_phase, unbound]
      · rfl
  | selecting | despawned | released =>
      cases fails <;> cases taken <;>
        simp [Label.registers, Label.leaves, at_phase, State.read, State.release, State.leave]
  | recorded =>
      cases taken
      cases fails <;> simp [Label.registers, Label.leaves, at_phase, State.join]
  | cleared zoneId final =>
      cases final <;> cases fails <;> cases taken <;>
        simp [Label.registers, Label.leaves, at_phase, State.updatePositionAndZone]
  | joined | gone => cases taken

theorem liveness_of_step (taken : step d characterId s l = some t) :
    t.liveness = match l.registers d s with
      | some c => some (.join (d.realmId c) s.now d.leaseTtl)
      | none => if l.leaves s then none else s.liveness := by
  cases l with
  | resume c fails => exact liveness_of_resume rfl taken
  | heartbeat c fails =>
      obtain ⟨-, rfl⟩ := heartbeat_of_step taken
      cases fails with
      | false =>
          refine liveness_heartbeat.trans ?_
          cases unbound : d.isOpen c <;> simp [Label.registers, Label.leaves, unbound]
      | true => rfl
  | tick | move | disconnect | crash => exact (rows_of_step taken (by simp)).2

theorem liveness_or_registers (taken : step d characterId s l = some t) :
    t.liveness = s.liveness ∨ t.liveness = none ∨ (l.registers d s).isSome = true := by
  have written := liveness_of_step taken
  cases registers : l.registers d s with
  | some c => exact .inr (.inr rfl)
  | none =>
      rw [registers] at written
      by_cases leaves : l.leaves s = true
      · exact .inr (.inl (by simpa [leaves] using written))
      · exact .inl (by simpa [leaves] using written)

end Writes

/-! ### Coming into the world -/

/-- No statement that needs the row stands between the connection and the world. -/
def Phase.admitted (isOpen : Bool) : Phase Position → Bool
  | .authorized _ => isOpen
  | .recorded _ => true
  | _ => false

/-- How a connection comes into the world: it is admitted by a row that it writes, and
joins only after that. -/
structure Enters (d : Deployment ι) (s t : State ι Position) (l : Label ι Position) (c : ι) :
    Prop where
  admitted : (t.phase c).admitted (d.isOpen c) = true →
    (s.phase c).admitted (d.isOpen c) = true ∨ l.leases d s = some c ∨ l.registers d s = some c
  joined : (t.phase c).isJoined = true →
    (s.phase c).isJoined = true ∨ (s.phase c).admitted (d.isOpen c) = true

namespace Enters

variable {s t : State ι Position} {l : Label ι Position} {c c' : ι} {next : Phase Position}

theorem of_eq (same : t.phase c = s.phase c) : Enters d s t l c :=
  ⟨fun admitted => .inl (same ▸ admitted), fun joined => .inl (same ▸ joined)⟩

/-- It suffices to look at the connection that takes the step. -/
theorem of_update (goes : t.phase = Function.update s.phase c next)
    (admitted : next.admitted (d.isOpen c) = true →
      (s.phase c).admitted (d.isOpen c) = true ∨ l.leases d s = some c ∨
        l.registers d s = some c)
    (joined : next.isJoined = true →
      (s.phase c).isJoined = true ∨ (s.phase c).admitted (d.isOpen c) = true) :
    Enters d s t l c' := by
  by_cases same : c' = c
  · subst same
    constructor <;> rw [goes, Function.update_self]
    · exact admitted
    · exact joined
  · exact of_eq (by rw [goes, Function.update_of_ne same])

/-- Neither admitted nor joined. -/
theorem of_outside (goes : t.phase = Function.update s.phase c next)
    (outside : next.admitted (d.isOpen c) = false ∧ next.isJoined = false) :
    Enters d s t l c' :=
  of_update goes (by simp [outside.1]) (by simp [outside.2])

theorem authorize {character : CharacterSummary Position}
    (selected : s.phase c = .selected character) :
    Enters d s (s.authorize d c characterId character) (.resume c false) c' := by
  unfold State.authorize
  split
  · next ok =>
      refine of_update rfl (fun opens => .inr (.inl ?_)) (fun joined => nomatch joined)
      obtain ⟨bound, -⟩ | ⟨-, -, row, acquired⟩ := authorizeLogin_ok ok
      · exact absurd opens (by simp [Phase.admitted, bound])
      · have unbound : d.isOpen c = true := opens
        simp [Label.leases, selected, Phase.isSelected, unbound, acquired]
  · exact of_outside rfl ⟨rfl, rfl⟩

theorem record {character : CharacterSummary Position}
    (authorized : s.phase c = .authorized character) :
    Enters d s (s.record d c character) (.resume c false) c' := by
  have goes : (s.record d c character).phase = Function.update s.phase c (.recorded character) := by
    unfold State.record
    split <;> rfl
  refine of_update goes (fun _ => ?_) (fun joined => nomatch joined)
  cases unbound : d.isOpen c with
  | true => exact .inl (by rw [authorized]; rfl)
  | false => exact .inr (.inr (by simp [Label.registers, authorized, unbound]))

theorem of_resume {fails : Bool} {phase : Phase Position} (at_phase : s.phase c = phase)
    (taken : s.resume d c characterId fails phase = some t) :
    Enters d s t (.resume c fails) c' := by
  cases phase with
  | selected character =>
      cases fails <;> cases taken
      · exact authorize at_phase
      · exact of_outside rfl ⟨rfl, rfl⟩
  | authorized character =>
      cases fails <;> cases taken
      · exact record at_phase
      · exact of_outside rfl ⟨rfl, rfl⟩
  | recorded character =>
      cases taken
      exact of_update rfl (fun admitted => nomatch admitted) fun _ => .inr (by rw [at_phase]; rfl)
  | selecting | despawned | released =>
      cases fails <;> cases taken <;> exact of_outside rfl ⟨rfl, rfl⟩
  | cleared zoneId final =>
      cases final <;> cases fails <;> cases taken <;> exact of_outside rfl ⟨rfl, rfl⟩
  | joined | gone => cases taken

theorem of_step (taken : step d characterId s l = some t) : Enters d s t l c' := by
  cases l with
  | tick elapsed =>
      cases taken
      exact of_eq rfl
  | resume c fails => exact of_resume rfl taken
  | heartbeat c fails =>
      obtain ⟨-, rfl⟩ := heartbeat_of_step taken
      refine of_eq ?_
      cases fails with
      | false =>
          simp only [Bool.false_eq_true, if_false, State.heartbeat]
          split
          · rfl
          · split <;> rfl
      | true => rfl
  | move c zoneId position =>
      obtain ⟨joined, rfl⟩ := move_of_step taken
      exact of_update rfl (fun admitted => nomatch admitted) fun _ => .inl joined
  | disconnect c present =>
      obtain ⟨zoneId, final, rfl⟩ := disconnect_of_step taken
      exact of_outside rfl ⟨rfl, rfl⟩
  | crash c =>
      cases taken
      exact of_outside rfl ⟨rfl, rfl⟩

end Enters

end WorldZero.Server.Login
