import Mathlib.Analysis.InnerProductSpace.PiL2
import WorldZero.World.ZoneRuns

/-!
# The speed cap

The speed is checked move by move: what one move may cover is what an entity can cover in
a tick, and a tick applies every move that has been queued.
-/

namespace WorldZero.World

open Content (NavMesh Point3 Sqrt ZoneManifest)

/-! ### Paths -/

section Paths

variable {K : Type} [Zero K] [Add K] [Sub K] [Mul K] [Sqrt K]

/-- The length of the way from a point through others. -/
def pathLength (origin : Point3 K) : List (Point3 K) → K
  | [] => 0
  | p :: path => distance origin p + pathLength p path

/-- Where the moves of an entity that are applied lead it. -/
def appliedPath (e : EntityId) (outcomes : Outcomes K) : List (Point3 K) :=
  outcomes.filterMap fun o =>
    match o with
    | (entity, .applied _ target) => if entity = e then some target else none
    | _ => none

/-- Where the queued moves of an entity would lead it. -/
def destinations (e : EntityId) (moves : List (EntityId × Point3 K × UInt32)) : List (Point3 K) :=
  moves.filterMap fun m => if m.1 = e then some m.2.1 else none

end Paths

/-! ### Runs -/

section Runs

variable {K : Type} [Zero K] [One K] [NatCast K] [Add K] [Sub K] [Mul K] [Div K] [Neg K]
variable [LT K] [DecidableLT K] [LE K] [DecidableLE K] [Sqrt K] [FloorI64 K]

/-- How many ticks there are among the calls. -/
def ticks (ops : List (Op K)) : ℕ := ops.countP fun op => op matches .tick

/-- The call neither spawns the entity nor teleports it. -/
def Op.Walks (e : EntityId) : Op K → Prop
  | .spawn entity .. | .spawnNpcWithRoute entity .. | .requestTeleport entity _ => entity ≠ e
  | _ => True

/-- A tick finds at most one move of the entity in the queue, or moves that all together
cover no more than one may. -/
def Paced (e : EntityId) (zone : Zone K) : Op K → Prop
  | .tick => (destinations e zone.pendingMoves).length ≤ 1 ∨
      ∀ origin, zone.positionOf e = some origin →
        pathLength origin (destinations e zone.pendingMoves) ≤ zone.config.maxAllowed
  | _ => True

end Runs

/-! ### Distances -/

theorem distance_eq_dist (a b : Point3 ℝ) :
    distance a b =
      dist (!₂[a.1, a.2.1, a.2.2] : EuclideanSpace ℝ (Fin 3)) !₂[b.1, b.2.1, b.2.2] := by
  rw [EuclideanSpace.dist_eq, Fin.sum_univ_three]
  simp only [Real.dist_eq, sq_abs]
  simp only [distance, Sqrt.sqrt, sq]
  rfl

theorem distance_nonneg (a b : Point3 ℝ) : 0 ≤ distance a b := Real.sqrt_nonneg _

theorem distance_triangle (a b c : Point3 ℝ) : distance a c ≤ distance a b + distance b c := by
  simp only [distance_eq_dist]
  exact dist_triangle _ _ _

section

variable {origin p : Point3 ℝ} {path path' : List (Point3 ℝ)}

theorem pathLength_nonneg : 0 ≤ pathLength origin path := by
  induction path generalizing origin with
  | nil => exact le_refl 0
  | cons p path ih => exact add_nonneg (distance_nonneg origin p) ih

/-- The way from somewhere else is no shorter than going there first. -/
theorem pathLength_le_detour :
    pathLength origin path ≤ distance origin p + pathLength p path := by
  cases path with
  | nil => exact add_nonneg (distance_nonneg origin p) pathLength_nonneg
  | cons q path =>
      have shorter := distance_triangle origin p q
      simp only [pathLength]
      linarith

theorem pathLength_append :
    pathLength origin (path ++ path') =
      pathLength origin path + pathLength ((origin :: path).getLast (by simp)) path' := by
  induction path generalizing origin with
  | nil => simp [pathLength]
  | cons p path ih =>
      rw [List.cons_append, pathLength, ih, pathLength, add_assoc]
      simp

end

/-! ### Where the moves lead -/

/-- From where an entity stood, if it did, a path leads to where it stands, if it does. -/
def Leads (start : Option (Point3 ℝ)) (path : List (Point3 ℝ)) (goal : Option (Point3 ℝ)) : Prop :=
  match start with
  | none => path = [] ∧ goal = none
  | some origin => ∀ q, goal = some q → q = (origin :: path).getLast (by simp)

namespace Leads

variable {start next goal : Option (Point3 ℝ)} {path path' : List (Point3 ℝ)}

theorem refl (start : Option (Point3 ℝ)) : Leads start [] start := by
  cases start with
  | none => exact ⟨rfl, rfl⟩
  | some origin => exact fun q same => (Option.some.inj same).symm

theorem gone (start : Option (Point3 ℝ)) : Leads start [] none := by
  cases start with
  | none => exact ⟨rfl, rfl⟩
  | some origin => exact fun q same => nomatch same

theorem append (h : Leads start path next) (h' : Leads next path' goal) :
    Leads start (path ++ path') goal := by
  cases start with
  | none =>
      obtain ⟨rfl, rfl⟩ := h
      exact h'
  | some origin =>
      intro q there
      cases next with
      | none =>
          obtain ⟨rfl, rfl⟩ := h'
          cases there
      | some r =>
          have last : r = (origin :: path).getLast (by simp) := h r rfl
          rw [h' q there]
          subst last
          cases path' with
          | nil => simp
          | cons p path' => simp

end Leads

section Tick

variable {e : EntityId} {zone : Zone ℝ}

@[simp] theorem appliedPath_append (outcomes outcomes' : Outcomes ℝ) :
    appliedPath e (outcomes ++ outcomes') = appliedPath e outcomes ++ appliedPath e outcomes' :=
  List.filterMap_append

/-- A call leads an entity on, and leaves the configuration as it is. -/
structure Follows (e : EntityId) (zone : Zone ℝ) (result : Zone ℝ × Outcomes ℝ) : Prop where
  leads : Leads (zone.positionOf e) (appliedPath e result.2) (result.1.positionOf e)
  config : result.1.config = zone.config
  teleports : ∀ p ∈ result.1.pendingTeleports, p ∈ zone.pendingTeleports ∨ p.1 ≠ e

theorem Follows.append {result result' : Zone ℝ × Outcomes ℝ} (h : Follows e zone result)
    (h' : Follows e result.1 result') : Follows e zone (result'.1, result.2 ++ result'.2) where
  leads := by
    rw [appliedPath_append]
    exact h.leads.append h'.leads
  config := h'.config.trans h.config
  teleports p there := (h'.teleports p there).elim (h.teleports p) .inr

/-- A call that has nothing to do with where the entity is. -/
theorem Follows.of_eq {result : Zone ℝ × Outcomes ℝ} (unmoved : appliedPath e result.2 = [])
    (still : result.1.positionOf e = zone.positionOf e) (config : result.1.config = zone.config)
    (teleports : ∀ p ∈ result.1.pendingTeleports, p ∈ zone.pendingTeleports ∨ p.1 ≠ e) :
    Follows e zone result := by
  refine ⟨?_, config, teleports⟩
  rw [unmoved, still]
  exact Leads.refl _

theorem follows_applyMove (entity : EntityId) (target : Point3 ℝ) (seq : UInt32) :
    Follows e zone (zone.applyMove entity target seq) := by
  have moves := zone.moves_applyMove entity target seq
  generalize zone.applyMove entity target seq = result at moves
  cases moves with
  | absent | rejected => exact ⟨by simpa [appliedPath] using Leads.refl _, rfl, fun _ => .inl⟩
  | left there =>
      refine ⟨?_, rfl, fun _ => .inl⟩
      rw [Zone.positionOf_despawn]
      by_cases own : e = entity
      · subst own
        simpa [appliedPath] using Leads.gone _
      · simpa [appliedPath, Function.update_of_ne own] using Leads.refl _
  | applied there =>
      refine ⟨?_, rfl, fun _ => .inl⟩
      by_cases own : e = entity
      · subst own
        rw [Zone.positionOf_moved_self zone there, there]
        intro q same
        simpa [appliedPath] using (Option.some.inj same).symm
      · rw [Zone.positionOf_moved_of_ne zone entity target own]
        simpa [appliedPath, Ne.symm own] using Leads.refl _

variable (e zone) in
theorem follows_applyMoves (moves : List (EntityId × Point3 ℝ × UInt32)) :
    Follows e zone (zone.applyMoves moves) := by
  induction moves generalizing zone with
  | nil => exact ⟨by simpa [Zone.applyMoves, appliedPath] using Leads.refl _, rfl, fun _ => .inl⟩
  | cons move moves ih =>
      obtain ⟨entity, target, seq⟩ := move
      have first : Follows e zone (zone.applyMove entity target seq) := follows_applyMove ..
      have rest := ih (zone.applyMove entity target seq).1
      simp only [Zone.applyMoves]
      exact first.append rest

variable (zone) in
/-- A move of another entity. -/
theorem applyMove_of_ne {entity : EntityId} (other : entity ≠ e) (target : Point3 ℝ)
    (seq : UInt32) :
    (zone.applyMove entity target seq).1.positionOf e = zone.positionOf e ∧
      appliedPath e (zone.applyMove entity target seq).2 = [] := by
  have spec := zone.moves_applyMove entity target seq
  generalize zone.applyMove entity target seq = result at spec
  cases spec with
  | absent | rejected => exact ⟨rfl, by simp [appliedPath]⟩
  | left =>
      refine ⟨?_, by simp [appliedPath]⟩
      rw [Zone.positionOf_despawn, Function.update_of_ne (Ne.symm other)]
  | applied =>
      exact ⟨Zone.positionOf_moved_of_ne zone entity target (Ne.symm other),
        by simp [appliedPath, other]⟩

theorem destinations_cons_self (target : Point3 ℝ) (seq : UInt32)
    (moves : List (EntityId × Point3 ℝ × UInt32)) :
    destinations e ((e, target, seq) :: moves) = target :: destinations e moves := by
  simp [destinations]

theorem destinations_cons_of_ne {entity : EntityId} (other : entity ≠ e) (target : Point3 ℝ)
    (seq : UInt32) (moves : List (EntityId × Point3 ℝ × UInt32)) :
    destinations e ((entity, target, seq) :: moves) = destinations e moves := by
  simp [destinations, other]

/-- The queued moves of a tick cover no more than going to all their destinations would. -/
theorem pathLength_applyMoves_le {moves : List (EntityId × Point3 ℝ × UInt32)}
    {origin : Point3 ℝ} (there : zone.positionOf e = some origin) :
    pathLength origin (appliedPath e (zone.applyMoves moves).2) ≤
      pathLength origin (destinations e moves) := by
  induction moves generalizing zone origin with
  | nil => exact le_refl _
  | cons move moves ih =>
      obtain ⟨entity, target, seq⟩ := move
      simp only [Zone.applyMoves, appliedPath_append]
      by_cases own : entity = e
      · subst own
        rw [destinations_cons_self]
        have spec := zone.moves_applyMove entity target seq
        generalize zone.applyMove entity target seq = result at spec
        cases spec with
        | absent gone => exact absurd (gone.symm.trans there) (by simp)
        | left =>
            have gone : (zone.despawn entity).positionOf entity = none := by
              rw [Zone.positionOf_despawn, Function.update_self]
            have rest := (follows_applyMoves entity (zone.despawn entity) moves).leads
            rw [gone] at rest
            rw [rest.1]
            exact pathLength_nonneg
        | rejected => exact le_trans (ih there) pathLength_le_detour
        | applied =>
            have onward := ih (Zone.positionOf_moved_self zone there target)
            simpa [appliedPath, pathLength] using onward
      · obtain ⟨still, unmoved⟩ := applyMove_of_ne zone own target seq
        rw [destinations_cons_of_ne own, unmoved]
        exact ih (still.trans there)

variable (zone) in
/-- With one move in the queue it is the speed of that move that counts. -/
theorem pathLength_applyMoves_le_maxAllowed {moves : List (EntityId × Point3 ℝ × UInt32)}
    {origin : Point3 ℝ} (single : (destinations e moves).length ≤ 1)
    (allowed : 0 ≤ zone.config.maxAllowed) (there : zone.positionOf e = some origin) :
    pathLength origin (appliedPath e (zone.applyMoves moves).2) ≤ zone.config.maxAllowed := by
  induction moves generalizing zone with
  | nil => exact allowed
  | cons move moves ih =>
      obtain ⟨entity, target, seq⟩ := move
      by_cases own : entity = e
      · subst own
        have alone : destinations entity moves = [] := by
          simpa [destinations_cons_self] using single
        have spec := zone.moves_applyMove entity target seq
        by_cases slow : distance origin target ≤ zone.config.maxAllowed
        · refine le_trans (pathLength_applyMoves_le there) ?_
          rw [destinations_cons_self, alone]
          simpa [pathLength] using slow
        · -- The move is refused, and there is no other.
          have refused : (zone.applyMove entity target seq).1 = zone ∧
              appliedPath entity (zone.applyMove entity target seq).2 = [] := by
            generalize zone.applyMove entity target seq = result at spec
            cases spec with
            | absent | rejected => exact ⟨rfl, by simp [appliedPath]⟩
            | left there' _ _ slow' =>
                cases Option.some.inj (there.symm.trans there')
                exact absurd (not_lt.mp slow') slow
            | applied there' valid =>
                cases Option.some.inj (there.symm.trans there')
                exact absurd (not_lt.mp (validateMovement_eq_none.mp valid).1) slow
          simp only [Zone.applyMoves, appliedPath_append]
          rw [refused.1, refused.2, List.nil_append]
          refine le_trans (pathLength_applyMoves_le there) ?_
          rw [alone]
          exact allowed
      · obtain ⟨still, unmoved⟩ := applyMove_of_ne zone own target seq
        have follows : Follows e zone (zone.applyMove entity target seq) := follows_applyMove ..
        rw [destinations_cons_of_ne own] at single
        simp only [Zone.applyMoves, appliedPath_append]
        rw [unmoved, List.nil_append, ← follows.config]
        exact ih _ single (follows.config ▸ allowed) (still.trans there)

/-- No teleport of the entity is queued. -/
def Unforced (e : EntityId) (zone : Zone ℝ) : Prop := ∀ p ∈ zone.pendingTeleports, p.1 ≠ e

variable (zone) in
theorem applyTeleports_of_ne {teleports : List (EntityId × Point3 ℝ)}
    (others : ∀ p ∈ teleports, p.1 ≠ e) :
    (zone.applyTeleports teleports).1.positionOf e = zone.positionOf e ∧
      appliedPath e (zone.applyTeleports teleports).2 = [] ∧
      (zone.applyTeleports teleports).1.config = zone.config ∧
      (zone.applyTeleports teleports).1.pendingTeleports = zone.pendingTeleports := by
  induction teleports generalizing zone with
  | nil => exact ⟨rfl, rfl, rfl, rfl⟩
  | cons teleport teleports ih =>
      obtain ⟨entity, target⟩ := teleport
      obtain ⟨other, others⟩ := List.forall_mem_cons.mp others
      have first : (zone.applyTeleport entity target).1.positionOf e = zone.positionOf e ∧
          appliedPath e (zone.applyTeleport entity target).2 = [] ∧
          (zone.applyTeleport entity target).1.config = zone.config ∧
          (zone.applyTeleport entity target).1.pendingTeleports = zone.pendingTeleports := by
        unfold Zone.applyTeleport
        split
        · exact ⟨rfl, rfl, rfl, rfl⟩
        · exact ⟨Zone.positionOf_moved_of_ne zone entity target (Ne.symm other),
            by simp [appliedPath, other], rfl, rfl⟩
      obtain ⟨still, unmoved, config, queue⟩ := ih (zone.applyTeleport entity target).1 others
      simp only [Zone.applyTeleports, appliedPath_append]
      exact ⟨still.trans first.1, by rw [first.2.1, unmoved]; rfl, config.trans first.2.2.1,
        queue.trans first.2.2.2⟩

theorem tick_spec (unforced : Unforced e zone) :
    Follows e zone zone.tick ∧
      appliedPath e zone.tick.2 =
        appliedPath e
          ({ zone with tickCount := zone.tickCount + 1, pendingMoves := [] }.applyMoves
            zone.pendingMoves).2 := by
  have moves := follows_applyMoves e
    { zone with tickCount := zone.tickCount + 1, pendingMoves := [] } zone.pendingMoves
  simp only [Zone.tick]
  generalize Zone.applyMoves { zone with tickCount := zone.tickCount + 1, pendingMoves := [] }
    zone.pendingMoves = moved at moves
  have others : ∀ p ∈ moved.1.pendingTeleports, p.1 ≠ e := fun p there =>
    (moves.teleports p there).elim (unforced p) id
  obtain ⟨still, unmoved, config, queue⟩ :=
    applyTeleports_of_ne { moved.1 with pendingTeleports := [] } others
  have later : Follows e moved.1
      ({ moved.1 with pendingTeleports := [] }.applyTeleports moved.1.pendingTeleports) :=
    .of_eq unmoved still config (by simp [queue])
  refine ⟨?_, by rw [appliedPath_append, unmoved, List.append_nil]⟩
  exact ⟨(moves.append later).leads, (moves.append later).config, (moves.append later).teleports⟩

theorem follows_perform (unforced : Unforced e zone) {op : Op ℝ} (walks : op.Walks e) :
    Follows e zone (zone.perform op) := by
  cases op with
  | spawn entity kind position =>
      refine .of_eq rfl ?_ rfl fun _ => .inl
      simp only [Zone.perform]
      rw [Zone.positionOf_spawn, Function.update_of_ne (Ne.symm walks)]
  | spawnNpcWithRoute entity position routeId =>
      refine .of_eq rfl ?_ ?_ ?_
      · simp only [Zone.perform]
        rw [Zone.positionOf_spawnNpcWithRoute, Function.update_of_ne (Ne.symm walks)]
      · simp only [Zone.perform, Zone.spawnNpcWithRoute]
        split <;> rfl
      · simp only [Zone.perform, Zone.spawnNpcWithRoute]
        split <;> exact fun _ => .inl
  | despawn entity =>
      refine ⟨?_, rfl, fun _ => .inl⟩
      simp only [Zone.perform]
      rw [Zone.positionOf_despawn]
      by_cases own : e = entity
      · subst own
        simpa [appliedPath] using Leads.gone _
      · simpa [appliedPath, Function.update_of_ne own] using Leads.refl _
  | recordEntityType | requestMove => exact .of_eq rfl rfl rfl fun _ => .inl
  | requestTeleport entity target =>
      refine .of_eq rfl rfl rfl fun p there => ?_
      simp only [Zone.perform, Zone.requestTeleport, List.mem_append, List.mem_singleton] at there
      obtain queued | rfl := there
      · exact .inl queued
      · exact .inr walks
  | tick => exact (tick_spec unforced).1

theorem Unforced.perform (unforced : Unforced e zone) {op : Op ℝ} (walks : op.Walks e) :
    Unforced e (zone.perform op).1 := fun p there =>
  ((follows_perform unforced walks).teleports p there).elim (unforced p) id

/-- What a call leads an entity through is covered by the ticks among it: none, or one. -/
theorem pathLength_perform_le (unforced : Unforced e zone) {op : Op ℝ} (paced : Paced e zone op)
    (allowed : 0 ≤ zone.config.maxAllowed) {origin : Point3 ℝ}
    (there : zone.positionOf e = some origin) :
    pathLength origin (appliedPath e (zone.perform op).2) ≤
      ticks [op] * zone.config.maxAllowed := by
  cases op with
  | tick =>
      simp only [Zone.perform]
      rw [(tick_spec unforced).2]
      obtain single | short := paced
      · simpa [ticks] using pathLength_applyMoves_le_maxAllowed
          { zone with tickCount := zone.tickCount + 1, pendingMoves := [] } single allowed there
      · refine le_trans (pathLength_applyMoves_le there) ?_
        simpa [ticks] using short origin there
  | _ => simp [Zone.perform, appliedPath, pathLength, ticks]

end Tick

/-! ### Runs of calls -/

theorem WorldConfig.maxAllowed_nonneg {config : WorldConfig ℝ} (accepted : config.problem = none) :
    0 ≤ config.maxAllowed := by
  have speed : 0 < config.maxSpeedMetersPerSecond := by
    unfold problem at accepted
    split at accepted
    · cases accepted
    · split at accepted
      · cases accepted
      · split at accepted
        · cases accepted
        next positive => exact not_le.mp positive
  have dt : 0 ≤ config.dt := div_nonneg (Nat.cast_nonneg _) (by norm_num)
  exact mul_nonneg speed.le dt

section Run

variable {e : EntityId} {zone : Zone ℝ} {ops : List (Op ℝ)}

theorem follows_run (unforced : Unforced e zone) (walks : ∀ op ∈ ops, op.Walks e) :
    Follows e zone (zone.run ops) := by
  induction ops generalizing zone with
  | nil => exact .of_eq rfl rfl rfl fun _ => .inl
  | cons op ops ih =>
      obtain ⟨walk, walks⟩ := List.forall_mem_cons.mp walks
      exact (follows_perform unforced walk).append (ih (unforced.perform walk) walks)

theorem pathLength_run_le (accepted : zone.config.problem = none) (unforced : Unforced e zone)
    (walks : ∀ op ∈ ops, op.Walks e)
    (paced : Transition.Admissible Zone.step (Paced e) zone ops) {origin : Point3 ℝ}
    (there : zone.positionOf e = some origin) :
    pathLength origin (appliedPath e (zone.run ops).2) ≤ ticks ops * zone.config.maxAllowed := by
  induction ops generalizing zone origin with
  | nil => simp [Zone.run, appliedPath, pathLength, ticks]
  | cons op ops ih =>
      obtain ⟨walk, walks⟩ := List.forall_mem_cons.mp walks
      have allowed := WorldConfig.maxAllowed_nonneg accepted
      have follows := follows_perform unforced walk
      have first := pathLength_perform_le unforced paced.1 allowed there
      have count : (ticks (op :: ops) : ℝ) = ticks [op] + ticks ops := by
        rw [← Nat.cast_add]
        simp [ticks, List.countP_cons, add_comm]
      have later := paced.2 _ rfl
      have onward : pathLength ((origin :: appliedPath e (zone.perform op).2).getLast (by simp))
          (appliedPath e ((zone.perform op).1.run ops).2) ≤ ticks ops * zone.config.maxAllowed := by
        have rest := (follows_run (unforced.perform walk) walks).leads
        cases stands : (zone.perform op).1.positionOf e with
        | none =>
            rw [stands] at rest
            rw [rest.1]
            exact mul_nonneg (Nat.cast_nonneg _) allowed
        | some q =>
            have reached := follows.leads
            rw [there] at reached
            rw [← reached q stands, ← follows.config]
            exact ih (follows.config ▸ accepted) (unforced.perform walk) walks later stands
      simp only [Zone.run, appliedPath_append]
      rw [pathLength_append, count, add_mul]
      exact add_le_add first onward

theorem exec_step (ops : List (Op ℝ)) :
    Transition.exec Zone.step zone ops = some (zone.run ops).1 := by
  induction ops generalizing zone with
  | nil => rfl
  | cons op ops ih => exact ih

/-- In every run whose ticks are paced for an entity, which is neither spawned nor teleported
in it, any calls in a row lead the entity no farther than one move may cover in a tick, times
the ticks among them. -/
theorem speed_capped_if_paced (accepted : zone.config.problem = none) (unforced : Unforced e zone)
    (walks : ∀ op ∈ ops, op.Walks e)
    (paced : Transition.Admissible Zone.step (Paced e) zone ops) :
    ∀ front window, front ++ window <+: ops →
      ∀ origin, (zone.run front).1.positionOf e = some origin →
        pathLength origin (appliedPath e ((zone.run front).1.run window).2) ≤
          ticks window * zone.config.maxAllowed := by
  intro front window front_of origin there
  have walking : ∀ op ∈ front ++ window, op.Walks e := fun op among =>
    walks op (front_of.subset among)
  obtain ⟨walksFront, walksWindow⟩ := List.forall_mem_append.mp walking
  have follows := follows_run unforced walksFront
  have still : Unforced e (zone.run front).1 := fun p queued =>
    (follows.teleports p queued).elim (unforced p) id
  have pacing := (Transition.admissible_append (exec_step front)).mp (paced.of_isPrefix front_of)
  rw [← follows.config]
  exact pathLength_run_le (follows.config ▸ accepted) still walksWindow pacing.2 there

end Run

namespace Meadow

/-- A field of ten by ten meters. -/
def corners : List (ℝ × ℝ) := [(0, 0), (10, 0), (10, 10), (0, 10)]

def manifest : ZoneManifest ℝ where
  schemaVersion := 1
  id := "meadow"
  displayName := "Meadow"
  bounds := { shape := "polygon", coordinateSystem := ⟨"meters", (0, 0)⟩, points := corners }
  collision :=
    { assetRef := "sha256:9f2ac1b3e4d5c6a7b8c9d0e1f2a3b4c5d6e7f8a9b0c1d2e3f4a5b6c7d8e9f0a1"
      format := "navmesh_v1" }
  links := []
  spawnTables := []
  routes := []
  triggers := []

def navmesh : NavMesh ℝ := ⟨[⟨corners.map fun p => (p.1, p.2, 0)⟩]⟩

/-- One tick and one meter a second. -/
def config : WorldConfig ℝ := ⟨1, 25, 1⟩

def runner : EntityId := ⟨1⟩

noncomputable def zone : Zone ℝ :=
  (Zone.new manifest config navmesh).spawn runner .player (1, 1, 0)

/-- The runner is the only one there. -/
structure Lone (z : Zone ℝ) (x : ℝ) : Prop where
  manifest : z.manifest = Meadow.manifest
  navmesh : z.navmesh = Meadow.navmesh
  config : z.config = Meadow.config
  alone : ∀ key, ∀ e ∈ z.index.bucket key, e = runner
  there : z.positionOf runner = some (x, 1, 0)

theorem maxAllowed_config : config.maxAllowed = 1 := by
  norm_num [WorldConfig.maxAllowed, WorldConfig.dt, WorldConfig.tickInterval,
    WorldConfig.roundedQuotient, config]

theorem config_accepted : config.problem = none := by
  norm_num [WorldConfig.problem, config]

theorem walkable {x : ℝ} (left : 0 < x) (right : x < 10) :
    pointInPolygon (x, 1) corners = true ∧ navmesh.contains (x, 1, 0) = true := by
  constructor
  · norm_num [pointInPolygon, Content.castRay, Content.withPrevious, Content.crosses, corners,
      List.rotate, left.le, right]
  · norm_num [NavMesh.contains, NavMesh.containingPolygon, navmesh, NavMesh.Polygon.contains,
      NavMesh.pointInPolygon2d, NavMesh.Polygon.normal, Content.castRay, Content.withPrevious,
      Content.withNext, Content.crosses, Content.flat, corners, List.rotate, left.le, right,
      Content.abs, NavMesh.verticalNormalEpsilon, NavMesh.heightToleranceMeters]

theorem lone_zone : Lone zone 1 where
  manifest := rfl
  navmesh := rfl
  config := rfl
  alone key e found := by
    have entered :
        e ∈ ((Zone.new manifest config navmesh).index.insert runner (1, 1, 0)).bucket key := found
    obtain earlier | only := GridIndex.mem_bucket_insert _ entered
    · cases earlier
    · exact only
  there := by rw [zone, Zone.positionOf_spawn, Function.update_self]

/-- A step of one meter to the right is taken. -/
theorem applyMove_stride {z : Zone ℝ} {x : ℝ} (lone : Lone z x) (left : 0 < x) (right : x + 1 < 10)
    (seq : UInt32) :
    z.applyMove runner (x + 1, 1, 0) seq =
        ({ z with index := z.index.update runner (x + 1, 1, 0) },
          [(runner, .applied seq (x + 1, 1, 0))]) ∧
      Lone { z with index := z.index.update runner (x + 1, 1, 0) } (x + 1) := by
  obtain ⟨inside, walked⟩ := walkable (by linarith : 0 < x + 1) right
  have valid : validateMovement z.manifest z.navmesh z.index runner
      z.config.maxSpeedMetersPerSecond z.config.dt (x, 1, 0) (x + 1, 1, 0) = none := by
    rw [validateMovement_eq_none]
    refine ⟨?_, ?_, ?_, ?_⟩
    · rw [lone.config]
      have slow : ¬ config.maxAllowed < distance (x, 1, 0) (x + 1, 1, 0) := by
        norm_num [maxAllowed_config, distance, Sqrt.sqrt]
      exact slow
    · rw [lone.manifest]
      exact inside
    · rw [lone.navmesh]
      exact walked
    · intro other near
      obtain ⟨cx, cy, -, -, there⟩ := (GridIndex.mem_queryRadius _).mp near
      exact lone.alone (cx, cy) other ((GridIndex.mem_nearIn _).mp there).1
  have unlinked : (if z.entities runner = some .player then
      crossedLink z.manifest.links (x, 1, 0) (x + 1, 1, 0) else none) = none := by
    rw [lone.manifest]
    split <;> rfl
  refine ⟨?_, ⟨lone.manifest, lone.navmesh, lone.config, fun key e found => ?_,
    Zone.positionOf_moved_self z lone.there _⟩⟩
  · simp only [Zone.applyMove, lone.there, unlinked, valid]
  · have present : (z.index.positions runner).isSome := Option.isSome_of_eq_some lone.there
    simp only [GridIndex.update, if_pos present] at found
    obtain earlier | only := GridIndex.mem_bucket_insert _ found
    · exact lone.alone key e earlier
    · exact only

/-- Two steps in one tick. -/
def twice : List (Op ℝ) :=
  [.requestMove runner (1 + 1, 1, 0) 1, .requestMove runner (1 + 1 + 1, 1, 0) 2, .tick]

/-- One step in one tick. -/
def once : List (Op ℝ) := [.requestMove runner (1 + 1, 1, 0) 1, .tick]

/-- The way of two steps. -/
theorem pathLength_strides :
    pathLength (1, 1, 0) [(1 + 1, 1, 0), (1 + 1 + 1, 1, 0)] = (2 : ℝ) := by
  norm_num [pathLength, distance, Sqrt.sqrt]

theorem appliedPath_twice :
    appliedPath runner (zone.run twice).2 = [(1 + 1, 1, 0), (1 + 1 + 1, 1, 0)] := by
  let queued : Zone ℝ :=
    (zone.requestMove runner (1 + 1, 1, 0) 1).requestMove runner (1 + 1 + 1, 1, 0) 2
  let started : Zone ℝ := { queued with tickCount := queued.tickCount + 1, pendingMoves := [] }
  have lone : Lone started 1 :=
    ⟨lone_zone.manifest, lone_zone.navmesh, lone_zone.config, lone_zone.alone, lone_zone.there⟩
  obtain ⟨first, lone⟩ := applyMove_stride lone (by norm_num) (by norm_num) 1
  obtain ⟨second, -⟩ := applyMove_stride lone (by norm_num) (by norm_num) 2
  have moved : (started.applyMoves queued.pendingMoves).2 =
      [(runner, .applied 1 (1 + 1, 1, 0)), (runner, .applied 2 (1 + 1 + 1, 1, 0))] := by
    show (started.applyMoves [(runner, (1 + 1, 1, 0), 1), (runner, (1 + 1 + 1, 1, 0), 2)]).2 = _
    simp only [Zone.applyMoves, first, second]
    rfl
  have unforced : Unforced runner queued := List.forall_mem_nil _
  have ticked : appliedPath runner queued.tick.2 = [(1 + 1, 1, 0), (1 + 1 + 1, 1, 0)] := by
    rw [(tick_spec unforced).2]
    exact congrArg (appliedPath runner) moved
  simpa [Zone.run, twice, Zone.perform] using ticked

theorem two_strides_in_a_tick :
    ∃ zone : Zone ℝ, ∃ ops origin, zone.config.problem = none ∧ Unforced runner zone ∧
      (∀ op ∈ ops, op.Walks runner) ∧ zone.positionOf runner = some origin ∧
      ¬ pathLength origin (appliedPath runner (zone.run ops).2) ≤
        ticks ops * zone.config.maxAllowed := by
  refine ⟨zone, twice, (1, 1, 0), config_accepted, nofun, ?_, lone_zone.there, ?_⟩
  · simp [twice, Op.Walks]
  · have allowed : zone.config.maxAllowed = 1 := maxAllowed_config
    rw [appliedPath_twice, pathLength_strides, allowed]
    norm_num [ticks, twice]

theorem one_stride_a_tick :
    pathLength (1, 1, 0) (appliedPath runner (zone.run once).2) ≤
      ticks once * zone.config.maxAllowed := by
  have unforced : Unforced runner zone := List.forall_mem_nil _
  refine speed_capped_if_paced config_accepted unforced ?_ ?_ [] once (List.prefix_refl _)
    (1, 1, 0) lone_zone.there
  · simp [once, Op.Walks]
  · refine ⟨trivial, fun _ taken => ?_⟩
    cases taken
    exact ⟨.inl (by decide), fun _ _ => trivial⟩

end Meadow

end WorldZero.World
