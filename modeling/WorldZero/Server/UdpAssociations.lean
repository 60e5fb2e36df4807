import WorldZero.Server.SessionCleanup
import WorldZero.Transition

/-!
# The UDP associations

The maps by which a session is reachable over UDP, and the sequence of the session starts,
the session ends and the datagrams that write them. A `BindUdp` inserts in both directions
without removing what either key was associated with before.
-/

namespace WorldZero.Server

open Handoff (Layer)
open Session (Shared Identity)

structure UdpAssociations (Remote : Type) where
  tokenToEntity : String → Option EntityId := fun _ => none
  remoteByEntity : EntityId → Option Remote := fun _ => none
  entityByRemote : Remote → Option EntityId := fun _ => none
  inboundRoutes : Finset EntityId := ∅

namespace UdpAssociations

section

variable {Remote : Type} (u : UdpAssociations Remote)

def register (sessionToken : String) (e : EntityId) : UdpAssociations Remote :=
  { u with
    tokenToEntity := Function.update u.tokenToEntity sessionToken (some e)
    inboundRoutes := insert e u.inboundRoutes }

variable [DecidableEq Remote]

def cleanup (sessionToken : String) (e : EntityId) : UdpAssociations Remote :=
  let u := { u with
    tokenToEntity := Function.update u.tokenToEntity sessionToken none
    inboundRoutes := u.inboundRoutes.erase e }
  match u.remoteByEntity e with
  | none => u
  | some remote =>
      { u with
        remoteByEntity := Function.update u.remoteByEntity e none
        entityByRemote := Function.update u.entityByRemote remote none }

/-- An unknown token is ignored. -/
def bindUdp (remote : Remote) (sessionToken : String) : UdpAssociations Remote :=
  match u.tokenToEntity sessionToken with
  | none => u
  | some e =>
      { u with
        remoteByEntity := Function.update u.remoteByEntity e (some remote)
        entityByRemote := Function.update u.entityByRemote remote (some e) }

end

/-! ### The sections of the session loop and of the UDP task -/

section

variable {Remote : Type}

/-- The part of the process-wide maps. -/
def ofShared (s : Shared Remote) : UdpAssociations Remote :=
  ⟨s.tokenToEntity, s.remoteByEntity, s.entityByRemote, s.inboundRoutes⟩

theorem register_sections {s : Shared Remote} {who : Identity} {l : Layer} :
    ofShared ((s.register who l .token).register who l .inboundRoute) =
      (ofShared s).register who.sessionToken who.entityId := rfl

variable [DecidableEq Remote]

theorem cleanup_sections {s : Shared Remote} {who : Identity} {l : Layer} :
    ofShared (((s.clean who l .token).clean who l .inboundRoute).clean who l .remote) =
      (ofShared s).cleanup who.sessionToken who.entityId := by
  cases associated : s.remoteByEntity who.entityId <;>
    simp only [ofShared, cleanup, Shared.clean, associated]

theorem bindUdp_sections {ι : Type} [DecidableEq ι] {who : ι → Identity}
    {s : Session.State ι Remote} {remote : Remote} {sessionToken : String} {e : EntityId}
    (idle : s.udp = .idle) (known : s.shared.tokenToEntity sessionToken = some e) :
    ∃ t, Transition.exec (Session.step who) s
        [.bindUdp remote sessionToken, .continueUdp, .continueUdp] = some t ∧
      ofShared t.shared = (ofShared s.shared).bindUdp remote sessionToken := by
  simp [Transition.exec, Session.step, Session.State.continueUdp, idle, known, bindUdp, ofShared]

end

/-! ### Sessions and datagrams -/

structure State (Remote : Type) where
  associations : UdpAssociations Remote
  /-- The live sessions, with their tokens. -/
  live : EntityId → Option String

inductive Label (Remote : Type) where
  | start (e : EntityId) (sessionToken : String)
  | finish (e : EntityId)
  /-- An error is propagated past the cleanup. -/
  | fail (e : EntityId)
  | bindUdp (remote : Remote) (sessionToken : String)
  /-- Any other datagram is routed by the associations as they are. -/
  | datagram (remote : Remote)

section

variable {Remote : Type} [DecidableEq Remote]

/-- Every session has an entity id of its own. -/
def step (s : State Remote) : Label Remote → Option (State Remote)
  | .start e sessionToken =>
      if (s.live e).isNone then
        some ⟨s.associations.register sessionToken e, Function.update s.live e (some sessionToken)⟩
      else none
  | .finish e =>
      (s.live e).map fun sessionToken =>
        ⟨s.associations.cleanup sessionToken e, Function.update s.live e none⟩
  | .fail e => (s.live e).map fun _ => { s with live := Function.update s.live e none }
  | .bindUdp remote sessionToken =>
      some { s with associations := s.associations.bindUdp remote sessionToken }
  | .datagram _ => some s

def start : State Remote := ⟨{}, fun _ => none⟩

/-- The associations are inverse to each other, they and the tokens are of live sessions, and
the token of a live session leads to a live session of it. -/
structure Consistent (s : State Remote) : Prop where
  inverse : ∀ e remote, s.associations.remoteByEntity e = some remote ↔
    s.associations.entityByRemote remote = some e
  tokens : ∀ sessionToken e, s.associations.tokenToEntity sessionToken = some e →
    (s.live e).isSome
  associated : ∀ e remote, s.associations.remoteByEntity e = some remote → (s.live e).isSome
  resolves : ∀ e sessionToken, s.live e = some sessionToken →
    ∃ e', s.associations.tokenToEntity sessionToken = some e' ∧ s.live e' = some sessionToken

/-- A session ends while no other one has its token, or fails while nothing leads to it; and
neither the entity nor the remote of a `BindUdp` is associated with another. -/
def Alone (s : State Remote) : Label Remote → Prop
  | .finish e => ∀ sessionToken, s.live e = some sessionToken →
      ∀ e' ≠ e, s.live e' ≠ some sessionToken
  | .fail e => s.associations.remoteByEntity e = none ∧
      ∀ sessionToken, s.live e = some sessionToken →
        s.associations.tokenToEntity sessionToken ≠ some e
  | .bindUdp remote sessionToken =>
      ∀ e, s.associations.tokenToEntity sessionToken = some e →
        (∀ remote', s.associations.remoteByEntity e = some remote' → remote' = remote) ∧
        ∀ e', s.associations.entityByRemote remote = some e' → e' = e
  | .start .. | .datagram _ => True

end

/-! ### What a step keeps -/

/-- A token is that of the session it leads to. -/
structure Sound {Remote : Type} (s : State Remote) : Prop extends Consistent s where
  own : ∀ sessionToken e, s.associations.tokenToEntity sessionToken = some e →
    s.live e = some sessionToken

section

variable {Remote : Type} {s t : State Remote} {l : Label Remote} {e : EntityId}
  {sessionToken : String}
  {remote : Remote}

/-- A session starts with an entity that nothing leads to yet. -/
theorem sound_register (inv : Sound s) (new : s.live e = none) :
    Sound ⟨s.associations.register sessionToken e,
      Function.update s.live e (some sessionToken)⟩ := by
  have older : ∀ {e'}, (s.live e').isSome → e' ≠ e := by
    rintro e' live rfl
    simp [new] at live
  have own : ∀ τ e', (s.associations.register sessionToken e).tokenToEntity τ = some e' →
      Function.update s.live e (some sessionToken) e' = some τ := by
    intro τ e' found
    simp only [register, Function.update_apply] at found ⊢
    split at found
    next same =>
      cases found
      rw [if_pos rfl, same]
    · rw [if_neg (older (inv.tokens τ e' found))]
      exact inv.own τ e' found
  refine ⟨⟨inv.inverse, fun τ e' found => ?_, fun e' remote found => ?_, fun e' τ live => ?_⟩, own⟩
  · exact Option.isSome_iff_exists.mpr ⟨τ, own τ e' found⟩
  · have live := inv.associated e' remote found
    simpa only [Function.update_of_ne (older live)] using live
  · have found : ∃ e', (s.associations.register sessionToken e).tokenToEntity τ = some e' := by
      simp only [register, Function.update_apply] at live ⊢
      split
      · exact ⟨e, rfl⟩
      next other =>
        split at live
        · exact absurd (Option.some.inj live).symm other
        · obtain ⟨e'', found, -⟩ := inv.resolves e' τ live
          exact ⟨e'', found⟩
    obtain ⟨e'', found⟩ := found
    exact ⟨e'', found, own τ e'' found⟩

/-- A session that fails leaves what leads to it. -/
theorem sound_fail (inv : Sound s) (unassociated : s.associations.remoteByEntity e = none)
    (unnamed : ∀ sessionToken, s.live e = some sessionToken →
      s.associations.tokenToEntity sessionToken ≠ some e) :
    Sound { s with live := Function.update s.live e none } := by
  have other : ∀ {τ e'}, s.associations.tokenToEntity τ = some e' → e' ≠ e := by
    rintro τ e' found rfl
    exact unnamed τ (inv.own τ e' found) found
  refine ⟨⟨inv.inverse, fun τ e' found => ?_, fun e' remote found => ?_, fun e' τ live => ?_⟩,
    fun τ e' found => ?_⟩
  · simpa only [Function.update_of_ne (other found)] using inv.tokens τ e' found
  · have here : e' ≠ e := by
      rintro rfl
      rw [unassociated] at found
      cases found
    simpa only [Function.update_of_ne here] using inv.associated e' remote found
  · have here : e' ≠ e := by
      rintro rfl
      simp at live
    simp only [Function.update_of_ne here] at live
    obtain ⟨e'', found, live'⟩ := inv.resolves e' τ live
    exact ⟨e'', found, by simpa only [Function.update_of_ne (other found)] using live'⟩
  · simpa only [Function.update_of_ne (other found)] using inv.own τ e' found

theorem not_consistent_fail
    (led : (s.associations.remoteByEntity e).isSome ∨
      ∃ sessionToken, s.associations.tokenToEntity sessionToken = some e) :
    ¬ Consistent { s with live := Function.update s.live e none } := by
  intro after
  obtain associated | ⟨sessionToken, found⟩ := led
  · obtain ⟨remote, found⟩ := Option.isSome_iff_exists.mp associated
    have live := after.associated e remote found
    simp at live
  · have live := after.tokens sessionToken e found
    simp at live

variable [DecidableEq Remote]

section

variable {u : UdpAssociations Remote}

theorem cleanup_of_none (here : u.remoteByEntity e = none) :
    u.cleanup sessionToken e =
      { u with
        tokenToEntity := Function.update u.tokenToEntity sessionToken none
        inboundRoutes := u.inboundRoutes.erase e } := by
  simp only [cleanup, here]

theorem cleanup_of_some (here : u.remoteByEntity e = some remote) :
    u.cleanup sessionToken e =
      { tokenToEntity := Function.update u.tokenToEntity sessionToken none
        remoteByEntity := Function.update u.remoteByEntity e none
        entityByRemote := Function.update u.entityByRemote remote none
        inboundRoutes := u.inboundRoutes.erase e } := by
  simp only [cleanup, here]

@[simp] theorem cleanup_tokenToEntity :
    (u.cleanup sessionToken e).tokenToEntity =
      Function.update u.tokenToEntity sessionToken none := by
  cases here : u.remoteByEntity e with
  | none => rw [cleanup_of_none here]
  | some remote => rw [cleanup_of_some here]

end

/-- The associations of an entity go in both directions. -/
theorem inverse_cleanup (sessionToken : String) (inv : Consistent s) (e' : EntityId)
    (remote : Remote) :
    ((s.associations.cleanup sessionToken e).remoteByEntity e' = some remote ↔
        e' ≠ e ∧ s.associations.remoteByEntity e' = some remote) ∧
      ((s.associations.cleanup sessionToken e).entityByRemote remote = some e' ↔
        e' ≠ e ∧ s.associations.entityByRemote remote = some e') := by
  cases here : s.associations.remoteByEntity e with
  | none =>
      rw [cleanup_of_none here]
      have unassociated : ∀ remote, s.associations.entityByRemote remote ≠ some e := by
        intro remote found
        rw [← inv.inverse, here] at found
        cases found
      constructor
      · exact ⟨fun found => ⟨fun same => by simp [same, here] at found, found⟩,
          fun found => found.2⟩
      · exact ⟨fun found => ⟨fun same => unassociated remote (same ▸ found), found⟩,
          fun found => found.2⟩
  | some old =>
      rw [cleanup_of_some here]
      have back := (inv.inverse e old).mp here
      constructor
      · by_cases same : e' = e
        · simp [same]
        · simp [same]
      · by_cases same : remote = old
        · subst same
          simp only [Function.update_self, reduceCtorEq, false_iff, not_and]
          rintro other found
          exact other (Option.some.inj (found.symm.trans back))
        · simp only [Function.update_of_ne same]
          refine ⟨fun found => ⟨?_, found⟩, fun found => found.2⟩
          rintro rfl
          have its := (inv.inverse e' remote).mpr found
          rw [here, Option.some.injEq] at its
          exact same its.symm

/-- A session takes itself out, and its token, which must not be another's as well. -/
theorem sound_finish (inv : Sound s) (live : s.live e = some sessionToken)
    (alone : ∀ e' ≠ e, s.live e' ≠ some sessionToken) :
    Sound ⟨s.associations.cleanup sessionToken e, Function.update s.live e none⟩ := by
  have own : ∀ τ e', (s.associations.cleanup sessionToken e).tokenToEntity τ = some e' →
      Function.update s.live e none e' = some τ := by
    intro τ e' found
    simp only [cleanup_tokenToEntity, Function.update_apply] at found ⊢
    split at found
    · cases found
    next other =>
      have its := inv.own τ e' found
      rwa [if_neg]
      rintro rfl
      exact other (Option.some.inj (its.symm.trans live))
  refine ⟨⟨fun e' remote => ?_, fun τ e' found => ?_, fun e' remote found => ?_,
    fun e' τ live' => ?_⟩, own⟩
  · obtain ⟨forth, back⟩ := inverse_cleanup sessionToken inv.toConsistent e' remote
    rw [forth, back, inv.inverse]
  · exact Option.isSome_iff_exists.mpr ⟨τ, own τ e' found⟩
  · obtain ⟨other, before⟩ := (inverse_cleanup sessionToken inv.toConsistent e' remote).1.mp found
    simpa only [Function.update_of_ne other] using inv.associated e' remote before
  · have other : e' ≠ e := by
      rintro rfl
      simp at live'
    simp only [Function.update_of_ne other] at live'
    have different : τ ≠ sessionToken := by
      rintro rfl
      exact alone e' other live'
    obtain ⟨e'', found, -⟩ := inv.resolves e' τ live'
    have found' : (s.associations.cleanup sessionToken e).tokenToEntity τ = some e'' := by
      rwa [cleanup_tokenToEntity, Function.update_of_ne different]
    exact ⟨e'', found', own τ e'' found'⟩

theorem not_consistent_finish {e' : EntityId}
    (other : e' ≠ e) (same : s.live e' = some sessionToken) :
    ¬ Consistent ⟨s.associations.cleanup sessionToken e, Function.update s.live e none⟩ := by
  intro after
  have live' : Function.update s.live e none e' = some sessionToken := by
    rw [Function.update_of_ne other, same]
  obtain ⟨e'', found, -⟩ := after.resolves e' sessionToken live'
  simp at found

theorem bindUdp_of_known (known : s.associations.tokenToEntity sessionToken = some e) :
    s.associations.bindUdp remote sessionToken =
      { s.associations with
        remoteByEntity := Function.update s.associations.remoteByEntity e (some remote)
        entityByRemote := Function.update s.associations.entityByRemote remote (some e) } := by
  simp only [bindUdp, known]

theorem sound_bindUdp (inv : Sound s)
    (known : s.associations.tokenToEntity sessionToken = some e)
    (unbound : ∀ remote', s.associations.remoteByEntity e = some remote' → remote' = remote)
    (free : ∀ e', s.associations.entityByRemote remote = some e' → e' = e) :
    Sound { s with associations := s.associations.bindUdp remote sessionToken } := by
  rw [bindUdp_of_known known]
  refine ⟨⟨fun e' remote' => ?_, inv.tokens, fun e' remote' found => ?_, inv.resolves⟩, inv.own⟩
  · by_cases itself : e' = e <;> by_cases here : remote' = remote
    · simp [itself, here]
    · subst itself
      simp only [Function.update_self, Function.update_of_ne here, ← inv.inverse, Option.some.injEq]
      exact iff_of_false (Ne.symm here) fun found => here (unbound remote' found)
    · subst here
      simp only [Function.update_self, Function.update_of_ne itself, inv.inverse,
        Option.some.injEq]
      exact iff_of_false (fun found => itself (free e' found)) (Ne.symm itself)
    · simpa only [Function.update_of_ne itself, Function.update_of_ne here] using
        inv.inverse e' remote'
  · by_cases itself : e' = e
    · exact itself ▸ inv.tokens sessionToken e known
    · simp only [Function.update_of_ne itself] at found
      exact inv.associated e' remote' found

/-- The old association of the entity, or of the remote, stays in the other direction. -/
theorem not_consistent_bindUdp (inv : Consistent s)
    (known : s.associations.tokenToEntity sessionToken = some e)
    (taken : (∃ remote', s.associations.remoteByEntity e = some remote' ∧ remote' ≠ remote) ∨
      ∃ e', s.associations.entityByRemote remote = some e' ∧ e' ≠ e) :
    ¬ Consistent { s with associations := s.associations.bindUdp remote sessionToken } := by
  rw [bindUdp_of_known known]
  intro after
  obtain ⟨remote', bound, other⟩ | ⟨e', bound, other⟩ := taken
  · have back := (inv.inverse e remote').mp bound
    have forth := (after.inverse e remote').mpr
      (by simpa only [Function.update_of_ne other] using back)
    simp only [Function.update_self, Option.some.injEq] at forth
    exact other forth.symm
  · have forth := (inv.inverse e' remote).mpr bound
    have back := (after.inverse e' remote).mp
      (by simpa only [Function.update_of_ne other] using forth)
    simp only [Function.update_self, Option.some.injEq] at back
    exact other back.symm

/-! ### Runs -/

theorem Sound.step (inv : Sound s) (alone : Alone s l)
    (taken : UdpAssociations.step s l = some t) : Sound t := by
  cases l with
  | start e sessionToken =>
      simp only [UdpAssociations.step, Option.ite_none_right_eq_some, Option.isNone_iff_eq_none,
        Option.some.injEq] at taken
      exact taken.2 ▸ sound_register inv taken.1
  | finish e =>
      obtain ⟨sessionToken, live, rfl⟩ := Option.map_eq_some_iff.mp taken
      exact sound_finish inv live (alone sessionToken live)
  | fail e =>
      obtain ⟨sessionToken, live, rfl⟩ := Option.map_eq_some_iff.mp taken
      exact sound_fail inv alone.1 alone.2
  | bindUdp remote sessionToken =>
      cases taken
      cases known : s.associations.tokenToEntity sessionToken with
      | none => simpa only [bindUdp, known] using inv
      | some e =>
          obtain ⟨unbound, free⟩ := alone e known
          exact sound_bindUdp inv known unbound free
  | datagram remote =>
      cases taken
      exact inv

theorem not_consistent_step (inv : Sound s) (shared : ¬ Alone s l) :
    ∃ t, step s l = some t ∧ ¬ Consistent t := by
  cases l with
  | start e sessionToken => exact absurd trivial shared
  | finish e =>
      simp only [Alone, not_forall, not_not] at shared
      obtain ⟨sessionToken, live, e', other, same⟩ := shared
      exact ⟨_, by rw [step, live, Option.map_some], not_consistent_finish other same⟩
  | fail e =>
      have led : (s.associations.remoteByEntity e).isSome ∨
          ∃ sessionToken, s.associations.tokenToEntity sessionToken = some e := by
        by_contra none
        rw [not_or, Option.not_isSome_iff_eq_none, not_exists] at none
        exact shared ⟨none.1, fun sessionToken _ => none.2 sessionToken⟩
      have live : (s.live e).isSome := by
        obtain associated | ⟨sessionToken, found⟩ := led
        · obtain ⟨remote, found⟩ := Option.isSome_iff_exists.mp associated
          exact inv.associated e remote found
        · exact inv.tokens sessionToken e found
      obtain ⟨sessionToken, live⟩ := Option.isSome_iff_exists.mp live
      exact ⟨_, by rw [step, live, Option.map_some], not_consistent_fail led⟩
  | bindUdp remote sessionToken =>
      simp only [Alone, not_forall] at shared
      obtain ⟨e, known, taken⟩ := shared
      refine ⟨_, rfl, not_consistent_bindUdp inv.toConsistent known ?_⟩
      rw [not_and_or] at taken
      simpa only [not_forall, exists_prop] using taken
  | datagram remote => exact absurd trivial shared

/-- For any sequence of session starts, session ends and datagrams: the maps are consistent
in every state exactly if every step finds what it writes to itself. -/
theorem consistent_throughout_iff (ls : List (Label Remote)) :
    Transition.Admissible step Alone (start : State Remote) ls ↔
      ∀ front, front <+: ls → ∀ s, Transition.exec step (start : State Remote) front = some s →
        Consistent s := by
  refine Transition.admissible_iff_throughout_of (fun _ _ _ inv alone taken => ?_)
    (fun _ inv => inv.toConsistent) (fun _ _ inv shared => not_consistent_step inv shared) ?_
  · exact Sound.step inv alone taken
  · constructor
    · constructor <;> simp [start]
    · simp [start]

end

namespace Resumed

/-- One entity is bound from a first and then from a second address. -/
def rebound : List (Label ℕ) := [.start ⟨1⟩ "token", .bindUdp 10 "token", .bindUdp 20 "token"]

/-- The session is resumed, and the connection that it was resumed from ends. -/
def ended : List (Label ℕ) := [.start ⟨1⟩ "token", .start ⟨2⟩ "token", .finish ⟨1⟩]

theorem inconsistent :
    (∃ s, Transition.exec step (start : State ℕ) rebound = some s ∧ ¬ Consistent s) ∧
    ∃ s, Transition.exec step (start : State ℕ) ended = some s ∧ ¬ Consistent s := by
  constructor
  · have ends : ∃ s, Transition.exec step (start : State ℕ) rebound = some s ∧
        (s.associations.entityByRemote 10 = some ⟨1⟩ ∧
          s.associations.remoteByEntity ⟨1⟩ = some 20) := Transition.exec_reaches (by decide)
    obtain ⟨s, run, stale, bound⟩ := ends
    refine ⟨s, run, fun after => ?_⟩
    have forth := (after.inverse ⟨1⟩ 10).mpr stale
    exact absurd (bound.symm.trans forth) (by decide)
  · have ends : ∃ s, Transition.exec step (start : State ℕ) ended = some s ∧
        (s.live ⟨2⟩ = some "token" ∧ s.associations.tokenToEntity "token" = none) :=
      Transition.exec_reaches (by decide)
    obtain ⟨s, run, live, unknown⟩ := ends
    refine ⟨s, run, fun after => ?_⟩
    obtain ⟨e', found, -⟩ := after.resolves ⟨2⟩ "token" live
    exact absurd (unknown.symm.trans found) (by simp)

end Resumed

end UdpAssociations

end WorldZero.Server
