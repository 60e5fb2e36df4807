import Mathlib.Data.Finset.Image
import WorldZero.Server.SessionCleanup
import WorldZero.Transition

/-!
# The trace of a session

A session that is run to the end of its cleanup has left no trace of its entity, as
long as nobody puts the entity back meanwhile; out of the world it is once the actor has
performed the commands that it has been sent. A session that has returned by a `?`
has left all of it: nothing but its own cleanup takes it out of `entity_characters`.
-/

namespace WorldZero.Server.Session

open Handoff (Layer)

variable {ι Remote : Type}

/-! ### The commands that are underway -/

namespace WorldCommand

def entity : WorldCommand → EntityId
  | .spawn e | .despawn e => e

/-- Whether the entity is in the zone once the command has been performed. -/
def after (e : EntityId) (there : Bool) : WorldCommand → Bool
  | .spawn e' => e' = e || there
  | .despawn e' => e' ≠ e && there

variable {e : EntityId} {there there' : Bool} {command : WorldCommand}

end WorldCommand

namespace Shared

/-- The commands that the layer's actor is yet to perform. -/
def queue (s : Shared Remote) (l : Layer) : List (Layer × WorldCommand) :=
  s.commands.filter (·.1 = l)

/-- The entity is in the layer when the commands already sent have been performed. -/
def present (s : Shared Remote) (l : Layer) (e : EntityId) : Bool :=
  (s.queue l).foldl (fun there sent => sent.2.after e there) (decide ((l, e) ∈ s.spawned))

/-- The layers that have an entity or are sent a command. -/
def layers (s : Shared Remote) : Finset Layer :=
  s.spawned.image Prod.fst ∪ (s.commands.map Prod.fst).toFinset

variable {s s' : Shared Remote} {l l' : Layer} {e : EntityId} {command : WorldCommand}

theorem present_send :
    (s.send l' command).present l e =
      if l' = l then command.after e (s.present l e) else s.present l e := by
  by_cases same : l' = l
  · simp [present, queue, send, List.filter_append, same]
  · simp [present, queue, send, List.filter_append, same]
    rfl

end Shared

/-- The entity is gone from where the step of the cleanup takes it; out of the world as soon
as the commands already sent have been performed. The request that is pending for it and the
stored position are no trace of it. -/
def Cleanup.Absent (e : EntityId) (s : Shared Remote) : Cleanup → Prop
  | .despawn => ∀ l, s.present l e = false
  | .zoneSession => ∀ l, (l, e) ∉ s.sessions
  | .globalSession => e ∉ s.globalSessions
  | .token => ∀ sessionToken, s.tokenToEntity sessionToken ≠ some e
  | .inboundRoute => e ∉ s.inboundRoutes
  | .remote => s.remoteByEntity e = none ∧ ∀ remote, s.entityByRemote remote ≠ some e
  | .entityCharacter => s.entityCharacters e = none
  | .characterEntity => ∀ characterId, s.characterEntities characterId ≠ some e
  | .entityAccount => s.entityAccounts e = none
  | .accountEntity => ∀ accountId, s.accountEntities accountId ≠ some e
  | .activeTrade => s.activeTrades e = none
  | .releaseLease => ∀ characterId, s.leases characterId ≠ some e
  | .leaveLiveness => ∀ characterId, s.liveness characterId ≠ some e
  | .pendingTradeRequest | .updatePosition => True

/-- The connection is on its way in or serves messages. -/
def Point.active : Point → Bool
  | .joining _ | .serving => true
  | _ => false

section Condition

variable [DecidableEq Remote] (who : ι → Identity) (s : State ι Remote)

/-- No connection of the entity has left its message loop. -/
def State.Present (e : EntityId) : Prop :=
  ∀ c, (who c).entityId = e → (s.point c).active = true

/-- Nothing fails but the write of the final position; a loop that is left finds the
entity in its session's layer only, also when the commands already sent are performed;
and no handoff, accepted trade request or UDP binding brings in the entity of a session
that has left its loop. A bound entity is bound again only from the same address, and
the second half of a binding finds the first half in place. -/
def Orderly : Label ι Remote → Prop
  | .advance c fails =>
      match s.point c with
      | .cleaning (.updatePosition :: _) => True
      | _ => fails = false
  | .handle _ fails => fails = false
  | .disconnect c =>
      (∀ l ∈ s.shared.layers, s.shared.present l (who c).entityId = true → l = s.zone c) ∧
        ∀ at_layer ∈ s.shared.sessions, at_layer.2 = (who c).entityId → at_layer.1 = s.zone c
  | .tradeRequestResponse c true =>
      ∀ requester ∈ s.shared.pendingTradeRequests (who c).entityId, s.Present who requester
  | .handoff .spawn _ e | .handoff .enter _ e => s.Present who e
  | .continueUdp =>
      match s.udp with
      | .idle => True
      | .resolved remote e =>
          s.Present who e ∧ ∀ bound ∈ s.shared.remoteByEntity e, bound = remote
      | .associated remote e => s.shared.remoteByEntity e = some remote
  | _ => True

instance [Fintype ι] (e : EntityId) : Decidable (s.Present who e) := by
  unfold State.Present
  infer_instance

instance [Fintype ι] (l : Label ι Remote) : Decidable (Orderly who s l) := by
  unfold Orderly
  split
  · split <;> infer_instance
  · infer_instance
  · infer_instance
  · infer_instance
  · infer_instance
  · infer_instance
  · split <;> infer_instance
  · infer_instance

end Condition

variable {e e' : EntityId} {s s' : Shared Remote} {who : Identity} {l : Layer} {op : Cleanup}

/-! ### What brings in no entity -/

/-- No more of the entity is left in `s'` than in `s`. -/
structure Fades (e : EntityId) (s s' : Shared Remote) : Prop where
  spawned : ∀ l, s'.present l e = true → s.present l e = true
  sessions : ∀ l, (l, e) ∈ s'.sessions → (l, e) ∈ s.sessions
  globalSessions : e ∈ s'.globalSessions → e ∈ s.globalSessions
  token : ∀ sessionToken, s'.tokenToEntity sessionToken = some e →
    s.tokenToEntity sessionToken = some e
  inboundRoutes : e ∈ s'.inboundRoutes → e ∈ s.inboundRoutes
  remote : s.remoteByEntity e = none → s'.remoteByEntity e = none
  reverse : ∀ remote, s'.entityByRemote remote = some e → s.entityByRemote remote = some e
  entityCharacter : s.entityCharacters e = none → s'.entityCharacters e = none
  characterEntity : ∀ characterId, s'.characterEntities characterId = some e →
    s.characterEntities characterId = some e
  entityAccount : s.entityAccounts e = none → s'.entityAccounts e = none
  accountEntity : ∀ accountId, s'.accountEntities accountId = some e →
    s.accountEntities accountId = some e
  activeTrade : s.activeTrades e = none → s'.activeTrades e = none
  lease : ∀ characterId, s'.leases characterId = some e → s.leases characterId = some e
  liveness : ∀ characterId, s'.liveness characterId = some e → s.liveness characterId = some e
  /-- The reverse of `remote_by_entity` stays its reverse. -/
  linked : (∀ remote, s.entityByRemote remote = some e → s.remoteByEntity e = some remote) →
    ∀ remote, s'.entityByRemote remote = some e → s'.remoteByEntity e = some remote

namespace Fades

theorem refl (e : EntityId) (s : Shared Remote) : Fades e s s := by
  constructor <;> intros <;> solve_by_elim

/-- What is absent stays absent. -/
theorem absent (h : Fades e s s') (gone : op.Absent e s) : op.Absent e s' := by
  cases op with
  | despawn => exact fun l => eq_false_of_ne_true fun here =>
      ne_true_of_eq_false (gone l) (h.spawned l here)
  | zoneSession => exact fun l here => gone l (h.sessions l here)
  | globalSession => exact fun here => gone (h.globalSessions here)
  | token => exact fun sessionToken here => gone sessionToken (h.token sessionToken here)
  | inboundRoute => exact fun here => gone (h.inboundRoutes here)
  | remote => exact ⟨h.remote gone.1, fun remote here => gone.2 remote (h.reverse remote here)⟩
  | entityCharacter => exact h.entityCharacter gone
  | characterEntity =>
      exact fun characterId here => gone characterId (h.characterEntity characterId here)
  | entityAccount => exact h.entityAccount gone
  | accountEntity => exact fun accountId here => gone accountId (h.accountEntity accountId here)
  | activeTrade => exact h.activeTrade gone
  | releaseLease => exact fun characterId here => gone characterId (h.lease characterId here)
  | leaveLiveness => exact fun characterId here => gone characterId (h.liveness characterId here)
  | pendingTradeRequest | updatePosition => trivial

end Fades

/-- Whatever is looked up by a name leads to the entity only from its own names. -/
structure Keyed (who : Identity) (s : Shared Remote) : Prop where
  token : ∀ sessionToken, s.tokenToEntity sessionToken = some who.entityId →
    sessionToken = who.sessionToken
  characterEntity : ∀ characterId, s.characterEntities characterId = some who.entityId →
    characterId = who.characterId
  accountEntity : ∀ accountId, s.accountEntities accountId = some who.entityId →
    accountId = who.accountId
  lease : ∀ characterId, s.leases characterId = some who.entityId → characterId = who.characterId
  liveness : ∀ characterId, s.liveness characterId = some who.entityId →
    characterId = who.characterId
  linked : ∀ remote, s.entityByRemote remote = some who.entityId →
    s.remoteByEntity who.entityId = some remote

/-- In the world and among the sessions the entity is in its session's layer only. -/
structure InLayer (e : EntityId) (l : Layer) (s : Shared Remote) : Prop where
  spawned : ∀ l', s.present l' e = true → l' = l
  sessions : ∀ l', (l', e) ∈ s.sessions → l' = l

theorem InLayer.fades (h : InLayer e l s) (fades : Fades e s s') : InLayer e l s' :=
  ⟨fun l' here => h.spawned l' (fades.spawned l' here),
    fun l' here => h.sessions l' (fades.sessions l' here)⟩

/-- An update of a map at the entity's own name. -/
theorem eq_of_update {A : Type} [DecidableEq A] {f : A → Option EntityId} {a a' : A}
    {value : Option EntityId} (own : f a' = some e → a' = a)
    (h : Function.update f a value a' = some e) : a' = a := by
  by_contra other
  rw [Function.update_of_ne other] at h
  exact other (own h)

namespace Keyed

theorem fades (h : Keyed who s) (fades : Fades who.entityId s s') : Keyed who s' where
  token sessionToken here := h.token sessionToken (fades.token sessionToken here)
  characterEntity characterId here :=
    h.characterEntity characterId (fades.characterEntity characterId here)
  accountEntity accountId here := h.accountEntity accountId (fades.accountEntity accountId here)
  lease characterId here := h.lease characterId (fades.lease characterId here)
  liveness characterId here := h.liveness characterId (fades.liveness characterId here)
  linked := fades.linked h.linked

theorem recordLiveness (h : Keyed who s) : Keyed who (s.recordLiveness who) := by
  unfold Shared.recordLiveness
  split
  · exact { h with liveness := fun _ => eq_of_update (h.liveness _) }
  · exact { h with lease := fun _ => eq_of_update (h.lease _) }

/-- A connection registers under its own names. -/
theorem register (h : Keyed who s) (op : Registration) : Keyed who (s.register who l op) := by
  cases op with
  | liveness => exact h.recordLiveness
  | characterEntity =>
      exact { h with characterEntity := fun _ => eq_of_update (h.characterEntity _) }
  | accountEntity => exact { h with accountEntity := fun _ => eq_of_update (h.accountEntity _) }
  | token => exact { h with token := fun _ => eq_of_update (h.token _) }
  | spawn | entityCharacter | entityAccount | roles | pluginState | zoneSession | globalSession
    | inboundRoute => exact { h with }

theorem handoff (h : Keyed who s) (at_layer : Layer × EntityId) (change : Handover) :
    Keyed who (s.handoff at_layer change) := by
  cases change <;> exact { h with }

theorem answer (h : Keyed who s) (e : EntityId) (accept : Bool) :
    Keyed who (s.answer e accept) := by
  unfold Shared.answer
  split
  · exact h
  · dsimp only
    split <;> exact { h with }

end Keyed

/-! ### Runs -/

/-- The steps of the cleanup that are yet to be made. -/
def Point.pending : Point → List Cleanup
  | .cleaning rest => rest
  | .returned => []
  | _ => Cleanup.all

/-- The cleanup of a connection, as far as it has come, has held. -/
structure Cleared (who : ι → Identity) (c : ι) (s : State ι Remote) : Prop where
  keyed : Keyed (who c) s.shared
  gone : ∀ op, op ∉ (s.point c).pending → op.Absent (who c).entityId s.shared
  placed : ∀ rest, s.point c = .cleaning rest → InLayer (who c).entityId (s.zone c) s.shared
  orderly : s.point c ≠ .failed

section Runs

variable {who : ι → Identity} {c : ι} {s s' : State ι Remote}

namespace Cleared

/-- The frame rule: a step of somebody else that brings in nothing of the entity. -/
theorem fades (h : Cleared who c s) (fades : Fades (who c).entityId s.shared s'.shared)
    (point : s'.point c = s.point c) (zone : s'.zone c = s.zone c) : Cleared who c s' where
  keyed := h.keyed.fades fades
  gone op done := fades.absent (h.gone op (point ▸ done))
  placed rest leaving := zone ▸ (h.placed rest (point ▸ leaving)).fades fades
  orderly := point ▸ h.orderly

end Cleared

variable [DecidableEq ι]

@[simp] theorem State.goto_shared (c : ι) (point : Point) : (s.goto c point).shared = s.shared :=
  rfl

@[simp] theorem State.goto_zone (c : ι) (point : Point) : (s.goto c point).zone = s.zone := rfl

@[simp] theorem State.goto_self (c : ι) (point : Point) : (s.goto c point).point c = point :=
  Function.update_self _ _ _

theorem State.goto_of_ne {c' : ι} (other : c ≠ c') (point : Point) :
    (s.goto c' point).point c = s.point c :=
  Function.update_of_ne other _ _

variable [DecidableEq Remote]

/-- What a step of a registration or a cleanup does. -/
inductive Advances (who : ι → Identity) (c : ι) (s : State ι Remote) : Bool → State ι Remote → Prop
  | joined (at_end : s.point c = .joining []) (fails : Bool) :
      Advances who c s fails (s.goto c .serving)
  | register {op rest} (next : s.point c = .joining (op :: rest)) :
      Advances who c s false
        { s.goto c (.joining rest) with shared := s.shared.register (who c) (s.zone c) op }
  | refused {op rest} (next : s.point c = .joining (op :: rest)) (fallible : op.fallible = true) :
      Advances who c s true (s.goto c .failed)
  | returned (at_end : s.point c = .cleaning []) (fails : Bool) :
      Advances who c s fails (s.goto c .returned)
  | clean {op rest} (next : s.point c = .cleaning (op :: rest)) :
      Advances who c s false
        { s.goto c (.cleaning rest) with shared := s.shared.clean (who c) (s.zone c) op }
  | skipped {op rest} (next : s.point c = .cleaning (op :: rest)) (fallible : op.fallible = true) :
      Advances who c s true (s.goto c (.cleaning rest))

theorem advances_of_step {fails : Bool} (hs : step who s (.advance c fails) = some s') :
    Advances who c s fails s' := by
  change s.advance who c fails = some s' at hs
  unfold State.advance at hs
  split at hs
  next at_end =>
    cases hs
    exact .joined at_end fails
  next op rest next =>
    cases fails with
    | false =>
        cases hs
        exact .register next
    | true =>
        rw [if_pos rfl] at hs
        split at hs
        next fallible =>
          cases hs
          exact .refused next fallible
        · cases hs
  next at_end =>
    cases hs
    exact .returned at_end fails
  next op rest next =>
    cases fails with
    | false =>
        cases hs
        exact .clean next
    | true =>
        rw [if_pos rfl] at hs
        split at hs
        next fallible =>
          cases hs
          exact .skipped next fallible
        · cases hs
  all_goals cases hs

/-- The entity has been given its character and has not begun to be taken out. -/
def Point.named : Point → Bool
  | .joining rest => .entityCharacter ∉ rest
  | .serving | .failed => true
  | .cleaning _ | .returned => false

/-- A registration is run from the front, and the entity of a connection that has
gone past its character, or failed, leads to that character. -/
structure Held (who : ι → Identity) (c : ι) (s : State ι Remote) : Prop where
  inOrder : ∀ rest, s.point c = .joining rest → rest <:+ Registration.all
  held : (s.point c).named = true →
    s.shared.entityCharacters (who c).entityId = some (who c).characterId

omit [DecidableEq ι] [DecidableEq Remote] in
theorem Held.frame (h : Held who c s) (point : s'.point c = s.point c)
    (same : s'.shared.entityCharacters (who c).entityId =
      s.shared.entityCharacters (who c).entityId) : Held who c s' :=
  ⟨fun rest joining => h.inOrder rest (point ▸ joining), fun named =>
    same.trans (h.held (point ▸ named))⟩

omit [DecidableEq ι] [DecidableEq Remote] in
/-- An actor touches its zone only. -/
theorem identities_act {s s' : Shared Remote} {l : Layer} (performed : s.act l = some s') :
    { s' with spawned := s.spawned, commands := s.commands } = s := by
  obtain ⟨⟨l', command⟩, found, rfl⟩ := Option.map_eq_some_iff.mp performed
  cases command <;> rfl

omit [DecidableEq ι] [DecidableEq Remote] in
theorem held_start (who : ι → Identity) (zone : ι → Layer) (c : ι) :
    Held who c (start zone : State ι Remote) where
  inOrder rest joining := by
    cases joining
    exact List.suffix_refl _
  held named := by
    simp only [start, Point.named, decide_eq_true_eq] at named
    exact absurd (by decide) named

end Runs

namespace TwoTraders

def meadow : Layer := ⟨"meadow", 0⟩
def joins (c : Bool) : List (Label Bool Nat) := List.replicate 13 (.advance c false)

/-- The whole cleanup; the write of the final position fails. -/
def leaves (c : Bool) : List (Label Bool Nat) :=
  .disconnect c :: List.replicate 14 (.advance c false) ++ [.advance c true, .advance c false]

end TwoTraders

end WorldZero.Server.Session
