import Mathlib.Data.List.Dedup
import Mathlib.Data.List.Perm.Basic
import WorldZero.Common
import WorldZero.Expiring
import WorldZero.Transition

/-!
# The registry of service instances

Each instance of a service keeps an entry in Redis that its heartbeats renew, and whoever asks
for a service gets the entries that are still there. A subscriber is told of every
registration and deregistration, but not of what expires. Any number of callers make their
calls statement by statement, and any statement may fail or have its answer lost.
-/

namespace WorldZero.ServiceRegistry

open Expiring (Outcome Store)
open Transition (Admissible exec exec_cons exec_invariant)

structure InstanceMetadata (F : Type) where
  load : Option F
  capacity : Option UInt32
  realmId : Option String
  deriving DecidableEq

structure InstanceInfo (F : Type) where
  serviceName : String
  instanceId : Uuid
  address : String
  metadata : InstanceMetadata F
  registeredAt : ℕ
  deriving DecidableEq

inductive RegistryEventKind where
  | registered
  | deregistered
  deriving DecidableEq

structure RegistryEvent where
  kind : RegistryEventKind
  serviceName : String
  instanceId : Uuid
  deriving DecidableEq

/-- What the registry uses of `uuid`, `serde_json` and Redis. -/
structure Libraries (F : Type) where
  display : Uuid → String
  parseUuid : String → Option Uuid
  encode : InstanceInfo F → String
  decode : String → Option (InstanceInfo F)
  /-- Whether a key is among those that `KEYS` lists for a pattern. -/
  matchKey : (pattern key : String) → Bool

inductive Answer (F : Type) where
  | done
  | instances (infos : List (InstanceInfo F))
  deriving DecidableEq

/-- Between two calls, or before the second statement of one. -/
inductive Phase (F : Type) where
  | returned (result : Except Error (Answer F))
  | publishing (event : RegistryEvent)
  | fetching (keys : List String)

/-- Redis is given by the calls it was sent and what was published, oldest first. -/
structure State (F κ : Type) where
  /-- In milliseconds. -/
  now : ℕ
  redis : List (Expiring.Call String String)
  published : List RegistryEvent
  phase : κ → Phase F

inductive Label (F κ : Type) where
  | tick (elapsed : ℕ)
  | register (k : κ) (serviceName : String) (instanceId : Uuid) (address : String)
      (metadata : InstanceMetadata F) (outcome : Outcome)
  | heartbeat (k : κ) (serviceName : String) (instanceId : Uuid) (outcome : Outcome)
  | deregister (k : κ) (serviceName : String) (instanceId : Uuid) (outcome : Outcome)
  /-- The keys come in some order. -/
  | query (k : κ) (serviceName : String) (keys : List String) (outcome : Outcome)
  /-- The second statement of a call. -/
  | resume (k : κ) (outcome : Outcome)

variable {F κ : Type} [DecidableEq κ] (lib : Libraries F) (ttlSeconds : ℕ)

def instanceKey (serviceName : String) (instanceId : Uuid) : String :=
  "registry:" ++ serviceName ++ ":" ++ lib.display instanceId

def keyPattern (serviceName : String) : String := "registry:" ++ serviceName ++ ":" ++ "*"

def InstanceInfo.key (info : InstanceInfo F) : String :=
  instanceKey lib info.serviceName info.instanceId

def notRegistered : Error :=
  .new "service-registry"
    ("heartbeat on an instance that isn't registered " ++ "(expired or never registered)")

namespace State

variable (s : State F κ) (k : κ)

def store : Store String String := Expiring.run s.redis

/-- The keys that have not expired. -/
def keys : List String :=
  (s.redis.filterMap Expiring.Call.setKey).dedup.filter fun key =>
    (s.store.lookup s.now key).isSome

def goto (phase : Phase F) : State F κ := { s with phase := Function.update s.phase k phase }

def send (operation : Expiring.Operation String String) : State F κ :=
  { s with redis := s.redis ++ [⟨s.now, ttlSeconds * 1000, operation⟩] }

/-- What a statement has done, then the phase that follows it. -/
def answer (outcome : Outcome) (failure : String) (next : Phase F) (done : State F κ) :
    State F κ :=
  let failed : Phase F := .returned (.error (.wrap "service-registry" failure))
  match outcome with
  | .ok => done.goto k next
  | .failed => s.goto k failed
  | .lost => done.goto k failed

/-- A caller begins a call when it has returned from the one before. -/
def begin (next : State F κ) : Option (State F κ) :=
  match s.phase k with
  | .returned _ => some next
  | .publishing _ | .fetching _ => none

def decodeAll (payloads : List String) : Except Error (Answer F) :=
  match payloads.mapM lib.decode with
  | some infos => .ok (.instances infos)
  | none => .error (.wrap "service-registry" "failed to decode instance info")

end State

open State in
def step (s : State F κ) : Label F κ → Option (State F κ)
  | .tick elapsed => some { s with now := s.now + elapsed }
  | .register k serviceName instanceId address metadata outcome =>
      let info := ⟨serviceName, instanceId, address, metadata, s.now⟩
      s.begin k (s.answer k outcome "failed to register instance"
        (.publishing ⟨.registered, serviceName, instanceId⟩)
        (s.send ttlSeconds (.set (instanceKey lib serviceName instanceId) (lib.encode info))))
  | .heartbeat k serviceName instanceId outcome =>
      let key := instanceKey lib serviceName instanceId
      let refreshed := (s.store.renew s.now (ttlSeconds * 1000) key).2
      s.begin k (s.answer k outcome "failed to refresh instance TTL"
        (.returned (if refreshed then .ok .done else .error notRegistered))
        (s.send ttlSeconds (.renew key)))
  | .deregister k serviceName instanceId outcome =>
      s.begin k (s.answer k outcome "failed to deregister instance"
        (.publishing ⟨.deregistered, serviceName, instanceId⟩)
        (s.send ttlSeconds (.delete (instanceKey lib serviceName instanceId))))
  | .query k serviceName keys outcome =>
      if keys.Perm (s.keys.filter (lib.matchKey (keyPattern serviceName))) then
        s.begin k (s.answer k outcome "failed to list registered instances"
          (if keys.isEmpty then .returned (.ok (.instances [])) else .fetching keys) s)
      else none
  | .resume k outcome =>
      match s.phase k with
      | .returned _ => none
      | .publishing event =>
          some (s.answer k outcome "failed to publish registry event" (.returned (.ok .done))
            { s with published := s.published ++ [event] })
      | .fetching keys =>
          some (s.answer k outcome "failed to fetch registered instances"
            (.returned (decodeAll lib (keys.filterMap fun key => s.store.lookup s.now key))) s)

def start : State F κ := ⟨0, [], [], fun _ => .returned (.ok .done)⟩

/-! ### The keys of a service -/

/-- A name without a special character of a pattern. -/
def Plain (text : String) : Prop := ∀ c ∈ text.toList, c ∉ ['*', '?', '[', ']', '\\']

instance decidablePlain (text : String) : Decidable (Plain text) :=
  List.decidableBAll (fun c => c ∉ ['*', '?', '[', ']', '\\']) text.toList

/-- A pattern that is plain up to a final star matches what it is a prefix of. -/
def MatchesPrefixes : Prop :=
  ∀ literal key, Plain literal →
    (lib.matchKey (literal ++ "*") key = true ↔ literal.toList <+: key.toList)

/-- The service itself, or one whose name goes on after a colon. -/
def Under (serviceName other : String) : Prop :=
  other = serviceName ∨ (serviceName ++ ":").toList <+: other.toList

theorem concat_prefix_append {α : Type*} {a b d : List α} {c : α} (fresh : c ∉ d) :
    a ++ [c] <+: b ++ c :: d ↔ b = a ∨ a ++ [c] <+: b := by
  constructor
  · rintro ⟨rest, same⟩
    obtain ⟨more, split, -⟩ | ⟨more, split, ends⟩ := List.append_eq_append_iff.mp same
    · exact .inr ⟨more, split.symm⟩
    · cases more with
      | nil => exact .inr ⟨[], by simpa using split⟩
      | cons x more =>
          obtain ⟨rfl, rfl⟩ := List.cons.inj ends
          obtain rfl | ⟨more, y, rfl⟩ := more.eq_nil_or_concat
          · exact .inl (List.append_inj_left' split rfl).symm
          · have last : a ++ [c] = (b ++ c :: more) ++ [y] := by simpa using split
            obtain rfl := List.singleton_inj.mp (List.append_inj_right' last rfl)
            simp at fresh
  · rintro (rfl | ⟨rest, rfl⟩)
    · exact ⟨d, by simp⟩
    · exact ⟨rest ++ c :: d, by simp⟩

theorem append_cons_inj {α : Type*} {a b d d' : List α} {c : α} (fresh : c ∉ d)
    (fresh' : c ∉ d') (same : a ++ c :: d = b ++ c :: d') : a = b ∧ d = d' := by
  have one : b = a := by
    obtain here | shorter := (concat_prefix_append fresh').mp ⟨d, by simpa using same⟩
    · exact here
    · obtain here | longer := (concat_prefix_append fresh).mp ⟨d', by simpa using same.symm⟩
      · exact here.symm
      · have le := shorter.length_le
        have le' := longer.length_le
        simp only [List.length_append, List.length_singleton] at le le'
        omega
  subst one
  exact ⟨rfl, (List.cons.inj (List.append_cancel_left same)).2⟩

/-- The id has a text form of its own, in which there is no colon. -/
def PlainId (instanceId : Uuid) : Prop :=
  ':' ∉ (lib.display instanceId).toList ∧
    lib.parseUuid (lib.display instanceId) = some instanceId

instance decidablePlainId (instanceId : Uuid) : Decidable (PlainId lib instanceId) :=
  inferInstanceAs (Decidable (_ ∧ _))

variable {lib ttlSeconds} {s t u : State F κ} {k : κ} {l : Label F κ} {serviceName other : String}
  {instanceId instanceId' : Uuid} {info : InstanceInfo F}

theorem matchKey_iff (globs : MatchesPrefixes lib) (plain : Plain serviceName)
    (id : PlainId lib instanceId) :
    lib.matchKey (keyPattern serviceName) (instanceKey lib other instanceId) = true ↔
      Under serviceName other := by
  have literal : Plain ("registry:" ++ serviceName ++ ":") := by
    intro c here
    simp only [String.toList_append, List.mem_append] at here
    obtain (here | here) | here := here
    · exact (by decide : Plain "registry:") c here
    · exact plain c here
    · exact (by decide : Plain ":") c here
  have colon : ":".toList = [':'] := by decide
  rw [keyPattern, globs _ _ literal]
  simp only [instanceKey, String.toList_append, List.append_assoc]
  rw [List.prefix_append_right_inj, colon, List.singleton_append, concat_prefix_append id.1,
    String.toList_inj, Under, String.toList_append, colon]

theorem instanceKey_inj (id : PlainId lib instanceId) (id' : PlainId lib instanceId')
    (same : instanceKey lib serviceName instanceId = instanceKey lib other instanceId') :
    serviceName = other ∧ instanceId = instanceId' := by
  have colon : ":".toList = [':'] := by decide
  have chars := congrArg String.toList same
  simp only [instanceKey, String.toList_append, List.append_assoc] at chars
  rw [List.append_cancel_left_eq, colon, List.singleton_append, List.singleton_append] at chars
  obtain ⟨name, display⟩ := append_cons_inj id.1 id'.1 chars
  have parsed := id.2
  rw [String.toList_inj.mp display, id'.2] at parsed
  exact ⟨String.toList_inj.mp name, (Option.some.inj parsed).symm⟩

/-! ### What the keys hold -/

/-- The ids have a text form of their own, and what is registered reads back. -/
def Readable (lib : Libraries F) (s : State F κ) : Label F κ → Prop
  | .register _ serviceName instanceId address metadata _ =>
      PlainId lib instanceId ∧
        lib.decode (lib.encode ⟨serviceName, instanceId, address, metadata, s.now⟩) =
          some ⟨serviceName, instanceId, address, metadata, s.now⟩
  | .heartbeat _ _ instanceId _ | .deregister _ _ instanceId _ => PlainId lib instanceId
  | .tick _ | .query .. | .resume .. => True

instance decidableReadable [DecidableEq F] (s : State F κ) : ∀ l, Decidable (Readable lib s l)
  | .register _ serviceName instanceId address metadata _ =>
      inferInstanceAs (Decidable (PlainId lib instanceId ∧
        lib.decode (lib.encode ⟨serviceName, instanceId, address, metadata, s.now⟩) =
          some ⟨serviceName, instanceId, address, metadata, s.now⟩))
  | .heartbeat _ _ instanceId _ | .deregister _ _ instanceId _ =>
      inferInstanceAs (Decidable (PlainId lib instanceId))
  | .tick _ | .query .. | .resume .. => isTrue trivial

/-- Every value that was set is that of an instance, under its own key. -/
def Written (lib : Libraries F) (s : State F κ) : Prop :=
  ∀ c ∈ s.redis, ∀ key value, c.operation = .set key value → ∃ info : InstanceInfo F,
    key = info.key lib ∧ value = lib.encode info ∧ PlainId lib info.instanceId ∧
      lib.decode value = some info

/-- The instance is registered with this information, and all its heartbeats came in time. -/
def Live (lib : Libraries F) (s : State F κ) (info : InstanceInfo F) : Prop :=
  Expiring.Holds s.redis s.now (info.key lib) (lib.encode info) ∧
    lib.decode (lib.encode info) = some info

/-- What the label has Redis do, if it gets there. -/
def Label.operation (lib : Libraries F) (now : ℕ) :
    Label F κ → Option (Expiring.Operation String String)
  | .register _ serviceName instanceId address metadata _ =>
      some (.set (instanceKey lib serviceName instanceId)
        (lib.encode ⟨serviceName, instanceId, address, metadata, now⟩))
  | .heartbeat _ serviceName instanceId _ => some (.renew (instanceKey lib serviceName instanceId))
  | .deregister _ serviceName instanceId _ =>
      some (.delete (instanceKey lib serviceName instanceId))
  | .tick _ | .query .. | .resume .. => none

omit [DecidableEq κ] in
theorem State.begin_eq_some {next : State F κ} :
    s.begin k next = some t ↔ (∃ result, s.phase k = .returned result) ∧ next = t := by
  unfold State.begin
  cases s.phase k <;> simp

/-- A statement leaves Redis as it was, or as it has made it. -/
theorem State.redis_answer {outcome : Outcome} {failure : String} {next : Phase F}
    {done : State F κ} : (s.answer k outcome failure next done).redis =
    if outcome = .failed then s.redis else done.redis := by
  cases outcome <;> rfl

theorem redis_step (taken : step lib ttlSeconds s l = some t) :
    t.redis = s.redis ∨ ∃ operation, l.operation lib s.now = some operation ∧
      t.redis = s.redis ++ [⟨s.now, ttlSeconds * 1000, operation⟩] := by
  cases l with
  | tick =>
      obtain rfl := Option.some.inj taken
      exact .inl rfl
  | register | heartbeat | deregister =>
      obtain ⟨-, rfl⟩ := State.begin_eq_some.mp taken
      rw [State.redis_answer]
      split
      · exact .inl rfl
      · exact .inr ⟨_, rfl, rfl⟩
  | query =>
      simp only [step] at taken
      split at taken
      · obtain ⟨-, rfl⟩ := State.begin_eq_some.mp taken
        exact .inl (by rw [State.redis_answer, ite_self])
      · cases taken
  | resume =>
      simp only [step] at taken
      split at taken
      · cases taken
      all_goals
        obtain rfl := Option.some.inj taken
        exact .inl (by rw [State.redis_answer, ite_self])

theorem Written.step (inv : Written lib s) (readable : Readable lib s l)
    (taken : step lib ttlSeconds s l = some t) : Written lib t := by
  obtain same | ⟨operation, does, same⟩ := redis_step taken
  · rwa [Written, same]
  · rw [Written, same]
    intro c here key value set
    obtain before | last := List.mem_append.mp here
    · exact inv c before key value set
    · obtain rfl := List.mem_singleton.mp last
      cases l with
      | register _ serviceName instanceId address metadata _ =>
          obtain rfl := Option.some.inj does
          cases set
          exact ⟨⟨serviceName, instanceId, address, metadata, s.now⟩, rfl, rfl, readable⟩
      | heartbeat | deregister =>
          obtain rfl := Option.some.inj does
          cases set
      | tick | query | resume => cases does

theorem written_of_run {labels : List (Label F κ)}
    (readable : Admissible (step lib ttlSeconds) (Readable lib) start labels)
    (run : exec (step lib ttlSeconds) start labels = some s) : Written lib s := by
  refine exec_invariant (fun _ _ _ inv readable taken => inv.step readable taken) ?_ readable run
  simp [Written, start]

section Found

omit [DecidableEq κ]

/-- What is found under a key is a live instance. -/
theorem Written.found (inv : Written lib s) {key value : String}
    (found : s.store.lookup s.now key = some value) :
    ∃ info : InstanceInfo F, key = info.key lib ∧ value = lib.encode info ∧
      PlainId lib info.instanceId ∧ Live lib s info := by
  have holds := Expiring.lookup_run.mp found
  obtain ⟨before, c, after, same, set, -⟩ := Expiring.lookup_run.mp found
  obtain ⟨info, rfl, rfl, plain, reads⟩ := inv c (by simp [same]) key value set
  exact ⟨info, rfl, rfl, plain, holds, reads⟩

theorem Live.lookup (live : Live lib s info) :
    s.store.lookup s.now (info.key lib) = some (lib.encode info) := Expiring.lookup_run.mpr live.1

theorem Live.plainId (live : Live lib s info) (inv : Written lib s) :
    PlainId lib info.instanceId := by
  obtain ⟨info', -, same, plain, -, reads⟩ := inv.found live.lookup
  rw [← same, live.2] at reads
  exact Option.some.inj reads ▸ plain

theorem mem_keys {key : String} : key ∈ s.keys ↔ (s.store.lookup s.now key).isSome = true := by
  rw [State.keys, List.mem_filter, List.mem_dedup]
  refine and_iff_right_of_imp fun held => ?_
  obtain ⟨value, holds⟩ := Expiring.exists_lookup_iff.mp held
  exact holds.mem_setKey

/-- What is fetched under the keys is the instances that are still live. -/
theorem Written.fetched (inv : Written lib s) (keys : List String) :
    ∃ infos, (keys.filterMap fun key => s.store.lookup s.now key).mapM lib.decode = some infos ∧
      (infos.map (InstanceInfo.key lib)).Sublist keys ∧
      ∀ info, info ∈ infos ↔ info.key lib ∈ keys ∧ Live lib s info := by
  induction keys with
  | nil => exact ⟨[], rfl, .slnil, by simp⟩
  | cons key keys ih =>
      obtain ⟨infos, decoded, sub, mem⟩ := ih
      cases found : s.store.lookup s.now key with
      | none =>
          refine ⟨infos, by rwa [List.filterMap_cons_none found], sub.cons key, fun info => ?_⟩
          have other : Live lib s info → info.key lib ≠ key := by
            rintro live rfl
            rw [live.lookup] at found
            cases found
          rw [mem, List.mem_cons]
          exact and_congr_left fun live => (or_iff_right (other live)).symm
      | some value =>
          obtain ⟨first, rfl, rfl, plain, live⟩ := inv.found found
          refine ⟨first :: infos, ?_, sub.cons_cons _, fun info => ?_⟩
          · rw [List.filterMap_cons_some found, List.mapM_cons, live.2, decoded]
            rfl
          · rw [List.mem_cons, mem, List.mem_cons, or_and_right]
            refine or_congr_left ⟨?_, ?_⟩
            · rintro rfl
              exact ⟨rfl, live⟩
            · rintro ⟨same, live'⟩
              have value := live'.lookup
              rw [same, found] at value
              have reads := live.2
              rw [Option.some.inj value, live'.2] at reads
              exact Option.some.inj reads

end Found

/-! ### Asking for a service -/

def Label.caller : Label F κ → Option κ
  | .tick _ => none
  | .register k .. | .heartbeat k .. | .deregister k .. | .query k .. | .resume k _ => some k

theorem State.phase_answer {k' : κ} {outcome : Outcome} {failure : String} {next : Phase F}
    {done : State F κ} (other : k ≠ k') (same : done.phase = s.phase) :
    (s.answer k' outcome failure next done).phase k = s.phase k := by
  cases outcome with
  | failed => exact Function.update_of_ne other _ _
  | ok | lost => exact (Function.update_of_ne other _ _).trans (congrFun same k)

theorem phase_of_other (other : l.caller ≠ some k) (taken : step lib ttlSeconds s l = some t) :
    t.phase k = s.phase k := by
  cases l with
  | tick =>
      obtain rfl := Option.some.inj taken
      rfl
  | register k' | heartbeat k' | deregister k' =>
      obtain ⟨-, rfl⟩ := State.begin_eq_some.mp taken
      exact State.phase_answer (fun same => other (congrArg some same.symm)) rfl
  | query k' =>
      simp only [step] at taken
      split at taken
      · obtain ⟨-, rfl⟩ := State.begin_eq_some.mp taken
        exact State.phase_answer (fun same => other (congrArg some same.symm)) rfl
      · cases taken
  | resume k' =>
      simp only [step] at taken
      split at taken
      · cases taken
      all_goals
        obtain rfl := Option.some.inj taken
        exact State.phase_answer (fun same => other (congrArg some same.symm)) rfl

theorem phase_of_others {labels : List (Label F κ)} (others : ∀ l ∈ labels, l.caller ≠ some k)
    (run : exec (step lib ttlSeconds) s labels = some t) : t.phase k = s.phase k := by
  induction labels generalizing s with
  | nil =>
      obtain rfl := Transition.exec_nil.mp run
      rfl
  | cons l labels ih =>
      obtain ⟨u, taken, rest⟩ := exec_cons.mp run
      rw [ih (fun l' here => others l' (List.mem_cons_of_mem l here)) rest]
      exact phase_of_other (others l List.mem_cons_self) taken

omit [DecidableEq κ] in
/-- The keys of the instances that are live, if their service is asked for. -/
theorem mem_listed (inv : Written lib s) (globs : MatchesPrefixes lib) (plain : Plain serviceName)
    (id : PlainId lib info.instanceId) {keys : List String}
    (listed : keys.Perm (s.keys.filter (lib.matchKey (keyPattern serviceName)))) :
    info.key lib ∈ keys ↔ Under serviceName info.serviceName ∧
      ∃ earlier : InstanceInfo F, earlier.key lib = info.key lib ∧ Live lib s earlier := by
  rw [listed.mem_iff, List.mem_filter, mem_keys, InstanceInfo.key, matchKey_iff globs plain id,
    and_comm]
  refine and_congr_right fun _ => ?_
  rw [Option.isSome_iff_exists]
  constructor
  · rintro ⟨value, found⟩
    obtain ⟨earlier, same, -, -, live⟩ := inv.found found
    exact ⟨earlier, same.symm, live⟩
  · rintro ⟨earlier, same, live⟩
    exact ⟨_, same ▸ live.lookup⟩

/-- A query lists, once each, the instances of the service and of the services whose names go
on from its own after a colon, if they were live when it began and are live when it fetches
them, with what they are registered with by then. -/
theorem query_lists {before between : List (Label F κ)} {keys : List String}
    (globs : MatchesPrefixes lib) (plain : Plain serviceName)
    (readable : Admissible (step lib ttlSeconds) (Readable lib) start
      (before ++ .query k serviceName keys .ok :: between))
    (reached : exec (step lib ttlSeconds) start before = some s)
    (others : ∀ l ∈ between, l.caller ≠ some k)
    (run : exec (step lib ttlSeconds) s (.query k serviceName keys .ok :: between) = some t)
    (fetched : exec (step lib ttlSeconds) t (if keys = [] then [] else [.resume k .ok]) = some u) :
    ∃ infos, u.phase k = .returned (.ok (.instances infos)) ∧
      (infos.map fun info => (info.serviceName, info.instanceId)).Nodup ∧
      ∀ info, info ∈ infos ↔ Under serviceName info.serviceName ∧
        (∃ earlier : InstanceInfo F, earlier.key lib = info.key lib ∧ Live lib s earlier) ∧
        Live lib t info := by
  obtain ⟨first, second⟩ := (Transition.admissible_append reached).mp readable
  have inv : Written lib s := written_of_run first reached
  have inv' : Written lib t := exec_invariant
    (fun _ _ _ inv readable taken => inv.step readable taken) inv second run
  obtain ⟨s', taken, rest⟩ := exec_cons.mp run
  simp only [step] at taken
  split at taken
  next listed =>
    obtain ⟨-, rfl⟩ := State.begin_eq_some.mp taken
    have phase := phase_of_others others rest
    rw [show (State.answer s k .ok _ _ s).phase k = _ from Function.update_self ..] at phase
    have distinct : keys.Nodup :=
      listed.nodup_iff.mpr (((List.nodup_dedup _).filter _).filter _)
    obtain ⟨infos, decoded, sub, mem⟩ := inv'.fetched keys
    refine ⟨infos, ?_, ?_, fun info => ?_⟩
    · cases keys with
      | nil =>
          obtain rfl := Transition.exec_nil.mp fetched
          obtain rfl := Option.some.inj (decoded : some [] = some infos)
          exact phase
      | cons key keys =>
          obtain ⟨u', answered, none⟩ := exec_cons.mp fetched
          obtain rfl := Transition.exec_nil.mp none
          have fetching : t.phase k = .fetching (key :: keys) := phase
          simp only [step, fetching] at answered
          obtain rfl := Option.some.inj answered
          rw [State.decodeAll, decoded]
          exact Function.update_self ..
    · have keysOf : (infos.map fun info => (info.serviceName, info.instanceId)).map
          (fun p => instanceKey lib p.1 p.2) = infos.map (InstanceInfo.key lib) := by
        rw [List.map_map]
        rfl
      exact List.Nodup.of_map _ (keysOf ▸ sub.nodup distinct)
    · rw [mem, ← and_assoc]
      refine and_congr_left fun live => ?_
      exact mem_listed inv globs plain (live.plainId inv') listed
  · cases taken

/-! ### Being told -/

/-- Whether a subscriber takes the instance to be registered, from the events in turn. -/
def listed (events : List RegistryEvent) (serviceName : String) (instanceId : Uuid) : Bool :=
  events.foldl (fun held event =>
    if event.serviceName = serviceName ∧ event.instanceId = instanceId then
      decide (event.kind = .registered)
    else held) false

/-- What is about to be published of the instance. -/
def Phase.about (serviceName : String) (instanceId : Uuid) : Phase F → Option RegistryEventKind
  | .publishing event =>
      if event.serviceName = serviceName ∧ event.instanceId = instanceId then some event.kind
      else none
  | .returned _ | .fetching _ => none

/-- Instances are registered and deregistered one call after the other, and every change is
published. -/
def Announced (s : State F κ) : Label F κ → Prop
  | .register _ serviceName instanceId _ _ outcome
  | .deregister _ serviceName instanceId outcome =>
      outcome ≠ .lost ∧ ∀ k, (s.phase k).about serviceName instanceId = none
  | .resume k outcome =>
      match s.phase k with
      | .publishing _ => outcome ≠ .failed
      | .returned _ | .fetching _ => True
  | .tick _ | .heartbeat .. | .query .. => True

/-- The events tell what Redis would hold if nothing expired, up to the one that is pending. -/
structure Told (lib : Libraries F) (s : State F κ) (serviceName : String) (instanceId : Uuid) :
    Prop where
  settled : (∀ k, (s.phase k).about serviceName instanceId = none) →
    listed s.published serviceName instanceId =
      (Expiring.contents s.redis (instanceKey lib serviceName instanceId)).isSome
  pending : ∀ k kind, (s.phase k).about serviceName instanceId = some kind →
    (∀ k', k' ≠ k → (s.phase k').about serviceName instanceId = none) ∧
      (Expiring.contents s.redis (instanceKey lib serviceName instanceId)).isSome =
        decide (kind = .registered)

namespace Told

variable {kind : RegistryEventKind} {event : RegistryEvent} {phase : Phase F}

omit [DecidableEq κ] in
theorem of_eq (told : Told lib s serviceName instanceId)
    (redis : (Expiring.contents t.redis (instanceKey lib serviceName instanceId)).isSome =
      (Expiring.contents s.redis (instanceKey lib serviceName instanceId)).isSome)
    (published : listed t.published serviceName instanceId =
      listed s.published serviceName instanceId)
    (about : ∀ k, (t.phase k).about serviceName instanceId =
      (s.phase k).about serviceName instanceId) : Told lib t serviceName instanceId where
  settled idle := by
    rw [published, redis]
    exact told.settled fun k => (about k).symm.trans (idle k)
  pending k kind here := by
    obtain ⟨alone, held⟩ := told.pending k kind ((about k).symm.trans here)
    exact ⟨fun k' other => (about k').trans (alone k' other), redis.trans held⟩

/-- What is pending of a caller that goes on to another phase. -/
theorem about_goto (s : State F κ) (k : κ) (phase : Phase F) (k' : κ) :
    ((s.goto k phase).phase k').about serviceName instanceId =
      if k' = k then phase.about serviceName instanceId
      else (s.phase k').about serviceName instanceId := by
  by_cases own : k' = k
  · subst own
    simp [State.goto]
  · simp [State.goto, own]

/-- The caller has nothing pending before and after. -/
theorem goto (told : Told lib s serviceName instanceId)
    (before : (s.phase k).about serviceName instanceId = none)
    (after : phase.about serviceName instanceId = none) :
    Told lib (s.goto k phase) serviceName instanceId := by
  refine told.of_eq rfl rfl fun k' => ?_
  rw [about_goto]
  split
  next own => rw [own, before, after]
  · rfl

/-- The instance has changed, and nothing else of it was pending. -/
theorem changed (idle : ∀ k, (s.phase k).about serviceName instanceId = none)
    (held : (Expiring.contents s.redis (instanceKey lib serviceName instanceId)).isSome =
      decide (kind = .registered)) :
    Told lib (s.goto k (.publishing ⟨kind, serviceName, instanceId⟩)) serviceName instanceId where
  settled none := by
    have own := none k
    rw [about_goto, if_pos rfl] at own
    simp [Phase.about] at own
  pending k' kind' here := by
    rw [about_goto] at here
    split at here
    next own =>
      subst own
      simp only [Phase.about, and_self, if_true, Option.some.injEq] at here
      refine ⟨fun k other => ?_, here ▸ held⟩
      rw [about_goto, if_neg other]
      exact idle k
    · rw [idle k'] at here
      cases here

theorem publish (told : Told lib s serviceName instanceId)
    (publishing : s.phase k = .publishing event) (result : Except Error (Answer F)) :
    Told lib ({ s with published := s.published ++ [event] }.goto k (.returned result))
      serviceName instanceId := by
  have events : listed (s.published ++ [event]) serviceName instanceId =
      if event.serviceName = serviceName ∧ event.instanceId = instanceId then
        decide (event.kind = .registered)
      else listed s.published serviceName instanceId := by
    simp [listed, List.foldl_append]
  have own : (s.phase k).about serviceName instanceId =
      if event.serviceName = serviceName ∧ event.instanceId = instanceId then some event.kind
      else none := by
    rw [publishing, Phase.about]
  by_cases its : event.serviceName = serviceName ∧ event.instanceId = instanceId
  · rw [if_pos its] at events own
    obtain ⟨alone, held⟩ := told.pending k event.kind own
    refine ⟨fun _ => events.trans held.symm, fun k' kind here => ?_⟩
    rw [about_goto] at here
    split at here
    · cases here
    next other =>
      have none := alone k' other
      rw [none] at here
      cases here
  · rw [if_neg its] at events own
    refine told.of_eq rfl events fun k' => ?_
    rw [about_goto]
    split
    next same => rw [same, own, Phase.about]
    · rfl

/-- An instance is registered or deregistered, this one or another. -/
theorem written (told : Told lib s serviceName instanceId) (id : PlainId lib instanceId)
    (id' : PlainId lib instanceId') {result : Except Error (Answer F)}
    (idle : s.phase k = .returned result)
    (alone : ∀ k, (s.phase k).about other instanceId' = none)
    {operation : Expiring.Operation String String}
    (own : ∀ held, (operation.leaves (instanceKey lib other instanceId') held).isSome =
      decide (kind = .registered))
    (others : ∀ key held, key ≠ instanceKey lib other instanceId' →
      operation.leaves key held = held) :
    Told lib ((s.send ttlSeconds operation).goto k (.publishing ⟨kind, other, instanceId'⟩))
      serviceName instanceId := by
  by_cases its : other = serviceName ∧ instanceId' = instanceId
  · obtain ⟨rfl, rfl⟩ := its
    refine changed alone ?_
    rw [State.send, Expiring.contents_concat]
    exact own _
  · have key : instanceKey lib serviceName instanceId ≠ instanceKey lib other instanceId' := by
      intro same
      obtain ⟨rfl, rfl⟩ := instanceKey_inj id id' same
      exact its ⟨rfl, rfl⟩
    have same : Told lib (s.send ttlSeconds operation) serviceName instanceId := by
      refine told.of_eq ?_ rfl fun _ => rfl
      rw [State.send, Expiring.contents_concat, others _ _ key]
    refine same.goto ?_ (if_neg its)
    rw [State.send, idle, Phase.about]

theorem step (told : Told lib s serviceName instanceId) (id : PlainId lib instanceId)
    (readable : Readable lib s l) (announced : Announced s l)
    (taken : ServiceRegistry.step lib ttlSeconds s l = some t) :
    Told lib t serviceName instanceId := by
  cases l with
  | tick =>
      obtain rfl := Option.some.inj taken
      exact told.of_eq rfl rfl fun _ => rfl
  | register k serviceName' instanceId' address metadata outcome =>
      obtain ⟨⟨result, idle⟩, rfl⟩ := State.begin_eq_some.mp taken
      obtain ⟨answered, alone⟩ := announced
      cases outcome with
      | ok =>
          exact told.written id readable.1 idle alone
            (fun held => congrArg Option.isSome (if_pos rfl))
            fun key held other => if_neg (Ne.symm other)
      | failed => exact told.goto (by rw [idle, Phase.about]) rfl
      | lost => exact absurd rfl answered
  | deregister k serviceName' instanceId' outcome =>
      obtain ⟨⟨result, idle⟩, rfl⟩ := State.begin_eq_some.mp taken
      obtain ⟨answered, alone⟩ := announced
      cases outcome with
      | ok =>
          exact told.written id readable idle alone
            (fun held => congrArg Option.isSome (if_pos rfl))
            fun key held other => if_neg (Ne.symm other)
      | failed => exact told.goto (by rw [idle, Phase.about]) rfl
      | lost => exact absurd rfl answered
  | heartbeat k serviceName' instanceId' outcome =>
      obtain ⟨⟨result, idle⟩, rfl⟩ := State.begin_eq_some.mp taken
      have free : (s.phase k).about serviceName instanceId = none := by rw [idle, Phase.about]
      have renewed : Told lib
          (s.send ttlSeconds (.renew (instanceKey lib serviceName' instanceId'))) serviceName
            instanceId := by
        refine told.of_eq ?_ rfl fun _ => rfl
        rw [State.send, Expiring.contents_concat, Expiring.Operation.leaves]
      cases outcome with
      | ok | lost => exact renewed.goto free rfl
      | failed => exact told.goto free rfl
  | query k serviceName' keys outcome =>
      simp only [ServiceRegistry.step] at taken
      split at taken
      · obtain ⟨⟨result, idle⟩, rfl⟩ := State.begin_eq_some.mp taken
        have free : (s.phase k).about serviceName instanceId = none := by rw [idle, Phase.about]
        cases outcome with
        | ok => exact told.goto free (by split <;> rfl)
        | failed | lost => exact told.goto free rfl
      · cases taken
  | resume k outcome =>
      simp only [ServiceRegistry.step] at taken
      split at taken
      · cases taken
      next event publishing =>
        obtain rfl := Option.some.inj taken
        simp only [Announced, publishing] at announced
        cases outcome with
        | ok | lost => exact told.publish publishing _
        | failed => exact absurd rfl announced
      next keys fetching =>
        obtain rfl := Option.some.inj taken
        have free : (s.phase k).about serviceName instanceId = none := by
          rw [fetching, Phase.about]
        cases outcome with
        | ok | failed | lost => exact told.goto free rfl

end Told

/-- A subscriber to all the events misses no live instance, once what has happened to it is
published. Beyond these it lists the instances that were not deregistered and have expired. -/
theorem subscriber_lists {labels : List (Label F κ)} (id : PlainId lib instanceId)
    (announced : Admissible (step lib ttlSeconds)
      (fun s l => Readable lib s l ∧ Announced s l) start labels)
    (run : exec (step lib ttlSeconds) start labels = some s)
    (settled : ∀ k, (s.phase k).about serviceName instanceId = none) :
    listed s.published serviceName instanceId =
        (Expiring.contents s.redis (instanceKey lib serviceName instanceId)).isSome ∧
      ∀ info : InstanceInfo F, info.serviceName = serviceName → info.instanceId = instanceId →
        Live lib s info → listed s.published serviceName instanceId = true := by
  have first : Told lib (start : State F κ) serviceName instanceId :=
    ⟨fun _ => rfl, fun k kind here => by cases here⟩
  have told : Told lib s serviceName instanceId := exec_invariant
    (I := fun s => Told lib s serviceName instanceId)
    (fun _ _ _ told ok taken => told.step id ok.1 ok.2 taken) first announced run
  refine ⟨told.settled settled, ?_⟩
  rintro info rfl rfl live
  rw [told.settled settled]
  exact Option.isSome_iff_exists.mpr ⟨_, live.1.contents⟩

namespace World

/-- A world server that registers at the epoch. -/
def server : InstanceInfo Unit := ⟨"world", 1, "host:7000", ⟨none, none, none⟩, 0⟩

def json : String :=
  "\x7b\"service_name\":\"world\"," ++
    "\"instance_id\":\"00000000-0000-0000-0000-000000000001\",\"address\":\"host:7000\"," ++
    "\"metadata\":\x7b\"load\":null,\"capacity\":null,\"realm_id\":null\x7d," ++
    "\"registered_at\":\"1970-01-01T00:00:00Z\"\x7d"

/-- The libraries for this server and its entry. -/
def libraries : Libraries Unit where
  display id := "00000000-0000-0000-0000-00000000000" ++ toString id.toNat
  parseUuid text := if text = "00000000-0000-0000-0000-000000000001" then some 1 else none
  encode info := if info = server then json else ""
  decode text := if text = json then some server else none
  matchKey pattern key := pattern.toList.dropLast.isPrefixOf key.toList

theorem matchesPrefixes : MatchesPrefixes libraries := by
  intro literal key _
  have star : (literal ++ "*").toList.dropLast = literal.toList := by
    rw [String.toList_append, show "*".toList = ['*'] by decide, List.dropLast_concat]
  change (literal ++ "*").toList.dropLast.isPrefixOf key.toList = true ↔ _
  rw [star, List.isPrefixOf_iff_prefix]

def registers : List (Label Unit Bool) :=
  [.register false "world" 1 "host:7000" ⟨none, none, none⟩ .ok, .resume false .ok]

instance decidableAnnounced (s : State Unit Bool) : ∀ l, Decidable (Announced s l)
  | .register _ serviceName instanceId _ _ outcome
  | .deregister _ serviceName instanceId outcome =>
      inferInstanceAs (Decidable (outcome ≠ .lost ∧
        ∀ k, (s.phase k).about serviceName instanceId = none))
  | .resume k outcome =>
      match h : s.phase k with
      | .publishing _ => decidable_of_iff (outcome ≠ .failed) (by simp [Announced, h])
      | .returned _ | .fetching _ => isTrue (by simp [Announced, h])
  | .tick _ | .heartbeat .. | .query .. => isTrue trivial

def key : String := instanceKey libraries "world" 1

theorem query_lists_world :
    ∃ s t u, exec (step libraries 30) start registers = some s ∧
      exec (step libraries 30) s [.query true "world" [key] .ok, .tick 10000] = some t ∧
      exec (step libraries 30) t [.resume true .ok] = some u ∧
      ∃ infos, u.phase true = .returned (.ok (.instances infos)) ∧
        (infos.map fun info => (info.serviceName, info.instanceId)).Nodup ∧
        ∀ info, info ∈ infos ↔ Under "world" info.serviceName ∧
          (∃ earlier : InstanceInfo Unit, earlier.key libraries = info.key libraries ∧
            Live libraries s earlier) ∧
          Live libraries t info := by
  have readable : Admissible (step libraries 30) (Readable libraries) start
      (registers ++ [.query true "world" [key] .ok, .tick 10000]) := by decide +kernel
  obtain ⟨u, run, -⟩ : ∃ u, exec (step libraries 30) start
      (registers ++ ([.query true "world" [key] .ok, .tick 10000] ++ [.resume true .ok])) =
        some u ∧ True := Transition.exec_reaches (by decide)
  obtain ⟨s, reached, rest⟩ := Transition.exec_append.mp run
  obtain ⟨t, asked, fetched⟩ := Transition.exec_append.mp rest
  have others : ∀ l ∈ ([.tick 10000] : List (Label Unit Bool)), l.caller ≠ some true := by
    simp [Label.caller]
  exact ⟨s, t, u, reached, asked, fetched,
    query_lists matchesPrefixes (by decide) readable reached others asked fetched⟩

theorem subscriber_lists_world :
    ∃ s, exec (step libraries 30) start registers = some s ∧
      listed s.published "world" 1 = (Expiring.contents s.redis key).isSome := by
  have announced : Admissible (step libraries 30)
      (fun s l => Readable libraries s l ∧ Announced s l) start registers := by decide +kernel
  obtain ⟨s, run, settled⟩ : ∃ s, exec (step libraries 30) start registers = some s ∧
      ∀ k, (s.phase k).about "world" 1 = none := Transition.exec_reaches (by decide)
  have id : PlainId libraries 1 := by decide
  exact ⟨s, run, (subscriber_lists id announced run settled).1⟩

end World

end WorldZero.ServiceRegistry
