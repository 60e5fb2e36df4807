import WorldZero.Server.SessionTrace

/-!
# The identity maps

A connection enters its entity into `entity_characters` and `entity_accounts`, and into
their reverse maps under its character and its account. The cleanup takes the entry of
the character and of the account out of the reverse maps, whatever entity it names by
then; a session that returns by a `?` takes nothing out. The two pairs of maps are kept
in the same way, so what is said of one pair is said of both.
-/

namespace WorldZero.Server.Session

/-- The four maps of the process. -/
structure Identities where
  entityCharacters : EntityId → Option CharacterId
  characterEntities : CharacterId → Option EntityId
  entityAccounts : EntityId → Option AccountId
  accountEntities : AccountId → Option EntityId

def Shared.identities {Remote : Type} (s : Shared Remote) : Identities where
  entityCharacters := s.entityCharacters
  characterEntities := s.characterEntities
  entityAccounts := s.entityAccounts
  accountEntities := s.accountEntities

/-- The connection has made the step `enter` of its registration and not yet the step
`leave` of its cleanup. -/
def Point.between (enter : Registration) (leave : Cleanup) : Point → Bool
  | .joining rest => enter ∉ rest
  | .serving => true
  | .cleaning rest => leave ∈ rest
  | .returned | .failed => false

theorem Point.between_joining {enter op : Registration} {leave : Cleanup}
    {rest : List Registration} (other : enter ≠ op) :
    (Point.joining rest).between enter leave =
      (Point.joining (op :: rest)).between enter leave := by
  simp [Point.between, other]

theorem Point.between_cleaning {enter : Registration} {leave op : Cleanup} {rest : List Cleanup}
    (other : leave ≠ op) :
    (Point.cleaning rest).between enter leave =
      (Point.cleaning (op :: rest)).between enter leave := by
  simp [Point.between, other]

theorem Point.between_all (enter : Registration) (leave : Cleanup) :
    (Point.joining Registration.all).between enter leave = false := by
  cases enter <;> rfl

/-- A map from entities and its reverse, with the steps that write to them. -/
structure MapPair (K : Type) where
  key : Identity → K
  forward : Identities → EntityId → Option K
  reverse : Identities → K → Option EntityId
  list : Registration
  enter : Registration
  unlist : Cleanup
  remove : Cleanup

/-- `entity_characters` and `character_entities`. -/
def characterMaps : MapPair CharacterId where
  key := Identity.characterId
  forward := Identities.entityCharacters
  reverse := Identities.characterEntities
  list := .entityCharacter
  enter := .characterEntity
  unlist := .entityCharacter
  remove := .characterEntity

/-- `entity_accounts` and `account_entities`. -/
def accountMaps : MapPair AccountId where
  key := Identity.accountId
  forward := Identities.entityAccounts
  reverse := Identities.accountEntities
  list := .entityAccount
  enter := .accountEntity
  unlist := .entityAccount
  remove := .accountEntity

namespace MapPair

variable {ι Remote K : Type} (m : MapPair K) (who : ι → Identity) (s : State ι Remote)

/-- The connection is in the reverse map, as far as its own steps go. -/
def Connected (point : Point) : Prop := point.between m.enter m.remove

instance (point : Point) : Decidable (m.Connected point) := by
  unfold Connected
  infer_instance

/-- The maps agree: the entity of a connection leads to its key; the key of a connected
entity leads to a connected entity of the same key; and whatever the reverse map names
is connected under the key it is named for. -/
structure Agree : Prop where
  forward : ∀ c, (s.point c).between m.list m.unlist →
    m.forward s.shared.identities (who c).entityId = some (m.key (who c))
  reverse : ∀ c, m.Connected (s.point c) →
    ∃ c', m.Connected (s.point c') ∧ m.key (who c') = m.key (who c) ∧
      m.reverse s.shared.identities (m.key (who c)) = some (who c').entityId
  current : ∀ k e, m.reverse s.shared.identities k = some e →
    ∃ c, m.Connected (s.point c) ∧ (who c).entityId = e ∧ m.key (who c) = k

/-- A connection takes its key out of the reverse map while no other one is connected
under it, and fails while its key leads to another entity or nowhere. -/
def Alone : Label ι Remote → Prop
  | .advance c false =>
      match s.point c with
      | .cleaning (op :: _) => op = m.remove →
          ∀ c' ≠ c, m.Connected (s.point c') → m.key (who c') ≠ m.key (who c)
      | _ => True
  | .advance c true =>
      match s.point c with
      | .joining (op :: _) => op.fallible →
          m.reverse s.shared.identities (m.key (who c)) ≠ some (who c).entityId
      | _ => True
  | .handle c true => s.point c = .serving →
      m.reverse s.shared.identities (m.key (who c)) ≠ some (who c).entityId
  | _ => True

/-! ### What the steps write -/

/-- The two maps are written to by their own four steps only. -/
structure Lawful [DecidableEq K] : Prop where
  forward_register : ∀ {Remote : Type} (s : Shared Remote) who l op,
    m.forward (s.register who l op).identities =
      if op = m.list then
        Function.update (m.forward s.identities) who.entityId (some (m.key who))
      else m.forward s.identities
  reverse_register : ∀ {Remote : Type} (s : Shared Remote) who l op,
    m.reverse (s.register who l op).identities =
      if op = m.enter then
        Function.update (m.reverse s.identities) (m.key who) (some who.entityId)
      else m.reverse s.identities
  forward_clean : ∀ {Remote : Type} [DecidableEq Remote] (s : Shared Remote) who l op,
    m.forward (s.clean who l op).identities =
      if op = m.unlist then Function.update (m.forward s.identities) who.entityId none
      else m.forward s.identities
  reverse_clean : ∀ {Remote : Type} [DecidableEq Remote] (s : Shared Remote) who l op,
    m.reverse (s.clean who l op).identities =
      if op = m.remove then Function.update (m.reverse s.identities) (m.key who) none
      else m.reverse s.identities
  infallible : m.list.fallible = false ∧ m.enter.fallible = false ∧
    m.unlist.fallible = false ∧ m.remove.fallible = false

instance [DecidableEq K] [Fintype ι] [DecidableEq ι] :
    ∀ l : Label ι Remote, Decidable (m.Alone who s l)
  | .advance c false => by
      unfold Alone
      dsimp only
      exact match s.point c with
        | .cleaning (op :: _) =>
            inferInstanceAs (Decidable (op = m.remove →
              ∀ c' ≠ c, m.Connected (s.point c') → m.key (who c') ≠ m.key (who c)))
        | .cleaning [] | .joining _ | .serving | .returned | .failed => .isTrue trivial
  | .advance c true => by
      unfold Alone
      dsimp only
      exact match s.point c with
        | .joining (op :: _) =>
            inferInstanceAs (Decidable (op.fallible →
              m.reverse s.shared.identities (m.key (who c)) ≠ some (who c).entityId))
        | .joining [] | .cleaning _ | .serving | .returned | .failed => .isTrue trivial
  | .handle c true =>
      inferInstanceAs (Decidable (s.point c = .serving →
        m.reverse s.shared.identities (m.key (who c)) ≠ some (who c).entityId))
  | .heartbeat _ | .handle _ false | .switch .. | .disconnect _ | .tradeRequest ..
  | .tradeRequestResponse .. | .endTrade _ | .handoff .. | .act _ | .bindUdp ..
  | .continueUdp =>
      .isTrue trivial

end MapPair

section Writes

variable {Remote : Type} (s : Shared Remote) (who : Identity)

theorem identities_recordLiveness : (s.recordLiveness who).identities = s.identities := by
  unfold Shared.recordLiveness
  split <;> rfl

theorem identities_endTrade (e : EntityId) : (s.endTrade e).identities = s.identities := by
  unfold Shared.endTrade
  split
  · rfl
  · dsimp only
    split <;> rfl

theorem identities_answer (e : EntityId) (accept : Bool) :
    (s.answer e accept).identities = s.identities := by
  unfold Shared.answer
  split
  · rfl
  · cases accept <;> rfl

theorem identities_remote [DecidableEq Remote] (l : Handoff.Layer) :
    (s.clean who l .remote).identities = s.identities := by
  unfold Shared.clean
  dsimp only
  split <;> rfl

end Writes

theorem lawful_characterMaps : characterMaps.Lawful where
  forward_register s who l op := by
    cases op with
    | liveness => exact congrArg Identities.entityCharacters (identities_recordLiveness s who)
    | _ => rfl
  reverse_register s who l op := by
    cases op with
    | liveness => exact congrArg Identities.characterEntities (identities_recordLiveness s who)
    | _ => rfl
  forward_clean s who l op := by
    cases op with
    | remote => exact congrArg Identities.entityCharacters (identities_remote s who l)
    | activeTrade => exact congrArg Identities.entityCharacters (identities_endTrade s who.entityId)
    | _ => rfl
  reverse_clean s who l op := by
    cases op with
    | remote => exact congrArg Identities.characterEntities (identities_remote s who l)
    | activeTrade =>
        exact congrArg Identities.characterEntities (identities_endTrade s who.entityId)
    | _ => rfl
  infallible := by decide

theorem lawful_accountMaps : accountMaps.Lawful where
  forward_register s who l op := by
    cases op with
    | liveness => exact congrArg Identities.entityAccounts (identities_recordLiveness s who)
    | _ => rfl
  reverse_register s who l op := by
    cases op with
    | liveness => exact congrArg Identities.accountEntities (identities_recordLiveness s who)
    | _ => rfl
  forward_clean s who l op := by
    cases op with
    | remote => exact congrArg Identities.entityAccounts (identities_remote s who l)
    | activeTrade => exact congrArg Identities.entityAccounts (identities_endTrade s who.entityId)
    | _ => rfl
  reverse_clean s who l op := by
    cases op with
    | remote => exact congrArg Identities.accountEntities (identities_remote s who l)
    | activeTrade => exact congrArg Identities.accountEntities (identities_endTrade s who.entityId)
    | _ => rfl
  infallible := by decide

/-! ### What a step keeps -/

section Runs

variable {ι Remote K : Type} {who : ι → Identity} {c : ι} {s s' : State ι Remote}

/-- A registration and a cleanup are run from the front. -/
structure InOrder (point : ι → Point) : Prop where
  joining : ∀ c rest, point c = .joining rest → rest <:+ Registration.all
  cleaning : ∀ c rest, point c = .cleaning rest → rest <:+ Cleanup.all

namespace InOrder

variable {point : ι → Point}

theorem start (zone : ι → Handoff.Layer) : InOrder (start zone : State ι Remote).point where
  joining c rest joining := by
    cases joining
    exact List.suffix_refl _
  cleaning c rest cleaning := by cases cleaning

theorem notMem_joining {op : Registration} {rest : List Registration}
    (h : InOrder point) (next : point c = .joining (op :: rest)) : op ∉ rest :=
  (List.nodup_cons.mp ((h.joining c _ next).sublist.nodup (by decide))).1

theorem notMem_cleaning {op : Cleanup} {rest : List Cleanup}
    (h : InOrder point) (next : point c = .cleaning (op :: rest)) : op ∉ rest :=
  (List.nodup_cons.mp ((h.cleaning c _ next).sublist.nodup (by decide))).1

theorem update [DecidableEq ι] {here : Point} (h : InOrder point)
    (joining : ∀ rest, here = .joining rest → rest <:+ Registration.all)
    (cleaning : ∀ rest, here = .cleaning rest → rest <:+ Cleanup.all) :
    InOrder (Function.update point c here) := by
  constructor <;> intro c' rest there
  all_goals
    by_cases own : c' = c
    · subst own
      rw [Function.update_self] at there
      first | exact joining rest there | exact cleaning rest there
    · rw [Function.update_of_ne own] at there
      first | exact h.joining c' rest there | exact h.cleaning c' rest there

end InOrder

variable [DecidableEq ι] [DecidableEq Remote]

/-- What a step does to the identity maps and to where the connections are. -/
inductive Moves (who : ι → Identity) (s : State ι Remote) : Label ι Remote → State ι Remote → Prop
  | advance {c : ι} {fails s'} (advances : Advances who c s fails s') :
      Moves who s (.advance c fails) s'
  | failed {c : ι} (serving : s.point c = .serving) :
      Moves who s (.handle c true) (s.goto c .failed)
  | left {c : ι} (serving : s.point c = .serving) :
      Moves who s (.disconnect c) (s.goto c (.cleaning Cleanup.all))
  | other {l s'} (identities : s'.shared.identities = s.shared.identities)
      (point : s'.point = s.point) : Moves who s l s'

theorem moves_of_step {l : Label ι Remote} (hs : step who s l = some s') : Moves who s l s' := by
  cases l with
  | advance c fails => exact .advance (advances_of_step hs)
  | heartbeat c =>
      simp only [step] at hs
      split at hs <;> cases hs
      refine .other ?_ rfl
      dsimp only
      split
      · exact identities_recordLiveness s.shared (who c)
      · rfl
  | handle c fails =>
      simp only [step] at hs
      split at hs
      next serving =>
        cases hs
        cases fails with
        | true => exact .failed serving
        | false => exact .other rfl rfl
      · cases hs
  | disconnect c =>
      simp only [step] at hs
      split at hs
      next serving =>
        cases hs
        exact .left serving
      · cases hs
  | tradeRequestResponse c accept =>
      simp only [step] at hs
      split at hs <;> cases hs
      exact .other (identities_answer _ _ _) rfl
  | endTrade c =>
      simp only [step] at hs
      split at hs <;> cases hs
      exact .other (identities_endTrade _ _) rfl
  | handoff change l e =>
      cases hs
      refine .other ?_ rfl
      cases change <;> rfl
  | act l =>
      obtain ⟨shared, performed, rfl⟩ := Option.map_eq_some_iff.mp hs
      refine .other ?_ rfl
      show shared.identities = s.shared.identities
      rw [← identities_act performed]
      rfl
  | switch c | tradeRequest c =>
      simp only [step] at hs
      split at hs <;> cases hs
      exact .other rfl rfl
  | bindUdp remote sessionToken =>
      simp only [step] at hs
      split at hs
      · split at hs <;> cases hs <;> exact .other rfl rfl
      · cases hs
  | continueUdp =>
      change s.continueUdp = some s' at hs
      unfold State.continueUdp at hs
      split at hs <;> cases hs <;> exact .other rfl rfl

theorem InOrder.step {l : Label ι Remote} (h : InOrder s.point)
    (hs : Session.step who s l = some s') : InOrder s'.point := by
  cases moves_of_step hs with
  | advance advances =>
      cases advances with
      | joined | refused | returned => exact h.update (by simp) (by simp)
      | register next =>
          refine h.update (fun rest there => ?_) (by simp)
          cases there
          exact (List.suffix_cons _ _).trans (h.joining _ _ next)
      | clean next | skipped next =>
          refine h.update (by simp) (fun rest there => ?_)
          cases there
          exact (List.suffix_cons _ _).trans (h.cleaning _ _ next)
  | failed => exact h.update (by simp) (by simp)
  | left => exact h.update (by simp) (by simp)
  | other identities point => exact point ▸ h

namespace MapPair

variable {m : MapPair K}

namespace Agree

omit [DecidableEq ι] [DecidableEq Remote] in
/-- The frame rule: the maps stay, and nobody passes a step of theirs. -/
theorem frame (h : m.Agree who s) (identities : s'.shared.identities = s.shared.identities)
    (listed : ∀ c, (s'.point c).between m.list m.unlist = (s.point c).between m.list m.unlist)
    (connected : ∀ c,
      (s'.point c).between m.enter m.remove = (s.point c).between m.enter m.remove) :
    m.Agree who s' where
  forward c there := identities ▸ h.forward c (listed c ▸ there)
  reverse c there := by
    obtain ⟨c', other, same, found⟩ := h.reverse c ((connected c).symm.trans there)
    exact ⟨c', (connected c').trans other, same, identities ▸ found⟩
  current k e found := by
    obtain ⟨c, there, named⟩ := h.current k e (identities ▸ found)
    exact ⟨c, (connected c).trans there, named⟩

omit [DecidableEq Remote] in
/-- A connection goes on without passing a step of the maps. -/
theorem goto {point : Point} (h : m.Agree who s)
    (listed : point.between m.list m.unlist = (s.point c).between m.list m.unlist)
    (connected : point.between m.enter m.remove = (s.point c).between m.enter m.remove) :
    m.Agree who (s.goto c point) := by
  refine h.frame rfl (fun c' => ?_) (fun c' => ?_)
  all_goals
    by_cases own : c' = c
    · subst own
      rwa [State.goto_self]
    · rw [State.goto_of_ne own]

omit [DecidableEq Remote] in
/-- A session that its key does not lead to returns by an error. -/
theorem fail (h : m.Agree who s)
    (alone : m.reverse s.shared.identities (m.key (who c)) ≠ some (who c).entityId) :
    m.Agree who (s.goto c .failed) := by
  have left : ∀ {c'} enter leave, ((s.goto c .failed).point c').between enter leave = true →
      c' ≠ c := by
    rintro c' enter leave there rfl
    rw [State.goto_self] at there
    cases there
  have stays : ∀ {c'}, c' ≠ c → (s.goto c .failed).point c' = s.point c' := fun other =>
    State.goto_of_ne other _
  constructor
  · intro c' there
    exact h.forward c' (stays (left _ _ there) ▸ there)
  · intro c' there
    obtain ⟨c'', connected, same, found⟩ := h.reverse c' (stays (left _ _ there) ▸ there)
    have other : c'' ≠ c := by
      rintro rfl
      exact alone (same ▸ found)
    exact ⟨c'', (stays other).symm ▸ connected, same, found⟩
  · intro k e found
    obtain ⟨c', connected, named, same⟩ := h.current k e found
    have other : c' ≠ c := by
      rintro rfl
      exact alone (same ▸ named ▸ found)
    exact ⟨c', (stays other).symm ▸ connected, named, same⟩

omit [DecidableEq Remote] in
/-- A connection makes a step of its registration. -/
theorem register [DecidableEq K] {op : Registration} {rest : List Registration}
    (h : m.Agree who s) (lawful : m.Lawful)
    (injective : Function.Injective fun c => (who c).entityId) (order : InOrder s.point)
    (next : s.point c = .joining (op :: rest)) :
    m.Agree who
      { s.goto c (.joining rest) with shared := s.shared.register (who c) (s.zone c) op } := by
  have once : op ∉ rest := order.notMem_joining next
  have here : (s.goto c (.joining rest)).point c = .joining rest := State.goto_self c _
  have stays : ∀ {c'}, c' ≠ c → (s.goto c (.joining rest)).point c' = s.point c' := fun other =>
    State.goto_of_ne other _
  have between : ∀ {enter leave} c', c' ≠ c ∨ enter ≠ op →
      ((s.goto c (.joining rest)).point c').between enter leave =
        (s.point c').between enter leave := by
    intro enter leave c' other
    by_cases own : c' = c
    · subst own
      obtain other | other := other
      · exact absurd rfl other
      · rw [here, next, Point.between_joining other]
    · rw [stays own]
  constructor
  · intro c' there
    rw [lawful.forward_register]
    by_cases lists : op = m.list
    · rw [if_pos lists]
      by_cases own : c' = c
      · subst own
        exact Function.update_self _ _ _
      · rw [Function.update_of_ne fun same => own (injective same)]
        exact h.forward c' (between c' (.inl own) ▸ there)
    · rw [if_neg lists]
      exact h.forward c' (between c' (.inr (Ne.symm lists)) ▸ there)
  · intro c' there
    rw [lawful.reverse_register]
    by_cases enters : op = m.enter
    · have entered : m.Connected ((s.goto c (.joining rest)).point c) := by
        simpa [Connected, here, Point.between] using enters ▸ once
      rw [if_pos enters]
      by_cases same : m.key (who c') = m.key (who c)
      · exact ⟨c, entered, same.symm, by rw [same, Function.update_self]⟩
      · have own : c' ≠ c := fun own => same (own ▸ rfl)
        obtain ⟨c'', connected, keyed, found⟩ := h.reverse c' (stays own ▸ there)
        have other : c'' ≠ c := fun own => same (keyed.symm.trans (own ▸ rfl))
        exact ⟨c'', (stays other).symm ▸ connected, keyed, by rwa [Function.update_of_ne same]⟩
    · rw [if_neg enters]
      have connected : ∀ c', ((s.goto c (.joining rest)).point c').between m.enter m.remove =
          (s.point c').between m.enter m.remove := fun c' => between c' (.inr (Ne.symm enters))
      obtain ⟨c'', other, keyed, found⟩ := h.reverse c' ((connected c').symm.trans there)
      exact ⟨c'', (connected c'').trans other, keyed, found⟩
  · intro k e found
    rw [lawful.reverse_register] at found
    by_cases enters : op = m.enter
    · have entered : m.Connected ((s.goto c (.joining rest)).point c) := by
        simpa [Connected, here, Point.between] using enters ▸ once
      rw [if_pos enters] at found
      by_cases same : k = m.key (who c)
      · rw [same, Function.update_self, Option.some.injEq] at found
        exact ⟨c, entered, found, same.symm⟩
      · rw [Function.update_of_ne same] at found
        obtain ⟨c', connected, named, keyed⟩ := h.current k e found
        have other : c' ≠ c := fun own => same (keyed.symm.trans (own ▸ rfl))
        exact ⟨c', (stays other).symm ▸ connected, named, keyed⟩
    · rw [if_neg enters] at found
      obtain ⟨c', connected, named⟩ := h.current k e found
      exact ⟨c', (between c' (.inr (Ne.symm enters))).trans connected, named⟩

/-- A connection makes a step of its cleanup. -/
theorem clean [DecidableEq K] {op : Cleanup} {rest : List Cleanup}
    (h : m.Agree who s) (lawful : m.Lawful)
    (injective : Function.Injective fun c => (who c).entityId) (order : InOrder s.point)
    (next : s.point c = .cleaning (op :: rest))
    (alone : op = m.remove → ∀ c' ≠ c, m.Connected (s.point c') →
      m.key (who c') ≠ m.key (who c)) :
    m.Agree who
      { s.goto c (.cleaning rest) with shared := s.shared.clean (who c) (s.zone c) op } := by
  have once : op ∉ rest := order.notMem_cleaning next
  have here : (s.goto c (.cleaning rest)).point c = .cleaning rest := State.goto_self c _
  have stays : ∀ {c'}, c' ≠ c → (s.goto c (.cleaning rest)).point c' = s.point c' := fun other =>
    State.goto_of_ne other _
  have between : ∀ {enter leave} c', c' ≠ c ∨ leave ≠ op →
      ((s.goto c (.cleaning rest)).point c').between enter leave =
        (s.point c').between enter leave := by
    intro enter leave c' other
    by_cases own : c' = c
    · subst own
      obtain other | other := other
      · exact absurd rfl other
      · rw [here, next, Point.between_cleaning other]
    · rw [stays own]
  -- Who has taken a step out of a map is not between that map's steps any more.
  have left : ∀ {enter leave} c', op = leave →
      ((s.goto c (.cleaning rest)).point c').between enter leave = true → c' ≠ c := by
    rintro enter leave c' rfl there rfl
    rw [here, Point.between, decide_eq_true_eq] at there
    exact once there
  constructor
  · intro c' there
    rw [lawful.forward_clean]
    by_cases unlists : op = m.unlist
    · have own : c' ≠ c := left c' unlists there
      rw [if_pos unlists, Function.update_of_ne fun same => own (injective same)]
      exact h.forward c' (between c' (.inl own) ▸ there)
    · rw [if_neg unlists]
      exact h.forward c' (between c' (.inr (Ne.symm unlists)) ▸ there)
  · intro c' there
    rw [lawful.reverse_clean]
    by_cases removes : op = m.remove
    · have own : c' ≠ c := left c' removes there
      have connected : m.Connected (s.point c') := stays own ▸ there
      have apart := alone removes c' own connected
      rw [if_pos removes, Function.update_of_ne apart]
      obtain ⟨c'', connected, keyed, found⟩ := h.reverse c' connected
      have other : c'' ≠ c := fun own => apart (keyed.symm.trans (own ▸ rfl))
      exact ⟨c'', (stays other).symm ▸ connected, keyed, found⟩
    · rw [if_neg removes]
      have connected : ∀ c', ((s.goto c (.cleaning rest)).point c').between m.enter m.remove =
          (s.point c').between m.enter m.remove := fun c' => between c' (.inr (Ne.symm removes))
      obtain ⟨c'', other, keyed, found⟩ := h.reverse c' ((connected c').symm.trans there)
      exact ⟨c'', (connected c'').trans other, keyed, found⟩
  · intro k e found
    rw [lawful.reverse_clean] at found
    by_cases removes : op = m.remove
    · rw [if_pos removes] at found
      by_cases same : k = m.key (who c)
      · rw [same, Function.update_self] at found
        cases found
      · rw [Function.update_of_ne same] at found
        obtain ⟨c', connected, named, keyed⟩ := h.current k e found
        have other : c' ≠ c := fun own => same (keyed.symm.trans (own ▸ rfl))
        exact ⟨c', (stays other).symm ▸ connected, named, keyed⟩
    · rw [if_neg removes] at found
      obtain ⟨c', connected, named⟩ := h.current k e found
      exact ⟨c', (between c' (.inr (Ne.symm removes))).trans connected, named⟩

theorem step [DecidableEq K] {l : Label ι Remote} (h : m.Agree who s) (lawful : m.Lawful)
    (injective : Function.Injective fun c => (who c).entityId) (order : InOrder s.point)
    (alone : m.Alone who s l) (hs : Session.step who s l = some s') : m.Agree who s' := by
  cases moves_of_step hs with
  | advance advances =>
      cases advances with
      | joined at_end => refine h.goto ?_ ?_ <;> simp [at_end, Point.between]
      | register next => exact h.register lawful injective order next
      | refused next fallible =>
          simp only [Alone, next] at alone
          exact h.fail (alone fallible)
      | returned at_end => refine h.goto ?_ ?_ <;> simp [at_end, Point.between]
      | clean next =>
          simp only [Alone, next] at alone
          exact h.clean lawful injective order next alone
      | skipped next fallible =>
          rename_i op rest
          have other : ∀ op' : Cleanup, op'.fallible = false → op' ≠ op := by
            rintro _ never rfl
            exact absurd fallible (by simp [never])
          refine h.goto ?_ ?_
          · rw [next, Point.between_cleaning (other _ lawful.infallible.2.2.1)]
          · rw [next, Point.between_cleaning (other _ lawful.infallible.2.2.2)]
  | failed serving => exact h.fail (alone serving)
  | left serving =>
      have pending : ∀ op : Cleanup, op ∈ Cleanup.all := fun op => by cases op <;> decide
      refine h.goto ?_ ?_ <;> simp [serving, Point.between, pending]
  | other identities point =>
      exact h.frame identities (fun c => by rw [point]) (fun c => by rw [point])

end Agree

omit [DecidableEq Remote] in
/-- A session that its key leads to returns by an error. -/
theorem not_agree_fail (injective : Function.Injective fun c => (who c).entityId)
    (led : m.reverse s.shared.identities (m.key (who c)) = some (who c).entityId) :
    ¬ m.Agree who (s.goto c .failed) := by
  intro after
  obtain ⟨c', connected, named, -⟩ := after.current _ _ led
  cases injective named
  rw [Connected, State.goto_self] at connected
  cases connected

theorem not_agree_step [DecidableEq K] {l : Label ι Remote} (lawful : m.Lawful)
    (injective : Function.Injective fun c => (who c).entityId) (shared : ¬ m.Alone who s l) :
    ∃ t, Session.step who s l = some t ∧ ¬ m.Agree who t := by
  cases l with
  | advance c fails =>
      cases fails with
      | false =>
          simp only [Alone] at shared
          split at shared
          next op rest next =>
            simp only [not_forall, not_not] at shared
            obtain ⟨removes, c', other, connected, same⟩ := shared
            refine ⟨_, by simp [Session.step, State.advance, next]; rfl, fun after => ?_⟩
            have still : m.Connected ((s.goto c (.cleaning rest)).point c') :=
              (State.goto_of_ne other (.cleaning rest)).symm ▸ connected
            obtain ⟨c'', -, -, found⟩ := after.reverse c' still
            rw [lawful.reverse_clean, if_pos removes, same, Function.update_self] at found
            cases found
          · exact absurd trivial shared
      | true =>
          simp only [Alone] at shared
          split at shared
          next op rest next =>
            simp only [not_forall, not_not] at shared
            obtain ⟨fallible, led⟩ := shared
            exact ⟨s.goto c .failed, by simp [Session.step, State.advance, next, fallible],
              not_agree_fail injective led⟩
          · exact absurd trivial shared
  | handle c fails =>
      cases fails with
      | false => exact absurd trivial shared
      | true =>
          simp only [Alone, not_forall, not_not] at shared
          obtain ⟨serving, led⟩ := shared
          exact ⟨s.goto c .failed, by simp [Session.step, serving], not_agree_fail injective led⟩
  | _ => exact absurd trivial shared

end MapPair

omit [DecidableEq ι] [DecidableEq Remote] in
theorem characterMaps_agree_start (who : ι → Identity) (zone : ι → Handoff.Layer) :
    characterMaps.Agree who (start zone : State ι Remote) where
  forward _ there := nomatch (Point.between_all _ _).symm.trans there
  reverse _ there := nomatch (Point.between_all _ _).symm.trans there
  current _ _ found := nomatch found

omit [DecidableEq ι] [DecidableEq Remote] in
theorem accountMaps_agree_start (who : ι → Identity) (zone : ι → Handoff.Layer) :
    accountMaps.Agree who (start zone : State ι Remote) where
  forward _ there := nomatch (Point.between_all _ _).symm.trans there
  reverse _ there := nomatch (Point.between_all _ _).symm.trans there
  current _ _ found := nomatch found

/-- A run keeps the connections of one character and of one account apart, and no session
that either leads to fails, exactly when both pairs of maps agree throughout it. -/
theorem identities_agree_iff (who : ι → Identity)
    (injective : Function.Injective fun c => (who c).entityId) (zone : ι → Handoff.Layer)
    (schedule : List (Label ι Remote)) :
    Transition.Admissible (step who)
        (fun s l => characterMaps.Alone who s l ∧ accountMaps.Alone who s l) (start zone)
        schedule ↔
      ∀ front, front <+: schedule → ∀ s,
        Transition.exec (step who) (start zone) front = some s →
          characterMaps.Agree who s ∧ accountMaps.Agree who s := by
  refine Transition.admissible_iff_throughout_of (I := fun s : State ι Remote =>
    InOrder s.point ∧ characterMaps.Agree who s ∧ accountMaps.Agree who s) ?_ (fun _ h => h.2) ?_
    ⟨InOrder.start zone, characterMaps_agree_start who zone, accountMaps_agree_start who zone⟩
  · rintro s l t ⟨order, characters, accounts⟩ ⟨alone, alone'⟩ taken
    exact ⟨order.step taken,
      characters.step lawful_characterMaps injective order alone taken,
      accounts.step lawful_accountMaps injective order alone' taken⟩
  · rintro s l - shared
    obtain shared | shared := not_and_or.mp shared
    · obtain ⟨t, taken, lost⟩ := MapPair.not_agree_step lawful_characterMaps injective shared
      exact ⟨t, taken, fun after => lost after.1⟩
    · obtain ⟨t, taken, lost⟩ := MapPair.not_agree_step lawful_accountMaps injective shared
      exact ⟨t, taken, fun after => lost after.2⟩

end Runs

namespace TwoCharacters

open TwoTraders (meadow joins leaves)

/-- Two characters of one account. -/
def characters : Bool → Identity
  | false => ⟨⟨1⟩, ⟨11⟩, ⟨21⟩, "first", false⟩
  | true => ⟨⟨2⟩, ⟨12⟩, ⟨21⟩, "second", false⟩

/-- The account plays one character after the other. -/
theorem agree_in_turn :
    ∃ s, Transition.exec (step characters) (start fun _ => meadow)
        (joins false ++ leaves false ++ joins true) = some s ∧ s.point true = .serving ∧
      characterMaps.Agree characters s ∧ accountMaps.Agree characters s := by
  have ends : ∃ s, Transition.exec (step characters) (start fun _ => meadow)
      (joins false ++ leaves false ++ joins true) = some s ∧ s.point true = .serving :=
    Transition.exec_reaches (by decide)
  obtain ⟨s, run, serving⟩ := ends
  have legal : Transition.Admissible (step characters)
      (fun s l => characterMaps.Alone characters s l ∧ accountMaps.Alone characters s l)
      (start fun _ => meadow) (joins false ++ leaves false ++ joins true) := by
    decide
  refine ⟨s, run, serving, ?_⟩
  exact (identities_agree_iff characters (by decide) _ _).mp legal _ (List.prefix_refl _) s run

/-- The account has both connected and ends one of the connections: its key leads nowhere
while the other is connected. And a handler that fails leaves an entity of nobody behind. -/
theorem not_agree_overlapping :
    (∃ s, Transition.exec (step characters) (start fun _ => meadow)
        (joins false ++ joins true ++ leaves false) = some s ∧ s.point true = .serving ∧
      s.shared.accountEntities ⟨21⟩ = none ∧ ¬ accountMaps.Agree characters s) ∧
    ∃ s, Transition.exec (step characters) (start fun _ => meadow)
        (joins true ++ [.handle true true]) = some s ∧
      s.shared.characterEntities ⟨12⟩ = some ⟨2⟩ ∧ ¬ characterMaps.Agree characters s := by
  constructor
  · have ends : ∃ s, Transition.exec (step characters) (start fun _ => meadow)
        (joins false ++ joins true ++ leaves false) = some s ∧ s.point true = .serving ∧
        s.shared.accountEntities ⟨21⟩ = none := Transition.exec_reaches (by decide)
    obtain ⟨s, run, serving, lost⟩ := ends
    refine ⟨s, run, serving, lost, fun after => ?_⟩
    have connected : accountMaps.Connected (s.point true) := serving ▸ rfl
    obtain ⟨c, -, -, found⟩ := after.reverse true connected
    exact absurd (lost.symm.trans found) (by simp)
  · have ends : ∃ s, Transition.exec (step characters) (start fun _ => meadow)
        (joins true ++ [.handle true true]) = some s ∧ s.point true = .failed ∧
        s.shared.characterEntities ⟨12⟩ = some ⟨2⟩ := Transition.exec_reaches (by decide)
    obtain ⟨s, run, failed, stale⟩ := ends
    refine ⟨s, run, stale, fun after => ?_⟩
    obtain ⟨c, connected, named, -⟩ := after.current _ _ stale
    cases c with
    | false => exact absurd named (by decide)
    | true =>
        rw [failed] at connected
        cases connected

end TwoCharacters

end WorldZero.Server.Session
