import WorldZero.Character.PartyRuns
import WorldZero.Refresh
import WorldZero.Server.RosterUpdates

/-!
# What the members of a party have been told

A call of the party store changes what the members of one party see, and the handler that
makes it tells those who are in the party when it looks: after an invite has been accepted,
but before somebody leaves.
-/

namespace WorldZero.Server.Rosters

open Character.Party (Accepts Leaves MemberRow StoreM Tables Write engine)
open Sql (Fault commitUnder commitUnder_cases eq_or_ok_of_commitUnder)

/-- The other members of a character's party. -/
def fellows (t : Tables) (c : CharacterId) : List CharacterId :=
  (t.members.filter fun m => m.characterId = c).flatMap fun m =>
    (t.members.filter fun m' => m'.partyId = m.partyId && m'.characterId ≠ c).map
      MemberRow.characterId

@[simp] theorem partyMembersUnder_none (t : Tables) (c : CharacterId) :
    partyMembersUnder none t c = some (fellows t c) := rfl

variable {t t' : Tables} {c x : CharacterId} {party : PartyId}

theorem run_of_partyCall {α : Type} {p : StoreM α} (result : partyCall p t = .ok t') :
    ∃ a, engine.run p t = (.ok a, t') := by
  unfold partyCall at result
  split at result
  next a u called =>
    cases result
    exact ⟨a, engine.run_of_transaction called⟩
  next => cases result

theorem mem_fellows :
    x ∈ fellows t c ↔ x ≠ c ∧ ∃ party, ⟨party, c⟩ ∈ t.members ∧ ⟨party, x⟩ ∈ t.members := by
  simp only [fellows, List.mem_flatMap, List.mem_filter, decide_eq_true_eq, List.mem_map,
    Bool.and_eq_true]
  constructor
  · rintro ⟨⟨party, _⟩, ⟨here, rfl⟩, ⟨party', _⟩, ⟨there, same, other⟩, rfl⟩
    dsimp only at same
    subst same
    exact ⟨other, party', here, there⟩
  · rintro ⟨other, party, here, there⟩
    exact ⟨⟨party, c⟩, ⟨here, rfl⟩, ⟨party, x⟩, ⟨there, rfl, other⟩, rfl⟩

theorem mem_fellows_comm : x ∈ fellows t c ↔ c ∈ fellows t x := by
  rw [mem_fellows, mem_fellows]
  constructor <;> exact fun ⟨other, party, here, there⟩ => ⟨other.symm, party, there, here⟩

/-- What a character's player sees. -/
def outlook (t : Tables) (c : CharacterId) : PartyView := ⟨memberships t c, fellows t c⟩

/-- The rows of a party do not matter to a character that has none of them. -/
theorem filter_filter_of_not_mem (out : ⟨party, x⟩ ∉ t.members) :
    (t.members.filter (·.partyId ≠ party)).filter (fun m => m.characterId = x) =
      t.members.filter fun m => m.characterId = x := by
  rw [List.filter_filter]
  refine List.filter_congr fun m here => ?_
  have elsewhere : m.characterId = x → m.partyId ≠ party := by
    rintro rfl rfl
    exact out here
  grind

theorem fellows_filter (out : ⟨party, x⟩ ∉ t.members) :
    fellows { t with members := t.members.filter (·.partyId ≠ party) } x = fellows t x := by
  simp only [fellows, filter_filter_of_not_mem out]
  refine List.flatMap_congr fun m here => ?_
  have elsewhere : m.partyId ≠ party := by
    obtain ⟨there, rfl⟩ : m ∈ t.members ∧ m.characterId = x := by simpa using here
    rintro rfl
    exact out there
  rw [List.filter_filter]
  refine congrArg (List.map _) (List.filter_congr fun m' _ => ?_)
  grind

/-- The two tables differ in the rows of one party only. -/
def Touches (party : PartyId) (t t' : Tables) : Prop :=
  t'.members.filter (·.partyId ≠ party) = t.members.filter (·.partyId ≠ party)

theorem Touches.mem_of_outlook_ne (touches : Touches party t t')
    (changed : outlook t' x ≠ outlook t x) : ⟨party, x⟩ ∈ t.members ∨ ⟨party, x⟩ ∈ t'.members := by
  by_contra out
  push Not at out
  refine changed ?_
  have same : t'.members.filter (·.partyId ≠ party) = t.members.filter (·.partyId ≠ party) :=
    touches
  rw [outlook, outlook, ← fellows_filter out.1, ← fellows_filter out.2, memberships, memberships,
    ← filter_filter_of_not_mem out.1, ← filter_filter_of_not_mem out.2]
  simp only [fellows, same]

/-- Accepting an invite concerns the party in which the invitee then is. -/
theorem touches_of_accepts {inviter : CharacterId} {id : PartyId}
    (accepts : Accepts inviter c id t t') :
    ∃ party, Touches party t t' ∧ ⟨party, c⟩ ∈ t'.members ∧ ∀ m ∈ t.members, m ∈ t'.members := by
  cases accepts with
  | joins row =>
      refine ⟨row.id, ?_, ?_, fun m here => ?_⟩
      · simp [Touches, Write.apply]
      · simp [Write.apply]
      · exact List.mem_append_left _ here
  | founds row =>
      refine ⟨row.id, ?_, ?_, fun m here => ?_⟩
      · simp [Touches, Sql.Transactions.Engine.applyAll, engine, Write.apply]
      · simp [Sql.Transactions.Engine.applyAll, engine, Write.apply]
      · simp [Sql.Transactions.Engine.applyAll, engine, Write.apply, here]

/-- Leaving concerns the party in which the character was. -/
theorem touches_of_leaves (leaves : Leaves c t t') :
    ∃ party, Touches party t t' ∧ ⟨party, c⟩ ∈ t.members ∧ ∀ m ∈ t'.members, m ∈ t.members := by
  cases leaves with
  | stays party member =>
      refine ⟨party, ?_, member, fun m here => (List.mem_filter.mp here).1⟩
      simp only [Touches, Write.apply, List.filter_filter]
      refine List.filter_congr fun m _ => ?_
      grind
  | dissolves party member =>
      refine ⟨party, ?_, member, fun m here => ?_⟩
      · simp only [Touches, Sql.Transactions.Engine.applyAll, engine, List.foldl_cons,
          List.foldl_nil, Write.apply, List.filter_filter]
        refine List.filter_congr fun m _ => ?_
        grind
      · exact (List.mem_filter.mp (List.mem_filter.mp here).1).1

/-! ### Who is told -/

/-- The handler is still to read what the player sees, or has read what it still sees. -/
def PartyPhase.Owes (connected : Connected) (t : Tables) (e : EntityId) : PartyPhase → Prop
  | .gather c => ∃ x, connected.characterEntities x = some e ∧ (x = c ∨ x ∈ fellows t c)
  | .refresh interested => ∃ x ∈ interested, connected.characterEntities x = some e
  | .push entityId members interested =>
      (entityId = e ∧
        members = partyUpdate connected (partyView connected t e)) ∨
      ∃ x ∈ interested, connected.characterEntities x = some e
  | _ => False

def partyProtocol (connected : Connected) :
    Refresh.Protocol EntityId Tables PartyView PartyUpdate (Option Handler) where
  view := partyView connected
  shown := partyUpdate connected
  owes t handler e :=
    match handler with
    | some (.party phase) => phase.Owes connected t e
    | _ => False

def State.partyBoard (s : State) :
    Refresh.State EntityId EntityId Tables PartyUpdate (Option Handler) where
  store := s.party
  handlers := s.handlers
  last e := (s.partyUpdates e).getLast?
  changed e := s.partyChanged e = true

/-- Another session's handler owes the player an update, in these tables. -/
def State.PartyOwedBeside (s : State) (connected : Connected) (e : EntityId) (t : Tables)
    (player : EntityId) : Prop :=
  ∃ other ≠ e, ∃ phase, s.handlers other = some (.party phase) ∧ phase.Owes connected t player

/-- No read fails, and of a change that has been made the handler hears. -/
def PartyPhase.Answered (fault : Option Fault) : PartyPhase → Prop
  | .accept .. | .leave .. => fault ≠ some .lost
  | .gather _ | .leaving _ | .refresh _ => fault = none
  | .push .. => True

/-- When somebody leaves, the members of the party are those whom the handler has read, or
another handler has yet to tell the others; and an update that is out of date when it is sent
is not the last one to its player. -/
def PartyPhase.InOrder (deps : SessionDeps) (s : State) (e : EntityId) : PartyPhase → Prop
  | .leave c members =>
      ∀ t', partyCall (Character.Party.PartyStore.leave c) s.party = .ok t' →
        ∀ x ∈ fellows s.party c, ∀ player, deps.connected.characterEntities x = some player →
          x ∈ members ∨ s.PartyOwedBeside deps.connected e t' player
  | .push player members interested =>
      members = partyUpdate deps.connected (partyView deps.connected s.party player) ∨
      (∃ x ∈ interested, deps.connected.characterEntities x = some player) ∨
      s.PartyOwedBeside deps.connected e s.party player
  | _ => True

section Step

variable {deps : SessionDeps} {s s' : State} {e player : EntityId} {phase : PartyPhase}
  {fault : Option Fault}

theorem partyView_of {connected : Connected} (here : connected.characterEntities x = some e) :
    partyView connected t e = outlook t x := by
  rw [partyView, (connected.characters e x).mpr here]
  rfl

/-- Only a player of a character of the party sees a change. -/
theorem exists_of_partyView_ne {connected : Connected}
    (changed : partyView connected t' e ≠ partyView connected t e) :
    ∃ x, connected.characterEntities x = some e ∧ outlook t' x ≠ outlook t x := by
  cases found : connected.entityCharacters e with
  | none => simp [partyView, found] at changed
  | some x =>
      have here := (connected.characters e x).mp found
      rw [partyView_of here, partyView_of here] at changed
      exact ⟨x, here, changed⟩

/-- What is owed to a player who sees no change is owed in the new tables. -/
theorem PartyPhase.Owes.congr {connected : Connected}
    (same : partyView connected t' e = partyView connected t e)
    (owes : phase.Owes connected t e) : phase.Owes connected t' e := by
  cases phase with
  | gather c =>
      obtain ⟨x, here, own | fellow⟩ := owes
      · exact ⟨x, here, .inl own⟩
      · rw [partyView_of here, partyView_of here] at same
        refine ⟨x, here, .inr ?_⟩
        have alike : fellows t' x = fellows t x := congrArg PartyView.fellows same
        rw [mem_fellows_comm, alike]
        exact mem_fellows_comm.mp fellow
  | refresh interested => exact owes
  | push entityId members interested =>
      refine owes.imp_left fun ⟨own, read⟩ => ⟨own, ?_⟩
      rw [same]
      exact read
  | accept | leaving | leave => exact owes

theorem partyProtocol_congr {connected : Connected} {handler : Option Handler}
    (same : partyView connected t' e = partyView connected t e)
    (owes : (partyProtocol connected).owes t handler e) :
    (partyProtocol connected).owes t' handler e := by
  match handler with
  | some (.party phase) => exact PartyPhase.Owes.congr same owes
  | some (.guild _) | none => exact owes

theorem partyBoard_change (running : s.handlers e = some (.party phase))
    (taken : step deps s (.run e fault) = some s')
    (silent : (phase.next deps fault s.party).sent = none) :
    s'.partyBoard = s.partyBoard.change (partyProtocol deps.connected) e
      ((phase.next deps fault s.party).next.map .party) (phase.next deps fault s.party).tables := by
  simp only [step, running, silent, Option.some.injEq] at taken
  subst taken
  simp [State.partyBoard, Refresh.State.change, Refresh.State.advance, deliver, partyProtocol]

theorem partyBoard_advance (running : s.handlers e = some (.party phase))
    (taken : step deps s (.run e fault) = some s')
    (silent : (phase.next deps fault s.party).sent = none)
    (still : (phase.next deps fault s.party).tables = s.party) :
    s'.partyBoard = s.partyBoard.advance e ((phase.next deps fault s.party).next.map .party) := by
  rw [partyBoard_change running taken silent, still]
  exact s.partyBoard.change_store _ _ _

attribute [local simp] step PartyPhase.next in
theorem partyBoard_tell {members : PartyUpdate} {interested : List CharacterId}
    (running : s.handlers e = some (.party (.push player members interested)))
    (taken : step deps s (.run e fault) = some s') :
    s'.partyBoard = s.partyBoard.tell e (some (.party (.refresh interested))) player members := by
  simp [running] at taken
  subst taken
  have last : (fun e => (deliver s.partyUpdates (some (player, members)) e).getLast?) =
      Function.update (fun e => (s.partyUpdates e).getLast?) player (some members) := by
    funext e
    by_cases here : e = player
    · subst here
      simp [deliver]
    · simp [deliver, here]
  simp [State.partyBoard, Refresh.State.tell, Refresh.State.advance, last]

/-- A transaction that fails leaves its handler with nothing to send. -/
theorem kept_party_abandoned (kept : Refresh.Kept (partyProtocol deps.connected) s.partyBoard)
    (running : s.handlers e = some (.party phase))
    (taken : step deps s (.run e fault) = some s')
    (turn : phase.next deps fault s.party = ⟨s.party, none, none⟩)
    (free : ∀ player, ¬ (partyProtocol deps.connected).owes s.partyBoard.store
      (s.partyBoard.handlers e) player) :
    Refresh.Kept (partyProtocol deps.connected) s'.partyBoard := by
  rw [partyBoard_advance running taken (by rw [turn]) (by rw [turn])]
  exact kept.advance fun player owes => absurd owes (free player)

theorem kept_party_accept {inviter invitee : CharacterId} {partyType : String} {id : PartyId}
    (constraints : s.party.Constraints)
    (kept : Refresh.Kept (partyProtocol deps.connected) s.partyBoard)
    (running : s.handlers e = some (.party (.accept inviter invitee partyType id)))
    (answered : fault ≠ some .lost)
    (taken : step deps s (.run e fault) = some s') :
    Refresh.Kept (partyProtocol deps.connected) s'.partyBoard := by
  have holds : s.partyBoard.handlers e =
      some (.party (.accept inviter invitee partyType id)) := running
  have free : ∀ player, ¬ (partyProtocol deps.connected).owes s.partyBoard.store
      (s.partyBoard.handlers e) player := by
    intro player owes
    rw [holds] at owes
    exact owes
  obtain made | ⟨t', result, made⟩ := commitUnder_cases s.party (partyCall
    (deps.partyStore.acceptInvite inviter invitee partyType id) s.party) answered
  · have turn : PartyPhase.next deps fault s.party (.accept inviter invitee partyType id) =
        ⟨s.party, none, none⟩ := by simp only [PartyPhase.next, made]
    exact kept_party_abandoned kept running taken turn free
  · have turn : PartyPhase.next deps fault s.party (.accept inviter invitee partyType id) =
        ⟨t', some (.gather invitee), none⟩ := by simp only [PartyPhase.next, made]
    rw [partyBoard_change running taken (by rw [turn]), turn]
    refine kept.change (fun player changed => ⟨e, ?_⟩) ?_ free
    · -- Whoever sees a change is in the party in which the invitee is now.
      obtain ⟨_, called⟩ := run_of_partyCall result
      have accepts := Character.Party.run_acceptInvite constraints called
      obtain ⟨party, touches, member, grows⟩ := touches_of_accepts accepts
      obtain ⟨x, here, differs⟩ := exists_of_partyView_ne changed
      have there : ⟨party, x⟩ ∈ t'.members :=
        (touches.mem_of_outlook_ne differs).elim (grows _) fun now => now
      simp only [Refresh.State.change, Refresh.State.advance, Function.update_self]
      by_cases own : x = invitee
      · exact ⟨x, here, .inl own⟩
      · exact ⟨x, here, .inr (mem_fellows.mpr ⟨own, party, member, there⟩)⟩
    · intro player same handler owes
      exact partyProtocol_congr same owes

theorem kept_party_leave {members : List CharacterId} (constraints : s.party.Constraints)
    (kept : Refresh.Kept (partyProtocol deps.connected) s.partyBoard)
    (running : s.handlers e = some (.party (.leave c members)))
    (answered : fault ≠ some .lost)
    (ordered : PartyPhase.InOrder deps s e (.leave c members))
    (taken : step deps s (.run e fault) = some s') :
    Refresh.Kept (partyProtocol deps.connected) s'.partyBoard := by
  have holds : s.partyBoard.handlers e = some (.party (.leave c members)) := running
  have free : ∀ player, ¬ (partyProtocol deps.connected).owes s.partyBoard.store
      (s.partyBoard.handlers e) player := by
    intro player owes
    rw [holds] at owes
    exact owes
  obtain made | ⟨t', result, made⟩ := commitUnder_cases s.party (partyCall
    (Character.Party.PartyStore.leave c) s.party) answered
  · have turn : PartyPhase.next deps fault s.party (.leave c members) =
        ⟨s.party, none, none⟩ := by simp only [PartyPhase.next, made]
    exact kept_party_abandoned kept running taken turn free
  · have turn : PartyPhase.next deps fault s.party (.leave c members) =
        ⟨t', some (.refresh (members ++ [c])), none⟩ := by simp only [PartyPhase.next, made]
    rw [partyBoard_change running taken (by rw [turn]), turn]
    refine kept.change (fun player changed => ?_) ?_ free
    · -- Whoever sees a change was in the party in which the character has been.
      obtain ⟨_, called⟩ := run_of_partyCall result
      have leaves := Character.Party.run_leave constraints called
      obtain ⟨party, touches, member, shrinks⟩ := touches_of_leaves leaves
      obtain ⟨x, here, differs⟩ := exists_of_partyView_ne changed
      have there : ⟨party, x⟩ ∈ s.party.members :=
        (touches.mem_of_outlook_ne differs).elim id (shrinks _)
      have listed : x ∈ members ++ [c] → Refresh.Owed (partyProtocol deps.connected)
          (s.partyBoard.change (partyProtocol deps.connected) e
            (some (.party (.refresh (members ++ [c])))) t') player := by
        intro among
        refine ⟨e, ?_⟩
        simp only [Refresh.State.change, Refresh.State.advance, Function.update_self]
        exact ⟨x, among, here⟩
      by_cases own : x = c
      · exact listed (by simp [own])
      · have fellow : x ∈ fellows s.party c := mem_fellows.mpr ⟨own, party, member, there⟩
        obtain among | ⟨other, apart, phase, busy, owes⟩ :=
          ordered t' result x fellow player here
        · exact listed (List.mem_append_left _ among)
        · refine ⟨other, ?_⟩
          simp only [Refresh.State.change, Refresh.State.advance,
            Function.update_of_ne apart]
          exact (congrArg (fun handler =>
            (partyProtocol deps.connected).owes t' handler player) busy).mpr owes
    · intro player same handler owes
      exact partyProtocol_congr same owes

theorem kept_party_refresh {interested : List CharacterId}
    (kept : Refresh.Kept (partyProtocol deps.connected) s.partyBoard)
    (running : s.handlers e = some (.party (.refresh interested)))
    (answered : fault = none)
    (taken : step deps s (.run e fault) = some s') :
    Refresh.Kept (partyProtocol deps.connected) s'.partyBoard := by
  have holds : s.partyBoard.handlers e = some (.party (.refresh interested)) := running
  obtain rfl := answered
  cases interested with
  | nil =>
      rw [partyBoard_advance running taken rfl rfl]
      refine kept.advance fun player owes => ?_
      rw [holds] at owes
      obtain ⟨x, among, _⟩ := owes
      cases among
  | cons c interested =>
      cases found : deps.connected.characterEntities c with
      | none =>
          have turn : PartyPhase.next deps none s.party (.refresh (c :: interested)) =
              ⟨s.party, some (.refresh interested), none⟩ := by
            simp only [PartyPhase.next, found]
          rw [partyBoard_advance running taken (by rw [turn]) (by rw [turn]), turn]
          refine kept.advance fun player owes => ?_
          rw [holds] at owes
          obtain ⟨x, among, here⟩ := owes
          obtain rfl | later := List.mem_cons.mp among
          · rw [found] at here
            cases here
          · exact ⟨x, later, here⟩
      | some entityId =>
          have turn : PartyPhase.next deps none s.party (.refresh (c :: interested)) =
              ⟨s.party, some (.push entityId
                ((fellows s.party c).filterMap deps.connected.characterEntities) interested),
                none⟩ := by
            simp only [PartyPhase.next, found, partyMembersUnder_none]
          rw [partyBoard_advance running taken (by rw [turn]) (by rw [turn]), turn]
          refine kept.advance fun player owes => ?_
          rw [holds] at owes
          obtain ⟨x, among, here⟩ := owes
          obtain rfl | later := List.mem_cons.mp among
          · rw [found] at here
            cases here
            refine .inl ⟨rfl, ?_⟩
            rw [partyView_of found]
            rfl
          · exact .inr ⟨x, later, here⟩

theorem kept_party_run (constraints : s.party.Constraints)
    (kept : Refresh.Kept (partyProtocol deps.connected) s.partyBoard)
    (running : s.handlers e = some (.party phase)) (answered : phase.Answered fault)
    (ordered : phase.InOrder deps s e) (taken : step deps s (.run e fault) = some s') :
    Refresh.Kept (partyProtocol deps.connected) s'.partyBoard := by
  have holds : s.partyBoard.handlers e = some (.party phase) := running
  cases phase with
  | accept inviter invitee partyType id =>
      exact kept_party_accept constraints kept running answered taken
  | gather c =>
      obtain rfl := answered
      rw [partyBoard_advance running taken rfl rfl]
      refine kept.advance fun player owes => ?_
      rw [holds] at owes
      obtain ⟨x, here, among⟩ := owes
      refine ⟨x, ?_, here⟩
      simp only [partyMembersUnder_none, Option.getD_some, List.mem_append, List.mem_singleton]
      exact among.symm
  | leaving c =>
      rw [partyBoard_advance running taken rfl rfl]
      refine kept.advance fun player owes => ?_
      rw [holds] at owes
      exact owes.elim
  | leave c members => exact kept_party_leave constraints kept running answered ordered taken
  | refresh interested => exact kept_party_refresh kept running answered taken
  | push entityId members interested =>
      rw [partyBoard_tell running taken]
      refine kept.tell (fun player other owes => ?_) ?_
      · rw [holds] at owes
        obtain ⟨own, _⟩ | later := owes
        · exact absurd own.symm other
        · exact later
      · refine ordered.imp id fun again => ?_
        obtain later | ⟨other, apart, phase, busy, owes⟩ := again
        · refine ⟨e, ?_⟩
          simp only [Refresh.State.advance, Function.update_self]
          exact later
        · refine ⟨other, ?_⟩
          simp only [Refresh.State.advance, Function.update_of_ne apart]
          exact (congrArg (fun handler => (partyProtocol deps.connected).owes s.party handler
            entityId) busy).mpr owes

/-- A handler of a guild, or the beginning of any handler, leaves the parties alone. -/
theorem kept_party_of_other (kept : Refresh.Kept (partyProtocol deps.connected) s.partyBoard)
    (idle : ∀ phase, s.handlers e ≠ some (.party phase)) {handler : Option Handler}
    (board : s'.partyBoard = s.partyBoard.advance e handler) :
    Refresh.Kept (partyProtocol deps.connected) s'.partyBoard := by
  rw [board]
  refine kept.advance fun player owes => ?_
  have holds : s.partyBoard.handlers e = s.handlers e := rfl
  rw [holds] at owes
  match busy : s.handlers e with
  | some (.party phase) => exact absurd busy (idle phase)
  | some (.guild _) | none =>
      rw [busy] at owes
      exact owes.elim

theorem constraints_party_run (constraints : s.party.Constraints) :
    (phase.next deps fault s.party).tables.Constraints := by
  cases phase with
  | accept inviter invitee partyType id =>
      simp only [PartyPhase.next]
      rcases left : commitUnder fault s.party
        (partyCall (deps.partyStore.acceptInvite inviter invitee partyType id) s.party)
        with ⟨t', heard⟩
      have constraints' : t'.Constraints := by
        obtain rfl | result := eq_or_ok_of_commitUnder left
        · exact constraints
        · obtain ⟨_, called⟩ := run_of_partyCall result
          exact (Character.Party.run_acceptInvite constraints called).constraints constraints
      cases heard <;> exact constraints'
  | leave c members =>
      simp only [PartyPhase.next]
      rcases left : commitUnder fault s.party
        (partyCall (Character.Party.PartyStore.leave c) s.party) with ⟨t', heard⟩
      have constraints' : t'.Constraints := by
        obtain rfl | result := eq_or_ok_of_commitUnder left
        · exact constraints
        · obtain ⟨_, called⟩ := run_of_partyCall result
          exact (Character.Party.run_leave constraints called).constraints constraints
      cases heard <;> exact constraints'
  | refresh interested =>
      cases interested with
      | nil => exact constraints
      | cons c interested =>
          simp only [PartyPhase.next]
          split <;> exact constraints
  | gather | leaving | push => exact constraints

end Step

end WorldZero.Server.Rosters
