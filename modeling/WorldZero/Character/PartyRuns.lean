import WorldZero.Character.PartyCap

/-!
# No party of one

Calls of the party store and deletions of characters, one after the other, each of which
may also fail and leave no trace. Whoever leaves a party of two dissolves it, but the
row of a member that goes with its character is deleted by the cascade, behind the
store's back. `two_members_iff` says that nothing else leaves a party with one member.
-/

namespace WorldZero.Character.Party

open Sql.Transactions

inductive Op where
  | call (c : PartyCall)
  | deleteCharacter (characterId : CharacterId)
  deriving DecidableEq

def Op.perform (store : PartyStore) (t : Tables) : Op → Tables
  | .call c => (engine.transaction (c.program store) t).2
  | .deleteCharacter characterId => (engine.transaction (Party.deleteCharacter characterId) t).2

/-- The operation, and whether it fails. -/
def runStep (store : PartyStore) (t : Tables) (l : Op × Bool) : Option Tables :=
  some (if l.2 then t else l.1.perform store t)

/-- No party has fewer than two members. -/
def Tables.AtLeastTwo (t : Tables) : Prop := ∀ row ∈ t.parties, 2 ≤ t.size row.id

/-- The step deletes no member of a party of two. -/
def Spares (t : Tables) : Op × Bool → Prop
  | (.deleteCharacter characterId, false) =>
      ∀ m ∈ t.members, m.characterId = characterId → t.size m.partyId ≠ 2
  | _ => True

instance (t : Tables) : ∀ l, Decidable (Spares t l)
  | (.deleteCharacter characterId, false) =>
      inferInstanceAs (Decidable
        (∀ m ∈ t.members, m.characterId = characterId → t.size m.partyId ≠ 2))
  | (.deleteCharacter _, true) => isTrue trivial
  | (.call _, _) => isTrue trivial

/-! ### What each call does by itself -/

variable {store : PartyStore} {t t' : Tables} {c inviter invitee : CharacterId}
  {requestedPartyType : String} {id party : PartyId}

/-- The invitee joins a party, or the inviter and the invitee found one. -/
inductive Accepts (inviter invitee : CharacterId) (id : PartyId) (t : Tables) : Tables → Prop
  | joins (row : PartyRow) (there : row ∈ t.parties) (character : invitee ∈ t.characters)
      (fresh : invitee ∉ t.members.map MemberRow.characterId) :
      Accepts inviter invitee id t (Write.apply t (.insertMember ⟨row.id, invitee⟩))
  | founds (row : PartyRow) (named : row.id = id)
      (unused : row.id ∉ t.parties.map PartyRow.id)
      (characters : inviter ∈ t.characters ∧ invitee ∈ t.characters)
      (inviter_free : inviter ∉ t.members.map MemberRow.characterId)
      (invitee_free : invitee ∉ t.members.map MemberRow.characterId)
      (other : inviter ≠ invitee) :
      Accepts inviter invitee id t (engine.applyAll
        [.insertParty row, .insertMember ⟨row.id, inviter⟩, .insertMember ⟨row.id, invitee⟩] t)

theorem run_addInvitee {p : PartyId × String × Nat} {r : PartyId}
    (run : engine.run (store.addInvitee invitee p) t = (.ok r, t')) :
    t' = Write.apply t (.insertMember ⟨p.1, invitee⟩) ∧
      invitee ∉ t.members.map MemberRow.characterId ∧ invitee ∈ t.characters := by
  obtain ⟨partyId, key, size⟩ := p
  cases resolved : store.schema.resolve key with
  | error err => simp [PartyStore.addInvitee, resolved, Engine.run] at run
  | ok partyType =>
  cases checked : partyType.checkCap key size with
  | error err => simp [PartyStore.addInvitee, resolved, checked, Engine.run] at run
  | ok u =>
  simp only [PartyStore.addInvitee, resolved, checked, Program.bind_def, Program.ofExcept_ok,
    Program.pure_bind, Program.call_bind] at run
  obtain ⟨_, ws, exec, run⟩ := engine.exec_of_run run
  obtain ⟨rfl, fresh, -, character⟩ := exec_insertMember exec
  cases run
  exact ⟨rfl, fresh, character⟩

theorem run_acceptInvite {r : PartyId} (constraints : t.Constraints)
    (run : engine.run (store.acceptInvite inviter invitee requestedPartyType id) t =
      (.ok r, t')) : Accepts inviter invitee id t t' := by
  by_cases same : inviter = invitee
  · simp [PartyStore.acceptInvite, same, Engine.run] at run
  simp only [PartyStore.acceptInvite, same, if_false, Program.bind_def, Program.call_bind] at run
  obtain ⟨inviteeParty, ws, exec, run⟩ := engine.exec_of_run run
  obtain ⟨-, rfl⟩ := Prod.mk.inj (Option.some.inj exec)
  cases inviteeParty with
  | some p => cases run
  | none =>
  obtain ⟨inviterParty, ws, exec, run⟩ := engine.exec_of_run run
  obtain ⟨found, rfl⟩ := Prod.mk.inj (Option.some.inj exec)
  cases inviterParty with
  | some row =>
      obtain ⟨size, ws, exec, run⟩ := engine.exec_of_run run
      obtain ⟨-, rfl⟩ := Prod.mk.inj (Option.some.inj exec)
      obtain ⟨rfl, fresh, character⟩ :=
        run_addInvitee (p := (row.id, row.partyType, size)) (t := t) run
      exact .joins row (selectParty_eq_some found).1 character fresh
  | none =>
      have inviter_free := selectParty_eq_none constraints found
      cases requested : store.schema.requested requestedPartyType with
      | error err => simp [PartyStore.partyToJoin, requested, Engine.run] at run
      | ok partyType =>
      simp only [PartyStore.partyToJoin, requested, Program.bind_def, Program.ofExcept_ok,
        Program.pure_bind, Program.call_bind, Program.statement_bind] at run
      obtain ⟨_, ws, exec, run⟩ := engine.exec_of_run run
      obtain ⟨rfl, unused⟩ := exec_insertParty exec
      obtain ⟨_, ws, exec, run⟩ := engine.exec_of_run run
      obtain ⟨rfl, -, -, inviter_there⟩ := exec_insertMember exec
      obtain ⟨rfl, fresh, invitee_there⟩ := run_addInvitee (p := (id, partyType.key, 1))
        (t := engine.applyAll [.insertParty ⟨id, partyType.key⟩, .insertMember ⟨id, inviter⟩] t) run
      refine .founds ⟨id, partyType.key⟩ rfl unused ⟨inviter_there, invitee_there⟩ inviter_free
        (fun taken => fresh ?_) same
      obtain ⟨m, hm, here⟩ := List.mem_map.mp taken
      exact List.mem_map.mpr ⟨m, List.mem_append_left _ hm, here⟩

/-- The member leaves, and the last one with it. -/
inductive Leaves (c : CharacterId) (t : Tables) : Tables → Prop
  | stays (party : PartyId) (member : ⟨party, c⟩ ∈ t.members)
      (others : 2 ≤ (Write.apply t (.deleteMember ⟨party, c⟩)).size party) :
      Leaves c t (Write.apply t (.deleteMember ⟨party, c⟩))
  | dissolves (party : PartyId) (member : ⟨party, c⟩ ∈ t.members) :
      Leaves c t (engine.applyAll [.deleteMember ⟨party, c⟩, .deleteParty party] t)

theorem run_leave (constraints : t.Constraints)
    (run : engine.run (PartyStore.leave c) t = (.ok (), t')) : Leaves c t t' := by
  simp only [PartyStore.leave, Program.bind_def, Program.call_bind] at run
  obtain ⟨found, ws, exec, run⟩ := engine.exec_of_run run
  obtain ⟨here, rfl⟩ := Prod.mk.inj (Option.some.inj exec)
  cases found with
  | none => cases run
  | some party =>
  obtain ⟨m, hm, rfl⟩ := Option.map_eq_some_iff.mp here
  have named : m.characterId = c := by simpa using List.find?_some hm
  have member : ⟨m.partyId, c⟩ ∈ t.members := by
    rw [← named]
    exact List.mem_of_find?_eq_some hm
  obtain ⟨_, ws, exec, run⟩ := engine.exec_of_run run
  obtain ⟨-, rfl⟩ := Prod.mk.inj (Option.some.inj exec)
  rw [Engine.applyAll_nil, if_pos member] at run
  obtain ⟨remaining, ws, exec, run⟩ := engine.exec_of_run run
  obtain ⟨rfl, rfl⟩ := Prod.mk.inj (Option.some.inj exec)
  split at run
  · obtain ⟨_, ws, exec, run⟩ := engine.exec_of_run run
    obtain ⟨-, rfl⟩ := Prod.mk.inj (Option.some.inj exec)
    cases run
    have there : m.partyId ∈ t.parties.map PartyRow.id :=
      constraints.references ⟨m.partyId, c⟩ member
    show Leaves c t (engine.applyAll
      (if m.partyId ∈ t.parties.map PartyRow.id then [.deleteParty m.partyId] else []) _)
    rw [if_pos there]
    exact .dissolves m.partyId member
  · next others =>
    cases run
    exact .stays m.partyId member (Nat.le_of_not_lt others)

/-! ### What each call keeps -/

theorem Accepts.constraints (h : Accepts inviter invitee id t t') (constraints : t.Constraints) :
    t'.Constraints := by
  cases h with
  | joins row there character fresh =>
      exact constraints.insertMember fresh (List.mem_map_of_mem there)
  | founds row named unused characters inviter_free invitee_free other =>
      have party := constraints.insertParty unused
      have there : row.id ∈ (Write.apply t (.insertParty row)).parties.map PartyRow.id := by
        simp [Write.apply]
      have one : (Write.apply (Write.apply t (.insertParty row))
          (.insertMember ⟨row.id, inviter⟩)).Constraints := party.insertMember inviter_free there
      refine one.insertMember ?_ there
      simp only [Write.apply, List.map_append, List.map_singleton, List.mem_append,
        List.mem_singleton]
      exact not_or.mpr ⟨invitee_free, other.symm⟩

theorem Accepts.atLeastTwo (h : Accepts inviter invitee id t t') (two : t.AtLeastTwo) :
    t'.AtLeastTwo := by
  cases h with
  | joins row there character fresh =>
      intro party hparty
      rw [size_insertMember]
      exact Nat.le_add_right_of_le (two party hparty)
  | founds row named unused characters inviter_free invitee_free other =>
      intro party hparty
      show 2 ≤ (Write.apply (Write.apply _ _) (.insertMember _)).size party.id
      rw [size_insertMember, size_insertMember]
      obtain old | new := List.mem_append.mp hparty
      · exact Nat.le_add_right_of_le (Nat.le_add_right_of_le (two party old))
      · rw [List.mem_singleton.mp new]
        simp

theorem Leaves.constraints (h : Leaves c t t') (constraints : t.Constraints) :
    t'.Constraints := by
  cases h with
  | stays party member others => exact constraints.delete rfl
  | dissolves party member =>
      have left : (Write.apply t (.deleteMember ⟨party, c⟩)).Constraints := constraints.delete rfl
      exact left.delete (w := .deleteParty party) rfl

/-- Deleting a row leaves the other parties alone. -/
theorem size_deleteMember_of_ne {row : MemberRow} (other : party ≠ row.partyId) :
    (Write.apply t (.deleteMember row)).size party = t.size party := by
  simp only [Write.apply, Tables.size, List.countP_filter]
  refine List.countP_congr fun m _ => ?_
  simp only [decide_not, Bool.and_eq_true, Bool.not_eq_true', decide_eq_false_iff_not,
    decide_eq_true_eq, and_iff_left_iff_imp]
  rintro rfl rfl
  exact other rfl

theorem size_deleteParty_of_ne {gone : PartyId} (other : party ≠ gone) :
    (Write.apply t (.deleteParty gone)).size party = t.size party := by
  simp only [Write.apply, Tables.size, List.countP_filter]
  refine List.countP_congr fun m _ => ?_
  simp only [ne_eq, decide_not, Bool.and_eq_true, Bool.not_eq_true', decide_eq_false_iff_not,
    decide_eq_true_eq, and_iff_left_iff_imp]
  rintro rfl
  exact other

/-- The rows of a character that is a member are its one row. -/
theorem members_deleteCharacter (constraints : t.Constraints) {m : MemberRow} (hm : m ∈ t.members) :
    (Write.apply t (.deleteCharacter m.characterId)).members =
      (Write.apply t (.deleteMember m)).members := by
  refine List.filter_congr fun m' hm' => ?_
  simp only [ne_eq, decide_not, Bool.not_eq_eq_eq_not, Bool.not_not, decide_eq_decide]
  exact ⟨fun same => List.inj_on_of_nodup_map constraints.unique hm' hm same,
    fun same => same ▸ rfl⟩

theorem size_deleteMember_self (constraints : t.Constraints) {m : MemberRow} (hm : m ∈ t.members) :
    (Write.apply t (.deleteMember m)).size m.partyId + 1 = t.size m.partyId := by
  have distinct : t.members.Nodup := constraints.unique.of_map _
  have rest : t.members.erase m = t.members.filter (· ≠ m) := by
    rw [distinct.erase_eq_filter]
    exact List.filter_congr fun m' _ => by simp [bne, beq_eq_decide]
  have split : t.members.Perm (m :: t.members.filter (· ≠ m)) :=
    rest ▸ List.perm_cons_erase hm
  have count := split.countP_eq fun m' => m'.partyId = m.partyId
  rw [List.countP_cons_of_pos (by simp)] at count
  exact count.symm

theorem Leaves.atLeastTwo (h : Leaves c t t') (two : t.AtLeastTwo) : t'.AtLeastTwo := by
  cases h with
  | stays party member others =>
      intro row hrow
      by_cases same : row.id = party
      · rw [same]
        exact others
      · rw [size_deleteMember_of_ne same]
        exact two row hrow
  | dissolves party member =>
      intro row hrow
      obtain ⟨there, other⟩ := List.mem_filter.mp hrow
      have other : row.id ≠ party := by simpa using other
      show 2 ≤ (Write.apply (Write.apply t (.deleteMember ⟨party, c⟩))
        (.deleteParty party)).size row.id
      rw [size_deleteParty_of_ne other, size_deleteMember_of_ne other]
      exact two row there

/-! ### Runs -/

/-- The constraints, with the reference to `characters`. -/
structure Tables.Referenced (t : Tables) : Prop extends t.Constraints where
  characters : ∀ m ∈ t.members, m.characterId ∈ t.characters

theorem Accepts.referenced (h : Accepts inviter invitee id t t') (kept : t.Referenced) :
    t'.Referenced where
  toConstraints := h.constraints kept.toConstraints
  characters m hm := by
    cases h with
    | joins row there character fresh =>
        obtain old | new := List.mem_append.mp hm
        · exact kept.characters m old
        · rw [List.mem_singleton.mp new]
          exact character
    | founds row named unused characters inviter_free invitee_free other =>
        obtain before | new := List.mem_append.mp hm
        · obtain old | new := List.mem_append.mp before
          · exact kept.characters m old
          · rw [List.mem_singleton.mp new]
            exact characters.1
        · rw [List.mem_singleton.mp new]
          exact characters.2

theorem Leaves.referenced (h : Leaves c t t') (kept : t.Referenced) : t'.Referenced where
  toConstraints := h.constraints kept.toConstraints
  characters m hm := by
    cases h with
    | stays party member others => exact kept.characters m (List.filter_sublist.subset hm)
    | dissolves party member =>
        exact kept.characters m
          ((List.filter_sublist.trans List.filter_sublist).subset hm)

theorem perform_deleteCharacter (there : c ∈ t.characters) :
    Op.perform store t (.deleteCharacter c) = Write.apply t (.deleteCharacter c) := by
  simp [Op.perform, Party.deleteCharacter, Program.call, Engine.transaction, Engine.run, engine,
    Statement.exec, there, Engine.applyAll]

theorem perform_deleteCharacter_of_notMem (absent : c ∉ t.characters) :
    Op.perform store t (.deleteCharacter c) = t := by
  simp [Op.perform, Party.deleteCharacter, Program.call, Engine.transaction, Engine.run, engine,
    Statement.exec, absent, Engine.applyAll]

/-- What a call of the store does, if it does anything. -/
theorem perform_call (store : PartyStore) (call : PartyCall) (constraints : t.Constraints) :
    Op.perform store t (.call call) = t ∨
      (∃ inviter invitee id, Accepts inviter invitee id t (Op.perform store t (.call call))) ∨
      ∃ c, Leaves c t (Op.perform store t (.call call)) := by
  obtain same | ⟨r, returned⟩ := engine.transaction_cases (call.program store) t
  · exact .inl same
  refine .inr ?_
  cases call with
  | acceptInvite inviter invitee requestedPartyType id =>
      simp only [PartyCall.program, Program.bind_def, Engine.run_bind] at returned
      split at returned
      · next partyId t' run =>
          cases returned
          exact .inl ⟨inviter, invitee, id, run_acceptInvite constraints run⟩
      · cases returned
  | leave c =>
      simp only [PartyCall.program, Program.bind_def, Engine.run_bind] at returned
      split at returned
      · next u t' run =>
          cases returned
          exact .inr ⟨c, run_leave constraints run⟩
      · cases returned

theorem Tables.Referenced.perform {op : Op} (kept : t.Referenced) :
    (op.perform store t).Referenced := by
  cases op with
  | call call =>
      obtain same | ⟨inviter, invitee, id, accepts⟩ | ⟨c, leaves⟩ :=
        perform_call store call kept.toConstraints
      · rwa [same]
      · exact accepts.referenced kept
      · exact leaves.referenced kept
  | deleteCharacter c =>
      by_cases there : c ∈ t.characters
      · rw [perform_deleteCharacter there]
        refine ⟨kept.toConstraints.delete rfl, fun m hm => ?_⟩
        obtain ⟨old, other⟩ := List.mem_filter.mp hm
        exact List.mem_filter.mpr ⟨kept.characters m old, other⟩
      · rwa [perform_deleteCharacter_of_notMem there]

/-- The party of a deleted member has one member less, and no other party has. -/
theorem size_deleteCharacter (kept : t.Referenced) {m : MemberRow} (hm : m ∈ t.members) :
    (Write.apply t (.deleteCharacter m.characterId)).size m.partyId + 1 = t.size m.partyId ∧
      ∀ party, party ≠ m.partyId →
        (Write.apply t (.deleteCharacter m.characterId)).size party = t.size party := by
  have rows := members_deleteCharacter kept.toConstraints hm
  have same : ∀ party, (Write.apply t (.deleteCharacter m.characterId)).size party =
      (Write.apply t (.deleteMember m)).size party := fun party => by
    rw [Tables.size, rows, Tables.size]
  refine ⟨?_, fun party other => (same party).trans (size_deleteMember_of_ne other)⟩
  rw [same]
  exact size_deleteMember_self kept.toConstraints hm

theorem Tables.AtLeastTwo.perform {op : Op} (two : t.AtLeastTwo) (kept : t.Referenced)
    (spares : Spares t (op, false)) : (op.perform store t).AtLeastTwo := by
  cases op with
  | call call =>
      obtain same | ⟨inviter, invitee, id, accepts⟩ | ⟨c, leaves⟩ :=
        perform_call store call kept.toConstraints
      · rwa [same]
      · exact accepts.atLeastTwo two
      · exact leaves.atLeastTwo two
  | deleteCharacter c =>
      by_cases there : c ∈ t.characters
      · rw [perform_deleteCharacter there]
        intro row hrow
        have before := two row hrow
        by_cases member : c ∈ t.members.map MemberRow.characterId
        · obtain ⟨m, hm, rfl⟩ := List.mem_map.mp member
          obtain ⟨less, others⟩ := size_deleteCharacter kept hm
          by_cases same : row.id = m.partyId
          · have not_two : t.size m.partyId ≠ 2 := spares m hm rfl
            rw [same] at before ⊢
            omega
          · rw [others row.id same]
            exact before
        · have rows : (Write.apply t (.deleteCharacter c)).members = t.members :=
            List.filter_eq_self.mpr fun m hm => by
              simp only [ne_eq, decide_not, Bool.not_eq_true', decide_eq_false_iff_not]
              rintro rfl
              exact member (List.mem_map_of_mem hm)
          rw [Tables.size, rows]
          exact before
      · rwa [perform_deleteCharacter_of_notMem there]

/-- A run spares the members of parties of two from deletion exactly when every party has two
members at least throughout it. -/
theorem two_members_iff {ls : List (Op × Bool)} (kept : t.Referenced) (two : t.AtLeastTwo) :
    Transition.Admissible (runStep store) Spares t ls ↔
      ∀ front, front <+: ls → ∀ t', Transition.exec (runStep store) t front = some t' →
        t'.AtLeastTwo := by
  refine Transition.admissible_iff_throughout_of
    (I := fun t : Tables => t.Referenced ∧ t.AtLeastTwo) ?_ (fun _ h => h.2) ?_ ⟨kept, two⟩
  · rintro t ⟨op, fails⟩ t' ⟨kept, two⟩ spares taken
    cases taken
    cases fails with
    | true => exact ⟨kept, two⟩
    | false => exact ⟨kept.perform, two.perform kept spares⟩
  · rintro t ⟨op, fails⟩ ⟨kept, two⟩ strikes
    refine ⟨_, rfl, fun still => strikes ?_⟩
    cases fails with
    | true => cases op <;> trivial
    | false =>
    cases op with
    | call call => trivial
    | deleteCharacter c =>
    rintro m hm rfl pair
    have there := kept.characters m hm
    obtain ⟨row, hrow, same⟩ := List.mem_map.mp (kept.references m hm)
    have after : (Write.apply t (.deleteCharacter m.characterId)).AtLeastTwo :=
      (perform_deleteCharacter there : Op.perform store t _ = _) ▸ still
    have enough := after row hrow
    have less := (size_deleteCharacter kept hm).1
    rw [same] at enough
    omega

/-! ### A member that is deleted -/

namespace Widowed

def alice : CharacterId := ⟨1⟩
def bob : CharacterId := ⟨2⟩
def carol : CharacterId := ⟨3⟩

def fresh : Tables where
  characters := [alice, bob, carol]
  parties := []
  members := []

def accept (invitee : CharacterId) (id : PartyId) : Op × Bool :=
  (.call (.acceptInvite alice invitee "" id), false)

theorem party_of_one :
    ∃ t, Transition.exec (runStep ⟨Crowded.rush⟩) fresh
        [accept bob ⟨10⟩, (.deleteCharacter alice, false)] = some t ∧
      t.parties = [⟨⟨10⟩, "rush"⟩] ∧ t.members = [⟨⟨10⟩, bob⟩] ∧ ¬ t.AtLeastTwo := by
  refine ⟨_, rfl, by decide, by decide, fun two => ?_⟩
  exact absurd (two ⟨⟨10⟩, "rush"⟩ (by decide)) (by decide)

theorem two_of_three :
    ∃ t, Transition.exec (runStep ⟨Crowded.rush⟩) fresh
        [accept bob ⟨10⟩, accept carol ⟨11⟩, (.deleteCharacter alice, false)] = some t ∧
      t.members = [⟨⟨10⟩, bob⟩, ⟨⟨10⟩, carol⟩] ∧ t.AtLeastTwo := by
  have kept : fresh.Referenced := ⟨⟨by decide, by decide, by simp [fresh]⟩, by simp [fresh]⟩
  have two : fresh.AtLeastTwo := by simp [fresh, Tables.AtLeastTwo]
  have spares : Transition.Admissible (runStep ⟨Crowded.rush⟩) Spares fresh
      [accept bob ⟨10⟩, accept carol ⟨11⟩, (.deleteCharacter alice, false)] := by decide
  exact ⟨_, rfl, by decide, (two_members_iff kept two).mp spares _ List.prefix_rfl _ rfl⟩

end Widowed

end WorldZero.Character.Party
