import WorldZero.Character.Party

/-!
# The cap of a party under READ COMMITTED

Any number of `accept_invite` and `leave` transactions, their statements interleaved.
The unique index keeps every character in one party in every committed state. The cap is
checked against a count that locks nothing, so it holds as long as no transaction
commits a new member of a party that another `accept_invite` in progress has counted.
-/

namespace WorldZero.Character.Party

open Sql.Transactions

inductive PartyCall where
  | acceptInvite (inviter invitee : CharacterId) (requestedPartyType : String) (id : PartyId)
  | leave (characterId : CharacterId)
  deriving DecidableEq

namespace PartyCall

def program (store : PartyStore) : PartyCall → StoreM (Option PartyId)
  | .acceptInvite inviter invitee requestedPartyType id => do
      let partyId ← store.acceptInvite inviter invitee requestedPartyType id
      pure (some partyId)
  | .leave characterId => do
      PartyStore.leave characterId
      pure none

def commitFailure : PartyCall → Error
  | .acceptInvite .. => .wrap "character" "failed to commit party formation"
  | .leave _ => .wrap "character" "failed to commit party leave"

/-- The call may add a member to a party that exists. -/
def joins : PartyCall → Bool
  | .acceptInvite .. => true
  | .leave _ => false

/-- The identifier that the call brings along for a party that it founds. -/
def founds : PartyCall → Option PartyId
  | .acceptInvite _ _ _ id => some id
  | .leave _ => none

end PartyCall

variable {ι : Type}

def workload (store : PartyStore) (calls : ι → PartyCall) :
    Workload ι Statement.Result Error (Option PartyId) where
  program i := (calls i).program store
  commitFailure i := (calls i).commitFailure

/-- No party has more members than its declared type allows. -/
def Tables.WithinCap (t : Tables) (schema : PartySchema) : Prop :=
  ∀ row ∈ t.parties, ∀ partyType, schema.resolve row.partyType = .ok partyType →
    ∀ maxMembers ∈ partyType.maxMembers, t.size row.id ≤ maxMembers.toNat

/-- The party that a write adds a member to. -/
def Write.enlarges : Write → List PartyId
  | .insertMember row => [row.partyId]
  | _ => []

/-- The committed insertion adds a member to a party that the call has counted to see whether
it may join it. -/
def Outdates (calls : ι → PartyCall) (i : ι) (w : Write) (a : Pending Statement Write Lock) :
    Prop :=
  (calls i).joins = true ∧ ∃ party ∈ w.enlarges, Statement.countMembers party ∈ a.log

instance (calls : ι → PartyCall) (i : ι) (w : Write) (a : Pending Statement Write Lock) :
    Decidable (Outdates calls i w a) :=
  inferInstanceAs (Decidable ((calls i).joins = true ∧
    ∃ party ∈ w.enlarges, Statement.countMembers party ∈ a.log))

/-! ### The discipline of the statements -/

section Discipline

variable (schema : PartySchema) (calls : ι → PartyCall) (types : PartyId → String) (capped : Prop)

/-- The constraints hold; where the counts are not outdated, so do the caps, and the type of a
party is the one that its identifier was given. -/
structure Holds (t : Tables) : Prop where
  constraints : t.Constraints
  typed : capped → ∀ row ∈ t.parties, row.partyType = types row.id
  cap : capped → t.WithinCap schema

/-- What a transaction can rely on: entries and rows that it has locked, and that a party which
it has counted does not grow. -/
structure Tolerates (i : ι) (a : Pending Statement Write Lock) (t t' : Tables) : Prop where
  member : ∀ c, ⟨.member c, true⟩ ∈ a.locks → c ∉ t.members.map MemberRow.characterId →
    c ∉ t'.members.map MemberRow.characterId
  absent : ∀ p, ⟨.party p, true⟩ ∈ a.locks → p ∉ t.parties.map PartyRow.id →
    p ∉ t'.parties.map PartyRow.id
  present : ∀ p, ⟨.party p, false⟩ ∈ a.locks → p ∈ t.parties.map PartyRow.id →
    p ∈ t'.parties.map PartyRow.id
  counted : capped → (calls i).joins = true → ∀ p, Statement.countMembers p ∈ a.log →
    t'.size p ≤ t.size p

/-- The locks that come with a write. -/
def Write.owners : Write → List Lock
  | .insertParty row => [⟨.party row.id, true⟩]
  | .insertMember row => [⟨.member row.characterId, true⟩, ⟨.party row.partyId, false⟩]
  | .deleteMember row => [⟨.member row.characterId, true⟩]
  | .deleteParty party => [⟨.party party, true⟩]
  | .deleteCharacter c => [⟨.character c, true⟩]

variable {calls types capped} {i : ι} {a : Pending Statement Write Lock} {t t' t'' : Tables}

theorem Tolerates.refl : Tolerates calls capped i a t t :=
  ⟨fun _ _ => id, fun _ _ => id, fun _ _ => id, fun _ _ _ _ => Nat.le_refl _⟩

theorem Tolerates.trans (h : Tolerates calls capped i a t t')
    (h' : Tolerates calls capped i a t' t'') : Tolerates calls capped i a t t'' where
  member c held fresh := h'.member c held (h.member c held fresh)
  absent p held fresh := h'.absent p held (h.absent p held fresh)
  present p held there := h'.present p held (h.present p held there)
  counted hc joins p log := Nat.le_trans (h'.counted hc joins p log) (h.counted hc joins p log)

/-- A transaction tolerates a write that conflicts with none of its locks and outdates none of
its counts. -/
theorem tolerates_apply {w : Write}
    (free : ∀ l ∈ w.owners, ∀ l' ∈ a.locks, Lock.conflicts l l' = false)
    (calm : ¬ (capped ∧ Outdates calls i w a)) : Tolerates calls capped i a t (w.apply t) := by
  have own : ∀ l ∈ w.owners, l.exclusive = true → l ∉ a.locks := by
    intro l hl exclusive held
    have := free l hl l held
    simp [Lock.conflicts, exclusive] at this
  have self : Tolerates calls capped i a t t := .refl
  cases w with
  | insertParty row =>
      refine { self with absent := fun p held fresh => ?_, present := ?_ }
      · have other : p ≠ row.id := by
          rintro rfl
          exact own _ List.mem_cons_self rfl held
        simp only [Write.apply, List.map_append, List.map_singleton, List.mem_append,
          List.mem_singleton]
        exact not_or.mpr ⟨fresh, other⟩
      · intro p _ there
        simp only [Write.apply, List.map_append]
        exact List.mem_append_left _ there
  | insertMember row =>
      refine { self with member := fun c held fresh => ?_, counted := ?_ }
      · have other : c ≠ row.characterId := by
          rintro rfl
          exact own _ List.mem_cons_self rfl held
        simp only [Write.apply, List.map_append, List.map_singleton, List.mem_append,
          List.mem_singleton]
        exact not_or.mpr ⟨fresh, other⟩
      · intro hc joins p log
        rw [size_insertMember]
        by_cases same : row.partyId = p
        · subst same
          exact absurd ⟨hc, joins, row.partyId, List.mem_cons_self, log⟩ calm
        · simp [same]
  | deleteMember row =>
      have deletes : (Write.deleteMember row).deletes = true := rfl
      refine { self with
        member := fun c _ fresh there => ?_, counted := fun _ _ _ _ => size_le_of_deletes deletes }
      exact fresh (((members_sublist_of_deletes deletes).map _).subset there)
  | deleteParty party =>
      have deletes : (Write.deleteParty party).deletes = true := rfl
      refine ⟨fun c _ fresh there => ?_, fun p _ fresh there => ?_, fun p held there => ?_,
        fun _ _ _ _ => size_le_of_deletes deletes⟩
      · exact fresh (((members_sublist_of_deletes deletes).map _).subset there)
      · exact fresh (((parties_sublist_of_deletes deletes).map _).subset there)
      · have other : p ≠ party := by
          rintro rfl
          have := free _ List.mem_cons_self _ held
          simp [Lock.conflicts] at this
        obtain ⟨row, hrow, rfl⟩ := List.mem_map.mp there
        exact List.mem_map.mpr ⟨row, List.mem_filter.mpr ⟨hrow, by simpa using other⟩, rfl⟩
  | deleteCharacter c =>
      have deletes : (Write.deleteCharacter c).deletes = true := rfl
      refine { self with
        member := fun c' _ fresh there => ?_, counted := fun _ _ _ _ => size_le_of_deletes deletes }
      exact fresh (((members_sublist_of_deletes deletes).map _).subset there)

theorem owned_exec {s : Statement} {r : s.Result} {ws : List Write}
    (exec : s.exec t = some (r, ws)) :
    ∀ w ∈ ws, ∀ l ∈ w.owners, l ∈ s.locks t := by
  cases s with
  | selectPartyId | selectParty | selectMembers | countMembers =>
      cases exec
      exact nofun
  | insertParty row =>
      obtain ⟨rfl, -⟩ := exec_insertParty exec
      simp [Write.owners, Statement.locks]
  | insertMember row =>
      obtain ⟨rfl, -⟩ := exec_insertMember exec
      simp [Write.owners, Statement.locks]
  | deleteMember row =>
      cases exec
      by_cases there : row ∈ t.members <;> simp [Write.owners, Statement.locks, there]
  | deleteParty party =>
      cases exec
      by_cases there : party ∈ t.parties.map PartyRow.id <;>
        simp only [Write.owners, Statement.locks, there, if_true, if_false] <;> simp
  | deleteCharacter c =>
      cases exec
      by_cases there : c ∈ t.characters <;> simp [Write.owners, Statement.locks, there]

variable (calls types capped)

def discipline : RelyGuarantee engine ι where
  inv := Holds schema types capped
  rely := Tolerates calls capped
  owners := Write.owners
  disturbs i w a := capped ∧ Outdates calls i w a
  symm l l' h := by
    simp only [engine, Lock.conflicts, Bool.and_eq_true, decide_eq_true_eq, Bool.or_eq_true] at h ⊢
    exact ⟨h.1.symm, h.2.symm⟩
  owned _ _ _ _ exec := owned_exec exec
  rely_refl _ _ _ := .refl
  rely_trans _ _ _ _ _ h h' := h.trans h'
  guarantee _ _ _ _ free calm := tolerates_apply free calm

end Discipline

/-! ### Each call by itself -/

/-- Every statement of the call reads or deletes. -/
def OnlyDeletes {α : Type} : StoreM α → Prop
  | .pure _ | .throw _ => True
  | .statement s _ next =>
      (∀ t r ws, s.exec t = some (r, ws) → ∀ w ∈ ws, w.deletes = true) ∧ ∀ r, OnlyDeletes (next r)

theorem OnlyDeletes.bind {α β : Type} {p : StoreM α} {f : α → StoreM β} (h : OnlyDeletes p)
    (rest : ∀ x, OnlyDeletes (f x)) : OnlyDeletes (p.bind f) := by
  induction p with
  | pure x => exact rest x
  | throw err => trivial
  | statement s failure next ih => exact ⟨h.1, fun r => ih r (h.2 r)⟩

theorem onlyDeletes_leave (c : CharacterId) : OnlyDeletes (PartyStore.leave c) := by
  unfold PartyStore.leave
  refine .bind ⟨fun t r ws exec => by cases exec; exact nofun, fun r => trivial⟩ fun party => ?_
  cases party with
  | none => trivial
  | some partyId =>
      refine .bind ⟨fun t r ws exec => ?_, fun r => trivial⟩ fun _ =>
        .bind ⟨fun t r ws exec => by cases exec; exact nofun, fun r => trivial⟩ fun remaining => ?_
      · cases exec
        split <;> simp [Write.deletes]
      · split
        · refine ⟨fun t r ws exec => ?_, fun r => trivial⟩
          cases exec
          split <;> simp [Write.deletes]
        · trivial

section Calls

variable {store : PartyStore} {calls : ι → PartyCall} {types : PartyId → String} {capped : Prop}
  {i : ι} {t : Tables} {a : Pending Statement Write Lock}

theorem Holds.delete {w : Write} (h : Holds store.schema types capped t)
    (deletes : w.deletes = true) : Holds store.schema types capped (w.apply t) where
  constraints := h.constraints.delete deletes
  typed hc row hrow := h.typed hc row ((parties_sublist_of_deletes deletes).subset hrow)
  cap hc row hrow partyType resolved maxMembers declared :=
    Nat.le_trans (size_le_of_deletes deletes)
      (h.cap hc row ((parties_sublist_of_deletes deletes).subset hrow) partyType resolved
        maxMembers declared)

theorem Holds.deletes {ws : List Write} (h : Holds store.schema types capped t)
    (deletes : ∀ w ∈ ws, w.deletes = true) :
    Holds store.schema types capped (engine.applyAll ws t) := by
  induction ws generalizing t with
  | nil => exact h
  | cons w ws ih =>
      exact ih (h.delete (deletes w List.mem_cons_self))
        fun w' hw => deletes w' (List.mem_cons_of_mem w hw)

theorem safe_of_onlyDeletes {α : Type} {p : StoreM α} (only : OnlyDeletes p)
    (deletes : ∀ w ∈ a.writes, w.deletes = true) :
    (discipline store.schema calls types capped).Safe i p a t := by
  induction p generalizing a t with
  | pure x => exact fun t' _ holds => Holds.deletes holds deletes
  | throw err => trivial
  | statement s failure next ih =>
      intro t' _ _ r ws exec
      refine ih r (only.2 r) fun w hw => ?_
      obtain old | new := List.mem_append.mp hw
      · exact deletes w old
      · exact only.1 _ r ws exec w new

/-- A new member of a party that has room for one. -/
theorem Holds.join (h : Holds store.schema types capped t) {row : MemberRow}
    (fresh : row.characterId ∉ t.members.map MemberRow.characterId)
    (there : row.partyId ∈ t.parties.map PartyRow.id)
    (room : capped → ∀ partyType, store.schema.resolve (types row.partyId) = .ok partyType →
      ∀ maxMembers ∈ partyType.maxMembers, t.size row.partyId < maxMembers.toNat) :
    Holds store.schema types capped (Write.apply t (.insertMember row)) where
  constraints := h.constraints.insertMember fresh there
  typed := h.typed
  cap hc party hparty partyType resolved maxMembers declared := by
    rw [size_insertMember]
    by_cases same : row.partyId = party.id
    · rw [h.typed hc party hparty, ← same] at resolved
      rw [if_pos same, ← same]
      exact room hc partyType resolved maxMembers declared
    · rw [if_neg same]
      exact h.cap hc party hparty partyType resolved maxMembers declared

/-- A new party has no members. -/
theorem Holds.found (h : Holds store.schema types capped t) {row : PartyRow}
    (fresh : row.id ∉ t.parties.map PartyRow.id) (typed : capped → row.partyType = types row.id) :
    Holds store.schema types capped (Write.apply t (.insertParty row)) where
  constraints := h.constraints.insertParty fresh
  typed hc party hparty := by
    obtain old | new := List.mem_append.mp hparty
    · exact h.typed hc party old
    · rw [List.mem_singleton.mp new]
      exact typed hc
  cap hc party hparty partyType resolved maxMembers declared := by
    obtain old | new := List.mem_append.mp hparty
    · exact h.cap hc party old partyType resolved maxMembers declared
    · have empty : t.size party.id = 0 := by
        rw [List.mem_singleton.mp new]
        exact h.constraints.size_eq_zero fresh
      exact empty.trans_le (Nat.zero_le _)

/-- The invitee is inserted only where the party type is known and leaves room. -/
theorem safe_addInvitee {invitee : CharacterId} {row : PartyRow} {n : Nat}
    (inserts : ∀ partyType, store.schema.resolve row.partyType = .ok partyType →
      partyType.checkCap row.partyType n = .ok () →
      (discipline store.schema calls types capped).Safe i
        (.statement (.insertMember ⟨row.id, invitee⟩)
          (Error.wrap "character" "failed to add invitee to party") fun _ => .pure (some row.id))
        a t) :
    (discipline store.schema calls types capped).Safe i
      ((store.addInvitee invitee (row.id, row.partyType, n)).bind fun id => .pure (some id))
      a t := by
  cases resolved : store.schema.resolve row.partyType with
  | error err =>
      rw [PartyStore.addInvitee, resolved]
      trivial
  | ok partyType =>
      cases checked : partyType.checkCap row.partyType n with
      | error err =>
          simp only [PartyStore.addInvitee, resolved, checked, Program.bind_def,
            Program.ofExcept_ok, Program.pure_bind, Program.ofExcept_error, Program.throw_bind]
          trivial
      | ok u =>
          simp only [PartyStore.addInvitee, resolved, checked, Program.bind_def,
            Program.ofExcept_ok, Program.pure_bind, Program.call_bind, Program.statement_bind]
          exact inserts partyType resolved checked

/-- The invitee enters a party that has been counted. -/
theorem safe_addInvitee_of_counted {invitee : CharacterId} {row : PartyRow} {n : Nat}
    (joins : (calls i).joins = true) (nothing : a.writes = [])
    (counted : Statement.countMembers row.id ∈ a.log) (size : t.size row.id ≤ n)
    (typed : capped → row.partyType = types row.id) :
    (discipline store.schema calls types capped).Safe i
      ((store.addInvitee invitee (row.id, row.partyType, n)).bind fun id => .pure (some id))
      a t := by
  refine safe_addInvitee fun partyType resolved checked t₁ rely₁ holds₁ r ws exec => ?_
  rw [nothing] at exec
  obtain ⟨rfl, fresh, there, -⟩ := exec_insertMember exec
  intro t₂ rely₂ holds₂
  have fresh₂ := rely₂.member invitee (by simp [Pending.after, engine, Statement.locks]) fresh
  have there₂ := rely₂.present row.id (by simp [Pending.after, engine, Statement.locks]) there
  show Holds _ _ _ (engine.applyAll (a.writes ++ [_]) t₂)
  rw [nothing]
  refine Holds.join holds₂ fresh₂ there₂ fun hc partyType' resolved' maxMembers declared => ?_
  rw [← typed hc, resolved] at resolved'
  cases resolved'
  calc t₂.size row.id
      ≤ t₁.size row.id := rely₂.counted hc joins row.id (List.mem_cons_of_mem _ counted)
    _ ≤ t.size row.id := rely₁.counted hc joins row.id counted
    _ ≤ n := size
    _ < maxMembers.toNat := PartyType.checkCap_ok checked maxMembers declared

/-- The invitee enters a party that the inviter has just founded. -/
theorem safe_addInvitee_of_founded {inviter invitee : CharacterId} (row : PartyRow)
    (other : inviter ≠ invitee)
    (founded : a.writes = [.insertParty row, .insertMember ⟨row.id, inviter⟩])
    (locked : ⟨.party row.id, true⟩ ∈ a.locks ∧ ⟨.member inviter, true⟩ ∈ a.locks)
    (fresh_party : row.id ∉ t.parties.map PartyRow.id)
    (fresh_inviter : inviter ∉ t.members.map MemberRow.characterId)
    (typed : capped → row.partyType = types row.id) :
    (discipline store.schema calls types capped).Safe i
      ((store.addInvitee invitee (row.id, row.partyType, 1)).bind fun id => .pure (some id))
      a t := by
  refine safe_addInvitee fun partyType resolved checked t₁ rely₁ holds₁ r ws exec => ?_
  rw [founded] at exec
  obtain ⟨rfl, fresh, there, -⟩ := exec_insertMember exec
  intro t₂ rely₂ holds₂
  have absent : row.id ∉ t₂.parties.map PartyRow.id :=
    rely₂.absent row.id (List.mem_append_right _ locked.1)
      (rely₁.absent row.id locked.1 fresh_party)
  have inviter_free : inviter ∉ t₂.members.map MemberRow.characterId :=
    rely₂.member inviter (List.mem_append_right _ locked.2)
      (rely₁.member inviter locked.2 fresh_inviter)
  have invitee_free : invitee ∉ t₂.members.map MemberRow.characterId := by
    refine rely₂.member invitee (by simp [Pending.after, engine, Statement.locks]) fun taken => ?_
    refine fresh (List.mem_map.mpr ?_)
    obtain ⟨m, hm, same⟩ := List.mem_map.mp taken
    exact ⟨m, List.mem_append_left _ hm, same⟩
  have empty : t₂.size row.id = 0 := (holds₂ : Holds _ _ _ t₂).constraints.size_eq_zero absent
  have room : ∀ n, n ≤ 1 → capped → ∀ partyType',
      store.schema.resolve (types row.id) = .ok partyType' →
        ∀ maxMembers ∈ partyType'.maxMembers, n < maxMembers.toNat := by
    intro n small hc partyType' resolved' maxMembers declared
    rw [← typed hc, resolved] at resolved'
    cases resolved'
    exact Nat.lt_of_le_of_lt small (PartyType.checkCap_ok checked maxMembers declared)
  have party := Holds.found holds₂ absent typed
  have one : Holds store.schema types capped
      (Write.apply (Write.apply t₂ (.insertParty row)) (.insertMember ⟨row.id, inviter⟩)) :=
    party.join inviter_free (by simp [Write.apply]) (room _ (by
      show t₂.size row.id ≤ 1
      omega))
  show Holds _ _ _ (engine.applyAll (a.writes ++ [_]) t₂)
  rw [founded]
  refine one.join ?_ (by simp [Write.apply]) (room _ ?_)
  · simp only [Write.apply, List.map_append, List.map_singleton, List.mem_append,
      List.mem_singleton]
    exact not_or.mpr ⟨invitee_free, other.symm⟩
  · rw [size_insertMember, if_pos rfl]
    show t₂.size row.id + 1 ≤ 1
    omega

theorem safe_acceptInvite {inviter invitee : CharacterId} {requestedPartyType : String}
    {id : PartyId} (joins : (calls i).joins = true)
    (typed : capped → ∀ partyType, store.schema.requested requestedPartyType = .ok partyType →
      partyType.key = types id) :
    (discipline store.schema calls types capped).Safe i
      ((PartyCall.acceptInvite inviter invitee requestedPartyType id).program store) {} t := by
  by_cases same : inviter = invitee
  · simp only [PartyCall.program, PartyStore.acceptInvite, same, if_true]
    trivial
  simp only [PartyCall.program, PartyStore.acceptInvite, same, if_false, Program.bind_def,
    Program.call_bind, Program.statement_bind]
  intro t₁ _ _ inviteeParty ws exec
  obtain rfl : ws = [] := (congrArg Prod.snd (Option.some.inj exec)).symm
  cases inviteeParty with
  | some m => trivial
  | none =>
  intro t₂ _ holds₂ inviterParty ws exec
  obtain ⟨found, rfl⟩ := Prod.mk.inj (Option.some.inj exec)
  cases inviterParty with
  | some row =>
      have there := (selectParty_eq_some found).1
      intro t₃ _ _ size ws exec
      obtain ⟨rfl, rfl⟩ := Prod.mk.inj (Option.some.inj exec)
      exact safe_addInvitee_of_counted joins rfl List.mem_cons_self le_rfl fun hc =>
        holds₂.typed hc row there
  | none =>
      cases requested : store.schema.requested requestedPartyType with
      | error err =>
          simp only [PartyStore.partyToJoin, requested]
          trivial
      | ok partyType =>
      simp only [PartyStore.partyToJoin, requested]
      intro t₃ _ _ r ws exec
      obtain ⟨rfl, fresh_party⟩ := exec_insertParty exec
      intro t₄ rely₄ _ r ws exec
      obtain ⟨rfl, fresh_inviter, -⟩ := exec_insertMember exec
      have fresh_party₄ := rely₄.absent id (by simp [Pending.after, engine, Statement.locks])
        fresh_party
      exact safe_addInvitee_of_founded ⟨id, partyType.key⟩ same rfl
        (by simp [Pending.after, engine, Statement.locks]) fresh_party₄ fresh_inviter
        fun hc => typed hc partyType requested

end Calls

/-! ### Every schedule -/

section Schedules

variable [DecidableEq ι] [Fintype ι] {store : PartyStore} {calls : ι → PartyCall} {db : Tables}
  {ls : List (Label ι)}

/-- The type that a call gives to a party that it founds. -/
def PartyCall.partyType (schema : PartySchema) : PartyCall → String
  | .acceptInvite _ _ requestedPartyType _ =>
      (schema.requested requestedPartyType).toOption.elim "" PartyType.key
  | .leave _ => ""

omit [DecidableEq ι] [Fintype ι] in
open Classical in
/-- Identifiers that are fresh determine the types of parties, now and later. -/
theorem exists_types (schema : PartySchema) (constraints : db.Constraints)
    (unused : ∀ i, ∀ id ∈ (calls i).founds, id ∉ db.parties.map PartyRow.id)
    (distinct : ∀ i j, ∀ id ∈ (calls i).founds, id ∈ (calls j).founds → i = j) :
    ∃ types : PartyId → String, (∀ row ∈ db.parties, row.partyType = types row.id) ∧
      ∀ i, ∀ id ∈ (calls i).founds, (calls i).partyType schema = types id := by
  refine ⟨fun p => if there : ∃ row ∈ db.parties, row.id = p then there.choose.partyType
    else if founded : ∃ i, p ∈ (calls i).founds then (calls founded.choose).partyType schema
    else "", fun row hrow => ?_, fun i id hid => ?_⟩
  · have there : ∃ row' ∈ db.parties, row'.id = row.id := ⟨row, hrow, rfl⟩
    beta_reduce
    rw [dif_pos there]
    have same : there.choose = row :=
      List.inj_on_of_nodup_map constraints.keys there.choose_spec.1 hrow there.choose_spec.2
    rw [same]
  · have absent : ¬ ∃ row ∈ db.parties, row.id = id := fun ⟨row, hrow, same⟩ =>
      unused i id hid (List.mem_map.mpr ⟨row, hrow, same⟩)
    have founded : ∃ i, id ∈ (calls i).founds := ⟨i, hid⟩
    beta_reduce
    rw [dif_neg absent, dif_pos founded, distinct i founded.choose id hid founded.choose_spec]

omit [DecidableEq ι] [Fintype ι] in
theorem safe_program {types : PartyId → String} {capped : Prop}
    (typed : capped → ∀ i, ∀ id ∈ (calls i).founds, (calls i).partyType store.schema = types id)
    (i : ι) :
    (discipline store.schema calls types capped).Safe i ((calls i).program store) {} db := by
  have typed_i := fun hc => typed hc i
  cases call : calls i with
  | leave c =>
      exact safe_of_onlyDeletes (.bind (onlyDeletes_leave c) fun _ => trivial) nofun
  | acceptInvite inviter invitee requestedPartyType id =>
      refine safe_acceptInvite (by rw [call]; rfl) fun hc partyType requested => ?_
      have := typed_i hc id (by rw [call]; rfl)
      rwa [call, PartyCall.partyType, requested] at this

/-- In every committed state a character is in one party at most, and as long as no transaction
commits a member of a party that another acceptance in progress has counted, no party has more
members than its type allows. The identifiers that the calls bring along are fresh. -/
theorem committed_parties (constraints : db.Constraints) (within : db.WithinCap store.schema)
    (unused : ∀ i, ∀ id ∈ (calls i).founds, id ∉ db.parties.map PartyRow.id)
    (distinct : ∀ i j, ∀ id ∈ (calls i).founds, id ∈ (calls j).founds → i = j) :
    (∀ front, front <+: ls →
      ∀ s, Transition.exec (step engine (workload store calls)) (start (workload store calls) db)
        front = some s → (s.committed.members.map MemberRow.characterId).Nodup) ∧
    (Transition.Admissible (step engine (workload store calls)) (Undisturbed (Outdates calls))
        (start (workload store calls) db) ls →
      ∀ front, front <+: ls →
        ∀ s, Transition.exec (step engine (workload store calls)) (start (workload store calls) db)
          front = some s → s.committed.WithinCap store.schema) := by
  constructor
  · intro front front_of s run
    have holds : Holds store.schema (fun _ => "") False db := ⟨constraints, nofun, nofun⟩
    have legal : Transition.Admissible (step engine (workload store calls))
        (Undisturbed (discipline store.schema calls (fun _ => "") False).disturbs)
        (start (workload store calls) db) ls :=
      Transition.admissible_of_forall fun _ _ _ _ _ _ _ _ h => h.1
    have kept : Holds store.schema (fun _ => "") False s.committed :=
      RelyGuarantee.committed holds (safe_program nofun) legal front front_of s run
    exact kept.constraints.unique
  · intro calm front front_of s run
    obtain ⟨types, initial, founded⟩ := exists_types store.schema constraints unused distinct
    have holds : Holds store.schema types True db :=
      ⟨constraints, fun _ => initial, fun _ => within⟩
    have legal : Transition.Admissible (step engine (workload store calls))
        (Undisturbed (discipline store.schema calls types True).disturbs)
        (start (workload store calls) db) ls :=
      calm.mono fun s l h w hw j other b hb outdates => h w hw j other b hb outdates.2
    have kept : Holds store.schema types True s.committed :=
      RelyGuarantee.committed holds (safe_program fun _ => founded) legal front front_of s run
    exact kept.cap trivial

end Schedules

/-! ### Two acceptances at once -/

namespace Crowded

def rush : PartySchema :=
  { schemaVersion := 1, partyTypes := [⟨"rush", some 3⟩], nonempty := by decide }

/-- A party of two, of a type that takes three, and two characters that are invited to it. -/
def two : Tables where
  characters := [⟨1⟩, ⟨2⟩, ⟨3⟩, ⟨4⟩]
  parties := [⟨⟨10⟩, "rush"⟩]
  members := [⟨⟨10⟩, ⟨1⟩⟩, ⟨⟨10⟩, ⟨2⟩⟩]

def invited : Bool → PartyCall
  | false => .acceptInvite ⟨1⟩ ⟨3⟩ "" ⟨20⟩
  | true => .acceptInvite ⟨1⟩ ⟨4⟩ "" ⟨21⟩

/-- Both count two members before either of them commits. -/
def atOnce : List (Label Bool) :=
  [false, false, false, true, true, true, false, true, false, true].map fun i => { call := i }

/-- One after the other: the second is told that the party is full. -/
def inTurn : List (Label Bool) :=
  [false, false, false, false, false, true, true, true].map fun i => { call := i }

theorem four_in_a_rush_party :
    ∃ s, Transition.exec (step engine (workload ⟨rush⟩ invited))
        (start (workload ⟨rush⟩ invited) two) atOnce = some s ∧
      ¬ s.committed.WithinCap rush := by
  obtain ⟨s, run, party, four⟩ : ∃ s, Transition.exec (step engine (workload ⟨rush⟩ invited))
        (start (workload ⟨rush⟩ invited) two) atOnce = some s ∧
      s.committed.parties = [⟨⟨10⟩, "rush"⟩] ∧ s.committed.size ⟨10⟩ = 4 :=
    Transition.exec_reaches (by decide)
  refine ⟨s, run, fun within => ?_⟩
  have small := within ⟨⟨10⟩, "rush"⟩ (by simp [party]) ⟨"rush", some 3⟩ rfl 3 rfl
  rw [four] at small
  exact absurd small (by decide)

theorem three_in_turn :
    ∃ s, Transition.exec (step engine (workload ⟨rush⟩ invited))
        (start (workload ⟨rush⟩ invited) two) inTurn = some s ∧
      s.committed.size ⟨10⟩ = 3 ∧ s.committed.WithinCap rush := by
  obtain ⟨s, run, three⟩ : ∃ s, Transition.exec (step engine (workload ⟨rush⟩ invited))
        (start (workload ⟨rush⟩ invited) two) inTurn = some s ∧ s.committed.size ⟨10⟩ = 3 :=
    Transition.exec_reaches (by decide)
  have constraints : two.Constraints := ⟨by decide, by decide, by decide⟩
  have within : two.WithinCap rush := by
    intro row hrow partyType resolved maxMembers declared
    obtain rfl := List.mem_singleton.mp hrow
    obtain rfl : PartyType.mk "rush" (some 3) = partyType := Except.ok.inj resolved
    obtain rfl : 3 = maxMembers := Option.some.inj declared
    decide
  exact ⟨s, run, three, (committed_parties constraints within (by decide) (by decide)).2
    (by decide) inTurn List.prefix_rfl s run⟩

end Crowded

end WorldZero.Character.Party
