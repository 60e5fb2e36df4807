import WorldZero.Chat.KeyedChannels

/-!
# Creating channels at once

The contract of the calls of the channel store: each of them finds the channel of its key or
creates it where there is none.
-/

namespace WorldZero.Chat

open Sql.Transactions Validation
open Sql (Rows)
open Tables ChannelStore

namespace Request

def key : Request → Option Key
  | .createDirect a b => some (.direct s(a, b))
  | .findOrCreateNamedChannel _ name => some (.group name)
  | .ensureZoneChannel zoneId category _ => some (.zone zoneId category)
  | .createGuild .. | .join .. | .leave .. => none

/-- The channel that the call may create, with its first members. -/
def founds (id : ChannelId) : Request → Option (ChannelRow × List AccountId)
  | .createDirect a b => some ({ id, channelType := .direct }, [a, b])
  | .findOrCreateNamedChannel creator name => some (namedRow id .group creator name, [creator])
  | .createGuild creator name => some (namedRow id .guild creator name, [creator])
  | .ensureZoneChannel zoneId category name => some (zoneRow id zoneId category name, [])
  | .join .. | .leave .. => none

/-- A call with such arguments returns no error unless one of its statements fails. -/
def Sound (accounts : Finset AccountId) : Request → Prop
  | .createDirect a b => a ≠ b ∧ a ∈ accounts ∧ b ∈ accounts
  | .findOrCreateNamedChannel creator name | .createGuild creator name =>
      isBlank name = false ∧ creator ∈ accounts
  | .ensureZoneChannel .. => True
  | .join .. | .leave .. => False

variable {r : Request} {id : ChannelId} {row : ChannelRow} {members : List AccountId}
  {accounts : Finset AccountId}

theorem id_of_founds (founds : r.founds id = some (row, members)) : row.id = id := by
  cases r <;> cases founds <;> rfl

theorem keyed_iff {k : Key} (founds : r.founds id = some (row, members)) :
    row.Keyed (· ∈ members) k ↔ r.key = some k := by
  cases r with
  | createDirect a b =>
      cases founds
      cases k with
      | direct pair =>
          simp only [ChannelRow.Keyed, key, true_and, Option.some.injEq, Key.direct.injEq,
            List.mem_cons, List.not_mem_nil, or_false, ← Sym2.mem_iff]
          exact ⟨Sym2.ext, fun same _ => by rw [same]⟩
      | group | zone => simp [ChannelRow.Keyed, key]
  | findOrCreateNamedChannel creator name | createGuild creator name =>
      cases founds
      cases k <;> simp [ChannelRow.Keyed, key, namedRow]
  | ensureZoneChannel zoneId category name =>
      cases founds
      cases k <;> simp [ChannelRow.Keyed, key, zoneRow]
  | join | leave => cases founds

theorem Sound.founders (sound : r.Sound accounts) (founds : r.founds id = some (row, members)) :
    (∀ a ∈ row.createdBy, a ∈ accounts) ∧ (∀ a ∈ members, a ∈ accounts) ∧ members.Nodup := by
  cases r with
  | createDirect a b =>
      cases founds
      obtain ⟨apart, first, second⟩ := sound
      simp [apart, first, second]
  | findOrCreateNamedChannel creator name | createGuild creator name =>
      cases founds
      simp [namedRow, sound.2]
  | ensureZoneChannel =>
      cases founds
      simp [zoneRow]
  | join | leave => cases founds

/-- The two accounts of a `direct` channel differ, for the second could not be inserted. -/
theorem pair_of_founds (founds : r.founds id = some (row, members)) (nodup : members.Nodup)
    (direct : row.channelType = .direct) :
    ∃ pair : Sym2 AccountId, ¬ pair.IsDiag ∧ row.Keyed (· ∈ members) (.direct pair) := by
  cases r with
  | createDirect a b =>
      have keyed := (keyed_iff (k := .direct s(a, b)) founds).mpr rfl
      cases founds
      refine ⟨s(a, b), ?_, keyed⟩
      simpa using nodup
  | findOrCreateNamedChannel | createGuild | ensureZoneChannel => cases founds; cases direct
  | join | leave => cases founds

end Request

/-! ### What the writes of a call add up to -/

section Writes

variable {t t' t'' : Tables} {row : ChannelRow} {founders done rest : List AccountId}
  {a : AccountId}

theorem creates_insertChannel (inserted : t.insertChannel row = some t') :
    Creates row [] t t' := by
  obtain ⟨rows, members⟩ := insertChannel_rows inserted
  refine ⟨fun r here => Rows.fresh_of_insert rows here, accounts_of_insertChannel inserted,
    fun r => Rows.mem_insert rows, fun m => ?_⟩
  rw [members]
  simp

theorem creates_insertMember (created : Creates row founders t t')
    (inserted : t'.insertMember ⟨row.id, a⟩ = some t'') :
    Creates row (founders ++ [a]) t t'' := by
  obtain ⟨rows, channels⟩ := insertMember_rows inserted
  refine ⟨created.fresh, (accounts_of_insertMember inserted).trans created.accounts,
    fun r => channels ▸ created.channels r, fun m => ?_⟩
  rw [Rows.mem_insert rows, created.members, or_assoc]
  refine or_congr_right ?_
  rw [List.mem_append, List.mem_singleton, and_or_left]
  exact or_congr_right ⟨fun same => by rw [same]; exact ⟨rfl, rfl⟩,
    fun ⟨channel, account⟩ => by cases m; cases channel; cases account; rfl⟩

theorem exec_insertMember {m : MemberRow} :
    (engine.exec (.insertMember m) t = none ↔ ¬ (t.insertMember m).isSome) ∧
      ∀ r ws, engine.exec (.insertMember m) t = some (r, ws) ↔
        (t.insertMember m).isSome ∧ ws = [.insertMember m] := by
  show ((if (t.insertMember m).isSome then some ((), [Write.insertMember m]) else none) = none
      ↔ _) ∧ ∀ (r : Unit) (ws : List Write),
      (if (t.insertMember m).isSome then some ((), [Write.insertMember m]) else none) =
        some (r, ws) ↔ _
  split
  next inserted => simp [inserted, eq_comm]
  next refused => simp [refused]

theorem exec_insertChannel :
    (engine.exec (.insertChannel row) t = none ↔ ¬ (t.insertChannel row).isSome) ∧
      ∀ r ws, engine.exec (.insertChannel row) t = some (r, ws) ↔
        (t.insertChannel row).isSome ∧ ws = [.insertChannel row] := by
  show ((if (t.insertChannel row).isSome then some ((), [Write.insertChannel row]) else none) = none
      ↔ _) ∧ ∀ (r : Unit) (ws : List Write),
      (if (t.insertChannel row).isSome then some ((), [Write.insertChannel row]) else none) =
        some (r, ws) ↔ _
  split
  next inserted => simp [inserted, eq_comm]
  next refused => simp [refused]

/-- A member of the new channel is refused if it is one already or has no account. -/
theorem insertable_iff (created : Creates row founders t t') :
    (t'.insertMember ⟨row.id, a⟩).isSome ↔ a ∈ t.accounts ∧ a ∉ founders := by
  have there : (t'.channels.find row.id).isSome := by
    rw [Rows.find_eq_some.mpr ⟨(created.channels row).mpr (.inr rfl), rfl⟩]
    rfl
  rw [insertMember_isSome, created.accounts, created.mem_members]
  simp [there]

theorem creatable_iff :
    (t.insertChannel row).isSome ↔
      (∀ a ∈ row.createdBy, a ∈ t.accounts) ∧ ∀ r ∈ t.channels, r.id ≠ row.id := by
  rw [insertChannel_isSome, Rows.find_eq_none]

theorem creates_members (created : Creates row done t t') (known : ∀ a ∈ rest, a ∈ t.accounts)
    (nodup : (done ++ rest).Nodup) :
    Creates row (done ++ rest) t
      (engine.applyAll (rest.map fun a => .insertMember ⟨row.id, a⟩) t') := by
  induction rest generalizing done t' with
  | nil =>
      rw [List.append_nil]
      exact created
  | cons a rest ih =>
      have fresh : a ∉ done := by
        intro here
        exact List.disjoint_of_nodup_append nodup here List.mem_cons_self
      obtain ⟨t'', inserted⟩ := Option.isSome_iff_exists.mp
        ((insertable_iff created).mpr ⟨known a List.mem_cons_self, fresh⟩)
      have applied : engine.apply (.insertMember ⟨row.id, a⟩) t' = t'' := by
        show (t'.insertMember ⟨row.id, a⟩).getD t' = t''
        rw [inserted]
        rfl
      rw [List.append_cons] at nodup ⊢
      rw [List.map_cons, Engine.applyAll_cons, applied]
      exact ih (creates_insertMember created inserted)
        (fun b here => known b (List.mem_cons_of_mem a here)) nodup

/-- The new channel and its members, written to whatever has been committed meanwhile. -/
theorem creates_applyAll (fresh : ∀ r ∈ t.channels, r.id ≠ row.id)
    (creator : ∀ a ∈ row.createdBy, a ∈ t.accounts) (known : ∀ a ∈ founders, a ∈ t.accounts)
    (nodup : founders.Nodup) :
    Creates row founders t (engine.applyAll
      (.insertChannel row :: founders.map fun a => .insertMember ⟨row.id, a⟩) t) := by
  obtain ⟨t', inserted⟩ := Option.isSome_iff_exists.mp (creatable_iff.mpr ⟨creator, fresh⟩)
  have applied : engine.apply (.insertChannel row) t = t' := by
    show (t.insertChannel row).getD t = t'
    rw [inserted]
    rfl
  rw [Engine.applyAll_cons, applied]
  exact creates_members (creates_insertChannel inserted) known nodup

/-- Whoever joins or leaves changes the members of a channel only. -/
theorem alters_insertMember {channel : ChannelId} (joinable : t.channelType channel = some .group ∨
    t.channelType channel = some .guild) :
    Alters channel t (Write.apply t (.insertMember ⟨channel, a⟩)) := by
  show Alters channel t ((t.insertMember ⟨channel, a⟩).getD t)
  cases inserted : t.insertMember ⟨channel, a⟩ with
  | none => exact ⟨joinable, rfl, rfl, fun m other => Iff.rfl⟩
  | some t' =>
      obtain ⟨rows, channels⟩ := insertMember_rows inserted
      refine ⟨joinable, accounts_of_insertMember inserted, channels, fun m other => ?_⟩
      show m ∈ t'.members ↔ _
      rw [Rows.mem_insert rows]
      exact or_iff_left fun same => other (by rw [same])

theorem alters_deleteMember {channel : ChannelId} (joinable : t.channelType channel = some .group ∨
    t.channelType channel = some .guild) :
    Alters channel t (Write.apply t (.deleteMember ⟨channel, a⟩)) := by
  refine ⟨joinable, rfl, rfl, fun m other => mem_deleteMember.trans ?_⟩
  exact and_iff_left fun same => other same.1

end Writes

/-! ### The contract -/

/-- Of the keys that are kept there is one channel at most; where they are those of `direct`
channels, these belong to two accounts each. -/
structure Holds (accounts : Finset AccountId) (kept : Key → Prop) (t : Tables) : Prop where
  accounts : t.accounts = accounts
  paired : ∀ pair, kept (.direct pair) → t.Paired
  unique : ∀ k, kept k → ∀ c c', t.Has k c → t.Has k c' → c = c'

/-- The unique index is for the channels of this key. -/
def Key.indexed : Key → Bool
  | .zone .. => true
  | .direct _ | .group _ => false

/-- The call may rely on that no channel of the key is committed: it has inserted its own into
the index, or it has looked the key up. -/
def Guarded (a : Pending Statement Write Lock) : Key → Prop
  | .zone zoneId category => .zone zoneId category ∈ a.locks
  | .direct _ | .group _ => a.log ≠ []

section Contract

variable {ι : Type} (accounts : Finset AccountId) (ids : ι → ChannelId) (calls : ι → Request)
  (kept : Key → Prop)

structure Tolerates (i : ι) (a : Pending Statement Write Lock) (t t' : Tables) : Prop where
  fresh : (∀ r ∈ t.channels, r.id ≠ ids i) → ∀ r ∈ t'.channels, r.id ≠ ids i
  types : ∀ c ty, t.channelType c = some ty → t'.channelType c = some ty
  has : ∀ k c, t.Has k c → t'.Has k c
  absent : ∀ k, (calls i).key = some k → kept k → Guarded a k → (∀ c, ¬ t.Has k c) →
    ∀ c, ¬ t'.Has k c

/-- The call has found the channel of its key, or creates it, or is one to join or to leave. -/
def Concludes (i : ι) (x : Option ChannelId) (a : Pending Statement Write Lock)
    (t t' : Tables) : Prop :=
  (t' = t ∧ ∃ c, x = some c ∧ ∀ k, (calls i).key = some k → kept k → t.Has k c) ∨
  (∃ row founders, (calls i).founds (ids i) = some (row, founders) ∧ founders.Nodup ∧
    x = some row.id ∧ Creates row founders t t' ∧
      ∀ k, (calls i).key = some k → kept k → Guarded a k ∧ ∀ c, ¬ t.Has k c) ∨
  ((calls i).key = none ∧ ∃ channel, Alters channel t t')

/-- The commit creates a channel of a key that the other call has looked up. -/
def Overtakes (i : ι) (a : Pending Statement Write Lock) (j : ι)
    (b : Pending Statement Write Lock) : Prop :=
  a.writes ≠ [] ∧ b.log ≠ [] ∧
    ∃ k, kept k ∧ k.indexed = false ∧ (calls i).key = some k ∧ (calls j).key = some k

variable {accounts ids calls kept} {i j : ι} {a b : Pending Statement Write Lock}
  {t t' t'' : Tables} {x : Option ChannelId}

theorem Tolerates.refl : Tolerates ids calls kept i a t t :=
  ⟨id, fun _ _ => id, fun _ _ => id, fun _ _ _ _ => id⟩

theorem Tolerates.trans (h : Tolerates ids calls kept i a t t')
    (h' : Tolerates ids calls kept i a t' t'') : Tolerates ids calls kept i a t t'' where
  fresh unused := h'.fresh (h.fresh unused)
  types c ty here := h'.types c ty (h.types c ty here)
  has k c here := h'.has k c (h.has k c here)
  absent k mine keep guarded none :=
    h'.absent k mine keep guarded (h.absent k mine keep guarded none)

theorem Concludes.holds (holds : Holds accounts kept t)
    (concludes : Concludes ids calls kept i x a t t') : Holds accounts kept t' := by
  obtain ⟨rfl, -⟩ | ⟨row, founders, founds, nodup, -, created, absent⟩ | ⟨-, channel, altered⟩ :=
    concludes
  · exact holds
  · refine ⟨created.accounts.trans holds.accounts,
      fun pair keep => created.paired (holds.paired pair keep)
        (Request.pair_of_founds founds nodup), fun k keep c c' h h' => ?_⟩
    rw [created.has_iff, Request.keyed_iff founds] at h h'
    obtain old | ⟨rfl, mine⟩ := h <;> obtain old' | ⟨rfl, mine'⟩ := h'
    · exact holds.unique k keep c c' old old'
    · exact absurd old ((absent k mine' keep).2 c)
    · exact absurd old' ((absent k mine keep).2 c')
    · rfl
  · refine ⟨altered.accounts.trans holds.accounts,
      fun pair keep => altered.paired (holds.paired pair keep), fun k keep c c' h h' => ?_⟩
    exact holds.unique k keep c c' (altered.has_iff.mp h) (altered.has_iff.mp h')

theorem Concludes.has {k : Key} {c : ChannelId} (concludes : Concludes ids calls kept i x a t t')
    (here : t.Has k c) : t'.Has k c := by
  obtain ⟨rfl, -⟩ | ⟨row, founders, -, -, -, created, -⟩ | ⟨-, channel, altered⟩ := concludes
  · exact here
  · exact created.has_iff.mpr (.inl here)
  · exact altered.has_iff.mpr here

/-- What is true of the result of a call that has a key. -/
def Returned (calls : ι → Request) (kept : Key → Prop) (i : ι) (x : Option ChannelId)
    (t : Tables) : Prop :=
  ∀ k, (calls i).key = some k → kept k → ∃ c, x = some c ∧ t.Has k c

theorem Concludes.returned (concludes : Concludes ids calls kept i x a t t') :
    Returned calls kept i x t' := by
  intro k mine keep
  obtain ⟨rfl, c, rfl, has⟩ | ⟨row, founders, founds, -, rfl, created, -⟩ | ⟨keyless, -⟩ :=
    concludes
  · exact ⟨c, rfl, has k mine keep⟩
  · exact ⟨row.id, rfl, created.has_iff.mpr (.inr ⟨rfl, (Request.keyed_iff founds).mpr mine⟩)⟩
  · rw [keyless] at mine
    cases mine

theorem Concludes.tolerated (distinct : Function.Injective ids) (other : j ≠ i)
    (concludes : Concludes ids calls kept i x a t (engine.applyAll a.writes t))
    (apart : ∀ l ∈ a.locks, ∀ l' ∈ b.locks, engine.conflicts l l' = false)
    (calm : ¬ Overtakes calls kept i a j b) :
    Tolerates ids calls kept j b t (engine.applyAll a.writes t) := by
  refine ⟨?_, ?_, fun k c here => concludes.has here, ?_⟩
  · intro unused r here
    obtain ⟨same, -⟩ | ⟨row, founders, founds, -, -, created, -⟩ | ⟨-, channel, altered⟩ :=
      concludes
    · exact unused r (same ▸ here)
    · obtain old | rfl := (created.channels r).mp here
      · exact unused r old
      · rw [Request.id_of_founds founds]
        exact fun same => other (distinct same).symm
    · exact unused r (altered.channels ▸ here)
  · intro c ty here
    obtain ⟨same, -⟩ | ⟨row, founders, founds, -, -, created, -⟩ | ⟨-, channel, altered⟩ :=
      concludes
    · rw [same]
      exact here
    · exact created.channelType here
    · exact altered.channelType_eq.trans here
  · intro k mine keep guarded none c here
    obtain ⟨same, -⟩ | ⟨row, founders, founds, -, -, created, absent⟩ | ⟨-, channel, altered⟩ :=
      concludes
    · exact none c (same ▸ here)
    · obtain old | ⟨-, keyed⟩ := created.has_iff.mp here
      · exact none c old
      have theirs := (Request.keyed_iff founds).mp keyed
      have held := (absent k theirs keep).1
      have writes : a.writes ≠ [] := by
        intro nothing
        have new := (created.channels row).mpr (.inr rfl)
        rw [nothing] at new
        exact created.fresh row new rfl
      cases k with
      | direct pair => exact calm ⟨writes, guarded, _, keep, rfl, theirs, mine⟩
      | group name => exact calm ⟨writes, guarded, _, keep, rfl, theirs, mine⟩
      | zone zoneId category =>
          have free := apart _ held _ guarded
          simp [engine] at free
    · exact none c (altered.has_iff.mp here)

variable (accounts ids calls kept)

def contract (distinct : Function.Injective ids) :
    Contract engine ι Error (Option ChannelId) where
  inv := Holds accounts kept
  rely := Tolerates ids calls kept
  concludes i x a t := Concludes ids calls kept i x a t (engine.applyAll a.writes t)
  refuses i _ := ¬ (calls i).Sound accounts
  returned := Returned calls kept
  disturbs := Overtakes calls kept
  symm l l' h := by
    simp only [engine, decide_eq_true_eq] at h ⊢
    exact h.symm
  rely_refl _ _ _ := .refl
  rely_trans _ _ _ _ _ h h' := h.trans h'
  restores _ _ _ _ holds concludes := concludes.holds holds
  returns _ _ _ _ _ concludes := concludes.returned
  keeps _ _ _ _ _ _ _ concludes returned k mine keep := by
    obtain ⟨c, same, has⟩ := returned k mine keep
    exact ⟨c, same, concludes.has has⟩
  guarantee _ _ _ _ _ _ other _ concludes apart calm :=
    concludes.tolerated distinct other apart calm

end Contract

/-! ### Each call by itself -/

section Calls

variable {ι : Type} {accounts : Finset AccountId} {ids : ι → ChannelId} {calls : ι → Request}
  {kept : Key → Prop} {distinct : Function.Injective ids} {i : ι} {t : Tables}
  {a : Pending Statement Write Lock}

/-- A statement that reads outside the writes of others. -/
theorem meets_read {s : Statement} {failure : Error} {next : s.Result → ChatM (Option ChannelId)}
    (read : Tables → s.Result) (exec : ∀ t, s.exec t = some (read t, [])) (nothing : a.writes = [])
    (h : ∀ t', Tolerates ids calls kept i a t t' → Holds accounts kept t' →
      (contract accounts ids calls kept distinct).Meets i (next (read t'))
        (a.after engine s t' []) t') :
    (contract accounts ids calls kept distinct).Meets i (.statement s failure next) a t := by
  intro t' rely holds
  rw [nothing, Engine.applyAll_nil]
  refine ⟨fun refused => ?_, fun r ws done => ?_⟩
  · rw [show engine.exec s t' = some (read t', []) from exec t'] at refused
    cases refused
  · rw [show engine.exec s t' = some (read t', []) from exec t'] at done
    cases done
    exact h t' rely holds

theorem meets_found {c : ChannelId} (nothing : a.writes = [])
    (has : ∀ k, (calls i).key = some k → kept k → t.Has k c) :
    (contract accounts ids calls kept distinct).Meets i (.pure (some c)) a t := by
  intro t' rely _
  refine .inl ⟨by rw [nothing]; rfl, c, rfl, fun k mine keep => rely.has k c (has k mine keep)⟩

variable {row : ChannelRow} {members done rest : List AccountId} {failure : Error}

/-- Whatever has been committed meanwhile, the writes of the call are those of its channel. -/
theorem creates_writes (founds : (calls i).founds (ids i) = some (row, done ++ rest))
    (writes : a.writes = .insertChannel row :: done.map fun x => .insertMember ⟨row.id, x⟩)
    (fresh : ∀ r ∈ t.channels, r.id ≠ ids i) (creator : ∀ x ∈ row.createdBy, x ∈ accounts)
    (known : ∀ x ∈ done, x ∈ accounts) (nodup : done.Nodup) {t' : Tables}
    (rely : Tolerates ids calls kept i a t t') (holds : Holds accounts kept t') :
    Creates row done t' (engine.applyAll a.writes t') := by
  have unused : ∀ r ∈ t'.channels, r.id ≠ row.id :=
    (Request.id_of_founds founds).symm ▸ rely.fresh fresh
  rw [writes]
  exact creates_applyAll unused (holds.accounts ▸ creator) (holds.accounts ▸ known) nodup

/-- The members of a new channel are inserted, and the channel is committed. -/
theorem meets_addMembers (founds : (calls i).founds (ids i) = some (row, done ++ rest))
    (writes : a.writes = .insertChannel row :: done.map fun x => .insertMember ⟨row.id, x⟩)
    (fresh : ∀ r ∈ t.channels, r.id ≠ ids i) (creator : ∀ x ∈ row.createdBy, x ∈ accounts)
    (known : ∀ x ∈ done, x ∈ accounts) (nodup : done.Nodup)
    (guarded : ∀ k, (calls i).key = some k → kept k → Guarded a k ∧ k.indexed = false)
    (absent : ∀ k, (calls i).key = some k → kept k → ∀ c, ¬ t.Has k c) :
    (contract accounts ids calls kept distinct).Meets i
      ((addMembers row.id failure rest).bind fun _ => .pure (some row.id)) a t := by
  induction rest generalizing done a t with
  | nil =>
      intro t' rely holds
      have created := creates_writes founds writes fresh creator known nodup rely holds
      rw [List.append_nil] at founds
      refine .inr (.inl ⟨row, done, founds, nodup, rfl, created, fun k own keep => ?_⟩)
      exact ⟨(guarded k own keep).1,
        rely.absent k own keep (guarded k own keep).1 (absent k own keep)⟩
  | cons x rest ih =>
      intro t' rely holds
      have created := creates_writes founds writes fresh creator known nodup rely holds
      have insertable := insertable_iff (a := x) created
      rw [holds.accounts] at insertable
      refine ⟨fun refused sound => ?_, fun r ws executed => ?_⟩
      · -- a sound call inserts members that have accounts, each of them once
        obtain ⟨-, all, once⟩ := sound.founders founds
        have new : x ∉ done := fun here =>
          List.disjoint_of_nodup_append once here List.mem_cons_self
        exact exec_insertMember.1.mp refused (insertable.mpr ⟨all x (by simp), new⟩)
      · obtain ⟨inserted, rfl⟩ := (exec_insertMember.2 r ws).mp executed
        obtain ⟨account, new⟩ := insertable.mp inserted
        rw [List.append_cons] at founds
        refine ih founds ?_ (rely.fresh fresh) ?_ ?_ ?_ ?_
        · simp [Pending.after, writes]
        · simpa [or_imp, forall_and] using ⟨known, account⟩
        · refine List.nodup_append.mpr ⟨nodup, by simp, ?_⟩
          rintro y here z single rfl
          exact new (List.mem_singleton.mp single ▸ here)
        · intro k own keep
          obtain ⟨-, plain⟩ := guarded k own keep
          cases k with
          | zone => cases plain
          | direct | group => exact ⟨by simp [Guarded, Pending.after], rfl⟩
        · intro k own keep
          exact rely.absent k own keep (guarded k own keep).1 (absent k own keep)

/-- The transaction that creates a channel, for a key that has been looked up. -/
theorem meets_founding {beginFailure createFailure : Error}
    (founds : (calls i).founds (ids i) = some (row, members)) (nothing : a.writes = [])
    (fresh : ∀ r ∈ t.channels, r.id ≠ ids i)
    (guarded : ∀ k, (calls i).key = some k → kept k → Guarded a k ∧ k.indexed = false)
    (absent : ∀ k, (calls i).key = some k → kept k → ∀ c, ¬ t.Has k c) :
    (contract accounts ids calls kept distinct).Meets i
      (.statement .begin beginFailure fun _ =>
        .statement (.insertChannel row) createFailure fun _ =>
          (addMembers row.id failure members).bind fun _ => .pure (some row.id)) a t := by
  have later : ∀ s t' ws, ∀ k, (calls i).key = some k → kept k →
      Guarded (a.after engine s t' ws) k ∧ k.indexed = false := by
    intro s t' ws k own keep
    obtain ⟨-, plain⟩ := guarded k own keep
    cases k with
    | zone => cases plain
    | direct | group => exact ⟨by simp [Guarded, Pending.after], rfl⟩
  refine meets_read (fun _ => ()) (fun _ => rfl) nothing fun t₁ rely₁ holds₁ => ?_
  intro t₂ rely₂ holds₂
  have fresh₂ := rely₂.fresh (rely₁.fresh fresh)
  have unused : ∀ r ∈ t₂.channels, r.id ≠ row.id := (Request.id_of_founds founds).symm ▸ fresh₂
  have absent₂ : ∀ k, (calls i).key = some k → kept k → ∀ c, ¬ t₂.Has k c := fun k own keep =>
    rely₂.absent k own keep (later .begin t₁ [] k own keep).1
      (rely₁.absent k own keep (guarded k own keep).1 (absent k own keep))
  have view : engine.applyAll (a.after engine .begin t₁ []).writes t₂ = t₂ := by
    simp [Pending.after, nothing]
  rw [view]
  refine ⟨fun refused sound => ?_, fun r ws executed => ?_⟩
  · have creator := (sound.founders founds).1
    rw [← holds₂.accounts] at creator
    exact exec_insertChannel.1.mp refused (creatable_iff.mpr ⟨creator, unused⟩)
  · obtain ⟨inserted, rfl⟩ := (exec_insertChannel.2 r ws).mp executed
    have creator := (creatable_iff.mp inserted).1
    rw [holds₂.accounts] at creator
    have founds' : (calls i).founds (ids i) = some (row, [] ++ members) := founds
    refine meets_addMembers founds' ?_ fresh₂ creator nofun List.nodup_nil
      (fun k own keep => ?_) absent₂
    · simp [Pending.after, nothing]
    · obtain ⟨-, plain⟩ := guarded k own keep
      cases k with
      | zone => cases plain
      | direct | group => exact ⟨by simp [Guarded, Pending.after], rfl⟩

/-- A lookup that finds nothing guards what it has looked up. -/
theorem guarded_of_lookup {s : Statement} {t' : Tables} {ws : List Write} {k : Key}
    (plain : k.indexed = false) : Guarded (a.after engine s t' ws) k := by
  cases k with
  | zone => cases plain
  | direct | group => simp [Guarded, Pending.after]

theorem meets_createNamed {channelType : ChannelType} {creator : AccountId} {name : String}
    (founds : (calls i).founds (ids i) =
      some (namedRow (ids i) channelType creator name, [creator]))
    (named : isBlank name = true → ¬ (calls i).Sound accounts) (nothing : a.writes = [])
    (fresh : ∀ r ∈ t.channels, r.id ≠ ids i)
    (guarded : ∀ k, (calls i).key = some k → kept k → Guarded a k ∧ k.indexed = false)
    (absent : ∀ k, (calls i).key = some k → kept k → ∀ c, ¬ t.Has k c) :
    (contract accounts ids calls kept distinct).Meets i
      ((ChannelStore.createNamed (ids i) channelType creator name).bind fun c => .pure (some c))
      a t := by
  cases blank : isBlank name with
  | true =>
      have refused : ¬ (calls i).Sound accounts := named blank
      simp only [ChannelStore.createNamed, ensure, blank]
      exact refused
  | false =>
      simp only [ChannelStore.createNamed, ensure, blank]
      exact meets_founding founds nothing fresh guarded absent

theorem meets_createDirect {x y : AccountId} (call : calls i = .createDirect x y)
    (apart : ∀ pair, kept (.direct pair) → ¬ pair.IsDiag)
    (fresh : ∀ r ∈ t.channels, r.id ≠ ids i) :
    (contract accounts ids calls kept distinct).Meets i ((calls i).program (ids i)) {} t := by
  have key : ∀ k, (calls i).key = some k → k = .direct s(x, y) := by
    intro k mine
    rw [call] at mine
    exact (Option.some.inj mine).symm
  rw [call]
  refine meets_read (fun t => t.findDirect x y) (fun _ => rfl) rfl
    fun t₁ rely₁ holds₁ => ?_
  cases found : t₁.findDirect x y with
  | some c =>
      refine meets_found rfl fun k mine keep => ?_
      cases key k mine
      exact has_of_findDirect (holds₁.paired _ keep) (by simpa using apart _ keep) found
  | none =>
      have founds : (calls i).founds (ids i) =
          some ({ id := ids i, channelType := .direct }, [x, y]) := by
        rw [call]
        rfl
      refine meets_founding founds rfl (rely₁.fresh fresh) (fun k mine keep => ?_)
        fun k mine keep c => ?_
      · cases key k mine
        exact ⟨guarded_of_lookup rfl, rfl⟩
      · cases key k mine
        exact not_has_of_findDirect found

theorem meets_findOrCreateNamedChannel {creator : AccountId} {name : String}
    (call : calls i = .findOrCreateNamedChannel creator name)
    (fresh : ∀ r ∈ t.channels, r.id ≠ ids i) :
    (contract accounts ids calls kept distinct).Meets i ((calls i).program (ids i)) {} t := by
  have key : ∀ k, (calls i).key = some k → k = .group name := by
    intro k mine
    rw [call] at mine
    exact (Option.some.inj mine).symm
  rw [call]
  refine meets_read (fun t => t.findNamed name) (fun _ => rfl) rfl
    fun t₁ rely₁ holds₁ => ?_
  cases found : t₁.findNamed name with
  | some c =>
      refine meets_found rfl fun k mine keep => ?_
      cases key k mine
      exact has_of_findNamed found
  | none =>
      refine meets_createNamed (by rw [call]; rfl) (fun blank sound => ?_) rfl (rely₁.fresh fresh)
        (fun k mine keep => ?_) fun k mine keep c => ?_
      · rw [call] at sound
        simp [Request.Sound, blank] at sound
      · cases key k mine
        exact ⟨guarded_of_lookup rfl, rfl⟩
      · cases key k mine
        exact not_has_of_findNamed found

theorem meets_createGuild {creator : AccountId} {name : String}
    (call : calls i = .createGuild creator name) (fresh : ∀ r ∈ t.channels, r.id ≠ ids i) :
    (contract accounts ids calls kept distinct).Meets i ((calls i).program (ids i)) {} t := by
  have keyless : ∀ k, (calls i).key ≠ some k := by
    rw [call]
    exact nofun
  have founds : (calls i).founds (ids i) =
      some (namedRow (ids i) .guild creator name, [creator]) := by
    rw [call]
    rfl
  have named : isBlank name = true → ¬ (calls i).Sound accounts := by
    rw [call]
    exact fun blank sound => by simp [Request.Sound, blank] at sound
  rw [call]
  exact meets_createNamed founds named rfl fresh (fun k mine => absurd mine (keyless k))
    fun k mine => absurd mine (keyless k)

theorem exec_insertZoneChannel {id : ChannelId} {zoneId : Option String} {category name : String}
    {r : Bool} {ws : List Write}
    (executed : engine.exec (.insertZoneChannel id zoneId category name) t = some (r, ws)) :
    (r = true ∧ ws = [.insertChannel (zoneRow id zoneId category name)] ∧
      t.admitsZone id zoneId category = true) ∨
    (r = false ∧ ws = [] ∧ t.admitsZone id zoneId category = false) := by
  have executed : (if t.admitsZone id zoneId category then
      some (true, [Write.insertChannel (zoneRow id zoneId category name)])
      else some (false, [])) = some (r, ws) := executed
  split at executed
  next admits =>
    cases executed
    exact .inl ⟨rfl, rfl, admits⟩
  next conflicts =>
    cases executed
    exact .inr ⟨rfl, rfl, by simpa using conflicts⟩

/-- An insertion into the index is committed under its entry. -/
theorem meets_inserted {zoneId : Option String} {category name : String}
    (call : calls i = .ensureZoneChannel zoneId category name)
    (writes : a.writes = [.insertChannel (zoneRow (ids i) zoneId category name)])
    (locked : Lock.zone zoneId category ∈ a.locks) (fresh : ∀ r ∈ t.channels, r.id ≠ ids i)
    (absent : ∀ c, ¬ t.Has (.zone zoneId category) c) :
    (contract accounts ids calls kept distinct).Meets i (.pure (some (ids i))) a t := by
  intro t' rely holds
  have founds : (calls i).founds (ids i) = some (zoneRow (ids i) zoneId category name, []) := by
    rw [call]
    rfl
  have created : Creates (zoneRow (ids i) zoneId category name) [] t'
      (engine.applyAll a.writes t') := by
    rw [writes]
    exact creates_applyAll (rely.fresh fresh) nofun nofun List.nodup_nil
  refine .inr (.inl ⟨_, [], founds, List.nodup_nil, rfl, created, fun k mine keep => ?_⟩)
  rw [call] at mine
  cases Option.some.inj mine
  refine ⟨locked, rely.absent _ ?_ keep locked absent⟩
  rw [call]
  rfl

theorem meets_ensureZoneChannel {zoneId : Option String} {category name : String}
    (call : calls i = .ensureZoneChannel zoneId category name)
    (fresh : ∀ r ∈ t.channels, r.id ≠ ids i) :
    (contract accounts ids calls kept distinct).Meets i ((calls i).program (ids i)) {} t := by
  have key : ∀ k, (calls i).key = some k → k = .zone zoneId category := by
    intro k mine
    rw [call] at mine
    exact (Option.some.inj mine).symm
  have program : (calls i).program (ids i) =
      (Request.ensureZoneChannel zoneId category name).program (ids i) := by rw [call]
  rw [program]
  refine meets_read (fun t => t.findZoneChannel zoneId category) (fun _ => rfl) rfl
    fun t₁ rely₁ holds₁ => ?_
  have fresh₁ := rely₁.fresh fresh
  cases found : t₁.findZoneChannel zoneId category with
  | some c =>
      refine meets_found rfl fun k mine keep => ?_
      cases key k mine
      exact has_of_findZoneChannel found
  | none =>
      intro t₂ rely₂ holds₂
      have fresh₂ := rely₂.fresh fresh₁
      refine ⟨fun refused => ?_, fun r ws executed => ?_⟩
      · have refused : (if t₂.admitsZone (ids i) zoneId category then
            some (true, [Write.insertChannel (zoneRow (ids i) zoneId category name)])
            else some (false, [])) = none := refused
        split at refused <;> cases refused
      · obtain ⟨rfl, rfl, admits⟩ | ⟨rfl, rfl, conflicts⟩ := exec_insertZoneChannel executed
        · -- the row is written, and its entry of the index is held until the commit
          have admits' : t₂.admitsZone (ids i) zoneId category = true := admits
          simp only [admitsZone, Bool.and_eq_true, Option.isNone_iff_eq_none] at admits'
          refine meets_inserted call rfl ?_ fresh₂ fun c => not_has_of_findZoneChannel admits'.1
          have locks : engine.locks (.insertZoneChannel (ids i) zoneId category name) t₂ =
              [.zone zoneId category] := if_pos admits
          exact List.mem_append_left _ (locks.symm ▸ List.mem_singleton_self _)
        · -- the identifier is fresh, so the conflict is with a channel of the key
          have taken : ∃ c, t₂.findZoneChannel zoneId category = some c := by
            have conflicts' : t₂.admitsZone (ids i) zoneId category = false := conflicts
            have unused : t₂.channels.find (ids i) = none := Rows.find_eq_none.mpr fresh₂
            rw [admitsZone, unused] at conflicts'
            exact Option.isSome_iff_exists.mp (by simpa using conflicts')
          obtain ⟨c, taken⟩ := taken
          have there := has_of_findZoneChannel taken
          refine meets_read (fun t => t.findZoneChannel zoneId category) (fun _ => rfl) rfl
            fun t₃ rely₃ holds₃ => ?_
          cases found' : t₃.findZoneChannel zoneId category with
          | some c' =>
              refine meets_found rfl fun k mine keep => ?_
              cases key k mine
              exact has_of_findZoneChannel found'
          | none => exact absurd (rely₃.has _ _ there) (not_has_of_findZoneChannel found')

theorem joinable_ok {found : Option ChannelType} :
    joinable found = .ok () ↔ found = some .group ∨ found = some .guild := by
  cases found with
  | none => simp [joinable, okOrElse, bind, Except.bind]
  | some ty => cases ty <;> simp [joinable, okOrElse, bind, Except.bind, pure, Except.pure, throw,
      throwThe, MonadExceptOf.throw]

/-- A call to join or to leave, once it has found the channel to be one for that. -/
theorem meets_requireJoinable {channel : ChannelId} {p : ChatM Unit}
    (unsound : ¬ (calls i).Sound accounts)
    (h : ∀ a t, a.writes = [] → t.channelType channel = some .group ∨
        t.channelType channel = some .guild →
      (contract accounts ids calls kept distinct).Meets i (p.bind fun _ => .pure none) a t) :
    (contract accounts ids calls kept distinct).Meets i
      (((requireJoinable channel).bind fun _ => p).bind fun _ => .pure none) {} t := by
  refine meets_read (fun t => t.channelType channel) (fun _ => rfl) rfl
    fun t₁ rely₁ holds₁ => ?_
  show (contract accounts ids calls kept distinct).Meets i
    (((Program.ofExcept (joinable (t₁.channelType channel))).bind fun _ => p).bind
      fun _ => .pure none) _ t₁
  cases joins : joinable (t₁.channelType channel) with
  | error err => exact unsound
  | ok u => exact h _ t₁ rfl (joinable_ok.mp joins)

/-- The statement of a call to join or to leave. -/
theorem meets_altering {s : Statement} {failure : Error} {channel : ChannelId}
    (unsound : ¬ (calls i).Sound accounts) (keyless : (calls i).key = none)
    (nothing : a.writes = [])
    (joinable : t.channelType channel = some .group ∨ t.channelType channel = some .guild)
    (alters : ∀ t' t'',
      t''.channelType channel = some .group ∨ t''.channelType channel = some .guild →
        ∀ r ws, engine.exec s t' = some (r, ws) → Alters channel t'' (engine.applyAll ws t'')) :
    (contract accounts ids calls kept distinct).Meets i
      (.statement s failure fun _ => .pure none) a t := by
  intro t₁ rely₁ holds₁
  refine ⟨fun _ => unsound, fun r ws executed t₂ rely₂ _ => .inr (.inr ⟨keyless, channel, ?_⟩)⟩
  rw [nothing, Engine.applyAll_nil] at executed
  have still : t₂.channelType channel = some .group ∨ t₂.channelType channel = some .guild :=
    joinable.imp (fun h => rely₂.types _ _ (rely₁.types _ _ h))
      fun h => rely₂.types _ _ (rely₁.types _ _ h)
  have altered := alters t₁ t₂ still r ws executed
  simpa [Pending.after, nothing] using altered

theorem meets_join {channel : ChannelId} {account : AccountId}
    (call : calls i = .join channel account) :
    (contract accounts ids calls kept distinct).Meets i ((calls i).program (ids i)) {} t := by
  have unsound : ¬ (calls i).Sound accounts := by rw [call]; exact id
  have keyless : (calls i).key = none := by rw [call]; rfl
  rw [call]
  refine meets_requireJoinable unsound fun a t nothing joinable => ?_
  refine meets_altering unsound keyless nothing joinable fun t' t'' still r ws executed => ?_
  have executed : (if (⟨channel, account⟩ : MemberRow) ∈ t'.members then some ((), [])
      else if (t'.insertMember ⟨channel, account⟩).isSome then
        some ((), [Write.insertMember ⟨channel, account⟩]) else none) = some (r, ws) := executed
  split at executed
  · cases executed
    exact ⟨still, rfl, rfl, fun _ _ => Iff.rfl⟩
  · split at executed <;> cases executed
    exact alters_insertMember still

theorem meets_leave {channel : ChannelId} {account : AccountId}
    (call : calls i = .leave channel account) :
    (contract accounts ids calls kept distinct).Meets i ((calls i).program (ids i)) {} t := by
  have unsound : ¬ (calls i).Sound accounts := by rw [call]; exact id
  have keyless : (calls i).key = none := by rw [call]; rfl
  rw [call]
  refine meets_requireJoinable unsound fun a t nothing joinable => ?_
  refine meets_altering unsound keyless nothing joinable fun t' t'' still r ws executed => ?_
  have executed : some ((), [Write.deleteMember ⟨channel, account⟩]) = some (r, ws) := executed
  cases executed
  exact alters_deleteMember still

theorem meets_program (apart : ∀ pair, kept (.direct pair) → ¬ pair.IsDiag)
    (fresh : ∀ r ∈ t.channels, r.id ≠ ids i) :
    (contract accounts ids calls kept distinct).Meets i ((workload ids calls).program i) {} t := by
  show (contract accounts ids calls kept distinct).Meets i ((calls i).program (ids i)) {} t
  cases call : calls i with
  | createDirect => exact call ▸ meets_createDirect call apart fresh
  | findOrCreateNamedChannel => exact call ▸ meets_findOrCreateNamedChannel call fresh
  | createGuild => exact call ▸ meets_createGuild call fresh
  | ensureZoneChannel => exact call ▸ meets_ensureZoneChannel call fresh
  | join => exact call ▸ meets_join call
  | leave => exact call ▸ meets_leave call

end Calls

/-! ### Every schedule -/

/-- The channel is the one of the key. -/
def Tables.Only (t : Tables) (k : Key) (c : ChannelId) : Prop :=
  t.Has k c ∧ ∀ c', t.Has k c' → c' = c

section Schedules

variable {ι : Type} [DecidableEq ι] [Fintype ι] {ids : ι → ChannelId} {calls : ι → Request}
  {db : Tables} {ls : List (Label ι)} {s : ChatState ι} {k : Key} {i j : ι}

/-- If the step commits a new channel of the key, no other call that has looked the key up is in
progress. -/
def InTurn (calls : ι → Request) (k : Key)
    (s : ChatState ι) (l : Label ι) : Prop :=
  (calls l.call).key = some k → ∀ a ∈ commits s l, a.writes ≠ [] →
    ∀ j, j ≠ l.call → (calls j).key = some k → ∀ b ∈ (s.calls j).pending, b.log = []

instance (calls : ι → Request) (k : Key)
    (s : ChatState ι) (l : Label ι) :
    Decidable (InTurn calls k s l) :=
  inferInstanceAs (Decidable ((calls l.call).key = some k → ∀ a ∈ commits s l, a.writes ≠ [] →
    ∀ j, j ≠ l.call → (calls j).key = some k → ∀ b ∈ (s.calls j).pending, b.log = []))

/-- No statement of the call fails. -/
def Unharmed (ls : List (Label ι)) (i : ι) : Prop := ∀ l ∈ ls, l.call = i → l.fails = false

/-- There is one channel of the key at most, every call of the key that returns a channel returns
this one, and a sound call of which no statement fails returns no error. -/
structure Converged (accounts : Finset AccountId) (calls : ι → Request) (k : Key)
    (ls : List (Label ι))
    (s : ChatState ι) : Prop where
  one : ∀ c c', s.committed.Has k c → s.committed.Has k c' → c = c'
  same : ∀ i, (calls i).key = some k → ∀ x, s.calls i = .finished (.ok x) →
    ∃ c, x = some c ∧ s.committed.Only k c
  sound : ∀ i, (calls i).key = some k → (calls i).Sound accounts → Unharmed ls i →
    ∀ err, s.calls i ≠ .finished (.error err)

/-- The rule for one key, with the unique index or without. -/
theorem converged (distinct : Function.Injective ids)
    (fresh : ∀ i, ∀ r ∈ db.channels, r.id ≠ ids i)
    (paired : ∀ pair, k = .direct pair → ¬ pair.IsDiag ∧ db.Paired)
    (one : ∀ c c', db.Has k c → db.Has k c' → c = c')
    (legal : k.indexed = false → Transition.Admissible (step engine (workload ids calls))
      (InTurn calls k) (start (workload ids calls) db) ls)
    (run : Transition.exec (step engine (workload ids calls)) (start (workload ids calls) db) ls =
      some s) : Converged db.accounts calls k ls s := by
  have calm : Transition.Admissible (step engine (workload ids calls))
      (contract db.accounts ids calls (· = k) distinct).Calm (start (workload ids calls) db)
      ls := by
    cases indexed : k.indexed with
    | true =>
        refine Transition.admissible_of_forall fun s l a _ j _ b _ overtakes => ?_
        obtain ⟨-, -, k', rfl, plain, -⟩ := overtakes
        rw [indexed] at plain
        cases plain
    | false =>
        refine (legal indexed).mono fun s l turn a committing j other b here overtakes => ?_
        obtain ⟨writes, looked, k', rfl, -, mine, theirs⟩ := overtakes
        exact looked (turn mine a committing writes j other theirs b here)
  have holds : Holds db.accounts (· = k) db :=
    ⟨rfl, fun pair same => (paired pair same.symm).2, fun k' same => by subst same; exact one⟩
  have honoured := Contract.honoured_run holds
    (fun i => meets_program (fun pair same => (paired pair same.symm).1) (fresh i)) calm run
  refine ⟨honoured.inv.unique k rfl, fun i mine x at_i => ?_,
    fun i mine sound unharmed err at_i => ?_⟩
  · obtain ⟨c, same, has⟩ := honoured.returned i x at_i k mine rfl
    exact ⟨c, same, has, fun c' has' => honoured.inv.unique k rfl c' c has' has⟩
  · obtain ⟨l, here, own, fails⟩ | refused := honoured.refused i err at_i
    · rw [unharmed l here own] at fails
      cases fails
    · exact refused sound

end Schedules

end WorldZero.Chat
