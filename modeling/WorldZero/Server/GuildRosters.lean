import WorldZero.Refresh
import WorldZero.Server.RosterUpdates

/-!
# What the members of a guild have been told

A call of the guild store changes what the members of one guild see. The handler that makes
it tells those who are in the guild when it looks, which is after the call, except for the
members of a guild that is disbanded.
-/

namespace WorldZero.Server.Rosters

open Guild (MemberRow Tables)
open Sql (Fault commitUnder commitUnder_cases eq_or_ok_of_commitUnder)

variable {t t' : Tables} {a x : AccountId} {g : GuildId}

/-! ### What a call leaves -/

theorem guildOf_eq_some : t.guildOf a = some g ↔ ∃ rankKey, ⟨g, a, rankKey⟩ ∈ t.members := by
  simp [Tables.guildOf, Tables.membership_eq_some]

theorem mem_guildMembers {rankKey : String} :
    (a, rankKey) ∈ guildMembers t g ↔ ⟨g, a, rankKey⟩ ∈ t.members := by
  simp only [guildMembers, List.mem_map, Sql.Rows.mem_select, decide_eq_true_eq, Prod.mk.injEq]
  constructor
  · rintro ⟨⟨_, _, _⟩, ⟨here, rfl⟩, rfl, rfl⟩
    exact here
  · exact fun here => ⟨_, ⟨here, rfl⟩, rfl, rfl⟩

theorem mem_map_guildMembers : a ∈ (guildMembers t g).map Prod.fst ↔ t.guildOf a = some g := by
  rw [guildOf_eq_some]
  simp [mem_guildMembers]

@[simp] theorem guildOfUnder_none : guildOfUnder none t a = t.guildOf a := rfl

@[simp] theorem guildMembersUnder_none : guildMembersUnder none t g = guildMembers t g := rfl

@[simp] theorem infoUnder_none : infoUnder none t g = t.guilds.find g := rfl

/-- `info` and `members_of` together. -/
def snapshot (t : Tables) (g : GuildId) : Snapshot :=
  (t.guilds.find g).map fun row => (row, guildMembers t g)

/-- The guild of a member exists. -/
theorem exists_snapshot (member : t.guildOf a = some g) :
    ∃ row, t.guilds.find g = some row ∧ row.id = g := by
  obtain ⟨rankKey, here⟩ := guildOf_eq_some.mp member
  obtain ⟨row, there, same⟩ := t.references _ here
  exact ⟨row, Sql.Rows.find_eq_some.mpr ⟨there, same⟩, same⟩

/-- The two tables differ in the rows of one guild only, and no guild is new. -/
structure GuildTouches (g : GuildId) (t t' : Tables) : Prop where
  guilds : ∀ g' ≠ g, t'.guilds.find g' = t.guilds.find g'
  members : ∀ g' ≠ g, guildMembers t' g' = guildMembers t g'
  gone : ∀ g', t.guilds.find g' = none → t'.guilds.find g' = none

theorem GuildTouches.guildOf_iff (touches : GuildTouches g t t') {g' : GuildId} (other : g' ≠ g) :
    t'.guildOf a = some g' ↔ t.guildOf a = some g' := by
  rw [← mem_map_guildMembers, ← mem_map_guildMembers, touches.members g' other]

theorem GuildTouches.of_view_ne (touches : GuildTouches g t t')
    (changed : (t'.guildOf a).bind (snapshot t') ≠ (t.guildOf a).bind (snapshot t)) :
    t.guildOf a = some g ∨ t'.guildOf a = some g := by
  by_contra out
  push Not at out
  refine changed ?_
  have same : t'.guildOf a = t.guildOf a := by
    ext g'
    by_cases here : g' = g
    · subst here
      exact iff_of_false out.2 out.1
    · exact touches.guildOf_iff here
  rw [same]
  cases found : t.guildOf a with
  | none => rfl
  | some g' =>
      have other : g' ≠ g := fun here => out.1 (found.trans (congrArg some here))
      simp [snapshot, touches.guilds g' other, touches.members g' other]

theorem touches_insertMember {m : MemberRow} (inserted : t.insertMember m = some t') :
    GuildTouches m.guildId t t' := by
  obtain ⟨rows, guilds⟩ := Tables.insertMember_rows inserted
  refine ⟨fun g' _ => by rw [guilds], fun g' other => ?_, fun g' gone => by rw [guilds, gone]⟩
  simp [guildMembers, Sql.Rows.select, Sql.Rows.rows_insert rows, other.symm]

theorem touches_deleteMember (t : Tables) (g : GuildId) (a : AccountId) :
    GuildTouches g t (t.deleteMember g a) := by
  refine ⟨fun _ _ => rfl, fun g' other => ?_, fun _ => id⟩
  simp only [guildMembers, Sql.Rows.select, Sql.Rows.delete, Tables.deleteMember,
    List.filter_filter]
  refine congrArg (List.map _) (List.filter_congr fun m _ => ?_)
  grind

theorem touches_updateRank (t : Tables) (rankKey : String) (g : GuildId) (a : AccountId) :
    GuildTouches g t (t.updateRank rankKey g a) := by
  refine ⟨fun _ _ => rfl, fun g' other => ?_, fun _ => id⟩
  simp only [guildMembers, Sql.Rows.select, Sql.Rows.update, Tables.updateRank, List.filter_map,
    List.map_map]
  have same : ∀ m : MemberRow, (decide (m.guildId = g') = true) →
      (if m.guildId = g && m.accountId = a then { m with rankKey } else m) = m := by
    intro m here
    have there : m.guildId ≠ g := fun there => other ((of_decide_eq_true here).symm.trans there)
    simp [there]
  have kept : t.members.rows.filter ((fun m : MemberRow => decide (m.guildId = g')) ∘ fun m =>
      if m.guildId = g && m.accountId = a then { m with rankKey } else m) =
        t.members.rows.filter fun m => m.guildId = g' := by
    refine List.filter_congr fun m _ => ?_
    simp only [Function.comp_apply]
    split <;> rfl
  rw [kept]
  refine List.map_congr_left fun m here => ?_
  simp only [Function.comp_apply, same m (List.mem_filter.mp here).2]

theorem touches_deleteGuild (t : Tables) (g : GuildId) : GuildTouches g t (t.deleteGuild g) := by
  refine ⟨fun g' other => ?_, fun g' other => ?_, fun g' gone => ?_⟩
  · ext row
    simp only [Tables.deleteGuild, Sql.Rows.find_delete, Option.filter_eq_some_iff,
      Bool.not_eq_true', decide_eq_false_iff_not, and_iff_left_iff_imp]
    intro found
    rw [(Sql.Rows.find_eq_some.mp found).2]
    exact other
  · simp only [guildMembers, Sql.Rows.select, Sql.Rows.delete, Tables.deleteGuild,
      List.filter_filter]
    refine congrArg (List.map _) (List.filter_congr fun m _ => ?_)
    grind
  · simp [Tables.deleteGuild, Sql.Rows.find_delete, gone]

variable {g' : GuildId}

theorem guildOf_deleteGuild :
    (t.deleteGuild g).guildOf a = some g' ↔ t.guildOf a = some g' ∧ g' ≠ g := by
  simp [guildOf_eq_some, Tables.mem_deleteGuild]

theorem guildOf_deleteMember :
    (t.deleteMember g x).guildOf a = some g' ↔ t.guildOf a = some g' ∧ ¬ (g' = g ∧ a = x) := by
  simp [guildOf_eq_some, Tables.mem_deleteMember]

theorem guildOf_updateRank {rankKey : String} :
    (t.updateRank rankKey g x).guildOf a = some g' ↔ t.guildOf a = some g' := by
  rw [guildOf_eq_some, guildOf_eq_some]
  constructor
  · rintro ⟨k, here⟩
    obtain ⟨old, there, same⟩ := Tables.mem_updateRank.mp here
    refine ⟨old.rankKey, ?_⟩
    split at same <;> cases same <;> exact there
  · rintro ⟨k, there⟩
    by_cases named : g' = g && a = x
    · exact ⟨rankKey, Tables.mem_updateRank.mpr ⟨_, there, (if_pos named).symm⟩⟩
    · exact ⟨k, Tables.mem_updateRank.mpr ⟨_, there, (if_neg named).symm⟩⟩

theorem guildOf_insertMember {m : MemberRow} (inserted : t.insertMember m = some t') :
    t'.guildOf a = some g' ↔ t.guildOf a = some g' ∨ (g' = m.guildId ∧ a = m.accountId) := by
  simp only [guildOf_eq_some, Tables.mem_insertMember inserted, exists_or]
  refine or_congr_right ⟨?_, ?_⟩
  · rintro ⟨k, rfl⟩
    exact ⟨rfl, rfl⟩
  · rintro ⟨rfl, rfl⟩
    exact ⟨m.rankKey, rfl⟩

/-! ### Who is told -/

/-- The handler is still to read what the player sees, or has read what it still sees. -/
def GuildPhase.Owes (connected : Connected) (t : Tables) (e : EntityId) : GuildPhase → Prop
  | .lookUp c =>
      ∃ a g, connected.accountEntities a = some e ∧ t.guildOf a = some g ∧ t.guildOf c = some g
  | .check g | .gather g => ∃ a, connected.accountEntities a = some e ∧ t.guildOf a = some g
  | .info g interested =>
      (∃ a ∈ interested, connected.accountEntities a = some e) ∧
        snapshot t g = guildView connected t e
  | .members row interested =>
      (∃ a ∈ interested, connected.accountEntities a = some e) ∧
        some (row, guildMembers t row.id) = guildView connected t e
  | .push told interested remaining =>
      ((∃ a ∈ interested, connected.accountEntities a = some e) ∧
        told = guildView connected t e) ∨
      ∃ a g checks, connected.accountEntities a = some e ∧ t.guildOf a = some g ∧
        remaining = some (g, checks)
  | _ => False

def guildProtocol (deps : SessionDeps) :
    Refresh.Protocol EntityId Tables Snapshot GuildUpdate (Option Handler) where
  view := guildView deps.connected
  shown := guildUpdate deps
  owes t handler e :=
    match handler with
    | some (.guild phase) => phase.Owes deps.connected t e
    | _ => False

def State.guildBoard (s : State) :
    Refresh.State EntityId EntityId Tables GuildUpdate (Option Handler) where
  store := s.guild
  handlers := s.handlers
  last e := (s.guildUpdates e).getLast?
  changed e := s.guildChanged e = true

/-- Another session's handler owes the player an update, in these tables. -/
def State.GuildOwedBeside (s : State) (connected : Connected) (e : EntityId) (t : Tables)
    (player : EntityId) : Prop :=
  ∃ other ≠ e, ∃ phase, s.handlers other = some (.guild phase) ∧ phase.Owes connected t player

/-- No read fails, and of a change that has been made the handler hears. -/
def GuildPhase.Answered (fault : Option Fault) : GuildPhase → Prop
  | .accept .. | .kick .. | .changeRank .. | .leave .. => fault ≠ some .lost
  | .kicking .. | .lookUp _ | .leaving .. | .listing .. | .check _ | .gather _ | .info ..
  | .members .. => fault = none
  | .push .. => True

/-- When a guild is disbanded, its members are those whom the handler has read, or another
handler has yet to tell the others; and an update that is out of date when it is sent is not
the last one to its player. -/
def GuildPhase.InOrder (deps : SessionDeps) (s : State) (e : EntityId) : GuildPhase → Prop
  | .leave a true _ membersBefore =>
      ∀ t', deps.guildStore.disband s.guild a = .ok t' →
        ∀ x, s.guild.guildOf x = s.guild.guildOf a →
          ∀ player, deps.connected.accountEntities x = some player →
            x ∈ membersBefore ∨ s.GuildOwedBeside deps.connected e t' player
  | .push told (x :: interested) remaining =>
      ∀ player, deps.connected.accountEntities x = some player →
        guildUpdate deps told = guildUpdate deps (guildView deps.connected s.guild player) ∨
        GuildPhase.Owes deps.connected s.guild player (.push told interested remaining) ∨
        s.GuildOwedBeside deps.connected e s.guild player
  | _ => True

/-- What a handler has read of its own account's guild is so, or the account has been put
out of the guild since: nobody else brings it into one. -/
def GuildPhase.Grounded (connected : Connected) (t : Tables) (e : EntityId) : GuildPhase → Prop
  | .accept _ a | .kicking a _ | .leaving a _ => connected.accountEntities a = some e
  | .listing a _ g =>
      connected.accountEntities a = some e ∧ (t.guildOf a = some g ∨ t.guildOf a = none)
  | .kick a _ guildIdBefore | .leave a _ guildIdBefore _ =>
      connected.accountEntities a = some e ∧
        (t.guildOf a = guildIdBefore ∨ t.guildOf a = none)
  | _ => True

/-- Whoever is in a guild has read that it is in that one. -/
theorem some_eq_of_grounded {connected : Connected} {e : EntityId}
    {guildIdBefore : Option GuildId}
    (grounded : connected.accountEntities a = some e ∧
      (t.guildOf a = guildIdBefore ∨ t.guildOf a = none)) (member : t.guildOf a = some g) :
    some g = guildIdBefore := by
  rw [member] at grounded
  exact grounded.2.resolve_right nofun

section View

variable {connected : Connected} {e : EntityId}

theorem guildView_of (here : connected.accountEntities a = some e) :
    guildView connected t e = (t.guildOf a).bind (snapshot t) := by
  rw [guildView, (connected.accounts e a).mpr here]
  rfl

theorem exists_of_guildView_ne
    (changed : guildView connected t' e ≠ guildView connected t e) :
    ∃ a, connected.accountEntities a = some e ∧
      (t'.guildOf a).bind (snapshot t') ≠ (t.guildOf a).bind (snapshot t) := by
  cases found : connected.entityAccounts e with
  | none => simp [guildView, found] at changed
  | some a =>
      have here := (connected.accounts e a).mp found
      rw [guildView_of here, guildView_of here] at changed
      exact ⟨a, here, changed⟩

theorem guildView_of_guildOf (here : connected.accountEntities a = some e)
    (member : t.guildOf a = some g) : guildView connected t e = snapshot t g := by
  rw [guildView_of here, member]
  rfl

/-- What a player sees tells which guild it is in. -/
theorem guildOf_of_guildView (here : connected.accountEntities a = some e)
    (same : guildView connected t' e = guildView connected t e) (member : t.guildOf a = some g) :
    t'.guildOf a = some g ∧ guildMembers t' g = guildMembers t g := by
  obtain ⟨row, found, named⟩ := exists_snapshot member
  have seen : guildView connected t' e = some (row, guildMembers t g) := by
    rw [same, guildView_of_guildOf here member, snapshot, found]
    rfl
  rw [guildView_of here] at seen
  obtain ⟨g', member', shown⟩ := Option.bind_eq_some_iff.mp seen
  obtain ⟨row', found', pair⟩ := Option.map_eq_some_iff.mp shown
  obtain ⟨rfl, members⟩ := Prod.mk.inj pair
  have there : g' = g := by rw [← named, (Sql.Rows.find_eq_some.mp found').2]
  subst there
  exact ⟨member', members⟩

theorem snapshot_of_guildView (here : connected.accountEntities a = some e)
    (same : guildView connected t' e = guildView connected t e)
    (gone : ∀ g, t.guilds.find g = none → t'.guilds.find g = none)
    (read : snapshot t g = guildView connected t e) : snapshot t' g = guildView connected t' e := by
  cases found : t.guilds.find g with
  | none =>
      rw [same, ← read]
      simp [snapshot, found, gone g found]
  | some row =>
      -- The player sees the guild that is read, so it is in that guild, also in the new tables.
      have member : t.guildOf a = some g := by
        rw [snapshot, found, guildView_of here] at read
        obtain ⟨g', member, shown⟩ := Option.bind_eq_some_iff.mp read.symm
        obtain ⟨row', found', pair⟩ := Option.map_eq_some_iff.mp shown
        obtain ⟨rfl, _⟩ := Prod.mk.inj pair
        rw [member, ← (Sql.Rows.find_eq_some.mp found).2, ← (Sql.Rows.find_eq_some.mp found').2]
      exact (guildView_of_guildOf here (guildOf_of_guildView here same member).1).symm

/-- What is owed to a player who sees no change is owed in the new tables. -/
theorem GuildPhase.Owes.congr {phase : GuildPhase}
    (same : guildView connected t' e = guildView connected t e)
    (gone : ∀ g, t.guilds.find g = none → t'.guilds.find g = none)
    (owes : phase.Owes connected t e) : phase.Owes connected t' e := by
  cases phase with
  | lookUp c =>
      obtain ⟨a, g, here, member, actor⟩ := owes
      obtain ⟨member', members⟩ := guildOf_of_guildView here same member
      refine ⟨a, g, here, member', ?_⟩
      rw [← mem_map_guildMembers, members, mem_map_guildMembers]
      exact actor
  | check g =>
      obtain ⟨a, here, member⟩ := owes
      exact ⟨a, here, (guildOf_of_guildView here same member).1⟩
  | gather g =>
      obtain ⟨a, here, member⟩ := owes
      exact ⟨a, here, (guildOf_of_guildView here same member).1⟩
  | info g interested =>
      obtain ⟨⟨a, among, here⟩, read⟩ := owes
      exact ⟨⟨a, among, here⟩, snapshot_of_guildView here same gone read⟩
  | members row interested =>
      obtain ⟨⟨a, among, here⟩, read⟩ := owes
      refine ⟨⟨a, among, here⟩, ?_⟩
      have member : t.guildOf a = some row.id := by
        rw [guildView_of here] at read
        obtain ⟨g', member, shown⟩ := Option.bind_eq_some_iff.mp read.symm
        obtain ⟨row', found', pair⟩ := Option.map_eq_some_iff.mp shown
        obtain ⟨rfl, _⟩ := Prod.mk.inj pair
        rw [member, ← (Sql.Rows.find_eq_some.mp found').2]
      rw [same, (guildOf_of_guildView here same member).2]
      exact read
  | push told interested remaining =>
      obtain ⟨listed, read⟩ | ⟨a, g, checks, here, member, later⟩ := owes
      · exact .inl ⟨listed, read.trans same.symm⟩
      · exact .inr ⟨a, g, checks, here, (guildOf_of_guildView here same member).1, later⟩
  | accept | kicking | kick | changeRank | leaving | listing | leave => exact owes

end View

section Step

variable {deps : SessionDeps} {s s' : State} {e player : EntityId} {phase : GuildPhase}
  {fault : Option Fault}

theorem guildProtocol_congr {handler : Option Handler}
    (same : guildView deps.connected t' e = guildView deps.connected t e)
    (gone : ∀ g, t.guilds.find g = none → t'.guilds.find g = none)
    (owes : (guildProtocol deps).owes t handler e) : (guildProtocol deps).owes t' handler e := by
  match handler with
  | some (.guild phase) => exact GuildPhase.Owes.congr same gone owes
  | some (.party _) | none => exact owes

theorem guildBoard_change (running : s.handlers e = some (.guild phase))
    (taken : step deps s (.run e fault) = some s')
    (silent : (phase.next deps fault s.guild).sent = none) :
    s'.guildBoard = s.guildBoard.change (guildProtocol deps) e
      ((phase.next deps fault s.guild).next.map .guild) (phase.next deps fault s.guild).tables := by
  simp only [step, running, silent, Option.some.injEq] at taken
  subst taken
  simp [State.guildBoard, Refresh.State.change, Refresh.State.advance, deliver, guildProtocol]

theorem guildBoard_advance (running : s.handlers e = some (.guild phase))
    (taken : step deps s (.run e fault) = some s')
    (silent : (phase.next deps fault s.guild).sent = none)
    (still : (phase.next deps fault s.guild).tables = s.guild) :
    s'.guildBoard = s.guildBoard.advance e ((phase.next deps fault s.guild).next.map .guild) := by
  rw [guildBoard_change running taken silent, still]
  exact s.guildBoard.change_store _ _ _

attribute [local simp] step GuildPhase.next in
theorem guildBoard_tell {told : Snapshot} {interested : List AccountId}
    {remaining : Option (GuildId × Bool)}
    (running : s.handlers e = some (.guild (.push told (a :: interested) remaining)))
    (here : deps.connected.accountEntities a = some player)
    (taken : step deps s (.run e fault) = some s') :
    s'.guildBoard = s.guildBoard.tell e (some (.guild (.push told interested remaining))) player
      (guildUpdate deps told) := by
  simp [running, here] at taken
  subst taken
  have last : (fun e => (deliver s.guildUpdates
      (some (player, guildUpdate deps told)) e).getLast?) =
      Function.update (fun e => (s.guildUpdates e).getLast?) player
        (some (guildUpdate deps told)) := by
    funext e
    by_cases here : e = player
    · subst here
      simp [deliver]
    · simp [deliver, here]
  simp [State.guildBoard, Refresh.State.tell, Refresh.State.advance, last]

/-- A handler of a party, or the beginning of any handler, leaves the guilds alone. -/
theorem kept_guild_of_other (kept : Refresh.Kept (guildProtocol deps) s.guildBoard)
    (idle : ∀ phase, s.handlers e ≠ some (.guild phase)) {handler : Option Handler}
    (board : s'.guildBoard = s.guildBoard.advance e handler) :
    Refresh.Kept (guildProtocol deps) s'.guildBoard := by
  rw [board]
  refine kept.advance fun player owes => ?_
  have holds : s.guildBoard.handlers e = s.handlers e := rfl
  rw [holds] at owes
  match busy : s.handlers e with
  | some (.guild phase) => exact absurd busy (idle phase)
  | some (.party _) | none =>
      rw [busy] at owes
      exact owes.elim

/-- Of a guild that a member has been deleted from, the member is told first, the others
afterwards. -/
theorem owes_after_deleteMember {checks : Bool}
    (here : deps.connected.accountEntities a = some player) (member : t.guildOf a = some g) :
    GuildPhase.Owes deps.connected (t.deleteMember g x) player
      (.push none [x] (some (g, checks))) := by
  by_cases own : a = x
  · have out : (t.deleteMember g x).guildOf a = none := by
      refine Option.eq_none_iff_forall_ne_some.mpr fun g' found => ?_
      obtain ⟨before, other⟩ := guildOf_deleteMember.mp found
      rw [member] at before
      cases before
      exact other ⟨rfl, own⟩
    refine .inl ⟨⟨a, by simp [own], here⟩, ?_⟩
    rw [guildView_of here, out]
    rfl
  · exact .inr ⟨a, g, checks, here, guildOf_deleteMember.mpr ⟨member, fun same => own same.2⟩, rfl⟩

theorem guildView_after_deleteGuild (here : deps.connected.accountEntities a = some player)
    (member : t.guildOf a = some g) : guildView deps.connected (t.deleteGuild g) player = none := by
  have out : (t.deleteGuild g).guildOf a = none := by
    refine Option.eq_none_iff_forall_ne_some.mpr fun g' found => ?_
    obtain ⟨before, other⟩ := guildOf_deleteGuild.mp found
    rw [member] at before
    cases before
    exact other rfl
  rw [guildView_of here, out]
  rfl

/-- A call of the store, and what its handler does next. -/
theorem kept_guild_call (kept : Refresh.Kept (guildProtocol deps) s.guildBoard)
    (running : s.handlers e = some (.guild phase))
    (free : ∀ player, ¬ phase.Owes deps.connected s.guild player) {after : Option GuildPhase}
    (turn : phase.next deps fault s.guild = ⟨t', after, none⟩) (touches : GuildTouches g s.guild t')
    (told : ∀ a player, deps.connected.accountEntities a = some player →
      s.guild.guildOf a = some g ∨ t'.guildOf a = some g →
        (∃ next, after = some next ∧ next.Owes deps.connected t' player) ∨
          s.GuildOwedBeside deps.connected e t' player)
    (taken : step deps s (.run e fault) = some s') :
    Refresh.Kept (guildProtocol deps) s'.guildBoard := by
  rw [guildBoard_change running taken (by rw [turn]), turn]
  have holds : s.guildBoard.handlers e = some (.guild phase) := running
  refine kept.change (fun player changed => ?_) ?_ fun player owes => ?_
  · obtain ⟨a, here, differs⟩ := exists_of_guildView_ne changed
    obtain ⟨next, rfl, owes⟩ | ⟨other, apart, phase, busy, owes⟩ :=
      told a player here (touches.of_view_ne differs)
    · refine ⟨e, ?_⟩
      simp only [Refresh.State.change, Refresh.State.advance, Function.update_self]
      exact owes
    · refine ⟨other, ?_⟩
      simp only [Refresh.State.change, Refresh.State.advance, Function.update_of_ne apart]
      exact (congrArg (fun handler => (guildProtocol deps).owes t' handler player) busy).mpr owes
  · intro player same handler owes
    exact guildProtocol_congr same touches.gone owes
  · rw [holds] at owes
    exact free player owes

/-- A step that changes nothing passes on what is owed. -/
theorem kept_guild_advance (kept : Refresh.Kept (guildProtocol deps) s.guildBoard)
    (running : s.handlers e = some (.guild phase)) {after : Option GuildPhase}
    (turn : phase.next deps fault s.guild = ⟨s.guild, after, none⟩)
    (passes : ∀ player, phase.Owes deps.connected s.guild player →
      ∃ next, after = some next ∧ next.Owes deps.connected s.guild player)
    (taken : step deps s (.run e fault) = some s') :
    Refresh.Kept (guildProtocol deps) s'.guildBoard := by
  rw [guildBoard_advance running taken (by rw [turn]) (by rw [turn]), turn]
  have holds : s.guildBoard.handlers e = some (.guild phase) := running
  refine kept.advance fun player owes => ?_
  rw [holds] at owes
  obtain ⟨next, rfl, owes⟩ := passes player owes
  exact owes

/-- A handler that owes nothing goes on, or its call fails. -/
theorem kept_guild_free (kept : Refresh.Kept (guildProtocol deps) s.guildBoard)
    (running : s.handlers e = some (.guild phase))
    (free : ∀ player, ¬ phase.Owes deps.connected s.guild player)
    {after : Option GuildPhase} (turn : phase.next deps fault s.guild = ⟨s.guild, after, none⟩)
    (taken : step deps s (.run e fault) = some s') :
    Refresh.Kept (guildProtocol deps) s'.guildBoard :=
  kept_guild_advance kept running turn (fun player owes => absurd owes (free player)) taken

theorem kept_guild_changeRank {actor target : AccountId} {rankKey : String} {promotes : Bool}
    (kept : Refresh.Kept (guildProtocol deps) s.guildBoard)
    (running : s.handlers e = some (.guild (.changeRank actor target rankKey promotes)))
    (answered : fault ≠ some .lost) (taken : step deps s (.run e fault) = some s') :
    Refresh.Kept (guildProtocol deps) s'.guildBoard := by
  obtain made | ⟨t', result, made⟩ := commitUnder_cases s.guild
    (if promotes then deps.guildStore.promote s.guild actor target rankKey
      else deps.guildStore.demote s.guild actor target rankKey) answered
  · exact kept_guild_free kept running (fun _ => id)
      (by simp only [GuildPhase.next, made]; rfl) taken
  · obtain ⟨g, newRankKey, acting, rfl⟩ : ∃ g newRankKey, s.guild.guildOf actor = some g ∧
        t' = s.guild.updateRank newRankKey g target := by
      split at result
      all_goals
        obtain ⟨newRank, g, k, k', rank, -, acting, -, -, -, -, rfl⟩ :=
          Guild.GuildStore.changeRank_ok.mp result
        exact ⟨g, newRank.key, guildOf_eq_some.mpr ⟨k, acting⟩, rfl⟩
    have turn : GuildPhase.next deps fault s.guild (.changeRank actor target rankKey promotes) =
        ⟨s.guild.updateRank newRankKey g target, some (.lookUp actor), none⟩ := by
      simp only [GuildPhase.next, made]
    refine kept_guild_call kept running (fun _ => id) turn (touches_updateRank ..)
      (fun a player here member => .inl ⟨_, rfl, a, g, here, ?_, ?_⟩) taken
    · exact member.elim guildOf_updateRank.mpr id
    · exact guildOf_updateRank.mpr acting

theorem kept_guild_disband {guildIdBefore : Option GuildId} {membersBefore : List AccountId}
    (kept : Refresh.Kept (guildProtocol deps) s.guildBoard)
    (running : s.handlers e = some (.guild (.leave a true guildIdBefore membersBefore)))
    (answered : fault ≠ some .lost)
    (ordered : GuildPhase.InOrder deps s e (.leave a true guildIdBefore membersBefore))
    (taken : step deps s (.run e fault) = some s') :
    Refresh.Kept (guildProtocol deps) s'.guildBoard := by
  obtain made | ⟨t', result, made⟩ := commitUnder_cases s.guild
    (deps.guildStore.disband s.guild a) answered
  · exact kept_guild_free kept running (fun _ => id)
      (by simp only [GuildPhase.next, made]; rfl) taken
  · obtain ⟨g, founder, rfl⟩ := Guild.GuildStore.disband_ok result
    have founder : s.guild.guildOf a = some g := guildOf_eq_some.mpr ⟨_, founder⟩
    refine kept_guild_call kept running (fun _ => id)
      (by simp only [GuildPhase.next, made]; rfl) (touches_deleteGuild ..)
      (fun x player here member => ?_) taken
    have member : s.guild.guildOf x = some g :=
      member.resolve_right fun later => (guildOf_deleteGuild.mp later).2 rfl
    refine (ordered _ result x (member.trans founder.symm) player here).imp_left
      fun listed => ⟨_, rfl, .inl ⟨⟨x, listed, here⟩, ?_⟩⟩
    exact (guildView_after_deleteGuild here member).symm

theorem kept_guild_leave {guildIdBefore : Option GuildId} {membersBefore : List AccountId}
    (grounded : GuildPhase.Grounded deps.connected s.guild e
      (.leave a false guildIdBefore membersBefore))
    (kept : Refresh.Kept (guildProtocol deps) s.guildBoard)
    (running : s.handlers e = some (.guild (.leave a false guildIdBefore membersBefore)))
    (answered : fault ≠ some .lost)
    (taken : step deps s (.run e fault) = some s') :
    Refresh.Kept (guildProtocol deps) s'.guildBoard := by
  obtain made | ⟨t', result, made⟩ := commitUnder_cases s.guild
    (deps.guildStore.leave s.guild a) answered
  · exact kept_guild_free kept running (fun _ => id)
      (by simp only [GuildPhase.next, made]; rfl) taken
  · obtain ⟨g, k, member, left⟩ := Guild.GuildStore.leave_ok result
    have member : s.guild.guildOf a = some g := guildOf_eq_some.mpr ⟨k, member⟩
    have before := some_eq_of_grounded grounded member
    have turn : GuildPhase.next deps fault s.guild
        (.leave a false guildIdBefore membersBefore) =
          ⟨t', some (.push none [a] (some (g, true))), none⟩ := by
      simp only [GuildPhase.next, made, ← before, Option.map_some]
    obtain ⟨-, rfl, alone⟩ | ⟨-, rfl⟩ := left
    · -- The guild is gone with its last member.
      refine kept_guild_call kept running (fun _ => id) turn (touches_deleteGuild ..)
        (fun x player here fellow => .inl ⟨_, rfl, .inl ?_⟩) taken
      have fellow : s.guild.guildOf x = some g :=
        fellow.resolve_right fun later => (guildOf_deleteGuild.mp later).2 rfl
      obtain ⟨k', row⟩ := guildOf_eq_some.mp fellow
      have same : x = a := alone _ row rfl
      exact ⟨⟨x, by simp [same], here⟩, (guildView_after_deleteGuild here fellow).symm⟩
    · refine kept_guild_call kept running (fun _ => id) turn (touches_deleteMember ..)
        (fun x player here fellow => .inl ⟨_, rfl, ?_⟩) taken
      exact owes_after_deleteMember here
        (fellow.elim id fun later => (guildOf_deleteMember.mp later).1)

theorem kept_guild_push {told : Snapshot} {interested : List AccountId}
    {remaining : Option (GuildId × Bool)} (kept : Refresh.Kept (guildProtocol deps) s.guildBoard)
    (running : s.handlers e = some (.guild (.push told interested remaining)))
    (ordered : GuildPhase.InOrder deps s e (.push told interested remaining))
    (taken : step deps s (.run e fault) = some s') :
    Refresh.Kept (guildProtocol deps) s'.guildBoard := by
  have holds : s.guildBoard.handlers e = some (.guild (.push told interested remaining)) :=
    running
  cases interested with
  | nil =>
      refine kept_guild_advance kept running rfl (fun player owes => ?_) taken
      obtain ⟨⟨a, among, _⟩, _⟩ | ⟨a, g, checks, here, member, rfl⟩ := owes
      · cases among
      · exact ⟨_, rfl, by cases checks <;> exact ⟨a, here, member⟩⟩
  | cons x interested =>
      cases found : deps.connected.accountEntities x with
      | none =>
          refine kept_guild_advance kept running
            (by simp only [GuildPhase.next, found, Option.map_none]; rfl)
            (fun player owes => ⟨_, rfl, ?_⟩) taken
          refine owes.imp_left ?_
          rintro ⟨⟨a, among, here⟩, read⟩
          refine ⟨⟨a, ?_, here⟩, read⟩
          obtain rfl | later := List.mem_cons.mp among
          · rw [found] at here
            cases here
          · exact later
      | some player =>
          rw [guildBoard_tell running found taken]
          refine kept.tell (fun other apart owes => ?_) ?_
          · rw [holds] at owes
            refine owes.imp_left ?_
            rintro ⟨⟨a, among, here⟩, read⟩
            refine ⟨⟨a, ?_, here⟩, read⟩
            obtain rfl | later := List.mem_cons.mp among
            · rw [found] at here
              exact absurd (Option.some.inj here).symm apart
            · exact later
          · refine (ordered player found).imp id fun again => ?_
            obtain owes | ⟨other, apart, phase, busy, owes⟩ := again
            · refine ⟨e, ?_⟩
              simp only [Refresh.State.advance, Function.update_self]
              exact owes
            · refine ⟨other, ?_⟩
              simp only [Refresh.State.advance, Function.update_of_ne apart]
              exact (congrArg (fun handler => (guildProtocol deps).owes s.guild handler
                player) busy).mpr owes

theorem kept_guild_run (grounded : phase.Grounded deps.connected s.guild e)
    (kept : Refresh.Kept (guildProtocol deps) s.guildBoard)
    (running : s.handlers e = some (.guild phase)) (answered : phase.Answered fault)
    (ordered : phase.InOrder deps s e) (taken : step deps s (.run e fault) = some s') :
    Refresh.Kept (guildProtocol deps) s'.guildBoard := by
  cases phase with
  | accept inviter invitee =>
      obtain made | ⟨t', result, made⟩ := commitUnder_cases s.guild
        (deps.guildStore.acceptInvite s.guild inviter invitee) answered
      · exact kept_guild_free kept running (fun _ => id)
          (by simp only [GuildPhase.next, made]; rfl) taken
      · obtain ⟨g, k, rank, inviting, -, -, inserted⟩ := Guild.GuildStore.acceptInvite_ok result
        have inviting : s.guild.guildOf inviter = some g := guildOf_eq_some.mpr ⟨k, inviting⟩
        have turn : GuildPhase.next deps fault s.guild (.accept inviter invitee) =
            ⟨t', some (.gather g), none⟩ := by
          simp only [GuildPhase.next, made, inviting]
          rfl
        refine kept_guild_call kept running (fun _ => id) turn (touches_insertMember inserted)
          (fun a player here member => .inl ⟨_, rfl, a, here, ?_⟩) taken
        exact member.elim (fun before => (guildOf_insertMember inserted).mpr (.inl before)) id
  | kicking actor target =>
      exact kept_guild_free kept running (fun _ => id) rfl taken
  | kick actor target guildIdBefore =>
      obtain made | ⟨t', result, made⟩ := commitUnder_cases s.guild
        (deps.guildStore.kick s.guild actor target) answered
      · exact kept_guild_free kept running (fun _ => id)
          (by simp only [GuildPhase.next, made]; rfl) taken
      · obtain ⟨g, k, k', acting, targeted, -, rfl⟩ := Guild.GuildStore.kick_ok result
        have acting : s.guild.guildOf actor = some g := guildOf_eq_some.mpr ⟨k, acting⟩
        have turn : GuildPhase.next deps fault s.guild (.kick actor target guildIdBefore) =
            ⟨s.guild.deleteMember g target, some (.push none [target] (some (g, false))),
              none⟩ := by
          have before := some_eq_of_grounded grounded acting
          simp only [GuildPhase.next, made, ← before, Option.map_some]
        refine kept_guild_call kept running (fun _ => id) turn (touches_deleteMember ..)
          (fun a player here member => .inl ⟨_, rfl, ?_⟩) taken
        exact owes_after_deleteMember here
          (member.elim id fun later => (guildOf_deleteMember.mp later).1)
  | changeRank actor target rankKey promotes =>
      exact kept_guild_changeRank kept running answered taken
  | lookUp c =>
      obtain rfl := answered
      refine kept_guild_advance kept running rfl (fun player owes => ?_) taken
      obtain ⟨a, g, here, member, actor⟩ := owes
      exact ⟨.gather g, by rw [guildOfUnder_none, actor]; rfl, a, here, member⟩
  | leaving a disband =>
      cases found : guildOfUnder fault s.guild a with
      | none =>
          exact kept_guild_free kept running (fun _ => id)
            (by simp only [GuildPhase.next, found]; rfl) taken
      | some g =>
          exact kept_guild_free kept running (fun _ => id)
            (by simp only [GuildPhase.next, found]; rfl) taken
  | listing a disband g =>
      exact kept_guild_free kept running (fun _ => id) rfl taken
  | leave a disband guildIdBefore membersBefore =>
      cases disband with
      | true => exact kept_guild_disband kept running answered ordered taken
      | false => exact kept_guild_leave grounded kept running answered taken
  | check g =>
      obtain rfl := answered
      refine kept_guild_advance kept running rfl (fun player owes => ?_) taken
      obtain ⟨a, here, member⟩ := owes
      obtain ⟨row, found, -⟩ := exists_snapshot member
      exact ⟨.gather g, by simp only [infoUnder_none, found, Option.isSome_some, if_true],
        a, here, member⟩
  | gather g =>
      obtain rfl := answered
      refine kept_guild_advance kept running rfl (fun player owes => ?_) taken
      obtain ⟨a, here, member⟩ := owes
      exact ⟨_, rfl, ⟨a, mem_map_guildMembers.mpr member, here⟩,
        (guildView_of_guildOf here member).symm⟩
  | info g interested =>
      obtain rfl := answered
      cases found : s.guild.guilds.find g with
      | none =>
          refine kept_guild_advance kept running
            (by simp only [GuildPhase.next, infoUnder_none, found]; rfl)
            (fun player owes => ?_) taken
          obtain ⟨listed, read⟩ := owes
          rw [snapshot, found] at read
          exact ⟨_, rfl, .inl ⟨listed, read⟩⟩
      | some row =>
          refine kept_guild_advance kept running
            (by simp only [GuildPhase.next, infoUnder_none, found]; rfl)
            (fun player owes => ?_) taken
          obtain ⟨listed, read⟩ := owes
          rw [snapshot, found, ← (Sql.Rows.find_eq_some.mp found).2] at read
          exact ⟨_, rfl, listed, read⟩
  | members row interested =>
      obtain rfl := answered
      have turn : GuildPhase.next deps none s.guild (.members row interested) =
          ⟨s.guild, some (.push (some (row, guildMembers s.guild row.id)) interested none), none⟩ :=
        rfl
      exact kept_guild_advance kept running turn (fun player owes => ⟨_, rfl, .inl owes⟩) taken
  | push told interested remaining => exact kept_guild_push kept running ordered taken

end Step

/-! ### What is known of one's own guild -/

section Grounded

variable {deps : SessionDeps} {connected : Connected} {e : EntityId} {phase next : GuildPhase}
  {fault : Option Fault}

/-- A guild that an account is not in afterwards does not matter. -/
theorem eq_or_none_of_leaves {before : Option GuildId}
    (leaves : ∀ g, t'.guildOf a = some g → t.guildOf a = some g)
    (read : t.guildOf a = before ∨ t.guildOf a = none) :
    t'.guildOf a = before ∨ t'.guildOf a = none := by
  cases found : t'.guildOf a with
  | none => exact .inr rfl
  | some g =>
      left
      rw [leaves g found] at read
      exact read.resolve_right nofun

theorem GuildPhase.Grounded.of_leaves (grounded : phase.Grounded connected t e)
    (leaves : ∀ a g, connected.accountEntities a = some e →
      t'.guildOf a = some g → t.guildOf a = some g) : phase.Grounded connected t' e := by
  cases phase with
  | listing a disband g =>
      exact ⟨grounded.1, eq_or_none_of_leaves (leaves a · grounded.1) grounded.2⟩
  | kick a target before =>
      exact ⟨grounded.1, eq_or_none_of_leaves (leaves a · grounded.1) grounded.2⟩
  | leave a disband before membersBefore =>
      exact ⟨grounded.1, eq_or_none_of_leaves (leaves a · grounded.1) grounded.2⟩
  | accept | kicking | leaving | changeRank | lookUp | check | gather | info | members | push =>
      exact grounded

/-- A handler brings no account into a guild but its own. -/
theorem guildOf_of_guildOf_next (grounded : phase.Grounded deps.connected t e)
    (other : deps.connected.accountEntities a ≠ some e)
    (member : (phase.next deps fault t).tables.guildOf a = some g) : t.guildOf a = some g := by
  cases phase with
  | accept inviter invitee =>
      rcases left : commitUnder fault t (deps.guildStore.acceptInvite t inviter invitee)
        with ⟨t', heard⟩
      simp only [GuildPhase.next, left] at member
      have after : t'.guildOf a = some g := by cases heard <;> exact member
      obtain rfl | result := eq_or_ok_of_commitUnder left
      · exact after
      · obtain ⟨g', k, rank, -, -, -, inserted⟩ := Guild.GuildStore.acceptInvite_ok result
        obtain before | ⟨-, rfl⟩ := (guildOf_insertMember inserted).mp after
        · exact before
        · exact absurd grounded other
  | kick actor target guildIdBefore =>
      rcases left : commitUnder fault t (deps.guildStore.kick t actor target) with ⟨t', heard⟩
      simp only [GuildPhase.next, left] at member
      have after : t'.guildOf a = some g := by cases heard <;> exact member
      obtain rfl | result := eq_or_ok_of_commitUnder left
      · exact after
      · obtain ⟨g', k, k', -, -, -, rfl⟩ := Guild.GuildStore.kick_ok result
        exact (guildOf_deleteMember.mp after).1
  | changeRank actor target rankKey promotes =>
      rcases left : commitUnder fault t
        (if promotes then deps.guildStore.promote t actor target rankKey
          else deps.guildStore.demote t actor target rankKey) with ⟨t', heard⟩
      simp only [GuildPhase.next, left] at member
      have after : t'.guildOf a = some g := by cases heard <;> exact member
      obtain rfl | result := eq_or_ok_of_commitUnder left
      · exact after
      · split at result
        all_goals
          obtain ⟨newRank, g', k, k', rank, -, -, -, -, -, -, rfl⟩ :=
            Guild.GuildStore.changeRank_ok.mp result
          exact guildOf_updateRank.mp after
  | leave c disband guildIdBefore membersBefore =>
      cases disband with
      | true =>
          rcases left : commitUnder fault t (deps.guildStore.disband t c) with ⟨t', heard⟩
          simp only [GuildPhase.next, left] at member
          have after : t'.guildOf a = some g := by cases heard <;> exact member
          obtain rfl | result := eq_or_ok_of_commitUnder left
          · exact after
          · obtain ⟨g', -, rfl⟩ := Guild.GuildStore.disband_ok result
            exact (guildOf_deleteGuild.mp after).1
      | false =>
          rcases left : commitUnder fault t (deps.guildStore.leave t c) with ⟨t', heard⟩
          simp only [GuildPhase.next, left] at member
          have after : t'.guildOf a = some g := by cases heard <;> exact member
          obtain rfl | result := eq_or_ok_of_commitUnder left
          · exact after
          · obtain ⟨g', k, -, ⟨-, rfl, -⟩ | ⟨-, rfl⟩⟩ := Guild.GuildStore.leave_ok result
            · exact (guildOf_deleteGuild.mp after).1
            · exact (guildOf_deleteMember.mp after).1
  | leaving c disband =>
      simp only [GuildPhase.next] at member
      split at member <;> exact member
  | info g' interested =>
      simp only [GuildPhase.next] at member
      split at member <;> exact member
  | push told interested remaining => cases interested <;> exact member
  | kicking | lookUp | listing | check | gather | members => exact member

/-- What a handler reads of its own account's guild is so. -/
theorem grounded_next (grounded : phase.Grounded deps.connected t e)
    (answered : phase.Answered fault) (continues : (phase.next deps fault t).next = some next) :
    next.Grounded deps.connected (phase.next deps fault t).tables e := by
  cases phase with
  | accept inviter invitee =>
      simp only [GuildPhase.next] at continues
      split at continues
      · obtain ⟨g', -, rfl⟩ := Option.map_eq_some_iff.mp continues
        trivial
      · cases continues
  | kicking actor target =>
      obtain rfl := answered
      cases continues
      exact ⟨grounded, .inl rfl⟩
  | kick actor target guildIdBefore =>
      simp only [GuildPhase.next] at continues
      split at continues <;> cases continues
      trivial
  | changeRank actor target rankKey promotes =>
      simp only [GuildPhase.next] at continues
      split at continues <;> cases continues
      trivial
  | lookUp c =>
      obtain ⟨g', -, rfl⟩ := Option.map_eq_some_iff.mp continues
      trivial
  | leaving c disband =>
      obtain rfl := answered
      cases found : t.guildOf c with
      | none =>
          simp only [GuildPhase.next, guildOfUnder_none, found, Option.some.injEq] at continues ⊢
          subst continues
          exact ⟨grounded, .inr found⟩
      | some g' =>
          simp only [GuildPhase.next, guildOfUnder_none, found, Option.some.injEq] at continues ⊢
          subst continues
          exact ⟨grounded, .inl found⟩
  | listing c disband g' =>
      cases continues
      exact grounded
  | leave c disband guildIdBefore membersBefore =>
      cases disband
      all_goals
        simp only [GuildPhase.next] at continues
        split at continues <;> cases continues
        trivial
  | check g' =>
      simp only [GuildPhase.next] at continues
      split at continues <;> cases continues
      trivial
  | gather g' =>
      cases continues
      trivial
  | info g' interested =>
      simp only [GuildPhase.next] at continues
      split at continues <;> cases continues <;> trivial
  | members row interested =>
      cases continues
      trivial
  | push told interested remaining =>
      cases interested with
      | cons c interested =>
          cases continues
          trivial
      | nil =>
          obtain ⟨⟨g', checks⟩, -, rfl⟩ := Option.map_eq_some_iff.mp continues
          cases checks <;> trivial

end Grounded

end WorldZero.Server.Rosters
