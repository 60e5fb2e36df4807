import WorldZero.Chat.ChannelCalls

/-!
# One channel for a key

Any number of calls of the channel store at once. Whoever creates a channel under a key has
found none there. For a `zone` channel the unique index makes this last until the channel is
committed; for the others it lasts as long as no other call of the key commits in between.
-/

namespace WorldZero.Chat

open Sql.Transactions Validation
open Sql (Rows)

inductive Key where
  | direct (pair : Sym2 AccountId)
  | group (name : String)
  | zone (zoneId : Option String) (category : String)

/-- Equality of pairs is no matter of their representation, so the instance is not derived. -/
instance : DecidableEq Key
  | .direct p, .direct q => decidable_of_iff (p = q) ⟨congrArg Key.direct, Key.direct.inj⟩
  | .group n, .group n' => decidable_of_iff (n = n') ⟨congrArg Key.group, Key.group.inj⟩
  | .zone z c, .zone z' c' => decidable_of_iff (z = z' ∧ c = c')
      ⟨fun ⟨scope, category⟩ => by rw [scope, category], Key.zone.inj⟩
  | .direct _, .group _ | .direct _, .zone .. | .group _, .direct _ | .group _, .zone ..
  | .zone .., .direct _ | .zone .., .group _ => isFalse nofun

/-- The channel, with these members, is one that a lookup of the key is to find. -/
def ChannelRow.Keyed (row : ChannelRow) (members : AccountId → Prop) : Key → Prop
  | .direct pair => row.channelType = .direct ∧ ∀ a, members a ↔ a ∈ pair
  | .group name => row.channelType = .group ∧ row.name = some name
  | .zone zoneId category =>
      row.channelType = .zone ∧ row.zoneId = zoneId ∧ row.category = some category

namespace Tables

def Has (t : Tables) (k : Key) (c : ChannelId) : Prop :=
  ∃ row ∈ t.channels, row.id = c ∧ row.Keyed (fun a => ⟨c, a⟩ ∈ t.members) k

/-- A `direct` channel is that of two accounts. -/
def Paired (t : Tables) : Prop :=
  ∀ row ∈ t.channels, row.channelType = .direct →
    ∃ pair : Sym2 AccountId, ¬ pair.IsDiag ∧ t.Has (.direct pair) row.id

/-- There is a new channel, with these members. -/
structure Creates (row : ChannelRow) (founders : List AccountId) (t t' : Tables) : Prop where
  fresh : ∀ r ∈ t.channels, r.id ≠ row.id
  accounts : t'.accounts = t.accounts
  channels : ∀ r, r ∈ t'.channels ↔ r ∈ t.channels ∨ r = row
  members : ∀ m, m ∈ t'.members ↔ m ∈ t.members ∨ m.channelId = row.id ∧ m.accountId ∈ founders

/-- At most the members of one channel change, which is one to join and to leave. -/
structure Alters (channel : ChannelId) (t t' : Tables) : Prop where
  joinable : t.channelType channel = some .group ∨ t.channelType channel = some .guild
  accounts : t'.accounts = t.accounts
  channels : t'.channels = t.channels
  members : ∀ m, m.channelId ≠ channel → (m ∈ t'.members ↔ m ∈ t.members)

variable {t t' : Tables} {row r : ChannelRow} {founders : List AccountId} {k : Key}
  {channel c : ChannelId} {a b : AccountId}

theorem notMem_members_of_fresh (fresh : ∀ r ∈ t.channels, r.id ≠ c) : ⟨c, a⟩ ∉ t.members := by
  intro here
  obtain ⟨r, there, same⟩ := t.references _ here
  exact fresh r there same

namespace Creates

variable (created : Creates row founders t t')
include created

theorem mem_members : (⟨row.id, a⟩ : MemberRow) ∈ t'.members ↔ a ∈ founders := by
  rw [created.members, or_iff_right (notMem_members_of_fresh created.fresh)]
  exact and_iff_right rfl

theorem mem_members_of_ne (other : c ≠ row.id) :
    (⟨c, a⟩ : MemberRow) ∈ t'.members ↔ ⟨c, a⟩ ∈ t.members := by
  rw [created.members]
  exact or_iff_left fun new => other new.1

theorem has_iff : t'.Has k c ↔ t.Has k c ∨ c = row.id ∧ row.Keyed (· ∈ founders) k := by
  have new : (fun a => (⟨row.id, a⟩ : MemberRow) ∈ t'.members) = (· ∈ founders) :=
    funext fun a => propext created.mem_members
  have old : ∀ r ∈ t.channels, (fun a => (⟨r.id, a⟩ : MemberRow) ∈ t'.members) =
      fun a => ⟨r.id, a⟩ ∈ t.members := fun r here =>
    funext fun a => propext (created.mem_members_of_ne (created.fresh r here))
  constructor
  · rintro ⟨r, here, rfl, keyed⟩
    obtain there | rfl := (created.channels r).mp here
    · exact .inl ⟨r, there, rfl, old r there ▸ keyed⟩
    · exact .inr ⟨rfl, new ▸ keyed⟩
  · rintro (⟨r, there, rfl, keyed⟩ | ⟨rfl, keyed⟩)
    · exact ⟨r, (created.channels r).mpr (.inl there), rfl, (old r there).symm ▸ keyed⟩
    · exact ⟨row, (created.channels row).mpr (.inr rfl), rfl, new.symm ▸ keyed⟩

theorem channelType {ty : ChannelType} (here : t.channelType c = some ty) :
    t'.channelType c = some ty := by
  obtain ⟨r, there, same, named⟩ := channelType_eq_some.mp here
  exact channelType_eq_some.mpr ⟨r, (created.channels r).mpr (.inl there), same, named⟩

theorem paired (paired : t.Paired) (pair : row.channelType = .direct →
    ∃ pair : Sym2 AccountId, ¬ pair.IsDiag ∧ row.Keyed (· ∈ founders) (.direct pair)) :
    t'.Paired := by
  intro r here direct
  obtain there | rfl := (created.channels r).mp here
  · obtain ⟨p, apart, has⟩ := paired r there direct
    exact ⟨p, apart, created.has_iff.mpr (.inl has)⟩
  · obtain ⟨p, apart, keyed⟩ := pair direct
    exact ⟨p, apart, created.has_iff.mpr (.inr ⟨rfl, keyed⟩)⟩

end Creates

namespace Alters

variable (altered : Alters channel t t')
include altered

theorem channelType_eq : t'.channelType c = t.channelType c := by
  rw [channelType, channelType, altered.channels]

theorem has_iff : t'.Has k c ↔ t.Has k c := by
  unfold Has
  rw [altered.channels]
  refine exists_congr fun r => and_congr_right fun here => and_congr_right ?_
  rintro rfl
  by_cases same : r.id = channel
  · -- no one joins or leaves a channel of a pair
    have open_ : r.channelType = .group ∨ r.channelType = .guild := by
      have type : t.channelType channel = some r.channelType :=
        channelType_eq_some.mpr ⟨r, here, same, rfl⟩
      have joinable := altered.joinable
      rw [type] at joinable
      exact joinable.imp Option.some.inj Option.some.inj
    cases k with
    | direct pair =>
        have closed : r.channelType ≠ .direct := by rintro direct; simp [direct] at open_
        exact iff_of_false (fun keyed => closed keyed.1) fun keyed => closed keyed.1
    | group | zone => exact Iff.rfl
  · have members : (fun a => (⟨r.id, a⟩ : MemberRow) ∈ t'.members) =
        fun a => ⟨r.id, a⟩ ∈ t.members :=
      funext fun a => propext (altered.members ⟨r.id, a⟩ same)
    rw [members]

theorem paired (paired : t.Paired) : t'.Paired := by
  intro r here direct
  obtain ⟨p, apart, has⟩ := paired r (altered.channels ▸ here) direct
  exact ⟨p, apart, altered.has_iff.mpr has⟩

end Alters

/-! ### What a lookup finds -/

theorem mem_of_findDirect (found : t.findDirect a b = some c) :
    ∃ row ∈ t.channels, row.id = c ∧ row.channelType = .direct ∧
      ⟨c, a⟩ ∈ t.members ∧ ⟨c, b⟩ ∈ t.members := by
  obtain ⟨row, first, rfl⟩ := Option.map_eq_some_iff.mp found
  have matching := List.find?_some first
  simp only [Bool.and_eq_true, decide_eq_true_eq, isMember_iff] at matching
  exact ⟨row, List.mem_of_find?_eq_some first, rfl, matching.1.1, matching.1.2, matching.2⟩

theorem has_of_findDirect (paired : t.Paired) (apart : a ≠ b)
    (found : t.findDirect a b = some c) : t.Has (.direct s(a, b)) c := by
  obtain ⟨row, here, rfl, direct, first, second⟩ := mem_of_findDirect found
  obtain ⟨pair, -, row', here', same, keyed⟩ := paired row here direct
  have mine : s(a, b) = pair :=
    ((Sym2.mem_and_mem_iff apart).mp ⟨(keyed.2 a).mp first, (keyed.2 b).mp second⟩).symm
  exact ⟨row', here', same, mine ▸ keyed⟩

theorem not_has_of_findDirect (missing : t.findDirect a b = none) :
    ¬ t.Has (.direct s(a, b)) c := by
  rintro ⟨row, here, rfl, direct, members⟩
  have other := List.find?_eq_none.mp (Option.map_eq_none_iff.mp missing) row here
  simp [direct, isMember_iff, members] at other

theorem has_of_findNamed {name : String} (found : t.findNamed name = some c) :
    t.Has (.group name) c := by
  obtain ⟨row, first, rfl⟩ := Option.map_eq_some_iff.mp found
  have matching := List.find?_some first
  simp only [Bool.and_eq_true, decide_eq_true_eq] at matching
  exact ⟨row, List.mem_of_find?_eq_some first, rfl, matching⟩

theorem not_has_of_findNamed {name : String} (missing : t.findNamed name = none) :
    ¬ t.Has (.group name) c := by
  rintro ⟨row, here, rfl, group, named⟩
  have other := List.find?_eq_none.mp (Option.map_eq_none_iff.mp missing) row here
  simp [group, named] at other

theorem has_of_findZoneChannel {zoneId : Option String} {category : String}
    (found : t.findZoneChannel zoneId category = some c) : t.Has (.zone zoneId category) c := by
  obtain ⟨row, first, rfl⟩ := Option.map_eq_some_iff.mp found
  have matching := List.find?_some first
  simp only [Bool.and_eq_true, decide_eq_true_eq] at matching
  exact ⟨row, List.mem_of_find?_eq_some first, rfl, matching.1.1, matching.1.2, matching.2⟩

theorem not_has_of_findZoneChannel {zoneId : Option String} {category : String}
    (missing : t.findZoneChannel zoneId category = none) : ¬ t.Has (.zone zoneId category) c := by
  rintro ⟨row, here, rfl, zone, scope, named⟩
  have other := List.find?_eq_none.mp (Option.map_eq_none_iff.mp missing) row here
  simp [zone, scope, named] at other

end Tables

end WorldZero.Chat
