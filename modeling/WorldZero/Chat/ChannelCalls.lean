import Mathlib.Data.Sym.Sym2
import WorldZero.Chat.Store
import WorldZero.Sql.Contracts

/-!
# The channel store, statement by statement

The calls of `ChannelStore` and `find_or_create_named_channel`, each a program of statements
between which those of other calls may stand. A channel that is looked up before it is created
has a key: the pair of a `direct` channel, the name of a `group` channel, the scope and the
category of a `zone` channel. Only the last is under a unique index, for which an insertion
waits while another one of the same key is not committed.
-/

namespace WorldZero.Chat

open Validation Sql.Transactions
open Sql (Rows)

/-! ### The statements -/

inductive Statement where
  | begin
  | findDirect (a b : AccountId)
  | findNamed (name : String)
  | findZoneChannel (zoneId : Option String) (category : String)
  | channelType (channelId : ChannelId)
  | insertChannel (c : ChannelRow)
  /-- `ON CONFLICT DO NOTHING`, as the next but one. -/
  | insertZoneChannel (id : ChannelId) (zoneId : Option String) (category name : String)
  | insertMember (m : MemberRow)
  | joinMember (m : MemberRow)
  | deleteMember (m : MemberRow)

/-- Of an insertion of a `zone` channel the result is whether there is a new row. -/
def Statement.Result : Statement → Type
  | .findDirect .. | .findNamed _ | .findZoneChannel .. => Option ChannelId
  | .channelType _ => Option ChannelType
  | .insertZoneChannel .. => Bool
  | .begin | .insertChannel _ | .insertMember _ | .joinMember _ | .deleteMember _ => Unit

inductive Write where
  | insertChannel (c : ChannelRow)
  | insertMember (m : MemberRow)
  | deleteMember (m : MemberRow)
  deriving DecidableEq

def Write.apply (t : Tables) : Write → Tables
  | .insertChannel c => (t.insertChannel c).getD t
  | .insertMember m => (t.insertMember m).getD t
  | .deleteMember m => t.deleteMember m.channelId m.accountId

/-- An entry of the unique index, or of the primary key of the members. -/
inductive Lock where
  | zone (zoneId : Option String) (category : String)
  | member (m : MemberRow)
  deriving DecidableEq

/-- `SELECT id FROM chat_channels WHERE channel_type = 'group' AND name = $1`. -/
def Tables.findNamed (t : Tables) (name : String) : Option ChannelId :=
  (t.channels.rows.find? fun c => c.channelType = .group && c.name = some name).map ChannelRow.id

def zoneRow (id : ChannelId) (zoneId : Option String) (category name : String) : ChannelRow where
  id
  channelType := .zone
  name := some name
  zoneId
  category := some category

/-- No row conflicts with the channel, under the unique index or the primary key. -/
def Tables.admitsZone (t : Tables) (id : ChannelId) (zoneId : Option String) (category : String) :
    Bool :=
  (t.findZoneChannel zoneId category).isNone && (t.channels.find id).isNone

def Statement.exec : (s : Statement) → Tables → Option (s.Result × List Write)
  | .begin, _ => some ((), [])
  | .findDirect a b, t => some (t.findDirect a b, [])
  | .findNamed name, t => some (t.findNamed name, [])
  | .findZoneChannel zoneId category, t => some (t.findZoneChannel zoneId category, [])
  | .channelType channelId, t => some (t.channelType channelId, [])
  | .insertChannel c, t =>
      if (t.insertChannel c).isSome then some ((), [.insertChannel c]) else none
  | .insertZoneChannel id zoneId category name, t =>
      if t.admitsZone id zoneId category then
        some (true, [.insertChannel (zoneRow id zoneId category name)])
      else some (false, [])
  | .insertMember m, t =>
      if (t.insertMember m).isSome then some ((), [.insertMember m]) else none
  | .joinMember m, t =>
      if m ∈ t.members then some ((), [])
      else if (t.insertMember m).isSome then some ((), [.insertMember m]) else none
  | .deleteMember m, _ => some ((), [.deleteMember m])

def Statement.locks : Statement → Tables → List Lock
  | .insertZoneChannel id zoneId category _, t =>
      if t.admitsZone id zoneId category then [.zone zoneId category] else []
  | .insertMember m, t | .joinMember m, t => if m ∈ t.members then [] else [.member m]
  | .deleteMember m, t => if m ∈ t.members then [.member m] else []
  | _, _ => []

def engine : Engine Statement.Result Tables Write Lock where
  exec := Statement.exec
  locks := Statement.locks
  apply w t := w.apply t
  conflicts l l' := l = l'

/-! ### The calls -/

abbrev ChatM := Program Statement.Result Error

namespace ChannelStore

/-- The members that a channel has from the start. -/
def addMembers (id : ChannelId) (failure : Error) : List AccountId → ChatM Unit
  | [] => pure ()
  | account :: rest => do
      let _ ← Program.call (Statement.insertMember ⟨id, account⟩) failure
      addMembers id failure rest

/-- `id` is the fresh identifier of the channel, here and below. -/
def createDirect (id : ChannelId) (a b : AccountId) : ChatM ChannelId := do
  let found : Option ChannelId ← Program.call (Statement.findDirect a b)
    (.wrap "chat" "failed to look up direct channel")
  match found with
  | some existing => pure existing
  | none =>
      let _ ← Program.call Statement.begin (.wrap "chat" "failed to start transaction")
      let _ ← Program.call (Statement.insertChannel { id, channelType := .direct })
        (.wrap "chat" "failed to create direct channel")
      addMembers id (.wrap "chat" "failed to add direct channel member") [a, b]
      pure id

def namedRow (id : ChannelId) (channelType : ChannelType) (creator : AccountId) (name : String) :
    ChannelRow :=
  { id, channelType, name := some name, createdBy := some creator }

def createNamed (id : ChannelId) (channelType : ChannelType) (creator : AccountId)
    (name : String) : ChatM ChannelId := do
  Program.ofExcept (ensure (!isBlank name) (.new "chat" "channel name must not be empty"))
  let _ ← Program.call Statement.begin (.wrap "chat" "failed to start transaction")
  let _ ← Program.call (Statement.insertChannel (namedRow id channelType creator name))
    (.wrap "chat" "failed to create channel")
  addMembers id (.wrap "chat" "failed to add creator as channel member") [creator]
  pure id

def createGroup (id : ChannelId) (creator : AccountId) (name : String) : ChatM ChannelId :=
  createNamed id .group creator name

def createGuild (id : ChannelId) (creator : AccountId) (name : String) : ChatM ChannelId :=
  createNamed id .guild creator name

def findZoneChannel (zoneId : Option String) (category : String) : ChatM (Option ChannelId) :=
  Program.call (Statement.findZoneChannel zoneId category)
    (.wrap "chat" "failed to look up zone channel")

/-- A race has been lost: what the other has created. -/
def findCreated (zoneId : Option String) (category : String) : ChatM ChannelId := do
  match ← findZoneChannel zoneId category with
  | some existing => pure existing
  | none =>
      Program.throw (.new "chat" "zone channel creation raced but no channel was found afterward")

def ensureZoneChannel (id : ChannelId) (zoneId : Option String) (category name : String) :
    ChatM ChannelId := do
  let found ← findZoneChannel zoneId category
  match found with
  | some existing => pure existing
  | none =>
      let created : Bool ← Program.call (Statement.insertZoneChannel id zoneId category name)
        (.wrap "chat" "failed to create zone channel")
      if created then pure id else findCreated zoneId category

/-- What `require_joinable` makes of the channel's type. -/
def joinable (channelType : Option ChannelType) : Except Error Unit := do
  match ← okOrElse channelType (.new "chat" "channel does not exist") with
  | .group | .guild => return ()
  | other => throw (.new "chat"
      s!"cannot join/leave a {other.asStr} channel — membership isn't explicit for this type")

def requireJoinable (channelId : ChannelId) : ChatM Unit := do
  let channelType : Option ChannelType ← Program.call (Statement.channelType channelId)
    (.wrap "chat" "failed to look up channel")
  Program.ofExcept (joinable channelType)

def join (channelId : ChannelId) (accountId : AccountId) : ChatM Unit := do
  requireJoinable channelId
  Program.call (Statement.joinMember ⟨channelId, accountId⟩)
    (.wrap "chat" "failed to join channel")

def leave (channelId : ChannelId) (accountId : AccountId) : ChatM Unit := do
  requireJoinable channelId
  Program.call (Statement.deleteMember ⟨channelId, accountId⟩)
    (.wrap "chat" "failed to leave channel")

end ChannelStore

def findOrCreateNamedChannel (id : ChannelId) (creator : AccountId) (name : String) :
    ChatM ChannelId := do
  let found : Option ChannelId ← Program.call (Statement.findNamed name)
    (.wrap "chat" "failed to look up channel")
  match found with
  | some existing => pure existing
  | none => ChannelStore.createGroup id creator name

inductive Request where
  | createDirect (a b : AccountId)
  | findOrCreateNamedChannel (creator : AccountId) (name : String)
  | createGuild (creator : AccountId) (name : String)
  | ensureZoneChannel (zoneId : Option String) (category name : String)
  | join (channelId : ChannelId) (accountId : AccountId)
  | leave (channelId : ChannelId) (accountId : AccountId)
  deriving DecidableEq

namespace Request

def program (id : ChannelId) : Request → ChatM (Option ChannelId)
  | .createDirect a b => do
      let channel ← ChannelStore.createDirect id a b
      pure (some channel)
  | .findOrCreateNamedChannel creator name => do
      let channel ← Chat.findOrCreateNamedChannel id creator name
      pure (some channel)
  | .createGuild creator name => do
      let channel ← ChannelStore.createGuild id creator name
      pure (some channel)
  | .ensureZoneChannel zoneId category name => do
      let channel ← ChannelStore.ensureZoneChannel id zoneId category name
      pure (some channel)
  | .join channelId accountId => do
      ChannelStore.join channelId accountId
      pure none
  | .leave channelId accountId => do
      ChannelStore.leave channelId accountId
      pure none

/-- The error of a commit, where the last statement is not in a transaction of its own. -/
def commitFailure : Request → Error
  | .createDirect .. => .wrap "chat" "failed to commit direct channel creation"
  | .findOrCreateNamedChannel .. | .createGuild .. =>
      .wrap "chat" "failed to commit channel creation"
  | .ensureZoneChannel .. => .wrap "chat" "failed to create zone channel"
  | .join .. => .wrap "chat" "failed to join channel"
  | .leave .. => .wrap "chat" "failed to leave channel"

end Request

variable {ι : Type}

abbrev ChatState (ι : Type) := State ι Statement.Result Tables Write Lock Error (Option ChannelId)

def workload (ids : ι → ChannelId) (calls : ι → Request) :
    Workload ι Statement.Result Error (Option ChannelId) where
  program i := (calls i).program (ids i)
  commitFailure i := (calls i).commitFailure

end WorldZero.Chat
