import WorldZero.Character.Party
import WorldZero.Guild.Store
import WorldZero.Sql.Faults
import WorldZero.Transition

/-!
# Telling the members of a party or a guild

The party and guild handlers of the session loop. A handler decides whom to tell in one read,
reads what it tells them in another, and pushes it in a third step; every call of a store and
every push is a step, and a schedule interleaves those of any number of sessions. A fault may
befall the call of a step: a read fails, a change fails or its reply is lost. The players stay
connected. What carries no roster is left out: invites, errors, `GuildDisbanded`, the
synchronisation of the chat channel and the group move.
-/

namespace WorldZero.Server.Rosters

open Character.Party (PartyStore engine)
open Guild (GuildStore GuildRow)
open Sql (Fault commitUnder fetchUnder)

deriving instance DecidableEq for GuildRow

/-- `entity_characters`, `entity_accounts` and the maps in the other direction. -/
structure Connected where
  entityCharacters : EntityId → Option CharacterId
  characterEntities : CharacterId → Option EntityId
  entityAccounts : EntityId → Option AccountId
  accountEntities : AccountId → Option EntityId
  characters : ∀ e c, entityCharacters e = some c ↔ characterEntities c = some e
  accounts : ∀ e a, entityAccounts e = some a ↔ accountEntities a = some e

structure SessionDeps where
  partyStore : PartyStore
  guildStore : GuildStore
  connected : Connected
  /-- The columns of `guilds` that no handler here writes. -/
  motd : GuildId → Option String
  tag : GuildId → Option String

/-- What a step of a handler leaves: the tables, what the handler does next, and a message. -/
structure Turn (T Φ M : Type) where
  tables : T
  next : Option Φ
  sent : Option (EntityId × M)

/-! ### Parties -/

/-- The `members` of a `PartyUpdate`. -/
abbrev PartyUpdate := List EntityId

inductive PartyPhase where
  | accept (inviter invitee : CharacterId) (partyType : String) (id : PartyId)
  /-- The invitee is a member; whom to tell is to be read. -/
  | gather (characterId : CharacterId)
  | leaving (characterId : CharacterId)
  | leave (characterId : CharacterId) (members : List CharacterId)
  /-- `refresh_party_rosters`, with those who are still to be told. -/
  | refresh (interested : List CharacterId)
  | push (entityId : EntityId) (members : PartyUpdate) (interested : List CharacterId)
  deriving DecidableEq

/-- `PartyStore::members_of`. -/
def partyMembers (t : Character.Party.Tables) (characterId : CharacterId) :
    Except Error (List CharacterId) :=
  (engine.transaction (PartyStore.membersOf characterId) t).1

/-- `PartyStore::members_of` under a fault. -/
def partyMembersUnder (fault : Option Fault) (t : Character.Party.Tables)
    (characterId : CharacterId) : Option (List CharacterId) :=
  (fetchUnder fault (partyMembers t characterId)).bind Except.toOption

/-- A call of the party store that returns, with the tables as it leaves them. -/
def partyCall {α : Type} (p : Character.Party.StoreM α) (t : Character.Party.Tables) :
    Except Error Character.Party.Tables :=
  match engine.transaction p t with
  | (.ok _, t') => .ok t'
  | (.error e, _) => .error e

def PartyPhase.next (deps : SessionDeps) (fault : Option Fault) (t : Character.Party.Tables) :
    PartyPhase → Turn Character.Party.Tables PartyPhase PartyUpdate
  | .accept inviter invitee partyType id =>
      match commitUnder fault t
        (partyCall (deps.partyStore.acceptInvite inviter invitee partyType id) t) with
      | (t', true) => ⟨t', some (.gather invitee), none⟩
      | (t', false) => ⟨t', none, none⟩
  | .gather characterId =>
      let members := (partyMembersUnder fault t characterId).getD []
      ⟨t, some (.refresh (members ++ [characterId])), none⟩
  | .leaving characterId =>
      let members := (partyMembersUnder fault t characterId).getD []
      ⟨t, some (.leave characterId members), none⟩
  | .leave characterId members =>
      match commitUnder fault t (partyCall (PartyStore.leave characterId) t) with
      | (t', true) => ⟨t', some (.refresh (members ++ [characterId])), none⟩
      | (t', false) => ⟨t', none, none⟩
  | .refresh [] => ⟨t, none, none⟩
  | .refresh (characterId :: interested) =>
      match deps.connected.characterEntities characterId,
        partyMembersUnder fault t characterId with
      | some entityId, some members =>
          ⟨t, some (.push entityId (members.filterMap deps.connected.characterEntities) interested),
            none⟩
      | _, _ => ⟨t, some (.refresh interested), none⟩
  | .push entityId members interested => ⟨t, some (.refresh interested), some (entityId, members)⟩

/-! ### Guilds -/

/-- The text of `entity_id` is empty for a member that is not connected. -/
structure GuildMemberEntry where
  entityId : Option EntityId
  rankKey : String
  deriving DecidableEq

/-- The texts of the empty update are empty. -/
structure GuildUpdate where
  guildId : Option GuildId
  name : String
  motd : String
  tag : String
  members : List GuildMemberEntry
  deriving DecidableEq

/-- `info` and `members_of`, if there is a guild to report. -/
abbrev Snapshot := Option (GuildRow × List (AccountId × String))

inductive GuildPhase where
  | accept (inviter invitee : AccountId)
  | kicking (actor target : AccountId)
  | kick (actor target : AccountId) (guildIdBefore : Option GuildId)
  | changeRank (actor target : AccountId) (rankKey : String) (promotes : Bool)
  /-- `refresh_after_guild_change`. -/
  | lookUp (accountId : AccountId)
  | leaving (accountId : AccountId) (disband : Bool)
  | listing (accountId : AccountId) (disband : Bool) (guildIdBefore : GuildId)
  | leave (accountId : AccountId) (disband : Bool) (guildIdBefore : Option GuildId)
    (membersBefore : List AccountId)
  /-- Whether the guild still exists. -/
  | check (guildId : GuildId)
  /-- All members of the guild are to be told. -/
  | gather (guildId : GuildId)
  /-- `refresh_guild_rosters` for a guild. -/
  | info (guildId : GuildId) (interested : List AccountId)
  | members (row : GuildRow) (interested : List AccountId)
  /-- What is told to those who are still to be told. The members of another guild may
  follow, with or without a check whether it exists. -/
  | push (snapshot : Snapshot) (interested : List AccountId) (remaining : Option (GuildId × Bool))

/-- `GuildStore::members_of`. -/
def guildMembers (t : Guild.Tables) (guildId : GuildId) : List (AccountId × String) :=
  (t.members.select fun m => m.guildId = guildId).map fun m => (m.accountId, m.rankKey)

/-- The message of `refresh_guild_rosters`. -/
def guildUpdate (deps : SessionDeps) : Snapshot → GuildUpdate
  | some (info, members) =>
      { guildId := some info.id
        name := info.name
        motd := (deps.motd info.id).getD ""
        tag := (deps.tag info.id).getD ""
        members := members.map fun (accountId, rankKey) =>
          ⟨deps.connected.accountEntities accountId, rankKey⟩ }
  | none => ⟨none, "", "", "", []⟩

section Reads

variable (fault : Option Fault) (t : Guild.Tables)

/-- `guild_of(…).await.ok().flatten()`. -/
def guildOfUnder (accountId : AccountId) : Option GuildId :=
  (fetchUnder fault (t.guildOf accountId)).join

/-- `members_of(…).await.unwrap_or_default()`. -/
def guildMembersUnder (guildId : GuildId) : List (AccountId × String) :=
  (fetchUnder fault (guildMembers t guildId)).getD []

/-- `info(…).await.ok().flatten()`. -/
def infoUnder (guildId : GuildId) : Option GuildRow :=
  (fetchUnder fault (t.guilds.find guildId)).join

end Reads

def GuildPhase.next (deps : SessionDeps) (fault : Option Fault) (t : Guild.Tables) :
    GuildPhase → Turn Guild.Tables GuildPhase GuildUpdate
  | .accept inviter invitee =>
      match commitUnder fault t (deps.guildStore.acceptInvite t inviter invitee) with
      | (t', true) => ⟨t', (t.guildOf inviter).map .gather, none⟩
      | (t', false) => ⟨t', none, none⟩
  | .kicking actor target => ⟨t, some (.kick actor target (guildOfUnder fault t actor)), none⟩
  | .kick actor target guildIdBefore =>
      match commitUnder fault t (deps.guildStore.kick t actor target) with
      | (t', true) => ⟨t', some (.push none [target] (guildIdBefore.map (·, false))), none⟩
      | (t', false) => ⟨t', none, none⟩
  | .changeRank actor target rankKey promotes =>
      match commitUnder fault t (if promotes then deps.guildStore.promote t actor target rankKey
        else deps.guildStore.demote t actor target rankKey) with
      | (t', true) => ⟨t', some (.lookUp actor), none⟩
      | (t', false) => ⟨t', none, none⟩
  | .lookUp accountId => ⟨t, (guildOfUnder fault t accountId).map .gather, none⟩
  | .leaving accountId disband =>
      match guildOfUnder fault t accountId with
      | some guildId => ⟨t, some (.listing accountId disband guildId), none⟩
      | none => ⟨t, some (.leave accountId disband none []), none⟩
  | .listing accountId disband guildIdBefore =>
      ⟨t, some (.leave accountId disband (some guildIdBefore)
        ((guildMembersUnder fault t guildIdBefore).map Prod.fst)), none⟩
  | .leave accountId true _ membersBefore =>
      match commitUnder fault t (deps.guildStore.disband t accountId) with
      | (t', true) => ⟨t', some (.push none membersBefore none), none⟩
      | (t', false) => ⟨t', none, none⟩
  | .leave accountId false guildIdBefore _ =>
      match commitUnder fault t (deps.guildStore.leave t accountId) with
      | (t', true) => ⟨t', some (.push none [accountId] (guildIdBefore.map (·, true))), none⟩
      | (t', false) => ⟨t', none, none⟩
  | .check guildId =>
      ⟨t, if (infoUnder fault t guildId).isSome then some (.gather guildId) else none, none⟩
  | .gather guildId =>
      ⟨t, some (.info guildId ((guildMembersUnder fault t guildId).map Prod.fst)), none⟩
  | .info guildId interested =>
      match infoUnder fault t guildId with
      | some row => ⟨t, some (.members row interested), none⟩
      | none => ⟨t, some (.push none interested none), none⟩
  | .members row interested =>
      ⟨t, some (.push (some (row, guildMembersUnder fault t row.id)) interested none), none⟩
  | .push _ [] remaining =>
      ⟨t, remaining.map fun (guildId, checks) => if checks then .check guildId else .gather guildId,
        none⟩
  | .push snapshot (accountId :: interested) remaining =>
      ⟨t, some (.push snapshot interested remaining),
        (deps.connected.accountEntities accountId).map fun entityId =>
          (entityId, guildUpdate deps snapshot)⟩

/-! ### All sessions -/

inductive Handler where
  | party (phase : PartyPhase)
  | guild (phase : GuildPhase)

/-- A message of a client, with the targets resolved; `id` is the identifier of a party that
is founded. -/
inductive Request where
  | partyInviteResponse (inviter : CharacterId) (partyType : String) (id : PartyId)
  | partyLeave
  | guildInviteResponse (inviter : AccountId)
  | guildLeave
  | guildDisband
  | guildKick (target : AccountId)
  | guildPromote (target : AccountId) (rankKey : String)
  | guildDemote (target : AccountId) (rankKey : String)

def Request.handler (characterId : CharacterId) (accountId : AccountId) : Request → Handler
  | .partyInviteResponse inviter partyType id => .party (.accept inviter characterId partyType id)
  | .partyLeave => .party (.leaving characterId)
  | .guildInviteResponse inviter => .guild (.accept inviter accountId)
  | .guildLeave => .guild (.leaving accountId false)
  | .guildDisband => .guild (.leaving accountId true)
  | .guildKick target => .guild (.kicking accountId target)
  | .guildPromote target rankKey => .guild (.changeRank accountId target rankKey true)
  | .guildDemote target rankKey => .guild (.changeRank accountId target rankKey false)

/-- The party of a player's character and its other members. -/
structure PartyView where
  memberships : List PartyId
  fellows : List CharacterId
  deriving DecidableEq

def memberships (t : Character.Party.Tables) (characterId : CharacterId) : List PartyId :=
  (t.members.filter fun m => m.characterId = characterId).map Character.Party.MemberRow.partyId

def partyView (connected : Connected) (t : Character.Party.Tables) (e : EntityId) : PartyView :=
  match connected.entityCharacters e with
  | some c => ⟨memberships t c, (partyMembers t c).toOption.getD []⟩
  | none => ⟨[], []⟩

/-- The update that reports the other members. -/
def partyUpdate (connected : Connected) (v : PartyView) : PartyUpdate :=
  v.fellows.filterMap connected.characterEntities

/-- The player's guild with its members. -/
def guildView (connected : Connected) (t : Guild.Tables) (e : EntityId) : Snapshot :=
  ((connected.entityAccounts e).bind t.guildOf).bind fun guildId =>
    (t.guilds.find guildId).map fun row => (row, guildMembers t guildId)

/-- Of what is queued for a player, in the order of its delivery, the updates of either kind.
`partyChanged` and `guildChanged` are read by the specifications only: whose party or guild a
handler has changed. -/
structure State where
  party : Character.Party.Tables
  guild : Guild.Tables
  handlers : EntityId → Option Handler
  partyUpdates : EntityId → List PartyUpdate
  guildUpdates : EntityId → List GuildUpdate
  partyChanged : EntityId → Bool
  guildChanged : EntityId → Bool

/-- No handler is underway, and nothing has been sent. -/
def State.start (party : Character.Party.Tables) (guild : Guild.Tables) : State where
  party
  guild
  handlers _ := none
  partyUpdates _ := []
  guildUpdates _ := []
  partyChanged _ := false
  guildChanged _ := false

inductive Label where
  | request (e : EntityId) (request : Request)
  /-- The session's handler takes its next step, and the fault befalls the call of the
  database that the step makes, if any. -/
  | run (e : EntityId) (fault : Option Fault)

/-- The message joins the queue of the player. -/
def deliver {M : Type} (queues : EntityId → List M) : Option (EntityId × M) → EntityId → List M
  | none => queues
  | some (e, m) => Function.update queues e (queues e ++ [m])

/-- A session has one handler at a time, in the name of its own character and account. -/
def step (deps : SessionDeps) (s : State) : Label → Option State
  | .request e request =>
      match s.handlers e, deps.connected.entityCharacters e, deps.connected.entityAccounts e with
      | none, some characterId, some accountId =>
          some { s with
            handlers :=
              Function.update s.handlers e (some (request.handler characterId accountId)) }
      | _, _, _ => none
  | .run e fault =>
      match s.handlers e with
      | none => none
      | some (.party phase) =>
          let turn := phase.next deps fault s.party
          some { s with
            party := turn.tables
            handlers := Function.update s.handlers e (turn.next.map .party)
            partyUpdates := deliver s.partyUpdates turn.sent
            partyChanged := fun e =>
              s.partyChanged e || decide (partyView deps.connected turn.tables e ≠
                partyView deps.connected s.party e) }
      | some (.guild phase) =>
          let turn := phase.next deps fault s.guild
          some { s with
            guild := turn.tables
            handlers := Function.update s.handlers e (turn.next.map .guild)
            guildUpdates := deliver s.guildUpdates turn.sent
            guildChanged := fun e =>
              s.guildChanged e || decide (guildView deps.connected turn.tables e ≠
                guildView deps.connected s.guild e) }

end WorldZero.Server.Rosters
