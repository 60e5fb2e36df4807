import Mathlib.Data.Finset.Basic
import Mathlib.Data.Fintype.Defs
import WorldZero.Common
import WorldZero.Server.ZoneHandoff

/-!
# What a session leaves behind

Any number of connections, from `world.spawn` on: each registers itself in the
process-wide maps, serves messages until its loop ends, and takes itself out of the
maps again. Every map operation is a step of its own, and a schedule interleaves
those of all connections with the UDP task, the trades, the tasks that move
entities between layers and the world actors, which perform the commands that are
sent to them in their own time.

The loop ends in two ways. A `break` leads to the cleanup; an error propagated by
`?` out of a handler, or out of the registration, returns past it.
-/

namespace WorldZero.Server.Session

open Handoff (Layer)

/-- What a connection is registered under. -/
structure Identity where
  entityId : EntityId
  characterId : CharacterId
  accountId : AccountId
  sessionToken : String
  isBoundRealm : Bool

/-- The steps of the registration, in order. -/
inductive Registration where
  /-- The lease of an open realm, the liveness row of a bound one. -/
  | liveness
  | spawn
  | entityCharacter
  | characterEntity
  | entityAccount
  | accountEntity
  | roles
  | pluginState
  | zoneSession
  | globalSession
  | token
  | inboundRoute
  deriving DecidableEq

/-- The steps of the cleanup, in order. -/
inductive Cleanup where
  | despawn
  | zoneSession
  | globalSession
  | token
  | inboundRoute
  | remote
  | entityCharacter
  | characterEntity
  | entityAccount
  | accountEntity
  | pendingTradeRequest
  | activeTrade
  | releaseLease
  | leaveLiveness
  | updatePosition
  deriving DecidableEq

def Registration.all : List Registration :=
  [.liveness, .spawn, .entityCharacter, .characterEntity, .entityAccount, .accountEntity, .roles,
    .pluginState, .zoneSession, .globalSession, .token, .inboundRoute]

def Cleanup.all : List Cleanup :=
  [.despawn, .zoneSession, .globalSession, .token, .inboundRoute, .remote, .entityCharacter,
    .characterEntity, .entityAccount, .accountEntity, .pendingTradeRequest, .activeTrade,
    .releaseLease, .leaveLiveness, .updatePosition]

/-- The database calls among the steps; an error of the first two is propagated. -/
def Registration.fallible : Registration → Bool
  | .roles | .pluginState => true
  | _ => false

def Cleanup.fallible : Cleanup → Bool
  | .releaseLease | .leaveLiveness | .updatePosition => true
  | _ => false

/-- Where `handle_session` is. -/
inductive Point where
  | joining (rest : List Registration)
  | serving
  | cleaning (rest : List Cleanup)
  /-- The cleanup has been run through. -/
  | returned
  /-- An error has been propagated by `?`. -/
  | failed
  deriving DecidableEq

/-- The commands of a world actor that put an entity in its zone or take it out. -/
inductive WorldCommand where
  | spawn (e : EntityId)
  | despawn (e : EntityId)
  deriving DecidableEq

/-- The two participants of a `TradeSession`. -/
structure Participants where
  entityA : EntityId
  entityB : EntityId
  deriving DecidableEq

def Participants.other (p : Participants) (e : EntityId) : Option EntityId :=
  if e = p.entityA then some p.entityB else if e = p.entityB then some p.entityA else none

/-- The one UDP task, between the sections of a `BindUdp`. -/
inductive UdpPhase (Remote : Type) where
  | idle
  | resolved (remote : Remote) (entityId : EntityId)
  | associated (remote : Remote) (entityId : EntityId)
  deriving DecidableEq

/-- The maps of the process and the two liveness tables. A lease row names its holder;
of a liveness row it is told who has written it last. -/
structure Shared (Remote : Type) where
  spawned : Finset (Layer × EntityId)
  /-- The commands that the actors have not performed, in the order in which they were sent. -/
  commands : List (Layer × WorldCommand)
  sessions : Finset (Layer × EntityId)
  globalSessions : Finset EntityId
  tokenToEntity : String → Option EntityId
  remoteByEntity : EntityId → Option Remote
  entityByRemote : Remote → Option EntityId
  inboundRoutes : Finset EntityId
  entityCharacters : EntityId → Option CharacterId
  characterEntities : CharacterId → Option EntityId
  entityAccounts : EntityId → Option AccountId
  accountEntities : AccountId → Option EntityId
  pendingTradeRequests : EntityId → Option EntityId
  activeTrades : EntityId → Option Participants
  leases : CharacterId → Option EntityId
  liveness : CharacterId → Option EntityId

structure State (ι Remote : Type) where
  shared : Shared Remote
  udp : UdpPhase Remote
  point : ι → Point
  /-- The layer that the connection's task talks to. -/
  zone : ι → Layer

/-- What a tick, a transition or a group move does to an entity in one layer. -/
inductive Handover where
  /-- A tick takes the entity across a link. -/
  | cross
  | spawn
  | despawn
  | enter
  | leave
  deriving DecidableEq

inductive Label (ι Remote : Type) where
  /-- The next step of a registration or a cleanup; a database call may fail. -/
  | advance (c : ι) (fails : Bool)
  | heartbeat (c : ι)
  /-- A handler of the message loop; its error is propagated. -/
  | handle (c : ι) (fails : Bool)
  /-- A group move has ended or a `ZoneChanged` has been handled. -/
  | switch (c : ι) (l : Layer)
  /-- The loop is left by a `break`. -/
  | disconnect (c : ι)
  | tradeRequest (c : ι) (target : EntityId)
  | tradeRequestResponse (c : ι) (accept : Bool)
  /-- The trade of the connection is cancelled or executed. -/
  | endTrade (c : ι)
  | handoff (change : Handover) (l : Layer) (e : EntityId)
  /-- The layer's actor performs its next command. -/
  | act (l : Layer)
  | bindUdp (remote : Remote) (sessionToken : String)
  | continueUdp

variable {ι Remote : Type} [DecidableEq Remote]

namespace Shared

variable (s : Shared Remote) (who : Identity) (l : Layer)

def send (command : WorldCommand) : Shared Remote :=
  { s with commands := s.commands ++ [(l, command)] }

def perform : WorldCommand → Shared Remote
  | .spawn e => { s with spawned := insert (l, e) s.spawned }
  | .despawn e => { s with spawned := s.spawned.erase (l, e) }

def act : Option (Shared Remote) :=
  (s.commands.find? (·.1 = l)).map fun sent =>
    { s with commands := s.commands.eraseP (·.1 = l) }.perform l sent.2

def handoff (at_layer : Layer × EntityId) : Handover → Shared Remote
  | .cross => { s with spawned := s.spawned.erase at_layer }
  | .spawn => s.send at_layer.1 (.spawn at_layer.2)
  | .despawn => s.send at_layer.1 (.despawn at_layer.2)
  | .enter => { s with sessions := insert at_layer s.sessions }
  | .leave => { s with sessions := s.sessions.erase at_layer }

def recordLiveness : Shared Remote :=
  if who.isBoundRealm then
    { s with liveness := Function.update s.liveness who.characterId (some who.entityId) }
  else { s with leases := Function.update s.leases who.characterId (some who.entityId) }

def register : Registration → Shared Remote
  | .liveness => s.recordLiveness who
  | .spawn => s.send l (.spawn who.entityId)
  | .entityCharacter =>
      { s with
        entityCharacters :=
          Function.update s.entityCharacters who.entityId (some who.characterId) }
  | .characterEntity =>
      { s with
        characterEntities :=
          Function.update s.characterEntities who.characterId (some who.entityId) }
  | .entityAccount =>
      { s with
        entityAccounts := Function.update s.entityAccounts who.entityId (some who.accountId) }
  | .accountEntity =>
      { s with
        accountEntities := Function.update s.accountEntities who.accountId (some who.entityId) }
  | .roles | .pluginState => s
  | .zoneSession => { s with sessions := insert (l, who.entityId) s.sessions }
  | .globalSession => { s with globalSessions := insert who.entityId s.globalSessions }
  | .token =>
      { s with
        tokenToEntity := Function.update s.tokenToEntity who.sessionToken (some who.entityId) }
  | .inboundRoute => { s with inboundRoutes := insert who.entityId s.inboundRoutes }

/-- The trade is removed for both participants. -/
def endTrade (e : EntityId) : Shared Remote :=
  match s.activeTrades e with
  | none => s
  | some p =>
      let active := Function.update s.activeTrades e none
      match p.other e with
      | none => { s with activeTrades := active }
      | some other => { s with activeTrades := Function.update active other none }

def clean : Cleanup → Shared Remote
  | .despawn => s.send l (.despawn who.entityId)
  | .zoneSession => { s with sessions := s.sessions.erase (l, who.entityId) }
  | .globalSession => { s with globalSessions := s.globalSessions.erase who.entityId }
  | .token => { s with tokenToEntity := Function.update s.tokenToEntity who.sessionToken none }
  | .inboundRoute => { s with inboundRoutes := s.inboundRoutes.erase who.entityId }
  | .remote =>
      match s.remoteByEntity who.entityId with
      | none => s
      | some remote =>
          { s with
            remoteByEntity := Function.update s.remoteByEntity who.entityId none
            entityByRemote := Function.update s.entityByRemote remote none }
  | .entityCharacter =>
      { s with entityCharacters := Function.update s.entityCharacters who.entityId none }
  | .characterEntity =>
      { s with characterEntities := Function.update s.characterEntities who.characterId none }
  | .entityAccount =>
      { s with entityAccounts := Function.update s.entityAccounts who.entityId none }
  | .accountEntity =>
      { s with accountEntities := Function.update s.accountEntities who.accountId none }
  | .pendingTradeRequest =>
      { s with pendingTradeRequests := Function.update s.pendingTradeRequests who.entityId none }
  | .activeTrade => s.endTrade who.entityId
  | .releaseLease => { s with leases := Function.update s.leases who.characterId none }
  | .leaveLiveness => { s with liveness := Function.update s.liveness who.characterId none }
  | .updatePosition => s

/-- The connection answers the request that is pending for it. -/
def answer (e : EntityId) (accept : Bool) : Shared Remote :=
  match s.pendingTradeRequests e with
  | none => s
  | some requester =>
      let s := { s with pendingTradeRequests := Function.update s.pendingTradeRequests e none }
      if accept then
        { s with
          activeTrades :=
            Function.update (Function.update s.activeTrades requester (some ⟨requester, e⟩)) e
              (some ⟨requester, e⟩) }
      else s

end Shared

namespace State

variable [DecidableEq ι] (who : ι → Identity) (s : State ι Remote)

def goto (c : ι) (point : Point) : State ι Remote :=
  { s with point := Function.update s.point c point }

/-- The next step of the registration or of the cleanup. -/
def advance (c : ι) (fails : Bool) : Option (State ι Remote) :=
  match s.point c with
  | .joining [] => some (s.goto c .serving)
  | .joining (op :: rest) =>
      if fails then if op.fallible then some (s.goto c .failed) else none
      else some { s.goto c (.joining rest) with shared := s.shared.register (who c) (s.zone c) op }
  | .cleaning [] => some (s.goto c .returned)
  | .cleaning (op :: rest) =>
      if fails then if op.fallible then some (s.goto c (.cleaning rest)) else none
      else some { s.goto c (.cleaning rest) with shared := s.shared.clean (who c) (s.zone c) op }
  | .serving | .returned | .failed => none

def continueUdp : Option (State ι Remote) :=
  match s.udp with
  | .idle => none
  | .resolved remote e =>
      some { s with
        udp := .associated remote e
        shared := { s.shared with
          remoteByEntity := Function.update s.shared.remoteByEntity e (some remote) } }
  | .associated remote e =>
      some { s with
        udp := .idle
        shared := { s.shared with
          entityByRemote := Function.update s.shared.entityByRemote remote (some e) } }

end State

/-- A message handler runs while its connection serves messages. -/
def step [DecidableEq ι] (who : ι → Identity) (s : State ι Remote) :
    Label ι Remote → Option (State ι Remote)
  | .advance c fails => s.advance who c fails
  | .heartbeat c =>
      if s.point c = .serving then
        some { s with
          shared := if (who c).isBoundRealm then s.shared.recordLiveness (who c) else s.shared }
      else none
  | .handle c fails =>
      if s.point c = .serving then some (if fails then s.goto c .failed else s) else none
  | .switch c l =>
      if s.point c = .serving then some { s with zone := Function.update s.zone c l } else none
  | .disconnect c =>
      if s.point c = .serving then some (s.goto c (.cleaning Cleanup.all)) else none
  | .tradeRequest c target =>
      if s.point c = .serving ∧ target ≠ (who c).entityId ∧
          (s.shared.entityCharacters target).isSome then
        some { s with shared := { s.shared with
          pendingTradeRequests :=
            Function.update s.shared.pendingTradeRequests target (some (who c).entityId) } }
      else none
  | .tradeRequestResponse c accept =>
      if s.point c = .serving then
        some { s with shared := s.shared.answer (who c).entityId accept }
      else none
  | .endTrade c =>
      if s.point c = .serving then
        some { s with shared := s.shared.endTrade (who c).entityId }
      else none
  | .handoff change l e => some { s with shared := s.shared.handoff (l, e) change }
  | .act l => (s.shared.act l).map fun shared => { s with shared }
  | .bindUdp remote sessionToken =>
      if s.udp = .idle then
        match s.shared.tokenToEntity sessionToken with
        | none => some s
        | some e => some { s with udp := .resolved remote e }
      else none
  | .continueUdp => s.continueUdp

/-- Every connection is about to join the layer that it has been assigned. -/
def start (zone : ι → Layer) : State ι Remote where
  shared :=
    { spawned := ∅
      commands := []
      sessions := ∅
      globalSessions := ∅
      tokenToEntity := fun _ => none
      remoteByEntity := fun _ => none
      entityByRemote := fun _ => none
      inboundRoutes := ∅
      entityCharacters := fun _ => none
      characterEntities := fun _ => none
      entityAccounts := fun _ => none
      accountEntities := fun _ => none
      pendingTradeRequests := fun _ => none
      activeTrades := fun _ => none
      leases := fun _ => none
      liveness := fun _ => none }
  udp := .idle
  point _ := .joining Registration.all
  zone

end WorldZero.Server.Session
