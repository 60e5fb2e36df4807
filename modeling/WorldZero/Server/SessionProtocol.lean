import WorldZero.Gateway.Protocol

/-!
# The session protocol

The messages between a client and the server, the generated protobuf messages that
carry them (`proto/session.proto`), and the conversions in both directions.
-/

namespace WorldZero.Server.SessionProtocol

open Gateway

def WORLD_MESSAGE_TYPE : UInt16 := 200

/-! ### The generated messages -/

namespace Proto

structure Move where (x y : Float) (seq : UInt32) (z : Float)

structure Attack where (targetEntityId statKey : String)

structure UseItem where (itemType : String)

structure InteractNpc where (npcEntityId : String)

structure Ping where (clientSentAt : Int64)

structure JoinGroupLayer where (otherEntityId : String)

structure PartyInvite where (targetEntityId partyType : String)

structure PartyInviteResponse where (accept : Bool)

structure PartyLeave where

structure GuildCreate where (name : String)

structure GuildInvite where (targetEntityId : String)

structure GuildInviteResponse where (accept : Bool)

structure GuildLeave where

structure GuildDisband where

structure GuildKick where (targetEntityId : String)

structure GuildPromote where (targetEntityId rankKey : String)

structure GuildDemote where (targetEntityId rankKey : String)

structure GuildSetMotd where (motd : String)

structure GuildSetTag where (tag : String)

structure CraftItem where (recipeKey : String)

structure DropItem where (itemType : String) (quantity : Int64)

structure MoveItemToSlot where (itemType : String) (slotIndex : Int32)

structure EquipItem where (itemType : String)

structure UnequipItem where (slot : String)

structure TradeRequest where (targetEntityId : String)

structure TradeRequestResponse where (accept : Bool)

structure TradeOfferItem where (itemType : String) (quantity : Int64)

structure TradeOfferCurrency where (currencyKey : String) (amount : Int64)

structure TradeConfirm where

structure TradeCancel where

structure BindUdp where (sessionToken : String)

namespace ClientMessage

inductive Kind where
  | move (message : Move)
  | attack (message : Attack)
  | useItem (message : UseItem)
  | interactNpc (message : InteractNpc)
  | ping (message : Ping)
  | joinGroupLayer (message : JoinGroupLayer)
  | partyInvite (message : PartyInvite)
  | partyInviteResponse (message : PartyInviteResponse)
  | partyLeave (message : PartyLeave)
  | guildCreate (message : GuildCreate)
  | guildInvite (message : GuildInvite)
  | guildInviteResponse (message : GuildInviteResponse)
  | guildLeave (message : GuildLeave)
  | guildDisband (message : GuildDisband)
  | guildKick (message : GuildKick)
  | guildPromote (message : GuildPromote)
  | guildDemote (message : GuildDemote)
  | guildSetMotd (message : GuildSetMotd)
  | guildSetTag (message : GuildSetTag)
  | craftItem (message : CraftItem)
  | dropItem (message : DropItem)
  | moveItemToSlot (message : MoveItemToSlot)
  | equipItem (message : EquipItem)
  | unequipItem (message : UnequipItem)
  | tradeRequest (message : TradeRequest)
  | tradeRequestResponse (message : TradeRequestResponse)
  | tradeOfferItem (message : TradeOfferItem)
  | tradeOfferCurrency (message : TradeOfferCurrency)
  | tradeConfirm (message : TradeConfirm)
  | tradeCancel (message : TradeCancel)
  | bindUdp (message : BindUdp)

end ClientMessage

structure ClientMessage where
  kind : Option ClientMessage.Kind

structure RosterEntry where (entityId entityType : String) (x y z : Float)

structure GuildMember where (entityId rankKey : String)

structure TradeItemOffer where (itemType : String) (quantity : Int64)

structure TradeCurrencyOffer where (currencyKey : String) (amount : Int64)

structure Joined where
  entityId : String
  (x y : Float)
  roster : List RosterEntry
  tick : UInt64
  z : Float
  zoneId : String

structure EntitySpawned where (entityId entityType : String) (x y z : Float)

structure EntityDespawned where (entityId : String)

structure ZoneChanged where
  (zoneId entityId : String)
  (x y : Float)
  roster : List RosterEntry
  tick : UInt64
  z : Float

structure Moved where (entityId : String) (x y : Float) (seq : UInt32) (tick : UInt64) (z : Float)

structure Rejected where (reason : String) (seq : UInt32) (tick : UInt64)

structure Error where (message : String)

structure PluginMessage where (body : String)

structure Pong where (clientSentAt serverTime : Int64)

structure PartyInviteReceived where (fromEntityId : String)

structure PartyInviteDeclined where (byEntityId : String)

structure PartyUpdate where (members : List String)

structure GuildInviteReceived where (fromEntityId : String)

structure GuildInviteDeclined where (byEntityId : String)

structure GuildUpdate where (guildId name motd tag : String) (members : List GuildMember)

structure GuildDisbanded where

structure StatChanged where (statKey : String) (value : Int64)

structure ItemChanged where (itemType : String) (quantity : Int64)

structure CurrencyChanged where (currencyKey : String) (balance : Int64)

structure ItemMoved where (itemType : String) (slotIndex : Option Int32)

structure EquipmentChanged where (slot itemType : String)

structure TradeRequestReceived where (fromEntityId : String)

structure TradeRequestDeclined where (byEntityId : String)

structure TradeStateChanged where
  otherEntityId : String
  yourItems : List TradeItemOffer
  yourCurrency : List TradeCurrencyOffer
  yourConfirmed : Bool
  theirItems : List TradeItemOffer
  theirCurrency : List TradeCurrencyOffer
  theirConfirmed : Bool

structure TradeCancelled where (byEntityId : String)

structure TradeCompleted where

structure UdpBound where

namespace ServerMessage

inductive Kind where
  | joined (message : Joined)
  | entitySpawned (message : EntitySpawned)
  | entityDespawned (message : EntityDespawned)
  | zoneChanged (message : ZoneChanged)
  | moved (message : Moved)
  | rejected (message : Rejected)
  | error (message : Error)
  | pluginMessage (message : PluginMessage)
  | pong (message : Pong)
  | partyInviteReceived (message : PartyInviteReceived)
  | partyInviteDeclined (message : PartyInviteDeclined)
  | partyUpdate (message : PartyUpdate)
  | guildInviteReceived (message : GuildInviteReceived)
  | guildInviteDeclined (message : GuildInviteDeclined)
  | guildUpdate (message : GuildUpdate)
  | guildDisbanded (message : GuildDisbanded)
  | statChanged (message : StatChanged)
  | itemChanged (message : ItemChanged)
  | currencyChanged (message : CurrencyChanged)
  | itemMoved (message : ItemMoved)
  | equipmentChanged (message : EquipmentChanged)
  | tradeRequestReceived (message : TradeRequestReceived)
  | tradeRequestDeclined (message : TradeRequestDeclined)
  | tradeStateChanged (message : TradeStateChanged)
  | tradeCancelled (message : TradeCancelled)
  | tradeCompleted (message : TradeCompleted)
  | udpBound (message : UdpBound)

end ServerMessage

structure ServerMessage where
  kind : Option ServerMessage.Kind

end Proto

/-! ### The messages of a session -/

inductive ClientMessage where
  | move (x y z : Float) (seq : UInt32)
  | ping (clientSentAt : Int64)
  | attack (targetEntityId statKey : String)
  | useItem (itemType : String)
  | interactNpc (npcEntityId : String)
  | joinGroupLayer (otherEntityId : String)
  | partyInvite (targetEntityId partyType : String)
  | partyInviteResponse (accept : Bool)
  | partyLeave
  | guildCreate (name : String)
  | guildInvite (targetEntityId : String)
  | guildInviteResponse (accept : Bool)
  | guildLeave
  | guildDisband
  | guildKick (targetEntityId : String)
  | guildPromote (targetEntityId rankKey : String)
  | guildDemote (targetEntityId rankKey : String)
  | guildSetMotd (motd : String)
  | guildSetTag (tag : String)
  | craftItem (recipeKey : String)
  | dropItem (itemType : String) (quantity : Int64)
  | moveItemToSlot (itemType : String) (slotIndex : Int32)
  | equipItem (itemType : String)
  | unequipItem (slot : String)
  | tradeRequest (targetEntityId : String)
  | tradeRequestResponse (accept : Bool)
  | tradeOfferItem (itemType : String) (quantity : Int64)
  | tradeOfferCurrency (currencyKey : String) (amount : Int64)
  | tradeConfirm
  | tradeCancel
  | bindUdp (sessionToken : String)

structure RosterEntry where (entityId entityType : String) (x y z : Float)

structure GuildMemberEntry where (entityId rankKey : String)

inductive ServerMessage where
  | joined (entityId : String) (x y z : Float) (roster : List RosterEntry) (tick : UInt64)
      (zoneId : String)
  | entitySpawned (entityId entityType : String) (x y z : Float)
  | entityDespawned (entityId : String)
  | zoneChanged (zoneId entityId : String) (x y z : Float) (roster : List RosterEntry)
      (tick : UInt64)
  | moved (entityId : String) (x y z : Float) (seq : UInt32) (tick : UInt64)
  | rejected (reason : String) (seq : UInt32) (tick : UInt64)
  | error (message : String)
  | pluginMessage (body : String)
  | pong (clientSentAt serverTime : Int64)
  | partyInviteReceived (fromEntityId : String)
  | partyInviteDeclined (byEntityId : String)
  | partyUpdate (members : List String)
  | guildInviteReceived (fromEntityId : String)
  | guildInviteDeclined (byEntityId : String)
  | guildUpdate (guildId name motd tag : String) (members : List GuildMemberEntry)
  | guildDisbanded
  | statChanged (statKey : String) (value : Int64)
  | itemChanged (itemType : String) (quantity : Int64)
  | currencyChanged (currencyKey : String) (balance : Int64)
  | itemMoved (itemType : String) (slotIndex : Option Int32)
  | equipmentChanged (slot itemType : String)
  | tradeRequestReceived (fromEntityId : String)
  | tradeRequestDeclined (byEntityId : String)
  | tradeStateChanged (otherEntityId : String) (yourItems yourCurrency : List (String × Int64))
      (yourConfirmed : Bool) (theirItems theirCurrency : List (String × Int64))
      (theirConfirmed : Bool)
  | tradeCancelled (byEntityId : String)
  | tradeCompleted
  | udpBound

/-! ### Conversions -/

def RosterEntry.toProto (entry : RosterEntry) : Proto.RosterEntry :=
  { entityId := entry.entityId, entityType := entry.entityType
    x := entry.x, y := entry.y, z := entry.z }

def RosterEntry.fromProto (entry : Proto.RosterEntry) : RosterEntry :=
  { entityId := entry.entityId, entityType := entry.entityType
    x := entry.x, y := entry.y, z := entry.z }

def GuildMemberEntry.toProto (entry : GuildMemberEntry) : Proto.GuildMember :=
  { entityId := entry.entityId, rankKey := entry.rankKey }

def GuildMemberEntry.fromProto (entry : Proto.GuildMember) : GuildMemberEntry :=
  { entityId := entry.entityId, rankKey := entry.rankKey }

def tradeItemOffers (items : List (String × Int64)) : List Proto.TradeItemOffer :=
  items.map fun (itemType, quantity) => { itemType, quantity }

def tradeCurrencyOffers (currency : List (String × Int64)) : List Proto.TradeCurrencyOffer :=
  currency.map fun (currencyKey, amount) => { currencyKey, amount }

def fromTradeItemOffers (items : List Proto.TradeItemOffer) : List (String × Int64) :=
  items.map fun offer => (offer.itemType, offer.quantity)

def fromTradeCurrencyOffers (currency : List Proto.TradeCurrencyOffer) : List (String × Int64) :=
  currency.map fun offer => (offer.currencyKey, offer.amount)

def noKind : Error := .new "server" "gateway world message has no kind set"

namespace ClientMessage

def kind : ClientMessage → Proto.ClientMessage.Kind
  | .move x y z seq => .move { x, y, z, seq }
  | .ping clientSentAt => .ping { clientSentAt }
  | .attack targetEntityId statKey => .attack { targetEntityId, statKey }
  | .useItem itemType => .useItem { itemType }
  | .interactNpc npcEntityId => .interactNpc { npcEntityId }
  | .joinGroupLayer otherEntityId => .joinGroupLayer { otherEntityId }
  | .partyInvite targetEntityId partyType => .partyInvite { targetEntityId, partyType }
  | .partyInviteResponse accept => .partyInviteResponse { accept }
  | .partyLeave => .partyLeave {}
  | .guildCreate name => .guildCreate { name }
  | .guildInvite targetEntityId => .guildInvite { targetEntityId }
  | .guildInviteResponse accept => .guildInviteResponse { accept }
  | .guildLeave => .guildLeave {}
  | .guildDisband => .guildDisband {}
  | .guildKick targetEntityId => .guildKick { targetEntityId }
  | .guildPromote targetEntityId rankKey => .guildPromote { targetEntityId, rankKey }
  | .guildDemote targetEntityId rankKey => .guildDemote { targetEntityId, rankKey }
  | .guildSetMotd motd => .guildSetMotd { motd }
  | .guildSetTag tag => .guildSetTag { tag }
  | .craftItem recipeKey => .craftItem { recipeKey }
  | .dropItem itemType quantity => .dropItem { itemType, quantity }
  | .moveItemToSlot itemType slotIndex => .moveItemToSlot { itemType, slotIndex }
  | .equipItem itemType => .equipItem { itemType }
  | .unequipItem slot => .unequipItem { slot }
  | .tradeRequest targetEntityId => .tradeRequest { targetEntityId }
  | .tradeRequestResponse accept => .tradeRequestResponse { accept }
  | .tradeOfferItem itemType quantity => .tradeOfferItem { itemType, quantity }
  | .tradeOfferCurrency currencyKey amount => .tradeOfferCurrency { currencyKey, amount }
  | .tradeConfirm => .tradeConfirm {}
  | .tradeCancel => .tradeCancel {}
  | .bindUdp sessionToken => .bindUdp { sessionToken }

/-- `From<&ClientMessage>`. -/
def toProto (message : ClientMessage) : Proto.ClientMessage := { kind := some message.kind }

/-- `TryFrom<proto::ClientMessage>`. -/
def tryFrom (message : Proto.ClientMessage) : Except Error ClientMessage :=
  match message.kind with
  | some (.move { x, y, z, seq }) => .ok (.move x y z seq)
  | some (.ping { clientSentAt }) => .ok (.ping clientSentAt)
  | some (.attack { targetEntityId, statKey }) => .ok (.attack targetEntityId statKey)
  | some (.useItem { itemType }) => .ok (.useItem itemType)
  | some (.interactNpc { npcEntityId }) => .ok (.interactNpc npcEntityId)
  | some (.joinGroupLayer { otherEntityId }) => .ok (.joinGroupLayer otherEntityId)
  | some (.partyInvite { targetEntityId, partyType }) => .ok (.partyInvite targetEntityId partyType)
  | some (.partyInviteResponse { accept }) => .ok (.partyInviteResponse accept)
  | some (.partyLeave {}) => .ok .partyLeave
  | some (.guildCreate { name }) => .ok (.guildCreate name)
  | some (.guildInvite { targetEntityId }) => .ok (.guildInvite targetEntityId)
  | some (.guildInviteResponse { accept }) => .ok (.guildInviteResponse accept)
  | some (.guildLeave {}) => .ok .guildLeave
  | some (.guildDisband {}) => .ok .guildDisband
  | some (.guildKick { targetEntityId }) => .ok (.guildKick targetEntityId)
  | some (.guildPromote { targetEntityId, rankKey }) => .ok (.guildPromote targetEntityId rankKey)
  | some (.guildDemote { targetEntityId, rankKey }) => .ok (.guildDemote targetEntityId rankKey)
  | some (.guildSetMotd { motd }) => .ok (.guildSetMotd motd)
  | some (.guildSetTag { tag }) => .ok (.guildSetTag tag)
  | some (.craftItem { recipeKey }) => .ok (.craftItem recipeKey)
  | some (.dropItem { itemType, quantity }) => .ok (.dropItem itemType quantity)
  | some (.moveItemToSlot { itemType, slotIndex }) => .ok (.moveItemToSlot itemType slotIndex)
  | some (.equipItem { itemType }) => .ok (.equipItem itemType)
  | some (.unequipItem { slot }) => .ok (.unequipItem slot)
  | some (.tradeRequest { targetEntityId }) => .ok (.tradeRequest targetEntityId)
  | some (.tradeRequestResponse { accept }) => .ok (.tradeRequestResponse accept)
  | some (.tradeOfferItem { itemType, quantity }) => .ok (.tradeOfferItem itemType quantity)
  | some (.tradeOfferCurrency { currencyKey, amount }) =>
      .ok (.tradeOfferCurrency currencyKey amount)
  | some (.tradeConfirm {}) => .ok .tradeConfirm
  | some (.tradeCancel {}) => .ok .tradeCancel
  | some (.bindUdp { sessionToken }) => .ok (.bindUdp sessionToken)
  | none => .error noKind

end ClientMessage

namespace ServerMessage

def kind : ServerMessage → Proto.ServerMessage.Kind
  | .joined entityId x y z roster tick zoneId =>
      .joined { entityId, x, y, z, roster := roster.map RosterEntry.toProto, tick, zoneId }
  | .entitySpawned entityId entityType x y z => .entitySpawned { entityId, entityType, x, y, z }
  | .entityDespawned entityId => .entityDespawned { entityId }
  | .zoneChanged zoneId entityId x y z roster tick =>
      .zoneChanged { zoneId, entityId, x, y, z, roster := roster.map RosterEntry.toProto, tick }
  | .moved entityId x y z seq tick => .moved { entityId, x, y, z, seq, tick }
  | .rejected reason seq tick => .rejected { reason, seq, tick }
  | .error message => .error { message }
  | .pluginMessage body => .pluginMessage { body }
  | .pong clientSentAt serverTime => .pong { clientSentAt, serverTime }
  | .partyInviteReceived fromEntityId => .partyInviteReceived { fromEntityId }
  | .partyInviteDeclined byEntityId => .partyInviteDeclined { byEntityId }
  | .partyUpdate members => .partyUpdate { members }
  | .guildInviteReceived fromEntityId => .guildInviteReceived { fromEntityId }
  | .guildInviteDeclined byEntityId => .guildInviteDeclined { byEntityId }
  | .guildUpdate guildId name motd tag members =>
      .guildUpdate { guildId, name, motd, tag, members := members.map GuildMemberEntry.toProto }
  | .guildDisbanded => .guildDisbanded {}
  | .statChanged statKey value => .statChanged { statKey, value }
  | .itemChanged itemType quantity => .itemChanged { itemType, quantity }
  | .currencyChanged currencyKey balance => .currencyChanged { currencyKey, balance }
  | .itemMoved itemType slotIndex => .itemMoved { itemType, slotIndex }
  | .equipmentChanged slot itemType => .equipmentChanged { slot, itemType }
  | .tradeRequestReceived fromEntityId => .tradeRequestReceived { fromEntityId }
  | .tradeRequestDeclined byEntityId => .tradeRequestDeclined { byEntityId }
  | .tradeStateChanged otherEntityId yourItems yourCurrency yourConfirmed
      theirItems theirCurrency theirConfirmed =>
      .tradeStateChanged
        { otherEntityId, yourItems := tradeItemOffers yourItems,
          yourCurrency := tradeCurrencyOffers yourCurrency, yourConfirmed,
          theirItems := tradeItemOffers theirItems,
          theirCurrency := tradeCurrencyOffers theirCurrency, theirConfirmed }
  | .tradeCancelled byEntityId => .tradeCancelled { byEntityId }
  | .tradeCompleted => .tradeCompleted {}
  | .udpBound => .udpBound {}

/-- `From<&ServerMessage>`. -/
def toProto (message : ServerMessage) : Proto.ServerMessage := { kind := some message.kind }

/-- `TryFrom<proto::ServerMessage>`. -/
def tryFrom (message : Proto.ServerMessage) : Except Error ServerMessage :=
  match message.kind with
  | some (.joined { entityId, x, y, z, roster, tick, zoneId }) =>
      .ok (.joined entityId x y z (roster.map RosterEntry.fromProto) tick zoneId)
  | some (.entitySpawned { entityId, entityType, x, y, z }) =>
      .ok (.entitySpawned entityId entityType x y z)
  | some (.entityDespawned { entityId }) => .ok (.entityDespawned entityId)
  | some (.zoneChanged { zoneId, entityId, x, y, z, roster, tick }) =>
      .ok (.zoneChanged zoneId entityId x y z (roster.map RosterEntry.fromProto) tick)
  | some (.moved { entityId, x, y, z, seq, tick }) => .ok (.moved entityId x y z seq tick)
  | some (.rejected { reason, seq, tick }) => .ok (.rejected reason seq tick)
  | some (.error { message }) => .ok (.error message)
  | some (.pluginMessage { body }) => .ok (.pluginMessage body)
  | some (.pong { clientSentAt, serverTime }) => .ok (.pong clientSentAt serverTime)
  | some (.partyInviteReceived { fromEntityId }) => .ok (.partyInviteReceived fromEntityId)
  | some (.partyInviteDeclined { byEntityId }) => .ok (.partyInviteDeclined byEntityId)
  | some (.partyUpdate { members }) => .ok (.partyUpdate members)
  | some (.guildInviteReceived { fromEntityId }) => .ok (.guildInviteReceived fromEntityId)
  | some (.guildInviteDeclined { byEntityId }) => .ok (.guildInviteDeclined byEntityId)
  | some (.guildUpdate { guildId, name, motd, tag, members }) =>
      .ok (.guildUpdate guildId name motd tag (members.map GuildMemberEntry.fromProto))
  | some (.guildDisbanded {}) => .ok .guildDisbanded
  | some (.statChanged { statKey, value }) => .ok (.statChanged statKey value)
  | some (.itemChanged { itemType, quantity }) => .ok (.itemChanged itemType quantity)
  | some (.currencyChanged { currencyKey, balance }) => .ok (.currencyChanged currencyKey balance)
  | some (.itemMoved { itemType, slotIndex }) => .ok (.itemMoved itemType slotIndex)
  | some (.equipmentChanged { slot, itemType }) => .ok (.equipmentChanged slot itemType)
  | some (.tradeRequestReceived { fromEntityId }) => .ok (.tradeRequestReceived fromEntityId)
  | some (.tradeRequestDeclined { byEntityId }) => .ok (.tradeRequestDeclined byEntityId)
  | some (.tradeStateChanged
      { otherEntityId, yourItems, yourCurrency, yourConfirmed, theirItems, theirCurrency,
        theirConfirmed }) =>
      .ok (.tradeStateChanged otherEntityId (fromTradeItemOffers yourItems)
        (fromTradeCurrencyOffers yourCurrency) yourConfirmed (fromTradeItemOffers theirItems)
        (fromTradeCurrencyOffers theirCurrency) theirConfirmed)
  | some (.tradeCancelled { byEntityId }) => .ok (.tradeCancelled byEntityId)
  | some (.tradeCompleted {}) => .ok .tradeCompleted
  | some (.udpBound {}) => .ok .udpBound
  | none => .error noKind

end ServerMessage

/-! ### Envelopes -/

def ClientMessage.protocol : Protocol ClientMessage Proto.ClientMessage :=
  ⟨⟨WORLD_MESSAGE_TYPE, "server", "world"⟩, toProto, tryFrom⟩

def ServerMessage.protocol : Protocol ServerMessage Proto.ServerMessage :=
  ⟨⟨WORLD_MESSAGE_TYPE, "server", "world"⟩, toProto, tryFrom⟩

def ClientMessage.intoEnvelope (prost : Prost Proto.ClientMessage) (message : ClientMessage) :
    Envelope := protocol.intoEnvelope prost message

def ClientMessage.fromEnvelope (prost : Prost Proto.ClientMessage) (envelope : Envelope) :
    Except Error ClientMessage := protocol.fromEnvelope prost envelope

def ServerMessage.intoEnvelope (prost : Prost Proto.ServerMessage) (message : ServerMessage) :
    Envelope := protocol.intoEnvelope prost message

def ServerMessage.fromEnvelope (prost : Prost Proto.ServerMessage) (envelope : Envelope) :
    Except Error ServerMessage := protocol.fromEnvelope prost envelope

/-! ### Round trips -/

@[simp] theorem RosterEntry.fromProto_comp_toProto :
    RosterEntry.fromProto ∘ RosterEntry.toProto = id := rfl

@[simp] theorem GuildMemberEntry.fromProto_comp_toProto :
    GuildMemberEntry.fromProto ∘ GuildMemberEntry.toProto = id := rfl

@[simp] theorem fromTradeItemOffers_tradeItemOffers (items : List (String × Int64)) :
    fromTradeItemOffers (tradeItemOffers items) = items := by
  rw [fromTradeItemOffers, tradeItemOffers, List.map_map]
  exact List.map_id items

@[simp] theorem fromTradeCurrencyOffers_tradeCurrencyOffers (currency : List (String × Int64)) :
    fromTradeCurrencyOffers (tradeCurrencyOffers currency) = currency := by
  rw [fromTradeCurrencyOffers, tradeCurrencyOffers, List.map_map]
  exact List.map_id currency

theorem ClientMessage.tryFrom_toProto (message : ClientMessage) :
    ClientMessage.tryFrom message.toProto = .ok message := by
  cases message <;> rfl

theorem ServerMessage.tryFrom_toProto (message : ServerMessage) :
    ServerMessage.tryFrom message.toProto = .ok message := by
  cases message with
  | joined | zoneChanged | guildUpdate | tradeStateChanged =>
      simp [ServerMessage.tryFrom, ServerMessage.toProto, ServerMessage.kind]
  | _ => rfl

/-- A message survives its envelope in both directions of the protocol. An envelope of another
type is rejected, and so is one whose message has no kind. -/
theorem envelope_round_trip (client : Prost Proto.ClientMessage)
    (server : Prost Proto.ServerMessage) :
    (∀ message : ClientMessage, client.Inverse message.toProto →
      ClientMessage.fromEnvelope client (message.intoEnvelope client) = .ok message) ∧
    (∀ message : ServerMessage, server.Inverse message.toProto →
      ServerMessage.fromEnvelope server (message.intoEnvelope server) = .ok message) ∧
    ∀ envelope : Envelope,
      (envelope.messageType ≠ WORLD_MESSAGE_TYPE ∨
          client.decode envelope.payload = some { kind := none } →
        ∃ e, ClientMessage.fromEnvelope client envelope = .error e) ∧
      (envelope.messageType ≠ WORLD_MESSAGE_TYPE ∨
          server.decode envelope.payload = some { kind := none } →
        ∃ e, ServerMessage.fromEnvelope server envelope = .error e) := by
  refine ⟨fun message inverse => ?_, fun message inverse => ?_, fun envelope => ⟨?_, ?_⟩⟩
  · exact Protocol.fromEnvelope_intoEnvelope inverse message.tryFrom_toProto
  · exact Protocol.fromEnvelope_intoEnvelope inverse message.tryFrom_toProto
  · intro malformed
    exact Protocol.fromEnvelope_of_malformed
      (malformed.imp_right fun kindless => ⟨_, noKind, kindless, rfl⟩)
  · intro malformed
    exact Protocol.fromEnvelope_of_malformed
      (malformed.imp_right fun kindless => ⟨_, noKind, kindless, rfl⟩)

/-! ### A trade in bytes -/

namespace Barter

/-- A field that is a string of less than 128 ASCII characters; an empty one is left out. -/
def text (key : UInt8) (value : String) : Bytes :=
  if value.isEmpty then []
  else key :: UInt8.ofNat value.length :: value.toList.map fun c => UInt8.ofNat c.toNat

/-- A field that is a number of less than 128; zero is left out. -/
def number (key : UInt8) (value : Int64) : Bytes :=
  if value = 0 then [] else [key, value.toUInt64.toUInt8]

/-- A field that is a message of less than 128 bytes. -/
def nested (key fields : Bytes) : Bytes := key ++ UInt8.ofNat fields.length :: fields

def offer (key : UInt8) (type : String) (quantity : Int64) : Bytes :=
  nested [key] (text 0x0A type ++ number 0x10 quantity)

/-- The client's field 7. -/
def partyInvite (message : Proto.PartyInvite) : Bytes :=
  nested [0x3A] (text 0x0A message.targetEntityId ++ text 0x12 message.partyType)

/-- The server's field 20; a slot is written if there is one, and then also slot 0. -/
def itemMoved (message : Proto.ItemMoved) : Bytes :=
  nested [0xA2, 1] (text 0x0A message.itemType ++
    message.slotIndex.elim [] fun slot => [0x10, slot.toUInt32.toUInt8])

/-- The server's field 24. -/
def tradeStateChanged (message : Proto.TradeStateChanged) : Bytes :=
  nested [0xC2, 1] (text 0x0A message.otherEntityId ++
    (message.yourItems.flatMap fun item => offer 0x12 item.itemType item.quantity) ++
    (message.yourCurrency.flatMap fun coins => offer 0x1A coins.currencyKey coins.amount) ++
    (if message.yourConfirmed then [0x20, 1] else []) ++
    (message.theirItems.flatMap fun item => offer 0x2A item.itemType item.quantity) ++
    (message.theirCurrency.flatMap fun coins => offer 0x32 coins.currencyKey coins.amount) ++
    if message.theirConfirmed then [0x38, 1] else [])

def other : String := "2c5ea4c0-4067-11e9-8bad-9b1deb4d3b7d"

def invites : ClientMessage := .partyInvite other "raid"

def moved : ServerMessage := .itemMoved "sword" (some 0)

def offers : ServerMessage :=
  .tradeStateChanged other [("sword", 1)] [("gold", 25)] true [("bow", 1), ("arrow", 100)] []
    false

/-- The encoding of an invitation, and the decoding of this one. -/
def client : Prost Proto.ClientMessage where
  encodeToVec
    | { kind := some (.partyInvite message) } => partyInvite message
    | _ => []
  decode bytes := if bytes = partyInvite ⟨other, "raid"⟩ then some invites.toProto else none

/-- The encoding of the two messages, and the decoding of these; an empty one has no kind. -/
def server : Prost Proto.ServerMessage where
  encodeToVec
    | { kind := some (.itemMoved message) } => itemMoved message
    | { kind := some (.tradeStateChanged message) } => tradeStateChanged message
    | _ => []
  decode bytes :=
    if bytes = itemMoved ⟨"sword", some 0⟩ then some moved.toProto
    else if bytes = tradeStateChanged ⟨other, [⟨"sword", 1⟩], [⟨"gold", 25⟩], true,
        [⟨"bow", 1⟩, ⟨"arrow", 100⟩], [], false⟩ then some offers.toProto
    else if bytes = [] then some { kind := none }
    else none

theorem offers_and_item_moved :
    ClientMessage.fromEnvelope client (invites.intoEnvelope client) = .ok invites ∧
      ServerMessage.fromEnvelope server (moved.intoEnvelope server) = .ok moved ∧
      ServerMessage.fromEnvelope server (offers.intoEnvelope server) = .ok offers ∧
      ∃ e, ServerMessage.fromEnvelope server { messageType := 200, payload := [] } = .error e := by
  obtain ⟨sent, received, malformed⟩ := envelope_round_trip client server
  refine ⟨sent invites ?_, received moved ?_, received offers ?_,
    (malformed { messageType := 200, payload := [] }).2 (.inr ?_)⟩
  · rfl
  · rfl
  · rfl
  · rfl

end Barter

end WorldZero.Server.SessionProtocol
