import WorldZero.Transition
import WorldZero.Sql.Program
import WorldZero.Sql.Logic
import WorldZero.Sql.ReadCommitted
import WorldZero.Framing
import WorldZero.Common
import WorldZero.Character.Tables
import WorldZero.Character.AttributeSchema
import WorldZero.Character.StatMigration
import WorldZero.Character.Inventory
import WorldZero.Character.Trade
import WorldZero.Character.Concurrency
import WorldZero.Character.CraftingSchema
import WorldZero.Sql.Total
import WorldZero.Sql.Faults
import WorldZero.Character.Crafting
import WorldZero.Server.TradeSession
import WorldZero.Server.TradeAgreement
import WorldZero.Server.TradeOnce
import WorldZero.Lease
import WorldZero.Server.Login
import WorldZero.Server.LeaseExclusion
import WorldZero.Server.LeasedWrites
import WorldZero.Server.LoginTransfer
import WorldZero.Server.ZoneHandoff
import WorldZero.Server.ZonePresence
import WorldZero.Character.Equipment
import WorldZero.Character.FailingExchanges
import WorldZero.Character.EquipConservation
import WorldZero.Server.NpcStats
import WorldZero.Character.Slots
import WorldZero.Character.SlotRuns
import WorldZero.Character.StatBounds
import WorldZero.Server.SessionCleanup
import WorldZero.Server.SessionTrace
import WorldZero.Guild.Schema
import WorldZero.Sql.Rows
import WorldZero.Guild.Store
import WorldZero.Guild.Founder
import WorldZero.RealmDirectory.Database
import WorldZero.RealmDirectory.LoginPolicy
import WorldZero.Transfer.Execute
import WorldZero.Transfer.Gates
import WorldZero.Character.Stacks
import WorldZero.Transfer.InventoryRuns
import WorldZero.Server.LoginWrites
import WorldZero.Server.DeleteCharacter
import WorldZero.Server.BoundLiveness
import WorldZero.Outbox
import WorldZero.Server.WorldActor
import WorldZero.Server.PluginEffects
import WorldZero.Server.PluginState
import WorldZero.Server.PluginStateMap
import WorldZero.Server.PluginStateIsolation
import WorldZero.Server.ZoneRegistry
import WorldZero.Chat.Store
import WorldZero.Server.ChatSession
import WorldZero.Server.GuildChat
import WorldZero.Server.UdpAssociations
import WorldZero.Server.ActiveTrades
import WorldZero.Delivery
import WorldZero.Server.InventoryMessages
import WorldZero.Server.ExchangeMessages
import WorldZero.Server.OtherCharacters
import WorldZero.Server.InventoryView
import WorldZero.Gateway.Envelope
import WorldZero.Server.SessionProtocol
import WorldZero.Sql.Transactions
import WorldZero.Character.Party
import WorldZero.Character.PartyCap
import WorldZero.Character.PartyRuns
import WorldZero.Server.IdentityMaps
import WorldZero.Content.Manifest
import WorldZero.Content.NavMesh
import WorldZero.World.Spatial
import WorldZero.World.Movement
import WorldZero.World.Zone
import WorldZero.World.ZoneRuns
import WorldZero.World.SpeedCap
import WorldZero.RayCasting
import WorldZero.ConvexPolygon
import WorldZero.PolygonInterior
import WorldZero.Content.PointInPolygon
import WorldZero.Content.NavMeshPlane
import WorldZero.World.ConvexZone
import WorldZero.Server.EntryPoint
import WorldZero.World.Bounds
import WorldZero.Server.JoinPosition
import WorldZero.Refresh
import WorldZero.Server.RosterUpdates
import WorldZero.Server.PartyRosters
import WorldZero.Server.GuildRosters
import WorldZero.Server.RosterConvergence
import WorldZero.World.SpatialIndex
import WorldZero.World.Bookkeeping
import WorldZero.World.Collision
import WorldZero.Content.Numbers
import WorldZero.World.LinkCrossing
import WorldZero.World.OversizedStep
import WorldZero.NotANumber
import WorldZero.Content.ManifestNumbers
import WorldZero.Server.ReplicaConvergence
import WorldZero.Ladder
import WorldZero.Character.CurrencySchema
import WorldZero.PluginHost.Manifest
import WorldZero.Chat.GatewayProtocol
import WorldZero.Server.ChatCommands
import WorldZero.Server.CharacterCap
import WorldZero.Sql.Contracts
import WorldZero.Chat.ChannelCalls
import WorldZero.Chat.KeyedChannels
import WorldZero.Chat.ChannelRuns
import WorldZero.Chat.ChannelConvergence
import WorldZero.Sql.Interruptions
import WorldZero.Server.ChatRequests
import WorldZero.Server.TradeViews
import WorldZero.Transfer.OwnRealm
import WorldZero.Server.GuildInvites
import WorldZero.Gateway.Protocol
import WorldZero.Auth.GatewayProtocol
import WorldZero.Server.SelectionProtocols
import WorldZero.Server.ProtocolRoundTrips
import WorldZero.Expiring
import WorldZero.Auth.Accounts
import WorldZero.Auth.Handshake
import WorldZero.ServiceRegistry
import WorldZero.RealmDirectory.Footprint
import WorldZero.Server.Admission
import WorldZero.Server.Connections
import WorldZero.Sandbox
import WorldZero.PluginHost.Runtime
import WorldZero.Server.PluginCallbacks
import WorldZero.Server.Confinement
