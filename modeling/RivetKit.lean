import RivetKit.Lib.System
import RivetKit.Utils.SinglePromiseQueue
import RivetKit.Utils.DrainLoops
import RivetKit.Utils.Proofs.Coalescing
import RivetKit.Lib.Rounding
import RivetKit.Utils.LongTimeouts
import RivetKit.Utils.Proofs.Chunks
import RivetKit.Utils.Proofs.LongTimeouts
import RivetKit.Lib.Mutex
import RivetKit.Actor.Lock
import RivetKit.Actor.Proofs.Lock
import RivetKit.Actor.Instance
import RivetKit.Actor.Proofs.SaveContract
import RivetKit.Actor.Proofs.Writes
import RivetKit.Actor.Persisted
import RivetKit.Actor.Proofs.Flush
import RivetKit.Actor.Connections
import RivetKit.Actor.Proofs.Metadata
import RivetKit.Drivers.FileSystem.Proofs.StartActor
import RivetKit.Lib.Escapes
import RivetKit.Drivers.Engine.Keys
import RivetKit.Drivers.Engine.Proofs.Keys
import RivetKit.Drivers.Engine.ActorDriver
import RivetKit.Drivers.Engine.Creation
import RivetKit.Drivers.Engine.ProxyMessages
import RivetKit.Drivers.Engine.Proofs.ProxyMessages
import RivetKit.Drivers.Engine.Proofs.Durability
import RivetKit.Cloudflare.DurableObject
import RivetKit.Cloudflare.Proofs.SingleInstance
import RivetKit.Cloudflare.ManagerDriver
import RivetKit.Cloudflare.Proofs.CreateOnce
import RivetKit.Cloudflare.Proofs.Names
import RivetKit.Lib.Json
import RivetKit.Lib.Proofs.Json
import RivetKit.Lib.Decimal
import RivetKit.Common.VersionedData
import RivetKit.Common.Migrations
import RivetKit.Protocol.ClientProtocol
import RivetKit.Protocol.Serde
import RivetKit.Lib.Bare
import RivetKit.Lib.Base64
import RivetKit.Protocol.Proofs.RoundTrip
import RivetKit.Protocol.Schema
import RivetKit.Client.ActorConn
import RivetKit.Client.ActorConnRaw
import RivetKit.Client.Proofs.Sending
import RivetKit.Client.Proofs.Transports
import RivetKit.Client.Proofs.Dispose
import RivetKit.Client.Proofs.Delivery
import RivetKit.Client.Proofs.ReplyMatching
import RivetKit.Actor.RouterEndpoints
import RivetKit.Drivers.Engine.ManagerDriver
import RivetKit.Drivers.Engine.Proofs.HeaderIntegrity
import RivetKit.Lib.Text
import RivetKit.Lib.Url
import RivetKit.Lib.Serde
import RivetKit.Lib.Subprotocols
import RivetKit.Lib.Proofs.Text
import RivetKit.Lib.Proofs.Url
import RivetKit.Manager.Auth
import RivetKit.Actor.Router
import RivetKit.Drivers.FileSystem.Manager
import RivetKit.Manager.Router
import RivetKit.Actor.ConnHooks
import RivetKit.Client.HttpClientDriver
import RivetKit.Client.RawUtils
import RivetKit.Actor.RawRequests
import RivetKit.Lib.Proofs.JsonText
import RivetKit.Manager.Proofs.AuthData
import RivetKit.Manager.ClientEndpoints
import RivetKit.Manager.Proofs.ClientRequests
import RivetKit.Manager.Proofs.ProtocolRoundTrip
import RivetKit.Manager.Proofs.ConnParams
import RivetKit.Manager.Proofs.QueryOrder
import RivetKit.Manager.Proofs.ReachedActor
import RivetKit.Manager.Proofs.AuthorizedActors
import RivetKit.Common.Errors
import RivetKit.Manager.ErrorPlaces
import RivetKit.Manager.Proofs.ErrorsHidden
import RivetKit.Cloudflare.ActorDriver
import RivetKit.Drivers.Engine.LoadActor
import RivetKit.Drivers.Engine.Proofs.LoadActor
import RivetKit.Cloudflare.Proofs.LoadActor
import RivetKit.Drivers.StartFailures
import RivetKit.Drivers.FileSystem.Proofs.ReadyGate
import RivetKit.Actor.Proofs.Schedule
import RivetKit.Actor.PersistedVersioned
import RivetKit.Actor.Initialize
import RivetKit.Actor.Proofs.PersistRoundTrip
import RivetKit.Actor.PersistSchema
import RivetKit.Actor.ScheduleCalls
import RivetKit.Actor.Proofs.ScheduleCalls
import RivetKit.Drivers.FileSystem.ActorStore
import RivetKit.Drivers.FileSystem.Proofs.CreateExact
import RivetKit.Drivers.FileSystem.Alarms
import RivetKit.Drivers.FileSystem.Proofs.AlarmDurability
import RivetKit.Actor.Actions
import RivetKit.Actor.Proofs.ActionSaves
import RivetKit.Actor.Stop
import RivetKit.Actor.Proofs.Stop
import RivetKit.Actor.Proofs.Maps
import RivetKit.Actor.Proofs.SubscriptionIndex
import RivetKit.Actor.Broadcast
import RivetKit.Actor.Proofs.Broadcast
import RivetKit.Actor.ConnTables
import RivetKit.Actor.HttpActions
import RivetKit.Actor.Proofs.ConnTables
import RivetKit.Actor.Proofs.HttpActions
import RivetKit.Client.Proofs.MessageQueue
import RivetKit.Client.Proofs.ActionsInFlight
import RivetKit.Client.Subscriptions
import RivetKit.Client.Proofs.Subscriptions
import RivetKit.Client.Dispatches
import RivetKit.Client.Proofs.Dispatches
import RivetKit.Drivers.FileSystem.StateCalls
import RivetKit.Drivers.FileSystem.Proofs.SingleState
import RivetKit.Drivers.FileSystem.Proofs.WriteOrder
import RivetKit.Drivers.FileSystem.ReadWrite
import RivetKit.Drivers.FileSystem.Lookups
import RivetKit.Drivers.FileSystem.Proofs.ReadWrite
import RivetKit.Drivers.Proofs.CreationInput
import RivetKit.Drivers.FileSystem.Instances
import RivetKit.Drivers.FileSystem.Proofs.StoppedSaves
import RivetKit.Drivers.FileSystem.Proofs.InstanceInvariant
import RivetKit.Drivers.FileSystem.Proofs.InstanceSteps
import RivetKit.Drivers.FileSystem.Proofs.Instances
import RivetKit.Actor.ProcessMessage
import RivetKit.Actor.ActionReplies
import RivetKit.Actor.Proofs.OneReply
import RivetKit.Actor.AlarmRuns
import RivetKit.Actor.Proofs.DueEvents
import RivetKit.Lib.Objects
import RivetKit.Actor.ActionLookup
import RivetKit.Actor.Proofs.DeclaredActions
import RivetKit.Actor.ConnectWebSocket
import RivetKit.Actor.Proofs.MessageOrder
import RivetKit.Actor.ConnTransports
import RivetKit.Actor.Proofs.Disconnects
import RivetKit.Actor.Proofs.TransportEntries
import RivetKit.Actor.Liveness
import RivetKit.Actor.Proofs.Liveness
import RivetKit.Actor.Sleep
import RivetKit.Actor.Proofs.Sleep
import RivetKit.Common.InlineWebSocket
import RivetKit.Common.Proofs.InlineStates
import RivetKit.Actor.InlineHandlers
import RivetKit.Actor.Proofs.InlineCloses
import RivetKit.Common.Proofs.InlineDelivery
import RivetKit.RustClient.Protocol
import RivetKit.RustClient.Connection
import RivetKit.RustClient.Proofs.Wire
import RivetKit.RustClient.Proofs.Locks
import RivetKit.RustClient.Proofs.Flowing
import RivetKit.RustClient.Proofs.FlushOnOpen
import RivetKit.RustClient.Proofs.Requests
import RivetKit.RustClient.Proofs.Replies
import RivetKit.Manager.Proofs.RawPaths
import RivetKit.Cloudflare.Proofs.WakeUp
import RivetKit.Actor.StateProxy
import RivetKit.Actor.Proofs.InvalidState
import RivetKit.Inspector.PatchState
import RivetKit.Inspector.Proofs.PatchAtomicity
import RivetKit.FrameworkBase.Proofs.Ownership
import RivetKit.Lib.LiveSet
import RivetKit.Manager.HonoWebSocket
import RivetKit.Manager.Proofs.HonoWebSocket
import RivetKit.Client.ClientRaw
import RivetKit.Client.Proofs.ClientRaw
import RivetKit.RustClient.StartConnection
import RivetKit.RustClient.Proofs.StartConnection
import RivetKit.Client.HttpCalls
import RivetKit.Client.Proofs.HttpErrors
import RivetKit.Lib.Composition
import RivetKit.Client.EventDelivery
import RivetKit.Client.Proofs.EventDelivery
import RivetKit.Lib.CursorPages
import RivetKit.Drivers.FileSystem.Pages
import RivetKit.Drivers.FileSystem.Proofs.Pages
import RivetKit.Client.Proofs.HttpCalls
import RivetKit.RustClient.Drivers
import RivetKit.RustClient.Proofs.ConnectionSteps
import RivetKit.RustClient.Proofs.Drivers
