import Pxc.General.Runs
import Pxc.General.FiniteMaps
import Pxc.General.Heap
import Pxc.General.Loops
import Pxc.General.Channels
import Pxc.General.Dispatch
import Pxc.General.Buffers
import Pxc.General.Ownership
import Pxc.General.Mutexes
import Pxc.General.Records
import Pxc.General.Shares
import Pxc.General.Arrangements
import Pxc.General.Masks
import Pxc.General.QuotedLiterals
import Pxc.General.Histories
import Pxc.General.Iterators
import Pxc.General.Enumerations
import Pxc.General.Numbers
import Pxc.General.Journeys
import Pxc.General.Relays
import Pxc.General.Disposal
import Pxc.General.Refinements
import Pxc.General.Framing
import Pxc.Control.Servers
import Pxc.Control.Balance
import Pxc.Control.ZoneOrders
import Pxc.Control.ZoneOwnership
import Pxc.Control.LoadCollection
import Pxc.Control.RoundCompleteness
import Pxc.Control.LoadAccounting
import Pxc.Control.ZoneAssignment
import Pxc.Control.ZoneCoverage
import Pxc.Control.ZoneShares
import Pxc.GameServer.Server
import Pxc.GameServer.ZoneThread
import Pxc.GameServer.Instructions
import Pxc.GameServer.ClientZones
import Pxc.Game.Zone
import Pxc.Game.Movement
import Pxc.Control.ZoneDelivery
import Pxc.Control.AddressTables
import Pxc.Control.Rebalancing
import Pxc.Control.Extremes
import Pxc.Control.ReplyMask
import Pxc.Control.StartUp
import Pxc.Control.NewUsers
import Pxc.Control.RouterNotices
import Pxc.GameServer.LoadAnswers
import Pxc.GameServer.Hosting
import Pxc.GameServer.HostingHistory
import Pxc.GameServer.StepLoop
import Pxc.GameServer.TimeDilation
import Pxc.GameServer.StepRate
import Pxc.GameServer.ZoneInstructions
import Pxc.Router.Operations
import Pxc.Router.Inversions
import Pxc.Router.UserRecords
import Pxc.Router.TokenAuthentication
import Pxc.Router.ServiceOperations
import Pxc.Router.ZoneService
import Pxc.Router.Instructions
import Pxc.Router.ZoneAssignment
import Pxc.Router.UserOperations
import Pxc.Router.Reachability
import Pxc.Router.Lifetime
import Pxc.Router.Membership
import Pxc.Router.Handshake
import Pxc.Router.Tables
import Pxc.Router.Shutdown
import Pxc.Router.Delivery
import Pxc.Router.Registry
import Pxc.Router.Refinement
import Pxc.Router.ServerAddress
import Pxc.Router.Ports
import Pxc.LoginServer.Server
import Pxc.LoginServer.Handlers
import Pxc.LoginServer.SessionTable
import Pxc.LoginServer.ConnectionMaps
import Pxc.LoginServer.ControlNotices
import Pxc.LoginServer.ClientIdentity
import Pxc.LoginServer.Locking
import Pxc.LoginServer.Serving
import Pxc.LoginServer.Validation
import Pxc.LoginServer.Credentials
import Pxc.Messaging.Factory
import Pxc.Messaging.Reception
import Pxc.Messaging.FrameRecovery
import Pxc.Messaging.BufferSafety
import Pxc.Messaging.Sending
import Pxc.Messaging.RoundTrip
import Pxc.Messaging.FactoryIsolation
import Pxc.Messaging.Listeners
import Pxc.Messaging.WriteFailures
import Pxc.Messaging.Datagrams
import Pxc.Messaging.PlainReception
import Pxc.Messaging.OfflineSweep
import Pxc.Messaging.FactoryProfiles
import Pxc.Messaging.CloseNotices
import Pxc.Messaging.Transmission
import Pxc.Messaging.PlainTransmission
import Pxc.Catalogue.Programs
import Pxc.Catalogue.Agreement
import Pxc.Client.Login
import Pxc.Client.UserStates
import Pxc.System.UserPath
import Pxc.System.Notices
import Pxc.System.Directory
import Pxc.System.Convergence
import Pxc.GameServer.Calls
import Pxc.General.Guards
import Pxc.Router.Mutexes
