import DoipPlayground.Lib.Run
import DoipPlayground.Lib.RefLock
import DoipPlayground.EdgeNode.Session
import DoipPlayground.EdgeNode.Exclusivity
import DoipPlayground.EdgeNode.LiveTester
import DoipPlayground.Lib.Bytes
import DoipPlayground.VirtualEcu.Config
import DoipPlayground.VirtualEcu.Core
import DoipPlayground.VirtualEcu.ResetRevocation
import DoipPlayground.VirtualEcu.ResponsePending
import DoipPlayground.VirtualEcu.Doip
import DoipPlayground.VirtualEcu.Session
import DoipPlayground.EdgeNode.EcuClient
import DoipPlayground.EdgeNode.Exchange
import DoipPlayground.EdgeNode.Freshness
import DoipPlayground.EdgeNode.Framing
import DoipPlayground.EdgeNode.Gate
import DoipPlayground.EdgeNode.Teardown
import DoipPlayground.Lib.AsyncQueue
import DoipPlayground.EdgeNode.Delivery
import DoipPlayground.Interop.FrameCompat
import DoipPlayground.VirtualEcu.AliveProbe
import DoipPlayground.VirtualEcu.Continuity
import DoipPlayground.VirtualEcu.Privileges
import DoipPlayground.Interop.FinalResponse
import DoipPlayground.VirtualEcu.SecuritySoundness
import DoipPlayground.VirtualEcu.PumpWorker
import DoipPlayground.Lib.Python
import DoipPlayground.VirtualEcu.Loader
import DoipPlayground.VirtualEcu.DidIntegrity
import DoipPlayground.VirtualEcu.Encodable
import DoipPlayground.Lib.Ladder
import DoipPlayground.VirtualEcu.DispatchLadder
import DoipPlayground.VirtualEcu.DoipHooks
import DoipPlayground.VirtualEcu.Observers
import DoipPlayground.VirtualEcu.MultiDid
import DoipPlayground.VirtualEcu.PendingCap
import DoipPlayground.Lib.StreamReader
import DoipPlayground.Lib.Struct
import DoipPlayground.Interop.FrameParity
import DoipPlayground.EchoEcu.Frames
import DoipPlayground.EchoEcu.Registry
import DoipPlayground.EdgeNode.ExchangeOutcome
import DoipPlayground.VirtualEcu.Finalized
import DoipPlayground.Lib.ReplyChain
import DoipPlayground.EdgeNode.Loader
import DoipPlayground.Lib.Reservations
import DoipPlayground.EdgeNode.SocketRegistry
import DoipPlayground.EdgeNode.Server
import DoipPlayground.EdgeNode.UdpAnnouncer
import DoipPlayground.EdgeNode.Discovery
import DoipPlayground.VirtualEcu.Udp
import DoipPlayground.VirtualEcu.Tables
import DoipPlayground.VirtualEcu.Registration
import DoipPlayground.VirtualEcu.RoutineSequence
import DoipPlayground.Interop.ReplyStorm
import DoipPlayground.EdgeNode.ActivationLock
import DoipPlayground.EdgeNode.LogAccounting
import DoipPlayground.PcTester.Tester
import DoipPlayground.Lib.Stages
import DoipPlayground.EdgeNode.Middleware
import DoipPlayground.Interop.Turns
import DoipPlayground.Interop.Conversation
import DoipPlayground.Interop.Completion
import DoipPlayground.Lib.Watchdog
import DoipPlayground.VirtualEcu.Supervision
import DoipPlayground.Lib.Unwinding
import DoipPlayground.VirtualEcu.Isolation
import DoipPlayground.Lib.Drain
import DoipPlayground.EdgeNode.Lifecycle
import DoipPlayground.EdgeNode.Handlers
import DoipPlayground.EdgeNode.Shutdown
import DoipPlayground.EdgeNode.Draining
import DoipPlayground.EdgeNode.EcuSetup
import DoipPlayground.EdgeNode.SetupOwnership
import DoipPlayground.EdgeNode.Activation
import DoipPlayground.Interop.Handshake
import DoipPlayground.EdgeNode.Inactivity
