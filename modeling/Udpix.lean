import Udpix.Library.LittleEndian
import Udpix.Library.Chunks
import Udpix.Library.BitWindow
import Udpix.Library.AssocMap
import Udpix.Library.PartMap
import Udpix.Library.Utf8
import Udpix.Library.UnixPath
import Udpix.Library.PathWalk
import Udpix.Library.StreamDecoder
import Udpix.Library.Slots
import Udpix.Library.BoundedChannel
import Udpix.Library.Unwinding
import Udpix.Library.FirstAnswer
import Udpix.Library.FirstMax
import Udpix.Library.Fallible
import Udpix.Library.Budget
import Udpix.Library.Amortised
import Udpix.Library.BoundsCheck
import Udpix.Library.ResumedTransfer
import Udpix.Protocol.Packet
import Udpix.Protocol.Session
import Udpix.Protocol.RttBounds
import Udpix.Protocol.Sack
import Udpix.Protocol.SackManager
import Udpix.Protocol.SequenceBounds
import Udpix.Protocol.Congestion
import Udpix.Protocol.Prober
import Udpix.Protocol.ProberRounds
import Udpix.Protocol.Throttling
import Udpix.Protocol.Sender
import Udpix.Protocol.BatchPlan
import Udpix.Protocol.Priority
import Udpix.Protocol.Pacing
import Udpix.Protocol.PacingBound
import Udpix.Protocol.Receiver
import Udpix.Protocol.ReceiveLoop
import Udpix.Protocol.CheckedReceiver
import Udpix.Protocol.ReceiveBatches
import Udpix.Protocol.Acknowledgement
import Udpix.Protocol.SackCanonical
import Udpix.Protocol.SackDecoding
import Udpix.Protocol.WindowShift
import Udpix.Protocol.InFlight
import Udpix.Protocol.SenderRuns
import Udpix.Protocol.Promotion
import Udpix.Protocol.Stranding
import Udpix.Protocol.DuplicateRequests
import Udpix.Protocol.Segmentation
import Udpix.Protocol.Bookkeeping
import Udpix.Protocol.Transfer
import Udpix.Protocol.Duplicates
import Udpix.Protocol.Retransmission
import Udpix.Protocol.Recovery
import Udpix.Protocol.Completion
import Udpix.Protocol.Statistics
import Udpix.Protocol.MissingSequences
import Udpix.IoEngine.Packer
import Udpix.IoEngine.PackRoundTrip
import Udpix.IoEngine.Writer
import Udpix.IoEngine.Reassembly
import Udpix.IoEngine.Unpacking
import Udpix.IoEngine.Delivery
import Udpix.IoEngine.Containment
import Udpix.IoEngine.SplitFiles
import Udpix.IoEngine.EndOfStream
import Udpix.IoEngine.Truncation
import Udpix.IoEngine.HostileBlocks
import Udpix.IoEngine.UringLoops
import Udpix.IoEngine.Reader
import Udpix.IoEngine.ReaderCalls
import Udpix.IoEngine.ReaderDrop
import Udpix.IoEngine.DirectoryWalk
import Udpix.IoEngine.BlockShape
import Udpix.IoEngine.Engine
import Udpix.IoEngine.WriterChannels
import Udpix.IoEngine.ZeroCopy
import Udpix.ControlPlane.Auth
import Udpix.ControlPlane.SessionMgr
import Udpix.ControlPlane.NumericIds
import Udpix.ControlPlane.Server
import Udpix.ControlPlane.Isolation
import Udpix.ControlPlane.Expiry
import Udpix.ControlPlane.Ledger
import Udpix.Traversal.Stun
import Udpix.Traversal.StunRoundTrip
import Udpix.Traversal.Turn
import Udpix.Traversal.TurnDecoding
import Udpix.Traversal.Allocation
import Udpix.Traversal.Relay
import Udpix.Traversal.RelayRuns
import Udpix.Traversal.Ice
import Udpix.Traversal.CheckList
import Udpix.Traversal.HolePunch
import Udpix.Traversal.Transactions
import Udpix.Traversal.Connect
import Udpix.Traversal.ConnectRuns
import Udpix.Cli.Direct
import Udpix.Cli.HostileStream
import Udpix.Cli.DirectTransfer
import Udpix.Cli.RudpTransfer
import Udpix.Cli.ReceivePipeline
import Udpix.Cli.ReceiveSchedules
import Udpix.Cli.DirectoryCopy
import Udpix.Cli.Handshake
