import Wifu.Lib.Transition
import Wifu.Lib.Serial
import Wifu.Lib.LowerBound
import Wifu.Math
import Wifu.Packet
import Wifu.Event
import Wifu.PacketBuffer
import Wifu.Context
import Wifu.Endpoint
import Wifu.Reliability
import Wifu.CongestionControl
import Wifu.ConnectionManager
import Wifu.Tahoe
import Wifu.WindowSize
import Wifu.ReceiveView
import Wifu.StepCases
import Wifu.Frame
import Wifu.Conservation
import Wifu.SequenceGate
import Wifu.Acknowledgement
import Wifu.Outstanding
import Wifu.SendStream
import Wifu.SendInvariant
import Wifu.SendFrame
import Wifu.SendSteps
import Wifu.SendQueue
import Wifu.SendDrain
import Wifu.SendAck
import Wifu.SendRun
import Wifu.SendAgreement
import Wifu.SendAssertions
import Wifu.ControlAcknowledged
import Wifu.Lib.Intervals
import Wifu.WindowOrder
import Wifu.ReceiveAssertions
import Wifu.Lib.SortedInsert
import Wifu.TimeoutEventManager
import Wifu.TimerSafety
import Wifu.CongestionWindow
import Wifu.SendView
import Wifu.SequenceOrder
import Wifu.Settled
import Wifu.RetransmissionTimer
import Wifu.SendProgress
import Wifu.WindowBalance
import Wifu.SendWindow
import Wifu.ObjectPool
import Wifu.BackEndTranslator
import Wifu.RequestOwnership
import Wifu.Retransmission
import Wifu.HeaderOptions
import Wifu.CloseRequest
import Wifu.DelayedACK
import Wifu.DelayedACKTimer
import Wifu.CanceledEvents
import Wifu.Reassembly
import Wifu.WindowEdge
import Wifu.FinAgreement
import Wifu.PortLifetimes
import Wifu.SocketIdentifiers
import Wifu.Lib.OnesComplement
import Wifu.Lib.ByteMemory
import Wifu.WirePacket
import Wifu.Checksum
import Wifu.HeaderLocation
import Wifu.OptionsRoundTrip
import Wifu.MissingTimestamp
import Wifu.MalformedLengths
import Wifu.WrappedNumber
import Wifu.QueueEvents
import Wifu.FastRetransmit
import Wifu.SendBound
import Wifu.SendBuffer
import Wifu.Lib.Separated
import Wifu.KeyText
import Wifu.FailedRequest
import Wifu.RateLimiter
import Wifu.AdaptivePacing
import Wifu.SimpleUDP
import Wifu.UDPPacket
import Wifu.PacketLog
import Wifu.Shim
import Wifu.ShimRefusal
import Wifu.ReceiveDelivery
import Wifu.CircularOrder
import Wifu.Lib.Loop
import Wifu.QueryStringParser
import Wifu.QueryRestart
import Wifu.PriorityQueue
import Wifu.WindowInvariant
import Wifu.OptionWalk
import Wifu.BackLog
import Wifu.StoredEvents
import Wifu.RecycledEvents
import Wifu.SendPosition
import Wifu.ReceivePosition
import Wifu.Connection
import Wifu.StreamIntegrity
import Wifu.PendingRequests
import Wifu.AcceptRequests
import Wifu.LostRequests
import Wifu.StateDiagram
import Wifu.NothingLost
import Wifu.WireSegment
import Wifu.WireConnection
import Wifu.Dispatcher
import Wifu.QueuedPackets
import Wifu.AckBit
import Wifu.Opening
import Wifu.WholeConnection
import Wifu.FullDuplex
import Wifu.WireDelivery
