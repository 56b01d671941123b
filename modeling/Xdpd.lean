import Xdpd.Util.CircularQueueFifo
import Xdpd.OpenFlow.Of10
import Xdpd.OpenFlow.Of12
import Xdpd.OpenFlow.Of13Actions
import Xdpd.OpenFlow.Of13Matches
import Xdpd.OpenFlow.Of13Entry
import Xdpd.OpenFlow.PacketIn
import Xdpd.Io.FrameBytes
import Xdpd.Io.HeaderAtomicity
import Xdpd.Io.Decapsulation
import Xdpd.Io.Iomanager
import Xdpd.Io.PktinWakeups
import Xdpd.Io.BufferConservation
import Xdpd.Io.PortDown
import Xdpd.Io.Replicate
import Xdpd.Io.PortGroups
import Xdpd.Classifier.ParserTable
import Xdpd.Classifier.MissingTransitions
import Xdpd.Io.EncapsulatedOutput
import Xdpd.Hal.FlowMod
import Xdpd.Hal.Topology
import Xdpd.Xmp.DecodeSafety
import Xdpd.Xmp.HandleRead
import Xdpd.Xmp.RoundTrip
import Xdpd.Management.Blacklist
import Xdpd.Management.NotificationDelivery
import Xdpd.Management.VirtualLinks
import Xdpd.Management.AllOrNothing
import Xdpd.Management.SwitchDestruction
import Xdpd.Dpdk.Scheduling
import Xdpd.Dpdk.Draining
import Xdpd.Dpdk.PacketLifecycle
import Xdpd.Netfpga.Tables
import Xdpd.Netfpga.Hash
import Xdpd.Classifier.StoredChecksums
import Xdpd.Classifier.PaddedSegments
import Xdpd.Io.ChecksumSpan
import Xdpd.Util.CircularQueueSequential
import Xdpd.Io.DatapacketStorage
import Xdpd.Io.TunnelPushes
import Xdpd.Hal.DetachNotifications
import Xdpd.Hal.FailureAtomicity
import Xdpd.Io.FloodOutput
import Xdpd.Io.GroupTeardown
import Xdpd.Io.MmapRx
import Xdpd.Io.MmapTx
import Xdpd.Io.NotifyAccounting
import Xdpd.Lib.FieldWrites
import Xdpd.Management.LockRelease
import Xdpd.OpenFlow.Pirl
import Xdpd.OpenFlow.PortMod
import Xdpd.Dpdk.Datapacket
import Xdpd.Dpdk.IfaceManager
import Xdpd.Dpdk.TxAccounting
import Xdpd.Dpdk.VlinkForwarding
import Xdpd.Fscale.FlowEntry
import Xdpd.Fscale.RuleTranslation
import Xdpd.Netfpga.ActionTranslation
import Xdpd.OpenFlow.QueueStats
import Xdpd.Xmp.Copying
import Xdpd.Fscale.Bookkeeping
import Xdpd.Lib.EventLog
import Xdpd.Management.ConfigCalls
import Xdpd.Management.ConfigTraversal
import Xdpd.Management.VirtualIfaces
import Xdpd.Lib.Incremental
import Xdpd.Rest.RequestGrammar
import Xdpd.Rest.RestHandler
import Xdpd.Rest.Routes
import Xdpd.Io.HeaderStacks
import Xdpd.Io.PacketFields
import Xdpd.Io.FieldStore
