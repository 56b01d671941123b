import Mathlib.Data.Fin.Basic
import Mathlib.Logic.Function.Basic

/-!
# Packet buffers and where they can be

The packets are in the buffers of the `bufferpool`, which are named by their `id`.  A buffer is in
the queue of free buffers, in a queue of a port, in the packet-in queue or the packet storage of a
logical switch, or it is held by the code that processes the packet.  A function of the driver that
is handed a packet takes over the reference that its caller held, and has to pass it on.

The functions are those of a build with `NDEBUG`, in which `assert(0)` does nothing.
-/

namespace Xdpd.Io

variable {P S : Type*}

/-- `IO_IFACE_NUM_QUEUES`. -/
def IO_IFACE_NUM_QUEUES : ℕ := 8

lemma IO_IFACE_NUM_QUEUES_pos : 0 < IO_IFACE_NUM_QUEUES := by decide

/-- `ioport_mmap::MIN_PKT_LEN` and `ioport_vlink::MIN_PKT_LEN`. -/
def MIN_PKT_LEN : ℕ := 14

/-- `datapacketx86::FRAME_SIZE_BYTES`. -/
def FRAME_SIZE_BYTES : ℕ := 9000

/-- `datapacket_storage::ERROR`, the value that `next_id` skips. -/
def storageError : BitVec 32 := 0xffffffff

/-- The circular queues of packet buffers: the free ones, and those of ports and switches. -/
inductive Queue (P S : Type*)
  | cq
  | input_queue (port : P)
  | output_queue (port : P) (q_id : Fin IO_IFACE_NUM_QUEUES)
  | pkt_in_queue (sw : S)
  deriving DecidableEq, Repr

/-- The places where a buffer can be. -/
inductive Place (P S : Type*)
  | queue (queue : Queue P S)
  | storage (sw : S)
  | held
  deriving DecidableEq, Repr

/-- The class of a port; a virtual link has a port at its other end. -/
inductive PortType (P : Type*)
  | mmap
  | vlink (connected_port : P)

/-- The compile time options of the driver, and its ports. -/
structure Config (P : Type*) where
  /-- `bufferpool::capacity` -/
  capacity : ℕ
  /-- `IO_IFACE_RING_SLOTS` -/
  ringSlots : ℕ
  /-- `LSI_PKT_IN_QUEUE_SLOTS` -/
  pktInQueueSlots : ℕ
  /-- `LSI_PKT_IN_STORAGE_MAX_BUF` -/
  pktInStorageMaxBuf : ℕ
  /-- `LSI_PKT_IN_STORAGE_EXPIRATION_S` -/
  pktInStorageExpirationS : ℤ
  /-- `LOGICAL_SWITCH_MAX_LOG_PORTS` -/
  maxLogPorts : ℕ
  portType : P → PortType P

/-- The slots of a queue.  A `circular_queue` holds one element less than it has slots. -/
def Config.slots (cfg : Config P) : Queue P S → ℕ
  | .cq => cfg.capacity
  | .input_queue _ | .output_queue _ _ => cfg.ringSlots
  | .pkt_in_queue _ => cfg.pktInQueueSlots

/-- What the driver reads of a `datapacket_t` and of its `datapacketx86`. -/
structure Datapacket (S : Type*) where
  sw : Option S
  len : ℕ
  port_in : ℕ
  output_queue : ℕ
  deriving DecidableEq, Repr

/-- What the driver reads of a `switch_port_t`. -/
structure SwitchPort where
  of_port_num : ℕ
  platform_port_state : Bool
  up : Bool
  forward_packets : Bool
  drop_received : Bool
  no_flood : Bool
  deriving DecidableEq, Repr

/-- `datapacket_storage::store_mapping`. -/
structure StoreMapping where
  id : BitVec 32
  pkt : ℕ
  input_timestamp : ℤ
  deriving DecidableEq, Repr

/-- `datapacket_storage`. -/
structure DatapacketStorage where
  next_id : BitVec 32
  store : List StoreMapping
  deriving DecidableEq, Repr

/-- The state of the driver: the buffers and what is in them, the ports and the switches. -/
structure DriverState (P S : Type*) where
  queues : Queue P S → List ℕ
  storage : S → DatapacketStorage
  held : List ℕ
  pkts : ℕ → Datapacket S
  ports : P → SwitchPort
  logical_ports : S → ℕ → Option P

namespace DriverState

/-- The buffers in a place. -/
def buffers (s : DriverState P S) : Place P S → List ℕ
  | .queue queue => s.queues queue
  | .storage sw => (s.storage sw).store.map StoreMapping.pkt
  | .held => s.held

/-- All buffers of the pool are free, and no port has been set up. -/
def init (cfg : Config P) : DriverState P S where
  queues
    | .cq => List.range' 0 (cfg.capacity - 1)
    | _ => []
  storage _ := { next_id := 1, store := [] }
  held := []
  pkts _ := { sw := none, len := 0, port_in := 0, output_queue := 0 }
  ports _ :=
    { of_port_num := 0
      platform_port_state := false
      up := false
      forward_packets := false
      drop_received := false
      no_flood := false }
  logical_ports _ _ := none

/-- The buffer `b` is held by the code that processes it. -/
def hold (s : DriverState P S) (b : ℕ) : DriverState P S :=
  { s with held := b :: s.held }

/-- The reference to the buffer `b` is given up. -/
def forget (s : DriverState P S) (b : ℕ) : DriverState P S :=
  { s with held := s.held.erase b }

section Setters

variable [DecidableEq P] [DecidableEq S]

/-- The content of a queue is set. -/
def setQueue (s : DriverState P S) (queue : Queue P S) (l : List ℕ) : DriverState P S :=
  { s with queues := Function.update s.queues queue l }

/-- The storage of a switch is set. -/
def setStorage (s : DriverState P S) (sw : S) (st : DatapacketStorage) : DriverState P S :=
  { s with storage := Function.update s.storage sw st }

/-- The packet in a buffer is set. -/
def setPkt (s : DriverState P S) (b : ℕ) (pkt : Datapacket S) : DriverState P S :=
  { s with pkts := Function.update s.pkts b pkt }

/-- The state of a port is set. -/
def setPort (s : DriverState P S) (port : P) (st : SwitchPort) : DriverState P S :=
  { s with ports := Function.update s.ports port st }

/-- A logical port of a switch is set. -/
def setLogicalPort (s : DriverState P S) (sw : S) (i : ℕ) (port : Option P) : DriverState P S :=
  { s with
    logical_ports := Function.update s.logical_ports sw
      (Function.update (s.logical_ports sw) i port) }

end Setters

end DriverState

open DriverState

variable [DecidableEq P] [DecidableEq S]

/-! ## Queues and pool -/

/-- `circular_queue::non_blocking_read`.  The caller holds what it has read. -/
def nonBlockingRead (queue : Queue P S) (s : DriverState P S) :
    Option (ℕ × DriverState P S) :=
  match s.queues queue with
  | [] => none
  | b :: rest => some (b, (s.setQueue queue rest).hold b)

/-- `circular_queue::non_blocking_write` of a buffer that the caller holds.  `none` is
`ROFL_FAILURE`. -/
def nonBlockingWrite (cfg : Config P) (queue : Queue P S) (b : ℕ) (s : DriverState P S) :
    Option (DriverState P S) :=
  if (s.queues queue).length + 1 < cfg.slots queue then
    some ((s.forget b).setQueue queue (s.queues queue ++ [b]))
  else none

/-- `bufferpool::get_buffer`. -/
def getBuffer (s : DriverState P S) : Option (ℕ × DriverState P S) :=
  nonBlockingRead .cq s

/-- `bufferpool::release_buffer`.  It ignores a failure to write to the queue. -/
def releaseBuffer (cfg : Config P) (b : ℕ) (s : DriverState P S) : DriverState P S :=
  (nonBlockingWrite cfg .cq b s).getD (s.forget b)

/-! ## Storage -/

/-- The `id` of the next packet that is stored: it skips `ERROR` and `0`. -/
def DatapacketStorage.nextId (st : DatapacketStorage) : BitVec 32 :=
  if st.next_id + 1 = storageError then 1 else st.next_id + 1

/-- `datapacket_storage::store_packet`.  `none` is `ERROR`. -/
def DatapacketStorage.storePacket (max_size : ℕ) (now : ℤ) (b : ℕ) (st : DatapacketStorage) :
    Option (BitVec 32 × DatapacketStorage) :=
  if max_size ≤ st.store.length then none
  else
    some (st.nextId, { next_id := st.nextId, store := st.store ++ [⟨st.nextId, b, now⟩] })

/-- `datapacket_storage::get_packet`. -/
def DatapacketStorage.getPacket (id : BitVec 32) (st : DatapacketStorage) :
    Option ℕ × DatapacketStorage :=
  ((st.store.find? fun map => map.id == id).map StoreMapping.pkt,
    { st with store := st.store.eraseP fun map => map.id == id })

/-- `datapacket_storage::oldest_packet_needs_expiration`. -/
def DatapacketStorage.oldestPacketNeedsExpiration (expiration_time_sec now : ℤ)
    (st : DatapacketStorage) : Option (BitVec 32) :=
  match st.store with
  | [] => none
  | map :: _ => if expiration_time_sec < now - map.input_timestamp then some map.id else none

/-- `get_packet` of the storage of a switch, by a caller that holds the packet it gets. -/
def getStored (sw : S) (id : BitVec 32) (s : DriverState P S) : Option (ℕ × DriverState P S) :=
  match (s.storage sw).getPacket id with
  | (none, _) => none
  | (some b, st) => some (b, (s.setStorage sw st).hold b)

/-! ## Packets -/

/-- `datapacketx86::init`, without the classification.  It does nothing when the packet is too
long, and no caller looks at what it returns. -/
def Datapacket.init (buflen : ℕ) (pkt : Datapacket S) : Datapacket S :=
  if FRAME_SIZE_BYTES < buflen then pkt else { pkt with len := buflen, output_queue := 0 }

/-- `clone_pkt_contents`. -/
def clonePktContents (src dst : Datapacket S) : Datapacket S :=
  { dst.init src.len with output_queue := src.output_queue, port_in := src.port_in }

/-- `platform_packet_replicate`. -/
def platformPacketReplicate (b : ℕ) (s : DriverState P S) : Option (ℕ × DriverState P S) :=
  (getBuffer s).map fun (copy, s') =>
    (copy, s'.setPkt copy
      (clonePktContents (s'.pkts b) { s'.pkts copy with sw := (s'.pkts b).sw }))

end Xdpd.Io
