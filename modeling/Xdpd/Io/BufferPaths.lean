import Mathlib.Data.List.Range
import Xdpd.Io.Bufferpool
import Xdpd.Lib.Placement
import Xdpd.Lib.Transition

/-!
# The paths of the packet buffers

The functions of the driver that hand packet buffers on: reception and transmission by the ports,
output, packet-in, packet-out, the expiration of stored packets, and the draining of queues.  The
pipeline, which is not part of the driver, calls them in any order for the packets that it holds,
and changes these packets in between.
-/

namespace Xdpd.Io

open Xdpd.Lib DriverState

variable {P S : Type*} [DecidableEq P] [DecidableEq S]

/-! ## Output -/

/-- The port takes packets of this length. -/
def SwitchPort.Accepts (port : SwitchPort) (len : ℕ) : Prop :=
  port.up = true ∧ port.forward_packets = true ∧ MIN_PKT_LEN ≤ len

instance (port : SwitchPort) (len : ℕ) : Decidable (port.Accepts len) :=
  inferInstanceAs (Decidable (_ ∧ _))

/-- `ioport_mmap::enqueue_packet` and `ioport_vlink::enqueue_packet`. -/
def enqueuePacket (cfg : Config P) (port : P) (b q_id : ℕ) (s : DriverState P S) :
    DriverState P S :=
  if (s.ports port).Accepts (s.pkts b).len then
    -- an invalid queue does not return, it goes on with the queue 0
    let s' := if q_id < IO_IFACE_NUM_QUEUES then s else releaseBuffer cfg b s
    let q : Fin IO_IFACE_NUM_QUEUES :=
      if h : q_id < IO_IFACE_NUM_QUEUES then ⟨q_id, h⟩ else ⟨0, by decide⟩
    (nonBlockingWrite cfg (.output_queue port q) b s').getD (releaseBuffer cfg b s')
  else releaseBuffer cfg b s

/-- `output_single_packet`. -/
def outputSinglePacket (cfg : Config P) (b : ℕ) (port : P) (s : DriverState P S) :
    DriverState P S :=
  if (s.ports port).platform_port_state = true ∧ (s.ports port).up = true ∧
      (s.ports port).forward_packets = true then
    enqueuePacket cfg port b (s.pkts b).output_queue s
  else releaseBuffer cfg b s

/-- The argument `output_port` of `platform_packet_output`: `NULL`, one of the meta ports, or a
port. -/
inductive OutputPort (P : Type*)
  | null
  | flood
  | all
  | inPort
  | port (port : P)
  deriving DecidableEq, Repr

/-- The ports of the switch that the loop of `platform_packet_output` does not skip. -/
def floodPorts (cfg : Config P) (s : DriverState P S) (sw : S) (port_in : ℕ) : List P :=
  (List.range cfg.maxLogPorts).filterMap fun i =>
    match s.logical_ports sw i with
    | none => none
    | some port => if i = port_in ∨ (s.ports port).no_flood = true then none else some port

/-- The loop of `platform_packet_output` over the ports that it does not skip.  Without a buffer for
the replica it dereferences `NULL`: there is no next state. -/
def flood (cfg : Config P) (b : ℕ) : List P → DriverState P S → Option (DriverState P S)
  | [], s => some s
  | port :: ports, s =>
      match platformPacketReplicate b s with
      | none => none
      | some (replica, s') => flood cfg b ports (outputSinglePacket cfg replica port s')

/-- `platform_packet_output`.  `none` is the dereference of a null pointer. -/
def platformPacketOutput (cfg : Config P) (b : ℕ) (output_port : OutputPort P)
    (s : DriverState P S) : Option (DriverState P S) :=
  match output_port with
  | .null => some (s.forget b)
  | .flood | .all =>
      match (s.pkts b).sw with
      | none => some (releaseBuffer cfg b s)
      | some sw =>
          (flood cfg b (floodPorts cfg s sw (s.pkts b).port_in) s).map (releaseBuffer cfg b)
  | .inPort =>
      if cfg.maxLogPorts ≤ (s.pkts b).port_in then some (s.forget b)
      else
        match (s.pkts b).sw with
        | none => none
        | some sw =>
            match s.logical_ports sw (s.pkts b).port_in with
            | none => some (s.forget b)
            | some port => some (outputSinglePacket cfg b port s)
  | .port port => some (outputSinglePacket cfg b port s)

/-! ## Ports -/

/-- `ioport_mmap::read` and `ioport_vlink::read`.  `frame` is the length of the next frame that the
kernel has received. -/
def readPort (cfg : Config P) (port : P) (frame : Option ℕ) (s : DriverState P S) :
    DriverState P S :=
  match cfg.portType port with
  | .mmap =>
      if (s.ports port).up = true ∧ (s.ports port).drop_received = false then
        match frame with
        | none => s
        | some buflen =>
            match getBuffer s with
            | none => s
            | some (b, s') =>
                s'.setPkt b
                  { (s'.pkts b).init buflen with port_in := (s'.ports port).of_port_num }
      else s
  | .vlink _ =>
      match nonBlockingRead (.input_queue port) s with
      | none => s
      | some (b, s') =>
          s'.setPkt b { s'.pkts b with port_in := (s'.ports port).of_port_num }

/-- The loop of `ioport_mmap::write`.  `free_slots` is the number of free slots of the TX ring, and
`0` when there is no ring. -/
def writeMmap (cfg : Config P) (port : P) (q_id : Fin IO_IFACE_NUM_QUEUES) :
    ℕ → ℕ → DriverState P S → DriverState P S
  | 0, _, s => s
  | _ + 1, 0, s => s
  | num_of_buckets + 1, free_slots + 1, s =>
      match nonBlockingRead (.output_queue port q_id) s with
      | none => s
      | some (b, s') =>
          writeMmap cfg port q_id num_of_buckets free_slots (releaseBuffer cfg b s')

/-- `ioport_vlink::tx_pkt` of the port at the other end.  `none` is `ROFL_FAILURE`. -/
def txPkt (cfg : Config P) (connected_port : P) (b : ℕ) (s : DriverState P S) :
    Option (DriverState P S) :=
  if (s.ports connected_port).up = false then none
  else nonBlockingWrite cfg (.input_queue connected_port) b s

/-- The loop of `ioport_vlink::write`. -/
def writeVlink (cfg : Config P) (port connected_port : P) (q_id : Fin IO_IFACE_NUM_QUEUES) :
    ℕ → DriverState P S → DriverState P S
  | 0, s => s
  | num_of_buckets + 1, s =>
      match nonBlockingRead (.output_queue port q_id) s with
      | none => s
      | some (b, s') =>
          writeVlink cfg port connected_port q_id num_of_buckets
            ((txPkt cfg connected_port b s').getD (releaseBuffer cfg b s'))

/-- `write` of a port. -/
def writePort (cfg : Config P) (port : P) (q_id : Fin IO_IFACE_NUM_QUEUES)
    (num_of_buckets free_slots : ℕ) (s : DriverState P S) : DriverState P S :=
  match cfg.portType port with
  | .mmap => writeMmap cfg port q_id num_of_buckets free_slots s
  | .vlink connected_port => writeVlink cfg port connected_port q_id num_of_buckets s

/-- `while((pkt = queue->non_blocking_read())) release_buffer(pkt)`, for a queue of at most this
length. -/
def drain (cfg : Config P) (queue : Queue P S) : ℕ → DriverState P S → DriverState P S
  | 0, s => s
  | n + 1, s =>
      match nonBlockingRead queue s with
      | none => s
      | some (b, s') => drain cfg queue n (releaseBuffer cfg b s')

/-- `drain` until the queue is empty. -/
def drainQueue (cfg : Config P) (s : DriverState P S) (queue : Queue P S) : DriverState P S :=
  drain cfg queue (s.queues queue).length s

/-- `ioport::drain_queues`. -/
def drainQueues (cfg : Config P) (port : P) (s : DriverState P S) : DriverState P S :=
  (List.finRange IO_IFACE_NUM_QUEUES).foldl
    (fun s q_id => drainQueue cfg s (.output_queue port q_id))
    (drainQueue cfg s (.input_queue port))

/-! ## Packet-in and packet-out -/

/-- `platform_of1x_packet_in`. -/
def platformPacketIn (cfg : Config P) (sw : S) (b : ℕ) (s : DriverState P S) : DriverState P S :=
  (nonBlockingWrite cfg (.pkt_in_queue sw) b s).getD (releaseBuffer cfg b s)

/-- What `process_sw_of1x_packet_ins` does with a packet that it has read.  `accepted` says whether
the control plane returns `HAL_SUCCESS`. -/
def dispatchPacketIn (cfg : Config P) (sw : S) (accepted : Bool) (now : ℤ) (b : ℕ)
    (s : DriverState P S) : DriverState P S :=
  match (s.storage sw).storePacket cfg.pktInStorageMaxBuf now b with
  | none => releaseBuffer cfg b s
  | some (id, st) =>
      if accepted then (s.forget b).setStorage sw st
      else
        -- the packet is taken out, compared with the packet, and taken out again
        releaseBuffer cfg b (s.setStorage sw ((st.getPacket id).2.getPacket id).2)

/-- The loop of `process_sw_of1x_packet_ins`, for the answers of the control plane. -/
def processPacketIns (cfg : Config P) (sw : S) :
    List (Bool × ℤ) → DriverState P S → DriverState P S
  | [], s => s
  | (accepted, now) :: buckets, s =>
      match nonBlockingRead (.pkt_in_queue sw) s with
      | none => s
      | some (b, s') => processPacketIns cfg sw buckets (dispatchPacketIn cfg sw accepted now b s')

/-- `BUCKETS_PER_LS`. -/
def BUCKETS_PER_LS : ℕ := 16

/-- `drain_packet_ins`. -/
def drainPacketIns (cfg : Config P) (sw : S) (s : DriverState P S) : DriverState P S :=
  drainQueue cfg s (.pkt_in_queue sw)

/-- `OF1XP_NO_BUFFER`. -/
def OF1XP_NO_BUFFER : BitVec 32 := 0xffffffff

/-- `hal_driver_of1x_process_packet_out`, up to the call of the pipeline.  `contains_output` says
whether the action group has an output. -/
def processPacketOut (cfg : Config P) (sw : S) (buffer_id : BitVec 32) (in_port : ℕ)
    (contains_output : Bool) (buffer_size : ℕ) (s : DriverState P S) : DriverState P S :=
  if contains_output = false then
    if buffer_id = OF1XP_NO_BUFFER then s
    else
      match getStored sw buffer_id s with
      | none => s
      | some (b, s') => releaseBuffer cfg b s'
  else if buffer_id ≠ 0 ∧ buffer_id ≠ OF1XP_NO_BUFFER then
    match getStored sw buffer_id s with
    | none => s
    | some (b, s') => s'.setPkt b { s'.pkts b with port_in := in_port }
  else
    match getBuffer s with
    | none => s
    | some (b, s') =>
        s'.setPkt b { (s'.pkts b).init buffer_size with sw := some sw, port_in := in_port }

/-- `hal_driver_of1x_process_flow_mod_add` and `_modify`, up to the call of the pipeline.  `result`
says whether the flow table took the entry. -/
def processFlowMod (sw : S) (buffer_id : BitVec 32) (result : Bool) (s : DriverState P S) :
    DriverState P S :=
  if result = true ∧ buffer_id ≠ 0 ∧ buffer_id ≠ OF1XP_NO_BUFFER then
    match getStored sw buffer_id s with
    | none => s
    | some (_, s') => s'
  else s

/-- The loop that takes expired packets out of a storage with at most this many packets, in
`process_timeouts`. -/
def expirePackets (cfg : Config P) (sw : S) (now : ℤ) : ℕ → DriverState P S → DriverState P S
  | 0, s => s
  | n + 1, s =>
      match (s.storage sw).oldestPacketNeedsExpiration cfg.pktInStorageExpirationS now with
      | none => s
      | some buffer_id =>
          match getStored sw buffer_id s with
          | none => expirePackets cfg sw now n s
          | some (b, s') => expirePackets cfg sw now n (releaseBuffer cfg b s')

/-- The loop of `datapacket_storage::~datapacket_storage`, for a storage with at most this many
packets. -/
def dropStored (cfg : Config P) (sw : S) : ℕ → DriverState P S → DriverState P S
  | 0, s => s
  | n + 1, s =>
      match (s.storage sw).store with
      | [] => s
      | map :: store =>
          dropStored cfg sw n (releaseBuffer cfg map.pkt
            ((s.setStorage sw { s.storage sw with store := store }).hold map.pkt))

/-! ## The system -/

/-- What can happen next. -/
inductive BufferAction (P S : Type*)
  /-- a scheduler reads from a port, and hands the packet to the pipeline -/
  | read (port : P) (frame : Option ℕ)
  /-- a scheduler lets a port transmit -/
  | write (port : P) (q_id : Fin IO_IFACE_NUM_QUEUES) (num_of_buckets free_slots : ℕ)
  | enqueue (port : P) (b q_id : ℕ)
  | output (b : ℕ) (output_port : OutputPort P)
  /-- `platform_packet_drop` -/
  | drop (b : ℕ)
  | packetIn (sw : S) (b : ℕ)
  | processPacketIns (sw : S) (hal : Fin BUCKETS_PER_LS → Bool × ℤ)
  | packetOut (sw : S) (buffer_id : BitVec 32) (in_port : ℕ) (contains_output : Bool)
      (buffer_size : ℕ)
  | flowMod (sw : S) (buffer_id : BitVec 32) (result : Bool)
  | expire (sw : S) (now : ℤ)
  | drainQueues (port : P)
  | drainPacketIns (sw : S)
  | destroyStorage (sw : S)
  /-- the pipeline changes a packet that it holds -/
  | setPkt (b : ℕ) (pkt : Datapacket S)
  /-- a port is configured -/
  | setPort (port : P) (st : SwitchPort)
  /-- a port is attached to a switch, or detached -/
  | setLogicalPort (sw : S) (i : ℕ) (port : Option P)

/-- The buffer that the action takes over from the processing code. -/
def BufferAction.uses : BufferAction P S → Option ℕ
  | .enqueue _ b _ | .output b _ | .drop b | .packetIn _ b | .setPkt b _ => some b
  | _ => none

/-- The function of the driver that the action calls. -/
def BufferAction.call (cfg : Config P) (s : DriverState P S) :
    BufferAction P S → Option (DriverState P S)
  | .read port frame => some (readPort cfg port frame s)
  | .write port q_id num_of_buckets free_slots =>
      some (writePort cfg port q_id num_of_buckets free_slots s)
  | .enqueue port b q_id => some (enqueuePacket cfg port b q_id s)
  | .output b output_port => platformPacketOutput cfg b output_port s
  | .drop b => some (releaseBuffer cfg b s)
  | .packetIn sw b => some (platformPacketIn cfg sw b s)
  | .processPacketIns sw hal => some (Io.processPacketIns cfg sw (List.ofFn hal) s)
  | .packetOut sw buffer_id in_port contains_output buffer_size =>
      some (processPacketOut cfg sw buffer_id in_port contains_output buffer_size s)
  | .flowMod sw buffer_id result => some (processFlowMod sw buffer_id result s)
  | .expire sw now => some (expirePackets cfg sw now (s.storage sw).store.length s)
  | .drainQueues port => some (Io.drainQueues cfg port s)
  | .drainPacketIns sw => some (Io.drainPacketIns cfg sw s)
  | .destroyStorage sw => some (dropStored cfg sw (s.storage sw).store.length s)
  | .setPkt b pkt => some (s.setPkt b pkt)
  | .setPort port st => some (s.setPort port st)
  | .setLogicalPort sw i port => some (s.setLogicalPort sw i port)

/-- One call.  A buffer is used only by the code that holds it. -/
def bufferStep (cfg : Config P) (s : DriverState P S) (a : BufferAction P S) :
    Option (DriverState P S) :=
  if ∀ b ∈ a.uses, b ∈ s.held then a.call cfg s else none

end Xdpd.Io
