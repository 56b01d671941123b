import Xdpd.Io.Bufferpool
import Xdpd.Lib.Transition

/-!
# The paths of packets and mbufs

A packet is a `datapacket_t`, and has an mbuf with the frame.  A core processes the frames that it
receives in a packet on its own stack; replicas, packet-ins and packet-outs are packets of the
`bufferpool`.  The functions that the pipeline calls for a packet that it holds take it over, and
dispose of the mbuf and of the packet separately.

The pipeline itself, which is not part of the driver, calls them in any order.  Flooding and the
dispatching of a packet-in call back into other code, and are therefore more than one step.  What
the memory pools, the rings and the control plane answer is a part of the actions.  The functions
are those of a build with `NDEBUG` and without `DEBUG`.
-/

namespace Xdpd.Dpdk.Mbufs

open Xdpd.Lib

/-- A `datapacket_t`: the one on the stack of a core, or one of the `bufferpool`.  Just the latter
are initialised with `packet_in_bufferpool`. -/
inductive Packet (C : Type*)
  | stack (core : C)
  | pool (id : ℕ)
  deriving DecidableEq

/-- What the driver reads of a `datapacket_t` and of its `datapacket_dpdk_t`. -/
structure Datapacket (S : Type*) where
  sw : Option S
  mbuf : Option ℕ
  portIn : ℕ
  outputQueue : ℕ

/-- `port_type_t`. -/
inductive PortType
  | physical
  | virtual
  | nfShmem
  | nfExternal
  deriving DecidableEq

/-- What the driver reads of a `switch_port_t`. -/
structure SwitchPort (P S : Type*) where
  type : PortType
  /-- the state of the port; for a virtual link, the port at its other end -/
  platformPortState : Option P
  attachedSw : Option S
  ofPortNum : ℕ
  up : Bool
  forwardPackets : Bool
  noFlood : Bool

/-- Where mbufs are that belong to no packet. -/
inductive MbufQueue (P C : Type*)
  /-- the free ones, in `direct_pools` -/
  | pool
  /-- those of the devices and the NFs, and of the rings to and from them -/
  | device
  /-- `tx_queues_burst` of a core -/
  | burst (core : C) (port : P) (queue : ℕ)
  /-- `port_tx_lcore_queue` and `port_tx_nf_lcore_queue` -/
  | txLcore (port : P) (queue : ℕ)
  deriving DecidableEq

/-- The compile time options of the driver, and its cores. -/
structure Config (C : Type*) where
  cores : List C
  nodup : cores.Nodup
  /-- the number of mbufs of all pools -/
  mbufs : ℕ
  /-- `bufferpool::capacity` -/
  capacity : ℕ
  /-- `LOGICAL_SWITCH_MAX_LOG_PORTS` -/
  maxLogPorts : ℕ
  /-- `IO_IFACE_NUM_QUEUES` -/
  numQueues : ℕ
  /-- `IO_IFACE_MAX_PKT_BURST` -/
  maxPktBurst : ℕ
  /-- `IO_PKT_IN_STORAGE_MAX_BUF` -/
  storageMaxBuf : ℕ
  /-- `IO_PKT_IN_STORAGE_EXPIRATION_S` -/
  storageExpirationS : ℤ

/-- The variables of `process_packet_ins` for a packet that it has stored, while the control plane
processes the packet-in. -/
structure Dispatch (S : Type*) where
  sw : S
  mbuf : Option ℕ
  id : BitVec 32

/-- The state of the driver. -/
structure Driver (P S C : Type*) where
  mbufs : MbufQueue P C → List ℕ
  /-- the queue of free packets of the `bufferpool` -/
  cq : List ℕ
  /-- the cores that do not process a packet -/
  idle : List C
  /-- the packets that the pipeline holds -/
  held : List (Packet C)
  /-- the packets in the loop of `platform_packet_output` -/
  flooding : List (Packet C)
  pktIns : List ℕ
  storage : S → Io.DatapacketStorage
  pkts : Packet C → Datapacket S
  /-- the variable `i` of the loop of `platform_packet_output` -/
  floodIndex : Packet C → ℕ
  dispatching : Option (Dispatch S)
  ports : P → SwitchPort P S
  logicalPorts : S → ℕ → Option P
  /-- a null pointer has been dereferenced -/
  crashed : Bool

variable {P S C : Type*}

namespace Driver

/-- All mbufs and packets are free, and no port has been set up. -/
def init (cfg : Config C) : Driver P S C where
  mbufs
    | .pool => List.range cfg.mbufs
    | _ => []
  cq := List.range (cfg.capacity - 1)
  idle := cfg.cores
  held := []
  flooding := []
  pktIns := []
  storage _ := { next_id := 1, store := [] }
  pkts _ := { sw := none, mbuf := none, portIn := 0, outputQueue := 0 }
  floodIndex _ := 0
  dispatching := none
  ports _ :=
    { type := .physical
      platformPortState := none
      attachedSw := none
      ofPortNum := 0
      up := false
      forwardPackets := false
      noFlood := false }
  logicalPorts _ _ := none
  crashed := false

/-- A null pointer is dereferenced. -/
def crash (s : Driver P S C) : Driver P S C := { s with crashed := true }

/-- The pipeline goes on with a packet. -/
def hold (s : Driver P S C) (pkt : Packet C) : Driver P S C :=
  { s with held := pkt :: s.held }

section Setters

variable [DecidableEq P] [DecidableEq S] [DecidableEq C]

/-- The packet is written to. -/
def setPkt (s : Driver P S C) (pkt : Packet C) (x : Datapacket S) : Driver P S C :=
  { s with pkts := Function.update s.pkts pkt x }

/-- The storage of a switch is set. -/
def setStorage (s : Driver P S C) (sw : S) (st : Io.DatapacketStorage) : Driver P S C :=
  { s with storage := Function.update s.storage sw st }

/-- An mbuf is put behind the others of a queue. -/
def put (s : Driver P S C) (queue : MbufQueue P C) (mbuf : Option ℕ) : Driver P S C :=
  { s with mbufs := Function.update s.mbufs queue (s.mbufs queue ++ mbuf.toList) }

/-- An mbuf is taken out of a queue. -/
def take (s : Driver P S C) (queue : MbufQueue P C) (m : ℕ) : Driver P S C :=
  { s with mbufs := Function.update s.mbufs queue ((s.mbufs queue).erase m) }

/-- The packet is not used any more by the code that has held it.  The packet of a core is free for
the next frame. -/
def forget (s : Driver P S C) : Packet C → Driver P S C
  | .stack core => { s with held := s.held.erase (.stack core), idle := core :: s.idle }
  | .pool id => { s with held := s.held.erase (.pool id) }

omit [DecidableEq P] [DecidableEq S] in
@[simp] lemma setPkt_pkts (s : Driver P S C) (pkt : Packet C) (x : Datapacket S) :
    (s.setPkt pkt x).pkts = Function.update s.pkts pkt x := rfl

omit [DecidableEq P] [DecidableEq S] [DecidableEq C] in
@[simp] lemma hold_pkts (s : Driver P S C) (pkt : Packet C) : (s.hold pkt).pkts = s.pkts := rfl

omit [DecidableEq P] [DecidableEq S] in
@[simp] lemma forget_pkts (s : Driver P S C) (pkt : Packet C) :
    (s.forget pkt).pkts = s.pkts := by
  cases pkt <;> rfl

end Setters

end Driver

open Driver

variable [DecidableEq P] [DecidableEq S] [DecidableEq C]

/-! ## Pools -/

/-- `rte_pktmbuf_free`. -/
def rtePktmbufFree (mbuf : Option ℕ) (s : Driver P S C) : Driver P S C := s.put .pool mbuf

omit [DecidableEq P] [DecidableEq S] [DecidableEq C] in
/-- `bufferpool::release_buffer`.  It ignores a failure to write to the queue. -/
def releaseBuffer (cfg : Config C) (id : ℕ) (s : Driver P S C) : Driver P S C :=
  { s with cq := if s.cq.length + 1 < cfg.capacity then s.cq ++ [id] else s.cq }

/-- `if(packet_in_bufferpool) release_buffer(pkt)`, for a packet that the pipeline has held. -/
def finish (cfg : Config C) (s : Driver P S C) : Packet C → Driver P S C
  | .stack core => s.forget (.stack core)
  | .pool id => releaseBuffer cfg id (s.forget (.pool id))

/-- `platform_packet_drop`. -/
def platformPacketDrop (cfg : Config C) (pkt : Packet C) (s : Driver P S C) : Driver P S C :=
  finish cfg (rtePktmbufFree (s.pkts pkt).mbuf s) pkt

/-! ## Transmission -/

/-- At most so many mbufs are taken out of the queue `src`; the first `ret` of them are put in the
queue `dst`, and the others freed. -/
def handOn (src dst : MbufQueue P C) :
    ℕ → ℕ → (MbufQueue P C → List ℕ) → MbufQueue P C → List ℕ
  | 0, _, mbufs => mbufs
  | n + 1, ret, mbufs =>
      match mbufs src with
      | [] => mbufs
      | m :: rest =>
          let mbufs := Function.update mbufs src rest
          match ret with
          | 0 => handOn src dst n 0 (Function.update mbufs .pool (mbufs .pool ++ [m]))
          | ret + 1 => handOn src dst n ret (Function.update mbufs dst (mbufs dst ++ [m]))

/-- `flush_port_queue_tx_burst` and `flush_kni_nf_port_burst`.  The ring takes `ret` mbufs. -/
def flushBurst (core : C) (port : P) (queue ret : ℕ) (s : Driver P S C) : Driver P S C :=
  if (s.ports port).up = false then s
  else
    { s with
      mbufs := handOn (.burst core port queue) (.txLcore port queue)
        (s.mbufs (.burst core port queue)).length ret s.mbufs }

/-- `transmit_port_queue_tx_burst` and `transmit_kni_nf_port_burst`.  The device takes `ret`
mbufs. -/
def transmitBurst (cfg : Config C) (port : P) (queue ret : ℕ) (s : Driver P S C) : Driver P S C :=
  { s with mbufs := handOn (.txLcore port queue) .device cfg.maxPktBurst ret s.mbufs }

/-- What is answered while a packet is sent. -/
structure Answers where
  /-- the core is active, and not the one of the management -/
  active : Bool
  /-- as many mbufs are taken by the ring, if the burst is flushed -/
  ret : ℕ
  /-- the ring to the NF is full -/
  full : Bool
  deriving DecidableEq

/-- `tx_pkt` and `tx_pkt_kni_nf_port`. -/
def txPkt (cfg : Config C) (core : C) (port : P) (queue : ℕ) (answers : Answers)
    (mbuf : Option ℕ) (s : Driver P S C) : Driver P S C :=
  let s := s.put (.burst core port queue) mbuf
  if answers.active = false ∨ (s.mbufs (.burst core port queue)).length = cfg.maxPktBurst then
    flushBurst core port queue answers.ret s
  else s

/-- `tx_pkt_vlink`, after the ingress port has been set.  The packet goes through the pipeline of
the switch at the other end. -/
def txPktVlink (cfg : Config C) (vlinkPair : P) (pkt : Packet C) (s : Driver P S C) :
    Driver P S C :=
  match (s.ports vlinkPair).attachedSw with
  | none => platformPacketDrop cfg pkt s
  | some _ => s

/-- `output_single_packet`. -/
def outputSinglePacket (cfg : Config C) (core : C) (answers : Answers) (pkt : Packet C) (port : P)
    (s : Driver P S C) : Driver P S C :=
  match (s.ports port).platformPortState, (s.ports port).up && (s.ports port).forwardPackets with
  | some state, true =>
      match (s.ports port).type with
      | .virtual =>
          txPktVlink cfg state pkt
            (s.setPkt pkt { s.pkts pkt with portIn := (s.ports state).ofPortNum })
      | .nfShmem =>
          finish cfg (s.put (if answers.full then .pool else .device) (s.pkts pkt).mbuf) pkt
      | .nfExternal => finish cfg (txPkt cfg core port 0 answers (s.pkts pkt).mbuf s) pkt
      | .physical =>
          if (s.pkts pkt).outputQueue < cfg.numQueues then
            finish cfg
              (txPkt cfg core port (s.pkts pkt).outputQueue answers (s.pkts pkt).mbuf s) pkt
          else
            -- the mbuf is written behind the bursts of the port
            finish cfg s pkt
  | _, _ => finish cfg (rtePktmbufFree (s.pkts pkt).mbuf s) pkt

/-! ## Copies -/

/-- `platform_packet_replicate__`, where `rte_pktmbuf_alloc` gives `alloc`, and `room` says whether
`rte_pktmbuf_append` succeeds. -/
def platformPacketReplicate (cfg : Config C) (alloc : Option ℕ) (room : Bool) (pkt : Packet C)
    (s : Driver P S C) : Option ℕ × Driver P S C :=
  match s.cq with
  | [] => (none, s)
  | id :: cq =>
      match alloc, room with
      | none, _ => (none, releaseBuffer cfg id { s with cq := cq })
      | some m, false =>
          (none, rtePktmbufFree (some m) ((releaseBuffer cfg id { s with cq := cq }).take .pool m))
      | some m, true =>
          (some id, ((({ s with cq := cq }).take .pool m).setPkt (.pool id)
            { s.pkts pkt with mbuf := some m }).hold (.pool id))

/-- `platform_packet_detach__`, for the packet of a core. -/
def platformPacketDetach (core : C) (s : Driver P S C) : Option (ℕ × Driver P S C) :=
  match s.cq with
  | [] => none
  | id :: cq =>
      some (id, (((({ s with cq := cq }).setPkt (.pool id) (s.pkts (.stack core))).setPkt
        (.stack core) { s.pkts (.stack core) with mbuf := none }).forget (.stack core)).hold
          (.pool id))

/-! ## Output -/

/-- The argument `output_port` of `platform_packet_output`: `NULL`, one of the meta ports, or a
port. -/
inductive OutputPort (P : Type*)
  | null
  | flood
  | all
  | inPort
  | port (port : P)
  deriving DecidableEq

/-- `platform_packet_output`, up to the loop over the ports of the switch. -/
def platformPacketOutput (cfg : Config C) (core : C) (answers : Answers) (pkt : Packet C)
    (outputPort : OutputPort P) (s : Driver P S C) : Driver P S C :=
  match outputPort with
  | .null => s.forget pkt
  | .flood | .all =>
      { s with
        held := s.held.erase pkt
        flooding := pkt :: s.flooding
        floodIndex := Function.update s.floodIndex pkt 0 }
  | .inPort =>
      if cfg.maxLogPorts ≤ (s.pkts pkt).portIn then s.forget pkt
      else
        match (s.pkts pkt).sw with
        | none => s.crash
        | some sw =>
            match s.logicalPorts sw (s.pkts pkt).portIn with
            | none => s.forget pkt
            | some port => outputSinglePacket cfg core answers pkt port s
  | .port port => outputSinglePacket cfg core answers pkt port s

/-- What follows the loop of `platform_packet_output`: the original is discarded. -/
def endFlood (cfg : Config C) (pkt : Packet C) (s : Driver P S C) : Driver P S C :=
  platformPacketDrop cfg pkt { s with held := pkt :: s.held, flooding := s.flooding.erase pkt }

/-- The port that the loop of `platform_packet_output` comes to, if it does not skip it. -/
def floodPort (s : Driver P S C) (pkt : Packet C) (sw : S) : Option P :=
  match s.logicalPorts sw (s.floodIndex pkt) with
  | none => none
  | some port =>
      if s.floodIndex pkt = (s.pkts pkt).portIn ∨ (s.ports port).noFlood = true then none
      else some port

/-- One round of the loop of `platform_packet_output`. -/
def floodNext (cfg : Config C) (core : C) (alloc : Option ℕ) (room : Bool) (answers : Answers)
    (pkt : Packet C) (s : Driver P S C) : Driver P S C :=
  if s.floodIndex pkt < cfg.maxLogPorts then
    match (s.pkts pkt).sw with
    | none => s.crash
    | some sw =>
        let s' : Driver P S C :=
          { s with floodIndex := Function.update s.floodIndex pkt (s.floodIndex pkt + 1) }
        match floodPort s pkt sw with
        | none => s'
        | some port =>
            match platformPacketReplicate cfg alloc room pkt s' with
            | (none, s'') => endFlood cfg pkt s''
            | (some id, s'') => outputSinglePacket cfg core answers (.pool id) port s''
  else endFlood cfg pkt s

/-! ## Packet-in and packet-out -/

/-- `enqueue_pktin`, and what `platform_of1x_packet_in` does when the ring is full. -/
def enqueuePktin (cfg : Config C) (full : Bool) (id : ℕ) (s : Driver P S C) : Driver P S C :=
  if full then platformPacketDrop cfg (.pool id) s
  else { s with held := s.held.erase (.pool id), pktIns := s.pktIns ++ [id] }

/-- `platform_of1x_packet_in`. -/
def platformOf1xPacketIn (cfg : Config C) (sw : Option S) (full : Bool) (pkt : Packet C)
    (s : Driver P S C) : Driver P S C :=
  match sw, pkt with
  | none, _ => s.forget pkt
  | some _, .stack core =>
      match platformPacketDetach core s with
      | none => s.forget (.stack core)
      | some (id, s') => enqueuePktin cfg full id s'
  | some _, .pool id => enqueuePktin cfg full id s

/-- `process_packet_ins`, up to the call of the control plane. -/
def processPacketIns (cfg : Config C) (now : ℤ) (s : Driver P S C) : Driver P S C :=
  match s.pktIns with
  | [] => s
  | id :: pktIns =>
      match (s.pkts (.pool id)).sw with
      | none => s.crash
      | some sw =>
          match (s.storage sw).storePacket cfg.storageMaxBuf now id with
          | none =>
              releaseBuffer cfg id
                (rtePktmbufFree (s.pkts (.pool id)).mbuf { s with pktIns := pktIns })
          | some (storeid, st) =>
              { s.setStorage sw st with
                pktIns := pktIns
                dispatching := some ⟨sw, (s.pkts (.pool id)).mbuf, storeid⟩ }

/-- `process_packet_ins`, after the call of the control plane.  `accepted` says whether it returns
`HAL_SUCCESS`. -/
def packetInProcessed (cfg : Config C) (accepted : Bool) (d : Dispatch S) (s : Driver P S C) :
    Driver P S C :=
  let s : Driver P S C := { s with dispatching := none }
  if accepted then s
  else
    match (s.storage d.sw).getPacket d.id with
    | (none, _) => (rtePktmbufFree d.mbuf s).crash
    | (some id, st) => releaseBuffer cfg id (rtePktmbufFree d.mbuf (s.setStorage d.sw st))

/-- `OF1XP_NO_BUFFER`. -/
def OF1XP_NO_BUFFER : BitVec 32 := 0xffffffff

/-- `hal_driver_of1x_process_packet_out`, up to the call of the pipeline.  `containsOutput` says
whether the action group has an output, and `rte_pktmbuf_alloc` gives `alloc`. -/
def processPacketOut (cfg : Config C) (sw : S) (bufferId : BitVec 32) (inPort : ℕ)
    (containsOutput : Bool) (alloc : Option ℕ) (s : Driver P S C) : Driver P S C :=
  if containsOutput = false then
    if bufferId = OF1XP_NO_BUFFER then s
    else
      match (s.storage sw).getPacket bufferId with
      | (none, _) => s
      | (some id, st) => releaseBuffer cfg id (s.setStorage sw st)
  else if bufferId ≠ 0 ∧ bufferId ≠ OF1XP_NO_BUFFER then
    match (s.storage sw).getPacket bufferId with
    | (none, _) => s
    | (some id, st) =>
        ((s.setStorage sw st).setPkt (.pool id) { s.pkts (.pool id) with portIn := inPort }).hold
          (.pool id)
  else
    match s.cq with
    | [] => s
    | id :: cq =>
        match alloc with
        | none => { s with cq := cq }
        | some m =>
            ((({ s with cq := cq }).take .pool m).setPkt (.pool id)
              { sw := some sw, mbuf := some m, portIn := inPort, outputQueue := 0 }).hold (.pool id)

/-- `hal_driver_of1x_process_flow_mod_add` and `_modify`, up to the call of the pipeline.  `result`
says whether the flow table took the entry. -/
def processFlowMod (sw : S) (bufferId : BitVec 32) (result : Bool) (s : Driver P S C) :
    Driver P S C :=
  if result = true ∧ bufferId ≠ 0 ∧ bufferId ≠ OF1XP_NO_BUFFER then
    match (s.storage sw).getPacket bufferId with
    | (none, _) => s
    | (some id, st) => (s.setStorage sw st).hold (.pool id)
  else s

/-- One round of the loop that takes expired packets out of a storage, in `process_timeouts`. -/
def expirePacket (cfg : Config C) (sw : S) (now : ℤ) (s : Driver P S C) : Driver P S C :=
  match (s.storage sw).oldestPacketNeedsExpiration cfg.storageExpirationS now with
  | none => s
  | some bufferId =>
      match (s.storage sw).getPacket bufferId with
      | (none, _) => s
      | (some id, st) =>
          releaseBuffer cfg id (rtePktmbufFree (s.pkts (.pool id)).mbuf (s.setStorage sw st))

/-- One round of the loop of `datapacket_storage::~datapacket_storage`. -/
def dropStored (cfg : Config C) (sw : S) (s : Driver P S C) : Driver P S C :=
  match (s.storage sw).store with
  | [] => s
  | map :: store =>
      releaseBuffer cfg map.pkt (rtePktmbufFree (s.pkts (.pool map.pkt)).mbuf
        (s.setStorage sw { s.storage sw with store := store }))

/-! ## The system -/

/-- `process_port_rx`, for one mbuf of the burst.  `ofPortNum` is the number of the port, unless no
port is known for it. -/
def processPortRx (core : C) (m : ℕ) (ofPortNum : Option ℕ) (s : Driver P S C) : Driver P S C :=
  match ofPortNum with
  | none => rtePktmbufFree (some m) (s.take .device m)
  | some ofPortNum =>
      { (s.take .device m).setPkt (.stack core)
          { s.pkts (.stack core) with mbuf := some m, portIn := ofPortNum, outputQueue := 0 } with
        idle := s.idle.erase core
        held := .stack core :: s.held }

/-- What can happen next. -/
inductive Action (P S C : Type*)
  /-- a device takes a free mbuf for a frame that it will receive -/
  | refill (m : ℕ)
  /-- a device has sent the frame of an mbuf -/
  | sent (m : ℕ)
  | receive (core : C) (m : ℕ) (ofPortNum : Option ℕ)
  | flush (core : C) (port : P) (queue ret : ℕ)
  | transmit (port : P) (queue ret : ℕ)
  | output (core : C) (answers : Answers) (pkt : Packet C) (outputPort : OutputPort P)
  | floodNext (core : C) (alloc : Option ℕ) (room : Bool) (answers : Answers) (pkt : Packet C)
  | replicate (alloc : Option ℕ) (room : Bool) (pkt : Packet C)
  | detach (core : C)
  | drop (pkt : Packet C)
  | packetIn (sw : Option S) (full : Bool) (pkt : Packet C)
  | processPacketIns (now : ℤ)
  | packetInProcessed (accepted : Bool)
  | packetOut (sw : S) (bufferId : BitVec 32) (inPort : ℕ) (containsOutput : Bool)
      (alloc : Option ℕ)
  | flowMod (sw : S) (bufferId : BitVec 32) (result : Bool)
  | expire (sw : S) (now : ℤ)
  | dropStored (sw : S)
  /-- the pipeline changes a packet that it holds -/
  | setPkt (pkt : Packet C) (sw : Option S) (outputQueue : ℕ)
  /-- a port is configured -/
  | setPort (port : P) (x : SwitchPort P S)
  /-- a port is attached to a switch, or detached -/
  | setLogicalPort (sw : S) (i : ℕ) (port : Option P)

/-- The packet that the pipeline calls a function for. -/
def Action.uses : Action P S C → Option (Packet C)
  | .output _ _ pkt _ | .replicate _ _ pkt | .drop pkt | .packetIn _ _ pkt | .setPkt pkt _ _ =>
      some pkt
  | .detach core => some (.stack core)
  | _ => none

/-- The mbuf that is allocated. -/
def Action.allocs : Action P S C → Option ℕ
  | .refill m => some m
  | .floodNext _ alloc _ _ _ | .replicate alloc _ _ | .packetOut _ _ _ _ alloc => alloc
  | _ => none

/-- What the action does. -/
def Action.call (cfg : Config C) (s : Driver P S C) : Action P S C → Option (Driver P S C)
  | .refill m => some ((s.take .pool m).put .device (some m))
  | .sent m => if m ∈ s.mbufs .device then some ((s.take .device m).put .pool (some m)) else none
  | .receive core m ofPortNum =>
      if core ∈ s.idle ∧ m ∈ s.mbufs .device then some (processPortRx core m ofPortNum s) else none
  | .flush core port queue ret => some (flushBurst core port queue ret s)
  | .transmit port queue ret => some (transmitBurst cfg port queue ret s)
  | .output core answers pkt outputPort =>
      some (platformPacketOutput cfg core answers pkt outputPort s)
  | .floodNext core alloc room answers pkt =>
      if pkt ∈ s.flooding then some (Mbufs.floodNext cfg core alloc room answers pkt s) else none
  | .replicate alloc room pkt => some (platformPacketReplicate cfg alloc room pkt s).2
  | .detach core => some ((platformPacketDetach core s).elim s Prod.snd)
  | .drop pkt => some (platformPacketDrop cfg pkt s)
  | .packetIn sw full pkt => some (platformOf1xPacketIn cfg sw full pkt s)
  | .processPacketIns now =>
      if s.dispatching.isNone then some (Mbufs.processPacketIns cfg now s) else none
  | .packetInProcessed accepted =>
      s.dispatching.map fun d => Mbufs.packetInProcessed cfg accepted d s
  | .packetOut sw bufferId inPort containsOutput alloc =>
      some (processPacketOut cfg sw bufferId inPort containsOutput alloc s)
  | .flowMod sw bufferId result => some (processFlowMod sw bufferId result s)
  | .expire sw now => some (expirePacket cfg sw now s)
  | .dropStored sw => some (Mbufs.dropStored cfg sw s)
  | .setPkt pkt sw outputQueue =>
      some (s.setPkt pkt { s.pkts pkt with sw := sw, outputQueue := outputQueue })
  | .setPort port x => some { s with ports := Function.update s.ports port x }
  | .setLogicalPort sw i port =>
      some { s with
        logicalPorts := Function.update s.logicalPorts sw
          (Function.update (s.logicalPorts sw) i port) }

/-- One step.  A packet is used only by the code that holds it, and just free mbufs are
allocated. -/
def step (cfg : Config C) (s : Driver P S C) (a : Action P S C) : Option (Driver P S C) :=
  if s.crashed = false ∧ (∀ pkt ∈ a.uses, pkt ∈ s.held) ∧ ∀ m ∈ a.allocs, m ∈ s.mbufs .pool then
    a.call cfg s
  else none

end Xdpd.Dpdk.Mbufs
