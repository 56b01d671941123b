import Xdpd.Io.MmapRx
import Xdpd.Io.NotifyPipe

/-!
# Transmission through the TX ring

`ioport_mmap::write` takes packets from an output queue and copies them into the free slots of the
TX ring, and then tells the kernel, with `send`, that there is something to transmit.  The kernel
takes the filled slots in the order of the ring, and makes them available again.

A slot counts as taken as soon as it is looked up, which is before the packet is: a packet that is
too long leaves its slot empty.
-/

namespace Xdpd.Io

open Xdpd.Lib

/-! ## The ring -/

/-- `TP_STATUS_AVAILABLE`. -/
def TP_STATUS_AVAILABLE : BitVec 32 := 0

/-- `TP_STATUS_SEND_REQUEST`. -/
def TP_STATUS_SEND_REQUEST : BitVec 32 := 1

/-- `TPACKET2_HDRLEN`, the aligned size of the header and that of the address behind it. -/
def TPACKET2_HDRLEN : ℕ := 52

/-- `sizeof(struct sockaddr_ll)`. -/
def sizeofSockaddrLl : ℕ := 20

/-- A slot of the ring.  `data` is what follows from where a packet is copied to.  What a copy
writes beyond the slot is not followed. -/
structure TxSlot where
  tpStatus : BitVec 32
  tpLen : BitVec 32
  tpSnaplen : BitVec 32
  data : ℕ → Byte

/-- `mmap_tx`, with the position of the kernel in its ring. -/
structure MmapTx where
  /-- `req.tp_frame_nr` -/
  frameNr : ℕ
  slots : ℕ → TxSlot
  tpos : ℕ
  kernelPos : ℕ

namespace MmapTx

/-- A ring that has just been mapped. -/
def new (frameNr : ℕ) : MmapTx where
  frameNr := frameNr
  slots _ := ⟨TP_STATUS_AVAILABLE, 0, 0, fun _ => 0⟩
  tpos := 0
  kernelPos := 0

/-- The position after `pos`. -/
def inc (frameNr pos : ℕ) : ℕ := if pos + 1 = frameNr then 0 else pos + 1

/-- `get_free_slot`: the slot, which is taken with this. -/
def getFreeSlot (tx : MmapTx) : Option (ℕ × MmapTx) :=
  if (tx.slots tx.tpos).tpStatus = TP_STATUS_AVAILABLE then
    some (tx.tpos, { tx with tpos := inc tx.frameNr tx.tpos })
  else none

/-- The kernel takes the slot that it has come to, if there is a packet in it. -/
def consume (tx : MmapTx) : MmapTx :=
  if (tx.slots tx.kernelPos).tpStatus = TP_STATUS_SEND_REQUEST then
    { tx with
      slots := Function.update tx.slots tx.kernelPos
        { tx.slots tx.kernelPos with tpStatus := TP_STATUS_AVAILABLE }
      kernelPos := inc tx.frameNr tx.kernelPos }
  else tx

variable {S : Type*}

/-- `fill_tx_slot`. -/
def fillTxSlot (hdr : ℕ) (packet : Datapacketx86 S) (tx : MmapTx) : MmapTx :=
  { tx with
    slots := Function.update tx.slots hdr
      { tpStatus := TP_STATUS_SEND_REQUEST
        tpLen := BitVec.ofNat 32 packet.len
        tpSnaplen := BitVec.ofNat 32 packet.len
        data := copyTo 0 packet.len packet.getBuffer (tx.slots hdr).data } }

end MmapTx

/-! ## The port -/

/-- The statistics of an output queue. -/
structure QueueStats where
  overrun : BitVec 64
  txPackets : BitVec 64
  txBytes : BitVec 64
  deriving DecidableEq, Repr

/-- What the sending path uses of an `ioport_mmap`, with the statistics of its port. -/
structure MmapPort (S : Type*) where
  notified : NotifiedQueues IO_IFACE_NUM_QUEUES (Datapacketx86 S)
  tx : Option MmapTx
  mps : ℕ
  txPackets : BitVec 64
  txBytes : BitVec 64
  txDropped : BitVec 64
  txErrors : BitVec 64
  queueStats : Fin IO_IFACE_NUM_QUEUES → QueueStats

/-- What has become of a packet that was taken from its queue, with its length. -/
inductive TxOutcome
  | copied (len : ℕ)
  | oversize (len : ℕ)
  deriving DecidableEq, Repr

/-- The loop of `write`, with the ring of the port and what has become of the packets so far. -/
structure Writing (S : Type*) where
  port : MmapPort S
  tx : MmapTx
  cnt : ℕ
  txBytesLocal : BitVec 32
  outcomes : List TxOutcome

namespace MmapPort

variable {S : Type*}

/-- `empty_pipe`. -/
def emptyPipe (slots : ℕ) (port : MmapPort S) : MmapPort S :=
  if port.notified.deferredDrain = 0 then port
  else { port with notified := port.notified.drain slots }

/-- A round of the loop with a packet that is longer than the port allows: it is dropped, and the
slot stays as it is. -/
def dropOversize (q_id : Fin IO_IFACE_NUM_QUEUES) (pkt : Datapacketx86 S)
    (notified : NotifiedQueues IO_IFACE_NUM_QUEUES (Datapacketx86 S)) (tx : MmapTx)
    (w : Writing S) : Writing S :=
  let stats := w.port.queueStats q_id
  { w with
    port :=
      { w.port with
        notified := notified.defer
        txDropped := w.port.txDropped + 1
        queueStats :=
          Function.update w.port.queueStats q_id { stats with overrun := stats.overrun + 1 } }
    tx := tx
    outcomes := w.outcomes ++ [.oversize pkt.len] }

/-- A round of the loop with a packet that is copied to the slot `hdr`. -/
def copyPkt (hdr : ℕ) (pkt : Datapacketx86 S)
    (notified : NotifiedQueues IO_IFACE_NUM_QUEUES (Datapacketx86 S)) (tx : MmapTx)
    (w : Writing S) : Writing S where
  port := { w.port with notified := notified.defer }
  tx := tx.fillTxSlot hdr pkt
  cnt := w.cnt + 1
  txBytesLocal := w.txBytesLocal + BitVec.ofNat 32 pkt.len
  outcomes := w.outcomes ++ [.copied pkt.len]

/-- The loop of `write`.  `kernel` says how many slots the kernel takes in the meantime, before each
round.  The result is the number of buckets that are left. -/
def writeLoop (q_id : Fin IO_IFACE_NUM_QUEUES) : ℕ → List ℕ → Writing S → ℕ × Writing S
  | 0, _, w => (0, w)
  | num_of_buckets + 1, kernel, w =>
      if (w.port.notified.queues q_id).isEmpty then (num_of_buckets + 1, w)
      else
        let w := { w with tx := MmapTx.consume^[kernel.headD 0] w.tx }
        match w.tx.getFreeSlot with
        | none => (num_of_buckets + 1, w)
        | some (hdr, tx) =>
            match w.port.notified.take q_id with
            | none => (num_of_buckets + 1, { w with tx := tx })
            | some (pkt, notified) =>
                if pkt.len > w.port.mps then
                  writeLoop q_id num_of_buckets kernel.tail (dropOversize q_id pkt notified tx w)
                else
                  writeLoop q_id num_of_buckets kernel.tail (copyPkt hdr pkt notified tx w)

/-- A call of `send` that has failed: all packets of the call count as errors, and the ring is
replaced. -/
def resetTx (q_id : Fin IO_IFACE_NUM_QUEUES) (cnt frameNr : ℕ) (port : MmapPort S) : MmapPort S :=
  let stats := port.queueStats q_id
  { port with
    txErrors := port.txErrors + BitVec.ofNat 64 cnt
    queueStats := Function.update port.queueStats q_id
      { stats with overrun := stats.overrun + BitVec.ofNat 64 cnt }
    tx := some (.new frameNr) }

/-- The statistics of the packets that were copied. -/
def countSent (q_id : Fin IO_IFACE_NUM_QUEUES) (cnt : ℕ) (txBytesLocal : BitVec 32)
    (port : MmapPort S) : MmapPort S :=
  let stats := port.queueStats q_id
  { port with
    txPackets := port.txPackets + BitVec.ofNat 64 cnt
    txBytes := port.txBytes + txBytesLocal.signExtend 64
    queueStats := Function.update port.queueStats q_id
      { stats with
        txPackets := stats.txPackets + BitVec.ofNat 64 cnt
        txBytes := stats.txBytes + txBytesLocal.signExtend 64 } }

/-- The call of `send` behind the loop, if there is something to send, and the statistics.  `sent`
is the result of `send`. -/
def sendSlots (q_id : Fin IO_IFACE_NUM_QUEUES) (sent : Bool) (w : Writing S) : MmapPort S :=
  let port := { w.port with tx := some w.tx }
  if 0 < w.cnt then
    (if sent then port else port.resetTx q_id w.cnt w.tx.frameNr).countSent q_id w.cnt
      w.txBytesLocal
  else port

/-- `ioport_mmap::write`: the number of buckets that are left, the port, and what has become of the
packets that were taken from the queue. -/
def write (slots : ℕ) (q_id : Fin IO_IFACE_NUM_QUEUES) (num_of_buckets : ℕ) (kernel : List ℕ)
    (sent : Bool) (port : MmapPort S) : ℕ × MmapPort S × List TxOutcome :=
  match port.tx with
  | none => (num_of_buckets, port, [])
  | some tx =>
      let r := writeLoop q_id num_of_buckets kernel ⟨port, tx, 0, 0, []⟩
      (r.1, (sendSlots q_id sent r.2).emptyPipe slots, r.2.outcomes)

end MmapPort

/-! ## Calls -/

/-- The calls of a port, and what the kernel does between them. -/
inductive MmapCall (S : Type*)
  | enqueuePacket (up forwardPackets : Bool) (pkt : Datapacketx86 S) (q_id : ℕ)
  /-- reception has a ring of its own -/
  | read
  | write (q_id : Fin IO_IFACE_NUM_QUEUES) (num_of_buckets : ℕ) (kernel : List ℕ) (sent : Bool)
  /-- the kernel takes that many slots, if it does not have to stop before -/
  | kernel (n : ℕ)

/-- A port, with what has become of all packets that were taken from its queues. -/
structure Transmission (S : Type*) where
  port : MmapPort S
  outcomes : List TxOutcome

namespace Transmission

variable {S : Type*}

/-- One call. -/
def next (slots : ℕ) (s : Transmission S) : MmapCall S → Transmission S
  | .enqueuePacket up forwardPackets pkt q_id =>
      { s with
        port :=
          { s.port with
            notified := s.port.notified.enqueuePacket slots up forwardPackets pkt q_id } }
  | .read => s
  | .write q_id num_of_buckets kernel sent =>
      let r := s.port.write slots q_id num_of_buckets kernel sent
      ⟨r.2.1, s.outcomes ++ r.2.2⟩
  | .kernel n => { s with port := { s.port with tx := s.port.tx.map MmapTx.consume^[n] } }

/-- A port with packets in its queues and with a ring that has just been mapped. -/
def start (notified : NotifiedQueues IO_IFACE_NUM_QUEUES (Datapacketx86 S)) (frameNr mps : ℕ) :
    Transmission S where
  port :=
    { notified := notified
      tx := some (.new frameNr)
      mps := mps
      txPackets := 0
      txBytes := 0
      txDropped := 0
      txErrors := 0
      queueStats _ := ⟨0, 0, 0⟩ }
  outcomes := []

end Transmission

end Xdpd.Io
