import Xdpd.Io.TxRing

/-!
# The notifications of the ports

A port of the class `ioport_mmap` has a pipe for its output queues, and one of the class
`ioport_vlink` has another one for its input queue.  The scheduler visits a port for as long as
there are bytes in the pipe.

A byte that cannot be written, because the pipe is full, is counted for draining all the same, and
from then on a byte too many is read some time.  If no byte is lost, all packets are noticed
(`accounted_of_run`), and none is lost if the pipe has room for a byte for every packet that the
queues can hold (`accounted_of_large_pipe`).
-/

namespace Xdpd.Io

open Xdpd.Lib

/-! ## Virtual links -/

/-- An `ioport_vlink`: the output queues with `tx_notify_pipe` and `deferred_drain_tx`, the input
queue with `rx_notify_pipe` and `deferred_drain_rx`, and the statistics. -/
structure VlinkPort (S : Type*) where
  tx : NotifiedQueues IO_IFACE_NUM_QUEUES (Datapacketx86 S)
  rx : NotifiedQueues 1 (Datapacketx86 S)
  ofPortNum : BitVec 32
  rxPackets : BitVec 64
  rxBytes : BitVec 64
  txPackets : BitVec 64
  txBytes : BitVec 64
  txDropped : BitVec 64
  queueStats : Fin IO_IFACE_NUM_QUEUES → QueueStats

/-- The loop of `write`, with what it has transmitted so far. -/
structure VlinkWriting (S : Type*) where
  port : VlinkPort S
  cnt : ℕ
  txBytesLocal : BitVec 32

namespace VlinkPort

variable {S : Type*}

/-- `empty_pipe`. -/
def emptyPipe {n : ℕ} (slots : ℕ) (s : NotifiedQueues n (Datapacketx86 S)) :
    NotifiedQueues n (Datapacketx86 S) :=
  if s.deferredDrain ≤ 0 then s else s.drain slots

/-- `ioport_vlink::read`. -/
def read (slots : ℕ) (port : VlinkPort S) : Option (Datapacketx86 S) × VlinkPort S :=
  match port.rx.take 0 with
  | none => (none, port)
  | some (pkt, rx) =>
      (some { pkt with portIn := port.ofPortNum },
        { port with
          rx := emptyPipe slots rx.defer
          rxPackets := port.rxPackets + 1
          rxBytes := port.rxBytes + BitVec.ofNat 64 pkt.len })

/-- `ioport_vlink::tx_pkt`, which the port at the other end calls.  Without a result it returns
`ROFL_FAILURE`. -/
def txPkt (slots : ℕ) (up : Bool) (pkt : Datapacketx86 S) (port : VlinkPort S) :
    Option (VlinkPort S) :=
  if up = false then none
  else (port.rx.store slots 0 pkt).map fun rx => { port with rx := rx }

/-- The packet was not taken by the other end. -/
def dropPkt (q_id : Fin IO_IFACE_NUM_QUEUES)
    (tx : NotifiedQueues IO_IFACE_NUM_QUEUES (Datapacketx86 S)) (port : VlinkPort S) :
    VlinkPort S :=
  let stats := port.queueStats q_id
  { port with
    tx := tx.defer
    txDropped := port.txDropped + 1
    queueStats := Function.update port.queueStats q_id { stats with overrun := stats.overrun + 1 } }

/-- The loop of `write`.  `accepted` are the results of `tx_pkt` of the other end. -/
def writeLoop (q_id : Fin IO_IFACE_NUM_QUEUES) :
    ℕ → List Bool → VlinkWriting S → ℕ × VlinkWriting S
  | 0, _, w => (0, w)
  | num_of_buckets + 1, accepted, w =>
      match w.port.tx.take q_id with
      | none => (num_of_buckets + 1, w)
      | some (pkt, tx) =>
          if accepted.headD false then
            writeLoop q_id num_of_buckets accepted.tail
              { port := { w.port with tx := tx.defer }
                cnt := w.cnt + 1
                txBytesLocal := w.txBytesLocal + BitVec.ofNat 32 pkt.len }
          else
            writeLoop q_id num_of_buckets accepted.tail { w with port := w.port.dropPkt q_id tx }

/-- The statistics of the packets that were transmitted. -/
def countSent (q_id : Fin IO_IFACE_NUM_QUEUES) (w : VlinkWriting S) : VlinkPort S :=
  let stats := w.port.queueStats q_id
  { w.port with
    txPackets := w.port.txPackets + BitVec.ofNat 64 w.cnt
    txBytes := w.port.txBytes + w.txBytesLocal.signExtend 64
    queueStats := Function.update w.port.queueStats q_id
      { stats with
        txPackets := stats.txPackets + BitVec.ofNat 64 w.cnt
        txBytes := stats.txBytes + w.txBytesLocal.signExtend 64 } }

/-- `ioport_vlink::write`: the number of buckets that are left, and the port. -/
def write (slots : ℕ) (q_id : Fin IO_IFACE_NUM_QUEUES) (num_of_buckets : ℕ) (accepted : List Bool)
    (port : VlinkPort S) : ℕ × VlinkPort S :=
  let r := writeLoop q_id num_of_buckets accepted ⟨port, 0, 0⟩
  let port := countSent q_id r.2
  (r.1, { port with tx := emptyPipe slots port.tx })

/-- A port with empty queues. -/
def start (capacity : ℕ) : VlinkPort S where
  tx := .empty IO_IFACE_NUM_QUEUES capacity
  rx := .empty 1 capacity
  ofPortNum := 0
  rxPackets := 0
  rxBytes := 0
  txPackets := 0
  txBytes := 0
  txDropped := 0
  queueStats _ := ⟨0, 0, 0⟩

end VlinkPort

/-- The calls of a port of a virtual link. -/
inductive VlinkCall (S : Type*)
  | enqueuePacket (up forwardPackets : Bool) (pkt : Datapacketx86 S) (q_id : ℕ)
  | txPkt (up : Bool) (pkt : Datapacketx86 S)
  | read
  | write (q_id : Fin IO_IFACE_NUM_QUEUES) (num_of_buckets : ℕ) (accepted : List Bool)

/-- One call. -/
def VlinkPort.next {S : Type*} (slots : ℕ) (port : VlinkPort S) : VlinkCall S → VlinkPort S
  | .enqueuePacket up forwardPackets pkt q_id =>
      { port with tx := port.tx.enqueuePacket slots up forwardPackets pkt q_id }
  | .txPkt up pkt => (port.txPkt slots up pkt).getD port
  | .read => (port.read slots).2
  | .write q_id num_of_buckets accepted => (port.write slots q_id num_of_buckets accepted).2

/-! ## One call -/

namespace NotifiedQueues

variable {n : ℕ} {Pkt S : Type*} {s s' : NotifiedQueues n Pkt} {d slots : ℕ}

/-- The pipe has room for a notification. -/
def HasRoom (s : NotifiedQueues n Pkt) : Prop := s.pipe.unread < s.pipe.capacity

/-- `enqueue_packet` stores the packet. -/
def Stores (slots : ℕ) (up forwardPackets : Bool) (pkt : Datapacketx86 S) (q_id : ℕ)
    (s : NotifiedQueues IO_IFACE_NUM_QUEUES (Datapacketx86 S)) : Prop :=
  up = true ∧ forwardPackets = true ∧ MIN_PKT_LEN ≤ pkt.len ∧
    (s.queues (queueOf q_id)).length + 1 < slots

lemma Lost.exists_store {q : Fin n} {pkt : Pkt} (h : Lost d s)
    (hstore : s.store slots q pkt = some s') : ∃ d', Lost d' s' ∧ (s.HasRoom → d' = d) :=
  ⟨_, h.store hstore, fun hroom => if_pos hroom⟩

/-- A notification is lost only if the packet is stored and the pipe is full. -/
lemma Lost.enqueuePacket {s : NotifiedQueues IO_IFACE_NUM_QUEUES (Datapacketx86 S)}
    (h : Lost d s) (slots : ℕ) (up forwardPackets : Bool) (pkt : Datapacketx86 S) (q_id : ℕ) :
    ∃ d', Lost d' (s.enqueuePacket slots up forwardPackets pkt q_id) ∧
      ((s.Stores slots up forwardPackets pkt q_id → s.HasRoom) → d' = d) := by
  rw [NotifiedQueues.enqueuePacket]
  split
  case isFalse => exact ⟨d, h, fun _ => rfl⟩
  case isTrue haccepts =>
    cases hstore : s.store slots (queueOf q_id) pkt with
    | none => exact ⟨d, h, fun _ => rfl⟩
    | some s' =>
        obtain ⟨d', hlost, hsame⟩ := h.exists_store hstore
        refine ⟨d', hlost, fun hroom => hsame (hroom ?_)⟩
        refine ⟨haccepts.1, haccepts.2.1, haccepts.2.2, ?_⟩
        by_contra hfull
        rw [NotifiedQueues.store, if_neg hfull] at hstore
        cases hstore

end NotifiedQueues

open NotifiedQueues

section Mmap

variable {S : Type*} {d slots : ℕ}

lemma MmapPort.lost_emptyPipe {port : MmapPort S} (h : Lost d port.notified) :
    Lost d (port.emptyPipe slots).notified := by
  rw [emptyPipe]
  split
  · exact h
  · exact h.drain slots

lemma MmapPort.lost_write {port : MmapPort S} (h : Lost d port.notified)
    (q_id : Fin IO_IFACE_NUM_QUEUES) (num_of_buckets : ℕ) (kernel : List ℕ) (sent : Bool) :
    Lost d (port.write slots q_id num_of_buckets kernel sent).2.1.notified := by
  rw [write]
  cases htx : port.tx with
  | none => exact h
  | some tx =>
      apply lost_emptyPipe
      rw [notified_sendSlots]
      refine writeLoop_rule (fun w => Lost d w.port.notified) (fun _ => True) (fun w k hw => hw)
        ?_ ?_ (fun _ _ => trivial) h
      · intro w hdr tx pkt notified hw _ _ htake _
        exact hw.take htake
      · intro w hdr tx pkt notified hw _ _ htake _
        exact hw.take htake

/-- The notification of a packet that the call stores is not lost. -/
def Transmission.Notifies (slots : ℕ) (s : Transmission S) : MmapCall S → Prop
  | .enqueuePacket up forwardPackets pkt q_id =>
      s.port.notified.Stores slots up forwardPackets pkt q_id → s.port.notified.HasRoom
  | _ => True

lemma Transmission.lost_next {s : Transmission S} (h : Lost d s.port.notified)
    (call : MmapCall S) :
    ∃ d', Lost d' (s.next slots call).port.notified ∧ (s.Notifies slots call → d' = d) := by
  cases call with
  | enqueuePacket up forwardPackets pkt q_id =>
      exact h.enqueuePacket slots up forwardPackets pkt q_id
  | read => exact ⟨d, h, fun _ => rfl⟩
  | write q_id num_of_buckets kernel sent =>
      exact ⟨d, MmapPort.lost_write h q_id num_of_buckets kernel sent, fun _ => rfl⟩
  | kernel n => exact ⟨d, h, fun _ => rfl⟩

end Mmap

namespace VlinkPort

variable {S : Type*} {d d₁ d₂ n slots : ℕ} {port : VlinkPort S}

lemma lost_emptyPipe {s : NotifiedQueues n (Datapacketx86 S)} (h : Lost d s) :
    Lost d (emptyPipe slots s) := by
  rw [emptyPipe]
  split
  · exact h
  · exact h.drain slots

/-- What every packet that is taken preserves holds behind the loop. -/
lemma writeLoop_rule (Inv : NotifiedQueues IO_IFACE_NUM_QUEUES (Datapacketx86 S) → Prop)
    {q_id : Fin IO_IFACE_NUM_QUEUES}
    (htake : ∀ s s' pkt, Inv s → s.take q_id = some (pkt, s') → Inv s'.defer)
    {num_of_buckets : ℕ} {accepted : List Bool} {w : VlinkWriting S} (h : Inv w.port.tx) :
    Inv (writeLoop q_id num_of_buckets accepted w).2.port.tx := by
  induction num_of_buckets generalizing accepted w with
  | zero => exact h
  | succ num_of_buckets ih =>
      rw [writeLoop]
      cases htaken : w.port.tx.take q_id with
      | none => exact h
      | some taken =>
          have hnext := htake _ taken.2 taken.1 h htaken
          simp only
          split
          · exact ih hnext
          · exact ih hnext

@[simp] lemma rx_writeLoop (q_id : Fin IO_IFACE_NUM_QUEUES) (num_of_buckets : ℕ)
    (accepted : List Bool) (w : VlinkWriting S) :
    (writeLoop q_id num_of_buckets accepted w).2.port.rx = w.port.rx := by
  induction num_of_buckets generalizing accepted w with
  | zero => rfl
  | succ num_of_buckets ih =>
      rw [writeLoop]
      split
      · rfl
      · split
        · exact ih accepted.tail _
        · exact ih accepted.tail _

/-- The balance of both pipes. -/
structure Balanced (d₁ d₂ : ℕ) (port : VlinkPort S) : Prop where
  tx : Lost d₁ port.tx
  rx : Lost d₂ port.rx

/-- The notification of a packet that the call stores is not lost. -/
def Notifies (slots : ℕ) (port : VlinkPort S) : VlinkCall S → Prop
  | .enqueuePacket up forwardPackets pkt q_id =>
      port.tx.Stores slots up forwardPackets pkt q_id → port.tx.HasRoom
  | .txPkt up _ => up = true → (port.rx.queues 0).length + 1 < slots → port.rx.HasRoom
  | _ => True

lemma Balanced.next (h : Balanced d₁ d₂ port) (call : VlinkCall S) :
    ∃ d₁' d₂', Balanced d₁' d₂' (port.next slots call) ∧
      (port.Notifies slots call → d₁' = d₁ ∧ d₂' = d₂) := by
  cases call with
  | enqueuePacket up forwardPackets pkt q_id =>
      obtain ⟨d', hlost, hsame⟩ := h.tx.enqueuePacket slots up forwardPackets pkt q_id
      exact ⟨d', d₂, ⟨hlost, h.rx⟩, fun hroom => ⟨hsame hroom, rfl⟩⟩
  | txPkt up pkt =>
      rw [VlinkPort.next, txPkt]
      cases up with
      | false => exact ⟨d₁, d₂, h, fun _ => ⟨rfl, rfl⟩⟩
      | true =>
          simp only [Bool.true_eq_false, if_false]
          cases hstore : port.rx.store slots 0 pkt with
          | none => exact ⟨d₁, d₂, h, fun _ => ⟨rfl, rfl⟩⟩
          | some rx =>
              obtain ⟨d', hlost, hsame⟩ := h.rx.exists_store hstore
              refine ⟨d₁, d', ⟨h.tx, hlost⟩, fun hroom => ⟨rfl, hsame (hroom rfl ?_)⟩⟩
              by_contra hfull
              rw [store, if_neg hfull] at hstore
              cases hstore
  | read =>
      refine ⟨d₁, d₂, ?_, fun _ => ⟨rfl, rfl⟩⟩
      rw [VlinkPort.next, read]
      cases htake : port.rx.take 0 with
      | none => exact h
      | some taken => exact ⟨h.tx, lost_emptyPipe (h.rx.take htake)⟩
  | write q_id num_of_buckets accepted =>
      refine ⟨d₁, d₂, ?_, fun _ => ⟨rfl, rfl⟩⟩
      rw [VlinkPort.next, write]
      refine ⟨lost_emptyPipe ?_, ?_⟩
      · exact writeLoop_rule (Lost d₁) (fun s s' pkt hs htake => hs.take htake) h.tx
      · simp only [countSent, rx_writeLoop]
        exact h.rx

lemma balanced_start (capacity : ℕ) : Balanced 0 0 (start capacity : VlinkPort S) :=
  ⟨lost_empty _ capacity, lost_empty 1 capacity⟩

end VlinkPort

/-! ## Runs -/

section Runs

variable {S : Type*}

/-- In every state that is reached, whatever notifications are lost, the bytes in the pipes are
covered, and no counter is negative. -/
theorem covered_of_run (slots capacity : ℕ) :
    (∀ (s₀ s : Transmission S) calls, s₀.port.notified = .empty IO_IFACE_NUM_QUEUES capacity →
      Run (fun s call => some (Transmission.next slots s call)) anyStep s₀ calls s →
      s.port.notified.Covered) ∧
    (∀ (port : VlinkPort S) calls,
      Run (fun port call => some (VlinkPort.next slots port call)) anyStep (.start capacity) calls
        port →
      port.tx.Covered ∧ port.rx.Covered) := by
  constructor
  · intro s₀ s calls hempty hrun
    have hlost : ∃ d, Lost d s.port.notified := by
      refine @Run.invariant _ _ _ _ (fun s => ∃ d, Lost d s.port.notified) ?_ _ _ _ hrun ?_
      · rintro before call after ⟨d, hlost⟩ - hstep
        obtain rfl := Option.some.inj hstep
        obtain ⟨d', hnext, -⟩ := Transmission.lost_next hlost call
        exact ⟨d', hnext⟩
      · exact ⟨0, hempty ▸ lost_empty _ capacity⟩
    obtain ⟨d, hlost⟩ := hlost
    exact hlost.covered
  · intro port calls hrun
    have hbalanced : ∃ d₁ d₂, port.Balanced d₁ d₂ := by
      refine @Run.invariant _ _ _ _ (fun port => ∃ d₁ d₂, port.Balanced d₁ d₂) ?_ _ _ _ hrun ?_
      · rintro before call after ⟨d₁, d₂, hbalanced⟩ - hstep
        obtain rfl := Option.some.inj hstep
        obtain ⟨d₁', d₂', hnext, -⟩ := hbalanced.next call
        exact ⟨d₁', d₂', hnext⟩
      · exact ⟨0, 0, VlinkPort.balanced_start capacity⟩
    obtain ⟨d₁, d₂, hbalanced⟩ := hbalanced
    exact ⟨hbalanced.tx.covered, hbalanced.rx.covered⟩

/-- **The accounting of notifications.**  In every state that a port reaches by calls whose
notifications are not lost, a packet in a queue keeps the pipe readable, the bytes in the pipe are
covered by packets and by the counter, and the counter is not negative. -/
theorem accounted_of_run (slots capacity : ℕ) :
    (∀ (s₀ s : Transmission S) calls, s₀.port.notified = .empty IO_IFACE_NUM_QUEUES capacity →
      Run (fun s call => some (Transmission.next slots s call)) (Transmission.Notifies slots) s₀
        calls s →
      s.port.notified.Accounted) ∧
    (∀ (port : VlinkPort S) calls,
      Run (fun port call => some (VlinkPort.next slots port call)) (VlinkPort.Notifies slots)
        (.start capacity) calls port →
      port.tx.Accounted ∧ port.rx.Accounted) := by
  constructor
  · intro s₀ s calls hempty hrun
    have hlost : Lost 0 s.port.notified := by
      refine @Run.invariant _ _ _ _ (fun s => Lost 0 s.port.notified) ?_ _ _ _ hrun ?_
      · intro before call after hbefore hnotifies hstep
        obtain rfl := Option.some.inj hstep
        obtain ⟨d', hnext, hsame⟩ := Transmission.lost_next hbefore call
        exact hsame hnotifies ▸ hnext
      · exact hempty ▸ lost_empty _ capacity
    exact hlost.accounted
  · intro port calls hrun
    have hbalanced : port.Balanced 0 0 := by
      refine hrun.invariant ?_ (VlinkPort.balanced_start capacity)
      intro before call after hbefore hnotifies hstep
      obtain rfl := Option.some.inj hstep
      obtain ⟨d₁', d₂', hnext, hsame⟩ := hbefore.next call
      obtain ⟨rfl, rfl⟩ := hsame hnotifies
      exact hnext
    exact ⟨hbalanced.tx.accounted, hbalanced.rx.accounted⟩

/-- A packet of 60 bytes. -/
def smallPacket : Datapacketx86 Unit := { Datapacketx86.unused with len := 60 }

/-- One packet for each kind of port. -/
theorem accounted_of_one_packet :
    (Transmission.next 2048 (.start (.empty _ 65536) 384 1518)
      (.enqueuePacket true true smallPacket 3)).port.notified.Accounted ∧
    (VlinkPort.next 2048 (.start 65536)
      (.txPkt true smallPacket)).rx.Accounted := by
  constructor
  · refine (accounted_of_run 2048 65536).1 _ _ [.enqueuePacket true true smallPacket 3] rfl
      (.cons ?_ rfl (.nil _))
    intro _
    show 0 < 65536
    decide
  · refine ((accounted_of_run 2048 65536).2 _ [.txPkt true smallPacket] (.cons ?_ rfl (.nil _))).2
    intro _ _
    show 0 < 65536
    decide

end Runs

/-! ## A pipe with room for all -/

namespace NotifiedQueues

variable {n slots : ℕ} {Pkt S : Type*} {s s' : NotifiedQueues n Pkt}

/-- Nothing is lost, and the pipe has room for a byte for every packet that the queues can hold. -/
structure Roomy (slots : ℕ) (s : NotifiedQueues n Pkt) : Prop where
  lost : Lost 0 s
  length_le : ∀ q, (s.queues q).length ≤ slots - 1
  le_capacity : n * (slots - 1) ≤ s.pipe.capacity

lemma roomy_empty {capacity : ℕ} (h : n * (slots - 1) ≤ capacity) :
    Roomy slots (empty n capacity : NotifiedQueues n Pkt) where
  lost := lost_empty n capacity
  length_le _ := Nat.zero_le _
  le_capacity := h

lemma Roomy.take {q : Fin n} {pkt : Pkt} (h : Roomy slots s)
    (htake : s.take q = some (pkt, s')) : Roomy slots s'.defer := by
  have hlost := h.lost.take htake
  obtain ⟨rest, hq, rfl⟩ := eq_of_take htake
  refine ⟨hlost, fun i => ?_, h.le_capacity⟩
  have hlen := h.length_le q
  rw [hq, List.length_cons] at hlen
  by_cases hi : i = q
  · simp only [defer, hi, Function.update_self]
    omega
  · simpa only [defer, Function.update_of_ne hi] using h.length_le i

lemma Roomy.drain (h : Roomy slots s) : Roomy slots (s.drain slots) := by
  obtain ⟨r, -, hdrain⟩ := drain_cases slots h.lost.nonneg
  have hlost := h.lost.drain slots
  rw [hdrain] at hlost ⊢
  exact ⟨hlost, h.length_le, h.le_capacity⟩

/-- All that was counted is read. -/
lemma Roomy.deferredDrain_drain (h : Roomy slots s) (hle : s.deferredDrain ≤ slots) :
    (s.drain slots).deferredDrain = 0 := by
  obtain ⟨r, hr, hdrain⟩ := drain_cases slots h.lost.nonneg
  have hcount : drainCount slots s.deferredDrain = s.deferredDrain.toNat :=
    if_neg (not_lt.mpr hle)
  have hbalance := h.lost.balance
  have hnonneg := h.lost.nonneg
  rw [hdrain]
  simp only
  omega

/-- A queue that is not full leaves room in the pipe. -/
lemma Roomy.store {q : Fin n} {pkt : Pkt} (h : Roomy slots s) (hzero : s.deferredDrain = 0)
    (hstore : s.store slots q pkt = some s') : Roomy slots s' ∧ s'.deferredDrain = 0 := by
  have hlost := h.lost.store hstore
  rw [NotifiedQueues.store] at hstore
  split at hstore
  case isFalse => cases hstore
  case isTrue hroom =>
    obtain rfl := Option.some.inj hstore
    have htotal := total_update s.queues q (s.queues q ++ [pkt])
    have hlength : ∀ i,
        (Function.update s.queues q (s.queues q ++ [pkt]) i).length ≤ slots - 1 := by
      intro i
      by_cases hi : i = q
      · rw [hi, Function.update_self, List.length_append, List.length_singleton]
        omega
      · rw [Function.update_of_ne hi]
        exact h.length_le i
    have hsum := Finset.sum_le_card_nsmul Finset.univ
      (fun i => (Function.update s.queues q (s.queues q ++ [pkt]) i).length) (slots - 1)
      fun i _ => hlength i
    rw [Finset.card_univ, Fintype.card_fin, smul_eq_mul] at hsum
    rw [List.length_append, List.length_singleton] at htotal
    have hbalance := h.lost.balance
    have hcapacity := h.le_capacity
    have hfree : s.pipe.unread < s.pipe.capacity := by
      simp only [total] at hbalance
      omega
    rw [if_pos hfree] at hlost
    refine ⟨⟨hlost, hlength, ?_⟩, hzero⟩
    simp only [NotifyPipe.write, if_pos hfree]
    exact hcapacity

/-- Between two calls, all that was counted has been read. -/
structure Settled (slots : ℕ) (s : NotifiedQueues n Pkt) : Prop extends Roomy slots s where
  drained : s.deferredDrain = 0

/-- In the loop of a `write`, what was counted was in the queue. -/
structure Taking (slots : ℕ) (q : Fin n) (s : NotifiedQueues n Pkt) : Prop
    extends Roomy slots s where
  counted_le : s.deferredDrain + (s.queues q).length ≤ ((slots - 1 : ℕ) : ℤ)

lemma Settled.taking (h : Settled slots s) (q : Fin n) : Taking slots q s where
  toRoomy := h.toRoomy
  counted_le := by
    have hlen := h.length_le q
    have hzero := h.drained
    omega

lemma Taking.take {q : Fin n} {pkt : Pkt} (h : Taking slots q s)
    (htake : s.take q = some (pkt, s')) : Taking slots q s'.defer where
  toRoomy := h.toRoomy.take htake
  counted_le := by
    have hcounted := h.counted_le
    obtain ⟨rest, hq, rfl⟩ := eq_of_take htake
    rw [hq, List.length_cons] at hcounted
    simp only [defer, Function.update_self]
    omega

lemma Taking.drain {q : Fin n} (h : Taking slots q s) : Settled slots (s.drain slots) where
  toRoomy := h.toRoomy.drain
  drained := by
    apply h.toRoomy.deferredDrain_drain
    have hcounted := h.counted_le
    omega

lemma Settled.enqueuePacket {s : NotifiedQueues IO_IFACE_NUM_QUEUES (Datapacketx86 S)}
    (h : Settled slots s) (up forwardPackets : Bool) (pkt : Datapacketx86 S) (q_id : ℕ) :
    Settled slots (s.enqueuePacket slots up forwardPackets pkt q_id) := by
  rw [NotifiedQueues.enqueuePacket]
  split
  · cases hstore : s.store slots (queueOf q_id) pkt with
    | none => exact h
    | some s' =>
        obtain ⟨hroomy, hzero⟩ := h.toRoomy.store h.drained hstore
        exact ⟨hroomy, hzero⟩
  · exact h

end NotifiedQueues

section Large

variable {S : Type*} {slots : ℕ}

lemma MmapPort.settled_write {port : MmapPort S} (h : Settled slots port.notified)
    (q_id : Fin IO_IFACE_NUM_QUEUES) (num_of_buckets : ℕ) (kernel : List ℕ) (sent : Bool) :
    Settled slots (port.write slots q_id num_of_buckets kernel sent).2.1.notified := by
  rw [write]
  cases htx : port.tx with
  | none => exact h
  | some tx =>
      have hloop : Taking slots q_id
          (writeLoop q_id num_of_buckets kernel ⟨port, tx, 0, 0, []⟩).2.port.notified := by
        refine writeLoop_rule (fun w => Taking slots q_id w.port.notified) (fun _ => True)
          (fun w k hw => hw) ?_ ?_ (fun _ _ => trivial) (h.taking q_id)
        · intro w hdr tx pkt notified hw _ _ htake _
          exact hw.take htake
        · intro w hdr tx pkt notified hw _ _ htake _
          exact hw.take htake
      rw [← notified_sendSlots q_id sent] at hloop
      simp only [emptyPipe]
      split
      case isTrue hzero => exact ⟨hloop.toRoomy, hzero⟩
      case isFalse => exact hloop.drain

lemma VlinkPort.settled_emptyPipe {n : ℕ} (q : Fin n) {s : NotifiedQueues n (Datapacketx86 S)}
    (h : Taking slots q s) : Settled slots (emptyPipe slots s) := by
  rw [emptyPipe]
  split
  case isTrue hzero => exact ⟨h.toRoomy, le_antisymm hzero h.lost.nonneg⟩
  case isFalse => exact h.drain

lemma Transmission.settled_next {s : Transmission S} (h : Settled slots s.port.notified)
    (call : MmapCall S) : Settled slots (s.next slots call).port.notified := by
  cases call with
  | enqueuePacket up forwardPackets pkt q_id => exact h.enqueuePacket up forwardPackets pkt q_id
  | read => exact h
  | write q_id num_of_buckets kernel sent =>
      exact MmapPort.settled_write h q_id num_of_buckets kernel sent
  | kernel n => exact h

lemma VlinkPort.settled_next {port : VlinkPort S} (htx : Settled slots port.tx)
    (hrx : Settled slots port.rx) (call : VlinkCall S) :
    Settled slots (port.next slots call).tx ∧ Settled slots (port.next slots call).rx := by
  cases call with
  | enqueuePacket up forwardPackets pkt q_id =>
      exact ⟨htx.enqueuePacket up forwardPackets pkt q_id, hrx⟩
  | txPkt up pkt =>
      rw [VlinkPort.next, txPkt]
      cases up with
      | false => exact ⟨htx, hrx⟩
      | true =>
          cases hstore : port.rx.store slots 0 pkt with
          | none => exact ⟨htx, hrx⟩
          | some rx =>
              obtain ⟨hroomy, hzero⟩ := hrx.toRoomy.store hrx.drained hstore
              exact ⟨htx, hroomy, hzero⟩
  | read =>
      rw [VlinkPort.next, read]
      cases htake : port.rx.take 0 with
      | none => exact ⟨htx, hrx⟩
      | some taken => exact ⟨htx, settled_emptyPipe 0 ((hrx.taking 0).take htake)⟩
  | write q_id num_of_buckets accepted =>
      rw [VlinkPort.next, write]
      refine ⟨settled_emptyPipe q_id ?_, ?_⟩
      · exact writeLoop_rule (Taking slots q_id) (fun s s' pkt hs htake => hs.take htake)
          (htx.taking q_id)
      · simp only [countSent, rx_writeLoop]
        exact hrx

/-- **Pipes that never fill.**  If the pipe can hold a byte for every packet that the queues can
hold, no notification is lost, and all packets are accounted for along every run. -/
theorem accounted_of_large_pipe {capacity : ℕ}
    (h : IO_IFACE_NUM_QUEUES * (slots - 1) ≤ capacity) :
    (∀ (s₀ s : Transmission S) calls, s₀.port.notified = .empty IO_IFACE_NUM_QUEUES capacity →
      Run (fun s call => some (Transmission.next slots s call)) anyStep s₀ calls s →
      s.port.notified.Accounted) ∧
    (∀ (port : VlinkPort S) calls,
      Run (fun port call => some (VlinkPort.next slots port call)) anyStep (.start capacity) calls
        port →
      port.tx.Accounted ∧ port.rx.Accounted) := by
  have hone : 1 * (slots - 1) ≤ capacity := by
    simp only [IO_IFACE_NUM_QUEUES] at h
    omega
  constructor
  · intro s₀ s calls hempty hrun
    have hsettled : Settled slots s.port.notified := by
      refine @Run.invariant _ _ _ _ (fun s => Settled slots s.port.notified) ?_ _ _ _ hrun ?_
      · intro before call after hbefore _ hstep
        obtain rfl := Option.some.inj hstep
        exact Transmission.settled_next hbefore call
      · rw [hempty]
        exact ⟨roomy_empty h, rfl⟩
    exact hsettled.lost.accounted
  · intro port calls hrun
    have hsettled : Settled slots port.tx ∧ Settled slots port.rx := by
      refine @Run.invariant _ _ _ _ (fun port => Settled slots port.tx ∧ Settled slots port.rx)
        ?_ _ _ _ hrun ⟨⟨roomy_empty h, rfl⟩, ⟨roomy_empty hone, rfl⟩⟩
      intro before call after hbefore _ hstep
      obtain rfl := Option.some.inj hstep
      exact VlinkPort.settled_next hbefore.1 hbefore.2 call
    exact ⟨hsettled.1.lost.accounted, hsettled.2.lost.accounted⟩

end Large

/-! ## A pipe that is full -/

namespace VlinkPort

variable {port : VlinkPort Unit} {lens : Fin IO_IFACE_NUM_QUEUES → ℕ} {unread : ℕ} {deferred : ℤ}

/-- What a port has in its output queues, and in a pipe of one page. -/
structure Holds (lens : Fin IO_IFACE_NUM_QUEUES → ℕ) (unread : ℕ) (deferred : ℤ)
    (port : VlinkPort Unit) : Prop where
  length_eq : ∀ q, (port.tx.queues q).length = lens q
  pipe_eq : port.tx.pipe = ⟨4096, unread⟩
  deferredDrain_eq : port.tx.deferredDrain = deferred

lemma Holds.enqueue (h : Holds lens unread deferred port) (q_id : ℕ)
    (hroom : lens (queueOf q_id) + 1 < 2048) :
    Holds (Function.update lens (queueOf q_id) (lens (queueOf q_id) + 1))
      (if unread < 4096 then unread + 1 else unread) deferred
      (port.next 2048 (.enqueuePacket true true smallPacket q_id)) := by
  have haccepts : MIN_PKT_LEN ≤ smallPacket.len := by decide
  have hnext : (port.next 2048 (.enqueuePacket true true smallPacket q_id)).tx =
      { port.tx with
        queues := Function.update port.tx.queues (queueOf q_id)
          (port.tx.queues (queueOf q_id) ++ [smallPacket])
        pipe := port.tx.pipe.write } := by
    rw [VlinkPort.next, NotifiedQueues.enqueuePacket, store, h.length_eq, if_pos hroom]
    simp [haccepts]
  refine ⟨fun q => ?_, ?_, ?_⟩
  · rw [hnext]
    by_cases hq : q = queueOf q_id
    · simp [hq, h.length_eq]
    · simp [hq, h.length_eq]
  · simp only [hnext, h.pipe_eq, NotifyPipe.write]
    split
    · rfl
    · rfl
  · rw [hnext]
    exact h.deferredDrain_eq

/-- As many packets as there is room for. -/
lemma Holds.enqueues (h : Holds lens unread deferred port) (q_id k : ℕ)
    (hroom : lens (queueOf q_id) + k < 2048) (hunread : unread ≤ 4096) :
    Holds (Function.update lens (queueOf q_id) (lens (queueOf q_id) + k))
      (min 4096 (unread + k)) deferred
      ((List.replicate k (.enqueuePacket true true smallPacket q_id)).foldl (next 2048) port) := by
  induction k generalizing port lens unread with
  | zero => simpa [hunread] using h
  | succ k ih =>
      have hnext := ih (h.enqueue q_id (by omega)) (by simp only [Function.update_self]; omega)
        (by split <;> omega)
      rw [Function.update_self, Function.update_idem] at hnext
      have hlens : lens (queueOf q_id) + 1 + k = lens (queueOf q_id) + (k + 1) := by omega
      have hbytes : min 4096 ((if unread < 4096 then unread + 1 else unread) + k) =
          min 4096 (unread + (k + 1)) := by
        split <;> omega
      rw [hlens, hbytes] at hnext
      exact hnext

lemma Holds.writeLoop (w : VlinkWriting Unit) (h : Holds lens unread deferred w.port)
    (q_id : Fin IO_IFACE_NUM_QUEUES) {num_of_buckets : ℕ} (hlen : lens q_id ≤ num_of_buckets) :
    Holds (Function.update lens q_id 0) unread (deferred + lens q_id)
      (writeLoop q_id num_of_buckets [] w).2.port := by
  induction num_of_buckets generalizing w lens deferred with
  | zero =>
      have hzero : lens q_id = 0 := Nat.le_zero.mp hlen
      rw [← hzero, Function.update_eq_self, hzero, Nat.cast_zero, add_zero]
      exact h
  | succ num_of_buckets ih =>
      rw [VlinkPort.writeLoop]
      obtain ⟨hnil, hnone⟩ | ⟨pkt, rest, hq, htake⟩ := take_cases q_id w.port.tx
      · have hzero : lens q_id = 0 := by
          rw [← h.length_eq, hnil]
          rfl
        rw [hnone, ← hzero, Function.update_eq_self, hzero, Nat.cast_zero, add_zero]
        exact h
      · have hsucc : lens q_id = rest.length + 1 := by
          rw [← h.length_eq, hq, List.length_cons]
        rw [htake]
        simp only [List.headD_nil, Bool.false_eq_true, if_false, List.tail_nil]
        have hdrop : Holds (Function.update lens q_id rest.length) unread (deferred + 1)
            (w.port.dropPkt q_id { w.port.tx with
              queues := Function.update w.port.tx.queues q_id rest }) := by
          refine ⟨fun q => ?_, h.pipe_eq, ?_⟩
          · by_cases hqq : q = q_id
            · simp [dropPkt, defer, hqq]
            · simp [dropPkt, defer, hqq, h.length_eq]
          · simp only [dropPkt, defer, h.deferredDrain_eq]
        have hrest : Function.update lens q_id rest.length q_id ≤ num_of_buckets := by
          rw [Function.update_self]
          omega
        have hnext := ih { w with port := w.port.dropPkt q_id { w.port.tx with
          queues := Function.update w.port.tx.queues q_id rest } } hdrop hrest
        have hcount : deferred + 1 + (rest.length : ℤ) = deferred + lens q_id := by omega
        rw [Function.update_self, Function.update_idem, hcount] at hnext
        exact hnext

/-- A call that takes a whole queue, and what it reads from the pipe after that. -/
lemma Holds.write (h : Holds lens unread deferred port) (q_id : Fin IO_IFACE_NUM_QUEUES)
    (num_of_buckets r : ℕ) (hlen : lens q_id ≤ num_of_buckets) (hdeferred : 0 ≤ deferred)
    (hr : r = min (drainCount 2048 (deferred + lens q_id)) unread) :
    Holds (Function.update lens q_id 0) (unread - r) (deferred + lens q_id - r)
      (port.next 2048 (.write q_id num_of_buckets [])) := by
  have hloop := Holds.writeLoop ⟨port, 0, 0⟩ h q_id hlen
  have hnext : (port.next 2048 (.write q_id num_of_buckets [])).tx =
      emptyPipe 2048 (VlinkPort.writeLoop q_id num_of_buckets [] ⟨port, 0, 0⟩).2.port.tx := rfl
  by_cases hzero : deferred + lens q_id ≤ 0
  · have hnone : deferred + lens q_id = 0 := by omega
    rw [hnone] at hr
    obtain rfl : r = 0 := by simpa [drainCount] using hr
    rw [emptyPipe, hloop.deferredDrain_eq, if_pos hzero] at hnext
    refine ⟨?_, ?_, ?_⟩
    · exact hnext ▸ hloop.length_eq
    · exact hnext ▸ hloop.pipe_eq
    · rw [hnext, hloop.deferredDrain_eq]
      simp
  · rw [emptyPipe, hloop.deferredDrain_eq, if_neg hzero] at hnext
    obtain ⟨r', hr', hdrain⟩ := drain_cases 2048 (hloop.deferredDrain_eq ▸ (by omega) :
      0 ≤ (VlinkPort.writeLoop q_id num_of_buckets [] ⟨port, 0, 0⟩).2.port.tx.deferredDrain)
    rw [hloop.deferredDrain_eq, hloop.pipe_eq] at hr'
    obtain rfl : r' = r := hr'.trans hr.symm
    rw [hdrain] at hnext
    refine ⟨?_, ?_, ?_⟩
    · rw [hnext]
      exact hloop.length_eq
    · rw [hnext]
      simp only [hloop.pipe_eq]
    · rw [hnext]
      simp only [hloop.deferredDrain_eq]

/-- More packets than the pipe can hold bytes, all of them transmitted; then one more packet, and a
call for another queue. -/
def overfull : List (VlinkCall Unit) :=
  List.replicate 2047 (.enqueuePacket true true smallPacket 0) ++
  List.replicate 2047 (.enqueuePacket true true smallPacket 1) ++
  List.replicate 3 (.enqueuePacket true true smallPacket 2) ++
  [.write (queueOf 0) 2047 [], .write (queueOf 1) 2047 [], .write (queueOf 2) 3 [],
    .enqueuePacket true true smallPacket 0, .write (queueOf 1) 1 []]

/-- With a pipe of one page, the last packet is left in its queue with nothing in the pipe. -/
theorem not_accounted_of_overfull :
    ¬(overfull.foldl (next 2048) (start 4096)).tx.Accounted := by
  have hstart : Holds (fun _ => 0) 0 0 (start 4096) := ⟨fun _ => rfl, rfl, rfl⟩
  have h₀ := hstart.enqueues 0 2047 (by decide) (by decide)
  have h₁ := h₀.enqueues 1 2047 (by decide) (by decide)
  have h₂ := h₁.enqueues 2 3 (by decide) (by decide)
  have h₃ := h₂.write (queueOf 0) 2047 2047 (by decide) (by decide) (by decide)
  have h₄ := h₃.write (queueOf 1) 2047 2047 (by decide) (by decide) (by decide)
  -- a byte is missing, and one remains to be read
  have h₅ := h₄.write (queueOf 2) 3 2 (by decide) (by decide) (by decide)
  have h₆ := h₅.enqueue 0 (by decide)
  have h₇ := h₆.write (queueOf 1) 1 1 (by decide) (by decide) (by decide)
  rw [overfull, List.foldl_append, List.foldl_append, List.foldl_append]
  simp only [List.foldl_cons, List.foldl_nil]
  intro haccounted
  have hlen := h₇.length_eq (queueOf 0)
  have hwakes := haccounted.wakes ⟨queueOf 0, List.ne_nil_of_length_pos (hlen ▸ by decide)⟩
  rw [h₇.pipe_eq] at hwakes
  exact absurd hwakes (by decide)

end VlinkPort

end Xdpd.Io
