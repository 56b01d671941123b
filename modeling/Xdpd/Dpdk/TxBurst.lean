import Mathlib.Algebra.BigOperators.Group.Finset.Basic
import Mathlib.Algebra.Order.Group.Multiset
import Mathlib.Data.Fintype.Prod
import Mathlib.Tactic.Abel
import Xdpd.Dpdk.Processing
import Xdpd.Lib.Memory
import Xdpd.Lib.Placement
import Xdpd.Lib.Transition

/-!
# Bursts of mbufs

A core collects the mbufs for a queue of a port in a burst, and hands the burst on to the ring of
the core that transmits for the port.  Physical ports and KNI ports have functions of their own
which are the same, but for the array that has the burst and for the queue, which is always the
first one of a KNI port.

`tx_pkt` writes the mbuf before it looks whether the burst is full.  It relies on the flush that it
calls for; a flush does nothing as long as the port is down.
-/

namespace Xdpd.Dpdk.TxBurst

open Xdpd.Lib

/-- `IO_IFACE_MAX_PKT_BURST` -/
def ioIfaceMaxPktBurst : ℕ := 32

/-- `IO_IFACE_NUM_QUEUES` -/
def ioIfaceNumQueues : ℕ := 1

instance : NeZero ioIfaceNumQueues := ⟨by decide⟩

instance : NeZero processingMaxPorts := ⟨by decide⟩

instance : Fintype Family := ⟨{.phy, .nf}, fun f => by cases f <;> decide⟩

/-- A port, by the array that it is in and by its `port_id` or `nf_id`, which has to be below
`PROCESSING_MAX_PORTS`.  An `nf_id` can be more, as it is never used again; the array has no entry
for it, and such a port is left out here. -/
abbrev Port : Type := Family × Fin processingMaxPorts

/-- A transmit queue of a port. -/
abbrev TxQueue : Type := Port × Fin ioIfaceNumQueues

variable {C M : Type}

/-! ## The functions -/

/-- `struct mbuf_burst` -/
structure MbufBurst (M : Type) where
  len : ℕ
  burst : ℕ → M

/-- The mbufs that are in the burst. -/
def MbufBurst.mbufs (b : MbufBurst M) : List M := cells b.burst 0 b.len

/-- `do { rte_pktmbuf_free(burst[ret]); } while (++ret < len);` gives these mbufs free. -/
def freeRest (burst : ℕ → M) (len ret : ℕ) : List M :=
  burst ret :: if ret + 1 < len then freeRest burst len (ret + 1) else []
  termination_by len - ret

/-- The bursts of all cores, and where the mbufs go. -/
structure Tx (C M : Type) where
  /-- `active` of the tasks of a core -/
  active : C → Bool
  up : Port → Bool
  /-- `tx_queues_burst` of `phy_ports` and of `nf_ports`, for each core -/
  txQueuesBurst : C × TxQueue → MbufBurst M
  /-- `port_tx_lcore_queue` and `port_tx_nf_lcore_queue` -/
  txLcoreQueue : TxQueue → List M
  /-- the mbufs that were given free -/
  freed : List M
  /-- the mbufs that the functions were called with -/
  given : List M
  /-- an entry of a burst or of an array of queues was used that does not exist -/
  outside : Bool

variable [DecidableEq C]

/-- `flush_port_queue_tx_burst` and `flush_kni_nf_port_burst`, where the ring takes at most `room`
mbufs. -/
def Tx.flushBurst (s : Tx C M) (core : C) (q : TxQueue) (room : ℕ) : Tx C M :=
  let queue := s.txQueuesBurst (core, q)
  if queue.len = 0 ∨ s.up q.1 = false then s
  else
    let ret := min room queue.len
    { s with
      txLcoreQueue :=
        Function.update s.txLcoreQueue q (s.txLcoreQueue q ++ cells queue.burst 0 ret)
      freed := s.freed ++ if ret < queue.len then freeRest queue.burst queue.len ret else []
      txQueuesBurst := Function.update s.txQueuesBurst (core, q) { queue with len := 0 }
      outside := s.outside || decide (ioIfaceMaxPktBurst < queue.len) }

/-- `tx_pkt` and `tx_pkt_kni_nf_port`, once they have the burst. -/
def Tx.enqueue (s : Tx C M) (core : C) (q : TxQueue) (mbuf : M) (room : ℕ) : Tx C M :=
  let pkt_burst := s.txQueuesBurst (core, q)
  let len := pkt_burst.len
  let s' : Tx C M :=
    { s with
      txQueuesBurst := Function.update s.txQueuesBurst (core, q)
        ⟨len + 1, Function.update pkt_burst.burst len mbuf⟩
      given := s.given ++ [mbuf]
      outside := s.outside || decide (ioIfaceMaxPktBurst ≤ len) }
  if s.active core = false ∨ len + 1 = ioIfaceMaxPktBurst then s'.flushBurst core q room else s'

/-- `tx_pkt`, for any queue that `platform_packet_set_queue` has set. -/
def Tx.txPkt (s : Tx C M) (core : C) (port_id : Fin processingMaxPorts) (queue_id : BitVec 32)
    (mbuf : M) (room : ℕ) : Tx C M :=
  if h : queue_id.toNat < ioIfaceNumQueues then
    s.enqueue core ((.phy, port_id), ⟨queue_id.toNat, h⟩) mbuf room
  else { s with given := s.given ++ [mbuf], outside := true }

/-- `tx_pkt_kni_nf_port` -/
def Tx.txPktKniNfPort (s : Tx C M) (core : C) (port_id : Fin processingMaxPorts) (mbuf : M)
    (room : ℕ) : Tx C M :=
  s.enqueue core ((.nf, port_id), 0) mbuf room

/-- `flush_port_queue_tx_burst` -/
def Tx.flushPortQueueTxBurst (s : Tx C M) (core : C) (port_id : Fin processingMaxPorts)
    (queue_id : Fin ioIfaceNumQueues) (room : ℕ) : Tx C M :=
  s.flushBurst core ((.phy, port_id), queue_id) room

/-- `flush_kni_nf_port_burst` -/
def Tx.flushKniNfPortBurst (s : Tx C M) (core : C) (port_id : Fin processingMaxPorts)
    (room : ℕ) : Tx C M :=
  s.flushBurst core ((.nf, port_id), 0) room

/-- A call on a core, or a port that goes up or down.  The ring has room for `room` mbufs when a
burst comes to it. -/
inductive Action (C M : Type)
  | txPkt (core : C) (port_id : Fin processingMaxPorts) (queue_id : BitVec 32) (mbuf : M)
      (room : ℕ)
  | txPktKniNfPort (core : C) (port_id : Fin processingMaxPorts) (mbuf : M) (room : ℕ)
  | flushPortQueueTxBurst (core : C) (port_id : Fin processingMaxPorts)
      (queue_id : Fin ioIfaceNumQueues) (room : ℕ)
  | flushKniNfPortBurst (core : C) (port_id : Fin processingMaxPorts) (room : ℕ)
  | setUp (port : Port) (up : Bool)

/-- The next state. -/
def Tx.next (s : Tx C M) : Action C M → Tx C M
  | .txPkt core port_id queue_id mbuf room => s.txPkt core port_id queue_id mbuf room
  | .txPktKniNfPort core port_id mbuf room => s.txPktKniNfPort core port_id mbuf room
  | .flushPortQueueTxBurst core port_id queue_id room =>
      s.flushPortQueueTxBurst core port_id queue_id room
  | .flushKniNfPortBurst core port_id room => s.flushKniNfPortBurst core port_id room
  | .setUp port up => { s with up := Function.update s.up port up }

/-- All bursts are empty, and no mbuf is anywhere. -/
def Tx.init (active : C → Bool) (up : Port → Bool) (unset : C × TxQueue → ℕ → M) : Tx C M where
  active := active
  up := up
  txQueuesBurst k := ⟨0, unset k⟩
  txLcoreQueue _ := []
  freed := []
  given := []
  outside := false

/-! ## Safety -/

/-- The mbufs that are in one of the bursts. -/
def Tx.inBursts [Fintype C] (s : Tx C M) : Multiset M :=
  ∑ k : C × TxQueue, ((s.txQueuesBurst k).mbufs : Multiset M)

/-- The mbufs that are in one of the rings. -/
def Tx.inRings (s : Tx C M) : Multiset M := ∑ q : TxQueue, (s.txLcoreQueue q : Multiset M)

/-- No burst has more mbufs than entries, all that was used exists, and each mbuf that was given is
once in a burst, in a ring, or among those that were given free. -/
structure Tx.Safe [Fintype C] (s : Tx C M) : Prop where
  len_le : ∀ k, (s.txQueuesBurst k).len ≤ ioIfaceMaxPktBurst
  inside : s.outside = false
  placed : (s.given : Multiset M) = s.inBursts + s.inRings + (s.freed : Multiset M)

/-- There is the queue, and its burst is not full. -/
def Tx.HasRoom (s : Tx C M) : Action C M → Prop
  | .txPkt core port_id queue_id _ _ =>
      ∃ h : queue_id.toNat < ioIfaceNumQueues,
        (s.txQueuesBurst (core, (.phy, port_id), ⟨queue_id.toNat, h⟩)).len < ioIfaceMaxPktBurst
  | .txPktKniNfPort core port_id _ _ =>
      (s.txQueuesBurst (core, (.nf, port_id), 0)).len < ioIfaceMaxPktBurst
  | _ => True

/-! ## The mbufs of a burst -/

lemma MbufBurst.mbufs_push (b : MbufBurst M) (mbuf : M) :
    MbufBurst.mbufs ⟨b.len + 1, Function.update b.burst b.len mbuf⟩ = b.mbufs ++ [mbuf] := by
  rw [mbufs, cells_add]
  congr 1
  · refine cells_congr fun i hi => ?_
    rw [Nat.zero_add]
    exact Function.update_of_ne (Nat.ne_of_lt hi) _ _
  · simp [cells]

lemma freeRest_eq (burst : ℕ → M) {len ret : ℕ} (h : ret < len) :
    freeRest burst len ret = cells burst ret (len - ret) := by
  induction hn : len - ret generalizing ret with
  | zero => omega
  | succ n ih =>
      have hhead : cells burst ret (n + 1) = burst ret :: cells burst (ret + 1) n := by
        rw [Nat.add_comm, cells_add]
        simp [cells]
      rw [freeRest, hhead]
      congr 1
      by_cases hlt : ret + 1 < len
      · rw [if_pos hlt]
        exact ih hlt (by omega)
      · obtain rfl : n = 0 := by omega
        rw [if_neg hlt]
        rfl

/-- The ring takes the first mbufs of a burst, and the loop gives the others free. -/
lemma mbufs_eq_append (b : MbufBurst M) {ret : ℕ} (hle : ret ≤ b.len) :
    b.mbufs = cells b.burst 0 ret ++ if ret < b.len then freeRest b.burst b.len ret else [] := by
  have hsplit : b.mbufs = cells b.burst 0 ret ++ cells b.burst ret (b.len - ret) := by
    obtain ⟨rest, hrest⟩ := Nat.exists_eq_add_of_le hle
    rw [MbufBurst.mbufs, hrest, cells_add, Nat.zero_add, Nat.add_sub_cancel_left]
  rw [hsplit]
  congr 1
  by_cases hlt : ret < b.len
  · rw [if_pos hlt, freeRest_eq b.burst hlt]
  · rw [if_neg hlt, Nat.sub_eq_zero_of_le (Nat.le_of_not_lt hlt)]
    rfl

/-! ## Steps -/

variable {s : Tx C M}

/-- What has been used stays used. -/
lemma outside_flushBurst (h : s.outside = true) (core : C) (q : TxQueue) (room : ℕ) :
    (s.flushBurst core q room).outside = true := by
  rw [Tx.flushBurst]
  split
  · exact h
  · simp [h]

lemma len_enqueue_of_lt {core : C} {q : TxQueue} (mbuf : M) (room : ℕ)
    (hactive : s.active core = true)
    (hlt : (s.txQueuesBurst (core, q)).len + 1 < ioIfaceMaxPktBurst) :
    ((s.enqueue core q mbuf room).txQueuesBurst (core, q)).len =
      (s.txQueuesBurst (core, q)).len + 1 := by
  simp [Tx.enqueue, hactive, Nat.ne_of_lt hlt]

lemma active_flushBurst (core : C) (q : TxQueue) (room : ℕ) :
    (s.flushBurst core q room).active = s.active := by
  rw [Tx.flushBurst]
  split <;> rfl

lemma active_enqueue (core : C) (q : TxQueue) (mbuf : M) (room : ℕ) :
    (s.enqueue core q mbuf room).active = s.active := by
  rw [Tx.enqueue]
  split
  · exact active_flushBurst core q room
  · rfl

/-- The burst is not flushed, as the port is down. -/
lemma len_enqueue_of_down {core : C} {q : TxQueue} (mbuf : M) (room : ℕ)
    (hdown : s.up q.1 = false) :
    ((s.enqueue core q mbuf room).txQueuesBurst (core, q)).len =
      (s.txQueuesBurst (core, q)).len + 1 := by
  simp [Tx.enqueue, Tx.flushBurst, hdown]

/-- The mbuf is written behind the entries of the burst. -/
lemma outside_enqueue {core : C} {q : TxQueue} (mbuf : M) (room : ℕ)
    (hfull : ioIfaceMaxPktBurst ≤ (s.txQueuesBurst (core, q)).len) :
    (s.enqueue core q mbuf room).outside = true := by
  rw [Tx.enqueue]
  split
  · exact outside_flushBurst (by simp [hfull]) core q room
  · simp [hfull]

variable [Fintype C]

lemma Tx.Safe.flushBurst (hs : s.Safe) (core : C) (q : TxQueue) (room : ℕ) :
    (s.flushBurst core q room).Safe := by
  rw [Tx.flushBurst]
  split
  · exact hs
  · have hret : min room (s.txQueuesBurst (core, q)).len ≤ (s.txQueuesBurst (core, q)).len :=
      Nat.min_le_right _ _
    refine ⟨fun k => ?_, ?_, ?_⟩
    · by_cases hk : k = (core, q)
      · subst hk
        simp
      · simpa [Function.update_of_ne hk] using hs.len_le k
    · simpa [hs.inside] using hs.len_le (core, q)
    · obtain ⟨bursts, hold, hnew⟩ := exists_sum_update
        (fun b : MbufBurst M => (b.mbufs : Multiset M)) s.txQueuesBurst (core, q)
      obtain ⟨rings, hring, hring'⟩ := exists_sum_update
        (fun l : List M => (l : Multiset M)) s.txLcoreQueue q
      have hplaced := hs.placed
      rw [inBursts, inRings, hold, hring, mbufs_eq_append _ hret] at hplaced
      rw [hplaced, inBursts, inRings, hnew, hring']
      simp only [MbufBurst.mbufs, ← Multiset.coe_add, cells, List.range_zero, List.map_nil,
        Multiset.coe_nil]
      abel

/-- The burst has a free entry for the mbuf. -/
lemma Tx.Safe.enqueue (hs : s.Safe) {core : C} {q : TxQueue} (mbuf : M) (room : ℕ)
    (hroom : (s.txQueuesBurst (core, q)).len < ioIfaceMaxPktBurst) :
    (s.enqueue core q mbuf room).Safe := by
  have hadded : Tx.Safe
      { s with
        txQueuesBurst := Function.update s.txQueuesBurst (core, q)
          ⟨(s.txQueuesBurst (core, q)).len + 1, Function.update (s.txQueuesBurst (core, q)).burst
            (s.txQueuesBurst (core, q)).len mbuf⟩
        given := s.given ++ [mbuf]
        outside := s.outside ||
          decide (ioIfaceMaxPktBurst ≤ (s.txQueuesBurst (core, q)).len) } := by
    refine ⟨fun k => ?_, ?_, ?_⟩
    · by_cases hk : k = (core, q)
      · subst hk
        simpa using Nat.succ_le_of_lt hroom
      · simpa [Function.update_of_ne hk] using hs.len_le k
    · simpa [hs.inside] using hroom
    · obtain ⟨bursts, hold, hnew⟩ := exists_sum_update
        (fun b : MbufBurst M => (b.mbufs : Multiset M)) s.txQueuesBurst (core, q)
      have hplaced := hs.placed
      rw [inBursts, hold] at hplaced
      rw [inBursts, hnew, MbufBurst.mbufs_push, ← Multiset.coe_add, ← Multiset.coe_add, hplaced]
      show _ = _ + s.inRings + (s.freed : Multiset M)
      abel
  rw [Tx.enqueue]
  split
  · exact hadded.flushBurst core q room
  · exact hadded

lemma Tx.Safe.enqueue_iff (hs : s.Safe) (core : C) (q : TxQueue) (mbuf : M) (room : ℕ) :
    (s.enqueue core q mbuf room).Safe ↔
      (s.txQueuesBurst (core, q)).len < ioIfaceMaxPktBurst := by
  refine ⟨fun h => ?_, hs.enqueue mbuf room⟩
  by_contra hfull
  have houtside := outside_enqueue mbuf room (Nat.le_of_not_lt hfull)
  rw [h.inside] at houtside
  exact Bool.false_ne_true houtside

/-- **One step.**  What is safe stays safe exactly if the burst of the queue is not full. -/
lemma Tx.Safe.next_iff (hs : s.Safe) (a : Action C M) : (s.next a).Safe ↔ s.HasRoom a := by
  cases a with
  | txPkt core port_id queue_id mbuf room =>
      rw [Tx.next, Tx.txPkt, Tx.HasRoom]
      by_cases h : queue_id.toNat < ioIfaceNumQueues
      · rw [dif_pos h, hs.enqueue_iff]
        exact ⟨fun hroom => ⟨h, hroom⟩, fun ⟨_, hroom⟩ => hroom⟩
      · rw [dif_neg h]
        refine ⟨fun hsafe => ?_, fun ⟨hlt, _⟩ => absurd hlt h⟩
        exact absurd hsafe.inside (by simp)
  | txPktKniNfPort core port_id mbuf room => exact hs.enqueue_iff core _ mbuf room
  | flushPortQueueTxBurst core port_id queue_id room =>
      exact iff_of_true (hs.flushBurst core _ room) trivial
  | flushKniNfPortBurst core port_id room => exact iff_of_true (hs.flushBurst core _ room) trivial
  | setUp port up => exact iff_of_true ⟨hs.len_le, hs.inside, hs.placed⟩ trivial

omit [DecidableEq C] in
lemma safe_init (active : C → Bool) (up : Port → Bool) (unset : C × TxQueue → ℕ → M) :
    (Tx.init active up unset).Safe where
  len_le _ := Nat.zero_le _
  inside := rfl
  placed := by simp [Tx.init, Tx.inBursts, Tx.inRings, MbufBurst.mbufs, cells]

/-- The bursts stay safe exactly as long as no mbuf comes to a full one. -/
lemma Tx.Safe.allSteps_iff (hs : s.Safe) (acts : List (Action C M)) :
    AllSteps Tx.next (fun s a => (s.next a).Safe) s acts ↔ AllSteps Tx.next Tx.HasRoom s acts :=
  Lib.allSteps_iff (fun _ a hs => hs.next_iff a) (fun _ a hs h => (hs.next_iff a).mpr h) hs acts

/-- **The bursts are safe** as long as no mbuf is given to a full burst, or to a queue that the
arrays do not have. -/
theorem safe_iff (active : C → Bool) (up : Port → Bool) (unset : C × TxQueue → ℕ → M)
    (acts : List (Action C M)) :
    AllSteps Tx.next (fun s a => (s.next a).Safe) (Tx.init active up unset) acts ↔
      AllSteps Tx.next Tx.HasRoom (Tx.init active up unset) acts :=
  (safe_init active up unset).allSteps_iff acts

/-- The port goes down as a burst gets its last mbuf, and is up again for the next one. -/
def portDown (port_id : Fin processingMaxPorts) (mbufs : List ℕ) (last next : ℕ) :
    List (Action Unit ℕ) :=
  (mbufs.map fun mbuf => .txPkt () port_id 0 mbuf 32) ++
    [.setUp (.phy, port_id) false, .txPkt () port_id 0 last 32, .setUp (.phy, port_id) true,
      .txPkt () port_id 0 next 32]

lemma not_hasRoom_portDown {port_id : Fin processingMaxPorts} {s : Tx Unit ℕ} {mbufs : List ℕ}
    (last next : ℕ) (hactive : s.active () = true)
    (hlen : (s.txQueuesBurst ((), (.phy, port_id), 0)).len + mbufs.length = 31) :
    ¬ AllSteps Tx.next Tx.HasRoom s (portDown port_id mbufs last next) := by
  induction mbufs generalizing s with
  | nil =>
      rintro ⟨-, -, -, ⟨_, hroom⟩, -⟩
      have hfull : (((s.next (.setUp (.phy, port_id) false)).enqueue () ((.phy, port_id), 0) last
          32).txQueuesBurst ((), (.phy, port_id), 0)).len = 32 := by
        rw [len_enqueue_of_down last 32 (Function.update_self _ _ _)]
        exact congrArg (· + 1) hlen
      have hlt : (((s.next (.setUp (.phy, port_id) false)).enqueue () ((.phy, port_id), 0) last
          32).txQueuesBurst ((), (.phy, port_id), 0)).len < 32 := hroom
      omega
  | cons mbuf mbufs ih =>
      rintro ⟨-, hrest⟩
      rw [List.length_cons] at hlen
      refine ih ?_ ?_ hrest
      · exact (congrFun (active_enqueue () _ mbuf 32) ()).trans hactive
      · show ((s.enqueue () ((.phy, port_id), 0) mbuf 32).txQueuesBurst _).len + _ = 31
        rw [len_enqueue_of_lt mbuf 32 hactive (by show _ < 32; omega)]
        omega

/-- A burst with 31 mbufs gets another one while the port is down, and then one more. -/
theorem not_safe_portDown :
    ¬ AllSteps Tx.next (fun s a => (s.next a).Safe)
      (Tx.init (fun _ : Unit => true) (fun _ => true) fun _ _ => 0)
      (portDown 0 (List.range 31) 31 32) := by
  intro h
  exact not_hasRoom_portDown 31 32 rfl (by simp [Tx.init]) (((safe_init _ _ _).allSteps_iff _).mp h)

end Xdpd.Dpdk.TxBurst
