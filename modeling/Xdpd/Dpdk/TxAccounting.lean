import Mathlib.Data.BitVec
import Xdpd.Dpdk.TxBurst

/-!
# Counting the mbufs that a device did not take

`transmit_port_queue_tx_burst` takes a burst from the ring of a queue, and offers it to the device.
The mbufs that the device does not take are given free, and are to be counted as dropped.

The same variable is the number of mbufs that the device took, the index of the loop that gives the
others free, and what is added to the counters.
-/

namespace Xdpd.Dpdk.TxAccounting

open Xdpd.Lib
open Xdpd.Dpdk.TxBurst (freeRest ioIfaceMaxPktBurst ioIfaceNumQueues)

variable {M : Type}

/-! ## The function -/

/-- A queue of a physical port. -/
abbrev Queue : Type := Fin processingMaxPorts × Fin ioIfaceNumQueues

/-- The counters, and where the mbufs go. -/
structure Tx (M : Type) where
  /-- `port_tx_lcore_queue` -/
  txLcoreQueue : Queue → List M
  /-- `stats.tx_dropped` of a port -/
  txDropped : Fin processingMaxPorts → BitVec 64
  /-- `stats.overrun` of a queue -/
  overrun : Queue → BitVec 64
  /-- the mbufs that were taken from the ring of a queue -/
  dequeued : Queue → List M
  /-- those that the device has taken -/
  accepted : Queue → List M
  /-- those that were given free -/
  freed : Queue → List M

/-- `burst` after the mbufs have been written to its start. -/
def loaded (mbufs : List M) (burst : ℕ → M) : ℕ → M := fun i => (mbufs[i]?).getD (burst i)

/-- How many mbufs `rte_ring_mc_dequeue_burst` takes, where it could take `n`. -/
def Tx.dequeueBurst (s : Tx M) (q : Queue) (n : ℕ) : ℕ :=
  min n (min ioIfaceMaxPktBurst (s.txLcoreQueue q).length)

/-- `transmit_port_queue_tx_burst`, where the device takes `n` mbufs if it is offered so many. -/
def Tx.transmit (s : Tx M) (q : Queue) (burst : ℕ → M) (dequeue n : ℕ) : Tx M :=
  let len := s.dequeueBurst q dequeue
  let mbufs := (s.txLcoreQueue q).take len
  let burst := loaded mbufs burst
  if len = 0 then s
  else
    let ret := min n len
    let s : Tx M :=
      { s with
        txLcoreQueue := Function.update s.txLcoreQueue q ((s.txLcoreQueue q).drop len)
        dequeued := Function.update s.dequeued q (s.dequeued q ++ mbufs)
        accepted := Function.update s.accepted q (s.accepted q ++ cells burst 0 ret) }
    if ret < len then
      { s with
        txDropped := Function.update s.txDropped q.1 (s.txDropped q.1 + BitVec.ofNat 64 ret)
        overrun := Function.update s.overrun q (s.overrun q + BitVec.ofNat 64 ret)
        freed := Function.update s.freed q (s.freed q ++ freeRest burst len ret) }
    else s

/-- A call, or mbufs that come into a ring. -/
inductive Action (M : Type)
  | enqueue (q : Queue) (mbufs : List M)
  | transmit (q : Queue) (burst : ℕ → M) (dequeue n : ℕ)

/-- The next state. -/
def Tx.next (s : Tx M) : Action M → Tx M
  | .enqueue q mbufs =>
      { s with txLcoreQueue := Function.update s.txLcoreQueue q (s.txLcoreQueue q ++ mbufs) }
  | .transmit q burst dequeue n => s.transmit q burst dequeue n

/-- No mbuf has been taken yet. -/
def Tx.init (txLcoreQueue : Queue → List M) (txDropped : Fin processingMaxPorts → BitVec 64)
    (overrun : Queue → BitVec 64) : Tx M where
  txLcoreQueue := txLcoreQueue
  txDropped := txDropped
  overrun := overrun
  dequeued _ := []
  accepted _ := []
  freed _ := []

/-! ## The accounts -/

/-- What was taken from a ring was taken by the device or given free, and the counters have grown by
what was given free. -/
structure Tx.Accounted (s₀ s : Tx M) : Prop where
  freed : ∀ q, (s.dequeued q).Perm (s.accepted q ++ s.freed q)
  txDropped : ∀ p, s.txDropped p - s₀.txDropped p =
    BitVec.ofNat 64 (∑ q : Fin ioIfaceNumQueues, (s.freed (p, q)).length)
  overrun : ∀ q, s.overrun q - s₀.overrun q = BitVec.ofNat 64 (s.freed q).length
  conserved : ∀ q, BitVec.ofNat 64 (s.dequeued q).length =
    BitVec.ofNat 64 (s.accepted q).length + (s.overrun q - s₀.overrun q)

/-- The device takes all of the burst, or just half of it. -/
def Tx.Halves (s : Tx M) : Action M → Prop
  | .enqueue _ _ => True
  | .transmit q _ dequeue n =>
      s.dequeueBurst q dequeue ≤ n ∨ 2 * n = s.dequeueBurst q dequeue

/-! ## Steps -/

variable {s s₀ : Tx M}

lemma cells_loaded (mbufs : List M) (burst : ℕ → M) :
    cells (loaded mbufs burst) 0 mbufs.length = mbufs := by
  refine List.ext_getElem (length_cells _ _ _) fun i _ hi => ?_
  simp [cells, loaded, hi]

lemma length_take_dequeueBurst (s : Tx M) (q : Queue) (n : ℕ) :
    ((s.txLcoreQueue q).take (s.dequeueBurst q n)).length = s.dequeueBurst q n := by
  rw [List.length_take, Tx.dequeueBurst]
  omega

/-- The state after a call where the device took the mbufs `taken`, the mbufs `rest` were given
free, and `k` was added to the counters. -/
def Tx.sent (s : Tx M) (ring : Queue → List M) (q : Queue) (taken rest : List M) (k : ℕ) :
    Tx M where
  txLcoreQueue := ring
  txDropped := Function.update s.txDropped q.1 (s.txDropped q.1 + BitVec.ofNat 64 k)
  overrun := Function.update s.overrun q (s.overrun q + BitVec.ofNat 64 k)
  dequeued := Function.update s.dequeued q (s.dequeued q ++ (taken ++ rest))
  accepted := Function.update s.accepted q (s.accepted q ++ taken)
  freed := Function.update s.freed q (s.freed q ++ rest)

/-- What a call does: the counters grow by what the device took, unless that was all. -/
lemma transmit_cases (s : Tx M) (q : Queue) (burst : ℕ → M) (dequeue n : ℕ) :
    (s.dequeueBurst q dequeue ≤ n ∧ ∃ ring taken,
      s.transmit q burst dequeue n = s.sent ring q taken [] 0) ∨
    (n < s.dequeueBurst q dequeue ∧ ∃ ring taken rest,
      s.transmit q burst dequeue n = s.sent ring q taken rest n ∧
        rest.length = s.dequeueBurst q dequeue - n) := by
  have hlength := length_take_dequeueBurst s q dequeue
  rw [Tx.transmit]
  generalize s.dequeueBurst q dequeue = len at hlength ⊢
  by_cases hzero : len = 0
  · refine .inl ⟨hzero ▸ Nat.zero_le n, s.txLcoreQueue, [], ?_⟩
    simp [Tx.sent, hzero]
  have hloaded := cells_loaded ((s.txLcoreQueue q).take len) burst
  rw [hlength] at hloaded
  rcases Nat.lt_or_ge n len with hlt | hle
  · have hsplit := TxBurst.mbufs_eq_append
      ⟨len, loaded ((s.txLcoreQueue q).take len) burst⟩ (Nat.le_of_lt hlt)
    rw [TxBurst.MbufBurst.mbufs, hloaded, if_pos hlt] at hsplit
    refine .inr ⟨hlt, Function.update s.txLcoreQueue q ((s.txLcoreQueue q).drop len),
      cells (loaded ((s.txLcoreQueue q).take len) burst) 0 n,
      freeRest (loaded ((s.txLcoreQueue q).take len) burst) len n, ?_, ?_⟩
    · simp only [hzero, if_false, Nat.min_eq_left (Nat.le_of_lt hlt), hlt, if_true, Tx.sent,
        ← hsplit]
    · rw [TxBurst.freeRest_eq _ hlt, length_cells]
  · refine .inl ⟨hle, Function.update s.txLcoreQueue q ((s.txLcoreQueue q).drop len),
      (s.txLcoreQueue q).take len, ?_⟩
    simp [hzero, Nat.min_eq_right hle, Tx.sent, hloaded]

lemma ofNat_inj {m n : ℕ} (hm : m < 2 ^ 64) (hn : n < 2 ^ 64) :
    BitVec.ofNat 64 m = BitVec.ofNat 64 n ↔ m = n := by
  rw [← BitVec.toNat_inj, BitVec.toNat_ofNat, BitVec.toNat_ofNat, Nat.mod_eq_of_lt hm,
    Nat.mod_eq_of_lt hn]

/-- A counter and what it counts grow by the same. -/
lemma grown_iff {c c₀ : BitVec 64} {n k r : ℕ} (h : c - c₀ = BitVec.ofNat 64 n) :
    c + BitVec.ofNat 64 k - c₀ = BitVec.ofNat 64 (n + r) ↔
      BitVec.ofNat 64 k = BitVec.ofNat 64 r := by
  rw [add_sub_right_comm, h, BitVec.ofNat_add, add_right_inj]

/-- What is given free of one queue of a port, is given free of the port. -/
lemma length_freed_sent (s : Tx M) (ring : Queue → List M) (q : Queue) (taken rest : List M)
    (k : ℕ) :
    ∑ q', ((s.sent ring q taken rest k).freed (q.1, q')).length =
      ∑ q', (s.freed (q.1, q')).length + rest.length := by
  obtain ⟨others, hold, hnew⟩ := exists_sum_update List.length (fun q' => s.freed (q.1, q')) q.2
  have hqueue : ∀ q', (s.sent ring q taken rest k).freed (q.1, q') =
      Function.update (fun q' => s.freed (q.1, q')) q.2 (s.freed q ++ rest) q' := by
    intro q'
    by_cases hq : q' = q.2
    · subst hq
      simp [Tx.sent]
    · have hne : (q.1, q') ≠ q := fun heq => hq (congrArg Prod.snd heq)
      simp [Tx.sent, Function.update_of_ne hne, Function.update_of_ne hq]
  simp only [hqueue, hnew, hold, List.length_append, Prod.mk.eta]
  omega

/-- The accounts are kept if as many mbufs are counted as were given free. -/
lemma Tx.Accounted.sent_iff (h : s₀.Accounted s) (ring : Queue → List M) (q : Queue)
    (taken rest : List M) (k : ℕ) :
    s₀.Accounted (s.sent ring q taken rest k) ↔
      BitVec.ofNat 64 k = BitVec.ofNat 64 rest.length := by
  constructor
  · intro hsent
    have hgrown := hsent.overrun q
    simp only [Tx.sent, Function.update_self, List.length_append] at hgrown
    exact (grown_iff (h.overrun q)).mp hgrown
  · intro hk
    have hoverrun : ∀ q', (s.sent ring q taken rest k).overrun q' - s₀.overrun q' =
        BitVec.ofNat 64 ((s.sent ring q taken rest k).freed q').length := by
      intro q'
      by_cases hq : q' = q
      · subst hq
        simpa only [Tx.sent, Function.update_self, List.length_append] using
          (grown_iff (h.overrun q')).mpr hk
      · simpa only [Tx.sent, Function.update_of_ne hq] using h.overrun q'
    have hfreed : ∀ q', ((s.sent ring q taken rest k).dequeued q').Perm
        ((s.sent ring q taken rest k).accepted q' ++ (s.sent ring q taken rest k).freed q') := by
      intro q'
      by_cases hq : q' = q
      · subst hq
        simp only [Tx.sent, Function.update_self]
        refine ((h.freed q').append_right (taken ++ rest)).trans ?_
        simp only [List.append_assoc]
        exact (List.perm_append_comm_assoc (s.freed q') taken rest).append_left (s.accepted q')
      · simpa only [Tx.sent, Function.update_of_ne hq] using h.freed q'
    refine ⟨hfreed, fun p => ?_, hoverrun, fun q' => ?_⟩
    · by_cases hp : p = q.1
      · subst hp
        have hdropped := (grown_iff (h.txDropped q.1)).mpr hk
        rw [← length_freed_sent s ring q taken rest k] at hdropped
        simpa only [Tx.sent, Function.update_self] using hdropped
      · have hother : ∀ q', (p, q') ≠ q := fun q' heq => hp (congrArg Prod.fst heq)
        simpa only [Tx.sent, Function.update_of_ne hp, Function.update_of_ne (hother _)] using
          h.txDropped p
    · rw [hoverrun, (hfreed q').length_eq, List.length_append, BitVec.ofNat_add]

/-- **One step.**  A call keeps the accounts exactly if the device took all of the burst, or half
of it. -/
lemma Tx.Accounted.next_iff (h : s₀.Accounted s) (a : Action M) :
    s₀.Accounted (s.next a) ↔ s.Halves a := by
  cases a with
  | enqueue q mbufs => exact iff_of_true ⟨h.freed, h.txDropped, h.overrun, h.conserved⟩ trivial
  | transmit q burst dequeue n =>
      have hlen : s.dequeueBurst q dequeue ≤ 32 :=
        (Nat.min_le_right _ _).trans (Nat.min_le_left _ _)
      obtain ⟨hle, ring, taken, heq⟩ | ⟨hlt, ring, taken, rest, heq, hrest⟩ :=
        transmit_cases s q burst dequeue n
      · rw [Tx.next, heq, h.sent_iff]
        exact iff_of_true rfl (.inl hle)
      · rw [Tx.next, heq, h.sent_iff, ofNat_inj (by omega) (by omega), Tx.Halves]
        omega

lemma accounted_init (txLcoreQueue : Queue → List M)
    (txDropped : Fin processingMaxPorts → BitVec 64) (overrun : Queue → BitVec 64) :
    (Tx.init txLcoreQueue txDropped overrun).Accounted
      (Tx.init txLcoreQueue txDropped overrun) where
  freed _ := .nil
  txDropped _ := by simp [Tx.init]
  overrun _ := by simp [Tx.init]
  conserved _ := by simp [Tx.init]

/-- **The counters tell what was given free** as long as the device takes all of each burst, or
just half of it. -/
theorem accounted_iff (txLcoreQueue : Queue → List M)
    (txDropped : Fin processingMaxPorts → BitVec 64) (overrun : Queue → BitVec 64)
    (acts : List (Action M)) :
    AllSteps Tx.next (fun s a => (Tx.init txLcoreQueue txDropped overrun).Accounted (s.next a))
        (Tx.init txLcoreQueue txDropped overrun) acts ↔
      AllSteps Tx.next Tx.Halves (Tx.init txLcoreQueue txDropped overrun) acts :=
  allSteps_iff (fun _ a h => h.next_iff a) (fun _ a h hhalves => (h.next_iff a).mpr hhalves)
    (accounted_init txLcoreQueue txDropped overrun) acts

/-- The device takes none of two mbufs. -/
theorem not_accounted_refused :
    ¬ AllSteps Tx.next (fun s a => (Tx.init (fun _ => []) 0 0).Accounted (s.next a))
      (Tx.init (fun _ => []) 0 0)
      [.enqueue (0, 0) [1, 2], .transmit (0, 0) (fun _ => 0) 32 0] := by
  rintro ⟨henqueued, hsent, -⟩
  have hhalves := (henqueued.next_iff (.transmit (0, 0) (fun _ => 0) 32 0)).mp hsent
  have hlength : Tx.dequeueBurst (Tx.next (Tx.init (fun _ => []) 0 0) (.enqueue (0, 0) [1, 2]))
      (0, 0) 32 = 2 := rfl
  rw [Tx.Halves, hlength] at hhalves
  omega

end Xdpd.Dpdk.TxAccounting
