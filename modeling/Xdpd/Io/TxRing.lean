import Xdpd.Io.MmapTx
import Xdpd.Lib.RingIndex
import Xdpd.Lib.Transition

/-!
# The discipline of the TX ring

The kernel stops at the first slot that is not filled.  So the slots that were taken and that it has
not come to have to be filled, all of them (`MmapTx.NoHole`).  What is copied has to fit into its
slot, and every packet that was taken from a queue has to be counted once.

Three things break this: a packet that is longer than the port allows leaves a hole, one that is
longer than a slot is copied beyond it, and the packets of a call whose `send` fails are counted
twice.  Without them, all is well in every state that is reached (`disciplined_of_run`).
-/

namespace Xdpd.Io

open Xdpd.Lib

/-! ## The slots that were taken -/

namespace MmapTx

/-- The kernel has come to the position `c` of an unbounded sequence, and the port to `t`: the slots
in between are filled, and the others are available. -/
structure Window (tx : MmapTx) (c t : ℕ) : Prop where
  frameNr_pos : 0 < tx.frameNr
  kernelPos_eq : tx.kernelPos = c % tx.frameNr
  tpos_eq : tx.tpos = t % tx.frameNr
  le : c ≤ t
  le_add : t ≤ c + tx.frameNr
  filled : ∀ i, c ≤ i → i < t →
    (tx.slots (i % tx.frameNr)).tpStatus = TP_STATUS_SEND_REQUEST
  available : ∀ i, t ≤ i → i < c + tx.frameNr →
    (tx.slots (i % tx.frameNr)).tpStatus = TP_STATUS_AVAILABLE

/-- No slot that was taken is left unfilled: from the position of the kernel to `tpos` all slots are
filled, and behind them none. -/
def NoHole (tx : MmapTx) : Prop := ∃ c t, tx.Window c t

variable {S : Type*} {tx tx' : MmapTx} {c t hdr : ℕ}

lemma noHole_new {frameNr : ℕ} (h : 0 < frameNr) : (new frameNr).NoHole :=
  ⟨0, 0,
    { frameNr_pos := h
      kernelPos_eq := (Nat.zero_mod frameNr).symm
      tpos_eq := (Nat.zero_mod frameNr).symm
      le := Nat.le_refl 0
      le_add := Nat.zero_le _
      filled := fun i _ hi => absurd hi (Nat.not_lt_zero i)
      available := fun _ _ _ => rfl }⟩

lemma inc_mod {frameNr : ℕ} (h : 0 < frameNr) (a : ℕ) :
    inc frameNr (a % frameNr) = (a + 1) % frameNr := by
  rw [mod_succ_eq_ite h, inc]
  simp only [eq_comm]

/-- A free slot is not one that the kernel still has to come to. -/
lemma Window.lt_add (h : tx.Window c t)
    (hfree : (tx.slots tx.tpos).tpStatus = TP_STATUS_AVAILABLE) : t < c + tx.frameNr := by
  have hpos := h.frameNr_pos
  apply lt_of_le_of_ne h.le_add
  intro hfull
  have hslot : t % tx.frameNr = c % tx.frameNr := by
    rw [hfull, Nat.add_mod_right]
  have hfilled := h.filled c le_rfl (by omega)
  rw [← hslot, ← h.tpos_eq, hfree] at hfilled
  exact absurd hfilled (by decide)

/-- The slot that is taken is filled. -/
lemma Window.fill (h : tx.Window c t) (htake : tx.getFreeSlot = some (hdr, tx'))
    (pkt : Datapacketx86 S) : (tx'.fillTxSlot hdr pkt).Window c (t + 1) := by
  rw [getFreeSlot] at htake
  split at htake
  case isFalse => cases htake
  case isTrue hfree =>
    obtain ⟨rfl, rfl⟩ := Prod.mk.inj (Option.some.inj htake)
    have hlt := h.lt_add hfree
    have hle := h.le
    -- the slot of another position in the window is not touched
    have hother : ∀ i, c ≤ i → i < c + tx.frameNr → i ≠ t → i % tx.frameNr ≠ tx.tpos := by
      intro i hci hic hne
      rw [h.tpos_eq]
      rcases Nat.lt_or_gt_of_ne hne with hi | hi
      · exact mod_ne_mod_of_lt hi (by omega)
      · exact (mod_ne_mod_of_lt hi (by omega)).symm
    exact
      { frameNr_pos := h.frameNr_pos
        kernelPos_eq := h.kernelPos_eq
        tpos_eq := by
          simp only [fillTxSlot]
          rw [h.tpos_eq, inc_mod h.frameNr_pos]
        le := by omega
        le_add := by
          simp only [fillTxSlot]
          omega
        filled := by
          intro i hci hit
          simp only [fillTxSlot]
          by_cases hi : i = t
          · rw [hi, ← h.tpos_eq, Function.update_self]
          · rw [Function.update_of_ne (hother i hci (by omega) hi)]
            exact h.filled i hci (by omega)
        available := by
          intro i hti hic
          simp only [fillTxSlot] at hic ⊢
          rw [Function.update_of_ne (hother i (by omega) hic (by omega))]
          exact h.available i (by omega) hic }

/-- The kernel goes on by a slot, or has come to the port. -/
lemma Window.consume (h : tx.Window c t) : ∃ c', tx.consume.Window c' t := by
  have hpos := h.frameNr_pos
  rw [MmapTx.consume]
  split
  case isFalse => exact ⟨c, h⟩
  case isTrue hrequest =>
    have hlt : c < t := by
      apply lt_of_le_of_ne h.le
      intro heq
      have havailable := h.available c (by omega) (by omega)
      rw [← h.kernelPos_eq, hrequest] at havailable
      exact absurd havailable (by decide)
    have hle := h.le_add
    have hother : ∀ i, c < i → i < c + tx.frameNr → i % tx.frameNr ≠ tx.kernelPos := by
      intro i hci hic
      rw [h.kernelPos_eq]
      exact (mod_ne_mod_of_lt hci hic).symm
    refine ⟨c + 1, ?_⟩
    exact
      { frameNr_pos := h.frameNr_pos
        kernelPos_eq := by
          simp only
          rw [h.kernelPos_eq, inc_mod h.frameNr_pos]
        tpos_eq := h.tpos_eq
        le := hlt
        le_add := by
          simp only
          omega
        filled := by
          intro i hci hit
          simp only
          rw [Function.update_of_ne (hother i (by omega) (by omega))]
          exact h.filled i (by omega) hit
        available := by
          intro i hti hic
          simp only at hic ⊢
          by_cases hi : i = c + tx.frameNr
          · rw [hi, Nat.add_mod_right, ← h.kernelPos_eq, Function.update_self]
          · rw [Function.update_of_ne (hother i (by omega) (by omega))]
            exact h.available i hti (by omega) }

lemma NoHole.consume (h : tx.NoHole) : tx.consume.NoHole := by
  obtain ⟨c, t, hwindow⟩ := h
  obtain ⟨c', hnext⟩ := hwindow.consume
  exact ⟨c', t, hnext⟩

lemma NoHole.consumes (h : tx.NoHole) (n : ℕ) : (MmapTx.consume^[n] tx).NoHole := by
  induction n generalizing tx with
  | zero => exact h
  | succ n ih => exact ih h.consume

lemma NoHole.fill (h : tx.NoHole) (htake : tx.getFreeSlot = some (hdr, tx'))
    (pkt : Datapacketx86 S) : (tx'.fillTxSlot hdr pkt).NoHole := by
  obtain ⟨c, t, hwindow⟩ := h
  exact ⟨c, t + 1, hwindow.fill htake pkt⟩

end MmapTx

namespace MmapPort

variable {S : Type*} {q_id : Fin IO_IFACE_NUM_QUEUES}

/-! ## The loop -/

/-- **The rule of the loop.**  What the kernel and every round preserve holds behind the loop.  `Ok`
is what is known of the packets that the loop may come to. -/
theorem writeLoop_rule (Inv : Writing S → Prop) (Ok : Datapacketx86 S → Prop)
    (hkernel : ∀ w k, Inv w → Inv { w with tx := MmapTx.consume^[k] w.tx })
    (hdrop : ∀ w hdr tx pkt notified, Inv w → Ok pkt → w.tx.getFreeSlot = some (hdr, tx) →
      w.port.notified.take q_id = some (pkt, notified) → pkt.len > w.port.mps →
      Inv (dropOversize q_id pkt notified tx w))
    (hcopy : ∀ w hdr tx pkt notified, Inv w → Ok pkt → w.tx.getFreeSlot = some (hdr, tx) →
      w.port.notified.take q_id = some (pkt, notified) → ¬pkt.len > w.port.mps →
      Inv (copyPkt hdr pkt notified tx w))
    {num_of_buckets : ℕ} {kernel : List ℕ} {w : Writing S}
    (hok : ∀ pkt ∈ (w.port.notified.queues q_id).take num_of_buckets, Ok pkt) (h : Inv w) :
    Inv (writeLoop q_id num_of_buckets kernel w).2 := by
  induction num_of_buckets generalizing kernel w with
  | zero => exact h
  | succ num_of_buckets ih =>
      obtain ⟨hnil, -⟩ | ⟨pkt, rest, hq, htake⟩ :=
        NotifiedQueues.take_cases q_id w.port.notified
      · rw [writeLoop, hnil]
        exact h
      · have hw := hkernel w (kernel.headD 0) h
        rw [hq, List.take_succ_cons] at hok
        have hpkt : Ok pkt := hok pkt List.mem_cons_self
        have hrest : ∀ p ∈ rest.take num_of_buckets, Ok p :=
          fun p hp => hok p (List.mem_cons_of_mem pkt hp)
        rw [writeLoop, hq]
        simp only [List.isEmpty_cons, Bool.false_eq_true, if_false]
        cases hslot : (MmapTx.consume^[kernel.headD 0] w.tx).getFreeSlot with
        | none => exact hw
        | some slot =>
            simp only [htake]
            split
            case isTrue hlong =>
              refine ih ?_ (hdrop _ slot.1 slot.2 pkt _ hw hpkt hslot htake hlong)
              simpa [dropOversize, NotifiedQueues.defer] using hrest
            case isFalse hshort =>
              refine ih ?_ (hcopy _ slot.1 slot.2 pkt _ hw hpkt hslot htake hshort)
              simpa [copyPkt, NotifiedQueues.defer] using hrest

/-- What is copied from where the data of a slot starts does not go beyond the slot. -/
def FitsSlot (len : ℕ) : Prop :=
  TPACKET2_HDRLEN - sizeofSockaddrLl + len ≤ IO_IFACE_MMAP_FRAME_SIZE

/-- The packets that are counted, with those that were copied in this call. -/
def Counted (w : Writing S) : BitVec 64 :=
  w.port.txPackets + BitVec.ofNat 64 w.cnt + w.port.txDropped + w.port.txErrors

section Loop

variable {num_of_buckets : ℕ} {kernel : List ℕ} {w : Writing S}

/-- Without a packet that is too long for the port, every slot that is taken is filled. -/
lemma noHole_writeLoop
    (hok : ∀ pkt ∈ (w.port.notified.queues q_id).take num_of_buckets, pkt.len ≤ w.port.mps)
    (h : w.tx.NoHole) : (writeLoop q_id num_of_buckets kernel w).2.tx.NoHole := by
  refine (writeLoop_rule (fun v => v.tx.NoHole ∧ v.port.mps = w.port.mps)
    (fun pkt => pkt.len ≤ w.port.mps) ?_ ?_ ?_ hok ⟨h, rfl⟩).1
  · rintro v k ⟨hring, hmps⟩
    exact ⟨hring.consumes k, hmps⟩
  · rintro v hdr tx pkt notified ⟨-, hmps⟩ hpkt - - hlong
    omega
  · rintro v hdr tx pkt notified ⟨hring, hmps⟩ - hslot - -
    exact ⟨hring.fill hslot pkt, hmps⟩

/-- What is copied is among the packets that the loop may come to. -/
lemma fits_writeLoop
    (hok : ∀ pkt ∈ (w.port.notified.queues q_id).take num_of_buckets, FitsSlot pkt.len)
    (h : ∀ len, .copied len ∈ w.outcomes → FitsSlot len) :
    ∀ len, .copied len ∈ (writeLoop q_id num_of_buckets kernel w).2.outcomes → FitsSlot len := by
  refine writeLoop_rule (fun v => ∀ len, .copied len ∈ v.outcomes → FitsSlot len)
    (fun pkt => FitsSlot pkt.len) (fun v k hv => hv) ?_ ?_ hok h
  · intro v hdr tx pkt notified hv hpkt hslot htake hlong len hlen
    obtain hlen | hlen := List.mem_append.mp hlen
    · exact hv len hlen
    · simp at hlen
  · intro v hdr tx pkt notified hv hpkt hslot htake hshort len hlen
    obtain hlen | hlen := List.mem_append.mp hlen
    · exact hv len hlen
    · obtain rfl : len = pkt.len := by simpa using hlen
      exact hpkt

/-- Every packet that the loop takes is counted, as one that is copied or one that is dropped. -/
lemma counted_writeLoop {before : BitVec 64}
    (h : Counted w = before + BitVec.ofNat 64 w.outcomes.length) :
    Counted (writeLoop q_id num_of_buckets kernel w).2 =
      before + BitVec.ofNat 64 (writeLoop q_id num_of_buckets kernel w).2.outcomes.length := by
  refine writeLoop_rule (fun v => Counted v = before + BitVec.ofNat 64 v.outcomes.length)
    (fun _ => True) (fun v k hv => hv) ?_ ?_ (fun _ _ => trivial) h
  · intro v hdr tx pkt notified hv _ _ _ _
    simp only [Counted, dropOversize, List.length_append, List.length_singleton,
      BitVec.ofNat_add, BitVec.ofNat_eq_ofNat] at hv ⊢
    rw [← BitVec.add_assoc before, ← hv]
    ac_rfl
  · intro v hdr tx pkt notified hv _ _ _ _
    simp only [Counted, copyPkt, List.length_append, List.length_singleton,
      BitVec.ofNat_add] at hv ⊢
    rw [← BitVec.add_assoc before, ← hv]
    ac_rfl

end Loop

/-! ## A call -/

section EmptyPipe

variable (slots : ℕ) (port : MmapPort S)

@[simp] lemma emptyPipe_tx : (port.emptyPipe slots).tx = port.tx := by
  rw [emptyPipe]
  split <;> rfl

@[simp] lemma emptyPipe_mps : (port.emptyPipe slots).mps = port.mps := by
  rw [emptyPipe]
  split <;> rfl

/-- What the port has counted. -/
def counted : BitVec 64 := port.txPackets + port.txDropped + port.txErrors

@[simp] lemma counted_emptyPipe : (port.emptyPipe slots).counted = port.counted := by
  rw [emptyPipe]
  split <;> rfl

@[simp] lemma length_emptyPipe (q_id : Fin IO_IFACE_NUM_QUEUES) :
    ((port.emptyPipe slots).notified.queues q_id).length =
      (port.notified.queues q_id).length := by
  rw [emptyPipe, NotifiedQueues.drain]
  split
  · rfl
  · split <;> rfl

end EmptyPipe

section SendSlots

variable (q_id : Fin IO_IFACE_NUM_QUEUES) (sent : Bool) (w : Writing S)

@[simp] lemma notified_sendSlots : (sendSlots q_id sent w).notified = w.port.notified := by
  rw [sendSlots]
  split
  · cases sent <;> rfl
  · rfl

@[simp] lemma mps_sendSlots : (sendSlots q_id sent w).mps = w.port.mps := by
  rw [sendSlots]
  split
  · cases sent <;> rfl
  · rfl

/-- The packets of a call whose `send` fails are counted a second time. -/
lemma counted_sendSlots :
    (sendSlots q_id sent w).counted =
      Counted w + if sent = true then 0 else BitVec.ofNat 64 w.cnt := by
  rw [sendSlots]
  split
  case isTrue hcnt =>
    cases sent with
    | true =>
        simp only [if_true, counted, Counted, countSent]
        exact (BitVec.add_zero _).symm
    | false =>
        simp only [Bool.false_eq_true, if_false, counted, Counted, countSent, resetTx]
        ac_rfl
  case isFalse hcnt =>
    have hzero : w.cnt = 0 := Nat.eq_zero_of_not_pos hcnt
    simp [counted, Counted, hzero]

/-- If `send` is successful the ring is that of the loop, otherwise it is a new one. -/
lemma noHole_sendSlots (h : w.tx.NoHole) : ∀ tx ∈ (sendSlots q_id sent w).tx, tx.NoHole := by
  have hold : ∀ tx ∈ some w.tx, tx.NoHole := by simpa using h
  rw [sendSlots]
  split
  · cases sent with
    | true => exact hold
    | false =>
        obtain ⟨c, t, hwindow⟩ := h
        have hnew : ∀ tx ∈ some (MmapTx.new w.tx.frameNr), tx.NoHole := by
          simpa using MmapTx.noHole_new hwindow.frameNr_pos
        exact hnew
  · exact hold

end SendSlots

end MmapPort

namespace Transmission

variable {S : Type*} {s : Transmission S} {slots : ℕ}

open MmapPort NotifiedQueues

/-- No slot that was taken is left unfilled, every packet that was copied fits into its slot, and
every packet that was taken from a queue is counted once. -/
structure Disciplined (s : Transmission S) : Prop where
  noHole : ∀ tx ∈ s.port.tx, tx.NoHole
  fits : ∀ len, .copied len ∈ s.outcomes → FitsSlot len
  counted : s.port.txPackets + s.port.txDropped + s.port.txErrors =
    BitVec.ofNat 64 s.outcomes.length

/-- The packets that a call may come to are not too long for the port, nor for a slot, and what
there is to send is sent. -/
def Regular (s : Transmission S) : MmapCall S → Prop
  | .write q_id num_of_buckets _ sent =>
      (∀ pkt ∈ (s.port.notified.queues q_id).take num_of_buckets,
        pkt.len ≤ s.port.mps ∧ FitsSlot pkt.len) ∧ sent = true
  | _ => True

lemma disciplined_start (notified : NotifiedQueues IO_IFACE_NUM_QUEUES (Datapacketx86 S))
    {frameNr : ℕ} (h : 0 < frameNr) (mps : ℕ) : (start notified frameNr mps).Disciplined where
  noHole := by simpa [start] using MmapTx.noHole_new h
  fits := by simp [start]
  counted := by simp [start]

lemma Disciplined.write (h : s.Disciplined) {q_id : Fin IO_IFACE_NUM_QUEUES} {num_of_buckets : ℕ}
    {kernel : List ℕ} {sent : Bool}
    (hregular : s.Regular (.write q_id num_of_buckets kernel sent)) :
    (s.next slots (.write q_id num_of_buckets kernel sent)).Disciplined := by
  obtain ⟨hpkts, rfl⟩ := hregular
  rw [next, MmapPort.write]
  cases htx : s.port.tx with
  | none =>
      simp only [List.append_nil]
      exact h
  | some tx =>
      have hring : tx.NoHole := h.noHole tx htx
      have hcounted : Counted ⟨s.port, tx, 0, 0, []⟩ =
          BitVec.ofNat 64 s.outcomes.length + BitVec.ofNat 64 ([] : List TxOutcome).length := by
        have hbefore := h.counted
        simpa [Counted] using hbefore
      refine ⟨?_, ?_, ?_⟩
      · simp only [emptyPipe_tx]
        apply noHole_sendSlots
        exact noHole_writeLoop (fun pkt hpkt => (hpkts pkt hpkt).1) hring
      · intro len hlen
        obtain hlen | hlen := List.mem_append.mp hlen
        · exact h.fits len hlen
        · refine fits_writeLoop (fun pkt hpkt => (hpkts pkt hpkt).2) ?_ len hlen
          simp
      · have hsum := counted_emptyPipe slots
          (sendSlots q_id true (writeLoop q_id num_of_buckets kernel ⟨s.port, tx, 0, 0, []⟩).2)
        rw [counted_sendSlots, if_pos rfl, counted_writeLoop hcounted] at hsum
        rw [List.length_append, BitVec.ofNat_add]
        simpa [MmapPort.counted] using hsum

lemma Disciplined.next (h : s.Disciplined) {call : MmapCall S} (hregular : s.Regular call) :
    (s.next slots call).Disciplined := by
  cases call with
  | enqueuePacket up forwardPackets pkt q_id => exact ⟨h.noHole, h.fits, h.counted⟩
  | read => exact h
  | write q_id num_of_buckets kernel sent => exact h.write hregular
  | kernel n =>
      refine ⟨?_, h.fits, h.counted⟩
      intro tx htx
      obtain ⟨before, hbefore, rfl⟩ := Option.mem_map.mp htx
      exact (h.noHole before hbefore).consumes n

/-- **The discipline of the ring.**  In every state that a port reaches by calls that meet no packet
that is too long, and whose `send` does not fail, with the kernel at work in between, the ring has
no hole, all copies have stayed in their slots and all packets are counted once. -/
theorem disciplined_of_run {frameNr : ℕ} (hpos : 0 < frameNr)
    (notified : NotifiedQueues IO_IFACE_NUM_QUEUES (Datapacketx86 S)) (mps : ℕ)
    {calls : List (MmapCall S)}
    (hrun : Run (fun s call => some (next slots s call)) Regular
      (start notified frameNr mps) calls s) :
    s.Disciplined := by
  refine hrun.invariant ?_ (disciplined_start notified hpos mps)
  intro before call after hbefore hregular hstep
  obtain rfl := Option.some.inj hstep
  exact hbefore.next hregular

/-- A port for packets of 1518 bytes, with a packet of the length `len` in its first queue. -/
def onePacket (len : ℕ) : Transmission Unit :=
  start ⟨fun q => if q = queueOf 0 then [{ Datapacketx86.unused with len := len }] else [],
    ⟨65536, 1⟩, 0⟩ 384 1518

/-- A packet of 1518 bytes is sent. -/
theorem disciplined_of_onePacket :
    ((onePacket 1518).next 2048 (.write (queueOf 0) 1 [] true)).Disciplined ∧
    ((onePacket 1518).next 2048 (.write (queueOf 0) 1 [] true)).outcomes = [.copied 1518] := by
  have hregular : (onePacket 1518).Regular (.write (queueOf 0) 1 [] true) := by
    refine ⟨?_, rfl⟩
    simp [onePacket, start, FitsSlot, TPACKET2_HDRLEN, sizeofSockaddrLl, IO_IFACE_MMAP_FRAME_SIZE]
  exact ⟨disciplined_of_run (by decide) _ _ (.cons hregular rfl (.nil _)), rfl⟩

/-- A packet of 1522 bytes, as one of 1518 bytes is with a tag pushed, leaves a hole. -/
theorem hole_of_oversize :
    ((onePacket 1522).next 2048 (.write (queueOf 0) 1 [] true)).outcomes = [.oversize 1522] ∧
    ¬((onePacket 1522).next 2048 (.write (queueOf 0) 1 [] true)).Disciplined := by
  refine ⟨rfl, fun h => ?_⟩
  obtain ⟨c, t, hwindow⟩ := h.noHole { MmapTx.new 384 with tpos := 1 } rfl
  have hkernel : 0 = c % 384 := hwindow.kernelPos_eq
  have htpos : 1 = t % 384 := hwindow.tpos_eq
  have hlt : c < t := by
    apply lt_of_le_of_ne hwindow.le
    intro heq
    rw [heq] at hkernel
    omega
  have hfilled : TP_STATUS_AVAILABLE = TP_STATUS_SEND_REQUEST := hwindow.filled c le_rfl hlt
  exact absurd hfilled (by decide)

end Transmission

end Xdpd.Io
