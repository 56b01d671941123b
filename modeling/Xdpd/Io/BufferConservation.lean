import Mathlib.Tactic.Common
import Xdpd.Io.BufferPaths

/-!
# Buffers are neither lost nor released twice

Every path of a buffer is a sequence of moves between two places, one of which is nearly always the
processing code that holds the buffer.  So the pool is conserved, except where a function gives up
its reference without passing it on, or passes it on twice:

* `enqueue_packet` with an invalid queue releases the buffer and puts it in the queue 0 as well;
* `platform_packet_output` without a port, or to an ingress port that does not exist, does nothing;
* the dispatcher of packet-ins takes two packets with the same `id` out of the storage when the
  control plane refuses the second.

`Sound` says that a call does none of this.
-/

namespace Xdpd.Io

open Xdpd.Lib DriverState

variable {P S : Type*} {cfg : Config P} {s s' : DriverState P S} {b : ℕ}

/-! ## Moves -/

/-- The processing code has taken `b` from some place, and now holds it. -/
def Taken (s s' : DriverState P S) (b : ℕ) : Prop :=
  ∃ place, Moved s.buffers s'.buffers b place .held

/-- The processing code has put `b`, which it held, in some place. -/
def Given (s s' : DriverState P S) (b : ℕ) : Prop :=
  ∃ place, Moved s.buffers s'.buffers b .held place

/-- The buffers of the pool. -/
def Config.pool (cfg : Config P) : Finset ℕ :=
  Finset.range (cfg.capacity - 1)

/-- Every buffer of the pool is in exactly one place. -/
def BuffersConserved (cfg : Config P) (s : DriverState P S) : Prop :=
  Conserved cfg.pool s.buffers

lemma Taken.conserved (htaken : Taken s s' b) (hs : BuffersConserved cfg s) :
    BuffersConserved cfg s' := by
  obtain ⟨place, hmoved⟩ := htaken
  exact Conserved.moved hs hmoved

lemma Taken.mem_held (htaken : Taken s s' b) : b ∈ s'.held := by
  obtain ⟨place, hmoved⟩ := htaken
  exact (hmoved.mem_target_iff b).mpr (.inl rfl)

/-- What was held before is still held, and is another buffer. -/
lemma Taken.mem_held_of_mem (htaken : Taken s s' b) (hs : BuffersConserved cfg s) {c : ℕ}
    (hc : c ∈ s.held) : c ∈ s'.held ∧ c ≠ b := by
  obtain ⟨place, hmoved⟩ := htaken
  refine ⟨(hmoved.mem_target_iff c).mpr (.inr hc), ?_⟩
  rintro rfl
  exact hmoved.ne (hs.unique hmoved.mem hc)

lemma Given.conserved (hgiven : Given s s' b) (hs : BuffersConserved cfg s) :
    BuffersConserved cfg s' := by
  obtain ⟨place, hmoved⟩ := hgiven
  exact Conserved.moved hs hmoved

lemma Given.mem_held_of_mem (hgiven : Given s s' b) (hs : BuffersConserved cfg s) {c : ℕ}
    (hc : c ∈ s.held) (hne : c ≠ b) : c ∈ s'.held := by
  obtain ⟨place, hmoved⟩ := hgiven
  exact (hmoved.mem_source_iff hs c).mpr ⟨hne, hc⟩

variable [DecidableEq P] [DecidableEq S]

@[simp] lemma buffers_setQueue (s : DriverState P S) (queue : Queue P S) (l : List ℕ) :
    (s.setQueue queue l).buffers = Function.update s.buffers (.queue queue) l := by
  funext place
  cases place with
  | queue queue' =>
      by_cases h : queue' = queue
      · subst h
        simp [buffers, setQueue]
      · have hne : (Place.queue queue' : Place P S) ≠ .queue queue := by simpa using h
        simp [buffers, setQueue, Function.update_of_ne h, Function.update_of_ne hne]
  | storage sw => rfl
  | held => rfl

@[simp] lemma buffers_setStorage (s : DriverState P S) (sw : S) (st : DatapacketStorage) :
    (s.setStorage sw st).buffers =
      Function.update s.buffers (.storage sw) (st.store.map StoreMapping.pkt) := by
  funext place
  cases place with
  | queue queue => rfl
  | storage sw' =>
      by_cases h : sw' = sw
      · subst h
        simp [buffers, setStorage]
      · have hne : (Place.storage sw' : Place P S) ≠ .storage sw := by simpa using h
        simp [buffers, setStorage, Function.update_of_ne h, Function.update_of_ne hne]
  | held => rfl

@[simp] lemma buffers_hold (s : DriverState P S) (b : ℕ) :
    (s.hold b).buffers = Function.update s.buffers .held (b :: s.held) := by
  funext place
  cases place with
  | held => simp [buffers, hold]
  | _ => rfl

@[simp] lemma buffers_forget (s : DriverState P S) (b : ℕ) :
    (s.forget b).buffers = Function.update s.buffers .held (s.held.erase b) := by
  funext place
  cases place with
  | held => simp [buffers, forget]
  | _ => rfl

/-! ## The elementary operations -/

lemma nonBlockingRead_taken {queue : Queue P S} (h : nonBlockingRead queue s = some (b, s')) :
    Taken s s' b := by
  unfold nonBlockingRead at h
  cases hqueue : s.queues queue with
  | nil => simp [hqueue] at h
  | cons c rest =>
      simp only [hqueue, Option.some.injEq, Prod.mk.injEq] at h
      obtain ⟨rfl, rfl⟩ := h
      refine ⟨.queue queue, ?_⟩
      rw [buffers_hold, buffers_setQueue]
      have hmem : c ∈ s.buffers (.queue queue) := by simp [buffers, hqueue]
      refine moved_update (by simp) hmem ?_ (List.Perm.refl _)
      simp [buffers, hqueue]

lemma nonBlockingWrite_given {queue : Queue P S} (hb : b ∈ s.held)
    (h : nonBlockingWrite cfg queue b s = some s') : Given s s' b := by
  unfold nonBlockingWrite at h
  split_ifs at h with hroom
  obtain rfl := Option.some.inj h
  refine ⟨.queue queue, ?_⟩
  rw [buffers_setQueue, buffers_forget]
  exact moved_update (by simp) hb (List.Perm.refl _) (List.perm_append_singleton b _)

lemma nonBlockingWrite_of_lt {queue : Queue P S}
    (hroom : (s.queues queue).length + 1 < cfg.slots queue) :
    nonBlockingWrite cfg queue b s =
      some ((s.forget b).setQueue queue (s.queues queue ++ [b])) := if_pos hroom

/-- While a buffer is in use, the queue of free buffers has room for it. -/
lemma releaseBuffer_given (hs : BuffersConserved cfg s) (hb : b ∈ s.held) :
    Given s (releaseBuffer cfg b s) b := by
  have hlength : (s.queues .cq).length < cfg.capacity - 1 := by
    have h := Conserved.length_lt_card (q := Place.queue .cq) hs (p := Place.held) hb (by simp)
    rwa [Config.pool, Finset.card_range] at h
  have hroom : (s.queues .cq).length + 1 < cfg.slots (.cq : Queue P S) := by
    simp only [Config.slots]
    omega
  have hwrite := nonBlockingWrite_of_lt (b := b) hroom
  rw [releaseBuffer, hwrite, Option.getD_some]
  exact nonBlockingWrite_given hb hwrite

/-- The buffer is put in the queue, or released when there is no room. -/
lemma write_or_release_given (hs : BuffersConserved cfg s) (hb : b ∈ s.held) (queue : Queue P S) :
    Given s ((nonBlockingWrite cfg queue b s).getD (releaseBuffer cfg b s)) b := by
  cases hwrite : nonBlockingWrite cfg queue b s with
  | none => exact releaseBuffer_given hs hb
  | some s' => exact nonBlockingWrite_given hb hwrite

lemma getStored_taken {sw : S} {id : BitVec 32} (h : getStored sw id s = some (b, s')) :
    Taken s s' b := by
  unfold getStored DatapacketStorage.getPacket at h
  cases hfind : (s.storage sw).store.find? fun map => map.id == id with
  | none => simp [hfind] at h
  | some map =>
      simp only [hfind, Option.map_some, Option.some.injEq, Prod.mk.injEq] at h
      obtain ⟨rfl, rfl⟩ := h
      refine ⟨.storage sw, ?_⟩
      rw [buffers_hold, buffers_setStorage]
      refine moved_update (by simp) ?_ ?_ (List.Perm.refl _)
      · exact List.mem_map_of_mem (List.mem_of_find?_eq_some hfind)
      · have hperm := ((perm_cons_eraseP_of_find? hfind).map StoreMapping.pkt).erase map.pkt
        rw [List.map_cons, List.erase_cons_head] at hperm
        exact hperm.symm

/-! ## Output -/

/-- The packet is not put in an invalid queue of a port that takes it. -/
def EnqueueOk (s : DriverState P S) (port : P) (b q_id : ℕ) : Prop :=
  (s.ports port).Accepts (s.pkts b).len → q_id < IO_IFACE_NUM_QUEUES

/-- `output_single_packet` does not use an invalid queue. -/
def OutputSingleOk (s : DriverState P S) (b : ℕ) (port : P) : Prop :=
  (s.ports port).platform_port_state = true → EnqueueOk s port b (s.pkts b).output_queue

/-- The loop of `platform_packet_output` does not use an invalid queue for any replica. -/
def FloodOk (cfg : Config P) (b : ℕ) : List P → DriverState P S → Prop
  | [], _ => True
  | port :: ports, s =>
      match platformPacketReplicate b s with
      | none => True
      | some (replica, s') =>
          OutputSingleOk s' replica port ∧
            FloodOk cfg b ports (outputSinglePacket cfg replica port s')

/-- `platform_packet_output` has a port to send to, and does not use an invalid queue. -/
def OutputOk (cfg : Config P) (b : ℕ) (s : DriverState P S) : OutputPort P → Prop
  | .null => False
  | .flood | .all =>
      ∀ sw ∈ (s.pkts b).sw, FloodOk cfg b (floodPorts cfg s sw (s.pkts b).port_in) s
  | .inPort =>
      (s.pkts b).port_in < cfg.maxLogPorts ∧ ∀ sw ∈ (s.pkts b).sw,
        ∃ port ∈ s.logical_ports sw (s.pkts b).port_in, OutputSingleOk s b port
  | .port port => OutputSingleOk s b port

lemma enqueuePacket_given (hs : BuffersConserved cfg s) (hb : b ∈ s.held) {port : P} {q_id : ℕ}
    (hok : EnqueueOk s port b q_id) : Given s (enqueuePacket cfg port b q_id s) b := by
  unfold enqueuePacket
  by_cases haccepts : (s.ports port).Accepts (s.pkts b).len
  · rw [if_pos haccepts]
    simp only [if_pos (hok haccepts)]
    exact write_or_release_given hs hb _
  · rw [if_neg haccepts]
    exact releaseBuffer_given hs hb

lemma outputSinglePacket_given (hs : BuffersConserved cfg s) (hb : b ∈ s.held) {port : P}
    (hok : OutputSingleOk s b port) : Given s (outputSinglePacket cfg b port s) b := by
  unfold outputSinglePacket
  split_ifs with hport
  · exact enqueuePacket_given hs hb (hok hport.1)
  · exact releaseBuffer_given hs hb

lemma platformPacketReplicate_taken {replica : ℕ}
    (h : platformPacketReplicate b s = some (replica, s')) : Taken s s' replica := by
  obtain ⟨⟨copy, s₁⟩, hget, heq⟩ := Option.map_eq_some_iff.mp h
  obtain ⟨rfl, rfl⟩ := Prod.mk.inj heq
  obtain ⟨place, hmoved⟩ := nonBlockingRead_taken hget
  exact ⟨place, hmoved⟩

/-- The loop over the ports keeps the packet itself, and hands every replica on.  Induction on the
ports. -/
lemma flood_conserved {ports : List P} (hs : BuffersConserved cfg s) (hb : b ∈ s.held)
    (hok : FloodOk cfg b ports s) (h : flood cfg b ports s = some s') :
    BuffersConserved cfg s' ∧ b ∈ s'.held := by
  induction ports generalizing s with
  | nil =>
      obtain rfl := Option.some.inj h
      exact ⟨hs, hb⟩
  | cons port ports ih =>
      cases hreplica : platformPacketReplicate b s with
      | none => simp [flood, hreplica] at h
      | some r =>
          obtain ⟨replica, s₁⟩ := r
          simp only [flood, hreplica] at h
          simp only [FloodOk, hreplica] at hok
          have htaken := platformPacketReplicate_taken hreplica
          have hs₁ := htaken.conserved hs
          obtain ⟨hb₁, hne⟩ := htaken.mem_held_of_mem hs hb
          have hgiven := outputSinglePacket_given hs₁ htaken.mem_held hok.1
          exact ih (hgiven.conserved hs₁) (hgiven.mem_held_of_mem hs₁ hb₁ hne) hok.2 h

lemma platformPacketOutput_conserved (hs : BuffersConserved cfg s) (hb : b ∈ s.held)
    {output_port : OutputPort P} (hok : OutputOk cfg b s output_port)
    (h : platformPacketOutput cfg b output_port s = some s') : BuffersConserved cfg s' := by
  have hflood : ∀ s', (∀ sw ∈ (s.pkts b).sw,
        FloodOk cfg b (floodPorts cfg s sw (s.pkts b).port_in) s) →
      platformPacketOutput cfg b .flood s = some s' → BuffersConserved cfg s' := by
    intro s' hok h
    simp only [platformPacketOutput] at h
    cases hsw : (s.pkts b).sw with
    | none =>
        simp only [hsw, Option.some.injEq] at h
        subst h
        exact (releaseBuffer_given hs hb).conserved hs
    | some sw =>
        simp only [hsw] at h
        obtain ⟨s₁, hloop, rfl⟩ := Option.map_eq_some_iff.mp h
        obtain ⟨hs₁, hb₁⟩ := flood_conserved hs hb (hok sw hsw) hloop
        exact (releaseBuffer_given hs₁ hb₁).conserved hs₁
  cases output_port with
  | null => exact hok.elim
  | flood => exact hflood s' hok h
  | all => exact hflood s' hok h
  | inPort =>
      obtain ⟨hlt, hport⟩ := hok
      simp only [platformPacketOutput, if_neg (Nat.not_le.mpr hlt)] at h
      cases hsw : (s.pkts b).sw with
      | none => simp [hsw] at h
      | some sw =>
          obtain ⟨port, hlogical, hsingle⟩ := hport sw hsw
          simp only [hsw, Option.mem_def.mp hlogical, Option.some.injEq] at h
          subst h
          exact (outputSinglePacket_given hs hb hsingle).conserved hs
  | port port =>
      obtain rfl := Option.some.inj h
      exact (outputSinglePacket_given hs hb hok).conserved hs

/-! ## Ports -/

lemma readPort_conserved (hs : BuffersConserved cfg s) (port : P) (frame : Option ℕ) :
    BuffersConserved cfg (readPort cfg port frame s) := by
  unfold readPort
  cases cfg.portType port with
  | mmap =>
      split_ifs
      · cases frame with
        | none => exact hs
        | some buflen =>
            cases hget : getBuffer s with
            | none => exact hs
            | some r => exact (nonBlockingRead_taken hget).conserved hs
      · exact hs
  | vlink connected_port =>
      cases hget : nonBlockingRead (.input_queue port) s with
      | none => exact hs
      | some r => exact (nonBlockingRead_taken hget).conserved hs

lemma writeMmap_conserved {port : P} {q_id : Fin IO_IFACE_NUM_QUEUES} {num_of_buckets : ℕ} :
    ∀ {free_slots : ℕ} {s : DriverState P S}, BuffersConserved cfg s →
      BuffersConserved cfg (writeMmap cfg port q_id num_of_buckets free_slots s) := by
  induction num_of_buckets with
  | zero =>
      intro free_slots s hs
      exact hs
  | succ num_of_buckets ih =>
      intro free_slots s hs
      cases free_slots with
      | zero => exact hs
      | succ free_slots =>
          rw [writeMmap]
          cases hread : nonBlockingRead (.output_queue port q_id) s with
          | none => exact hs
          | some r =>
              have htaken := nonBlockingRead_taken hread
              have hs₁ := htaken.conserved hs
              exact ih ((releaseBuffer_given hs₁ htaken.mem_held).conserved hs₁)

lemma txPkt_or_release_given (hs : BuffersConserved cfg s) (hb : b ∈ s.held) (port : P) :
    Given s ((txPkt cfg port b s).getD (releaseBuffer cfg b s)) b := by
  unfold txPkt
  split_ifs
  · exact releaseBuffer_given hs hb
  · exact write_or_release_given hs hb _

lemma writeVlink_conserved {port connected_port : P} {q_id : Fin IO_IFACE_NUM_QUEUES}
    {num_of_buckets : ℕ} (hs : BuffersConserved cfg s) :
    BuffersConserved cfg (writeVlink cfg port connected_port q_id num_of_buckets s) := by
  induction num_of_buckets generalizing s with
  | zero => exact hs
  | succ num_of_buckets ih =>
      rw [writeVlink]
      cases hread : nonBlockingRead (.output_queue port q_id) s with
      | none => exact hs
      | some r =>
          have htaken := nonBlockingRead_taken hread
          have hs₁ := htaken.conserved hs
          exact ih ((txPkt_or_release_given hs₁ htaken.mem_held connected_port).conserved hs₁)

lemma writePort_conserved (hs : BuffersConserved cfg s) (port : P)
    (q_id : Fin IO_IFACE_NUM_QUEUES) (num_of_buckets free_slots : ℕ) :
    BuffersConserved cfg (writePort cfg port q_id num_of_buckets free_slots s) := by
  unfold writePort
  cases cfg.portType port with
  | mmap => exact writeMmap_conserved hs
  | vlink connected_port => exact writeVlink_conserved hs

lemma drain_conserved {queue : Queue P S} {n : ℕ} (hs : BuffersConserved cfg s) :
    BuffersConserved cfg (drain cfg queue n s) := by
  induction n generalizing s with
  | zero => exact hs
  | succ n ih =>
      rw [drain]
      cases hread : nonBlockingRead queue s with
      | none => exact hs
      | some r =>
          have htaken := nonBlockingRead_taken hread
          have hs₁ := htaken.conserved hs
          exact ih ((releaseBuffer_given hs₁ htaken.mem_held).conserved hs₁)

lemma drainQueues_conserved (hs : BuffersConserved cfg s) (port : P) :
    BuffersConserved cfg (drainQueues cfg port s) :=
  List.foldlRecOn _ _ (drain_conserved hs) fun _ h _ _ => drain_conserved h

/-! ## Packet-in and packet-out -/

/-- When the control plane refuses the packet, no other stored packet has its `id`. -/
def DispatchOk (cfg : Config P) (st : DatapacketStorage) (accepted : Bool) : Prop :=
  accepted = true ∨ cfg.pktInStorageMaxBuf ≤ st.store.length ∨ ∀ map ∈ st.store, map.id ≠ st.nextId

/-- No packet that the loop of the dispatcher stores and takes out again shares its `id`. -/
def PacketInsOk (cfg : Config P) (sw : S) : List (Bool × ℤ) → DriverState P S → Prop
  | [], _ => True
  | (accepted, now) :: buckets, s =>
      match nonBlockingRead (.pkt_in_queue sw) s with
      | none => True
      | some (b, s') =>
          DispatchOk cfg (s'.storage sw) accepted ∧
            PacketInsOk cfg sw buckets (dispatchPacketIn cfg sw accepted now b s')

/-- A packet whose `id` is its own is taken out as it has been put in; then there is none with this
`id` to take out. -/
lemma getPacket_getPacket_store {st : DatapacketStorage} {now : ℤ}
    (hid : ∀ map ∈ st.store, map.id ≠ st.nextId) :
    ((DatapacketStorage.getPacket st.nextId
        { next_id := st.nextId, store := st.store ++ [⟨st.nextId, b, now⟩] }).2.getPacket
      st.nextId).2.store = st.store := by
  have hnot : ∀ map ∈ st.store, ¬ (map.id == st.nextId) = true := by simpa using hid
  simp only [DatapacketStorage.getPacket]
  rw [List.eraseP_append_right _ hnot, List.eraseP_cons_of_pos (by simp), List.append_nil,
    List.eraseP_of_forall_not hnot]

/-- A buffer that the processing code holds is stored, or released. -/
lemma dispatchPacketIn_given (hs : BuffersConserved cfg s) (hb : b ∈ s.held) {sw : S}
    {accepted : Bool} {now : ℤ} (hok : DispatchOk cfg (s.storage sw) accepted) :
    Given s (dispatchPacketIn cfg sw accepted now b s) b := by
  unfold dispatchPacketIn DatapacketStorage.storePacket
  by_cases hfull : cfg.pktInStorageMaxBuf ≤ (s.storage sw).store.length
  · rw [if_pos hfull]
    exact releaseBuffer_given hs hb
  rw [if_neg hfull]
  cases accepted with
  | true =>
      refine ⟨.storage sw, ?_⟩
      simp only [if_true]
      rw [buffers_setStorage, buffers_forget]
      refine moved_update (by simp) hb (List.Perm.refl _) ?_
      simp only [List.map_append, List.map_cons, List.map_nil]
      exact List.perm_append_singleton b _
  | false =>
      have hid : ∀ map ∈ (s.storage sw).store, map.id ≠ (s.storage sw).nextId := by
        simpa [DispatchOk, hfull] using hok
      simp only [Bool.false_eq_true, if_false]
      -- the storage is as before, but for the `id` that comes next
      have hrelease : ∀ st : DatapacketStorage, st.store = (s.storage sw).store →
          Given s (releaseBuffer cfg b (s.setStorage sw st)) b := by
        intro st hst
        have hsame : (s.setStorage sw st).buffers = s.buffers := by
          rw [buffers_setStorage, hst]
          exact Function.update_eq_self _ _
        have hs' : BuffersConserved cfg (s.setStorage sw st) := by
          rw [BuffersConserved, hsame]
          exact hs
        obtain ⟨place, hmoved⟩ := releaseBuffer_given hs' hb
        rw [hsame] at hmoved
        exact ⟨place, hmoved⟩
      exact hrelease _ (getPacket_getPacket_store hid)

lemma processPacketIns_conserved {sw : S} {buckets : List (Bool × ℤ)}
    (hs : BuffersConserved cfg s) (hok : PacketInsOk cfg sw buckets s) :
    BuffersConserved cfg (processPacketIns cfg sw buckets s) := by
  induction buckets generalizing s with
  | nil => exact hs
  | cons bucket buckets ih =>
      obtain ⟨accepted, now⟩ := bucket
      rw [processPacketIns]
      rw [PacketInsOk] at hok
      cases hread : nonBlockingRead (.pkt_in_queue sw) s with
      | none => exact hs
      | some r =>
          simp only [hread] at hok
          have htaken := nonBlockingRead_taken hread
          have hs₁ := htaken.conserved hs
          exact ih ((dispatchPacketIn_given hs₁ htaken.mem_held hok.1).conserved hs₁) hok.2

lemma processPacketOut_conserved (hs : BuffersConserved cfg s) (sw : S) (buffer_id : BitVec 32)
    (in_port : ℕ) (contains_output : Bool) (buffer_size : ℕ) :
    BuffersConserved cfg
      (processPacketOut cfg sw buffer_id in_port contains_output buffer_size s) := by
  unfold processPacketOut
  split_ifs
  · exact hs
  · cases hstored : getStored sw buffer_id s with
    | none => exact hs
    | some r =>
        have htaken := getStored_taken hstored
        have hs₁ := htaken.conserved hs
        exact (releaseBuffer_given hs₁ htaken.mem_held).conserved hs₁
  · cases hstored : getStored sw buffer_id s with
    | none => exact hs
    | some r => exact (getStored_taken hstored).conserved hs
  · cases hget : getBuffer s with
    | none => exact hs
    | some r => exact (nonBlockingRead_taken hget).conserved hs

lemma processFlowMod_conserved (hs : BuffersConserved cfg s) (sw : S) (buffer_id : BitVec 32)
    (result : Bool) : BuffersConserved cfg (processFlowMod sw buffer_id result s) := by
  unfold processFlowMod
  split_ifs
  · cases hstored : getStored sw buffer_id s with
    | none => exact hs
    | some r => exact (getStored_taken hstored).conserved hs
  · exact hs

lemma expirePackets_conserved {sw : S} {now : ℤ} {n : ℕ} (hs : BuffersConserved cfg s) :
    BuffersConserved cfg (expirePackets cfg sw now n s) := by
  induction n generalizing s with
  | zero => exact hs
  | succ n ih =>
      rw [expirePackets]
      cases (s.storage sw).oldestPacketNeedsExpiration cfg.pktInStorageExpirationS now with
      | none => exact hs
      | some buffer_id =>
          cases hstored : getStored sw buffer_id s with
          | none =>
              simp only [hstored]
              exact ih hs
          | some r =>
              simp only [hstored]
              have htaken := getStored_taken hstored
              have hs₁ := htaken.conserved hs
              exact ih ((releaseBuffer_given hs₁ htaken.mem_held).conserved hs₁)

lemma dropStored_conserved {sw : S} {n : ℕ} (hs : BuffersConserved cfg s) :
    BuffersConserved cfg (dropStored cfg sw n s) := by
  induction n generalizing s with
  | zero => exact hs
  | succ n ih =>
      rw [dropStored]
      cases hstore : (s.storage sw).store with
      | nil => exact hs
      | cons map store =>
          have htaken : Taken s
              ((s.setStorage sw { s.storage sw with store := store }).hold map.pkt) map.pkt := by
            refine ⟨.storage sw, ?_⟩
            rw [buffers_hold, buffers_setStorage]
            have hbuffers : s.buffers (.storage sw) = (map :: store).map StoreMapping.pkt := by
              rw [← hstore]
              rfl
            refine moved_update (by simp) ?_ ?_ (List.Perm.refl _)
            · rw [hbuffers]
              exact List.mem_cons_self
            · rw [hbuffers, List.map_cons, List.erase_cons_head]
          have hs₁ := htaken.conserved hs
          exact ih ((releaseBuffer_given hs₁ htaken.mem_held).conserved hs₁)

/-! ## Runs -/

/-- The call neither loses a buffer nor hands it on twice. -/
def Sound (cfg : Config P) (s : DriverState P S) : BufferAction P S → Prop
  | .enqueue port b q_id => EnqueueOk s port b q_id
  | .output b output_port => OutputOk cfg b s output_port
  | .processPacketIns sw hal => PacketInsOk cfg sw (List.ofFn hal) s
  | _ => True

omit [DecidableEq P] [DecidableEq S] in
/-- All buffers are free. -/
lemma init_conserved : BuffersConserved cfg (init cfg : DriverState P S) where
  nodup place := by
    cases place with
    | queue queue => cases queue <;> simp [buffers, init, List.nodup_range']
    | storage sw => simp [buffers, init]
    | held => simp [buffers, init]
  unique {place place' b} h h' := by
    have hcq : ∀ place : Place P S, b ∈ (init cfg : DriverState P S).buffers place →
        place = .queue .cq := by
      intro place h
      cases place with
      | queue queue => cases queue <;> simp_all [buffers, init]
      | storage sw => simp [buffers, init] at h
      | held => simp [buffers, init] at h
    rw [hcq place h, hcq place' h']
  mem_iff b := by
    constructor
    · intro hb
      refine ⟨.queue .cq, ?_⟩
      simpa [Config.pool, buffers, init] using hb
    · rintro ⟨place, h⟩
      cases place with
      | queue queue => cases queue <;> simp_all [buffers, init, Config.pool]
      | storage sw => simp [buffers, init] at h
      | held => simp [buffers, init] at h

/-- Every sound call conserves the buffers. -/
lemma bufferStep_conserved {a : BufferAction P S} (hs : BuffersConserved cfg s)
    (hok : Sound cfg s a) (hstep : bufferStep cfg s a = some s') : BuffersConserved cfg s' := by
  unfold bufferStep at hstep
  split_ifs at hstep with huses
  cases a with
  | output b output_port =>
      exact platformPacketOutput_conserved hs (huses b rfl) hok hstep
  | enqueue port b q_id =>
      obtain rfl := Option.some.inj hstep
      exact (enqueuePacket_given hs (huses b rfl) hok).conserved hs
  | drop b =>
      obtain rfl := Option.some.inj hstep
      exact (releaseBuffer_given hs (huses b rfl)).conserved hs
  | packetIn sw b =>
      obtain rfl := Option.some.inj hstep
      exact (write_or_release_given hs (huses b rfl) _).conserved hs
  | processPacketIns sw hal =>
      obtain rfl := Option.some.inj hstep
      exact processPacketIns_conserved hs hok
  | read port frame =>
      obtain rfl := Option.some.inj hstep
      exact readPort_conserved hs port frame
  | write port q_id num_of_buckets free_slots =>
      obtain rfl := Option.some.inj hstep
      exact writePort_conserved hs port q_id num_of_buckets free_slots
  | packetOut sw buffer_id in_port contains_output buffer_size =>
      obtain rfl := Option.some.inj hstep
      exact processPacketOut_conserved hs sw buffer_id in_port contains_output buffer_size
  | flowMod sw buffer_id result =>
      obtain rfl := Option.some.inj hstep
      exact processFlowMod_conserved hs sw buffer_id result
  | expire sw now =>
      obtain rfl := Option.some.inj hstep
      exact expirePackets_conserved hs
  | drainQueues port =>
      obtain rfl := Option.some.inj hstep
      exact drainQueues_conserved hs port
  | drainPacketIns sw =>
      obtain rfl := Option.some.inj hstep
      exact drain_conserved hs
  | destroyStorage sw =>
      obtain rfl := Option.some.inj hstep
      exact dropStored_conserved hs
  | _ =>
      -- packets, ports and switches are not places
      obtain rfl := Option.some.inj hstep
      exact hs

/-- **Buffer conservation.**  In every sequence of sound calls, from the pool all of whose buffers
are free, every buffer of the pool stays in exactly one place, and once in it. -/
theorem buffersConserved_of_run (cfg : Config P) {acts : List (BufferAction P S)}
    {s : DriverState P S} (hrun : Run (bufferStep cfg) (Sound cfg) (init cfg) acts s) :
    BuffersConserved cfg s :=
  hrun.invariant (fun _ _ _ hs hok hstep => bufferStep_conserved hs hok hstep) init_conserved

/-- A port that is up and forwards. -/
def portUp : SwitchPort where
  of_port_num := 1
  platform_port_state := true
  up := true
  forward_packets := true
  drop_received := false
  no_flood := false

/-- A driver with four slots for free buffers, with two ports in a switch. -/
def smallDriver : Config Bool where
  capacity := 4
  ringSlots := 4
  pktInQueueSlots := 4
  pktInStorageMaxBuf := 2
  pktInStorageExpirationS := 10
  maxLogPorts := 2
  portType _ := .mmap

/-- A packet is received, and sent out of the port again. -/
def readOutputWrite : List (BufferAction Bool Unit) :=
  [.setPort true portUp, .read true (some 64), .output 0 (.port true),
    .write true ⟨0, IO_IFACE_NUM_QUEUES_pos⟩ 1 1]

theorem buffersConserved_readOutputWrite :
    ∃ s ∈ exec (bufferStep smallDriver) (init smallDriver) readOutputWrite,
      BuffersConserved smallDriver s := by
  have hport : ∀ s : DriverState Bool Unit, (s.pkts 0).output_queue = 0 →
      OutputSingleOk s 0 true := by
    rintro s hs - -
    rw [hs]
    decide
  have hrun : Run (bufferStep smallDriver) (Sound smallDriver) (init smallDriver)
      readOutputWrite _ :=
    .cons trivial rfl (.cons trivial rfl (.cons (hport _ rfl) rfl (.cons trivial rfl (.nil _))))
  exact ⟨_, rfl, buffersConserved_of_run smallDriver hrun⟩

/-! ## An invalid queue -/

/-- A packet for an invalid queue is released, and put in the queue 0. -/
lemma enqueuePacket_invalid {port : P} {q_id : ℕ}
    (haccepts : (s.ports port).Accepts (s.pkts b).len) (hq : IO_IFACE_NUM_QUEUES ≤ q_id)
    (hfree : (s.queues .cq).length + 1 < cfg.capacity)
    (hroom : (s.queues (.output_queue port ⟨0, by decide⟩)).length + 1 < cfg.ringSlots) :
    ¬ BuffersConserved cfg (enqueuePacket cfg port b q_id s) := by
  have hlt : ¬ q_id < IO_IFACE_NUM_QUEUES := Nat.not_lt.mpr hq
  have hrelease : releaseBuffer cfg b s =
      (s.forget b).setQueue .cq (s.queues .cq ++ [b]) := by
    rw [releaseBuffer, nonBlockingWrite_of_lt (by exact hfree), Option.getD_some]
  have hqueue : (releaseBuffer cfg b s).queues (.output_queue port ⟨0, by decide⟩) =
      s.queues (.output_queue port ⟨0, by decide⟩) := by
    have hne : (Queue.output_queue port ⟨0, by decide⟩ : Queue P S) ≠ .cq := by simp
    rw [hrelease]
    exact Function.update_of_ne hne (s.queues .cq ++ [b]) s.queues
  have henqueue : enqueuePacket cfg port b q_id s =
      ((releaseBuffer cfg b s).forget b).setQueue (.output_queue port ⟨0, by decide⟩)
        (s.queues (.output_queue port ⟨0, by decide⟩) ++ [b]) := by
    unfold enqueuePacket
    rw [if_pos haccepts]
    simp only [if_neg hlt, dif_neg hlt]
    rw [nonBlockingWrite_of_lt (by rw [hqueue]; exact hroom), Option.getD_some, hqueue]
  intro hconserved
  have hcq : b ∈ (enqueuePacket cfg port b q_id s).buffers (.queue .cq) := by
    simp [henqueue, hrelease]
  have houtput : b ∈ (enqueuePacket cfg port b q_id s).buffers
      (.queue (.output_queue port ⟨0, by decide⟩)) := by
    simp [henqueue]
  exact absurd (hconserved.unique hcq houtput) (by simp)

/-- The options that `config.h` sets, with one port, and with 64 logical ports in a switch. -/
def gnuLinux : Config Unit where
  capacity := 2048 + 2048 * 16 - 2048
  ringSlots := 2048
  pktInQueueSlots := 64
  pktInStorageMaxBuf := 512
  pktInStorageExpirationS := 10
  maxLogPorts := 64
  portType _ := .mmap

/-- A packet that an action has given an output queue that no port has. -/
def invalidQueue : List (BufferAction Unit Unit) :=
  [.setPort () portUp, .read () (some 64),
    .setPkt 0 { sw := some (), len := 64, port_in := 1, output_queue := 8 },
    .output 0 (.port ())]

/-- The packet has been received, and a set-queue action has given it the queue `8`. -/
def badQueueId : DriverState Unit Unit :=
  ((((((init gnuLinux).setPort () portUp).setQueue .cq (List.range' 1 32766)).hold 0).setPkt 0
    { sw := none, len := 64, port_in := 1, output_queue := 0 }).setPkt 0
      { sw := some (), len := 64, port_in := 1, output_queue := 8 })

/-- A packet whose queue is invalid is released, so that its buffer is free, and is put in the queue
`0` of the port as well. -/
theorem not_buffersConserved_invalidQueue :
    ¬ ∀ (acts : List (BufferAction Unit Unit)) (s : DriverState Unit Unit),
      Run (bufferStep gnuLinux) anyStep (init gnuLinux) acts s →
        BuffersConserved gnuLinux s := by
  intro hall
  have hfree : (badQueueId.queues .cq).length + 1 < gnuLinux.capacity := by
    have hcq : badQueueId.queues .cq = List.range' 1 32766 := rfl
    rw [hcq, List.length_range']
    decide
  have hrun : Run (bufferStep gnuLinux) anyStep (init gnuLinux) invalidQueue
      (enqueuePacket gnuLinux () 0 8 badQueueId) :=
    run_of_exec rfl
  exact enqueuePacket_invalid (by decide) (le_refl 8) hfree (by decide) (hall _ _ hrun)

end Xdpd.Io
