import Mathlib.Data.List.Nodup
import Mathlib.Data.List.Perm.Basic
import Xdpd.Io.BufferConservation

/-!
# Output to all ports

`platform_packet_output` to the meta ports FLOOD and ALL takes a free buffer for each port of the
switch, copies the packet into it, and releases the packet in the end.  A copy that its port does
not take is released at once, so that its buffer is free for the next port.

When no buffer is left, the null pointer that `platform_packet_replicate` gives is dereferenced.
`floodsRightly_iff` says when all ports get their copies.
-/

namespace Xdpd.Io

open Xdpd.Lib DriverState

variable {P S : Type*}

/-! ## The purpose -/

/-- `output_single_packet` passes packets on to the port. -/
def SwitchPort.Sends (port : SwitchPort) : Prop :=
  port.platform_port_state = true ∧ port.up = true ∧ port.forward_packets = true

instance (port : SwitchPort) : Decidable port.Sends := inferInstanceAs (Decidable (_ ∧ _))

/-- There is an output queue of the port with this number, and it has room. -/
def HasRoom (cfg : Config P) (s : DriverState P S) (port : P) (q_id : ℕ) : Prop :=
  ∃ q : Fin IO_IFACE_NUM_QUEUES, q = q_id ∧
    (s.queues (.output_queue port q)).length + 1 < cfg.ringSlots

instance (cfg : Config P) (s : DriverState P S) (port : P) (q_id : ℕ) :
    Decidable (HasRoom cfg s port q_id) :=
  inferInstanceAs (Decidable (∃ _, _))

/-- The port takes a copy of the packet. -/
def Takes (cfg : Config P) (s : DriverState P S) (b : ℕ) (port : P) : Prop :=
  (s.ports port).Sends ∧ MIN_PKT_LEN ≤ (s.pkts b).len ∧
    HasRoom cfg s port (s.pkts b).output_queue

instance (cfg : Config P) (s : DriverState P S) (b : ℕ) (port : P) :
    Decidable (Takes cfg s b port) :=
  inferInstanceAs (Decidable (_ ∧ _))

/-- The ports that are to get a copy: those of the switch of the packet but for the ingress port,
and for those that are not to be flooded. -/
def floodTargets (cfg : Config P) (s : DriverState P S) (b : ℕ) : List P :=
  match (s.pkts b).sw with
  | none => []
  | some sw => floodPorts cfg s sw (s.pkts b).port_in

/-- Those of them that take it. -/
def takers (cfg : Config P) (s : DriverState P S) (b : ℕ) : List P :=
  (floodTargets cfg s b).filter (Takes cfg s b)

/-- A buffer is left for each copy: there are more free ones than have been taken before. -/
def Enough (T : P → Prop) [DecidablePred T] (ports : List P) (free : ℕ) : Prop :=
  ∀ k < ports.length, ((ports.take k).filter T).length < free

instance (T : P → Prop) [DecidablePred T] (ports : List P) (free : ℕ) :
    Decidable (Enough T ports free) :=
  inferInstanceAs (Decidable (∀ k < ports.length, _))

/-- The free buffers suffice. -/
def Suffices (cfg : Config P) (s : DriverState P S) (b : ℕ) : Prop :=
  Enough (Takes cfg s b) (floodTargets cfg s b) (s.queues .cq).length

instance (cfg : Config P) (s : DriverState P S) (b : ℕ) : Decidable (Suffices cfg s b) :=
  inferInstanceAs (Decidable (Enough _ _ _))

/-- The packet is free again, and held by nobody. -/
structure Disposed (s : DriverState P S) (b : ℕ) (s' : DriverState P S) : Prop where
  free : (s'.queues .cq).count b = 1
  held : s'.held = s.held.erase b

/-- Nothing has been sent to the ingress port. -/
def SparesIngress (s : DriverState P S) (b : ℕ) (s' : DriverState P S) : Prop :=
  ∀ sw ∈ (s.pkts b).sw, ∀ port ∈ s.logical_ports sw (s.pkts b).port_in, ∀ q,
    s'.queues (.output_queue port q) = s.queues (.output_queue port q)

section Queues

variable [DecidableEq P]

/-- Each port that takes the packet has got one copy of it; all other buffers are free. -/
structure Delivered (cfg : Config P) (s : DriverState P S) (b : ℕ) (copy : P → ℕ)
    (s' : DriverState P S) : Prop where
  output_queue : ∀ port (q : Fin IO_IFACE_NUM_QUEUES),
    s'.queues (.output_queue port q) = s.queues (.output_queue port q) ++
      if port ∈ takers cfg s b ∧ q = (s.pkts b).output_queue then [copy port] else []
  pkts : ∀ port ∈ takers cfg s b, s'.pkts (copy port) = s.pkts b
  cq : (s'.queues .cq ++ (takers cfg s b).map copy).Perm (b :: s.queues .cq)

variable [DecidableEq S]

/-- The state with something else in the free buffers. -/
def DriverState.refill (s : DriverState P S) (pkts : ℕ → Datapacket S) : DriverState P S :=
  { s with pkts := fun c => if c ∈ s.queues .cq then pkts c else s.pkts c }

/-- Output to one of the meta ports is right, whatever the free buffers contain. -/
def FloodsRightly (cfg : Config P) (s : DriverState P S) (b : ℕ) : Prop :=
  ∀ output_port ∈ [OutputPort.flood, .all], ∀ pkts, ∃ s',
    platformPacketOutput cfg b output_port (s.refill pkts) = some s' ∧
      Disposed s b s' ∧ SparesIngress s b s' ∧
      (Suffices cfg s b → ∃ copy, Delivered cfg s b copy s')

/-- The free buffers suffice; a packet that is copied fits into a buffer; and one that a port takes
is not for an invalid queue. -/
structure CanFlood (cfg : Config P) (s : DriverState P S) (b : ℕ) : Prop where
  enough : Suffices cfg s b
  fits : takers cfg s b = [] ∨ (s.pkts b).len ≤ FRAME_SIZE_BYTES
  queue : (s.pkts b).output_queue < IO_IFACE_NUM_QUEUES ∨
    ∀ port ∈ floodTargets cfg s b, ¬ ((s.ports port).Sends ∧ MIN_PKT_LEN ≤ (s.pkts b).len)

end Queues

/-! ## One copy -/

/-- What is in a copy, where `stale` has been in its buffer. -/
def replica (orig stale : Datapacket S) : Datapacket S :=
  clonePktContents orig { stale with sw := orig.sw }

lemma replica_of_le {orig : Datapacket S} (h : orig.len ≤ FRAME_SIZE_BYTES)
    (stale : Datapacket S) : replica orig stale = orig := by
  rw [replica, clonePktContents, Datapacket.init, if_neg h.not_gt]

lemma replica_of_lt {orig : Datapacket S} (h : FRAME_SIZE_BYTES < orig.len)
    (stale : Datapacket S) : (replica orig stale).len = stale.len := by
  rw [replica, clonePktContents, Datapacket.init, if_pos h]

@[simp]
lemma replica_output_queue (orig stale : Datapacket S) :
    (replica orig stale).output_queue = orig.output_queue := rfl

/-- A buffer that is used for a second copy has the same in it as after the first. -/
lemma replica_replica (orig stale : Datapacket S) :
    replica orig (replica orig stale) = replica orig stale := by
  by_cases h : orig.len ≤ FRAME_SIZE_BYTES
  · rw [replica_of_le h, replica_of_le h]
  · simp only [replica, clonePktContents, Datapacket.init, if_pos (not_le.1 h)]

variable [DecidableEq P] [DecidableEq S]
variable {cfg : Config P} {s s' : DriverState P S} {b c : ℕ} {rest : List ℕ} {port : P}

namespace DriverState

/-- The copy has been made, and the queues are as they are given. -/
def copied (s : DriverState P S) (b c : ℕ) (queues : Queue P S → List ℕ) : DriverState P S :=
  { s with queues := queues, pkts := Function.update s.pkts c (replica (s.pkts b) (s.pkts c)) }

/-- The copy has just been made from a free buffer. -/
def replicated (s : DriverState P S) (b c : ℕ) (rest : List ℕ) : DriverState P S :=
  (s.copied b c (Function.update s.queues .cq rest)).hold c

@[simp]
lemma replicated_cq : (s.replicated b c rest).queues .cq = rest := by
  show Function.update s.queues .cq rest .cq = rest
  rw [Function.update_self]

@[simp]
lemma replicated_output_queue (q : Fin IO_IFACE_NUM_QUEUES) :
    (s.replicated b c rest).queues (.output_queue port q) = s.queues (.output_queue port q) := by
  show Function.update s.queues .cq rest (.output_queue port q) = s.queues (.output_queue port q)
  rw [Function.update_of_ne (by simp)]

@[simp]
lemma replicated_pkts : (s.replicated b c rest).pkts c = replica (s.pkts b) (s.pkts c) := by
  show Function.update s.pkts c (replica (s.pkts b) (s.pkts c)) c = replica (s.pkts b) (s.pkts c)
  rw [Function.update_self]

end DriverState

/-- The queues after a copy has been released. -/
def released (s : DriverState P S) (c : ℕ) (rest : List ℕ) : Queue P S → List ℕ :=
  Function.update s.queues .cq (rest ++ [c])

/-- The queues after a copy has been put in the queue of a port. -/
def enqueued (s : DriverState P S) (c : ℕ) (rest : List ℕ) (port : P)
    (q : Fin IO_IFACE_NUM_QUEUES) : Queue P S → List ℕ :=
  Function.update (Function.update s.queues .cq rest) (.output_queue port q)
    (s.queues (.output_queue port q) ++ [c])

lemma flood_cons (hcq : s.queues .cq = c :: rest) (ports : List P) :
    flood cfg b (port :: ports) s =
      flood cfg b ports (outputSinglePacket cfg c port (s.replicated b c rest)) := by
  rw [flood, platformPacketReplicate, getBuffer, nonBlockingRead, hcq]
  rfl

lemma flood_cons_of_empty (hcq : s.queues .cq = []) (ports : List P) :
    flood cfg b (port :: ports) s = none := by
  rw [flood, platformPacketReplicate, getBuffer, nonBlockingRead, hcq]
  rfl

lemma releaseBuffer_replicated (hroom : rest.length + 1 < cfg.capacity) :
    releaseBuffer cfg c (s.replicated b c rest) = s.copied b c (released s c rest) := by
  have hwrite : ((s.replicated b c rest).queues .cq).length + 1 < cfg.slots (.cq : Queue P S) := by
    rwa [replicated_cq]
  rw [releaseBuffer, nonBlockingWrite_of_lt hwrite, Option.getD_some, replicated_cq]
  simp [replicated, forget, hold, copied, setQueue, released]

/-- The port passes on what is in the copy. -/
def Passes (s : DriverState P S) (b : ℕ) (port : P) (c : ℕ) : Prop :=
  (s.ports port).Sends ∧ MIN_PKT_LEN ≤ (replica (s.pkts b) (s.pkts c)).len

lemma outputSinglePacket_of_not_passes (hroom : rest.length + 1 < cfg.capacity)
    (h : ¬ Passes s b port c) :
    outputSinglePacket cfg c port (s.replicated b c rest) = s.copied b c (released s c rest) := by
  rw [outputSinglePacket]
  split_ifs with hsends
  · have haccepts : ¬ ((s.replicated b c rest).ports port).Accepts
        ((s.replicated b c rest).pkts c).len := by
      rw [replicated_pkts]
      exact fun haccepts => h ⟨hsends, haccepts.2.2⟩
    rw [enqueuePacket, if_neg haccepts, releaseBuffer_replicated hroom]
  · exact releaseBuffer_replicated hroom

lemma outputSinglePacket_of_passes (h : Passes s b port c) :
    outputSinglePacket cfg c port (s.replicated b c rest) =
      if hq : (s.pkts b).output_queue < IO_IFACE_NUM_QUEUES then
        (nonBlockingWrite cfg (.output_queue port ⟨_, hq⟩) c (s.replicated b c rest)).getD
          (releaseBuffer cfg c (s.replicated b c rest))
      else
        (nonBlockingWrite cfg (.output_queue port ⟨0, IO_IFACE_NUM_QUEUES_pos⟩) c
          (releaseBuffer cfg c (s.replicated b c rest))).getD
            (releaseBuffer cfg c (releaseBuffer cfg c (s.replicated b c rest))) := by
  have hsends : ((s.replicated b c rest).ports port).platform_port_state = true ∧
      ((s.replicated b c rest).ports port).up = true ∧
      ((s.replicated b c rest).ports port).forward_packets = true := h.1
  have haccepts : ((s.replicated b c rest).ports port).Accepts
      ((s.replicated b c rest).pkts c).len := by
    rw [replicated_pkts]
    exact ⟨h.1.2.1, h.1.2.2, h.2⟩
  rw [outputSinglePacket, if_pos hsends, enqueuePacket, if_pos haccepts, replicated_pkts,
    replica_output_queue]
  by_cases hq : (s.pkts b).output_queue < IO_IFACE_NUM_QUEUES
  · simp only [hq, if_true, dif_pos]
  · simp only [hq, if_false, dif_neg, not_false_eq_true]

lemma outputSinglePacket_of_room (h : Passes s b port c) {q : Fin IO_IFACE_NUM_QUEUES}
    (hq : q = (s.pkts b).output_queue)
    (hroom : (s.queues (.output_queue port q)).length + 1 < cfg.ringSlots) :
    outputSinglePacket cfg c port (s.replicated b c rest) =
      s.copied b c (enqueued s c rest port q) := by
  have hlt : (s.pkts b).output_queue < IO_IFACE_NUM_QUEUES := hq ▸ q.isLt
  have hwrite : ((s.replicated b c rest).queues (.output_queue port q)).length + 1 <
      cfg.slots (.output_queue port q : Queue P S) := by
    rwa [replicated_output_queue]
  obtain rfl : q = ⟨_, hlt⟩ := Fin.ext hq
  rw [outputSinglePacket_of_passes h, dif_pos hlt, nonBlockingWrite_of_lt hwrite, Option.getD_some,
    replicated_output_queue]
  simp [replicated, forget, hold, copied, setQueue, enqueued]

lemma outputSinglePacket_of_no_room (hcapacity : rest.length + 1 < cfg.capacity)
    (hlt : (s.pkts b).output_queue < IO_IFACE_NUM_QUEUES)
    (hroom : ¬ HasRoom cfg s port (s.pkts b).output_queue) :
    outputSinglePacket cfg c port (s.replicated b c rest) = s.copied b c (released s c rest) := by
  by_cases h : Passes s b port c
  · have hwrite : ¬ ((s.replicated b c rest).queues (.output_queue port ⟨_, hlt⟩)).length + 1 <
        cfg.slots (.output_queue port ⟨_, hlt⟩ : Queue P S) := by
      rw [replicated_output_queue]
      exact fun hwrite => hroom ⟨⟨_, hlt⟩, rfl, hwrite⟩
    rw [outputSinglePacket_of_passes h, dif_pos hlt, nonBlockingWrite, if_neg hwrite,
      Option.getD_none, releaseBuffer_replicated hcapacity]
  · exact outputSinglePacket_of_not_passes hcapacity h

/-! ## The loop -/

/-- The free buffers are in the pool once, and that of the packet is not one of them. -/
structure Free (cfg : Config P) (s : DriverState P S) (b : ℕ) : Prop where
  nodup : (s.queues .cq).Nodup
  notMem : b ∉ s.queues .cq
  room : (s.queues .cq).length < cfg.capacity

/-- Each copy is put in the queue of the port if `taken` holds of it, and released if not. -/
structure Behaves (cfg : Config P) (s : DriverState P S) (b : ℕ) (port : P) (taken : Prop) :
    Prop where
  takes : taken → HasRoom cfg s port (s.pkts b).output_queue ∧
    ∀ c ∈ s.queues .cq, Passes s b port c
  drops : ¬ taken → ((s.pkts b).output_queue < IO_IFACE_NUM_QUEUES ∧
      ¬ HasRoom cfg s port (s.pkts b).output_queue) ∨
    ∀ c ∈ s.queues .cq, ¬ Passes s b port c

/-- What the loop leaves, where the ports with `T` have got copies. -/
structure Flooded (T : P → Prop) [DecidablePred T] (ports : List P) (s : DriverState P S) (b : ℕ)
    (copy : P → ℕ) (s' : DriverState P S) : Prop where
  held : s'.held = s.held
  output_queue : ∀ port (q : Fin IO_IFACE_NUM_QUEUES),
    s'.queues (.output_queue port q) = s.queues (.output_queue port q) ++
      if port ∈ ports.filter T ∧ q = (s.pkts b).output_queue then [copy port] else []
  cq : (s'.queues .cq ++ (ports.filter T).map copy).Perm (s.queues .cq)
  pkts : ∀ port ∈ ports.filter T,
    s'.pkts (copy port) = replica (s.pkts b) (s.pkts (copy port))
  frame : ∀ c ∉ s.queues .cq, s'.pkts c = s.pkts c

section Step

variable {queues : Queue P S → List ℕ} {taken : Prop}

omit [DecidableEq P] [DecidableEq S] in
lemma queues_copied : (s.copied b c queues).queues = queues := rfl

omit [DecidableEq P] [DecidableEq S] in
lemma pkts_copied (hbc : b ≠ c) : (s.copied b c queues).pkts b = s.pkts b :=
  Function.update_of_ne hbc _ _

omit [DecidableEq P] [DecidableEq S] in
lemma replica_copied (hbc : b ≠ c) (c' : ℕ) :
    replica ((s.copied b c queues).pkts b) ((s.copied b c queues).pkts c') =
      replica (s.pkts b) (s.pkts c') := by
  rw [pkts_copied hbc]
  by_cases hc : c' = c
  · subst hc
    have hpkt : (s.copied b c' queues).pkts c' = replica (s.pkts b) (s.pkts c') :=
      Function.update_self ..
    rw [hpkt, replica_replica]
  · have hpkt : (s.copied b c queues).pkts c' = s.pkts c' := Function.update_of_ne hc _ _
    rw [hpkt]

omit [DecidableEq P] [DecidableEq S] in
lemma passes_copied (hbc : b ≠ c) (c' : ℕ) :
    Passes (s.copied b c queues) b port c' ↔ Passes s b port c' := by
  rw [Passes, Passes, replica_copied hbc]
  rfl

omit [DecidableEq P] [DecidableEq S] in
/-- The next port finds the pool and its queues as it would have before. -/
lemma Behaves.copied (h : Behaves cfg s b port taken) (hbc : b ≠ c)
    (hcq : queues .cq ⊆ s.queues .cq)
    (houtput : ∀ q, queues (.output_queue port q) = s.queues (.output_queue port q)) :
    Behaves cfg (s.copied b c queues) b port taken := by
  have hroom : HasRoom cfg (s.copied b c queues) port (s.pkts b).output_queue ↔
      HasRoom cfg s port (s.pkts b).output_queue := by
    refine exists_congr fun q => and_congr_right fun _ => ?_
    rw [← houtput q]
    rfl
  have hpasses := @passes_copied P S s b c port queues hbc
  refine ⟨fun htaken => ?_, fun hnot => ?_⟩
  · rw [pkts_copied hbc, hroom]
    exact ⟨(h.takes htaken).1, fun c' hc' => (hpasses c').2 ((h.takes htaken).2 c' (hcq hc'))⟩
  · rw [pkts_copied hbc, hroom]
    exact (h.drops hnot).imp_right fun hdrops c' hc' hp => hdrops c' (hcq hc') ((hpasses c').1 hp)

end Step

section Cons

variable {q : Fin IO_IFACE_NUM_QUEUES} {taken : Prop}

lemma enqueued_cq : enqueued s c rest port q .cq = rest := by
  rw [enqueued, Function.update_of_ne (by simp), Function.update_self]

lemma enqueued_output_queue (port' : P) (q' : Fin IO_IFACE_NUM_QUEUES) :
    enqueued s c rest port q (.output_queue port' q') = s.queues (.output_queue port' q') ++
      if port' = port ∧ q' = q then [c] else [] := by
  by_cases h : port' = port ∧ q' = q
  · obtain ⟨rfl, rfl⟩ := h
    rw [enqueued, Function.update_self, if_pos ⟨rfl, rfl⟩]
  · have hne : (Queue.output_queue port' q' : Queue P S) ≠ .output_queue port q := by
      rw [ne_eq, Queue.output_queue.injEq]
      exact h
    rw [enqueued, Function.update_of_ne hne, Function.update_of_ne (by simp), if_neg h,
      List.append_nil]

lemma released_cq : released s c rest .cq = rest ++ [c] := Function.update_self ..

lemma released_output_queue (port' : P) (q' : Fin IO_IFACE_NUM_QUEUES) :
    released s c rest (.output_queue port' q') = s.queues (.output_queue port' q') :=
  Function.update_of_ne (by simp) _ _

lemma outputSinglePacket_of_taken (hcq : s.queues .cq = c :: rest)
    (h : Behaves cfg s b port taken) (htaken : taken) :
    ∃ q : Fin IO_IFACE_NUM_QUEUES, q = (s.pkts b).output_queue ∧
      outputSinglePacket cfg c port (s.replicated b c rest) =
        s.copied b c (enqueued s c rest port q) := by
  obtain ⟨⟨q, hq, hroom⟩, hpasses⟩ := h.takes htaken
  exact ⟨q, hq, outputSinglePacket_of_room (hpasses c (by simp [hcq])) hq hroom⟩

lemma outputSinglePacket_of_dropped (hfree : Free cfg s b) (hcq : s.queues .cq = c :: rest)
    (h : Behaves cfg s b port taken) (hnot : ¬ taken) :
    outputSinglePacket cfg c port (s.replicated b c rest) = s.copied b c (released s c rest) := by
  have hcapacity : rest.length + 1 < cfg.capacity := by
    have hroom := hfree.room
    rwa [hcq] at hroom
  rcases h.drops hnot with ⟨hlt, hroom⟩ | hpasses
  · exact outputSinglePacket_of_no_room hcapacity hlt hroom
  · exact outputSinglePacket_of_not_passes hcapacity (hpasses c (by simp [hcq]))

lemma Free.enqueued (h : Free cfg s b) (hcq : s.queues .cq = c :: rest) :
    Free cfg (s.copied b c (Io.enqueued s c rest port q)) b := by
  have hqueue : (s.copied b c (Io.enqueued s c rest port q)).queues .cq = rest := by
    rw [queues_copied, enqueued_cq]
  refine ⟨?_, fun hb => h.notMem ?_, ?_⟩
  · rw [hqueue]
    exact (List.nodup_cons.1 (hcq ▸ h.nodup)).2
  · rw [hqueue] at hb
    rw [hcq]
    exact List.mem_cons_of_mem c hb
  · have hroom := h.room
    rw [hcq, List.length_cons] at hroom
    rw [hqueue]
    omega

lemma Free.released (h : Free cfg s b) (hcq : s.queues .cq = c :: rest) :
    Free cfg (s.copied b c (Io.released s c rest)) b := by
  have hqueue : (s.copied b c (Io.released s c rest)).queues .cq = rest ++ [c] := by
    rw [queues_copied, released_cq]
  have hperm := List.perm_append_singleton c rest
  refine ⟨?_, fun hb => h.notMem ?_, ?_⟩
  · rw [hqueue, hperm.nodup_iff, ← hcq]
    exact h.nodup
  · rw [hqueue] at hb
    rw [hcq]
    exact hperm.subset hb
  · rw [hqueue, hperm.length_eq, ← hcq]
    exact h.room

lemma Behaves.enqueued (h : Behaves cfg s b port taken) (hbc : b ≠ c)
    (hcq : s.queues .cq = c :: rest) {port' : P} (hne : port' ≠ port) :
    Behaves cfg (s.copied b c (Io.enqueued s c rest port' q)) b port taken := by
  refine h.copied hbc ?_ fun q' => ?_
  · rw [enqueued_cq, hcq]
    exact List.subset_cons_self c rest
  · rw [enqueued_output_queue, if_neg fun h => hne h.1.symm, List.append_nil]

lemma Behaves.released (h : Behaves cfg s b port taken) (hbc : b ≠ c)
    (hcq : s.queues .cq = c :: rest) :
    Behaves cfg (s.copied b c (Io.released s c rest)) b port taken := by
  refine h.copied hbc ?_ fun q' => released_output_queue port q'
  rw [released_cq, hcq]
  exact (List.perm_append_singleton c rest).subset

variable {T : P → Prop} [DecidablePred T] {ports : List P} {copy : P → ℕ}

lemma Flooded.cons_taken (hfree : Free cfg s b) (hcq : s.queues .cq = c :: rest)
    (h : Flooded T ports (s.copied b c (enqueued s c rest port q)) b copy s')
    (hport : port ∉ ports) (htaken : T port) (hq : q = (s.pkts b).output_queue) :
    Flooded T (port :: ports) s b (Function.update copy port c) s' := by
  have hbc : b ≠ c := fun hbc => hfree.notMem (by simp [hbc, hcq])
  have hc : c ∉ rest := (List.nodup_cons.1 (hcq ▸ hfree.nodup)).1
  have hmem : port ∉ ports.filter T := fun hmem => hport (List.mem_of_mem_filter hmem)
  have hcopy : ∀ port' ∈ ports.filter T, Function.update copy port c port' = copy port' := by
    intro port' hport'
    refine Function.update_of_ne ?_ _ _
    rintro rfl
    exact hmem hport'
  have hfilter : (port :: ports).filter T = port :: ports.filter T :=
    List.filter_cons_of_pos (decide_eq_true htaken)
  have henqueued : (s.copied b c (enqueued s c rest port q)).queues .cq = rest := by
    rw [queues_copied, enqueued_cq]
  refine ⟨h.held, fun port' q' => ?_, ?_, ?_, ?_⟩
  · rw [h.output_queue, hfilter, pkts_copied hbc]
    rw [queues_copied, enqueued_output_queue, ← hq, List.append_assoc]
    by_cases heq : port' = port
    · subst heq
      simp [hmem, Fin.ext_iff]
    · simp [heq]
  · have hperm := h.cq
    rw [hfilter, List.map_cons, Function.update_self, List.map_congr_left hcopy, hcq]
    refine List.perm_middle.trans (List.Perm.cons c ?_)
    rwa [henqueued] at hperm
  · rw [hfilter, List.forall_mem_cons, Function.update_self]
    refine ⟨?_, fun port' hport' => ?_⟩
    · rw [h.frame c (by rwa [henqueued])]
      exact Function.update_self ..
    · rw [hcopy port' hport', h.pkts port' hport', replica_copied hbc]
  · intro c' hc'
    rw [hcq, List.mem_cons, not_or] at hc'
    rw [h.frame c' (by rw [henqueued]; exact hc'.2)]
    exact Function.update_of_ne hc'.1 _ _

lemma Flooded.cons_dropped (hfree : Free cfg s b) (hcq : s.queues .cq = c :: rest)
    (h : Flooded T ports (s.copied b c (released s c rest)) b copy s') (hnot : ¬ T port) :
    Flooded T (port :: ports) s b copy s' := by
  have hbc : b ≠ c := fun hbc => hfree.notMem (by simp [hbc, hcq])
  have hfilter : (port :: ports).filter T = ports.filter T :=
    List.filter_cons_of_neg (by simpa using hnot)
  have hreleased : (s.copied b c (released s c rest)).queues .cq = rest ++ [c] := by
    rw [queues_copied, released_cq]
  refine ⟨h.held, fun port' q' => ?_, ?_, ?_, ?_⟩
  · rw [h.output_queue, hfilter, pkts_copied hbc]
    rw [queues_copied, released_output_queue]
  · rw [hfilter, hcq]
    have hperm := h.cq
    rw [hreleased] at hperm
    exact hperm.trans (List.perm_append_singleton c rest)
  · rw [hfilter]
    intro port' hport'
    rw [h.pkts port' hport', replica_copied hbc]
  · intro c' hc'
    rw [hcq, List.mem_cons, not_or] at hc'
    rw [h.frame c' (by rw [hreleased]; simp [hc'])]
    exact Function.update_of_ne hc'.1 _ _

omit [DecidableEq P] in
lemma enough_cons {free : ℕ} :
    Enough T (port :: ports) free ↔
      0 < free ∧ Enough T ports (if T port then free - 1 else free) := by
  have hcount : ∀ k, (((port :: ports).take (k + 1)).filter T).length =
      (if T port then 1 else 0) + ((ports.take k).filter T).length := by
    intro k
    rw [List.take_succ_cons, List.filter_cons]
    by_cases h : T port
    · simp [h, Nat.add_comm]
    · simp [h]
  constructor
  · intro h
    have hpos : 0 < free := h 0 (by simp)
    refine ⟨hpos, fun k hk => ?_⟩
    have hk' := h (k + 1) (by simpa using hk)
    rw [hcount] at hk'
    split_ifs at hk' ⊢
    · omega
    · omega
  · rintro ⟨hpos, h⟩ k hk
    cases k with
    | zero => exact hpos
    | succ k =>
        have hk' := h k (by simpa using hk)
        rw [hcount]
        split_ifs at hk' ⊢
        · omega
        · omega

/-- The loop ends if and only if the buffers suffice, and then all copies are where they belong.
Induction on the ports. -/
lemma flood_spec (hfree : Free cfg s b) (hports : ports.Nodup)
    (hbehaves : ∀ port ∈ ports, Behaves cfg s b port (T port)) :
    (Enough T ports (s.queues .cq).length →
      ∃ s' copy, flood cfg b ports s = some s' ∧ Flooded T ports s b copy s') ∧
    (¬ Enough T ports (s.queues .cq).length → flood cfg b ports s = none) := by
  induction ports generalizing s with
  | nil =>
      have hflooded : Flooded T [] s b (fun _ => 0) s :=
        ⟨rfl, by simp, by simp, by simp, fun c _ => rfl⟩
      refine ⟨fun _ => ⟨s, fun _ => 0, rfl, hflooded⟩, fun h => ?_⟩
      exact absurd (fun k hk => absurd hk (Nat.not_lt_zero k)) h
  | cons port ports ih =>
      obtain ⟨hport, hports⟩ := List.nodup_cons.1 hports
      obtain ⟨hhead, htail⟩ := List.forall_mem_cons.1 hbehaves
      rw [enough_cons]
      cases hcq : s.queues .cq with
      | nil => exact ⟨fun h => absurd h.1 (by simp), fun _ => flood_cons_of_empty hcq ports⟩
      | cons c rest =>
          have hbc : b ≠ c := fun hbc => hfree.notMem (by simp [hbc, hcq])
          rw [flood_cons hcq, List.length_cons]
          by_cases htaken : T port
          · obtain ⟨q, hq, houtput⟩ := outputSinglePacket_of_taken hcq hhead htaken
            obtain ⟨hend, hnone⟩ := ih (hfree.enqueued hcq) hports fun port' hport' =>
              (htail port' hport').enqueued hbc hcq fun heq : port = port' =>
                hport (heq ▸ hport')
            rw [queues_copied, enqueued_cq] at hend hnone
            rw [houtput, if_pos htaken, Nat.add_sub_cancel]
            refine ⟨fun h => ?_, fun h => hnone fun hrest => h ⟨Nat.succ_pos _, hrest⟩⟩
            obtain ⟨s', copy, hs', hflooded⟩ := hend h.2
            exact ⟨s', _, hs', hflooded.cons_taken hfree hcq hport htaken hq⟩
          · obtain ⟨hend, hnone⟩ := ih (hfree.released hcq) hports fun port' hport' =>
              (htail port' hport').released hbc hcq
            rw [queues_copied, released_cq, List.length_append, List.length_singleton] at hend hnone
            rw [outputSinglePacket_of_dropped hfree hcq hhead htaken, if_neg htaken]
            refine ⟨fun h => ?_, fun h => hnone fun hrest => h ⟨Nat.succ_pos _, hrest⟩⟩
            obtain ⟨s', copy, hs', hflooded⟩ := hend h.2
            exact ⟨s', copy, hs', hflooded.cons_dropped hfree hcq htaken⟩

end Cons

/-! ## An invalid queue -/

/-- No queue of a port has become shorter; and if none has become longer, there are at least `n`
more free buffers, all of which have been free before. -/
structure Grown (cfg : Config P) (n : ℕ) (s s' : DriverState P S) : Prop where
  output : ∀ port q, (s.queues (.output_queue port q)).length ≤
    (s'.queues (.output_queue port q)).length
  cq : (∀ port q, (s'.queues (.output_queue port q)).length ≤
      (s.queues (.output_queue port q)).length) →
    (s.queues .cq).length + n ≤ (s'.queues .cq).length
  subset : s'.queues .cq ⊆ s.queues .cq
  room : (s.queues .cq).length < cfg.capacity → (s'.queues .cq).length < cfg.capacity

omit [DecidableEq P] [DecidableEq S] in
lemma Grown.trans {m n : ℕ} {s'' : DriverState P S} (h : Grown cfg m s s')
    (h' : Grown cfg n s' s'') : Grown cfg (m + n) s s'' where
  output port q := (h.output port q).trans (h'.output port q)
  cq hle := by
    have hcq := h.cq fun port q => (h'.output port q).trans (hle port q)
    have hcq' := h'.cq fun port q => (hle port q).trans (h.output port q)
    omega
  subset := List.Subset.trans h'.subset h.subset
  room hroom := h'.room (h.room hroom)

lemma queues_releaseBuffer (s : DriverState P S) (c : ℕ) :
    (releaseBuffer cfg c s).queues = if (s.queues .cq).length + 1 < cfg.capacity then
      Function.update s.queues .cq (s.queues .cq ++ [c]) else s.queues := by
  rw [releaseBuffer, nonBlockingWrite, Config.slots]
  split
  · rfl
  · rfl

lemma grown_released (hcq : s.queues .cq = c :: rest) :
    Grown cfg 0 s (s.copied b c (released s c rest)) where
  output port q := by rw [queues_copied, released_output_queue]
  cq _ := by simp [queues_copied, released_cq, hcq]
  subset := by
    rw [queues_copied, released_cq, hcq]
    exact (List.perm_append_singleton c rest).subset
  room hroom := by
    rw [hcq] at hroom
    simpa [queues_copied, released_cq] using hroom

/-- A copy for an invalid queue is put in the queue 0 of the port, or released again. -/
lemma grown_of_passes {n : ℕ} (hn : n ≤ 1) (hcq : s.queues .cq = c :: rest)
    (hroom : rest.length + 1 + n < cfg.capacity)
    (hq : ¬ (s.pkts b).output_queue < IO_IFACE_NUM_QUEUES) (h : Passes s b port c) :
    Grown cfg n s (outputSinglePacket cfg c port (s.replicated b c rest)) := by
  have hreleased : (s.copied b c (released s c rest)).queues .cq = rest ++ [c] := by
    rw [queues_copied, released_cq]
  have hsubset : rest ++ [c] ⊆ s.queues .cq := by
    rw [hcq]
    exact (List.perm_append_singleton c rest).subset
  have hlength : (s.queues .cq).length = rest.length + 1 := by rw [hcq, List.length_cons]
  rw [outputSinglePacket_of_passes h, dif_neg hq, releaseBuffer_replicated (by omega)]
  by_cases hwrite : ((s.copied b c (released s c rest)).queues
      (.output_queue port ⟨0, IO_IFACE_NUM_QUEUES_pos⟩)).length + 1 <
        cfg.slots (.output_queue port ⟨0, IO_IFACE_NUM_QUEUES_pos⟩ : Queue P S)
  · rw [nonBlockingWrite_of_lt hwrite, Option.getD_some, queues_copied, released_output_queue]
    have hcq' : ∀ l, (((s.copied b c (released s c rest)).forget c).setQueue
        (.output_queue port ⟨0, IO_IFACE_NUM_QUEUES_pos⟩) l).queues .cq = rest ++ [c] := by
      intro l
      simp only [setQueue, forget, queues_copied]
      rw [Function.update_of_ne (by simp), released_cq]
    refine ⟨fun port' q => ?_, fun hle => ?_, ?_, fun _ => ?_⟩
    · simp only [setQueue, forget, queues_copied]
      by_cases heq : (Queue.output_queue port' q : Queue P S) =
          .output_queue port ⟨0, IO_IFACE_NUM_QUEUES_pos⟩
      · rw [heq, Function.update_self, List.length_append]
        exact Nat.le_add_right _ _
      · rw [Function.update_of_ne heq, released_output_queue]
    · -- the queue 0 is longer
      have hlonger := hle port ⟨0, IO_IFACE_NUM_QUEUES_pos⟩
      simp only [setQueue, Function.update_self, List.length_append, List.length_singleton]
        at hlonger
      omega
    · rwa [hcq']
    · rw [hcq', List.length_append, List.length_singleton]
      omega
  · rw [nonBlockingWrite, if_neg hwrite, Option.getD_none]
    have hqueues := @queues_releaseBuffer P S _ _ cfg (s.copied b c (released s c rest)) c
    rw [hreleased, List.length_append, List.length_singleton, queues_copied] at hqueues
    split_ifs at hqueues with htwice
    · refine ⟨fun port' q => ?_, fun _ => ?_, ?_, fun _ => ?_⟩
      · rw [hqueues, Function.update_of_ne (by simp), released_output_queue]
      · rw [hqueues, Function.update_self]
        simp only [List.length_append, List.length_singleton]
        omega
      · rw [hqueues, Function.update_self]
        exact List.append_subset.2 ⟨hsubset, by simp [hcq]⟩
      · rw [hqueues, Function.update_self]
        simp only [List.length_append, List.length_singleton]
        omega
    · refine ⟨fun port' q => ?_, fun _ => ?_, ?_, fun _ => ?_⟩
      · rw [hqueues, released_output_queue]
      · rw [hqueues, released_cq, List.length_append, List.length_singleton]
        omega
      · rwa [hqueues, released_cq]
      · rw [hqueues, released_cq, List.length_append, List.length_singleton]
        omega

lemma pkts_releaseBuffer (s : DriverState P S) (c : ℕ) : (releaseBuffer cfg c s).pkts = s.pkts := by
  rw [releaseBuffer, nonBlockingWrite]
  split
  · rfl
  · rfl

lemma pkts_of_passes (hbc : b ≠ c) (hroom : rest.length + 1 < cfg.capacity)
    (hq : ¬ (s.pkts b).output_queue < IO_IFACE_NUM_QUEUES) (h : Passes s b port c) :
    (outputSinglePacket cfg c port (s.replicated b c rest)).pkts b = s.pkts b := by
  rw [outputSinglePacket_of_passes h, dif_neg hq, releaseBuffer_replicated hroom, nonBlockingWrite]
  split
  · show (s.copied b c (released s c rest)).pkts b = s.pkts b
    exact pkts_copied hbc
  · rw [Option.getD_none, pkts_releaseBuffer, pkts_copied hbc]

/-- For an invalid queue, a copy that some port passes on makes one more buffer free.  Induction on
the ports. -/
lemma grown_flood {n : ℕ} (hn : n ≤ 1) (hroom : (s.queues .cq).length + n < cfg.capacity)
    (hb : b ∉ s.queues .cq) (hq : ¬ (s.pkts b).output_queue < IO_IFACE_NUM_QUEUES) {ports : List P}
    (hpasses : n = 0 ∨ ∃ port ∈ ports, ∀ c ∈ s.queues .cq, Passes s b port c)
    (h : flood cfg b ports s = some s') : Grown cfg n s s' := by
  induction ports generalizing s n with
  | nil =>
      obtain rfl := Option.some.inj h
      obtain rfl | ⟨port, hport, -⟩ := hpasses
      · exact ⟨fun _ _ => le_rfl, fun _ => le_rfl, List.Subset.refl _, id⟩
      · exact absurd hport List.not_mem_nil
  | cons port ports ih =>
      cases hcq : s.queues .cq with
      | nil => simp [flood_cons_of_empty hcq] at h
      | cons c rest =>
          have hbc : b ≠ c := fun hbc => hb (by simp [hbc, hcq])
          rw [hcq, List.length_cons] at hroom
          rw [flood_cons hcq] at h
          have hcapacity : rest.length + 1 < cfg.capacity := by omega
          by_cases hhead : Passes s b port c
          · have hstep := grown_of_passes hn hcq hroom hq hhead
            have hpkts := pkts_of_passes hbc hcapacity hq hhead
            have hrest := ih (Nat.zero_le 1) (hstep.room (by rw [hcq, List.length_cons]; omega))
              (fun hmem => hb (hstep.subset hmem)) (by rwa [hpkts]) (.inl rfl) h
            exact hstep.trans hrest
          · rw [outputSinglePacket_of_not_passes hcapacity hhead] at h
            have hstep := @grown_released P S _ _ cfg s b c rest hcq
            have hlength : ((s.copied b c (released s c rest)).queues .cq).length =
                rest.length + 1 := by
              rw [queues_copied, released_cq, List.length_append, List.length_singleton]
            have hpasses' : n = 0 ∨ ∃ port' ∈ ports,
                ∀ c' ∈ (s.copied b c (released s c rest)).queues .cq,
                  Passes (s.copied b c (released s c rest)) b port' c' := by
              refine hpasses.imp_right ?_
              rintro ⟨port', hport', hall⟩
              rcases List.mem_cons.1 hport' with rfl | hport'
              · exact absurd (hall c (by simp [hcq])) hhead
              · exact ⟨port', hport', fun c' hc' =>
                  (passes_copied hbc c').2 (hall c' (hstep.subset hc'))⟩
            have hrest := ih hn (by rwa [hlength]) (fun hmem => hb (hstep.subset hmem))
              (by rwa [pkts_copied hbc]) hpasses' h
            exact Nat.zero_add n ▸ hstep.trans hrest

/-! ## Output -/

lemma platformPacketOutput_eq {output_port : OutputPort P}
    (h : output_port ∈ [OutputPort.flood, .all]) :
    platformPacketOutput cfg b output_port s =
      (flood cfg b (floodTargets cfg s b) s).map (releaseBuffer cfg b) := by
  have hflood : platformPacketOutput cfg b .flood s =
      (flood cfg b (floodTargets cfg s b) s).map (releaseBuffer cfg b) := by
    rw [platformPacketOutput, floodTargets]
    cases (s.pkts b).sw with
    | none => rfl
    | some sw => rfl
  rcases List.mem_cons.1 h with rfl | h
  · exact hflood
  · obtain rfl := List.mem_singleton.1 h
    exact hflood

/-- A port is attached to a switch under one number. -/
def AttachedOnce (s : DriverState P S) : Prop :=
  ∀ sw i j port, s.logical_ports sw i = some port → s.logical_ports sw j = some port → i = j

omit [DecidableEq P] [DecidableEq S] in
lemma mem_floodPorts {sw : S} {port_in : ℕ} :
    port ∈ floodPorts cfg s sw port_in ↔ ∃ i < cfg.maxLogPorts,
      s.logical_ports sw i = some port ∧ i ≠ port_in ∧ (s.ports port).no_flood = false := by
  rw [floodPorts, List.mem_filterMap]
  refine exists_congr fun i => ?_
  rw [List.mem_range]
  refine and_congr_right fun _ => ?_
  cases s.logical_ports sw i with
  | none => simp
  | some port' =>
      simp only [Option.ite_none_left_eq_some, Option.some.injEq, not_or, Bool.not_eq_true]
      constructor
      · rintro ⟨⟨hi, hflood⟩, rfl⟩
        exact ⟨rfl, hi, hflood⟩
      · rintro ⟨rfl, hi, hflood⟩
        exact ⟨⟨hi, hflood⟩, rfl⟩

omit [DecidableEq P] [DecidableEq S] in
/-- The ingress port is not one of those that are to get a copy. -/
lemma notMem_floodTargets (h : AttachedOnce s) {sw : S} (hsw : sw ∈ (s.pkts b).sw)
    (hport : port ∈ s.logical_ports sw (s.pkts b).port_in) : port ∉ floodTargets cfg s b := by
  rw [floodTargets, Option.mem_def.1 hsw]
  intro hmem
  obtain ⟨i, -, hi, hne, -⟩ := mem_floodPorts.1 hmem
  exact hne (h _ _ _ _ hi hport)

omit [DecidableEq P] [DecidableEq S] in
lemma nodup_floodTargets (h : AttachedOnce s) : (floodTargets cfg s b).Nodup := by
  rw [floodTargets]
  cases (s.pkts b).sw with
  | none => exact List.nodup_nil
  | some sw =>
      refine List.Nodup.filterMap ?_ List.nodup_range
      intro i j port hi hj
      cases hi' : s.logical_ports sw i with
      | none => simp [hi'] at hi
      | some port_i =>
          cases hj' : s.logical_ports sw j with
          | none => simp [hj'] at hj
          | some port_j =>
              simp only [hi', Option.mem_def, Option.ite_none_left_eq_some] at hi
              simp only [hj', Option.mem_def, Option.ite_none_left_eq_some] at hj
              exact h _ _ _ _ (hi'.trans hi.2) (hj'.trans hj.2)

omit [DecidableEq P] [DecidableEq S] in
lemma free_of_conserved (hs : BuffersConserved cfg s) (hb : b ∈ s.held) :
    Free cfg s b ∧ (s.queues .cq).length + 1 < cfg.capacity := by
  have hlength := Conserved.length_lt_card (q := Place.queue .cq) hs (p := Place.held) hb (by simp)
  rw [Config.pool, Finset.card_range] at hlength
  have hroom : (s.queues .cq).length + 1 < cfg.capacity := by
    have hcq : s.buffers (.queue .cq) = s.queues .cq := rfl
    rw [hcq] at hlength
    omega
  refine ⟨⟨hs.nodup (.queue .cq), ?_, by omega⟩, hroom⟩
  exact hs.notMem_of_ne (q := Place.queue .cq) (p := Place.held) hb (by simp)

section Refill

variable {pkts : ℕ → Datapacket S}

omit [DecidableEq P] [DecidableEq S] in
lemma pkts_refill (hb : b ∉ s.queues .cq) : (s.refill pkts).pkts b = s.pkts b := if_neg hb

omit [DecidableEq P] [DecidableEq S] in
lemma pkts_refill_of_mem (hc : c ∈ (s.refill pkts).queues .cq) : (s.refill pkts).pkts c = pkts c :=
  if_pos hc

omit [DecidableEq P] [DecidableEq S] in
lemma floodTargets_refill (hb : b ∉ s.queues .cq) :
    floodTargets cfg (s.refill pkts) b = floodTargets cfg s b := by
  rw [floodTargets, floodTargets, pkts_refill hb]
  rfl

omit [DecidableEq P] [DecidableEq S] in
lemma Free.refill (h : Free cfg s b) : Free cfg (s.refill pkts) b := ⟨h.nodup, h.notMem, h.room⟩

omit [DecidableEq P] [DecidableEq S] in
/-- A port that does not pass on the packet does not pass on a copy of it. -/
lemma not_passes_refill (hb : b ∉ s.queues .cq)
    (h : ¬ ((s.ports port).Sends ∧ MIN_PKT_LEN ≤ (s.pkts b).len)) (c : ℕ) :
    ¬ Passes (s.refill pkts) b port c := by
  rintro ⟨hsends, hlen⟩
  refine h ⟨hsends, ?_⟩
  rw [pkts_refill hb] at hlen
  by_cases hfits : (s.pkts b).len ≤ FRAME_SIZE_BYTES
  · rwa [replica_of_le hfits] at hlen
  · have hmin : MIN_PKT_LEN ≤ FRAME_SIZE_BYTES := by decide
    omega

omit [DecidableEq P] [DecidableEq S] in
/-- Copies of a packet that fits, or copies in which something long enough is left, go where the
packet would. -/
lemma behaves_refill (hb : b ∉ s.queues .cq)
    (hlen : ∀ c ∈ s.queues .cq, Takes cfg s b port →
      MIN_PKT_LEN ≤ (replica (s.pkts b) (pkts c)).len)
    (hq : (s.pkts b).output_queue < IO_IFACE_NUM_QUEUES ∨
      ¬ ((s.ports port).Sends ∧ MIN_PKT_LEN ≤ (s.pkts b).len)) :
    Behaves cfg (s.refill pkts) b port (Takes cfg s b port) := by
  refine ⟨fun htakes => ?_, fun hnot => ?_⟩
  · rw [pkts_refill hb]
    refine ⟨htakes.2.2, fun c hc => ⟨htakes.1, ?_⟩⟩
    rw [pkts_refill hb, pkts_refill_of_mem hc]
    exact hlen c hc htakes
  · rw [pkts_refill hb]
    by_cases hpasses : (s.ports port).Sends ∧ MIN_PKT_LEN ≤ (s.pkts b).len
    · refine .inl ⟨hq.resolve_right (not_not_intro hpasses), fun hroom => ?_⟩
      exact hnot ⟨hpasses.1, hpasses.2, hroom⟩
    · exact .inr fun c _ => not_passes_refill hb hpasses c

end Refill

lemma output_queue_releaseBuffer (q : Fin IO_IFACE_NUM_QUEUES) :
    (releaseBuffer cfg b s).queues (.output_queue port q) = s.queues (.output_queue port q) := by
  rw [queues_releaseBuffer]
  split_ifs
  · exact Function.update_of_ne (by simp) _ _
  · rfl

lemma cq_releaseBuffer (hroom : (s.queues .cq).length + 1 < cfg.capacity) :
    (releaseBuffer cfg b s).queues .cq = s.queues .cq ++ [b] := by
  rw [queues_releaseBuffer, if_pos hroom, Function.update_self]

lemma held_releaseBuffer : (releaseBuffer cfg b s).held = s.held.erase b := by
  rw [releaseBuffer, nonBlockingWrite]
  split_ifs
  · rfl
  · rfl

/-- After the loop, where each port that takes the packet has got a copy. -/
lemma right_of_flooded (hattached : AttachedOnce s) (hfree : Free cfg s b)
    (hroom : (s.queues .cq).length + 1 < cfg.capacity) {pkts : ℕ → Datapacket S} {copy : P → ℕ}
    (hfits : takers cfg s b = [] ∨ (s.pkts b).len ≤ FRAME_SIZE_BYTES)
    (h : Flooded (Takes cfg s b) (floodTargets cfg s b) (s.refill pkts) b copy s') :
    Disposed s b (releaseBuffer cfg b s') ∧ SparesIngress s b (releaseBuffer cfg b s') ∧
      Delivered cfg s b copy (releaseBuffer cfg b s') := by
  have hpkts : (s.refill pkts).pkts b = s.pkts b := pkts_refill hfree.notMem
  have hperm : (s'.queues .cq ++ (takers cfg s b).map copy).Perm (s.queues .cq) := h.cq
  have hnotMem : b ∉ s'.queues .cq := fun hmem =>
    hfree.notMem (hperm.subset (List.mem_append_left _ hmem))
  have hlength : (s'.queues .cq).length ≤ (s.queues .cq).length := by
    have hlength := hperm.length_eq
    rw [List.length_append] at hlength
    omega
  have hcq : (releaseBuffer cfg b s').queues .cq = s'.queues .cq ++ [b] :=
    cq_releaseBuffer (by omega)
  have houtput : ∀ port (q : Fin IO_IFACE_NUM_QUEUES),
      (releaseBuffer cfg b s').queues (.output_queue port q) = s.queues (.output_queue port q) ++
        if port ∈ takers cfg s b ∧ q = (s.pkts b).output_queue then [copy port] else [] := by
    intro port q
    rw [output_queue_releaseBuffer, h.output_queue, hpkts]
    rfl
  refine ⟨⟨?_, ?_⟩, ?_, houtput, ?_, ?_⟩
  · rw [hcq, List.count_append, List.count_eq_zero_of_not_mem hnotMem, List.count_singleton_self]
  · rw [held_releaseBuffer, h.held]
    rfl
  · intro sw hsw port hport q
    have hingress : port ∉ takers cfg s b := fun hmem =>
      notMem_floodTargets hattached hsw hport (List.mem_of_mem_filter hmem)
    rw [houtput, if_neg fun h => hingress h.1, List.append_nil]
  · intro port hport
    have hle := hfits.resolve_left (List.ne_nil_of_mem hport)
    rw [pkts_releaseBuffer, h.pkts port hport, hpkts, replica_of_le hle]
  · rw [hcq, List.append_assoc]
    exact List.perm_middle.trans (hperm.cons b)

/-- What there is after the loop where the output is right, whatever the free buffers contain. -/
lemma FloodsRightly.flood_eq_some (h : FloodsRightly cfg s b) (hb : b ∉ s.queues .cq)
    (pkts : ℕ → Datapacket S) : ∃ s', flood cfg b (floodTargets cfg s b) (s.refill pkts) = some s' ∧
      (Suffices cfg s b → ∃ copy, Delivered cfg s b copy (releaseBuffer cfg b s')) := by
  obtain ⟨s', houtput, -, -, hdelivered⟩ := h .flood (by simp) pkts
  rw [platformPacketOutput_eq (by simp), floodTargets_refill hb] at houtput
  obtain ⟨s₁, hflood, rfl⟩ := Option.map_eq_some_iff.1 houtput
  exact ⟨s₁, hflood, hdelivered⟩

/-- Buffers in which a packet of this length has been. -/
def leftOver (s : DriverState P S) (len : ℕ) (c : ℕ) : Datapacket S := { s.pkts c with len := len }

omit [DecidableEq P] [DecidableEq S] in
lemma le_replica_leftOver {orig : Datapacket S} (h : MIN_PKT_LEN ≤ orig.len) :
    MIN_PKT_LEN ≤ (replica orig (leftOver s MIN_PKT_LEN c)).len := by
  by_cases hfits : orig.len ≤ FRAME_SIZE_BYTES
  · rwa [replica_of_le hfits]
  · rw [replica_of_lt (not_le.1 hfits)]
    exact le_rfl

/-- With an invalid queue, a buffer comes to be free twice, or that of the packet is lost. -/
lemma FloodsRightly.queue (h : FloodsRightly cfg s b) (hfree : Free cfg s b)
    (hroom : (s.queues .cq).length + 1 < cfg.capacity) :
    (s.pkts b).output_queue < IO_IFACE_NUM_QUEUES ∨
      ∀ port ∈ floodTargets cfg s b, ¬ ((s.ports port).Sends ∧ MIN_PKT_LEN ≤ (s.pkts b).len) := by
  by_contra hnot
  rw [not_or, not_forall] at hnot
  obtain ⟨hq, port, hnot⟩ := hnot
  rw [Classical.not_imp, not_not] at hnot
  obtain ⟨hport, hsends, hmin⟩ := hnot
  have hpkts : (s.refill (leftOver s MIN_PKT_LEN)).pkts b = s.pkts b := pkts_refill hfree.notMem
  obtain ⟨s', hflood, hdelivered⟩ := h.flood_eq_some hfree.notMem (leftOver s MIN_PKT_LEN)
  -- no port takes the packet, so that one free buffer is enough
  have hnone : ∀ ports : List P, ports.filter (Takes cfg s b) = [] := by
    refine fun ports => List.filter_eq_nil_iff.2 fun port' _ htakes => hq ?_
    obtain ⟨q, hq, -⟩ := (of_decide_eq_true htakes).2.2
    exact hq ▸ q.isLt
  have htakers : takers cfg s b = [] := hnone _
  have hsuffices : Suffices cfg s b := by
    intro k _
    rw [hnone, List.length_nil, List.length_pos_iff]
    intro hempty
    have hcq : (s.refill (leftOver s MIN_PKT_LEN)).queues .cq = [] := hempty
    obtain ⟨port', ports, hports⟩ := List.exists_cons_of_ne_nil (List.ne_nil_of_mem hport)
    rw [hports, flood_cons_of_empty hcq] at hflood
    exact absurd hflood nofun
  obtain ⟨copy, hdelivered⟩ := hdelivered hsuffices
  have hgrown : Grown cfg 1 (s.refill (leftOver s MIN_PKT_LEN)) s' := by
    refine grown_flood le_rfl hroom hfree.notMem (by rwa [hpkts])
      (.inr ⟨port, hport, fun c hc => ⟨hsends, ?_⟩⟩) hflood
    rw [hpkts, pkts_refill_of_mem hc]
    exact le_replica_leftOver hmin
  have hcq : (s.queues .cq).length + 1 ≤ (s'.queues .cq).length := by
    refine hgrown.cq fun port q => ?_
    have houtput := hdelivered.output_queue port q
    rw [output_queue_releaseBuffer, htakers] at houtput
    rw [houtput]
    simp [refill]
  have hperm := hdelivered.cq
  rw [htakers, List.map_nil, List.append_nil] at hperm
  by_cases hrelease : (s'.queues .cq).length + 1 < cfg.capacity
  · have hlength := hperm.length_eq
    rw [cq_releaseBuffer hrelease, List.length_append, List.length_singleton,
      List.length_cons] at hlength
    omega
  · have hmem := hperm.symm.subset List.mem_cons_self
    rw [queues_releaseBuffer, if_neg hrelease] at hmem
    exact hfree.notMem (hgrown.subset hmem)

/-- Without enough buffers, there is none for one of the ports. -/
lemma FloodsRightly.enough (h : FloodsRightly cfg s b) (hattached : AttachedOnce s)
    (hfree : Free cfg s b) (hqueue : (s.pkts b).output_queue < IO_IFACE_NUM_QUEUES ∨
      ∀ port ∈ floodTargets cfg s b, ¬ ((s.ports port).Sends ∧ MIN_PKT_LEN ≤ (s.pkts b).len)) :
    Suffices cfg s b := by
  by_contra hnot
  have hbehaves : ∀ port ∈ floodTargets cfg s b,
      Behaves cfg (s.refill (leftOver s MIN_PKT_LEN)) b port (Takes cfg s b port) :=
    fun port hport => behaves_refill hfree.notMem
      (fun c _ htakes => le_replica_leftOver htakes.2.1) (hqueue.imp_right fun h => h port hport)
  obtain ⟨s', hflood, -⟩ := h.flood_eq_some hfree.notMem (leftOver s MIN_PKT_LEN)
  rw [(flood_spec hfree.refill (nodup_floodTargets hattached) hbehaves).2 hnot] at hflood
  exact absurd hflood nofun

/-- A copy of a packet that does not fit is what has been in its buffer. -/
lemma FloodsRightly.fits (h : FloodsRightly cfg s b) (hattached : AttachedOnce s)
    (hfree : Free cfg s b) (henough : Suffices cfg s b) :
    takers cfg s b = [] ∨ (s.pkts b).len ≤ FRAME_SIZE_BYTES := by
  by_contra hnot
  rw [not_or, not_le] at hnot
  obtain ⟨htakers, hlen⟩ := hnot
  obtain ⟨port, hport⟩ := List.exists_mem_of_ne_nil _ htakers
  obtain ⟨q, hq, -⟩ := (of_decide_eq_true (List.mem_filter.1 hport).2).2.2
  -- all buffers are as left by a packet of length 0, which no port takes
  have hbehaves : ∀ port ∈ floodTargets cfg s b,
      Behaves cfg (s.refill (leftOver s 0)) b port False := by
    refine fun port _ => ⟨False.elim, fun _ => .inr fun c hc hpasses => ?_⟩
    have hmin := hpasses.2
    rw [pkts_refill hfree.notMem, pkts_refill_of_mem hc, replica_of_lt hlen] at hmin
    exact absurd hmin (Nat.not_succ_le_zero 13)
  obtain ⟨s', hflood, hdelivered⟩ := h.flood_eq_some hfree.notMem (leftOver s 0)
  obtain ⟨copy, hdelivered⟩ := hdelivered henough
  have hspec := flood_spec hfree.refill (nodup_floodTargets hattached) hbehaves
  have hfalse : Enough (fun _ => False) (floodTargets cfg s b) (s.queues .cq).length := by
    by_contra hnot
    rw [hspec.2 hnot] at hflood
    exact absurd hflood nofun
  obtain ⟨s'', copy', hflood', hflooded⟩ := hspec.1 hfalse
  obtain rfl := Option.some.inj (hflood.symm.trans hflood')
  have houtput := hdelivered.output_queue port q
  rw [output_queue_releaseBuffer, hflooded.output_queue] at houtput
  simp [refill, hport, hq] at houtput

/-- **Output to all ports.** -/
theorem floodsRightly_iff (hs : BuffersConserved cfg s) (hb : b ∈ s.held)
    (hattached : AttachedOnce s) : FloodsRightly cfg s b ↔ CanFlood cfg s b := by
  obtain ⟨hfree, hroom⟩ := free_of_conserved hs hb
  constructor
  · intro h
    have hqueue := h.queue hfree hroom
    have henough := h.enough hattached hfree hqueue
    exact ⟨henough, h.fits hattached hfree henough, hqueue⟩
  · intro hcan output_port hport pkts
    have hbehaves : ∀ port ∈ floodTargets cfg s b,
        Behaves cfg (s.refill pkts) b port (Takes cfg s b port) := by
      intro port hport
      refine behaves_refill hfree.notMem (fun c _ htakes => ?_)
        (hcan.queue.imp_right fun h => h port hport)
      have htaker : port ∈ takers cfg s b := List.mem_filter.2 ⟨hport, decide_eq_true htakes⟩
      rw [replica_of_le (hcan.fits.resolve_left (List.ne_nil_of_mem htaker))]
      exact htakes.2.1
    obtain ⟨s', copy, hflood, hflooded⟩ :=
      (flood_spec hfree.refill (nodup_floodTargets hattached) hbehaves).1 hcan.enough
    obtain ⟨hdisposed, hspares, hdelivered⟩ :=
      right_of_flooded hattached hfree hroom hcan.fits hflooded
    rw [platformPacketOutput_eq hport, floodTargets_refill hfree.notMem, hflood, Option.map_some]
    exact ⟨_, rfl, hdisposed, hspares, fun _ => ⟨copy, hdelivered⟩⟩

/-- The two ports of a switch are both up. -/
def logicalPorts : ℕ → Option Bool
  | 0 => some true
  | 1 => some false
  | _ => none

/-- A packet has come in through the port `0`, into the first of the buffers. -/
def received (cfg : Config Bool) : DriverState Bool Unit :=
  { ((init cfg).setQueue .cq (List.range' 1 (cfg.capacity - 2))).hold 0 with
    pkts := fun _ => { sw := some (), len := 64, port_in := 0, output_queue := 0 }
    ports := fun _ => portUp
    logical_ports := fun _ => logicalPorts }

/-- All buffers have such packets in them, and are being processed. -/
def allHeld (cfg : Config Bool) : DriverState Bool Unit :=
  { received cfg with
    queues := fun _ => []
    held := List.range (cfg.capacity - 1) }

lemma attachedOnce_logicalPorts {s : DriverState Bool Unit}
    (h : s.logical_ports = fun _ => logicalPorts) : AttachedOnce s := by
  intro sw i j port hi hj
  rw [h] at hi hj
  rcases i with _ | _ | i <;> rcases j with _ | _ | j <;> simp_all [logicalPorts]

lemma allHeld_conserved (cfg : Config Bool) : BuffersConserved cfg (allHeld cfg) := by
  refine Conserved.of_single (p := .held) List.nodup_range (fun b => ?_) fun place hplace => ?_
  · show b ∈ Finset.range _ ↔ b ∈ List.range _
    rw [Finset.mem_range, List.mem_range]
  · cases place with
    | queue queue => rfl
    | storage sw => rfl
    | held => exact absurd rfl hplace

lemma mem_allHeld {cfg : Config Bool} (h : b < cfg.capacity - 1) : b ∈ (allHeld cfg).held :=
  List.mem_range.2 h

/-- There are three buffers, and one port takes the packet. -/
theorem floodsRightly_smallDriver : FloodsRightly smallDriver (received smallDriver) 0 := by
  have hread : nonBlockingRead .cq (init smallDriver : DriverState Bool Unit) = some (0, _) := rfl
  have hconserved := (nonBlockingRead_taken hread).conserved init_conserved
  refine (floodsRightly_iff ?_ ?_ (attachedOnce_logicalPorts rfl)).2 ⟨?_, .inr ?_, .inl ?_⟩
  · exact hconserved
  · decide
  · decide
  · decide
  · decide

/-- The options that `config.h` sets, with two ports. -/
def gnuLinuxTwoPorts : Config Bool where
  capacity := gnuLinux.capacity
  ringSlots := gnuLinux.ringSlots
  pktInQueueSlots := gnuLinux.pktInQueueSlots
  pktInStorageMaxBuf := gnuLinux.pktInStorageMaxBuf
  pktInStorageExpirationS := gnuLinux.pktInStorageExpirationS
  maxLogPorts := gnuLinux.maxLogPorts
  portType _ := .mmap

/-- Without a free buffer for the copy, a null pointer is dereferenced. -/
theorem not_floodsRightly_allHeld :
    ¬ ∀ (s : DriverState Bool Unit) (b : ℕ), BuffersConserved gnuLinuxTwoPorts s → b ∈ s.held →
      AttachedOnce s → FloodsRightly gnuLinuxTwoPorts s b := by
  intro hall
  have hcq : (allHeld gnuLinuxTwoPorts).queues .cq = [] := rfl
  have hmem : false ∈ floodTargets gnuLinuxTwoPorts (allHeld gnuLinuxTwoPorts) 0 :=
    mem_floodPorts.2 ⟨1, by decide, rfl, by decide, rfl⟩
  obtain ⟨port, ports, hports⟩ := List.exists_cons_of_ne_nil (List.ne_nil_of_mem hmem)
  have hfloods := hall _ 0 (allHeld_conserved _) (mem_allHeld (by decide))
    (attachedOnce_logicalPorts rfl)
  obtain ⟨s', hflood, -⟩ :=
    hfloods.flood_eq_some (by rw [hcq]; exact List.not_mem_nil) (allHeld gnuLinuxTwoPorts).pkts
  have hrefill : ((allHeld gnuLinuxTwoPorts).refill (allHeld gnuLinuxTwoPorts).pkts).queues .cq =
      [] := rfl
  rw [hports, flood_cons_of_empty hrefill] at hflood
  exact absurd hflood (by simp)

end Xdpd.Io
