import Mathlib.Data.Finset.Image
import Mathlib.Tactic.Common
import Xdpd.Dpdk.PacketPaths
import Xdpd.Lib.Placement

/-!
# Packets and mbufs are neither lost nor released twice

There are two pools, of packets and of mbufs, and a packet that is in use carries an mbuf.  Every
function of the driver takes a packet with an mbuf into use, passes it on, or disposes of both: the
packet becomes free, and the mbuf goes to a queue or back to its pool.  So both pools are conserved,
except where a function gives up one of the two and not the other, or frees an mbuf that it does
not own.

This module has what it means that all are `Owned`, and how taking into use, passing on and
disposing keep it.
-/

namespace Xdpd.Dpdk.Mbufs

open Xdpd.Lib Driver

variable {P S C : Type*}

/-- Where a packet is that is in use. -/
inductive InUse (S : Type*)
  | held
  | flooding
  | pktIns
  | storage (sw : S)
  deriving DecidableEq

/-- Where a packet is. -/
inductive PacketPlace (S : Type*)
  | free
  | idle
  | inUse (place : InUse S)
  deriving DecidableEq

/-- Where an mbuf is: in a queue, or carried by a packet. -/
inductive MbufPlace (P S C : Type*)
  | queue (queue : MbufQueue P C)
  | packet (place : InUse S)
  deriving DecidableEq

namespace Driver

/-- The packets that are in use. -/
def packetsIn (s : Driver P S C) : InUse S → List (Packet C)
  | .held => s.held
  | .flooding => s.flooding
  | .pktIns => s.pktIns.map .pool
  | .storage sw => (s.storage sw).store.map fun map => .pool map.pkt

/-- All packets. -/
def packets (s : Driver P S C) : PacketPlace S → List (Packet C)
  | .free => s.cq.map .pool
  | .idle => s.idle.map .stack
  | .inUse place => s.packetsIn place

end Driver

/-- The mbufs in queues, and those that are carried. -/
def placed (mbufs : MbufQueue P C → List ℕ) (carried : InUse S → List ℕ) :
    MbufPlace P S C → List ℕ
  | .queue queue => mbufs queue
  | .packet place => carried place

/-- The mbufs that the packets in a place carry. -/
def Driver.carried (s : Driver P S C) (place : InUse S) : List ℕ :=
  (s.packetsIn place).filterMap fun pkt => (s.pkts pkt).mbuf

/-- All packets that there are. -/
def Config.packets [DecidableEq C] (cfg : Config C) : Finset (Packet C) :=
  (Finset.range (cfg.capacity - 1)).image .pool ∪ cfg.cores.toFinset.image .stack

/-- Every packet and every mbuf is in exactly one place, and a packet in use carries an mbuf. -/
structure Owned [DecidableEq C] (cfg : Config C) (s : Driver P S C) : Prop where
  packets : Conserved cfg.packets s.packets
  mbufs : Conserved (Finset.range cfg.mbufs) (placed s.mbufs s.carried)
  carries : ∀ place, ∀ pkt ∈ s.packetsIn place, ∃ m, (s.pkts pkt).mbuf = some m

/-! ## What is carried -/

section Carried

variable {α β : Type*} [DecidableEq α] {l l' : List α} {f : α → Option β} {a : α} {b : β}

/-- What one of the packets carries, and what the others carry. -/
lemma perm_filterMap_cons (ha : a ∈ l) (hf : f a = some b) :
    (l.filterMap f).Perm (b :: (l.erase a).filterMap f) := by
  have hcons := (List.perm_cons_erase ha).filterMap f
  rwa [List.filterMap_cons_some hf] at hcons

/-- With a packet that is taken away goes what it carries. -/
lemma perm_filterMap_of_erase [DecidableEq β] (ha : a ∈ l) (hf : f a = some b)
    (hl : l'.Perm (l.erase a)) : (l'.filterMap f).Perm ((l.filterMap f).erase b) := by
  have herase := (perm_filterMap_cons ha hf).erase b
  rw [List.erase_cons_head] at herase
  exact (hl.filterMap f).trans herase.symm

end Carried

section Owned

variable [DecidableEq P] [DecidableEq C]
variable {cfg : Config C} {s s' : Driver P S C} {pkt : Packet C} {m : ℕ}

lemma placed_update [DecidableEq S] (mbufs : MbufQueue P C → List ℕ) (carried : InUse S → List ℕ)
    (queue : MbufQueue P C) (l : List ℕ) :
    placed (Function.update mbufs queue l) carried =
      Function.update (placed mbufs carried) (.queue queue) l := by
  funext place
  cases place with
  | queue queue' =>
      by_cases heq : queue' = queue
      · subst heq
        rw [Function.update_self]
        exact Function.update_self _ _ _
      · rw [Function.update_of_ne fun h => heq (MbufPlace.queue.inj h)]
        exact Function.update_of_ne heq _ _
  | packet place =>
      have hne : (MbufPlace.packet place : MbufPlace P S C) ≠ .queue queue := nofun
      exact (Function.update_of_ne hne l (placed mbufs carried)).symm

omit [DecidableEq P] in
/-- A packet in use is not written to by setting another one. -/
lemma filterMap_update_of_notMem {l : List (Packet C)} {pkts : Packet C → Datapacket S}
    {x : Datapacket S} (h : pkt ∉ l) :
    (l.filterMap fun p => (Function.update pkts pkt x p).mbuf) =
      l.filterMap fun p => (pkts p).mbuf := by
  refine List.filterMap_congr fun p hp => ?_
  rw [Function.update_of_ne]
  rintro rfl
  exact h hp

namespace Owned

/-- The packet is free again, and its mbuf goes to a queue. -/
lemma leave (hs : Owned cfg s) {place : InUse S} {place' : PacketPlace S}
    (queue : MbufQueue P C) (hplace : ∀ p, place' ≠ .inUse p)
    (hmoved : Moved s.packets s'.packets pkt (.inUse place) place')
    (hm : (s.pkts pkt).mbuf = some m) (hpkts : s'.pkts = s.pkts)
    (hqueues : s'.mbufs = Function.update s.mbufs queue (s.mbufs queue ++ [m])) :
    Owned cfg s' := by
  have hframe : ∀ p, p ≠ place → s'.packetsIn p = s.packetsIn p := fun p hp =>
    hmoved.frame (.inUse p) (fun h => hp (PacketPlace.inUse.inj h)) (hplace p).symm
  refine ⟨hs.packets.moved hmoved, hs.mbufs.moved (b := m) (p := .packet place)
    (q := .queue queue) ⟨nofun, ?_, ?_, ?_, ?_⟩, fun p pkt' hpkt' => ?_⟩
  · exact List.mem_filterMap.mpr ⟨pkt, hmoved.mem, hm⟩
  · change ((s'.packetsIn place).filterMap fun p => (s'.pkts p).mbuf).Perm _
    rw [hpkts]
    exact perm_filterMap_of_erase hmoved.mem hm hmoved.source
  · change (s'.mbufs queue).Perm _
    rw [hqueues, Function.update_self]
    exact List.perm_append_singleton m _
  · rintro (queue' | p) hp hq
    · change s'.mbufs queue' = s.mbufs queue'
      rw [hqueues, Function.update_of_ne fun h => hq (congrArg _ h)]
    · change (s'.packetsIn p).filterMap _ = (s.packetsIn p).filterMap _
      rw [hpkts, hframe p fun h => hp (congrArg _ h)]
  · rcases (hmoved.mem_iff hs.packets pkt' (.inUse p)).mp hpkt' with ⟨-, heq⟩ | ⟨-, hmem⟩
    · exact absurd heq.symm (hplace p)
    · rw [hpkts]
      exact hs.carries p pkt' hmem

/-- A packet that is free is taken into use with an mbuf from a queue. -/
lemma enter (hs : Owned cfg s) {place : PacketPlace S} (queue : MbufQueue P C)
    {x : Datapacket S} (hplace : ∀ p, place ≠ .inUse p)
    (hmoved : Moved s.packets s'.packets pkt place (.inUse .held))
    (hpkts : s'.pkts = Function.update s.pkts pkt x) (hx : x.mbuf = some m)
    (hm : m ∈ s.mbufs queue)
    (hqueues : s'.mbufs = Function.update s.mbufs queue ((s.mbufs queue).erase m)) :
    Owned cfg s' := by
  have hnot : ∀ p, pkt ∉ s.packetsIn p := fun p hp =>
    hplace p (hs.packets.unique hmoved.mem (q := .inUse p) hp)
  have hframe : ∀ p, p ≠ .held → s'.packetsIn p = s.packetsIn p := fun p hp =>
    hmoved.frame (.inUse p) (hplace p).symm fun h => hp (PacketPlace.inUse.inj h)
  refine ⟨hs.packets.moved hmoved, hs.mbufs.moved (b := m) (p := .queue queue)
    (q := .packet .held) ⟨nofun, hm, ?_, ?_, ?_⟩, fun p pkt' hpkt' => ?_⟩
  · change (s'.mbufs queue).Perm _
    rw [hqueues, Function.update_self]
    rfl
  · change ((s'.packetsIn .held).filterMap fun p => (s'.pkts p).mbuf).Perm
      (m :: (s.packetsIn .held).filterMap fun p => (s.pkts p).mbuf)
    refine (hmoved.target.filterMap _).trans ?_
    rw [hpkts]
    have hself : (Function.update s.pkts pkt x pkt).mbuf = some m := by
      rw [Function.update_self]
      exact hx
    rw [List.filterMap_cons_some (f := fun p => (Function.update s.pkts pkt x p).mbuf) hself]
    exact List.Perm.of_eq (congrArg _ (filterMap_update_of_notMem (hnot .held)))
  · rintro (queue' | p) hp hq
    · change s'.mbufs queue' = s.mbufs queue'
      rw [hqueues, Function.update_of_ne fun h => hp (congrArg _ h)]
    · change (s'.packetsIn p).filterMap (fun p => (s'.pkts p).mbuf) = (s.packetsIn p).filterMap _
      rw [hpkts, hframe p fun h => hq (congrArg _ h)]
      exact filterMap_update_of_notMem (hnot p)
  · rcases (hmoved.mem_iff hs.packets pkt' (.inUse p)).mp hpkt' with ⟨heq, -⟩ | ⟨hne, hmem⟩
    · rw [hpkts, heq, Function.update_self]
      exact ⟨m, hx⟩
    · rw [hpkts, Function.update_of_ne hne]
      exact hs.carries p pkt' hmem

omit [DecidableEq P] in
/-- A packet is handed on with its mbuf. -/
lemma pass (hs : Owned cfg s) (place place' : InUse S)
    (hmoved : Moved s.packets s'.packets pkt (.inUse place) (.inUse place'))
    (hpkts : ∀ p, (s'.pkts p).mbuf = (s.pkts p).mbuf) (hqueues : s'.mbufs = s.mbufs) :
    Owned cfg s' := by
  obtain ⟨m, hm⟩ := hs.carries place pkt hmoved.mem
  have hne : place ≠ place' := fun h => hmoved.ne (congrArg _ h)
  refine ⟨hs.packets.moved hmoved, hs.mbufs.moved (b := m) (p := .packet place)
    (q := .packet place') ⟨fun h => hne (MbufPlace.packet.inj h), ?_, ?_, ?_, ?_⟩,
    fun p pkt' hpkt' => ?_⟩
  · exact List.mem_filterMap.mpr ⟨pkt, hmoved.mem, hm⟩
  · change ((s'.packetsIn place).filterMap fun p => (s'.pkts p).mbuf).Perm _
    simp only [hpkts]
    exact perm_filterMap_of_erase hmoved.mem hm hmoved.source
  · change ((s'.packetsIn place').filterMap fun p => (s'.pkts p).mbuf).Perm
      (m :: (s.packetsIn place').filterMap fun p => (s.pkts p).mbuf)
    simp only [hpkts]
    rw [← List.filterMap_cons_some (f := fun p => (s.pkts p).mbuf) hm]
    exact hmoved.target.filterMap _
  · rintro (queue' | p) hp hq
    · exact congrFun hqueues queue'
    · change (s'.packetsIn p).filterMap (fun p => (s'.pkts p).mbuf) = (s.packetsIn p).filterMap _
      simp only [hpkts]
      have heq : s'.packetsIn p = s.packetsIn p :=
        hmoved.frame (.inUse p) (fun h => hp (congrArg _ (PacketPlace.inUse.inj h)))
          fun h => hq (congrArg _ (PacketPlace.inUse.inj h))
      rw [heq]
  · rw [hpkts]
    rcases (hmoved.mem_iff hs.packets pkt' (.inUse p)).mp hpkt' with ⟨heq, -⟩ | ⟨-, hmem⟩
    · rw [heq]
      exact ⟨m, hm⟩
    · exact hs.carries p pkt' hmem

omit [DecidableEq P] in
/-- A packet that is free takes over the mbuf of another one, which becomes free. -/
lemma swap (hs : Owned cfg s) {pkt' : Packet C} {place place' : PacketPlace S}
    {f : PacketPlace S → List (Packet C)} (hplace : ∀ p, place ≠ .inUse p)
    (hplace' : ∀ p, place' ≠ .inUse p) (hacquired : Moved s.packets f pkt' place (.inUse .held))
    (hleft : Moved f s'.packets pkt (.inUse .held) place') (hpkt : pkt ∈ s.held)
    (hnew : (s'.pkts pkt').mbuf = (s.pkts pkt).mbuf)
    (hother : ∀ p, p ≠ pkt → p ≠ pkt' → s'.pkts p = s.pkts p) (hqueues : s'.mbufs = s.mbufs) :
    Owned cfg s' := by
  have hf := hs.packets.moved hacquired
  obtain ⟨m, hm⟩ := hs.carries .held pkt hpkt
  have hnot : ∀ p, pkt' ∉ s.packetsIn p := fun p hp =>
    hplace p (hs.packets.unique hacquired.mem (q := .inUse p) hp)
  have hne : pkt' ≠ pkt := by
    rintro rfl
    exact hnot .held hpkt
  have hframe : ∀ p, p ≠ .held → s'.packetsIn p = s.packetsIn p := fun p hp =>
    (hleft.frame (.inUse p) (fun h => hp (PacketPlace.inUse.inj h)) (hplace' p).symm).trans
      (hacquired.frame (.inUse p) (hplace p).symm fun h => hp (PacketPlace.inUse.inj h))
  have hheld : (s'.packetsIn .held).Perm (pkt' :: s.held.erase pkt) := by
    have herase := hleft.source.trans (hacquired.target.erase pkt)
    rwa [List.erase_cons_tail (by rwa [beq_iff_eq])] at herase
  -- what is in use besides the two has not been written to
  have hkept : ∀ p ∈ s.held.erase pkt, s'.pkts p = s.pkts p := by
    intro p hp
    have hmem := (hs.packets.nodup (.inUse .held)).mem_erase_iff.mp hp
    refine hother p hmem.1 ?_
    rintro rfl
    exact hnot .held hmem.2
  have hframed : ∀ {place}, place ≠ .held → ∀ p ∈ s.packetsIn place, s'.pkts p = s.pkts p := by
    intro place hplace p hp
    refine hother p ?_ ?_
    · rintro rfl
      exact hplace (PacketPlace.inUse.inj (hs.packets.unique (p := .inUse place) hp
        (q := .inUse .held) hpkt))
    · rintro rfl
      exact hnot place hp
  refine ⟨hf.moved hleft, hs.mbufs.perm ?_, fun p q hq => ?_⟩
  · rintro (q | p)
    · exact List.Perm.of_eq (congrFun hqueues q)
    · by_cases hp : p = .held
      · subst hp
        change ((s'.packetsIn .held).filterMap fun p => (s'.pkts p).mbuf).Perm
          (s.held.filterMap fun p => (s.pkts p).mbuf)
        refine (hheld.filterMap _).trans (.trans (.of_eq ?_) (perm_filterMap_cons hpkt hm).symm)
        rw [List.filterMap_cons_some (f := fun p => (s'.pkts p).mbuf) (hnew.trans hm)]
        exact congrArg _ (List.filterMap_congr fun p hp => by rw [hkept p hp])
      · refine List.Perm.of_eq ?_
        change (s'.packetsIn p).filterMap _ = (s.packetsIn p).filterMap _
        rw [hframe p hp]
        exact List.filterMap_congr fun q hq => by rw [hframed hp q hq]
  · by_cases hp : p = .held
    · subst hp
      rcases List.mem_cons.mp (hheld.mem_iff.mp hq) with rfl | hq
      · exact ⟨m, hnew.trans hm⟩
      · rw [hkept q hq]
        exact hs.carries .held q (List.mem_of_mem_erase hq)
    · rw [hframe p hp] at hq
      rw [hframed hp q hq]
      exact hs.carries p q hq

omit [DecidableEq P] in
/-- Ports, switches, what else is in a packet, and the order in the queues do not matter. -/
lemma perm (hs : Owned cfg s) (hpackets : ∀ p, (s'.packets p).Perm (s.packets p))
    (hpkts : ∀ p, (s'.pkts p).mbuf = (s.pkts p).mbuf)
    (hqueues : ∀ q, (s'.mbufs q).Perm (s.mbufs q)) : Owned cfg s' := by
  refine ⟨hs.packets.perm hpackets, hs.mbufs.perm ?_, fun p pkt hpkt => ?_⟩
  · rintro (q | p)
    · exact hqueues q
    · change ((s'.packetsIn p).filterMap fun p => (s'.pkts p).mbuf).Perm
        ((s.packetsIn p).filterMap fun p => (s.pkts p).mbuf)
      simp only [hpkts]
      exact (hpackets (.inUse p)).filterMap _
  · rw [hpkts]
    exact hs.carries p pkt ((hpackets (.inUse p)).mem_iff.mp hpkt)

end Owned

/-! ## Packets become free -/

omit [DecidableEq P] in
/-- There are fewer packets in the `bufferpool` than its capacity. -/
lemma length_lt_capacity (h : Conserved cfg.packets s.packets) {l : List ℕ} (hnodup : l.Nodup)
    (hne : l ≠ []) (hl : ∀ i ∈ l, ∃ p, .pool i ∈ s.packets p) : l.length < cfg.capacity := by
  have hsub : l ⊆ List.range (cfg.capacity - 1) := by
    intro i hi
    obtain ⟨p, hp⟩ := hl i hi
    have hmem := h.mem_pool hp
    rw [Config.packets, Finset.mem_union] at hmem
    rcases hmem with hmem | hmem
    · obtain ⟨j, hj, heq⟩ := Finset.mem_image.mp hmem
      cases heq
      exact List.mem_range.mpr (Finset.mem_range.mp hj)
    · obtain ⟨core, -, heq⟩ := Finset.mem_image.mp hmem
      exact absurd heq nofun
  have hlength := (hnodup.subperm hsub).length_le
  have hpos := List.length_pos_iff.mpr hne
  rw [List.length_range] at hlength
  omega

omit [DecidableEq P] in
lemma cq_nodup (h : Conserved cfg.packets s.packets) : s.cq.Nodup :=
  List.Nodup.of_map _ (h.nodup .free)

omit [DecidableEq P] in
/-- While a packet of the `bufferpool` is in use, there is room for it in the queue. -/
lemma cq_room (h : Conserved cfg.packets s.packets) {id : ℕ} {place : InUse S}
    (hid : .pool id ∈ s.packetsIn place) : s.cq.length + 1 < cfg.capacity := by
  have hnot : id ∉ s.cq := fun hmem =>
    absurd (h.unique (p := .free) (q := .inUse place) (List.mem_map_of_mem hmem) hid) nofun
  refine length_lt_capacity h (l := id :: s.cq) (List.nodup_cons.mpr ⟨hnot, cq_nodup h⟩)
    (List.cons_ne_nil id s.cq) ?_
  rintro i hi
  rcases List.mem_cons.mp hi with rfl | hi
  · exact ⟨.inUse place, hid⟩
  · exact ⟨.free, List.mem_map_of_mem hi⟩

omit [DecidableEq P] in
@[simp] lemma finish_pkts (s : Driver P S C) (pkt : Packet C) :
    (finish cfg s pkt).pkts = s.pkts := by
  cases pkt <;> rfl

omit [DecidableEq P] in
@[simp] lemma finish_mbufs (s : Driver P S C) (pkt : Packet C) :
    (finish cfg s pkt).mbufs = s.mbufs := by
  cases pkt <;> rfl

omit [DecidableEq P] in
@[simp] lemma finish_ports (s : Driver P S C) (pkt : Packet C) :
    (finish cfg s pkt).ports = s.ports := by
  cases pkt <;> rfl

omit [DecidableEq P] in
/-- A packet that has been taken out of a place is released. -/
lemma release_moved (h : Conserved cfg.packets s.packets) {id : ℕ} {place : InUse S}
    (hid : .pool id ∈ s.packetsIn place) (hcq : s'.cq = s.cq) (hidle : s'.idle = s.idle)
    (hplace : (s'.packetsIn place).Perm ((s.packetsIn place).erase (.pool id)))
    (hframe : ∀ p, p ≠ place → s'.packetsIn p = s.packetsIn p) :
    Moved s.packets (releaseBuffer cfg id s').packets (.pool id) (.inUse place) .free := by
  refine ⟨nofun, hid, hplace, ?_, ?_⟩
  · change (List.map Packet.pool (if _ then _ else _)).Perm (.pool id :: s.cq.map .pool)
    rw [hcq, if_pos (cq_room h hid), List.map_append]
    exact List.perm_append_singleton _ _
  · rintro (_ | _ | p) hp hq
    · exact absurd rfl hq
    · exact congrArg (List.map Packet.stack) hidle
    · exact hframe p fun heq => hp (congrArg _ heq)

omit [DecidableEq P] in
/-- The pipeline is done with a packet. -/
lemma finish_moved (h : Conserved cfg.packets s.packets) (hpkt : pkt ∈ s.held) :
    ∃ place, (∀ p, place ≠ .inUse p) ∧
      Moved s.packets (finish cfg s pkt).packets pkt (.inUse .held) place := by
  cases pkt with
  | stack core =>
      refine ⟨.idle, nofun, nofun, hpkt, List.Perm.refl _, List.Perm.refl _, ?_⟩
      rintro (_ | _ | p) hp hq
      · rfl
      · exact absurd rfl hq
      · cases p with
        | held => exact absurd rfl hp
        | _ => rfl
  | pool id =>
      refine ⟨.free, nofun, release_moved h hpkt rfl rfl (List.Perm.refl _) fun p hp => ?_⟩
      cases p with
      | held => exact absurd rfl hp
      | _ => rfl

namespace Owned

/-- The mbuf is put in a queue, and the pipeline is done with the packet. -/
lemma finish (hs : Owned cfg s) (hpkt : pkt ∈ s.held) (queue : MbufQueue P C) :
    Owned cfg (finish cfg (s.put queue (s.pkts pkt).mbuf) pkt) := by
  obtain ⟨m, hm⟩ := hs.carries .held pkt hpkt
  obtain ⟨place, hplace, hmoved⟩ :=
    finish_moved (s := s.put queue (s.pkts pkt).mbuf) hs.packets hpkt
  refine hs.leave queue hplace hmoved hm (finish_pkts _ pkt) ?_
  rw [finish_mbufs, hm]
  rfl

/-- A packet that has been taken out of a place is released, and its mbuf freed. -/
lemma release (hs : Owned cfg s) {id : ℕ} (place : InUse S)
    (hid : .pool id ∈ s.packetsIn place) (hcq : s'.cq = s.cq) (hidle : s'.idle = s.idle)
    (hplace : (s'.packetsIn place).Perm ((s.packetsIn place).erase (.pool id)))
    (hframe : ∀ p, p ≠ place → s'.packetsIn p = s.packetsIn p) (hpkts : s'.pkts = s.pkts)
    (hqueues : s'.mbufs = s.mbufs) :
    Owned cfg (releaseBuffer cfg id (rtePktmbufFree (s.pkts (.pool id)).mbuf s')) := by
  obtain ⟨m, hm⟩ := hs.carries place _ hid
  have hmoved : Moved s.packets
      (releaseBuffer cfg id (rtePktmbufFree (s.pkts (.pool id)).mbuf s')).packets
      (.pool id) (.inUse place) .free :=
    release_moved hs.packets hid hcq hidle hplace hframe
  refine hs.leave .pool ?_ hmoved hm hpkts ?_
  · exact fun _ => nofun
  · rw [hm, ← hqueues]
    rfl

/-- `platform_packet_drop`. -/
lemma drop (hs : Owned cfg s) (hpkt : pkt ∈ s.held) : Owned cfg (platformPacketDrop cfg pkt s) :=
  hs.finish hpkt .pool

end Owned

/-! ## Transmission -/

lemma conserved_handOn [DecidableEq S] {pool : Finset ℕ} {carried : InUse S → List ℕ}
    {src dst : MbufQueue P C} (hdst : src ≠ dst) (hpool : src ≠ .pool) (n : ℕ) :
    ∀ (ret : ℕ) (mbufs : MbufQueue P C → List ℕ), Conserved pool (placed mbufs carried) →
      Conserved pool (placed (handOn src dst n ret mbufs) carried) := by
  induction n with
  | zero => exact fun _ _ h => h
  | succ n ih =>
      intro ret mbufs h
      rw [handOn]
      cases hsrc : mbufs src with
      | nil => exact h
      | cons m rest =>
          -- the first mbuf goes to one of the two queues
          have hmove : ∀ queue, src ≠ queue → Conserved pool (placed (Function.update
              (Function.update mbufs src rest) queue
              (Function.update mbufs src rest queue ++ [m])) carried) := by
            intro queue hne
            rw [placed_update, placed_update, Function.update_of_ne hne.symm]
            refine h.moved (b := m) (p := .queue src) (q := .queue queue) (moved_update ?_ ?_ ?_ ?_)
            · exact fun heq => hne (MbufPlace.queue.inj heq)
            · change m ∈ mbufs src
              rw [hsrc]
              exact List.mem_cons_self
            · change rest.Perm ((mbufs src).erase m)
              rw [hsrc, List.erase_cons_head]
            · exact List.perm_append_singleton m _
          cases ret with
          | zero => exact ih 0 _ (hmove .pool hpool)
          | succ ret => exact ih ret _ (hmove dst hdst)

/-- `finish` is about the packet, and `flushBurst` about mbufs. -/
lemma finish_flushBurst (core : C) (port : P) (queue ret : ℕ) :
    finish cfg (flushBurst core port queue ret s) pkt =
      flushBurst core port queue ret (finish cfg s pkt) := by
  rw [flushBurst, flushBurst, finish_ports, finish_mbufs]
  split
  · rfl
  · cases pkt <;> rfl

namespace Owned

lemma handOn [DecidableEq S] (hs : Owned cfg s) (src dst : MbufQueue P C) (hdst : src ≠ dst)
    (hpool : src ≠ .pool) (n ret : ℕ) :
    Owned cfg { s with mbufs := Mbufs.handOn src dst n ret s.mbufs } :=
  ⟨hs.packets, conserved_handOn hdst hpool n ret s.mbufs hs.mbufs, hs.carries⟩

lemma flushBurst [DecidableEq S] (hs : Owned cfg s) (core : C) (port : P) (queue ret : ℕ) :
    Owned cfg (Mbufs.flushBurst core port queue ret s) := by
  unfold Mbufs.flushBurst
  split
  · exact hs
  · exact hs.handOn (.burst core port queue) (.txLcore port queue) nofun nofun _ ret

lemma txPkt [DecidableEq S] (hs : Owned cfg s) (hpkt : pkt ∈ s.held) (core : C) (port : P)
    (queue : ℕ) (answers : Answers) :
    Owned cfg
      (Mbufs.finish cfg (Mbufs.txPkt cfg core port queue answers (s.pkts pkt).mbuf s) pkt) := by
  unfold Mbufs.txPkt
  dsimp only
  split
  · rw [finish_flushBurst]
    exact (hs.finish hpkt (.burst core port queue)).flushBurst core port queue answers.ret
  · exact hs.finish hpkt (.burst core port queue)

end Owned

/-! ## Copies -/

section Acquire

variable {id : ℕ} {cq : List ℕ}

omit [DecidableEq P] in
/-- The first packet of the queue is taken into use. -/
lemma acquire_moved (hcq : s.cq = id :: cq) (hcq' : s'.cq = cq) (hidle : s'.idle = s.idle)
    (hheld : s'.held = .pool id :: s.held)
    (hframe : ∀ p, p ≠ .held → s'.packetsIn p = s.packetsIn p) :
    Moved s.packets s'.packets (.pool id) .free (.inUse .held) := by
  refine ⟨nofun, ?_, ?_, ?_, ?_⟩
  · change _ ∈ s.cq.map Packet.pool
    rw [hcq]
    exact List.mem_cons_self
  · change (s'.cq.map Packet.pool).Perm ((s.cq.map Packet.pool).erase (.pool id))
    rw [hcq, hcq', List.map_cons, List.erase_cons_head]
  · exact List.Perm.of_eq hheld
  · rintro (_ | _ | p) hp hq
    · exact absurd rfl hp
    · exact congrArg (List.map Packet.stack) hidle
    · exact hframe p fun heq => hq (congrArg _ heq)

namespace Owned

/-- The first packet of the queue is taken into use with a free mbuf. -/
lemma acquire (hs : Owned cfg s) (hcq : s.cq = id :: cq) (hm : m ∈ s.mbufs .pool)
    {x : Datapacket S} (hx : x.mbuf = some m) :
    Owned cfg (((({ s with cq := cq } : Driver P S C).take .pool m).setPkt (.pool id) x).hold
      (.pool id)) := by
  have hmoved : Moved s.packets (((({ s with cq := cq } : Driver P S C).take .pool m).setPkt
      (.pool id) x).hold (.pool id)).packets (.pool id) .free (.inUse .held) := by
    refine acquire_moved hcq rfl rfl rfl fun p hp => ?_
    cases p with
    | held => exact absurd rfl hp
    | _ => rfl
  refine hs.enter .pool ?_ hmoved rfl hx hm rfl
  exact fun _ => nofun

omit [DecidableEq P] in
/-- The first packet of the queue is taken out and put back. -/
lemma rotate (hs : Owned cfg s) (hcq : s.cq = id :: cq) :
    Owned cfg (releaseBuffer cfg id { s with cq := cq }) := by
  have hroom : cq.length + 1 < cfg.capacity := by
    refine length_lt_capacity hs.packets (l := id :: cq) (hcq ▸ cq_nodup hs.packets)
      (List.cons_ne_nil id cq) fun i hi => ⟨.free, ?_⟩
    rw [← hcq] at hi
    exact List.mem_map_of_mem hi
  refine hs.perm ?_ (fun _ => rfl) fun _ => List.Perm.refl _
  rintro (_ | _ | p)
  · change (List.map Packet.pool (if cq.length + 1 < cfg.capacity then cq ++ [id] else cq)).Perm
      (s.cq.map Packet.pool)
    rw [if_pos hroom, hcq]
    exact (List.perm_append_singleton id cq).map _
  · exact List.Perm.refl _
  · exact List.Perm.refl _

/-- `platform_packet_replicate__`. -/
lemma replicate (hs : Owned cfg s) {alloc : Option ℕ} (room : Bool) (pkt : Packet C)
    (halloc : ∀ m ∈ alloc, m ∈ s.mbufs .pool) :
    Owned cfg (platformPacketReplicate cfg alloc room pkt s).2 := by
  unfold platformPacketReplicate
  split
  · exact hs
  · next id cq hcq =>
    split
    · exact hs.rotate hcq
    · next m =>
      have hm : m ∈ s.mbufs .pool := halloc m rfl
      exact (hs.rotate hcq).perm (fun _ => List.Perm.refl _) (fun _ => rfl) (perm_of_putBack hm)
    · next m => exact hs.acquire hcq (halloc m rfl) rfl

omit [DecidableEq P] in
/-- `platform_packet_detach__`. -/
lemma detach (hs : Owned cfg s) {core : C} (hcore : .stack core ∈ s.held)
    (h : platformPacketDetach core s = some (id, s')) :
    Owned cfg s' ∧ .pool id ∈ s'.held := by
  unfold platformPacketDetach at h
  split at h
  · exact absurd h nofun
  next _ cq' hcq =>
  cases h
  have hacquired : Moved s.packets
      ({ s with cq := cq', held := .pool id :: s.held } : Driver P S C).packets
      (.pool id) .free (.inUse .held) := by
    refine acquire_moved hcq rfl rfl rfl fun p hp => ?_
    cases p with
    | held => exact absurd rfl hp
    | _ => rfl
  refine ⟨?_, List.mem_cons_self⟩
  have hidle : ∀ p, (.idle : PacketPlace S) ≠ .inUse p := fun _ => nofun
  refine hs.swap ?_ hidle hacquired ⟨nofun, List.mem_cons_of_mem _ hcore, ?_,
    List.Perm.refl _, ?_⟩ hcore ?_ ?_ rfl
  · exact fun _ => nofun
  · change (Packet.pool id :: s.held.erase (.stack core)).Perm
      ((.pool id :: s.held).erase (.stack core))
    rw [List.erase_cons_tail (by rw [beq_iff_eq]; exact nofun)]
  · rintro (_ | _ | p) hp hq
    · rfl
    · exact absurd rfl hq
    · cases p with
      | held => exact absurd rfl hp
      | _ => rfl
  · have hne : (Packet.pool id : Packet C) ≠ .stack core := nofun
    simp only [hold_pkts, forget_pkts, setPkt_pkts, Function.update_of_ne hne,
      Function.update_self]
  · intro p hstack hpool
    simp only [hold_pkts, forget_pkts, setPkt_pkts, Function.update_of_ne hstack,
      Function.update_of_ne hpool]

end Owned

end Acquire

end Owned

end Xdpd.Dpdk.Mbufs
