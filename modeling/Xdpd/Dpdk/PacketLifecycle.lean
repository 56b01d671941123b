import Xdpd.Dpdk.PacketOwnership

/-!
# Runs that conserve packets and mbufs

What each function of the driver does to the two pools, from a state in which all packets and mbufs
are `Owned`.  They stay so except in these calls:

* `platform_packet_output` without a port, or to an ingress port that does not exist, does nothing
  with the packet, and a physical port writes an mbuf for a queue that it does not have behind its
  bursts;
* `platform_of1x_packet_in` gives up the packet of a core when there is no packet in the
  `bufferpool` to detach it to;
* the dispatcher of packet-ins frees the mbuf of a packet that the control plane has refused, also
  when the packet has been taken out of the storage in the meantime;
* a packet-out without an output releases the stored packet, and not its mbuf; one for which there
  is no mbuf does not release the packet.

`Sound` says that a call is none of these; `owned_of_sound` is about the runs of sound calls.
-/

namespace Xdpd.Dpdk.Mbufs

open Xdpd.Lib Driver

variable {P S C : Type*} [DecidableEq P] [DecidableEq S] [DecidableEq C]
variable {cfg : Config C} {s s' : Driver P S C} {pkt : Packet C} {m : ℕ}

/-! ## Output -/

/-- A physical port that takes the packet has the queue of the packet. -/
def QueueOk (cfg : Config C) (s : Driver P S C) (pkt : Packet C) (port : P) : Prop :=
  (s.ports port).type = .physical → (s.ports port).platformPortState.isSome →
    ((s.ports port).up && (s.ports port).forwardPackets) = true →
    (s.pkts pkt).outputQueue < cfg.numQueues

/-- `platform_packet_output` has a port to send to, which has the queue. -/
def OutputOk (cfg : Config C) (s : Driver P S C) (pkt : Packet C) : OutputPort P → Prop
  | .null => False
  | .flood | .all => True
  | .inPort =>
      (s.pkts pkt).portIn < cfg.maxLogPorts ∧ ∀ sw ∈ (s.pkts pkt).sw,
        ∃ port ∈ s.logicalPorts sw (s.pkts pkt).portIn, QueueOk cfg s pkt port
  | .port port => QueueOk cfg s pkt port

/-- The port that a replica is sent to has the queue, if there is a replica. -/
def FloodOk (cfg : Config C) (s : Driver P S C) (alloc : Option ℕ) (room : Bool)
    (pkt : Packet C) : Prop :=
  s.floodIndex pkt < cfg.maxLogPorts → s.cq ≠ [] → alloc.isSome → room = true →
    ∀ sw ∈ (s.pkts pkt).sw, ∀ port ∈ floodPort s pkt sw, QueueOk cfg s pkt port

namespace Owned

omit [DecidableEq P] [DecidableEq S] in
/-- The packet is written to, and keeps its mbuf. -/
lemma setPkt (hs : Owned cfg s) {x : Datapacket S} (hx : x.mbuf = (s.pkts pkt).mbuf) :
    Owned cfg (s.setPkt pkt x) := by
  refine hs.perm (fun _ => List.Perm.refl _) (fun p => ?_) fun _ => List.Perm.refl _
  by_cases heq : p = pkt
  · subst heq
    rw [setPkt_pkts, Function.update_self]
    exact hx
  · rw [setPkt_pkts, Function.update_of_ne heq]

lemma outputSinglePacket (hs : Owned cfg s) (hpkt : pkt ∈ s.held) {port : P}
    (hok : QueueOk cfg s pkt port) (core : C) (answers : Answers) :
    Owned cfg (outputSinglePacket cfg core answers pkt port s) := by
  unfold Mbufs.outputSinglePacket
  split
  · next state hstate hup =>
    split
    · have hs₁ : Owned cfg
          (s.setPkt pkt { s.pkts pkt with portIn := (s.ports state).ofPortNum }) := hs.setPkt rfl
      unfold txPktVlink
      split
      · exact hs₁.drop hpkt
      · exact hs₁
    · exact hs.finish hpkt _
    · exact hs.txPkt hpkt core port 0 answers
    · next htype =>
      rw [if_pos (hok htype (by rw [hstate]; rfl) hup)]
      exact hs.txPkt hpkt core port _ answers
  · exact hs.finish hpkt .pool

lemma platformPacketOutput (hs : Owned cfg s) (hpkt : pkt ∈ s.held) {outputPort : OutputPort P}
    (hok : OutputOk cfg s pkt outputPort) (core : C) (answers : Answers) :
    Owned cfg (platformPacketOutput cfg core answers pkt outputPort s) := by
  have hflood : Owned cfg (Mbufs.platformPacketOutput cfg core answers pkt .flood s) := by
    refine hs.pass .held .flooding ⟨nofun, hpkt, List.Perm.refl _,
      List.Perm.refl _, ?_⟩ (fun _ => rfl) rfl
    rintro (_ | _ | p) hp hq
    · rfl
    · rfl
    · cases p with
      | held => exact absurd rfl hp
      | flooding => exact absurd rfl hq
      | _ => rfl
  cases outputPort with
  | null => exact hok.elim
  | flood => exact hflood
  | all => exact hflood
  | inPort =>
      obtain ⟨hlt, hport⟩ := hok
      unfold Mbufs.platformPacketOutput
      simp only [if_neg (Nat.not_le.mpr hlt)]
      split
      · exact hs.perm (fun _ => List.Perm.refl _) (fun _ => rfl) fun _ => List.Perm.refl _
      · next sw hsw =>
        obtain ⟨port, hlogical, hqueue⟩ := hport sw hsw
        rw [hlogical]
        exact hs.outputSinglePacket hpkt hqueue core answers
  | port port => exact hs.outputSinglePacket hpkt hok core answers

omit [DecidableEq S] in
/-- The loop is over, and the packet is discarded. -/
lemma endFlood (hs : Owned cfg s) (hpkt : pkt ∈ s.flooding) : Owned cfg (endFlood cfg pkt s) := by
  have hheld : Owned cfg
      ({ s with held := pkt :: s.held, flooding := s.flooding.erase pkt } : Driver P S C) := by
    refine hs.pass .flooding .held ⟨nofun, hpkt, List.Perm.refl _,
      List.Perm.refl _, ?_⟩ (fun _ => rfl) rfl
    rintro (_ | _ | p) hp hq
    · rfl
    · rfl
    · cases p with
      | flooding => exact absurd rfl hp
      | held => exact absurd rfl hq
      | _ => rfl
  exact hheld.drop List.mem_cons_self

end Owned

omit [DecidableEq S] in
/-- What is known of a replica. -/
lemma replicate_eq_some {alloc : Option ℕ} {room : Bool} {id : ℕ}
    (h : platformPacketReplicate cfg alloc room pkt s = (some id, s')) :
    .pool id ∈ s'.held ∧ s'.ports = s.ports ∧
      (s'.pkts (.pool id)).outputQueue = (s.pkts pkt).outputQueue ∧
      s.cq ≠ [] ∧ alloc.isSome ∧ room = true := by
  unfold platformPacketReplicate at h
  split at h
  · exact absurd h nofun
  · next id' cq hcq =>
    split at h
    · exact absurd h nofun
    · exact absurd h nofun
    · cases h
      refine ⟨List.mem_cons_self, rfl, ?_, by rw [hcq]; exact nofun, rfl, rfl⟩
      simp only [hold_pkts, setPkt_pkts, Function.update_self]

omit [DecidableEq S] in
lemma replicate_flooding (cfg : Config C) (alloc : Option ℕ) (room : Bool) (pkt : Packet C)
    (s : Driver P S C) :
    (platformPacketReplicate cfg alloc room pkt s).2.flooding = s.flooding := by
  unfold platformPacketReplicate
  split
  · rfl
  · split <;> rfl

namespace Owned

lemma floodNext (hs : Owned cfg s) (hpkt : pkt ∈ s.flooding) {alloc : Option ℕ} {room : Bool}
    (halloc : ∀ m ∈ alloc, m ∈ s.mbufs .pool) (hok : FloodOk cfg s alloc room pkt) (core : C)
    (answers : Answers) : Owned cfg (floodNext cfg core alloc room answers pkt s) := by
  unfold Mbufs.floodNext
  split
  · next hlt =>
    split
    · exact hs.perm (fun _ => List.Perm.refl _) (fun _ => rfl) fun _ => List.Perm.refl _
    · next sw hsw =>
      have hs₁ : Owned cfg
          ({ s with floodIndex := Function.update s.floodIndex pkt (s.floodIndex pkt + 1) } :
            Driver P S C) :=
        hs.perm (fun _ => List.Perm.refl _) (fun _ => rfl) fun _ => List.Perm.refl _
      have hs₂ := hs₁.replicate room pkt halloc
      dsimp only
      split
      · exact hs₁
      · next port hport =>
        split
        · next s₂ hreplica =>
          rw [hreplica] at hs₂
          refine hs₂.endFlood ?_
          have hflooding := replicate_flooding cfg alloc room pkt { s with
            floodIndex := Function.update s.floodIndex pkt (s.floodIndex pkt + 1) }
          rw [hreplica] at hflooding
          exact hflooding ▸ hpkt
        · next id s₂ hreplica =>
          rw [hreplica] at hs₂
          obtain ⟨hheld, hports, hqueue, hcq, hsome, hroom⟩ := replicate_eq_some hreplica
          refine hs₂.outputSinglePacket hheld ?_ core answers
          unfold QueueOk
          rw [hports, hqueue]
          exact hok hlt hcq hsome hroom sw hsw port hport
  · exact hs.endFlood hpkt

end Owned

/-! ## Packet-in and packet-out -/

/-- There is a packet to detach the packet of a core to. -/
def PacketInOk (s : Driver P S C) (sw : Option S) : Packet C → Prop
  | .stack _ => sw.isSome ∧ s.cq ≠ []
  | .pool _ => sw.isSome

/-- When the control plane refuses a packet, the storage still has one with that `id` and mbuf. -/
def ProcessedOk (s : Driver P S C) (accepted : Bool) : Prop :=
  ∀ d ∈ s.dispatching, accepted = true ∨
    ∃ id ∈ ((s.storage d.sw).getPacket d.id).1, (s.pkts (.pool id)).mbuf = d.mbuf

/-- A packet-out without an output is for no stored packet, and for one that is not stored there is
an mbuf, if there is a packet. -/
def PacketOutOk (s : Driver P S C) (sw : S) (bufferId : BitVec 32) (containsOutput : Bool)
    (alloc : Option ℕ) : Prop :=
  if containsOutput = false then
    bufferId = OF1XP_NO_BUFFER ∨ ((s.storage sw).getPacket bufferId).1 = none
  else bufferId = 0 ∨ bufferId = OF1XP_NO_BUFFER → s.cq ≠ [] → alloc.isSome

section Storage

variable {sw : S} {bufferId : BitVec 32} {id : ℕ} {st : Io.DatapacketStorage}

omit [DecidableEq P] [DecidableEq C] in
lemma packetsIn_setStorage_of_ne {place : InUse S} (hplace : place ≠ .storage sw) :
    (s.setStorage sw st).packetsIn place = s.packetsIn place := by
  cases place with
  | storage sw' =>
      have hne : sw' ≠ sw := fun heq => hplace (congrArg _ heq)
      change (Function.update s.storage sw st sw').store.map _ = _
      rw [Function.update_of_ne hne]
      rfl
  | _ => rfl

omit [DecidableEq P] [DecidableEq C] in
lemma packetsIn_setStorage_self :
    (s.setStorage sw st).packetsIn (.storage sw) = st.store.map fun map => .pool map.pkt := by
  change (Function.update s.storage sw st sw).store.map _ = _
  rw [Function.update_self]

omit [DecidableEq P] in
/-- What `get_packet` takes out of a storage. -/
lemma getPacket_eq_some (h : (s.storage sw).getPacket bufferId = (some id, st)) :
    .pool id ∈ s.packetsIn (.storage sw) ∧
      ((s.setStorage sw st).packetsIn (.storage sw)).Perm
        ((s.packetsIn (.storage sw)).erase (.pool id)) := by
  obtain ⟨hfind, rfl⟩ := Prod.mk.inj h
  obtain ⟨map, hmap, rfl⟩ := Option.map_eq_some_iff.mp hfind
  refine ⟨List.mem_map_of_mem (List.mem_of_find?_eq_some hmap), ?_⟩
  have hperm := ((perm_cons_eraseP_of_find? hmap).map
    fun map => (.pool map.pkt : Packet C)).erase (.pool map.pkt)
  rw [List.map_cons, List.erase_cons_head] at hperm
  rw [packetsIn_setStorage_self]
  exact hperm.symm

lemma store_of_storePacket {max_size : ℕ} {now : ℤ} {st' : Io.DatapacketStorage}
    (h : st.storePacket max_size now id = some (bufferId, st')) :
    st'.store = st.store ++ [⟨bufferId, id, now⟩] := by
  unfold Io.DatapacketStorage.storePacket at h
  split at h
  · exact absurd h nofun
  · cases h
    rfl

namespace Owned

/-- A packet that has been taken out of the storage is released, and its mbuf freed. -/
lemma releaseStored (hs : Owned cfg s)
    (h : (s.storage sw).getPacket bufferId = (some id, st)) :
    Owned cfg (releaseBuffer cfg id
      (rtePktmbufFree (s.pkts (.pool id)).mbuf (s.setStorage sw st))) := by
  obtain ⟨hmem, hperm⟩ := getPacket_eq_some h
  exact hs.release (.storage sw) hmem rfl rfl hperm (fun p hp => packetsIn_setStorage_of_ne hp)
    rfl rfl

omit [DecidableEq P] in
/-- The pipeline goes on with a packet that has been taken out of the storage. -/
lemma holdStored (hs : Owned cfg s) (h : (s.storage sw).getPacket bufferId = (some id, st)) :
    Owned cfg ((s.setStorage sw st).hold (.pool id)) := by
  obtain ⟨hmem, hperm⟩ := getPacket_eq_some h
  refine hs.pass (.storage sw) .held ⟨nofun, hmem, hperm, List.Perm.refl _, ?_⟩ (fun _ => rfl) rfl
  rintro (_ | _ | p) hp hq
  · rfl
  · rfl
  · have hne : p ≠ .storage sw := fun heq => hp (congrArg _ heq)
    refine Eq.trans ?_ (packetsIn_setStorage_of_ne hne : (s.setStorage sw st).packetsIn p = _)
    cases p with
    | held => exact absurd rfl hq
    | _ => rfl

end Owned

end Storage

namespace Owned

omit [DecidableEq S] in
lemma enqueuePktin (hs : Owned cfg s) {id : ℕ} (hid : .pool id ∈ s.held) (full : Bool) :
    Owned cfg (enqueuePktin cfg full id s) := by
  unfold Mbufs.enqueuePktin
  split
  · exact hs.drop hid
  · refine hs.pass .held .pktIns ⟨by simp, hid, List.Perm.refl _, ?_, ?_⟩ (fun _ => rfl) rfl
    · change ((s.pktIns ++ [id]).map Packet.pool).Perm (.pool id :: s.pktIns.map .pool)
      rw [List.map_append]
      exact List.perm_append_singleton _ _
    · rintro (_ | _ | p) hp hq
      · rfl
      · rfl
      · cases p with
        | held => exact absurd rfl hp
        | pktIns => exact absurd rfl hq
        | _ => rfl

omit [DecidableEq S] in
lemma platformOf1xPacketIn (hs : Owned cfg s) (hpkt : pkt ∈ s.held) {sw : Option S}
    (hok : PacketInOk s sw pkt) (full : Bool) :
    Owned cfg (platformOf1xPacketIn cfg sw full pkt s) := by
  cases pkt with
  | stack core =>
      obtain ⟨hsw, hcq⟩ := hok
      obtain ⟨sw, rfl⟩ := Option.isSome_iff_exists.mp hsw
      unfold Mbufs.platformOf1xPacketIn
      dsimp only
      cases hdetach : platformPacketDetach core s with
      | none =>
          unfold platformPacketDetach at hdetach
          split at hdetach
          · next hnil => exact absurd hnil hcq
          · cases hdetach
      | some r =>
          obtain ⟨hdetached, hheld⟩ := hs.detach hpkt hdetach
          exact hdetached.enqueuePktin hheld full
  | pool id =>
      obtain ⟨sw, rfl⟩ := Option.isSome_iff_exists.mp hok
      exact hs.enqueuePktin hpkt full

lemma processPacketIns (hs : Owned cfg s) (now : ℤ) : Owned cfg (processPacketIns cfg now s) := by
  unfold Mbufs.processPacketIns
  split
  · exact hs
  next id pktIns hpktIns =>
  have hid : .pool id ∈ s.packetsIn .pktIns := by
    change _ ∈ s.pktIns.map Packet.pool
    rw [hpktIns]
    exact List.mem_cons_self
  have htaken : (pktIns.map Packet.pool).Perm
      (((s.packetsIn .pktIns).erase (.pool id) : List (Packet C))) := by
    change (_ : List (Packet C)).Perm ((s.pktIns.map Packet.pool).erase _)
    rw [hpktIns, List.map_cons, List.erase_cons_head]
  split
  · exact hs.perm (fun _ => List.Perm.refl _) (fun _ => rfl) fun _ => List.Perm.refl _
  next sw hsw =>
  split
  · refine hs.release .pktIns hid rfl rfl htaken (fun p hp => ?_) rfl rfl
    cases p with
    | pktIns => exact absurd rfl hp
    | _ => rfl
  · next storeid st hstore =>
    refine hs.pass .pktIns (.storage sw) ⟨by simp, hid, htaken, ?_, ?_⟩ (fun _ => rfl) rfl
    · refine List.Perm.trans (.of_eq packetsIn_setStorage_self) ?_
      rw [store_of_storePacket hstore, List.map_append]
      exact List.perm_append_singleton _ _
    · rintro (_ | _ | p) hp hq
      · rfl
      · rfl
      · have hne : p ≠ .storage sw := fun heq => hq (congrArg _ heq)
        refine Eq.trans ?_ (packetsIn_setStorage_of_ne hne : (s.setStorage sw st).packetsIn p = _)
        cases p with
        | pktIns => exact absurd rfl hp
        | _ => rfl

lemma packetInProcessed (hs : Owned cfg s) {accepted : Bool} (hok : ProcessedOk s accepted)
    {d : Dispatch S} (hd : s.dispatching = some d) :
    Owned cfg (packetInProcessed cfg accepted d s) := by
  have hs₁ : Owned cfg ({ s with dispatching := none } : Driver P S C) :=
    hs.perm (fun _ => List.Perm.refl _) (fun _ => rfl) fun _ => List.Perm.refl _
  unfold Mbufs.packetInProcessed
  dsimp only
  split
  · exact hs₁
  · next hrefused =>
    rcases hok d hd with haccepted | ⟨id, hid, hmbuf⟩
    · exact absurd haccepted hrefused
    · split
      · next hget =>
        rw [hget] at hid
        cases hid
      · next id' st hget =>
        rw [hget] at hid
        cases hid
        rw [← hmbuf]
        exact hs₁.releaseStored hget

lemma processPacketOut (hs : Owned cfg s) {sw : S} {bufferId : BitVec 32} {containsOutput : Bool}
    {alloc : Option ℕ} (hok : PacketOutOk s sw bufferId containsOutput alloc)
    (halloc : ∀ m ∈ alloc, m ∈ s.mbufs .pool) (inPort : ℕ) :
    Owned cfg (processPacketOut cfg sw bufferId inPort containsOutput alloc s) := by
  unfold Mbufs.processPacketOut
  unfold PacketOutOk at hok
  split
  · next hno =>
    rw [if_pos hno] at hok
    split
    · exact hs
    · next hbuffer =>
      split
      · exact hs
      · next id st hget =>
        rcases hok with heq | hnone
        · exact absurd heq hbuffer
        · rw [hget] at hnone
          cases hnone
  next houtput =>
  rw [if_neg houtput] at hok
  split
  · split
    · exact hs
    · next id st hget =>
      exact (hs.holdStored hget).setPkt rfl
  · next hbuffer =>
    split
    · exact hs
    · next id cq hcq =>
      split
      · have hsome := hok (by grind) (by rw [hcq]; simp)
        cases hsome
      · next m => exact hs.acquire hcq (halloc m rfl) rfl

omit [DecidableEq P] in
lemma processFlowMod (hs : Owned cfg s) (sw : S) (bufferId : BitVec 32) (result : Bool) :
    Owned cfg (processFlowMod sw bufferId result s) := by
  unfold Mbufs.processFlowMod
  split
  · split
    · exact hs
    · next id st hget => exact hs.holdStored hget
  · exact hs

lemma expirePacket (hs : Owned cfg s) (sw : S) (now : ℤ) :
    Owned cfg (expirePacket cfg sw now s) := by
  unfold Mbufs.expirePacket
  split
  · exact hs
  · split
    · exact hs
    · next id st hget => exact hs.releaseStored hget

lemma dropStored (hs : Owned cfg s) (sw : S) : Owned cfg (dropStored cfg sw s) := by
  unfold Mbufs.dropStored
  split
  · exact hs
  · next map store hstore =>
    have hin : s.packetsIn (.storage sw) =
        .pool map.pkt :: store.map fun map => (.pool map.pkt : Packet C) := by
      change (s.storage sw).store.map _ = _
      rw [hstore, List.map_cons]
    refine hs.release (.storage sw) ?_ rfl rfl ?_ (fun p hp =>
      packetsIn_setStorage_of_ne hp) rfl rfl
    · rw [hin]
      exact List.mem_cons_self
    · rw [packetsIn_setStorage_self, hin, List.erase_cons_head]

end Owned

/-! ## Runs -/

namespace Owned

/-- An mbuf goes from one queue to another. -/
lemma hand (hs : Owned cfg s) {queue queue' : MbufQueue P C} (hne : queue ≠ queue')
    (hm : m ∈ s.mbufs queue) : Owned cfg ((s.take queue m).put queue' (some m)) := by
  refine ⟨hs.packets, ?_, hs.carries⟩
  change Conserved _ (placed (Function.update (Function.update s.mbufs queue _) queue' _) s.carried)
  have hqueue : (s.take queue m).mbufs queue' = s.mbufs queue' :=
    Function.update_of_ne hne.symm _ _
  rw [placed_update, placed_update, hqueue]
  refine hs.mbufs.moved (b := m) (p := .queue queue) (q := .queue queue')
    (moved_update (fun heq => hne (MbufPlace.queue.inj heq)) hm (List.Perm.refl _) ?_)
  exact List.perm_append_singleton m _

omit [DecidableEq S] in
lemma processPortRx (hs : Owned cfg s) {core : C} (hcore : core ∈ s.idle)
    (hm : m ∈ s.mbufs .device) (ofPortNum : ℕ) :
    Owned cfg (processPortRx core m (some ofPortNum) s) := by
  have hmoved : Moved s.packets (Mbufs.processPortRx core m (some ofPortNum) s).packets
      (.stack core) .idle (.inUse .held) := by
    refine ⟨nofun, List.mem_map_of_mem hcore, ?_, List.Perm.refl _, ?_⟩
    · change ((s.idle.erase core).map Packet.stack).Perm ((s.idle.map Packet.stack).erase _)
      have hperm := ((List.perm_cons_erase hcore).map
        (Packet.stack : C → Packet C)).erase (.stack core)
      rw [List.map_cons, List.erase_cons_head] at hperm
      exact hperm.symm
    · rintro (_ | _ | p) hp hq
      · rfl
      · exact absurd rfl hp
      · cases p with
        | held => exact absurd rfl hq
        | _ => rfl
  refine hs.enter .device ?_ hmoved rfl rfl hm rfl
  exact fun _ => nofun

end Owned

/-- The call neither loses a packet or an mbuf nor disposes of one twice. -/
def Sound (cfg : Config C) (s : Driver P S C) : Action P S C → Prop
  | .output _ _ pkt outputPort => OutputOk cfg s pkt outputPort
  | .floodNext _ alloc room _ pkt => FloodOk cfg s alloc room pkt
  | .packetIn sw _ pkt => PacketInOk s sw pkt
  | .packetInProcessed accepted => ProcessedOk s accepted
  | .packetOut sw bufferId _ containsOutput alloc => PacketOutOk s sw bufferId containsOutput alloc
  | _ => True

instance (s : Driver P S C) (pkt : Packet C) (port : P) : Decidable (QueueOk cfg s pkt port) := by
  unfold QueueOk
  infer_instance

instance (s : Driver P S C) (a : Action P S C) : Decidable (Sound cfg s a) := by
  cases a with
  | output core answers pkt outputPort =>
      cases outputPort <;> unfold Sound OutputOk <;> infer_instance
  | floodNext => unfold Sound FloodOk; infer_instance
  | packetIn sw full pkt => cases pkt <;> unfold Sound PacketInOk <;> infer_instance
  | packetInProcessed => unfold Sound ProcessedOk; infer_instance
  | packetOut => unfold Sound PacketOutOk; infer_instance
  | _ => unfold Sound; infer_instance

/-- Every sound call keeps packets and mbufs owned. -/
lemma Owned.step {a : Action P S C} (hs : Owned cfg s) (hok : Sound cfg s a)
    (hstep : step cfg s a = some s') : Owned cfg s' := by
  unfold Mbufs.step at hstep
  split at hstep
  swap
  · exact absurd hstep nofun
  next henabled =>
  obtain ⟨-, huses, hallocs⟩ := henabled
  cases a with
  | refill m =>
      cases hstep
      exact hs.hand nofun (hallocs m rfl)
  | sent m =>
      change (if _ then _ else _) = _ at hstep
      split at hstep
      · next hm =>
        cases hstep
        exact hs.hand nofun hm
      · exact absurd hstep nofun
  | receive core m ofPortNum =>
      change (if _ then _ else _) = _ at hstep
      split at hstep
      · next hready =>
        cases hstep
        cases ofPortNum with
        | none => exact hs.hand nofun hready.2
        | some ofPortNum => exact hs.processPortRx hready.1 hready.2 ofPortNum
      · exact absurd hstep nofun
  | flush core port queue ret =>
      cases hstep
      exact hs.flushBurst core port queue ret
  | transmit port queue ret =>
      cases hstep
      exact hs.handOn (.txLcore port queue) .device nofun nofun _ ret
  | output core answers pkt outputPort =>
      cases hstep
      exact hs.platformPacketOutput (huses pkt rfl) hok core answers
  | floodNext core alloc room answers pkt =>
      change (if _ then _ else _) = _ at hstep
      split at hstep
      · next hpkt =>
        cases hstep
        exact hs.floodNext hpkt hallocs hok core answers
      · exact absurd hstep nofun
  | replicate alloc room pkt =>
      cases hstep
      exact hs.replicate room pkt hallocs
  | detach core =>
      cases hstep
      cases hdetach : platformPacketDetach core s with
      | none => exact hs
      | some r => exact (hs.detach (huses _ rfl) hdetach).1
  | drop pkt =>
      cases hstep
      exact hs.drop (huses pkt rfl)
  | packetIn sw full pkt =>
      cases hstep
      exact hs.platformOf1xPacketIn (huses pkt rfl) hok full
  | processPacketIns now =>
      change (if _ then _ else _) = _ at hstep
      split at hstep
      · cases hstep
        exact hs.processPacketIns now
      · exact absurd hstep nofun
  | packetInProcessed accepted =>
      obtain ⟨d, hd, rfl⟩ := Option.map_eq_some_iff.mp hstep
      exact hs.packetInProcessed hok hd
  | packetOut sw bufferId inPort containsOutput alloc =>
      cases hstep
      exact hs.processPacketOut hok hallocs inPort
  | flowMod sw bufferId result =>
      cases hstep
      exact hs.processFlowMod sw bufferId result
  | expire sw now =>
      cases hstep
      exact hs.expirePacket sw now
  | dropStored sw =>
      cases hstep
      exact hs.dropStored sw
  | setPkt pkt sw outputQueue =>
      cases hstep
      exact hs.setPkt rfl
  | _ =>
      -- ports and switches are not places
      cases hstep
      exact hs.perm (fun _ => List.Perm.refl _) (fun _ => rfl) fun _ => List.Perm.refl _

omit [DecidableEq P] [DecidableEq S] in
/-- All packets and mbufs are free. -/
lemma owned_init (cfg : Config C) : Owned cfg (init cfg : Driver P S C) := by
  have hnone : ∀ place, (init cfg : Driver P S C).packetsIn place = [] := by
    rintro (_ | _ | _ | sw) <;> rfl
  refine ⟨⟨?_, ?_, fun pkt => ?_⟩, .of_single (p := .queue .pool) List.nodup_range ?_ ?_,
    fun place pkt hpkt => ?_⟩
  · rintro (_ | _ | place)
    · exact (List.nodup_range).map fun _ _ h => Packet.pool.inj h
    · exact cfg.nodup.map fun _ _ h => Packet.stack.inj h
    · change ((init cfg : Driver P S C).packetsIn place).Nodup
      rw [hnone]
      exact List.nodup_nil
  · -- the packets of the pool are free, and those of the cores are idle
    have hplace : ∀ {p pkt}, pkt ∈ (init cfg : Driver P S C).packets p →
        (∃ id, pkt = .pool id ∧ p = .free) ∨ ∃ core, pkt = .stack core ∧ p = .idle := by
      rintro (_ | _ | place) pkt hpkt
      · obtain ⟨id, -, rfl⟩ := List.mem_map.mp hpkt
        exact .inl ⟨id, rfl, rfl⟩
      · obtain ⟨core, -, rfl⟩ := List.mem_map.mp hpkt
        exact .inr ⟨core, rfl, rfl⟩
      · change pkt ∈ (init cfg : Driver P S C).packetsIn place at hpkt
        rw [hnone] at hpkt
        exact absurd hpkt List.not_mem_nil
    intro p q pkt hp hq
    rcases hplace hp with ⟨id, rfl, rfl⟩ | ⟨core, rfl, rfl⟩ <;>
      rcases hplace hq with ⟨id', heq, rfl⟩ | ⟨core', heq, rfl⟩
    · rfl
    · exact absurd heq nofun
    · exact absurd heq nofun
    · rfl
  · constructor
    · intro hpkt
      rcases Finset.mem_union.mp hpkt with hpkt | hpkt
      · obtain ⟨id, hid, rfl⟩ := Finset.mem_image.mp hpkt
        exact ⟨.free, List.mem_map_of_mem (List.mem_range.mpr (Finset.mem_range.mp hid))⟩
      · obtain ⟨core, hcore, rfl⟩ := Finset.mem_image.mp hpkt
        exact ⟨.idle, List.mem_map_of_mem (List.mem_toFinset.mp hcore)⟩
    · rintro ⟨_ | _ | place, hpkt⟩
      · obtain ⟨id, hid, rfl⟩ := List.mem_map.mp hpkt
        exact Finset.mem_union_left _ (Finset.mem_image_of_mem _
          (Finset.mem_range.mpr (List.mem_range.mp hid)))
      · obtain ⟨core, hcore, rfl⟩ := List.mem_map.mp hpkt
        exact Finset.mem_union_right _ (Finset.mem_image_of_mem _ (List.mem_toFinset.mpr hcore))
      · change pkt ∈ (init cfg : Driver P S C).packetsIn place at hpkt
        rw [hnone] at hpkt
        exact absurd hpkt List.not_mem_nil
  · exact fun m => Finset.mem_range.trans List.mem_range.symm
  · rintro (queue | place) hne
    · cases queue with
      | pool => exact absurd rfl hne
      | _ => rfl
    · change ((init cfg : Driver P S C).packetsIn place).filterMap _ = []
      rw [hnone, List.filterMap_nil]
  · rw [hnone] at hpkt
    exact absurd hpkt List.not_mem_nil

/-- **Ownership.**  In every run of sound calls, from all packets and mbufs being free, every packet
and every mbuf stays in exactly one place. -/
theorem owned_of_sound (cfg : Config C) {acts : List (Action P S C)} {s : Driver P S C}
    (hrun : Run (step cfg) (Sound cfg) (init cfg) acts s) : Owned cfg s :=
  hrun.invariant (fun _ _ _ hs hok hstep => hs.step hok hstep) (owned_init cfg)

/-- One core, three mbufs and two packets in the `bufferpool`. -/
def oneCore : Config Unit where
  cores := [()]
  nodup := List.nodup_singleton ()
  mbufs := 3
  capacity := 3
  maxLogPorts := 3
  numQueues := 1
  maxPktBurst := 4
  storageMaxBuf := 2
  storageExpirationS := 10

/-- A physical port that is up. -/
def portUp (port : Bool) : SwitchPort Bool Unit where
  type := .physical
  platformPortState := some port
  attachedSw := some ()
  ofPortNum := 1
  up := true
  forwardPackets := true
  noFlood := false

/-- The core is active. -/
def sends : Answers := { active := true, ret := 1, full := false }

/-- A frame is received and flooded to the other port, and another frame goes to the controller,
which refuses it. -/
def floodAndPacketIn : List (Action Bool Unit Unit) :=
  [.setPort true (portUp true), .setPort false (portUp false), .setLogicalPort () 1 (some true),
    .setLogicalPort () 2 (some false), .refill 0, .receive () 0 (some 1),
    .setPkt (.stack ()) (some ()) 0, .output () sends (.stack ()) .flood] ++
    List.replicate 3 (.floodNext () (some 1) true sends (.stack ())) ++
  [.floodNext () none true sends (.stack ()), .flush () false 0 1, .transmit false 0 1, .sent 1,
    .refill 2, .receive () 2 (some 1), .setPkt (.stack ()) (some ()) 0,
    .packetIn (some ()) false (.stack ()), .processPacketIns 0,
    .packetInProcessed false]

theorem owned_floodAndPacketIn :
    ∃ s ∈ exec (guarded (step oneCore) (Sound oneCore)) (init oneCore) floodAndPacketIn,
      (s.mbufs .pool).length = 3 ∧ s.cq.length = 2 ∧ Owned oneCore s := by
  have hexec : ∃ s ∈ exec (guarded (step oneCore) (Sound oneCore)) (init oneCore)
      floodAndPacketIn, (s.mbufs .pool).length = 3 ∧ s.cq.length = 2 := by decide
  obtain ⟨s, hs, hmbufs, hcq⟩ := hexec
  exact ⟨s, hs, hmbufs, hcq, owned_of_sound oneCore (run_of_exec_guarded hs)⟩

/-- A frame from a port that has been detached is sent back to it. -/
def inPortDetached : List (Action Bool Unit Unit) :=
  [.refill 0, .receive () 0 (some 1), .setPkt (.stack ()) (some ()) 0,
    .output () sends (.stack ()) .inPort]

/-- The packet of a port that has been detached is given up with its mbuf. -/
theorem not_owned_inPortDetached : ¬ ∀ (cfg : Config Unit) (acts : List (Action Bool Unit Unit))
    (s : Driver Bool Unit Unit), Run (step cfg) anyStep (init cfg) acts s → Owned cfg s := by
  intro hall
  have howned := hall oneCore inPortDetached _ (run_of_exec rfl)
  -- the mbuf `0` is in no queue, and carried by no packet
  obtain ⟨(_ | _ | _ | _) | (_ | _ | _ | _), hplace⟩ := (howned.mbufs.mem_iff 0).mp (by decide)
  · exact absurd hplace (by decide)
  all_goals exact absurd hplace List.not_mem_nil

end Xdpd.Dpdk.Mbufs
