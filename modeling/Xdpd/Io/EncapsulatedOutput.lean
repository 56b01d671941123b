import Xdpd.Classifier.ParserType
import Xdpd.Io.TunnelDefaults

/-!
# Setting a field, encapsulating, and output

A setter of the network or the transport layer marks the checksums that it makes stale, and they are
calculated when the packet leaves.  `decapsulate_output_eq_iff` compares the frame that leaves
without an encapsulation with the frame that leaves with one, after the header has been taken out.
They are the same if no checksum is stale when the header is put on, since what it hides is not
calculated any more, and if the link layer is still there.
-/

namespace Xdpd.Io

open Xdpd.Lib Xdpd.Classifier

/-- The pushes that put a header around the packet. -/
inductive Encapsulation
  | mpls | pbb | pppoe | gtp | gre
  deriving DecidableEq, Repr

namespace Encapsulation

open Datapacketx86

variable {S : Type*}

/-- The push, with the ethertype in network order. -/
def apply (ether_type : BitVec 16) : Encapsulation → Datapacketx86 S → Option (Datapacketx86 S)
  | .mpls => platformPacketPushMpls ether_type
  | .pbb => fun p => some (platformPacketPushPbb ether_type p)
  | .pppoe => platformPacketPushPppoe ether_type
  | .gtp => platformPacketPushGtp ether_type
  | .gre => platformPacketPushGre ether_type

/-- The call of the push. -/
def op (ether_type : BitVec 16) : Encapsulation → HeaderOp
  | .mpls => .pushMpls ether_type
  | .pbb => .pushPbb ether_type
  | .pppoe => .pushPppoe ether_type
  | .gtp => .pushGtp ether_type
  | .gre => .pushGre ether_type

/-- Where the header is put: before the whole frame, or behind the link layer. -/
def link (t : PktType) : Encapsulation → ℕ
  | .pbb | .gre => 0
  | .mpls | .pppoe | .gtp => t.l2.len

/-- The bytes of the header. -/
def hdrLen (ether_type : BitVec 16) : Encapsulation → ℕ
  | .mpls => 4
  | .pbb => 18
  | .pppoe => if htonb16 ether_type = ETH_TYPE_PPPOE_SESSION then 8 else 6
  | .gtp => if htonb16 ether_type = ETH_TYPE_IPV4 then 36 else 56
  | .gre => if htonb16 ether_type = ETH_TYPE_IPV4 then 46 else 66

/-- The frame of `q` without the header that has been pushed onto `p`.  The bytes that have been
inserted are left out, and the ethertype before them is the one before the push. -/
def decapsulate (kind : Encapsulation) (p q : Datapacketx86 S) : List Byte :=
  (List.range p.len).map fun i =>
    if kind.link p.type ≤ i then q.getBuffer (i + (q.len - p.len))
    else if etherTypeOffset p.getBuffer ≤ i ∧ i < etherTypeOffset p.getBuffer + 2 then p.getBuffer i
    else q.getBuffer i

/-- A push behind the link layer moves the first 14 bytes only.  What is left of the link layer
(tags, or an LLC header) is as it was if the bytes that take its place are the same. -/
def KeepsLink (kind : Encapsulation) (ether_type : BitVec 16) (pos : ℕ) (p : Datapacketx86 S) :
    Prop :=
  ∀ i, 14 ≤ i → i < kind.link p.type → i < p.len → p.OffEtherType i →
    p.userSpaceBuffer (pos + i - kind.hdrLen ether_type) = p.userSpaceBuffer (pos + i)

end Encapsulation

/-- The setters of the network layer and of the layers above it. -/
def HeaderAction.isIpField : HeaderAction → Bool
  | .decNwTtl | .setNwTtl _ | .setIpDscp _ | .setIpEcn _ | .setIpProto _ | .setIpv4Src _
  | .setIpv4Dst _ | .setIpv6Src _ | .setIpv6Dst _ | .setIpv6Flabel _ | .setIpv6NdTarget _
  | .setIpv6NdSll _ | .setIpv6NdTll _ | .setIcmpv6Type _ | .setIcmpv6Code _ | .setTcpSrc _
  | .setTcpDst _ | .setUdpSrc _ | .setUdpDst _ | .setSctpSrc _ | .setSctpDst _ | .setIcmpv4Type _
  | .setIcmpv4Code _ => true
  | _ => false

namespace Datapacketx86

variable {S : Type*}

/-! ## The link layer of classified packets -/

section Classified

variable {data : ℕ → Byte} {llc llc' : Bool} {tags : Fin 3}

end Classified

/-! ## Setters leave the link layer as it is -/

section Setters

variable {p : Datapacketx86 S} {pos : ℕ} {get : PktType → Option ℕ}
  {set set4 set6 : ℕ → (ℕ → Byte) → ℕ → Byte} {marks : List CalculateChecksum}

/-- A packet in user space, with the link layer that its type says. -/
structure Linked (p : Datapacketx86 S) (pos : ℕ) : Prop where
  placed : p.PlacedAt pos
  agrees : p.LinkAgrees

lemma Linked.setRecalculateChecksum (h : p.Linked pos) (type : CalculateChecksum) :
    (p.setRecalculateChecksum type).Linked pos :=
  ⟨⟨h.placed.status, h.placed.iovLen, h.placed.fits⟩, h.agrees⟩

lemma Linked.mapBuffer {write : (ℕ → Byte) → ℕ → Byte} (h : p.Linked pos)
    (hwrite : ∀ i < 14, write p.getBuffer i = p.getBuffer i) : (p.mapBuffer write).Linked pos where
  placed := by
    have hstatus := h.placed.status
    constructor
    · rw [Datapacketx86.mapBuffer, hstatus]
    · rw [Datapacketx86.mapBuffer, hstatus]
      exact h.placed.iovLen
    · rw [len_mapBuffer]
      exact h.placed.fits
  agrees := by
    intro llc tags hl2
    rw [type_mapBuffer] at hl2
    rw [← h.agrees llc tags hl2, getBuffer_mapBuffer, isLlcFrame, isLlcFrame, be16, be16,
      hwrite _ (by decide), hwrite _ (by decide)]

lemma Linked.setHdr (h : p.Linked pos)
    (hset : ∀ hdr, get p.type = some hdr → ∀ i < 14, set hdr p.getBuffer i = p.getBuffer i) :
    (setHdr get set marks p).Linked pos := by
  rw [Datapacketx86.setHdr]
  cases hget : get p.type with
  | none => exact h
  | some hdr =>
      have hmarks (marks : List CalculateChecksum) (q : Datapacketx86 S) (hq : q.Linked pos) :
          (marks.foldl (fun q type => q.setRecalculateChecksum type) q).Linked pos := by
        induction marks generalizing q with
        | nil => exact hq
        | cons mark marks ih => exact ih _ (hq.setRecalculateChecksum mark)
      exact hmarks marks _ (h.mapBuffer (hset hdr hget))

/-- A header above the link layer is written. -/
lemma Linked.setAbove (h : p.Linked pos)
    (hget : ∀ hdr, get p.type = some hdr → ∃ proto hdr', proto.isL2 = false ∧
      protocolOffset p.type proto = some hdr' ∧ hdr' ≤ hdr)
    (hset : ∀ hdr, ∀ i < hdr, set hdr p.getBuffer i = p.getBuffer i) :
    (Datapacketx86.setHdr get set marks p).Linked pos := by
  refine h.setHdr fun hdr hhdr i hi => hset hdr i ?_
  obtain ⟨proto, hdr', hproto, hhdr', hle⟩ := hget hdr hhdr
  have hstart := le_of_protocolOffset hproto hhdr'
  omega

lemma Linked.setProto {proto : Proto} (h : p.Linked pos) (hproto : proto.isL2 = false)
    (hset : ∀ hdr, ∀ i < hdr, set hdr p.getBuffer i = p.getBuffer i) :
    (Datapacketx86.setHdr (protocolOffset · proto) set marks p).Linked pos :=
  h.setAbove (fun hdr hhdr => ⟨proto, hdr, hproto, hhdr, Nat.le_refl hdr⟩) hset

lemma Linked.setIp (h : p.Linked pos) (hset4 : ∀ hdr mem, ∀ i < hdr, set4 hdr mem i = mem i)
    (hset6 : ∀ hdr mem, ∀ i < hdr, set6 hdr mem i = mem i) : (setIpHdr set4 set6 p).Linked pos := by
  have hipv4 : (Datapacketx86.setHdr getIpv4Hdr set4 [.ipv4] p).Linked pos :=
    h.setProto rfl fun hdr => hset4 hdr _
  exact hipv4.setProto rfl fun hdr => hset6 hdr _

/-- **A setter of the network layer, or above it, leaves the link layer as it is.** -/
lemma Linked.apply {a : HeaderAction} (ha : a.isIpField = true) (h : p.Linked pos) :
    (a.apply p).Linked pos := by
  cases a with
  | decNwTtl | setNwTtl | setIpProto =>
      exact h.setIp (fun hdr mem i hi => setWord_of_not_mem _ _ (by omega))
        fun hdr mem i hi => setWord_of_not_mem _ _ (by omega)
  | setIpEcn =>
      exact h.setIp (fun hdr mem i hi => setBits_of_not_mem _ _ _ (by omega))
        fun hdr mem i hi => setBits_of_not_mem _ _ _ (by omega)
  | setIpDscp =>
      refine h.setIp (fun hdr mem i hi => setBits_of_not_mem _ _ _ (by omega))
        fun hdr mem i hi => ?_
      rw [setIpv6Dscp, setWord_of_not_mem _ _ (by omega), setWord_of_not_mem _ _ (by omega)]
  | setIpv6Flabel => exact h.setProto rfl fun hdr i hi => setBits_of_not_mem _ _ _ (by omega)
  | setIpv6NdTarget =>
      refine h.setProto rfl fun hdr i hi => ?_
      rw [setIcmpv6NeighborTaddr]
      split_ifs
      · exact setWord_of_not_mem _ _ (by omega)
      · rfl
  | setIpv6NdSll =>
      refine h.setAbove (fun hdr hhdr => ?_) fun hdr i hi => setBits_of_not_mem _ _ _ (by omega)
      obtain ⟨hdr', hhdr', hle⟩ := getIcmpv6Hdr_of_source hhdr
      exact ⟨.icmpv6, hdr', rfl, hhdr', hle⟩
  | setIpv6NdTll =>
      refine h.setAbove (fun hdr hhdr => ?_) fun hdr i hi => setBits_of_not_mem _ _ _ (by omega)
      obtain ⟨hdr', hhdr', hle⟩ := getIcmpv6Hdr_of_target hhdr
      exact ⟨.icmpv6, hdr', rfl, hhdr', hle⟩
  | setIpv4Src | setIpv4Dst | setIpv6Src | setIpv6Dst | setIcmpv6Type | setIcmpv6Code | setTcpSrc
  | setTcpDst | setUdpSrc | setUdpDst | setSctpSrc | setSctpDst | setIcmpv4Type | setIcmpv4Code =>
      exact h.setProto rfl fun hdr i hi => setWord_of_not_mem _ _ (by omega)
  | _ => cases ha

end Setters

/-! ## Output -/

section Output

variable {p q : Datapacketx86 S} {pos : ℕ} {ether_type : BitVec 16}

/-- Marks that are set one after the other. -/
def setMarks (marks : List CalculateChecksum) (p : Datapacketx86 S) : Datapacketx86 S :=
  marks.foldr (fun type p => p.setRecalculateChecksum type) p

lemma Encapsulates.setMarks {link n : ℕ} (h : Encapsulates p q pos link n)
    (marks : List CalculateChecksum) : Encapsulates p (q.setMarks marks) pos link n := by
  induction marks with
  | nil => exact h
  | cons mark marks ih => exact ih.setRecalculateChecksum mark

lemma Rewritten.setMarks {marks : List CalculateChecksum} (h : Rewritten p q marks)
    (marks' : List CalculateChecksum) : Rewritten p (q.setMarks marks') (marks' ++ marks) := by
  induction marks' with
  | nil => exact h
  | cons mark marks' ih => exact ih.setRecalculateChecksum mark

/-- The frames that leave, byte by byte. -/
lemma decapsulate_output_iff {kind : Encapsulation} :
    kind.decapsulate p q.calculateChecksumsInSoftware = p.calculateChecksumsInSoftware.frame ↔
      ∀ i < p.len, (if kind.link p.type ≤ i then
          q.calculateChecksumsInSoftware.getBuffer (i + (q.len - p.len))
        else if etherTypeOffset p.getBuffer ≤ i ∧ i < etherTypeOffset p.getBuffer + 2 then
          p.getBuffer i
        else q.calculateChecksumsInSoftware.getBuffer i) =
          p.calculateChecksumsInSoftware.getBuffer i := by
  have hlen (p : Datapacketx86 S) : p.calculateChecksumsInSoftware.len = p.len :=
    len_mapBuffer _ _
  rw [Encapsulation.decapsulate, frame, hlen p, hlen q, List.map_inj_left]
  simp only [List.mem_range]

lemma link_le (kind : Encapsulation) (t : PktType) : kind.link t ≤ t.l2.len := by
  cases kind with
  | pbb | gre => exact Nat.zero_le _
  | mpls | pppoe | gtp => exact Nat.le_refl _

/-- **What is in the header leaves as it was there**, and what is before it if the link layer has
been kept. -/
lemma Encapsulates.decapsulate_output_iff {kind : Encapsulation} (h : p.PlacedAt pos)
    (hencapsulates : Encapsulates p q pos (kind.link p.type) (kind.hdrLen ether_type)) :
    kind.decapsulate p q.calculateChecksumsInSoftware = p.calculateChecksumsInSoftware.frame ↔
      kind.KeepsLink ether_type pos p ∧ p.NothingStale := by
  have hle := link_le kind p.type
  have hslot (i : ℕ) : p.userSpaceBuffer (pos + i) = p.getBuffer i := by rw [h.getBuffer]
  rw [Datapacketx86.decapsulate_output_iff, hencapsulates.len, Nat.add_sub_cancel_left,
    ← Datapacketx86.output_eq_iff]
  constructor
  · intro hsame
    refine ⟨fun i hi hlink hlen hoff => ?_, fun i hlen => ?_⟩
    · have hbyte := hsame i hlen
      rw [OffEtherType] at hoff
      rw [if_neg (by omega), if_neg (by omega), hencapsulates.output_of_lt hlink,
        hencapsulates.gap i hi hlink hoff, output_of_lt_l2 (by omega)] at hbyte
      rw [hbyte, hslot]
    · by_cases hlink : kind.link p.type ≤ i
      · have hbyte := hsame i hlen
        rw [if_pos hlink, hencapsulates.output_behind hlink] at hbyte
        exact hbyte.symm
      · exact output_of_lt_l2 (by omega)
  · rintro ⟨hkeeps, hfresh⟩ i hlen
    rw [hfresh i hlen]
    split_ifs with hlink hether
    · exact hencapsulates.output_behind hlink
    · rfl
    · have hlt : i < kind.link p.type := Nat.lt_of_not_le hlink
      have hoff : p.OffEtherType i := by
        rw [OffEtherType]
        omega
      rw [hencapsulates.output_of_lt hlt]
      by_cases hi : i < 14
      · exact hencapsulates.before i hi hlt hoff
      · rw [hencapsulates.gap i (by omega) hlt hoff,
          hkeeps i (by omega) hlt hlen hoff, hslot]

/-- A packet that is rewritten leaves as before, but for what has been written and marked. -/
lemma Rewritten.decapsulate_output_iff {kind : Encapsulation} {marks : List CalculateChecksum}
    (h : Rewritten p q marks) :
    kind.decapsulate p q.calculateChecksumsInSoftware = p.calculateChecksumsInSoftware.frame ↔
      (∀ i < p.len, q.getBuffer i = p.getBuffer i) ∧ p.FreshWith marks := by
  have hle := link_le kind p.type
  rw [Datapacketx86.decapsulate_output_iff, h.len, Nat.sub_self, ← h.output_eq_iff]
  refine forall₂_congr fun i _ => ?_
  split_ifs with hlink hether
  · rfl
  · rw [output_of_lt_l2 (by omega), output_of_lt_l2 (h.type ▸ by omega), h.link i (by omega)]
  · rfl

/-- An IPv4 header without payload, with its checksum. -/
def datagramFrame (i : ℕ) : Byte :=
  if i = 12 then 0x08 else if i = 14 then 0x45 else if i = 17 then 20 else if i = 22 then 0x40
  else if i = 23 then 0xfd else if i = 24 then 0x79 else if i = 25 then 0xee else 0

/-- The datagram as it is received. -/
def datagram : Datapacketx86 Unit :=
  (unused.init (some datagramFrame) 34 none 1 true true).2

end Output

end Datapacketx86

end Xdpd.Io
