import Xdpd.Classifier.StoredChecksums
import Xdpd.Io.Decapsulation
import Xdpd.Io.Encapsulation
import Xdpd.Io.HeaderAtomicity

/-!
# Pushed tunnels

`push_gtp` and `push_gre` look headers up in the type of the packet, and use them.  A call that uses
a header that the type does not have is `none`: `checksHeaders_iff` tells that `push_gtp` has one
such call, which takes the identification of an IPv4 header from a packet with an IPv6 header.

The functions write the lengths of an IP header, and `push_gtp` those of UDP and GTP.  Each is to
count the bytes up to the end of the frame.  `push_gre` takes what it puts the tunnel around to be
as long as the frame.  `push_gtp` takes it to be as long as the IP header of the packet says, and
the sum of the lengths is cut to 16 bits.  `lengthsFollow_iff` tells when it makes no difference.
-/

namespace Xdpd.Io.Datapacketx86

open Xdpd.Lib Xdpd.Classifier

variable {S : Type*}

/-- The calls that put a tunnel around the packet. -/
def HeaderOp.PushesTunnel (ether_type : BitVec 16) (op : HeaderOp) : Prop :=
  op = .pushGtp ether_type ∨ op = .pushGre ether_type

/-! ## Headers -/

/-- No header is used that the type does not have, and a packet without transition is left as it
is. -/
def HeaderOp.ChecksHeaders (p : Datapacketx86 S) (op : HeaderOp) : Prop :=
  op.run p ≠ none ∧ ((∀ a ∈ op.attempt p, a.transition = none) → op.run p = some p)

/-- The identification of an IPv4 header is asked for in a packet with an IPv6 header. -/
def HeaderOp.AsksIpv6ForIdent (p : Datapacketx86 S) : HeaderOp → Prop
  | pushGtp ether_type => htonb16 ether_type = ETH_TYPE_IPV4 ∧
      p.currentEtherType = ETH_TYPE_IPV6 ∧ getIpv6Hdr p.type ≠ none
  | _ => False

section Headers

variable {p : Datapacketx86 S} {ether_type : BitVec 16}

/-- A type has one IP header. -/
lemma getIpv4Hdr_of_getIpv6Hdr {t : PktType} (h : getIpv6Hdr t ≠ none) : getIpv4Hdr t = none := by
  obtain ⟨hdr, hhdr⟩ := Option.ne_none_iff_exists'.mp h
  obtain ⟨l2, upper⟩ := t
  cases upper with
  | ipv4 options payload =>
      rw [getIpv6Hdr_ipv4] at hhdr
      cases hhdr
  | ipv6 payload => exact getIpv4Hdr_ipv6
  | _ => cases isIp_of_protocolOffset rfl hhdr

/-- A call that looks a transition up uses no header that is not there, if it does not once it has
found the transition. -/
lemma checksHeaders_of_attempt {op : HeaderOp} {transition : Option PktType} {moved : RoflResult}
    (hattempt : op.attempt p = some ⟨transition, moved⟩)
    (hnone : transition = none → op.run p = some p)
    (hsome : ∀ new, transition = some new → op.run p ≠ none) : op.ChecksHeaders p := by
  have hrun : (∀ a ∈ op.attempt p, a.transition = none) → op.run p = some p := by
    intro h
    rw [hattempt] at h
    exact hnone (h _ rfl)
  refine ⟨?_, hrun⟩
  cases htransition : transition with
  | none =>
      rw [hnone htransition]
      exact nofun
  | some new => exact hsome new htransition

/-- The headers of UDP and GTP are there. -/
lemma setGtpDefaults_ne_none {t : PktType} {payloadlen udp gtp : ℕ} (hudp : getUdpHdr t = some udp)
    (hgtp : getGtpuHdr t = some gtp) (htype : p.type = t) : setGtpDefaults payloadlen p ≠ none := by
  rw [setGtpDefaults, htype, hudp, hgtp]
  simp

/-- The header of GRE is there. -/
lemma setGreDefaults_ne_none {t : PktType} {gre : ℕ} (hgre : getGreHdr t = some gre)
    (htype : p.type = t) : setGreDefaults p ≠ none := by
  rw [setGreDefaults, htype, hgre]
  simp

lemma checksHeaders_pushGtp_ipv4 (hip : HeaderOp.FindsIp p)
    (hipv4 : htonb16 ether_type = ETH_TYPE_IPV4) :
    (HeaderOp.pushGtp ether_type).ChecksHeaders p ↔ getIpv4Hdr p.type ≠ none := by
  obtain ⟨ip_ttl, DF_flag, hrun⟩ := run_pushGtp ether_type hip
  cases hhdr : getIpv4Hdr p.type with
  | none =>
      -- the identification is read from a header that is not there
      refine iff_of_false (fun hchecks => hchecks.1 ?_) (not_not_intro rfl)
      rw [hrun, pushGtpTunnel, if_pos hipv4, hhdr]
      rfl
  | some hdr =>
      refine iff_of_true (checksHeaders_of_attempt
        ((if_neg (not_not_intro hip)).trans (if_pos hipv4)) (fun hnone => ?_) fun new hnew => ?_)
        (by simp)
      · simp only [hrun, pushGtpTunnel, if_pos hipv4, hhdr, hnone, Option.bind_some]
      · obtain ⟨llc, -, rfl⟩ := pushTransitions_gtpu4 hnew
        rw [hrun, pushGtpTunnel, if_pos hipv4, hhdr, Option.bind_some]
        simp only [hnew]
        split
        · simp
        · rw [getIpv4Hdr_ipv4, Option.bind_some]
          exact setGtpDefaults_ne_none getUdpHdr_ipv4 getGtpuHdr_ipv4 (type_mapBuffer _ _)

lemma checksHeaders_pushGtp_ipv6 (hip : HeaderOp.FindsIp p)
    (hipv4 : htonb16 ether_type ≠ ETH_TYPE_IPV4) (hipv6 : htonb16 ether_type = ETH_TYPE_IPV6) :
    (HeaderOp.pushGtp ether_type).ChecksHeaders p := by
  obtain ⟨ip_ttl, DF_flag, hrun⟩ := run_pushGtp ether_type hip
  refine checksHeaders_of_attempt
    (((if_neg (not_not_intro hip)).trans (if_neg hipv4)).trans (if_pos hipv6)) (fun hnone => ?_)
    fun new hnew => ?_
  · simp only [hrun, pushGtpTunnel, if_neg hipv4, if_pos hipv6, hnone]
  · obtain ⟨llc, -, rfl⟩ := pushTransitions_gtpu6 hnew
    rw [hrun, pushGtpTunnel, if_neg hipv4, if_pos hipv6]
    simp only [hnew]
    split
    · simp
    · rw [getIpv6Hdr_ipv6, Option.bind_some]
      exact setGtpDefaults_ne_none getUdpHdr_ipv6 getGtpuHdr_ipv6 (type_mapBuffer _ _)

lemma checksHeaders_pushGre
    (het : htonb16 ether_type = ETH_TYPE_IPV4 ∨ htonb16 ether_type = ETH_TYPE_IPV6) :
    (HeaderOp.pushGre ether_type).ChecksHeaders p := by
  by_cases hipv4 : htonb16 ether_type = ETH_TYPE_IPV4
  · refine checksHeaders_of_attempt (if_pos hipv4) (fun hnone => ?_) fun new hnew => ?_
    · simp only [HeaderOp.run, platformPacketPushGre, if_pos hipv4, hnone]
    · obtain rfl := pushTransitions_gre4 hnew
      rw [HeaderOp.run, platformPacketPushGre, if_pos hipv4]
      simp only [hnew]
      split
      · simp
      · rw [getIpv4Hdr_ipv4, Option.bind_some]
        exact setGreDefaults_ne_none getGreHdr_ipv4 (type_mapBuffer _ _)
  · have hipv6 := het.resolve_left hipv4
    refine checksHeaders_of_attempt ((if_neg hipv4).trans (if_pos hipv6)) (fun hnone => ?_)
      fun new hnew => ?_
    · simp only [HeaderOp.run, platformPacketPushGre, if_neg hipv4, if_pos hipv6, hnone]
    · obtain rfl := pushTransitions_gre6 hnew
      rw [HeaderOp.run, platformPacketPushGre, if_neg hipv4, if_pos hipv6]
      simp only [hnew]
      split
      · simp
      · rw [getIpv6Hdr_ipv6, Option.bind_some]
        exact setGreDefaults_ne_none getGreHdr_ipv6 (type_mapBuffer _ _)

/-- The header that `push_gtp` finds is the IPv4 header, or that of a packet with IPv6. -/
lemma getIpv4Hdr_ne_none_iff (hip : HeaderOp.FindsIp p) : getIpv4Hdr p.type ≠ none ↔
    ¬ (p.currentEtherType = ETH_TYPE_IPV6 ∧ getIpv6Hdr p.type ≠ none) := by
  constructor
  · rintro hipv4 ⟨-, hipv6⟩
    exact hipv4 (getIpv4Hdr_of_getIpv6Hdr hipv6)
  · intro hipv6
    rw [HeaderOp.FindsIp] at hip
    split_ifs at hip
    · exact hip
    · exact absurd hip hipv6

lemma checksHeaders_pushGtp_iff
    (het : htonb16 ether_type = ETH_TYPE_IPV4 ∨ htonb16 ether_type = ETH_TYPE_IPV6) :
    (HeaderOp.pushGtp ether_type).ChecksHeaders p ↔
      ¬ (HeaderOp.pushGtp ether_type).AsksIpv6ForIdent p := by
  rw [HeaderOp.AsksIpv6ForIdent]
  by_cases hip : HeaderOp.FindsIp p
  · by_cases hipv4 : htonb16 ether_type = ETH_TYPE_IPV4
    · rw [checksHeaders_pushGtp_ipv4 hip hipv4, getIpv4Hdr_ne_none_iff hip]
      exact not_congr (and_iff_right hipv4).symm
    · exact iff_of_true (checksHeaders_pushGtp_ipv6 hip hipv4 (het.resolve_left hipv4))
        fun hasks => hipv4 hasks.1
  · have hrun := run_pushGtp_of_not_findsIp ether_type hip
    refine iff_of_true ⟨?_, fun _ => hrun⟩ ?_
    · rw [hrun]
      exact nofun
    · rintro ⟨-, htype, hhdr⟩
      have hipv4 : p.currentEtherType ≠ ETH_TYPE_IPV4 := by
        rw [htype]
        exact ETH_TYPE_IPV6_ne
      exact hip ((if_neg hipv4).mpr ⟨htype, hhdr⟩)

/-- **No header is used before it is checked** by the calls that push a tunnel over IPv4 or IPv6, if
and only if none asks for the identification of a packet with an IPv6 header. -/
theorem checksHeaders_iff {op : HeaderOp} (hop : op.PushesTunnel ether_type)
    (het : htonb16 ether_type = ETH_TYPE_IPV4 ∨ htonb16 ether_type = ETH_TYPE_IPV6) :
    op.ChecksHeaders p ↔ ¬ op.AsksIpv6ForIdent p := by
  rcases hop with rfl | rfl
  · exact checksHeaders_pushGtp_iff het
  · exact iff_of_true (checksHeaders_pushGre het) id

end Headers

/-- An IPv4 header that says that it belongs to a packet of this length. -/
def ipv4Frame (total_length : Byte × Byte) : ℕ → Byte :=
  bytesAt [0, 0, 0, 0, 0, 1, 0, 0, 0, 0, 0, 2, 0x08, 0x00,
    0x45, 0, total_length.1, total_length.2, 0, 0, 0, 0, 64, 253, 0, 0, 10, 0, 0, 1, 10, 0, 0, 2]

/-- A frame of this length with the header, as it is received. -/
def ipv4Packet (total_length : Byte × Byte) (len : ℕ) : Datapacketx86 Unit :=
  (unused.init (some (ipv4Frame total_length)) len none 1 true true).2

section Ipv4Packet

variable (total_length : Byte × Byte) {len : ℕ}

lemma placed_ipv4Packet (h : len ≤ FRAME_SIZE_BYTES) : (ipv4Packet total_length len).Placed := by
  have hsize : PRE_GUARD_BYTES + FRAME_SIZE_BYTES ≤ bufferSize := by decide
  rw [ipv4Packet, init, if_neg (Nat.not_lt.mpr h)]
  exact ⟨rfl, rfl, by show PRE_GUARD_BYTES + len ≤ bufferSize; omega⟩

lemma classifiedFrame_ipv4Packet (h : len ≤ FRAME_SIZE_BYTES) :
    (ipv4Packet total_length len).ClassifiedFrame := by
  rw [ipv4Packet, init, if_neg (Nat.not_lt.mpr h)]
  exact ⟨_, fun _ _ => rfl, rfl⟩

end Ipv4Packet

/-- The identification of an IPv4 packet is there. -/
theorem checksHeaders_ipv4Packet :
    (HeaderOp.pushGtp 0x0008).ChecksHeaders (ipv4Packet (0, 20) 34) := by
  refine (checksHeaders_iff (Or.inl rfl) (Or.inl (by decide))).mpr ?_
  rintro ⟨-, htype, -⟩
  exact absurd htype (by decide)

/-- An IPv6 packet without payload. -/
def ipv6Packet : Datapacketx86 Unit :=
  (unused.init (some (bytesAt [0, 0, 0, 0, 0, 1, 0, 0, 0, 0, 0, 2, 0x86, 0xdd,
    0x60, 0, 0, 0, 0, 0, 59, 64])) 54 none 1 true true).2

/-- The push of GTP over IPv4 dereferences the IPv4 header of an IPv6 packet. -/
theorem not_checksHeaders_ipv6Packet : ¬ ∀ p : Datapacketx86 Unit, p.Placed → p.ClassifiedFrame →
    ∀ (ether_type : BitVec 16) (op : HeaderOp), op.PushesTunnel ether_type →
      htonb16 ether_type = ETH_TYPE_IPV4 ∨ htonb16 ether_type = ETH_TYPE_IPV6 →
        op.ChecksHeaders p := by
  intro h
  have hchecks := h ipv6Packet ⟨rfl, rfl, by decide⟩ ⟨ipv6Packet.getBuffer, fun _ _ => rfl, rfl⟩
    0x0008 _ (Or.inl rfl) (Or.inl (by decide))
  exact hchecks.1 (by decide +kernel)

/-! ## Fields with lengths -/

/-- The fields of a tunnel that hold a length. -/
inductive LengthField
  | ipv4 | ipv6 | udp | gtpu

namespace LengthField

/-- The header with the field. -/
def hdr : LengthField → PktType → Option ℕ
  | ipv4 => getIpv4Hdr
  | ipv6 => getIpv6Hdr
  | udp => getUdpHdr
  | gtpu => getGtpuHdr

/-- Where the field is in the header. -/
def offset : LengthField → ℕ
  | ipv4 => 2
  | ipv6 => 4
  | udp => 4
  | gtpu => 2

/-- The bytes of the header that the length does not count. -/
def uncounted : LengthField → ℕ
  | ipv4 => 0
  | ipv6 => 40
  | udp => 0
  | gtpu => 8

end LengthField

/-- Each length is the number of bytes that follow, up to the end of the frame. -/
def LengthsFollow (p : Datapacketx86 S) : Prop :=
  ∀ (field : LengthField) (hdr : ℕ), field.hdr p.type = some hdr →
    hdr + field.uncounted + (be16 p.getBuffer (hdr + field.offset)).toNat = p.len

/-- The length of the outer IP header before it is cut to 16 bits.  The other lengths are not
greater. -/
def HeaderOp.outerLength (p : Datapacketx86 S) : HeaderOp → ℕ
  | pushGtp ether_type =>
      if htonb16 ether_type = ETH_TYPE_IPV4 then 20 + 8 + 8 + p.payloadlen
      else 8 + 8 + p.payloadlen
  | pushGre ether_type =>
      if htonb16 ether_type = ETH_TYPE_IPV4 then 20 + 4 + 2 * 4 + p.len
      else 4 + 2 * 4 + p.len
  | _ => 0

/-- The frame ends with the IP packet that the tunnel is put around. -/
def HeaderOp.FillsFrame (p : Datapacketx86 S) : HeaderOp → Prop
  | pushGtp _ => p.type.l2.len + p.payloadlen = p.len
  | _ => True

/-! ## Lengths that are counted -/

/-- Each length counts the bytes from its header up to `start`, at most `most` of them, and then `n`
bytes more. -/
def Counts (p : Datapacketx86 S) (start most n : ℕ) : Prop :=
  ∀ (field : LengthField) (hdr : ℕ), field.hdr p.type = some hdr → ∃ c ≤ most,
    hdr + field.uncounted + c = start ∧
      be16 p.getBuffer (hdr + field.offset) = BitVec.ofNat 16 (c + n)

/-- Lengths that fit in 16 bits follow if and only if the frame ends where they count to. -/
lemma Counts.follow_iff {p : Datapacketx86 S} {start most n : ℕ} {field : LengthField}
    {hdr : ℕ} (h : p.Counts start most n) (hhdr : field.hdr p.type = some hdr)
    (hfits : most + n < 2 ^ 16) : p.LengthsFollow ↔ start + n = p.len := by
  have hfield (field : LengthField) (hdr : ℕ) (hhdr : field.hdr p.type = some hdr) :
      hdr + field.uncounted + (be16 p.getBuffer (hdr + field.offset)).toNat = start + n := by
    obtain ⟨c, hc, hstart, hstored⟩ := h field hdr hhdr
    rw [hstored, BitVec.toNat_ofNat, Nat.mod_eq_of_lt (by omega)]
    omega
  constructor
  · intro hfollow
    exact (hfield field hdr hhdr).symm.trans (hfollow field hdr hhdr)
  · intro hend field hdr hhdr
    exact (hfield field hdr hhdr).trans hend

/-! ## Writes -/

section Writes

variable {hdr : ℕ}

/-- `htobe16` is read back. -/
lemma htonb16_htobe16 (n : ℕ) : htonb16 (htobe16 n) = BitVec.ofNat 16 n :=
  htonb16_htonb16 _

lemma be16_setTunnelIpv4 (length : ℕ) (proto : Byte) (ident : BitVec 16) (ip_ttl : Byte)
    (DF_flag : Bool) (mem : ℕ → Byte) :
    be16 (writeAll (setTunnelIpv4 hdr length proto ident ip_ttl DF_flag) mem) (hdr + 2) =
      BitVec.ofNat 16 length := by
  have hDF : Spares (hdr + 2) (hdr + 4) (if DF_flag then setIpv4DFBit hdr else id) := by
    intro mem i _ hi
    split_ifs
    · exact setWord_of_not_mem _ _ (by omega)
    · rfl
  rw [← htonb16_htobe16]
  -- what is written after the length spares it
  refine be16_writeAll [setIpv4Version hdr 0x40, setIpv4Ihl hdr 5, setIpv4Dscp hdr 0,
    setIpv4Ecn hdr 0] ?_ mem
  simp only [List.forall_mem_cons, List.not_mem_nil, false_imp_iff, forall_const, and_true]
  exact ⟨spares_setWord _ (by omega), spares_setWord _ (by omega), spares_setWord _ (by omega),
    spares_setWord _ (by omega), spares_setWord _ (by omega), hDF⟩

lemma be16_setTunnelIpv6 (payload_length : ℕ) (proto ip_ttl : Byte) (mem : ℕ → Byte) :
    be16 (writeAll (setTunnelIpv6 hdr payload_length proto ip_ttl) mem) (hdr + 4) =
      BitVec.ofNat 16 payload_length := by
  rw [← htonb16_htobe16]
  refine be16_writeAll [setIpv6Version hdr 0x60, setIpv6Dscp hdr 0, setIpv6Ecn hdr 0,
    setIpv6Dst hdr 0, setIpv6Src hdr 0, setIpv6FlowLabel hdr 0, setIpv6HopLimit hdr ip_ttl] ?_ mem
  simp only [List.forall_mem_cons, List.not_mem_nil, false_imp_iff, forall_const, and_true]
  exact ⟨spares_setBits _ _ (by omega), spares_setWord _ (by omega)⟩

variable {p q : Datapacketx86 S}

/-- The lengths of UDP and GTP. -/
lemma be16_setGtpDefaults {t : PktType} {payloadlen udp gtp : ℕ} (hudp : getUdpHdr t = some udp)
    (hgtp : getGtpuHdr t = some gtp) (hle : udp + 8 ≤ gtp)
    (hq : setGtpDefaults payloadlen p = some q) (htype : p.type = t) :
    be16 q.getBuffer (udp + 4) = BitVec.ofNat 16 (8 + 8 + payloadlen) ∧
      be16 q.getBuffer (gtp + 2) = BitVec.ofNat 16 payloadlen := by
  simp only [setGtpDefaults, htype, hudp, hgtp, Option.bind_some, Option.some_inj] at hq
  rw [← hq, getBuffer_setRecalculateChecksum, getBuffer_mapBuffer, ← htonb16_htobe16,
    ← htonb16_htobe16]
  -- the GTP header is written behind the UDP header
  constructor
  · refine be16_writeAll [setUdpDport udp _, setUdpSport udp _] ?_ p.getBuffer
    simp only [List.forall_mem_cons, List.not_mem_nil, false_imp_iff, forall_const, and_true]
    refine ⟨?_, ?_, ?_, ?_, ?_, ?_, ?_, ?_⟩
    all_goals first
      | exact spares_setWord _ (by omega)
      | exact spares_setBits _ _ (by omega)
  · refine be16_writeAll [setUdpDport udp _, setUdpSport udp _, setUdpLength udp _,
      setGtpuVersion gtp _, setGtpuPtFlag gtp _, setGtpuEFlag gtp _, setGtpuSFlag gtp _,
      setGtpuPnFlag gtp _, setGtpuMsgType gtp _] ?_ p.getBuffer
    simp only [List.forall_mem_cons, List.not_mem_nil, false_imp_iff, forall_const, and_true]
    exact spares_setWord _ (by omega)

end Writes

/-! ## Tunnels -/

section Tunnels

variable {p q : Datapacketx86 S} {ether_type : BitVec 16} {payloadlen : ℕ}

/-- The lengths of a GTP tunnel over IPv4. -/
lemma counts_gtpu4 {l2 : L2} {n : ℕ} (htype : p.type = ⟨l2, .ipv4 0 .gtpu4⟩)
    (hip : be16 p.getBuffer (l2.len + 2) = BitVec.ofNat 16 (20 + 8 + 8 + n))
    (hudp : be16 p.getBuffer (l2.len + 20 + 4) = BitVec.ofNat 16 (8 + 8 + n))
    (hgtpu : be16 p.getBuffer (l2.len + 28 + 2) = BitVec.ofNat 16 n) :
    p.Counts (l2.len + 36) (20 + 8 + 8) n := by
  intro field hdr hhdr
  rw [htype] at hhdr
  cases field with
  | ipv4 =>
      obtain rfl : l2.len = hdr := by simpa [LengthField.hdr] using hhdr
      exact ⟨36, Nat.le_refl 36, rfl, hip⟩
  | ipv6 => simp [LengthField.hdr] at hhdr
  | udp =>
      obtain rfl : l2.len + 20 = hdr := by simpa [LengthField.hdr] using hhdr
      exact ⟨16, by decide, rfl, hudp⟩
  | gtpu =>
      obtain rfl : l2.len + 28 = hdr := by simpa [LengthField.hdr] using hhdr
      exact ⟨0, Nat.zero_le _, rfl, by rwa [Nat.zero_add]⟩

/-- The lengths of a GTP tunnel over IPv6. -/
lemma counts_gtpu6 {l2 : L2} {n : ℕ} (htype : p.type = ⟨l2, .ipv6 .gtpu6⟩)
    (hip : be16 p.getBuffer (l2.len + 4) = BitVec.ofNat 16 (8 + 8 + n))
    (hudp : be16 p.getBuffer (l2.len + 40 + 4) = BitVec.ofNat 16 (8 + 8 + n))
    (hgtpu : be16 p.getBuffer (l2.len + 48 + 2) = BitVec.ofNat 16 n) :
    p.Counts (l2.len + 56) (8 + 8) n := by
  intro field hdr hhdr
  rw [htype] at hhdr
  cases field with
  | ipv4 => simp [LengthField.hdr] at hhdr
  | ipv6 =>
      obtain rfl : l2.len = hdr := by simpa [LengthField.hdr] using hhdr
      exact ⟨16, Nat.le_refl 16, rfl, hip⟩
  | udp =>
      obtain rfl : l2.len + 40 = hdr := by simpa [LengthField.hdr] using hhdr
      exact ⟨16, by decide, rfl, hudp⟩
  | gtpu =>
      obtain rfl : l2.len + 48 = hdr := by simpa [LengthField.hdr] using hhdr
      exact ⟨0, Nat.zero_le _, rfl, by rwa [Nat.zero_add]⟩

/-- The length of a GRE tunnel over IPv4. -/
lemma counts_gre4 {l2 : L2} {n : ℕ} (htype : p.type = ⟨l2, .ipv4 0 .gre4⟩)
    (hip : be16 p.getBuffer (l2.len + 2) = BitVec.ofNat 16 (20 + 4 + 2 * 4 + n)) :
    p.Counts (l2.len + 32) (20 + 4 + 2 * 4) n := by
  intro field hdr hhdr
  rw [htype] at hhdr
  cases field with
  | ipv4 =>
      obtain rfl : l2.len = hdr := by simpa [LengthField.hdr] using hhdr
      exact ⟨32, Nat.le_refl 32, rfl, hip⟩
  | _ => simp [LengthField.hdr] at hhdr

/-- The length of a GRE tunnel over IPv6. -/
lemma counts_gre6 {l2 : L2} {n : ℕ} (htype : p.type = ⟨l2, .ipv6 .gre6⟩)
    (hip : be16 p.getBuffer (l2.len + 4) = BitVec.ofNat 16 (4 + 2 * 4 + n)) :
    p.Counts (l2.len + 52) (4 + 2 * 4) n := by
  intro field hdr hhdr
  rw [htype] at hhdr
  cases field with
  | ipv6 =>
      obtain rfl : l2.len = hdr := by simpa [LengthField.hdr] using hhdr
      exact ⟨12, Nat.le_refl 12, rfl, hip⟩
  | _ => simp [LengthField.hdr] at hhdr

/-- The lengths after a push of GTP. -/
lemma counts_pushGtpTunnel (h : p.Placed) {ip_ttl : Byte} {DF_flag : Bool}
    (hq : p.pushGtpTunnel ether_type payloadlen ip_ttl DF_flag = some q) (hlen : p.len < q.len) :
    (htonb16 ether_type = ETH_TYPE_IPV4 ∧ q.type = ⟨p.type.l2, .ipv4 0 .gtpu4⟩ ∧
      q.len = p.len + 36 ∧ q.Counts (p.type.l2.len + 36) (20 + 8 + 8) payloadlen) ∨
    (htonb16 ether_type ≠ ETH_TYPE_IPV4 ∧ q.type = ⟨p.type.l2, .ipv6 .gtpu6⟩ ∧
      q.len = p.len + 56 ∧ q.Counts (p.type.l2.len + 56) (8 + 8) payloadlen) := by
  obtain ⟨llc, p', -, hcases⟩ := pushGtpTunnel_cases h hq hlen
  rcases hcases with ⟨hipv4, hpush, ident, hset⟩ | ⟨hipv4, hpush, hset⟩
  · have hlen' := len_of_push h hpush
    have hudp : getUdpHdr ⟨p.type.l2, .ipv4 0 .gtpu4⟩ = some (p.type.l2.len + 20) := by simp
    have hgtp : getGtpuHdr ⟨p.type.l2, .ipv4 0 .gtpu4⟩ = some (p.type.l2.len + 28) := by simp
    obtain ⟨htype, hqlen, hbuffer⟩ := setGtpDefaults_spec hudp hgtp (Nat.le_refl _) (by omega)
      (Nat.le_refl (p.type.l2.len + 28 + 8)) hset (type_mapBuffer _ _)
    obtain ⟨hudplen, hgtplen⟩ := be16_setGtpDefaults hudp hgtp (by omega) hset (type_mapBuffer _ _)
    refine Or.inl ⟨hipv4, htype, ?_, counts_gtpu4 htype ?_ hudplen hgtplen⟩
    · exact hqlen.trans ((len_mapBuffer _ _).trans hlen')
    · -- the headers behind the outer one do not touch its length
      rw [be16_congr (hbuffer _ (by omega)) (hbuffer _ (by omega)), gtpOverIpv4,
        getBuffer_setRecalculateChecksum, getBuffer_mapBuffer]
      exact be16_setTunnelIpv4 _ _ _ _ _ _
  · have hlen' := len_of_push h hpush
    have hudp : getUdpHdr ⟨p.type.l2, .ipv6 .gtpu6⟩ = some (p.type.l2.len + 40) := by simp
    have hgtp : getGtpuHdr ⟨p.type.l2, .ipv6 .gtpu6⟩ = some (p.type.l2.len + 48) := by simp
    obtain ⟨htype, hqlen, hbuffer⟩ := setGtpDefaults_spec hudp hgtp (Nat.le_refl _) (by omega)
      (Nat.le_refl (p.type.l2.len + 48 + 8)) hset (type_mapBuffer _ _)
    obtain ⟨hudplen, hgtplen⟩ := be16_setGtpDefaults hudp hgtp (by omega) hset (type_mapBuffer _ _)
    refine Or.inr ⟨hipv4, htype, ?_, counts_gtpu6 htype ?_ hudplen hgtplen⟩
    · exact hqlen.trans ((len_mapBuffer _ _).trans hlen')
    · rw [be16_congr (hbuffer _ (by omega)) (hbuffer _ (by omega)), gtpOverIpv6,
        getBuffer_mapBuffer]
      exact be16_setTunnelIpv6 _ _ _ _

/-- The length after a push of GRE. -/
lemma counts_pushGre (h : p.Placed) (hq : p.platformPacketPushGre ether_type = some q)
    (hlen : p.len < q.len) :
    (htonb16 ether_type = ETH_TYPE_IPV4 ∧ q.type = ⟨.plain false 0, .ipv4 0 .gre4⟩ ∧
      q.len = p.len + 46 ∧ q.Counts 46 (20 + 4 + 2 * 4) p.len) ∨
    (htonb16 ether_type ≠ ETH_TYPE_IPV4 ∧ q.type = ⟨.plain false 0, .ipv6 .gre6⟩ ∧
      q.len = p.len + 66 ∧ q.Counts 66 (4 + 2 * 4) p.len) := by
  obtain ⟨p', dl_dst, dl_src, hcases⟩ := pushGre_cases h hq hlen
  rcases hcases with ⟨hipv4, hpush, hset⟩ | ⟨hipv4, hpush, hset⟩
  · have hlen' := len_of_push h hpush
    have hgre : getGreHdr ⟨.plain false 0, .ipv4 0 .gre4⟩ = some 34 := by decide
    obtain ⟨htype, hqlen, hbuffer⟩ := setGreDefaults_spec hgre (Nat.le_refl 34) (Nat.le_refl 46)
      hset (type_mapBuffer _ _)
    refine Or.inl ⟨hipv4, htype, ?_, counts_gre4 htype ?_⟩
    · exact hqlen.trans ((len_mapBuffer _ _).trans hlen')
    · show be16 q.getBuffer (14 + 2) = _
      rw [be16_congr (hbuffer _ (by omega)) (hbuffer _ (by omega)), greOverIpv4,
        getBuffer_setRecalculateChecksum, getBuffer_mapBuffer, writeAll_append]
      exact be16_setTunnelIpv4 _ _ _ _ _ _
  · have hlen' := len_of_push h hpush
    have hgre : getGreHdr ⟨.plain false 0, .ipv6 .gre6⟩ = some 54 := by decide
    obtain ⟨htype, hqlen, hbuffer⟩ := setGreDefaults_spec hgre (Nat.le_refl 54) (Nat.le_refl 66)
      hset (type_mapBuffer _ _)
    refine Or.inr ⟨hipv4, htype, ?_, counts_gre6 htype ?_⟩
    · exact hqlen.trans ((len_mapBuffer _ _).trans hlen')
    · show be16 q.getBuffer (14 + 4) = _
      rw [be16_congr (hbuffer _ (by omega)) (hbuffer _ (by omega)), greOverIpv6,
        getBuffer_mapBuffer, writeAll_append]
      exact be16_setTunnelIpv6 _ _ _ _

end Tunnels

/-! ## The lengths -/

section Lengths

variable {p q : Datapacketx86 S} {ether_type : BitVec 16}

/-- A push that has found no IP header has not pushed. -/
lemma findsIp_of_pushGtp (hq : (HeaderOp.pushGtp ether_type).run p = some q)
    (hlen : p.len < q.len) : HeaderOp.FindsIp p := by
  by_contra hip
  have hsame := run_pushGtp_of_not_findsIp ether_type hip
  rw [hq, Option.some_inj] at hsame
  exact not_lt_self (hsame ▸ hlen)

lemma lengthsFollow_pushGtp_iff (h : p.Placed)
    (hq : (HeaderOp.pushGtp ether_type).run p = some q) (hlen : p.len < q.len) :
    q.LengthsFollow ∧ (HeaderOp.pushGtp ether_type).outerLength p < 2 ^ 16 ↔
      (HeaderOp.pushGtp ether_type).FillsFrame p := by
  have hsize : bufferSize + 36 < 2 ^ 16 := by decide
  have hplen := h.len_le
  have hl2 := p.type.l2.le_len
  obtain ⟨ip_ttl, DF_flag, hrun⟩ := run_pushGtp ether_type (findsIp_of_pushGtp hq hlen)
  rw [hrun] at hq
  rw [HeaderOp.FillsFrame, HeaderOp.outerLength]
  rcases counts_pushGtpTunnel h hq hlen with
    ⟨hipv4, htype, hqlen, hcounts⟩ | ⟨hipv4, htype, hqlen, hcounts⟩
  · have hhdr : LengthField.ipv4.hdr q.type = some p.type.l2.len := by
      rw [htype]
      exact getIpv4Hdr_ipv4
    rw [if_pos hipv4]
    constructor
    · rintro ⟨hfollow, hfits⟩
      have hend := (hcounts.follow_iff hhdr hfits).mp hfollow
      omega
    · intro hfills
      -- a packet that fills the frame is as short as the frame
      have hfits : 20 + 8 + 8 + p.payloadlen < 2 ^ 16 := by omega
      exact ⟨(hcounts.follow_iff hhdr hfits).mpr (by omega), hfits⟩
  · have hhdr : LengthField.ipv6.hdr q.type = some p.type.l2.len := by
      rw [htype]
      exact getIpv6Hdr_ipv6
    rw [if_neg hipv4]
    constructor
    · rintro ⟨hfollow, hfits⟩
      have hend := (hcounts.follow_iff hhdr hfits).mp hfollow
      omega
    · intro hfills
      have hfits : 8 + 8 + p.payloadlen < 2 ^ 16 := by omega
      exact ⟨(hcounts.follow_iff hhdr hfits).mpr (by omega), hfits⟩

/-- The lengths of a GRE tunnel always follow. -/
lemma lengthsFollow_pushGre (h : p.Placed) (hq : (HeaderOp.pushGre ether_type).run p = some q)
    (hlen : p.len < q.len) :
    q.LengthsFollow ∧ (HeaderOp.pushGre ether_type).outerLength p < 2 ^ 16 := by
  have hsize : bufferSize + 32 < 2 ^ 16 := by decide
  have hplen := h.len_le
  rw [HeaderOp.outerLength]
  rcases counts_pushGre h hq hlen with
    ⟨hipv4, htype, hqlen, hcounts⟩ | ⟨hipv4, htype, hqlen, hcounts⟩
  · have hhdr : LengthField.ipv4.hdr q.type = some 14 := by
      rw [htype]
      rfl
    have hfits : 20 + 4 + 2 * 4 + p.len < 2 ^ 16 := by omega
    rw [if_pos hipv4]
    exact ⟨(hcounts.follow_iff hhdr hfits).mpr (by omega), hfits⟩
  · have hhdr : LengthField.ipv6.hdr q.type = some 14 := by
      rw [htype]
      rfl
    have hfits : 4 + 2 * 4 + p.len < 2 ^ 16 := by omega
    rw [if_neg hipv4]
    exact ⟨(hcounts.follow_iff hhdr hfits).mpr (by omega), hfits⟩

/-- **The lengths of a pushed tunnel** are the numbers of bytes that follow, and none of them is cut
to 16 bits, if and only if the frame ends with the IP packet that a GTP tunnel is put around. -/
theorem lengthsFollow_iff {op : HeaderOp} (h : p.Placed) (hop : op.PushesTunnel ether_type)
    (hq : op.run p = some q) (hlen : p.len < q.len) :
    q.LengthsFollow ∧ op.outerLength p < 2 ^ 16 ↔ op.FillsFrame p := by
  rcases hop with rfl | rfl
  · exact lengthsFollow_pushGtp_iff h hq hlen
  · exact iff_of_true (lengthsFollow_pushGre h hq hlen) trivial

end Lengths

/-- GTP over IPv4 is pushed around the packet. -/
def tunnelled (total_length : Byte × Byte) (len : ℕ) : Datapacketx86 Unit :=
  ((HeaderOp.pushGtp 0x0008).run (ipv4Packet total_length len)).getD unused

lemma run_ipv4Packet {total_length : Byte × Byte} {len : ℕ}
    (h : ((HeaderOp.pushGtp 0x0008).run (ipv4Packet total_length len)).isSome = true) :
    (HeaderOp.pushGtp 0x0008).run (ipv4Packet total_length len) =
      some (tunnelled total_length len) := by
  obtain ⟨q, hq⟩ := Option.isSome_iff_exists.mp h
  rw [tunnelled, hq, Option.getD_some]

/-- A frame of 34 bytes with an IPv4 packet of 20 bytes. -/
theorem lengthsFollow_ipv4Packet : (tunnelled (0, 20) 34).LengthsFollow ∧
    (HeaderOp.pushGtp 0x0008).outerLength (ipv4Packet (0, 20) 34) < 2 ^ 16 := by
  refine (lengthsFollow_iff (placed_ipv4Packet _ (by decide)) (Or.inl rfl)
    (run_ipv4Packet (by decide +kernel)) (by decide +kernel)).mpr ?_
  show 14 + (ipv4Packet (0, 20) 34).payloadlen = 34
  decide +kernel

/-- A frame of 60 bytes whose IPv4 header says 65535: the length of the outer header is cut to 35,
and the push does not fail. -/
theorem not_lengthsFollow_ipv4Packet : ¬ ∀ p : Datapacketx86 Unit, p.Placed → p.ClassifiedFrame →
    ∀ (ether_type : BitVec 16) (op : HeaderOp), op.PushesTunnel ether_type →
      ∀ q, op.run p = some q → p.len < q.len →
        q.LengthsFollow ∧ op.outerLength p < 2 ^ 16 := by
  intro h
  have hplaced := placed_ipv4Packet (0xff, 0xff) (by decide : 60 ≤ FRAME_SIZE_BYTES)
  have hrun := run_ipv4Packet (by decide +kernel :
    ((HeaderOp.pushGtp 0x0008).run (ipv4Packet (0xff, 0xff) 60)).isSome = true)
  have hlen : (ipv4Packet (0xff, 0xff) 60).len < (tunnelled (0xff, 0xff) 60).len := by
    decide +kernel
  have hfollow := h _ hplaced (classifiedFrame_ipv4Packet _ (by decide)) 0x0008 _ (Or.inl rfl) _
    hrun hlen
  have hfills := (lengthsFollow_pushGtp_iff hplaced hrun hlen).mp hfollow
  revert hfills
  show ¬ 14 + (ipv4Packet (0xff, 0xff) 60).payloadlen = 60
  decide +kernel

end Xdpd.Io.Datapacketx86
