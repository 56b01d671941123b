import Xdpd.Classifier.Fields
import Xdpd.Classifier.Headers
import Xdpd.Io.Datapacketx86

/-!
# The actions on headers

The functions `platform_packet_set_*`, `platform_packet_dec_*_ttl` and `platform_packet_copy_ttl_*`
write a field of a header, if the type of the packet has the header.  They do not calculate
checksums: those that are to be calculated before the packet leaves are marked in
`calculate_checksums_in_sw`.
-/

namespace Xdpd.Io

open Xdpd.Lib Xdpd.Classifier

/-- `enum calculate_checksum`. -/
inductive CalculateChecksum
  | ipv4 | tcp | udp | sctp | icmpv4 | icmpv6 | gre
  deriving DecidableEq, Repr

/-- `RECALCULATE_IPV4_CHECKSUM_IN_SW` and the other values. -/
def CalculateChecksum.val : CalculateChecksum → ℕ
  | .ipv4 => 1
  | .tcp => 2
  | .udp => 3
  | .sctp => 4
  | .icmpv4 => 5
  | .icmpv6 => 6
  | .gre => 7

namespace Datapacketx86

variable {S : Type*}

/-! ## Marks -/

/-- `set_recalculate_checksum`. -/
def setRecalculateChecksum (type : CalculateChecksum) (p : Datapacketx86 S) : Datapacketx86 S :=
  { p with
    calculateChecksumsInSw := p.calculateChecksumsInSw ||| ((1 : BitVec 32) <<< type.val) }

/-- `is_recalculate_checksum_flag_set`. -/
def isRecalculateChecksumFlagSet (type : CalculateChecksum) (p : Datapacketx86 S) : Bool :=
  (p.calculateChecksumsInSw &&& ((1 : BitVec 32) <<< type.val)) ≠ 0

/-- A field of the header is written with `set`, if the type has the header, and the checksums are
marked. -/
def setHdr (get : PktType → Option ℕ) (set : ℕ → (ℕ → Byte) → ℕ → Byte)
    (marks : List CalculateChecksum) (p : Datapacketx86 S) : Datapacketx86 S :=
  match get p.type with
  | none => p
  | some hdr => marks.foldl (fun p type => p.setRecalculateChecksum type) (p.mapBuffer (set hdr))

/-! ## Time to live -/

/-- `platform_packet_copy_ttl_in`.  Without a further label, the version of what follows is a
guess. -/
def platformPacketCopyTtlIn (p : Datapacketx86 S) : Datapacketx86 S :=
  match getMplsHdr p.type 0 with
  | none => p
  | some mpls_hdr =>
      let ttl := p.getBuffer (mpls_hdr + 3)
      match getMplsHdr p.type 1 with
      | some mpls_hdr_inner => p.mapBuffer (setMplsTtl mpls_hdr_inner ttl)
      | none =>
          let ip_hdr := mpls_hdr + 4
          let ip_version := p.getBuffer ip_hdr >>> 4
          if ip_version = 4 then p.mapBuffer (setIpv4Ttl ip_hdr ttl)
          else if ip_version = 6 then p.mapBuffer (setIpv6HopLimit ip_hdr ttl)
          else p

/-- `platform_packet_copy_ttl_out`. -/
def platformPacketCopyTtlOut (p : Datapacketx86 S) : Datapacketx86 S :=
  match getMplsHdr p.type 0 with
  | none => p
  | some mpls_hdr =>
      match getMplsHdr p.type 1 with
      | some mpls_hdr_inner =>
          p.mapBuffer (setMplsTtl mpls_hdr (p.getBuffer (mpls_hdr_inner + 3)))
      | none =>
          let ip_hdr := mpls_hdr + 4
          let ip_version := p.getBuffer ip_hdr >>> 4
          if ip_version = 4 then p.mapBuffer (setMplsTtl mpls_hdr (p.getBuffer (ip_hdr + 8)))
          else if ip_version = 6 then p.mapBuffer (setMplsTtl mpls_hdr (p.getBuffer (ip_hdr + 7)))
          else p

/-- A field that both versions of IP have.  Only IPv4 has a checksum. -/
def setIpHdr (setIpv4 setIpv6 : ℕ → (ℕ → Byte) → ℕ → Byte) (p : Datapacketx86 S) :
    Datapacketx86 S :=
  setHdr getIpv6Hdr setIpv6 [] (setHdr getIpv4Hdr setIpv4 [.ipv4] p)

/-- `platform_packet_dec_nw_ttl`. -/
def platformPacketDecNwTtl : Datapacketx86 S → Datapacketx86 S :=
  setIpHdr decIpv4Ttl decIpv6HopLimit

/-- `platform_packet_set_nw_ttl`. -/
def platformPacketSetNwTtl (new_ttl : Byte) : Datapacketx86 S → Datapacketx86 S :=
  setIpHdr (setIpv4Ttl · new_ttl) (setIpv6HopLimit · new_ttl)

/-- `platform_packet_set_ip_dscp`. -/
def platformPacketSetIpDscp (ip_dscp : Byte) : Datapacketx86 S → Datapacketx86 S :=
  setIpHdr (setIpv4Dscp · ip_dscp) (setIpv6Dscp · ip_dscp)

/-- `platform_packet_set_ip_ecn`. -/
def platformPacketSetIpEcn (ip_ecn : Byte) : Datapacketx86 S → Datapacketx86 S :=
  setIpHdr (setIpv4Ecn · ip_ecn) (setIpv6Ecn · ip_ecn)

/-- `platform_packet_set_ip_proto`. -/
def platformPacketSetIpProto (ip_proto : Byte) : Datapacketx86 S → Datapacketx86 S :=
  setIpHdr (setIpv4Proto · ip_proto) (setIpv6NextHeader · ip_proto)

/-! ## The other setters -/

/-- `platform_packet_dec_mpls_ttl`. -/
def platformPacketDecMplsTtl : Datapacketx86 S → Datapacketx86 S :=
  setHdr (getMplsHdr · 0) decMplsTtl []

/-- `platform_packet_set_mpls_ttl`. -/
def platformPacketSetMplsTtl (new_ttl : Byte) : Datapacketx86 S → Datapacketx86 S :=
  setHdr (getMplsHdr · 0) (setMplsTtl · new_ttl) []

/-- `platform_packet_set_eth_dst`. -/
def platformPacketSetEthDst (eth_dst : BitVec 64) : Datapacketx86 S → Datapacketx86 S :=
  setHdr getEtherHdr (setEtherDlDst · eth_dst) []

/-- `platform_packet_set_eth_src`. -/
def platformPacketSetEthSrc (eth_src : BitVec 64) : Datapacketx86 S → Datapacketx86 S :=
  setHdr getEtherHdr (setEtherDlSrc · eth_src) []

/-- `platform_packet_set_eth_type`. -/
def platformPacketSetEthType (eth_type : BitVec 16) : Datapacketx86 S → Datapacketx86 S :=
  setHdr getEtherHdr (setEtherType · eth_type) []

/-- `platform_packet_set_vlan_vid`. -/
def platformPacketSetVlanVid (vlan_vid : BitVec 16) : Datapacketx86 S → Datapacketx86 S :=
  setHdr getVlanHdr (setVlanId · vlan_vid) []

/-- `platform_packet_set_vlan_pcp`. -/
def platformPacketSetVlanPcp (vlan_pcp : Byte) : Datapacketx86 S → Datapacketx86 S :=
  setHdr getVlanHdr (setVlanPcp · vlan_pcp) []

/-- `platform_packet_set_arp_opcode`. -/
def platformPacketSetArpOpcode (arp_opcode : BitVec 16) : Datapacketx86 S → Datapacketx86 S :=
  setHdr getArpv4Hdr (setArpv4Opcode · arp_opcode) []

/-- `platform_packet_set_arp_sha`. -/
def platformPacketSetArpSha (arp_sha : BitVec 64) : Datapacketx86 S → Datapacketx86 S :=
  setHdr getArpv4Hdr (setArpv4DlSrc · arp_sha) []

/-- `platform_packet_set_arp_spa`. -/
def platformPacketSetArpSpa (arp_spa : BitVec 32) : Datapacketx86 S → Datapacketx86 S :=
  setHdr getArpv4Hdr (setArpv4IpSrc · arp_spa) []

/-- `platform_packet_set_arp_tha`. -/
def platformPacketSetArpTha (arp_tha : BitVec 64) : Datapacketx86 S → Datapacketx86 S :=
  setHdr getArpv4Hdr (setArpv4DlDst · arp_tha) []

/-- `platform_packet_set_arp_tpa`. -/
def platformPacketSetArpTpa (arp_tpa : BitVec 32) : Datapacketx86 S → Datapacketx86 S :=
  setHdr getArpv4Hdr (setArpv4IpDst · arp_tpa) []

/-- `platform_packet_set_ipv4_src`. -/
def platformPacketSetIpv4Src (ip_src : BitVec 32) : Datapacketx86 S → Datapacketx86 S :=
  setHdr getIpv4Hdr (setIpv4Src · ip_src) [.ipv4, .tcp, .udp]

/-- `platform_packet_set_ipv4_dst`. -/
def platformPacketSetIpv4Dst (ip_dst : BitVec 32) : Datapacketx86 S → Datapacketx86 S :=
  setHdr getIpv4Hdr (setIpv4Dst · ip_dst) [.ipv4, .tcp, .udp]

/-- `platform_packet_set_ipv6_src`. -/
def platformPacketSetIpv6Src (ipv6_src : BitVec 128) : Datapacketx86 S → Datapacketx86 S :=
  setHdr getIpv6Hdr (setIpv6Src · ipv6_src) [.tcp, .udp]

/-- `platform_packet_set_ipv6_dst`. -/
def platformPacketSetIpv6Dst (ipv6_dst : BitVec 128) : Datapacketx86 S → Datapacketx86 S :=
  setHdr getIpv6Hdr (setIpv6Dst · ipv6_dst) [.tcp, .udp]

/-- `platform_packet_set_ipv6_flabel`. -/
def platformPacketSetIpv6Flabel (ipv6_flabel : BitVec 64) : Datapacketx86 S → Datapacketx86 S :=
  setHdr getIpv6Hdr (setIpv6FlowLabel · (ipv6_flabel.setWidth 32)) []

/-- `platform_packet_set_ipv6_nd_target`. -/
def platformPacketSetIpv6NdTarget (ipv6_nd_target : BitVec 128) :
    Datapacketx86 S → Datapacketx86 S :=
  setHdr getIcmpv6Hdr (setIcmpv6NeighborTaddr · ipv6_nd_target) [.icmpv6]

/-- `platform_packet_set_ipv6_nd_sll`. -/
def platformPacketSetIpv6NdSll (ipv6_nd_sll : BitVec 64) : Datapacketx86 S → Datapacketx86 S :=
  setHdr getIcmpv6OptLladrSourceHdr (setIcmpv6LlSaddr · ipv6_nd_sll) [.icmpv6]

/-- `platform_packet_set_ipv6_nd_tll`. -/
def platformPacketSetIpv6NdTll (ipv6_nd_tll : BitVec 64) : Datapacketx86 S → Datapacketx86 S :=
  setHdr getIcmpv6OptLladrTargetHdr (setIcmpv6LlTaddr · ipv6_nd_tll) [.icmpv6]

/-- `platform_packet_set_icmpv6_type`. -/
def platformPacketSetIcmpv6Type (icmpv6_type : Byte) : Datapacketx86 S → Datapacketx86 S :=
  setHdr getIcmpv6Hdr (setIcmpv6Type · icmpv6_type) [.icmpv6]

/-- `platform_packet_set_icmpv6_code`. -/
def platformPacketSetIcmpv6Code (icmpv6_code : Byte) : Datapacketx86 S → Datapacketx86 S :=
  setHdr getIcmpv6Hdr (setIcmpv6Code · icmpv6_code) [.icmpv6]

/-- `platform_packet_set_tcp_src`. -/
def platformPacketSetTcpSrc (tcp_src : BitVec 16) : Datapacketx86 S → Datapacketx86 S :=
  setHdr getTcpHdr (setTcpSport · tcp_src) [.tcp]

/-- `platform_packet_set_tcp_dst`. -/
def platformPacketSetTcpDst (tcp_dst : BitVec 16) : Datapacketx86 S → Datapacketx86 S :=
  setHdr getTcpHdr (setTcpDport · tcp_dst) [.tcp]

/-- `platform_packet_set_udp_src`. -/
def platformPacketSetUdpSrc (udp_src : BitVec 16) : Datapacketx86 S → Datapacketx86 S :=
  setHdr getUdpHdr (setUdpSport · udp_src) [.udp]

/-- `platform_packet_set_udp_dst`. -/
def platformPacketSetUdpDst (udp_dst : BitVec 16) : Datapacketx86 S → Datapacketx86 S :=
  setHdr getUdpHdr (setUdpDport · udp_dst) [.udp]

/-- `platform_packet_set_sctp_src`. -/
def platformPacketSetSctpSrc (sctp_src : BitVec 16) : Datapacketx86 S → Datapacketx86 S :=
  setHdr getSctpHdr (setSctpSport · sctp_src) [.sctp]

/-- `platform_packet_set_sctp_dst`. -/
def platformPacketSetSctpDst (sctp_dst : BitVec 16) : Datapacketx86 S → Datapacketx86 S :=
  setHdr getSctpHdr (setSctpDport · sctp_dst) [.sctp]

/-- `platform_packet_set_icmpv4_type`. -/
def platformPacketSetIcmpv4Type (type : Byte) : Datapacketx86 S → Datapacketx86 S :=
  setHdr getIcmpv4Hdr (setIcmpv4Type · type) [.icmpv4]

/-- `platform_packet_set_icmpv4_code`. -/
def platformPacketSetIcmpv4Code (code : Byte) : Datapacketx86 S → Datapacketx86 S :=
  setHdr getIcmpv4Hdr (setIcmpv4Code · code) [.icmpv4]

/-- `platform_packet_set_mpls_label`. -/
def platformPacketSetMplsLabel (label : BitVec 32) : Datapacketx86 S → Datapacketx86 S :=
  setHdr (getMplsHdr · 0) (setMplsLabel · label) []

/-- `platform_packet_set_mpls_tc`. -/
def platformPacketSetMplsTc (tc : Byte) : Datapacketx86 S → Datapacketx86 S :=
  setHdr (getMplsHdr · 0) (setMplsTc · tc) []

/-- `platform_packet_set_mpls_bos`. -/
def platformPacketSetMplsBos (bos : Bool) : Datapacketx86 S → Datapacketx86 S :=
  setHdr (getMplsHdr · 0) (setMplsBos · bos) []

/-- `platform_packet_set_pbb_isid`. -/
def platformPacketSetPbbIsid (pbb_isid : BitVec 32) : Datapacketx86 S → Datapacketx86 S :=
  setHdr getPbbIsidHdr (setPbbIsid · pbb_isid) []

/-- `platform_packet_set_pppoe_type`. -/
def platformPacketSetPppoeType (type : Byte) : Datapacketx86 S → Datapacketx86 S :=
  setHdr getPppoeHdr (setPppoeType · type) []

/-- `platform_packet_set_pppoe_code`. -/
def platformPacketSetPppoeCode (code : Byte) : Datapacketx86 S → Datapacketx86 S :=
  setHdr getPppoeHdr (setPppoeCode · code) []

/-- `platform_packet_set_pppoe_sid`. -/
def platformPacketSetPppoeSid (sid : BitVec 16) : Datapacketx86 S → Datapacketx86 S :=
  setHdr getPppoeHdr (setPppoeSessid · sid) []

/-- `platform_packet_set_ppp_proto`. -/
def platformPacketSetPppProto (proto : BitVec 16) : Datapacketx86 S → Datapacketx86 S :=
  setHdr getPppHdr (setPppProt · proto) []

/-- `platform_packet_set_gtp_msg_type`. -/
def platformPacketSetGtpMsgType (msg_type : Byte) : Datapacketx86 S → Datapacketx86 S :=
  setHdr getGtpuHdr (setGtpuMsgType · msg_type) []

/-- `platform_packet_set_gtp_teid`. -/
def platformPacketSetGtpTeid (teid : BitVec 32) : Datapacketx86 S → Datapacketx86 S :=
  setHdr getGtpuHdr (setGtpuTeid · teid) []

/-- `platform_packet_set_gre_version`. -/
def platformPacketSetGreVersion (version : BitVec 16) : Datapacketx86 S → Datapacketx86 S :=
  setHdr getGreHdr (setGreVersion · version) []

/-- `platform_packet_set_gre_prot_type`. -/
def platformPacketSetGreProtType (prot_type : BitVec 16) : Datapacketx86 S → Datapacketx86 S :=
  setHdr getGreHdr (setGreProtType · prot_type) []

/-- `platform_packet_set_gre_key`. -/
def platformPacketSetGreKey (key : BitVec 32) : Datapacketx86 S → Datapacketx86 S :=
  setHdr getGreHdr (setGreKey · key) []

/-! ## What marks and setters do -/

lemma isRecalculateChecksumFlagSet_eq (type : CalculateChecksum) (p : Datapacketx86 S) :
    p.isRecalculateChecksumFlagSet type = p.calculateChecksumsInSw.getLsbD type.val := by
  have hlt : type.val < 32 := by cases type <;> decide
  have hone : ((1 : BitVec 32) <<< type.val) = BitVec.twoPow 32 type.val :=
    (BitVec.twoPow_eq 32 type.val).symm
  have hne : BitVec.twoPow 32 type.val ≠ 0 := by cases type <;> decide
  rw [isRecalculateChecksumFlagSet, hone, BitVec.and_twoPow]
  cases p.calculateChecksumsInSw.getLsbD type.val with
  | true => simpa using hne
  | false => rfl

/-- A mark stands for its checksum only. -/
lemma isRecalculateChecksumFlagSet_set (type type' : CalculateChecksum) (p : Datapacketx86 S) :
    (p.setRecalculateChecksum type').isRecalculateChecksumFlagSet type =
      (decide (type = type') || p.isRecalculateChecksumFlagSet type) := by
  rw [isRecalculateChecksumFlagSet_eq, isRecalculateChecksumFlagSet_eq, setRecalculateChecksum,
    BitVec.getLsbD_or, Bool.or_comm]
  refine congrArg (· || _) ?_
  cases type <;> cases type' <;> decide

section SetHdr

variable {get : PktType → Option ℕ} {set : ℕ → (ℕ → Byte) → ℕ → Byte}
  {marks : List CalculateChecksum} {p : Datapacketx86 S}

lemma foldl_setRecalculateChecksum (marks : List CalculateChecksum) (p : Datapacketx86 S) :
    let q := marks.foldl (fun p type => p.setRecalculateChecksum type) p
    q.type = p.type ∧ q.len = p.len ∧ q.getBuffer = p.getBuffer ∧
      ∀ type, q.isRecalculateChecksumFlagSet type =
        (decide (type ∈ marks) || p.isRecalculateChecksumFlagSet type) := by
  induction marks generalizing p with
  | nil => exact ⟨rfl, rfl, rfl, fun type => by simp⟩
  | cons mark marks ih =>
      obtain ⟨htype, hlen, hbuffer, hmarks⟩ := ih (p.setRecalculateChecksum mark)
      refine ⟨htype, hlen, hbuffer, fun type => ?_⟩
      have hmem : decide (type ∈ mark :: marks) =
          (decide (type = mark) || decide (type ∈ marks)) := by
        rw [← Bool.decide_or]
        exact decide_eq_decide.2 List.mem_cons
      rw [List.foldl_cons, hmarks, isRecalculateChecksumFlagSet_set, hmem, Bool.or_left_comm,
        Bool.or_assoc]

/-- **What a setter does**: if the type has the header, it writes there and marks its checksums. -/
lemma setHdr_spec (get : PktType → Option ℕ) (set : ℕ → (ℕ → Byte) → ℕ → Byte)
    (marks : List CalculateChecksum) (p : Datapacketx86 S) :
    (setHdr get set marks p).type = p.type ∧ (setHdr get set marks p).len = p.len ∧
      (get p.type = none → setHdr get set marks p = p) ∧
      ∀ hdr, get p.type = some hdr →
        (setHdr get set marks p).getBuffer = set hdr p.getBuffer ∧
        ∀ type, (setHdr get set marks p).isRecalculateChecksumFlagSet type =
          (decide (type ∈ marks) || p.isRecalculateChecksumFlagSet type) := by
  cases hget : get p.type with
  | none =>
      have hp : setHdr get set marks p = p := by rw [setHdr, hget]
      rw [hp]
      exact ⟨rfl, rfl, fun _ => rfl, nofun⟩
  | some hdr =>
      have hp : setHdr get set marks p =
          marks.foldl (fun p type => p.setRecalculateChecksum type) (p.mapBuffer (set hdr)) := by
        rw [setHdr, hget]
      obtain ⟨htype, hlen, hbuffer, hmarks⟩ := foldl_setRecalculateChecksum marks
        (p.mapBuffer (set hdr))
      rw [hp, htype, hlen, hbuffer, type_mapBuffer, len_mapBuffer, getBuffer_mapBuffer]
      refine ⟨rfl, rfl, nofun, ?_⟩
      rintro _ ⟨⟩
      refine ⟨rfl, fun type => ?_⟩
      rw [hmarks, isRecalculateChecksumFlagSet, calculateChecksumsInSw_mapBuffer,
        ← isRecalculateChecksumFlagSet]

end SetHdr

end Datapacketx86

/-- An action on a header.  The last ones have no code yet. -/
inductive HeaderAction
  | copyTtlIn
  | copyTtlOut
  | decNwTtl
  | decMplsTtl
  | setNwTtl (new_ttl : Byte)
  | setIpDscp (ip_dscp : Byte)
  | setIpEcn (ip_ecn : Byte)
  | setIpProto (ip_proto : Byte)
  | setMplsTtl (new_ttl : Byte)
  | setEthDst (eth_dst : BitVec 64)
  | setEthSrc (eth_src : BitVec 64)
  | setEthType (eth_type : BitVec 16)
  | setVlanVid (vlan_vid : BitVec 16)
  | setVlanPcp (vlan_pcp : Byte)
  | setArpOpcode (arp_opcode : BitVec 16)
  | setArpSha (arp_sha : BitVec 64)
  | setArpSpa (arp_spa : BitVec 32)
  | setArpTha (arp_tha : BitVec 64)
  | setArpTpa (arp_tpa : BitVec 32)
  | setIpv4Src (ip_src : BitVec 32)
  | setIpv4Dst (ip_dst : BitVec 32)
  | setIpv6Src (ipv6_src : BitVec 128)
  | setIpv6Dst (ipv6_dst : BitVec 128)
  | setIpv6Flabel (ipv6_flabel : BitVec 64)
  | setIpv6NdTarget (ipv6_nd_target : BitVec 128)
  | setIpv6NdSll (ipv6_nd_sll : BitVec 64)
  | setIpv6NdTll (ipv6_nd_tll : BitVec 64)
  | setIcmpv6Type (icmpv6_type : Byte)
  | setIcmpv6Code (icmpv6_code : Byte)
  | setTcpSrc (tcp_src : BitVec 16)
  | setTcpDst (tcp_dst : BitVec 16)
  | setUdpSrc (udp_src : BitVec 16)
  | setUdpDst (udp_dst : BitVec 16)
  | setSctpSrc (sctp_src : BitVec 16)
  | setSctpDst (sctp_dst : BitVec 16)
  | setIcmpv4Type (type : Byte)
  | setIcmpv4Code (code : Byte)
  | setMplsLabel (label : BitVec 32)
  | setMplsTc (tc : Byte)
  | setMplsBos (bos : Bool)
  | setPbbIsid (pbb_isid : BitVec 32)
  | setPppoeType (type : Byte)
  | setPppoeCode (code : Byte)
  | setPppoeSid (sid : BitVec 16)
  | setPppProto (proto : BitVec 16)
  | setGtpMsgType (msg_type : Byte)
  | setGtpTeid (teid : BitVec 32)
  | setGreVersion (version : BitVec 16)
  | setGreProtType (prot_type : BitVec 16)
  | setGreKey (key : BitVec 32)
  | setTunnelId (tunnel_id : BitVec 64)
  | setIpv6Exthdr (ipv6_exthdr : BitVec 16)
  | setCapwapWbid (wbid : Byte)
  | setCapwapRid (rid : Byte)
  | setCapwapFlags (flags : BitVec 16)
  | setWlanFc (fc : BitVec 16)
  | setWlanType (type : Byte)
  | setWlanSubtype (subtype : Byte)
  | setWlanDirection (direction : Byte)
  | setWlanAddress1 (address_1 : BitVec 64)
  | setWlanAddress2 (address_2 : BitVec 64)
  | setWlanAddress3 (address_3 : BitVec 64)

namespace HeaderAction

open Datapacketx86

variable {S : Type*}

/-- The action on a packet. -/
def apply : HeaderAction → Datapacketx86 S → Datapacketx86 S
  | .copyTtlIn => platformPacketCopyTtlIn
  | .copyTtlOut => platformPacketCopyTtlOut
  | .decNwTtl => platformPacketDecNwTtl
  | .decMplsTtl => platformPacketDecMplsTtl
  | .setNwTtl new_ttl => platformPacketSetNwTtl new_ttl
  | .setIpDscp ip_dscp => platformPacketSetIpDscp ip_dscp
  | .setIpEcn ip_ecn => platformPacketSetIpEcn ip_ecn
  | .setIpProto ip_proto => platformPacketSetIpProto ip_proto
  | .setMplsTtl new_ttl => platformPacketSetMplsTtl new_ttl
  | .setEthDst eth_dst => platformPacketSetEthDst eth_dst
  | .setEthSrc eth_src => platformPacketSetEthSrc eth_src
  | .setEthType eth_type => platformPacketSetEthType eth_type
  | .setVlanVid vlan_vid => platformPacketSetVlanVid vlan_vid
  | .setVlanPcp vlan_pcp => platformPacketSetVlanPcp vlan_pcp
  | .setArpOpcode arp_opcode => platformPacketSetArpOpcode arp_opcode
  | .setArpSha arp_sha => platformPacketSetArpSha arp_sha
  | .setArpSpa arp_spa => platformPacketSetArpSpa arp_spa
  | .setArpTha arp_tha => platformPacketSetArpTha arp_tha
  | .setArpTpa arp_tpa => platformPacketSetArpTpa arp_tpa
  | .setIpv4Src ip_src => platformPacketSetIpv4Src ip_src
  | .setIpv4Dst ip_dst => platformPacketSetIpv4Dst ip_dst
  | .setIpv6Src ipv6_src => platformPacketSetIpv6Src ipv6_src
  | .setIpv6Dst ipv6_dst => platformPacketSetIpv6Dst ipv6_dst
  | .setIpv6Flabel ipv6_flabel => platformPacketSetIpv6Flabel ipv6_flabel
  | .setIpv6NdTarget ipv6_nd_target => platformPacketSetIpv6NdTarget ipv6_nd_target
  | .setIpv6NdSll ipv6_nd_sll => platformPacketSetIpv6NdSll ipv6_nd_sll
  | .setIpv6NdTll ipv6_nd_tll => platformPacketSetIpv6NdTll ipv6_nd_tll
  | .setIcmpv6Type icmpv6_type => platformPacketSetIcmpv6Type icmpv6_type
  | .setIcmpv6Code icmpv6_code => platformPacketSetIcmpv6Code icmpv6_code
  | .setTcpSrc tcp_src => platformPacketSetTcpSrc tcp_src
  | .setTcpDst tcp_dst => platformPacketSetTcpDst tcp_dst
  | .setUdpSrc udp_src => platformPacketSetUdpSrc udp_src
  | .setUdpDst udp_dst => platformPacketSetUdpDst udp_dst
  | .setSctpSrc sctp_src => platformPacketSetSctpSrc sctp_src
  | .setSctpDst sctp_dst => platformPacketSetSctpDst sctp_dst
  | .setIcmpv4Type type => platformPacketSetIcmpv4Type type
  | .setIcmpv4Code code => platformPacketSetIcmpv4Code code
  | .setMplsLabel label => platformPacketSetMplsLabel label
  | .setMplsTc tc => platformPacketSetMplsTc tc
  | .setMplsBos bos => platformPacketSetMplsBos bos
  | .setPbbIsid pbb_isid => platformPacketSetPbbIsid pbb_isid
  | .setPppoeType type => platformPacketSetPppoeType type
  | .setPppoeCode code => platformPacketSetPppoeCode code
  | .setPppoeSid sid => platformPacketSetPppoeSid sid
  | .setPppProto proto => platformPacketSetPppProto proto
  | .setGtpMsgType msg_type => platformPacketSetGtpMsgType msg_type
  | .setGtpTeid teid => platformPacketSetGtpTeid teid
  | .setGreVersion version => platformPacketSetGreVersion version
  | .setGreProtType prot_type => platformPacketSetGreProtType prot_type
  | .setGreKey key => platformPacketSetGreKey key
  | .setTunnelId _ | .setIpv6Exthdr _ | .setCapwapWbid _ | .setCapwapRid _ | .setCapwapFlags _
  | .setWlanFc _ | .setWlanType _ | .setWlanSubtype _ | .setWlanDirection _ | .setWlanAddress1 _
  | .setWlanAddress2 _ | .setWlanAddress3 _ => id

/-- An action leaves the type and the length as they are. -/
lemma apply_type_len (a : HeaderAction) (p : Datapacketx86 S) :
    (a.apply p).type = p.type ∧ (a.apply p).len = p.len := by
  have hset (get : PktType → Option ℕ) (set : ℕ → (ℕ → Byte) → ℕ → Byte)
      (marks : List CalculateChecksum) (p : Datapacketx86 S) :
      (setHdr get set marks p).type = p.type ∧ (setHdr get set marks p).len = p.len :=
    ⟨(setHdr_spec get set marks p).1, (setHdr_spec get set marks p).2.1⟩
  have hsetIp (set4 set6 : ℕ → (ℕ → Byte) → ℕ → Byte) :
      (setIpHdr set4 set6 p).type = p.type ∧ (setIpHdr set4 set6 p).len = p.len := by
    obtain ⟨htype4, hlen4⟩ := hset getIpv4Hdr set4 [.ipv4] p
    obtain ⟨htype6, hlen6⟩ := hset getIpv6Hdr set6 [] (setHdr getIpv4Hdr set4 [.ipv4] p)
    exact ⟨htype6.trans htype4, hlen6.trans hlen4⟩
  cases a with
  | copyTtlIn =>
      simp only [apply, platformPacketCopyTtlIn]
      split
      · exact ⟨rfl, rfl⟩
      · split
        · exact ⟨type_mapBuffer _ _, len_mapBuffer _ _⟩
        · split_ifs <;> simp only [type_mapBuffer, len_mapBuffer, and_self]
  | copyTtlOut =>
      simp only [apply, platformPacketCopyTtlOut]
      split
      · exact ⟨rfl, rfl⟩
      · split
        · exact ⟨type_mapBuffer _ _, len_mapBuffer _ _⟩
        · split_ifs <;> simp only [type_mapBuffer, len_mapBuffer, and_self]
  | decNwTtl | setNwTtl | setIpDscp | setIpEcn | setIpProto => exact hsetIp _ _
  | setTunnelId | setIpv6Exthdr | setCapwapWbid | setCapwapRid | setCapwapFlags | setWlanFc
  | setWlanType | setWlanSubtype | setWlanDirection | setWlanAddress1 | setWlanAddress2
  | setWlanAddress3 => exact ⟨rfl, rfl⟩
  | _ => exact hset _ _ _ _

end HeaderAction

end Xdpd.Io
