import Xdpd.Io.HeaderActions
import Xdpd.Lib.Masked

/-!
# The fields of a packet

The functions `platform_packet_get_*` give the pipeline a pointer to a field of a header, or the
value.  A packet then is a record: it has some of the fields, with their values.  An action that
sets a field, or decrements one, has its effect on this record: it changes its own field, if the
packet has it, and no other.

Three fields are left out, since they are not at a place that the type of the packet determines: the
type of the payload, the target address of a neighbour discovery message, and the key of GRE.  The
actions that copy a time to live are left out with them.
-/

namespace Xdpd.Classifier

open Xdpd.Lib

/-- `OF1X_2MSBITS_MASK`. -/
def OF1X_2MSBITS_MASK : Byte := 0xc0

/-! ## The getters of the headers

A pointer is the position of the field in the memory that has the header at `hdr`. -/

section Getters

variable (hdr : ℕ)

/-! ### Ethernet, 802.1Q and 802.1ah -/

/-- `get_ether_dl_dst`. -/
def getEtherDlDst : ℕ := hdr

/-- `get_ether_dl_src`. -/
def getEtherDlSrc : ℕ := hdr + 6

/-- `get_vlan_id`. -/
def getVlanId : ℕ := hdr

/-- `get_vlan_pcp`. -/
def getVlanPcp : ℕ := hdr

/-- `get_pbb_isid`. -/
def getPbbIsid : ℕ := hdr + 1

/-! ### MPLS and PPPoE -/

/-- `get_mpls_label`. -/
def getMplsLabel : ℕ := hdr

/-- `get_mpls_tc`. -/
def getMplsTc : ℕ := hdr + 2

/-- `get_mpls_ttl`. -/
def getMplsTtl : ℕ := hdr + 3

/-- `get_pppoe_type`. -/
def getPppoeType : ℕ := hdr

/-- `get_pppoe_code`. -/
def getPppoeCode : ℕ := hdr + 1

/-- `get_pppoe_sessid`. -/
def getPppoeSessid : ℕ := hdr + 2

/-- `get_ppp_prot`. -/
def getPppProt : ℕ := hdr

/-! ### ARP -/

/-- `get_arpv4_opcode`. -/
def getArpv4Opcode : ℕ := hdr + 6

/-- `get_arpv4_dl_src`. -/
def getArpv4DlSrc : ℕ := hdr + 8

/-- `get_arpv4_ip_src`. -/
def getArpv4IpSrc : ℕ := hdr + 14

/-- `get_arpv4_dl_dst`. -/
def getArpv4DlDst : ℕ := hdr + 18

/-- `get_arpv4_ip_dst`. -/
def getArpv4IpDst : ℕ := hdr + 24

/-! ### IP -/

/-- `get_ipv4_ttl`. -/
def getIpv4Ttl : ℕ := hdr + 8

/-- `get_ipv4_proto`. -/
def getIpv4Proto : ℕ := hdr + 9

/-- `get_ipv4_src`. -/
def getIpv4Src : ℕ := hdr + 12

/-- `get_ipv4_dst`. -/
def getIpv4Dst : ℕ := hdr + 16

/-- `get_ipv6_flow_label`. -/
def getIpv6FlowLabel : ℕ := hdr + 1

/-- `get_ipv6_next_header`. -/
def getIpv6NextHeader : ℕ := hdr + 6

/-- `get_ipv6_hop_limit`. -/
def getIpv6HopLimit : ℕ := hdr + 7

/-- `get_ipv6_src`. -/
def getIpv6Src : ℕ := hdr + 8

/-- `get_ipv6_dst`. -/
def getIpv6Dst : ℕ := hdr + 24

/-- `get_ipv4_dscp`, which has the bits of ECN as well. -/
def getIpv4Dscp (mem : ℕ → Byte) : Byte := mem (hdr + 1)

/-- `get_ipv4_ecn`, which has the bits of DSCP as well. -/
def getIpv4Ecn (mem : ℕ → Byte) : Byte := mem (hdr + 1)

/-- `get_ipv6_dscp`, with the bits where IPv4 has them. -/
def getIpv6Dscp (mem : ℕ → Byte) : Byte :=
  ((mem hdr &&& OF1X_4LSBITS_MASK) <<< 4) ||| ((mem (hdr + 1) &&& OF1X_2MSBITS_MASK) >>> 4)

/-- `get_ipv6_ecn`, with the bits where IPv4 has them. -/
def getIpv6Ecn (mem : ℕ → Byte) : Byte := (mem (hdr + 1) &&& OF1X_BITS_4AND5_MASK) >>> 4

/-! ### Above IP -/

/-- `get_icmpv4_type`. -/
def getIcmpv4Type : ℕ := hdr

/-- `get_icmpv4_code`. -/
def getIcmpv4Code : ℕ := hdr + 1

/-- `get_icmpv6_type`. -/
def getIcmpv6Type : ℕ := hdr

/-- `get_icmpv6_code`. -/
def getIcmpv6Code : ℕ := hdr + 1

/-- `get_icmpv6_ll_saddr`. -/
def getIcmpv6LlSaddr : ℕ := hdr + 2

/-- `get_icmpv6_ll_taddr`. -/
def getIcmpv6LlTaddr : ℕ := hdr + 2

/-- `get_tcp_sport`. -/
def getTcpSport : ℕ := hdr

/-- `get_tcp_dport`. -/
def getTcpDport : ℕ := hdr + 2

/-- `get_udp_sport`. -/
def getUdpSport : ℕ := hdr

/-- `get_udp_dport`. -/
def getUdpDport : ℕ := hdr + 2

/-- `get_sctp_sport`. -/
def getSctpSport : ℕ := hdr

/-- `get_sctp_dport`. -/
def getSctpDport : ℕ := hdr + 2

/-- `get_gtpu_msg_type`. -/
def getGtpuMsgType : ℕ := hdr + 1

/-- `get_gtpu_teid`. -/
def getGtpuTeid : ℕ := hdr + 4

/-- `get_gre_version`. -/
def getGreVersion : ℕ := hdr

/-- `get_gre_prot_type`. -/
def getGreProtType : ℕ := hdr + 2

end Getters

end Xdpd.Classifier

namespace Xdpd.Io

open Xdpd.Lib Xdpd.Classifier

namespace Datapacketx86

variable {S : Type*}

/-! ## The getters of the packet -/

/-- `platform_packet_get_eth_dst`. -/
def platformPacketGetEthDst (p : Datapacketx86 S) : Option ℕ :=
  (getEtherHdr p.type).map getEtherDlDst

/-- `platform_packet_get_eth_src`. -/
def platformPacketGetEthSrc (p : Datapacketx86 S) : Option ℕ :=
  (getEtherHdr p.type).map getEtherDlSrc

/-- `platform_packet_get_vlan_vid`. -/
def platformPacketGetVlanVid (p : Datapacketx86 S) : Option ℕ :=
  (getVlanHdr p.type).map getVlanId

/-- `platform_packet_get_vlan_pcp`. -/
def platformPacketGetVlanPcp (p : Datapacketx86 S) : Option ℕ :=
  (getVlanHdr p.type).map getVlanPcp

/-- `platform_packet_get_arp_opcode`. -/
def platformPacketGetArpOpcode (p : Datapacketx86 S) : Option ℕ :=
  (getArpv4Hdr p.type).map getArpv4Opcode

/-- `platform_packet_get_arp_sha`. -/
def platformPacketGetArpSha (p : Datapacketx86 S) : Option ℕ :=
  (getArpv4Hdr p.type).map getArpv4DlSrc

/-- `platform_packet_get_arp_spa`. -/
def platformPacketGetArpSpa (p : Datapacketx86 S) : Option ℕ :=
  (getArpv4Hdr p.type).map getArpv4IpSrc

/-- `platform_packet_get_arp_tha`. -/
def platformPacketGetArpTha (p : Datapacketx86 S) : Option ℕ :=
  (getArpv4Hdr p.type).map getArpv4DlDst

/-- `platform_packet_get_arp_tpa`. -/
def platformPacketGetArpTpa (p : Datapacketx86 S) : Option ℕ :=
  (getArpv4Hdr p.type).map getArpv4IpDst

/-- `platform_packet_get_ip_proto`. -/
def platformPacketGetIpProto (p : Datapacketx86 S) : Option ℕ :=
  ((getIpv4Hdr p.type).map getIpv4Proto).or ((getIpv6Hdr p.type).map getIpv6NextHeader)

/-- `platform_packet_get_ip_dscp`. -/
def platformPacketGetIpDscp (p : Datapacketx86 S) : Byte :=
  match getIpv4Hdr p.type, getIpv6Hdr p.type with
  | some hdr, _ => getIpv4Dscp hdr p.getBuffer
  | none, some hdr => getIpv6Dscp hdr p.getBuffer
  | none, none => 0

/-- `platform_packet_get_ip_ecn`. -/
def platformPacketGetIpEcn (p : Datapacketx86 S) : Byte :=
  match getIpv4Hdr p.type, getIpv6Hdr p.type with
  | some hdr, _ => getIpv4Ecn hdr p.getBuffer
  | none, some hdr => getIpv6Ecn hdr p.getBuffer
  | none, none => 0

/-- `platform_packet_get_ipv4_src`. -/
def platformPacketGetIpv4Src (p : Datapacketx86 S) : Option ℕ :=
  (getIpv4Hdr p.type).map getIpv4Src

/-- `platform_packet_get_ipv4_dst`. -/
def platformPacketGetIpv4Dst (p : Datapacketx86 S) : Option ℕ :=
  (getIpv4Hdr p.type).map getIpv4Dst

/-- `platform_packet_get_ipv6_src`. -/
def platformPacketGetIpv6Src (p : Datapacketx86 S) : Option ℕ :=
  (getIpv6Hdr p.type).map getIpv6Src

/-- `platform_packet_get_ipv6_dst`. -/
def platformPacketGetIpv6Dst (p : Datapacketx86 S) : Option ℕ :=
  (getIpv6Hdr p.type).map getIpv6Dst

/-- `platform_packet_get_ipv6_flabel`. -/
def platformPacketGetIpv6Flabel (p : Datapacketx86 S) : Option ℕ :=
  (getIpv6Hdr p.type).map getIpv6FlowLabel

/-- `platform_packet_get_ipv6_nd_sll`. -/
def platformPacketGetIpv6NdSll (p : Datapacketx86 S) : Option ℕ :=
  (getIcmpv6OptLladrSourceHdr p.type).map getIcmpv6LlSaddr

/-- `platform_packet_get_ipv6_nd_tll`. -/
def platformPacketGetIpv6NdTll (p : Datapacketx86 S) : Option ℕ :=
  (getIcmpv6OptLladrTargetHdr p.type).map getIcmpv6LlTaddr

/-- `platform_packet_get_icmpv6_type`. -/
def platformPacketGetIcmpv6Type (p : Datapacketx86 S) : Option ℕ :=
  (getIcmpv6Hdr p.type).map getIcmpv6Type

/-- `platform_packet_get_icmpv6_code`. -/
def platformPacketGetIcmpv6Code (p : Datapacketx86 S) : Option ℕ :=
  (getIcmpv6Hdr p.type).map getIcmpv6Code

/-- `platform_packet_get_tcp_src`. -/
def platformPacketGetTcpSrc (p : Datapacketx86 S) : Option ℕ :=
  (getTcpHdr p.type).map getTcpSport

/-- `platform_packet_get_tcp_dst`. -/
def platformPacketGetTcpDst (p : Datapacketx86 S) : Option ℕ :=
  (getTcpHdr p.type).map getTcpDport

/-- `platform_packet_get_udp_src`. -/
def platformPacketGetUdpSrc (p : Datapacketx86 S) : Option ℕ :=
  (getUdpHdr p.type).map getUdpSport

/-- `platform_packet_get_udp_dst`. -/
def platformPacketGetUdpDst (p : Datapacketx86 S) : Option ℕ :=
  (getUdpHdr p.type).map getUdpDport

/-- `platform_packet_get_sctp_src`. -/
def platformPacketGetSctpSrc (p : Datapacketx86 S) : Option ℕ :=
  (getSctpHdr p.type).map getSctpSport

/-- `platform_packet_get_sctp_dst`. -/
def platformPacketGetSctpDst (p : Datapacketx86 S) : Option ℕ :=
  (getSctpHdr p.type).map getSctpDport

/-- `platform_packet_get_icmpv4_type`. -/
def platformPacketGetIcmpv4Type (p : Datapacketx86 S) : Option ℕ :=
  (getIcmpv4Hdr p.type).map getIcmpv4Type

/-- `platform_packet_get_icmpv4_code`. -/
def platformPacketGetIcmpv4Code (p : Datapacketx86 S) : Option ℕ :=
  (getIcmpv4Hdr p.type).map getIcmpv4Code

/-- `platform_packet_get_mpls_label`. -/
def platformPacketGetMplsLabel (p : Datapacketx86 S) : Option ℕ :=
  (getMplsHdr p.type 0).map getMplsLabel

/-- `platform_packet_get_mpls_tc`. -/
def platformPacketGetMplsTc (p : Datapacketx86 S) : Option ℕ :=
  (getMplsHdr p.type 0).map getMplsTc

/-- `platform_packet_get_mpls_bos`. -/
def platformPacketGetMplsBos (p : Datapacketx86 S) : Bool :=
  match getMplsHdr p.type 0 with
  | some hdr => getMplsBos p.getBuffer hdr
  | none => false

/-- `platform_packet_get_pbb_isid`. -/
def platformPacketGetPbbIsid (p : Datapacketx86 S) : Option ℕ :=
  (getPbbIsidHdr p.type).map getPbbIsid

/-- `platform_packet_get_pppoe_type`. -/
def platformPacketGetPppoeType (p : Datapacketx86 S) : Option ℕ :=
  (getPppoeHdr p.type).map getPppoeType

/-- `platform_packet_get_pppoe_code`. -/
def platformPacketGetPppoeCode (p : Datapacketx86 S) : Option ℕ :=
  (getPppoeHdr p.type).map getPppoeCode

/-- `platform_packet_get_pppoe_sid`. -/
def platformPacketGetPppoeSid (p : Datapacketx86 S) : Option ℕ :=
  (getPppoeHdr p.type).map getPppoeSessid

/-- `platform_packet_get_ppp_proto`. -/
def platformPacketGetPppProto (p : Datapacketx86 S) : Option ℕ :=
  (getPppHdr p.type).map getPppProt

/-- `platform_packet_get_gtp_msg_type`. -/
def platformPacketGetGtpMsgType (p : Datapacketx86 S) : Option ℕ :=
  (getGtpuHdr p.type).map getGtpuMsgType

/-- `platform_packet_get_gtp_teid`. -/
def platformPacketGetGtpTeid (p : Datapacketx86 S) : Option ℕ :=
  (getGtpuHdr p.type).map getGtpuTeid

/-- `platform_packet_get_gre_version`. -/
def platformPacketGetGreVersion (p : Datapacketx86 S) : Option ℕ :=
  (getGreHdr p.type).map getGreVersion

/-- `platform_packet_get_gre_prot_type`. -/
def platformPacketGetGreProtType (p : Datapacketx86 S) : Option ℕ :=
  (getGreHdr p.type).map getGreProtType

end Datapacketx86

/-! ## Fields -/

/-- The fields of a packet. -/
inductive PacketField
  | ethDst | ethSrc | vlanVid | vlanPcp | pbbIsid
  | mplsLabel | mplsTc | mplsBos | mplsTtl | pppoeType | pppoeCode | pppoeSid | pppProto
  | arpOpcode | arpSha | arpSpa | arpTha | arpTpa
  | ipDscp | ipEcn | ipProto | nwTtl | ipv4Src | ipv4Dst | ipv6Src | ipv6Dst | ipv6Flabel
  | icmpv4Type | icmpv4Code | icmpv6Type | icmpv6Code | ipv6NdSll | ipv6NdTll
  | tcpSrc | tcpDst | udpSrc | udpDst | sctpSrc | sctpDst | gtpMsgType | gtpTeid
  | greVersion | greProtType
  deriving DecidableEq, Repr

/-- All of the fields. -/
def PacketField.all : List PacketField :=
  [.ethDst, .ethSrc, .vlanVid, .vlanPcp, .pbbIsid, .mplsLabel, .mplsTc, .mplsBos, .mplsTtl,
    .pppoeType, .pppoeCode, .pppoeSid, .pppProto, .arpOpcode, .arpSha, .arpSpa, .arpTha, .arpTpa,
    .ipDscp, .ipEcn, .ipProto, .nwTtl, .ipv4Src, .ipv4Dst, .ipv6Src, .ipv6Dst, .ipv6Flabel,
    .icmpv4Type, .icmpv4Code, .icmpv6Type, .icmpv6Code, .ipv6NdSll, .ipv6NdTll, .tcpSrc, .tcpDst,
    .udpSrc, .udpDst, .sctpSrc, .sctpDst, .gtpMsgType, .gtpTeid, .greVersion, .greProtType]

lemma PacketField.mem_all (f : PacketField) : f ∈ PacketField.all := by
  cases f <;> decide

/-- The bits of a field, in the bytes from its pointer on. -/
def PacketField.mask : PacketField → List Byte
  | .ethDst | .ethSrc | .arpSha | .arpTha | .ipv6NdSll | .ipv6NdTll => List.replicate 6 0xff
  | .vlanVid => [0x0f, 0xff]
  | .vlanPcp => [OF1X_3MSBITS_MASK]
  | .pbbIsid => [0xff, 0xff, 0xff]
  | .mplsLabel => [0xff, 0xff, 0xf0]
  | .mplsTc => [OF1X_BITS_12AND3_MASK]
  | .mplsBos => [OF1X_BIT0_MASK]
  | .pppoeType => [OF1X_4LSBITS_MASK]
  | .ipDscp => [OF1X_6MSBITS_MASK]
  | .ipEcn => [OF1X_2LSBITS_MASK]
  | .ipv6Flabel => [0x0f, 0xff, 0xff]
  | .greVersion => [0x00, 0x03]
  | .mplsTtl | .pppoeCode | .ipProto | .nwTtl | .icmpv4Type | .icmpv4Code | .icmpv6Type
  | .icmpv6Code | .gtpMsgType => [0xff]
  | .pppoeSid | .pppProto | .arpOpcode | .tcpSrc | .tcpDst | .udpSrc | .udpDst | .sctpSrc
  | .sctpDst | .greProtType => [0xff, 0xff]
  | .arpSpa | .arpTpa | .ipv4Src | .ipv4Dst | .gtpTeid => List.replicate 4 0xff
  | .ipv6Src | .ipv6Dst => List.replicate 16 0xff

/-- The bits of the mask in the bytes from `a` on. -/
def masked (mask : List Byte) (mem : ℕ → Byte) (a : ℕ) : List Byte :=
  mask.mapIdx fun i m => mem (a + i) &&& m

/-- The bits of the field in a word. -/
def PacketField.ofWord {w : ℕ} (f : PacketField) (v : BitVec w) : List Byte :=
  f.mask.mapIdx fun i m => leBytes v i &&& m

section Read

variable {S : Type*}

open Datapacketx86

/-- The pointer to a field.  For a field that is not read through a pointer, it is one to its
header. -/
def PacketField.pointer (p : Datapacketx86 S) : PacketField → Option ℕ
  | .ethDst => p.platformPacketGetEthDst
  | .ethSrc => p.platformPacketGetEthSrc
  | .vlanVid => p.platformPacketGetVlanVid
  | .vlanPcp => p.platformPacketGetVlanPcp
  | .pbbIsid => p.platformPacketGetPbbIsid
  | .mplsLabel => p.platformPacketGetMplsLabel
  | .mplsTc => p.platformPacketGetMplsTc
  | .mplsBos => getMplsHdr p.type 0
  | .mplsTtl => (getMplsHdr p.type 0).map getMplsTtl
  | .pppoeType => p.platformPacketGetPppoeType
  | .pppoeCode => p.platformPacketGetPppoeCode
  | .pppoeSid => p.platformPacketGetPppoeSid
  | .pppProto => p.platformPacketGetPppProto
  | .arpOpcode => p.platformPacketGetArpOpcode
  | .arpSha => p.platformPacketGetArpSha
  | .arpSpa => p.platformPacketGetArpSpa
  | .arpTha => p.platformPacketGetArpTha
  | .arpTpa => p.platformPacketGetArpTpa
  | .ipDscp | .ipEcn => (getIpv4Hdr p.type).or (getIpv6Hdr p.type)
  | .ipProto => p.platformPacketGetIpProto
  | .nwTtl => ((getIpv4Hdr p.type).map getIpv4Ttl).or ((getIpv6Hdr p.type).map getIpv6HopLimit)
  | .ipv4Src => p.platformPacketGetIpv4Src
  | .ipv4Dst => p.platformPacketGetIpv4Dst
  | .ipv6Src => p.platformPacketGetIpv6Src
  | .ipv6Dst => p.platformPacketGetIpv6Dst
  | .ipv6Flabel => p.platformPacketGetIpv6Flabel
  | .icmpv4Type => p.platformPacketGetIcmpv4Type
  | .icmpv4Code => p.platformPacketGetIcmpv4Code
  | .icmpv6Type => p.platformPacketGetIcmpv6Type
  | .icmpv6Code => p.platformPacketGetIcmpv6Code
  | .ipv6NdSll => p.platformPacketGetIpv6NdSll
  | .ipv6NdTll => p.platformPacketGetIpv6NdTll
  | .tcpSrc => p.platformPacketGetTcpSrc
  | .tcpDst => p.platformPacketGetTcpDst
  | .udpSrc => p.platformPacketGetUdpSrc
  | .udpDst => p.platformPacketGetUdpDst
  | .sctpSrc => p.platformPacketGetSctpSrc
  | .sctpDst => p.platformPacketGetSctpDst
  | .gtpMsgType => p.platformPacketGetGtpMsgType
  | .gtpTeid => p.platformPacketGetGtpTeid
  | .greVersion => p.platformPacketGetGreVersion
  | .greProtType => p.platformPacketGetGreProtType

/-- What a packet has in a field, if it has the field. -/
def PacketField.read (p : Datapacketx86 S) (f : PacketField) : Option (List Byte) :=
  match f with
  | .ipDscp => (f.pointer p).map fun _ => [p.platformPacketGetIpDscp &&& OF1X_6MSBITS_MASK]
  | .ipEcn => (f.pointer p).map fun _ => [p.platformPacketGetIpEcn &&& OF1X_2LSBITS_MASK]
  | .mplsBos =>
      (f.pointer p).map fun _ => [if p.platformPacketGetMplsBos then OF1X_BIT0_MASK else 0]
  | f => (f.pointer p).map (masked f.mask p.getBuffer)

/-- The record of the fields of a packet. -/
def Datapacketx86.fields (p : Datapacketx86 S) : PacketField → Option (List Byte) :=
  fun f => f.read p

end Read

/-! ## Actions -/

namespace HeaderAction

/-- The field that an action changes, and how. -/
def target : HeaderAction → Option (PacketField × (List Byte → List Byte))
  | .decNwTtl => some (.nwTtl, List.map (· - 1))
  | .decMplsTtl => some (.mplsTtl, List.map (· - 1))
  | .setNwTtl new_ttl => some (.nwTtl, fun _ => [new_ttl])
  | .setIpDscp ip_dscp => some (.ipDscp, fun _ => [ip_dscp &&& OF1X_6MSBITS_MASK])
  | .setIpEcn ip_ecn => some (.ipEcn, fun _ => [ip_ecn &&& OF1X_2LSBITS_MASK])
  | .setIpProto ip_proto => some (.ipProto, fun _ => [ip_proto])
  | .setMplsTtl new_ttl => some (.mplsTtl, fun _ => PacketField.mplsTtl.ofWord new_ttl)
  | .setEthDst eth_dst => some (.ethDst, fun _ => PacketField.ethDst.ofWord eth_dst)
  | .setEthSrc eth_src => some (.ethSrc, fun _ => PacketField.ethSrc.ofWord eth_src)
  | .setVlanVid vlan_vid => some (.vlanVid, fun _ => PacketField.vlanVid.ofWord vlan_vid)
  | .setVlanPcp vlan_pcp => some (.vlanPcp, fun _ => PacketField.vlanPcp.ofWord vlan_pcp)
  | .setArpOpcode arp_opcode => some (.arpOpcode, fun _ => PacketField.arpOpcode.ofWord arp_opcode)
  | .setArpSha arp_sha => some (.arpSha, fun _ => PacketField.arpSha.ofWord arp_sha)
  | .setArpSpa arp_spa => some (.arpSpa, fun _ => PacketField.arpSpa.ofWord arp_spa)
  | .setArpTha arp_tha => some (.arpTha, fun _ => PacketField.arpTha.ofWord arp_tha)
  | .setArpTpa arp_tpa => some (.arpTpa, fun _ => PacketField.arpTpa.ofWord arp_tpa)
  | .setIpv4Src ip_src => some (.ipv4Src, fun _ => PacketField.ipv4Src.ofWord ip_src)
  | .setIpv4Dst ip_dst => some (.ipv4Dst, fun _ => PacketField.ipv4Dst.ofWord ip_dst)
  | .setIpv6Src ipv6_src => some (.ipv6Src, fun _ => PacketField.ipv6Src.ofWord ipv6_src)
  | .setIpv6Dst ipv6_dst => some (.ipv6Dst, fun _ => PacketField.ipv6Dst.ofWord ipv6_dst)
  | .setIpv6Flabel ipv6_flabel =>
      some (.ipv6Flabel, fun _ => PacketField.ipv6Flabel.ofWord (ipv6_flabel.setWidth 32))
  | .setIpv6NdSll ipv6_nd_sll =>
      some (.ipv6NdSll, fun _ => PacketField.ipv6NdSll.ofWord ipv6_nd_sll)
  | .setIpv6NdTll ipv6_nd_tll =>
      some (.ipv6NdTll, fun _ => PacketField.ipv6NdTll.ofWord ipv6_nd_tll)
  | .setIcmpv6Type icmpv6_type =>
      some (.icmpv6Type, fun _ => PacketField.icmpv6Type.ofWord icmpv6_type)
  | .setIcmpv6Code icmpv6_code =>
      some (.icmpv6Code, fun _ => PacketField.icmpv6Code.ofWord icmpv6_code)
  | .setTcpSrc tcp_src => some (.tcpSrc, fun _ => PacketField.tcpSrc.ofWord tcp_src)
  | .setTcpDst tcp_dst => some (.tcpDst, fun _ => PacketField.tcpDst.ofWord tcp_dst)
  | .setUdpSrc udp_src => some (.udpSrc, fun _ => PacketField.udpSrc.ofWord udp_src)
  | .setUdpDst udp_dst => some (.udpDst, fun _ => PacketField.udpDst.ofWord udp_dst)
  | .setSctpSrc sctp_src => some (.sctpSrc, fun _ => PacketField.sctpSrc.ofWord sctp_src)
  | .setSctpDst sctp_dst => some (.sctpDst, fun _ => PacketField.sctpDst.ofWord sctp_dst)
  | .setIcmpv4Type type => some (.icmpv4Type, fun _ => PacketField.icmpv4Type.ofWord type)
  | .setIcmpv4Code code => some (.icmpv4Code, fun _ => PacketField.icmpv4Code.ofWord code)
  | .setMplsLabel label => some (.mplsLabel, fun _ => PacketField.mplsLabel.ofWord label)
  | .setMplsTc tc => some (.mplsTc, fun _ => PacketField.mplsTc.ofWord tc)
  | .setMplsBos bos => some (.mplsBos, fun _ => [if bos then OF1X_BIT0_MASK else 0])
  | .setPbbIsid pbb_isid => some (.pbbIsid, fun _ => PacketField.pbbIsid.ofWord pbb_isid)
  | .setPppoeType type => some (.pppoeType, fun _ => PacketField.pppoeType.ofWord type)
  | .setPppoeCode code => some (.pppoeCode, fun _ => PacketField.pppoeCode.ofWord code)
  | .setPppoeSid sid => some (.pppoeSid, fun _ => PacketField.pppoeSid.ofWord sid)
  | .setPppProto proto => some (.pppProto, fun _ => PacketField.pppProto.ofWord proto)
  | .setGtpMsgType msg_type => some (.gtpMsgType, fun _ => PacketField.gtpMsgType.ofWord msg_type)
  | .setGtpTeid teid => some (.gtpTeid, fun _ => PacketField.gtpTeid.ofWord teid)
  | .setGreVersion version => some (.greVersion, fun _ => PacketField.greVersion.ofWord version)
  | .setGreProtType prot_type =>
      some (.greProtType, fun _ => PacketField.greProtType.ofWord prot_type)
  | _ => none

/-- The field that an action changes. -/
def field (a : HeaderAction) : Option PacketField :=
  a.target.map Prod.fst

/-- An action that changes one of the fields, or nothing. -/
def Plain : HeaderAction → Prop
  | .copyTtlIn | .copyTtlOut | .setEthType _ | .setIpv6NdTarget _ | .setGreKey _ => False
  | _ => True

/-- An action on a record of fields. -/
def update (a : HeaderAction) (record : PacketField → Option (List Byte)) :
    PacketField → Option (List Byte) :=
  match a.target with
  | some (f, change) => Function.update record f ((record f).map change)
  | none => record

end HeaderAction

end Xdpd.Io
