import Xdpd.Classifier.Parser

/-!
# The type of a frame

What the parser makes of the bytes of a frame, as functions of the bytes alone: which headers are at
a position, given what announces them.  A function that depends on the remaining length, because the
parser looks at it, takes it as the argument `d`.
-/

namespace Xdpd.Classifier

open Xdpd.Lib

/-! ## Headers at a position -/

/-- The number of labels, `n` at most, that follow the label at `pos`. -/
def furtherLabels (data : ℕ → Byte) : ℕ → ℕ → ℕ
  | 0, _ => 0
  | n + 1, pos => if getMplsBos data pos then 0 else furtherLabels data n (pos + 4) + 1

/-- The stack of labels at `pos`, up to 32 of them. -/
def mplsUpper (data : ℕ → Byte) (pos : ℕ) : Upper :=
  .mpls (Fin.ofNat 32 (furtherLabels data 31 pos))

/-- The UDP header at `pos` is followed by a GTP header. -/
def carriesGtpu (data : ℕ → Byte) (pos d : ℕ) : Prop :=
  0 < subSize d 8 ∧ be16 data (pos + 2) = UDP_DST_PORT_GTPU ∧ 12 ≤ subSize d 8

instance (data : ℕ → Byte) (pos d : ℕ) : Decidable (carriesGtpu data pos d) :=
  inferInstanceAs (Decidable (_ ∧ _))

/-- What follows an IPv4 header with this `proto`. -/
def ipv4Payload (data : ℕ → Byte) (proto : Byte) (pos d : ℕ) : Ipv4Payload :=
  if proto = ICMPV4_IP_PROTO then .icmpv4
  else if proto = UDP_IP_PROTO then if carriesGtpu data pos d then .gtpu4 else .udp
  else if proto = TCP_IP_PROTO then .tcp
  else if proto = SCTP_IP_PROTO then .sctp
  else if proto = GRE_IP_PROTO then if d < 4 then .none else .gre4
  else .none

/-- The IPv4 header at `pos`.  A fragment, or a header of less than five words, has no type. -/
def ipv4Upper (data : ℕ → Byte) (pos d : ℕ) : Upper :=
  if ipv4IsFragment data pos = true ∨ ipv4Ihl data pos < 5 then .none
  else
    .ipv4 (Fin.ofNat 16 (ipv4Ihl data pos - 5))
      (ipv4Payload data (data (pos + 9)) (pos + ipv4Ihl data pos * 4)
        (subSize d (ipv4Ihl data pos * 4)))

/-- The link layer address option that follows a message. -/
def ndpLladr (data : ℕ → Byte) (message : NdpMessage) (pos : ℕ) : Bool :=
  data (pos + message.sizeof) = message.lladr.optType

/-- The message at `pos`, if it is one of the neighbour discovery protocol.  A redirect message has
no type. -/
def icmpv6Payload (data : ℕ → Byte) (type : Byte) (pos : ℕ) : Icmpv6Payload :=
  if type = NdpMessage.rtrSol.icmpv6Type then .ndp .rtrSol (ndpLladr data .rtrSol pos)
  else if type = NdpMessage.rtrAdv.icmpv6Type then .ndp .rtrAdv (ndpLladr data .rtrAdv pos)
  else if type = NdpMessage.neighSol.icmpv6Type then .ndp .neighSol (ndpLladr data .neighSol pos)
  else if type = NdpMessage.neighAdv.icmpv6Type then .ndp .neighAdv (ndpLladr data .neighAdv pos)
  else .none

/-- What follows an IPv6 header with this `proto`. -/
def ipv6Payload (data : ℕ → Byte) (proto : Byte) (pos d : ℕ) : Ipv6Payload :=
  if proto = ICMPV6_IP_PROTO then .icmpv6 (icmpv6Payload data (data pos) pos)
  else if proto = UDP_IP_PROTO then if carriesGtpu data pos d then .gtpu6 else .udp
  else if proto = TCP_IP_PROTO then .tcp
  else if proto = SCTP_IP_PROTO then .sctp
  else if proto = GRE_IP_PROTO then if d < 4 then .none else .gre6
  else .none

/-- The IPv6 header at `pos`. -/
def ipv6Upper (data : ℕ → Byte) (pos d : ℕ) : Upper :=
  .ipv6 (ipv6Payload data (data (pos + 6)) (pos + 40) (subSize d 40))

/-- What is above the link layer, at `pos`, after this ethertype. -/
def etherTypeUpper (data : ℕ → Byte) (eth_type : BitVec 16) (pos d : ℕ) : Upper :=
  if eth_type = VLAN_ITAG_ETHER_TYPE then .none
  else if eth_type = ETH_TYPE_MPLS_UNICAST ∨ eth_type = ETH_TYPE_MPLS_MULTICAST then
    mplsUpper data pos
  else if eth_type = ETH_TYPE_PPPOE_DISCOVERY then .pppoe
  else if eth_type = ETH_TYPE_PPPOE_SESSION then .ppp
  else if eth_type = ETH_TYPE_ARP then .arpv4
  else if eth_type = ETH_TYPE_IPV4 then ipv4Upper data pos d
  else if eth_type = ETH_TYPE_IPV6 then ipv6Upper data pos d
  else .none

/-- The type after an ethertype that is no tag. -/
def untaggedType (data : ℕ → Byte) (l2 : L2) (eth_type : BitVec 16) (pos d : ℕ) : PktType :=
  if eth_type = VLAN_ITAG_ETHER_TYPE then ⟨l2.parseIsid.getD l2, .none⟩
  else ⟨l2, etherTypeUpper data eth_type pos d⟩

/-- The type of a frame with these tags so far, after this ethertype.  The tags that would exceed
two are not counted, and what follows them is not looked at. -/
def taggedType (data : ℕ → Byte) (llc : Bool) : ℕ → BitVec 16 → ℕ → ℕ → PktType
  | 0, eth_type, pos, d =>
      if IsVlanTag eth_type then ⟨.plain llc 2, .none⟩
      else untaggedType data (.plain llc 2) eth_type pos d
  | n + 1, eth_type, pos, d =>
      if IsVlanTag eth_type then
        taggedType data llc n (be16 data (pos + 2)) (pos + 4) (subSize d 4)
      else untaggedType data (.plain llc (Fin.ofNat 3 (1 - n))) eth_type pos d

/-- The type of a frame. -/
def frameType (data : ℕ → Byte) (len : ℕ) : PktType :=
  taggedType data (isLlcFrame data) 2 (be16 data (etherTypeOffset data)) (etherHdrLen data)
    (subSize len (etherHdrLen data))

end Xdpd.Classifier
