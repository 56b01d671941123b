import Xdpd.Classifier.WireFormat

/-!
# Headers that a frame announces

Which headers the bytes of a frame announce, and where.  An ethertype, a protocol number or a label
that is not the bottom of the stack announces the header after it.  The list depends on the bytes
alone: whether the headers are within the frame is another question.  Headers that the parser
neither looks into nor fails to find a type for are left out.
-/

namespace Xdpd.Classifier

open Xdpd.Lib

/-- A header, with what decides how much of it the parser needs, and whether it has a type. -/
inductive Header
  | ethernet (llc : Bool)
  | vlan
  /-- an I-TAG after this link layer -/
  | isid (l2 : L2)
  | mpls
  | pppoe
  | ipv4 (ihl : ℕ) (fragment : Bool)
  | ipv6
  | udp
  | icmpv6 (type : Byte)
  deriving DecidableEq, Repr

namespace Header

/-- How much the parser needs of an ICMPv6 message: all of a message of the neighbour discovery
protocol, and the type of the option after it; of others the header, but for a redirect message only
the type. -/
def icmpv6Span (type : Byte) : ℕ :=
  if type = NdpMessage.rtrSol.icmpv6Type then NdpMessage.rtrSol.sizeof + 1
  else if type = NdpMessage.rtrAdv.icmpv6Type then NdpMessage.rtrAdv.sizeof + 1
  else if type = NdpMessage.neighSol.icmpv6Type then NdpMessage.neighSol.sizeof + 1
  else if type = NdpMessage.neighAdv.icmpv6Type then NdpMessage.neighAdv.sizeof + 1
  else if type = ICMPV6_TYPE_REDIRECT_MESSAGE then 1
  else 4

/-- How many bytes the parser needs from the start of the header on. -/
def span : Header → ℕ
  | ethernet llc => if llc then 22 else 14
  | vlan | mpls => 4
  | isid _ => 0
  | pppoe => 6
  | ipv4 ihl fragment => max (ihl * 4) (if fragment then 8 else 10)
  | ipv6 => 40
  | udp => 8
  | icmpv6 type => icmpv6Span type

/-- There are types for packets with the header.  There are none for an I-TAG after two tags or in
an LLC frame, for a fragment, for an IPv4 header of less than five words, and for a redirect
message. -/
def hasType : Header → Bool
  | isid l2 => l2.parseIsid.isSome
  | ipv4 ihl fragment => !fragment && decide (5 ≤ ihl)
  | icmpv6 type => type ≠ ICMPV6_TYPE_REDIRECT_MESSAGE
  | _ => true

end Header

variable (data : ℕ → Byte)

/-- The labels at `pos`, `n` at most. -/
def labels : ℕ → ℕ → List (Header × ℕ)
  | 0, _ => []
  | n + 1, pos => (.mpls, pos) :: if getMplsBos data pos then [] else labels n (pos + 4)

/-- The IPv4 header at `pos`, and a UDP header after it. -/
def ipv4Headers (pos : ℕ) : List (Header × ℕ) :=
  (.ipv4 (ipv4Ihl data pos) (ipv4IsFragment data pos), pos) ::
    if ipv4IsFragment data pos = false ∧ data (pos + 9) = UDP_IP_PROTO then
      [(.udp, pos + ipv4Ihl data pos * 4)]
    else []

/-- The IPv6 header at `pos`, and a UDP or ICMPv6 header after it. -/
def ipv6Headers (pos : ℕ) : List (Header × ℕ) :=
  (.ipv6, pos) ::
    if data (pos + 6) = ICMPV6_IP_PROTO then [(.icmpv6 (data (pos + 40)), pos + 40)]
    else if data (pos + 6) = UDP_IP_PROTO then [(.udp, pos + 40)]
    else []

/-- The headers at `pos`, after this link layer and ethertype.  A 33rd label is the last one that
the parser takes. -/
def etherTypeHeaders (l2 : L2) (eth_type : BitVec 16) (pos : ℕ) : List (Header × ℕ) :=
  if eth_type = VLAN_ITAG_ETHER_TYPE then [(.isid l2, pos)]
  else if eth_type = ETH_TYPE_MPLS_UNICAST ∨ eth_type = ETH_TYPE_MPLS_MULTICAST then
    labels data 33 pos
  else if eth_type = ETH_TYPE_PPPOE_DISCOVERY ∨ eth_type = ETH_TYPE_PPPOE_SESSION then
    [(.pppoe, pos)]
  else if eth_type = ETH_TYPE_IPV4 then ipv4Headers data pos
  else if eth_type = ETH_TYPE_IPV6 then ipv6Headers data pos
  else []

/-- The headers after these tags and this ethertype.  A third tag is the last one that the parser
takes, and what follows it is not looked at. -/
def taggedHeaders (llc : Bool) : ℕ → BitVec 16 → ℕ → List (Header × ℕ)
  | 0, eth_type, pos =>
      if IsVlanTag eth_type then [(.vlan, pos)]
      else etherTypeHeaders data (.plain llc 2) eth_type pos
  | n + 1, eth_type, pos =>
      if IsVlanTag eth_type then
        (.vlan, pos) :: taggedHeaders llc n (be16 data (pos + 2)) (pos + 4)
      else etherTypeHeaders data (.plain llc (Fin.ofNat 3 (1 - n))) eth_type pos

/-- The headers that a frame announces. -/
def announced : List (Header × ℕ) :=
  (.ethernet (isLlcFrame data), 0) ::
    taggedHeaders data (isLlcFrame data) 2 (be16 data (etherTypeOffset data)) (etherHdrLen data)

end Xdpd.Classifier
