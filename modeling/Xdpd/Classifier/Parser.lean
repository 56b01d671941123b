import Xdpd.Classifier.PktTypes
import Xdpd.Lib.Bytes
import Mathlib.Tactic.Simps.Basic

/-!
# The packet parser

`classify_packet` walks over a frame and finds its packet type.  A `Walk` is the state of the
parser: the type found so far, the pointer `data`, as a position in the frame, and the remaining
length `datalen`.  It also records what the parser does, which the parser itself never looks at: the
positions it reads, whether the remaining length has underflowed, where it has entered each header,
which ethertype it has acted upon last, and whether a transition was missing.

The bytes are those in memory from the start of the frame on: the parser may read beyond the frame.
The functions are those of a build with `NDEBUG` and without `DEBUG`.  `PT_CLASS_ADD_PROTO` returns
from the function it is used in when there is no transition; every call of a function of the parser
is the last thing that its caller does, so the walk ends there.
-/

namespace Xdpd.Classifier

open Xdpd.Lib

/-! ## Constants -/

/-- `LLC_DELIMITER_HBO`. -/
def LLC_DELIMITER_HBO : ℕ := 1536

/-- `VLAN_CTAG_ETHER_TYPE`. -/
def VLAN_CTAG_ETHER_TYPE : BitVec 16 := 0x8100

/-- `VLAN_STAG_ETHER_TYPE`. -/
def VLAN_STAG_ETHER_TYPE : BitVec 16 := 0x88a8

/-- `VLAN_ITAG_ETHER_TYPE`. -/
def VLAN_ITAG_ETHER_TYPE : BitVec 16 := 0x88e7

/-- `ETH_TYPE_MPLS_UNICAST`. -/
def ETH_TYPE_MPLS_UNICAST : BitVec 16 := 0x8847

/-- `ETH_TYPE_MPLS_MULTICAST`. -/
def ETH_TYPE_MPLS_MULTICAST : BitVec 16 := 0x8848

/-- `ETH_TYPE_PPPOE_DISCOVERY`. -/
def ETH_TYPE_PPPOE_DISCOVERY : BitVec 16 := 0x8863

/-- `ETH_TYPE_PPPOE_SESSION`. -/
def ETH_TYPE_PPPOE_SESSION : BitVec 16 := 0x8864

/-- `ETH_TYPE_ARP`. -/
def ETH_TYPE_ARP : BitVec 16 := 0x0806

/-- `ETH_TYPE_IPV4`. -/
def ETH_TYPE_IPV4 : BitVec 16 := 0x0800

/-- `ETH_TYPE_IPV6`. -/
def ETH_TYPE_IPV6 : BitVec 16 := 0x86dd

/-- `ICMPV4_IP_PROTO`. -/
def ICMPV4_IP_PROTO : Byte := 1

/-- `TCP_IP_PROTO`. -/
def TCP_IP_PROTO : Byte := 6

/-- `UDP_IP_PROTO`. -/
def UDP_IP_PROTO : Byte := 17

/-- `GRE_IP_PROTO`. -/
def GRE_IP_PROTO : Byte := 47

/-- `ICMPV6_IP_PROTO`. -/
def ICMPV6_IP_PROTO : Byte := 58

/-- `SCTP_IP_PROTO`. -/
def SCTP_IP_PROTO : Byte := 132

/-- `UDP_DST_PORT_GTPU`. -/
def UDP_DST_PORT_GTPU : BitVec 16 := 2152

/-- `ICMPV6_TYPE_ROUTER_SOLICATION` and the types of the other messages. -/
def NdpMessage.icmpv6Type : NdpMessage → Byte
  | .rtrSol => 133
  | .rtrAdv => 134
  | .neighSol => 135
  | .neighAdv => 136

/-- `sizeof(struct cpc_icmpv6_router_solicitation_hdr)` and the sizes of the other messages. -/
def NdpMessage.sizeof : NdpMessage → ℕ
  | .rtrSol => 8
  | .rtrAdv => 16
  | .neighSol | .neighAdv => 24

/-- `ICMPV6_TYPE_REDIRECT_MESSAGE`. -/
def ICMPV6_TYPE_REDIRECT_MESSAGE : Byte := 137

/-- `ICMPV6_OPT_LLADDR_SOURCE`, `ICMPV6_OPT_LLADDR_TARGET` and `ICMPV6_OPT_PREFIX_INFO`. -/
def Icmpv6Opts.optType : Icmpv6Opts → Byte
  | .lladrSrc => 1
  | .lladrTgt => 2
  | .prefixInfo => 3

/-- The link layer address option that the parser looks for in a message. -/
def NdpMessage.lladr : NdpMessage → Icmpv6Opts
  | .rtrSol | .rtrAdv | .neighSol => .lladrSrc
  | .neighAdv => .lladrTgt

/-! ## Fields -/

/-- Two bytes in network order. -/
def be16 (data : ℕ → Byte) (i : ℕ) : BitVec 16 :=
  data i ++ data (i + 1)

/-- `is_llc_frame`. -/
def isLlcFrame (data : ℕ → Byte) : Bool :=
  (be16 data 12).toNat < LLC_DELIMITER_HBO

/-- Where `get_ether_type` finds the ethertype, in a `cpc_eth_llc_hdr_t` or a `cpc_eth_hdr_t`. -/
def etherTypeOffset (data : ℕ → Byte) : ℕ :=
  if isLlcFrame data then 20 else 12

/-- `sizeof(cpc_eth_llc_hdr_t)` or `sizeof(cpc_eth_hdr_t)`. -/
def etherHdrLen (data : ℕ → Byte) : ℕ :=
  if isLlcFrame data then 22 else 14

/-- The header length of the IPv4 header at `pos`, in words. -/
def ipv4Ihl (data : ℕ → Byte) (pos : ℕ) : ℕ :=
  (data pos &&& 0x0f).toNat

/-- `ipv4_is_fragment`. -/
def ipv4IsFragment (data : ℕ → Byte) (pos : ℕ) : Bool :=
  data (pos + 7) ||| (data (pos + 6) &&& ~~~ 0xc0) ≠ 0

/-- `get_mpls_bos`. -/
def getMplsBos (data : ℕ → Byte) (pos : ℕ) : Bool :=
  data (pos + 2) &&& 0x01 ≠ 0

/-- `a - b` of values of type `size_t`. -/
def subSize (a b : ℕ) : ℕ :=
  if b ≤ a then a - b else a + 2 ^ 64 - b

/-! ## Walks -/

/-- The state of the parser, and what it has done. -/
structure Walk where
  type : PktType
  pos : ℕ
  datalen : ℕ
  reads : List ℕ
  underflow : Bool
  entered : List (Proto × ℕ)
  ethType : ℕ
  missing : Bool

namespace Walk

/-- The byte at `i` is read. -/
@[simps] def read (i : ℕ) (w : Walk) : Walk :=
  { w with reads := i :: w.reads }

/-- The two bytes at `i` are read. -/
@[simp] def read16 (i : ℕ) (w : Walk) : Walk :=
  (w.read i).read (i + 1)

/-- `datalen -= n`. -/
@[simps] def shrink (n : ℕ) (w : Walk) : Walk :=
  { w with
    datalen := subSize w.datalen n
    underflow := w.underflow || decide (w.datalen < n) }

/-- `data += n; datalen -= n`. -/
@[simps] def advance (n : ℕ) (w : Walk) : Walk :=
  { w.shrink n with pos := w.pos + n }

/-- The parser is at a header of the protocol, `skip` bytes ahead. -/
@[simps] def enter (proto : Proto) (skip : ℕ) (w : Walk) : Walk :=
  { w with entered := w.entered ++ [(proto, w.pos + skip)] }

/-- The parser goes on according to the ethertype at `i`. -/
@[simps] def switchOn (i : ℕ) (w : Walk) : Walk :=
  { w with ethType := i }

/-- `clas_state->type = t`. -/
@[simps] def setType (t : PktType) (w : Walk) : Walk :=
  { w with type := t }

/-- `PT_CLASS_ADD_PROTO`, and what follows it. -/
def addProto (proto : UnrolledProto) (next : Walk → Walk) (w : Walk) : Walk :=
  match parseTransitions w.type proto with
  | none => { w with missing := true }
  | some t => next (w.setType t)

lemma addProto_of_some {proto : UnrolledProto} {w : Walk} {t : PktType} (next : Walk → Walk)
    (h : parseTransitions w.type proto = some t) :
    w.addProto proto next = next (w.setType t) := by
  simp only [addProto, h]

lemma addProto_of_none {proto : UnrolledProto} {w : Walk} (next : Walk → Walk)
    (h : parseTransitions w.type proto = none) :
    w.addProto proto next = { w with missing := true } := by
  simp only [addProto, h]

/-- `PT_GET_HDR` finds the header. -/
def has (w : Walk) (proto : Proto) : Bool :=
  (protocolOffset w.type proto).isSome

end Walk

/-! ## The parser -/

/-- A header beyond which nothing is parsed. -/
def parseLast (proto : Proto) (w : Walk) : Walk :=
  (w.enter proto 0).addProto (.of proto) id

/-- `parse_tcp`. -/
def parseTcp (w : Walk) : Walk := parseLast .tcp w

/-- `parse_sctp`. -/
def parseSctp (w : Walk) : Walk := parseLast .sctp w

/-- `parse_icmpv4`. -/
def parseIcmpv4 (w : Walk) : Walk := parseLast .icmpv4 w

/-- `parse_arpv4`. -/
def parseArpv4 (w : Walk) : Walk := parseLast .arpv4 w

/-- `parse_ppp`. -/
def parsePpp (w : Walk) : Walk := parseLast .ppp w

/-- `parse_pbb_isid`. -/
def parsePbbIsid (w : Walk) : Walk := parseLast .isid w

/-- `parse_gtp`. -/
def parseGtp (w : Walk) : Walk :=
  if w.datalen < 12 then w
  else if w.has .ipv4 then parseLast .gtpu4 w
  else if w.has .ipv6 then parseLast .gtpu6 w
  else w

/-- `parse_gre`. -/
def parseGre (w : Walk) : Walk :=
  if w.datalen < 4 then w
  else if w.has .ipv4 then parseLast .gre4 w
  else if w.has .ipv6 then parseLast .gre6 w
  else w

/-- `parse_udp`. -/
def parseUdp (data : ℕ → Byte) (w : Walk) : Walk :=
  let udp := w.pos
  ((w.enter .udp 0).advance 8).addProto (.of .udp) fun w =>
    if 0 < w.datalen then
      let w := w.read16 (udp + 2)
      if be16 data (udp + 2) = UDP_DST_PORT_GTPU then parseGtp w else w
    else w

/-- The `switch` of `parse_ipv4`. -/
def parseIpv4Payload (data : ℕ → Byte) (proto : Byte) (w : Walk) : Walk :=
  if proto = ICMPV4_IP_PROTO then parseIcmpv4 w
  else if proto = UDP_IP_PROTO then parseUdp data w
  else if proto = TCP_IP_PROTO then parseTcp w
  else if proto = SCTP_IP_PROTO then parseSctp w
  else if proto = GRE_IP_PROTO then parseGre w
  else w

/-- `PT_CLASS_ADD_IPV4_OPTIONS`, and what follows it.  The number of options is unsigned: it is not
in the table when the header length is below five words, and then nothing is added. -/
def addIpv4Options (ihl : ℕ) (next : Walk → Walk) (w : Walk) : Walk :=
  if h : 5 ≤ ihl ∧ ihl - 5 < 16 then w.addProto (.ipv4Noptions ⟨ihl - 5, h.2⟩) next else next w

/-- The parser has gone past an IPv4 header, and looks whether it is that of a fragment. -/
def Walk.passIpv4 (data : ℕ → Byte) (w : Walk) : Walk :=
  ((((w.enter .ipv4 0).read w.pos).advance (ipv4Ihl data w.pos * 4)).read (w.pos + 7)).read
    (w.pos + 6)

/-- `parse_ipv4`. -/
def parseIpv4 (data : ℕ → Byte) (w : Walk) : Walk :=
  if ipv4IsFragment data w.pos then w.passIpv4 data
  else
    addIpv4Options (ipv4Ihl data w.pos)
      (fun w' => parseIpv4Payload data (data (w.pos + 9)) (w'.read (w.pos + 9)))
      (w.passIpv4 data)

/-- The case of `parse_icmpv6` for a message of the neighbour discovery protocol. -/
def parseNdp (data : ℕ → Byte) (message : NdpMessage) (w : Walk) : Walk :=
  (w.enter (.icmpv6Ndp message) 4).addProto (.of (.icmpv6Ndp message)) fun w =>
    let w := w.advance message.sizeof
    let w := w.read w.pos
    if data w.pos = message.lladr.optType then parseLast (.icmpv6NdpOpts message) w else w

/-- `parse_icmpv6_opts`. -/
def parseIcmpv6Opts (data : ℕ → Byte) (w : Walk) : Walk :=
  let w := w.read w.pos
  if data w.pos = Icmpv6Opts.lladrSrc.optType then parseLast (.icmpv6Opts .lladrSrc) w
  else if data w.pos = Icmpv6Opts.lladrTgt.optType then parseLast (.icmpv6Opts .lladrTgt) w
  else if data w.pos = Icmpv6Opts.prefixInfo.optType then parseLast (.icmpv6Opts .prefixInfo) w
  else w

/-- The `switch` of `parse_icmpv6`. -/
def parseIcmpv6Payload (data : ℕ → Byte) (type : Byte) (w : Walk) : Walk :=
  if type = NdpMessage.rtrSol.icmpv6Type then parseNdp data .rtrSol w
  else if type = NdpMessage.rtrAdv.icmpv6Type then parseNdp data .rtrAdv w
  else if type = NdpMessage.neighSol.icmpv6Type then parseNdp data .neighSol w
  else if type = NdpMessage.neighAdv.icmpv6Type then parseNdp data .neighAdv w
  else if type = ICMPV6_TYPE_REDIRECT_MESSAGE then
    (w.enter .icmpv6Redirect 4).addProto (.of .icmpv6Redirect) fun w =>
      let w := w.advance 40
      if 0 < w.datalen then parseIcmpv6Opts data w else w
  else w.advance 4

/-- `parse_icmpv6`. -/
def parseIcmpv6 (data : ℕ → Byte) (w : Walk) : Walk :=
  (w.enter .icmpv6 0).addProto (.of .icmpv6) fun w =>
    parseIcmpv6Payload data (data w.pos) (w.read w.pos)

/-- The `switch` of `parse_ipv6`. -/
def parseIpv6Payload (data : ℕ → Byte) (proto : Byte) (w : Walk) : Walk :=
  if proto = ICMPV6_IP_PROTO then parseIcmpv6 data w
  else if proto = UDP_IP_PROTO then parseUdp data w
  else if proto = TCP_IP_PROTO then parseTcp w
  else if proto = SCTP_IP_PROTO then parseSctp w
  else if proto = GRE_IP_PROTO then parseGre w
  else w

/-- `parse_ipv6`. -/
def parseIpv6 (data : ℕ → Byte) (w : Walk) : Walk :=
  let ipv6 := w.pos
  (w.enter .ipv6 0).addProto (.of .ipv6) fun w =>
    parseIpv6Payload data (data (ipv6 + 6)) ((w.advance 40).read (ipv6 + 6))

/-- The loop of `parse_mpls`.  There is no type with more than 32 labels, so the 33rd one is the
last. -/
def parseMplsLoop (data : ℕ → Byte) : ℕ → Walk → Walk
  | 0, w => w
  | n + 1, w =>
      let mpls := w.pos
      ((w.enter .mpls 0).advance 4).addProto (.of .mpls) fun w =>
        let w := w.read (mpls + 2)
        if getMplsBos data mpls then w else parseMplsLoop data n w

/-- `parse_mpls`. -/
def parseMpls (data : ℕ → Byte) (w : Walk) : Walk := parseMplsLoop data 33 w

/-- `parse_pppoe`. -/
def parsePppoe (eth_type : BitVec 16) (w : Walk) : Walk :=
  (w.enter .pppoe 0).addProto (.of .pppoe) fun w =>
    if eth_type = ETH_TYPE_PPPOE_DISCOVERY then w.shrink 6
    else if eth_type = ETH_TYPE_PPPOE_SESSION then parsePpp (w.advance 6)
    else w

/-- The cases that the `switch`es of `parse_vlan` and of `parse_ethernet` have in common. -/
def parseEtherType (data : ℕ → Byte) (eth_type : BitVec 16) (w : Walk) : Walk :=
  if eth_type = VLAN_ITAG_ETHER_TYPE then parsePbbIsid w
  else if eth_type = ETH_TYPE_MPLS_UNICAST ∨ eth_type = ETH_TYPE_MPLS_MULTICAST then
    parseMpls data w
  else if eth_type = ETH_TYPE_PPPOE_DISCOVERY ∨ eth_type = ETH_TYPE_PPPOE_SESSION then
    parsePppoe eth_type w
  else if eth_type = ETH_TYPE_ARP then parseArpv4 w
  else if eth_type = ETH_TYPE_IPV4 then parseIpv4 data w
  else if eth_type = ETH_TYPE_IPV6 then parseIpv6 data w
  else w

/-- The ethertype announces a tag. -/
def IsVlanTag (eth_type : BitVec 16) : Prop :=
  eth_type = VLAN_CTAG_ETHER_TYPE ∨ eth_type = VLAN_STAG_ETHER_TYPE

instance (eth_type : BitVec 16) : Decidable (IsVlanTag eth_type) :=
  inferInstanceAs (Decidable (_ ∨ _))

/-- The loop of `parse_vlan`, and its `switch`.  There is no type with more than two tags, so the
third one ends it. -/
def parseVlanLoop (data : ℕ → Byte) : ℕ → Walk → Walk
  | 0, w => w
  | n + 1, w =>
      let vlan := w.pos
      (((w.enter .vlan 0).advance 4).read16 (vlan + 2)).addProto (.of .vlan) fun w =>
        let w := w.switchOn (vlan + 2)
        if IsVlanTag (be16 data (vlan + 2)) then parseVlanLoop data n w
        else parseEtherType data (be16 data (vlan + 2)) w

/-- `parse_vlan`. -/
def parseVlan (data : ℕ → Byte) (w : Walk) : Walk := parseVlanLoop data 3 w

/-- The parser has gone past the link layer header, and goes on according to its ethertype. -/
def Walk.passEthernet (data : ℕ → Byte) (w : Walk) : Walk :=
  (((((w.enter (if isLlcFrame data then .eth8023 else .ethernet) 0).read16 12).advance
    (etherHdrLen data)).setType (PktType.start (isLlcFrame data))).read16
      (etherTypeOffset data)).switchOn (etherTypeOffset data)

/-- `parse_ethernet`. -/
def parseEthernet (data : ℕ → Byte) (w : Walk) : Walk :=
  if IsVlanTag (be16 data (etherTypeOffset data)) then parseVlan data (w.passEthernet data)
  else parseEtherType data (be16 data (etherTypeOffset data)) (w.passEthernet data)

/-- The parser at the start of a frame of length `len`. -/
def Walk.start (len : ℕ) : Walk where
  type := PktType.start false
  pos := 0
  datalen := len
  reads := []
  underflow := false
  entered := []
  ethType := 0
  missing := false

/-- `classify_packet`, for the frame of length `len` that starts where `data` does. -/
def classifyPacket (data : ℕ → Byte) (len : ℕ) : Walk :=
  parseEthernet data (Walk.start len)

/-- The type that `classify_packet` finds. -/
def classify (data : ℕ → Byte) (len : ℕ) : PktType :=
  (classifyPacket data len).type

end Xdpd.Classifier
