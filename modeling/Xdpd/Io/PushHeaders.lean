import Xdpd.Io.HeaderActions

/-!
# The actions that push headers

The functions `push_*` open a gap in the frame with `pkt_push`, take the type from the table of
transitions, and write the new header where that type says.  A packet that has no transition, or no
room, is left as it is.  Pointers that were taken before the gap is opened are used afterwards: the
packet has to be in user space, where the header that they point to is as many bytes behind as the
gap has.  The Ethernet header is the start of every frame (`getEtherHdr_eq`).

`none` stands for a header that is looked up and used although the type does not have it.
-/

namespace Xdpd.Io

open Xdpd.Lib Xdpd.Classifier

namespace Datapacketx86

variable {S : Type*}

/-! ## VLAN, 802.1ah, MPLS and PPPoE -/

/-- `platform_packet_push_vlan`. -/
def platformPacketPushVlan (ether_type : BitVec 16) (p : Datapacketx86 S) :
    Option (Datapacketx86 S) :=
  match pushTransitions p.type .vlan with
  | none => some p
  | some new =>
      let inner_vlan_header := getVlanHdr p.type
      let inner_ether_type : BitVec 16 := le16 p.getBuffer (etherTypeOffset p.getBuffer)
      match p.push 14 4 with
      | (.failure, p) => some p
      | (.success, p) =>
          (getVlanHdr new).bind fun vlan_header =>
          let setTag : List ((ℕ → Byte) → ℕ → Byte) :=
            match inner_vlan_header with
            | some hdr =>
                [fun mem => setVlanId vlan_header (le16 mem (hdr + 4)) mem,
                 fun mem => setVlanPcp vlan_header (mem (hdr + 4)) mem]
            | none => [setVlanId vlan_header 0, setVlanPcp vlan_header 0]
          some (({ p with type := new }).mapBuffer (writeAll (setTag ++
            [setVlanType vlan_header inner_ether_type, setEtherType 0 ether_type])))

/-- `platform_packet_push_pbb`. -/
def platformPacketPushPbb (ether_type : BitVec 16) (p : Datapacketx86 S) : Datapacketx86 S :=
  match pushTransitions p.type .isid with
  | none => p
  | some new =>
      match p.push 0 18 with
      | (.failure, p) => p
      | (.success, p) =>
          ({ p with type := new }).mapBuffer (writeAll
            [fun mem => setEtherDlDst 0 (ofLeBytes 8 fun i => mem (18 + i)) mem,
             fun mem => setEtherDlSrc 0 (ofLeBytes 8 fun i => mem (18 + 6 + i)) mem,
             setWord 12 ether_type])

/-- `platform_packet_push_mpls`. -/
def platformPacketPushMpls (ether_type : BitVec 16) (p : Datapacketx86 S) :
    Option (Datapacketx86 S) :=
  match pushTransitions p.type .mpls with
  | none => some p
  | some new =>
      let inner_mpls_header := getMplsHdr p.type 0
      let ipv4_hdr := getIpv4Hdr p.type
      let ipv6_hdr := getIpv6Hdr p.type
      match p.pushPoint 14 4 with
      | (.failure, p) => some p
      | (.success, p) =>
          (getMplsHdr new 0).bind fun mpls_header =>
          let setLabel : List ((ℕ → Byte) → ℕ → Byte) :=
            match inner_mpls_header with
            | some hdr =>
                [setMplsBos mpls_header false,
                 fun mem => setMplsLabel mpls_header (ofLeBytes 4 fun i => mem (hdr + 4 + i)) mem,
                 fun mem => setMplsTc mpls_header (mem (hdr + 4 + 2)) mem,
                 fun mem => setMplsTtl mpls_header (mem (hdr + 4 + 3)) mem]
            | none =>
                [setMplsBos mpls_header true, setMplsLabel mpls_header 0, setMplsTc mpls_header 0,
                 fun mem => setMplsTtl mpls_header
                  (match ipv4_hdr, ipv6_hdr with
                    | some hdr, _ => mem (hdr + 4 + 8)
                    | none, some hdr => mem (hdr + 4 + 7)
                    | none, none => 0) mem]
          some (({ p with type := new }).mapBuffer
            (writeAll (setEtherType 0 ether_type :: setLabel)))

/-- The default values of a PPPoE header. -/
def setPppoeDefaults (n_pppoe : ℕ) : List ((ℕ → Byte) → ℕ → Byte) :=
  [setPppoeCode n_pppoe 0, setPppoeSessid n_pppoe 0, setPppoeType n_pppoe 1, setPppoeVers n_pppoe 1]

/-- `platform_packet_push_pppoe`.  The header is looked up whatever the ethertype is. -/
def platformPacketPushPppoe (ether_type : BitVec 16) (p : Datapacketx86 S) :
    Option (Datapacketx86 S) :=
  match pushTransitions p.type .pppoe with
  | none => some p
  | some new =>
      if htonb16 ether_type = ETH_TYPE_PPPOE_SESSION then
        match p.push 14 8 with
        | (.failure, p) => some p
        | (.success, p) =>
            (pushTransitions new .ppp).bind fun new =>
            (getPppHdr new).bind fun n_ppp =>
            (getPppoeHdr new).bind fun n_pppoe =>
            some (({ p with type := new }).mapBuffer (writeAll
              (setEtherType 0 (htonb16 ETH_TYPE_PPPOE_SESSION) :: setPppProt n_ppp 0 ::
                setPppoeDefaults n_pppoe)))
      else if htonb16 ether_type = ETH_TYPE_PPPOE_DISCOVERY then
        match p.pushPoint 14 6 with
        | (.failure, p) => some p
        | (.success, p) =>
            (getPppoeHdr new).bind fun n_pppoe =>
            some (({ p with type := new }).mapBuffer (writeAll
              (setEtherType 0 (htonb16 ETH_TYPE_PPPOE_DISCOVERY) :: setPppoeDefaults n_pppoe)))
      else
        (getPppoeHdr p.type).bind fun n_pppoe =>
        some (p.mapBuffer (writeAll (setPppoeDefaults n_pppoe)))

/-! ## Tunnels -/

/-- `htobe16`. -/
def htobe16 (n : ℕ) : BitVec 16 :=
  htonb16 (BitVec.ofNat 16 n)

/-- The IPv4 header of a tunnel.  The bytes with the fragment offset are not written, but for the
flag DF. -/
def setTunnelIpv4 (ipv4_header length : ℕ) (proto : Byte) (ident : BitVec 16) (ip_ttl : Byte)
    (DF_flag : Bool) : List ((ℕ → Byte) → ℕ → Byte) :=
  [setIpv4Version ipv4_header 0x40, setIpv4Ihl ipv4_header 5, setIpv4Dscp ipv4_header 0,
   setIpv4Ecn ipv4_header 0, setIpv4Length ipv4_header (htobe16 length),
   setIpv4Proto ipv4_header proto, setIpv4Ident ipv4_header ident, setIpv4Src ipv4_header 0,
   setIpv4Dst ipv4_header 0, setIpv4Ttl ipv4_header ip_ttl,
   if DF_flag then setIpv4DFBit ipv4_header else id]

/-- The IPv6 header of a tunnel. -/
def setTunnelIpv6 (ipv6_header payload_length : ℕ) (proto ip_ttl : Byte) :
    List ((ℕ → Byte) → ℕ → Byte) :=
  [setIpv6Version ipv6_header 0x60, setIpv6Dscp ipv6_header 0, setIpv6Ecn ipv6_header 0,
   setIpv6Dst ipv6_header 0, setIpv6Src ipv6_header 0, setIpv6FlowLabel ipv6_header 0,
   setIpv6HopLimit ipv6_header ip_ttl, setIpv6PayloadLength ipv6_header (htobe16 payload_length),
   setIpv6TrafficClass ipv6_header 0, setIpv6NextHeader ipv6_header proto]

/-- The end of `push_gtp`: the UDP header and the GTP header. -/
def setGtpDefaults (payloadlen : ℕ) (p : Datapacketx86 S) : Option (Datapacketx86 S) :=
  (getUdpHdr p.type).bind fun udp_header =>
  (getGtpuHdr p.type).bind fun gtp_header =>
  some ((p.mapBuffer (writeAll
    [setUdpDport udp_header (htonb16 UDP_DST_PORT_GTPU),
     setUdpSport udp_header (htonb16 UDP_DST_PORT_GTPU),
     setUdpLength udp_header (htobe16 (8 + 8 + payloadlen)),
     setGtpuVersion gtp_header 0x20, setGtpuPtFlag gtp_header 0x10, setGtpuEFlag gtp_header 0,
     setGtpuSFlag gtp_header 0, setGtpuPnFlag gtp_header 0, setGtpuMsgType gtp_header 0,
     setGtpuLength gtp_header (htobe16 payloadlen), setGtpuTeid gtp_header 0])
    ).setRecalculateChecksum .udp)

/-- `push_gtp`, with what it has found out about the payload.  The identification comes from the
IPv4 header of the packet, which may not have one. -/
def pushGtpTunnel (ether_type : BitVec 16) (payloadlen : ℕ) (ip_ttl : Byte) (DF_flag : Bool)
    (p : Datapacketx86 S) : Option (Datapacketx86 S) :=
  if htonb16 ether_type = ETH_TYPE_IPV4 then
    (getIpv4Hdr p.type).bind fun ipv4_hdr =>
    let ident := le16 p.getBuffer (ipv4_hdr + 4)
    match pushTransitions p.type .gtpu4 with
    | none => some p
    | some new =>
        match p.push 14 36 with
        | (.failure, p) => some p
        | (.success, p) =>
            (getIpv4Hdr new).bind fun ipv4_header =>
            setGtpDefaults payloadlen ((({ p with type := new }).mapBuffer (writeAll
              (setEtherType 0 (htonb16 ETH_TYPE_IPV4) :: setTunnelIpv4 ipv4_header
                (20 + 8 + 8 + payloadlen) UDP_IP_PROTO ident ip_ttl DF_flag))
              ).setRecalculateChecksum .ipv4)
  else if htonb16 ether_type = ETH_TYPE_IPV6 then
    match pushTransitions p.type .gtpu6 with
    | none => some p
    | some new =>
        match p.push 14 56 with
        | (.failure, p) => some p
        | (.success, p) =>
            (getIpv6Hdr new).bind fun ipv6_header =>
            setGtpDefaults payloadlen (({ p with type := new }).mapBuffer (writeAll
              (setEtherType 0 (htonb16 ETH_TYPE_IPV6) :: setTunnelIpv6 ipv6_header
                (8 + 8 + payloadlen) UDP_IP_PROTO ip_ttl)))
  else setGtpDefaults payloadlen p

/-- `push_gtp`. -/
def pushGtp (ether_type : BitVec 16) (p : Datapacketx86 S) : Option (Datapacketx86 S) :=
  let current_ether_type := be16 p.getBuffer (etherTypeOffset p.getBuffer)
  if current_ether_type = ETH_TYPE_IPV4 then
    match getIpv4Hdr p.type with
    | none => some p
    | some ipv4_header =>
        pushGtpTunnel ether_type (be16 p.getBuffer (ipv4_header + 2)).toNat
          (p.getBuffer (ipv4_header + 8)) (hasIpv4DFBitSet ipv4_header p.getBuffer) p
  else if current_ether_type = ETH_TYPE_IPV6 then
    match getIpv6Hdr p.type with
    | none => some p
    | some ipv6_header =>
        pushGtpTunnel ether_type ((be16 p.getBuffer (ipv6_header + 4)).toNat + 40)
          (p.getBuffer (ipv6_header + 7)) false p
  else some p

/-- `platform_packet_push_gtp`: the checksums are marked whatever `push_gtp` did. -/
def platformPacketPushGtp (ether_type : BitVec 16) (p : Datapacketx86 S) :
    Option (Datapacketx86 S) :=
  (pushGtp ether_type p).bind fun p =>
  let p := if htonb16 ether_type = ETH_TYPE_IPV4 then p.setRecalculateChecksum .ipv4 else p
  some (p.setRecalculateChecksum .udp)

/-- The end of `push_gre`: the GRE header. -/
def setGreDefaults (p : Datapacketx86 S) : Option (Datapacketx86 S) :=
  (getGreHdr p.type).bind fun gre_header =>
  some ((p.mapBuffer (writeAll
    [setGreVersion gre_header 0, setGreCsumFlag gre_header GRE_CSUM_FLAG_MASK,
     setGreKeyFlag gre_header GRE_KEY_FLAG_MASK, setGreSeqnoFlag gre_header 0,
     setGreProtType gre_header GRE_PROT_TYPE_TRANSPARENT_ETHERNET_BRIDGING,
     setGreKey gre_header 0])).setRecalculateChecksum .gre)

/-- The Ethernet header of a GRE tunnel, with the addresses of the packet. -/
def setGreEther (dl_dst dl_src : BitVec 64) (ether_type : BitVec 16) :
    List ((ℕ → Byte) → ℕ → Byte) :=
  [setEtherDlDst 0 dl_dst, setEtherDlSrc 0 dl_src, setWord 12 ether_type]

/-- `platform_packet_push_gre`. -/
def platformPacketPushGre (ether_type : BitVec 16) (p : Datapacketx86 S) :
    Option (Datapacketx86 S) :=
  let payloadlen := p.len
  let dl_dst : BitVec 64 := ofLeBytes 8 p.getBuffer
  let dl_src : BitVec 64 := ofLeBytes 8 fun i => p.getBuffer (6 + i)
  if htonb16 ether_type = ETH_TYPE_IPV4 then
    match pushTransitions p.type .gre4 with
    | none => some p
    | some new =>
        match p.push 0 46 with
        | (.failure, p) => some p
        | (.success, p) =>
            (getIpv4Hdr new).bind fun ipv4_header =>
            setGreDefaults ((({ p with type := new }).mapBuffer (writeAll
              (setGreEther dl_dst dl_src ether_type ++ setTunnelIpv4 ipv4_header
                (20 + 4 + 2 * 4 + payloadlen) GRE_IP_PROTO 0 64 true))
              ).setRecalculateChecksum .ipv4)
  else if htonb16 ether_type = ETH_TYPE_IPV6 then
    match pushTransitions p.type .gre6 with
    | none => some p
    | some new =>
        match p.push 0 66 with
        | (.failure, p) => some p
        | (.success, p) =>
            (getIpv6Hdr new).bind fun ipv6_header =>
            setGreDefaults (({ p with type := new }).mapBuffer (writeAll
              (setGreEther dl_dst dl_src ether_type ++ setTunnelIpv6 ipv6_header
                (4 + 2 * 4 + payloadlen) GRE_IP_PROTO 64)))
  else setGreDefaults p

end Datapacketx86

end Xdpd.Io
