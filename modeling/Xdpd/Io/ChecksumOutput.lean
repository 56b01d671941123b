import Xdpd.Classifier.Sctp
import Xdpd.Classifier.Verify
import Xdpd.Io.HeaderActions

/-!
# Checksums on output

`calculate_checksums_in_software` calculates the checksums that are marked, for the headers that the
type of the packet has at that moment.
-/

namespace Xdpd.Io

open Xdpd.Lib Xdpd.Classifier

/-- `*get_ipv4_src(hdr)`. -/
def ipv4Src (mem : ℕ → Byte) (hdr : ℕ) : BitVec 32 :=
  ofLeBytes 4 fun i => mem (hdr + 12 + i)

/-- `*get_ipv4_dst(hdr)`. -/
def ipv4Dst (mem : ℕ → Byte) (hdr : ℕ) : BitVec 32 :=
  ofLeBytes 4 fun i => mem (hdr + 16 + i)

/-- `*get_ipv6_src(hdr)`. -/
def ipv6Src (mem : ℕ → Byte) (hdr : ℕ) : ℕ → Byte :=
  fun i => mem (hdr + 8 + i)

/-- `*get_ipv6_dst(hdr)`. -/
def ipv6Dst (mem : ℕ → Byte) (hdr : ℕ) : ℕ → Byte :=
  fun i => mem (hdr + 24 + i)

namespace Datapacketx86

variable {S : Type*} (p : Datapacketx86 S)

/-- `get_pkt_len(pkt, clas_state, hdr, NULL)`, in the 16 bits that the routines take. -/
def getPktLen (hdr : ℕ) : BitVec 16 :=
  BitVec.ofNat 16 (subSize p.len hdr)

/-- The header of a checksum that is marked. -/
def marked (type : CalculateChecksum) (get : PktType → Option ℕ) : Option ℕ :=
  if p.isRecalculateChecksumFlagSet type then get p.type else none

/-- The checksum of the IPv4 header. -/
def recalculateIpv4 (mem : ℕ → Byte) : ℕ → Byte :=
  match p.marked .ipv4 getIpv4Hdr with
  | some hdr => ipv4CalcChecksum mem hdr
  | none => mem

/-- The checksum above an IPv4 header. -/
def recalculateAboveIpv4 (mem : ℕ → Byte) : ℕ → Byte :=
  match getIpv4Hdr p.type with
  | none => mem
  | some fipv4 =>
      let ip_src := ipv4Src mem fipv4
      let ip_dst := ipv4Dst mem fipv4
      let ip_proto := mem (fipv4 + 9)
      match p.marked .tcp getTcpHdr with
      | some hdr => tcpv4CalcChecksum mem hdr ip_src ip_dst ip_proto (p.getPktLen hdr)
      | none =>
          match p.marked .udp getUdpHdr with
          | some hdr => udpv4CalcChecksum mem hdr ip_src ip_dst ip_proto (p.getPktLen hdr)
          | none =>
              match p.marked .icmpv4 getIcmpv4Hdr with
              | some hdr => icmpv4CalcChecksum mem hdr (p.getPktLen hdr)
              | none =>
                  match p.marked .gre getGreHdr with
                  | some hdr => grev4CalcChecksum mem hdr ip_src ip_dst ip_proto (p.getPktLen hdr)
                  | none => mem

/-- The checksum above an IPv6 header. -/
def recalculateAboveIpv6 (mem : ℕ → Byte) : ℕ → Byte :=
  match getIpv6Hdr p.type with
  | none => mem
  | some fipv6 =>
      let ip_src := ipv6Src mem fipv6
      let ip_dst := ipv6Dst mem fipv6
      match p.marked .tcp getTcpHdr with
      | some hdr => tcpv6CalcChecksum mem hdr ip_src ip_dst TCP_IP_PROTO (p.getPktLen hdr)
      | none =>
          match p.marked .udp getUdpHdr with
          | some hdr => udpv6CalcChecksum mem hdr ip_src ip_dst UDP_IP_PROTO (p.getPktLen hdr)
          | none =>
              match p.marked .icmpv6 getIcmpv6Hdr with
              | some hdr =>
                  icmpv6CalcChecksum mem hdr ip_src ip_dst ICMPV6_IP_PROTO (p.getPktLen hdr)
              | none =>
                  match p.marked .gre getGreHdr with
                  | some hdr =>
                      grev6CalcChecksum mem hdr ip_src ip_dst GRE_IP_PROTO (p.getPktLen hdr)
                  | none => mem

/-- The checksum of SCTP. -/
def recalculateSctp (mem : ℕ → Byte) : ℕ → Byte :=
  match p.marked .sctp getSctpHdr with
  | some hdr => sctpCalcChecksum mem hdr (p.getPktLen hdr)
  | none => mem

/-- `calculate_checksums_in_software`. -/
def calculateChecksumsInSoftware : Datapacketx86 S :=
  p.mapBuffer fun mem =>
    p.recalculateSctp (p.recalculateAboveIpv6 (p.recalculateAboveIpv4 (p.recalculateIpv4 mem)))

end Datapacketx86

end Xdpd.Io
