import Xdpd.Classifier.Checksum
import Xdpd.Lib.Memory

/-!
# The fields of the headers

The setters of the `cpc_*` headers, on a memory, for a header at the address `hdr`.  The host is
little-endian, and the values are in network order: a setter writes the bytes of its value, the
least significant one first.  The masks of ROFL select, in these words, the bits that their names
say.
-/

namespace Xdpd.Classifier

open Xdpd.Lib

/-- A word is written. -/
def setWord {w : ℕ} (a : ℕ) (v : BitVec w) (mem : ℕ → Byte) : ℕ → Byte :=
  copyTo a (w / 8) (leBytes v) mem

/-- The bits of a word that are in the mask are written. -/
def setBits {w : ℕ} (a : ℕ) (mask v : BitVec w) (mem : ℕ → Byte) : ℕ → Byte :=
  copyTo a (w / 8)
    (fun i => (leBytes v i &&& leBytes mask i) ||| (mem (a + i) &&& ~~~ leBytes mask i)) mem

lemma setWord_of_not_mem {w a i : ℕ} (v : BitVec w) (mem : ℕ → Byte)
    (h : i < a ∨ a + w / 8 ≤ i) : setWord a v mem i = mem i := by
  rcases h with h | h
  · exact copyTo_of_lt h
  · exact copyTo_of_le h

lemma setBits_of_not_mem {w a i : ℕ} (mask v : BitVec w) (mem : ℕ → Byte)
    (h : i < a ∨ a + w / 8 ≤ i) : setBits a mask v mem i = mem i := by
  rcases h with h | h
  · exact copyTo_of_lt h
  · exact copyTo_of_le h

lemma staysIn_setWord {w a b c : ℕ} (v : BitVec w) (ha : a ≤ c) (hb : c + w / 8 ≤ b) :
    StaysIn a b (setWord c v) :=
  fun mem _ hi => setWord_of_not_mem v mem
    (hi.imp (Nat.lt_of_lt_of_le · ha) (Nat.le_trans hb))

lemma staysIn_setBits {w a b c : ℕ} (mask v : BitVec w) (ha : a ≤ c) (hb : c + w / 8 ≤ b) :
    StaysIn a b (setBits c mask v) :=
  fun mem _ hi => setBits_of_not_mem mask v mem
    (hi.imp (Nat.lt_of_lt_of_le · ha) (Nat.le_trans hb))

/-- A byte that the mask leaves out stays. -/
lemma setBits_of_mask {w a i : ℕ} {mask : BitVec w} (v : BitVec w) (mem : ℕ → Byte)
    (h : leBytes mask i = 0) : setBits a mask v mem (a + i) = mem (a + i) := by
  by_cases hi : i < w / 8
  · rw [setBits, copyTo_add hi, h]
    change (leBytes v i &&& 0#8) ||| (mem (a + i) &&& ~~~ 0#8) = mem (a + i)
    rw [BitVec.and_zero, BitVec.zero_or, BitVec.not_zero, BitVec.and_allOnes]
  · exact setBits_of_not_mem mask v mem (Or.inr (by omega))

/-- Writing what is there changes nothing. -/
lemma setWord_eq_self {w a : ℕ} {v : BitVec w} {mem : ℕ → Byte}
    (h : ∀ i < w / 8, mem (a + i) = leBytes v i) : setWord a v mem = mem := by
  refine funext fun j => ?_
  by_cases hj : a ≤ j ∧ j < a + w / 8
  · obtain ⟨i, rfl⟩ := Nat.exists_eq_add_of_le hj.1
    have hi : i < w / 8 := by omega
    rw [setWord, copyTo_add hi, h i hi]
  · have hout : j < a ∨ a + w / 8 ≤ j := by omega
    exact setWord_of_not_mem v mem hout

lemma setByte_eq_self {a : ℕ} {v : Byte} {mem : ℕ → Byte} (h : mem a = v) :
    setWord a v mem = mem := by
  refine setWord_eq_self fun i hi => ?_
  have hzero : i = 0 := by omega
  have hbyte : leBytes v 0 = v := BitVec.extractLsb'_eq_self
  rw [hzero, hbyte]
  exact h

lemma spares_setWord {w a b c : ℕ} (v : BitVec w) (h : b ≤ c ∨ c + w / 8 ≤ a) :
    Spares a b (setWord c v) :=
  (staysIn_setWord v (Nat.le_refl c) (Nat.le_refl _)).spares h

lemma spares_setBits {w a b c : ℕ} (mask v : BitVec w) (h : b ≤ c ∨ c + w / 8 ≤ a) :
    Spares a b (setBits c mask v) :=
  (staysIn_setBits mask v (Nat.le_refl c) (Nat.le_refl _)).spares h

/-- A word that has been written is read back in network order with its bytes swapped, if the writes
that follow spare it. -/
lemma be16_writeAll {a : ℕ} {v : BitVec 16} (before : List ((ℕ → Byte) → ℕ → Byte))
    {after : List ((ℕ → Byte) → ℕ → Byte)} (h : ∀ write ∈ after, Spares a (a + 2) write)
    (mem : ℕ → Byte) : be16 (writeAll (before ++ setWord a v :: after) mem) a = htonb16 v := by
  have hspares := Spares.writeAll h (setWord a v (writeAll before mem))
  have hfirst : setWord a v (writeAll before mem) a = leBytes v 0 :=
    copyTo_add (by decide : 0 < 16 / 8)
  have hsecond : setWord a v (writeAll before mem) (a + 1) = leBytes v 1 :=
    copyTo_add (by decide : 1 < 16 / 8)
  rw [writeAll_append]
  show be16 (writeAll after (setWord a v (writeAll before mem))) a = htonb16 v
  rw [be16, hspares a (Nat.le_refl a) (by omega), hspares (a + 1) (by omega) (by omega), hfirst,
    hsecond]
  rfl

/-! ## Masks -/

/-- `OF1X_6_BYTE_MASK`. -/
def OF1X_6_BYTE_MASK : BitVec 64 := 0x0000ffffffffffff

/-- `OF1X_3_BYTE_MASK`. -/
def OF1X_3_BYTE_MASK : BitVec 32 := 0x00ffffff

/-- `OF1X_20_BITS_MASK`. -/
def OF1X_20_BITS_MASK : BitVec 32 := 0x00f0ffff

/-- `OF1X_20_BITS_IPV6_FLABEL_MASK`. -/
def OF1X_20_BITS_IPV6_FLABEL_MASK : BitVec 32 := 0x00ffff0f

/-- `OF1X_VLAN_ID_MASK`. -/
def OF1X_VLAN_ID_MASK : BitVec 16 := 0xff0f

/-- `OF1X_8MIDDLE_BITS_MASK`. -/
def OF1X_8MIDDLE_BITS_MASK : BitVec 16 := 0xf00f

/-- `OF1X_3MSBITS_MASK`. -/
def OF1X_3MSBITS_MASK : Byte := 0xe0

/-- `OF1X_4MSBITS_MASK`. -/
def OF1X_4MSBITS_MASK : Byte := 0xf0

/-- `OF1X_6MSBITS_MASK`. -/
def OF1X_6MSBITS_MASK : Byte := 0xfc

/-- `OF1X_2LSBITS_MASK`. -/
def OF1X_2LSBITS_MASK : Byte := 0x03

/-- `OF1X_4LSBITS_MASK`. -/
def OF1X_4LSBITS_MASK : Byte := 0x0f

/-- `OF1X_6LSBITS_MASK`. -/
def OF1X_6LSBITS_MASK : Byte := 0x3f

/-- `OF1X_BITS_12AND3_MASK`. -/
def OF1X_BITS_12AND3_MASK : Byte := 0x0e

/-- `OF1X_BITS_2AND3_MASK`. -/
def OF1X_BITS_2AND3_MASK : Byte := 0x0c

/-- `OF1X_BITS_4AND5_MASK`. -/
def OF1X_BITS_4AND5_MASK : Byte := 0x30

/-- `OF1X_BIT6_MASK`. -/
def OF1X_BIT6_MASK : Byte := 0x40

/-- `OF1X_BIT4_MASK`. -/
def OF1X_BIT4_MASK : Byte := 0x10

/-- `OF1X_BIT2_MASK`. -/
def OF1X_BIT2_MASK : Byte := 0x04

/-- `OF1X_BIT1_MASK`. -/
def OF1X_BIT1_MASK : Byte := 0x02

/-- `OF1X_BIT0_MASK`. -/
def OF1X_BIT0_MASK : Byte := 0x01

section Setters

variable (hdr : ℕ)

/-! ## Ethernet, 802.1Q and 802.1ah -/

/-- `set_ether_dl_dst`. -/
def setEtherDlDst (dl_dst : BitVec 64) : (ℕ → Byte) → ℕ → Byte :=
  setBits hdr OF1X_6_BYTE_MASK dl_dst

/-- `set_ether_dl_src`. -/
def setEtherDlSrc (dl_src : BitVec 64) : (ℕ → Byte) → ℕ → Byte :=
  setBits (hdr + 6) OF1X_6_BYTE_MASK dl_src

/-- `set_ether_type`. -/
def setEtherType (dl_type : BitVec 16) (mem : ℕ → Byte) : ℕ → Byte :=
  setWord (hdr + etherTypeOffset fun i => mem (hdr + i)) dl_type mem

/-- `set_vlan_id`. -/
def setVlanId (vid : BitVec 16) : (ℕ → Byte) → ℕ → Byte :=
  setBits hdr OF1X_VLAN_ID_MASK vid

/-- `set_vlan_pcp`. -/
def setVlanPcp (pcp : Byte) : (ℕ → Byte) → ℕ → Byte :=
  setBits hdr OF1X_3MSBITS_MASK pcp

/-- `set_vlan_type`. -/
def setVlanType (dl_type : BitVec 16) : (ℕ → Byte) → ℕ → Byte :=
  setWord (hdr + 2) dl_type

/-- `set_pbb_isid`. -/
def setPbbIsid (i_tag : BitVec 32) : (ℕ → Byte) → ℕ → Byte :=
  setBits (hdr + 1) OF1X_3_BYTE_MASK i_tag

/-! ## MPLS and PPPoE -/

/-- `set_mpls_label`. -/
def setMplsLabel (label : BitVec 32) : (ℕ → Byte) → ℕ → Byte :=
  setBits hdr OF1X_20_BITS_MASK label

/-- `set_mpls_tc`. -/
def setMplsTc (tc : Byte) : (ℕ → Byte) → ℕ → Byte :=
  setBits (hdr + 2) OF1X_BITS_12AND3_MASK tc

/-- `set_mpls_ttl`. -/
def setMplsTtl (ttl : Byte) : (ℕ → Byte) → ℕ → Byte :=
  setWord (hdr + 3) ttl

/-- `dec_mpls_ttl`. -/
def decMplsTtl (mem : ℕ → Byte) : ℕ → Byte :=
  setWord (hdr + 3) (mem (hdr + 3) - 1) mem

/-- `set_mpls_bos`. -/
def setMplsBos (flag : Bool) : (ℕ → Byte) → ℕ → Byte :=
  setBits (hdr + 2) OF1X_BIT0_MASK (if flag then OF1X_BIT0_MASK else 0)

/-- `set_pppoe_vers`. -/
def setPppoeVers (version : Byte) : (ℕ → Byte) → ℕ → Byte :=
  setBits hdr OF1X_4MSBITS_MASK version

/-- `set_pppoe_type`. -/
def setPppoeType (type : Byte) : (ℕ → Byte) → ℕ → Byte :=
  setBits hdr OF1X_4LSBITS_MASK type

/-- `set_pppoe_code`. -/
def setPppoeCode (code : Byte) : (ℕ → Byte) → ℕ → Byte :=
  setWord (hdr + 1) code

/-- `set_pppoe_sessid`. -/
def setPppoeSessid (sessid : BitVec 16) : (ℕ → Byte) → ℕ → Byte :=
  setWord (hdr + 2) sessid

/-- `set_ppp_prot`. -/
def setPppProt (prot : BitVec 16) : (ℕ → Byte) → ℕ → Byte :=
  setWord hdr prot

/-! ## ARP -/

/-- `set_arpv4_opcode`. -/
def setArpv4Opcode (opcode : BitVec 16) : (ℕ → Byte) → ℕ → Byte :=
  setWord (hdr + 6) opcode

/-- `set_arpv4_dl_src`. -/
def setArpv4DlSrc (dl_src : BitVec 64) : (ℕ → Byte) → ℕ → Byte :=
  setBits (hdr + 8) OF1X_6_BYTE_MASK dl_src

/-- `set_arpv4_ip_src`. -/
def setArpv4IpSrc (ip_src : BitVec 32) : (ℕ → Byte) → ℕ → Byte :=
  setWord (hdr + 14) ip_src

/-- `set_arpv4_dl_dst`. -/
def setArpv4DlDst (dl_dst : BitVec 64) : (ℕ → Byte) → ℕ → Byte :=
  setBits (hdr + 18) OF1X_6_BYTE_MASK dl_dst

/-- `set_arpv4_ip_dst`. -/
def setArpv4IpDst (ip_dst : BitVec 32) : (ℕ → Byte) → ℕ → Byte :=
  setWord (hdr + 24) ip_dst

/-! ## IPv4 -/

/-- `set_ipv4_version`. -/
def setIpv4Version (version : Byte) : (ℕ → Byte) → ℕ → Byte :=
  setBits hdr OF1X_4MSBITS_MASK version

/-- `set_ipv4_ihl`: the bits that are added do not overlap. -/
def setIpv4Ihl (ihl : Byte) : (ℕ → Byte) → ℕ → Byte :=
  setBits hdr OF1X_4LSBITS_MASK ihl

/-- `set_ipv4_length`. -/
def setIpv4Length (length : BitVec 16) : (ℕ → Byte) → ℕ → Byte :=
  setWord (hdr + 2) length

/-- `set_ipv4_ident`. -/
def setIpv4Ident (ident : BitVec 16) : (ℕ → Byte) → ℕ → Byte :=
  setWord (hdr + 4) ident

/-- `set_ipv4_DF_bit`. -/
def setIpv4DFBit (mem : ℕ → Byte) : ℕ → Byte :=
  setWord (hdr + 6) (mem (hdr + 6) ||| OF1X_BIT6_MASK) mem

/-- `has_ipv4_DF_bit_set`. -/
def hasIpv4DFBitSet (mem : ℕ → Byte) : Bool :=
  mem (hdr + 6) &&& OF1X_BIT6_MASK ≠ 0

/-- `set_ipv4_dscp`. -/
def setIpv4Dscp (dscp : Byte) : (ℕ → Byte) → ℕ → Byte :=
  setBits (hdr + 1) OF1X_6MSBITS_MASK dscp

/-- `set_ipv4_ecn`. -/
def setIpv4Ecn (ecn : Byte) : (ℕ → Byte) → ℕ → Byte :=
  setBits (hdr + 1) OF1X_2LSBITS_MASK ecn

/-- `set_ipv4_ttl`. -/
def setIpv4Ttl (ttl : Byte) : (ℕ → Byte) → ℕ → Byte :=
  setWord (hdr + 8) ttl

/-- `dec_ipv4_ttl`. -/
def decIpv4Ttl (mem : ℕ → Byte) : ℕ → Byte :=
  setWord (hdr + 8) (mem (hdr + 8) - 1) mem

/-- `set_ipv4_proto`. -/
def setIpv4Proto (proto : Byte) : (ℕ → Byte) → ℕ → Byte :=
  setWord (hdr + 9) proto

/-- `set_ipv4_src`. -/
def setIpv4Src (src : BitVec 32) : (ℕ → Byte) → ℕ → Byte :=
  setWord (hdr + 12) src

/-- `set_ipv4_dst`. -/
def setIpv4Dst (dst : BitVec 32) : (ℕ → Byte) → ℕ → Byte :=
  setWord (hdr + 16) dst

/-! ## IPv6 -/

/-- `set_ipv6_version`: the bits that are added do not overlap. -/
def setIpv6Version (version : Byte) : (ℕ → Byte) → ℕ → Byte :=
  setBits hdr OF1X_4MSBITS_MASK version

/-- `set_ipv6_traffic_class`. -/
def setIpv6TrafficClass (tc : BitVec 16) : (ℕ → Byte) → ℕ → Byte :=
  setBits hdr OF1X_8MIDDLE_BITS_MASK tc

/-- `set_ipv6_payload_length`. -/
def setIpv6PayloadLength (len : BitVec 16) : (ℕ → Byte) → ℕ → Byte :=
  setWord (hdr + 4) len

/-- `set_ipv6_dscp`. -/
def setIpv6Dscp (dscp : Byte) (mem : ℕ → Byte) : ℕ → Byte :=
  setWord (hdr + 1)
    ((mem (hdr + 1) &&& OF1X_6LSBITS_MASK) ||| ((dscp &&& OF1X_BITS_2AND3_MASK) <<< 4))
    (setWord hdr ((mem hdr &&& OF1X_4MSBITS_MASK) ||| ((dscp &&& OF1X_4MSBITS_MASK) >>> 4)) mem)

/-- `set_ipv6_ecn`. -/
def setIpv6Ecn (ecn : Byte) : (ℕ → Byte) → ℕ → Byte :=
  setBits (hdr + 1) OF1X_BITS_4AND5_MASK (ecn <<< 4)

/-- `set_ipv6_flow_label`. -/
def setIpv6FlowLabel (flabel : BitVec 32) : (ℕ → Byte) → ℕ → Byte :=
  setBits (hdr + 1) OF1X_20_BITS_IPV6_FLABEL_MASK flabel

/-- `set_ipv6_next_header`. -/
def setIpv6NextHeader (nxthdr : Byte) : (ℕ → Byte) → ℕ → Byte :=
  setWord (hdr + 6) nxthdr

/-- `set_ipv6_hop_limit`. -/
def setIpv6HopLimit (hops : Byte) : (ℕ → Byte) → ℕ → Byte :=
  setWord (hdr + 7) hops

/-- `dec_ipv6_hop_limit`. -/
def decIpv6HopLimit (mem : ℕ → Byte) : ℕ → Byte :=
  setWord (hdr + 7) (mem (hdr + 7) - 1) mem

/-- `set_ipv6_src`. -/
def setIpv6Src (src : BitVec 128) : (ℕ → Byte) → ℕ → Byte :=
  setWord (hdr + 8) src

/-- `set_ipv6_dst`. -/
def setIpv6Dst (dst : BitVec 128) : (ℕ → Byte) → ℕ → Byte :=
  setWord (hdr + 24) dst

/-! ## Above IP -/

/-- `set_icmpv4_type`. -/
def setIcmpv4Type (type : Byte) : (ℕ → Byte) → ℕ → Byte :=
  setWord hdr type

/-- `set_icmpv4_code`. -/
def setIcmpv4Code (code : Byte) : (ℕ → Byte) → ℕ → Byte :=
  setWord (hdr + 1) code

/-- `set_icmpv6_type`. -/
def setIcmpv6Type (type : Byte) : (ℕ → Byte) → ℕ → Byte :=
  setWord hdr type

/-- `set_icmpv6_code`. -/
def setIcmpv6Code (code : Byte) : (ℕ → Byte) → ℕ → Byte :=
  setWord (hdr + 1) code

/-- `set_icmpv6_neighbor_taddr`: the messages that have a target address all have it at the same
place. -/
def setIcmpv6NeighborTaddr (taddr : BitVec 128) (mem : ℕ → Byte) : ℕ → Byte :=
  if mem hdr = NdpMessage.neighSol.icmpv6Type ∨ mem hdr = NdpMessage.neighAdv.icmpv6Type ∨
      mem hdr = ICMPV6_TYPE_REDIRECT_MESSAGE then
    setWord (hdr + 8) taddr mem
  else mem

/-- `set_icmpv6_ll_saddr`, for the header of the option. -/
def setIcmpv6LlSaddr (saddr : BitVec 64) : (ℕ → Byte) → ℕ → Byte :=
  setBits (hdr + 2) OF1X_6_BYTE_MASK saddr

/-- `set_icmpv6_ll_taddr`, for the header of the option. -/
def setIcmpv6LlTaddr (taddr : BitVec 64) : (ℕ → Byte) → ℕ → Byte :=
  setBits (hdr + 2) OF1X_6_BYTE_MASK taddr

/-- `set_tcp_sport`. -/
def setTcpSport (sport : BitVec 16) : (ℕ → Byte) → ℕ → Byte :=
  setWord hdr sport

/-- `set_tcp_dport`. -/
def setTcpDport (dport : BitVec 16) : (ℕ → Byte) → ℕ → Byte :=
  setWord (hdr + 2) dport

/-- `set_udp_sport`. -/
def setUdpSport (sport : BitVec 16) : (ℕ → Byte) → ℕ → Byte :=
  setWord hdr sport

/-- `set_udp_dport`. -/
def setUdpDport (dport : BitVec 16) : (ℕ → Byte) → ℕ → Byte :=
  setWord (hdr + 2) dport

/-- `set_udp_length`. -/
def setUdpLength (length : BitVec 16) : (ℕ → Byte) → ℕ → Byte :=
  setWord (hdr + 4) length

/-- `set_sctp_sport`. -/
def setSctpSport (port : BitVec 16) : (ℕ → Byte) → ℕ → Byte :=
  setWord hdr port

/-- `set_sctp_dport`. -/
def setSctpDport (port : BitVec 16) : (ℕ → Byte) → ℕ → Byte :=
  setWord (hdr + 2) port

/-- `set_gtpu_version`. -/
def setGtpuVersion (version : Byte) : (ℕ → Byte) → ℕ → Byte :=
  setBits hdr OF1X_3MSBITS_MASK version

/-- `set_gtpu_pt_flag`. -/
def setGtpuPtFlag (pt_flag : Byte) : (ℕ → Byte) → ℕ → Byte :=
  setBits hdr OF1X_BIT4_MASK pt_flag

/-- `set_gtpu_e_flag`. -/
def setGtpuEFlag (ext_flag : Byte) : (ℕ → Byte) → ℕ → Byte :=
  setBits hdr OF1X_BIT2_MASK ext_flag

/-- `set_gtpu_s_flag`. -/
def setGtpuSFlag (seqno_flag : Byte) : (ℕ → Byte) → ℕ → Byte :=
  setBits hdr OF1X_BIT1_MASK seqno_flag

/-- `set_gtpu_pn_flag`. -/
def setGtpuPnFlag (npdu_flag : Byte) : (ℕ → Byte) → ℕ → Byte :=
  setBits hdr OF1X_BIT0_MASK npdu_flag

/-- `set_gtpu_length`. -/
def setGtpuLength (length : BitVec 16) : (ℕ → Byte) → ℕ → Byte :=
  setWord (hdr + 2) length

/-- `set_gtpu_msg_type`. -/
def setGtpuMsgType (msgtype : Byte) : (ℕ → Byte) → ℕ → Byte :=
  setWord (hdr + 1) msgtype

/-- `set_gtpu_teid`. -/
def setGtpuTeid (teid : BitVec 32) : (ℕ → Byte) → ℕ → Byte :=
  setWord (hdr + 4) teid

/-! ## GRE -/

/-- `GRE_CSUM_FLAG_MASK`. -/
def GRE_CSUM_FLAG_MASK : BitVec 16 := 0x0080

/-- `GRE_KEY_FLAG_MASK`. -/
def GRE_KEY_FLAG_MASK : BitVec 16 := 0x0020

/-- `GRE_SEQNO_FLAG_MASK`. -/
def GRE_SEQNO_FLAG_MASK : BitVec 16 := 0x0010

/-- `GRE_VERSION_MASK`. -/
def GRE_VERSION_MASK : BitVec 16 := 0x0300

/-- `GRE_PROT_TYPE_TRANSPARENT_ETHERNET_BRIDGING`. -/
def GRE_PROT_TYPE_TRANSPARENT_ETHERNET_BRIDGING : BitVec 16 := 0x5865

/-- `set_gre_csum_flag`. -/
def setGreCsumFlag (flag : BitVec 16) : (ℕ → Byte) → ℕ → Byte :=
  setBits hdr GRE_CSUM_FLAG_MASK flag

/-- `set_gre_key_flag`. -/
def setGreKeyFlag (flag : BitVec 16) : (ℕ → Byte) → ℕ → Byte :=
  setBits hdr GRE_KEY_FLAG_MASK flag

/-- `set_gre_seqno_flag`. -/
def setGreSeqnoFlag (flag : BitVec 16) : (ℕ → Byte) → ℕ → Byte :=
  setBits hdr GRE_SEQNO_FLAG_MASK flag

/-- `set_gre_version`. -/
def setGreVersion (version : BitVec 16) : (ℕ → Byte) → ℕ → Byte :=
  setBits hdr GRE_VERSION_MASK version

/-- `set_gre_prot_type`. -/
def setGreProtType (prot_type : BitVec 16) : (ℕ → Byte) → ℕ → Byte :=
  setWord (hdr + 2) prot_type

/-- `set_gre_key`. -/
def setGreKey (key : BitVec 32) (mem : ℕ → Byte) : ℕ → Byte :=
  if le16 mem hdr &&& GRE_KEY_FLAG_MASK ≠ 0 then
    if le16 mem hdr &&& GRE_CSUM_FLAG_MASK ≠ 0 then setWord (hdr + 8) key mem
    else setWord (hdr + 4) key mem
  else mem

/-! ## The checksum flag of GRE -/

/-- The flag is in the first byte. -/
lemma greCsumFlag_congr {mem mem' : ℕ → Byte} (h : mem' hdr = mem hdr) :
    le16 mem' hdr &&& GRE_CSUM_FLAG_MASK = le16 mem hdr &&& GRE_CSUM_FLAG_MASK := by
  have hmask : GRE_CSUM_FLAG_MASK = BitVec.twoPow 16 7 := by decide
  have hbit (mem : ℕ → Byte) : (le16 mem hdr).getLsbD 7 = (mem hdr).getLsbD 7 := by
    rw [le16, BitVec.getLsbD_append, if_pos (by decide)]
  rw [hmask, BitVec.and_twoPow, BitVec.and_twoPow, hbit, hbit, h]

lemma setGreVersion_flag (version : BitVec 16) (mem : ℕ → Byte) :
    setGreVersion hdr version mem hdr = mem hdr :=
  setBits_of_mask (i := 0) version mem (by decide)

end Setters

/-! ## Where the ethertype is written -/

section EtherType

variable {mem : ℕ → Byte} {v : BitVec 16} {i : ℕ}

lemma setEtherType_eq_setWord (v : BitVec 16) (mem : ℕ → Byte) :
    setEtherType 0 v mem = setWord (etherTypeOffset mem) v mem := by
  have hself : (fun i => mem (0 + i)) = mem := funext fun i => by rw [Nat.zero_add]
  rw [setEtherType, hself, Nat.zero_add]

lemma setEtherType_of_not_mem (h : i < etherTypeOffset mem ∨ etherTypeOffset mem + 2 ≤ i) :
    setEtherType 0 v mem i = mem i := by
  rw [setEtherType_eq_setWord]
  exact setWord_of_not_mem v mem h

lemma setEtherType_of_mem (hle : etherTypeOffset mem ≤ i) (hlt : i < etherTypeOffset mem + 2) :
    setEtherType 0 v mem i = leBytes v (i - etherTypeOffset mem) := by
  obtain ⟨j, rfl⟩ := Nat.exists_eq_add_of_le hle
  rw [setEtherType_eq_setWord, setWord, copyTo_add (by omega), Nat.add_sub_cancel_left]

end EtherType

end Xdpd.Classifier
