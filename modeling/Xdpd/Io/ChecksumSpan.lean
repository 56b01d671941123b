import Xdpd.Classifier.PaddedSegments
import Xdpd.Classifier.StoredChecksums
import Xdpd.Io.ChecksumUpToDate
import Xdpd.Io.FrameWindow

/-!
# The span of the checksums on output

The routines above IP are handed what is left of the frame after the header.  The segment ends where
the datagram does, by the length in the IP header, and an Ethernet frame may go on with padding.
What is stored is valid for the segment if and only if what follows it drops out, and in UDP it is
not zero: `segmentValid_output_iff`.
-/

namespace Xdpd.Io

open Xdpd.Lib Xdpd.Classifier

/-! ## Segments -/

/-- The end of the datagram: the total length counts from the IPv4 header on, the payload length
from the end of the IPv6 header on. -/
def datagramEnd (t : PktType) (mem : ℕ → Byte) : Option ℕ :=
  match getIpv4Hdr t, getIpv6Hdr t with
  | some fipv4, _ => some (fipv4 + (be16 mem (fipv4 + 2)).toNat)
  | none, some fipv6 => some (fipv6 + 40 + (be16 mem (fipv6 + 4)).toNat)
  | none, none => none

namespace Datapacketx86

variable {S : Type*}

/-- The segment from `hdr` to `stop` is the one that the IP header delimits.  It is in the frame,
and it has the checksum. -/
structure Delimits (p : Datapacketx86 S) (type : CalculateChecksum) (hdr stop : ℕ) : Prop where
  header : checksumHdr p.type type = some hdr
  datagram : datagramEnd p.type p.getBuffer = some stop
  field : hdr + type.fieldEnd ≤ stop
  inFrame : stop ≤ p.len

/-- The checksum is valid for the segment that the IP header delimits. -/
def SegmentValid (p : Datapacketx86 S) (type : CalculateChecksum) : Prop :=
  ∃ hdr stop, p.Delimits type hdr stop ∧ ValidAt p.type stop p.getBuffer hdr type

/-- What follows the segment drops out of the checksum.  The routines with a pseudo header add it up
together with the difference of the lengths; that of ICMPv4 folds once; the register of SCTP comes
back to where it was. -/
def DropsOut (p : Datapacketx86 S) (hdr stop : ℕ) : CalculateChecksum → Prop
  | .tcp | .udp | .icmpv6 => 65535 ∣ (p.len - stop) +
      wordSum (wordsBehind p.getBuffer hdr (stop - hdr) (p.len - stop))
  | .icmpv4 =>
      let zeroed := setLe16 p.getBuffer (hdr + 2) 0
      let words := hostWords zeroed hdr ((p.len - hdr) / 2)
      wordSum (segmentWords zeroed hdr (stop - hdr)) + carryCut words ≡ wordSum words [MOD 65535] ∧
        (wordSum (segmentWords zeroed hdr (stop - hdr)) = 0 →
          endAround 65536 (wordSum words) % 65536 ≠ 65535)
  | .sctp =>
      let zeroed := copyTo (hdr + 8) 4 (leBytes (0 : BitVec 32)) p.getBuffer
      let register := crc CRC32C_POLY.reverse (~~~ 0) (segment zeroed hdr (stop - hdr))
      crc CRC32C_POLY.reverse register (segment p.getBuffer stop (p.len - stop)) = register
  | .ipv4 | .gre => True

section Span

variable {p : Datapacketx86 S} {type : CalculateChecksum} {t : PktType} {hdr stop n m k : ℕ}
  {mem mem' : ℕ → Byte}

/-! ## The length in the pseudo header -/

lemma append_bytes (v : BitVec 16) : v.extractLsb' 8 8 ++ v.setWidth 8 = v := by
  have hlt : v.toNat < 2 ^ 16 := v.isLt
  refine BitVec.eq_of_toNat_eq ?_
  rw [toNat_append_byte, toNat_extractLsb'_eight, toNat_setWidth_eight]
  omega

lemma wordSum_pseudoHeaderV4 (ip_src ip_dst : BitVec 32) (ip_proto : Byte) (length : BitVec 16) :
    wordSum (nboWords (pseudoHeaderV4 ip_src ip_dst ip_proto length)) =
      wordSum (nboWords ((List.range 4).map (leBytes ip_src) ++
        (List.range 4).map (leBytes ip_dst))) + ip_proto.toNat + length.toNat := by
  rw [pseudoHeaderV4, nboWords_append (by simp), wordSum_append, nboWords, nboWords, nboWords,
    append_bytes, Nat.add_assoc]
  simp [toNat_append_byte]

lemma wordSum_pseudoHeaderV6 (ip_src ip_dst : ℕ → Byte) (ip_proto : Byte) (length : BitVec 16) :
    wordSum (nboWords (pseudoHeaderV6 ip_src ip_dst ip_proto length)) =
      wordSum (nboWords ((List.range 16).map ip_src ++ (List.range 16).map ip_dst)) +
        ip_proto.toNat + length.toNat := by
  rw [pseudoHeaderV6, nboWords_append (by simp), wordSum_append, nboWords, nboWords, nboWords,
    nboWords, nboWords, append_bytes, Nat.add_assoc, Nat.add_comm ip_proto.toNat]
  simp [toNat_append_byte]

/-- The pseudo header of a segment has its length as a summand. -/
lemma exists_wordSum_pseudoHeader (hhdr : checksumHdr t type = some hdr) (mem : ℕ → Byte)
    (ip_proto : Byte) :
    ∃ c, ∀ len, len - hdr < 65536 →
      wordSum (nboWords (pseudoHeader t len mem ip_proto hdr)) = c + (len - hdr) := by
  have hnat (len : ℕ) (hlen : len - hdr < 65536) :
      (BitVec.ofNat 16 (len - hdr)).toNat = len - hdr := by
    rw [BitVec.toNat_ofNat, Nat.mod_eq_of_lt hlen]
  obtain ⟨l2, upper⟩ := t
  cases upper with
  | ipv4 options payload =>
      refine ⟨wordSum (nboWords ((List.range 4).map (leBytes (ipv4Src mem l2.len)) ++
        (List.range 4).map (leBytes (ipv4Dst mem l2.len)))) + (mem (l2.len + 9)).toNat,
        fun len hlen => ?_⟩
      simp only [pseudoHeader, getIpv4Hdr_ipv4]
      rw [wordSum_pseudoHeaderV4, hnat len hlen]
  | ipv6 payload =>
      refine ⟨wordSum (nboWords ((List.range 16).map (ipv6Src mem l2.len) ++
        (List.range 16).map (ipv6Dst mem l2.len))) + ip_proto.toNat, fun len hlen => ?_⟩
      simp only [pseudoHeader, getIpv4Hdr_ipv6, getIpv6Hdr_ipv6]
      rw [wordSum_pseudoHeaderV6, hnat len hlen]
  | _ => cases isIp_of_checksumHdr hhdr

/-! ## The routines -/

/-- With a pseudo header, what follows the segment drops out if it makes up for the difference of
the lengths. -/
lemma verifies_pseudo_iff (hhdr : checksumHdr p.type type = some hdr) (htype : type ≠ .ipv4)
    (hfield : hdr + (2 * k + 2) ≤ stop) (hstop : stop ≤ p.len) (hlen : p.len < 65536)
    (mem : ℕ → Byte) (ip_proto : Byte) :
    let mem' := calcChecksum mem hdr (2 * k) (p.pseudoWords mem ip_proto hdr) (p.getPktLen hdr)
    Verifies (pseudoHeader p.type stop mem' ip_proto hdr ++ segment mem' hdr (stop - hdr)) ↔
      65535 ∣ (p.len - stop) +
        wordSum (wordsBehind mem hdr (stop - hdr) (p.len - stop)) := by
  intro mem'
  have hle : hdr ≤ p.len := by omega
  have hadd : (p.getPktLen hdr).toNat = (stop - hdr) + (p.len - stop) := by
    rw [getPktLen_toNat hle (by omega)]
    omega
  obtain ⟨hsum, heven, hpseudo, hheader⟩ := pseudoWords_spec hle mem ip_proto
  obtain ⟨heven', hheader'⟩ := length_pseudoHeader p.type stop mem ip_proto hdr
  have hstores := (storesChecksum_calcChecksum mem hdr (2 * k) (p.getPktLen hdr) hsum heven hpseudo
    hheader).1
  rw [hadd] at hstores
  have hbefore : pseudoHeader p.type stop mem' ip_proto hdr =
      pseudoHeader p.type stop mem ip_proto hdr :=
    pseudoHeader_congr hhdr htype (fun i hi => calcChecksum_of_lt hi) stop ip_proto
  have hbehind : wordsBehind (setLe16 mem (hdr + 2 * k) 0) hdr (stop - hdr) (p.len - stop) =
      wordsBehind mem hdr (stop - hdr) (p.len - stop) :=
    wordsBehind_congr fun a ha => setLe16_of_ne _ (by omega) (by omega)
  obtain ⟨c, hc⟩ := exists_wordSum_pseudoHeader hhdr mem ip_proto
  -- both sums have the segment and its length in common
  set behind := wordSum (wordsBehind mem hdr (stop - hdr) (p.len - stop))
  set sum := c + (stop - hdr) +
    wordSum (nboWords (segment (setLe16 mem (hdr + 2 * k) 0) hdr (stop - hdr)))
  have hsegment : wordSum (nboWords (pseudoHeader p.type stop mem ip_proto hdr ++
      segment (setLe16 mem (hdr + 2 * k) 0) hdr (stop - hdr))) = sum := by
    rw [nboWords_append heven', wordSum_append, hc stop (by omega)]
  have hframe : wordSum (nboWords (pseudoHeader p.type p.len mem ip_proto hdr ++
      segment (setLe16 mem (hdr + 2 * k) 0) hdr (stop - hdr + (p.len - stop)))) =
        sum + ((p.len - stop) + behind) := by
    rw [nboWords_append heven, wordSum_append, wordSum_segment_add, hbehind, hc p.len (by omega)]
    omega
  rw [hbefore, hstores.verifies_iff heven' hheader hheader' (by omega) (by omega) (by omega) hframe
    hsegment, and_iff_left fun hzero => by omega, ← Nat.modEq_zero_iff_dvd]
  constructor
  · intro h
    exact (Nat.ModEq.add_left_cancel' sum h).symm
  · intro h
    exact h.symm.add_left sum

/-- The register of SCTP comes back to where it was. -/
lemma sctp_iff (hfield : hdr + 12 ≤ stop) (hstop : stop ≤ p.len) (hlen : p.len < 65536)
    (mem : ℕ → Byte) :
    let mem' := sctpCalcChecksum mem hdr (p.getPktLen hdr)
    let register := crc CRC32C_POLY.reverse (~~~ 0)
      (segment (copyTo (hdr + 8) 4 (leBytes (0 : BitVec 32)) mem) hdr (stop - hdr))
    ValidAt t stop mem' hdr .sctp ↔
      crc CRC32C_POLY.reverse register (segment mem stop (p.len - stop)) = register := by
  intro mem' register
  set zeroed := copyTo (hdr + 8) 4 (leBytes (0 : BitVec 32)) mem
  have hadd : (p.getPktLen hdr).toNat = (stop - hdr) + (p.len - stop) := by
    rw [getPktLen_toNat (by omega) (by omega)]
    omega
  have hstores : StoresCrc32c mem mem' hdr (p.getPktLen hdr).toNat :=
    storesCrc32c_sctpCalcChecksum mem hdr (p.getPktLen hdr)
  have hend : hdr + (stop - hdr) = stop := by omega
  have hbehind : segment zeroed stop (p.len - stop) = segment mem stop (p.len - stop) :=
    segment_congr fun a _ _ => copyTo_of_le (by omega)
  have hzeroed : setWord (hdr + 8) (0 : BitVec 32) mem' = zeroed := copyTo_eq_copyTo hstores.frame
  have hwhole : crc32c (segment zeroed hdr (p.getPktLen hdr).toNat) =
      ~~~ crc CRC32C_POLY.reverse register (segment mem stop (p.len - stop)) := by
    rw [hadd, segment_add, crc32c, crc_append, hend, hbehind]
  have hbytes : ValidAt t stop mem' hdr .sctp ↔ ∀ i < 4,
      leBytes (~~~ crc CRC32C_POLY.reverse register (segment mem stop (p.len - stop))) i =
        leBytes (~~~ register) i := by
    refine forall₂_congr fun i hi => ?_
    rw [hzeroed, hstores.checksum i hi, hwhole]
    rfl
  -- the bytes of a register, and its complement, tell the register
  rw [hbytes]
  constructor
  · intro h
    have hword := ofLeBytes_congr h
    rw [ofLeBytes_leBytes, ofLeBytes_leBytes] at hword
    exact BitVec.not_inj.mp (by simpa using hword)
  · intro h i _
    rw [h]

/-- **What a routine above IP stores** is valid for the segment if and only if what follows it drops
out, and a UDP checksum is not zero. -/
lemma validAt_calcAbove_iff (hhdr : checksumHdr p.type type = some hdr) (htype : type ≠ .ipv4)
    (hgre : type ≠ .gre) (hfield : hdr + type.fieldEnd ≤ stop) (hstop : stop ≤ p.len)
    (hlen : p.len < 65536) (hmem : ∀ a, hdr ≤ a → mem a = p.getBuffer a) :
    ValidAt p.type stop (p.calcAbove mem hdr type) hdr type ↔ p.DropsOut hdr stop type ∧
      (type = .udp → ¬ AllOnes 65536 (p.udpSum mem hdr)) := by
  have hbehind : hdr + 2 ≤ stop → wordsBehind mem hdr (stop - hdr) (p.len - stop) =
      wordsBehind p.getBuffer hdr (stop - hdr) (p.len - stop) :=
    fun h => wordsBehind_congr fun a ha => hmem a (by omega)
  have hother (h : type ≠ .udp) : (type = .udp → ¬ AllOnes 65536 (p.udpSum mem hdr)) :=
    fun hudp => absurd hudp h
  cases type with
  | ipv4 => exact absurd rfl htype
  | gre => exact absurd rfl hgre
  | tcp =>
      change hdr + (2 * 8 + 2) ≤ stop at hfield
      rw [and_iff_left (hother (by decide)), DropsOut, ← hbehind (by omega)]
      exact verifies_pseudo_iff hhdr htype hfield hstop hlen mem TCP_IP_PROTO
  | udp =>
      change hdr + (2 * 3 + 2) ≤ stop at hfield
      have hzero : be16 (p.calcAbove mem hdr .udp) (hdr + 6) = 0 ↔
          AllOnes 65536 (p.udpSum mem hdr) :=
        calcAbove_udp_eq_zero_iff (by omega) (by omega) mem
      rw [DropsOut, ← hbehind (by omega), imp_iff_right rfl, ← hzero, and_comm]
      exact and_congr_right' (verifies_pseudo_iff hhdr htype hfield hstop hlen mem UDP_IP_PROTO)
  | icmpv6 =>
      change hdr + (2 * 1 + 2) ≤ stop at hfield
      rw [and_iff_left (hother (by decide)), DropsOut, ← hbehind (by omega)]
      exact verifies_pseudo_iff hhdr htype hfield hstop hlen mem ICMPV6_IP_PROTO
  | icmpv4 =>
      change hdr + 4 ≤ stop at hfield
      have hzeroed (a : ℕ) (ha : hdr ≤ a) :
          setLe16 mem (hdr + 2) 0 a = setLe16 p.getBuffer (hdr + 2) 0 a :=
        setLe16_congr (hmem a ha)
      rw [and_iff_left (hother (by decide)), DropsOut, ← hostWords_congr hzeroed,
        ← segmentWords_congr fun a ha _ => hzeroed a ha, calcAbove,
        getPktLen_toNat (by omega) (by omega)]
      exact verifies_calcChecksumOnce_iff (by omega) (by omega) (by omega)
  | sctp =>
      change hdr + 12 ≤ stop at hfield
      have hzeroed : segment (copyTo (hdr + 8) 4 (leBytes (0 : BitVec 32)) mem) hdr (stop - hdr) =
          segment (copyTo (hdr + 8) 4 (leBytes (0 : BitVec 32)) p.getBuffer) hdr (stop - hdr) :=
        segment_congr fun a ha _ => copyTo_congr (hmem a ha)
      have hafter : segment mem stop (p.len - stop) =
          segment p.getBuffer stop (p.len - stop) :=
        segment_congr fun a ha _ => hmem a (by omega)
      rw [and_iff_left (hother (by decide)), DropsOut, ← hzeroed, ← hafter]
      exact sctp_iff hfield hstop hlen mem

/-! ## Output -/

/-- The lengths in the IP header come before all checksums. -/
lemma output_of_lt {i : ℕ} (hi : i < p.type.l2.len + 10) :
    p.calculateChecksumsInSoftware.getBuffer i = p.getBuffer i := by
  refine output_of_not_mem fun type hdr _ hhdr => Or.inl ?_
  obtain ⟨l2, upper, hp⟩ : ∃ l2 upper, p.type = ⟨l2, upper⟩ := ⟨_, _, rfl⟩
  rw [hp] at hhdr hi
  change i < l2.len + 10 at hi
  cases upper with
  | ipv4 options payload =>
      by_cases htype : type = .ipv4
      · subst htype
        rw [checksumHdr, getIpv4Hdr_ipv4] at hhdr
        cases hhdr
        exact hi
      · rw [checksumHdr_ipv4 htype] at hhdr
        split_ifs at hhdr
        cases hhdr
        omega
  | ipv6 payload =>
      rw [checksumHdr_ipv6] at hhdr
      split_ifs at hhdr
      cases hhdr
      omega
  | _ => cases isIp_of_checksumHdr hhdr

lemma type_output (p : Datapacketx86 S) : p.calculateChecksumsInSoftware.type = p.type :=
  type_mapBuffer _ p

lemma len_output (p : Datapacketx86 S) : p.calculateChecksumsInSoftware.len = p.len :=
  len_mapBuffer _ p

lemma datagramEnd_output (p : Datapacketx86 S) :
    datagramEnd p.type p.calculateChecksumsInSoftware.getBuffer =
      datagramEnd p.type p.getBuffer := by
  have hword {a : ℕ} (ha : a + 1 < p.type.l2.len + 10) :
      be16 p.calculateChecksumsInSoftware.getBuffer a = be16 p.getBuffer a := by
    exact be16_congr (output_of_lt (by omega)) (output_of_lt ha)
  rw [datagramEnd, datagramEnd]
  cases hipv4 : getIpv4Hdr p.type with
  | some fipv4 =>
      have hpos := eq_len_of_getIpv4Hdr hipv4
      show some _ = some _
      rw [hword (by omega)]
  | none =>
      cases hipv6 : getIpv6Hdr p.type with
      | some fipv6 =>
          have hpos := eq_len_of_getIpv6Hdr hipv6
          show some _ = some _
          rw [hword (by omega)]
      | none => rfl

/-- The segment of a packet is the same after the calculation on output. -/
lemma delimits_output_iff :
    p.calculateChecksumsInSoftware.Delimits type hdr stop ↔ p.Delimits type hdr stop := by
  constructor
  · rintro ⟨hheader, hdatagram, hfield, hstop⟩
    rw [type_output] at hheader hdatagram
    rw [datagramEnd_output] at hdatagram
    exact ⟨hheader, hdatagram, hfield, len_output p ▸ hstop⟩
  · rintro ⟨hheader, hdatagram, hfield, hstop⟩
    refine ⟨?_, ?_, hfield, (len_output p).symm ▸ hstop⟩
    · rw [type_output, hheader]
    · rw [type_output, datagramEnd_output, hdatagram]

/-- The checksum that is calculated on output, for a segment. -/
lemma validAt_output_iff (h : p.Placed) (hmark : p.isRecalculateChecksumFlagSet type = true)
    (htype : type ≠ .ipv4) (hgre : type ≠ .gre) (hsegment : p.Delimits type hdr stop) :
    ValidAt p.type stop p.calculateChecksumsInSoftware.getBuffer hdr type ↔
      p.DropsOut hdr stop type ∧
        (type = .udp → ¬ AllOnes 65536 (p.udpSum p.getBuffer hdr)) := by
  have hlen : p.len < 65536 := h.len_le.trans_lt (by decide)
  have hmem (a : ℕ) (ha : hdr ≤ a) : p.recalculateIpv4 p.getBuffer a = p.getBuffer a :=
    recalculateIpv4_of_covers htype (covers_of_le hsegment.header htype ha)
  rw [calculateChecksumsInSoftware, getBuffer_mapBuffer]
  show ValidAt _ _ (p.recalculateAbove (p.recalculateIpv4 p.getBuffer)) _ _ ↔ _
  rw [recalculateAbove_eq hsegment.header htype, if_pos hmark,
    validAt_calcAbove_iff hsegment.header htype hgre hsegment.field hsegment.inFrame hlen hmem]
  refine and_congr_right fun _ => forall_congr' ?_
  rintro rfl
  rw [udpSum_congr hsegment.header fun a ha => recalculateIpv4_of_covers htype ha]

/-- **The span of the checksums.**  A marked checksum of TCP, UDP, ICMPv4, ICMPv6 or SCTP is valid
on output for the segment that the IP header delimits if and only if there is one in the frame, what
follows it drops out of the checksum, and the sum of UDP does not leave nothing but ones. -/
theorem segmentValid_output_iff (p : Datapacketx86 S) (h : p.Placed) (type : CalculateChecksum)
    (hmark : p.isRecalculateChecksumFlagSet type = true) (htype : type ≠ .ipv4)
    (hgre : type ≠ .gre) :
    p.calculateChecksumsInSoftware.SegmentValid type ↔
      ∃ hdr stop, p.Delimits type hdr stop ∧ p.DropsOut hdr stop type ∧
        (type = .udp → ¬ AllOnes 65536 (p.udpSum p.getBuffer hdr)) := by
  refine exists_congr fun hdr => exists_congr fun stop => ?_
  rw [delimits_output_iff, type_output]
  exact and_congr_right fun hsegment => validAt_output_iff h hmark htype hgre hsegment

/-! ## A padded frame -/

/-- A UDP datagram without data over IPv4, and zeros behind it. -/
def udpFrame : ℕ → Byte :=
  bytesAt [0, 0, 0, 0, 0, 1, 0, 0, 0, 0, 0, 2, 0x08, 0x00,
    0x45, 0, 0, 28, 0, 0, 0, 0, 64, 17, 0, 0, 10, 0, 0, 1, 10, 0, 0, 2,
    0x12, 0x34, 0, 53, 0, 8]

/-- The datagram in a frame of this length, as it is received, with its checksum marked. -/
def udpPacket (len : ℕ) : Datapacketx86 Unit :=
  ((unused.init (some udpFrame) len none 1 true true).2).setRecalculateChecksum .udp

lemma placed_udpPacket {len : ℕ} (h : len ≤ FRAME_SIZE_BYTES) : (udpPacket len).Placed := by
  have hsize : PRE_GUARD_BYTES + FRAME_SIZE_BYTES ≤ bufferSize := by decide
  rw [udpPacket, init, if_neg (Nat.not_lt.mpr h)]
  exact ⟨rfl, rfl, by show PRE_GUARD_BYTES + len ≤ bufferSize; omega⟩

/-- A frame that ends with the datagram. -/
theorem segmentValid_udpPacket :
    (udpPacket 42).Placed ∧ (udpPacket 42).isRecalculateChecksumFlagSet .udp = true ∧
      (udpPacket 42).calculateChecksumsInSoftware.SegmentValid .udp := by
  have hplaced : (udpPacket 42).Placed := placed_udpPacket (by decide)
  refine ⟨hplaced, rfl, (segmentValid_output_iff (udpPacket 42) hplaced .udp rfl (by decide)
    (by decide)).mpr ⟨34, 42, ?_, ?_, fun _ => ?_⟩⟩
  · exact ⟨by decide +kernel, by decide +kernel, by decide, by decide⟩
  · show 65535 ∣ 0 + wordSum []
    decide
  · unfold AllOnes
    decide +kernel

/-- A frame that is padded to 60 bytes: the routine counts the padding as part of the datagram. -/
theorem not_segmentValid_udpPacket :
    (udpPacket 60).Placed ∧ (udpPacket 60).isRecalculateChecksumFlagSet .udp = true ∧
      (udpPacket 60).Delimits .udp 34 42 ∧
      ¬ (udpPacket 60).calculateChecksumsInSoftware.SegmentValid .udp := by
  have hplaced : (udpPacket 60).Placed := placed_udpPacket (by decide)
  have hsegment : (udpPacket 60).Delimits .udp 34 42 :=
    ⟨by decide +kernel, by decide +kernel, by decide, by decide⟩
  refine ⟨hplaced, rfl, hsegment, ?_⟩
  rintro ⟨hdr, stop, hdelimits, hvalid⟩
  rw [delimits_output_iff] at hdelimits
  obtain rfl : 34 = hdr := Option.some.inj (hsegment.header.symm.trans hdelimits.header)
  obtain rfl : 42 = stop := Option.some.inj (hsegment.datagram.symm.trans hdelimits.datagram)
  rw [type_output, validAt_output_iff hplaced rfl (by decide) (by decide) hsegment] at hvalid
  have hdrop := hvalid.1
  revert hdrop
  show ¬ 65535 ∣ 18 + wordSum (wordsBehind udpFrame 34 8 18)
  decide +kernel

end Span

end Datapacketx86

end Xdpd.Io
