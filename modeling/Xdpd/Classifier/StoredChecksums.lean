import Xdpd.Classifier.Verify

/-!
# What single routines store

The checksum of IPv4 is to cover the options, and that of ICMPv4 the whole message: what the
routines lose of it is the condition under which it does not verify.  In UDP a checksum of zero says
that there is none, and the routines store it like any other.  The routine that reads a buffer in
the order of the host agrees with the one that reads it in network order.
-/

namespace Xdpd.Classifier

open Xdpd.Lib

variable {mem : ℕ → Byte} {hdr : ℕ}

/-! ## Memories in examples -/

/-- A memory that starts with these bytes, and is zero after them. -/
def bytesAt (bytes : List Byte) (a : ℕ) : Byte :=
  bytes.getD a 0

/-! ## IPv4 -/

/-- The header verifies with its options, and only its checksum field has been written. -/
structure HeaderChecksummed (mem mem' : ℕ → Byte) (hdr : ℕ) : Prop where
  verifies : Verifies (segment mem' hdr (ipv4Ihl mem hdr * 4))
  frame : ∀ a, a ≠ hdr + 10 → a ≠ hdr + 11 → mem' a = mem a

/-- The words that the routine adds are those of a header without options, and its only carry that
can be lost is the one of the fold. -/
lemma verifies_ipv4CalcChecksum (h : 5 ≤ ipv4Ihl mem hdr) :
    Verifies (segment (ipv4CalcChecksum mem hdr) hdr (ipv4Ihl mem hdr * 4)) ↔
      65535 ∣ carryCut (hostWords (setLe16 mem (hdr + 10) 0) hdr 10) +
        wordSum (segmentWords mem (hdr + 20) (ipv4Ihl mem hdr * 4 - 20)) := by
  have hlt : ipv4Ihl mem hdr < 16 := by
    rw [ipv4Ihl, BitVec.toNat_and]
    exact Nat.lt_of_le_of_lt Nat.and_le_right (by decide)
  have hlen : 2 * 10 + (ipv4Ihl mem hdr * 4 - 20) = ipv4Ihl mem hdr * 4 := by omega
  have hverifies := verifies_calcChecksumOnce mem hdr (n := ipv4Ihl mem hdr * 4 - 20)
    (by decide : 5 < 10) (by omega)
  rw [hlen] at hverifies
  exact hverifies

/-- **The checksum of an IPv4 header.**  After `ipv4_calc_checksum` the header verifies with its
options if and only if the carry that the fold cuts off and the words of the options add up to
nothing, modulo `65535`. -/
theorem ipv4CalcChecksum_iff (mem : ℕ → Byte) (hdr : ℕ) (h : 5 ≤ ipv4Ihl mem hdr) :
    HeaderChecksummed mem (ipv4CalcChecksum mem hdr) hdr ↔
      65535 ∣ carryCut (hostWords (setLe16 mem (hdr + 10) 0) hdr 10) +
        wordSum (segmentWords mem (hdr + 20) (ipv4Ihl mem hdr * 4 - 20)) := by
  have hframe (a : ℕ) (ha : a ≠ hdr + 10) (ha' : a ≠ hdr + 11) :
      ipv4CalcChecksum mem hdr a = mem a := by
    show setLe16 (setLe16 mem (hdr + 10) 0) (hdr + 10) _ a = mem a
    rw [setLe16_of_ne _ ha ha', setLe16_of_ne _ ha ha']
  rw [← verifies_ipv4CalcChecksum h]
  exact ⟨fun hstored => hstored.verifies, fun hverifies => ⟨hverifies, hframe⟩⟩

/-- A header without options whose words add up to `0x3ffff`: the first fold leaves `0x10002`. -/
def twoCarries : ℕ → Byte :=
  bytesAt [0x45, 0, 0, 0x14, 0x7c, 0xee, 0, 0, 0x40, 0xfd, 0, 0, 0, 0, 0, 0, 0xff, 0xff, 0xff, 0xff]

/-- A header of 20 bytes with the addresses 10.0.0.1 and 10.0.0.2. -/
def plainHeader : ℕ → Byte :=
  bytesAt [0x45, 0, 0, 0x14, 0, 0, 0, 0, 0x40, 17, 0, 0, 10, 0, 0, 1, 10, 0, 0, 2]

theorem ipv4CalcChecksum_plainHeader :
    5 ≤ ipv4Ihl plainHeader 0 ∧
      HeaderChecksummed plainHeader (ipv4CalcChecksum plainHeader 0) 0 :=
  ⟨by decide, (ipv4CalcChecksum_iff plainHeader 0 (by decide)).2 (by decide)⟩

/-- The second carry of a header without options is lost. -/
theorem not_ipv4CalcChecksum_twoCarries :
    ipv4Ihl twoCarries 0 = 5 ∧
      ¬ HeaderChecksummed twoCarries (ipv4CalcChecksum twoCarries 0) 0 := by
  refine ⟨by decide, fun hstored => ?_⟩
  have hdvd := (verifies_ipv4CalcChecksum (by decide)).1 hstored.verifies
  revert hdvd
  decide

/-! ## ICMPv4 -/

/-- Of the carries of a message, one at most is left when they have been added back in. -/
lemma carryCut_le_one {words : List (BitVec 16)} (h : words.length ≤ 32768) :
    carryCut words ≤ 1 := by
  have hle := wordSum_le words
  have hwide := Nat.mul_le_mul_right 65535 h
  rw [carryCut, endAround]
  omega

lemma carryCut_eq_zero_iff (words : List (BitVec 16)) :
    carryCut words = 0 ↔ endAround 65536 (wordSum words) < 65536 := by
  rw [carryCut, Nat.div_eq_zero_iff]
  simp

/-- The words of a last byte on its own. -/
lemma wordSum_segmentWords_mod (mem : ℕ → Byte) (hdr n : ℕ) :
    wordSum (segmentWords mem hdr (n % 2)) = if n % 2 = 1 then (mem hdr).toNat else 0 := by
  rcases Nat.mod_two_eq_zero_or_one n with h | h
  · rw [h]
    rfl
  · rw [h, if_pos rfl]
    show ((mem hdr).setWidth 16).toNat = _
    exact BitVec.toNat_setWidth_of_le (by decide)

/-- **The checksum of an ICMPv4 message.**  After `icmpv4_calc_checksum` the message verifies if and
only if one fold is enough for the sum of its whole words, and there is no last byte on its own
that counts. -/
theorem icmpv4CalcChecksum_iff (mem : ℕ → Byte) (hdr : ℕ) (length : BitVec 16)
    (h : 4 ≤ length.toNat) :
    Verifies (segment (icmpv4CalcChecksum mem hdr length) hdr length.toNat) ↔
      endAround 65536 (wordSum (hostWords (setLe16 mem (hdr + 2) 0) hdr (length.toNat / 2))) <
          65536 ∧
        (length.toNat % 2 = 1 → mem (hdr + (length.toNat - 1)) = 0) := by
  have hlt : length.toNat < 2 ^ 16 := length.isLt
  have hsplit : 2 * (length.toNat / 2) + length.toNat % 2 = length.toNat := by omega
  have hverifies := verifies_calcChecksumOnce mem hdr (n := length.toNat % 2)
    (by omega : 1 < length.toNat / 2) (by omega)
  rw [hsplit, wordSum_segmentWords_mod, Nat.mul_one] at hverifies
  have hcarry : carryCut (hostWords (setLe16 mem (hdr + 2) 0) hdr (length.toNat / 2)) ≤ 1 :=
    carryCut_le_one (by rw [length_hostWords]; omega)
  have hbyte := (mem (hdr + 2 * (length.toNat / 2))).isLt
  rw [← carryCut_eq_zero_iff]
  refine hverifies.trans ?_
  -- what is lost is less than `65535`, so that it has to be zero
  by_cases hodd : length.toNat % 2 = 1
  · have hlast : hdr + 2 * (length.toNat / 2) = hdr + (length.toNat - 1) := by omega
    rw [if_pos hodd, hlast, imp_iff_right hodd, ← BitVec.toNat_inj]
    rw [hlast] at hbyte
    show 65535 ∣ _ ↔ _ ∧ _ = 0
    omega
  · rw [if_neg hodd]
    simp only [hodd, false_imp_iff, and_true]
    omega

/-- An echo request without data. -/
def echoRequest : ℕ → Byte :=
  bytesAt [8, 0, 0, 0, 0x12, 0x34, 0, 1]

/-- An echo request with one byte of data. -/
def oddEchoRequest : ℕ → Byte :=
  bytesAt [8, 0, 0, 0, 0x12, 0x34, 0, 1, 0x61]

theorem icmpv4CalcChecksum_echoRequest :
    4 ≤ (8 : BitVec 16).toNat ∧
      Verifies (segment (icmpv4CalcChecksum echoRequest 0 8) 0 (8 : BitVec 16).toNat) :=
  ⟨by decide, (icmpv4CalcChecksum_iff echoRequest 0 8 (by decide)).2 (by decide)⟩

/-- The last byte of a message of 9 bytes is left out. -/
theorem not_icmpv4CalcChecksum_oddEchoRequest :
    ¬ Verifies (segment (icmpv4CalcChecksum oddEchoRequest 0 9) 0 9) := by
  have hcut : ¬ 65535 ∣ carryCut (hostWords (setLe16 oddEchoRequest 2 0) 0 4) +
      wordSum (segmentWords oddEchoRequest 8 1) := by decide
  exact fun hverifies => hcut ((verifies_calcChecksumOnce oddEchoRequest 0 (n := 1)
    (by decide : 1 < 4) (by decide)).1 hverifies)

/-! ## UDP -/

/-- What is stored is zero if and only if the pseudo header and the segment, with its field zero,
leave nothing but ones. -/
lemma StoresChecksum.eq_zero_iff {mem' : ℕ → Byte} {off n : ℕ} {pseudo : List Byte}
    (h : StoresChecksum mem mem' hdr off pseudo n) (hpseudo : pseudo.length ≤ 64) (hn : n < 65536) :
    be16 mem' (hdr + off) = 0 ↔
      AllOnes 65536 (wordSum (nboWords (pseudo ++ segment (setLe16 mem (hdr + off) 0) hdr n))) := by
  rw [h.checksum, ← verifies_iff_nboWords (length_nboWords_segment hpseudo _ hdr hn)]
  rfl

/-- **No UDP checksum of zero.**  Over IPv4 and over IPv6, the checksum that is stored is not zero
if and only if the words of the pseudo header and of the datagram do not leave nothing but ones:
if their sum is zero or no multiple of `65535`. -/
theorem udpCalcChecksum_ne_zero_iff (mem : ℕ → Byte) (hdr : ℕ) (ip_src ip_dst : BitVec 32)
    (ip6_src ip6_dst : ℕ → Byte) (ip_proto : Byte) (length : BitVec 16) :
    (be16 (udpv4CalcChecksum mem hdr ip_src ip_dst ip_proto length) (hdr + 6) ≠ 0 ↔
      ¬ AllOnes 65536 (wordSum (nboWords (pseudoHeaderV4 ip_src ip_dst ip_proto length ++
        segment (setLe16 mem (hdr + 6) 0) hdr length.toNat)))) ∧
    (be16 (udpv6CalcChecksum mem hdr ip6_src ip6_dst ip_proto length) (hdr + 6) ≠ 0 ↔
      ¬ AllOnes 65536 (wordSum (nboWords (pseudoHeaderV6 ip6_src ip6_dst ip_proto length ++
        segment (setLe16 mem (hdr + 6) 0) hdr length.toNat)))) := by
  have hv4 := (storesChecksum_calcChecksum mem hdr 6 length
    (wordSum_pseudoWordsV4 ip_src ip_dst ip_proto length) (by simp [pseudoHeaderV4])
    (by simp [pseudoWordsV4]) (by simp [pseudoHeaderV4])).1
  have hv6 := (storesChecksum_calcChecksum mem hdr 6 length
    (wordSum_pseudoWordsV6 ip6_src ip6_dst ip_proto length) (by simp [pseudoHeaderV6])
    (by simp [pseudoWordsV6]) (by simp [pseudoHeaderV6])).1
  constructor
  · exact not_congr (hv4.eq_zero_iff (by simp [pseudoHeaderV4]) length.isLt)
  · exact not_congr (hv6.eq_zero_iff (by simp [pseudoHeaderV6]) length.isLt)

/-- A datagram without data from port 60326 to port 53. -/
def emptyDatagram : ℕ → Byte :=
  bytesAt [0xeb, 0xa6, 0, 53, 0, 8, 0, 0]

/-- From 10.0.0.1 to 10.0.0.2, its words and those of the pseudo header add up to `0xffff`. -/
theorem udpv4CalcChecksum_emptyDatagram :
    be16 (udpv4CalcChecksum emptyDatagram 0 0x0100000a 0x0200000a UDP_IP_PROTO 8) 6 = 0 := by
  have hstored := (storesChecksum_calcChecksum emptyDatagram 0 6 8
    (wordSum_pseudoWordsV4 0x0100000a 0x0200000a UDP_IP_PROTO 8) (by simp [pseudoHeaderV4])
    (by simp [pseudoWordsV4]) (by simp [pseudoHeaderV4])).1
  refine (hstored.eq_zero_iff (by simp [pseudoHeaderV4]) (by decide)).2 ?_
  unfold AllOnes
  decide

/-! ## The order of the host -/

/-- The words of a buffer in the order of the host are those in network order with their bytes
swapped. -/
lemma hboWords_eq (buf : List Byte) : hboWords buf = (nboWords buf).map htonb16 := by
  induction buf using nboWords.induct with
  | case1 b0 b1 buf ih => rw [hboWords, nboWords, List.map_cons, ih, htonb16_append]
  | case2 b0 =>
      show [b0.setWidth 16] = [htonb16 (b0 ++ (0 : Byte))]
      rw [htonb16_append, setWidth_sixteen]
  | case3 => rfl

/-- **The two routines agree** on the buffers on which no sum overflows. -/
theorem ietfRfc1071ChecksumHbo_eq (buf : List Byte) (h : buf.length ≤ 131074) :
    ietfRfc1071ChecksumHbo buf = ietfRfc1071ChecksumNbo buf := by
  have hnbo : (nboWords buf).length ≤ 65537 := by
    rw [length_nboWords]
    omega
  have hhbo : (hboWords buf).length ≤ 65537 := by
    rw [hboWords_eq, List.length_map]
    exact hnbo
  have hle := wordSum_le (hboWords buf)
  have hwide := Nat.mul_le_mul_right 65535 hhbo
  have hzero : ((0 : BitVec 32)).toNat = 0 := rfl
  have hsum : wordSum (hboWords buf) = wordSum ((nboWords buf).map htonb16) := by
    rw [hboWords_eq]
  have hfold := isFold_foldSum ((hboWords buf).foldl addWord 0)
  rw [foldl_addWord_toNat 0 (by omega), hzero, Nat.zero_add, hsum] at hfold
  have hswapped : (~~~ foldSum ((hboWords buf).foldl addWord 0)).setWidth 16 =
      htonb16 (ietfRfc1071ChecksumNbo buf) := by
    refine BitVec.eq_of_toNat_eq ?_
    rw [toNat_not_setWidth hfold.lt, toNat_htonb16_checksumNbo hnbo hfold]
  rw [ietfRfc1071ChecksumHbo, hswapped, htonb16_htonb16]

/-- A buffer with a left-over byte. -/
theorem ietfRfc1071ChecksumHbo_odd :
    [(0x00 : Byte), 0x01, 0xf2, 0x03, 0xf4].length ≤ 131074 ∧
      ietfRfc1071ChecksumHbo [0x00, 0x01, 0xf2, 0x03, 0xf4] =
        ietfRfc1071ChecksumNbo [0x00, 0x01, 0xf2, 0x03, 0xf4] :=
  ⟨by decide, ietfRfc1071ChecksumHbo_eq _ (by decide)⟩

end Xdpd.Classifier
