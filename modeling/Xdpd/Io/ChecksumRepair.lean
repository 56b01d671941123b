import Xdpd.Classifier.StoredChecksums
import Xdpd.Io.ChecksumMaintenance

/-!
# What the calculation on output repairs

At most one header above IP has a checksum.  The routines write the checksum fields only, so that
those of the headers above IP do not touch what the checksum of IPv4 covers, nor the other way
round.
-/

namespace Xdpd.Io

open Xdpd.Lib Xdpd.Classifier

variable {S : Type*}

/-- The end of the checksum field; of the flags, for GRE. -/
def CalculateChecksum.fieldEnd : CalculateChecksum → ℕ
  | .ipv4 => 12
  | .tcp => 18
  | .udp => 8
  | .sctp => 12
  | .icmpv4 => 4
  | .icmpv6 => 4
  | .gre => 2

namespace Datapacketx86

/-- The datagram ends with the frame, and so does the segment in it, which has a checksum field. -/
structure FillsFrame (p : Datapacketx86 S) : Prop where
  ipv4 : ∀ hdr, getIpv4Hdr p.type = some hdr → p.len = hdr + (be16 p.getBuffer (hdr + 2)).toNat
  ipv6 : ∀ hdr, getIpv6Hdr p.type = some hdr →
    p.len = hdr + 40 + (be16 p.getBuffer (hdr + 4)).toNat
  segment : ∀ type hdr, checksumHdr p.type type = some hdr → hdr + type.fieldEnd ≤ p.len

/-- The sum of the words of the pseudo header and of what is left of the frame, with the field of
the UDP checksum at zero. -/
def udpSum (p : Datapacketx86 S) (mem : ℕ → Byte) (hdr : ℕ) : ℕ :=
  wordSum (nboWords (pseudoHeader p.type p.len mem UDP_IP_PROTO hdr ++
    segment (setLe16 mem (hdr + 6) 0) hdr (p.len - hdr)))

/-- What is marked can be repaired.  The routines of IPv4 and ICMPv4 lose the second carry; the one
of IPv4 leaves out the options, and the one of ICMPv4 a last byte on its own.  Those of UDP store a
checksum of zero as it is, which says that there is none.  A GRE header with a checksum has a field
for it. -/
def OutputSafe (p : Datapacketx86 S) : CalculateChecksum → Prop
  | .ipv4 => ∀ hdr, p.marked .ipv4 getIpv4Hdr = some hdr →
      65535 ∣ carryCut (hostWords (setLe16 p.getBuffer (hdr + 10) 0) hdr 10) +
        wordSum (segmentWords p.getBuffer (hdr + 20) (ipv4HdrLen p.type - 20))
  | .udp => ∀ hdr, p.marked .udp getUdpHdr = some hdr → ¬ AllOnes 65536 (p.udpSum p.getBuffer hdr)
  | .icmpv4 => ∀ hdr, p.marked .icmpv4 getIcmpv4Hdr = some hdr →
      65535 ∣ carryCut (hostWords (setLe16 p.getBuffer (hdr + 2) 0) hdr ((p.len - hdr) / 2)) +
        wordSum (segmentWords p.getBuffer (hdr + 2 * ((p.len - hdr) / 2)) ((p.len - hdr) % 2))
  | .gre => ∀ hdr, p.marked .gre getGreHdr = some hdr →
      le16 p.getBuffer hdr &&& GRE_CSUM_FLAG_MASK ≠ 0 → hdr + 6 ≤ p.len
  | _ => True

/-- The checksum is in its header, if the type has that, and valid: the header does not just go
without one. -/
def Filled (p : Datapacketx86 S) (type : CalculateChecksum) : Prop :=
  ∀ hdr, checksumHdr p.type type = some hdr → ValidAt p.type p.len p.getBuffer hdr type

section Repair

variable {p : Datapacketx86 S} {type : CalculateChecksum} {l2 : L2} {options : Fin 16}
  {payload4 : Ipv4Payload} {payload6 : Ipv6Payload} {hdr i : ℕ} {mem : ℕ → Byte}

lemma Filled.valid (h : p.Filled type) : p.Valid type := Or.inr h

/-- Only UDP can go without. -/
lemma Valid.filled (htype : type ≠ .udp) (h : p.Valid type) : p.Filled type :=
  h.resolve_left fun hnone => htype hnone.1

/-! ## The routine of a header -/

/-- The words of the pseudo header of a segment. -/
def pseudoWords (p : Datapacketx86 S) (mem : ℕ → Byte) (ip_proto : Byte) (hdr : ℕ) :
    List (BitVec 16) :=
  match getIpv4Hdr p.type, getIpv6Hdr p.type with
  | some fipv4, _ =>
      pseudoWordsV4 (ipv4Src mem fipv4) (ipv4Dst mem fipv4) (mem (fipv4 + 9)) (p.getPktLen hdr)
  | none, some fipv6 =>
      pseudoWordsV6 (ipv6Src mem fipv6) (ipv6Dst mem fipv6) ip_proto (p.getPktLen hdr)
  | none, none => []

/-- The memory after the routine of the header at `hdr`. -/
def calcAbove (p : Datapacketx86 S) (mem : ℕ → Byte) (hdr : ℕ) : CalculateChecksum → ℕ → Byte
  | .ipv4 => mem
  | .tcp => calcChecksum mem hdr (2 * 8) (p.pseudoWords mem TCP_IP_PROTO hdr) (p.getPktLen hdr)
  | .udp => calcChecksum mem hdr (2 * 3) (p.pseudoWords mem UDP_IP_PROTO hdr) (p.getPktLen hdr)
  | .icmpv6 =>
      calcChecksum mem hdr (2 * 1) (p.pseudoWords mem ICMPV6_IP_PROTO hdr) (p.getPktLen hdr)
  | .icmpv4 => calcChecksumOnce mem hdr (2 * 1) ((p.getPktLen hdr).toNat / 2)
  | .gre => calcChecksum mem hdr (2 * 2) [] (p.getPktLen hdr)
  | .sctp => sctpCalcChecksum mem hdr (p.getPktLen hdr)

/-- The memory after the routines of the headers above IP. -/
def recalculateAbove (p : Datapacketx86 S) (mem : ℕ → Byte) : ℕ → Byte :=
  p.recalculateSctp (p.recalculateAboveIpv6 (p.recalculateAboveIpv4 mem))

/-- Above IPv4, the checksum of the header that the type has is calculated if it is marked. -/
lemma recalculateAbove_ipv4 (htype : p.type = ⟨l2, .ipv4 options payload4⟩) (mem : ℕ → Byte) :
    p.recalculateAbove mem =
      match ofIpv4Payload payload4 with
      | none => mem
      | some type =>
          if p.isRecalculateChecksumFlagSet type then
            p.calcAbove mem (l2.len + (20 + options.val * 4)) type
          else mem := by
  cases payload4 with
  | none =>
      simp [recalculateAbove, recalculateAboveIpv4, recalculateAboveIpv6, recalculateSctp, marked,
        htype, ofIpv4Payload]
  | sctp =>
      simp only [recalculateAbove, recalculateSctp, marked, htype, getSctpHdr_ipv4, if_true,
        recalculateAboveIpv6, getIpv6Hdr_ipv4, recalculateAboveIpv4, getIpv4Hdr_ipv4,
        getTcpHdr_ipv4, getUdpHdr_ipv4, reduceCtorEq, if_false, ite_self, or_self,
        getIcmpv4Hdr_ipv4, getGreHdr_ipv4, ofIpv4Payload]
      split_ifs <;> rfl
  | tcp | udp | gtpu4 | icmpv4 | gre4 =>
      simp only [recalculateAbove, recalculateSctp, marked, htype, getSctpHdr_ipv4, reduceCtorEq,
        if_true, if_false, ite_self, recalculateAboveIpv6, getIpv6Hdr_ipv4, recalculateAboveIpv4,
        getIpv4Hdr_ipv4, getTcpHdr_ipv4, getUdpHdr_ipv4, or_self, or_true, or_false,
        getIcmpv4Hdr_ipv4, getGreHdr_ipv4, ofIpv4Payload]
      split_ifs
      · simp only [calcAbove, pseudoWords, htype, getIpv4Hdr_ipv4]
        rfl
      · rfl

/-- Above IPv6, the checksum of the header that the type has is calculated if it is marked. -/
lemma recalculateAbove_ipv6 (htype : p.type = ⟨l2, .ipv6 payload6⟩) (mem : ℕ → Byte) :
    p.recalculateAbove mem =
      match ofIpv6Payload payload6 with
      | none => mem
      | some type =>
          if p.isRecalculateChecksumFlagSet type then p.calcAbove mem (l2.len + 40) type
          else mem := by
  have hicmpv6 : getIcmpv6Hdr ⟨l2, .ipv6 payload6⟩ =
      if ofIpv6Payload payload6 = some .icmpv6 then some (l2.len + 40) else none := by
    rw [← checksumHdr_ipv6, checksumHdr]
  cases payload6 with
  | none =>
      simp [recalculateAbove, recalculateAboveIpv4, recalculateAboveIpv6, recalculateSctp, marked,
        htype, ofIpv6Payload, hicmpv6]
  | sctp =>
      simp only [recalculateAbove, recalculateSctp, marked, htype, getSctpHdr_ipv6, if_true,
        if_false, recalculateAboveIpv6, getIpv6Hdr_ipv6, getTcpHdr_ipv6, reduceCtorEq, ite_self,
        getUdpHdr_ipv6, or_self, hicmpv6, ofIpv6Payload, getGreHdr_ipv6, recalculateAboveIpv4,
        getIpv4Hdr_ipv6, Option.some_inj]
      split_ifs <;> rfl
  | tcp | udp | gtpu6 | gre6 | icmpv6 =>
      simp only [recalculateAbove, recalculateSctp, marked, htype, getSctpHdr_ipv6, if_true,
        if_false, recalculateAboveIpv6, getIpv6Hdr_ipv6, getTcpHdr_ipv6, reduceCtorEq, ite_self,
        getUdpHdr_ipv6, or_self, or_true, or_false, hicmpv6, ofIpv6Payload, getGreHdr_ipv6,
        recalculateAboveIpv4, getIpv4Hdr_ipv6, Option.some_inj]
      split_ifs
      · simp only [calcAbove, pseudoWords, htype, getIpv4Hdr_ipv6, getIpv6Hdr_ipv6]
        rfl
      · rfl

/-- There is at most one header with a checksum above IP: it is calculated if it is marked. -/
lemma recalculateAbove_eq (hhdr : checksumHdr p.type type = some hdr) (htype : type ≠ .ipv4)
    (mem : ℕ → Byte) :
    p.recalculateAbove mem =
      if p.isRecalculateChecksumFlagSet type then p.calcAbove mem hdr type else mem := by
  obtain ⟨l2, upper, hp⟩ : ∃ l2 upper, p.type = ⟨l2, upper⟩ := ⟨_, _, rfl⟩
  rw [hp] at hhdr
  cases upper with
  | ipv4 options payload =>
      rw [checksumHdr_ipv4 htype] at hhdr
      split_ifs at hhdr with hpayload
      cases hhdr
      rw [recalculateAbove_ipv4 hp, hpayload]
  | ipv6 payload =>
      rw [checksumHdr_ipv6] at hhdr
      split_ifs at hhdr with hpayload
      cases hhdr
      rw [recalculateAbove_ipv6 hp, hpayload]
  | _ => cases isIp_of_checksumHdr hhdr

/-! ## The routines write their field only -/

lemma calcChecksum_of_lt {off : ℕ} {pseudo : List (BitVec 16)} {length : BitVec 16} (h : i < hdr) :
    calcChecksum mem hdr off pseudo length i = mem i := by
  rw [calcChecksum, setLe16_of_ne _ (by omega) (by omega), setLe16_of_ne _ (by omega) (by omega)]

lemma calcChecksumOnce_of_not_mem {off wnum : ℕ} (h : i < hdr + off ∨ hdr + off + 2 ≤ i) :
    calcChecksumOnce mem hdr off wnum i = mem i := by
  rw [calcChecksumOnce, setLe16_of_ne _ (by omega) (by omega),
    setLe16_of_ne _ (by omega) (by omega)]

/-- What comes before a header is left as it is. -/
lemma calcAbove_of_lt (h : i < hdr) (type : CalculateChecksum) :
    p.calcAbove mem hdr type i = mem i := by
  cases type with
  | ipv4 => rfl
  | icmpv4 => exact calcChecksumOnce_of_not_mem (Or.inl (by omega))
  | sctp => rw [calcAbove, sctpCalcChecksum, copyTo_of_lt (by omega), copyTo_of_lt (by omega)]
  | tcp | udp | icmpv6 | gre => exact calcChecksum_of_lt h

/-- The routine of IPv4 writes nothing that the other checksums cover. -/
lemma recalculateIpv4_of_covers (htype : type ≠ .ipv4) (h : covers p.type type i) :
    p.recalculateIpv4 mem i = mem i := by
  rw [recalculateIpv4]
  cases hhdr : p.marked .ipv4 getIpv4Hdr with
  | none => rfl
  | some hdr =>
      have hipv4 : getIpv4Hdr p.type = some hdr := by
        rw [marked] at hhdr
        split_ifs at hhdr
        exact hhdr
      have hcovers := covers_of_ipv4 hipv4 htype h
      exact calcChecksumOnce_of_not_mem (by omega)

/-! ## What the routines store is valid -/

/-- The header has room for its checksum, and its segment has a length of 16 bits. -/
def SegmentFits (p : Datapacketx86 S) : Prop :=
  ∀ type hdr, type ≠ .ipv4 → checksumHdr p.type type = some hdr →
    hdr + type.fieldEnd ≤ p.len ∧ p.len - hdr < 65536

lemma FillsFrame.segmentFits (h : p.FillsFrame) : p.SegmentFits := by
  intro type hdr htype hhdr
  refine ⟨h.segment type hdr hhdr, ?_⟩
  obtain ⟨l2, upper, hp⟩ : ∃ l2 upper, p.type = ⟨l2, upper⟩ := ⟨_, _, rfl⟩
  rw [hp] at hhdr
  cases upper with
  | ipv4 options payload =>
      have hlen := h.ipv4 l2.len (by rw [hp, getIpv4Hdr_ipv4])
      have hlt := (be16 p.getBuffer (l2.len + 2)).isLt
      rw [checksumHdr_ipv4 htype] at hhdr
      split_ifs at hhdr
      cases hhdr
      omega
  | ipv6 payload =>
      have hlen := h.ipv6 l2.len (by rw [hp, getIpv6Hdr_ipv6])
      have hlt := (be16 p.getBuffer (l2.len + 4)).isLt
      rw [checksumHdr_ipv6] at hhdr
      split_ifs at hhdr
      cases hhdr
      omega
  | _ => cases isIp_of_checksumHdr hhdr

lemma getPktLen_eq (h : hdr ≤ p.len) : p.getPktLen hdr = BitVec.ofNat 16 (p.len - hdr) := by
  rw [getPktLen, subSize, if_pos h]

lemma getPktLen_toNat (h : hdr ≤ p.len) (h' : p.len - hdr < 65536) :
    (p.getPktLen hdr).toNat = p.len - hdr := by
  rw [getPktLen_eq h, BitVec.toNat_ofNat, Nat.mod_eq_of_lt h']

/-- The words of the pseudo header are those of its bytes. -/
lemma pseudoWords_spec (h : hdr ≤ p.len) (mem : ℕ → Byte) (ip_proto : Byte) :
    let header := pseudoHeader p.type p.len mem ip_proto hdr
    wordSum (p.pseudoWords mem ip_proto hdr) = wordSum ((nboWords header).map htonb16) ∧
      header.length % 2 = 0 ∧ (p.pseudoWords mem ip_proto hdr).length ≤ 32 ∧
      header.length ≤ 64 := by
  simp only [pseudoHeader, pseudoWords, getPktLen_eq h]
  cases getIpv4Hdr p.type with
  | some fipv4 =>
      refine ⟨wordSum_pseudoWordsV4 _ _ _ _, ?_⟩
      simp [pseudoWordsV4, pseudoHeaderV4]
  | none =>
      cases getIpv6Hdr p.type with
      | some fipv6 =>
          refine ⟨wordSum_pseudoWordsV6 _ _ _ _, ?_⟩
          simp [pseudoWordsV6, pseudoHeaderV6]
      | none => exact ⟨rfl, rfl, Nat.zero_le _, Nat.zero_le _⟩

/-- The pseudo header of a segment comes before it. -/
lemma pseudoHeader_congr {mem' : ℕ → Byte} (hhdr : checksumHdr p.type type = some hdr)
    (htype : type ≠ .ipv4) (h : ∀ i < hdr, mem' i = mem i) (len : ℕ) (ip_proto : Byte) :
    pseudoHeader p.type len mem' ip_proto hdr = pseudoHeader p.type len mem ip_proto hdr := by
  obtain ⟨l2, upper, hp⟩ : ∃ l2 upper, p.type = ⟨l2, upper⟩ := ⟨_, _, rfl⟩
  rw [hp] at hhdr ⊢
  cases upper with
  | ipv4 options payload =>
      rw [checksumHdr_ipv4 htype] at hhdr
      split_ifs at hhdr
      cases hhdr
      exact pseudoHeader_ipv4_congr (h _ (by omega)) fun a _ ha => h a (by omega)
  | ipv6 payload =>
      rw [checksumHdr_ipv6] at hhdr
      split_ifs at hhdr
      cases hhdr
      exact pseudoHeader_ipv6_congr fun a _ ha => h a (by omega)
  | _ => cases isIp_of_checksumHdr hhdr

/-- A checksum over a pseudo header and a segment is stored. -/
lemma verifies_pseudo (hhdr : checksumHdr p.type type = some hdr) (htype : type ≠ .ipv4)
    (hfits : p.SegmentFits) (mem : ℕ → Byte) {wnum : ℕ} {ip_proto : Byte}
    (hfield : 2 * wnum + 2 ≤ type.fieldEnd) :
    let mem' := calcChecksum mem hdr (2 * wnum) (p.pseudoWords mem ip_proto hdr) (p.getPktLen hdr)
    Verifies (pseudoHeader p.type p.len mem' ip_proto hdr ++ segment mem' hdr (p.len - hdr)) := by
  intro mem'
  obtain ⟨hend, hlt⟩ := hfits type hdr htype hhdr
  have hlen := getPktLen_toNat (p := p) (by omega) hlt
  have hle : hdr ≤ p.len := by omega
  obtain ⟨hsum, heven, hpseudo, hheader⟩ := pseudoWords_spec hle mem ip_proto
  have hbefore : pseudoHeader p.type p.len mem' ip_proto hdr =
      pseudoHeader p.type p.len mem ip_proto hdr :=
    pseudoHeader_congr hhdr htype (fun i hi => calcChecksum_of_lt hi) p.len ip_proto
  rw [hbefore, ← hlen]
  exact verifies_calcChecksum mem hdr wnum _ hsum heven hpseudo hheader (by omega)

/-- A header with a checksum is covered, with what follows it. -/
lemma covers_of_le (hhdr : checksumHdr p.type type = some hdr) (htype : type ≠ .ipv4)
    (h : hdr ≤ i) : covers p.type type i := by
  obtain ⟨l2, upper, hp⟩ : ∃ l2 upper, p.type = ⟨l2, upper⟩ := ⟨_, _, rfl⟩
  rw [hp] at hhdr ⊢
  cases upper with
  | ipv4 options payload =>
      rw [checksumHdr_ipv4 htype] at hhdr
      split_ifs at hhdr with hpayload
      cases hhdr
      exact Or.inr ⟨hpayload, Or.inl h⟩
  | ipv6 payload =>
      rw [checksumHdr_ipv6] at hhdr
      split_ifs at hhdr with hpayload
      cases hhdr
      exact ⟨hpayload, Or.inl h⟩
  | _ => cases isIp_of_checksumHdr hhdr

/-- The words that are added up for a UDP checksum are covered by it. -/
lemma udpSum_congr {mem' : ℕ → Byte} (hhdr : checksumHdr p.type .udp = some hdr)
    (h : ∀ a, covers p.type .udp a → mem' a = mem a) : p.udpSum mem' hdr = p.udpSum mem hdr := by
  have hsegment : segment (setLe16 mem' (hdr + 6) 0) hdr (p.len - hdr) =
      segment (setLe16 mem (hdr + 6) 0) hdr (p.len - hdr) :=
    segment_congr fun a ha _ => setLe16_congr (h a (covers_of_le hhdr (by decide) ha))
  rw [udpSum, udpSum, pseudoHeader_congr_of_covers hhdr (Or.inr (Or.inl rfl)) h, hsegment]

/-- The UDP checksum that is stored is zero if nothing but ones is left of the sum. -/
lemma calcAbove_udp_eq_zero_iff (hle : hdr ≤ p.len) (hlt : p.len - hdr < 65536)
    (mem : ℕ → Byte) :
    be16 (p.calcAbove mem hdr .udp) (hdr + 6) = 0 ↔ AllOnes 65536 (p.udpSum mem hdr) := by
  have hlen := getPktLen_toNat hle hlt
  obtain ⟨hsum, heven, hpseudo, hheader⟩ := pseudoWords_spec hle mem UDP_IP_PROTO
  have hstores := (storesChecksum_calcChecksum mem hdr 6 (p.getPktLen hdr) hsum heven hpseudo
    hheader).1
  rw [udpSum, ← hlen]
  exact hstores.eq_zero_iff hheader (p.getPktLen hdr).isLt

/-- **What a routine above IP stores is valid**: that of ICMPv4 if it loses nothing, and that of UDP
if it is not zero. -/
lemma validAt_calcAbove (hhdr : checksumHdr p.type type = some hdr) (htype : type ≠ .ipv4)
    (hfits : p.SegmentFits) (mem : ℕ → Byte)
    (hgre : type = .gre → le16 mem hdr &&& GRE_CSUM_FLAG_MASK ≠ 0 → hdr + 6 ≤ p.len)
    (hudp : type = .udp → ¬ AllOnes 65536 (p.udpSum mem hdr))
    (hicmpv4 : type = .icmpv4 →
      65535 ∣ carryCut (hostWords (setLe16 mem (hdr + 2) 0) hdr ((p.len - hdr) / 2)) +
        wordSum (segmentWords mem (hdr + 2 * ((p.len - hdr) / 2)) ((p.len - hdr) % 2))) :
    ValidAt p.type p.len (p.calcAbove mem hdr type) hdr type := by
  obtain ⟨hend, hlt⟩ := hfits type hdr htype hhdr
  have hlen := getPktLen_toNat (p := p) (by omega) hlt
  cases type with
  | ipv4 => exact absurd rfl htype
  | gre =>
      intro hflag
      have hflags : le16 (p.calcAbove mem hdr .gre) hdr = le16 mem hdr := by
        rw [calcAbove, calcChecksum]
        simp only [le16]
        rw [setLe16_of_ne _ (by omega) (by omega), setLe16_of_ne _ (by omega) (by omega),
          setLe16_of_ne _ (by omega) (by omega), setLe16_of_ne _ (by omega) (by omega)]
      rw [hflags] at hflag
      have hfield := hgre rfl hflag
      rw [calcAbove, ← hlen, ← List.nil_append (segment _ hdr _)]
      exact verifies_calcChecksum mem hdr 2 _ rfl rfl (Nat.zero_le _) (Nat.zero_le _) (by omega)
  | tcp => exact verifies_pseudo hhdr htype hfits mem (by decide)
  | udp =>
      exact ⟨mt (calcAbove_udp_eq_zero_iff (by omega) hlt mem).1 (hudp rfl),
        verifies_pseudo hhdr htype hfits mem (by decide)⟩
  | icmpv6 => exact verifies_pseudo hhdr htype hfits mem (by decide)
  | icmpv4 =>
      have hsplit : 2 * ((p.len - hdr) / 2) + (p.len - hdr) % 2 = p.len - hdr := by omega
      change hdr + 4 ≤ p.len at hend
      have hverifies := (verifies_calcChecksumOnce mem hdr (n := (p.len - hdr) % 2)
        (by omega : 1 < (p.len - hdr) / 2) (by omega)).2 (hicmpv4 rfl)
      rw [hsplit] at hverifies
      rw [ValidAt, calcAbove, hlen]
      exact hverifies
  | sctp =>
      intro i hi
      have hstores : StoresCrc32c mem (p.calcAbove mem hdr .sctp) hdr (p.getPktLen hdr).toNat :=
        storesCrc32c_sctpCalcChecksum mem hdr (p.getPktLen hdr)
      have hzeroed : setWord (hdr + 8) (0 : BitVec 32) (p.calcAbove mem hdr .sctp) =
          setWord (hdr + 8) 0 mem := copyTo_eq_copyTo hstores.frame
      rw [hzeroed, hstores.checksum i hi, hlen]
      rfl

/-! ## Output -/

lemma hostWords_congr {mem' : ℕ → Byte} {wnum : ℕ} (h : ∀ a, hdr ≤ a → mem' a = mem a) :
    hostWords mem' hdr wnum = hostWords mem hdr wnum := by
  refine List.map_congr_left fun i _ => ?_
  rw [le16, le16, h _ (by omega), h _ (by omega)]

/-- The checksum of IPv4 after the calculation on output. -/
lemma valid_output_ipv4 (hk : p.Kept .ipv4) (hsafe : p.OutputSafe .ipv4) :
    p.calculateChecksumsInSoftware.Valid .ipv4 := by
  rw [Valid, calculateChecksumsInSoftware, type_mapBuffer, len_mapBuffer, getBuffer_mapBuffer]
  change ChecksumValid _ _ (p.recalculateAbove (p.recalculateIpv4 p.getBuffer)) _
  obtain ⟨l2, upper, hp⟩ : ∃ l2 upper, p.type = ⟨l2, upper⟩ := ⟨_, _, rfl⟩
  cases upper with
  | ipv4 options payload =>
      have habove (mem : ℕ → Byte) (i : ℕ) (hi : i < l2.len + (20 + options.val * 4)) :
          p.recalculateAbove mem i = mem i := by
        rw [recalculateAbove_ipv4 hp]
        split
        · rfl
        · split_ifs
          · exact calcAbove_of_lt hi _
          · rfl
      have hcovers (mem : ℕ → Byte) (i : ℕ) (hi : covers p.type .ipv4 i) :
          p.recalculateAbove mem i = mem i := by
        rw [hp] at hi
        refine habove mem i ?_
        rcases hi with ⟨-, -, hi⟩ | ⟨hpayload, -⟩
        · exact hi
        · cases payload <;> cases hpayload
      refine ChecksumValid.congr (hcovers (p.recalculateIpv4 p.getBuffer)) ?_
      by_cases hmark : p.isRecalculateChecksumFlagSet .ipv4 = true
      · have hmarked : p.marked .ipv4 getIpv4Hdr = some l2.len := by
          rw [marked, if_pos hmark, hp, getIpv4Hdr_ipv4]
        have hlen : ipv4HdrLen p.type = 2 * 10 + options.val * 4 := by rw [hp]; rfl
        have hdvd := hsafe l2.len hmarked
        rw [hlen, Nat.add_sub_cancel_left] at hdvd
        refine Or.inr fun hdr hhdr => ?_
        rw [hp, checksumHdr, getIpv4Hdr_ipv4] at hhdr
        cases hhdr
        have hsmall := options.isLt
        rw [ValidAt, hlen, recalculateIpv4, hmarked]
        exact (verifies_calcChecksumOnce p.getBuffer l2.len (by decide : 5 < 10)
          (by omega)).2 hdvd
      · rw [recalculateIpv4, marked, if_neg hmark]
        exact hk.resolve_left hmark
  | ipv6 payload =>
      refine checksumValid_of_none ?_
      rw [hp, checksumHdr, getIpv4Hdr_ipv6]
  | _ =>
      rw [hp]
      exact checksumValid_of_isIp rfl _ _ _

/-- A checksum above IP that is marked is in its header after the calculation on output. -/
lemma filled_output_above (hmark : p.isRecalculateChecksumFlagSet type = true)
    (htype : type ≠ .ipv4) (hfits : p.SegmentFits) (hsafe : p.OutputSafe type) :
    p.calculateChecksumsInSoftware.Filled type := by
  rw [Filled, calculateChecksumsInSoftware, type_mapBuffer, len_mapBuffer, getBuffer_mapBuffer]
  intro hdr hhdr
  change ValidAt _ _ (p.recalculateAbove (p.recalculateIpv4 p.getBuffer)) _ _
  set mem := p.recalculateIpv4 p.getBuffer
  have hcovers (i : ℕ) (hi : covers p.type type i) : mem i = p.getBuffer i :=
    recalculateIpv4_of_covers htype hi
  have hafter (a : ℕ) (ha : hdr ≤ a) : mem a = p.getBuffer a :=
    hcovers a (covers_of_le hhdr htype ha)
  rw [recalculateAbove_eq hhdr htype, if_pos hmark]
  refine validAt_calcAbove hhdr htype hfits mem ?_ ?_ ?_
  · rintro rfl hflag
    rw [le16, hafter _ (by omega), hafter _ (by omega)] at hflag
    exact hsafe hdr (by rw [marked, if_pos hmark]; exact hhdr) hflag
  · rintro rfl
    rw [udpSum_congr hhdr hcovers]
    exact hsafe hdr (by rw [marked, if_pos hmark]; exact hhdr)
  · rintro rfl
    have hzeroed (a : ℕ) (ha : hdr ≤ a) :
        setLe16 mem (hdr + 2) 0 a = setLe16 p.getBuffer (hdr + 2) 0 a :=
      setLe16_congr (hafter a ha)
    rw [hostWords_congr hzeroed, segmentWords_congr fun a ha _ => hafter a (by omega)]
    exact hsafe hdr (by rw [marked, if_pos hmark]; exact hhdr)

/-- A checksum above IP that is not marked covers nothing that the calculation on output changes. -/
lemma valid_output_of_unmarked (hunmarked : ¬ p.isRecalculateChecksumFlagSet type = true)
    (htype : type ≠ .ipv4) (hvalid : p.Valid type) : p.calculateChecksumsInSoftware.Valid type := by
  rw [Valid, calculateChecksumsInSoftware, type_mapBuffer, len_mapBuffer, getBuffer_mapBuffer]
  change ChecksumValid _ _ (p.recalculateAbove (p.recalculateIpv4 p.getBuffer)) _
  cases hhdr : checksumHdr p.type type with
  | none => exact checksumValid_of_none hhdr
  | some hdr =>
      rw [recalculateAbove_eq hhdr htype, if_neg hunmarked]
      exact hvalid.congr fun i hi => recalculateIpv4_of_covers htype hi

/-- **A checksum that is marked or valid is valid after output**, and one that is marked is
there. -/
lemma Kept.valid_output (hk : p.Kept type) (hfits : p.SegmentFits) (hsafe : p.OutputSafe type) :
    p.calculateChecksumsInSoftware.Valid type ∧
      (p.isRecalculateChecksumFlagSet type = true →
        p.calculateChecksumsInSoftware.Filled type) := by
  by_cases htype : type = .ipv4
  · subst htype
    have hvalid := valid_output_ipv4 hk hsafe
    exact ⟨hvalid, fun _ => hvalid.filled (by decide)⟩
  · have hfilled (hmark : p.isRecalculateChecksumFlagSet type = true) :=
      filled_output_above hmark htype hfits hsafe
    refine ⟨?_, hfilled⟩
    rcases Classical.em (p.isRecalculateChecksumFlagSet type = true) with hmark | hunmarked
    · exact (hfilled hmark).valid
    · exact valid_output_of_unmarked hunmarked htype (hk.resolve_left hunmarked)

end Repair

/-! ## Runs -/

section Runs

variable {type : CalculateChecksum} {actions : List HeaderAction} {p : Datapacketx86 S}

lemma applyActions_type_len (actions : List HeaderAction) (p : Datapacketx86 S) :
    (applyActions actions p).type = p.type ∧ (applyActions actions p).len = p.len := by
  induction actions generalizing p with
  | nil => exact ⟨rfl, rfl⟩
  | cons a actions ih =>
      obtain ⟨htype, hlen⟩ := a.apply_type_len p
      obtain ⟨htype', hlen'⟩ := ih (a.apply p)
      exact ⟨htype'.trans htype, hlen'.trans hlen⟩

lemma Kept.applyActions (hk : p.Kept type) (hsafe : RunSafe type actions p) :
    (Datapacketx86.applyActions actions p).Kept type := by
  induction actions generalizing p with
  | nil => exact hk
  | cons a actions ih => exact ih (hk.apply hsafe.1) hsafe.2

/-- **Checksums over header actions.**  A packet with a valid checksum, whose segment fills the
frame, goes through any actions that do not overlook that checksum, and then out.  If what is
marked can be repaired, the checksum is valid again, and one that is marked is not left out. -/
theorem valid_applyActions (type : CalculateChecksum) (actions : List HeaderAction)
    (p : Datapacketx86 S) (hfill : p.FillsFrame) (hvalid : p.Valid type)
    (hsafe : RunSafe type actions p) (houtput : (applyActions actions p).OutputSafe type) :
    (applyActions actions p).calculateChecksumsInSoftware.Valid type ∧
      ((applyActions actions p).isRecalculateChecksumFlagSet type = true →
        (applyActions actions p).calculateChecksumsInSoftware.Filled type) := by
  have hk : p.Kept type := Or.inr hvalid
  obtain ⟨htype, hlen⟩ := applyActions_type_len actions p
  have hfits : (applyActions actions p).SegmentFits := by
    rw [SegmentFits, htype, hlen]
    exact hfill.segmentFits
  exact (hk.applyActions hsafe).valid_output hfits houtput

/-- An echo request over IPv6, with its checksum. -/
def echoFrame (i : ℕ) : Byte :=
  if i = 12 then 0x86 else if i = 13 then 0xdd else if i = 14 then 0x60 else if i = 19 then 8
  else if i = 20 then 58 else if i = 54 then 0x80 else if i = 56 then 0x7f else if i = 57 then 0xbd
  else 0

/-- The echo request as it is received. -/
def echo : Datapacketx86 Unit :=
  (unused.init (some echoFrame) 62 none 1 true true).2

lemma fillsFrame_echo : echo.FillsFrame where
  ipv4 := by
    intro hdr h
    have hnone : getIpv4Hdr echo.type = none := by decide +kernel
    rw [hnone] at h
    cases h
  ipv6 := by
    intro hdr h
    have hsome : getIpv6Hdr echo.type = some 14 := by decide +kernel
    rw [hsome] at h
    cases h
    decide +kernel
  segment := by
    have hall : ∀ type : CalculateChecksum, checksumHdr echo.type type = none ∨
        checksumHdr echo.type type = some 54 ∧ 54 + type.fieldEnd ≤ echo.len := by
      intro type
      cases type <;> decide +kernel
    intro type hdr h
    rcases hall type with hnone | ⟨hsome, hle⟩
    · rw [hnone] at h
      cases h
    · rw [hsome] at h
      cases h
      exact hle

/-- The bytes that are added up for the checksum of the echo request. -/
lemma verifies_iff_echo (mem : ℕ → Byte) :
    ChecksumValid echo.type echo.len mem .icmpv6 ↔
      AllOnes 65536 (wordSum ((nboWords (pseudoHeader echo.type echo.len mem ICMPV6_IP_PROTO 54 ++
        segment mem 54 8)).map htonb16)) := by
  have hhdr : checksumHdr echo.type .icmpv6 = some 54 := by decide +kernel
  have hle : 54 ≤ echo.len := by decide
  obtain ⟨-, -, -, hheader⟩ := pseudoWords_spec hle mem ICMPV6_IP_PROTO
  rw [← verifies_iff (length_nboWords_segment hheader mem 54 (by decide : 8 < 65536))]
  constructor
  · rintro (⟨h, -⟩ | h)
    · cases h
    · exact h 54 hhdr
  · intro h
    refine Or.inr fun hdr hhdr' => ?_
    rw [hhdr] at hhdr'
    cases hhdr'
    exact h

lemma valid_echo (type : CalculateChecksum) : echo.Valid type := by
  by_cases htype : type = .icmpv6
  · subst htype
    rw [Valid, verifies_iff_echo]
    unfold AllOnes
    decide +kernel
  · refine checksumValid_of_none ?_
    cases type with
    | icmpv6 => exact absurd rfl htype
    | _ => decide +kernel

/-- Actions on a packet keep its checksum. -/
theorem valid_echo_reply :
    echo.FillsFrame ∧ echo.Valid .icmpv6 ∧
      (applyActions [.decNwTtl, .setIcmpv6Type 129] echo).calculateChecksumsInSoftware.Filled
        .icmpv6 :=
  ⟨fillsFrame_echo, valid_echo .icmpv6,
    (valid_applyActions .icmpv6 [.decNwTtl, .setIcmpv6Type 129] echo fillsFrame_echo
      (valid_echo .icmpv6) ⟨trivial, trivial, trivial⟩ trivial).2 rfl⟩

/-- A new source address leaves the checksum of ICMPv6 as it was. -/
theorem not_valid_setIpv6Src :
    echo.FillsFrame ∧ (∀ type, echo.Valid type) ∧
      ¬ (applyActions [.setIpv6Src 1] echo).calculateChecksumsInSoftware.Valid .icmpv6 := by
  refine ⟨fillsFrame_echo, valid_echo, ?_⟩
  obtain ⟨htype, hlen⟩ := applyActions_type_len [.setIpv6Src 1] echo
  rw [Valid, calculateChecksumsInSoftware, type_mapBuffer, len_mapBuffer, htype, hlen,
    verifies_iff_echo]
  unfold AllOnes
  decide +kernel

end Runs

end Datapacketx86

end Xdpd.Io
