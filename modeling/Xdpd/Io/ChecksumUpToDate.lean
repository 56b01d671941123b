import Xdpd.Io.ChecksumRepair

/-!
# What the calculation on output changes

The calculation on output changes the fields of the checksums that are marked, and nothing else.  It
changes nothing in the frame if and only if the checksums that are marked are `Fresh`: the field has
the complement of the words that the checksum is to cover.
-/

namespace Xdpd.Io

open Xdpd.Lib Xdpd.Classifier

/-- Where the checksum is in its header. -/
def CalculateChecksum.fieldOffset : CalculateChecksum → ℕ
  | .ipv4 => 10
  | .tcp => 16
  | .udp => 6
  | .sctp => 8
  | .icmpv4 => 2
  | .icmpv6 => 2
  | .gre => 4

/-- The length of the checksum. -/
def CalculateChecksum.fieldLen : CalculateChecksum → ℕ
  | .sctp => 4
  | _ => 2

namespace Datapacketx86

variable {S : Type*}

/-- The bytes of the checksum that belongs into the header at `hdr`. -/
def checksumBytes (p : Datapacketx86 S) (mem : ℕ → Byte) (hdr : ℕ) :
    CalculateChecksum → ℕ → Byte
  | .ipv4 => leBytes (~~~ foldOnce ((hostWords (setLe16 mem (hdr + 10) 0) hdr 10).foldl addWord 0))
  | .tcp => beBytes (n := 2) (ietfRfc1071ChecksumNbo
      (pseudoHeader p.type p.len mem TCP_IP_PROTO hdr ++
        segment (setLe16 mem (hdr + 16) 0) hdr (p.getPktLen hdr).toNat))
  | .udp => beBytes (n := 2) (ietfRfc1071ChecksumNbo
      (pseudoHeader p.type p.len mem UDP_IP_PROTO hdr ++
        segment (setLe16 mem (hdr + 6) 0) hdr (p.getPktLen hdr).toNat))
  | .icmpv6 => beBytes (n := 2) (ietfRfc1071ChecksumNbo
      (pseudoHeader p.type p.len mem ICMPV6_IP_PROTO hdr ++
        segment (setLe16 mem (hdr + 2) 0) hdr (p.getPktLen hdr).toNat))
  | .icmpv4 => leBytes (~~~ foldOnce
      ((hostWords (setLe16 mem (hdr + 2) 0) hdr ((p.getPktLen hdr).toNat / 2)).foldl addWord 0))
  | .gre => beBytes (n := 2) (ietfRfc1071ChecksumNbo
      (segment (setLe16 mem (hdr + 4) 0) hdr (p.getPktLen hdr).toNat))
  | .sctp => leBytes (crc32c (segment (setWord (hdr + 8) (0 : BitVec 32) mem) hdr
      (p.getPktLen hdr).toNat))

/-- The field of the checksum has these bytes, as far as it is in the frame. -/
def FieldHas (p : Datapacketx86 S) (type : CalculateChecksum) (hdr : ℕ) (bytes : ℕ → Byte) : Prop :=
  ∀ i < type.fieldLen, hdr + type.fieldOffset + i < p.len →
    p.getBuffer (hdr + type.fieldOffset + i) = bytes i

/-- The field has the complement of the pseudo header and of what is left of the frame, with the
field itself at zero. -/
def FieldComplements (p : Datapacketx86 S) (type : CalculateChecksum) (hdr : ℕ)
    (pseudo : List Byte) : Prop :=
  ∃ c : BitVec 16, Complements 65536
    (wordSum (nboWords (pseudo ++ segment (setLe16 p.getBuffer (hdr + type.fieldOffset) 0) hdr
      (p.getPktLen hdr).toNat))) c.toNat ∧ p.FieldHas type hdr (beBytes (n := 2) c)

/-- The field has the complement of so many words of the host, which have been folded once, with the
field itself at zero. -/
def FieldComplementsOnce (p : Datapacketx86 S) (type : CalculateChecksum) (hdr wnum : ℕ) : Prop :=
  ∃ c : BitVec 16, (endAround 65536
    (wordSum (hostWords (setLe16 p.getBuffer (hdr + type.fieldOffset) 0) hdr wnum)) + c.toNat) %
      65536 = 65535 ∧ p.FieldHas type hdr (leBytes c)

/-- The checksum in the header at `hdr` is that of the frame as it is: nothing that it covers has
changed since it was calculated. -/
def Fresh (p : Datapacketx86 S) (hdr : ℕ) : CalculateChecksum → Prop
  | .ipv4 => p.FieldComplementsOnce .ipv4 hdr 10
  | .tcp =>
      p.FieldComplements .tcp hdr (pseudoHeader p.type p.len p.getBuffer TCP_IP_PROTO hdr)
  | .udp =>
      p.FieldComplements .udp hdr (pseudoHeader p.type p.len p.getBuffer UDP_IP_PROTO hdr)
  | .icmpv6 =>
      p.FieldComplements .icmpv6 hdr (pseudoHeader p.type p.len p.getBuffer ICMPV6_IP_PROTO hdr)
  | .icmpv4 => p.FieldComplementsOnce .icmpv4 hdr ((p.getPktLen hdr).toNat / 2)
  | .gre => p.FieldComplements .gre hdr []
  | .sctp => p.FieldHas .sctp hdr (leBytes (crc32c
      (segment (setWord (hdr + 8) (0 : BitVec 32) p.getBuffer) hdr (p.getPktLen hdr).toNat)))

/-- No checksum that is marked is stale. -/
def NothingStale (p : Datapacketx86 S) : Prop :=
  ∀ type hdr, p.isRecalculateChecksumFlagSet type = true → checksumHdr p.type type = some hdr →
    p.Fresh hdr type

section Fields

variable {p : Datapacketx86 S} {type : CalculateChecksum} {hdr i : ℕ} {mem : ℕ → Byte}

/-! ## Outside of the fields -/

lemma calcChecksum_of_not_mem {off : ℕ} {pseudo : List (BitVec 16)} {length : BitVec 16}
    (h : i < hdr + off ∨ hdr + off + 2 ≤ i) : calcChecksum mem hdr off pseudo length i = mem i := by
  rw [calcChecksum, setLe16_of_ne _ (by omega) (by omega), setLe16_of_ne _ (by omega) (by omega)]

/-- A routine writes its field only. -/
lemma calcAbove_of_not_mem
    (h : i < hdr + type.fieldOffset ∨ hdr + type.fieldOffset + type.fieldLen ≤ i) :
    p.calcAbove mem hdr type i = mem i := by
  cases type with
  | ipv4 => rfl
  | icmpv4 => exact calcChecksumOnce_of_not_mem h
  | tcp | udp | icmpv6 | gre => exact calcChecksum_of_not_mem h
  | sctp =>
      change i < hdr + 8 ∨ hdr + 8 + 4 ≤ i at h
      rw [calcAbove, sctpCalcChecksum]
      rcases h with h | h
      · rw [copyTo_of_lt h, copyTo_of_lt h]
      · rw [copyTo_of_le h, copyTo_of_le h]

lemma recalculateAbove_of_isIp (h : p.type.upper.isIp = false) (mem : ℕ → Byte) :
    p.recalculateAbove mem = mem := by
  have hnone {proto : Proto} (hproto : proto.isL2 = false) (hip : proto.isIpStack = true) :
      protocolOffset p.type proto = none := by
    refine Option.eq_none_iff_forall_ne_some.2 fun hdr hhdr => ?_
    rw [isIp_of_protocolOffset hproto hhdr, hip] at h
    cases h
  have hipv4 : getIpv4Hdr p.type = none := hnone rfl rfl
  have hipv6 : getIpv6Hdr p.type = none := hnone rfl rfl
  have hsctp : getSctpHdr p.type = none := hnone rfl rfl
  simp only [recalculateAbove, recalculateAboveIpv4, hipv4, recalculateAboveIpv6, hipv6,
    recalculateSctp, marked, hsctp, ite_self]

/-- Without a header with a checksum above IP nothing is calculated there. -/
lemma recalculateAbove_of_none
    (h : ∀ type, type ≠ .ipv4 → checksumHdr p.type type = none) (mem : ℕ → Byte) :
    p.recalculateAbove mem = mem := by
  obtain ⟨l2, upper, hp⟩ : ∃ l2 upper, p.type = ⟨l2, upper⟩ := ⟨_, _, rfl⟩
  cases upper with
  | ipv4 options payload =>
      rw [recalculateAbove_ipv4 hp]
      cases hpayload : ofIpv4Payload payload with
      | none => rfl
      | some type =>
          have htype : type ≠ .ipv4 := by
            rintro rfl
            cases payload <;> cases hpayload
          have hhdr := h type htype
          rw [hp, checksumHdr_ipv4 htype, if_pos hpayload] at hhdr
          cases hhdr
  | ipv6 payload =>
      rw [recalculateAbove_ipv6 hp]
      cases hpayload : ofIpv6Payload payload with
      | none => rfl
      | some type =>
          have htype : type ≠ .ipv4 := by
            rintro rfl
            cases payload <;> cases hpayload
          have hhdr := h type htype
          rw [hp, checksumHdr_ipv6, if_pos hpayload] at hhdr
          cases hhdr
  | _ => exact recalculateAbove_of_isIp (by rw [hp]; rfl) mem

lemma recalculateIpv4_of_not_mem
    (h : ∀ hdr, p.isRecalculateChecksumFlagSet .ipv4 = true → getIpv4Hdr p.type = some hdr →
      i < hdr + 10 ∨ hdr + 10 + 2 ≤ i) : p.recalculateIpv4 mem i = mem i := by
  rw [recalculateIpv4, marked]
  by_cases hmark : p.isRecalculateChecksumFlagSet .ipv4 = true
  · rw [if_pos hmark]
    cases hhdr : getIpv4Hdr p.type with
    | none => rfl
    | some hdr => exact calcChecksumOnce_of_not_mem (h hdr hmark hhdr)
  · rw [if_neg hmark]

/-- **The calculation on output writes the fields of marked checksums only.** -/
lemma output_of_not_mem
    (h : ∀ type hdr, p.isRecalculateChecksumFlagSet type = true →
      checksumHdr p.type type = some hdr →
      i < hdr + type.fieldOffset ∨ hdr + type.fieldOffset + type.fieldLen ≤ i) :
    p.calculateChecksumsInSoftware.getBuffer i = p.getBuffer i := by
  rw [calculateChecksumsInSoftware, getBuffer_mapBuffer]
  change p.recalculateAbove (p.recalculateIpv4 p.getBuffer) i = _
  have hipv4 : p.recalculateIpv4 p.getBuffer i = p.getBuffer i :=
    recalculateIpv4_of_not_mem fun hdr hmark hhdr => h .ipv4 hdr hmark hhdr
  by_cases habove : ∃ type hdr, type ≠ .ipv4 ∧ checksumHdr p.type type = some hdr
  · obtain ⟨type, hdr, htype, hhdr⟩ := habove
    rw [recalculateAbove_eq hhdr htype]
    split_ifs with hmark
    · rw [calcAbove_of_not_mem (h type hdr hmark hhdr), hipv4]
    · exact hipv4
  · have hnone (type : CalculateChecksum) (htype : type ≠ .ipv4) :
        checksumHdr p.type type = none :=
      Option.eq_none_iff_forall_ne_some.2 fun hdr hhdr => habove ⟨type, hdr, htype, hhdr⟩
    rw [recalculateAbove_of_none hnone, hipv4]

/-! ## In the fields -/

/-- The bytes of a word in network order. -/
lemma beBytes_be16 (mem : ℕ → Byte) (a : ℕ) (hi : i < 2) :
    beBytes (n := 2) (be16 mem a) i = mem (a + i) := by
  have hbytes : i = 0 ∨ i = 1 := by omega
  rcases hbytes with rfl | rfl
  · exact BitVec.extractLsb'_append_eq_left
  · exact BitVec.extractLsb'_append_eq_right

/-- The bytes of a word that the host writes. -/
lemma setLe16_add (mem : ℕ → Byte) (a : ℕ) (v : BitVec 16) (hi : i < 2) :
    setLe16 mem a v (a + i) = leBytes v i := by
  have hlow : v.setWidth 8 = v.extractLsb' 0 8 := by
    refine BitVec.eq_of_toNat_eq ?_
    rw [BitVec.toNat_setWidth, BitVec.extractLsb'_toNat, Nat.shiftRight_zero]
  have hbytes : i = 0 ∨ i = 1 := by omega
  rcases hbytes with rfl | rfl
  · have hfirst : setLe16 mem a v a = v.setWidth 8 := by
      rw [setLe16, Function.update_of_ne (by omega), Function.update_self]
    rw [Nat.add_zero, hfirst, hlow]
    rfl
  · rw [setLe16, Function.update_self]
    rfl

lemma calcChecksum_field {off : ℕ} {pseudo : List (BitVec 16)} {header : List Byte}
    {length : BitVec 16} (hsum : wordSum pseudo = wordSum ((nboWords header).map htonb16))
    (heven : header.length % 2 = 0) (hpseudo : pseudo.length ≤ 32) (hheader : header.length ≤ 64)
    (hi : i < 2) :
    calcChecksum mem hdr off pseudo length (hdr + off + i) =
      beBytes (n := 2) (ietfRfc1071ChecksumNbo
        (header ++ segment (setLe16 mem (hdr + off) 0) hdr length.toNat)) i := by
  have hstores := (storesChecksum_calcChecksum mem hdr off length hsum heven hpseudo hheader).1
  rw [← hstores.1, beBytes_be16 _ _ hi]

/-- A routine above IP writes the checksum that belongs into its field. -/
lemma calcAbove_field (htype : type ≠ .ipv4) (hle : hdr ≤ p.len) (hi : i < type.fieldLen) :
    p.calcAbove mem hdr type (hdr + type.fieldOffset + i) = p.checksumBytes mem hdr type i := by
  cases type with
  | ipv4 => exact absurd rfl htype
  | tcp =>
      obtain ⟨hsum, heven, hpseudo, hheader⟩ := pseudoWords_spec hle mem TCP_IP_PROTO
      exact calcChecksum_field hsum heven hpseudo hheader hi
  | udp =>
      obtain ⟨hsum, heven, hpseudo, hheader⟩ := pseudoWords_spec hle mem UDP_IP_PROTO
      exact calcChecksum_field hsum heven hpseudo hheader hi
  | icmpv6 =>
      obtain ⟨hsum, heven, hpseudo, hheader⟩ := pseudoWords_spec hle mem ICMPV6_IP_PROTO
      exact calcChecksum_field hsum heven hpseudo hheader hi
  | gre =>
      have hfield : calcChecksum mem hdr 4 [] (p.getPktLen hdr) (hdr + 4 + i) =
          beBytes (n := 2) (ietfRfc1071ChecksumNbo
            ([] ++ segment (setLe16 mem (hdr + 4) 0) hdr (p.getPktLen hdr).toNat)) i :=
        calcChecksum_field rfl rfl (Nat.zero_le _) (Nat.zero_le _) hi
      rw [List.nil_append] at hfield
      exact hfield
  | icmpv4 => exact setLe16_add _ _ _ hi
  | sctp =>
      change i < 4 at hi
      rw [calcAbove, sctpCalcChecksum]
      change copyTo (hdr + 8) 4 _ _ (hdr + 8 + i) = _
      rw [copyTo_add hi, leBytes_htonb32_generateCrc32c _ hi]
      rfl

/-- What a checksum is calculated from is what it covers. -/
lemma checksumBytes_congr {mem' : ℕ → Byte} (hhdr : checksumHdr p.type type = some hdr)
    (htype : type ≠ .ipv4) (h : ∀ a, covers p.type type a → mem' a = mem a) :
    p.checksumBytes mem' hdr type = p.checksumBytes mem hdr type := by
  have hafter (a : ℕ) (ha : hdr ≤ a) : mem' a = mem a := h a (covers_of_le hhdr htype ha)
  have hzeroed (off a : ℕ) (ha : hdr ≤ a) :
      setLe16 mem' (hdr + off) 0 a = setLe16 mem (hdr + off) 0 a :=
    setLe16_congr (hafter a ha)
  have hsegment (off n : ℕ) : segment (setLe16 mem' (hdr + off) 0) hdr n =
      segment (setLe16 mem (hdr + off) 0) hdr n :=
    segment_congr fun a ha _ => hzeroed off a ha
  have hpseudo (hpseudo : type = .tcp ∨ type = .udp ∨ type = .icmpv6) (ip_proto : Byte) :
      pseudoHeader p.type p.len mem' ip_proto hdr = pseudoHeader p.type p.len mem ip_proto hdr :=
    pseudoHeader_congr_of_covers hhdr hpseudo h
  cases type with
  | ipv4 => exact absurd rfl htype
  | tcp => rw [checksumBytes, checksumBytes, hpseudo (Or.inl rfl), hsegment]
  | udp => rw [checksumBytes, checksumBytes, hpseudo (Or.inr (Or.inl rfl)), hsegment]
  | icmpv6 => rw [checksumBytes, checksumBytes, hpseudo (Or.inr (Or.inr rfl)), hsegment]
  | icmpv4 => rw [checksumBytes, checksumBytes, hostWords_congr fun a ha => hzeroed 2 a ha]
  | gre => rw [checksumBytes, checksumBytes, hsegment]
  | sctp =>
      have hsegment : segment (setWord (hdr + 8) (0 : BitVec 32) mem') hdr (p.getPktLen hdr).toNat =
          segment (setWord (hdr + 8) (0 : BitVec 32) mem) hdr (p.getPktLen hdr).toNat :=
        segment_congr fun a ha _ => copyTo_congr (hafter a ha)
      rw [checksumBytes, checksumBytes, hsegment]

/-- **The calculation on output writes the checksums that are marked.** -/
lemma output_field (hmark : p.isRecalculateChecksumFlagSet type = true)
    (hhdr : checksumHdr p.type type = some hdr) (hle : hdr ≤ p.len) (hi : i < type.fieldLen) :
    p.calculateChecksumsInSoftware.getBuffer (hdr + type.fieldOffset + i) =
      p.checksumBytes p.getBuffer hdr type i := by
  rw [calculateChecksumsInSoftware, getBuffer_mapBuffer]
  change p.recalculateAbove (p.recalculateIpv4 p.getBuffer) _ = _
  by_cases htype : type = .ipv4
  · subst htype
    change i < 2 at hi
    have hipv4 : getIpv4Hdr p.type = some hdr := hhdr
    have hfield : p.recalculateIpv4 p.getBuffer (hdr + 10 + i) =
        p.checksumBytes p.getBuffer hdr .ipv4 i := by
      rw [recalculateIpv4, marked, if_pos hmark, hipv4]
      exact setLe16_add _ _ _ hi
    change p.recalculateAbove (p.recalculateIpv4 p.getBuffer) (hdr + 10 + i) = _
    rw [← hfield]
    by_cases habove : ∃ type hdr, type ≠ .ipv4 ∧ checksumHdr p.type type = some hdr
    · obtain ⟨type, hdr', htype, hhdr'⟩ := habove
      have hle' := add_le_of_ipv4 hipv4 hhdr' htype
      rw [recalculateAbove_eq hhdr' htype]
      split_ifs
      · exact calcAbove_of_lt (by omega) type
      · rfl
    · rw [recalculateAbove_of_none]
      exact fun type htype =>
        Option.eq_none_iff_forall_ne_some.2 fun hdr hhdr => habove ⟨type, hdr, htype, hhdr⟩
  · rw [recalculateAbove_eq hhdr htype, if_pos hmark, calcAbove_field htype hle hi,
      checksumBytes_congr hhdr htype fun a ha => recalculateIpv4_of_covers htype ha]

/-! ## Stale checksums -/

/-- The checksum of a buffer is the complement of the sum of its words. -/
lemma complements_iff {buf : List Byte} (h : (nboWords buf).length ≤ 65537) {c : BitVec 16} :
    Complements 65536 (wordSum (nboWords buf)) c.toNat ↔ c = ietfRfc1071ChecksumNbo buf := by
  have hle := wordSum_le (nboWords buf)
  have hwide := Nat.mul_le_mul_right 65535 h
  have hzero : ((0 : BitVec 32)).toNat = 0 := rfl
  have hfold := isFold_foldSum ((nboWords buf).foldl addWord 0)
  rw [foldl_addWord_toNat 0 (by omega), hzero, Nat.zero_add] at hfold
  rw [hfold.complements_iff (by decide) c.isLt, ietfRfc1071ChecksumNbo, ← BitVec.toNat_inj,
    toNat_not_setWidth hfold.lt]

/-- The checksum of words that are folded once. -/
lemma complementsOnce_iff {words : List (BitVec 16)} (h : words.length ≤ 65537) {c : BitVec 16} :
    (endAround 65536 (wordSum words) + c.toNat) % 65536 = 65535 ↔
      c = ~~~ foldOnce (words.foldl addWord 0) := by
  have hle := wordSum_le words
  have hwide := Nat.mul_le_mul_right 65535 h
  have hzero : ((0 : BitVec 32)).toNat = 0 := rfl
  have hc := c.isLt
  rw [← BitVec.toNat_inj, foldOnce_toNat, foldl_addWord_toNat 0 (by omega), hzero, Nat.zero_add]
  omega

lemma fieldComplements_iff {pseudo : List Byte} (h : pseudo.length ≤ 64) :
    p.FieldComplements type hdr pseudo ↔
      p.FieldHas type hdr (beBytes (n := 2) (ietfRfc1071ChecksumNbo (pseudo ++
        segment (setLe16 p.getBuffer (hdr + type.fieldOffset) 0) hdr
          (p.getPktLen hdr).toNat))) := by
  simp only [FieldComplements, complements_iff (length_nboWords_segment h _ hdr
    (p.getPktLen hdr).isLt), exists_eq_left]

lemma fieldComplementsOnce_iff {wnum : ℕ} (h : wnum ≤ 65537) :
    p.FieldComplementsOnce type hdr wnum ↔
      p.FieldHas type hdr (leBytes (~~~ foldOnce
        ((hostWords (setLe16 p.getBuffer (hdr + type.fieldOffset) 0) hdr wnum).foldl
          addWord 0))) := by
  have hlen (mem : ℕ → Byte) : (hostWords mem hdr wnum).length ≤ 65537 := by
    rw [length_hostWords]
    exact h
  simp only [FieldComplementsOnce, complementsOnce_iff (hlen _), exists_eq_left]

lemma length_pseudoHeader (t : PktType) (len : ℕ) (mem : ℕ → Byte) (ip_proto : Byte) (hdr : ℕ) :
    (pseudoHeader t len mem ip_proto hdr).length % 2 = 0 ∧
      (pseudoHeader t len mem ip_proto hdr).length ≤ 64 := by
  rw [pseudoHeader]
  split <;> simp [pseudoHeaderV4, pseudoHeaderV6]

/-- A checksum is fresh if its field has what the calculation on output would store. -/
lemma fresh_iff : p.Fresh hdr type ↔
    p.FieldHas type hdr (p.checksumBytes p.getBuffer hdr type) := by
  have hlen : (p.getPktLen hdr).toNat < 65536 := (p.getPktLen hdr).isLt
  cases type with
  | ipv4 => exact fieldComplementsOnce_iff (by decide)
  | icmpv4 => exact fieldComplementsOnce_iff (by omega)
  | tcp | udp | icmpv6 => exact fieldComplements_iff (length_pseudoHeader _ _ _ _ _).2
  | gre =>
      refine (fieldComplements_iff (Nat.zero_le _)).trans ?_
      rw [List.nil_append]
      rfl
  | sctp => rfl

/-- **The calculation on output changes nothing in the frame** if and only if no checksum that is
marked is stale. -/
lemma output_eq_iff :
    (∀ i < p.len, p.calculateChecksumsInSoftware.getBuffer i = p.getBuffer i) ↔
      p.NothingStale := by
  constructor
  · intro h type hdr hmark hhdr
    refine fresh_iff.2 fun i hi hlen => ?_
    rw [← output_field hmark hhdr (by omega) hi, h _ hlen]
  · intro h i hlen
    by_cases hfield : ∃ type hdr, p.isRecalculateChecksumFlagSet type = true ∧
        checksumHdr p.type type = some hdr ∧ hdr + type.fieldOffset ≤ i ∧
        i < hdr + type.fieldOffset + type.fieldLen
    · obtain ⟨type, hdr, hmark, hhdr, hfrom, hto⟩ := hfield
      obtain ⟨j, rfl⟩ := Nat.exists_eq_add_of_le hfrom
      have hj : j < type.fieldLen := by omega
      rw [output_field hmark hhdr (by omega) hj, fresh_iff.1 (h type hdr hmark hhdr) j hj hlen]
    · refine output_of_not_mem fun type hdr hmark hhdr => ?_
      by_contra hmem
      exact hfield ⟨type, hdr, hmark, hhdr, by omega, by omega⟩

end Fields

end Datapacketx86

end Xdpd.Io
