import Xdpd.Io.Encapsulation

/-!
# Writes into a tunnel that is there

With an ethertype that is neither that of IPv4 nor that of IPv6, `push_gtp` and `push_gre` put no
header on: they write their defaults into the tunnel that is there.  `GtpDefaults` and `GreDefaults`
say that the tunnel has them already.  `Rewritten.output_eq_iff` says when the frame that leaves is
the one that would have left before.
-/

namespace Xdpd.Io

open Xdpd.Lib Xdpd.Classifier

namespace Datapacketx86

variable {S : Type*}

/-! ## Words that are there -/

section Words

variable {p : Datapacketx86 S} {w a : ℕ}

end Words

/-! ## The writes of a tunnel -/

section Tunnels

variable {p q : Datapacketx86 S} {payloadlen udp gtp gre : ℕ}

end Tunnels

/-! ## Output of what has been rewritten -/

/-- The checksums that are marked in addition are fresh. -/
def FreshWith (p : Datapacketx86 S) (marks : List CalculateChecksum) : Prop :=
  ∀ type ∈ marks, p.isRecalculateChecksumFlagSet type = false →
    ∀ hdr, checksumHdr p.type type = some hdr → p.Fresh hdr type

/-- Bytes of the packet have been written, but not those of the link layer, of an IPv4 header or of
a checksum, and checksums have been marked. -/
structure Rewritten (p q : Datapacketx86 S) (marks : List CalculateChecksum) : Prop where
  type : q.type = p.type
  len : q.len = p.len
  marked : ∀ type, q.isRecalculateChecksumFlagSet type =
    (decide (type ∈ marks) || p.isRecalculateChecksumFlagSet type)
  fields : ∀ type hdr, checksumHdr p.type type = some hdr → ∀ i < type.fieldLen,
    q.getBuffer (hdr + type.fieldOffset + i) = p.getBuffer (hdr + type.fieldOffset + i)
  ipv4 : ∀ hdr, getIpv4Hdr p.type = some hdr → ∀ i, hdr ≤ i → i < hdr + 20 →
    q.getBuffer i = p.getBuffer i
  link : ∀ i < p.type.l2.len, q.getBuffer i = p.getBuffer i

section Rewritten

variable {p q : Datapacketx86 S} {marks : List CalculateChecksum} {type type' : CalculateChecksum}
  {hdr hdr' : ℕ}

/-- A header with a checksum is above the link layer. -/
lemma l2_le_of_checksumHdr (h : checksumHdr p.type type = some hdr) : p.type.l2.len ≤ hdr := by
  obtain ⟨l2, upper, hp⟩ : ∃ l2 upper, p.type = ⟨l2, upper⟩ := ⟨_, _, rfl⟩
  rw [hp] at h ⊢
  by_cases htype : type = .ipv4
  · subst htype
    cases upper with
    | ipv4 options payload =>
        rw [checksumHdr, getIpv4Hdr_ipv4] at h
        cases h
        exact Nat.le_refl _
    | ipv6 payload =>
        rw [checksumHdr, getIpv4Hdr_ipv6] at h
        cases h
    | _ => cases isIp_of_checksumHdr h
  · cases upper with
    | ipv4 options payload =>
        rw [checksumHdr_ipv4 htype] at h
        split_ifs at h
        cases h
        exact Nat.le_add_right _ _
    | ipv6 payload =>
        rw [checksumHdr_ipv6] at h
        split_ifs at h
        cases h
        exact Nat.le_add_right _ _
    | _ => cases isIp_of_checksumHdr h

/-- The calculation on output leaves the link layer as it is. -/
lemma output_of_lt_l2 {i : ℕ} (hi : i < p.type.l2.len) :
    p.calculateChecksumsInSoftware.getBuffer i = p.getBuffer i := by
  refine output_of_not_mem fun type hdr _ hhdr => Or.inl ?_
  have hle := l2_le_of_checksumHdr hhdr
  omega

/-- Above IP there is one header with a checksum at most. -/
lemma checksumHdr_unique (h : checksumHdr p.type type = some hdr)
    (h' : checksumHdr p.type type' = some hdr') (htype : type ≠ .ipv4) (htype' : type' ≠ .ipv4) :
    type = type' := by
  obtain ⟨l2, upper, hp⟩ : ∃ l2 upper, p.type = ⟨l2, upper⟩ := ⟨_, _, rfl⟩
  rw [hp] at h h'
  cases upper with
  | ipv4 options payload =>
      rw [checksumHdr_ipv4 htype] at h
      rw [checksumHdr_ipv4 htype'] at h'
      split_ifs at h h' with hpayload hpayload'
      exact Option.some.inj (hpayload.symm.trans hpayload')
  | ipv6 payload =>
      rw [checksumHdr_ipv6] at h h'
      split_ifs at h h' with hpayload hpayload'
      exact Option.some.inj (hpayload.symm.trans hpayload')
  | _ => cases isIp_of_checksumHdr h

/-- The fields of two checksums do not overlap. -/
lemma eq_of_fields (h : checksumHdr p.type type = some hdr)
    (h' : checksumHdr p.type type' = some hdr') {i : ℕ} (hi : i < type.fieldLen)
    (hfrom : hdr' + type'.fieldOffset ≤ hdr + type.fieldOffset + i)
    (hto : hdr + type.fieldOffset + i < hdr' + type'.fieldOffset + type'.fieldLen) :
    type = type' := by
  have hfield {type : CalculateChecksum} {i : ℕ} (htype : type = .ipv4) (hi : i < type.fieldLen) :
      type.fieldOffset + i < 20 := by
    subst htype
    change i < 2 at hi
    change 10 + i < 20
    omega
  by_cases htype : type = .ipv4
  · by_cases htype' : type' = .ipv4
    · rw [htype, htype']
    · subst htype
      have hle := add_le_of_ipv4 h h' htype'
      have hlt := hfield rfl hi
      omega
  · by_cases htype' : type' = .ipv4
    · have hlt : type'.fieldOffset + type'.fieldLen ≤ 20 := by
        rw [htype']
        decide
      subst htype'
      have hle := add_le_of_ipv4 h' h htype
      omega
    · exact checksumHdr_unique h h' htype htype'

lemma getPktLen_le (h : hdr ≤ p.len) : hdr + (p.getPktLen hdr).toNat ≤ p.len := by
  have hmod := Nat.mod_le (p.len - hdr) (2 ^ 16)
  rw [getPktLen_eq h, BitVec.toNat_ofNat]
  omega

/-- What a checksum is calculated from is in the frame, but for an IPv4 header that the frame cuts
off. -/
lemma checksumBytes_congr_of_frame {mem mem' : ℕ → Byte} (h : checksumHdr p.type type = some hdr)
    (hle : hdr ≤ p.len) (hframe : ∀ i < p.len, mem' i = mem i)
    (hipv4 : type = .ipv4 → ∀ i, hdr ≤ i → i < hdr + 20 → mem' i = mem i) :
    p.checksumBytes mem' hdr type = p.checksumBytes mem hdr type := by
  have hlen := getPktLen_le hle
  have hsegment (off : ℕ) : segment (setLe16 mem' (hdr + off) 0) hdr (p.getPktLen hdr).toNat =
      segment (setLe16 mem (hdr + off) 0) hdr (p.getPktLen hdr).toNat :=
    segment_congr fun a _ ha => setLe16_congr (hframe a (by omega))
  have hpseudo (htype : type ≠ .ipv4) (ip_proto : Byte) :
      pseudoHeader p.type p.len mem' ip_proto hdr = pseudoHeader p.type p.len mem ip_proto hdr :=
    pseudoHeader_congr h htype (fun i hi => hframe i (by omega)) p.len ip_proto
  have hwords (off wnum : ℕ) (h : ∀ i, hdr ≤ i → i < hdr + 2 * wnum → mem' i = mem i) :
      hostWords (setLe16 mem' (hdr + off) 0) hdr wnum =
        hostWords (setLe16 mem (hdr + off) 0) hdr wnum := by
    refine List.map_congr_left fun i hi => ?_
    have hi := List.mem_range.1 hi
    rw [le16, le16, setLe16_congr (h _ (by omega) (by omega)),
      setLe16_congr (h _ (by omega) (by omega))]
  cases type with
  | ipv4 =>
      rw [checksumBytes, checksumBytes, hwords 10 10 fun i hi hlt => hipv4 rfl i hi (by omega)]
  | icmpv4 =>
      rw [checksumBytes, checksumBytes, hwords 2 _ fun i _ hlt => hframe i (by omega)]
  | tcp | udp | icmpv6 => rw [checksumBytes, checksumBytes, hpseudo (by decide), hsegment]
  | gre => rw [checksumBytes, checksumBytes, hsegment]
  | sctp =>
      have hsegment : segment (setWord (hdr + 8) (0 : BitVec 32) mem') hdr (p.getPktLen hdr).toNat =
          segment (setWord (hdr + 8) (0 : BitVec 32) mem) hdr (p.getPktLen hdr).toNat :=
        segment_congr fun a _ ha => copyTo_congr (hframe a (by omega))
      rw [checksumBytes, checksumBytes, hsegment]

namespace Rewritten

protected lemma refl (p : Datapacketx86 S) : Rewritten p p [] :=
  ⟨rfl, rfl, fun _ => rfl, fun _ _ _ _ _ => rfl, fun _ _ _ _ _ => rfl, fun _ _ => rfl⟩

lemma setRecalculateChecksum (h : Rewritten p q marks) (type : CalculateChecksum) :
    Rewritten p (q.setRecalculateChecksum type) (type :: marks) where
  type := h.type
  len := h.len
  marked := by
    intro type'
    rw [isRecalculateChecksumFlagSet_set, h.marked, ← Bool.or_assoc, ← Bool.decide_or]
    simp only [List.mem_cons]
  fields := h.fields
  ipv4 := h.ipv4
  link := h.link

lemma marked_of (h : Rewritten p q marks) (hmark : p.isRecalculateChecksumFlagSet type = true) :
    q.isRecalculateChecksumFlagSet type = true := by
  rw [h.marked, hmark, Bool.or_true]

/-- The checksum of a frame that has not changed is the same. -/
lemma checksumBytes_eq (h : Rewritten p q marks) (hhdr : checksumHdr p.type type = some hdr)
    (hle : hdr ≤ p.len) (hframe : ∀ i < p.len, q.getBuffer i = p.getBuffer i) :
    q.checksumBytes q.getBuffer hdr type = p.checksumBytes p.getBuffer hdr type := by
  have hsame (mem : ℕ → Byte) : q.checksumBytes mem hdr type = p.checksumBytes mem hdr type := by
    cases type <;> simp only [checksumBytes, getPktLen, h.type, h.len]
  rw [hsame]
  refine checksumBytes_congr_of_frame hhdr hle hframe fun htype => ?_
  subst htype
  exact h.ipv4 hdr hhdr

/-- Outside of the fields that are calculated, a byte leaves as it is. -/
lemma output_of_unmarked (hhdr : checksumHdr p.type type = some hdr)
    (hmark : p.isRecalculateChecksumFlagSet type = false) {i : ℕ} (hi : i < type.fieldLen) :
    p.calculateChecksumsInSoftware.getBuffer (hdr + type.fieldOffset + i) =
      p.getBuffer (hdr + type.fieldOffset + i) := by
  refine output_of_not_mem fun type' hdr' hmark' hhdr' => ?_
  by_contra hmem
  have htype := eq_of_fields hhdr hhdr' hi (by omega) (by omega)
  rw [← htype, hmark] at hmark'
  cases hmark'

/-- **The frame that leaves is the one that would have left** if and only if nothing of it has been
changed, and the checksums that are marked in addition are fresh. -/
lemma output_eq_iff (h : Rewritten p q marks) :
    (∀ i < p.len, q.calculateChecksumsInSoftware.getBuffer i =
        p.calculateChecksumsInSoftware.getBuffer i) ↔
      (∀ i < p.len, q.getBuffer i = p.getBuffer i) ∧ p.FreshWith marks := by
  -- a byte is in a field that is calculated, or leaves as it is
  have hcases (i : ℕ) : (∃ type hdr j, q.isRecalculateChecksumFlagSet type = true ∧
      checksumHdr p.type type = some hdr ∧ j < type.fieldLen ∧ i = hdr + type.fieldOffset + j) ∨
      q.calculateChecksumsInSoftware.getBuffer i = q.getBuffer i ∧
        p.calculateChecksumsInSoftware.getBuffer i = p.getBuffer i := by
    by_cases hfield : ∃ type hdr, q.isRecalculateChecksumFlagSet type = true ∧
        checksumHdr p.type type = some hdr ∧ hdr + type.fieldOffset ≤ i ∧
        i < hdr + type.fieldOffset + type.fieldLen
    · obtain ⟨type, hdr, hmark, hhdr, hfrom, hto⟩ := hfield
      obtain ⟨j, rfl⟩ := Nat.exists_eq_add_of_le hfrom
      exact Or.inl ⟨type, hdr, j, hmark, hhdr, by omega, rfl⟩
    · refine Or.inr ⟨output_of_not_mem fun type hdr hmark hhdr => ?_,
        output_of_not_mem fun type hdr hmark hhdr => ?_⟩
      · rw [h.type] at hhdr
        by_contra hmem
        exact hfield ⟨type, hdr, hmark, hhdr, by omega, by omega⟩
      · by_contra hmem
        exact hfield ⟨type, hdr, h.marked_of hmark, hhdr, by omega, by omega⟩
  have hbytes {type : CalculateChecksum} {hdr i : ℕ}
      (hmark : q.isRecalculateChecksumFlagSet type = true)
      (hhdr : checksumHdr p.type type = some hdr) (hi : i < type.fieldLen)
      (hlen : hdr + type.fieldOffset + i < p.len)
      (hframe : ∀ i < p.len, q.getBuffer i = p.getBuffer i) :
      q.calculateChecksumsInSoftware.getBuffer (hdr + type.fieldOffset + i) =
        p.checksumBytes p.getBuffer hdr type i := by
    have hle : hdr ≤ p.len := by omega
    rw [output_field hmark (h.type ▸ hhdr) (h.len ▸ hle) hi, h.checksumBytes_eq hhdr hle hframe]
  constructor
  · intro hout
    have hframe (i : ℕ) (hi : i < p.len) : q.getBuffer i = p.getBuffer i := by
      rcases hcases i with ⟨type, hdr, j, -, hhdr, hj, rfl⟩ | ⟨hq, hp⟩
      · exact h.fields type hdr hhdr j hj
      · rw [← hq, hout i hi, hp]
    refine ⟨hframe, fun type htype hmark hdr hhdr => fresh_iff.2 fun i hi hlen => ?_⟩
    have hmark' : q.isRecalculateChecksumFlagSet type = true := by
      rw [h.marked, decide_eq_true htype, Bool.true_or]
    rw [← output_of_unmarked hhdr hmark hi, ← hout _ hlen, hbytes hmark' hhdr hi hlen hframe]
  · rintro ⟨hframe, hfresh⟩ i hi
    rcases hcases i with ⟨type, hdr, j, hmark, hhdr, hj, rfl⟩ | ⟨hq, hp⟩
    · rw [hbytes hmark hhdr hj hi hframe]
      cases hold : p.isRecalculateChecksumFlagSet type with
      | true => rw [output_field hold hhdr (by omega) hj]
      | false =>
          rw [h.marked, hold, Bool.or_false, decide_eq_true_eq] at hmark
          rw [output_of_unmarked hhdr hold hj]
          exact (fresh_iff.1 (hfresh type hmark hold hdr hhdr) j hj hi).symm
    · rw [hq, hp, hframe i hi]

end Rewritten

end Rewritten

end Datapacketx86

end Xdpd.Io
