import Xdpd.Io.ChecksumOutput

/-!
# Valid checksums

A checksum of a header that the type of the packet has is valid if the pseudo header and the segment
verify, the segment being what is left of the frame.  What it depends on is the header, with all
that follows it, and the part of the IP header that is in the pseudo header: `covers`.
-/

namespace Xdpd.Io

open Xdpd.Lib Xdpd.Classifier

/-! ## Validity -/

section Valid

variable (t : PktType) (len : ℕ) (mem : ℕ → Byte)

/-- The header with the checksum. -/
def checksumHdr : CalculateChecksum → Option ℕ
  | .ipv4 => getIpv4Hdr t
  | .tcp => getTcpHdr t
  | .udp => getUdpHdr t
  | .sctp => getSctpHdr t
  | .icmpv4 => getIcmpv4Hdr t
  | .icmpv6 => getIcmpv6Hdr t
  | .gre => getGreHdr t

/-- The length of the IPv4 header with its options. -/
def ipv4HdrLen : ℕ :=
  match t.upper with
  | .ipv4 options _ => 20 + options.val * 4
  | _ => 0

/-- The pseudo header of a segment.  The protocol comes from the IPv4 header; with IPv6 it is that
of the segment, whatever the next header is. -/
def pseudoHeader (ip_proto : Byte) (hdr : ℕ) : List Byte :=
  match getIpv4Hdr t, getIpv6Hdr t with
  | some fipv4, _ =>
      pseudoHeaderV4 (ipv4Src mem fipv4) (ipv4Dst mem fipv4) (mem (fipv4 + 9))
        (BitVec.ofNat 16 (len - hdr))
  | none, some fipv6 =>
      pseudoHeaderV6 (ipv6Src mem fipv6) (ipv6Dst mem fipv6) ip_proto (BitVec.ofNat 16 (len - hdr))
  | none, none => []

/-- Over IPv4, UDP needs no checksum: the field is zero then. -/
def NoChecksum (type : CalculateChecksum) : Prop :=
  type = .udp ∧ (getIpv4Hdr t).isSome = true ∧
    ∀ hdr, getUdpHdr t = some hdr → be16 mem (hdr + 6) = 0

/-- The checksum in the header at `hdr` is valid.  In UDP a zero is no checksum: over IPv6 a
receiver discards the datagram.  GRE has one if its flag says so. -/
def ValidAt (hdr : ℕ) : CalculateChecksum → Prop
  | .ipv4 => Verifies (segment mem hdr (ipv4HdrLen t))
  | .tcp => Verifies (pseudoHeader t len mem TCP_IP_PROTO hdr ++ segment mem hdr (len - hdr))
  | .udp => be16 mem (hdr + 6) ≠ 0 ∧
      Verifies (pseudoHeader t len mem UDP_IP_PROTO hdr ++ segment mem hdr (len - hdr))
  | .icmpv4 => Verifies (segment mem hdr (len - hdr))
  | .icmpv6 => Verifies (pseudoHeader t len mem ICMPV6_IP_PROTO hdr ++ segment mem hdr (len - hdr))
  | .sctp => ∀ i < 4, mem (hdr + 8 + i) =
      leBytes (crc32c (segment (setWord (hdr + 8) (0 : BitVec 32) mem) hdr (len - hdr))) i
  | .gre => le16 mem hdr &&& GRE_CSUM_FLAG_MASK ≠ 0 → Verifies (segment mem hdr (len - hdr))

/-- The checksum is valid if the type has the header, or there is none. -/
def ChecksumValid (type : CalculateChecksum) : Prop :=
  NoChecksum t mem type ∨ ∀ hdr, checksumHdr t type = some hdr → ValidAt t len mem hdr type

end Valid

/-! ## What a checksum covers -/

/-- The checksum that is above the IPv4 header. -/
def ofIpv4Payload : Ipv4Payload → Option CalculateChecksum
  | .none => none
  | .icmpv4 => some .icmpv4
  | .tcp => some .tcp
  | .udp | .gtpu4 => some .udp
  | .sctp => some .sctp
  | .gre4 => some .gre

/-- The checksum that is above the IPv6 header. -/
def ofIpv6Payload : Ipv6Payload → Option CalculateChecksum
  | .none => none
  | .icmpv6 _ => some .icmpv6
  | .tcp => some .tcp
  | .udp | .gtpu6 => some .udp
  | .sctp => some .sctp
  | .gre6 => some .gre

/-- The positions that a checksum depends on. -/
def covers (t : PktType) (type : CalculateChecksum) (i : ℕ) : Prop :=
  match t.upper with
  | .ipv4 options payload =>
      let pos := t.l2.len + (20 + options.val * 4)
      (type = .ipv4 ∧ t.l2.len ≤ i ∧ i < pos) ∨
        ofIpv4Payload payload = some type ∧
          (pos ≤ i ∨ (type = .tcp ∨ type = .udp) ∧
            (i = t.l2.len + 9 ∨ t.l2.len + 12 ≤ i ∧ i < t.l2.len + 20))
  | .ipv6 payload =>
      ofIpv6Payload payload = some type ∧
        (t.l2.len + 40 ≤ i ∨ (type = .tcp ∨ type = .udp ∨ type = .icmpv6) ∧
          t.l2.len + 8 ≤ i ∧ i < t.l2.len + 40)
  | _ => False

section Covers

variable {l2 : L2} {upper : Upper} {options : Fin 16} {payload4 : Ipv4Payload}
  {payload6 : Ipv6Payload} {t : PktType} {type : CalculateChecksum} {len hdr : ℕ}
  {mem mem' : ℕ → Byte}

/-! ## Where the headers with a checksum are -/

lemma checksumHdr_ipv4 (htype : type ≠ .ipv4) :
    checksumHdr ⟨l2, .ipv4 options payload4⟩ type =
      if ofIpv4Payload payload4 = some type then some (l2.len + (20 + options.val * 4))
      else none := by
  cases type with
  | ipv4 => exact absurd rfl htype
  | _ => rw [checksumHdr]; cases payload4 <;> simp [ofIpv4Payload]

lemma checksumHdr_ipv6 :
    checksumHdr ⟨l2, .ipv6 payload6⟩ type =
      if ofIpv6Payload payload6 = some type then some (l2.len + 40) else none := by
  cases type with
  | icmpv6 =>
      cases payload6 with
      | icmpv6 payload =>
          rw [checksumHdr, ofIpv6Payload, if_pos rfl]
          exact getIcmpv6Hdr_ipv6.2 ⟨⟨payload, rfl⟩, rfl⟩
      | _ =>
          rw [checksumHdr, if_neg (by decide)]
          refine Option.eq_none_iff_forall_ne_some.2 fun hdr hhdr => ?_
          obtain ⟨payload, hpayload⟩ := (getIcmpv6Hdr_ipv6.1 hhdr).1
          cases hpayload
  | _ => rw [checksumHdr]; cases payload6 <;> simp [ofIpv6Payload]

/-- Only IP headers and those above them have checksums. -/
lemma isIp_of_checksumHdr (h : checksumHdr ⟨l2, upper⟩ type = some hdr) : upper.isIp = true := by
  cases type with
  | gre =>
      rcases Option.or_eq_some_iff.1 h with h | ⟨-, h⟩
      · exact isIp_of_protocolOffset rfl h
      · exact isIp_of_protocolOffset rfl h
  | _ => exact isIp_of_protocolOffset rfl h

/-- A type without IP has no checksum to be valid. -/
lemma checksumValid_of_isIp (h : upper.isIp = false) (len : ℕ) (mem : ℕ → Byte)
    (type : CalculateChecksum) : ChecksumValid ⟨l2, upper⟩ len mem type := by
  refine Or.inr fun hdr hhdr => ?_
  rw [isIp_of_checksumHdr hhdr] at h
  cases h

/-! ## The same bytes -/

lemma pseudoHeader_ipv4_congr {ip_proto : Byte} (hproto : mem' (l2.len + 9) = mem (l2.len + 9))
    (haddr : ∀ a, l2.len + 12 ≤ a → a < l2.len + 20 → mem' a = mem a) :
    pseudoHeader ⟨l2, .ipv4 options payload4⟩ len mem' ip_proto hdr =
      pseudoHeader ⟨l2, .ipv4 options payload4⟩ len mem ip_proto hdr := by
  have hsrc : ipv4Src mem' l2.len = ipv4Src mem l2.len :=
    ofLeBytes_congr fun i hi => haddr _ (by omega) (by omega)
  have hdst : ipv4Dst mem' l2.len = ipv4Dst mem l2.len :=
    ofLeBytes_congr fun i hi => haddr _ (by omega) (by omega)
  simp only [pseudoHeader, getIpv4Hdr_ipv4, hproto, hsrc, hdst]

lemma pseudoHeader_ipv6_congr {ip_proto : Byte}
    (haddr : ∀ a, l2.len + 8 ≤ a → a < l2.len + 40 → mem' a = mem a) :
    pseudoHeader ⟨l2, .ipv6 payload6⟩ len mem' ip_proto hdr =
      pseudoHeader ⟨l2, .ipv6 payload6⟩ len mem ip_proto hdr := by
  have hsrc : (List.range 16).map (ipv6Src mem' l2.len) =
      (List.range 16).map (ipv6Src mem l2.len) := by
    refine List.map_congr_left fun i hi => haddr _ (by omega) ?_
    have hlt := List.mem_range.1 hi
    omega
  have hdst : (List.range 16).map (ipv6Dst mem' l2.len) =
      (List.range 16).map (ipv6Dst mem l2.len) := by
    refine List.map_congr_left fun i hi => haddr _ (by omega) ?_
    have hlt := List.mem_range.1 hi
    omega
  simp only [pseudoHeader, getIpv4Hdr_ipv6, getIpv6Hdr_ipv6, pseudoHeaderV6, hsrc, hdst]

/-- The pseudo header is covered. -/
lemma pseudoHeader_congr_of_covers {ip_proto : Byte} (hhdr : checksumHdr t type = some hdr)
    (hpseudo : type = .tcp ∨ type = .udp ∨ type = .icmpv6)
    (h : ∀ a, covers t type a → mem' a = mem a) :
    pseudoHeader t len mem' ip_proto hdr = pseudoHeader t len mem ip_proto hdr := by
  obtain ⟨l2, upper⟩ := t
  have htype : type ≠ .ipv4 := by
    rcases hpseudo with rfl | rfl | rfl <;> decide
  cases upper with
  | ipv4 options payload =>
      rw [checksumHdr_ipv4 htype] at hhdr
      split_ifs at hhdr with hpayload
      have hpseudo' : type = .tcp ∨ type = .udp := by
        rcases hpseudo with rfl | rfl | rfl
        · exact Or.inl rfl
        · exact Or.inr rfl
        · cases payload <;> cases hpayload
      refine pseudoHeader_ipv4_congr ?_ fun a ha ha' => ?_
      · exact h _ (Or.inr ⟨hpayload, Or.inr ⟨hpseudo', Or.inl rfl⟩⟩)
      · exact h _ (Or.inr ⟨hpayload, Or.inr ⟨hpseudo', Or.inr ⟨ha, ha'⟩⟩⟩)
  | ipv6 payload =>
      rw [checksumHdr_ipv6] at hhdr
      split_ifs at hhdr with hpayload
      exact pseudoHeader_ipv6_congr fun a ha ha' => h _ ⟨hpayload, Or.inr ⟨hpseudo, ha, ha'⟩⟩
  | _ => cases isIp_of_checksumHdr hhdr

/-- What is valid stays so if the header and what follows it stay, and the pseudo header does. -/
lemma ValidAt.congr (htype : type ≠ .ipv4) (hmem : ∀ a, hdr ≤ a → mem' a = mem a)
    (hpseudo : type = .tcp ∨ type = .udp ∨ type = .icmpv6 → ∀ ip_proto,
      pseudoHeader t len mem' ip_proto hdr = pseudoHeader t len mem ip_proto hdr)
    (h : ValidAt t len mem hdr type) : ValidAt t len mem' hdr type := by
  have hsegment : segment mem' hdr (len - hdr) = segment mem hdr (len - hdr) :=
    segment_congr fun a ha _ => hmem a ha
  cases type with
  | ipv4 => exact absurd rfl htype
  | tcp => rwa [ValidAt, hpseudo (Or.inl rfl), hsegment]
  | udp =>
      have hfield : be16 mem' (hdr + 6) = be16 mem (hdr + 6) :=
        be16_congr (hmem _ (by omega)) (hmem _ (by omega))
      rwa [ValidAt, hfield, hpseudo (Or.inr (Or.inl rfl)), hsegment]
  | icmpv6 => rwa [ValidAt, hpseudo (Or.inr (Or.inr rfl)), hsegment]
  | icmpv4 => rwa [ValidAt, hsegment]
  | gre =>
      have hflags : le16 mem' hdr = le16 mem hdr := by
        rw [le16, le16, hmem _ (by omega), hmem _ (by omega)]
      rwa [ValidAt, hflags, hsegment]
  | sctp =>
      intro i hi
      have hzero : segment (setWord (hdr + 8) (0 : BitVec 32) mem') hdr (len - hdr) =
          segment (setWord (hdr + 8) (0 : BitVec 32) mem) hdr (len - hdr) :=
        segment_congr fun a ha _ => copyTo_congr (hmem a ha)
      rw [hmem _ (by omega), hzero]
      exact h i hi

lemma NoChecksum.congr
    (hmem : ∀ hdr, getUdpHdr t = some hdr → ∀ a, hdr + 6 ≤ a → a < hdr + 8 → mem' a = mem a)
    (h : NoChecksum t mem type) : NoChecksum t mem' type := by
  obtain ⟨htype, hipv4, hzero⟩ := h
  refine ⟨htype, hipv4, fun hdr hhdr => ?_⟩
  rw [be16, hmem hdr hhdr _ (by omega) (by omega), hmem hdr hhdr _ (by omega) (by omega)]
  exact hzero hdr hhdr

/-- **A checksum stays valid** if all that it covers stays. -/
lemma ChecksumValid.congr (hmem : ∀ i, covers t type i → mem' i = mem i)
    (h : ChecksumValid t len mem type) : ChecksumValid t len mem' type := by
  obtain ⟨l2, upper⟩ := t
  cases upper with
  | ipv4 options payload =>
      by_cases htype : type = .ipv4
      · subst htype
        rcases h with ⟨htype, -⟩ | h
        · cases htype
        · refine Or.inr fun hdr hhdr => ?_
          have hpos : hdr = l2.len := by
            rw [checksumHdr, getIpv4Hdr_ipv4] at hhdr
            exact (Option.some_inj.1 hhdr).symm
          have hsegment : segment mem' hdr (ipv4HdrLen ⟨l2, .ipv4 options payload⟩) =
              segment mem hdr (ipv4HdrLen ⟨l2, .ipv4 options payload⟩) :=
            segment_congr fun a ha ha' => hmem a (Or.inl ⟨rfl, hpos ▸ ha, hpos ▸ ha'⟩)
          rw [ValidAt, hsegment]
          exact h hdr hhdr
      · by_cases hpayload : ofIpv4Payload payload = some type
        · have hhdr (hdr : ℕ) (h : checksumHdr ⟨l2, .ipv4 options payload⟩ type = some hdr) :
              hdr = l2.len + (20 + options.val * 4) := by
            rw [checksumHdr_ipv4 htype, if_pos hpayload] at h
            exact (Option.some_inj.1 h).symm
          have hafter (a : ℕ) (ha : l2.len + (20 + options.val * 4) ≤ a) : mem' a = mem a :=
            hmem a (Or.inr ⟨hpayload, Or.inl ha⟩)
          rcases h with h | h
          · obtain rfl := h.1
            refine Or.inl (h.congr fun hdr h a ha _ => hafter a ?_)
            have hpos := hhdr hdr h
            omega
          · refine Or.inr fun hdr h' => (h hdr h').congr htype (fun a ha => hafter a ?_) ?_
            · exact hhdr hdr h' ▸ ha
            · exact fun hpseudo ip_proto => pseudoHeader_congr_of_covers h' hpseudo hmem
        · refine Or.inr fun hdr hhdr => ?_
          rw [checksumHdr_ipv4 htype, if_neg hpayload] at hhdr
          cases hhdr
  | ipv6 payload =>
      by_cases hpayload : ofIpv6Payload payload = some type
      · have hhdr (hdr : ℕ) (h : checksumHdr ⟨l2, .ipv6 payload⟩ type = some hdr) :
            hdr = l2.len + 40 := by
          rw [checksumHdr_ipv6, if_pos hpayload] at h
          exact (Option.some_inj.1 h).symm
        have hafter (a : ℕ) (ha : l2.len + 40 ≤ a) : mem' a = mem a :=
          hmem a ⟨hpayload, Or.inl ha⟩
        have htype : type ≠ .ipv4 := by
          rintro rfl
          cases payload <;> cases hpayload
        rcases h with h | h
        · obtain rfl := h.1
          refine Or.inl (h.congr fun hdr h a ha _ => hafter a ?_)
          have hpos := hhdr hdr h
          omega
        · refine Or.inr fun hdr h' => (h hdr h').congr htype (fun a ha => hafter a ?_) ?_
          · exact hhdr hdr h' ▸ ha
          · exact fun hpseudo ip_proto => pseudoHeader_congr_of_covers h' hpseudo hmem
      · refine Or.inr fun hdr hhdr => ?_
        rw [checksumHdr_ipv6, if_neg hpayload] at hhdr
        cases hhdr
  | _ => exact checksumValid_of_isIp rfl len mem' type

end Covers

end Xdpd.Io
