import Xdpd.Io.ChecksumValid

/-!
# Checksums over header actions

A packet that comes in with valid checksums goes through actions on its headers, and the marked
checksums are calculated before it leaves.  The invariant is that a checksum is marked or valid.  It
is kept by the actions that are `Safe`; the routines of IPv4 and ICMPv4 make a marked checksum valid
only if `OutputSafe` holds.
-/

namespace Xdpd.Io

open Xdpd.Lib Xdpd.Classifier

variable {S : Type*}

namespace Datapacketx86

/-- The checksum is marked, or there is none. -/
def MarkedOrAbsent (p : Datapacketx86 S) (type : CalculateChecksum) : Prop :=
  p.isRecalculateChecksumFlagSet type = true ∨ NoChecksum p.type p.getBuffer type

/-- The checksum of the packet is valid. -/
def Valid (p : Datapacketx86 S) (type : CalculateChecksum) : Prop :=
  ChecksumValid p.type p.len p.getBuffer type

/-- The checksum is marked, or it is valid. -/
def Kept (p : Datapacketx86 S) (type : CalculateChecksum) : Prop :=
  p.isRecalculateChecksumFlagSet type = true ∨ p.Valid type

end Datapacketx86

/-! ## Actions that do not overlook a checksum -/

/-- The action does not make the checksum stale without marking it.  The ethertype that is written
is before the IPv4 header; the protocol, the IPv6 addresses and the fields of GTP are not changed
under a checksum that covers them and that they do not mark; a GRE header that is changed has no
checksum. -/
def HeaderAction.Safe (p : Datapacketx86 S) (type : CalculateChecksum) : HeaderAction → Prop
  | .setEthType _ => type = .ipv4 → ∀ hdr, getIpv4Hdr p.type = some hdr →
      p.MarkedOrAbsent type ∨ etherTypeOffset p.getBuffer + 2 ≤ hdr
  | .setIpProto ip_proto => type = .tcp ∨ type = .udp → ∀ hdr, getIpv4Hdr p.type = some hdr →
      (checksumHdr p.type type).isSome = true →
      p.MarkedOrAbsent type ∨ p.getBuffer (hdr + 9) = ip_proto
  | .setIpv6Src ipv6_src => type = .icmpv6 → ∀ hdr, getIpv6Hdr p.type = some hdr →
      (getIcmpv6Hdr p.type).isSome = true →
      p.MarkedOrAbsent type ∨ ∀ i < 16, p.getBuffer (hdr + 8 + i) = leBytes ipv6_src i
  | .setIpv6Dst ipv6_dst => type = .icmpv6 → ∀ hdr, getIpv6Hdr p.type = some hdr →
      (getIcmpv6Hdr p.type).isSome = true →
      p.MarkedOrAbsent type ∨ ∀ i < 16, p.getBuffer (hdr + 24 + i) = leBytes ipv6_dst i
  | .setGtpMsgType msg_type => type = .udp → ∀ hdr, getGtpuHdr p.type = some hdr →
      p.MarkedOrAbsent type ∨ p.getBuffer (hdr + 1) = msg_type
  | .setGtpTeid teid => type = .udp → ∀ hdr, getGtpuHdr p.type = some hdr →
      p.MarkedOrAbsent type ∨ ∀ i < 4, p.getBuffer (hdr + 4 + i) = leBytes teid i
  | .setGreVersion _ | .setGreProtType _ | .setGreKey _ => type = .gre →
      ∀ hdr, getGreHdr p.type = some hdr →
      p.MarkedOrAbsent type ∨ le16 p.getBuffer hdr &&& GRE_CSUM_FLAG_MASK = 0
  | _ => True

/-- Every action of a run is safe, on the packet as it is then. -/
def RunSafe (type : CalculateChecksum) : List HeaderAction → Datapacketx86 S → Prop
  | [], _ => True
  | a :: actions, p => a.Safe p type ∧ RunSafe type actions (a.apply p)

namespace Datapacketx86

/-- A run of actions. -/
def applyActions (actions : List HeaderAction) (p : Datapacketx86 S) : Datapacketx86 S :=
  actions.foldl (fun p a => a.apply p) p

section Covers

variable {l2 : L2} {upper : Upper} {t : PktType} {type : CalculateChecksum} {i : ℕ}

/-! ## What is not covered -/

/-- No checksum covers the link layer. -/
lemma le_of_covers (h : covers t type i) : t.l2.len ≤ i := by
  obtain ⟨l2, upper⟩ := t
  cases upper with
  | ipv4 options payload =>
      simp only [covers] at h ⊢
      omega
  | ipv6 payload =>
      simp only [covers] at h ⊢
      omega
  | _ => exact h.elim

/-- The checksums above IP do not cover the start of its header. -/
lemma add_le_of_covers (htype : type ≠ .ipv4) (h : covers t type i) : t.l2.len + 8 ≤ i := by
  obtain ⟨l2, upper⟩ := t
  cases upper with
  | ipv4 options payload =>
      rcases h with ⟨h, -⟩ | ⟨-, h⟩
      · exact absurd h htype
      · simp only at h ⊢
        omega
  | ipv6 payload =>
      simp only [covers] at h ⊢
      omega
  | _ => exact h.elim

lemma eq_len_of_getIpv4Hdr {hdr : ℕ} (h : getIpv4Hdr t = some hdr) : hdr = t.l2.len := by
  obtain ⟨l2, upper⟩ := t
  cases upper with
  | ipv4 options payload =>
      rw [getIpv4Hdr_ipv4] at h
      exact (Option.some_inj.1 h).symm
  | ipv6 payload =>
      rw [getIpv4Hdr_ipv6] at h
      cases h
  | _ => cases isIp_of_protocolOffset rfl h

lemma eq_len_of_getIpv6Hdr {hdr : ℕ} (h : getIpv6Hdr t = some hdr) : hdr = t.l2.len := by
  obtain ⟨l2, upper⟩ := t
  cases upper with
  | ipv4 options payload =>
      rw [getIpv6Hdr_ipv4] at h
      cases h
  | ipv6 payload =>
      rw [getIpv6Hdr_ipv6] at h
      exact (Option.some_inj.1 h).symm
  | _ => cases isIp_of_protocolOffset rfl h

/-- Of the IPv4 header, the other checksums cover the protocol and the addresses, and only those of
TCP and UDP do. -/
lemma covers_of_ipv4 {hdr : ℕ} (hhdr : getIpv4Hdr t = some hdr) (htype : type ≠ .ipv4)
    (h : covers t type i) :
    hdr + 20 ≤ i ∨ (type = .tcp ∨ type = .udp) ∧ (i = hdr + 9 ∨ hdr + 12 ≤ i) := by
  obtain ⟨l2, upper⟩ := t
  cases upper with
  | ipv4 options payload =>
      rw [getIpv4Hdr_ipv4] at hhdr
      cases hhdr
      rcases h with ⟨h, -⟩ | ⟨-, h | ⟨htcp, h | ⟨h, -⟩⟩⟩
      · exact absurd h htype
      · exact Or.inl (by change l2.len + (20 + _) ≤ i at h; omega)
      · exact Or.inr ⟨htcp, Or.inl h⟩
      · exact Or.inr ⟨htcp, Or.inr h⟩
  | ipv6 payload =>
      rw [getIpv4Hdr_ipv6] at hhdr
      cases hhdr
  | _ => exact h.elim

/-- Of the IPv6 header, the checksums of TCP, UDP and ICMPv6 cover the addresses. -/
lemma covers_of_ipv6 {hdr : ℕ} (hhdr : getIpv6Hdr t = some hdr) (h : covers t type i) :
    hdr + 40 ≤ i ∨ (type = .tcp ∨ type = .udp ∨ type = .icmpv6) ∧ hdr + 8 ≤ i := by
  obtain ⟨l2, upper⟩ := t
  cases upper with
  | ipv4 options payload =>
      rw [getIpv6Hdr_ipv4] at hhdr
      cases hhdr
  | ipv6 payload =>
      rw [getIpv6Hdr_ipv6] at hhdr
      cases hhdr
      rcases h with ⟨-, h | ⟨htcp, h, -⟩⟩
      · exact Or.inl h
      · exact Or.inr ⟨htcp, h⟩
  | _ => exact h.elim

/-- A header with a checksum above IP, and what follows it, is covered by that checksum only. -/
lemma lt_of_covers {type' : CalculateChecksum} {hdr : ℕ} (hhdr : checksumHdr t type' = some hdr)
    (htype' : type' ≠ .ipv4) (htype : type ≠ type') (h : covers t type i) : i < hdr := by
  obtain ⟨l2, upper⟩ := t
  cases upper with
  | ipv4 options payload =>
      rw [checksumHdr_ipv4 htype'] at hhdr
      split_ifs at hhdr with hpayload
      cases hhdr
      rcases h with ⟨-, -, h⟩ | ⟨hpayload', -⟩
      · exact h
      · rw [hpayload] at hpayload'
        exact absurd (Option.some_inj.1 hpayload').symm htype
  | ipv6 payload =>
      rw [checksumHdr_ipv6] at hhdr
      split_ifs at hhdr with hpayload
      rw [h.1] at hpayload
      exact absurd (Option.some_inj.1 hpayload) htype
  | _ => exact h.elim

end Covers

section Steps

variable {p : Datapacketx86 S} {type : CalculateChecksum} {get : PktType → Option ℕ}
  {set : ℕ → (ℕ → Byte) → ℕ → Byte} {marks : List CalculateChecksum}

/-! ## Steps -/

/-- A setter keeps the invariant if the checksums that it does not mark stay valid. -/
lemma Kept.setHdr (hk : p.Kept type)
    (h : ∀ hdr, get p.type = some hdr → type ∉ marks →
      ¬ p.isRecalculateChecksumFlagSet type = true → p.Valid type →
      ChecksumValid p.type p.len (set hdr p.getBuffer) type) :
    (setHdr get set marks p).Kept type := by
  obtain ⟨htype, hlen, hnone, hsome⟩ := setHdr_spec get set marks p
  cases hget : get p.type with
  | none => rwa [hnone hget]
  | some hdr =>
      obtain ⟨hbuffer, hmarks⟩ := hsome hdr hget
      by_cases hmark : type ∈ marks ∨ p.isRecalculateChecksumFlagSet type = true
      · refine Or.inl ?_
        rw [hmarks]
        simpa using hmark
      · rw [not_or] at hmark
        refine Or.inr ?_
        rw [Valid, htype, hlen, hbuffer]
        exact h hdr hget hmark.1 hmark.2 (hk.resolve_left hmark.2)

/-- What is written in the link layer. -/
lemma Kept.setLink (hk : p.Kept type)
    (h : ∀ hdr, get p.type = some hdr → ∀ i, p.type.l2.len ≤ i →
      set hdr p.getBuffer i = p.getBuffer i) :
    (Datapacketx86.setHdr get set [] p).Kept type :=
  hk.setHdr fun hdr hhdr _ _ hvalid => hvalid.congr fun i hi => h hdr hhdr i (le_of_covers hi)

/-- What is written into a header that excludes IP. -/
lemma Kept.setNoIp (hk : p.Kept type)
    (h : ∀ hdr, get p.type = some hdr → p.type.upper.isIp = false) :
    (Datapacketx86.setHdr get set marks p).Kept type :=
  hk.setHdr fun hdr hhdr _ _ _ => checksumValid_of_isIp (h hdr hhdr) p.len _ type

/-- What is written into the fields of an IPv4 header that only its own checksum covers. -/
lemma Kept.setIpv4 (hk : p.Kept type)
    (h : ∀ hdr i, hdr + 9 ≤ i → set hdr p.getBuffer i = p.getBuffer i) :
    (Datapacketx86.setHdr getIpv4Hdr set [.ipv4] p).Kept type := by
  refine hk.setHdr fun hdr hhdr hmark _ hvalid => hvalid.congr fun i hi => h hdr i ?_
  have htype : type ≠ .ipv4 := fun htype => hmark (List.mem_singleton.2 htype)
  have hcovers := covers_of_ipv4 hhdr htype hi
  omega

/-- What is written into an address of an IPv4 header. -/
lemma Kept.setIpv4Addr (hk : p.Kept type)
    (h : ∀ hdr i, hdr + 20 ≤ i → set hdr p.getBuffer i = p.getBuffer i) :
    (Datapacketx86.setHdr getIpv4Hdr set [.ipv4, .tcp, .udp] p).Kept type := by
  refine hk.setHdr fun hdr hhdr hmark _ hvalid => hvalid.congr fun i hi => h hdr i ?_
  simp only [List.mem_cons, List.not_mem_nil, or_false, not_or] at hmark
  rcases covers_of_ipv4 hhdr hmark.1 hi with hcovers | ⟨htcp, -⟩
  · exact hcovers
  · exact absurd htcp (not_or.2 hmark.2)

/-- What is written into the fields of an IPv6 header that no checksum covers. -/
lemma Kept.setIpv6 (hk : p.Kept type)
    (h : ∀ hdr i, hdr + 8 ≤ i → set hdr p.getBuffer i = p.getBuffer i) :
    (Datapacketx86.setHdr getIpv6Hdr set [] p).Kept type := by
  refine hk.setHdr fun hdr hhdr _ _ hvalid => hvalid.congr fun i hi => h hdr i ?_
  have hcovers := covers_of_ipv6 hhdr hi
  omega

/-- What is written into a header above IP, or after it, with its checksum marked. -/
lemma Kept.setAbove {type' : CalculateChecksum} (hk : p.Kept type) (htype' : type' ≠ .ipv4)
    (h : ∀ hdr, get p.type = some hdr → ∃ hdr', checksumHdr p.type type' = some hdr' ∧
      ∀ i < hdr', set hdr p.getBuffer i = p.getBuffer i) :
    (Datapacketx86.setHdr get set [type'] p).Kept type := by
  refine hk.setHdr fun hdr hhdr hmark _ hvalid => ?_
  obtain ⟨hdr', hhdr', hset⟩ := h hdr hhdr
  have htype : type ≠ type' := fun htype => hmark (List.mem_singleton.2 htype)
  exact hvalid.congr fun i hi => hset i (lt_of_covers hhdr' htype' htype hi)

/-- What comes after an IPv4 header. -/
lemma add_le_of_ipv4 {t : PktType} {type' : CalculateChecksum} {hdr hdr' : ℕ}
    (hhdr : getIpv4Hdr t = some hdr) (hhdr' : checksumHdr t type' = some hdr')
    (htype' : type' ≠ .ipv4) : hdr + 20 ≤ hdr' := by
  obtain ⟨l2, upper⟩ := t
  cases upper with
  | ipv4 options payload =>
      rw [getIpv4Hdr_ipv4] at hhdr
      rw [checksumHdr_ipv4 htype'] at hhdr'
      split_ifs at hhdr'
      cases hhdr
      cases hhdr'
      omega
  | ipv6 payload =>
      rw [getIpv4Hdr_ipv6] at hhdr
      cases hhdr
  | _ => cases isIp_of_checksumHdr hhdr'

/-- The header of GTP comes after that of UDP. -/
lemma getUdpHdr_of_gtpu {t : PktType} {hdr : ℕ} (h : getGtpuHdr t = some hdr) :
    ∃ udp, getUdpHdr t = some udp ∧ hdr = udp + 8 := by
  obtain ⟨l2, upper⟩ := t
  cases upper with
  | ipv4 options payload =>
      rw [getGtpuHdr_ipv4] at h
      split_ifs at h with hpayload
      cases h
      exact ⟨_, by rw [getUdpHdr_ipv4, if_pos (Or.inr hpayload)], rfl⟩
  | ipv6 payload =>
      rw [getGtpuHdr_ipv6] at h
      split_ifs at h with hpayload
      cases h
      exact ⟨_, by rw [getUdpHdr_ipv6, if_pos (Or.inr hpayload)], rfl⟩
  | _ =>
      rcases Option.or_eq_some_iff.1 h with h | ⟨-, h⟩
      · cases isIp_of_protocolOffset rfl h
      · cases isIp_of_protocolOffset rfl h

/-- The options with link layer addresses come after the ICMPv6 header. -/
lemma getIcmpv6Hdr_of_opts {t : PktType} {proto : Proto} {hdr : ℕ} (hproto : proto.isIcmpv6 = true)
    (hne : proto ≠ .icmpv6) (h : protocolOffset t proto = some hdr) :
    ∃ hdr', getIcmpv6Hdr t = some hdr' ∧ hdr' ≤ hdr := by
  obtain ⟨l2, upper⟩ := t
  obtain ⟨⟨payload, rfl⟩, hle⟩ := le_of_icmpv6 hproto hne h
  exact ⟨_, getIcmpv6Hdr_ipv6.2 ⟨⟨payload, rfl⟩, rfl⟩, by omega⟩

lemma getIcmpv6Hdr_of_source {t : PktType} {hdr : ℕ}
    (h : getIcmpv6OptLladrSourceHdr t = some hdr) :
    ∃ hdr', getIcmpv6Hdr t = some hdr' ∧ hdr' ≤ hdr := by
  rcases Option.or_eq_some_iff.1 h with h | ⟨-, h⟩
  · rcases Option.or_eq_some_iff.1 h with h | ⟨-, h⟩
    · rcases Option.or_eq_some_iff.1 h with h | ⟨-, h⟩
      · exact getIcmpv6Hdr_of_opts rfl (by decide) h
      · exact getIcmpv6Hdr_of_opts rfl (by decide) h
    · exact getIcmpv6Hdr_of_opts rfl (by decide) h
  · exact getIcmpv6Hdr_of_opts rfl (by decide) h

lemma getIcmpv6Hdr_of_target {t : PktType} {hdr : ℕ}
    (h : getIcmpv6OptLladrTargetHdr t = some hdr) :
    ∃ hdr', getIcmpv6Hdr t = some hdr' ∧ hdr' ≤ hdr := by
  rcases Option.or_eq_some_iff.1 h with h | ⟨-, h⟩
  · exact getIcmpv6Hdr_of_opts rfl (by decide) h
  · exact getIcmpv6Hdr_of_opts rfl (by decide) h

lemma checksumValid_of_none {t : PktType} {len : ℕ} {mem : ℕ → Byte}
    (h : checksumHdr t type = none) : ChecksumValid t len mem type := by
  refine Or.inr fun hdr hhdr => ?_
  rw [h] at hhdr
  cases hhdr

/-- The protocol of an IPv4 header. -/
lemma Kept.setIpProto {ip_proto : Byte} (hk : p.Kept type)
    (hsafe : (HeaderAction.setIpProto ip_proto).Safe p type) :
    (platformPacketSetIpProto ip_proto p).Kept type := by
  refine Kept.setIpv6 (p := Datapacketx86.setHdr getIpv4Hdr (setIpv4Proto · ip_proto) [.ipv4] p) ?_
    fun hdr i hi => setWord_of_not_mem _ _ (by omega)
  refine hk.setHdr fun hdr hhdr hmark hunmarked hvalid => ?_
  have htype : type ≠ .ipv4 := fun htype => hmark (List.mem_singleton.2 htype)
  by_cases htcp : type = .tcp ∨ type = .udp
  · cases hsome : checksumHdr p.type type with
    | none => exact checksumValid_of_none hsome
    | some hdr' =>
        rcases hsafe htcp hdr hhdr (by rw [hsome]; rfl) with (hmarked | habsent) | hsame
        · exact absurd hmarked hunmarked
        · refine Or.inl (habsent.congr fun udp hudp a ha _ => setWord_of_not_mem _ _ ?_)
          have hudp' : checksumHdr p.type .udp = some udp := hudp
          have hle := add_le_of_ipv4 hhdr hudp' (by decide)
          omega
        · have hself : setIpv4Proto hdr ip_proto p.getBuffer = p.getBuffer := setByte_eq_self hsame
          rw [hself]
          exact hvalid
  · refine hvalid.congr fun i hi => setWord_of_not_mem _ _ ?_
    rcases covers_of_ipv4 hhdr htype hi with hcovers | ⟨htcp', -⟩
    · omega
    · exact absurd htcp' htcp

/-- An address of an IPv6 header. -/
lemma Kept.setIpv6Addr {off : ℕ} {addr : BitVec 128} (hk : p.Kept type) (hoff : 8 ≤ off)
    (hend : off + 16 ≤ 40)
    (hsafe : type = .icmpv6 → ∀ hdr, getIpv6Hdr p.type = some hdr →
      (getIcmpv6Hdr p.type).isSome = true →
      p.MarkedOrAbsent type ∨ ∀ i < 16, p.getBuffer (hdr + off + i) = leBytes addr i) :
    (Datapacketx86.setHdr getIpv6Hdr (fun hdr => setWord (hdr + off) addr) [.tcp, .udp] p).Kept
      type := by
  refine hk.setHdr fun hdr hhdr hmark hunmarked hvalid => ?_
  simp only [List.mem_cons, List.not_mem_nil, or_false, not_or] at hmark
  by_cases htype : type = .icmpv6
  · cases hsome : getIcmpv6Hdr p.type with
    | none => exact checksumValid_of_none (by rw [htype]; exact hsome)
    | some hdr' =>
        rcases hsafe htype hdr hhdr (by rw [hsome]; rfl) with (hmarked | habsent) | hsame
        · exact absurd hmarked hunmarked
        · exact absurd habsent.1 hmark.2
        · rw [setWord_eq_self hsame]
          exact hvalid
  · refine hvalid.congr fun i hi => setWord_of_not_mem _ _ ?_
    rcases covers_of_ipv6 hhdr hi with hcovers | ⟨htcp | hudp | hicmpv6, -⟩
    · omega
    · exact absurd htcp hmark.1
    · exact absurd hudp hmark.2
    · exact absurd hicmpv6 htype

/-- A field of GTP, whose bytes are those of `v` afterwards. -/
lemma Kept.setGtp {w off : ℕ} {v : BitVec w} (hk : p.Kept type)
    (hsafe : type = .udp → ∀ hdr, getGtpuHdr p.type = some hdr →
      p.MarkedOrAbsent type ∨ setWord (hdr + off) v p.getBuffer = p.getBuffer) :
    (Datapacketx86.setHdr getGtpuHdr (fun hdr => setWord (hdr + off) v) [] p).Kept type := by
  refine hk.setHdr fun hdr hhdr _ hunmarked hvalid => ?_
  obtain ⟨udp, hudp, hpos⟩ := getUdpHdr_of_gtpu hhdr
  by_cases htype : type = .udp
  · rcases hsafe htype hdr hhdr with (hmarked | habsent) | hsame
    · exact absurd hmarked hunmarked
    · refine Or.inl (habsent.congr fun udp' hudp' a _ ha => setWord_of_not_mem _ _ ?_)
      rw [hudp] at hudp'
      cases hudp'
      omega
    · rw [hsame]
      exact hvalid
  · refine hvalid.congr fun i hi => setWord_of_not_mem _ _ ?_
    have hudp' : checksumHdr p.type .udp = some udp := hudp
    have hlt := lt_of_covers hudp' (by decide) htype hi
    omega

/-- A field of GRE. -/
lemma Kept.setGre (hk : p.Kept type)
    (hset : ∀ hdr, set hdr p.getBuffer hdr = p.getBuffer hdr ∧
      ∀ i < hdr, set hdr p.getBuffer i = p.getBuffer i)
    (hsafe : type = .gre → ∀ hdr, getGreHdr p.type = some hdr →
      p.MarkedOrAbsent type ∨ le16 p.getBuffer hdr &&& GRE_CSUM_FLAG_MASK = 0) :
    (Datapacketx86.setHdr getGreHdr set [] p).Kept type := by
  refine hk.setHdr fun hdr hhdr _ hunmarked hvalid => ?_
  by_cases htype : type = .gre
  · rcases hsafe htype hdr hhdr with (hmarked | habsent) | hflag
    · exact absurd hmarked hunmarked
    · rw [htype] at habsent
      cases habsent.1
    · refine Or.inr fun hdr' hhdr' => ?_
      rw [htype, checksumHdr, hhdr] at hhdr'
      cases hhdr'
      rw [htype, ValidAt, greCsumFlag_congr hdr (hset hdr).1]
      exact fun hne => absurd hflag hne
  · refine hvalid.congr fun i hi => (hset hdr).2 i ?_
    have hgre : checksumHdr p.type .gre = some hdr := hhdr
    exact lt_of_covers hgre (by decide) htype hi

/-! ## All actions -/

/-- A packet without IP has nothing to keep. -/
lemma Kept.of_isIp (h : p.type.upper.isIp = false) : p.Kept type :=
  Or.inr (checksumValid_of_isIp h p.len p.getBuffer type)

lemma isIp_of_getMplsHdr {t : PktType} {idx hdr : ℕ} (h : getMplsHdr t idx = some hdr) :
    t.upper.isIp = false := by
  rw [getMplsHdr] at h
  split_ifs at h
  · exact isIp_of_protocolOffset rfl h
  · obtain ⟨hdr', hhdr', -⟩ := Option.map_eq_some_iff.1 h
    exact isIp_of_protocolOffset rfl hhdr'

/-- The time to live is only copied to or from a label. -/
lemma platformPacketCopyTtlIn_eq (p : Datapacketx86 S) : platformPacketCopyTtlIn p = p ∨
    p.type.upper.isIp = false ∧ (platformPacketCopyTtlIn p).type = p.type := by
  cases hhdr : getMplsHdr p.type 0 with
  | none => exact Or.inl (by rw [platformPacketCopyTtlIn, hhdr])
  | some hdr =>
      refine Or.inr ⟨isIp_of_getMplsHdr hhdr, ?_⟩
      simp only [platformPacketCopyTtlIn, hhdr]
      split
      · exact type_mapBuffer _ _
      · split_ifs <;> simp only [type_mapBuffer]

lemma platformPacketCopyTtlOut_eq (p : Datapacketx86 S) : platformPacketCopyTtlOut p = p ∨
    p.type.upper.isIp = false ∧ (platformPacketCopyTtlOut p).type = p.type := by
  cases hhdr : getMplsHdr p.type 0 with
  | none => exact Or.inl (by rw [platformPacketCopyTtlOut, hhdr])
  | some hdr =>
      refine Or.inr ⟨isIp_of_getMplsHdr hhdr, ?_⟩
      simp only [platformPacketCopyTtlOut, hhdr]
      split
      · exact type_mapBuffer _ _
      · split_ifs <;> simp only [type_mapBuffer]

/-- A field that both versions of IP have, and that no other checksum covers. -/
lemma Kept.setIp {set4 set6 : ℕ → (ℕ → Byte) → ℕ → Byte} (hk : p.Kept type)
    (h4 : ∀ hdr mem i, hdr + 9 ≤ i → set4 hdr mem i = mem i)
    (h6 : ∀ hdr mem i, hdr + 8 ≤ i → set6 hdr mem i = mem i) : (setIpHdr set4 set6 p).Kept type :=
  (hk.setIpv4 fun hdr i hi => h4 hdr _ i hi).setIpv6 fun hdr i hi => h6 hdr _ i hi

/-- What is written into the Ethernet header, with its addresses at most. -/
lemma Kept.setEther (hk : p.Kept type) (h : ∀ mem i, 14 ≤ i → set 0 mem i = mem i) :
    (Datapacketx86.setHdr getEtherHdr set [] p).Kept type := by
  refine hk.setLink fun hdr hhdr i hi => ?_
  rw [getEtherHdr_eq] at hhdr
  cases hhdr
  have hle := p.type.l2.le_len
  exact h _ i (by omega)

/-- The ethertype. -/
lemma Kept.setEthType {eth_type : BitVec 16} (hk : p.Kept type)
    (hsafe : (HeaderAction.setEthType eth_type).Safe p type) :
    (platformPacketSetEthType eth_type p).Kept type := by
  refine hk.setHdr fun hdr hhdr _ hunmarked hvalid => ?_
  rw [getEtherHdr_eq] at hhdr
  cases hhdr
  have hwrite (i : ℕ) (hi : etherTypeOffset p.getBuffer + 2 ≤ i) :
      setEtherType 0 eth_type p.getBuffer i = p.getBuffer i :=
    setEtherType_of_not_mem (.inr hi)
  have hlow : etherTypeOffset p.getBuffer ≤ 20 := by
    rw [etherTypeOffset]
    split_ifs <;> decide
  have hlink := p.type.l2.le_len
  by_cases htype : type = .ipv4
  · cases hhdr : getIpv4Hdr p.type with
    | none => exact checksumValid_of_none (by rw [htype]; exact hhdr)
    | some hdr =>
        rcases hsafe htype hdr hhdr with (hmarked | habsent) | hbefore
        · exact absurd hmarked hunmarked
        · rw [htype] at habsent
          cases habsent.1
        · refine hvalid.congr fun i hi => hwrite i ?_
          have hpos := eq_len_of_getIpv4Hdr hhdr
          have hle := le_of_covers hi
          omega
  · refine hvalid.congr fun i hi => hwrite i ?_
    have hle := add_le_of_covers htype hi
    omega

/-- **Every action that is safe keeps the invariant.** -/
lemma Kept.apply {a : HeaderAction} (hk : p.Kept type) (hsafe : a.Safe p type) :
    (a.apply p).Kept type := by
  have hvlan (hdr : ℕ) (hhdr : getVlanHdr p.type = some hdr) : hdr + 4 ≤ p.type.l2.len :=
    add_len_le_of_link rfl hhdr
  have hisid (hdr : ℕ) (hhdr : getPbbIsidHdr p.type = some hdr) : hdr + 4 ≤ p.type.l2.len :=
    add_len_le_of_link rfl hhdr
  cases a with
  | copyTtlIn =>
      rcases platformPacketCopyTtlIn_eq p with h | ⟨hip, htype⟩
      · rw [HeaderAction.apply, h]
        exact hk
      · exact Kept.of_isIp (htype.symm ▸ hip)
  | copyTtlOut =>
      rcases platformPacketCopyTtlOut_eq p with h | ⟨hip, htype⟩
      · rw [HeaderAction.apply, h]
        exact hk
      · exact Kept.of_isIp (htype.symm ▸ hip)
  | decNwTtl =>
      exact hk.setIp (fun hdr mem i hi => setWord_of_not_mem _ _ (by omega))
        fun hdr mem i hi => setWord_of_not_mem _ _ (by omega)
  | setNwTtl new_ttl =>
      exact hk.setIp (fun hdr mem i hi => setWord_of_not_mem _ _ (by omega))
        fun hdr mem i hi => setWord_of_not_mem _ _ (by omega)
  | setIpDscp ip_dscp =>
      refine hk.setIp (fun hdr mem i hi => setBits_of_not_mem _ _ _ (by omega))
        fun hdr mem i hi => ?_
      rw [setIpv6Dscp, setWord_of_not_mem _ _ (by omega), setWord_of_not_mem _ _ (by omega)]
  | setIpEcn ip_ecn =>
      exact hk.setIp (fun hdr mem i hi => setBits_of_not_mem _ _ _ (by omega))
        fun hdr mem i hi => setBits_of_not_mem _ _ _ (by omega)
  | setIpProto ip_proto => exact hk.setIpProto hsafe
  | setEthDst eth_dst => exact hk.setEther fun mem i hi => setBits_of_not_mem _ _ _ (by omega)
  | setEthSrc eth_src => exact hk.setEther fun mem i hi => setBits_of_not_mem _ _ _ (by omega)
  | setEthType eth_type => exact hk.setEthType hsafe
  | setVlanVid vlan_vid =>
      refine hk.setLink fun hdr hhdr i hi => setBits_of_not_mem _ _ _ ?_
      have hle := hvlan hdr hhdr
      omega
  | setVlanPcp vlan_pcp =>
      refine hk.setLink fun hdr hhdr i hi => setBits_of_not_mem _ _ _ ?_
      have hle := hvlan hdr hhdr
      omega
  | setPbbIsid pbb_isid =>
      refine hk.setLink fun hdr hhdr i hi => ?_
      have hle := hisid hdr hhdr
      by_cases hlast : i = hdr + 1 + 3
      · rw [hlast]
        exact setBits_of_mask (i := 3) pbb_isid _ (by decide)
      · exact setBits_of_not_mem _ _ _ (by omega)
  | decMplsTtl | setMplsTtl | setMplsLabel | setMplsTc | setMplsBos =>
      exact hk.setNoIp fun hdr hhdr => isIp_of_getMplsHdr hhdr
  | setArpOpcode | setArpSha | setArpSpa | setArpTha | setArpTpa | setPppoeType | setPppoeCode
  | setPppoeSid | setPppProto =>
      exact hk.setNoIp fun hdr hhdr => isIp_of_protocolOffset rfl hhdr
  | setIpv4Src ip_src | setIpv4Dst ip_dst =>
      exact hk.setIpv4Addr fun hdr i hi => setWord_of_not_mem _ _ (by omega)
  | setIpv6Src ipv6_src => exact hk.setIpv6Addr (by decide) (by decide) hsafe
  | setIpv6Dst ipv6_dst => exact hk.setIpv6Addr (by decide) (by decide) hsafe
  | setIpv6Flabel ipv6_flabel =>
      exact hk.setIpv6 fun hdr i hi => setBits_of_not_mem _ _ _ (by omega)
  | setIpv6NdTarget ipv6_nd_target =>
      refine hk.setAbove (by decide) fun hdr hhdr => ⟨hdr, hhdr, fun i hi => ?_⟩
      rw [setIcmpv6NeighborTaddr]
      split_ifs
      · exact setWord_of_not_mem _ _ (by omega)
      · rfl
  | setIcmpv6Type | setIcmpv6Code | setTcpSrc | setTcpDst | setUdpSrc | setUdpDst | setSctpSrc
  | setSctpDst | setIcmpv4Type | setIcmpv4Code =>
      exact hk.setAbove (by decide) fun hdr hhdr =>
        ⟨hdr, hhdr, fun i hi => setWord_of_not_mem _ _ (by omega)⟩
  | setIpv6NdSll ipv6_nd_sll =>
      refine hk.setAbove (by decide) fun hdr hhdr => ?_
      obtain ⟨hdr', hhdr', hle⟩ := getIcmpv6Hdr_of_source hhdr
      exact ⟨hdr', hhdr', fun i hi => setBits_of_not_mem _ _ _ (by omega)⟩
  | setIpv6NdTll ipv6_nd_tll =>
      refine hk.setAbove (by decide) fun hdr hhdr => ?_
      obtain ⟨hdr', hhdr', hle⟩ := getIcmpv6Hdr_of_target hhdr
      exact ⟨hdr', hhdr', fun i hi => setBits_of_not_mem _ _ _ (by omega)⟩
  | setGtpMsgType msg_type =>
      exact hk.setGtp fun htype hdr hhdr => (hsafe htype hdr hhdr).imp_right setByte_eq_self
  | setGtpTeid teid =>
      exact hk.setGtp fun htype hdr hhdr => (hsafe htype hdr hhdr).imp_right setWord_eq_self
  | setGreVersion version =>
      exact hk.setGre (fun hdr => ⟨setGreVersion_flag hdr version _,
        fun i hi => setBits_of_not_mem _ _ _ (by omega)⟩) hsafe
  | setGreProtType prot_type =>
      exact hk.setGre (fun hdr => ⟨setWord_of_not_mem _ _ (by omega),
        fun i hi => setWord_of_not_mem _ _ (by omega)⟩) hsafe
  | setGreKey key =>
      refine hk.setGre (fun hdr => ?_) hsafe
      rw [setGreKey]
      split_ifs
      · exact ⟨setWord_of_not_mem _ _ (by omega), fun i hi => setWord_of_not_mem _ _ (by omega)⟩
      · exact ⟨setWord_of_not_mem _ _ (by omega), fun i hi => setWord_of_not_mem _ _ (by omega)⟩
      · exact ⟨rfl, fun i _ => rfl⟩
  | _ => exact hk

end Steps

end Datapacketx86

end Xdpd.Io
