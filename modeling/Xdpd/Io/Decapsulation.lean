import Xdpd.Classifier.Headers
import Xdpd.Io.FrameBytes
import Xdpd.Io.PopHeaders

/-!
# Taking GTP and GRE headers off

`pop_gtp` is to leave the Ethernet header and what the GTP header carries, and `pop_gre` the frame
that the GRE header carries, in both cases with the requested ethertype.

Both count the bytes that they take out from the lengths of headers without options, and find the IP
header by the first ethertype of the frame.  `decapsulates_iff` tells for which packets that is the
encapsulation.
-/

namespace Xdpd.Io.Datapacketx86

open Xdpd.Lib Xdpd.Classifier

variable {S : Type*}

/-! ## What is to be left -/

/-- The type is the one that the classifier has found for the frame, whatever was behind it. -/
def ClassifiedFrame (p : Datapacketx86 S) : Prop :=
  ∃ mem : ℕ → Byte, (∀ i < p.len, mem i = p.getBuffer i) ∧ classify mem p.len = p.type

/-- The length of the GTP header at `hdr`: the fields for the sequence number, the number of the
N-PDU and the type of the next extension header are there if one of them is used. -/
def gtpuLen (mem : ℕ → Byte) (hdr : ℕ) : ℕ :=
  8 + if mem hdr &&& (OF1X_BIT2_MASK ||| OF1X_BIT1_MASK ||| OF1X_BIT0_MASK) ≠ 0 then 4 else 0

/-- The Ethernet header with this ethertype. -/
def etherHeader (ether_type : BitVec 16) (p : Datapacketx86 S) : List Byte :=
  (List.range (etherHdrLen p.getBuffer)).map (setEtherType 0 ether_type p.getBuffer)

/-- The frame that starts at `pos`, with this ethertype. -/
def innerFrame (ether_type : BitVec 16) (pos : ℕ) (p : Datapacketx86 S) : List Byte :=
  (List.range (p.len - pos)).map (setEtherType 0 ether_type fun i => p.getBuffer (pos + i))

/-- `pop_gtp` leaves the Ethernet header and what the GTP header carries. -/
def PopsGtp (ether_type : BitVec 16) (p : Datapacketx86 S) : Prop :=
  ∀ gtp ∈ getGtpuHdr p.type, gtp + gtpuLen p.getBuffer gtp ≤ p.len →
    (p.platformPacketPopGtp ether_type).frame =
      p.etherHeader ether_type ++ p.frame.drop (gtp + gtpuLen p.getBuffer gtp)

/-- `pop_gre` leaves the frame that the GRE header carries. -/
def PopsGre (ether_type : BitVec 16) (p : Datapacketx86 S) : Prop :=
  ∀ gre ∈ getGreHdr p.type, gre + greLen p.getBuffer gre ≤ p.len →
    (p.platformPacketPopGre ether_type).frame =
      p.innerFrame ether_type (gre + greLen p.getBuffer gre)

/-! ## Conditions -/

/-- The IP header has no options. -/
def NoIpOptions (p : Datapacketx86 S) : Prop :=
  p.currentEtherType = ETH_TYPE_IPV4 →
    ipv4Ihl p.getBuffer (etherHdrLen p.getBuffer) = 5

/-- The length of the IP header, if it has no options. -/
def ipHdrLen (p : Datapacketx86 S) : ℕ :=
  if p.currentEtherType = ETH_TYPE_IPV4 then 20 else 40

/-- What `pop_gtp` takes out is the encapsulation.  Of an LLC frame it takes out the LLC header, and
not as many bytes of the GTP header, which may be the same. -/
structure GtpIsPlain (p : Datapacketx86 S) (gtp : ℕ) : Prop where
  untagged : ¬ IsVlanTag p.currentEtherType
  noIpOptions : p.NoIpOptions
  noFields : gtpuLen p.getBuffer gtp = 8
  llc : isLlcFrame p.getBuffer = true →
    ∀ i, 14 ≤ i → i < 20 → p.getBuffer (i + (p.ipHdrLen + 16)) = p.getBuffer i

/-- What `pop_gre` takes out is the encapsulation, and the frame in it has the requested ethertype,
as far as it reaches. -/
structure GreIsPlain (ether_type : BitVec 16) (p : Datapacketx86 S) (gre : ℕ) : Prop where
  bridging : le16 p.getBuffer (gre + 2) = GRE_PROT_TYPE_TRANSPARENT_ETHERNET_BRIDGING
  untagged : ¬ IsVlanTag p.currentEtherType
  noIpOptions : p.NoIpOptions
  ethernet : isLlcFrame p.getBuffer = false
  etherType : ∀ i < p.len - (gre + greLen p.getBuffer gre),
    setEtherType 0 ether_type (fun i => p.getBuffer (gre + greLen p.getBuffer gre + i)) i =
      p.getBuffer (gre + greLen p.getBuffer gre + i)

/-! ## Types of classified frames -/

section Types

variable {data mem : ℕ → Byte} {eth_type : BitVec 16} {pos d hdr : ℕ} {options : Fin 16}
  {payload4 : Ipv4Payload} {payload6 : Ipv6Payload} {t : PktType}

lemma of_etherTypeUpper_ipv4 (h : etherTypeUpper data eth_type pos d = .ipv4 options payload4) :
    eth_type = ETH_TYPE_IPV4 ∧ ipv4Ihl data pos = 5 + options.val := by
  rw [etherTypeUpper] at h
  split_ifs at h with hitag hmpls hdiscovery hsession harp hipv4 hipv6
  · cases h
  · rw [ipv4Upper] at h
    split at h
    · cases h
    next hshort =>
      rw [not_or, Nat.not_lt] at hshort
      have hihl := ipv4Ihl_lt data pos
      injection h with hoptions
      rw [← hoptions, Fin.val_ofNat, Nat.mod_eq_of_lt (by omega)]
      exact ⟨hipv4, by omega⟩
  · cases h

lemma of_etherTypeUpper_ipv6 (h : etherTypeUpper data eth_type pos d = .ipv6 payload6) :
    eth_type = ETH_TYPE_IPV6 := by
  rw [etherTypeUpper] at h
  split_ifs at h with hitag hmpls hdiscovery hsession harp hipv4 hipv6
  · cases h
  · rw [ipv4Upper] at h
    split at h <;> exact absurd h (by simp)
  · exact hipv6

/-- A frame without tags. -/
lemma frameType_of_untagged {len : ℕ} (h : ¬ IsVlanTag (be16 data (etherTypeOffset data))) :
    frameType data len = untaggedType data (.plain (isLlcFrame data) 0)
      (be16 data (etherTypeOffset data)) (etherHdrLen data) (subSize len (etherHdrLen data)) := by
  rw [frameType, taggedType, if_neg h]
  rfl

/-- A GTP header follows the headers of IP and UDP. -/
lemma getGtpuHdr_cases (h : getGtpuHdr t = some hdr) :
    (∃ options, t.upper = .ipv4 options .gtpu4 ∧ hdr = t.l2.len + (20 + options.val * 4) + 8) ∨
      t.upper = .ipv6 .gtpu6 ∧ hdr = t.l2.len + 40 + 8 := by
  obtain ⟨l2, upper⟩ := t
  have hip : upper.isIp = true := by
    rcases Option.or_eq_some_iff.mp h with h | ⟨-, h⟩
    · exact isIp_of_protocolOffset rfl h
    · exact isIp_of_protocolOffset rfl h
  cases upper with
  | ipv4 options payload =>
      rw [getGtpuHdr_ipv4] at h
      split at h
      next hpayload =>
        rw [hpayload]
        exact .inl ⟨options, rfl, (Option.some.inj h).symm⟩
      · exact absurd h nofun
  | ipv6 payload =>
      rw [getGtpuHdr_ipv6] at h
      split at h
      next hpayload =>
        rw [hpayload]
        exact .inr ⟨rfl, (Option.some.inj h).symm⟩
      · exact absurd h nofun
  | _ => exact absurd hip nofun

/-- A GRE header follows that of IP. -/
lemma getGreHdr_cases (h : getGreHdr t = some hdr) :
    (∃ options, t.upper = .ipv4 options .gre4 ∧ hdr = t.l2.len + (20 + options.val * 4)) ∨
      t.upper = .ipv6 .gre6 ∧ hdr = t.l2.len + 40 := by
  obtain ⟨l2, upper⟩ := t
  have hip : upper.isIp = true := by
    rcases Option.or_eq_some_iff.mp h with h | ⟨-, h⟩
    · exact isIp_of_protocolOffset rfl h
    · exact isIp_of_protocolOffset rfl h
  cases upper with
  | ipv4 options payload =>
      rw [getGreHdr_ipv4] at h
      split at h
      next hpayload =>
        rw [hpayload]
        exact .inl ⟨options, rfl, (Option.some.inj h).symm⟩
      · exact absurd h nofun
  | ipv6 payload =>
      rw [getGreHdr_ipv6] at h
      split at h
      next hpayload =>
        rw [hpayload]
        exact .inr ⟨rfl, (Option.some.inj h).symm⟩
      · exact absurd h nofun
  | _ => exact absurd hip nofun

end Types

section Frames

variable {p q : Datapacketx86 S} {ether_type : BitVec 16} {options : Fin 16}
  {payload4 : Ipv4Payload} {payload6 : Ipv6Payload} {n : ℕ}

lemma len_plain_zero (data : ℕ → Byte) : (L2.plain (isLlcFrame data) 0).len = etherHdrLen data := by
  rw [etherHdrLen]
  cases isLlcFrame data <;> rfl

lemma etherTypeOffset_add (data : ℕ → Byte) : etherTypeOffset data + 2 = etherHdrLen data := by
  rw [etherTypeOffset, etherHdrLen]
  cases isLlcFrame data <;> rfl

lemma etherHdrLen_le (data : ℕ → Byte) : etherHdrLen data ≤ 22 := by
  rw [etherHdrLen]
  split <;> decide

lemma le_etherHdrLen (data : ℕ → Byte) : 14 ≤ etherHdrLen data := by
  rw [etherHdrLen]
  split <;> decide

lemma isLlcFrame_congr {data mem : ℕ → Byte} (h : ∀ i < 14, mem i = data i) :
    isLlcFrame mem = isLlcFrame data := by
  rw [isLlcFrame, isLlcFrame, be16, be16, h 12 (by decide), h 13 (by decide)]

/-- The type of a frame without tags, by its first ethertype. -/
lemma ClassifiedFrame.untagged (h : p.ClassifiedFrame) (hlen : 22 ≤ p.len)
    (htag : ¬ IsVlanTag p.currentEtherType) :
    ∃ mem : ℕ → Byte, (∀ i < p.len, mem i = p.getBuffer i) ∧
      p.type = untaggedType mem (.plain (isLlcFrame p.getBuffer) 0) p.currentEtherType
        (etherHdrLen p.getBuffer) (subSize p.len (etherHdrLen p.getBuffer)) := by
  obtain ⟨mem, hmem, htype⟩ := h
  have hllc : isLlcFrame mem = isLlcFrame p.getBuffer :=
    isLlcFrame_congr fun i hi => hmem i (by omega)
  have hoffset : etherTypeOffset mem = etherTypeOffset p.getBuffer := by
    rw [etherTypeOffset, etherTypeOffset, hllc]
  have hheader : etherHdrLen mem = etherHdrLen p.getBuffer := by
    rw [etherHdrLen, etherHdrLen, hllc]
  have hend := etherTypeOffset_add p.getBuffer
  have hle := etherHdrLen_le p.getBuffer
  have hether : be16 mem (etherTypeOffset mem) = p.currentEtherType := by
    rw [currentEtherType, hoffset, be16, be16, hmem _ (by omega), hmem _ (by omega)]
  refine ⟨mem, hmem, ?_⟩
  rw [← hether] at htag
  rw [← htype, classify_eq_frameType, frameType_of_untagged htag, hllc, hether, hheader]

lemma ClassifiedFrame.untagged_ipv4 (h : p.ClassifiedFrame) (hlen : 22 < p.len)
    (htag : ¬ IsVlanTag p.currentEtherType) (hupper : p.type.upper = .ipv4 options payload4) :
    p.type.l2 = .plain (isLlcFrame p.getBuffer) 0 ∧ p.currentEtherType = ETH_TYPE_IPV4 ∧
      ipv4Ihl p.getBuffer (etherHdrLen p.getBuffer) = 5 + options.val := by
  obtain ⟨mem, hmem, htype⟩ := h.untagged (Nat.le_of_lt hlen) htag
  have hle := etherHdrLen_le p.getBuffer
  rw [untaggedType] at htype
  split at htype
  · rw [htype] at hupper
    cases hupper
  · rw [htype] at hupper
    obtain ⟨hipv4, hihl⟩ := of_etherTypeUpper_ipv4 hupper
    rw [ipv4Ihl, hmem _ (by omega)] at hihl
    rw [htype]
    exact ⟨rfl, hipv4, hihl⟩

lemma ClassifiedFrame.untagged_ipv6 (h : p.ClassifiedFrame) (hlen : 22 < p.len)
    (htag : ¬ IsVlanTag p.currentEtherType) (hupper : p.type.upper = .ipv6 payload6) :
    p.type.l2 = .plain (isLlcFrame p.getBuffer) 0 ∧ p.currentEtherType = ETH_TYPE_IPV6 := by
  obtain ⟨mem, -, htype⟩ := h.untagged (Nat.le_of_lt hlen) htag
  rw [untaggedType] at htype
  split at htype
  · rw [htype] at hupper
    cases hupper
  · rw [htype] at hupper
    rw [htype]
    exact ⟨rfl, of_etherTypeUpper_ipv6 hupper⟩

/-! ## Bytes -/

/-- The bytes of a packet after a pop. -/
lemma getBuffer_pop {offset : ℕ} (h : p.Placed) (hend : offset + n ≤ p.len) :
    (p.pop offset n).2.len = p.len - n ∧
      (∀ i < offset, (p.pop offset n).2.getBuffer i = p.getBuffer i) ∧
        ∀ i, offset ≤ i → i + n < p.len →
          (p.pop offset n).2.getBuffer i = p.getBuffer (i + n) := by
  obtain ⟨pos, hpos, hpop⟩ := pop_of_le h hend
  rw [hpop]
  refine ⟨?_, fun i hi => ?_, fun i hi hlt => ?_⟩
  · change subSize p.transferToUserSpace.len n = _
    rw [len_transferToUserSpace, subSize, if_pos (by omega)]
  · rw [getBuffer_popped_of_lt hpos hi]
    exact getBuffer_transferToUserSpace p i (by omega)
  · rw [getBuffer_popped_of_le hpos hi]
    exact getBuffer_transferToUserSpace p (i + n) hlt

lemma frame_setEtherTypeAndParse (ether_type : BitVec 16) (q : Datapacketx86 S) :
    (q.setEtherTypeAndParse ether_type).frame =
      (List.range q.len).map (setEtherType 0 ether_type q.getBuffer) := by
  rw [setEtherTypeAndParse, frame_parseEthernet, frame, len_mapBuffer, getBuffer_mapBuffer]

/-- `n` bytes have been taken out after the addresses and the type of the frame, and the ethertype
has been set. -/
lemma frame_of_popped_iff {new : PktType} {e : ℕ} (h : p.Placed) (hend : 14 + n ≤ p.len)
    (he : e ≤ p.len) :
    ({ (p.pop 14 n).2 with type := new }.setEtherTypeAndParse ether_type).frame =
        p.etherHeader ether_type ++ p.frame.drop e ↔
      e = etherHdrLen p.getBuffer + n ∧
        ∀ i, 14 ≤ i → i < etherTypeOffset p.getBuffer →
          p.getBuffer (i + n) = p.getBuffer i := by
  obtain ⟨hlen, hbefore, hbehind⟩ := getBuffer_pop h hend
  set q := (p.pop 14 n).2
  have hheader := etherTypeOffset_add p.getBuffer
  have hmin := le_etherHdrLen p.getBuffer
  have hllc : isLlcFrame q.getBuffer = isLlcFrame p.getBuffer := isLlcFrame_congr hbefore
  have hoffset : etherTypeOffset q.getBuffer = etherTypeOffset p.getBuffer := by
    rw [etherTypeOffset, etherTypeOffset, hllc]
  have hframe : ({ q with type := new }.setEtherTypeAndParse ether_type).frame =
      (List.range (p.len - n)).map (setEtherType 0 ether_type q.getBuffer) := by
    rw [frame_setEtherTypeAndParse]
    exact congrArg (fun m => (List.range m).map _) hlen
  rw [hframe, drop_frame, etherHeader]
  by_cases heq : e = etherHdrLen p.getBuffer + n
  · rw [and_iff_right heq]
    have hsplit : p.len - n = etherHdrLen p.getBuffer + (p.len - e) := by omega
    have hleft : ((List.range (etherHdrLen p.getBuffer)).map
        (setEtherType 0 ether_type q.getBuffer)).length =
          ((List.range (etherHdrLen p.getBuffer)).map
            (setEtherType 0 ether_type p.getBuffer)).length := by
      rw [List.length_map, List.length_map]
    -- What is behind the Ethernet header has been moved as a whole.
    have hright : (List.range (p.len - e)).map (setEtherType 0 ether_type q.getBuffer ∘
        (etherHdrLen p.getBuffer + ·)) =
          (List.range (p.len - e)).map fun i => p.getBuffer (e + i) := by
      refine List.map_congr_left fun i hi => ?_
      rw [List.mem_range] at hi
      rw [Function.comp_apply, setEtherType_of_not_mem (by omega), hbehind _ (by omega) (by omega),
        show etherHdrLen p.getBuffer + i + n = e + i by omega]
    rw [hsplit, List.range_add, List.map_append, List.map_map, hright, List.append_left_inj,
      List.map_inj_left]
    constructor
    · intro hbytes i hi hlt
      have hbyte := hbytes i (List.mem_range.mpr (by omega))
      rw [setEtherType_of_not_mem (by omega), setEtherType_of_not_mem (by omega),
        hbehind i hi (by omega)] at hbyte
      exact hbyte
    · intro hbytes i hi
      rw [List.mem_range] at hi
      by_cases hofs : etherTypeOffset p.getBuffer ≤ i
      · rw [setEtherType_of_mem (by omega) (by omega), setEtherType_of_mem hofs (by omega), hoffset]
      · rw [setEtherType_of_not_mem (by omega), setEtherType_of_not_mem (by omega)]
        by_cases h14 : i < 14
        · exact hbefore i h14
        · rw [hbehind i (by omega) (by omega)]
          exact hbytes i (by omega) (by omega)
  · refine iff_of_false (fun hlist => ?_) fun hand => heq hand.1
    have hlength := congrArg List.length hlist
    rw [List.length_append, List.length_map, List.length_map, List.length_map, List.length_range,
      List.length_range, List.length_range] at hlength
    omega

end Frames

/-! ## Popping GTP headers -/

section Gtp

variable {p : Datapacketx86 S} {ether_type : BitVec 16} {gtp : ℕ}

/-- An ethertype of IP is not that of a tag. -/
lemma ne_of_isVlanTag {eth_type : BitVec 16} (h : IsVlanTag eth_type) :
    eth_type ≠ ETH_TYPE_IPV4 ∧ eth_type ≠ ETH_TYPE_IPV6 := by
  rcases h with rfl | rfl <;> decide

lemma le_gtpuLen (mem : ℕ → Byte) (hdr : ℕ) : 8 ≤ gtpuLen mem hdr :=
  Nat.le_add_right 8 _

/-- With tags, nothing is taken out. -/
lemma not_popsGtp_of_tagged (hgtp : getGtpuHdr p.type = some gtp)
    (hend : gtp + gtpuLen p.getBuffer gtp ≤ p.len) (htag : IsVlanTag p.currentEtherType) :
    (p.platformPacketPopGtp ether_type).frame ≠
      p.etherHeader ether_type ++ p.frame.drop (gtp + gtpuLen p.getBuffer gtp) := by
  obtain ⟨hipv4, hipv6⟩ := ne_of_isVlanTag htag
  have hpop : p.platformPacketPopGtp ether_type = p.setEtherTypeAndParse ether_type := by
    simp only [platformPacketPopGtp, hgtp, if_neg hipv4, if_neg hipv6]
  have hheader := etherHdrLen_le p.getBuffer
  have hle := p.type.l2.le_len
  have hgtpuLen := le_gtpuLen p.getBuffer gtp
  have hstart : 42 ≤ gtp := by
    rcases getGtpuHdr_cases hgtp with ⟨options, -, rfl⟩ | ⟨-, rfl⟩ <;> omega
  intro hlist
  have hlength := congrArg List.length hlist
  rw [hpop, frame_setEtherTypeAndParse, etherHeader, List.length_append, List.length_drop,
    length_frame, List.length_map, List.length_map, List.length_range, List.length_range] at hlength
  omega

/-- Without tags, as many bytes are taken out as there are if there is nothing optional. -/
lemma popGtp_of_untagged (h : p.ClassifiedFrame) (hgtp : getGtpuHdr p.type = some gtp)
    (hend : gtp + gtpuLen p.getBuffer gtp ≤ p.len) (htag : ¬ IsVlanTag p.currentEtherType) :
    (∃ new, p.platformPacketPopGtp ether_type =
      { (p.pop 14 (p.ipHdrLen + 16)).2 with type := new }.setEtherTypeAndParse ether_type) ∧
    14 + (p.ipHdrLen + 16) ≤ p.len ∧
    etherHdrLen p.getBuffer + p.ipHdrLen + 8 ≤ gtp ∧
    (gtp = etherHdrLen p.getBuffer + p.ipHdrLen + 8 ↔ p.NoIpOptions) := by
  have hle := p.type.l2.le_len
  have hgtpuLen := le_gtpuLen p.getBuffer gtp
  rcases getGtpuHdr_cases hgtp with ⟨options, hupper, hpos⟩ | ⟨hupper, hpos⟩
  · obtain ⟨hl2, hipv4, hihl⟩ := h.untagged_ipv4 (by omega) htag hupper
    have hhdrLen : p.ipHdrLen = 20 := if_pos hipv4
    have htransition : popTransitions p.type .gtpu4 = some ⟨p.type.l2, .none⟩ := by
      simp only [popTransitions, hl2, hupper, if_true]
    rw [hl2, len_plain_zero] at hpos hle
    rw [hhdrLen, NoIpOptions, forall_prop_of_true hipv4, hihl]
    refine ⟨⟨⟨p.type.l2, .none⟩, ?_⟩, by omega, by omega, by omega⟩
    simp only [platformPacketPopGtp, hgtp, if_pos hipv4, htransition]
  · obtain ⟨hl2, hipv6⟩ := h.untagged_ipv6 (by omega) htag hupper
    have hipv4 : p.currentEtherType ≠ ETH_TYPE_IPV4 := by
      rw [hipv6]
      decide
    have hhdrLen : p.ipHdrLen = 40 := if_neg hipv4
    have htransition : popTransitions p.type .gtpu6 = some ⟨p.type.l2, .none⟩ := by
      simp only [popTransitions, hl2, hupper, and_self, if_true]
    rw [hl2, len_plain_zero] at hpos hle
    rw [hhdrLen]
    refine ⟨⟨⟨p.type.l2, .none⟩, ?_⟩, by omega, by omega,
      iff_of_true hpos fun h => absurd h hipv4⟩
    simp only [platformPacketPopGtp, hgtp, if_neg hipv4, if_pos hipv6, htransition]

/-- **What `pop_gtp` takes out.** -/
lemma popsGtp_iff (h : p.Placed) (hclass : p.ClassifiedFrame) : p.PopsGtp ether_type ↔
    ∀ gtp ∈ getGtpuHdr p.type, gtp + gtpuLen p.getBuffer gtp ≤ p.len → p.GtpIsPlain gtp := by
  refine forall_congr' fun gtp => forall_congr' fun hgtp => forall_congr' fun hend => ?_
  by_cases htag : IsVlanTag p.currentEtherType
  · exact iff_of_false (not_popsGtp_of_tagged hgtp hend htag) fun hplain => hplain.untagged htag
  obtain ⟨⟨new, hpop⟩, hroom, hmin, hoptions⟩ := popGtp_of_untagged hclass hgtp hend htag
  have hgtpuLen := le_gtpuLen p.getBuffer gtp
  rw [hpop, frame_of_popped_iff h hroom hend]
  constructor
  · rintro ⟨hsum, hbytes⟩
    refine ⟨htag, hoptions.mp (by omega), by omega, fun hllc => ?_⟩
    rw [etherTypeOffset, hllc] at hbytes
    exact hbytes
  · rintro ⟨-, hnone, hfields, hllc⟩
    have hgtpPos := hoptions.mpr hnone
    refine ⟨by omega, fun i hi hlt => ?_⟩
    rw [etherTypeOffset] at hlt
    split at hlt
    next hframe => exact hllc hframe i hi hlt
    · omega

end Gtp

/-! ## Popping GRE headers -/

section Gre

variable {p : Datapacketx86 S} {ether_type : BitVec 16} {gre e : ℕ}

lemma le_greLen (mem : ℕ → Byte) (hdr : ℕ) : 4 ≤ greLen mem hdr := by
  rw [greLen]
  omega

lemma le_getGreHdr (hgre : getGreHdr p.type = some gre) : 34 ≤ gre := by
  have hle := p.type.l2.le_len
  rcases getGreHdr_cases hgre with ⟨options, -, rfl⟩ | ⟨-, rfl⟩ <;> omega

/-- The end of the frame is the frame in it with the ethertype, if that has it. -/
lemma drop_eq_innerFrame_iff {k : ℕ} (hk : k ≤ p.len) (he : e ≤ p.len) :
    p.frame.drop k = p.innerFrame ether_type e ↔
      k = e ∧ ∀ i < p.len - e,
        setEtherType 0 ether_type (fun i => p.getBuffer (e + i)) i = p.getBuffer (e + i) := by
  rw [drop_frame, innerFrame]
  constructor
  · intro hlist
    have hlength := congrArg List.length hlist
    rw [List.length_map, List.length_map, List.length_range, List.length_range] at hlength
    obtain rfl : k = e := by omega
    rw [List.map_inj_left] at hlist
    exact ⟨rfl, fun i hi => (hlist i (List.mem_range.mpr hi)).symm⟩
  · rintro ⟨rfl, hbytes⟩
    exact List.map_congr_left fun i hi => (hbytes i (List.mem_range.mp hi)).symm

/-- A packet of which nothing has been taken out. -/
lemma frame_ne_innerFrame (hgre : getGreHdr p.type = some gre)
    (hend : gre + greLen p.getBuffer gre ≤ p.len) :
    p.frame ≠ p.innerFrame ether_type (gre + greLen p.getBuffer gre) := by
  have hstart := le_getGreHdr hgre
  intro hlist
  have hdrop := (drop_eq_innerFrame_iff (k := 0) (Nat.zero_le _) hend).mp hlist
  omega

/-- Without tags, as many bytes are taken out as there are if there are no options. -/
lemma popGre_of_untagged (h : p.Placed) (hclass : p.ClassifiedFrame)
    (hgre : getGreHdr p.type = some gre) (hend : gre + greLen p.getBuffer gre ≤ p.len)
    (hbridging :
      le16 p.getBuffer (gre + 2) = GRE_PROT_TYPE_TRANSPARENT_ETHERNET_BRIDGING)
    (htag : ¬ IsVlanTag p.currentEtherType) :
    ∃ k, (p.platformPacketPopGre ether_type).frame = p.frame.drop k ∧ k ≤ p.len ∧
      (k = gre + greLen p.getBuffer gre ↔
        p.NoIpOptions ∧ isLlcFrame p.getBuffer = false) := by
  have hle := p.type.l2.le_len
  have hgreLen := le_greLen p.getBuffer gre
  have hgreLen' := greLen_lt p.getBuffer gre
  have hheader : etherHdrLen p.getBuffer = 14 ↔ isLlcFrame p.getBuffer = false := by
    rw [etherHdrLen]
    cases isLlcFrame p.getBuffer <;> decide
  have hmin := le_etherHdrLen p.getBuffer
  have hpop : ∀ k, k ≤ p.len → k < 2 ^ 32 → (p.pop 0 k).2.frame = p.frame.drop k := by
    intro k hk hwrap
    have hroom : 0 + k ≤ p.len := by omega
    obtain ⟨pos, -, heq⟩ := pop_of_le h hroom
    have hframe := frame_pop_of_success h (congrArg Prod.fst heq) fun _ => by omega
    rw [List.take_zero, List.nil_append, Nat.zero_add] at hframe
    exact hframe
  rcases getGreHdr_cases hgre with ⟨options, hupper, hpos⟩ | ⟨hupper, hpos⟩
  · obtain ⟨hl2, hipv4, hihl⟩ := hclass.untagged_ipv4 (by omega) htag hupper
    have htransition : popTransitions p.type .gre4 = some ⟨p.type.l2, .none⟩ := by
      simp only [popTransitions, hl2, hupper, if_true]
    rw [hl2, len_plain_zero] at hpos
    refine ⟨14 + 20 + greLen p.getBuffer gre, ?_, by omega, ?_⟩
    · simp only [platformPacketPopGre, hgre, if_neg (not_not_intro hbridging), if_pos hipv4,
        htransition]
      exact hpop _ (by omega) (by omega)
    · rw [NoIpOptions, forall_prop_of_true hipv4, hihl, ← hheader]
      omega
  · obtain ⟨hl2, hipv6⟩ := hclass.untagged_ipv6 (by omega) htag hupper
    have hipv4 : p.currentEtherType ≠ ETH_TYPE_IPV4 := by
      rw [hipv6]
      decide
    have htransition : popTransitions p.type .gre6 = some ⟨p.type.l2, .none⟩ := by
      simp only [popTransitions, hl2, hupper, and_self, if_true]
    rw [hl2, len_plain_zero] at hpos
    refine ⟨14 + 40 + greLen p.getBuffer gre, ?_, by omega, ?_⟩
    · simp only [platformPacketPopGre, hgre, if_neg (not_not_intro hbridging), if_neg hipv4,
        if_pos hipv6, htransition]
      exact hpop _ (by omega) (by omega)
    · have hnone : p.NoIpOptions := fun h => absurd h hipv4
      rw [← hheader, and_iff_right hnone]
      omega

/-- **What `pop_gre` takes out.** -/
lemma popsGre_iff (h : p.Placed) (hclass : p.ClassifiedFrame) : p.PopsGre ether_type ↔
    ∀ gre ∈ getGreHdr p.type, gre + greLen p.getBuffer gre ≤ p.len →
      p.GreIsPlain ether_type gre := by
  refine forall_congr' fun gre => forall_congr' fun hgre => forall_congr' fun hend => ?_
  by_cases hbridging :
      le16 p.getBuffer (gre + 2) = GRE_PROT_TYPE_TRANSPARENT_ETHERNET_BRIDGING
  · by_cases htag : IsVlanTag p.currentEtherType
    · obtain ⟨hipv4, hipv6⟩ := ne_of_isVlanTag htag
      have hpop : p.platformPacketPopGre ether_type = p.parseEthernet := by
        rw [Option.mem_def] at hgre
        simp only [platformPacketPopGre, hgre, if_neg (not_not_intro hbridging), if_neg hipv4,
          if_neg hipv6]
      rw [hpop, frame_parseEthernet]
      exact iff_of_false (frame_ne_innerFrame hgre hend) fun hplain => hplain.untagged htag
    · obtain ⟨k, hframe, hk, hiff⟩ := popGre_of_untagged h hclass hgre hend hbridging htag
      rw [hframe, drop_eq_innerFrame_iff hk hend, hiff]
      constructor
      · rintro ⟨⟨hnone, hllc⟩, hbytes⟩
        exact ⟨hbridging, htag, hnone, hllc, hbytes⟩
      · rintro ⟨-, -, hnone, hllc, hbytes⟩
        exact ⟨⟨hnone, hllc⟩, hbytes⟩
  · have hpop : p.platformPacketPopGre ether_type = p := by
      rw [Option.mem_def] at hgre
      simp only [platformPacketPopGre, hgre, if_pos hbridging]
    rw [hpop]
    exact iff_of_false (frame_ne_innerFrame hgre hend) fun hplain => hbridging hplain.bridging

end Gre

/-! ## The result -/

/-- **GTP and GRE headers are taken off**, with all that was put on with them, exactly when there is
nothing optional in them, and for GRE when there is nothing left to do. -/
theorem decapsulates_iff {p : Datapacketx86 S} (h : p.Placed) (hclass : p.ClassifiedFrame)
    (ether_type : BitVec 16) :
    p.PopsGtp ether_type ∧ p.PopsGre ether_type ↔
      (∀ gtp ∈ getGtpuHdr p.type, gtp + gtpuLen p.getBuffer gtp ≤ p.len → p.GtpIsPlain gtp) ∧
        ∀ gre ∈ getGreHdr p.type, gre + greLen p.getBuffer gre ≤ p.len →
          p.GreIsPlain ether_type gre :=
  and_congr (popsGtp_iff h hclass) (popsGre_iff h hclass)

/-- A frame with an IPv4 header of `ihl` words and GTP. -/
def gtpFrame (ihl : Byte) (i : ℕ) : Byte :=
  if i = 12 then 0x08
  else if i = 14 then 0x40 ||| ihl
  else if i = 14 + 9 then UDP_IP_PROTO
  else if i = 14 + ihl.toNat * 4 + 2 then 0x08
  else if i = 14 + ihl.toNat * 4 + 3 then 0x68
  else if i = 14 + ihl.toNat * 4 + 8 then 0x30
  else 0

/-- A packet with that frame. -/
def gtpPacket (ihl : Byte) : Datapacketx86 Unit :=
  (unused.init (some (gtpFrame ihl)) 80 none 1 true true).2

lemma placed_gtpPacket (ihl : Byte) : (gtpPacket ihl).Placed :=
  ⟨rfl, rfl, (by decide : PRE_GUARD_BYTES + 80 ≤ bufferSize)⟩

lemma classifiedFrame_gtpPacket (ihl : Byte) : (gtpPacket ihl).ClassifiedFrame :=
  ⟨(gtpPacket ihl).getBuffer, fun _ _ => rfl, rfl⟩

/-- Without options the GTP header is taken off. -/
theorem decapsulates_gtpPacket :
    (gtpPacket 5).PopsGtp ETH_TYPE_IPV4 ∧ (gtpPacket 5).PopsGre ETH_TYPE_IPV4 := by
  refine (decapsulates_iff (placed_gtpPacket 5) (classifiedFrame_gtpPacket 5) ETH_TYPE_IPV4).mpr
    ⟨fun gtp hgtp _ => ?_, fun gre hgre _ => ?_⟩
  · obtain rfl := Option.some.inj ((by decide : some 42 = getGtpuHdr (gtpPacket 5).type).trans hgtp)
    exact ⟨by decide, fun _ => by decide, by decide, fun hllc => absurd hllc (by decide)⟩
  · exact absurd ((by decide : none = getGreHdr (gtpPacket 5).type).trans hgre) nofun

/-- With options, as many bytes are left of the GTP header. -/
theorem not_decapsulates_gtpPacket : ¬ ∀ p : Datapacketx86 Unit, p.Placed → p.ClassifiedFrame →
    ∀ ether_type, p.PopsGtp ether_type ∧ p.PopsGre ether_type := by
  intro h
  have hpops := (h _ (placed_gtpPacket 6) (classifiedFrame_gtpPacket 6) ETH_TYPE_IPV4).1
  have hplain := (popsGtp_iff (placed_gtpPacket 6) (classifiedFrame_gtpPacket 6)).mp hpops 46
    (by decide) (by decide)
  exact absurd (hplain.noIpOptions (by decide)) (by decide)

end Xdpd.Io.Datapacketx86
