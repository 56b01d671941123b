import Xdpd.Classifier.ParserType

/-!
# Headers that have no transition

`PT_CLASS_ADD_PROTO` asserts that the table has a transition for the header that the parser has
come to.  Which frames take it to a header for which there is none: `missing_classifyPacket_iff`.

As in the proof about the type there is one lemma for each function of the parser, which says when a
transition is missing after it, given that none was before.
-/

namespace Xdpd.Classifier

open Xdpd.Lib

/-! ## Headers that have a transition -/

section Conditions

variable (data : ℕ → Byte)

/-- One of the first 32 labels is the bottom of the stack. -/
def MplsFits (pos : ℕ) : Prop :=
  ∃ i ≤ 31, getMplsBos data (pos + 4 * i) = true

/-- The IPv4 header has at least five words, or what it carries is not looked at. -/
def Ipv4Fits (pos : ℕ) : Prop :=
  ipv4IsFragment data pos = true ∨ 5 ≤ ipv4Ihl data pos ∨
    data (pos + 9) ∉ [ICMPV4_IP_PROTO, UDP_IP_PROTO, TCP_IP_PROTO, SCTP_IP_PROTO]

/-- The IPv6 header does not carry a redirect message. -/
def Ipv6Fits (pos : ℕ) : Prop :=
  data (pos + 6) = ICMPV6_IP_PROTO → data (pos + 40) ≠ ICMPV6_TYPE_REDIRECT_MESSAGE

/-- The headers at `pos`, after this ethertype and so many tags. -/
structure EtherTypeFits (llc : Bool) (tags : ℕ) (eth_type : BitVec 16) (pos : ℕ) : Prop where
  isid : eth_type = VLAN_ITAG_ETHER_TYPE → llc = false ∧ tags ≤ 1
  mpls : eth_type = ETH_TYPE_MPLS_UNICAST ∨ eth_type = ETH_TYPE_MPLS_MULTICAST →
    MplsFits data pos
  ipv4 : eth_type = ETH_TYPE_IPV4 → Ipv4Fits data pos
  ipv6 : eth_type = ETH_TYPE_IPV6 → Ipv6Fits data pos

/-- There are `n` tags at most from here on, and the headers after them fit. -/
def TagsFit (llc : Bool) : ℕ → BitVec 16 → ℕ → Prop
  | 0, eth_type, pos => ¬ IsVlanTag eth_type ∧ EtherTypeFits data llc 2 eth_type pos
  | n + 1, eth_type, pos =>
      if IsVlanTag eth_type then TagsFit llc n (be16 data (pos + 2)) (pos + 4)
      else EtherTypeFits data llc (1 - n) eth_type pos

/-- The frame has two tags at most, and the headers after them fit. -/
def FrameFits : Prop :=
  TagsFit data (isLlcFrame data) 2 (be16 data (etherTypeOffset data)) (etherHdrLen data)

end Conditions

/-! ## Above IP -/

section Above

variable {w : Walk} {l2 : L2} {upper upper' : Upper} {proto : Proto} {options : Fin 16}

lemma missing_parseLast (hm : w.missing = false) (hw : w.type = ⟨l2, upper⟩)
    (h : parseUpper upper (.of proto) = some upper') (hproto : proto.isL2 = false) :
    (parseLast proto w).missing = false := by
  rw [parseLast, Walk.addProto_above (w := w.enter proto 0) hw h hproto]
  exact hm

lemma missing_parseLast_none (hw : w.type = ⟨l2, upper⟩)
    (h : parseUpper upper (.of proto) = none) (hproto : proto.isL2 = false) :
    (parseLast proto w).missing = true := by
  rw [parseLast, Walk.addProto_above_none (w := w.enter proto 0) hw h hproto]

lemma missing_parseGtp_ipv4 (hm : w.missing = false) (hw : w.type = ⟨l2, .ipv4 options .udp⟩) :
    (parseGtp w).missing = false := by
  have hipv4 : w.has .ipv4 = true := by rw [Walk.has_eq hw rfl]; simp [Upper.name]
  rw [parseGtp, hipv4, if_pos rfl]
  split
  · exact hm
  · exact missing_parseLast hm hw rfl rfl

lemma missing_parseGtp_ipv6 (hm : w.missing = false) (hw : w.type = ⟨l2, .ipv6 .udp⟩) :
    (parseGtp w).missing = false := by
  have hipv4 : w.has .ipv4 = false := by rw [Walk.has_eq hw rfl]; rfl
  have hipv6 : w.has .ipv6 = true := by rw [Walk.has_eq hw rfl]; rfl
  rw [parseGtp, hipv4, hipv6]
  split
  · exact hm
  · rw [if_neg (by decide), if_pos rfl]
    exact missing_parseLast hm hw rfl rfl

variable (data : ℕ → Byte)

/-- A UDP header, and what follows it. -/
lemma missing_parseUdp (hm : w.missing = false) (hw : w.type = ⟨l2, upper⟩)
    (h : parseUpper upper (.of .udp) = some upper')
    (hgtp : ∀ w' : Walk, w'.missing = false → w'.type = ⟨l2, upper'⟩ →
      (parseGtp w').missing = false) : (parseUdp data w).missing = false := by
  rw [parseUdp, Walk.addProto_above (w := (w.enter .udp 0).advance 8) hw h rfl]
  split
  · dsimp only
    split
    · exact hgtp _ hm rfl
    · exact hm
  · exact hm

lemma missing_parseIpv4Payload (hm : w.missing = false)
    (hw : w.type = ⟨l2, .ipv4 options .none⟩) (proto : Byte) :
    (parseIpv4Payload data proto w).missing = false := by
  have hipv4 : w.has .ipv4 = true := by rw [Walk.has_eq hw rfl]; simp [Upper.name]
  rw [parseIpv4Payload]
  split_ifs
  · exact missing_parseLast hm hw rfl rfl
  · exact missing_parseUdp data hm hw rfl fun _ => missing_parseGtp_ipv4
  · exact missing_parseLast hm hw rfl rfl
  · exact missing_parseLast hm hw rfl rfl
  · rw [parseGre, hipv4, if_pos rfl]
    split
    · exact hm
    · exact missing_parseLast hm hw rfl rfl
  · exact hm

/-- The payload of an IPv4 header that is not in the type. -/
lemma missing_parseIpv4Payload_none_iff (hm : w.missing = false) (hw : w.type = ⟨l2, .none⟩)
    (proto : Byte) : (parseIpv4Payload data proto w).missing = false ↔
      proto ∉ [ICMPV4_IP_PROTO, UDP_IP_PROTO, TCP_IP_PROTO, SCTP_IP_PROTO] := by
  have hipv4 : w.has .ipv4 = false := by rw [Walk.has_eq hw rfl]; rfl
  have hipv6 : w.has .ipv6 = false := by rw [Walk.has_eq hw rfl]; rfl
  have hnone {w' : Walk} (hw' : w'.missing = true)
      (hmem : proto ∈ [ICMPV4_IP_PROTO, UDP_IP_PROTO, TCP_IP_PROTO, SCTP_IP_PROTO]) :
      w'.missing = false ↔
        proto ∉ [ICMPV4_IP_PROTO, UDP_IP_PROTO, TCP_IP_PROTO, SCTP_IP_PROTO] := by
    rw [hw']
    exact iff_of_false nofun (not_not_intro hmem)
  rw [parseIpv4Payload]
  split_ifs with hicmp hudp htcp hsctp hgre
  · exact hnone (missing_parseLast_none hw rfl rfl) (by simp [hicmp])
  · refine hnone ?_ (by simp [hudp])
    rw [parseUdp, Walk.addProto_above_none (w := (w.enter .udp 0).advance 8) hw rfl rfl]
  · exact hnone (missing_parseLast_none hw rfl rfl) (by simp [htcp])
  · exact hnone (missing_parseLast_none hw rfl rfl) (by simp [hsctp])
  · rw [parseGre, hipv4, hipv6]
    refine iff_of_true ?_ (by simp [hicmp, hudp, htcp, hsctp])
    split <;> exact hm
  · exact iff_of_true hm (by simp [hicmp, hudp, htcp, hsctp])

lemma missing_parseIpv4_iff (hm : w.missing = false) (hw : w.type = ⟨l2, .none⟩) :
    (parseIpv4 data w).missing = false ↔ Ipv4Fits data w.pos := by
  rw [parseIpv4, Ipv4Fits]
  by_cases hfragment : ipv4IsFragment data w.pos = true
  · rw [if_pos hfragment]
    exact iff_of_true hm (.inl hfragment)
  rw [if_neg hfragment, or_iff_right hfragment,
    addIpv4Options_eq (w := w.passIpv4 data) hw (ipv4Ihl_lt data w.pos), optionsUpper]
  by_cases hihl : 5 ≤ ipv4Ihl data w.pos
  · rw [if_pos hihl]
    refine iff_of_true (missing_parseIpv4Payload data ?_ rfl _) (.inl hihl)
    exact hm
  · rw [if_neg hihl, or_iff_right hihl]
    refine missing_parseIpv4Payload_none_iff data ?_ rfl _
    exact hm

lemma missing_parseNdp (hm : w.missing = false) (hw : w.type = ⟨l2, .ipv6 (.icmpv6 .none)⟩)
    (message : NdpMessage) : (parseNdp data message w).missing = false := by
  rw [parseNdp, Walk.addProto_above (w := w.enter (.icmpv6Ndp message) 4) hw rfl rfl]
  dsimp only
  split
  · refine missing_parseLast ?_ rfl
      (if_pos rfl : _ = some (Upper.ipv6 (.icmpv6 (.ndp message true)))) rfl
    exact hm
  · exact hm

lemma missing_parseIcmpv6Payload_iff (hm : w.missing = false)
    (hw : w.type = ⟨l2, .ipv6 (.icmpv6 .none)⟩) (type : Byte) :
    (parseIcmpv6Payload data type w).missing = false ↔ type ≠ ICMPV6_TYPE_REDIRECT_MESSAGE := by
  have hndp (message : NdpMessage) (htype : type = message.icmpv6Type) :
      (parseNdp data message w).missing = false ↔ type ≠ ICMPV6_TYPE_REDIRECT_MESSAGE := by
    refine iff_of_true (missing_parseNdp data hm hw message) ?_
    rw [htype]
    cases message <;> decide
  rw [parseIcmpv6Payload]
  split_ifs with hsol hadv hneighSol hneighAdv hredirect
  · exact hndp .rtrSol hsol
  · exact hndp .rtrAdv hadv
  · exact hndp .neighSol hneighSol
  · exact hndp .neighAdv hneighAdv
  · rw [Walk.addProto_above_none (w := w.enter .icmpv6Redirect 4) hw rfl rfl]
    exact iff_of_false (by simp) (not_not_intro hredirect)
  · exact iff_of_true hm hredirect

lemma missing_parseIcmpv6_iff (hm : w.missing = false) (hw : w.type = ⟨l2, .ipv6 .none⟩) :
    (parseIcmpv6 data w).missing = false ↔ data w.pos ≠ ICMPV6_TYPE_REDIRECT_MESSAGE := by
  rw [parseIcmpv6, Walk.addProto_above (w := w.enter .icmpv6 0) hw rfl rfl]
  refine missing_parseIcmpv6Payload_iff data ?_ rfl _
  exact hm

lemma missing_parseIpv6Payload_iff (hm : w.missing = false) (hw : w.type = ⟨l2, .ipv6 .none⟩)
    (proto : Byte) : (parseIpv6Payload data proto w).missing = false ↔
      (proto = ICMPV6_IP_PROTO → data w.pos ≠ ICMPV6_TYPE_REDIRECT_MESSAGE) := by
  have hipv4 : w.has .ipv4 = false := by rw [Walk.has_eq hw rfl]; rfl
  have hipv6 : w.has .ipv6 = true := by rw [Walk.has_eq hw rfl]; rfl
  rw [parseIpv6Payload]
  split_ifs with hicmp hudp htcp hsctp hgre
  · rw [forall_prop_of_true hicmp]
    exact missing_parseIcmpv6_iff data hm hw
  · refine iff_of_true ?_ fun h => absurd h hicmp
    exact missing_parseUdp data hm hw rfl fun _ => missing_parseGtp_ipv6
  · exact iff_of_true (missing_parseLast hm hw rfl rfl) fun h => absurd h hicmp
  · exact iff_of_true (missing_parseLast hm hw rfl rfl) fun h => absurd h hicmp
  · refine iff_of_true ?_ fun h => absurd h hicmp
    rw [parseGre, hipv4, hipv6]
    split
    · exact hm
    · rw [if_neg (by decide), if_pos rfl]
      exact missing_parseLast hm hw rfl rfl
  · exact iff_of_true hm fun h => absurd h hicmp

lemma missing_parseIpv6_iff (hm : w.missing = false) (hw : w.type = ⟨l2, .none⟩) :
    (parseIpv6 data w).missing = false ↔ Ipv6Fits data w.pos := by
  rw [parseIpv6, Walk.addProto_above (w := w.enter .ipv6 0) hw rfl rfl, Ipv6Fits]
  refine missing_parseIpv6Payload_iff data ?_ rfl _
  exact hm

end Above

/-! ## Labels -/

section Labels

variable {w : Walk} {l2 : L2} (data : ℕ → Byte)

/-- After the label at `pos`, when `m` further labels can still be added.  The fuel `n` is enough
for them and for the one that is too many. -/
lemma missing_parseMplsLoop_iff {m n pos : ℕ} {k : Fin 32} (hm : w.missing = false)
    (hw : w.type = ⟨l2, .mpls k⟩) (hpos : w.pos = pos + 4) (hk : k.val + m = 31) (hn : m < n) :
    (if getMplsBos data pos then w else parseMplsLoop data n w).missing = false ↔
      ∃ i ≤ m, getMplsBos data (pos + 4 * i) = true := by
  induction m generalizing n pos k w with
  | zero =>
      obtain ⟨n, rfl⟩ := Nat.exists_eq_add_of_lt hn
      have hadd : parseUpper (.mpls k) (.of .mpls) = none := dif_neg (by omega)
      split
      next hbos => exact iff_of_true hm ⟨0, le_rfl, hbos⟩
      next hbos =>
        rw [parseMplsLoop, Walk.addProto_above_none (w := (w.enter .mpls 0).advance 4) hw hadd rfl]
        refine iff_of_false (by simp) ?_
        rintro ⟨i, hi, hlast⟩
        obtain rfl := Nat.le_zero.mp hi
        exact hbos hlast
  | succ m ih =>
      obtain ⟨n, rfl⟩ := Nat.exists_eq_add_of_lt hn
      split
      next hbos => exact iff_of_true hm ⟨0, Nat.zero_le _, hbos⟩
      next hbos =>
        have hk' : k.val + 1 < 32 := by omega
        have hadd : parseUpper (.mpls k) (.of .mpls) = some (.mpls ⟨k.val + 1, hk'⟩) :=
          dif_pos hk'
        have hsum : k.val + 1 + m = 31 := by omega
        have hfuel : m < m + 1 + n := by omega
        rw [parseMplsLoop, Walk.addProto_above (w := (w.enter .mpls 0).advance 4) hw hadd rfl]
        have hrest := ih (n := m + 1 + n) (k := ⟨k.val + 1, hk'⟩)
          (w := (((w.enter .mpls 0).advance 4).setType _).read (w.pos + 2)) hm rfl
          (rfl : _ = w.pos + 4) hsum hfuel
        refine hrest.trans ?_
        rw [hpos]
        constructor
        · rintro ⟨i, hi, hlast⟩
          refine ⟨i + 1, Nat.succ_le_succ hi, ?_⟩
          rw [Nat.mul_succ, Nat.add_comm (4 * i), ← Nat.add_assoc]
          exact hlast
        · rintro ⟨i, hi, hlast⟩
          cases i with
          | zero => exact absurd hlast hbos
          | succ i =>
              refine ⟨i, Nat.le_of_succ_le_succ hi, ?_⟩
              rw [Nat.mul_succ, Nat.add_comm (4 * i), ← Nat.add_assoc] at hlast
              exact hlast

lemma missing_parseMpls_iff (hm : w.missing = false) (hw : w.type = ⟨l2, .none⟩) :
    (parseMpls data w).missing = false ↔ MplsFits data w.pos := by
  rw [parseMpls, parseMplsLoop,
    Walk.addProto_above (w := (w.enter .mpls 0).advance 4) hw rfl rfl, MplsFits]
  refine missing_parseMplsLoop_iff data (m := 31) (n := 32) (k := 0) ?_ rfl rfl rfl (by decide)
  exact hm

end Labels

/-! ## From the ethertype on -/

section EtherTypes

variable {w : Walk} {l2 : L2} {llc : Bool}

lemma missing_parsePppoe (hm : w.missing = false) (hw : w.type = ⟨l2, .none⟩)
    (eth_type : BitVec 16) : (parsePppoe eth_type w).missing = false := by
  rw [parsePppoe, Walk.addProto_above (w := w.enter .pppoe 0) hw rfl rfl]
  split_ifs
  · exact hm
  · refine missing_parseLast ?_ rfl (rfl : _ = some Upper.ppp) rfl
    exact hm
  · exact hm

/-- There are types with an I-TAG after Ethernet and at most one tag. -/
lemma missing_parsePbbIsid_iff {k : Fin 3} (hm : w.missing = false)
    (hw : w.type = ⟨.plain llc k, .none⟩) :
    (parsePbbIsid w).missing = false ↔ llc = false ∧ k.val ≤ 1 := by
  have htable : ∀ (llc : Bool) (k : Fin 3),
      (L2.plain llc k).parseIsid.isSome = true ↔ llc = false ∧ k.val ≤ 1 := by
    decide
  have hadd : parseTransitions (w.enter .isid 0).type (.of .isid) =
      (L2.plain llc k).parseIsid.map (⟨·, .none⟩) := by
    change parseTransitions w.type _ = _
    rw [hw]
    rfl
  rw [parsePbbIsid, parseLast, Walk.addProto, hadd, ← htable llc k]
  cases (L2.plain llc k).parseIsid with
  | none => exact iff_of_false (by simp) (by simp)
  | some t => exact iff_of_true hm rfl

variable (data : ℕ → Byte)

lemma missing_parseEtherType_iff {k : Fin 3} (hm : w.missing = false)
    (hw : w.type = ⟨.plain llc k, .none⟩) (eth_type : BitVec 16) :
    (parseEtherType data eth_type w).missing = false ↔
      EtherTypeFits data llc k.val eth_type w.pos := by
  have hne {a b : BitVec 16} (ha : eth_type = a) (hab : a ≠ b) : eth_type ≠ b :=
    fun hb => hab (ha.symm.trans hb)
  rw [parseEtherType]
  split_ifs with hitag hmpls hpppoe harp hipv4 hipv6
  · rw [missing_parsePbbIsid_iff hm hw]
    constructor
    · intro htags
      refine ⟨fun _ => htags, fun h => ?_, fun h => ?_, fun h => ?_⟩
      · rcases h with h | h <;> exact absurd h (hne hitag (by decide))
      · exact absurd h (hne hitag (by decide))
      · exact absurd h (hne hitag (by decide))
    · intro hfits
      exact hfits.isid hitag
  · rw [missing_parseMpls_iff data hm hw]
    constructor
    · intro hlabels
      refine ⟨fun h => absurd h hitag, fun _ => hlabels, fun h => ?_, fun h => ?_⟩
      · rcases hmpls with hmpls | hmpls <;> exact absurd h (hne hmpls (by decide))
      · rcases hmpls with hmpls | hmpls <;> exact absurd h (hne hmpls (by decide))
    · intro hfits
      exact hfits.mpls hmpls
  · refine iff_of_true (missing_parsePppoe hm hw eth_type) ?_
    refine ⟨fun h => absurd h hitag, fun h => absurd h hmpls, fun h => ?_, fun h => ?_⟩
    · rcases hpppoe with hpppoe | hpppoe <;> exact absurd h (hne hpppoe (by decide))
    · rcases hpppoe with hpppoe | hpppoe <;> exact absurd h (hne hpppoe (by decide))
  · refine iff_of_true (missing_parseLast hm hw rfl rfl) ?_
    exact ⟨fun h => absurd h hitag, fun h => absurd h hmpls,
      fun h => absurd h (hne harp (by decide)), fun h => absurd h (hne harp (by decide))⟩
  · rw [missing_parseIpv4_iff data hm hw]
    constructor
    · intro hheader
      exact ⟨fun h => absurd h hitag, fun h => absurd h hmpls, fun _ => hheader,
        fun h => absurd h (hne hipv4 (by decide))⟩
    · intro hfits
      exact hfits.ipv4 hipv4
  · rw [missing_parseIpv6_iff data hm hw]
    constructor
    · intro hheader
      exact ⟨fun h => absurd h hitag, fun h => absurd h hmpls, fun h => absurd h hipv4,
        fun _ => hheader⟩
    · intro hfits
      exact hfits.ipv6 hipv6
  · exact iff_of_true hm ⟨fun h => absurd h hitag, fun h => absurd h hmpls,
      fun h => absurd h hipv4, fun h => absurd h hipv6⟩

/-! ## Tags -/

/-- After an ethertype with `k` tags before it, when `n` further tags can still be added.  The fuel
`m` is enough for them and for the one that is too many. -/
lemma missing_parseVlanLoop_iff {n m : ℕ} {k : Fin 3} (hm : w.missing = false)
    (hw : w.type = ⟨.plain llc k, .none⟩) (hk : k.val + n = 2) (hfuel : n < m)
    (eth_type : BitVec 16) :
    (if IsVlanTag eth_type then parseVlanLoop data m w
      else parseEtherType data eth_type w).missing = false ↔
        TagsFit data llc n eth_type w.pos := by
  induction n generalizing m k w eth_type with
  | zero =>
      obtain ⟨m, rfl⟩ := Nat.exists_eq_add_of_lt hfuel
      obtain rfl : k = 2 := Fin.ext hk
      rw [TagsFit]
      split
      next htag =>
        have hadd : parseTransitions
            (((w.enter .vlan 0).advance 4).read16 (w.pos + 2)).type (.of .vlan) = none := by
          change parseTransitions w.type _ = _
          rw [hw]
          rfl
        rw [parseVlanLoop, Walk.addProto_of_none _ hadd]
        exact iff_of_false (by simp) fun h => h.1 htag
      next htag =>
        rw [and_iff_right htag]
        exact missing_parseEtherType_iff data hm hw eth_type
  | succ n ih =>
      obtain ⟨m, rfl⟩ := Nat.exists_eq_add_of_lt hfuel
      have hk' : k.val + 1 < 3 := by omega
      have htags : 1 - n = k.val := by omega
      rw [TagsFit, htags]
      split
      next htag =>
        have hadd : parseTransitions
            (((w.enter .vlan 0).advance 4).read16 (w.pos + 2)).type (.of .vlan) =
              some ⟨.plain llc ⟨k.val + 1, hk'⟩, .none⟩ := by
          change parseTransitions w.type _ = _
          rw [hw, parseTransitions, if_pos rfl, L2.parseVlan, dif_pos hk']
          rfl
        have hsum : k.val + 1 + n = 2 := by omega
        rw [parseVlanLoop, Walk.addProto_of_some _ hadd]
        refine ih (m := n + 1 + m) (k := ⟨k.val + 1, hk'⟩) ?_ rfl hsum (by omega) _
        exact hm
      · exact missing_parseEtherType_iff data hm hw eth_type

end EtherTypes

/-! ## The result -/

/-- **No transition is missing** exactly when the frame has two tags at most, and the headers after
them fit. -/
theorem missing_classifyPacket_iff (data : ℕ → Byte) (len : ℕ) :
    (classifyPacket data len).missing = false ↔ FrameFits data := by
  have hpos : ((Walk.start len).passEthernet data).pos = etherHdrLen data := Nat.zero_add _
  rw [classifyPacket, parseEthernet, parseVlan, FrameFits, ← hpos]
  exact missing_parseVlanLoop_iff data (n := 2) (m := 3) (k := 0) rfl rfl rfl (by decide)
    (be16 data (etherTypeOffset data))

/-- A frame with three tags. -/
def threeTags (i : ℕ) : Byte :=
  if i = 12 ∨ i = 16 ∨ i = 20 then 0x81 else 0

/-- There is no type with three tags. -/
theorem missing_threeTags :
    ¬ ∀ (data : ℕ → Byte) (len : ℕ), (classifyPacket data len).missing = false := by
  intro h
  exact absurd (h threeTags 60) (by decide)

end Xdpd.Classifier
