import Xdpd.Classifier.WireFormat

/-!
# The parser finds the type of the frame

The main result is `classify_eq_frameType`: the type that `classify_packet` leaves is the one that
the bytes of the frame describe.  There is one lemma for each function of the parser; each one says
what the type is, from the type, the position and the remaining length that the function is called
with.  In particular the fuel of the two loops never runs out.
-/

namespace Xdpd.Classifier

open Xdpd.Lib

/-! ## Headers of a type -/

/-- A name has a protocol if and only if the table has an offset for it. -/
lemma offsetIn_isSome (proto : Proto) (len : ℕ) (name : List (Proto × ℕ)) :
    (offsetIn proto len name).isSome = true ↔ proto ∈ name.map Prod.fst := by
  induction name generalizing len with
  | nil => simp [offsetIn]
  | cons entry name ih =>
      obtain ⟨p, n⟩ := entry
      rw [offsetIn, List.map_cons, List.mem_cons]
      by_cases hp : p = proto
      · simp [hp]
      · rw [if_neg hp, ih]
        simp [Ne.symm hp]

lemma Walk.has_iff (w : Walk) (proto : Proto) :
    w.has proto = true ↔ proto ∈ w.type.name.map Prod.fst :=
  offsetIn_isSome proto 0 w.type.name

/-- A protocol is one of the link layer. -/
def Proto.isL2 : Proto → Bool
  | .ethernet | .eth8023 | .vlan | .isid => true
  | _ => false

lemma L2.isL2_of_mem_name (l2 : L2) :
    ∀ proto ∈ l2.name.map Prod.fst, proto.isL2 = true := by
  intro proto hmem
  cases l2 with
  | plain llc tags =>
      rw [L2.name, List.map_cons, List.map_replicate] at hmem
      rcases List.mem_cons.1 hmem with rfl | hmem
      · cases llc <;> rfl
      · rw [List.eq_of_mem_replicate hmem]
        rfl
  | isid tagged =>
      cases tagged <;> simp only [L2.name, List.map_cons, List.map_nil, List.mem_cons,
        List.not_mem_nil, or_false] at hmem
      · rcases hmem with rfl | rfl <;> rfl
      · rcases hmem with rfl | rfl | rfl <;> rfl

/-- A protocol above the link layer is found if and only if it is in the name of what is there. -/
lemma Walk.has_eq {w : Walk} {l2 : L2} {upper : Upper} (hw : w.type = ⟨l2, upper⟩) {proto : Proto}
    (hproto : proto.isL2 = false) : w.has proto = decide (proto ∈ upper.name.map Prod.fst) := by
  rw [Bool.eq_iff_iff, Walk.has_iff, hw, PktType.name, List.map_append, List.mem_append,
    decide_eq_true_iff]
  refine ⟨fun h => h.resolve_left fun hl2 => ?_, Or.inr⟩
  rw [l2.isL2_of_mem_name proto hl2] at hproto
  exact absurd hproto (by decide)

/-! ## Transitions above the link layer -/

/-- Above the link layer, the transitions leave it as it is. -/
lemma parseTransitions_of (l2 : L2) (upper : Upper) {proto : Proto} (hproto : proto.isL2 = false) :
    parseTransitions ⟨l2, upper⟩ (.of proto) = (parseUpper upper (.of proto)).map (⟨l2, ·⟩) := by
  cases proto with
  | vlan => exact absurd hproto (by decide)
  | isid => exact absurd hproto (by decide)
  | _ => rfl

/-- A header that the table has a type for is added. -/
lemma Walk.addProto_above {w : Walk} {l2 : L2} {upper upper' : Upper} {proto : Proto}
    (hw : w.type = ⟨l2, upper⟩) (h : parseUpper upper (.of proto) = some upper')
    (hproto : proto.isL2 = false) (next : Walk → Walk) :
    w.addProto (.of proto) next = next (w.setType ⟨l2, upper'⟩) := by
  refine Walk.addProto_of_some next ?_
  rw [hw, parseTransitions_of l2 upper hproto, h]
  rfl

/-- A header that the table has no type for ends the walk. -/
lemma Walk.addProto_above_none {w : Walk} {l2 : L2} {upper : Upper} {proto : Proto}
    (hw : w.type = ⟨l2, upper⟩) (h : parseUpper upper (.of proto) = none)
    (hproto : proto.isL2 = false) (next : Walk → Walk) :
    w.addProto (.of proto) next = { w with missing := true } := by
  refine Walk.addProto_of_none next ?_
  rw [hw, parseTransitions_of l2 upper hproto, h]
  rfl

lemma ipv4Ihl_lt (data : ℕ → Byte) (pos : ℕ) : ipv4Ihl data pos < 16 := by
  rw [ipv4Ihl, BitVec.toNat_and]
  exact Nat.lt_succ_of_le Nat.and_le_right

/-- What is above the link layer after `PT_CLASS_ADD_IPV4_OPTIONS`. -/
def optionsUpper (ihl : ℕ) : Upper :=
  if 5 ≤ ihl then .ipv4 (Fin.ofNat 16 (ihl - 5)) .none else .none

/-- An IPv4 header is added, unless it has less than five words; the parser goes on in any case. -/
lemma addIpv4Options_eq {w : Walk} {l2 : L2} {ihl : ℕ} (hw : w.type = ⟨l2, .none⟩)
    (hihl : ihl < 16) (next : Walk → Walk) :
    addIpv4Options ihl next w = next (w.setType ⟨l2, optionsUpper ihl⟩) := by
  rw [addIpv4Options, optionsUpper]
  by_cases h : 5 ≤ ihl
  · have hword : ihl - 5 < 16 := by omega
    have hoptions : Fin.ofNat 16 (ihl - 5) = ⟨ihl - 5, hword⟩ :=
      Fin.ext (Nat.mod_eq_of_lt hword)
    rw [dif_pos ⟨h, hword⟩, if_pos h, hoptions]
    refine Walk.addProto_of_some next ?_
    rw [hw]
    rfl
  · rw [dif_neg fun h' => h h'.1, if_neg h, ← hw]
    rfl

/-! ## Above IP -/

variable (data : ℕ → Byte) (l2 : L2)

lemma parseLast_type (proto : Proto) (w : Walk) :
    (parseLast proto w).type = (parseTransitions w.type (.of proto)).getD w.type := by
  rw [parseLast, Walk.addProto, Walk.enter_type]
  cases parseTransitions w.type (.of proto) with
  | none => rfl
  | some t => rfl

/-- A header above the link layer that the table has a type for. -/
lemma parseLast_type_upper {l2 : L2} {upper upper' : Upper} {proto : Proto} {w : Walk}
    (hw : w.type = ⟨l2, upper⟩) (h : parseUpper upper (.of proto) = some upper')
    (hproto : proto.isL2 = false) : (parseLast proto w).type = ⟨l2, upper'⟩ := by
  rw [parseLast, Walk.addProto_above (w := w.enter proto 0) hw h hproto]
  rfl

/-- A header above the link layer that the table has no type for. -/
lemma parseLast_type_none {l2 : L2} {upper : Upper} {proto : Proto} {w : Walk}
    (hw : w.type = ⟨l2, upper⟩) (h : parseUpper upper (.of proto) = none)
    (hproto : proto.isL2 = false) : (parseLast proto w).type = w.type := by
  rw [parseLast, Walk.addProto_above_none (w := w.enter proto 0) hw h hproto]
  rfl

lemma parseGtp_type_ipv4 {w : Walk} {options : Fin 16} (hw : w.type = ⟨l2, .ipv4 options .udp⟩) :
    (parseGtp w).type = ⟨l2, .ipv4 options (if 12 ≤ w.datalen then .gtpu4 else .udp)⟩ := by
  have hipv4 : w.has .ipv4 = true := by rw [Walk.has_eq hw rfl]; simp [Upper.name]
  rw [parseGtp, hipv4]
  by_cases hlen : w.datalen < 12
  · rw [if_pos hlen, if_neg (by omega), hw]
  · rw [if_neg hlen, if_pos rfl, if_pos (by omega), parseLast_type, hw]
    rfl

lemma parseGtp_type_ipv6 {w : Walk} (hw : w.type = ⟨l2, .ipv6 .udp⟩) :
    (parseGtp w).type = ⟨l2, .ipv6 (if 12 ≤ w.datalen then .gtpu6 else .udp)⟩ := by
  have hipv4 : w.has .ipv4 = false := by rw [Walk.has_eq hw rfl]; rfl
  have hipv6 : w.has .ipv6 = true := by rw [Walk.has_eq hw rfl]; rfl
  rw [parseGtp, hipv4, hipv6]
  by_cases hlen : w.datalen < 12
  · rw [if_pos hlen, if_neg (by omega), hw]
  · rw [if_neg hlen, if_neg (by decide), if_pos rfl, if_pos (by omega), parseLast_type, hw]
    rfl

lemma parseUdp_type_ipv4 {w : Walk} {options : Fin 16} (hw : w.type = ⟨l2, .ipv4 options .none⟩) :
    (parseUdp data w).type =
      ⟨l2, .ipv4 options (if carriesGtpu data w.pos w.datalen then .gtpu4 else .udp)⟩ := by
  rw [parseUdp, Walk.addProto_above (w := (w.enter .udp 0).advance 8) hw rfl rfl]
  simp only [Walk.setType_datalen, Walk.advance_datalen, Walk.shrink_datalen, Walk.enter_datalen,
    carriesGtpu]
  by_cases hlen : 0 < subSize w.datalen 8
  · by_cases hport : be16 data (w.pos + 2) = UDP_DST_PORT_GTPU
    · rw [if_pos hlen, if_pos hport, parseGtp_type_ipv4 l2 rfl]
      simp [hlen, hport]
    · simp [hlen, hport]
  · simp [hlen]

lemma parseUdp_type_ipv6 {w : Walk} (hw : w.type = ⟨l2, .ipv6 .none⟩) :
    (parseUdp data w).type =
      ⟨l2, .ipv6 (if carriesGtpu data w.pos w.datalen then .gtpu6 else .udp)⟩ := by
  rw [parseUdp, Walk.addProto_above (w := (w.enter .udp 0).advance 8) hw rfl rfl]
  simp only [Walk.setType_datalen, Walk.advance_datalen, Walk.shrink_datalen, Walk.enter_datalen,
    carriesGtpu]
  by_cases hlen : 0 < subSize w.datalen 8
  · by_cases hport : be16 data (w.pos + 2) = UDP_DST_PORT_GTPU
    · rw [if_pos hlen, if_pos hport, parseGtp_type_ipv6 l2 rfl]
      simp [hlen, hport]
    · simp [hlen, hport]
  · simp [hlen]

/-- The payload of an IPv4 header that is in the type. -/
lemma parseIpv4Payload_type {w : Walk} {options : Fin 16} (proto : Byte)
    (hw : w.type = ⟨l2, .ipv4 options .none⟩) :
    (parseIpv4Payload data proto w).type =
      ⟨l2, .ipv4 options (ipv4Payload data proto w.pos w.datalen)⟩ := by
  rw [parseIpv4Payload, ipv4Payload]
  split_ifs with hicmp hudp hgtp htcp hsctp hgre hlen
  · exact parseLast_type_upper hw rfl rfl
  · rw [parseUdp_type_ipv4 data l2 hw, if_pos hgtp]
  · rw [parseUdp_type_ipv4 data l2 hw, if_neg hgtp]
  · exact parseLast_type_upper hw rfl rfl
  · exact parseLast_type_upper hw rfl rfl
  · rw [parseGre, if_pos hlen, hw]
  · have hipv4 : w.has .ipv4 = true := by rw [Walk.has_eq hw rfl]; simp [Upper.name]
    rw [parseGre, if_neg hlen, hipv4, if_pos rfl]
    exact parseLast_type_upper hw rfl rfl
  · exact hw

/-- The payload of an IPv4 header that is not in the type: nothing is added. -/
lemma parseIpv4Payload_type_none {w : Walk} (proto : Byte) (hw : w.type = ⟨l2, .none⟩) :
    (parseIpv4Payload data proto w).type = w.type := by
  have hipv4 : w.has .ipv4 = false := by rw [Walk.has_eq hw rfl]; rfl
  have hipv6 : w.has .ipv6 = false := by rw [Walk.has_eq hw rfl]; rfl
  rw [parseIpv4Payload]
  split_ifs with hicmp hudp htcp hsctp hgre
  · exact parseLast_type_none hw rfl rfl
  · rw [parseUdp, Walk.addProto_above_none (w := (w.enter .udp 0).advance 8) hw rfl rfl]
    rfl
  · exact parseLast_type_none hw rfl rfl
  · exact parseLast_type_none hw rfl rfl
  · rw [parseGre, hipv4, hipv6]
    simp
  · rfl

lemma parseIpv4_type {w : Walk} (hw : w.type = ⟨l2, .none⟩) :
    (parseIpv4 data w).type = ⟨l2, ipv4Upper data w.pos w.datalen⟩ := by
  rw [parseIpv4, ipv4Upper]
  by_cases hfragment : ipv4IsFragment data w.pos = true
  · rw [if_pos hfragment, if_pos (Or.inl hfragment)]
    exact hw
  rw [if_neg hfragment, addIpv4Options_eq (w := w.passIpv4 data) hw (ipv4Ihl_lt data w.pos)]
  by_cases hihl : 5 ≤ ipv4Ihl data w.pos
  · rw [optionsUpper, if_pos hihl, if_neg (by simp [hfragment, hihl])]
    exact parseIpv4Payload_type data l2 _ rfl
  · rw [optionsUpper, if_neg hihl, if_pos (Or.inr (by omega))]
    exact parseIpv4Payload_type_none data l2 _ rfl

lemma parseNdp_type {w : Walk} (message : NdpMessage)
    (hw : w.type = ⟨l2, .ipv6 (.icmpv6 .none)⟩) :
    (parseNdp data message w).type =
      ⟨l2, .ipv6 (.icmpv6 (.ndp message (ndpLladr data message w.pos)))⟩ := by
  rw [parseNdp, Walk.addProto_above (w := w.enter (.icmpv6Ndp message) 4) hw rfl rfl]
  by_cases hlladr : data (w.pos + message.sizeof) = message.lladr.optType
  · have htype : ndpLladr data message w.pos = true := decide_eq_true hlladr
    refine (congrArg Walk.type (if_pos hlladr)).trans ?_
    rw [htype]
    refine parseLast_type_upper rfl ?_ rfl
    simp [parseUpper]
  · have htype : ndpLladr data message w.pos = false := decide_eq_false hlladr
    refine (congrArg Walk.type (if_neg hlladr)).trans ?_
    rw [htype]
    rfl

lemma parseIcmpv6_type {w : Walk} (hw : w.type = ⟨l2, .ipv6 .none⟩) :
    (parseIcmpv6 data w).type =
      ⟨l2, .ipv6 (.icmpv6 (icmpv6Payload data (data w.pos) w.pos))⟩ := by
  rw [parseIcmpv6, Walk.addProto_above (w := w.enter .icmpv6 0) hw rfl rfl]
  show (parseIcmpv6Payload data (data w.pos) _).type = _
  rw [parseIcmpv6Payload, icmpv6Payload]
  split_ifs with hsol hadv hneighSol hneighAdv hredirect
  · exact parseNdp_type data l2 .rtrSol rfl
  · exact parseNdp_type data l2 .rtrAdv rfl
  · exact parseNdp_type data l2 .neighSol rfl
  · exact parseNdp_type data l2 .neighAdv rfl
  · rfl
  · rfl

lemma parseIpv6_type {w : Walk} (hw : w.type = ⟨l2, .none⟩) :
    (parseIpv6 data w).type = ⟨l2, ipv6Upper data w.pos w.datalen⟩ := by
  rw [parseIpv6, Walk.addProto_above (w := w.enter .ipv6 0) hw rfl rfl]
  show (parseIpv6Payload data (data (w.pos + 6))
    ((((w.enter .ipv6 0).setType _).advance 40).read (w.pos + 6))).type = _
  set w' := (((w.enter .ipv6 0).setType ⟨l2, .ipv6 .none⟩).advance 40).read (w.pos + 6)
  have hw' : w'.type = ⟨l2, .ipv6 .none⟩ := rfl
  have hpos : w.pos + 40 = w'.pos := rfl
  have hdatalen : subSize w.datalen 40 = w'.datalen := rfl
  have hipv4 : w'.has .ipv4 = false := by rw [Walk.has_eq hw' rfl]; rfl
  have hipv6 : w'.has .ipv6 = true := by rw [Walk.has_eq hw' rfl]; rfl
  rw [ipv6Upper, parseIpv6Payload, ipv6Payload, hpos, hdatalen]
  split_ifs with hicmp hudp hgtp htcp hsctp hgre hlen
  · exact parseIcmpv6_type data l2 hw'
  · rw [parseUdp_type_ipv6 data l2 hw', if_pos hgtp]
  · rw [parseUdp_type_ipv6 data l2 hw', if_neg hgtp]
  · exact parseLast_type_upper hw' rfl rfl
  · exact parseLast_type_upper hw' rfl rfl
  · rw [parseGre, if_pos hlen, hw']
  · rw [parseGre, if_neg hlen, hipv4, hipv6, if_neg (by decide), if_pos rfl]
    exact parseLast_type_upper hw' rfl rfl
  · exact hw'

/-! ## Labels -/

/-- After the label at `pos`.  The fuel `n` is enough for all labels that can still be added. -/
lemma parseMplsLoop_type {m n pos : ℕ} {k : Fin 32} {w : Walk} (hw : w.type = ⟨l2, .mpls k⟩)
    (hpos : w.pos = pos + 4) (hk : k.val + m = 31) (hn : m < n) :
    (if getMplsBos data pos then w else parseMplsLoop data n w).type =
      ⟨l2, .mpls (Fin.ofNat 32 (k.val + furtherLabels data m pos))⟩ := by
  induction m generalizing n pos k w with
  | zero =>
      obtain ⟨n, rfl⟩ := Nat.exists_eq_add_of_lt hn
      have hadd : parseUpper (.mpls k) (.of .mpls) = none := dif_neg (by omega)
      have hlast : Fin.ofNat 32 (k.val + 0) = k := Fin.ext (Nat.mod_eq_of_lt k.isLt)
      rw [furtherLabels, hlast, ← hw]
      split_ifs
      · rfl
      · rw [parseMplsLoop,
          Walk.addProto_above_none (w := (w.enter .mpls 0).advance 4) hw hadd rfl]
        rfl
  | succ m ih =>
      obtain ⟨n, rfl⟩ := Nat.exists_eq_add_of_lt hn
      by_cases hbos : getMplsBos data pos = true
      · have hlast : Fin.ofNat 32 (k.val + 0) = k := Fin.ext (Nat.mod_eq_of_lt k.isLt)
        rw [if_pos hbos, furtherLabels, if_pos hbos, hlast, hw]
      · have hk' : k.val + 1 < 32 := by omega
        have hadd : parseUpper (.mpls k) (.of .mpls) = some (.mpls ⟨k.val + 1, hk'⟩) :=
          dif_pos hk'
        have hsum : k.val + (furtherLabels data m w.pos + 1) =
            k.val + 1 + furtherLabels data m w.pos := by omega
        rw [if_neg hbos, furtherLabels, if_neg hbos, parseMplsLoop,
          Walk.addProto_above (w := (w.enter .mpls 0).advance 4) hw hadd rfl, ← hpos, hsum]
        have hnext : (w.pos + 4 : ℕ) = w.pos + 4 := rfl
        refine ih (n := m + 1 + n) (k := ⟨k.val + 1, hk'⟩)
          (w := (((w.enter .mpls 0).advance 4).setType _).read (w.pos + 2)) rfl hnext ?_ (by omega)
        show k.val + 1 + m = 31
        omega

lemma parseMpls_type {w : Walk} (hw : w.type = ⟨l2, .none⟩) :
    (parseMpls data w).type = ⟨l2, mplsUpper data w.pos⟩ := by
  rw [parseMpls, parseMplsLoop,
    Walk.addProto_above (w := (w.enter .mpls 0).advance 4) hw rfl rfl, mplsUpper,
    ← Nat.zero_add (furtherLabels data 31 w.pos)]
  exact parseMplsLoop_type data l2 (m := 31) (n := 32) (k := 0) rfl rfl rfl (by decide)

/-! ## From the ethertype on -/

lemma parsePppoe_type {w : Walk} {eth_type : BitVec 16}
    (het : eth_type = ETH_TYPE_PPPOE_DISCOVERY ∨ eth_type = ETH_TYPE_PPPOE_SESSION)
    (hw : w.type = ⟨l2, .none⟩) :
    (parsePppoe eth_type w).type =
      ⟨l2, if eth_type = ETH_TYPE_PPPOE_DISCOVERY then .pppoe else .ppp⟩ := by
  rw [parsePppoe, Walk.addProto_above (w := w.enter .pppoe 0) hw rfl rfl]
  by_cases hdiscovery : eth_type = ETH_TYPE_PPPOE_DISCOVERY
  · rw [if_pos hdiscovery, if_pos hdiscovery]
    rfl
  · rw [if_neg hdiscovery, if_pos (het.resolve_left hdiscovery), if_neg hdiscovery]
    exact parseLast_type_upper rfl rfl rfl

lemma parsePbbIsid_type {w : Walk} (hw : w.type = ⟨l2, .none⟩) :
    (parsePbbIsid w).type = ⟨l2.parseIsid.getD l2, .none⟩ := by
  rw [parsePbbIsid, parseLast_type, hw]
  cases h : l2.parseIsid with
  | none => simp [parseTransitions, h]
  | some isid => simp [parseTransitions, h]

lemma parseEtherType_type {w : Walk} (eth_type : BitVec 16) (hw : w.type = ⟨l2, .none⟩) :
    (parseEtherType data eth_type w).type = untaggedType data l2 eth_type w.pos w.datalen := by
  rw [parseEtherType, untaggedType, etherTypeUpper]
  by_cases hitag : eth_type = VLAN_ITAG_ETHER_TYPE
  · rw [if_pos hitag, if_pos hitag]
    exact parsePbbIsid_type l2 hw
  rw [if_neg hitag, if_neg hitag, if_neg hitag]
  by_cases hmpls : eth_type = ETH_TYPE_MPLS_UNICAST ∨ eth_type = ETH_TYPE_MPLS_MULTICAST
  · rw [if_pos hmpls, if_pos hmpls]
    exact parseMpls_type data l2 hw
  rw [if_neg hmpls, if_neg hmpls]
  by_cases hpppoe : eth_type = ETH_TYPE_PPPOE_DISCOVERY ∨ eth_type = ETH_TYPE_PPPOE_SESSION
  · rw [if_pos hpppoe, parsePppoe_type l2 hpppoe hw]
    by_cases hdiscovery : eth_type = ETH_TYPE_PPPOE_DISCOVERY
    · rw [if_pos hdiscovery, if_pos hdiscovery]
    · rw [if_neg hdiscovery, if_neg hdiscovery, if_pos (hpppoe.resolve_left hdiscovery)]
  rw [if_neg hpppoe, if_neg fun h => hpppoe (Or.inl h), if_neg fun h => hpppoe (Or.inr h)]
  split_ifs with harp hipv4 hipv6
  · exact parseLast_type_upper hw rfl rfl
  · exact parseIpv4_type data l2 hw
  · exact parseIpv6_type data l2 hw
  · exact hw

/-- After an ethertype with `k` tags before it.  The fuel `m` is enough for all tags that can still
be added. -/
lemma parseVlanLoop_type {n m : ℕ} {k : Fin 3} {llc : Bool} {w : Walk} (eth_type : BitVec 16)
    (hw : w.type = ⟨.plain llc k, .none⟩) (hk : k.val + n = 2) (hm : n < m) :
    (if IsVlanTag eth_type then parseVlanLoop data m w else parseEtherType data eth_type w).type =
      taggedType data llc n eth_type w.pos w.datalen := by
  induction n generalizing m k w eth_type with
  | zero =>
      obtain ⟨m, rfl⟩ := Nat.exists_eq_add_of_lt hm
      obtain rfl : k = 2 := Fin.ext hk
      have hadd : parseTransitions
          ((((w.enter .vlan 0).advance 4).read16 (w.pos + 2))).type (.of .vlan) = none := by
        show parseTransitions w.type _ = _
        rw [hw]
        rfl
      rw [taggedType]
      split_ifs with htag
      · rw [parseVlanLoop, Walk.addProto_of_none _ hadd]
        exact hw
      · exact parseEtherType_type data _ eth_type hw
  | succ n ih =>
      obtain ⟨m, rfl⟩ := Nat.exists_eq_add_of_lt hm
      have hadd : parseTransitions
          ((((w.enter .vlan 0).advance 4).read16 (w.pos + 2))).type (.of .vlan) =
            some ⟨.plain llc ⟨k.val + 1, by omega⟩, .none⟩ := by
        show parseTransitions w.type _ = _
        rw [hw, parseTransitions, if_pos rfl, L2.parseVlan, dif_pos (by omega)]
        rfl
      have htags : Fin.ofNat 3 (1 - n) = k := by
        refine Fin.ext ?_
        rw [Fin.val_ofNat]
        omega
      rw [taggedType]
      split_ifs with htag
      · rw [parseVlanLoop, Walk.addProto_of_some _ hadd]
        have hk' : k.val + 1 < 3 := by omega
        refine ih (m := n + 1 + m) (k := ⟨k.val + 1, hk'⟩) _ rfl ?_ (by omega)
        show k.val + 1 + n = 2
        omega
      · rw [htags]
        exact parseEtherType_type data _ eth_type hw

/-- **The parser finds the type of the frame.** -/
lemma classify_eq_frameType (len : ℕ) : classify data len = frameType data len := by
  have hpos : ((Walk.start len).passEthernet data).pos = etherHdrLen data := Nat.zero_add _
  rw [classify, classifyPacket, parseEthernet, frameType, parseVlan]
  refine (parseVlanLoop_type data (n := 2) (m := 3) (k := 0) (be16 data (etherTypeOffset data))
    rfl rfl (by decide)).trans ?_
  rw [hpos]
  rfl

end Xdpd.Classifier
