import Xdpd.Classifier.Announced
import Xdpd.Classifier.ParserType

/-!
# Where the parser reads

The parser takes the length of the frame, and counts down what remains of it, but it hardly ever
looks at what remains before it reads on.  So it stays within the frame if and only if the frame has
all that the parser needs of the headers it announces: `staysIn_classifyPacket_iff`.

While the parser stays within the frame, its pointer and the remaining length are in step.  Each
function of the parser has one lemma, which says what more it takes to stay within the frame.
-/

namespace Xdpd.Classifier

open Xdpd.Lib

/-- All bytes that the parser has read are in the frame, and the remaining length has not
underflowed. -/
def Walk.StaysIn (len : ℕ) (w : Walk) : Prop :=
  (∀ i ∈ w.reads, i < len) ∧ w.underflow = false

/-- The headers are in the frame, as far as the parser needs them. -/
def Fit (len : ℕ) (headers : List (Header × ℕ)) : Prop :=
  ∀ h ∈ headers, h.2 + h.1.span ≤ len

/-- As long as the parser stays within the frame, it knows how much remains. -/
def Walk.InStep (len : ℕ) (w : Walk) : Prop :=
  w.StaysIn len → w.pos + w.datalen = len

variable {len : ℕ} {w : Walk}

@[simp] lemma fit_nil : Fit len [] := by
  simp [Fit]

@[simp] lemma fit_cons {h : Header} {pos : ℕ} {headers : List (Header × ℕ)} :
    Fit len ((h, pos) :: headers) ↔ pos + h.span ≤ len ∧ Fit len headers := by
  simp [Fit]

/-! ## Steps -/

section Steps

@[simp] lemma staysIn_read {i : ℕ} : (w.read i).StaysIn len ↔ i < len ∧ w.StaysIn len := by
  simp [Walk.StaysIn, and_assoc]

@[simp] lemma staysIn_enter {proto : Proto} {skip : ℕ} :
    (w.enter proto skip).StaysIn len ↔ w.StaysIn len :=
  Iff.rfl

@[simp] lemma staysIn_switchOn {i : ℕ} : (w.switchOn i).StaysIn len ↔ w.StaysIn len :=
  Iff.rfl

@[simp] lemma staysIn_setType {t : PktType} : (w.setType t).StaysIn len ↔ w.StaysIn len :=
  Iff.rfl

lemma staysIn_shrink {n : ℕ} :
    (w.shrink n).StaysIn len ↔ w.StaysIn len ∧ n ≤ w.datalen := by
  simp [Walk.StaysIn, and_assoc]

/-- A protocol without a transition ends the walk. -/
lemma staysIn_addProto_none {proto : UnrolledProto} (next : Walk → Walk)
    (h : parseTransitions w.type proto = none) :
    (w.addProto proto next).StaysIn len ↔ w.StaysIn len := by
  rw [Walk.addProto_of_none next h]
  exact Iff.rfl

namespace Walk.InStep

lemma read (h : w.InStep len) (i : ℕ) : (w.read i).InStep len :=
  fun hin => h (staysIn_read.1 hin).2

lemma advance (h : w.InStep len) (n : ℕ) : (w.advance n).InStep len := by
  intro hin
  obtain ⟨hw, hn⟩ := (staysIn_shrink (w := w) (n := n)).1 hin
  have hlen := h hw
  show w.pos + n + subSize w.datalen n = len
  rw [subSize, if_pos hn]
  omega

lemma staysIn_shrink_iff (h : w.InStep len) (n : ℕ) :
    (w.shrink n).StaysIn len ↔ w.StaysIn len ∧ w.pos + n ≤ len := by
  rw [staysIn_shrink]
  refine and_congr_right fun hw => ?_
  have hlen := h hw
  omega

lemma staysIn_advance_iff (h : w.InStep len) (n : ℕ) :
    (w.advance n).StaysIn len ↔ w.StaysIn len ∧ w.pos + n ≤ len :=
  h.staysIn_shrink_iff n

end Walk.InStep

end Steps

/-! ## Above IP -/

variable (data : ℕ → Byte)

lemma staysIn_parseLast (proto : Proto) : (parseLast proto w).StaysIn len ↔ w.StaysIn len := by
  rw [parseLast, Walk.addProto]
  cases parseTransitions (w.enter proto 0).type (.of proto) <;> exact Iff.rfl

lemma staysIn_parseGtp : (parseGtp w).StaysIn len ↔ w.StaysIn len := by
  rw [parseGtp]
  split_ifs
  · exact Iff.rfl
  · exact staysIn_parseLast .gtpu4
  · exact staysIn_parseLast .gtpu6
  · exact Iff.rfl

lemma staysIn_parseGre : (parseGre w).StaysIn len ↔ w.StaysIn len := by
  rw [parseGre]
  split_ifs
  · exact Iff.rfl
  · exact staysIn_parseLast .gre4
  · exact staysIn_parseLast .gre6
  · exact Iff.rfl

/-- The ports are read only if something remains after the UDP header. -/
lemma staysIn_parseUdp (h : w.InStep len) :
    (parseUdp data w).StaysIn len ↔ w.StaysIn len ∧ w.pos + 8 ≤ len := by
  have hudp : ((w.enter .udp 0).advance 8).StaysIn len ↔ w.StaysIn len ∧ w.pos + 8 ≤ len :=
    Walk.InStep.staysIn_advance_iff (w := w.enter .udp 0) h 8
  rw [parseUdp]
  cases hadd : parseTransitions ((w.enter .udp 0).advance 8).type (.of .udp) with
  | none => rw [staysIn_addProto_none _ hadd, hudp]
  | some t =>
      rw [Walk.addProto_of_some _ hadd, ← hudp]
      have hports : ((((w.enter .udp 0).advance 8).setType t).read16 (w.pos + 2)).StaysIn len ↔
          ((w.enter .udp 0).advance 8).StaysIn len := by
        simp only [Walk.read16, staysIn_read, staysIn_setType]
        refine ⟨fun hin => hin.2.2, fun hin => ?_⟩
        have hlen := (hudp.1 hin).2
        exact ⟨by omega, by omega, hin⟩
      split_ifs
      · rw [staysIn_parseGtp, hports]
      · exact hports
      · exact Iff.rfl

lemma staysIn_parseIpv4Payload (h : w.InStep len) (proto : Byte) :
    (parseIpv4Payload data proto w).StaysIn len ↔
      w.StaysIn len ∧ Fit len (if proto = UDP_IP_PROTO then [(.udp, w.pos)] else []) := by
  rw [parseIpv4Payload]
  by_cases hudp : proto = UDP_IP_PROTO
  · have hicmp : proto ≠ ICMPV4_IP_PROTO := by rw [hudp]; decide
    rw [if_neg hicmp, if_pos hudp, if_pos hudp, staysIn_parseUdp data h]
    simp [Header.span]
  · rw [if_neg hudp, if_neg hudp, and_iff_left fit_nil]
    split_ifs
    · exact staysIn_parseLast .icmpv4
    · exact staysIn_parseLast .tcp
    · exact staysIn_parseLast .sctp
    · exact staysIn_parseGre
    · exact Iff.rfl

lemma Walk.InStep.passIpv4 (h : w.InStep len) : (w.passIpv4 data).InStep len :=
  (((Walk.InStep.read (w := w.enter .ipv4 0) h _).advance _).read _).read _

lemma staysIn_passIpv4 (h : w.InStep len) :
    (w.passIpv4 data).StaysIn len ↔
      w.StaysIn len ∧ w.pos + max (ipv4Ihl data w.pos * 4) 8 ≤ len := by
  have h0 : ((w.enter .ipv4 0).read w.pos).InStep len := Walk.InStep.read (w := w.enter .ipv4 0) h _
  rw [Walk.passIpv4, staysIn_read, staysIn_read, h0.staysIn_advance_iff, staysIn_read,
    staysIn_enter, Walk.read_pos, Walk.enter_pos]
  constructor
  · rintro ⟨h6, h7, ⟨hpos, hw⟩, hihl⟩
    exact ⟨hw, by omega⟩
  · rintro ⟨hw, hspan⟩
    exact ⟨by omega, by omega, ⟨by omega, hw⟩, by omega⟩

lemma staysIn_parseIpv4 {l2 : L2} (h : w.InStep len) (hw : w.type = ⟨l2, .none⟩) :
    (parseIpv4 data w).StaysIn len ↔ w.StaysIn len ∧ Fit len (ipv4Headers data w.pos) := by
  rw [parseIpv4, ipv4Headers, fit_cons, Header.span]
  by_cases hfragment : ipv4IsFragment data w.pos = true
  · rw [if_pos hfragment, if_pos hfragment, if_neg (by simp [hfragment]),
      staysIn_passIpv4 data h, and_iff_left fit_nil]
  rw [if_neg hfragment, if_neg hfragment,
    addIpv4Options_eq (w := w.passIpv4 data) hw (ipv4Ihl_lt data w.pos)]
  have hstep : ((w.passIpv4 data).setType ⟨l2, optionsUpper (ipv4Ihl data w.pos)⟩).InStep len :=
    Walk.InStep.passIpv4 data h
  rw [staysIn_parseIpv4Payload data (hstep.read _), staysIn_read, staysIn_setType,
    staysIn_passIpv4 data h]
  have hspan : w.pos + max (ipv4Ihl data w.pos * 4) 10 ≤ len ↔
      w.pos + 9 < len ∧ w.pos + max (ipv4Ihl data w.pos * 4) 8 ≤ len := by omega
  have hnext : (if ipv4IsFragment data w.pos = false ∧ data (w.pos + 9) = UDP_IP_PROTO then
      [(Header.udp, w.pos + ipv4Ihl data w.pos * 4)] else []) =
      if data (w.pos + 9) = UDP_IP_PROTO then [(.udp, w.pos + ipv4Ihl data w.pos * 4)] else [] := by
    simp only [Bool.not_eq_true] at hfragment
    simp only [hfragment, true_and]
  rw [hspan, hnext]
  show (_ ∧ _ ∧ _) ∧ _ ↔ _ ∧ (_ ∧ _) ∧ _
  tauto

lemma staysIn_parseNdp {l2 : L2} (h : w.InStep len) (hw : w.type = ⟨l2, .ipv6 (.icmpv6 .none)⟩)
    (message : NdpMessage) :
    (parseNdp data message w).StaysIn len ↔
      w.StaysIn len ∧ w.pos + (message.sizeof + 1) ≤ len := by
  rw [parseNdp, Walk.addProto_above (w := w.enter (.icmpv6Ndp message) 4) hw rfl rfl]
  set w' := (w.enter (.icmpv6Ndp message) 4).setType ⟨l2, .ipv6 (.icmpv6 (.ndp message false))⟩
  have hstep : w'.InStep len := h
  have hin : ((w'.advance message.sizeof).read (w'.pos + message.sizeof)).StaysIn len ↔
      w.StaysIn len ∧ w.pos + (message.sizeof + 1) ≤ len := by
    rw [staysIn_read, hstep.staysIn_advance_iff]
    show w.pos + message.sizeof < len ∧ w.StaysIn len ∧ w.pos + message.sizeof ≤ len ↔ _
    constructor
    · rintro ⟨hlt, hw, -⟩
      exact ⟨hw, by omega⟩
    · rintro ⟨hw, hle⟩
      exact ⟨by omega, hw, by omega⟩
  rw [← hin]
  show Walk.StaysIn len (if data (w.pos + message.sizeof) = message.lladr.optType then _ else _) ↔ _
  split_ifs
  · exact staysIn_parseLast (.icmpv6NdpOpts message)
  · exact Iff.rfl

lemma staysIn_parseIcmpv6 {l2 : L2} (h : w.InStep len) (hw : w.type = ⟨l2, .ipv6 .none⟩) :
    (parseIcmpv6 data w).StaysIn len ↔
      w.StaysIn len ∧ w.pos + Header.icmpv6Span (data w.pos) ≤ len := by
  rw [parseIcmpv6, Walk.addProto_above (w := w.enter .icmpv6 0) hw rfl rfl]
  set w' := ((w.enter .icmpv6 0).setType ⟨l2, .ipv6 (.icmpv6 .none)⟩).read w.pos
  have hstep : w'.InStep len :=
    Walk.InStep.read (w := (w.enter .icmpv6 0).setType ⟨l2, .ipv6 (.icmpv6 .none)⟩) h w.pos
  have hin : w'.StaysIn len ↔ w.pos < len ∧ w.StaysIn len := staysIn_read
  have hmessage (message : NdpMessage) : (parseNdp data message w').StaysIn len ↔
      w.StaysIn len ∧ w.pos + (message.sizeof + 1) ≤ len := by
    rw [staysIn_parseNdp data hstep rfl message, hin]
    show (_ ∧ _) ∧ w.pos + _ ≤ len ↔ _
    exact ⟨fun h' => ⟨h'.1.2, h'.2⟩, fun h' => ⟨⟨by omega, h'.1⟩, h'.2⟩⟩
  show (parseIcmpv6Payload data (data w.pos) w').StaysIn len ↔ _
  rw [parseIcmpv6Payload, Header.icmpv6Span]
  split_ifs
  · exact hmessage .rtrSol
  · exact hmessage .rtrAdv
  · exact hmessage .neighSol
  · exact hmessage .neighAdv
  · rw [Walk.addProto_above_none (w := w'.enter .icmpv6Redirect 4) rfl rfl rfl]
    refine hin.trans ?_
    rw [and_comm]
    rfl
  · rw [hstep.staysIn_advance_iff, hin]
    show (_ ∧ _) ∧ w.pos + 4 ≤ len ↔ _
    exact ⟨fun h' => ⟨h'.1.2, h'.2⟩, fun h' => ⟨⟨by omega, h'.1⟩, h'.2⟩⟩

lemma staysIn_parseIpv6 {l2 : L2} (h : w.InStep len) (hw : w.type = ⟨l2, .none⟩) :
    (parseIpv6 data w).StaysIn len ↔ w.StaysIn len ∧ Fit len (ipv6Headers data w.pos) := by
  rw [parseIpv6, Walk.addProto_above (w := w.enter .ipv6 0) hw rfl rfl]
  set w₀ := (w.enter .ipv6 0).setType ⟨l2, .ipv6 .none⟩
  have hstep₀ : w₀.InStep len := h
  set w' := (w₀.advance 40).read (w.pos + 6)
  have hstep : w'.InStep len := (hstep₀.advance 40).read _
  have hw' : w'.type = ⟨l2, .ipv6 .none⟩ := rfl
  have hpos : w'.pos = w.pos + 40 := rfl
  have hin : w'.StaysIn len ↔ w.StaysIn len ∧ w.pos + 40 ≤ len := by
    refine staysIn_read.trans ?_
    rw [hstep₀.staysIn_advance_iff]
    refine ⟨And.right, fun hin => ⟨?_, hin⟩⟩
    have : w.pos + 40 ≤ len := hin.2
    omega
  show (parseIpv6Payload data (data (w.pos + 6)) w').StaysIn len ↔ _
  rw [ipv6Headers, fit_cons, Header.span, ← and_assoc, ← hin, parseIpv6Payload]
  by_cases hicmp : data (w.pos + 6) = ICMPV6_IP_PROTO
  · rw [if_pos hicmp, if_pos hicmp, staysIn_parseIcmpv6 data hstep hw', hpos]
    simp [Header.span]
  by_cases hudp : data (w.pos + 6) = UDP_IP_PROTO
  · rw [if_neg hicmp, if_pos hudp, if_neg hicmp, if_pos hudp, staysIn_parseUdp data hstep, hpos]
    simp [Header.span]
  · rw [if_neg hicmp, if_neg hudp, if_neg hicmp, if_neg hudp, and_iff_left fit_nil]
    split_ifs
    · exact staysIn_parseLast .tcp
    · exact staysIn_parseLast .sctp
    · exact staysIn_parseGre
    · exact Iff.rfl

/-! ## Labels -/

lemma staysIn_enter_advance (h : w.InStep len) (proto : Proto) (n : ℕ) :
    ((w.enter proto 0).advance n).StaysIn len ↔ w.StaysIn len ∧ w.pos + n ≤ len :=
  Walk.InStep.staysIn_advance_iff (w := w.enter proto 0) h n

/-- The bytes of a label that is in the frame can be read. -/
lemma staysIn_label (h : w.InStep len) (t : PktType) :
    ((((w.enter .mpls 0).advance 4).setType t).read (w.pos + 2)).StaysIn len ↔
      w.StaysIn len ∧ w.pos + 4 ≤ len := by
  rw [staysIn_read, staysIn_setType, staysIn_enter_advance h]
  refine ⟨fun ⟨_, hin⟩ => hin, fun hin => ⟨?_, hin⟩⟩
  have := hin.2
  omega

lemma Walk.InStep.label (h : w.InStep len) (t : PktType) :
    ((((w.enter .mpls 0).advance 4).setType t).read (w.pos + 2)).InStep len :=
  Walk.InStep.read (w := ((w.enter .mpls 0).advance 4).setType t)
    (Walk.InStep.advance (w := w.enter .mpls 0) h 4) _

/-- After the label at `pos`, with `m` labels that can still be added, and one more that ends the
walk. -/
lemma staysIn_parseMplsLoop {l2 : L2} {m n pos : ℕ} {k : Fin 32} (h : w.InStep len)
    (hw : w.type = ⟨l2, .mpls k⟩) (hpos : w.pos = pos + 4) (hk : k.val + m = 31) (hn : m < n) :
    (if getMplsBos data pos then w else parseMplsLoop data n w).StaysIn len ↔
      w.StaysIn len ∧
        Fit len (if getMplsBos data pos then [] else labels data (m + 1) (pos + 4)) := by
  induction m generalizing n pos k w with
  | zero =>
      obtain ⟨n, rfl⟩ := Nat.exists_eq_add_of_lt hn
      by_cases hbos : getMplsBos data pos = true
      · rw [if_pos hbos, if_pos hbos, and_iff_left fit_nil]
      · have hadd : parseUpper (.mpls k) (.of .mpls) = none := dif_neg (by omega)
        have hlast : labels data 1 (pos + 4) = [(.mpls, w.pos)] := by
          rw [labels, labels, ite_self, hpos]
        rw [if_neg hbos, if_neg hbos, parseMplsLoop,
          Walk.addProto_above_none (w := (w.enter .mpls 0).advance 4) hw hadd rfl, hlast,
          fit_cons, and_iff_left fit_nil]
        exact staysIn_enter_advance h .mpls 4
  | succ m ih =>
      obtain ⟨n, rfl⟩ := Nat.exists_eq_add_of_lt hn
      by_cases hbos : getMplsBos data pos = true
      · rw [if_pos hbos, if_pos hbos, and_iff_left fit_nil]
      · have hk' : k.val + 1 < 32 := by omega
        have hadd : parseUpper (.mpls k) (.of .mpls) = some (.mpls ⟨k.val + 1, hk'⟩) :=
          dif_pos hk'
        rw [if_neg hbos, if_neg hbos, parseMplsLoop,
          Walk.addProto_above (w := (w.enter .mpls 0).advance 4) hw hadd rfl, labels, fit_cons,
          ← hpos, ← and_assoc]
        have hnext : (w.pos + 4 : ℕ) = w.pos + 4 := rfl
        refine (ih (n := m + 1 + n) (k := ⟨k.val + 1, hk'⟩) (h.label _) rfl hnext ?_
          (by omega)).trans ?_
        · show k.val + 1 + m = 31
          omega
        · rw [staysIn_label h]
          rfl

lemma staysIn_parseMpls {l2 : L2} (h : w.InStep len) (hw : w.type = ⟨l2, .none⟩) :
    (parseMpls data w).StaysIn len ↔ w.StaysIn len ∧ Fit len (labels data 33 w.pos) := by
  rw [parseMpls, parseMplsLoop, Walk.addProto_above (w := (w.enter .mpls 0).advance 4) hw rfl rfl,
    labels, fit_cons, ← and_assoc]
  refine (staysIn_parseMplsLoop data (m := 31) (n := 32) (k := 0) (h.label _) rfl rfl rfl
    (by decide)).trans ?_
  rw [staysIn_label h]
  rfl

/-! ## From the ethertype on -/

lemma staysIn_parsePppoe {l2 : L2} {eth_type : BitVec 16} (h : w.InStep len)
    (hw : w.type = ⟨l2, .none⟩)
    (het : eth_type = ETH_TYPE_PPPOE_DISCOVERY ∨ eth_type = ETH_TYPE_PPPOE_SESSION) :
    (parsePppoe eth_type w).StaysIn len ↔ w.StaysIn len ∧ w.pos + 6 ≤ len := by
  rw [parsePppoe, Walk.addProto_above (w := w.enter .pppoe 0) hw rfl rfl]
  have hstep : ((w.enter .pppoe 0).setType ⟨l2, .pppoe⟩).InStep len := h
  by_cases hdiscovery : eth_type = ETH_TYPE_PPPOE_DISCOVERY
  · rw [if_pos hdiscovery]
    exact hstep.staysIn_shrink_iff 6
  · rw [if_neg hdiscovery, if_pos (het.resolve_left hdiscovery), parsePpp, staysIn_parseLast]
    exact hstep.staysIn_advance_iff 6

lemma staysIn_parseEtherType {l2 : L2} (h : w.InStep len) (hw : w.type = ⟨l2, .none⟩)
    (eth_type : BitVec 16) :
    (parseEtherType data eth_type w).StaysIn len ↔
      w.StaysIn len ∧ Fit len (etherTypeHeaders data l2 eth_type w.pos) := by
  rw [parseEtherType, etherTypeHeaders]
  by_cases hitag : eth_type = VLAN_ITAG_ETHER_TYPE
  · rw [if_pos hitag, if_pos hitag, parsePbbIsid, staysIn_parseLast, fit_cons]
    refine ⟨fun hin => ⟨hin, ?_, fit_nil⟩, fun hin => hin.1⟩
    show w.pos ≤ len
    have := h hin
    omega
  rw [if_neg hitag, if_neg hitag]
  by_cases hmpls : eth_type = ETH_TYPE_MPLS_UNICAST ∨ eth_type = ETH_TYPE_MPLS_MULTICAST
  · rw [if_pos hmpls, if_pos hmpls]
    exact staysIn_parseMpls data h hw
  rw [if_neg hmpls, if_neg hmpls]
  by_cases hpppoe : eth_type = ETH_TYPE_PPPOE_DISCOVERY ∨ eth_type = ETH_TYPE_PPPOE_SESSION
  · rw [if_pos hpppoe, if_pos hpppoe, fit_cons, and_iff_left fit_nil]
    exact staysIn_parsePppoe h hw hpppoe
  rw [if_neg hpppoe, if_neg hpppoe]
  by_cases harp : eth_type = ETH_TYPE_ARP
  · have hipv4 : eth_type ≠ ETH_TYPE_IPV4 := by rw [harp]; decide
    have hipv6 : eth_type ≠ ETH_TYPE_IPV6 := by rw [harp]; decide
    rw [if_pos harp, if_neg hipv4, if_neg hipv6, and_iff_left fit_nil]
    exact staysIn_parseLast .arpv4
  rw [if_neg harp]
  split_ifs
  · exact staysIn_parseIpv4 data h hw
  · exact staysIn_parseIpv6 data h hw
  · rw [and_iff_left fit_nil]

/-- A tag that is in the frame can be read. -/
lemma staysIn_tag (h : w.InStep len) :
    (((w.enter .vlan 0).advance 4).read16 (w.pos + 2)).StaysIn len ↔
      w.StaysIn len ∧ w.pos + 4 ≤ len := by
  rw [Walk.read16, staysIn_read, staysIn_read, staysIn_enter_advance h]
  refine ⟨fun ⟨_, _, hin⟩ => hin, fun hin => ⟨?_, ?_, hin⟩⟩
  · have := hin.2
    omega
  · have := hin.2
    omega

lemma Walk.InStep.tag (h : w.InStep len) :
    (((w.enter .vlan 0).advance 4).read16 (w.pos + 2)).InStep len :=
  ((Walk.InStep.advance (w := w.enter .vlan 0) h 4).read _).read _

/-- After an ethertype with `k` tags before it. -/
lemma staysIn_parseVlanLoop {n m : ℕ} {k : Fin 3} {llc : Bool} (h : w.InStep len)
    (eth_type : BitVec 16) (hw : w.type = ⟨.plain llc k, .none⟩) (hk : k.val + n = 2)
    (hm : n < m) :
    (if IsVlanTag eth_type then parseVlanLoop data m w
      else parseEtherType data eth_type w).StaysIn len ↔
      w.StaysIn len ∧ Fit len (taggedHeaders data llc n eth_type w.pos) := by
  induction n generalizing m k w eth_type with
  | zero =>
      obtain ⟨m, rfl⟩ := Nat.exists_eq_add_of_lt hm
      obtain rfl : k = 2 := Fin.ext hk
      rw [taggedHeaders]
      split_ifs with htag
      · have hadd : parseTransitions
            (((w.enter .vlan 0).advance 4).read16 (w.pos + 2)).type (.of .vlan) = none := by
          show parseTransitions w.type _ = _
          rw [hw]
          rfl
        rw [parseVlanLoop, staysIn_addProto_none _ hadd, staysIn_tag h, fit_cons,
          and_iff_left fit_nil]
        rfl
      · exact staysIn_parseEtherType data h hw eth_type
  | succ n ih =>
      obtain ⟨m, rfl⟩ := Nat.exists_eq_add_of_lt hm
      rw [taggedHeaders]
      split_ifs with htag
      · have hk' : k.val + 1 < 3 := by omega
        have hadd : parseTransitions
            (((w.enter .vlan 0).advance 4).read16 (w.pos + 2)).type (.of .vlan) =
              some ⟨.plain llc ⟨k.val + 1, hk'⟩, .none⟩ := by
          show parseTransitions w.type _ = _
          rw [hw, parseTransitions, if_pos rfl, L2.parseVlan, dif_pos hk']
          rfl
        rw [parseVlanLoop, Walk.addProto_of_some _ hadd, fit_cons, ← and_assoc]
        refine (ih (m := n + 1 + m) (k := ⟨k.val + 1, hk'⟩)
          (w := ((((w.enter .vlan 0).advance 4).read16 (w.pos + 2)).setType _).switchOn (w.pos + 2))
          h.tag _ rfl ?_ (by omega)).trans ?_
        · show k.val + 1 + n = 2
          omega
        · rw [staysIn_switchOn, staysIn_setType, staysIn_tag h]
          rfl
      · have htags : Fin.ofNat 3 (1 - n) = k := by
          refine Fin.ext ?_
          rw [Fin.val_ofNat]
          omega
        rw [htags]
        exact staysIn_parseEtherType data h hw eth_type

lemma inStep_passEthernet (len : ℕ) : ((Walk.start len).passEthernet data).InStep len := by
  have hstart : (Walk.start len).InStep len := fun _ => Nat.zero_add len
  exact ((((Walk.InStep.read (w := (Walk.start len).enter _ 0) hstart 12).read 13).advance
    (etherHdrLen data)).read (etherTypeOffset data)).read (etherTypeOffset data + 1)

lemma staysIn_passEthernet (len : ℕ) :
    ((Walk.start len).passEthernet data).StaysIn len ↔ etherHdrLen data ≤ len := by
  have hstart : (Walk.start len).InStep len := fun _ => Nat.zero_add len
  have hstep : (((Walk.start len).enter (if isLlcFrame data then .eth8023 else .ethernet) 0).read16
      12).InStep len := (Walk.InStep.read (w := (Walk.start len).enter _ 0) hstart 12).read 13
  have hnone : (Walk.start len).StaysIn len := ⟨fun _ hi => absurd hi List.not_mem_nil, rfl⟩
  have hoffset : etherTypeOffset data + 2 ≤ etherHdrLen data ∧ 14 ≤ etherHdrLen data := by
    rw [etherTypeOffset, etherHdrLen]
    split_ifs <;> decide
  obtain ⟨htype, hmin⟩ := hoffset
  rw [Walk.passEthernet, staysIn_switchOn, Walk.read16, staysIn_read, staysIn_read,
    staysIn_setType, hstep.staysIn_advance_iff, Walk.read16, staysIn_read, staysIn_read,
    staysIn_enter]
  show _ ∧ _ ∧ _ ∧ 0 + _ ≤ len ↔ _
  refine ⟨fun ⟨_, _, _, hin⟩ => by omega, fun hin => ?_⟩
  exact ⟨by omega, by omega, ⟨by omega, by omega, hnone⟩, by omega⟩

/-- **The parser stays within the frame if and only if all headers that the frame announces are in
it**, as far as the parser needs them. -/
theorem staysIn_classifyPacket_iff (len : ℕ) :
    (classifyPacket data len).StaysIn len ↔ ∀ h ∈ announced data, h.2 + h.1.span ≤ len := by
  have hpos : ((Walk.start len).passEthernet data).pos = etherHdrLen data := Nat.zero_add _
  show _ ↔ Fit len (announced data)
  rw [classifyPacket, parseEthernet, parseVlan]
  rw [staysIn_parseVlanLoop data (n := 2) (m := 3) (k := 0) (inStep_passEthernet data len)
    (be16 data (etherTypeOffset data)) rfl rfl (by decide), announced, fit_cons, hpos,
    staysIn_passEthernet, Nat.zero_add]
  rfl

/-- A frame with an IPv4 header of fifteen words, of which only 46 bytes are in a frame of the least
length. -/
def longOptionsFrame (i : ℕ) : Byte :=
  if i = 12 then 0x08 else if i = 14 then 0x4f else 0

/-- The remaining length underflows at the options. -/
theorem not_staysIn_longOptionsFrame : ¬ (classifyPacket longOptionsFrame 60).StaysIn 60 := by
  intro h
  exact absurd h.2 (by decide)

end Xdpd.Classifier
