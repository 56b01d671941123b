import Mathlib.Data.Fintype.Basic
import Mathlib.Tactic.FinCases
import Mathlib.Tactic.IntervalCases
import Xdpd.Lib.KeyedFold
import Xdpd.Netfpga.FlowEntry
import Xdpd.OpenFlow.Pipeline

/-!
# What the matches of the NetFPGA mean

In the masks of an entry of the pipeline, a one is for a bit that has to agree.  In those of the
hardware it is for a bit that does not matter.  `netfpga_flow_entry_map_matches` starts with masks
of ones, clears the mask of the ingress port, copies those of the addresses, and adds ones for the
fields that are to agree.
-/

namespace Xdpd.Netfpga

open Xdpd.Lib
open Xdpd.OpenFlow (VlanPresent)

/-! ## Entries and packets -/

/-- A match of OpenFlow, with what the driver does not read. -/
structure OfMatch extends Match where
  vlanPresent : VlanPresent := .specific
  mask16 : BitVec 16 := 0xFFF
  deriving DecidableEq, Repr

/-- An entry whose matches are among the fields that are supported, each of them at most once. -/
structure OfEntry where
  matchs : List OfMatch
  nodup : (matchs.map fun m => m.type).Nodup
  supported : ∀ m ∈ matchs, m.type ≠ .other

/-- A VLAN tag. -/
structure VlanTag where
  pcp : BitVec 3
  vid : BitVec 12
  deriving DecidableEq, Repr

/-- What can be matched of a packet that came in at one of the four ports. -/
structure PacketFields where
  /-- the ports are numbered from one -/
  port : Fin 4
  ethDst : BitVec 48
  ethSrc : BitVec 48
  ethType : BitVec 16
  vlan : Option VlanTag
  ipDscp : BitVec 6
  ipEcn : BitVec 2
  nwProto : BitVec 8
  nwSrc : BitVec 32
  nwDst : BitVec 32
  tpSrc : BitVec 16
  tpDst : BitVec 16

/-- The bits of a field that are ones in the mask agree. -/
def agrees {w : ℕ} (field value mask : BitVec w) : Prop := field &&& mask = value &&& mask

/-- The packet is as the match says, for the fields in their own widths. -/
def OfMatch.Accepts (m : OfMatch) (p : PacketFields) : Prop :=
  match m.type with
  | .inPort => m.value32 = BitVec.ofNat 32 (p.port + 1)
  | .ethDst => agrees p.ethDst (m.ternValue.setWidth 48) (m.ternMask.setWidth 48)
  | .ethSrc => agrees p.ethSrc (m.ternValue.setWidth 48) (m.ternMask.setWidth 48)
  | .ethType => p.ethType = m.value16
  | .vlanPcp => p.vlan.map VlanTag.pcp = some (m.value8.setWidth 3)
  | .vlanVid =>
      match m.vlanPresent with
      | .none => p.vlan = none
      | .any => p.vlan ≠ none
      | .specific =>
          ∃ tag, p.vlan = some tag ∧
            agrees tag.vid (m.value16.setWidth 12) (m.mask16.setWidth 12)
  | .ipDscp => p.ipDscp = m.value8.setWidth 6
  | .nwProto => p.nwProto = m.value8
  | .nwSrc => agrees p.nwSrc m.value32 m.mask32
  | .nwDst => agrees p.nwDst m.value32 m.mask32
  | .tpSrc => p.tpSrc = m.value16
  | .tpDst => p.tpDst = m.value16
  | .other => True

/-- All matches of the entry are met. -/
def OfEntry.Accepts (e : OfEntry) (p : PacketFields) : Prop := ∀ m ∈ e.matchs, m.Accepts p

/-- The fields as the hardware compares them, with one bit for each port. -/
def PacketFields.key (p : PacketFields) : Matches where
  transpDst := p.tpDst
  transpSrc := p.tpSrc
  ipProto := p.nwProto
  ipDst := p.nwDst
  ipSrc := p.nwSrc
  ethType := p.ethType
  ethDst := p.ethDst
  ethSrc := p.ethSrc
  srcPort := (1 : BitVec 8) <<< (2 * p.port.val)
  ipTos := p.ipDscp ++ p.ipEcn
  vlanId := match p.vlan with
    | none => 0xFFFF
    | some tag => tag.pcp ++ (0 : BitVec 1) ++ tag.vid
  pad := 0

/-- The entry of the hardware matches: all bits agree that are zeros in the masks. -/
structure HwEntry.Accepts (hw : HwEntry) (key : Matches) : Prop where
  transpDst : agrees key.transpDst hw.matchs.transpDst (~~~hw.masks.transpDst)
  transpSrc : agrees key.transpSrc hw.matchs.transpSrc (~~~hw.masks.transpSrc)
  ipProto : agrees key.ipProto hw.matchs.ipProto (~~~hw.masks.ipProto)
  ipDst : agrees key.ipDst hw.matchs.ipDst (~~~hw.masks.ipDst)
  ipSrc : agrees key.ipSrc hw.matchs.ipSrc (~~~hw.masks.ipSrc)
  ethType : agrees key.ethType hw.matchs.ethType (~~~hw.masks.ethType)
  ethDst : agrees key.ethDst hw.matchs.ethDst (~~~hw.masks.ethDst)
  ethSrc : agrees key.ethSrc hw.matchs.ethSrc (~~~hw.masks.ethSrc)
  srcPort : agrees key.srcPort hw.matchs.srcPort (~~~hw.masks.srcPort)
  ipTos : agrees key.ipTos hw.matchs.ipTos (~~~hw.masks.ipTos)
  vlanId : agrees key.vlanId hw.matchs.vlanId (~~~hw.masks.vlanId)
  pad : agrees key.pad hw.matchs.pad (~~~hw.masks.pad)

/-- The entry of the hardware for a list of matches. -/
def mapOfMatches (matchs : List OfMatch) : HwEntry :=
  mapMatches initFlowEntry (matchs.map OfMatch.toMatch)

/-- The entry of the hardware matches the same packets, it does not depend on the order of the
matches, and it is one of the exact ones only if all bits matter. -/
structure OfEntry.Translated (e : OfEntry) : Prop where
  accepts_iff : ∀ p : PacketFields, (mapOfMatches e.matchs).Accepts p.key ↔ e.Accepts p
  perm : ∀ matchs, matchs.Perm e.matchs → mapOfMatches matchs = mapOfMatches e.matchs
  exact : (mapOfMatches e.matchs).type = .fixed → (mapOfMatches e.matchs).masks = .fill 0

/-! ## When it is right -/

/-- The match is for one of the four ports. -/
def OfMatch.FromPort (m : OfMatch) : Prop := m.type = .inPort ∧ 1 ≤ m.value32 ∧ m.value32 ≤ 4

/-- The match is for a port whose bit is shifted out of its field. -/
def OfMatch.FromNoPort (m : OfMatch) : Prop :=
  m.type = .inPort ∧ 4 ≤ (m.value32 - NETFPGA_PORT_BASE).toNat % 16

/-- The word for a priority. -/
def OfMatch.pcpWord (m : OfMatch) : BitVec 16 := (m.value8.setWidth 16 <<< 13) &&& 0xE000

/-- The match is one of those that make an entry exact. -/
def OfMatch.Counted (m : OfMatch) : Prop :=
  match m.type with
  | .ethDst | .ethSrc => m.mask64 = 0x00FFFFFF
  | .nwSrc | .nwDst => m.mask32 = 0xFFFF ∨ m.mask32 = 0
  | .other => False
  | _ => True

instance (m : OfMatch) : Decidable m.Counted := by
  unfold OfMatch.Counted
  split <;> infer_instance

/-- Only one of the four ports is matched; or none that there is, where an order could not be seen
and not all of the twelve matches are counted. -/
def OfEntry.Expressible (e : OfEntry) : Prop :=
  (∀ m ∈ e.matchs, m.FromPort) ∨
    (∃ m ∈ e.matchs, m.FromNoPort) ∧
      (∀ m ∈ e.matchs, ∀ m' ∈ e.matchs, m.type = .vlanPcp → m'.type = .vlanVid →
        m.pcpWord = m'.value16) ∧
      (e.matchs.filter fun m => m.Counted).length ≠ MAX_NUM_OF_MATCHES

/-! ## What the hardware makes of a match -/

/-- The field `src_port` for a match on a port. -/
def portBits (value32 : BitVec 32) : BitVec 8 :=
  (shiftOne ((value32 - NETFPGA_PORT_BASE) * 2)).setWidth 8

/-- The mask of the hardware for a match on an IP address. -/
def OfMatch.ipMask (m : OfMatch) : BitVec 32 :=
  if m.mask32 ≠ 0xFFFF ∧ m.mask32 ≠ 0 then m.mask32 else 0

/-- The packet is as the hardware has it for the match. -/
def OfMatch.HwAccepts (m : OfMatch) (p : PacketFields) : Prop :=
  match m.type with
  | .inPort => p.key.srcPort = portBits m.value32
  | .ethDst => agrees p.ethDst (m.ternValue.setWidth 48) (~~~m.ternMask.setWidth 48)
  | .ethSrc => agrees p.ethSrc (m.ternValue.setWidth 48) (~~~m.ternMask.setWidth 48)
  | .nwSrc => agrees p.nwSrc m.value32 (~~~m.ipMask)
  | .nwDst => agrees p.nwDst m.value32 (~~~m.ipMask)
  | _ => True

attribute [ext] Mapped

/-- The turn of the loop for a match. -/
def Mapped.ofStep (e : Mapped) (m : OfMatch) : Mapped := e.step m.toMatch

lemma mapOfMatches_eq (matchs : List OfMatch) :
    mapOfMatches matchs =
      { initFlowEntry with
        matchs := (matchs.foldl Mapped.ofStep ⟨.fill 0, .fill 0xFF, 0⟩).matchs
        masks := (matchs.foldl Mapped.ofStep ⟨.fill 0, .fill 0xFF, 0⟩).masks
        type :=
          if (matchs.foldl Mapped.ofStep ⟨.fill 0, .fill 0xFF, 0⟩).numOfMatches =
            MAX_NUM_OF_MATCHES then .fixed else .wildcarded } := by
  rw [mapOfMatches, mapMatches, List.foldl_map]
  rfl

/-- The fields that no match makes matter. -/
structure Matches.Ignored (masks : Matches) : Prop where
  transpDst : masks.transpDst = 0xFFFF
  transpSrc : masks.transpSrc = 0xFFFF
  ipProto : masks.ipProto = 0xFF
  ethType : masks.ethType = 0xFFFF
  ipTos : masks.ipTos = 0xFF
  vlanId : masks.vlanId = 0xFFFF
  pad : masks.pad = 0xFF

lemma Matches.Ignored.ofStep {e : Mapped} (h : e.masks.Ignored) (m : OfMatch) :
    (e.ofStep m).masks.Ignored := by
  obtain ⟨h₁, h₂, h₃, h₄, h₅, h₆, h₇⟩ := h
  rw [Mapped.ofStep, Mapped.step]
  split <;> constructor <;> first | assumption | rfl | (rw [h₅]; rfl) | (rw [h₆]; rfl)

lemma ignored_foldl (matchs : List OfMatch) :
    (matchs.foldl Mapped.ofStep ⟨.fill 0, .fill 0xFF, 0⟩).masks.Ignored := by
  have hfill : (Mapped.mk (.fill 0) (.fill 0xFF) 0).masks.Ignored :=
    ⟨rfl, rfl, rfl, rfl, rfl, rfl, rfl⟩
  exact List.foldlRecOn (motive := fun e => e.masks.Ignored) matchs Mapped.ofStep hfill
    fun e h m _ => h.ofStep m

lemma writesAt_srcPort : WritesAt Mapped.ofStep (fun m => m.type)
    (fun e => (e.matchs.srcPort, e.masks.srcPort)) .inPort
    fun m => (portBits m.value32, 0) where
  write_eq e m h := by simp [Mapped.ofStep, Mapped.step, h, portBits]
  keep e m h := by
    rw [Mapped.ofStep, Mapped.step]
    split <;> first | rfl | contradiction

lemma writesAt_ethDst : WritesAt Mapped.ofStep (fun m => m.type)
    (fun e => (e.matchs.ethDst, e.masks.ethDst)) .ethDst
    fun m => (m.ternValue.setWidth 48, m.ternMask.setWidth 48) where
  write_eq e m h := by simp [Mapped.ofStep, Mapped.step, h]
  keep e m h := by
    rw [Mapped.ofStep, Mapped.step]
    split <;> first | rfl | contradiction

lemma writesAt_ethSrc : WritesAt Mapped.ofStep (fun m => m.type)
    (fun e => (e.matchs.ethSrc, e.masks.ethSrc)) .ethSrc
    fun m => (m.ternValue.setWidth 48, m.ternMask.setWidth 48) where
  write_eq e m h := by simp [Mapped.ofStep, Mapped.step, h]
  keep e m h := by
    rw [Mapped.ofStep, Mapped.step]
    split <;> first | rfl | contradiction

lemma writesAt_nwSrc : WritesAt Mapped.ofStep (fun m => m.type)
    (fun e => (e.matchs.ipSrc, e.masks.ipSrc)) .nwSrc fun m => (m.value32, m.ipMask) where
  write_eq e m h := by simp [Mapped.ofStep, Mapped.step, h, OfMatch.ipMask]
  keep e m h := by
    rw [Mapped.ofStep, Mapped.step]
    split <;> first | rfl | contradiction

lemma writesAt_nwDst : WritesAt Mapped.ofStep (fun m => m.type)
    (fun e => (e.matchs.ipDst, e.masks.ipDst)) .nwDst fun m => (m.value32, m.ipMask) where
  write_eq e m h := by simp [Mapped.ofStep, Mapped.step, h, OfMatch.ipMask]
  keep e m h := by
    rw [Mapped.ofStep, Mapped.step]
    split <;> first | rfl | contradiction

lemma agrees_zero {w : ℕ} (field value : BitVec w) : agrees field value 0 := by
  simp [agrees]

lemma agrees_allOnes {w : ℕ} (field value : BitVec w) :
    agrees field value (~~~0) ↔ field = value := by
  simp [agrees]

/-- A field of the entry is compared as the match on it has it, if there is one. -/
lemma agrees_foldl_iff {w : ℕ} {part : Mapped → BitVec w × BitVec w} {t : MatchType}
    {write : OfMatch → BitVec w × BitVec w}
    (h : WritesAt Mapped.ofStep (fun m => m.type) part t write) {matchs : List OfMatch}
    (hnodup : (matchs.map fun m => m.type).Nodup) (e₀ : Mapped) (hone : (part e₀).2 = ~~~0)
    (field : BitVec w) :
    agrees field (part (matchs.foldl Mapped.ofStep e₀)).1
        (~~~(part (matchs.foldl Mapped.ofStep e₀)).2) ↔
      ∀ m ∈ matchs, m.type = t → agrees field (write m).1 (~~~(write m).2) := by
  by_cases hex : ∃ m ∈ matchs, m.type = t
  · obtain ⟨m, hm, ht⟩ := hex
    have hpart := h.foldl_of_mem hnodup hm ht e₀
    rw [hpart]
    refine ⟨fun hagrees m' hm' ht' => ?_, fun hall => hall m hm ht⟩
    have hsame : m' = m := List.inj_on_of_nodup_map hnodup hm' hm (ht'.trans ht.symm)
    rw [hsame]
    exact hagrees
  · have hne : ∀ m ∈ matchs, m.type ≠ t := fun m hm ht => hex ⟨m, hm, ht⟩
    rw [h.foldl_of_forall_ne hne e₀, hone, BitVec.not_not]
    exact iff_of_true (agrees_zero _ _) fun m hm ht => absurd ht (hne m hm)

/-- The hardware matches a packet if it is as the hardware has it for each match. -/
lemma accepts_mapOfMatches_iff (e : OfEntry) (p : PacketFields) :
    (mapOfMatches e.matchs).Accepts p.key ↔ ∀ m ∈ e.matchs, m.HwAccepts p := by
  have hignored := ignored_foldl e.matchs
  have hport := agrees_foldl_iff writesAt_srcPort e.nodup ⟨.fill 0, .fill 0xFF, 0⟩ rfl
    p.key.srcPort
  have hdst := agrees_foldl_iff writesAt_ethDst e.nodup ⟨.fill 0, .fill 0xFF, 0⟩ rfl
    p.ethDst
  have hsrc := agrees_foldl_iff writesAt_ethSrc e.nodup ⟨.fill 0, .fill 0xFF, 0⟩ rfl
    p.ethSrc
  have hnwSrc := agrees_foldl_iff writesAt_nwSrc e.nodup ⟨.fill 0, .fill 0xFF, 0⟩ rfl
    p.nwSrc
  have hnwDst := agrees_foldl_iff writesAt_nwDst e.nodup ⟨.fill 0, .fill 0xFF, 0⟩ rfl
    p.nwDst
  rw [mapOfMatches_eq]
  constructor
  · intro h m hm
    rw [OfMatch.HwAccepts]
    cases ht : m.type with
    | inPort => exact (agrees_allOnes _ _).mp (hport.mp h.srcPort m hm ht)
    | ethDst => exact hdst.mp h.ethDst m hm ht
    | ethSrc => exact hsrc.mp h.ethSrc m hm ht
    | nwSrc => exact hnwSrc.mp h.ipSrc m hm ht
    | nwDst => exact hnwDst.mp h.ipDst m hm ht
    | _ => trivial
  · intro h
    have hzero : ∀ {w : ℕ} {mask ones : BitVec w} (field value : BitVec w), mask = ones →
        ~~~ones = 0 → agrees field value (~~~mask) := by
      rintro w mask ones field value rfl hones
      rw [hones]
      exact agrees_zero field value
    exact
      { transpDst := hzero _ _ hignored.transpDst rfl
        transpSrc := hzero _ _ hignored.transpSrc rfl
        ipProto := hzero _ _ hignored.ipProto rfl
        ethType := hzero _ _ hignored.ethType rfl
        ipTos := hzero _ _ hignored.ipTos rfl
        vlanId := hzero _ _ hignored.vlanId rfl
        pad := hzero _ _ hignored.pad rfl
        srcPort := hport.mpr fun m hm ht => by
          have hm := h m hm
          simp only [OfMatch.HwAccepts, ht] at hm
          exact (agrees_allOnes _ _).mpr hm
        ethDst := hdst.mpr fun m hm ht => by simpa only [OfMatch.HwAccepts, ht] using h m hm
        ethSrc := hsrc.mpr fun m hm ht => by simpa only [OfMatch.HwAccepts, ht] using h m hm
        ipSrc := hnwSrc.mpr fun m hm ht => by simpa only [OfMatch.HwAccepts, ht] using h m hm
        ipDst := hnwDst.mpr fun m hm ht => by simpa only [OfMatch.HwAccepts, ht] using h m hm }

/-! ## Ports -/

lemma portBits_eq (v : BitVec 32) :
    portBits v =
      (BitVec.ofNat 32 (1 <<< (2 * ((v - NETFPGA_PORT_BASE).toNat % 16)))).setWidth 8 := by
  have hshift : ((v - NETFPGA_PORT_BASE) * 2).toNat % 32 =
      2 * ((v - NETFPGA_PORT_BASE).toNat % 16) := by
    rw [BitVec.toNat_mul, show (2 : BitVec 32).toNat = 2 from rfl]
    omega
  rw [portBits, shiftOne, hshift]
  rfl

lemma portBits_of_lt {v : BitVec 32} (h : (v - NETFPGA_PORT_BASE).toNat % 16 < 4) :
    portBits v = (1 : BitVec 8) <<< (2 * ((v - NETFPGA_PORT_BASE).toNat % 16)) := by
  rw [portBits_eq]
  generalize (v - NETFPGA_PORT_BASE).toNat % 16 = n at h ⊢
  interval_cases n <;> rfl

/-- The bit is shifted out. -/
lemma portBits_of_le {v : BitVec 32} (h : 4 ≤ (v - NETFPGA_PORT_BASE).toNat % 16) :
    portBits v = 0 := by
  have hlt : (v - NETFPGA_PORT_BASE).toNat % 16 < 16 := Nat.mod_lt _ (by decide)
  rw [portBits_eq]
  generalize (v - NETFPGA_PORT_BASE).toNat % 16 = n at h hlt ⊢
  interval_cases n <;> rfl

lemma srcPort_key_ne_zero (p : PacketFields) : p.key.srcPort ≠ 0 := by
  show (1 : BitVec 8) <<< (2 * p.port.val) ≠ 0
  generalize p.port = port
  fin_cases port <;> decide

lemma OfMatch.FromPort.hwAccepts_iff {m : OfMatch} (h : m.FromPort) (p : PacketFields) :
    m.HwAccepts p ↔ m.Accepts p := by
  obtain ⟨ht, hone, hfour⟩ := h
  simp only [OfMatch.HwAccepts, OfMatch.Accepts, ht, PacketFields.key]
  generalize m.value32 = v at hone hfour ⊢
  generalize p.port = port
  have hv : v = 1 ∨ v = 2 ∨ v = 3 ∨ v = 4 := by bv_omega
  rcases hv with rfl | rfl | rfl | rfl <;> fin_cases port <;> decide

lemma OfMatch.FromNoPort.not_hwAccepts {m : OfMatch} (h : m.FromNoPort) (p : PacketFields) :
    ¬ m.HwAccepts p := by
  obtain ⟨ht, hle⟩ := h
  simp only [OfMatch.HwAccepts, ht, portBits_of_le hle]
  exact srcPort_key_ne_zero p

lemma OfMatch.FromNoPort.not_accepts {m : OfMatch} (h : m.FromNoPort) (p : PacketFields) :
    ¬ m.Accepts p := by
  obtain ⟨ht, hle⟩ := h
  simp only [OfMatch.Accepts, ht]
  intro hv
  rw [hv] at hle
  generalize p.port = port at hle
  fin_cases port <;> exact absurd hle (by decide)

/-! ## Which matches are translated -/

/-- Masks for which the same fields agree are the same. -/
lemma mask_eq_of_agrees_iff {w : ℕ} {v mask mask' : BitVec w}
    (h : ∀ k, agrees k v mask ↔ agrees k v mask') : mask = mask' := by
  have hxor : ∀ d mask : BitVec w, agrees (v ^^^ d) v mask ↔ d &&& mask = 0 := by
    intro d mask
    have hdistrib : (v ^^^ d) &&& mask = (v &&& mask) ^^^ (d &&& mask) := by
      ext i hi
      simp [Bool.and_xor_distrib_right]
    rw [agrees, hdistrib]
    refine ⟨fun hself => ?_, fun hzero => hzero ▸ BitVec.xor_zero⟩
    exact (BitVec.xor_right_inj (v &&& mask)).mp (hself.trans BitVec.xor_zero.symm)
  have hzero : ~~~mask &&& mask' = 0 :=
    (hxor _ _).mp ((h _).mp ((hxor _ _).mpr (BitVec.not_and_self mask)))
  have hzero' : ~~~mask' &&& mask = 0 :=
    (hxor _ _).mp ((h _).mpr ((hxor _ _).mpr (BitVec.not_and_self mask')))
  ext i hi
  have hbit := congrArg (fun x => x[i]) hzero
  have hbit' := congrArg (fun x => x[i]) hzero'
  simp only [BitVec.getElem_and, BitVec.getElem_not] at hbit hbit'
  cases hm : mask[i] <;> cases hm' : mask'[i] <;> simp_all

/-- No field of some width is its own complement. -/
lemma not_ne_self {w : ℕ} (hw : 0 < w) (mask : BitVec w) : ~~~mask ≠ mask := by
  intro h
  have hbit : (~~~mask)[0] = mask[0] := by rw [h]
  rw [BitVec.getElem_not] at hbit
  cases hmask : mask[0] <;> simp [hmask] at hbit

/-- The packets have the same port and addresses. -/
structure PacketFields.Alike (p p' : PacketFields) : Prop where
  port : p'.port = p.port
  ethDst : p'.ethDst = p.ethDst
  ethSrc : p'.ethSrc = p.ethSrc
  nwSrc : p'.nwSrc = p.nwSrc
  nwDst : p'.nwDst = p.nwDst

lemma PacketFields.Alike.hwAccepts_iff {p p' : PacketFields} (h : p.Alike p') (m : OfMatch) :
    m.HwAccepts p' ↔ m.HwAccepts p := by
  simp only [OfMatch.HwAccepts, PacketFields.key, h.port, h.ethDst, h.ethSrc, h.nwSrc, h.nwDst]

/-- Some packet is as the hardware has it for all matches, if their ports have bits. -/
lemma OfEntry.exists_hwAccepts (e : OfEntry) (h : ∀ m ∈ e.matchs, ¬ m.FromNoPort) :
    ∃ p : PacketFields, ∀ m ∈ e.matchs, m.HwAccepts p := by
  obtain ⟨port, hport⟩ : ∃ port : Fin 4, ∀ m ∈ e.matchs, m.type = .inPort →
      (1 : BitVec 8) <<< (2 * port.val) = portBits m.value32 := by
    by_cases hex : ∃ m ∈ e.matchs, m.type = .inPort
    · obtain ⟨m, hm, ht⟩ := hex
      have hlt : (m.value32 - NETFPGA_PORT_BASE).toNat % 16 < 4 :=
        Nat.lt_of_not_le fun hle => h m hm ⟨ht, hle⟩
      refine ⟨⟨_, hlt⟩, fun m' hm' ht' => ?_⟩
      obtain rfl : m' = m := List.inj_on_of_nodup_map e.nodup hm' hm (ht'.trans ht.symm)
      exact (portBits_of_lt hlt).symm
    · exact ⟨0, fun m hm ht => absurd ⟨m, hm, ht⟩ hex⟩
  let last := e.matchs.foldl Mapped.ofStep ⟨.fill 0, .fill 0xFF, 0⟩
  refine ⟨⟨port, last.matchs.ethDst, last.matchs.ethSrc, 0, none, 0, 0, 0, last.matchs.ipSrc,
    last.matchs.ipDst, 0, 0⟩, fun m hm => ?_⟩
  rw [OfMatch.HwAccepts]
  cases ht : m.type with
  | inPort => exact hport m hm ht
  | ethDst =>
      exact congrArg (· &&& _) (congrArg Prod.fst (writesAt_ethDst.foldl_of_mem e.nodup hm ht _))
  | ethSrc =>
      exact congrArg (· &&& _) (congrArg Prod.fst (writesAt_ethSrc.foldl_of_mem e.nodup hm ht _))
  | nwSrc =>
      exact congrArg (· &&& _) (congrArg Prod.fst (writesAt_nwSrc.foldl_of_mem e.nodup hm ht _))
  | nwDst =>
      exact congrArg (· &&& _) (congrArg Prod.fst (writesAt_nwDst.foldl_of_mem e.nodup hm ht _))
  | _ => trivial

/-- A change that no other match sees is seen by the hardware as by the pipeline. -/
lemma OfEntry.hwAccepts_iff_accepts (e : OfEntry)
    (he : ∀ p : PacketFields, (∀ m ∈ e.matchs, m.HwAccepts p) ↔ e.Accepts p)
    {p : PacketFields} (hp : ∀ m ∈ e.matchs, m.HwAccepts p) {m : OfMatch} (hm : m ∈ e.matchs)
    (p' : PacketFields) (hother : ∀ m' : OfMatch, m'.type ≠ m.type →
      (m'.HwAccepts p' ↔ m'.HwAccepts p) ∧ (m'.Accepts p' ↔ m'.Accepts p)) :
    m.HwAccepts p' ↔ m.Accepts p' := by
  have hof := (he p).mp hp
  have hcases : ∀ m' ∈ e.matchs, m' = m ∨ m'.type ≠ m.type := by
    intro m' hm'
    by_cases ht : m'.type = m.type
    · exact .inl (List.inj_on_of_nodup_map e.nodup hm' hm ht)
    · exact .inr ht
  constructor
  · intro haccepts
    refine (he p').mp (fun m' hm' => ?_) m hm
    rcases hcases m' hm' with rfl | hne
    · exact haccepts
    · exact (hother m' hne).1.mpr (hp m' hm')
  · intro haccepts
    refine (he p').mpr (fun m' hm' => ?_) m hm
    rcases hcases m' hm' with rfl | hne
    · exact haccepts
    · exact (hother m' hne).2.mpr (hof m' hm')

/-! Matches on other fields do not see an address. -/

lemma OfMatch.setEthDst_iff {m : OfMatch} (h : m.type ≠ .ethDst) (p : PacketFields)
    (k : BitVec 48) :
    (m.HwAccepts { p with ethDst := k } ↔ m.HwAccepts p) ∧
      (m.Accepts { p with ethDst := k } ↔ m.Accepts p) := by
  cases ht : m.type <;> simp_all [OfMatch.HwAccepts, OfMatch.Accepts, PacketFields.key]

lemma OfMatch.setEthSrc_iff {m : OfMatch} (h : m.type ≠ .ethSrc) (p : PacketFields)
    (k : BitVec 48) :
    (m.HwAccepts { p with ethSrc := k } ↔ m.HwAccepts p) ∧
      (m.Accepts { p with ethSrc := k } ↔ m.Accepts p) := by
  cases ht : m.type <;> simp_all [OfMatch.HwAccepts, OfMatch.Accepts, PacketFields.key]

lemma OfMatch.setNwSrc_iff {m : OfMatch} (h : m.type ≠ .nwSrc) (p : PacketFields) (k : BitVec 32) :
    (m.HwAccepts { p with nwSrc := k } ↔ m.HwAccepts p) ∧
      (m.Accepts { p with nwSrc := k } ↔ m.Accepts p) := by
  cases ht : m.type <;> simp_all [OfMatch.HwAccepts, OfMatch.Accepts, PacketFields.key]

lemma OfMatch.setNwDst_iff {m : OfMatch} (h : m.type ≠ .nwDst) (p : PacketFields) (k : BitVec 32) :
    (m.HwAccepts { p with nwDst := k } ↔ m.HwAccepts p) ∧
      (m.Accepts { p with nwDst := k } ↔ m.Accepts p) := by
  cases ht : m.type <;> simp_all [OfMatch.HwAccepts, OfMatch.Accepts, PacketFields.key]

lemma OfMatch.ipMask_ne (m : OfMatch) : ~~~m.ipMask ≠ m.mask32 := by
  rw [OfMatch.ipMask]
  split
  · exact not_ne_self (by decide) _
  · rename_i h
    intro hmask
    rw [← hmask] at h
    exact absurd h (by decide)

/-- Only matches on one of the four ports are translated right, if the hardware matches anything. -/
lemma OfEntry.fromPort (e : OfEntry)
    (he : ∀ p : PacketFields, (∀ m ∈ e.matchs, m.HwAccepts p) ↔ e.Accepts p)
    {p : PacketFields} (hp : ∀ m ∈ e.matchs, m.HwAccepts p) {m : OfMatch} (hm : m ∈ e.matchs) :
    m.FromPort := by
  -- what the hardware does not look at can be anything in a packet that the entry accepts
  have hblind : ∀ p' : PacketFields, p.Alike p' → m.Accepts p' := fun p' halike =>
    (he p').mp (fun m' hm' => (halike.hwAccepts_iff m').mpr (hp m' hm')) m hm
  cases ht : m.type with
  | inPort =>
      have haccepts := (he p).mp hp m hm
      simp only [OfMatch.Accepts, ht] at haccepts
      rw [OfMatch.FromPort, haccepts]
      refine ⟨ht, ?_⟩
      generalize p.port = port
      fin_cases port <;> decide
  | ethDst =>
      have hiff := fun k => e.hwAccepts_iff_accepts he hp hm { p with ethDst := k }
        fun m' hne => OfMatch.setEthDst_iff (ht ▸ hne) p k
      simp only [OfMatch.HwAccepts, OfMatch.Accepts, ht] at hiff
      exact absurd (mask_eq_of_agrees_iff hiff) (not_ne_self (by decide) _)
  | ethSrc =>
      have hiff := fun k => e.hwAccepts_iff_accepts he hp hm { p with ethSrc := k }
        fun m' hne => OfMatch.setEthSrc_iff (ht ▸ hne) p k
      simp only [OfMatch.HwAccepts, OfMatch.Accepts, ht] at hiff
      exact absurd (mask_eq_of_agrees_iff hiff) (not_ne_self (by decide) _)
  | nwSrc =>
      have hiff := fun k => e.hwAccepts_iff_accepts he hp hm { p with nwSrc := k }
        fun m' hne => OfMatch.setNwSrc_iff (ht ▸ hne) p k
      simp only [OfMatch.HwAccepts, OfMatch.Accepts, ht] at hiff
      exact absurd (mask_eq_of_agrees_iff hiff) m.ipMask_ne
  | nwDst =>
      have hiff := fun k => e.hwAccepts_iff_accepts he hp hm { p with nwDst := k }
        fun m' hne => OfMatch.setNwDst_iff (ht ▸ hne) p k
      simp only [OfMatch.HwAccepts, OfMatch.Accepts, ht] at hiff
      exact absurd (mask_eq_of_agrees_iff hiff) m.ipMask_ne
  | ethType =>
      have haccepts := hblind { p with ethType := m.value16 + 1 } ⟨rfl, rfl, rfl, rfl, rfl⟩
      simp only [OfMatch.Accepts, ht] at haccepts
      exact absurd haccepts (by bv_omega)
  | ipDscp =>
      have haccepts := hblind { p with ipDscp := m.value8.setWidth 6 + 1 } ⟨rfl, rfl, rfl, rfl, rfl⟩
      simp only [OfMatch.Accepts, ht] at haccepts
      exact absurd haccepts (by bv_omega)
  | nwProto =>
      have haccepts := hblind { p with nwProto := m.value8 + 1 } ⟨rfl, rfl, rfl, rfl, rfl⟩
      simp only [OfMatch.Accepts, ht] at haccepts
      exact absurd haccepts (by bv_omega)
  | tpSrc =>
      have haccepts := hblind { p with tpSrc := m.value16 + 1 } ⟨rfl, rfl, rfl, rfl, rfl⟩
      simp only [OfMatch.Accepts, ht] at haccepts
      exact absurd haccepts (by bv_omega)
  | tpDst =>
      have haccepts := hblind { p with tpDst := m.value16 + 1 } ⟨rfl, rfl, rfl, rfl, rfl⟩
      simp only [OfMatch.Accepts, ht] at haccepts
      exact absurd haccepts (by bv_omega)
  | vlanPcp =>
      have haccepts := hblind { p with vlan := none } ⟨rfl, rfl, rfl, rfl, rfl⟩
      simp [OfMatch.Accepts, ht] at haccepts
  | vlanVid =>
      have hnone := hblind { p with vlan := none } ⟨rfl, rfl, rfl, rfl, rfl⟩
      have hsome := hblind { p with vlan := some ⟨0, 0⟩ } ⟨rfl, rfl, rfl, rfl, rfl⟩
      cases hpresent : m.vlanPresent with
      | none => simp [OfMatch.Accepts, ht, hpresent] at hsome
      | specific => simp [OfMatch.Accepts, ht, hpresent] at hnone
      | any => simp [OfMatch.Accepts, ht, hpresent] at hnone
  | other => exact absurd ht (e.supported m hm)

/-! ## The order, and the number of matches -/

lemma numOfMatches_ofStep (e : Mapped) (m : OfMatch) :
    (e.ofStep m).numOfMatches = e.numOfMatches + if m.Counted then 1 else 0 := by
  cases ht : m.type <;>
    simp [Mapped.ofStep, Mapped.step, OfMatch.Counted, ht, ← not_or] <;> split <;> rfl

lemma numOfMatches_foldl (matchs : List OfMatch) (e : Mapped) :
    (matchs.foldl Mapped.ofStep e).numOfMatches =
      e.numOfMatches + (matchs.filter fun m => m.Counted).length := by
  induction matchs generalizing e with
  | nil => rfl
  | cons m matchs ih =>
      rw [List.foldl_cons, ih, numOfMatches_ofStep, List.filter_cons]
      split
      · rename_i h
        rw [if_pos (by simpa using h), List.length_cons]
        omega
      · rename_i h
        rw [if_neg (by simpa using h)]
        omega

/-- The entry is one of the exact ones if twelve matches are counted, and then the fields that no
match makes matter do not either. -/
lemma exact_iff (matchs : List OfMatch) :
    ((mapOfMatches matchs).type = .fixed → (mapOfMatches matchs).masks = .fill 0) ↔
      (matchs.filter fun m => m.Counted).length ≠ MAX_NUM_OF_MATCHES := by
  have hcount := numOfMatches_foldl matchs ⟨.fill 0, .fill 0xFF, 0⟩
  rw [Nat.zero_add] at hcount
  rw [mapOfMatches_eq, hcount]
  constructor
  · intro h htwelve
    have hmasks := h (if_pos htwelve)
    have hignored := ignored_foldl matchs
    exact absurd (hignored.pad.symm.trans (congrArg Matches.pad hmasks)) (by decide)
  · intro hne hfixed
    rw [if_neg hne] at hfixed
    exact absurd hfixed nofun

/-- Two matches that do not share a word can be exchanged. -/
lemma ofStep_comm {m m' : OfMatch} (hne : m.type ≠ m'.type)
    (hpcp : m.type = .vlanPcp → m'.type = .vlanVid → m.pcpWord = m'.value16)
    (hvid : m'.type = .vlanPcp → m.type = .vlanVid → m'.pcpWord = m.value16) (e : Mapped) :
    (e.ofStep m).ofStep m' = (e.ofStep m').ofStep m := by
  have hnum : ((e.ofStep m).ofStep m').numOfMatches = ((e.ofStep m').ofStep m).numOfMatches := by
    simp only [numOfMatches_ofStep]
    omega
  have hmatchs : ((e.ofStep m).ofStep m').matchs = ((e.ofStep m').ofStep m).matchs := by
    cases ht : m.type <;> cases ht' : m'.type <;>
      simp only [Mapped.ofStep, Mapped.step, ht, ht'] <;>
      first
        | exact absurd (ht.trans ht'.symm) hne
        | rw [← hpcp ht ht', OfMatch.pcpWord]
        | rw [← hvid ht' ht, OfMatch.pcpWord]
  have hmasks : ((e.ofStep m).ofStep m').masks = ((e.ofStep m').ofStep m).masks := by
    cases ht : m.type <;> cases ht' : m'.type <;>
      simp only [Mapped.ofStep, Mapped.step, ht, ht'] <;>
      first
        | exact absurd (ht.trans ht'.symm) hne
        | rw [BitVec.or_assoc, BitVec.or_comm 0xE000, ← BitVec.or_assoc]
        | rw [BitVec.or_assoc, BitVec.or_comm 0x0FFF, ← BitVec.or_assoc]
  exact Mapped.ext hmatchs hmasks hnum

/-- The entry does not depend on the order if the words of the VLAN are the same. -/
lemma OfEntry.perm_iff (e : OfEntry) :
    (∀ matchs, matchs.Perm e.matchs → mapOfMatches matchs = mapOfMatches e.matchs) ↔
      ∀ m ∈ e.matchs, ∀ m' ∈ e.matchs, m.type = .vlanPcp → m'.type = .vlanVid →
        m.pcpWord = m'.value16 := by
  constructor
  · intro h m hm m' hm' ht ht'
    have hne : m' ≠ m := by
      rintro rfl
      exact absurd (ht.symm.trans ht') (by decide)
    let rest := (e.matchs.erase m).erase m'
    have hperm : e.matchs.Perm (rest ++ [m', m]) := by
      have hm'' : m' ∈ e.matchs.erase m := (List.mem_erase_of_ne hne).mpr hm'
      refine (List.perm_cons_erase hm).trans ?_
      refine ((List.perm_cons_erase hm'').cons m).trans ?_
      have hback : ([m, m'] ++ rest).Perm (rest ++ [m, m']) := List.perm_append_comm
      exact hback.trans ((List.Perm.swap m' m []).append_left rest)
    have hswap : (rest ++ [m, m']).Perm e.matchs :=
      (((List.Perm.swap m' m []).append_left rest)).trans hperm.symm
    have hsame := (h _ hswap).trans (h _ hperm.symm).symm
    have hvlan := congrArg (fun hw : HwEntry => hw.matchs.vlanId) hsame
    simp only [mapOfMatches_eq, List.foldl_append, List.foldl_cons, List.foldl_nil] at hvlan
    simpa [Mapped.ofStep, Mapped.step, ht, ht', OfMatch.pcpWord] using hvlan.symm
  · intro h matchs hperm
    have hcomm : ∀ m ∈ matchs, ∀ m' ∈ matchs, ∀ e : Mapped,
        (e.ofStep m).ofStep m' = (e.ofStep m').ofStep m := by
      intro m hm m' hm' e'
      have hm := hperm.mem_iff.mp hm
      have hm' := hperm.mem_iff.mp hm'
      by_cases hne : m.type = m'.type
      · rw [List.inj_on_of_nodup_map e.nodup hm hm' hne]
      · exact ofStep_comm hne (h m hm m' hm') (h m' hm' m hm) e'
    rw [mapOfMatches_eq, mapOfMatches_eq, hperm.foldl_eq' hcomm]

lemma OfEntry.length_le_one (e : OfEntry) {t : MatchType} (h : ∀ m ∈ e.matchs, m.type = t) :
    e.matchs.length ≤ 1 := by
  have hmap : e.matchs.map (fun m => m.type) = List.replicate e.matchs.length t :=
    List.eq_replicate_iff.mpr ⟨List.length_map _, by simpa using h⟩
  exact List.nodup_replicate.mp (hmap ▸ e.nodup)

/-! ## The translation -/

/-- **What is translated right**: matches on one of the four ports, and entries that no packet
meets. -/
theorem OfEntry.translated_iff (e : OfEntry) : e.Translated ↔ e.Expressible := by
  have haccepts : ∀ p : PacketFields, (mapOfMatches e.matchs).Accepts p.key ↔
      ∀ m ∈ e.matchs, m.HwAccepts p := accepts_mapOfMatches_iff e
  constructor
  · rintro ⟨hiff, hperm, hexact⟩
    have he := fun p => (haccepts p).symm.trans (hiff p)
    by_cases hnone : ∃ m ∈ e.matchs, m.FromNoPort
    · exact .inr ⟨hnone, e.perm_iff.mp hperm, (exact_iff e.matchs).mp hexact⟩
    · obtain ⟨p, hp⟩ := e.exists_hwAccepts fun m hm hport => hnone ⟨m, hm, hport⟩
      exact .inl fun m hm => e.fromPort he hp hm
  · rintro (hport | ⟨⟨m, hm, hnone⟩, hwords, hcount⟩)
    · refine ⟨fun p => (haccepts p).trans ?_, e.perm_iff.mpr ?_, (exact_iff e.matchs).mpr ?_⟩
      · exact forall₂_congr fun m hm => (hport m hm).hwAccepts_iff p
      · intro m hm _ _ ht
        exact absurd ((hport m hm).1.symm.trans ht) (by decide)
      · have hlength := e.length_le_one fun m hm => (hport m hm).1
        have hfilter := List.length_filter_le (fun m : OfMatch => m.Counted) e.matchs
        rw [MAX_NUM_OF_MATCHES]
        omega
    · refine ⟨fun p => (haccepts p).trans ?_, e.perm_iff.mpr hwords,
        (exact_iff e.matchs).mpr hcount⟩
      exact iff_of_false (fun h => hnone.not_hwAccepts p (h m hm))
        fun h => hnone.not_accepts p (h m hm)

/-- An entry for ARP. -/
def arpEntry : OfEntry where
  matchs := [{ type := .ethType, value16 := 0x0806 }]
  nodup := by decide
  supported := by decide

/-- The hardware entry for ARP matches everything. -/
theorem not_translated_arp : ¬ arpEntry.Translated := by
  intro h
  let ipPacket : PacketFields := ⟨0, 0, 0, 0x0800, none, 0, 0, 0, 0, 0, 0, 0⟩
  have hhw : ∀ m ∈ arpEntry.matchs, m.HwAccepts ipPacket := List.forall_mem_singleton.mpr trivial
  have haccepts : arpEntry.Accepts ipPacket :=
    (h.accepts_iff ipPacket).mp ((accepts_mapOfMatches_iff arpEntry ipPacket).mpr hhw)
  have htype : (0x0800 : BitVec 16) = 0x0806 := haccepts _ (List.mem_singleton_self _)
  exact absurd htype (by decide)

end Xdpd.Netfpga
