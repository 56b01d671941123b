import Mathlib.Data.Set.Lattice
import Xdpd.Netfpga.MatchTranslation

/-!
# What the actions of the NetFPGA do

The hardware rewrites the fields that are flagged and sends the packet to the ports of a bitmask.
`netfpga_flow_entry_map_actions` goes through a list of actions, which are to be carried out one
after the other.  An action that sends the packet clears the flags and the bitmask.
-/

namespace Xdpd.Netfpga

/-! ## Carrying out a list -/

/-- The numbers of OpenFlow for the port that the packet came from, for flooding, and for all
ports. -/
def OF1X_PORT_IN_PORT : BitVec 32 := 0xfffffff8
def OF1X_PORT_FLOOD : BitVec 32 := 0xfffffffb
def OF1X_PORT_ALL : BitVec 32 := 0xfffffffc

/-- The number of a port. -/
def portNum (i : Fin 4) : BitVec 32 := BitVec.ofNat 32 (i + 1)

/-- The bit of a port. -/
def portBit (i : Fin 4) : BitVec 8 := (1 : BitVec 8) <<< (2 * i.val)

/-- The ports that a packet goes to, where the entry matches on the ingress port `srcPort`. -/
def dests (srcPort : BitVec 8) (port : BitVec 32) : Set (BitVec 32) :=
  if port = OF1X_PORT_IN_PORT then {n | ∃ i, n = portNum i ∧ srcPort = portBit i}
  else if port = OF1X_PORT_FLOOD ∨ port = OF1X_PORT_ALL then
    {n | ∃ i, n = portNum i ∧ srcPort ≠ portBit i}
  else {port}

/-- What an action changes of a packet. -/
def Action.apply (a : Action) (p : PacketFields) : PacketFields :=
  match a.type with
  | .setEthDst => { p with ethDst := a.field64.setWidth 48 }
  | .setEthSrc => { p with ethSrc := a.field64.setWidth 48 }
  | .setVlanVid =>
      { p with vlan := p.vlan.map fun tag => { tag with vid := a.field16.setWidth 12 } }
  | .setVlanPcp => { p with vlan := p.vlan.map fun tag => { tag with pcp := a.field8.setWidth 3 } }
  | .setIpDscp => { p with ipDscp := a.field8.setWidth 6 }
  | .setNwSrc => { p with nwSrc := a.field32 }
  | .setNwDst => { p with nwDst := a.field32 }
  | .setTpSrc => { p with tpSrc := a.field16 }
  | .setTpDst => { p with tpDst := a.field16 }
  | .output | .other => p

/-- What is sent when the actions are carried out: packets, and the ports that they go to. -/
def sent (srcPort : BitVec 8) : List Action → PacketFields → Set (BitVec 32 × PacketFields)
  | [], _ => ∅
  | a :: actions, p =>
      if a.type = .output then dests srcPort a.field32 ×ˢ {p} ∪ sent srcPort actions p
      else sent srcPort actions (a.apply p)

/-! ## What the hardware does -/

/-- The flag with a number in `netfpga_action_type` is set. -/
def Actions.Flag (a : Actions) (i : ℕ) : Prop := a.actionFlags.getLsbD i = true

instance (a : Actions) (i : ℕ) : Decidable (a.Flag i) := inferInstanceAs (Decidable (_ = true))

/-- The packet with the fields rewritten that are flagged. -/
def Actions.rewrite (a : Actions) (p : PacketFields) : PacketFields :=
  { p with
    ethDst := if a.Flag 5 then a.ethDst else p.ethDst
    ethSrc := if a.Flag 4 then a.ethSrc else p.ethSrc
    vlan := p.vlan.map fun tag =>
      { vid := if a.Flag 1 then a.vlanId.setWidth 12 else tag.vid
        -- the driver has the priority in the word of the identifier
        pcp := if a.Flag 2 then (a.vlanId >>> 13).setWidth 3 else tag.pcp }
    ipDscp := if a.Flag 8 then (a.ipTos >>> 2).setWidth 6 else p.ipDscp
    nwSrc := if a.Flag 6 then a.ipSrc else p.nwSrc
    nwDst := if a.Flag 7 then a.ipDst else p.nwDst
    tpSrc := if a.Flag 9 then a.transpSrc else p.tpSrc
    tpDst := if a.Flag 10 then a.transpDst else p.tpDst }

/-- The ports of the bitmask. -/
def Actions.ports (a : Actions) : Set (BitVec 32) :=
  {n | ∃ i : Fin 4, n = portNum i ∧ a.forwardBitmask.getLsbD (2 * i) = true}

/-- What the hardware sends. -/
def Actions.sends (a : Actions) (p : PacketFields) : Set (BitVec 32 × PacketFields) :=
  a.ports ×ˢ {a.rewrite p}

/-! ## The translation -/

/-- The action sets a field. -/
def Action.SetsField (a : Action) : Prop := a.type ≠ .output ∧ a.type ≠ .other

/-- The number of an action in `netfpga_action_type`. -/
def Action.atNum (a : Action) : ℕ :=
  match a.type with
  | .output | .other => 0
  | .setVlanVid => 1
  | .setVlanPcp => 2
  | .setEthSrc => 4
  | .setEthDst => 5
  | .setNwSrc => 6
  | .setNwDst => 7
  | .setIpDscp => 8
  | .setTpSrc => 9
  | .setTpDst => 10

/-- The value of the action is in the field for it. -/
def Action.StoredIn (x : Action) (a : Actions) : Prop :=
  match x.type with
  | .setEthDst => a.ethDst = x.field64.setWidth 48
  | .setEthSrc => a.ethSrc = x.field64.setWidth 48
  | .setVlanVid => a.vlanId.setWidth 12 = x.field16.setWidth 12
  | .setVlanPcp => (a.vlanId >>> 13).setWidth 3 = x.field8.setWidth 3
  | .setIpDscp => (a.ipTos >>> 2).setWidth 6 = x.field8.setWidth 6
  | .setNwSrc => a.ipSrc = x.field32
  | .setNwDst => a.ipDst = x.field32
  | .setTpSrc => a.transpSrc = x.field16
  | .setTpDst => a.transpDst = x.field16
  | .output | .other => True

/-- The loop does something for the action: it is not skipped, and not sent to a wrong port. -/
def Action.Handled (a : Action) : Prop :=
  match a.type with
  | .other => False
  | .output =>
      let port : BitVec 16 := a.field32.setWidth 16
      (1 ≤ port ∧ port ≤ 4) ∨ port = 0xfff8 ∨ port = 0xfffc ∨ port = 0xfffd
  | _ => True

/-- The action sets a part of the tag. -/
def Action.SetsVlan (a : Action) : Prop := a.type = .setVlanVid ∨ a.type = .setVlanPcp

/-- The hardware does what the actions are to do.  Fields that are set before the packet is sent are
flagged as what they are from then on, with their own values until they are set again.  The
identifier and the priority of the tag are not overwritten when the other one is set. -/
structure Preserved (srcPort : BitVec 8) (actions : List Action) (a : Actions) : Prop where
  sends_eq : ∀ p, a.sends p = sent srcPort actions p
  kept : ∀ before x since after, actions = before ++ x :: (since ++ after) → x.SetsField →
    (∃ o ∈ since ++ after, o.type = .output) →
    ((before ++ x :: since).foldl (Actions.step srcPort) .zero).Flag x.atNum ∧
      ((∀ y ∈ since, y.type ≠ x.type) →
        x.StoredIn ((before ++ x :: since).foldl (Actions.step srcPort) .zero))
  vlan : ∀ before x since y after, actions = before ++ x :: (since ++ y :: after) →
    x.SetsVlan → y.SetsVlan → (∀ z ∈ y :: since, z.type ≠ x.type) →
    x.StoredIn ((before ++ x :: (since ++ [y])).foldl (Actions.step srcPort) .zero)
  ports_eq : a.ports = ⋃ o ∈ {o ∈ actions | o.type = .output}, dests srcPort o.field32
  handled : ∀ x ∈ actions, x.Handled

/-- The translation of the actions of an entry fails, or the hardware does what they are to do. -/
def FlowEntry.ActionsTranslated (entry : FlowEntry) : Prop :=
  ∀ actions ∈ entry.applyActions, ∀ hw ∈ mapFlowEntry entry,
    Preserved hw.matchs.srcPort actions hw.actions

/-- The packet is sent to one of the four ports, back, or to all ports. -/
def Action.ToPorts (a : Action) : Prop :=
  a.type = .output ∧
    ((1 ≤ a.field32 ∧ a.field32 ≤ 4) ∨ a.field32 = OF1X_PORT_IN_PORT ∨ a.field32 = OF1X_PORT_ALL)

/-- An identifier that is set after a priority has the priority in the bits above its own. -/
def CarriesPcp (actions : List Action) : Prop :=
  ∀ (before : List Action) (x : Action) (since : List Action) (y : Action) (after : List Action),
    actions = before ++ x :: (since ++ y :: after) →
    x.type = .setVlanPcp → y.type = .setVlanVid → (∀ z ∈ since, z.type ≠ .setVlanPcp) →
    (y.field16 >>> 13).setWidth 3 = x.field8.setWidth 3

/-- The packet is sent first, the last time to all ports that it goes to; fields are set only if it
goes nowhere. -/
def Expressible (srcPort : BitVec 8) (actions : List Action) : Prop :=
  (∃ outs sets, actions = outs ++ sets ∧ (∀ o ∈ outs, o.ToPorts) ∧ (∀ x ∈ sets, x.SetsField) ∧
    ∀ last ∈ outs.getLast?, (∀ o ∈ outs, dests srcPort o.field32 ⊆ dests srcPort last.field32) ∧
      (sets = [] ∨ dests srcPort last.field32 = ∅)) ∧
  CarriesPcp actions

/-! ## Ports -/

/-- The entry matches on one of the ports, or on none that there is. -/
def IsSrcPort (srcPort : BitVec 8) : Prop := srcPort = 0 ∨ ∃ i, srcPort = portBit i

lemma isSrcPort_portBits (v : BitVec 32) : IsSrcPort (portBits v) := by
  rcases Nat.lt_or_ge ((v - NETFPGA_PORT_BASE).toNat % 16) 4 with hlt | hle
  · exact .inr ⟨⟨_, hlt⟩, portBits_of_lt hlt⟩
  · exact .inl (portBits_of_le hle)

lemma isSrcPort_step {e : Mapped} (h : IsSrcPort e.matchs.srcPort) (m : Match) :
    IsSrcPort (e.step m).matchs.srcPort := by
  rw [Mapped.step]
  split <;> first | exact isSrcPort_portBits m.value32 | exact h

lemma isSrcPort_mapMatches (matchs : List Match) :
    IsSrcPort (mapMatches initFlowEntry matchs).matchs.srcPort :=
  List.foldlRecOn (motive := fun e : Mapped => IsSrcPort e.matchs.srcPort) matchs Mapped.step
    (b := ⟨.fill 0, .fill 0xFF, 0⟩) (.inl rfl) fun _ h m _ => isSrcPort_step h m

variable {srcPort : BitVec 8}

lemma forwardTo_inPort (h : IsSrcPort srcPort) (i : Fin 4) :
    (forwardTo srcPort 0xfff8).getLsbD (2 * i) = true ↔ srcPort = portBit i := by
  obtain rfl | ⟨j, rfl⟩ := h
  · fin_cases i <;> decide
  · fin_cases j <;> fin_cases i <;> decide

lemma forwardTo_all (h : IsSrcPort srcPort) (i : Fin 4) :
    (forwardTo srcPort 0xfffc).getLsbD (2 * i) = true ↔ srcPort ≠ portBit i := by
  obtain rfl | ⟨j, rfl⟩ := h
  · fin_cases i <;> decide
  · fin_cases j <;> fin_cases i <;> decide

lemma forwardTo_port {port : BitVec 32} (hone : 1 ≤ port) (hfour : port ≤ 4) (i : Fin 4) :
    (forwardTo srcPort (port.setWidth 16)).getLsbD (2 * i) = true ↔ portNum i = port := by
  have hport : port = 1 ∨ port = 2 ∨ port = 3 ∨ port = 4 := by bv_omega
  rcases hport with rfl | rfl | rfl | rfl <;> rw [forwardTo, if_pos (by decide)] <;>
    fin_cases i <;> decide

/-- The bits are those of the ports that the packet is to go to. -/
lemma ports_forwardTo (h : IsSrcPort srcPort) {a : Actions} {o : Action} (ho : o.ToPorts)
    (ha : a.forwardBitmask = forwardTo srcPort (o.field32.setWidth 16)) :
    a.ports = dests srcPort o.field32 := by
  rw [Actions.ports, ha]
  obtain ⟨-, ⟨hone, hfour⟩ | hin | hall⟩ := ho
  · have hreserved : o.field32 ≠ OF1X_PORT_IN_PORT ∧
        ¬(o.field32 = OF1X_PORT_FLOOD ∨ o.field32 = OF1X_PORT_ALL) := by
      simp only [OF1X_PORT_IN_PORT, OF1X_PORT_FLOOD, OF1X_PORT_ALL]
      bv_omega
    rw [dests, if_neg hreserved.1, if_neg hreserved.2]
    ext n
    simp only [forwardTo_port hone hfour, Set.mem_ofPred_eq, Set.mem_singleton_iff]
    constructor
    · rintro ⟨i, rfl, hi⟩
      exact hi
    · rintro rfl
      have hnum : ∃ i : Fin 4, portNum i = o.field32 := by
        have hport : o.field32 = 1 ∨ o.field32 = 2 ∨ o.field32 = 3 ∨ o.field32 = 4 := by bv_omega
        rcases hport with hv | hv | hv | hv <;> rw [hv] <;> decide
      obtain ⟨i, hi⟩ := hnum
      exact ⟨i, hi.symm, hi⟩
  · rw [hin]
    ext n
    exact exists_congr fun i => and_congr_right fun _ => forwardTo_inPort h i
  · rw [hall]
    ext n
    exact exists_congr fun i => and_congr_right fun _ => forwardTo_all h i

/-! ## The loop -/

variable {a : Actions} {x : Action} {actions outs sets : List Action}

/-- The number of the flag that the driver sets. -/
def Action.flagNum (x : Action) : ℕ :=
  match x.type with
  | .setNwSrc => 9
  | .setNwDst => 10
  | _ => x.atNum

lemma actionFlags_step_output (h : x.type = .output) : (a.step srcPort x).actionFlags = 0 := by
  simp [Actions.step, h]

lemma forwardBitmask_step_output (h : x.type = .output) :
    (a.step srcPort x).forwardBitmask = forwardTo srcPort (x.field32.setWidth 16) := by
  simp [Actions.step, h]

lemma forwardBitmask_step_set (h : x.SetsField) :
    (a.step srcPort x).forwardBitmask = a.forwardBitmask := by
  obtain ⟨houtput, hother⟩ := h
  rw [Actions.step]
  split <;> first | rfl | contradiction

lemma flag_step_self (h : x.SetsField) : (a.step srcPort x).Flag x.flagNum := by
  obtain ⟨houtput, hother⟩ := h
  cases ht : x.type <;>
    simp_all [Actions.step, Actions.Flag, Action.flagNum, Action.atNum, actionFlag]

lemma flag_step_of_flag (h : x.SetsField) {i : ℕ} (hi : a.Flag i) : (a.step srcPort x).Flag i := by
  obtain ⟨houtput, hother⟩ := h
  cases ht : x.type <;> simp_all [Actions.step, Actions.Flag]

lemma forwardBitmask_foldl_sets (hsets : ∀ x ∈ sets, x.SetsField) :
    (sets.foldl (Actions.step srcPort) a).forwardBitmask = a.forwardBitmask :=
  List.foldlRecOn (motive := fun b : Actions => b.forwardBitmask = a.forwardBitmask) sets
    (Actions.step srcPort) (b := a) rfl fun _ hb x hx =>
      (forwardBitmask_step_set (hsets x hx)).trans hb

lemma flag_foldl_sets (hsets : ∀ x ∈ sets, x.SetsField) (hx : x ∈ sets) :
    (sets.foldl (Actions.step srcPort) a).Flag x.flagNum := by
  obtain ⟨before, after, rfl⟩ := List.append_of_mem hx
  rw [List.foldl_append, List.foldl_cons]
  have hafter : ∀ y ∈ after, y.SetsField := fun y hy =>
    hsets y (List.mem_append_right _ (List.mem_cons_of_mem _ hy))
  exact List.foldlRecOn (motive := fun b : Actions => b.Flag x.flagNum) after
    (Actions.step srcPort) (flag_step_self (hsets x hx))
    fun _ hb y hy => flag_step_of_flag (hafter y hy) hb

/-- A field that is flagged is not always what the packet has. -/
lemma exists_rewrite_ne (h : x.SetsField) (hflag : a.Flag x.flagNum) :
    ∃ p, a.rewrite p ≠ p := by
  obtain ⟨houtput, hother⟩ := h
  let blank : PacketFields := ⟨0, 0, 0, 0, none, 0, 0, 0, 0, 0, 0, 0⟩
  rw [Action.flagNum, Action.atNum] at hflag
  cases ht : x.type with
  | setEthDst =>
      have hflag : a.Flag 5 := by simpa only [ht] using hflag
      refine ⟨{ blank with ethDst := a.ethDst + 1 }, fun heq => ?_⟩
      have hfield := congrArg PacketFields.ethDst heq
      simp only [Actions.rewrite, if_pos hflag] at hfield
      exact absurd hfield (by bv_omega)
  | setEthSrc =>
      have hflag : a.Flag 4 := by simpa only [ht] using hflag
      refine ⟨{ blank with ethSrc := a.ethSrc + 1 }, fun heq => ?_⟩
      have hfield := congrArg PacketFields.ethSrc heq
      simp only [Actions.rewrite, if_pos hflag] at hfield
      exact absurd hfield (by bv_omega)
  | setIpDscp =>
      have hflag : a.Flag 8 := by simpa only [ht] using hflag
      refine ⟨{ blank with ipDscp := (a.ipTos >>> 2).setWidth 6 + 1 }, fun heq => ?_⟩
      have hfield := congrArg PacketFields.ipDscp heq
      simp only [Actions.rewrite, if_pos hflag] at hfield
      exact absurd hfield (by bv_omega)
  | setNwSrc =>
      have hflag : a.Flag 9 := by simpa only [ht] using hflag
      refine ⟨{ blank with tpSrc := a.transpSrc + 1 }, fun heq => ?_⟩
      have hfield := congrArg PacketFields.tpSrc heq
      simp only [Actions.rewrite, if_pos hflag] at hfield
      exact absurd hfield (by bv_omega)
  | setNwDst =>
      have hflag : a.Flag 10 := by simpa only [ht] using hflag
      refine ⟨{ blank with tpDst := a.transpDst + 1 }, fun heq => ?_⟩
      have hfield := congrArg PacketFields.tpDst heq
      simp only [Actions.rewrite, if_pos hflag] at hfield
      exact absurd hfield (by bv_omega)
  | setTpSrc =>
      have hflag : a.Flag 9 := by simpa only [ht] using hflag
      refine ⟨{ blank with tpSrc := a.transpSrc + 1 }, fun heq => ?_⟩
      have hfield := congrArg PacketFields.tpSrc heq
      simp only [Actions.rewrite, if_pos hflag] at hfield
      exact absurd hfield (by bv_omega)
  | setTpDst =>
      have hflag : a.Flag 10 := by simpa only [ht] using hflag
      refine ⟨{ blank with tpDst := a.transpDst + 1 }, fun heq => ?_⟩
      have hfield := congrArg PacketFields.tpDst heq
      simp only [Actions.rewrite, if_pos hflag] at hfield
      exact absurd hfield (by bv_omega)
  | setVlanVid =>
      have hflag : a.Flag 1 := by simpa only [ht] using hflag
      refine ⟨{ blank with vlan := some ⟨0, a.vlanId.setWidth 12 + 1⟩ }, fun heq => ?_⟩
      have hfield := congrArg (fun p => p.vlan.map VlanTag.vid) heq
      simp only [Actions.rewrite, if_pos hflag, Option.map_some, Option.some.injEq] at hfield
      exact absurd hfield (by bv_omega)
  | setVlanPcp =>
      have hflag : a.Flag 2 := by simpa only [ht] using hflag
      refine ⟨{ blank with vlan := some ⟨(a.vlanId >>> 13).setWidth 3 + 1, 0⟩ }, fun heq => ?_⟩
      have hfield := congrArg (fun p => p.vlan.map VlanTag.pcp) heq
      simp only [Actions.rewrite, if_pos hflag, Option.map_some, Option.some.injEq] at hfield
      exact absurd hfield (by bv_omega)
  | output => exact absurd ht houtput
  | other => exact absurd ht hother

/-! ## Lists -/

/-- Fields that are set before the packet is sent are not flagged any more. -/
lemma Preserved.not_output (h : Preserved srcPort actions a) {before after : List Action}
    (hactions : actions = before ++ x :: after) (hx : x.SetsField) :
    ∀ o ∈ after, o.type ≠ .output := by
  intro o ho houtput
  obtain ⟨since, rest, rfl⟩ := List.append_of_mem ho
  have hsplit : actions = before ++ x :: ((since ++ [o]) ++ rest) := by
    rw [hactions, List.append_assoc]
    rfl
  have hmem : o ∈ (since ++ [o]) ++ rest := by simp
  have hflag := (h.kept before x (since ++ [o]) rest hsplit hx ⟨o, hmem, houtput⟩).1
  rw [Actions.Flag, ← List.cons_append, ← List.append_assoc, List.foldl_append, List.foldl_cons,
    List.foldl_nil, actionFlags_step_output houtput] at hflag
  exact absurd hflag (by simp)

/-- A list where nothing is sent after a field was set. -/
lemma exists_outs_sets (hother : ∀ x ∈ actions, x.type ≠ .other)
    (h : ∀ before x after, actions = before ++ x :: after → x.SetsField →
      ∀ o ∈ after, o.type ≠ .output) :
    ∃ outs sets, actions = outs ++ sets ∧ (∀ o ∈ outs, o.type = .output) ∧
      ∀ x ∈ sets, x.SetsField := by
  induction actions with
  | nil => exact ⟨[], [], rfl, nofun, nofun⟩
  | cons x actions ih =>
      obtain ⟨hx, hactions⟩ := List.forall_mem_cons.mp hother
      by_cases houtput : x.type = .output
      · obtain ⟨outs, sets, rfl, houts, hsets⟩ := ih hactions fun before y after heq =>
          h (x :: before) y after (congrArg (x :: ·) heq)
        exact ⟨x :: outs, sets, rfl, List.forall_mem_cons.mpr ⟨houtput, houts⟩, hsets⟩
      · have hafter := h [] x actions rfl ⟨houtput, hx⟩
        refine ⟨[], x :: actions, rfl, nofun, List.forall_mem_cons.mpr ⟨⟨houtput, hx⟩, ?_⟩⟩
        exact fun y hy => ⟨hafter y hy, hactions y hy⟩

lemma not_output_of_append (houts : ∀ o ∈ outs, o.type = .output)
    (hsets : ∀ x ∈ sets, x.SetsField) {before after : List Action}
    (h : outs ++ sets = before ++ x :: after) (hx : x.SetsField) :
    ∀ o ∈ after, o.type ≠ .output := by
  induction outs generalizing before with
  | nil =>
      intro o ho
      have hmem : o ∈ sets := by
        rw [List.nil_append] at h
        rw [h]
        exact List.mem_append_right _ (List.mem_cons_of_mem _ ho)
      exact (hsets o hmem).1
  | cons out outs ih =>
      obtain ⟨hout, houts⟩ := List.forall_mem_cons.mp houts
      cases before with
      | nil =>
          obtain rfl : out = x := (List.cons.inj h).1
          exact absurd hout hx.1
      | cons y before => exact ih houts (List.cons.inj h).2

lemma sent_sets (hsets : ∀ x ∈ sets, x.SetsField) (p : PacketFields) :
    sent srcPort sets p = ∅ := by
  induction sets generalizing p with
  | nil => rfl
  | cons x sets ih =>
      obtain ⟨hx, hsets⟩ := List.forall_mem_cons.mp hsets
      rw [sent, if_neg hx.1]
      exact ih hsets _

/-- What is sent is the packet as it was, to the ports of all actions that send it. -/
lemma sent_append (houts : ∀ o ∈ outs, o.type = .output) (hsets : ∀ x ∈ sets, x.SetsField)
    (p : PacketFields) :
    sent srcPort (outs ++ sets) p = (⋃ o ∈ {o | o ∈ outs}, dests srcPort o.field32) ×ˢ {p} := by
  induction outs with
  | nil => simp [sent_sets hsets]
  | cons o outs ih =>
      obtain ⟨ho, houts⟩ := List.forall_mem_cons.mp houts
      rw [List.cons_append, sent, if_pos ho, ih houts, ← Set.union_prod]
      congr 1
      ext n
      simp

lemma output_iff_mem_outs (houts : ∀ o ∈ outs, o.type = .output)
    (hsets : ∀ x ∈ sets, x.SetsField) :
    x ∈ outs ++ sets ∧ x.type = .output ↔ x ∈ outs := by
  constructor
  · rintro ⟨hx, houtput⟩
    rcases List.mem_append.mp hx with hx | hx
    · exact hx
    · exact absurd houtput (hsets x hx).1
  · exact fun hx => ⟨List.mem_append_left _ hx, houts x hx⟩

/-! ## What the loop leaves -/

lemma rewrite_of_not_flagged (h : a.actionFlags = 0) (p : PacketFields) : a.rewrite p = p := by
  have hflag : ∀ i, ¬a.Flag i := fun i hi => by
    rw [Actions.Flag, h] at hi
    exact absurd hi (by simp)
  simp [Actions.rewrite, hflag]

/-- The ports are those of the last action that sends the packet. -/
lemma ports_foldl (h : IsSrcPort srcPort) {last : Action} (hlast : last ∈ outs.getLast?)
    (hports : last.ToPorts) (hsets : ∀ x ∈ sets, x.SetsField) :
    ((outs ++ sets).foldl (Actions.step srcPort) a).ports = dests srcPort last.field32 := by
  obtain ⟨before, rfl⟩ := List.getLast?_eq_some_iff.mp hlast
  refine ports_forwardTo h hports ?_
  rw [List.foldl_append, forwardBitmask_foldl_sets hsets, List.foldl_append, List.foldl_cons,
    List.foldl_nil, forwardBitmask_step_output hports.1]

lemma ports_foldl_sets (hsets : ∀ x ∈ sets, x.SetsField) :
    (sets.foldl (Actions.step srcPort) .zero).ports = ∅ := by
  ext n
  rw [Actions.ports, forwardBitmask_foldl_sets hsets]
  simp [Actions.zero]

lemma actionFlags_foldl {last : Action} (hlast : last ∈ outs.getLast?)
    (houtput : last.type = .output) :
    (outs.foldl (Actions.step srcPort) a).actionFlags = 0 := by
  obtain ⟨before, rfl⟩ := List.getLast?_eq_some_iff.mp hlast
  rw [List.foldl_append, List.foldl_cons, List.foldl_nil, actionFlags_step_output houtput]

lemma vlanId_step (h : x.type ≠ .setVlanVid) :
    (a.step srcPort x).vlanId.setWidth 12 = a.vlanId.setWidth 12 := by
  by_cases hpcp : x.type = .setVlanPcp
  · have hlow : BitVec.setWidth 12 (0xE000 : BitVec 16) = 0#12 := by decide
    simp only [Actions.step, hpcp]
    rw [BitVec.setWidth_or, BitVec.setWidth_and, hlow, BitVec.and_zero, BitVec.or_zero]
  · rw [Actions.step]
    split <;> first | rfl | contradiction

lemma vlanId_foldl (h : ∀ x ∈ actions, x.type ≠ .setVlanVid) :
    (actions.foldl (Actions.step srcPort) a).vlanId.setWidth 12 = a.vlanId.setWidth 12 :=
  List.foldlRecOn
    (motive := fun b : Actions => b.vlanId.setWidth 12 = a.vlanId.setWidth 12) actions
    (Actions.step srcPort) (b := a) rfl fun _ hb x hx => (vlanId_step (h x hx)).trans hb

/-- A priority leaves the identifier; an identifier replaces the priority by its own upper bits. -/
lemma vlan_storedIn (hcarries : CarriesPcp actions) {before since after : List Action}
    {y : Action} (hactions : actions = before ++ x :: (since ++ y :: after)) (hx : x.SetsVlan)
    (hy : y.SetsVlan) (hother : ∀ z ∈ y :: since, z.type ≠ x.type) :
    x.StoredIn ((before ++ x :: (since ++ [y])).foldl (Actions.step srcPort) .zero) := by
  rw [List.foldl_append, List.foldl_cons]
  rcases hx with hx | hx
  · have hvid : ∀ z ∈ since ++ [y], z.type ≠ .setVlanVid := by
      intro z hz
      rw [← hx]
      exact hother z (by grind)
    simp only [Action.StoredIn, hx]
    rw [vlanId_foldl hvid]
    simp only [Actions.step, hx]
  · have hyvid : y.type = .setVlanVid :=
      hy.resolve_right fun hpcp => hother y List.mem_cons_self (hpcp.trans hx.symm)
    have hsince : ∀ z ∈ since, z.type ≠ .setVlanPcp := fun z hz =>
      hx ▸ hother z (List.mem_cons_of_mem _ hz)
    simp only [Action.StoredIn, hx]
    rw [List.foldl_append, List.foldl_cons, List.foldl_nil]
    simp only [Actions.step, hyvid]
    exact hcarries before x since y after hactions hx hyvid hsince

/-! ## When the meaning is kept -/

lemma handled_of_toPorts (h : x.ToPorts) : x.Handled := by
  obtain ⟨houtput, ⟨hone, hfour⟩ | hin | hall⟩ := h
  · have hport : x.field32 = 1 ∨ x.field32 = 2 ∨ x.field32 = 3 ∨ x.field32 = 4 := by bv_omega
    rcases hport with hv | hv | hv | hv <;> simp only [Action.Handled, houtput, hv] <;> decide
  · simp only [Action.Handled, houtput, hin]
    decide
  · simp only [Action.Handled, houtput, hall]
    decide

lemma handled_of_setsField (h : x.SetsField) : x.Handled := by
  obtain ⟨houtput, hother⟩ := h
  rw [Action.Handled]
  split <;> trivial

lemma dests_subset_ports (h : Preserved srcPort (outs ++ sets) a)
    (houts : ∀ o ∈ outs, o.type = .output) {o : Action} (ho : o ∈ outs) :
    dests srcPort o.field32 ⊆ a.ports := by
  rw [h.ports_eq]
  intro n hn
  exact Set.mem_iUnion₂.mpr ⟨o, ⟨List.mem_append_left _ ho, houts o ho⟩, hn⟩

lemma toPorts_of_subset {o : Action} (houtput : o.type = .output) (hhandled : o.Handled)
    (hports : dests srcPort o.field32 ⊆ a.ports) : o.ToPorts := by
  refine ⟨houtput, ?_⟩
  by_cases hin : o.field32 = OF1X_PORT_IN_PORT
  · exact .inr (.inl hin)
  by_cases hall : o.field32 = OF1X_PORT_ALL
  · exact .inr (.inr hall)
  have hflood : o.field32 ≠ OF1X_PORT_FLOOD := by
    intro hflood
    simp only [Action.Handled, houtput, hflood, OF1X_PORT_FLOOD] at hhandled
    exact absurd hhandled (by decide)
  have hself : o.field32 ∈ dests srcPort o.field32 := by
    rw [dests, if_neg hin, if_neg (not_or.mpr ⟨hflood, hall⟩)]
    exact rfl
  obtain ⟨i, hi, -⟩ := hports hself
  rw [hi]
  exact .inl (by fin_cases i <;> decide)

/-- The hardware rewrites the packet before it sends it, so fields that are set after the packet was
sent must not be flagged when it goes anywhere. -/
lemma sets_eq_nil_or (h : IsSrcPort srcPort)
    (hpres : Preserved srcPort (outs ++ sets) ((outs ++ sets).foldl (Actions.step srcPort) .zero))
    (houts : ∀ o ∈ outs, o.ToPorts) (hsets : ∀ x ∈ sets, x.SetsField) {last : Action}
    (hlast : last ∈ outs.getLast?) : sets = [] ∨ dests srcPort last.field32 = ∅ := by
  rcases Set.eq_empty_or_nonempty (dests srcPort last.field32) with hempty | ⟨n, hn⟩
  · exact .inr hempty
  refine .inl (List.eq_nil_iff_forall_not_mem.mpr fun x hx => ?_)
  have hflag : ((outs ++ sets).foldl (Actions.step srcPort) .zero).Flag x.flagNum := by
    rw [List.foldl_append]
    exact flag_foldl_sets hsets hx
  obtain ⟨p, hp⟩ := exists_rewrite_ne (hsets x hx) hflag
  have hsend : (n, ((outs ++ sets).foldl (Actions.step srcPort) .zero).rewrite p) ∈
      sent srcPort (outs ++ sets) p := by
    rw [← hpres.sends_eq p, Actions.sends,
      ports_foldl h hlast (houts last (List.mem_of_getLast? hlast)) hsets]
    exact ⟨hn, rfl⟩
  rw [sent_append (fun o ho => (houts o ho).1) hsets] at hsend
  exact hp hsend.2

lemma expressible_of_preserved (h : IsSrcPort srcPort)
    (hpres : Preserved srcPort actions (actions.foldl (Actions.step srcPort) .zero)) :
    Expressible srcPort actions := by
  have hother : ∀ x ∈ actions, x.type ≠ .other := fun x hx hother => by
    have hhandled := hpres.handled x hx
    rw [Action.Handled, hother] at hhandled
    exact hhandled
  obtain ⟨outs, sets, rfl, houts, hsets⟩ :=
    exists_outs_sets hother fun before x after heq hx => hpres.not_output heq hx
  have hports : ∀ o ∈ outs, o.ToPorts := fun o ho =>
    toPorts_of_subset (houts o ho) (hpres.handled o (List.mem_append_left _ ho))
      (dests_subset_ports hpres houts ho)
  refine ⟨⟨outs, sets, rfl, hports, hsets, fun last hlast => ⟨fun o ho => ?_, ?_⟩⟩, ?_⟩
  · rw [← ports_foldl h hlast (hports last (List.mem_of_getLast? hlast)) hsets]
    exact dests_subset_ports hpres houts ho
  · exact sets_eq_nil_or h hpres hports hsets hlast
  · intro before x since y after heq hx hy hsince
    have hstored := hpres.vlan before x since y after heq (.inr hx) (.inl hy) (by
      rw [hx]
      exact List.forall_mem_cons.mpr ⟨by rw [hy]; decide, hsince⟩)
    simp only [Action.StoredIn, hx] at hstored
    rw [List.foldl_append, List.foldl_cons, List.foldl_append, List.foldl_cons,
      List.foldl_nil] at hstored
    simpa only [Actions.step, hy] using hstored

/-- The ports of the bitmask are those of all actions that send the packet. -/
lemma ports_eq_iUnion (h : IsSrcPort srcPort) (houts : ∀ o ∈ outs, o.ToPorts)
    (hsets : ∀ x ∈ sets, x.SetsField)
    (hlast : ∀ last ∈ outs.getLast?,
      ∀ o ∈ outs, dests srcPort o.field32 ⊆ dests srcPort last.field32) :
    ((outs ++ sets).foldl (Actions.step srcPort) .zero).ports =
      ⋃ o ∈ {o | o ∈ outs}, dests srcPort o.field32 := by
  cases hget : outs.getLast? with
  | none =>
      obtain rfl := List.getLast?_eq_none_iff.mp hget
      rw [List.nil_append, ports_foldl_sets hsets]
      simp
  | some last =>
      have hmem := List.mem_of_getLast? hget
      rw [ports_foldl h hget (houts last hmem) hsets]
      refine Set.Subset.antisymm (fun n hn => ?_) (Set.iUnion₂_subset (hlast last hget))
      exact Set.mem_iUnion₂.mpr ⟨last, hmem, hn⟩

lemma preserved_of_expressible (h : IsSrcPort srcPort) (hexp : Expressible srcPort actions) :
    Preserved srcPort actions (actions.foldl (Actions.step srcPort) .zero) := by
  obtain ⟨⟨outs, sets, rfl, hports, hsets, hlast⟩, hcarries⟩ := hexp
  have houts : ∀ o ∈ outs, o.type = .output := fun o ho => (hports o ho).1
  have hunion := ports_eq_iUnion h hports hsets fun last hget => (hlast last hget).1
  refine ⟨fun p => ?_, ?_, ?_, ?_, ?_⟩
  · rw [sent_append houts hsets, Actions.sends, ← hunion]
    cases hget : outs.getLast? with
    | none =>
        obtain rfl := List.getLast?_eq_none_iff.mp hget
        rw [List.nil_append, ports_foldl_sets hsets, Set.empty_prod, Set.empty_prod]
    | some last =>
        have hmem := List.mem_of_getLast? hget
        rcases (hlast last hget).2 with rfl | hempty
        · rw [List.append_nil, rewrite_of_not_flagged (actionFlags_foldl hget (houts last hmem))]
        · rw [ports_foldl h hget (hports last hmem) hsets, hempty, Set.empty_prod, Set.empty_prod]
  · rintro before x since after heq hx ⟨o, ho, houtput⟩
    exact absurd houtput (not_output_of_append houts hsets heq hx o ho)
  · exact fun before x since y after heq hx hy hother => vlan_storedIn hcarries heq hx hy hother
  · rw [hunion]
    congr 1
    ext o
    simp only [Set.mem_ofPred_eq, output_iff_mem_outs houts hsets]
  · intro x hx
    rcases List.mem_append.mp hx with hx | hx
    · exact handled_of_toPorts (hports x hx)
    · exact handled_of_setsField (hsets x hx)

lemma expressible_nil : Expressible srcPort [] := by
  simp [Expressible, CarriesPcp]

lemma preserved_iff (h : IsSrcPort srcPort) :
    Preserved srcPort actions (actions.foldl (Actions.step srcPort) .zero) ↔
      Expressible srcPort actions :=
  ⟨expressible_of_preserved h, preserved_of_expressible h⟩

/-- The hardware does what the actions of an entry are to do if the packet is sent before any field
is set, the last time to all ports that it goes to. -/
theorem FlowEntry.actionsTranslated_iff (entry : FlowEntry) :
    entry.ActionsTranslated ↔ ∀ actions ∈ entry.applyActions,
      Expressible (mapMatches initFlowEntry entry.matchs).matchs.srcPort actions := by
  refine forall₂_congr fun actions hactions => ?_
  rw [← preserved_iff (isSrcPort_mapMatches entry.matchs), mapFlowEntry, Option.mem_def.mp hactions]
  cases actions with
  | nil =>
      exact iff_of_true nofun (preserved_of_expressible (isSrcPort_mapMatches entry.matchs)
        expressible_nil)
  | cons x actions =>
      simp only [mapActions, Option.mem_some_iff, forall_eq']
      rfl

/-- A packet that goes to two ports goes to the second one only. -/
theorem not_actionsTranslated_twoPorts :
    ¬FlowEntry.ActionsTranslated
      { matchs := []
        applyActions := some [{ type := .output, field32 := 1 },
          { type := .output, field32 := 2 }] } := by
  intro h
  have hpres := h _ rfl _ rfl
  have hone : (1 : BitVec 32) ∈ ⋃ o ∈ {o ∈ [({ type := .output, field32 := 1 } : Action),
      { type := .output, field32 := 2 }] | o.type = .output}, dests 0 o.field32 :=
    Set.mem_iUnion₂.mpr ⟨{ type := .output, field32 := 1 }, ⟨by simp, rfl⟩, rfl⟩
  obtain ⟨i, hi, hbit⟩ := hpres.ports_eq.symm.subset hone
  obtain rfl : i = 0 := by
    fin_cases i
    · rfl
    all_goals exact absurd hi (by decide)
  exact absurd hbit (by decide)

end Xdpd.Netfpga
