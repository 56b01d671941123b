import Mathlib.Data.List.Basic
import Xdpd.Lib.RoundTrip
import Xdpd.OpenFlow.Pipeline

/-!
# Translation of OpenFlow 1.3 actions

`of13_map_flow_entry_actions` turns the actions of a flow-mod into actions of the pipeline, and
`of13_map_reverse_flow_entry_action` turns an action of the pipeline back into one of OpenFlow, for
flow-stats replies.  Each is one switch over the types of actions, with one over the OXM fields
inside for set-field.  The cases of the extensions are compiled only with `EXPERIMENTAL`, which is
the parameter `experimental` here.
-/

namespace Xdpd.OpenFlow.Of13

open Xdpd.Lib

/-- The experimenters `PPPOE_EXP_ID`, `GTP_EXP_ID`, `CAPWAP_EXP_ID`, `WLAN_EXP_ID`, `GRE_EXP_ID`. -/
inductive ExpId
  | pppoe | gtp | capwap | wlan | gre
  deriving DecidableEq, Repr

/-- The types `*_ACTION_PUSH_*` and `*_ACTION_POP_*` of an experimenter action. -/
inductive ExpType
  | push | pop
  deriving DecidableEq, Repr

/-- The actions of OpenFlow 1.3, as `cofactions` holds them. -/
inductive CofAction
  | output (port_no : BitVec 32) (max_len : BitVec 16)
  | copyTtlOut
  | copyTtlIn
  | setMplsTtl (mpls_ttl : BitVec 8)
  | decMplsTtl
  | pushVlan (eth_type : BitVec 16)
  | popVlan
  | pushMpls (eth_type : BitVec 16)
  | popMpls (eth_type : BitVec 16)
  | pushPbb (eth_type : BitVec 16)
  | popPbb
  | setQueue (queue_id : BitVec 32)
  | group (group_id : BitVec 32)
  | setNwTtl (nw_ttl : BitVec 8)
  | decNwTtl
  | setField (oxm : Oxm)
  /-- a push or pop action of one of the extensions -/
  | experimenter (exp_id : ExpId) (exp_type : ExpType) (ether_type : BitVec 16)
  /-- an experimenter action with another identifier, or with another type in its body -/
  | otherExperimenter (exp_id : BitVec 32) (exp_body : List Byte)
  /-- an action of another type -/
  | other (type : BitVec 16)
  deriving DecidableEq

variable {A : Type*} (api : PacketActionApi A) (experimental : Bool)

/-! ## From OpenFlow to the pipeline -/

/-- The switch over the fields of `OFPXMC_OPENFLOW_BASIC` in a set-field action. -/
def mapSetFieldBasic :
    (oxm_field : OxmField) → BitVec oxm_field.width → Option (ActionType × WrapUint)
  | .ethDst, v => some (.setFieldEthDst, .ofU64 (v.setWidth 64))
  | .ethSrc, v => some (.setFieldEthSrc, .ofU64 (v.setWidth 64))
  | .ethType, v => some (.setFieldEthType, .ofU16 v)
  | .arpOp, v => some (.setFieldArpOpcode, .ofU16 v)
  | .arpSha, v => some (.setFieldArpSha, .ofU64 (v.setWidth 64))
  | .arpSpa, v => some (.setFieldArpSpa, .ofU32 v)
  | .arpTha, v => some (.setFieldArpTha, .ofU64 (v.setWidth 64))
  | .arpTpa, v => some (.setFieldArpTpa, .ofU32 v)
  | .icmpv4Code, v => some (.setFieldIcmpv4Code, .ofU8 v)
  | .icmpv4Type, v => some (.setFieldIcmpv4Type, .ofU8 v)
  | .ipv4Dst, v => some (.setFieldIpv4Dst, .ofU32 v)
  | .ipv4Src, v => some (.setFieldIpv4Src, .ofU32 v)
  | .ipDscp, v => some (.setFieldIpDscp, .ofU8 v)
  | .ipEcn, v => some (.setFieldIpEcn, .ofU8 v)
  | .ipProto, v => some (.setFieldIpProto, .ofU8 v)
  | .mplsLabel, v => some (.setFieldMplsLabel, .ofU32 v)
  | .mplsTc, v => some (.setFieldMplsTc, .ofU8 v)
  | .mplsBos, v => some (.setFieldMplsBos, .ofU8 v)
  | .vlanVid, v => some (.setFieldVlanVid, .ofU16 v)
  | .vlanPcp, v => some (.setFieldVlanPcp, .ofU8 v)
  | .tcpDst, v => some (.setFieldTcpDst, .ofU16 v)
  | .tcpSrc, v => some (.setFieldTcpSrc, .ofU16 v)
  | .udpDst, v => some (.setFieldUdpDst, .ofU16 v)
  | .udpSrc, v => some (.setFieldUdpSrc, .ofU16 v)
  | .sctpDst, v => some (.setFieldSctpDst, .ofU16 v)
  | .sctpSrc, v => some (.setFieldSctpSrc, .ofU16 v)
  | .ipv6Src, v => some (.setFieldIpv6Src, .ofU128 (ntohb128 (pack v)))
  | .ipv6Dst, v => some (.setFieldIpv6Dst, .ofU128 (ntohb128 (pack v)))
  | .ipv6Flabel, v => some (.setFieldIpv6Flabel, .ofU32 v)
  | .ipv6NdTarget, v => some (.setFieldIpv6NdTarget, .ofU128 (ntohb128 (pack v)))
  | .ipv6NdSll, v => some (.setFieldIpv6NdSll, .ofU64 (v.setWidth 64))
  | .ipv6NdTll, v => some (.setFieldIpv6NdTll, .ofU64 (v.setWidth 64))
  | .icmpv6Type, v => some (.setFieldIcmpv6Type, .ofU8 v)
  | .icmpv6Code, v => some (.setFieldIcmpv6Code, .ofU8 v)
  | .tunnelId, v => some (.setFieldTunnelId, .ofU64 v)
  | .pbbIsid, v => some (.setFieldPbbIsid, .ofU32 (v.setWidth 32))
  | .ipv6Exthdr, v => some (.setFieldIpv6Exthdr, .ofU16 v)
  -- unknown OXM type: an error is logged
  | _, _ => none

/-- The switch over the fields of `OFPXMC_EXPERIMENTER` in a set-field action. -/
def mapSetFieldExperimenter :
    (oxm_field : OxmField) → BitVec oxm_field.width → Option (ActionType × WrapUint)
  | .pppoeCode, v => some (.setFieldPppoeCode, .ofU8 v)
  | .pppoeType, v => some (.setFieldPppoeType, .ofU8 v)
  | .pppoeSid, v => some (.setFieldPppoeSid, .ofU16 v)
  | .pppProt, v => some (.setFieldPppProt, .ofU16 v)
  | .gtpMsgtype, v => some (.setFieldGtpMsgType, .ofU8 v)
  | .gtpTeid, v => some (.setFieldGtpTeid, .ofU32 v)
  | .capwapWbid, v => some (.setFieldCapwapWbid, .ofU8 v)
  | .capwapRid, v => some (.setFieldCapwapRid, .ofU8 v)
  | .capwapFlags, v => some (.setFieldCapwapFlags, .ofU16 v)
  | .wlanFc, v => some (.setFieldWlanFc, .ofU16 v)
  | .wlanType, v => some (.setFieldWlanType, .ofU8 v)
  | .wlanSubtype, v => some (.setFieldWlanSubtype, .ofU8 v)
  | .wlanDirection, v => some (.setFieldWlanDirection, .ofU8 v)
  | .wlanAddress1, v => some (.setFieldWlanAddress1, .ofU64 (v.setWidth 64))
  | .wlanAddress2, v => some (.setFieldWlanAddress2, .ofU64 (v.setWidth 64))
  | .wlanAddress3, v => some (.setFieldWlanAddress3, .ofU64 (v.setWidth 64))
  | .greVersion, v => some (.setFieldGreVersion, .ofU16 v)
  | .greProtType, v => some (.setFieldGreProtType, .ofU16 v)
  | .greKey, v => some (.setFieldGreKey, .ofU32 v)
  | _, _ => none

/-- The case `OFPAT_SET_FIELD`. -/
def mapSetField : Oxm → Option (ActionType × WrapUint)
  | .known oxm_field v =>
      if oxm_field.isExperimental then
        if experimental then mapSetFieldExperimenter oxm_field v else none
      else mapSetFieldBasic oxm_field v
  -- unknown OXM class, or unknown type of an experimenter
  | .other _ _ => none

/-- The case `OFPAT_EXPERIMENTER`. -/
def mapExperimenter : ExpId → ExpType → ActionType
  | .pppoe, .push => .pushPppoe
  | .pppoe, .pop => .popPppoe
  | .gtp, .push => .pushGtp
  | .gtp, .pop => .popGtp
  | .capwap, .push => .pushCapwap
  | .capwap, .pop => .popCapwap
  | .wlan, .push => .pushWlan
  | .wlan, .pop => .popWlan
  | .gre, .push => .pushGre
  | .gre, .pop => .popGre

/-- The body of the loop of `of13_map_flow_entry_actions`: the variable `action` after the switch.
It is `none`, that is `NULL`, when no case has assigned it. -/
def of13MapFlowEntryAction : CofAction → Option A
  | .output port_no max_len => some (api.initPacketAction .output (.ofU32 port_no) max_len)
  | .copyTtlOut => some (api.initPacketAction .copyTtlOut .zero 0)
  | .copyTtlIn => some (api.initPacketAction .copyTtlIn .zero 0)
  | .setMplsTtl mpls_ttl => some (api.initPacketAction .setMplsTtl (.ofU8 mpls_ttl) 0)
  | .decMplsTtl => some (api.initPacketAction .decMplsTtl .zero 0)
  | .pushVlan eth_type => some (api.initPacketAction .pushVlan (.ofU16 eth_type) 0)
  | .popVlan => some (api.initPacketAction .popVlan (.ofU16 0) 0)
  | .pushMpls eth_type => some (api.initPacketAction .pushMpls (.ofU16 eth_type) 0)
  | .popMpls eth_type => some (api.initPacketAction .popMpls (.ofU16 eth_type) 0)
  | .pushPbb eth_type => some (api.initPacketAction .pushPbb (.ofU16 eth_type) 0)
  | .popPbb => some (api.initPacketAction .popPbb (.ofU16 0) 0)
  | .setQueue queue_id => some (api.initPacketAction .setQueue (.ofU32 queue_id) 0)
  | .group group_id => some (api.initPacketAction .group (.ofU32 group_id) 0)
  | .setNwTtl nw_ttl => some (api.initPacketAction .setNwTtl (.ofU8 nw_ttl) 0)
  | .decNwTtl => some (api.initPacketAction .decNwTtl .zero 0)
  | .setField oxm =>
      (mapSetField experimental oxm).map fun p => api.initPacketAction p.1 p.2 0
  | .experimenter exp_id exp_type ether_type =>
      if experimental then
        some (api.initPacketAction (mapExperimenter exp_id exp_type) (.ofU16 ether_type) 0)
      else none
  | .otherExperimenter _ _ => none
  | .other _ => none

/-- `of13_map_flow_entry_actions`: what is pushed to the action group, `none` standing for `NULL`.
The function itself rejects nothing. -/
def of13MapFlowEntryActions (actions : List CofAction) : List (Option A) :=
  actions.map (of13MapFlowEntryAction api experimental)

/-! ## From the pipeline to OpenFlow -/

/-- The exceptions of `of13_map_reverse_flow_entry_action`. -/
inductive ReverseError
  | eBadActionBadType
  deriving DecidableEq, Repr

/-- The cases of the extensions in `of13_map_reverse_flow_entry_action`. -/
def mapReverseExtension (type : ActionType) (field : WrapUint) : Option CofAction :=
  match type with
  | .popGre => some (.experimenter .gre .pop field.u16)
  | .popWlan => some (.experimenter .wlan .pop field.u16)
  | .popPppoe => some (.experimenter .pppoe .pop field.u16)
  | .popGtp => some (.experimenter .gtp .pop field.u16)
  | .popCapwap => some (.experimenter .capwap .pop field.u16)
  | .pushCapwap => some (.experimenter .capwap .push field.u16)
  | .pushGtp => some (.experimenter .gtp .push field.u16)
  | .pushPppoe => some (.experimenter .pppoe .push field.u16)
  | .pushWlan => some (.experimenter .wlan .push field.u16)
  | .pushGre => some (.experimenter .gre .push field.u16)
  | .setFieldPppoeCode => some (.setField (.known .pppoeCode field.u8))
  | .setFieldPppoeType => some (.setField (.known .pppoeType field.u8))
  | .setFieldPppoeSid => some (.setField (.known .pppoeSid field.u16))
  | .setFieldPppProt => some (.setField (.known .pppProt field.u16))
  | .setFieldGtpMsgType => some (.setField (.known .gtpMsgtype field.u8))
  | .setFieldGtpTeid => some (.setField (.known .gtpTeid field.u32))
  | .setFieldCapwapWbid => some (.setField (.known .capwapWbid field.u8))
  | .setFieldCapwapRid => some (.setField (.known .capwapRid field.u8))
  | .setFieldCapwapFlags => some (.setField (.known .capwapFlags (field.u8.setWidth 16)))
  | .setFieldWlanFc => some (.setField (.known .wlanFc field.u16))
  | .setFieldWlanType => some (.setField (.known .wlanType field.u8))
  | .setFieldWlanSubtype => some (.setField (.known .wlanSubtype field.u8))
  | .setFieldWlanDirection => some (.setField (.known .wlanDirection field.u8))
  | .setFieldWlanAddress1 => some (.setField (.known .wlanAddress1 (field.u64.setWidth 48)))
  | .setFieldWlanAddress2 => some (.setField (.known .wlanAddress2 (field.u64.setWidth 48)))
  | .setFieldWlanAddress3 => some (.setField (.known .wlanAddress3 (field.u64.setWidth 48)))
  | .setFieldGreVersion => some (.setField (.known .greVersion field.u16))
  | .setFieldGreProtType => some (.setField (.known .greProtType field.u16))
  | .setFieldGreKey => some (.setField (.known .greKey field.u32))
  | _ => none

/-- `of13_map_reverse_flow_entry_action`: the action that is added, if any. -/
def of13MapReverseFlowEntryAction (action : A) : Except ReverseError (Option CofAction) :=
  let field := api.field action
  match api.type action with
  | .noAction => .ok none
  | .copyTtlIn => .ok (some .copyTtlIn)
  | .popVlan => .ok (some .popVlan)
  | .popMpls => .ok (some (.popMpls field.u16))
  | .popPbb => .ok (some .popPbb)
  | .pushPbb => .ok (some (.pushPbb field.u16))
  | .pushMpls => .ok (some (.pushMpls field.u16))
  | .pushVlan => .ok (some (.pushVlan field.u16))
  | .copyTtlOut => .ok (some .copyTtlOut)
  | .decNwTtl => .ok (some .decNwTtl)
  | .setNwTtl => .ok (some (.setNwTtl field.u8))
  | .decMplsTtl => .ok (some .decMplsTtl)
  | .setMplsTtl => .ok (some (.setMplsTtl field.u8))
  | .setQueue => .ok (some (.setQueue (field.u8.setWidth 32)))
  | .setFieldEthDst => .ok (some (.setField (.known .ethDst (field.u64.setWidth 48))))
  | .setFieldEthSrc => .ok (some (.setField (.known .ethSrc (field.u64.setWidth 48))))
  | .setFieldEthType => .ok (some (.setField (.known .ethType field.u16)))
  | .setFieldVlanVid => .ok (some (.setField (.known .vlanVid (field.u16 ||| ofpvidPresent))))
  | .setFieldVlanPcp => .ok (some (.setField (.known .vlanPcp field.u8)))
  | .setFieldArpOpcode => .ok (some (.setField (.known .arpOp field.u16)))
  | .setFieldArpSha => .ok (some (.setField (.known .arpSha (field.u64.setWidth 48))))
  | .setFieldArpSpa => .ok (some (.setField (.known .arpSpa field.u32)))
  | .setFieldArpTha => .ok (some (.setField (.known .arpTha (field.u64.setWidth 48))))
  | .setFieldArpTpa => .ok (some (.setField (.known .arpTpa field.u32)))
  | .setFieldIpDscp => .ok (some (.setField (.known .ipDscp field.u8)))
  | .setFieldIpEcn => .ok (some (.setField (.known .ipEcn field.u8)))
  | .setFieldIpProto => .ok (some (.setField (.known .ipProto field.u8)))
  | .setFieldIpv4Src => .ok (some (.setField (.known .ipv4Src field.u32)))
  | .setFieldIpv4Dst => .ok (some (.setField (.known .ipv4Dst field.u32)))
  | .setFieldTcpSrc => .ok (some (.setField (.known .tcpSrc field.u16)))
  | .setFieldTcpDst => .ok (some (.setField (.known .tcpDst field.u16)))
  | .setFieldUdpSrc => .ok (some (.setField (.known .udpSrc field.u16)))
  | .setFieldUdpDst => .ok (some (.setField (.known .udpDst field.u16)))
  | .setFieldSctpSrc => .ok (some (.setField (.known .sctpSrc field.u16)))
  | .setFieldSctpDst => .ok (some (.setField (.known .sctpDst field.u16)))
  | .setFieldIcmpv4Type => .ok (some (.setField (.known .icmpv4Type field.u8)))
  | .setFieldIcmpv4Code => .ok (some (.setField (.known .icmpv4Code field.u8)))
  | .setFieldIpv6Src => .ok (some (.setField (.known .ipv6Src (unpack (ntohb128 field.u128)))))
  | .setFieldIpv6Dst => .ok (some (.setField (.known .ipv6Dst (unpack (ntohb128 field.u128)))))
  | .setFieldIpv6Flabel => .ok (some (.setField (.known .ipv6Flabel field.u32)))
  | .setFieldIpv6NdTarget =>
      .ok (some (.setField (.known .ipv6NdTarget (unpack (ntohb128 field.u128)))))
  | .setFieldIpv6NdSll => .ok (some (.setField (.known .ipv6NdSll (field.u64.setWidth 48))))
  | .setFieldIpv6NdTll => .ok (some (.setField (.known .ipv6NdTll (field.u64.setWidth 48))))
  | .setFieldIcmpv6Type => .ok (some (.setField (.known .icmpv6Type field.u8)))
  | .setFieldIcmpv6Code => .ok (some (.setField (.known .icmpv6Code field.u8)))
  | .setFieldMplsLabel => .ok (some (.setField (.known .mplsLabel field.u32)))
  | .setFieldMplsTc => .ok (some (.setField (.known .mplsTc field.u8)))
  | .setFieldMplsBos => .ok (some (.setField (.known .mplsBos field.u8)))
  | .setFieldTunnelId => .ok (some (.setField (.known .tunnelId field.u64)))
  | .setFieldPbbIsid => .ok (some (.setField (.known .pbbIsid (field.u32.setWidth 24))))
  | .setFieldIpv6Exthdr => .error .eBadActionBadType
  | .group => .ok (some (.group field.u32))
  | .experimenter => .ok none
  | .output => .ok (some (.output field.u32 (api.sendLen action)))
  | type => .ok (if experimental then mapReverseExtension type field else none)

/-- The loop of `of13_map_reverse_flow_entry_instruction_apply_actions` over the actions of a
group. -/
def of13MapReverseFlowEntryActions : List A → Except ReverseError (List CofAction)
  | [] => .ok []
  | action :: actions =>
      if api.type action = .noAction then
        of13MapReverseFlowEntryActions actions
      else do
        let added ← of13MapReverseFlowEntryAction api experimental action
        let rest ← of13MapReverseFlowEntryActions actions
        return added.toList ++ rest

/-! ## What survives the two translations -/

/-- The field, with this value, can be set and is read back as it was set. -/
def ReadableField : (oxm_field : OxmField) → BitVec oxm_field.width → Prop
  -- not translated to the pipeline
  | .inPort, _ | .inPhyPort, _ | .metadata, _ => False
  -- refused on the way back
  | .ipv6Exthdr, _ => False
  -- the bit `OFPVID_PRESENT` is added on the way back
  | .vlanVid, (v : BitVec 16) => v ||| ofpvidPresent = v
  -- only the low byte is read back
  | .capwapFlags, (v : BitVec 16) => experimental = true ∧ v.toNat < 256
  | oxm_field, _ => oxm_field.isExperimental = true → experimental = true

/-- The action is translated to the pipeline and read back as it was. -/
def CofAction.Readable : CofAction → Prop
  -- only the low byte is read back
  | .setQueue queue_id => queue_id.toNat < 256
  | .setField (.known oxm_field v) => ReadableField experimental oxm_field v
  | .setField (.other _ _) => False
  | .experimenter _ _ _ => experimental = true
  | .otherExperimenter _ _ => False
  | .other _ => False
  | _ => True

/-- The list of actions survives the two translations: every action becomes an action of the
pipeline, none of them `NULL`, and these are read back as the same list. -/
def Faithful (actions : List CofAction) : Prop :=
  ∃ packet_actions : List A,
    of13MapFlowEntryActions api experimental actions = packet_actions.map some ∧
    of13MapReverseFlowEntryActions api experimental packet_actions = .ok actions

/-! ## One action there and back -/

section Action

variable {api experimental}

lemma Oxm.known_inj (f : OxmField) (v v' : BitVec f.width) :
    Oxm.known f v = Oxm.known f v' ↔ v = v' := by simp

/-- A word survives being widened. -/
@[simp] lemma setWidth_setWidth_self {n m : ℕ} (h : n ≤ m) (v : BitVec n) :
    (v.setWidth m).setWidth n = v := by
  rw [BitVec.setWidth_setWidth_of_le _ h, BitVec.setWidth_eq]

/-- A word survives being cut to its low byte exactly when it fits in a byte. -/
lemma setWidth_setWidth_eight_eq_iff {n : ℕ} (v : BitVec n) :
    (v.setWidth 8).setWidth n = v ↔ v.toNat < 256 := by
  rw [← BitVec.toNat_inj, BitVec.toNat_setWidth, BitVec.toNat_setWidth]
  constructor
  · intro h
    have hlow : v.toNat % 2 ^ 8 < 2 ^ 8 := Nat.mod_lt _ (by decide)
    have hle : v.toNat % 2 ^ 8 % 2 ^ n ≤ v.toNat % 2 ^ 8 := Nat.mod_le _ _
    omega
  · intro h
    rw [Nat.mod_eq_of_lt h, Nat.mod_eq_of_lt v.isLt]

/-- Reading back gives `r`: a refusal, or one action, which is `action` exactly when `p` holds. -/
def ReadsBack (r : Except ReverseError (Option CofAction)) (action : CofAction) (p : Prop) : Prop :=
  (r = .error .eBadActionBadType ∧ ¬ p) ∨ ∃ b, r = .ok (some b) ∧ (b = action ↔ p)

/-- A set-field action on one of the basic fields becomes no action, or one that is read back as it
was exactly when the field is readable. -/
lemma readsBack_mapSetFieldBasic (hapi : api.StoresAsGiven) (experimental : Bool) (f : OxmField)
    (hf : f.isExperimental = false) (v : BitVec f.width) :
    (mapSetFieldBasic f v = none ∧ ¬ ReadableField experimental f v) ∨
      ∃ t w, mapSetFieldBasic f v = some (t, w) ∧ t ≠ .noAction ∧
        ReadsBack (of13MapReverseFlowEntryAction api experimental (api.initPacketAction t w 0))
          (.setField (.known f v)) (ReadableField experimental f v) := by
  cases f with
  | inPort => exact .inl ⟨rfl, id⟩
  | inPhyPort => exact .inl ⟨rfl, id⟩
  | metadata => exact .inl ⟨rfl, id⟩
  | ipv6Exthdr =>
      refine .inr ⟨_, _, rfl, by decide, .inl ⟨?_, id⟩⟩
      simp [of13MapReverseFlowEntryAction, hapi.type_init]
  | vlanVid =>
      revert v
      dsimp only [OxmField.width]
      intro v
      refine .inr ⟨_, _, rfl, by decide,
        .inr ⟨.setField (.known .vlanVid (v ||| ofpvidPresent)), ?_, ?_⟩⟩
      · simp [of13MapReverseFlowEntryAction, hapi.type_init, hapi.field_init]
      · rw [CofAction.setField.injEq]
        exact Oxm.known_inj .vlanVid _ _
  | _ =>
      -- an extension, or a field that is read from the member it was written to
      first
      | exact absurd hf (by decide)
      | refine .inr ⟨_, _, rfl, by decide, .inr ⟨.setField (.known _ v), ?_,
          iff_of_true rfl fun h => absurd h (by decide)⟩⟩
        revert v
        dsimp only [OxmField.width]
        intro v
        simp [of13MapReverseFlowEntryAction, hapi.type_init, hapi.field_init]

/-- With the extensions compiled in, a set-field action on one of their fields is read back as it
was exactly when the field is readable. -/
lemma readsBack_mapSetFieldExperimenter (hapi : api.StoresAsGiven) (f : OxmField)
    (hf : f.isExperimental = true) (v : BitVec f.width) :
    ∃ t w, mapSetFieldExperimenter f v = some (t, w) ∧ t ≠ .noAction ∧
      ReadsBack (of13MapReverseFlowEntryAction api true (api.initPacketAction t w 0))
        (.setField (.known f v)) (ReadableField true f v) := by
  cases f with
  | capwapFlags =>
      revert v
      dsimp only [OxmField.width]
      intro v
      refine ⟨_, _, rfl, by decide,
        .inr ⟨.setField (.known .capwapFlags ((v.setWidth 8).setWidth 16)), ?_, ?_⟩⟩
      · simp [of13MapReverseFlowEntryAction, mapReverseExtension, hapi.type_init, hapi.field_init]
      · rw [CofAction.setField.injEq]
        exact (Oxm.known_inj .capwapFlags _ _).trans
          ((setWidth_setWidth_eight_eq_iff v).trans (and_iff_right rfl).symm)
  | _ =>
      first
      | exact absurd hf (by decide)
      | refine ⟨_, _, rfl, by decide, .inr ⟨.setField (.known _ v), ?_,
          iff_of_true rfl fun _ => rfl⟩⟩
        revert v
        dsimp only [OxmField.width]
        intro v
        simp [of13MapReverseFlowEntryAction, mapReverseExtension, hapi.type_init, hapi.field_init]

/-- An action becomes no action of the pipeline, or one that is read back as it was exactly when
it is readable. -/
lemma readsBack_of13MapFlowEntryAction (hapi : api.StoresAsGiven) (experimental : Bool)
    (action : CofAction) :
    (of13MapFlowEntryAction api experimental action = none ∧ ¬ action.Readable experimental) ∨
      ∃ a, of13MapFlowEntryAction api experimental action = some a ∧
        api.type a ≠ .noAction ∧
        ReadsBack (of13MapReverseFlowEntryAction api experimental a) action
          (action.Readable experimental) := by
  cases action with
  | setQueue queue_id =>
      refine .inr ⟨_, rfl, by simp [hapi.type_init],
        .inr ⟨.setQueue ((queue_id.setWidth 8).setWidth 32), ?_, ?_⟩⟩
      · simp [of13MapReverseFlowEntryAction, hapi.type_init, hapi.field_init]
      · simp [CofAction.Readable, ← setWidth_setWidth_eight_eq_iff]
  | setField oxm =>
      cases oxm with
      | other oxm_class oxm_field => exact .inl ⟨rfl, id⟩
      | known f v =>
          by_cases hf : f.isExperimental = true
          · cases experimental with
            | false =>
                refine .inl ⟨by simp [of13MapFlowEntryAction, mapSetField, hf], fun h => ?_⟩
                cases f <;>
                  first
                  | exact Bool.false_ne_true (h hf)
                  | exact Bool.false_ne_true h.1
                  | exact absurd hf (by decide)
            | true =>
                obtain ⟨t, w, hmap, ht, hback⟩ := readsBack_mapSetFieldExperimenter hapi f hf v
                refine .inr ⟨_, ?_, ?_, hback⟩
                · simp [of13MapFlowEntryAction, mapSetField, hf, hmap]
                · rwa [hapi.type_init]
          · have hf' : f.isExperimental = false := by simpa using hf
            rcases readsBack_mapSetFieldBasic hapi experimental f hf' v with
              ⟨hmap, hnot⟩ | ⟨t, w, hmap, ht, hback⟩
            · exact .inl ⟨by simp [of13MapFlowEntryAction, mapSetField, hf, hmap], hnot⟩
            · refine .inr ⟨_, ?_, ?_, hback⟩
              · simp [of13MapFlowEntryAction, mapSetField, hf, hmap]
              · rwa [hapi.type_init]
  | experimenter exp_id exp_type ether_type =>
      cases experimental with
      | false => exact .inl ⟨rfl, Bool.false_ne_true⟩
      | true =>
          refine .inr ⟨_, rfl, ?_, .inr ⟨.experimenter exp_id exp_type ether_type, ?_,
            iff_of_true rfl rfl⟩⟩
          · cases exp_id <;> cases exp_type <;> simp [hapi.type_init, mapExperimenter]
          · cases exp_id <;> cases exp_type <;>
              simp [of13MapReverseFlowEntryAction, mapReverseExtension, mapExperimenter,
                hapi.type_init, hapi.field_init]
  | otherExperimenter exp_id exp_body => exact .inl ⟨rfl, id⟩
  | other type => exact .inl ⟨rfl, id⟩
  | _ =>
      refine .inr ⟨_, rfl, by simp [hapi.type_init], .inr ⟨_, ?_, iff_of_true rfl trivial⟩⟩
      simp [of13MapReverseFlowEntryAction, hapi.type_init, hapi.field_init, hapi.sendLen_init]

end Action

/-! ## Lists of actions -/

/-- What the loop adds for an action of the group. -/
def readAction (action : A) : Except ReverseError (List CofAction) :=
  if api.type action = .noAction then .ok []
  else (of13MapReverseFlowEntryAction api experimental action).map Option.toList

lemma of13MapReverseFlowEntryActions_eq (actions : List A) :
    of13MapReverseFlowEntryActions api experimental actions =
      readAll (readAction api experimental) actions := by
  induction actions with
  | nil => rfl
  | cons action actions ih =>
      rw [of13MapReverseFlowEntryActions, ih]
      by_cases htype : api.type action = .noAction
      · have hread : readAction api experimental action = .ok [] := if_pos htype
        rw [if_pos htype, readAll_cons_ok hread]
        cases readAll (readAction api experimental) actions <;> rfl
      · rw [if_neg htype, readAll, readAction, if_neg htype]
        cases of13MapReverseFlowEntryAction api experimental action <;> rfl

lemma survives_of13MapFlowEntryAction {api : PacketActionApi A} (hapi : api.StoresAsGiven)
    (experimental : Bool) (action : CofAction) :
    Survives (of13MapFlowEntryAction api experimental) (readAction api experimental) action
      (action.Readable experimental) := by
  rcases readsBack_of13MapFlowEntryAction hapi experimental action with
    ⟨hnone, hnot⟩ | ⟨a, ha, htype, ⟨herror, hnot⟩ | ⟨b, hb, hiff⟩⟩
  · exact .inl ⟨hnone, hnot⟩
  · refine .inr ⟨a, ha, .inl ⟨⟨.eBadActionBadType, ?_⟩, hnot⟩⟩
    rw [readAction, if_neg htype, herror]
    rfl
  · refine .inr ⟨a, ha, .inr ⟨b, ?_, hiff⟩⟩
    rw [readAction, if_neg htype, hb]
    rfl

/-- **Which lists of actions are translated faithfully.**  A list of OpenFlow 1.3 actions becomes
actions of the pipeline, none of them `NULL`, that are read back as the same list, exactly when
every action of it is readable. -/
theorem of13Actions_faithful_iff {api : PacketActionApi A} (hapi : api.StoresAsGiven)
    (experimental : Bool) (actions : List CofAction) :
    Faithful api experimental actions ↔ ∀ action ∈ actions, action.Readable experimental := by
  rw [Faithful]
  simp only [of13MapReverseFlowEntryActions_eq]
  exact translatesBack_iff (survives_of13MapFlowEntryAction hapi experimental) actions

/-- A list that is translated faithfully, whatever the build. -/
theorem of13Actions_faithful_setQueue :
    Faithful PacketActionApi.record false [.decNwTtl, .setQueue 7, .output 3 0xffff] :=
  (of13Actions_faithful_iff PacketActionApi.record_storesAsGiven false _).mpr (by
    simp [CofAction.Readable])

/-- Queue 256 is written as a word of 32 bits and read back as queue 0, from the low byte. -/
theorem of13Actions_not_faithful_setQueue :
    ¬ ∀ (api : PacketActionApi (ActionType × WrapUint × BitVec 16)), api.StoresAsGiven →
      ∀ (experimental : Bool) (actions : List CofAction), Faithful api experimental actions := by
  intro hall
  obtain ⟨packet_actions, hmap, hreverse⟩ :=
    hall PacketActionApi.record PacketActionApi.record_storesAsGiven false [.setQueue 256]
  obtain rfl : packet_actions = [(.setQueue, .ofU32 256, 0)] :=
    List.map_injective_iff.mpr (Option.some_injective _) hmap.symm
  have hread : of13MapReverseFlowEntryActions PacketActionApi.record false
      [(.setQueue, .ofU32 256, 0)] = .ok [.setQueue 0] := rfl
  rw [hread] at hreverse
  exact absurd hreverse (by decide)

end Xdpd.OpenFlow.Of13
