import Mathlib.Data.List.Basic
import Xdpd.OpenFlow.Pipeline

/-!
# Translation of OpenFlow 1.0 matches and actions

`of10_map_flow_entry_matches` and `of1x_map_flow_entry_actions` turn the match and the actions of an
OpenFlow 1.0 flow-mod into matches and actions of the pipeline.  For flow-stats replies,
`of1x_map_reverse_flow_entry_matches` and `of1x_map_reverse_flow_entry_actions` turn them back.

An enqueue action becomes two actions of the pipeline, which the way back puts together again:
`of10ReverseActions_chunk`.  Of the network addresses only those other than 0.0.0.0 are translated,
so that a match on a prefix of zeros is lost: `of10Matches_back`.
-/

namespace Xdpd.OpenFlow.Of10

open Xdpd.Lib

/-! ## Messages -/

/-- `cofmatch` of version 1.0: the fields that are not wildcarded.  The network addresses come with
a mask, which is the one of their prefix. -/
@[ext] structure CofMatch where
  inPort : Option (BitVec 16)
  dlSrc : Option (BitVec 48)
  dlDst : Option (BitVec 48)
  dlType : Option (BitVec 16)
  dlVlan : Option (BitVec 16)
  dlVlanPcp : Option (BitVec 8)
  nwTos : Option (BitVec 8)
  nwProto : Option (BitVec 8)
  nwSrc : Option (BitVec 32 × BitVec 32)
  nwDst : Option (BitVec 32 × BitVec 32)
  tpSrc : Option (BitVec 16)
  tpDst : Option (BitVec 16)
  deriving DecidableEq

/-- The match with all fields wildcarded. -/
def CofMatch.empty : CofMatch where
  inPort := none
  dlSrc := none
  dlDst := none
  dlType := none
  dlVlan := none
  dlVlanPcp := none
  nwTos := none
  nwProto := none
  nwSrc := none
  nwDst := none
  tpSrc := none
  tpDst := none

/-- `OFP_VLAN_NONE`. -/
def ofpVlanNone : BitVec 16 := 0xffff

/-- The actions of OpenFlow 1.0, and the one of a later version that the way back may add. -/
inductive CofAction
  | output (port_no : BitVec 16) (max_len : BitVec 16)
  | setVlanVid (vlan_vid : BitVec 16)
  | setVlanPcp (vlan_pcp : BitVec 8)
  | stripVlan
  | setDlSrc (dl_src : BitVec 48)
  | setDlDst (dl_dst : BitVec 48)
  | setNwSrc (nw_src : BitVec 32)
  | setNwDst (nw_dst : BitVec 32)
  | setNwTos (nw_tos : BitVec 8)
  | setTpSrc (tp_src : BitVec 16)
  | setTpDst (tp_dst : BitVec 16)
  | enqueue (port_no : BitVec 16) (queue_id : BitVec 32)
  | vendor (vendor : BitVec 32) (body : List Byte)
  | pushVlan (eth_type : BitVec 16)
  /-- an action of another type -/
  | other (type : BitVec 16)
  deriving DecidableEq

/-! ## The pipeline -/

/-- The reserved ports. -/
inductive ReservedPort
  | max | inPort | table | normal | flood | all | controller | local' | any
  deriving DecidableEq, Repr

/-- What the translation uses of the pipeline library apart from matches and actions. -/
structure PipelineConsts where
  /-- `OF1X_PORT_*` -/
  port : ReservedPort → BitVec 32
  /-- `OF1X_IP_DSCP_VALUE` -/
  ipDscpValue : BitVec 8 → BitVec 8
  /-- `OF1X_IP_DSCP_ALIGN` -/
  ipDscpAlign : BitVec 8 → BitVec 8
  /-- `NTOHB16(OF1X_VLAN_ID_MASK)` -/
  vlanIdMask : BitVec 16

/-- The numbers of the reserved ports are different and do not fit in 16 bits, and the DSCP is the
upper six bits of the type of service. -/
structure PipelineConsts.Documented (consts : PipelineConsts) : Prop where
  port_injective : Function.Injective consts.port
  port_large : ∀ p, 2 ^ 16 ≤ (consts.port p).toNat
  align_value : ∀ tos, consts.ipDscpAlign (consts.ipDscpValue tos) = tos &&& 0xfc

/-- The numbers of OpenFlow 1.1 and later. -/
def PipelineConsts.of1x : PipelineConsts where
  port
    | .max => 0xffffff00
    | .inPort => 0xfffffff8
    | .table => 0xfffffff9
    | .normal => 0xfffffffa
    | .flood => 0xfffffffb
    | .all => 0xfffffffc
    | .controller => 0xfffffffd
    | .local' => 0xfffffffe
    | .any => 0xffffffff
  ipDscpValue tos := (tos &&& 0xfc) >>> 2
  ipDscpAlign dscp := dscp <<< 2
  vlanIdMask := 0x0fff

lemma PipelineConsts.of1x_documented : PipelineConsts.of1x.Documented where
  port_injective := by
    intro p p' h
    cases p <;> cases p' <;> first | rfl | exact absurd h (by decide)
  port_large := by
    intro p
    cases p <;> decide
  align_value := by decide

variable {A M : Type*} (consts : PipelineConsts) (api : PacketActionApi A) (mapi : MatchApi M)

/-- `get_out_port`. -/
def getOutPort (port : BitVec 16) : BitVec 64 :=
  if port = 0xff00 then (consts.port .max).setWidth 64
  else if port = 0xfff8 then (consts.port .inPort).setWidth 64
  else if port = 0xfff9 then (consts.port .table).setWidth 64
  else if port = 0xfffa then (consts.port .normal).setWidth 64
  else if port = 0xfffb then (consts.port .flood).setWidth 64
  else if port = 0xfffc then (consts.port .all).setWidth 64
  else if port = 0xfffd then (consts.port .controller).setWidth 64
  else if port = 0xfffe then (consts.port .local').setWidth 64
  else if port = 0xffff then (consts.port .any).setWidth 64
  else port.setWidth 64

/-- `get_out_port_reverse`, applied to a word of 32 bits; its result is stored in 16 bits. -/
def getOutPortReverse (port : BitVec 32) : BitVec 16 :=
  if port = consts.port .max then 0xff00
  else if port = consts.port .inPort then 0xfff8
  else if port = consts.port .table then 0xfff9
  else if port = consts.port .normal then 0xfffa
  else if port = consts.port .flood then 0xfffb
  else if port = consts.port .all then 0xfffc
  else if port = consts.port .controller then 0xfffd
  else if port = consts.port .local' then 0xfffe
  else if port = consts.port .any then 0xffff
  else port.setWidth 16

/-- The ports survive their translation. -/
lemma getOutPortReverse_getOutPort {consts : PipelineConsts} (hconsts : consts.Documented)
    (port : BitVec 16) :
    getOutPortReverse consts ((getOutPort consts port).setWidth 32) = port := by
  have hne : ∀ p, ¬ (port.setWidth 64).setWidth 32 = consts.port p := by
    intro p h
    have hlarge := hconsts.port_large p
    rw [← h, BitVec.toNat_setWidth, BitVec.toNat_setWidth] at hlarge
    have := port.isLt
    omega
  have hsame : ∀ p, ((consts.port p).setWidth 64).setWidth 32 = consts.port p := by
    intro p
    rw [BitVec.setWidth_setWidth_of_le _ (by decide), BitVec.setWidth_eq]
  rw [getOutPort]
  split_ifs with h₁ h₂ h₃ h₄ h₅ h₆ h₇ h₈ h₉
  case neg =>
    simp only [getOutPortReverse, hne, if_false]
    rw [BitVec.setWidth_setWidth_of_le _ (by decide), BitVec.setWidth_setWidth_of_le _ (by decide),
      BitVec.setWidth_eq]
  all_goals
    subst port
    rw [hsame, getOutPortReverse]
    simp [hconsts.port_injective.eq_iff]

/-! ## From OpenFlow to the pipeline -/

/-- A match on a network address, unless the address is 0.0.0.0. -/
def mapNwAddr (type : MatchType) (addr : Option (BitVec 32 × BitVec 32)) : List M :=
  match addr with
  | some (value, mask) =>
      if value ≠ 0 then [mapi.initMaskedMatch type (.ofU32 value) (.ofU32 mask)] else []
  | none => []

/-- `of10_map_flow_entry_matches`: the matches that are added to the entry. -/
def of10MapFlowEntryMatches (ofmatch : CofMatch) : List M :=
  let macMask : BitVec 64 := 0xffffffffffff
  (ofmatch.inPort.map fun v => mapi.initMatch .inPort (.ofU32 (v.setWidth 32))).toList ++
  (ofmatch.dlSrc.map fun v =>
    mapi.initMaskedMatch .ethSrc (.ofU64 (v.setWidth 64)) (.ofU64 macMask)).toList ++
  (ofmatch.dlDst.map fun v =>
    mapi.initMaskedMatch .ethDst (.ofU64 (v.setWidth 64)) (.ofU64 macMask)).toList ++
  (ofmatch.dlType.map fun v => mapi.initMatch .ethType (.ofU16 v)).toList ++
  (ofmatch.dlVlan.map fun v =>
    mapi.initVlanVidMatch (v &&& ~~~ofpvidPresent) consts.vlanIdMask
      (if v = ofpVlanNone then .none else .specific)).toList ++
  (ofmatch.dlVlanPcp.map fun v => mapi.initMatch .vlanPcp (.ofU8 v)).toList ++
  (ofmatch.nwTos.map fun v => mapi.initMatch .ipDscp (.ofU8 (consts.ipDscpValue v))).toList ++
  (ofmatch.nwProto.map fun v => mapi.initMatch .nwProto (.ofU8 v)).toList ++
  mapNwAddr mapi .nwSrc ofmatch.nwSrc ++
  mapNwAddr mapi .nwDst ofmatch.nwDst ++
  (ofmatch.tpSrc.map fun v => mapi.initMatch .tpSrc (.ofU16 v)).toList ++
  (ofmatch.tpDst.map fun v => mapi.initMatch .tpDst (.ofU16 v)).toList

/-- The body of the loop of `of1x_map_flow_entry_actions`: what is pushed to the action group,
`none` standing for `NULL`. -/
def of1xMapFlowEntryAction : CofAction → List (Option A)
  | .output port_no max_len =>
      [some (api.initPacketAction .output (.ofU32 ((getOutPort consts port_no).setWidth 32))
        max_len)]
  | .setVlanVid vlan_vid => [some (api.initPacketAction .setFieldVlanVid (.ofU16 vlan_vid) 0)]
  | .setVlanPcp vlan_pcp => [some (api.initPacketAction .setFieldVlanPcp (.ofU8 vlan_pcp) 0)]
  | .stripVlan => [some (api.initPacketAction .popVlan .zero 0)]
  | .setDlSrc dl_src =>
      [some (api.initPacketAction .setFieldEthSrc (.ofU64 (dl_src.setWidth 64)) 0)]
  | .setDlDst dl_dst =>
      [some (api.initPacketAction .setFieldEthDst (.ofU64 (dl_dst.setWidth 64)) 0)]
  | .setNwSrc nw_src => [some (api.initPacketAction .setFieldNwSrc (.ofU32 nw_src) 0)]
  | .setNwDst nw_dst => [some (api.initPacketAction .setFieldNwDst (.ofU32 nw_dst) 0)]
  | .setNwTos nw_tos =>
      [some (api.initPacketAction .setFieldIpDscp (.ofU8 (consts.ipDscpValue nw_tos)) 0)]
  | .setTpSrc tp_src => [some (api.initPacketAction .setFieldTpSrc (.ofU16 tp_src) 0)]
  | .setTpDst tp_dst => [some (api.initPacketAction .setFieldTpDst (.ofU16 tp_dst) 0)]
  | .enqueue port_no queue_id =>
      [some (api.initPacketAction .setQueue (.ofU32 queue_id) 0),
        some (api.initPacketAction .output (.ofU64 (getOutPort consts port_no)) 0)]
  -- no case of the switch assigns `action`
  | .vendor _ _ | .pushVlan _ | .other _ => [none]

/-- `of1x_map_flow_entry_actions`. -/
def of1xMapFlowEntryActions (actions : List CofAction) : List (Option A) :=
  actions.flatMap (of1xMapFlowEntryAction consts api)

/-! ## From the pipeline to OpenFlow -/

/-- The body of the loop of `of1x_map_reverse_flow_entry_matches`.  A match on an Ethernet address
is sent without the mask. -/
def reverseMatch (ofmatch : CofMatch) (m : M) : CofMatch :=
  let value := mapi.value m
  let mask := mapi.mask m
  match mapi.type m with
  | .inPort => { ofmatch with inPort := some (value.u32.setWidth 16) }
  | .ethDst => { ofmatch with dlDst := some (value.u64.setWidth 48) }
  | .ethSrc => { ofmatch with dlSrc := some (value.u64.setWidth 48) }
  | .ethType => { ofmatch with dlType := some value.u16 }
  | .vlanVid =>
      if mapi.vlanPresent m = .none then
        { ofmatch with dlVlan := some ofpVlanNone, dlVlanPcp := some 0 }
      else { ofmatch with dlVlan := some value.u16 }
  | .vlanPcp => { ofmatch with dlVlanPcp := some value.u8 }
  | .arpOp => { ofmatch with nwProto := some (value.u16.setWidth 8) }
  | .arpSpa => { ofmatch with nwSrc := some (value.u32, mask.u32) }
  | .arpTpa => { ofmatch with nwDst := some (value.u32, mask.u32) }
  | .ipDscp => { ofmatch with nwTos := some (consts.ipDscpAlign value.u8) }
  | .nwProto => { ofmatch with nwProto := some value.u8 }
  | .nwSrc => { ofmatch with nwSrc := some (value.u32, mask.u32) }
  | .nwDst => { ofmatch with nwDst := some (value.u32, mask.u32) }
  | .tpSrc => { ofmatch with tpSrc := some value.u16 }
  | .tpDst => { ofmatch with tpDst := some value.u16 }
  | _ => ofmatch

/-- `of1x_map_reverse_flow_entry_matches`. -/
def of1xMapReverseFlowEntryMatches (matchList : List M) : CofMatch :=
  matchList.foldl (reverseMatch consts mapi) .empty

/-- `of1x_map_reverse_flow_entry_action`: the action that is added, if any.  The action after it is
read for the port of an enqueue action. -/
def of1xMapReverseFlowEntryAction (action : A) (next : Option A) : Option CofAction :=
  let field := api.field action
  match api.type action with
  | .popVlan => some .stripVlan
  | .pushVlan => some (.pushVlan field.u16)
  | .setFieldEthDst => some (.setDlDst (field.u64.setWidth 48))
  | .setFieldEthSrc => some (.setDlSrc (field.u64.setWidth 48))
  | .setFieldVlanVid => some (.setVlanVid field.u16)
  | .setFieldVlanPcp => some (.setVlanPcp field.u8)
  | .setFieldIpDscp => some (.setNwTos (consts.ipDscpAlign field.u8))
  | .setFieldNwSrc => some (.setNwSrc field.u32)
  | .setFieldNwDst => some (.setNwDst field.u32)
  | .setFieldTpSrc => some (.setTpSrc field.u16)
  | .setFieldTpDst => some (.setTpDst field.u16)
  | .setQueue =>
      next.map fun next =>
        .enqueue (getOutPortReverse consts (api.field next).u32) field.u32
  | .output => some (.output (getOutPortReverse consts field.u32) (api.sendLen action))
  | _ => none

/-- The loop of `of1x_map_reverse_flow_entry_actions` over the actions of the group; `none` when it
follows the pointer of an action that is missing. -/
def of1xMapReverseFlowEntryActions : List A → Option (List CofAction)
  | [] => some []
  | action :: rest =>
      if api.type action = .noAction then of1xMapReverseFlowEntryActions rest
      else
        let added := (of1xMapReverseFlowEntryAction consts api action rest.head?).toList
        if api.type action = .setQueue then
          match rest with
          -- the loop goes on from the missing action
          | [] => none
          | [_] => some added
          -- the output is skipped
          | _ :: rest => (of1xMapReverseFlowEntryActions rest).map (added ++ ·)
        else (of1xMapReverseFlowEntryActions rest).map (added ++ ·)

/-! ## When two matches are equivalent -/

/-- What a match looks at: the port a packet came in on and its headers, with the VLAN identifier
and the priority of the tag, if it has one. -/
structure Headers where
  inPort : BitVec 16
  dlSrc : BitVec 48
  dlDst : BitVec 48
  dlType : BitVec 16
  vlan : Option (BitVec 12 × BitVec 3)
  nwTos : BitVec 8
  nwProto : BitVec 8
  nwSrc : BitVec 32
  nwDst : BitVec 32
  tpSrc : BitVec 16
  tpDst : BitVec 16

/-- The constraint on a network address: the bits of the mask are as in the value. -/
def AddrAccepts (addr : Option (BitVec 32 × BitVec 32)) (a : BitVec 32) : Prop :=
  ∀ value mask, addr = some (value, mask) → a &&& mask = value &&& mask

/-- The packet meets the constraints of the match.  A packet without tag has no priority to look at,
and the two low bits of the type of service are not looked at. -/
structure CofMatch.Accepts (m : CofMatch) (h : Headers) : Prop where
  inPort : ∀ v, m.inPort = some v → h.inPort = v
  dlSrc : ∀ v, m.dlSrc = some v → h.dlSrc = v
  dlDst : ∀ v, m.dlDst = some v → h.dlDst = v
  dlType : ∀ v, m.dlType = some v → h.dlType = v
  dlVlan : ∀ v, m.dlVlan = some v →
    if v = ofpVlanNone then h.vlan = none
    else ∃ tag, h.vlan = some tag ∧ tag.1.setWidth 16 = v
  dlVlanPcp : m.dlVlan ≠ some ofpVlanNone → ∀ v, m.dlVlanPcp = some v →
    ∃ tag, h.vlan = some tag ∧ tag.2.setWidth 8 = v
  nwTos : ∀ v, m.nwTos.map (· &&& 0xfc) = some v → h.nwTos &&& 0xfc = v
  nwProto : ∀ v, m.nwProto = some v → h.nwProto = v
  nwSrc : AddrAccepts m.nwSrc h.nwSrc
  nwDst : AddrAccepts m.nwDst h.nwDst
  tpSrc : ∀ v, m.tpSrc = some v → h.tpSrc = v
  tpDst : ∀ v, m.tpDst = some v → h.tpDst = v

/-- The bits of a network address that are looked at, and their values. -/
def addrBits : Option (BitVec 32 × BitVec 32) → BitVec 32 × BitVec 32
  | some (value, mask) => (value &&& mask, mask)
  | none => (0, 0)

/-- The matches have the same constraint on each field. -/
structure CofMatch.Equivalent (m m' : CofMatch) : Prop where
  inPort : m.inPort = m'.inPort
  dlSrc : m.dlSrc = m'.dlSrc
  dlDst : m.dlDst = m'.dlDst
  dlType : m.dlType = m'.dlType
  dlVlan : m.dlVlan = m'.dlVlan
  dlVlanPcp : m.dlVlan ≠ some ofpVlanNone → m.dlVlanPcp = m'.dlVlanPcp
  nwTos : m.nwTos.map (· &&& 0xfc) = m'.nwTos.map (· &&& 0xfc)
  nwProto : m.nwProto = m'.nwProto
  nwSrc : addrBits m.nwSrc = addrBits m'.nwSrc
  nwDst : addrBits m.nwDst = addrBits m'.nwDst
  tpSrc : m.tpSrc = m'.tpSrc
  tpDst : m.tpDst = m'.tpDst

lemma addrAccepts_iff (addr : Option (BitVec 32 × BitVec 32)) (a : BitVec 32) :
    AddrAccepts addr a ↔ a &&& (addrBits addr).2 = (addrBits addr).1 := by
  cases addr with
  | none => simp [AddrAccepts, addrBits]
  | some p =>
      obtain ⟨value, mask⟩ := p
      constructor
      · intro h
        exact h value mask rfl
      · rintro h _ _ ⟨⟩
        exact h

/-- Equivalent matches accept the same packets. -/
theorem CofMatch.Equivalent.accepts {m m' : CofMatch} (heq : m.Equivalent m') {h : Headers}
    (hm : m.Accepts h) : m'.Accepts h where
  inPort := heq.inPort ▸ hm.inPort
  dlSrc := heq.dlSrc ▸ hm.dlSrc
  dlDst := heq.dlDst ▸ hm.dlDst
  dlType := heq.dlType ▸ hm.dlType
  dlVlan := heq.dlVlan ▸ hm.dlVlan
  dlVlanPcp hne := by
    rw [← heq.dlVlan] at hne
    exact heq.dlVlanPcp hne ▸ hm.dlVlanPcp hne
  nwTos := heq.nwTos ▸ hm.nwTos
  nwProto := heq.nwProto ▸ hm.nwProto
  nwSrc := by
    rw [addrAccepts_iff, ← heq.nwSrc]
    exact (addrAccepts_iff _ _).1 hm.nwSrc
  nwDst := by
    rw [addrAccepts_iff, ← heq.nwDst]
    exact (addrAccepts_iff _ _).1 hm.nwDst
  tpSrc := heq.tpSrc ▸ hm.tpSrc
  tpDst := heq.tpDst ▸ hm.tpDst

/-! ## Matches there and back -/

section Matches

variable {consts mapi}

/-- The address comes back unless it is 0.0.0.0. -/
def addrBack (addr : Option (BitVec 32 × BitVec 32)) : Option (BitVec 32 × BitVec 32) :=
  addr.filter (·.1 ≠ 0)

/-- What comes back of a match. -/
def CofMatch.back (m : CofMatch) : CofMatch :=
  { m with
    dlVlan := m.dlVlan.map fun v => if v = ofpVlanNone then v else v &&& ~~~ofpvidPresent
    dlVlanPcp := m.dlVlanPcp <|> if m.dlVlan = some ofpVlanNone then some 0 else none
    nwTos := m.nwTos.map (· &&& 0xfc)
    nwSrc := addrBack m.nwSrc
    nwDst := addrBack m.nwDst }

/-- The fields are read back one by one, each into its own place. -/
lemma foldl_inPort (hmapi : mapi.StoresAsGiven) (o : Option (BitVec 16)) (acc : CofMatch) :
    (o.map fun v => mapi.initMatch .inPort (.ofU32 (v.setWidth 32))).toList.foldl
        (reverseMatch consts mapi) acc =
      { acc with inPort := o <|> acc.inPort } := by
  cases o with
  | none => rfl
  | some v => simp [reverseMatch, hmapi.type_init, hmapi.value_init]

lemma foldl_dlSrc (hmapi : mapi.StoresAsGiven) (o : Option (BitVec 48)) (k : WrapUint)
    (acc : CofMatch) :
    (o.map fun v => mapi.initMaskedMatch .ethSrc (.ofU64 (v.setWidth 64)) k).toList.foldl
        (reverseMatch consts mapi) acc =
      { acc with dlSrc := o <|> acc.dlSrc } := by
  cases o with
  | none => rfl
  | some v => simp [reverseMatch, hmapi.type_initMasked, hmapi.value_initMasked]

lemma foldl_dlDst (hmapi : mapi.StoresAsGiven) (o : Option (BitVec 48)) (k : WrapUint)
    (acc : CofMatch) :
    (o.map fun v => mapi.initMaskedMatch .ethDst (.ofU64 (v.setWidth 64)) k).toList.foldl
        (reverseMatch consts mapi) acc =
      { acc with dlDst := o <|> acc.dlDst } := by
  cases o with
  | none => rfl
  | some v => simp [reverseMatch, hmapi.type_initMasked, hmapi.value_initMasked]

lemma foldl_dlType (hmapi : mapi.StoresAsGiven) (o : Option (BitVec 16)) (acc : CofMatch) :
    (o.map fun v => mapi.initMatch .ethType (.ofU16 v)).toList.foldl
        (reverseMatch consts mapi) acc =
      { acc with dlType := o <|> acc.dlType } := by
  cases o with
  | none => rfl
  | some v => simp [reverseMatch, hmapi.type_init, hmapi.value_init]

lemma foldl_dlVlan (hmapi : mapi.StoresAsGiven) (o : Option (BitVec 16)) (k : BitVec 16)
    (acc : CofMatch) :
    (o.map fun v => mapi.initVlanVidMatch (v &&& ~~~ofpvidPresent) k
        (if v = ofpVlanNone then .none else .specific)).toList.foldl
        (reverseMatch consts mapi) acc =
      { acc with
        dlVlan := (o.map fun v => if v = ofpVlanNone then v else v &&& ~~~ofpvidPresent) <|>
          acc.dlVlan
        dlVlanPcp := (if o = some ofpVlanNone then some 0 else none) <|> acc.dlVlanPcp } := by
  cases o with
  | none => rfl
  | some v =>
      by_cases hv : v = ofpVlanNone
      · simp [reverseMatch, hmapi.type_initVlanVid, hmapi.vlanPresent_initVlanVid, hv]
      · simp [reverseMatch, hmapi.type_initVlanVid, hmapi.vlanPresent_initVlanVid,
          hmapi.value_initVlanVid, hv]

lemma foldl_dlVlanPcp (hmapi : mapi.StoresAsGiven) (o : Option (BitVec 8)) (acc : CofMatch) :
    (o.map fun v => mapi.initMatch .vlanPcp (.ofU8 v)).toList.foldl
        (reverseMatch consts mapi) acc =
      { acc with dlVlanPcp := o <|> acc.dlVlanPcp } := by
  cases o with
  | none => rfl
  | some v => simp [reverseMatch, hmapi.type_init, hmapi.value_init]

lemma foldl_nwTos (hconsts : consts.Documented) (hmapi : mapi.StoresAsGiven)
    (o : Option (BitVec 8)) (acc : CofMatch) :
    (o.map fun v => mapi.initMatch .ipDscp (.ofU8 (consts.ipDscpValue v))).toList.foldl
        (reverseMatch consts mapi) acc =
      { acc with nwTos := o.map (· &&& 0xfc) <|> acc.nwTos } := by
  cases o with
  | none => rfl
  | some v => simp [reverseMatch, hmapi.type_init, hmapi.value_init, hconsts.align_value]

lemma foldl_nwProto (hmapi : mapi.StoresAsGiven) (o : Option (BitVec 8)) (acc : CofMatch) :
    (o.map fun v => mapi.initMatch .nwProto (.ofU8 v)).toList.foldl
        (reverseMatch consts mapi) acc =
      { acc with nwProto := o <|> acc.nwProto } := by
  cases o with
  | none => rfl
  | some v => simp [reverseMatch, hmapi.type_init, hmapi.value_init]

lemma foldl_nwSrc (hmapi : mapi.StoresAsGiven) (addr : Option (BitVec 32 × BitVec 32))
    (acc : CofMatch) :
    (mapNwAddr mapi .nwSrc addr).foldl (reverseMatch consts mapi) acc =
      { acc with nwSrc := addrBack addr <|> acc.nwSrc } := by
  cases addr with
  | none => rfl
  | some p =>
      by_cases hp : p.1 = 0#32
      · simp [mapNwAddr, addrBack, Option.filter, hp]
      · simp [mapNwAddr, addrBack, Option.filter, hp, reverseMatch, hmapi.type_initMasked,
          hmapi.value_initMasked, hmapi.mask_initMasked]

lemma foldl_nwDst (hmapi : mapi.StoresAsGiven) (addr : Option (BitVec 32 × BitVec 32))
    (acc : CofMatch) :
    (mapNwAddr mapi .nwDst addr).foldl (reverseMatch consts mapi) acc =
      { acc with nwDst := addrBack addr <|> acc.nwDst } := by
  cases addr with
  | none => rfl
  | some p =>
      by_cases hp : p.1 = 0#32
      · simp [mapNwAddr, addrBack, Option.filter, hp]
      · simp [mapNwAddr, addrBack, Option.filter, hp, reverseMatch, hmapi.type_initMasked,
          hmapi.value_initMasked, hmapi.mask_initMasked]

lemma foldl_tpSrc (hmapi : mapi.StoresAsGiven) (o : Option (BitVec 16)) (acc : CofMatch) :
    (o.map fun v => mapi.initMatch .tpSrc (.ofU16 v)).toList.foldl
        (reverseMatch consts mapi) acc =
      { acc with tpSrc := o <|> acc.tpSrc } := by
  cases o with
  | none => rfl
  | some v => simp [reverseMatch, hmapi.type_init, hmapi.value_init]

lemma foldl_tpDst (hmapi : mapi.StoresAsGiven) (o : Option (BitVec 16)) (acc : CofMatch) :
    (o.map fun v => mapi.initMatch .tpDst (.ofU16 v)).toList.foldl
        (reverseMatch consts mapi) acc =
      { acc with tpDst := o <|> acc.tpDst } := by
  cases o with
  | none => rfl
  | some v => simp [reverseMatch, hmapi.type_init, hmapi.value_init]

/-- **What comes back of a match** of OpenFlow 1.0. -/
theorem of10Matches_back (hconsts : consts.Documented) (hmapi : mapi.StoresAsGiven)
    (m : CofMatch) :
    of1xMapReverseFlowEntryMatches consts mapi (of10MapFlowEntryMatches consts mapi m) =
      m.back := by
  simp only [of1xMapReverseFlowEntryMatches, of10MapFlowEntryMatches, List.foldl_append,
    foldl_inPort hmapi, foldl_dlSrc hmapi, foldl_dlDst hmapi, foldl_dlType hmapi,
    foldl_dlVlan hmapi, foldl_dlVlanPcp hmapi, foldl_nwTos hconsts hmapi, foldl_nwProto hmapi,
    foldl_nwSrc hmapi, foldl_nwDst hmapi, foldl_tpSrc hmapi, foldl_tpDst hmapi]
  ext1 <;> simp [CofMatch.empty, CofMatch.back]

/-- The match has no VLAN identifier with the bit `OFPVID_PRESENT`, which is not one of OpenFlow
1.0, and no prefix of 0.0.0.0. -/
structure CofMatch.Readable (m : CofMatch) : Prop where
  dlVlan : ∀ v, m.dlVlan = some v → v ≠ ofpVlanNone → v &&& ofpvidPresent = 0
  nwSrc : ∀ mask, m.nwSrc = some (0, mask) → mask = 0
  nwDst : ∀ mask, m.nwDst = some (0, mask) → mask = 0

lemma and_not_eq_self_iff (v w : BitVec 16) : v &&& ~~~w = v ↔ v &&& w = 0 := by
  constructor
  · intro h
    rw [← h, BitVec.and_assoc, BitVec.and_comm (~~~w), BitVec.and_not_self]
    exact BitVec.and_zero
  · intro h
    ext i hi
    have hbit : (v &&& w)[i] = false := by
      rw [h]
      exact BitVec.getElem_zero hi
    rw [BitVec.getElem_and] at hbit
    rw [BitVec.getElem_and, BitVec.getElem_not]
    cases hv : v[i] with
    | false => rfl
    | true => simpa [hv] using hbit

/-- An address comes back with the same bits to look at, unless these are zeros. -/
lemma addrBits_addrBack_iff (addr : Option (BitVec 32 × BitVec 32)) :
    addrBits (addrBack addr) = addrBits addr ↔ ∀ mask, addr = some (0, mask) → mask = 0 := by
  cases addr with
  | none => simp [addrBack]
  | some p =>
      obtain ⟨value, mask⟩ := p
      by_cases hvalue : value = 0#32
      · subst hvalue
        have hback : addrBack (some (0#32, mask)) = none := by simp [addrBack, Option.filter]
        rw [hback]
        constructor
        · rintro heq _ ⟨⟩
          exact (Prod.ext_iff.1 heq).2.symm
        · intro h
          rw [h mask rfl, addrBits, addrBits, BitVec.zero_and]
          rfl
      · simp [addrBack, Option.filter, hvalue]

/-- A match comes back equivalent exactly when it is readable. -/
lemma equivalent_back_iff (m : CofMatch) : m.back.Equivalent m ↔ m.Readable := by
  constructor
  · intro h
    refine ⟨fun v hv hne => ?_, (addrBits_addrBack_iff _).1 h.nwSrc,
      (addrBits_addrBack_iff _).1 h.nwDst⟩
    have hvlan := h.dlVlan
    simp only [CofMatch.back, hv, Option.map_some, Option.some.injEq, if_neg hne] at hvlan
    exact (and_not_eq_self_iff v ofpvidPresent).1 hvlan
  · intro h
    have hvlan : m.back.dlVlan = m.dlVlan := by
      cases hv : m.dlVlan with
      | none => simp [CofMatch.back, hv]
      | some v =>
          simp only [CofMatch.back, hv, Option.map_some, Option.some.injEq]
          split_ifs with hne
          · rfl
          · exact (and_not_eq_self_iff v ofpvidPresent).2 (h.dlVlan v hv hne)
    refine ⟨rfl, rfl, rfl, rfl, hvlan, fun hne => ?_, ?_, rfl,
      (addrBits_addrBack_iff _).2 h.nwSrc, (addrBits_addrBack_iff _).2 h.nwDst, rfl, rfl⟩
    · rw [hvlan] at hne
      simp [CofMatch.back, hne]
    · cases hv : m.nwTos with
      | none => simp [CofMatch.back, hv]
      | some v => simp [CofMatch.back, hv, BitVec.and_assoc]

end Matches

/-! ## Actions there and back -/

section Actions

variable {consts api}

/-- The action that comes back of one that is translated: the two low bits of a type of service are
lost. -/
def CofAction.back : CofAction → CofAction
  | .setNwTos nw_tos => .setNwTos (nw_tos &&& 0xfc)
  | action => action

/-- The action becomes actions of the pipeline. -/
def CofAction.IsTranslated : CofAction → Prop
  | .vendor _ _ | .pushVlan _ | .other _ => False
  | _ => True

/-- The actions of the pipeline for one action, whatever follows them, are read back as one. -/
lemma of10ReverseActions_chunk (hconsts : consts.Documented) (hapi : api.StoresAsGiven)
    {action : CofAction} (h : action.IsTranslated) :
    ∃ chunk : List A, of1xMapFlowEntryAction consts api action = chunk.map some ∧
      ∀ rest, of1xMapReverseFlowEntryActions consts api (chunk ++ rest) =
        (of1xMapReverseFlowEntryActions consts api rest).map (action.back :: ·) := by
  have hport := getOutPortReverse_getOutPort hconsts
  cases action with
  | vendor vendor body => exact h.elim
  | pushVlan eth_type => exact h.elim
  | other type => exact h.elim
  | enqueue port_no queue_id =>
      refine ⟨[_, _], rfl, fun rest => ?_⟩
      cases rest with
      | nil =>
          simp [of1xMapReverseFlowEntryActions, of1xMapReverseFlowEntryAction, hapi.type_init,
            hapi.field_init, hport, CofAction.back]
      | cons action rest =>
          simp [of1xMapReverseFlowEntryActions, of1xMapReverseFlowEntryAction, hapi.type_init,
            hapi.field_init, hport, CofAction.back]
  | setNwTos nw_tos =>
      refine ⟨[_], rfl, fun rest => ?_⟩
      simp [of1xMapReverseFlowEntryActions, of1xMapReverseFlowEntryAction, hapi.type_init,
        hapi.field_init, hconsts.align_value, CofAction.back]
  | _ =>
      refine ⟨[_], rfl, fun rest => ?_⟩
      simp [of1xMapReverseFlowEntryActions, of1xMapReverseFlowEntryAction, hapi.type_init,
        hapi.field_init, hapi.sendLen_init, hport, CofAction.back]

/-- The action comes back as it was. -/
def CofAction.Readable : CofAction → Prop
  | .setNwTos nw_tos => nw_tos &&& 0x3 = 0
  | .vendor _ _ | .pushVlan _ | .other _ => False
  | _ => True

lemma readable_iff (action : CofAction) :
    action.Readable ↔ action.IsTranslated ∧ action.back = action := by
  have htos : ∀ nw_tos : BitVec 8, nw_tos &&& 3#8 = 0#8 ↔ nw_tos &&& 252#8 = nw_tos := by decide
  cases action with
  | setNwTos nw_tos => simp [CofAction.Readable, CofAction.IsTranslated, CofAction.back, htos]
  | _ => simp [CofAction.Readable, CofAction.IsTranslated, CofAction.back]

end Actions

/-- The list of actions survives the two translations: every action becomes actions of the pipeline,
none of them `NULL`, and these are read back as the same list. -/
def ActionsFaithful (actions : List CofAction) : Prop :=
  ∃ packet_actions : List A,
    of1xMapFlowEntryActions consts api actions = packet_actions.map some ∧
    of1xMapReverseFlowEntryActions consts api packet_actions = some actions

/-- On what the list of actions becomes, the way back does not follow the pointer of an action that
is missing. -/
def NoMissingAction (actions : List CofAction) : Prop :=
  ∀ packet_actions : List A,
    of1xMapFlowEntryActions consts api actions = packet_actions.map some →
    of1xMapReverseFlowEntryActions consts api packet_actions ≠ none

section Actions

variable {consts api}

/-- The actions of the pipeline for a list begin with those for its first action. -/
lemma of1xMapFlowEntryActions_cons (hconsts : consts.Documented) (hapi : api.StoresAsGiven)
    {action : CofAction} {actions : List CofAction} {packet_actions : List A}
    (h : of1xMapFlowEntryActions consts api (action :: actions) = packet_actions.map some) :
    action.IsTranslated ∧ ∃ rest : List A,
      of1xMapFlowEntryActions consts api actions = rest.map some ∧
      of1xMapReverseFlowEntryActions consts api packet_actions =
        (of1xMapReverseFlowEntryActions consts api rest).map (action.back :: ·) := by
  rw [of1xMapFlowEntryActions, List.flatMap_cons] at h
  have htranslated : action.IsTranslated := by
    cases action <;>
      first
      | trivial
      | exact absurd (h ▸ List.mem_cons_self : none ∈ packet_actions.map some) (by simp)
  obtain ⟨chunk, hchunk, hback⟩ := of10ReverseActions_chunk hconsts hapi htranslated
  rw [hchunk] at h
  obtain ⟨chunk', rest, rfl, hchunk', hrest⟩ := List.map_eq_append_iff.1 h.symm
  obtain rfl : chunk' = chunk := List.map_injective_iff.2 (Option.some_injective A) hchunk'
  exact ⟨htranslated, rest, hrest.symm, hback rest⟩

lemma noMissingAction (hconsts : consts.Documented) (hapi : api.StoresAsGiven)
    (actions : List CofAction) : NoMissingAction consts api actions := by
  induction actions with
  | nil =>
      intro packet_actions h
      obtain rfl : packet_actions = [] := List.map_eq_nil_iff.1 h.symm
      exact nofun
  | cons action actions ih =>
      intro packet_actions h
      obtain ⟨-, rest, hrest, hback⟩ := of1xMapFlowEntryActions_cons hconsts hapi h
      rw [hback]
      exact fun hnone => ih rest hrest (Option.map_eq_none_iff.1 hnone)

lemma actionsFaithful_cons (hconsts : consts.Documented) (hapi : api.StoresAsGiven)
    (action : CofAction) (actions : List CofAction) :
    ActionsFaithful consts api (action :: actions) ↔
      action.Readable ∧ ActionsFaithful consts api actions := by
  rw [readable_iff]
  constructor
  · rintro ⟨packet_actions, hmap, hreverse⟩
    obtain ⟨htranslated, rest, hrest, hback⟩ := of1xMapFlowEntryActions_cons hconsts hapi hmap
    rw [hback] at hreverse
    obtain ⟨actions', hactions', hcons⟩ := Option.map_eq_some_iff.1 hreverse
    obtain ⟨hfirst, rfl⟩ := List.cons.inj hcons
    exact ⟨⟨htranslated, hfirst⟩, rest, hrest, hactions'⟩
  · rintro ⟨⟨htranslated, hfirst⟩, rest, hrest, hreverse⟩
    obtain ⟨chunk, hchunk, hback⟩ := of10ReverseActions_chunk hconsts hapi htranslated
    refine ⟨chunk ++ rest, ?_, ?_⟩
    · rw [List.map_append, ← hchunk, ← hrest]
      rfl
    · rw [hback, hreverse, hfirst]
      rfl

lemma actionsFaithful_iff (hconsts : consts.Documented) (hapi : api.StoresAsGiven)
    (actions : List CofAction) :
    ActionsFaithful consts api actions ↔ ∀ action ∈ actions, action.Readable := by
  induction actions with
  | nil => exact iff_of_true ⟨[], rfl, rfl⟩ nofun
  | cons action actions ih =>
      rw [actionsFaithful_cons hconsts hapi, ih, List.forall_mem_cons]

end Actions

/-- **Which matches and actions are translated faithfully.**  A match of OpenFlow 1.0 comes back
equivalent and a list of actions as it was, exactly when the match has no prefix of 0.0.0.0 and no
VLAN identifier with the bit `OFPVID_PRESENT`, and every action is readable.  The way back never
needs an action that is missing. -/
theorem of10_faithful_iff {consts : PipelineConsts} (hconsts : consts.Documented)
    {api : PacketActionApi A} (hapi : api.StoresAsGiven) {mapi : MatchApi M}
    (hmapi : mapi.StoresAsGiven) (ofmatch : CofMatch) (actions : List CofAction) :
    (of1xMapReverseFlowEntryMatches consts mapi
          (of10MapFlowEntryMatches consts mapi ofmatch)).Equivalent ofmatch ∧
        ActionsFaithful consts api actions ∧ NoMissingAction consts api actions ↔
      ofmatch.Readable ∧ ∀ action ∈ actions, action.Readable := by
  rw [of10Matches_back hconsts hmapi, equivalent_back_iff, actionsFaithful_iff hconsts hapi]
  constructor
  · rintro ⟨hmatch, hactions, -⟩
    exact ⟨hmatch, hactions⟩
  · rintro ⟨hmatch, hactions⟩
    exact ⟨hmatch, hactions, noMissingAction hconsts hapi actions⟩

/-- A match on the untagged packets from a prefix, and two enqueue actions with an output between
them. -/
theorem of10_faithful_enqueue :
    (of1xMapReverseFlowEntryMatches .of1x .record (of10MapFlowEntryMatches .of1x .record
        { CofMatch.empty with
          dlVlan := some ofpVlanNone, nwSrc := some (0x0a000000, 0xff000000) })).Equivalent
        { CofMatch.empty with
          dlVlan := some ofpVlanNone, nwSrc := some (0x0a000000, 0xff000000) } ∧
      ActionsFaithful .of1x .record [.enqueue 1 256, .output 0xfffd 64, .enqueue 2 7] ∧
      NoMissingAction .of1x .record [.enqueue 1 256, .output 0xfffd 64, .enqueue 2 7] := by
  refine (of10_faithful_iff PipelineConsts.of1x_documented PacketActionApi.record_storesAsGiven
    MatchApi.record_storesAsGiven _ _).2 ⟨⟨?_, ?_, nofun⟩, ?_⟩
  · rintro v ⟨⟩ hne
    exact absurd rfl hne
  · rintro mask h
    exact absurd h (by simp)
  · simp [CofAction.Readable]

/-- The match on the packets from 0.0.0.0 becomes the match on all packets. -/
theorem of10_not_faithful_zeros :
    ¬ (of1xMapReverseFlowEntryMatches .of1x .record (of10MapFlowEntryMatches .of1x .record
        { CofMatch.empty with nwSrc := some (0, 0xffffffff) })).Equivalent
        { CofMatch.empty with nwSrc := some (0, 0xffffffff) } := by
  intro h
  exact absurd h.nwSrc (by decide)

end Xdpd.OpenFlow.Of10
