import Mathlib.Logic.Function.Basic
import Xdpd.Lib.Bytes

/-!
# What the OpenFlow endpoints share with the controller library and with the pipeline

On one side are the OXM fields of an OpenFlow message, as the controller library hands them over: a
field, a value of the width of the field and, in a match, a mask.  On the other side are the
actions and matches of the pipeline library, which carry their values in a union `wrap_uint_t`.

Neither library is part of the repository.  The union is the one of a little-endian machine.  The
constructors and accessors of the pipeline library are collected in `PacketActionApi` and
`MatchApi`, of which the translation functions rely only on `StoresAsGiven`.
-/

namespace Xdpd.OpenFlow

open Xdpd.Lib

/-! ## OXM fields -/

/-- The fields `OFPXMT_OFB_*` of the class `OFPXMC_OPENFLOW_BASIC`, and the fields `OFPXMT_OFX_*`
of the extensions PPPoE, GTP, CAPWAP, WLAN and GRE, of the class `OFPXMC_EXPERIMENTER`. -/
inductive OxmField
  | inPort | inPhyPort | metadata | ethDst | ethSrc | ethType | vlanVid | vlanPcp | ipDscp | ipEcn
  | ipProto | ipv4Src | ipv4Dst | tcpSrc | tcpDst | udpSrc | udpDst | sctpSrc | sctpDst
  | icmpv4Type | icmpv4Code | arpOp | arpSpa | arpTpa | arpSha | arpTha | ipv6Src | ipv6Dst
  | ipv6Flabel | icmpv6Type | icmpv6Code | ipv6NdTarget | ipv6NdSll | ipv6NdTll | mplsLabel
  | mplsTc | mplsBos | pbbIsid | tunnelId | ipv6Exthdr | pppoeCode | pppoeType | pppoeSid
  | pppProt | gtpMsgtype | gtpTeid | capwapWbid | capwapRid | capwapFlags | wlanFc | wlanType
  | wlanSubtype | wlanDirection | wlanAddress1 | wlanAddress2 | wlanAddress3 | greVersion
  | greProtType | greKey
  deriving DecidableEq, Repr

namespace OxmField

/-- The number of bits of a value of the field. -/
def width : OxmField → ℕ
  | .vlanPcp | .ipDscp | .ipEcn | .ipProto | .icmpv4Type | .icmpv4Code | .icmpv6Type | .icmpv6Code
  | .mplsTc | .mplsBos | .pppoeCode | .pppoeType | .gtpMsgtype | .capwapWbid | .capwapRid
  | .wlanType | .wlanSubtype | .wlanDirection => 8
  | .ethType | .vlanVid | .tcpSrc | .tcpDst | .udpSrc | .udpDst | .sctpSrc | .sctpDst | .arpOp
  | .ipv6Exthdr | .pppoeSid | .pppProt | .capwapFlags | .wlanFc | .greVersion | .greProtType => 16
  | .pbbIsid => 24
  | .inPort | .inPhyPort | .ipv4Src | .ipv4Dst | .arpSpa | .arpTpa | .ipv6Flabel | .mplsLabel
  | .gtpTeid | .greKey => 32
  | .ethDst | .ethSrc | .arpSha | .arpTha | .ipv6NdSll | .ipv6NdTll | .wlanAddress1
  | .wlanAddress2 | .wlanAddress3 => 48
  | .metadata | .tunnelId => 64
  | .ipv6Src | .ipv6Dst | .ipv6NdTarget => 128

/-- A match on the field may carry a mask. -/
def isMaskable : OxmField → Bool
  | .metadata | .ethDst | .ethSrc | .vlanVid | .ipv4Src | .ipv4Dst | .arpSpa | .arpTpa | .arpSha
  | .arpTha | .ipv6Src | .ipv6Dst | .ipv6Flabel | .pbbIsid | .tunnelId | .ipv6Exthdr | .gtpTeid
  | .capwapWbid | .capwapRid | .capwapFlags | .wlanFc | .wlanType | .wlanSubtype | .wlanDirection
  | .wlanAddress1 | .wlanAddress2 | .wlanAddress3 => true
  | _ => false

lemma isMaskable_vlanVid : isMaskable .vlanVid = true := rfl

/-- The field belongs to one of the extensions. -/
def isExperimental : OxmField → Bool
  | .pppoeCode | .pppoeType | .pppoeSid | .pppProt | .gtpMsgtype | .gtpTeid | .capwapWbid
  | .capwapRid | .capwapFlags | .wlanFc | .wlanType | .wlanSubtype | .wlanDirection
  | .wlanAddress1 | .wlanAddress2 | .wlanAddress3 | .greVersion | .greProtType | .greKey => true
  | _ => false

end OxmField

/-- An OXM TLV without mask.  `other` is one whose class or field is none of the above. -/
inductive Oxm
  | known (oxm_field : OxmField) (value : BitVec oxm_field.width)
  | other (oxm_class : BitVec 16) (oxm_field : BitVec 7)
  deriving DecidableEq

/-! ## OXM matches -/

/-- A value of an OXM field and its mask.  A TLV without mask has the mask of all ones. -/
abbrev OxmField.Masked (f : OxmField) := BitVec f.width × BitVec f.width

/-- `cofmatch`: the fields that are present.  A field that is not maskable has no mask.  `others`
are the TLVs of other classes, fields and experimenters. -/
@[ext] structure OfMatch where
  field : (f : OxmField) → Option f.Masked
  others : List (BitVec 32 × List Byte)
  exact : ∀ f p, field f = some p → f.isMaskable = false → p.2 = BitVec.allOnes f.width

namespace OfMatch

/-- The match without any field. -/
def empty : OfMatch where
  field _ := none
  others := []
  exact _ _ h := by simp at h

/-- The match with a value and mask for the field `f`, in place of any that it has. -/
def set (m : OfMatch) (f : OxmField) (p : f.Masked)
    (hp : f.isMaskable = false → p.2 = BitVec.allOnes f.width) : OfMatch where
  field := Function.update m.field f (some p)
  others := m.others
  exact := by
    intro g q hg hmask
    by_cases hgf : g = f
    · subst hgf
      rw [Function.update_self, Option.some.injEq] at hg
      exact hg ▸ hp hmask
    · rw [Function.update_of_ne hgf] at hg
      exact m.exact g q hg hmask

/-- `set_*(value)`. -/
def setExact (m : OfMatch) (f : OxmField) (value : BitVec f.width) : OfMatch :=
  m.set f (value, BitVec.allOnes f.width) fun _ => rfl

/-- `set_*(value, mask)`. -/
def setMasked (m : OfMatch) (f : OxmField) (hf : f.isMaskable = true)
    (value mask : BitVec f.width) : OfMatch :=
  m.set f (value, mask) fun h => absurd (hf.symm.trans h) (by decide)

end OfMatch

/-- `OFPVID_PRESENT`. -/
def ofpvidPresent : BitVec 16 := 0x1000

/-- `OFPVID_NONE`. -/
def ofpvidNone : BitVec 16 := 0

/-! ## The union of the pipeline library -/

/-- `wrap_uint_t`, by its bytes. -/
abbrev WrapUint := ℕ → Byte

/-- `uint128__t`: the array `val`. -/
abbrev Uint128 := ℕ → Byte

namespace WrapUint

/-- The union after `memset(&field, 0, sizeof(wrap_uint_t))`. -/
def zero : WrapUint := fun _ => 0

/-- The zeroed union after its member `u8` is written. -/
abbrev ofU8 (v : BitVec 8) : WrapUint := leBytes v
/-- The zeroed union after its member `u16` is written. -/
abbrev ofU16 (v : BitVec 16) : WrapUint := leBytes v
/-- The zeroed union after its member `u32` is written. -/
abbrev ofU32 (v : BitVec 32) : WrapUint := leBytes v
/-- The zeroed union after its member `u64` is written. -/
abbrev ofU64 (v : BitVec 64) : WrapUint := leBytes v
/-- The union after its member `u128` is written. -/
abbrev ofU128 (v : Uint128) : WrapUint := v

/-- The member `u8`. -/
def u8 (f : WrapUint) : BitVec 8 := ofLeBytes 1 f
/-- The member `u16`. -/
def u16 (f : WrapUint) : BitVec 16 := ofLeBytes 2 f
/-- The member `u32`. -/
def u32 (f : WrapUint) : BitVec 32 := ofLeBytes 4 f
/-- The member `u64`. -/
def u64 (f : WrapUint) : BitVec 64 := ofLeBytes 8 f
/-- The member `u128`. -/
def u128 (f : WrapUint) : Uint128 := f

variable {w : ℕ} (v : BitVec w)

@[simp] lemma u8_leBytes : u8 (leBytes v) = v.setWidth 8 := ofLeBytes_leBytes 1 v
@[simp] lemma u16_leBytes : u16 (leBytes v) = v.setWidth 16 := ofLeBytes_leBytes 2 v
@[simp] lemma u32_leBytes : u32 (leBytes v) = v.setWidth 32 := ofLeBytes_leBytes 4 v
@[simp] lemma u64_leBytes : u64 (leBytes v) = v.setWidth 64 := ofLeBytes_leBytes 8 v

end WrapUint

/-- `NTOHB128` and `HTONB128`: the sixteen bytes in the opposite order. -/
def ntohb128 (v : Uint128) : Uint128 := swapBytes 16 v

/-- `caddress_in6::pack`: the address in network order. -/
def pack (addr : BitVec 128) : Uint128 := beBytes (n := 16) addr

/-- `caddress_in6::unpack`. -/
def unpack (v : Uint128) : BitVec 128 := ofBeBytes 16 v

/-- An address survives being stored in host order and read back. -/
@[simp] lemma unpack_ntohb128_u128 (addr : BitVec 128) :
    unpack (ntohb128 (WrapUint.u128 (ntohb128 (pack addr)))) = addr := by
  have hbytes : ∀ i < 16, swapBytes 16 (ntohb128 (WrapUint.u128 (ntohb128 (pack addr)))) i =
      leBytes addr i := by
    intro i hi
    have hi' : 16 - 1 - i < 16 := by omega
    rw [ntohb128, WrapUint.u128, swapBytes_swapBytes _ hi, ntohb128, pack, beBytes,
      swapBytes_swapBytes _ hi]
  rw [unpack, ofBeBytes, ofLeBytes_congr hbytes, ofLeBytes_leBytes]
  exact BitVec.setWidth_eq addr

/-! ## Actions of the pipeline -/

/-- `of1x_packet_action_type_t`. -/
inductive ActionType
  | noAction | copyTtlIn | popVlan | popMpls | popPbb | popPppoe | popGtp | popCapwap | popWlan
  | popGre | pushPppoe | pushGtp | pushCapwap | pushWlan | pushGre | pushPbb | pushMpls | pushVlan
  | copyTtlOut | decNwTtl | setNwTtl | decMplsTtl | setMplsTtl | setQueue | setFieldEthDst
  | setFieldEthSrc | setFieldEthType | setFieldArpOpcode | setFieldArpSha | setFieldArpSpa
  | setFieldArpTha | setFieldArpTpa | setFieldIcmpv4Code | setFieldIcmpv4Type | setFieldIpv4Dst
  | setFieldIpv4Src | setFieldIpDscp | setFieldIpEcn | setFieldIpProto | setFieldMplsLabel
  | setFieldMplsTc | setFieldMplsBos | setFieldVlanVid | setFieldVlanPcp | setFieldTcpDst
  | setFieldTcpSrc | setFieldUdpDst | setFieldUdpSrc | setFieldSctpDst | setFieldSctpSrc
  | setFieldIpv6Src | setFieldIpv6Dst | setFieldIpv6Flabel | setFieldIpv6NdTarget
  | setFieldIpv6NdSll | setFieldIpv6NdTll | setFieldIcmpv6Type | setFieldIcmpv6Code
  | setFieldTunnelId | setFieldPbbIsid | setFieldIpv6Exthdr | setFieldPppoeCode
  | setFieldPppoeType | setFieldPppoeSid | setFieldPppProt | setFieldGtpMsgType | setFieldGtpTeid
  | setFieldCapwapWbid | setFieldCapwapRid | setFieldCapwapFlags | setFieldWlanFc
  | setFieldWlanType | setFieldWlanSubtype | setFieldWlanDirection | setFieldWlanAddress1
  | setFieldWlanAddress2 | setFieldWlanAddress3 | setFieldGreVersion | setFieldGreProtType
  | setFieldGreKey | setFieldNwSrc | setFieldNwDst | setFieldTpSrc | setFieldTpDst | group
  | experimenter | output
  deriving DecidableEq, Repr

/-- What the translation uses of the actions `A` of the pipeline: `of1x_init_packet_action` and the
reading of the type, of the union and of `send_len` of an action. -/
structure PacketActionApi (A : Type*) where
  initPacketAction : ActionType → WrapUint → BitVec 16 → A
  type : A → ActionType
  field : A → WrapUint
  sendLen : A → BitVec 16

/-- The pipeline keeps in an action what it was given for it. -/
structure PacketActionApi.StoresAsGiven {A : Type*} (api : PacketActionApi A) : Prop where
  type_init : ∀ t f l, api.type (api.initPacketAction t f l) = t
  field_init : ∀ t f l, api.field (api.initPacketAction t f l) = f
  sendLen_init : ∀ t f l, api.sendLen (api.initPacketAction t f l) = l

/-- The actions as plain records. -/
def PacketActionApi.record : PacketActionApi (ActionType × WrapUint × BitVec 16) where
  initPacketAction t f l := (t, f, l)
  type a := a.1
  field a := a.2.1
  sendLen a := a.2.2

lemma PacketActionApi.record_storesAsGiven : PacketActionApi.record.StoresAsGiven :=
  ⟨fun _ _ _ => rfl, fun _ _ _ => rfl, fun _ _ _ => rfl⟩

/-! ## Matches of the pipeline -/

/-- `of1x_match_type_t`. -/
inductive MatchType
  | inPort | inPhyPort | metadata | ethDst | ethSrc | ethType | vlanVid | vlanPcp | ipDscp | ipEcn
  | ipProto | ipv4Src | ipv4Dst | tcpSrc | tcpDst | udpSrc | udpDst | sctpSrc | sctpDst
  | icmpv4Type | icmpv4Code | arpOp | arpSpa | arpTpa | arpSha | arpTha | ipv6Src | ipv6Dst
  | ipv6Flabel | icmpv6Type | icmpv6Code | ipv6NdTarget | ipv6NdSll | ipv6NdTll | mplsLabel
  | mplsTc | mplsBos | pbbIsid | tunnelId | ipv6Exthdr | pppoeCode | pppoeType | pppoeSid
  | pppProt | gtpMsgType | gtpTeid | capwapWbid | capwapRid | capwapFlags | wlanFc | wlanType
  | wlanSubtype | wlanDirection | wlanAddress1 | wlanAddress2 | wlanAddress3 | greVersion
  | greProtType | greKey | nwProto | nwSrc | nwDst | tpSrc | tpDst
  deriving DecidableEq, Repr

/-- `enum of1x_vlan_present`: `OF1X_MATCH_VLAN_NONE`, `_SPECIFIC` and `_ANY`. -/
inductive VlanPresent
  | none | specific | any
  deriving DecidableEq, Repr

/-- What the translation uses of the matches `M` of the pipeline: the initialisers `of1x_init_*`
without a mask, those with a mask and that of the VLAN identifier, and the reading of the type, of
the unions `value` and `mask` and of `vlan_present` of a match. -/
structure MatchApi (M : Type*) where
  initMatch : MatchType → WrapUint → M
  initMaskedMatch : MatchType → WrapUint → WrapUint → M
  initVlanVidMatch : BitVec 16 → BitVec 16 → VlanPresent → M
  type : M → MatchType
  value : M → WrapUint
  mask : M → WrapUint
  vlanPresent : M → VlanPresent

/-- The pipeline keeps in a match what it was given for it. -/
structure MatchApi.StoresAsGiven {M : Type*} (api : MatchApi M) : Prop where
  type_init : ∀ t v, api.type (api.initMatch t v) = t
  value_init : ∀ t v, api.value (api.initMatch t v) = v
  type_initMasked : ∀ t v k, api.type (api.initMaskedMatch t v k) = t
  value_initMasked : ∀ t v k, api.value (api.initMaskedMatch t v k) = v
  mask_initMasked : ∀ t v k, api.mask (api.initMaskedMatch t v k) = k
  type_initVlanVid : ∀ v k p, api.type (api.initVlanVidMatch v k p) = .vlanVid
  value_initVlanVid : ∀ v k p, api.value (api.initVlanVidMatch v k p) = .ofU16 v
  mask_initVlanVid : ∀ v k p, api.mask (api.initVlanVidMatch v k p) = .ofU16 k
  vlanPresent_initVlanVid : ∀ v k p, api.vlanPresent (api.initVlanVidMatch v k p) = p

/-- The matches as plain records.  An initialiser without a mask sets all its bits. -/
def MatchApi.record : MatchApi (MatchType × WrapUint × WrapUint × VlanPresent) where
  initMatch t v := (t, v, fun _ => 0xff, .none)
  initMaskedMatch t v k := (t, v, k, .none)
  initVlanVidMatch v k p := (.vlanVid, .ofU16 v, .ofU16 k, p)
  type m := m.1
  value m := m.2.1
  mask m := m.2.2.1
  vlanPresent m := m.2.2.2

lemma MatchApi.record_storesAsGiven : MatchApi.record.StoresAsGiven where
  type_init _ _ := rfl
  value_init _ _ := rfl
  type_initMasked _ _ _ := rfl
  value_initMasked _ _ _ := rfl
  mask_initMasked _ _ _ := rfl
  type_initVlanVid _ _ _ := rfl
  value_initVlanVid _ _ _ := rfl
  mask_initVlanVid _ _ _ := rfl
  vlanPresent_initVlanVid _ _ _ := rfl

end Xdpd.OpenFlow
