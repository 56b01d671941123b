import Mathlib.Data.List.Basic
import Xdpd.OpenFlow.Fieldwise

/-!
# Translation of OpenFlow 1.3 matches

`of13_map_flow_entry_matches` tries the fields of an OXM match one after the other and adds a match
of the pipeline for each that is present.  `of13_map_reverse_flow_entry_matches` walks over the
matches of a flow entry and sets the fields of an OXM match from them.  The fields of the
extensions are compiled in only with `EXPERIMENTAL`.
-/

namespace Xdpd.OpenFlow.Of13

/-! ## From OpenFlow to the pipeline -/

section Map

variable {M : Type*} (api : MatchApi M) (experimental : Bool)

/-- The choice of `vlan_present`. -/
def vlanPresentOf (value mask : BitVec 16) : VlanPresent :=
  if value = ofpvidPresent ∧ mask = ofpvidPresent then .any
  else if value = ofpvidNone ∧ mask = 0xffff then .none
  else .specific

/-- The match that is made from a field of the class `OFPXMC_OPENFLOW_BASIC`, in its `try` block.
`none` is the field that has no block. -/
def mapMatchBasic : (f : OxmField) → BitVec f.width → BitVec f.width → Option M
  | .inPort, v, _ => some (api.initMatch .inPort (.ofU32 v))
  | .inPhyPort, v, _ => some (api.initMatch .inPhyPort (.ofU32 v))
  | .metadata, v, k => some (api.initMaskedMatch .metadata (.ofU64 v) (.ofU64 k))
  | .ethSrc, v, k =>
      some (api.initMaskedMatch .ethSrc (.ofU64 (v.setWidth 64)) (.ofU64 (k.setWidth 64)))
  | .ethDst, v, k =>
      some (api.initMaskedMatch .ethDst (.ofU64 (v.setWidth 64)) (.ofU64 (k.setWidth 64)))
  | .ethType, v, _ => some (api.initMatch .ethType (.ofU16 v))
  | .vlanVid, v, k => some (api.initVlanVidMatch v k (vlanPresentOf v k))
  | .vlanPcp, v, _ => some (api.initMatch .vlanPcp (.ofU8 v))
  | .ipDscp, v, _ => some (api.initMatch .ipDscp (.ofU8 v))
  | .ipEcn, v, _ => some (api.initMatch .ipEcn (.ofU8 v))
  | .ipProto, v, _ => some (api.initMatch .ipProto (.ofU8 v))
  | .ipv4Src, v, k => some (api.initMaskedMatch .ipv4Src (.ofU32 v) (.ofU32 k))
  | .ipv4Dst, v, k => some (api.initMaskedMatch .ipv4Dst (.ofU32 v) (.ofU32 k))
  | .tcpSrc, v, _ => some (api.initMatch .tcpSrc (.ofU16 v))
  | .tcpDst, v, _ => some (api.initMatch .tcpDst (.ofU16 v))
  | .udpSrc, v, _ => some (api.initMatch .udpSrc (.ofU16 v))
  | .udpDst, v, _ => some (api.initMatch .udpDst (.ofU16 v))
  | .sctpSrc, v, _ => some (api.initMatch .sctpSrc (.ofU16 v))
  | .sctpDst, v, _ => some (api.initMatch .sctpDst (.ofU16 v))
  | .icmpv4Type, v, _ => some (api.initMatch .icmpv4Type (.ofU8 v))
  | .icmpv4Code, v, _ => some (api.initMatch .icmpv4Code (.ofU8 v))
  | .arpOp, v, _ => some (api.initMatch .arpOp (.ofU16 v))
  | .arpSha, v, k =>
      some (api.initMaskedMatch .arpSha (.ofU64 (v.setWidth 64)) (.ofU64 (k.setWidth 64)))
  | .arpSpa, v, k => some (api.initMaskedMatch .arpSpa (.ofU32 v) (.ofU32 k))
  | .arpTha, v, k =>
      some (api.initMaskedMatch .arpTha (.ofU64 (v.setWidth 64)) (.ofU64 (k.setWidth 64)))
  | .arpTpa, v, k => some (api.initMaskedMatch .arpTpa (.ofU32 v) (.ofU32 k))
  | .ipv6Src, v, k =>
      some (api.initMaskedMatch .ipv6Src (.ofU128 (ntohb128 (pack v)))
        (.ofU128 (ntohb128 (pack k))))
  | .ipv6Dst, v, k =>
      some (api.initMaskedMatch .ipv6Dst (.ofU128 (ntohb128 (pack v)))
        (.ofU128 (ntohb128 (pack k))))
  | .ipv6Flabel, v, k => some (api.initMaskedMatch .ipv6Flabel (.ofU32 v) (.ofU32 k))
  | .icmpv6Type, v, _ => some (api.initMatch .icmpv6Type (.ofU8 v))
  | .icmpv6Code, v, _ => some (api.initMatch .icmpv6Code (.ofU8 v))
  | .ipv6NdTarget, v, _ => some (api.initMatch .ipv6NdTarget (.ofU128 (ntohb128 (pack v))))
  | .ipv6NdSll, v, _ => some (api.initMatch .ipv6NdSll (.ofU64 (v.setWidth 64)))
  | .ipv6NdTll, v, _ => some (api.initMatch .ipv6NdTll (.ofU64 (v.setWidth 64)))
  | .mplsLabel, v, _ => some (api.initMatch .mplsLabel (.ofU32 v))
  | .mplsTc, v, _ => some (api.initMatch .mplsTc (.ofU8 v))
  | .mplsBos, v, _ => some (api.initMatch .mplsBos (.ofU8 v))
  | .tunnelId, v, k => some (api.initMaskedMatch .tunnelId (.ofU64 v) (.ofU64 k))
  | .pbbIsid, v, k =>
      some (api.initMaskedMatch .pbbIsid (.ofU32 (v.setWidth 32)) (.ofU32 (k.setWidth 32)))
  -- the block of the extension headers is disabled by `#if 0`
  | .ipv6Exthdr, _, _ => none
  | _, _, _ => none

/-- The match that is made from a field of an extension, in its `try` block. -/
def mapMatchExtension : (f : OxmField) → BitVec f.width → BitVec f.width → Option M
  | .pppoeCode, v, _ => some (api.initMatch .pppoeCode (.ofU8 v))
  | .pppoeType, v, _ => some (api.initMatch .pppoeType (.ofU8 v))
  | .pppoeSid, v, _ => some (api.initMatch .pppoeSid (.ofU16 v))
  | .pppProt, v, _ => some (api.initMatch .pppProt (.ofU16 v))
  | .gtpMsgtype, v, _ => some (api.initMatch .gtpMsgType (.ofU8 v))
  | .gtpTeid, v, k => some (api.initMaskedMatch .gtpTeid (.ofU32 v) (.ofU32 k))
  | .capwapWbid, v, k => some (api.initMaskedMatch .capwapWbid (.ofU8 v) (.ofU8 k))
  | .capwapRid, v, k => some (api.initMaskedMatch .capwapRid (.ofU8 v) (.ofU8 k))
  | .capwapFlags, v, k => some (api.initMaskedMatch .capwapFlags (.ofU16 v) (.ofU16 k))
  | .wlanFc, v, k => some (api.initMaskedMatch .wlanFc (.ofU16 v) (.ofU16 k))
  | .wlanType, v, k => some (api.initMaskedMatch .wlanType (.ofU8 v) (.ofU8 k))
  | .wlanSubtype, v, k => some (api.initMaskedMatch .wlanSubtype (.ofU8 v) (.ofU8 k))
  | .wlanDirection, v, k => some (api.initMaskedMatch .wlanDirection (.ofU8 v) (.ofU8 k))
  | .wlanAddress1, v, k =>
      some (api.initMaskedMatch .wlanAddress1 (.ofU64 (v.setWidth 64)) (.ofU64 (k.setWidth 64)))
  | .wlanAddress2, v, k =>
      some (api.initMaskedMatch .wlanAddress2 (.ofU64 (v.setWidth 64)) (.ofU64 (k.setWidth 64)))
  | .wlanAddress3, v, k =>
      some (api.initMaskedMatch .wlanAddress3 (.ofU64 (v.setWidth 64)) (.ofU64 (k.setWidth 64)))
  | .greVersion, v, _ => some (api.initMatch .greVersion (.ofU16 v))
  | .greProtType, v, _ => some (api.initMatch .greProtType (.ofU16 v))
  | .greKey, v, _ => some (api.initMatch .greKey (.ofU32 v))
  | _, _, _ => none

/-- The match that is made from a field. -/
def mapMatch (f : OxmField) (value mask : BitVec f.width) : Option M :=
  if f.isExperimental then
    if experimental then mapMatchExtension api f value mask else none
  else mapMatchBasic api f value mask

/-- The fields in the order of their `try` blocks. -/
def matchOrder : List OxmField :=
  [.inPort, .inPhyPort, .metadata, .ethSrc, .ethDst, .ethType, .vlanVid, .vlanPcp, .ipDscp, .ipEcn,
   .ipProto, .ipv4Src, .ipv4Dst, .tcpSrc, .tcpDst, .udpSrc, .udpDst, .sctpSrc, .sctpDst,
   .icmpv4Type, .icmpv4Code, .arpOp, .arpSha, .arpSpa, .arpTha, .arpTpa, .ipv6Src, .ipv6Dst,
   .ipv6Flabel, .icmpv6Type, .icmpv6Code, .ipv6NdTarget, .ipv6NdSll, .ipv6NdTll, .mplsLabel,
   .mplsTc, .mplsBos, .tunnelId, .pbbIsid, .pppoeCode, .pppoeType, .pppoeSid, .pppProt,
   .gtpMsgtype, .gtpTeid, .capwapWbid, .capwapRid, .capwapFlags, .wlanFc, .wlanType, .wlanSubtype,
   .wlanDirection, .wlanAddress1, .wlanAddress2, .wlanAddress3, .greVersion, .greProtType, .greKey]

/-- The `try` block of a field: the getter throws when the field is absent, and the match is added
otherwise. -/
def tryMatch (ofmatch : OfMatch) (f : OxmField) : List M :=
  match ofmatch.field f with
  | some (value, mask) => (mapMatch api experimental f value mask).toList
  | none => []

/-- `of13_map_flow_entry_matches`: the matches that are added to the entry. -/
def of13MapFlowEntryMatches (ofmatch : OfMatch) : List M :=
  matchOrder.flatMap (tryMatch api experimental ofmatch)

/-! ## From the pipeline to OpenFlow -/

/-- The case `OF1X_MATCH_VLAN_VID`. -/
def reverseVlanVid (ofmatch : OfMatch) (value mask : BitVec 16) : VlanPresent → OfMatch
  | .specific =>
      if mask = 0x0fff then ofmatch.setExact .vlanVid (value ||| ofpvidPresent)
      else ofmatch.setMasked .vlanVid OxmField.isMaskable_vlanVid value mask
  | .none => ofmatch.setExact .vlanVid ofpvidNone
  | .any => ofmatch.setMasked .vlanVid OxmField.isMaskable_vlanVid ofpvidPresent ofpvidPresent

/-- The cases of the extensions. -/
def reverseExtension (ofmatch : OfMatch) (type : MatchType) (value mask : WrapUint) : OfMatch :=
  match type with
  | .pppoeCode => ofmatch.setExact .pppoeCode value.u8
  | .pppoeType => ofmatch.setExact .pppoeType value.u8
  | .pppoeSid => ofmatch.setExact .pppoeSid value.u16
  | .pppProt => ofmatch.setExact .pppProt value.u16
  | .gtpMsgType => ofmatch.setExact .gtpMsgtype value.u8
  | .gtpTeid => ofmatch.setMasked .gtpTeid rfl value.u32 mask.u32
  | .capwapWbid => ofmatch.setMasked .capwapWbid rfl value.u8 mask.u8
  | .capwapRid => ofmatch.setMasked .capwapRid rfl value.u8 mask.u8
  | .capwapFlags => ofmatch.setMasked .capwapFlags rfl value.u16 mask.u16
  | .wlanFc => ofmatch.setMasked .wlanFc rfl value.u16 mask.u16
  | .wlanType => ofmatch.setMasked .wlanType rfl value.u8 mask.u8
  | .wlanSubtype => ofmatch.setMasked .wlanSubtype rfl value.u8 mask.u8
  | .wlanDirection => ofmatch.setMasked .wlanDirection rfl value.u8 mask.u8
  | .wlanAddress1 =>
      ofmatch.setMasked .wlanAddress1 rfl (value.u64.setWidth 48)
        (mask.u64.setWidth 48)
  | .wlanAddress2 =>
      ofmatch.setMasked .wlanAddress2 rfl (value.u64.setWidth 48)
        (mask.u64.setWidth 48)
  | .wlanAddress3 =>
      ofmatch.setMasked .wlanAddress3 rfl (value.u64.setWidth 48)
        (mask.u64.setWidth 48)
  | .greVersion => ofmatch.setExact .greVersion value.u16
  | .greProtType => ofmatch.setExact .greProtType value.u16
  | .greKey => ofmatch.setExact .greKey value.u32
  | _ => ofmatch

/-- The switch of `of13_map_reverse_flow_entry_matches`. -/
def reverseMatch (ofmatch : OfMatch) (m : M) : OfMatch :=
  let value := api.value m
  let mask := api.mask m
  match api.type m with
  | .inPort => ofmatch.setExact .inPort value.u32
  | .inPhyPort => ofmatch.setExact .inPhyPort value.u32
  | .metadata => ofmatch.setMasked .metadata rfl value.u64 mask.u64
  | .ethDst => ofmatch.setMasked .ethDst rfl (value.u64.setWidth 48) (mask.u64.setWidth 48)
  | .ethSrc => ofmatch.setMasked .ethSrc rfl (value.u64.setWidth 48) (mask.u64.setWidth 48)
  | .ethType => ofmatch.setExact .ethType value.u16
  | .vlanVid => reverseVlanVid ofmatch value.u16 mask.u16 (api.vlanPresent m)
  | .vlanPcp => ofmatch.setExact .vlanPcp value.u8
  | .arpOp => ofmatch.setExact .arpOp value.u16
  | .arpSha => ofmatch.setMasked .arpSha rfl (value.u64.setWidth 48) (mask.u64.setWidth 48)
  | .arpSpa => ofmatch.setMasked .arpSpa rfl value.u32 mask.u32
  | .arpTha => ofmatch.setMasked .arpTha rfl (value.u64.setWidth 48) (mask.u64.setWidth 48)
  | .arpTpa => ofmatch.setMasked .arpTpa rfl value.u32 mask.u32
  | .ipDscp => ofmatch.setExact .ipDscp value.u8
  | .ipEcn => ofmatch.setExact .ipEcn value.u8
  | .ipProto => ofmatch.setExact .ipProto value.u8
  | .ipv4Src => ofmatch.setMasked .ipv4Src rfl value.u32 mask.u32
  | .ipv4Dst => ofmatch.setMasked .ipv4Dst rfl value.u32 mask.u32
  | .tcpSrc => ofmatch.setExact .tcpSrc value.u16
  | .tcpDst => ofmatch.setExact .tcpDst value.u16
  | .udpSrc => ofmatch.setExact .udpSrc value.u16
  | .udpDst => ofmatch.setExact .udpDst value.u16
  | .sctpSrc => ofmatch.setExact .sctpSrc value.u16
  | .sctpDst => ofmatch.setExact .sctpDst value.u16
  | .icmpv4Type => ofmatch.setExact .icmpv4Type value.u8
  | .icmpv4Code => ofmatch.setExact .icmpv4Code value.u8
  | .ipv6Src =>
      ofmatch.setMasked .ipv6Src rfl (unpack (ntohb128 value.u128))
        (unpack (ntohb128 mask.u128))
  | .ipv6Dst =>
      ofmatch.setMasked .ipv6Dst rfl (unpack (ntohb128 value.u128))
        (unpack (ntohb128 mask.u128))
  | .ipv6Flabel => ofmatch.setMasked .ipv6Flabel rfl value.u32 mask.u32
  | .icmpv6Type => ofmatch.setExact .icmpv6Type value.u8
  | .icmpv6Code => ofmatch.setExact .icmpv6Code value.u8
  | .ipv6NdTarget => ofmatch.setExact .ipv6NdTarget (unpack (ntohb128 value.u128))
  | .ipv6NdSll => ofmatch.setExact .ipv6NdSll (value.u64.setWidth 48)
  | .ipv6NdTll => ofmatch.setExact .ipv6NdTll (value.u64.setWidth 48)
  | .mplsLabel => ofmatch.setExact .mplsLabel value.u32
  | .mplsTc => ofmatch.setExact .mplsTc value.u8
  | .mplsBos => ofmatch.setExact .mplsBos value.u8
  | .tunnelId => ofmatch.setExact .tunnelId value.u64
  | .pbbIsid => ofmatch.setMasked .pbbIsid rfl (value.u32.setWidth 24) (mask.u32.setWidth 24)
  | .ipv6Exthdr => ofmatch.setExact .ipv6Exthdr value.u16
  | type => if experimental then reverseExtension ofmatch type value mask else ofmatch

/-- `of13_map_reverse_flow_entry_matches`, from the empty match. -/
def of13MapReverseFlowEntryMatches (ms : List M) : OfMatch :=
  ms.foldl (reverseMatch api experimental) .empty

end Map

/-! ## One field there and back -/

/-- The field, with this value and mask, is read back as it was. -/
def ReadableMatch (experimental : Bool) :
    (f : OxmField) → BitVec f.width → BitVec f.width → Prop
  -- not translated to the pipeline
  | .ipv6Exthdr, _, _ => False
  -- the mask is not read back
  | .tunnelId, _, mask => mask = BitVec.allOnes 64
  -- this mask is taken for that of an exact match
  | .vlanVid, _, (mask : BitVec 16) => mask ≠ 0x0fff
  | f, _, _ => f.isExperimental = true → experimental = true

/-- The value and mask that a field of the pipeline is read back with. -/
def readBack : (f : OxmField) → BitVec f.width → BitVec f.width → f.Masked
  | .tunnelId, value, _ => (value, BitVec.allOnes 64)
  | .vlanVid, (value : BitVec 16), (mask : BitVec 16) =>
      if mask = 0x0fff then (value ||| ofpvidPresent, BitVec.allOnes 16) else (value, mask)
  | _, value, mask => (value, mask)

/-- A field that has a match in the pipeline is read back as it was exactly when it is readable. -/
lemma readBack_eq_iff {experimental : Bool} (f : OxmField) (value mask : BitVec f.width)
    (hf : f ≠ .ipv6Exthdr) (hexp : f.isExperimental = true → experimental = true) :
    readBack f value mask = (value, mask) ↔ ReadableMatch experimental f value mask := by
  cases f with
  | ipv6Exthdr => exact absurd rfl hf
  | tunnelId =>
      exact ⟨fun h => (congrArg Prod.snd h).symm, fun h => congrArg (Prod.mk value) h.symm⟩
  | vlanVid =>
      revert value mask
      dsimp only [OxmField.width]
      intro value mask
      simp only [readBack, ReadableMatch]
      split_ifs with h
      · -- the mask of an exact match is all ones
        refine iff_of_false (fun heq => ?_) fun hne => hne h
        have hmask : BitVec.allOnes 16 = mask := congrArg Prod.snd heq
        rw [h] at hmask
        exact absurd hmask (by decide)
      · exact iff_of_true rfl h
  | _ => exact iff_of_true rfl hexp

section Field

variable {M : Type*} {api : MatchApi M} {experimental : Bool}

/-- The case of the VLAN identifier sets it to what is read back. -/
lemma reverseVlanVid_vlanPresentOf (ofmatch : OfMatch) (value mask : BitVec 16) :
    (reverseVlanVid ofmatch value mask (vlanPresentOf value mask)).field =
      Function.update ofmatch.field .vlanVid (some (readBack .vlanVid value mask)) := by
  by_cases hmask : mask = 0x0fff
  · have hspecific : vlanPresentOf value mask = .specific := by
      rw [vlanPresentOf, if_neg, if_neg]
      · exact fun h => absurd (hmask.symm.trans h.2) (by decide)
      · exact fun h => absurd (hmask.symm.trans h.2) (by decide)
    simp only [hspecific, reverseVlanVid, if_pos hmask, readBack]
    rfl
  · simp only [readBack, if_neg hmask]
    unfold vlanPresentOf
    split_ifs with hany hnone
    · rw [hany.1, hany.2]
      rfl
    · rw [hnone.1, hnone.2]
      rfl
    · simp only [reverseVlanVid, if_neg hmask]
      rfl

lemma reverseVlanVid_others (ofmatch : OfMatch) (value mask : BitVec 16) (p : VlanPresent) :
    (reverseVlanVid ofmatch value mask p).others = ofmatch.others := by
  unfold reverseVlanVid
  split
  · split_ifs <;> rfl
  · rfl
  · rfl

/-- The match made from a basic field sets that field to what is read back, and nothing else. -/
lemma reverseMatch_mapMatchBasic (hapi : api.StoresAsGiven) (f : OxmField)
    (hf : f.isExperimental = false) {value mask : BitVec f.width}
    (hexact : f.isMaskable = false → mask = BitVec.allOnes f.width) {m : M}
    (hm : mapMatchBasic api f value mask = some m) (ofmatch : OfMatch) :
    (reverseMatch api experimental ofmatch m).field =
        Function.update ofmatch.field f (some (readBack f value mask)) ∧
      (reverseMatch api experimental ofmatch m).others = ofmatch.others := by
  cases f with
  | vlanVid =>
      obtain rfl := Option.some.inj hm
      revert value mask
      dsimp only [OxmField.width]
      intro value mask hexact
      have hreverse : reverseMatch api experimental ofmatch
          (api.initVlanVidMatch value mask (vlanPresentOf value mask)) =
          reverseVlanVid ofmatch value mask (vlanPresentOf value mask) := by
        simp [reverseMatch, hapi.type_initVlanVid, hapi.value_initVlanVid, hapi.mask_initVlanVid,
          hapi.vlanPresent_initVlanVid]
      rw [hreverse]
      exact fun _ =>
        ⟨reverseVlanVid_vlanPresentOf ofmatch value mask, reverseVlanVid_others _ _ _ _⟩
  | ipv6Exthdr => cases hm
  | _ =>
      first
      | exact absurd hf (by decide)
      | -- the mask is not read back, but the field is not maskable
        obtain rfl := hexact rfl
        obtain rfl := Option.some.inj hm
        clear hm hexact
        revert value
        dsimp only [OxmField.width]
        intro value
        simp [reverseMatch, hapi.type_init, hapi.value_init, OfMatch.setExact, OfMatch.set,
          readBack, OxmField.width]
      | -- value and mask are read back from the members they were written to
        obtain rfl := Option.some.inj hm
        clear hm hexact
        revert value mask
        dsimp only [OxmField.width]
        intro value mask
        simp [reverseMatch, hapi.type_initMasked, hapi.value_initMasked, hapi.mask_initMasked,
          OfMatch.setExact, OfMatch.setMasked, OfMatch.set, readBack, OxmField.width]

/-- The match made from a field of an extension sets that field to what is read back, and nothing
else. -/
lemma reverseMatch_mapMatchExtension (hapi : api.StoresAsGiven) (f : OxmField)
    (hf : f.isExperimental = true) {value mask : BitVec f.width}
    (hexact : f.isMaskable = false → mask = BitVec.allOnes f.width) {m : M}
    (hm : mapMatchExtension api f value mask = some m) (ofmatch : OfMatch) :
    (reverseMatch api true ofmatch m).field =
        Function.update ofmatch.field f (some (readBack f value mask)) ∧
      (reverseMatch api true ofmatch m).others = ofmatch.others := by
  cases f with
  | _ =>
      first
      | exact absurd hf (by decide)
      | obtain rfl := hexact rfl
        obtain rfl := Option.some.inj hm
        clear hm hexact
        revert value
        dsimp only [OxmField.width]
        intro value
        simp [reverseMatch, reverseExtension, hapi.type_init, hapi.value_init, OfMatch.setExact,
          OfMatch.set, readBack, OxmField.width]
      | obtain rfl := Option.some.inj hm
        clear hm hexact
        revert value mask
        dsimp only [OxmField.width]
        intro value mask
        simp [reverseMatch, reverseExtension, hapi.type_initMasked, hapi.value_initMasked,
          hapi.mask_initMasked, OfMatch.setMasked, OfMatch.set, readBack]

/-- The fields that have a `try` block in this build. -/
def Carried (experimental : Bool) (f : OxmField) : Prop :=
  f ≠ .ipv6Exthdr ∧ (f.isExperimental = true → experimental = true)

instance (f : OxmField) : Decidable (Carried experimental f) :=
  inferInstanceAs (Decidable (_ ∧ _))

lemma isSome_mapMatch (api : MatchApi M) (experimental : Bool) (f : OxmField)
    (value mask : BitVec f.width) :
    (mapMatch api experimental f value mask).isSome = decide (Carried experimental f) := by
  cases experimental <;> cases f <;> rfl

/-- The match made from a field sets that field to what is read back, and nothing else. -/
lemma reverseMatch_mapMatch (hapi : api.StoresAsGiven) (f : OxmField) {value mask : BitVec f.width}
    (hexact : f.isMaskable = false → mask = BitVec.allOnes f.width) {m : M}
    (hm : mapMatch api experimental f value mask = some m) (ofmatch : OfMatch) :
    (reverseMatch api experimental ofmatch m).field =
        Function.update ofmatch.field f (some (readBack f value mask)) ∧
      (reverseMatch api experimental ofmatch m).others = ofmatch.others := by
  unfold mapMatch at hm
  split_ifs at hm with hf hexp
  · subst hexp
    exact reverseMatch_mapMatchExtension hapi f hf hexact hm ofmatch
  · exact reverseMatch_mapMatchBasic hapi f (by simpa using hf) hexact hm ofmatch

/-! ## The whole match -/

/-- Every `try` block sets its own field. -/
lemma setsItsField (hapi : api.StoresAsGiven) (experimental : Bool) :
    SetsItsField (mapMatch api experimental) (reverseMatch api experimental) readBack :=
  fun f _ _ hexact _ hm ofmatch => reverseMatch_mapMatch hapi f hexact hm ofmatch

/-- Every field but that of the extension headers has its `try` block, in one place. -/
lemma mem_matchOrder_iff (f : OxmField) : f ∈ matchOrder ↔ f ≠ .ipv6Exthdr := by
  cases f <;> decide

lemma nodup_matchOrder : matchOrder.Nodup := by decide

/-- A field with a readable value and mask has a `try` block. -/
lemma ReadableMatch.carried {f : OxmField} {value mask : BitVec f.width}
    (h : ReadableMatch experimental f value mask) : Carried experimental f := by
  cases f <;>
    first
    | exact h.elim
    | exact ⟨by decide, h⟩
    | exact ⟨by decide, fun hexp => absurd hexp (by decide)⟩

/-- **Which matches are translated faithfully.**  The match that is read back from the pipeline is
the one that was translated, field by field with the same values and masks, exactly when it has
only fields that the translation knows and each of them is readable. -/
theorem of13Matches_faithful_iff {M : Type*} {api : MatchApi M}
    (hapi : api.StoresAsGiven) (experimental : Bool) (ofmatch : OfMatch) :
    of13MapReverseFlowEntryMatches api experimental
        (of13MapFlowEntryMatches api experimental ofmatch) = ofmatch ↔
      ofmatch.others = [] ∧
        ∀ f value mask, ofmatch.field f = some (value, mask) →
          ReadableMatch experimental f value mask := by
  refine (foldl_mapField_eq_iff (setsItsField hapi experimental) ofmatch nodup_matchOrder).trans
    (and_congr_right fun _ => forall_congr' fun f => forall_congr' fun value =>
      forall_congr' fun mask => forall_congr' fun _ => ?_)
  rw [isSome_mapMatch, decide_eq_true_iff, mem_matchOrder_iff]
  constructor
  · rintro ⟨-, hcarried, hback⟩
    exact (readBack_eq_iff f value mask hcarried.1 hcarried.2).mp hback
  · intro hreadable
    have hcarried := hreadable.carried
    exact ⟨hcarried.1, hcarried,
      (readBack_eq_iff f value mask hcarried.1 hcarried.2).mpr hreadable⟩

/-- A match on the packets of IPv4 to the network `10.0.0.0/8`. -/
def ofMatchIpv4Net : OfMatch :=
  (OfMatch.empty.setExact .ethType (0x0800 : BitVec 16)).setMasked .ipv4Dst rfl
    (0x0a000000 : BitVec 32) (0xff000000 : BitVec 32)

/-- A match that is translated faithfully. -/
theorem of13Matches_faithful_ipv4Net :
    of13MapReverseFlowEntryMatches MatchApi.record false
      (of13MapFlowEntryMatches MatchApi.record false ofMatchIpv4Net) = ofMatchIpv4Net := by
  refine (of13Matches_faithful_iff
    MatchApi.record_storesAsGiven false ofMatchIpv4Net).mpr ⟨rfl, fun f value mask hf => ?_⟩
  have hmem : f = .ethType ∨ f = .ipv4Dst := by
    by_contra hne
    rw [not_or] at hne
    have hnone : ofMatchIpv4Net.field f = none := by
      simp [ofMatchIpv4Net, OfMatch.setMasked, OfMatch.setExact, OfMatch.set, OfMatch.empty, hne.1,
        hne.2]
    rw [hnone] at hf
    cases hf
  rcases hmem with rfl | rfl <;> exact fun h => absurd h (by decide)

/-- The mask of a match on the tunnel identifier is lost: `0x5/0xff` comes back as an exact match
on `0x5`. -/
theorem of13Matches_not_faithful_tunnelId :
    ¬ ∀ (api : MatchApi (MatchType × WrapUint × WrapUint × VlanPresent)),
      api.StoresAsGiven → ∀ (experimental : Bool) (ofmatch : OfMatch),
        of13MapReverseFlowEntryMatches api experimental
          (of13MapFlowEntryMatches api experimental ofmatch) = ofmatch := by
  intro hall
  have heq := hall MatchApi.record MatchApi.record_storesAsGiven false
    (OfMatch.empty.setMasked .tunnelId rfl (0x5 : BitVec 64) (0xff : BitVec 64))
  have hfield := congrArg (fun m => m.field .tunnelId) heq
  have hback := field_foldl_mapField (setsItsField MatchApi.record_storesAsGiven false)
    (OfMatch.empty.setMasked .tunnelId rfl (0x5 : BitVec 64) (0xff : BitVec 64))
    nodup_matchOrder .tunnelId
  exact absurd (hback.symm.trans hfield) (by decide)

end Field

end Xdpd.OpenFlow.Of13
