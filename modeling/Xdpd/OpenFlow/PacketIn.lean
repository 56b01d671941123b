import Mathlib.Data.Set.Basic
import Xdpd.OpenFlow.Pipeline

/-!
# The match of a packet-in

A packet-in carries an OXM match that is built from the `packet_matches_t` of the packet, by
`of12_map_reverse_packet_matches` or `of13_map_reverse_packet_matches`.  That record has a value for
every field, and not which headers the packet has: a field is added to the match when its value is
not zero.
-/

namespace Xdpd.OpenFlow

open Xdpd.Lib

/-! ## The record of the values -/

namespace OxmField

/-- The number of bits of what `packet_matches_get_*_value` returns for the field. -/
def valueWidth : OxmField → ℕ
  | .ethDst | .ethSrc | .arpSha | .arpTha | .ipv6NdSll | .ipv6NdTll | .wlanAddress1
  | .wlanAddress2 | .wlanAddress3 => 64
  | .pbbIsid => 32
  | f => f.width

lemma width_le_valueWidth (f : OxmField) : f.width ≤ f.valueWidth := by
  cases f <;> decide

end OxmField

/-- `packet_matches_t`, by its getters.  A value of 128 bits is in host order. -/
abbrev PacketMatches := (f : OxmField) → BitVec f.valueWidth

/-- What a packet has of each field: its value, or none when it has no such header. -/
abbrev HeaderFields := (f : OxmField) → Option (BitVec f.width)

/-- The record holds the value of every field of the packet, and zero for a field of a header that
the packet does not have. -/
def Fills {P : Type*} (fields : P → HeaderFields) (fillPacketMatches : P → PacketMatches) : Prop :=
  ∀ p f, fillPacketMatches p f = ((fields p f).getD 0).setWidth f.valueWidth

/-! ## The two functions -/

section Blocks

variable (pm : PacketMatches)

/-- The call that adds the field to the match.  An address of 48 bits is cut from a word by
`cmacaddr`; one of 128 bits is put in network order and unpacked. -/
def setPacketField (ofmatch : OfMatch) : (f : OxmField) → BitVec f.valueWidth → OfMatch
  | .ipv6Src, v => ofmatch.setExact .ipv6Src (unpack (ntohb128 (leBytes v)))
  | .ipv6Dst, v => ofmatch.setExact .ipv6Dst (unpack (ntohb128 (leBytes v)))
  | .ipv6NdTarget, v => ofmatch.setExact .ipv6NdTarget (unpack (ntohb128 (leBytes v)))
  | f, v => ofmatch.setExact f (v.setWidth f.width)

/-- The block of a field: `if (packet_matches_get_*_value(pm))`. -/
def packetBlock (ofmatch : OfMatch) (f : OxmField) : OfMatch :=
  if pm f ≠ 0 then setPacketField ofmatch f (pm f) else ofmatch

/-- The blocks that both versions have, in their order. -/
def packetFields : List OxmField :=
  [.inPort, .inPhyPort, .metadata, .ethDst, .ethSrc, .ethType, .vlanVid, .vlanPcp, .arpOp, .arpSha,
   .arpSpa, .arpTha, .arpTpa, .ipDscp, .ipEcn, .ipProto, .ipv4Src, .ipv4Dst, .tcpSrc, .tcpDst,
   .udpSrc, .udpDst, .sctpSrc, .sctpDst, .icmpv4Type, .icmpv4Code, .ipv6Src, .ipv6Dst, .ipv6Flabel,
   .ipv6NdTarget, .ipv6NdSll, .ipv6NdTll, .icmpv6Type, .icmpv6Code, .mplsLabel, .mplsTc]

/-- The blocks that only OpenFlow 1.3 has. -/
def packetFields13 : List OxmField :=
  [.mplsBos, .tunnelId, .pbbIsid, .ipv6Exthdr]

/-- The blocks that are compiled in with `EXPERIMENTAL`. -/
def packetExtensions : List OxmField :=
  [.pppoeCode, .pppoeType, .pppoeSid, .pppProt, .gtpMsgtype, .gtpTeid, .capwapWbid, .capwapRid,
   .capwapFlags, .wlanFc, .wlanType, .wlanSubtype, .wlanDirection, .wlanAddress1, .wlanAddress2,
   .wlanAddress3, .greVersion, .greProtType, .greKey]

variable (experimental : Bool)

/-- `of12_map_reverse_packet_matches`, from the empty match. -/
def of12MapReversePacketMatches : OfMatch :=
  (packetFields ++ if experimental then packetExtensions else []).foldl (packetBlock pm) .empty

/-- `of13_map_reverse_packet_matches`, from the empty match. -/
def of13MapReversePacketMatches : OfMatch :=
  (packetFields ++ packetFields13 ++ if experimental then packetExtensions else []).foldl
    (packetBlock pm) .empty

end Blocks

/-- The version of OpenFlow that the controller speaks. -/
inductive Version
  | of12 | of13
  deriving DecidableEq, Repr

/-- The fields that the version has. -/
def Version.hasField : Version → OxmField → Bool
  | .of12, .mplsBos | .of12, .tunnelId | .of12, .pbbIsid | .of12, .ipv6Exthdr => false
  | _, _ => true

/-- The match that the endpoint of the version sends with a packet-in. -/
def mapReversePacketMatches (version : Version) (experimental : Bool) (pm : PacketMatches) :
    OfMatch :=
  match version with
  | .of12 => of12MapReversePacketMatches pm experimental
  | .of13 => of13MapReversePacketMatches pm experimental

/-! ## What the match says about the packet -/

/-- The match has exactly the fields of the version that the packet has, with their values. -/
def MatchComplete (version : Version) (fields : HeaderFields) (ofmatch : OfMatch) : Prop :=
  ∀ f, version.hasField f = true →
    ofmatch.field f = (fields f).map fun v => (v, BitVec.allOnes f.width)

/-- The two packets have the same fields of the version. -/
def SameFields (version : Version) (fields fields' : HeaderFields) : Prop :=
  ∀ f, version.hasField f = true → fields f = fields' f

/-- No field of the packet is zero, and it has a field of an extension only when the extensions are
compiled in. -/
def PresenceInferable (version : Version) (experimental : Bool) (fields : HeaderFields) : Prop :=
  ∀ f v, version.hasField f = true → fields f = some v →
    v ≠ 0 ∧ (f.isExperimental = true → experimental = true)

section Blocks

variable {pm : PacketMatches} {fields : HeaderFields}

/-- An address in host order is unpacked to itself. -/
lemma unpack_ntohb128_leBytes (v : BitVec 128) : unpack (ntohb128 (leBytes v)) = v := by
  rw [unpack, ofBeBytes, ntohb128, ofLeBytes_congr fun i hi => swapBytes_swapBytes _ hi,
    ofLeBytes_leBytes]
  exact BitVec.setWidth_eq v

/-- The call adds the value of the field, which the record holds in a word that is wide enough. -/
lemma setPacketField_setWidth (ofmatch : OfMatch) (f : OxmField) (v : BitVec f.width) :
    setPacketField ofmatch f (v.setWidth f.valueWidth) = ofmatch.setExact f v := by
  have hback : (v.setWidth f.valueWidth).setWidth f.width = v := by
    rw [BitVec.setWidth_setWidth_of_le _ f.width_le_valueWidth, BitVec.setWidth_eq]
  cases f with
  | ipv6Src =>
      exact congrArg (ofmatch.setExact .ipv6Src) ((unpack_ntohb128_leBytes _).trans hback)
  | ipv6Dst =>
      exact congrArg (ofmatch.setExact .ipv6Dst) ((unpack_ntohb128_leBytes _).trans hback)
  | ipv6NdTarget =>
      exact congrArg (ofmatch.setExact .ipv6NdTarget) ((unpack_ntohb128_leBytes _).trans hback)
  | _ => exact congrArg (ofmatch.setExact _) hback

/-- What is added for a field of the packet. -/
def shown (fields : HeaderFields) (f : OxmField) : Option f.Masked :=
  ((fields f).filter (· ≠ 0)).map fun v => (v, BitVec.allOnes f.width)

/-- A word is zero exactly when the wider word that holds it is. -/
lemma setWidth_valueWidth_eq_zero_iff (f : OxmField) (v : BitVec f.width) :
    v.setWidth f.valueWidth = 0 ↔ v = 0 := by
  constructor
  · intro h
    have hback : (v.setWidth f.valueWidth).setWidth f.width = v := by
      rw [BitVec.setWidth_setWidth_of_le _ f.width_le_valueWidth, BitVec.setWidth_eq]
    rw [← hback, h]
    exact BitVec.setWidth_zero _ _
  · rintro rfl
    exact BitVec.setWidth_zero _ _

/-- A block adds what is shown of its field, and nothing else. -/
lemma packetBlock_field (hpm : ∀ f, pm f = ((fields f).getD 0).setWidth f.valueWidth)
    (ofmatch : OfMatch) (g f : OxmField) :
    (packetBlock pm ofmatch g).field f =
      if f = g then (shown fields f).or (ofmatch.field f) else ofmatch.field f := by
  rw [packetBlock, hpm g]
  cases hg : fields g with
  | none =>
      rw [Option.getD_none, if_neg (not_not.2 ((setWidth_valueWidth_eq_zero_iff g 0).2 rfl))]
      split_ifs with hfg
      · subst hfg
        rw [shown, hg]
        rfl
      · rfl
  | some v =>
      rw [Option.getD_some, setPacketField_setWidth]
      by_cases hv : v = 0
      · rw [if_neg (not_not.2 ((setWidth_valueWidth_eq_zero_iff g v).2 hv))]
        split_ifs with hfg
        · subst hfg
          rw [shown, hg, Option.filter_some_neg (by simpa using hv)]
          rfl
        · rfl
      · rw [if_pos fun h => hv ((setWidth_valueWidth_eq_zero_iff g v).1 h)]
        split_ifs with hfg
        · subst hfg
          rw [shown, hg, Option.filter_some_pos (by simpa using hv)]
          exact Function.update_self ..
        · exact Function.update_of_ne hfg ..

/-- The blocks add what is shown of their fields, and nothing else. -/
lemma foldl_packetBlock (hpm : ∀ f, pm f = ((fields f).getD 0).setWidth f.valueWidth)
    (order : List OxmField) (ofmatch : OfMatch) (f : OxmField) :
    (order.foldl (packetBlock pm) ofmatch).field f =
      if f ∈ order then (shown fields f).or (ofmatch.field f) else ofmatch.field f := by
  induction order generalizing ofmatch with
  | nil => rfl
  | cons g order ih =>
      rw [List.foldl_cons, ih, packetBlock_field hpm]
      by_cases hfg : f = g
      · subst hfg
        simp only [if_true, List.mem_cons_self]
        split_ifs
        · rw [← Option.or_assoc, Option.or_self]
        · rfl
      · simp only [List.mem_cons, hfg, false_or, if_false]

/-- A field is shown as the packet has it exactly when it is not zero. -/
lemma shown_eq_iff (f : OxmField) :
    (shown fields f = (fields f).map fun v => (v, BitVec.allOnes f.width)) ↔
      ∀ v, fields f = some v → v ≠ 0 := by
  rw [shown]
  cases fields f with
  | none => exact iff_of_true rfl nofun
  | some v =>
      constructor
      · rintro h _ ⟨⟩ hv
        rw [Option.filter_some_neg (by simpa using hv)] at h
        exact absurd h nofun
      · intro h
        rw [Option.filter_some_pos (by simpa using h v rfl)]

/-- The blocks of the function of the version, in their order. -/
def packetOrder (version : Version) (experimental : Bool) : List OxmField :=
  match version with
  | .of12 => packetFields ++ if experimental then packetExtensions else []
  | .of13 => packetFields ++ packetFields13 ++ if experimental then packetExtensions else []

lemma mem_packetOrder_iff {version : Version} {experimental : Bool} {f : OxmField}
    (hf : version.hasField f = true) :
    f ∈ packetOrder version experimental ↔ (f.isExperimental = true → experimental = true) := by
  revert hf
  cases version <;> cases experimental <;> cases f <;> decide

/-- What the match of a packet-in has of a field of the version. -/
lemma mapReversePacketMatches_field
    (hpm : ∀ f, pm f = ((fields f).getD 0).setWidth f.valueWidth) {version : Version}
    (experimental : Bool) {f : OxmField} (hf : version.hasField f = true) :
    (mapReversePacketMatches version experimental pm).field f =
      if f.isExperimental = true → experimental = true then shown fields f else none := by
  have hblocks : mapReversePacketMatches version experimental pm =
      (packetOrder version experimental).foldl (packetBlock pm) .empty := by
    cases version <;> rfl
  rw [hblocks, foldl_packetBlock hpm]
  refine if_congr (mem_packetOrder_iff hf) ?_ rfl
  exact Option.or_none

/-- The match of a packet-in is complete exactly when the presence of every field of the packet can
be inferred from its value. -/
lemma matchComplete_iff (hpm : ∀ f, pm f = ((fields f).getD 0).setWidth f.valueWidth)
    (version : Version) (experimental : Bool) :
    MatchComplete version fields (mapReversePacketMatches version experimental pm) ↔
      PresenceInferable version experimental fields := by
  constructor
  · intro hcomplete f v hf hv
    have hfield := hcomplete f hf
    rw [mapReversePacketMatches_field hpm experimental hf] at hfield
    split_ifs at hfield with hexp
    · exact ⟨(shown_eq_iff f).1 hfield v hv, hexp⟩
    · rw [hv] at hfield
      exact absurd hfield nofun
  · intro hinferable f hf
    rw [mapReversePacketMatches_field hpm experimental hf]
    split_ifs with hexp
    · exact (shown_eq_iff f).2 fun v hv => (hinferable f v hf hv).1
    · cases hv : fields f with
      | none => rfl
      | some v => exact absurd (hinferable f v hf hv).2 hexp

/-- A complete match determines the fields of the packet. -/
lemma MatchComplete.sameFields {version : Version} {fields' : HeaderFields} {ofmatch : OfMatch}
    (h : MatchComplete version fields ofmatch) (h' : MatchComplete version fields' ofmatch) :
    SameFields version fields fields' := by
  intro f hf
  have hinj : Function.Injective fun v : BitVec f.width => (v, BitVec.allOnes f.width) :=
    fun _ _ heq => congrArg Prod.fst heq
  exact Option.map_injective hinj ((h f hf).symm.trans (h' f hf))

end Blocks

section PacketIn

variable {P : Type*} {fields : P → HeaderFields} {fillPacketMatches : P → PacketMatches}

/-- **Which packets a packet-in describes.**  For a class of packets, the match of a packet-in has
exactly the fields of each packet and tells apart those with different fields, exactly when no
field of any of them is zero and none belongs to an extension that is not compiled in. -/
theorem packetIn_complete_iff (hfill : Fills fields fillPacketMatches) (version : Version)
    (experimental : Bool) (S : Set P) :
    ((∀ p ∈ S, MatchComplete version (fields p)
          (mapReversePacketMatches version experimental (fillPacketMatches p))) ∧
        ∀ p ∈ S, ∀ q ∈ S,
          mapReversePacketMatches version experimental (fillPacketMatches p) =
            mapReversePacketMatches version experimental (fillPacketMatches q) →
          SameFields version (fields p) (fields q)) ↔
      ∀ p ∈ S, PresenceInferable version experimental (fields p) := by
  have hiff := fun p => matchComplete_iff (hfill p) version experimental
  constructor
  · rintro ⟨hcomplete, -⟩ p hp
    exact (hiff p).1 (hcomplete p hp)
  · intro hinferable
    have hcomplete := fun p hp => (hiff p).2 (hinferable p hp)
    refine ⟨hcomplete, fun p hp q hq heq => (hcomplete p hp).sameFields ?_⟩
    rw [heq]
    exact hcomplete q hq

/-- The fields of an ICMP packet that came in on port 1. -/
def icmpPacket (icmpType icmpCode : BitVec 8) : HeaderFields
  | .inPort => some (1 : BitVec 32)
  | .inPhyPort => some (1 : BitVec 32)
  | .ethDst => some (0x020000000001 : BitVec 48)
  | .ethSrc => some (0x020000000002 : BitVec 48)
  | .ethType => some (0x0800 : BitVec 16)
  | .ipDscp => some (46 : BitVec 8)
  | .ipEcn => some (1 : BitVec 8)
  | .ipProto => some (1 : BitVec 8)
  | .ipv4Src => some (0x0a000001 : BitVec 32)
  | .ipv4Dst => some (0x0a000002 : BitVec 32)
  | .icmpv4Type => some icmpType
  | .icmpv4Code => some icmpCode
  | _ => none

/-- The record of the values of some fields. -/
def recordOf (fields : HeaderFields) : PacketMatches :=
  fun f => ((fields f).getD 0).setWidth f.valueWidth

/-- The message that a host cannot be reached has no field that is zero. -/
theorem packetIn_complete_unreachable :
    (∀ p ∈ ({icmpPacket 3 1} : Set HeaderFields), MatchComplete .of13 p
          (mapReversePacketMatches .of13 false (recordOf p))) ∧
      ∀ p ∈ ({icmpPacket 3 1} : Set HeaderFields), ∀ q ∈ ({icmpPacket 3 1} : Set HeaderFields),
        mapReversePacketMatches .of13 false (recordOf p) =
          mapReversePacketMatches .of13 false (recordOf q) → SameFields .of13 p q := by
  have hfill : Fills id recordOf := fun _ _ => rfl
  refine (packetIn_complete_iff hfill .of13 false {icmpPacket 3 1}).2 ?_
  rintro p rfl f v - hv
  cases f <;> cases hv <;>
    exact ⟨fun h => absurd (congrArg BitVec.toNat h) (by decide), fun h => absurd h (by decide)⟩

/-- The match of an echo reply has neither its type nor its code, both of which are zero. -/
theorem packetIn_not_complete_echoReply :
    ¬ ∀ (fields : HeaderFields → HeaderFields) (fillPacketMatches : HeaderFields → PacketMatches),
      Fills fields fillPacketMatches → ∀ version experimental p,
        MatchComplete version (fields p)
          (mapReversePacketMatches version experimental (fillPacketMatches p)) := by
  intro hall
  have hcomplete := hall id recordOf (fun _ _ => rfl) .of13 false (icmpPacket 0 0)
  exact absurd (hcomplete .icmpv4Type rfl) (by decide)

end PacketIn

end Xdpd.OpenFlow
