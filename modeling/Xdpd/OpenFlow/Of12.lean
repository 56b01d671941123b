import Xdpd.OpenFlow.Of13Actions
import Xdpd.OpenFlow.Of13Matches

/-!
# Translation of OpenFlow 1.2 matches and actions

The four functions of `of12_translation_utils` are those of OpenFlow 1.3 without the cases of what
OpenFlow 1.2 does not have: push-pbb and pop-pbb, and the fields `MPLS_BOS`, `TUNNEL_ID`,
`PBB_ISID` and `IPV6_EXTHDR`.  The other cases are the same, line by line, but for the VLAN
identifier of a match.
-/

namespace Xdpd.OpenFlow.Of12

open Xdpd.Lib
open Of13 (CofAction ReverseError of13MapFlowEntryAction of13MapReverseFlowEntryAction)

/-! ## What OpenFlow 1.2 has -/

/-- The fields with a case in the functions of OpenFlow 1.2. -/
def isOf12Field : OxmField → Bool
  | .mplsBos | .tunnelId | .pbbIsid | .ipv6Exthdr => false
  | _ => true

/-- The actions with a case in `of12_map_flow_entry_actions`. -/
def isOf12Action : CofAction → Bool
  | .pushPbb _ | .popPbb => false
  | .setField (.known oxm_field _) => isOf12Field oxm_field
  | _ => true

/-- The actions of the pipeline with a case in `of12_map_reverse_flow_entry_action`. -/
def isOf12ActionType : ActionType → Bool
  | .pushPbb | .popPbb | .setFieldMplsBos | .setFieldTunnelId | .setFieldPbbIsid
  | .setFieldIpv6Exthdr => false
  | _ => true

/-- The matches of the pipeline with a case in `of12_map_reverse_flow_entry_matches`. -/
def isOf12MatchType : MatchType → Bool
  | .mplsBos | .tunnelId | .pbbIsid | .ipv6Exthdr => false
  | _ => true

/-! ## Actions -/

section Actions

variable {A : Type*} (api : PacketActionApi A) (experimental : Bool)

/-- The body of the loop of `of12_map_flow_entry_actions`. -/
def of12MapFlowEntryAction (action : CofAction) : Option A :=
  if isOf12Action action then of13MapFlowEntryAction api experimental action else none

/-- `of12_map_flow_entry_actions`: what is pushed to the action group, `none` standing for
`NULL`. -/
def of12MapFlowEntryActions (actions : List CofAction) : List (Option A) :=
  actions.map (of12MapFlowEntryAction api experimental)

/-- `of12_map_reverse_flow_entry_action`: the action that is added, if any.  None is refused. -/
def of12MapReverseFlowEntryAction (action : A) : Except ReverseError (Option CofAction) :=
  if isOf12ActionType (api.type action) then
    of13MapReverseFlowEntryAction api experimental action
  else .ok none

/-- What the loop over the actions of a group adds for one of them. -/
def readAction (action : A) : Except ReverseError (List CofAction) :=
  if api.type action = .noAction then .ok []
  else (of12MapReverseFlowEntryAction api experimental action).map Option.toList

/-- The loop of `of12_map_reverse_flow_entry_instruction_apply_actions`. -/
def of12MapReverseFlowEntryActions (actions : List A) : Except ReverseError (List CofAction) :=
  readAll (readAction api experimental) actions

/-- The list of actions survives the two translations: every action becomes an action of the
pipeline, none of them `NULL`, and these are read back as the same list. -/
def ActionsFaithful (actions : List CofAction) : Prop :=
  ∃ packet_actions : List A,
    of12MapFlowEntryActions api experimental actions = packet_actions.map some ∧
    of12MapReverseFlowEntryActions api experimental packet_actions = .ok actions

/-- The action is translated to the pipeline and read back as it was. -/
def Readable (action : CofAction) : Prop :=
  isOf12Action action = true ∧ action.Readable experimental

variable {api experimental}

/-- A field of OpenFlow 1.2 is set by an action that has a case on the way back. -/
lemma isOf12ActionType_mapSetFieldBasic {f : OxmField} (v : BitVec f.width)
    (hf : isOf12Field f = true) :
    ∀ p ∈ Of13.mapSetFieldBasic f v, isOf12ActionType p.1 = true := by
  intro p hp
  cases f with
  | mplsBos => exact absurd hf (by decide)
  | tunnelId => exact absurd hf (by decide)
  | pbbIsid => exact absurd hf (by decide)
  | ipv6Exthdr => exact absurd hf (by decide)
  | _ =>
      first
      | exact absurd hp (Option.not_mem_none p)
      | obtain rfl := Option.some.inj hp
        rfl

lemma isOf12ActionType_mapSetFieldExperimenter {f : OxmField} (v : BitVec f.width) :
    ∀ p ∈ Of13.mapSetFieldExperimenter f v, isOf12ActionType p.1 = true := by
  intro p hp
  cases f with
  | _ =>
      first
      | exact absurd hp (Option.not_mem_none p)
      | obtain rfl := Option.some.inj hp
        rfl

/-- An action of OpenFlow 1.2 becomes one that has a case on the way back. -/
lemma isOf12ActionType_of_map (hapi : api.StoresAsGiven) {action : CofAction} {a : A}
    (haction : isOf12Action action = true)
    (ha : of13MapFlowEntryAction api experimental action = some a) :
    isOf12ActionType (api.type a) = true := by
  cases action with
  | pushPbb eth_type => exact absurd haction Bool.false_ne_true
  | popPbb => exact absurd haction Bool.false_ne_true
  | setField oxm =>
      obtain ⟨p, hmap, rfl⟩ := Option.map_eq_some_iff.1 ha
      rw [hapi.type_init]
      cases oxm with
      | other oxm_class oxm_field => cases hmap
      | known f v =>
          rw [Of13.mapSetField] at hmap
          split_ifs at hmap with hf
          · exact isOf12ActionType_mapSetFieldExperimenter v p hmap
          · exact isOf12ActionType_mapSetFieldBasic v haction p hmap
  | experimenter exp_id exp_type ether_type =>
      rw [of13MapFlowEntryAction] at ha
      split_ifs at ha
      obtain rfl := Option.some.inj ha
      rw [hapi.type_init]
      cases exp_id <;> cases exp_type <;> rfl
  | otherExperimenter exp_id exp_body => cases ha
  | other type => cases ha
  | _ =>
      obtain rfl := Option.some.inj ha
      rw [hapi.type_init]
      rfl

lemma survives_of12MapFlowEntryAction (hapi : api.StoresAsGiven) (experimental : Bool)
    (action : CofAction) :
    Survives (of12MapFlowEntryAction api experimental) (readAction api experimental) action
      (Readable experimental action) := by
  by_cases haction : isOf12Action action = true
  · have hmap : of12MapFlowEntryAction api experimental action =
        of13MapFlowEntryAction api experimental action := if_pos haction
    have hread : ∀ a, of13MapFlowEntryAction api experimental action = some a →
        readAction api experimental a = Of13.readAction api experimental a := by
      intro a ha
      have htype := isOf12ActionType_of_map hapi haction ha
      rw [readAction, of12MapReverseFlowEntryAction, if_pos htype]
      rfl
    rcases Of13.survives_of13MapFlowEntryAction hapi experimental action with
      ⟨hnone, hnot⟩ | ⟨a, ha, hback⟩
    · exact .inl ⟨hmap.trans hnone, fun h => hnot h.2⟩
    · refine .inr ⟨a, hmap.trans ha, ?_⟩
      rw [hread a ha]
      rcases hback with ⟨herror, hnot⟩ | ⟨a', ha', hiff⟩
      · exact .inl ⟨herror, fun h => hnot h.2⟩
      · exact .inr ⟨a', ha', hiff.trans (and_iff_right haction).symm⟩
  · exact .inl ⟨if_neg haction, fun h => haction h.1⟩

/-- A list of actions survives exactly when every action of it is readable. -/
lemma of12Actions_faithful_iff (hapi : api.StoresAsGiven) (experimental : Bool)
    (actions : List CofAction) :
    ActionsFaithful api experimental actions ↔ ∀ action ∈ actions, Readable experimental action :=
  translatesBack_iff (survives_of12MapFlowEntryAction hapi experimental) actions

end Actions

/-! ## Matches -/

section Matches

variable {M : Type*} (api : MatchApi M) (experimental : Bool)

/-- The choice of `vlan_present`.  The last case is an assertion that fails, with no effect when
assertions are compiled out. -/
def vlanPresentOf (value mask : BitVec 16) : VlanPresent :=
  if value = ofpvidPresent ∧ mask = ofpvidPresent then .any
  else if value = ofpvidNone ∧ mask = 0xffff then .none
  else if value ≠ 0 then .specific
  else .none

/-- The match that is made from a field, in its `try` block. -/
def mapMatch : (f : OxmField) → BitVec f.width → BitVec f.width → Option M
  | .vlanVid, v, k => some (api.initVlanVidMatch v k (vlanPresentOf v k))
  | f, v, k => if isOf12Field f then Of13.mapMatch api experimental f v k else none

/-- The fields in the order of their `try` blocks. -/
def matchOrder : List OxmField :=
  Of13.matchOrder.filter isOf12Field

/-- `of12_map_flow_entry_matches`: the matches that are added to the entry. -/
def of12MapFlowEntryMatches (ofmatch : OfMatch) : List M :=
  matchOrder.flatMap (mapField (mapMatch api experimental) ofmatch)

/-- The case `OF1X_MATCH_VLAN_VID`. -/
def reverseVlanVid (ofmatch : OfMatch) (value mask : BitVec 16) : VlanPresent → OfMatch
  | .specific => ofmatch.setMasked .vlanVid OxmField.isMaskable_vlanVid value mask
  | .none => ofmatch.setExact .vlanVid ofpvidNone
  | .any => ofmatch.setMasked .vlanVid OxmField.isMaskable_vlanVid ofpvidPresent ofpvidPresent

/-- The switch of `of12_map_reverse_flow_entry_matches`. -/
def reverseMatch (ofmatch : OfMatch) (m : M) : OfMatch :=
  if api.type m = .vlanVid then
    reverseVlanVid ofmatch (api.value m).u16 (api.mask m).u16 (api.vlanPresent m)
  else if isOf12MatchType (api.type m) then Of13.reverseMatch api experimental ofmatch m
  else ofmatch

/-- `of12_map_reverse_flow_entry_matches`, from the empty match. -/
def of12MapReverseFlowEntryMatches (ms : List M) : OfMatch :=
  ms.foldl (reverseMatch api experimental) .empty

/-- The match survives the two translations. -/
def MatchFaithful (ofmatch : OfMatch) : Prop :=
  of12MapReverseFlowEntryMatches api experimental
    (of12MapFlowEntryMatches api experimental ofmatch) = ofmatch

/-- The field, with this value and mask, is read back as it was. -/
def ReadableMatch : (f : OxmField) → BitVec f.width → BitVec f.width → Prop
  -- not translated to the pipeline
  | .mplsBos, _, _ | .tunnelId, _, _ | .pbbIsid, _, _ | .ipv6Exthdr, _, _ => False
  -- the value zero is taken for the absence of a tag, whatever the mask
  | .vlanVid, (value : BitVec 16), (mask : BitVec 16) => value = 0 → mask = BitVec.allOnes 16
  | f, _, _ => f.isExperimental = true → experimental = true

/-- The value and mask that a field of the pipeline is read back with. -/
def readBack : (f : OxmField) → BitVec f.width → BitVec f.width → f.Masked
  | .vlanVid, (value : BitVec 16), (mask : BitVec 16) =>
      if value = 0 then (ofpvidNone, BitVec.allOnes 16) else (value, mask)
  | f, value, mask => Of13.readBack f value mask

variable {api experimental}

/-- The case of the VLAN identifier sets it to what is read back. -/
lemma reverseVlanVid_vlanPresentOf (ofmatch : OfMatch) (value mask : BitVec 16) :
    (reverseVlanVid ofmatch value mask (vlanPresentOf value mask)).field =
      Function.update ofmatch.field .vlanVid (some (readBack .vlanVid value mask)) := by
  by_cases hzero : value = 0
  · -- whatever the mask, the field is read back as the absence of a tag
    have hnone : vlanPresentOf value mask = .none := by
      rw [vlanPresentOf, if_neg fun h => absurd (hzero.symm.trans h.1) (by decide)]
      split_ifs <;> trivial
    simp only [hnone, readBack, if_pos hzero]
    rfl
  · simp only [readBack, if_neg hzero]
    rw [vlanPresentOf]
    split_ifs with hany hnone
    · rw [hany.1, hany.2]
      rfl
    · exact absurd hnone.1 hzero
    · rfl

lemma reverseVlanVid_others (ofmatch : OfMatch) (value mask : BitVec 16) (p : VlanPresent) :
    (reverseVlanVid ofmatch value mask p).others = ofmatch.others := by
  cases p <;> rfl

/-- A field of OpenFlow 1.2 other than the VLAN identifier becomes a match that has a case on the
way back, the one of OpenFlow 1.3. -/
lemma isOf12MatchType_of_map (hapi : api.StoresAsGiven) {f : OxmField} (hf : isOf12Field f = true)
    (hvlan : f ≠ .vlanVid) {value mask : BitVec f.width} :
    ∀ m ∈ Of13.mapMatch api experimental f value mask,
      api.type m ≠ .vlanVid ∧ isOf12MatchType (api.type m) = true := by
  intro m hm
  rw [Of13.mapMatch] at hm
  split_ifs at hm with hexp hbuild
  · cases f <;>
      first
      | exact absurd hexp (by decide)
      | obtain rfl := Option.some.inj hm
        first
        | rw [hapi.type_init]
          exact ⟨by decide, rfl⟩
        | rw [hapi.type_initMasked]
          exact ⟨by decide, rfl⟩
  · exact absurd hm (Option.not_mem_none m)
  · cases f <;>
      first
      | exact absurd rfl hvlan
      | exact absurd hf (by decide)
      | exact absurd hexp (by decide)
      | obtain rfl := Option.some.inj hm
        first
        | rw [hapi.type_init]
          exact ⟨by decide, rfl⟩
        | rw [hapi.type_initMasked]
          exact ⟨by decide, rfl⟩

/-- The match made from a field is that of OpenFlow 1.3, but for the VLAN identifier. -/
lemma mapMatch_of_ne {f : OxmField} (hvlan : f ≠ .vlanVid) (value mask : BitVec f.width) :
    mapMatch api experimental f value mask =
      if isOf12Field f then Of13.mapMatch api experimental f value mask else none := by
  cases f with
  | vlanVid => exact absurd rfl hvlan
  | _ => rfl

lemma readBack_of_ne {f : OxmField} (hvlan : f ≠ .vlanVid) (value mask : BitVec f.width) :
    readBack f value mask = Of13.readBack f value mask := by
  cases f with
  | vlanVid => exact absurd rfl hvlan
  | _ => rfl

/-- Every `try` block sets its own field. -/
lemma setsItsField (hapi : api.StoresAsGiven) (experimental : Bool) :
    SetsItsField (mapMatch api experimental) (reverseMatch api experimental) readBack := by
  intro f value mask hexact m hm ofmatch
  by_cases hvlan : f = .vlanVid
  · subst hvlan
    obtain rfl := Option.some.inj hm
    revert value mask
    dsimp only [OxmField.width]
    intro value mask _ _
    have hreverse : reverseMatch api experimental ofmatch
        (api.initVlanVidMatch value mask (vlanPresentOf value mask)) =
        reverseVlanVid ofmatch value mask (vlanPresentOf value mask) := by
      simp [reverseMatch, hapi.type_initVlanVid, hapi.value_initVlanVid, hapi.mask_initVlanVid,
        hapi.vlanPresent_initVlanVid]
    rw [hreverse]
    exact ⟨reverseVlanVid_vlanPresentOf ofmatch value mask, reverseVlanVid_others _ _ _ _⟩
  · rw [mapMatch_of_ne hvlan] at hm
    split_ifs at hm with hf
    obtain ⟨htype, hcase⟩ := isOf12MatchType_of_map hapi hf hvlan m hm
    rw [reverseMatch, if_neg htype, if_pos hcase, readBack_of_ne hvlan]
    exact Of13.reverseMatch_mapMatch hapi f hexact hm ofmatch

/-- The fields of OpenFlow 1.2 have a `try` block, in one place. -/
lemma mem_matchOrder_iff (f : OxmField) : f ∈ matchOrder ↔ isOf12Field f = true := by
  rw [matchOrder, List.mem_filter, Of13.mem_matchOrder_iff]
  refine and_iff_right_of_imp fun hf => ?_
  rintro rfl
  exact absurd hf (by decide)

lemma nodup_matchOrder : matchOrder.Nodup :=
  Of13.nodup_matchOrder.filter _

/-- A field has a `try` block and is read back as it was exactly when it is readable. -/
lemma readableMatch_iff (api : MatchApi M) (experimental : Bool) (f : OxmField)
    (value mask : BitVec f.width) :
    (f ∈ matchOrder ∧ (mapMatch api experimental f value mask).isSome = true ∧
      readBack f value mask = (value, mask)) ↔ ReadableMatch experimental f value mask := by
  rw [mem_matchOrder_iff]
  cases f with
  | mplsBos => exact iff_of_false (fun h => Bool.false_ne_true h.1) id
  | tunnelId => exact iff_of_false (fun h => Bool.false_ne_true h.1) id
  | pbbIsid => exact iff_of_false (fun h => Bool.false_ne_true h.1) id
  | ipv6Exthdr => exact iff_of_false (fun h => Bool.false_ne_true h.1) id
  | vlanVid =>
      revert value mask
      dsimp only [OxmField.width]
      intro value mask
      refine (and_iff_right rfl).trans ((and_iff_right rfl).trans ?_)
      simp only [readBack, ReadableMatch]
      split_ifs with hzero
      · constructor
        · intro h _
          exact (congrArg Prod.snd h).symm
        · intro h
          rw [h hzero, hzero]
          rfl
      · exact iff_of_true rfl fun h => absurd h hzero
  | _ =>
      -- only the build decides whether an extension has a match
      refine (and_iff_right rfl).trans ((and_iff_left rfl).trans ?_)
      cases experimental <;>
        first
        | exact iff_of_true rfl fun _ => rfl
        | exact iff_of_true rfl fun h => absurd h Bool.false_ne_true
        | exact iff_of_false Bool.false_ne_true fun h => Bool.false_ne_true (h rfl)

/-- A match survives exactly when it has no other TLVs and every field of it is readable. -/
lemma of12Match_faithful_iff (hapi : api.StoresAsGiven) (experimental : Bool) (ofmatch : OfMatch) :
    MatchFaithful api experimental ofmatch ↔ ofmatch.others = [] ∧
      ∀ f value mask, ofmatch.field f = some (value, mask) →
        ReadableMatch experimental f value mask := by
  rw [MatchFaithful, of12MapReverseFlowEntryMatches, of12MapFlowEntryMatches,
    foldl_mapField_eq_iff (setsItsField hapi experimental) ofmatch nodup_matchOrder]
  simp only [readableMatch_iff]

end Matches

/-! ## Matches and actions -/

section Both

variable {M A : Type*} {matchApi : MatchApi M} {api : PacketActionApi A}

/-- **Which matches and actions are translated faithfully.**  An OXM match and a list of actions
both survive the translation to the pipeline and back exactly when the match has only fields that
the translation knows, each readable, and every action is readable. -/
theorem of12_faithful_iff (hmatch : matchApi.StoresAsGiven) (hapi : api.StoresAsGiven)
    (experimental : Bool) (ofmatch : OfMatch) (actions : List CofAction) :
    MatchFaithful matchApi experimental ofmatch ∧ ActionsFaithful api experimental actions ↔
      (ofmatch.others = [] ∧ ∀ f value mask, ofmatch.field f = some (value, mask) →
        ReadableMatch experimental f value mask) ∧
      ∀ action ∈ actions, Readable experimental action := by
  rw [of12Match_faithful_iff hmatch, of12Actions_faithful_iff hapi]

/-- A match on the packets of the VLAN 7, and actions that remove the tag, queue and send them. -/
theorem of12_faithful_popVlan :
    MatchFaithful .record false (OfMatch.empty.setExact .vlanVid (0x1007 : BitVec 16)) ∧
      ActionsFaithful .record false [.popVlan, .setQueue 255, .output 3 0xffff] := by
  refine (of12_faithful_iff MatchApi.record_storesAsGiven PacketActionApi.record_storesAsGiven
    false _ _).2 ⟨⟨rfl, ?_⟩, ?_⟩
  · intro f value mask hf
    by_cases hvlan : f = .vlanVid
    · subst hvlan
      obtain ⟨rfl, rfl⟩ := Prod.mk.inj (Option.some.inj hf)
      exact fun h => absurd h (by decide)
    · have hnone : (OfMatch.empty.setExact .vlanVid (0x1007 : BitVec 16)).field f = none :=
        Function.update_of_ne hvlan _ _
      exact absurd (hnone.symm.trans hf) nofun
  · intro action haction
    simp only [List.mem_cons, List.not_mem_nil, or_false] at haction
    rcases haction with rfl | rfl | rfl
    · exact ⟨rfl, trivial⟩
    · exact ⟨rfl, (by decide : (255 : BitVec 32).toNat < 256)⟩
    · exact ⟨rfl, trivial⟩

/-- Queue 256 is read back as queue 0. -/
theorem of12_not_faithful_setQueue :
    ¬ ∀ (ofmatch : OfMatch) (actions : List CofAction),
      MatchFaithful .record false ofmatch ∧ ActionsFaithful .record false actions := by
  intro hall
  obtain ⟨-, packet_actions, hmap, hreverse⟩ := hall .empty [.setQueue 256]
  obtain rfl : packet_actions = [(.setQueue, .ofU32 256, 0)] :=
    List.map_injective_iff.mpr (Option.some_injective _) hmap.symm
  have hread : of12MapReverseFlowEntryActions PacketActionApi.record false
      [(.setQueue, .ofU32 256, 0)] = .ok [.setQueue 0] := rfl
  rw [hread] at hreverse
  exact absurd hreverse (by decide)

end Both

end Xdpd.OpenFlow.Of12
