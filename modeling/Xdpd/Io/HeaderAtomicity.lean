import Xdpd.Io.PopHeaders

/-!
# Headers are pushed and popped as a whole

A call of `push_*` or `pop_*` that finds no transition for the type of the packet, or whose bytes
cannot be pushed or popped, is to leave the packet as it is.

The functions that push see to it.  Those that pop go on when nothing has been popped, and
`pop_pppoe` has popped the bytes before it looks for the transition.  `atomic_iff` tells when it
makes no difference.
-/

namespace Xdpd.Io.Datapacketx86

open Xdpd.Lib Xdpd.Classifier

variable {S : Type*}

/-! ## Calls -/

/-- The functions of the classifier that push and pop headers. -/
inductive HeaderOp
  | pushPbb (ether_type : BitVec 16)
  | pushVlan (ether_type : BitVec 16)
  | pushMpls (ether_type : BitVec 16)
  | pushPppoe (ether_type : BitVec 16)
  | pushGtp (ether_type : BitVec 16)
  | pushGre (ether_type : BitVec 16)
  | popPbb
  | popVlan
  | popMpls (ether_type : BitVec 16)
  | popPppoe (ether_type : BitVec 16)
  | popGtp (ether_type : BitVec 16)
  | popGre (ether_type : BitVec 16)

/-- What a call looks up in the table of transitions, and what comes of pushing or popping its
bytes. -/
structure Attempt where
  transition : Option PktType
  moved : RoflResult

/-- There is no transition, or the bytes have not been pushed or popped. -/
def Attempt.Fails (a : Attempt) : Prop := a.transition = none ∨ a.moved = .failure

namespace HeaderOp

def run : HeaderOp → Datapacketx86 S → Option (Datapacketx86 S)
  | pushPbb ether_type, p => some (platformPacketPushPbb ether_type p)
  | pushVlan ether_type, p => platformPacketPushVlan ether_type p
  | pushMpls ether_type, p => platformPacketPushMpls ether_type p
  | pushPppoe ether_type, p => platformPacketPushPppoe ether_type p
  | pushGtp ether_type, p => Datapacketx86.pushGtp ether_type p
  | pushGre ether_type, p => platformPacketPushGre ether_type p
  | popPbb, p => some p.platformPacketPopPbb
  | popVlan, p => p.platformPacketPopVlan
  | popMpls ether_type, p => some (p.platformPacketPopMpls ether_type)
  | popPppoe ether_type, p => some (p.platformPacketPopPppoe ether_type)
  | popGtp ether_type, p => some (p.platformPacketPopGtp ether_type)
  | popGre ether_type, p => some (p.platformPacketPopGre ether_type)

/-- `push_gtp` has found the IP header of the packet. -/
def FindsIp (p : Datapacketx86 S) : Prop :=
  if p.currentEtherType = ETH_TYPE_IPV4 then getIpv4Hdr p.type ≠ none
  else p.currentEtherType = ETH_TYPE_IPV6 ∧ getIpv6Hdr p.type ≠ none

instance (p : Datapacketx86 S) : Decidable (FindsIp p) :=
  inferInstanceAs (Decidable (ite _ _ _))

/-- What a call attempts; nothing, where it does not get that far. -/
def attempt : HeaderOp → Datapacketx86 S → Option Attempt
  | pushPbb _, p => some ⟨pushTransitions p.type .isid, (p.push 0 18).1⟩
  | pushVlan _, p => some ⟨pushTransitions p.type .vlan, (p.push 14 4).1⟩
  | pushMpls _, p => some ⟨pushTransitions p.type .mpls, (p.pushPoint 14 4).1⟩
  | pushPppoe ether_type, p => some ⟨pushTransitions p.type .pppoe,
      if htonb16 ether_type = ETH_TYPE_PPPOE_SESSION then (p.push 14 8).1
      else if htonb16 ether_type = ETH_TYPE_PPPOE_DISCOVERY then (p.pushPoint 14 6).1
      else .success⟩
  | pushGtp ether_type, p =>
      if ¬ FindsIp p then none
      else if htonb16 ether_type = ETH_TYPE_IPV4 then
        some ⟨pushTransitions p.type .gtpu4, (p.push 14 36).1⟩
      else if htonb16 ether_type = ETH_TYPE_IPV6 then
        some ⟨pushTransitions p.type .gtpu6, (p.push 14 56).1⟩
      else none
  | pushGre ether_type, p =>
      if htonb16 ether_type = ETH_TYPE_IPV4 then
        some ⟨pushTransitions p.type .gre4, (p.push 0 46).1⟩
      else if htonb16 ether_type = ETH_TYPE_IPV6 then
        some ⟨pushTransitions p.type .gre6, (p.push 0 66).1⟩
      else none
  | popPbb, p => some ⟨popTransitions p.type .isid, (p.pop 0 18).1⟩
  | popVlan, p => some ⟨popTransitions p.type .vlan, (p.pop 14 4).1⟩
  | popMpls _, p => some ⟨popTransitions p.type .mpls, (p.pop 14 4).1⟩
  | popPppoe _, p =>
      if p.currentEtherType = ETH_TYPE_PPPOE_DISCOVERY then
        some ⟨popTransitions p.type .pppoe, (p.pop 14 6).1⟩
      else if p.currentEtherType = ETH_TYPE_PPPOE_SESSION then
        some ⟨(popTransitions p.type .ppp).bind (popTransitions · .pppoe), (p.pop 14 8).1⟩
      else none
  | popGtp _, p =>
      if getGtpuHdr p.type = none then none
      else if p.currentEtherType = ETH_TYPE_IPV4 then
        some ⟨popTransitions p.type .gtpu4, (p.pop 14 (20 + 8 + 8)).1⟩
      else if p.currentEtherType = ETH_TYPE_IPV6 then
        some ⟨popTransitions p.type .gtpu6, (p.pop 14 (40 + 8 + 8)).1⟩
      else none
  | popGre _, p =>
      match getGreHdr p.type with
      | none => none
      | some gre_header =>
          if le16 p.getBuffer (gre_header + 2) ≠ GRE_PROT_TYPE_TRANSPARENT_ETHERNET_BRIDGING then
            none
          else if p.currentEtherType = ETH_TYPE_IPV4 then
            some ⟨popTransitions p.type .gre4,
              (p.pop 0 (14 + 20 + greLen p.getBuffer gre_header)).1⟩
          else if p.currentEtherType = ETH_TYPE_IPV6 then
            some ⟨popTransitions p.type .gre6,
              (p.pop 0 (14 + 40 + greLen p.getBuffer gre_header)).1⟩
          else none

end HeaderOp

/-- The frame, its length and the type are the same. -/
def Same (p q : Datapacketx86 S) : Prop :=
  q.frame = p.frame ∧ q.len = p.len ∧ q.type = p.type

/-- If the attempt fails, the call changes nothing. -/
def HeaderOp.Atomic (p : Datapacketx86 S) (op : HeaderOp) : Prop :=
  ∀ a ∈ op.attempt p, a.Fails → ∃ q ∈ op.run p, p.Same q

/-! ## The condition -/

/-- The bytes before the frame, once it is in user space. -/
def headroom (p : Datapacketx86 S) : ℕ := p.transferToUserSpace.base

/-- The type is the one that the classifier finds. -/
def Classified (p : Datapacketx86 S) : Prop :=
  classify p.transferToUserSpace.getBuffer p.len = p.type

/-- The frame has the ethertype, as far as it reaches, and with it the classifier finds the type. -/
def ClassifiedWith (ether_type : BitVec 16) (p : Datapacketx86 S) : Prop :=
  (∀ i < p.len, setEtherType 0 ether_type p.transferToUserSpace.getBuffer i = p.getBuffer i) ∧
    classify (setEtherType 0 ether_type p.transferToUserSpace.getBuffer) p.len = p.type

/-- There is nothing to take back: the frame has what is to be popped, or the rest of the function
does not change the packet. -/
def HeaderOp.NothingToUndo (p : Datapacketx86 S) : HeaderOp → Prop
  -- the packet has no IPv4 header to take the identification from
  | pushGtp ether_type => htonb16 ether_type = ETH_TYPE_IPV4 → FindsIp p →
      getIpv4Hdr p.type = none →
        pushTransitions p.type .gtpu4 ≠ none ∧ 14 ≤ p.len ∧ 36 ≤ p.headroom
  | popPbb => popTransitions p.type .isid = none ∨ 18 ≤ p.len ∨ p.Classified
  | popVlan => popTransitions p.type .vlan = none ∨ 18 ≤ p.len
  | popMpls ether_type =>
      popTransitions p.type .mpls = none ∨ 18 ≤ p.len ∨ p.ClassifiedWith ether_type
  | popPppoe ether_type =>
      if p.currentEtherType = ETH_TYPE_PPPOE_DISCOVERY then
        if popTransitions p.type .pppoe = none then p.len < 20
        else 20 ≤ p.len ∨ p.ClassifiedWith ether_type
      else if p.currentEtherType = ETH_TYPE_PPPOE_SESSION then
        if popTransitions p.type .ppp = none then p.len < 22
        else 22 ≤ p.len ∨ p.ClassifiedWith ether_type
      else True
  | popGtp ether_type => getGtpuHdr p.type = none ∨
      (p.currentEtherType = ETH_TYPE_IPV4 → popTransitions p.type .gtpu4 = none ∨
        50 ≤ p.len ∨ p.ClassifiedWith ether_type) ∧
      (p.currentEtherType = ETH_TYPE_IPV6 → popTransitions p.type .gtpu6 = none ∨
        70 ≤ p.len ∨ p.ClassifiedWith ether_type)
  | popGre _ => ∀ gre_header ∈ getGreHdr p.type,
      le16 p.getBuffer (gre_header + 2) = GRE_PROT_TYPE_TRANSPARENT_ETHERNET_BRIDGING →
        (p.currentEtherType = ETH_TYPE_IPV4 → popTransitions p.type .gre4 = none ∨
          34 + greLen p.getBuffer gre_header ≤ p.len ∨ p.Classified) ∧
        (p.currentEtherType = ETH_TYPE_IPV6 → popTransitions p.type .gre6 = none ∨
          54 + greLen p.getBuffer gre_header ≤ p.len ∨ p.Classified)
  | _ => True

section Attempts

variable {p : Datapacketx86 S} {op : HeaderOp} {a : Attempt}

lemma atomic_of_attempt (h : op.attempt p = some a) :
    op.Atomic p ↔ (a.Fails → ∃ q ∈ op.run p, p.Same q) := by
  rw [HeaderOp.Atomic, h]
  constructor
  · intro hatomic
    exact hatomic a rfl
  · intro hfails b hb
    obtain rfl := Option.some.inj hb
    exact hfails

lemma atomic_of_no_attempt (h : op.attempt p = none) : op.Atomic p := by
  rw [HeaderOp.Atomic, h]
  exact nofun

lemma same_self (p : Datapacketx86 S) : p.Same p := ⟨rfl, rfl, rfl⟩

lemma same_transferToUserSpace (p : Datapacketx86 S) : p.Same p.transferToUserSpace :=
  ⟨frame_transferToUserSpace p, len_transferToUserSpace p, type_transferToUserSpace p⟩

end Attempts

/-! ## Pushing -/

section Push

variable {p : Datapacketx86 S} {offset n : ℕ} {ether_type : BitVec 16}

lemma push_of_failure (h : p.Placed) (hfail : (p.push offset n).1 = .failure) :
    p.push offset n = (.failure, p.transferToUserSpace) := by
  obtain ⟨pos, hpos⟩ := h.transfer
  rw [push_of_transfer hpos] at hfail ⊢
  split at hfail
  · exact absurd hfail nofun
  next hroom => rw [if_neg hroom]

lemma pushPoint_of_failure (h : p.Placed) (hfail : (p.pushPoint offset n).1 = .failure) :
    p.pushPoint offset n = (.failure, p.transferToUserSpace) := by
  rcases h.cases with ⟨buf, hstatus, -⟩ | ⟨pos, hpos⟩
  · rw [pushPoint, hstatus]
  · rw [hpos.transferToUserSpace]
    rcases pushPoint_cases hpos offset n with hpush | ⟨-, -, hpush⟩
    · exact hpush
    · exact absurd (hfail.symm.trans (congrArg Prod.fst hpush)) (by simp)

/-- There is room for what is pushed. -/
lemma push_eq_success_iff (h : p.Placed) :
    (p.push offset n).1 = .success ↔ offset ≤ p.len ∧ n ≤ p.headroom := by
  obtain ⟨pos, hpos⟩ := h.transfer
  rw [push_of_transfer hpos, headroom, hpos.base]
  split
  next hroom => exact iff_of_true rfl hroom
  next hroom => exact iff_of_false nofun hroom

/-- A function that pushes is left when there is no transition, or no room. -/
lemma atomic_of_push {op : HeaderOp} {transition : Option PktType} {moved : RoflResult}
    (hattempt : op.attempt p = some ⟨transition, moved⟩)
    (hnone : transition = none → op.run p = some p)
    (hfail : ∀ new, transition = some new → moved = .failure →
      op.run p = some p.transferToUserSpace) : op.Atomic p := by
  rw [atomic_of_attempt hattempt]
  intro hfails
  cases htransition : transition with
  | none => exact ⟨p, hnone htransition, same_self p⟩
  | some new =>
      have hmoved := hfails.resolve_left fun h => absurd (htransition.symm.trans h) nofun
      exact ⟨_, hfail new htransition hmoved, same_transferToUserSpace p⟩

lemma atomic_pushPbb (h : p.Placed) : (HeaderOp.pushPbb ether_type).Atomic p := by
  refine atomic_of_push rfl (fun hnone => ?_) fun new hnew hmoved => ?_
  · simp only [HeaderOp.run, platformPacketPushPbb, hnone]
  · simp only [HeaderOp.run, platformPacketPushPbb, hnew, push_of_failure h hmoved]

lemma atomic_pushVlan (h : p.Placed) : (HeaderOp.pushVlan ether_type).Atomic p := by
  refine atomic_of_push rfl (fun hnone => ?_) fun new hnew hmoved => ?_
  · simp only [HeaderOp.run, platformPacketPushVlan, hnone]
  · simp only [HeaderOp.run, platformPacketPushVlan, hnew, push_of_failure h hmoved]

lemma atomic_pushMpls (h : p.Placed) : (HeaderOp.pushMpls ether_type).Atomic p := by
  refine atomic_of_push rfl (fun hnone => ?_) fun new hnew hmoved => ?_
  · simp only [HeaderOp.run, platformPacketPushMpls, hnone]
  · simp only [HeaderOp.run, platformPacketPushMpls, hnew, pushPoint_of_failure h hmoved]

lemma atomic_pushPppoe (h : p.Placed) : (HeaderOp.pushPppoe ether_type).Atomic p := by
  refine atomic_of_push rfl (fun hnone => ?_) fun new hnew hmoved => ?_
  · simp only [HeaderOp.run, platformPacketPushPppoe, hnone]
  · by_cases hsession : htonb16 ether_type = ETH_TYPE_PPPOE_SESSION
    · rw [if_pos hsession] at hmoved
      simp only [HeaderOp.run, platformPacketPushPppoe, hnew, if_pos hsession,
        push_of_failure h hmoved]
    · rw [if_neg hsession] at hmoved
      by_cases hdiscovery : htonb16 ether_type = ETH_TYPE_PPPOE_DISCOVERY
      · rw [if_pos hdiscovery] at hmoved
        simp only [HeaderOp.run, platformPacketPushPppoe, hnew, if_neg hsession,
          if_pos hdiscovery, pushPoint_of_failure h hmoved]
      · rw [if_neg hdiscovery] at hmoved
        exact absurd hmoved nofun

lemma ETH_TYPE_IPV6_ne : ETH_TYPE_IPV6 ≠ ETH_TYPE_IPV4 := by decide

lemma atomic_pushGre (h : p.Placed) : (HeaderOp.pushGre ether_type).Atomic p := by
  by_cases hipv4 : htonb16 ether_type = ETH_TYPE_IPV4
  · have hattempt : (HeaderOp.pushGre ether_type).attempt p =
        some ⟨pushTransitions p.type .gre4, (p.push 0 46).1⟩ := if_pos hipv4
    refine atomic_of_push hattempt (fun hnone => ?_) fun new hnew hmoved => ?_
    · simp only [HeaderOp.run, platformPacketPushGre, if_pos hipv4, hnone]
    · simp only [HeaderOp.run, platformPacketPushGre, if_pos hipv4, hnew,
        push_of_failure h hmoved]
  · by_cases hipv6 : htonb16 ether_type = ETH_TYPE_IPV6
    · have hattempt : (HeaderOp.pushGre ether_type).attempt p =
          some ⟨pushTransitions p.type .gre6, (p.push 0 66).1⟩ :=
        (if_neg hipv4).trans (if_pos hipv6)
      refine atomic_of_push hattempt (fun hnone => ?_) fun new hnew hmoved => ?_
      · simp only [HeaderOp.run, platformPacketPushGre, if_neg hipv4, if_pos hipv6, hnone]
      · simp only [HeaderOp.run, platformPacketPushGre, if_neg hipv4, if_pos hipv6, hnew,
          push_of_failure h hmoved]
    · exact atomic_of_no_attempt ((if_neg hipv4).trans (if_neg hipv6))

/-- `payloadlen` in `push_gtp`: the length of the IP packet, as its header has it. -/
def payloadlen (p : Datapacketx86 S) : ℕ :=
  if p.currentEtherType = ETH_TYPE_IPV4 then
    match getIpv4Hdr p.type with
    | some ipv4_header => (be16 p.getBuffer (ipv4_header + 2)).toNat
    | none => 0
  else
    match getIpv6Hdr p.type with
    | some ipv6_header => (be16 p.getBuffer (ipv6_header + 4)).toNat + 40
    | none => 0

/-- `push_gtp` once it has found the IP header. -/
lemma run_pushGtp (ether_type : BitVec 16) (hip : HeaderOp.FindsIp p) : ∃ ip_ttl DF_flag,
    (HeaderOp.pushGtp ether_type).run p =
      pushGtpTunnel ether_type p.payloadlen ip_ttl DF_flag p := by
  rw [HeaderOp.FindsIp, currentEtherType] at hip
  rw [HeaderOp.run, Datapacketx86.pushGtp, payloadlen, currentEtherType]
  split at hip
  next hipv4 =>
    obtain ⟨hdr, hhdr⟩ := Option.ne_none_iff_exists'.mp hip
    rw [if_pos hipv4, if_pos hipv4, hhdr]
    exact ⟨_, _, rfl⟩
  next hipv4 =>
    obtain ⟨hdr, hhdr⟩ := Option.ne_none_iff_exists'.mp hip.2
    rw [if_neg hipv4, if_neg hipv4, if_pos hip.1, hhdr]
    exact ⟨_, _, rfl⟩

lemma atomic_pushGtp_iff (h : p.Placed) : (HeaderOp.pushGtp ether_type).Atomic p ↔
    (HeaderOp.pushGtp ether_type).NothingToUndo p := by
  rw [HeaderOp.NothingToUndo]
  by_cases hip : HeaderOp.FindsIp p
  · obtain ⟨ip_ttl, DF_flag, hrun⟩ := run_pushGtp ether_type hip
    by_cases hipv4 : htonb16 ether_type = ETH_TYPE_IPV4
    · have hattempt : (HeaderOp.pushGtp ether_type).attempt p =
          some ⟨pushTransitions p.type .gtpu4, (p.push 14 36).1⟩ :=
        (if_neg (not_not_intro hip)).trans (if_pos hipv4)
      cases hhdr : getIpv4Hdr p.type with
      | none =>
          have hcrash : (HeaderOp.pushGtp ether_type).run p = none := by
            rw [hrun, pushGtpTunnel, if_pos hipv4, hhdr]
            rfl
          rw [atomic_of_attempt hattempt, hcrash]
          constructor
          · intro hatomic _ _ _
            have hmade : ¬ Attempt.Fails ⟨pushTransitions p.type .gtpu4, (p.push 14 36).1⟩ := by
              intro hfails
              obtain ⟨q, hq, -⟩ := hatomic hfails
              exact absurd hq nofun
            rw [Attempt.Fails, not_or] at hmade
            refine ⟨hmade.1, (push_eq_success_iff h).mp ?_⟩
            cases hmoved : (p.push 14 36).1 with
            | success => rfl
            | failure => exact absurd hmoved hmade.2
          · intro hmade hfails
            obtain ⟨htransition, hroom⟩ := hmade hipv4 hip rfl
            have hmoved := (push_eq_success_iff h).mpr hroom
            exact absurd (hmoved.symm.trans (hfails.resolve_left htransition)) nofun
      | some hdr =>
          refine iff_of_true ?_ fun _ _ hnone => absurd hnone nofun
          refine atomic_of_push hattempt (fun hnone => ?_) fun new hnew hmoved => ?_
          · simp only [hrun, pushGtpTunnel, if_pos hipv4, hhdr, hnone, Option.bind_some]
          · simp only [hrun, pushGtpTunnel, if_pos hipv4, hhdr, hnew, push_of_failure h hmoved,
              Option.bind_some]
    · refine iff_of_true ?_ fun h => absurd h hipv4
      by_cases hipv6 : htonb16 ether_type = ETH_TYPE_IPV6
      · have hattempt : (HeaderOp.pushGtp ether_type).attempt p =
            some ⟨pushTransitions p.type .gtpu6, (p.push 14 56).1⟩ :=
          ((if_neg (not_not_intro hip)).trans (if_neg hipv4)).trans (if_pos hipv6)
        refine atomic_of_push hattempt (fun hnone => ?_) fun new hnew hmoved => ?_
        · simp only [hrun, pushGtpTunnel, if_neg hipv4, if_pos hipv6, hnone]
        · simp only [hrun, pushGtpTunnel, if_neg hipv4, if_pos hipv6, hnew,
            push_of_failure h hmoved]
      · exact atomic_of_no_attempt
          (((if_neg (not_not_intro hip)).trans (if_neg hipv4)).trans (if_neg hipv6))
  · exact iff_of_true (atomic_of_no_attempt (if_pos hip)) fun _ h => absurd h hip

end Push

/-! ## Popping -/

section Pop

variable {p : Datapacketx86 S} {new : PktType} {offset n : ℕ} {ether_type : BitVec 16}

lemma same_parseEthernet_iff :
    p.Same ({ p.transferToUserSpace with type := new }.parseEthernet) ↔ p.Classified := by
  constructor
  · intro hsame
    rw [Classified, ← len_transferToUserSpace]
    exact hsame.2.2
  · intro hclassified
    refine ⟨frame_transferToUserSpace p, len_transferToUserSpace p, ?_⟩
    rw [Classified, ← len_transferToUserSpace] at hclassified
    exact hclassified

/-- The end of a function that sets the ethertype and classifies the packet again. -/
lemma same_setEtherType_iff {q : Datapacketx86 S}
    (hlen : q.len = p.transferToUserSpace.len)
    (hbuffer : q.getBuffer = setEtherType 0 ether_type p.transferToUserSpace.getBuffer)
    (htype : q.type = classify q.getBuffer q.len) :
    p.Same q ↔ p.ClassifiedWith ether_type := by
  rw [len_transferToUserSpace] at hlen
  rw [Same, ClassifiedWith, frame_eq_iff hlen, htype, hbuffer, hlen]
  exact and_congr_right fun _ => and_iff_right rfl

lemma same_setEtherTypeAndParse_iff :
    p.Same ({ p.transferToUserSpace with type := new }.setEtherTypeAndParse ether_type) ↔
      p.ClassifiedWith ether_type :=
  same_setEtherType_iff (len_mapBuffer _ _) (getBuffer_mapBuffer _ _) rfl

lemma same_setEtherTypeAndClassify_iff :
    p.Same ({ p.transferToUserSpace with type := new }.setEtherTypeAndClassify ether_type) ↔
      p.ClassifiedWith ether_type :=
  same_setEtherType_iff (len_mapBuffer _ _) (getBuffer_mapBuffer _ _) rfl

lemma pop_eq_failure_iff (h : p.Placed) (hwrap : offset + n < 2 ^ 32) :
    (p.pop offset n).1 = .failure ↔ p.len < offset + n := by
  by_cases hend : offset + n ≤ p.len
  · obtain ⟨pos, -, hpop⟩ := pop_of_le h hend
    rw [hpop]
    exact iff_of_false nofun (Nat.not_lt_of_le hend)
  · rw [pop_of_gt h (Nat.lt_of_not_le hend) hwrap]
    exact iff_of_true rfl (Nat.lt_of_not_le hend)

/-- A function that pops goes on whether or not anything has been popped. -/
lemma atomic_pop_iff (h : p.Placed) (hwrap : offset + n < 2 ^ 32) {op : HeaderOp}
    {t : Option PktType} (rest : Datapacketx86 S → Datapacketx86 S) {Cond : Prop}
    (hattempt : op.attempt p = some ⟨t, (p.pop offset n).1⟩)
    (hrun : op.run p =
      some (t.elim p fun new => rest { (p.pop offset n).2 with type := new }))
    (hrest : ∀ new ∈ t, p.Same (rest { p.transferToUserSpace with type := new }) ↔ Cond) :
    op.Atomic p ↔ t = none ∨ offset + n ≤ p.len ∨ Cond := by
  rw [atomic_of_attempt hattempt, Attempt.Fails, pop_eq_failure_iff h hwrap, hrun]
  cases t with
  | none => exact iff_of_true (fun _ => ⟨p, rfl, same_self p⟩) (.inl rfl)
  | some new =>
      by_cases hend : offset + n ≤ p.len
      · refine iff_of_true (fun hfails => ?_) (.inr (.inl hend))
        exact absurd hend (Nat.not_le_of_lt (hfails.resolve_left nofun))
      · have hgt := Nat.lt_of_not_le hend
        rw [pop_of_gt h hgt hwrap]
        constructor
        · intro hatomic
          obtain ⟨q, hq, hsame⟩ := hatomic (.inr hgt)
          obtain rfl := Option.some.inj hq
          exact .inr (.inr ((hrest new rfl).mp hsame))
        · rintro (hnone | hle | hcond) -
          · exact absurd hnone nofun
          · exact absurd hle hend
          · exact ⟨_, rfl, (hrest new rfl).mpr hcond⟩

lemma atomic_popPbb_iff (h : p.Placed) : HeaderOp.popPbb.Atomic p ↔
    HeaderOp.popPbb.NothingToUndo p := by
  have hwrap : 0 + 18 < 2 ^ 32 := by decide
  refine atomic_pop_iff h hwrap parseEthernet rfl ?_ fun _ _ => same_parseEthernet_iff
  rw [HeaderOp.run, platformPacketPopPbb]
  cases popTransitions p.type .isid <;> rfl

lemma atomic_popMpls_iff (h : p.Placed) : (HeaderOp.popMpls ether_type).Atomic p ↔
    (HeaderOp.popMpls ether_type).NothingToUndo p := by
  have hwrap : 14 + 4 < 2 ^ 32 := by decide
  refine atomic_pop_iff h hwrap (setEtherTypeAndParse ether_type) rfl ?_
    fun _ _ => same_setEtherTypeAndParse_iff
  rw [HeaderOp.run, platformPacketPopMpls]
  cases popTransitions p.type .mpls <;> rfl

lemma offsetIn_vlan_ne_none (llc : Bool) (tags : Fin 3) (h : tags ≠ 0) :
    offsetIn .vlan 0 (L2.plain llc tags).name ≠ none := by
  revert llc tags
  decide

/-- The type without the outermost tag. -/
lemma popTransitions_vlan {t : PktType} (h : popTransitions t .vlan = some new) :
    (∃ vlan, getVlanHdr t = some vlan) ∧ new ≠ t := by
  obtain ⟨l2, upper⟩ := t
  cases l2 with
  | isid tagged => cases tagged <;> exact absurd h nofun
  | plain llc tags =>
      dsimp only [popTransitions] at h
      split at h
      · exact absurd h nofun
      next htags =>
        obtain rfl := Option.some.inj h
        constructor
        · rw [getVlanHdr, protocolOffset_link rfl]
          exact Option.ne_none_iff_exists'.mp (offsetIn_vlan_ne_none llc tags htags)
        · intro heq
          have hl2 : L2.plain llc ⟨tags.val - 1, by omega⟩ = .plain llc tags :=
            congrArg PktType.l2 heq
          have hpos : tags.val ≠ 0 := fun hzero => htags (Fin.ext hzero)
          have hval := congrArg Fin.val (L2.plain.inj hl2).2
          dsimp only at hval
          omega

lemma atomic_popVlan_iff (h : p.Placed) : HeaderOp.popVlan.Atomic p ↔
    HeaderOp.popVlan.NothingToUndo p := by
  set ether_type : BitVec 16 := le16 p.getBuffer ((getVlanHdr p.type).getD 0 + 2) with hether
  have hrun : HeaderOp.popVlan.run p = some ((popTransitions p.type .vlan).elim p fun new =>
      { (p.pop 14 4).2 with type := new }.mapBuffer (setEtherType 0 ether_type)) := by
    rw [HeaderOp.run, platformPacketPopVlan]
    cases htransition : popTransitions p.type .vlan with
    | none => rfl
    | some new =>
        obtain ⟨⟨vlan, hvlan⟩, -⟩ := popTransitions_vlan htransition
        rw [hether, hvlan]
        rfl
  -- The type has lost a tag, popped or not.
  have hrest : ∀ new ∈ popTransitions p.type .vlan,
      p.Same ({ p.transferToUserSpace with type := new }.mapBuffer
        (setEtherType 0 ether_type)) ↔ False := by
    intro new hnew
    refine iff_of_false (fun hsame => ?_) id
    have htype := hsame.2.2
    rw [type_mapBuffer] at htype
    exact (popTransitions_vlan hnew).2 htype
  have hwrap : 14 + 4 < 2 ^ 32 := by decide
  rw [HeaderOp.NothingToUndo, atomic_pop_iff h hwrap (mapBuffer (setEtherType 0 ether_type)) rfl
    hrun hrest, or_false]

/-- A packet from which bytes have been popped is not the same. -/
lemma same_pop_iff (h : p.Placed) (hn : 0 < n) (hwrap : offset + n < 2 ^ 32) :
    p.Same (p.pop offset n).2 ↔ p.len < offset + n := by
  by_cases hend : offset + n ≤ p.len
  · obtain ⟨pos, -, hpop⟩ := pop_of_le h hend
    refine iff_of_false (fun hsame => ?_) (Nat.not_lt_of_le hend)
    have hlen := hsame.2.1
    rw [hpop] at hlen
    change subSize p.transferToUserSpace.len n = p.len at hlen
    rw [len_transferToUserSpace, subSize, if_pos (by omega)] at hlen
    omega
  · rw [pop_of_gt h (Nat.lt_of_not_le hend) hwrap]
    exact iff_of_true (same_transferToUserSpace p) (Nat.lt_of_not_le hend)

/-- The function has popped the bytes when it finds that there is no transition. -/
lemma atomic_pop_none_iff (h : p.Placed) (hn : 0 < n) (hwrap : offset + n < 2 ^ 32)
    {op : HeaderOp} (hattempt : op.attempt p = some ⟨none, (p.pop offset n).1⟩)
    (hrun : op.run p = some (p.pop offset n).2) : op.Atomic p ↔ p.len < offset + n := by
  rw [atomic_of_attempt hattempt, hrun, ← same_pop_iff h hn hwrap]
  constructor
  · intro hatomic
    obtain ⟨q, hq, hsame⟩ := hatomic (.inl rfl)
    obtain rfl := Option.some.inj hq
    exact hsame
  · intro hsame _
    exact ⟨_, rfl, hsame⟩

/-- A type with PPP has a transition for PPPoE without it. -/
lemma popTransitions_ppp {t : PktType} (h : popTransitions t .ppp = some new) :
    ∃ new', popTransitions new .pppoe = some new' := by
  obtain ⟨l2, upper⟩ := t
  cases l2 with
  | isid tagged => cases tagged <;> exact absurd h nofun
  | plain llc tags =>
      dsimp only [popTransitions] at h
      split at h
      · obtain rfl := Option.some.inj h
        exact ⟨_, rfl⟩
      · exact absurd h nofun

lemma atomic_popPppoe_iff (h : p.Placed) : (HeaderOp.popPppoe ether_type).Atomic p ↔
    (HeaderOp.popPppoe ether_type).NothingToUndo p := by
  rw [HeaderOp.NothingToUndo]
  by_cases hdiscovery : p.currentEtherType = ETH_TYPE_PPPOE_DISCOVERY
  · have hattempt : (HeaderOp.popPppoe ether_type).attempt p =
        some ⟨popTransitions p.type .pppoe, (p.pop 14 6).1⟩ := if_pos hdiscovery
    have hrun : (HeaderOp.popPppoe ether_type).run p =
        some ((popTransitions p.type .pppoe).elim (p.pop 14 6).2 fun new =>
          { (p.pop 14 6).2 with type := new }.setEtherTypeAndClassify ether_type) := by
      rw [HeaderOp.run, platformPacketPopPppoe, if_pos hdiscovery]
      dsimp only
      rw [type_pop]
      cases popTransitions p.type .pppoe <;> rfl
    rw [if_pos hdiscovery]
    cases htransition : popTransitions p.type .pppoe with
    | none =>
        rw [htransition] at hattempt hrun
        rw [if_pos rfl]
        exact atomic_pop_none_iff h (by decide) (by decide) hattempt hrun
    | some new =>
        rw [htransition] at hattempt hrun
        rw [if_neg nofun, atomic_pop_iff h (by decide) (setEtherTypeAndClassify ether_type)
          hattempt hrun fun _ _ => same_setEtherTypeAndClassify_iff]
        exact or_iff_right nofun
  · rw [if_neg hdiscovery]
    by_cases hsession : p.currentEtherType = ETH_TYPE_PPPOE_SESSION
    · have hattempt : (HeaderOp.popPppoe ether_type).attempt p =
          some ⟨(popTransitions p.type .ppp).bind (popTransitions · .pppoe), (p.pop 14 8).1⟩ :=
        (if_neg hdiscovery).trans (if_pos hsession)
      rw [if_pos hsession]
      cases htransition : popTransitions p.type .ppp with
      | none =>
          have hrun : (HeaderOp.popPppoe ether_type).run p = some (p.pop 14 8).2 := by
            rw [HeaderOp.run, platformPacketPopPppoe, if_neg hdiscovery, if_pos hsession]
            dsimp only
            rw [type_pop, htransition]
          rw [htransition] at hattempt
          rw [if_pos rfl]
          exact atomic_pop_none_iff h (by decide) (by decide) hattempt hrun
      | some new =>
          obtain ⟨new', hnew'⟩ := popTransitions_ppp htransition
          have hrun : (HeaderOp.popPppoe ether_type).run p = some ((some new').elim p fun new =>
              { (p.pop 14 8).2 with type := new }.setEtherTypeAndClassify ether_type) := by
            rw [HeaderOp.run, platformPacketPopPppoe, if_neg hdiscovery, if_pos hsession]
            dsimp only
            rw [type_pop, htransition]
            dsimp only
            rw [hnew']
            rfl
          rw [htransition, Option.bind_some, hnew'] at hattempt
          rw [if_neg nofun, atomic_pop_iff h (by decide) (setEtherTypeAndClassify ether_type)
            hattempt hrun fun _ _ => same_setEtherTypeAndClassify_iff]
          exact or_iff_right nofun
    · rw [if_neg hsession]
      exact iff_of_true (atomic_of_no_attempt ((if_neg hdiscovery).trans (if_neg hsession))) trivial

lemma atomic_popGtp_iff (h : p.Placed) : (HeaderOp.popGtp ether_type).Atomic p ↔
    (HeaderOp.popGtp ether_type).NothingToUndo p := by
  rw [HeaderOp.NothingToUndo]
  cases hgtp : getGtpuHdr p.type with
  | none => exact iff_of_true (atomic_of_no_attempt (if_pos hgtp)) (.inl rfl)
  | some gtp =>
      rw [or_iff_right nofun]
      have hfound : getGtpuHdr p.type ≠ none := by
        rw [hgtp]
        exact nofun
      by_cases hipv4 : p.currentEtherType = ETH_TYPE_IPV4
      · have hother : p.currentEtherType ≠ ETH_TYPE_IPV6 := by
          rw [hipv4]
          exact Ne.symm ETH_TYPE_IPV6_ne
        refine Iff.trans ?_ ((and_iff_left fun hipv6 => absurd hipv6 hother).trans
          (forall_prop_of_true hipv4)).symm
        have hattempt : (HeaderOp.popGtp ether_type).attempt p =
            some ⟨popTransitions p.type .gtpu4, (p.pop 14 (20 + 8 + 8)).1⟩ :=
          (if_neg hfound).trans (if_pos hipv4)
        refine atomic_pop_iff h (by decide) (setEtherTypeAndParse ether_type) hattempt ?_
          fun _ _ => same_setEtherTypeAndParse_iff
        rw [HeaderOp.run, platformPacketPopGtp, hgtp]
        dsimp only
        rw [if_pos hipv4]
        cases popTransitions p.type .gtpu4 <;> rfl
      · refine Iff.trans ?_ (and_iff_right fun h => absurd h hipv4).symm
        by_cases hipv6 : p.currentEtherType = ETH_TYPE_IPV6
        · refine Iff.trans ?_ (forall_prop_of_true hipv6).symm
          have hattempt : (HeaderOp.popGtp ether_type).attempt p =
              some ⟨popTransitions p.type .gtpu6, (p.pop 14 (40 + 8 + 8)).1⟩ :=
            ((if_neg hfound).trans (if_neg hipv4)).trans (if_pos hipv6)
          refine atomic_pop_iff h (by decide) (setEtherTypeAndParse ether_type) hattempt ?_
            fun _ _ => same_setEtherTypeAndParse_iff
          rw [HeaderOp.run, platformPacketPopGtp, hgtp]
          dsimp only
          rw [if_neg hipv4, if_pos hipv6]
          cases popTransitions p.type .gtpu6 <;> rfl
        · exact iff_of_true (atomic_of_no_attempt
            (((if_neg hfound).trans (if_neg hipv4)).trans (if_neg hipv6))) fun h => absurd h hipv6

/-- `pop_gre` over one version of IP, whose header is `hdr` bytes long. -/
lemma atomic_popGre_of {gre : ℕ} (hdr : ℕ) {t : Option PktType} (h : p.Placed) (hhdr : hdr ≤ 54)
    (hattempt : (HeaderOp.popGre ether_type).attempt p =
      some ⟨t, (p.pop 0 (hdr + greLen p.getBuffer gre)).1⟩)
    (hrun : (HeaderOp.popGre ether_type).run p = some (t.elim p fun new =>
      { (p.pop 0 (hdr + greLen p.getBuffer gre)).2 with type := new }.parseEthernet)) :
    (HeaderOp.popGre ether_type).Atomic p ↔
      t = none ∨ hdr + greLen p.getBuffer gre ≤ p.len ∨ p.Classified := by
  have hlen := greLen_lt p.getBuffer gre
  have hwrap : 0 + (hdr + greLen p.getBuffer gre) < 2 ^ 32 := by omega
  rw [atomic_pop_iff h hwrap parseEthernet hattempt hrun fun _ _ => same_parseEthernet_iff,
    Nat.zero_add]

lemma atomic_popGre_iff (h : p.Placed) : (HeaderOp.popGre ether_type).Atomic p ↔
    (HeaderOp.popGre ether_type).NothingToUndo p := by
  rw [HeaderOp.NothingToUndo]
  cases hgre : getGreHdr p.type with
  | none =>
      refine iff_of_true (atomic_of_no_attempt ?_) nofun
      rw [HeaderOp.attempt, hgre]
  | some gre =>
      simp only [Option.mem_def, Option.some.injEq, forall_eq']
      by_cases htype : le16 p.getBuffer (gre + 2) = GRE_PROT_TYPE_TRANSPARENT_ETHERNET_BRIDGING
      · refine Iff.trans ?_ (forall_prop_of_true htype).symm
        by_cases hipv4 : p.currentEtherType = ETH_TYPE_IPV4
        · have hother : p.currentEtherType ≠ ETH_TYPE_IPV6 := by
            rw [hipv4]
            exact Ne.symm ETH_TYPE_IPV6_ne
          refine Iff.trans ?_ ((and_iff_left fun hipv6 => absurd hipv6 hother).trans
            (forall_prop_of_true hipv4)).symm
          refine atomic_popGre_of (14 + 20) h (by decide) ?_ ?_
          · simp only [HeaderOp.attempt, hgre, if_neg (not_not_intro htype), if_pos hipv4]
          · simp only [HeaderOp.run, platformPacketPopGre, hgre, if_neg (not_not_intro htype),
              if_pos hipv4]
            cases popTransitions p.type .gre4 <;> rfl
        · refine Iff.trans ?_ (and_iff_right fun h => absurd h hipv4).symm
          by_cases hipv6 : p.currentEtherType = ETH_TYPE_IPV6
          · refine Iff.trans ?_ (forall_prop_of_true hipv6).symm
            refine atomic_popGre_of (14 + 40) h (by decide) ?_ ?_
            · simp only [HeaderOp.attempt, hgre, if_neg (not_not_intro htype), if_neg hipv4,
                if_pos hipv6]
            · simp only [HeaderOp.run, platformPacketPopGre, hgre, if_neg (not_not_intro htype),
                if_neg hipv4, if_pos hipv6]
              cases popTransitions p.type .gre6 <;> rfl
          · refine iff_of_true (atomic_of_no_attempt ?_) fun h => absurd h hipv6
            simp only [HeaderOp.attempt, hgre, if_neg (not_not_intro htype), if_neg hipv4,
              if_neg hipv6]
      · refine iff_of_true (atomic_of_no_attempt ?_) fun h => absurd h htype
        simp only [HeaderOp.attempt, hgre, if_pos htype]

end Pop

/-! ## The result -/

/-- **Headers are pushed and popped as a whole**, in a packet that has a frame, exactly when there
is nothing to take back. -/
theorem atomic_iff {p : Datapacketx86 S} (h : p.Placed) (op : HeaderOp) :
    op.Atomic p ↔ op.NothingToUndo p := by
  cases op with
  | pushPbb ether_type => exact iff_of_true (atomic_pushPbb h) trivial
  | pushVlan ether_type => exact iff_of_true (atomic_pushVlan h) trivial
  | pushMpls ether_type => exact iff_of_true (atomic_pushMpls h) trivial
  | pushPppoe ether_type => exact iff_of_true (atomic_pushPppoe h) trivial
  | pushGtp ether_type => exact atomic_pushGtp_iff h
  | pushGre ether_type => exact iff_of_true (atomic_pushGre h) trivial
  | popPbb => exact atomic_popPbb_iff h
  | popVlan => exact atomic_popVlan_iff h
  | popMpls ether_type => exact atomic_popMpls_iff h
  | popPppoe ether_type => exact atomic_popPppoe_iff h
  | popGtp ether_type => exact atomic_popGtp_iff h
  | popGre ether_type => exact atomic_popGre_iff h

/-- Without a tag there is nothing to pop. -/
theorem atomic_popVlan_blank : HeaderOp.popVlan.Atomic blank :=
  (atomic_iff placed_blank .popVlan).mpr (.inl (by decide))

/-- A frame that ends within its tag. -/
def cutTag : Datapacketx86 Unit :=
  (unused.init (some fun i => if i = 12 then 0x81 else 0) 16 none 1 true true).2

lemma placed_cutTag : cutTag.Placed := ⟨rfl, rfl, by decide⟩

/-- `pop_vlan` pops nothing from it, takes the tag out of the type and sets the ethertype. -/
theorem not_atomic_cutTag : ¬ ∀ p : Datapacketx86 Unit, p.Placed →
    ∀ op : HeaderOp, op.Atomic p := by
  intro h
  have hundo := (atomic_popVlan_iff placed_cutTag).mp (h cutTag placed_cutTag .popVlan)
  rcases hundo with hnone | hlen
  · exact absurd hnone (by decide)
  · exact absurd hlen (by decide)

end Xdpd.Io.Datapacketx86
