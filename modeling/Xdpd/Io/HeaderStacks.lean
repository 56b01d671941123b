import Xdpd.Io.Encapsulation
import Xdpd.Io.HeaderAtomicity
import Xdpd.Io.TunnelPushes
import Xdpd.Lib.Undo

/-!
# Stacks of headers

A header that has been pushed is popped again, with the ethertype that the frame had before.  That
gives the frame and the type back, except where a push has written over the frame: the new header
is put behind the addresses and the type of the frame, and is written where the type says that the
link layer ends.  In a frame with tags, or with an LLC header, this is somewhere else.

`stack_popped` is about any number of headers, which are popped in the opposite order.
-/

namespace Xdpd.Io.Datapacketx86

open Xdpd.Lib Xdpd.Classifier

variable {S : Type*}

/-! ## Calls and what undoes them -/

/-- The ethertype of the frame, as the host reads it. -/
def etherTypeWord (p : Datapacketx86 S) : BitVec 16 :=
  le16 p.getBuffer (etherTypeOffset p.getBuffer)

/-- The call that pops what this one pushes. -/
def HeaderOp.undo (p : Datapacketx86 S) : HeaderOp → HeaderOp
  | pushPbb _ => popPbb
  | pushVlan _ => popVlan
  | pushMpls _ => popMpls p.etherTypeWord
  | pushPppoe _ => popPppoe p.etherTypeWord
  | pushGtp _ => popGtp p.etherTypeWord
  | pushGre _ => popGre p.etherTypeWord
  | op => op

/-- The link layer is an Ethernet header alone. -/
def Untagged (p : Datapacketx86 S) : Prop :=
  isLlcFrame p.getBuffer = false ∧ p.type.l2 = .plain false 0

/-- The word is no length of an LLC frame. -/
def IsEtherType (ether_type : BitVec 16) : Prop :=
  ¬ (htonb16 ether_type).toNat < LLC_DELIMITER_HBO

instance (ether_type : BitVec 16) : Decidable (IsEtherType ether_type) :=
  inferInstanceAs (Decidable (¬ _))

/-- What is pushed leaves the frame as it is. -/
def HeaderOp.Reversible (p : Datapacketx86 S) : HeaderOp → Prop
  | pushPbb _ | pushGre _ => p.Classified
  | pushVlan ether_type =>
      isLlcFrame p.getBuffer = false ∧ (∃ tags, p.type.l2 = .plain false tags) ∧
        IsEtherType ether_type
  | pushMpls ether_type => p.Classified ∧ p.Untagged ∧ IsEtherType ether_type
  | pushPppoe _ | pushGtp _ => p.Classified ∧ p.Untagged
  | _ => False

/-- A header is pushed: the frame becomes longer. -/
def Pushes (p : Datapacketx86 S) (op : HeaderOp) (q : Datapacketx86 S) : Prop :=
  op.Reversible p ∧ op.run p = some q ∧ p.len < q.len

/-! ## Packets that look the same -/

/-- A packet in user space with this frame and type, and with the same bytes behind the frame. -/
structure Restored (p r : Datapacketx86 S) : Prop where
  placed : ∃ pos, r.PlacedAt pos
  type : r.type = p.type
  len : r.len = p.len
  bytes : r.getBuffer = p.transferToUserSpace.getBuffer

section Restored

variable {p q r : Datapacketx86 S} {pos : ℕ}

lemma PlacedAt.mapBuffer (h : p.PlacedAt pos) (write : (ℕ → Byte) → ℕ → Byte) :
    (p.mapBuffer write).PlacedAt pos := by
  simp only [Datapacketx86.mapBuffer, h.status]
  exact ⟨rfl, h.iovLen, h.fits⟩

lemma PlacedAt.setType (h : p.PlacedAt pos) (t : PktType) : ({ p with type := t }).PlacedAt pos :=
  ⟨h.status, h.iovLen, h.fits⟩

lemma PlacedAt.setRecalculateChecksum (h : p.PlacedAt pos) (type : CalculateChecksum) :
    (p.setRecalculateChecksum type).PlacedAt pos :=
  ⟨h.status, h.iovLen, h.fits⟩

lemma Restored.same (h : Restored p r) : p.Same r := by
  refine ⟨?_, h.len, h.type⟩
  rw [← frame_transferToUserSpace p, frame, frame, h.bytes, h.len, len_transferToUserSpace]

lemma Restored.trans (h : Restored p q) (h' : Restored q r) : Restored p r where
  placed := h'.placed
  type := h'.type.trans h.type
  len := h'.len.trans h.len
  bytes := by
    obtain ⟨pos, hpos⟩ := h.placed
    rw [h'.bytes, hpos.transferToUserSpace, h.bytes]

end Restored

/-! ## Pops of packets that look the same -/

section Congr

variable {p r : Datapacketx86 S} {pos : ℕ} {ether_type : BitVec 16}

/-- In user space, packets that look the same are read in the same way. -/
lemma Restored.getBuffer (h : Restored p r) (hpos : p.PlacedAt pos) :
    r.getBuffer = p.getBuffer := by
  rw [h.bytes, hpos.transferToUserSpace]

/-- Two packets of which the second looks like the first, both in user space. -/
def Alike (p r : Datapacketx86 S) : Prop :=
  (∃ pos, p.PlacedAt pos) ∧ Restored p r

lemma Alike.setType (h : Alike p r) (t : PktType) :
    Alike { p with type := t } { r with type := t } := by
  obtain ⟨⟨pos, hpos⟩, hrest⟩ := h
  obtain ⟨pos', hpos'⟩ := hrest.placed
  refine ⟨⟨pos, hpos.setType t⟩, ⟨pos', hpos'.setType t⟩, rfl, hrest.len, ?_⟩
  rw [(hpos.setType t).transferToUserSpace]
  exact hrest.getBuffer hpos

lemma Alike.mapBuffer (h : Alike p r) (write : (ℕ → Byte) → ℕ → Byte) :
    Alike (p.mapBuffer write) (r.mapBuffer write) := by
  obtain ⟨⟨pos, hpos⟩, hrest⟩ := h
  obtain ⟨pos', hpos'⟩ := hrest.placed
  refine ⟨⟨pos, hpos.mapBuffer write⟩, ⟨pos', hpos'.mapBuffer write⟩, ?_, ?_, ?_⟩
  · rw [type_mapBuffer, type_mapBuffer, hrest.type]
  · rw [len_mapBuffer, len_mapBuffer, hrest.len]
  · rw [(hpos.mapBuffer write).transferToUserSpace, getBuffer_mapBuffer, getBuffer_mapBuffer,
      hrest.getBuffer hpos]

lemma Alike.parseEthernet (h : Alike p r) : Alike p.parseEthernet r.parseEthernet := by
  obtain ⟨⟨pos, hpos⟩, hrest⟩ := h
  have htype : classify r.getBuffer r.len = classify p.getBuffer p.len := by
    rw [hrest.getBuffer hpos, hrest.len]
  rw [Datapacketx86.parseEthernet, Datapacketx86.parseEthernet, htype]
  exact Alike.setType ⟨⟨pos, hpos⟩, hrest⟩ _

lemma Alike.classifyPacket (h : Alike p r) (port_in phy_port_in port_in' phy_port_in' : BitVec 32) :
    Alike (p.classifyPacket port_in phy_port_in) (r.classifyPacket port_in' phy_port_in') := by
  obtain ⟨⟨pos, hpos⟩, hrest⟩ := h
  obtain ⟨pos', hpos'⟩ := hrest.placed
  have hplaced : (p.classifyPacket port_in phy_port_in).PlacedAt pos :=
    ⟨hpos.status, hpos.iovLen, hpos.fits⟩
  refine ⟨⟨pos, hplaced⟩, ⟨pos', hpos'.status, hpos'.iovLen, hpos'.fits⟩, ?_, hrest.len, ?_⟩
  · show classify r.getBuffer r.len = classify p.getBuffer p.len
    rw [hrest.getBuffer hpos, hrest.len]
  · rw [hplaced.transferToUserSpace]
    exact hrest.getBuffer hpos

/-- A pop of a few bytes. -/
lemma Alike.pop (h : Alike p r) {offset n : ℕ} (hwrap : offset + n < 2 ^ 32) :
    Alike (p.pop offset n).2 (r.pop offset n).2 := by
  obtain ⟨⟨pos, hpos⟩, hrest⟩ := h
  obtain ⟨pos', hpos'⟩ := hrest.placed
  rw [pop_eq hpos, pop_eq hpos', hrest.len, Nat.mod_eq_of_lt hwrap]
  by_cases hend : offset ≤ p.len ∧ offset + n ≤ p.len
  · have hn : n ≤ p.len := by omega
    have hn' : n ≤ r.len := by
      rw [hrest.len]
      exact hn
    rw [if_pos hend, if_pos hend]
    refine ⟨⟨_, hpos.popped offset hn⟩, ⟨_, hpos'.popped offset hn'⟩, hrest.type, ?_, ?_⟩
    · exact congrArg (fun len => subSize len n) hrest.len
    · rw [(hpos.popped offset hn).transferToUserSpace]
      funext i
      by_cases hi : i < offset
      · rw [getBuffer_popped_of_lt hpos' hi, getBuffer_popped_of_lt hpos hi, hrest.getBuffer hpos]
      · have hi := Nat.le_of_not_lt hi
        rw [getBuffer_popped_of_le hpos' hi, getBuffer_popped_of_le hpos hi, hrest.getBuffer hpos]
  · rw [if_neg hend, if_neg hend]
    exact ⟨⟨pos, hpos⟩, hrest⟩

lemma Alike.setEtherTypeAndParse (h : Alike p r) :
    Alike (p.setEtherTypeAndParse ether_type) (r.setEtherTypeAndParse ether_type) :=
  (h.mapBuffer _).parseEthernet

lemma Alike.setEtherTypeAndClassify (h : Alike p r) :
    Alike (p.setEtherTypeAndClassify ether_type) (r.setEtherTypeAndClassify ether_type) :=
  (h.mapBuffer _).classifyPacket _ _ _ _

lemma Alike.type (h : Alike p r) : r.type = p.type := h.2.type

lemma Alike.getBuffer (h : Alike p r) : r.getBuffer = p.getBuffer :=
  let ⟨_, hpos⟩ := h.1
  h.2.getBuffer hpos

lemma Alike.currentEtherType (h : Alike p r) : r.currentEtherType = p.currentEtherType := by
  rw [Datapacketx86.currentEtherType, Datapacketx86.currentEtherType, h.getBuffer]

lemma Alike.popPbb (h : Alike p r) : Alike p.platformPacketPopPbb r.platformPacketPopPbb := by
  rw [platformPacketPopPbb, platformPacketPopPbb, h.type]
  cases popTransitions p.type .isid with
  | none => exact h
  | some new => exact ((h.pop (by decide)).setType new).parseEthernet

lemma Alike.popMpls (h : Alike p r) :
    Alike (p.platformPacketPopMpls ether_type) (r.platformPacketPopMpls ether_type) := by
  rw [platformPacketPopMpls, platformPacketPopMpls, h.type]
  cases popTransitions p.type .mpls with
  | none => exact h
  | some new => exact ((h.pop (by decide)).setType new).setEtherTypeAndParse

lemma Alike.popVlan (h : Alike p r) {p' : Datapacketx86 S}
    (hrun : p.platformPacketPopVlan = some p') :
    ∃ r', r.platformPacketPopVlan = some r' ∧ Alike p' r' := by
  rw [platformPacketPopVlan] at hrun ⊢
  rw [h.type, h.getBuffer]
  cases hnew : popTransitions p.type .vlan with
  | none =>
      rw [hnew] at hrun
      obtain rfl := Option.some.inj hrun
      exact ⟨r, rfl, h⟩
  | some new =>
      rw [hnew] at hrun
      obtain ⟨vlan, hvlan, hrun⟩ := Option.bind_eq_some_iff.mp hrun
      obtain rfl := Option.some.inj hrun
      rw [hvlan]
      exact ⟨_, rfl, ((h.pop (by decide)).setType new).mapBuffer _⟩

lemma Alike.popPppoe (h : Alike p r) :
    Alike (p.platformPacketPopPppoe ether_type) (r.platformPacketPopPppoe ether_type) := by
  rw [platformPacketPopPppoe, platformPacketPopPppoe, h.currentEtherType]
  split_ifs
  · have hpop : Alike (p.pop 14 6).2 (r.pop 14 6).2 := h.pop (by decide)
    dsimp only
    rw [hpop.type]
    cases popTransitions (p.pop 14 6).2.type .pppoe with
    | none => exact hpop
    | some new => exact (hpop.setType new).setEtherTypeAndClassify
  · have hpop : Alike (p.pop 14 8).2 (r.pop 14 8).2 := h.pop (by decide)
    dsimp only
    rw [hpop.type]
    cases popTransitions (p.pop 14 8).2.type .ppp with
    | none => exact hpop
    | some new =>
        dsimp only
        cases popTransitions new .pppoe with
        | none => exact hpop.setType new
        | some new' => exact (hpop.setType new').setEtherTypeAndClassify
  · exact h.setEtherTypeAndClassify

lemma Alike.popGtp (h : Alike p r) :
    Alike (p.platformPacketPopGtp ether_type) (r.platformPacketPopGtp ether_type) := by
  rw [platformPacketPopGtp, platformPacketPopGtp, h.type, h.currentEtherType]
  cases getGtpuHdr p.type with
  | none => exact h
  | some gtp =>
      dsimp only
      split_ifs
      · cases popTransitions p.type .gtpu4 with
        | none => exact h
        | some new => exact ((h.pop (by decide)).setType new).setEtherTypeAndParse
      · cases popTransitions p.type .gtpu6 with
        | none => exact h
        | some new => exact ((h.pop (by decide)).setType new).setEtherTypeAndParse
      · exact h.setEtherTypeAndParse

lemma Alike.popGre (h : Alike p r) :
    Alike (p.platformPacketPopGre ether_type) (r.platformPacketPopGre ether_type) := by
  rw [platformPacketPopGre, platformPacketPopGre, h.type, h.currentEtherType, h.getBuffer]
  cases getGreHdr p.type with
  | none => exact h
  | some gre =>
      have hgre := greLen_lt p.getBuffer gre
      dsimp only
      split_ifs
      · exact h
      · cases popTransitions p.type .gre4 with
        | none => exact h
        | some new => exact ((h.pop (by omega)).setType new).parseEthernet
      · cases popTransitions p.type .gre6 with
        | none => exact h
        | some new => exact ((h.pop (by omega)).setType new).parseEthernet
      · exact h.parseEthernet

/-- **The calls that pop** do not tell packets apart that look the same. -/
lemma Alike.run_undo (h : Alike p r) {p₀ p' : Datapacketx86 S} {op : HeaderOp}
    (hrun : (op.undo p₀).run p = some p') :
    ∃ r', (op.undo p₀).run r = some r' ∧ Alike p' r' := by
  cases op with
  | pushVlan ether_type => exact h.popVlan hrun
  | popVlan => exact h.popVlan hrun
  | pushPbb ether_type | popPbb =>
      obtain rfl := Option.some.inj hrun
      exact ⟨_, rfl, h.popPbb⟩
  | pushMpls ether_type | popMpls ether_type =>
      obtain rfl := Option.some.inj hrun
      exact ⟨_, rfl, h.popMpls⟩
  | pushPppoe ether_type | popPppoe ether_type =>
      obtain rfl := Option.some.inj hrun
      exact ⟨_, rfl, h.popPppoe⟩
  | pushGtp ether_type | popGtp ether_type =>
      obtain rfl := Option.some.inj hrun
      exact ⟨_, rfl, h.popGtp⟩
  | pushGre ether_type | popGre ether_type =>
      obtain rfl := Option.some.inj hrun
      exact ⟨_, rfl, h.popGre⟩

end Congr

/-! ## A header that has been pushed -/

/-- A gap of `n` bytes has been opened, and filled in.  Before the gap, a push changes no more than
the ethertype. -/
structure Wraps (p q : Datapacketx86 S) (offset n : ℕ) : Prop where
  placed : ∃ pos, q.PlacedAt pos
  len : q.len = p.len + n
  offset_le : offset ≤ p.len
  before : ∀ i < 12, i < offset → q.getBuffer i = p.transferToUserSpace.getBuffer i
  behind : ∀ i, offset ≤ i → q.getBuffer (i + n) = p.transferToUserSpace.getBuffer i

section Wraps

variable {p p' q r : Datapacketx86 S} {offset n : ℕ} {ether_type : BitVec 16}

lemma wraps_of_push (h : p.Placed) (hpush : p.push offset n = (.success, p')) :
    Wraps p p' offset n ∧ (∀ i < offset, p'.getBuffer i = p.transferToUserSpace.getBuffer i) := by
  obtain ⟨pos, hpos⟩ := h.transfer
  rw [← push_transferToUserSpace] at hpush
  rcases push_cases hpos offset n with hfail | ⟨hoffset, hn, hsuccess⟩
  · cases hpush.symm.trans hfail
  · obtain rfl : p' = _ := (Prod.mk.inj (hpush.symm.trans hsuccess)).2
    rw [len_transferToUserSpace] at hoffset
    refine ⟨⟨⟨_, hpos.pushed offset hn⟩, ?_, hoffset, fun i _ hi => ?_, fun i hi => ?_⟩,
      fun i hi => ?_⟩
    · exact congrArg (· + n) (len_transferToUserSpace p)
    · exact getBuffer_pushed_of_lt hpos hn hi
    · exact getBuffer_pushed_add hpos hn hi
    · exact getBuffer_pushed_of_lt hpos hn hi

lemma Placed.pushPoint_cases (h : p.Placed) (offset n : ℕ) :
    p.pushPoint offset n = (.failure, p.transferToUserSpace) ∨
      ∃ p', p.pushPoint offset n = (.success, p') ∧ p.push offset n = (.success, p') := by
  rcases h.cases with ⟨buf, hstatus, -⟩ | ⟨pos, hpos⟩
  · rw [pushPoint, hstatus]
    exact Or.inl rfl
  · rw [hpos.transferToUserSpace]
    rcases Datapacketx86.pushPoint_cases hpos offset n with hfail | ⟨hoffset, hn, hsuccess⟩
    · exact Or.inl hfail
    · exact Or.inr ⟨_, hsuccess, (push_eq hpos offset n).trans (if_pos ⟨hoffset, hn⟩)⟩

lemma Wraps.setType (h : Wraps p q offset n) (t : PktType) :
    Wraps p { q with type := t } offset n :=
  let ⟨pos, hpos⟩ := h.placed
  ⟨⟨pos, hpos.setType t⟩, h.len, h.offset_le, h.before, h.behind⟩

lemma Wraps.setRecalculateChecksum (h : Wraps p q offset n) (type : CalculateChecksum) :
    Wraps p (q.setRecalculateChecksum type) offset n :=
  let ⟨pos, hpos⟩ := h.placed
  ⟨⟨pos, hpos.status, hpos.iovLen, hpos.fits⟩, h.len, h.offset_le, h.before, h.behind⟩

/-- The gap and the ethertype before it are written. -/
lemma Wraps.mapBuffer (h : Wraps p q offset n) {write : (ℕ → Byte) → ℕ → Byte}
    (hwrite : ∀ i, i < 12 ∧ i < offset ∨ offset + n ≤ i →
      write q.getBuffer i = q.getBuffer i) :
    Wraps p (q.mapBuffer write) offset n := by
  obtain ⟨pos, hpos⟩ := h.placed
  refine ⟨⟨pos, hpos.mapBuffer write⟩, ?_, h.offset_le, fun i hi hlt => ?_, fun i hi => ?_⟩
  · rw [len_mapBuffer, h.len]
  · rw [getBuffer_mapBuffer, hwrite i (Or.inl ⟨hi, hlt⟩), h.before i hi hlt]
  · rw [getBuffer_mapBuffer, hwrite (i + n) (Or.inr (by omega)), h.behind i hi]

/-- What comes of popping the gap. -/
lemma Wraps.popped (h : Wraps p q offset n) : ∃ pos,
    (q.pop offset n).2.PlacedAt pos ∧ (q.pop offset n).2.len = p.len ∧
      (∀ i < offset, (q.pop offset n).2.getBuffer i = q.getBuffer i) ∧
      ∀ i, offset ≤ i →
        (q.pop offset n).2.getBuffer i = p.transferToUserSpace.getBuffer i := by
  obtain ⟨pos, hpos⟩ := h.placed
  have hsize : bufferSize = 9320 := rfl
  have hfits := hpos.fits
  have hlen := h.len
  have hoffset := h.offset_le
  have hend : offset ≤ q.len ∧ (offset + n) % 2 ^ 32 ≤ q.len := by
    rw [Nat.mod_eq_of_lt (by omega)]
    omega
  rw [pop_eq hpos, if_pos hend]
  refine ⟨_, hpos.popped offset (by omega), ?_, fun i hi => getBuffer_popped_of_lt hpos hi,
    fun i hi => ?_⟩
  · show subSize q.len n = p.len
    rw [subSize, if_pos (by omega)]
    omega
  · rw [getBuffer_popped_of_le hpos hi, h.behind i hi]

/-- A header before the whole frame. -/
lemma Wraps.restored_parse (h : Wraps p q 0 n) (hclass : p.Classified) (new : PktType) :
    Restored p { (q.pop 0 n).2 with type := new }.parseEthernet := by
  obtain ⟨pos, hpos, hlen, -, hbytes⟩ := h.popped
  have hbuffer : (q.pop 0 n).2.getBuffer = p.transferToUserSpace.getBuffer :=
    funext fun i => hbytes i (Nat.zero_le i)
  refine ⟨⟨pos, hpos.status, hpos.iovLen, hpos.fits⟩, ?_, hlen, hbuffer⟩
  show classify (q.pop 0 n).2.getBuffer (q.pop 0 n).2.len = p.type
  rw [hbuffer, hlen]
  exact hclass

/-- The bytes of a word of the host. -/
lemma leBytes_le16 (mem : ℕ → Byte) {a i : ℕ} (hle : a ≤ i) (hlt : i < a + 2) :
    leBytes (le16 mem a) (i - a) = mem i := by
  obtain ⟨j, rfl⟩ := Nat.exists_eq_add_of_le hle
  have hj : j = 0 ∨ j = 1 := by omega
  rw [Nat.add_sub_cancel_left, leBytes, le16]
  rcases hj with rfl | rfl
  · exact BitVec.extractLsb'_append_eq_right
  · exact BitVec.extractLsb'_append_eq_left

/-- A header behind the Ethernet header, once it has been popped and the ethertype is back. -/
lemma Wraps.bytes_link (h : Wraps p q 14 n) (hllc : isLlcFrame p.getBuffer = false)
    (hllc' : isLlcFrame q.getBuffer = false) (new : PktType) : ∃ pos,
      ({ (q.pop 14 n).2 with type := new }.mapBuffer (setEtherType 0 p.etherTypeWord)).PlacedAt
        pos ∧
      ({ (q.pop 14 n).2 with type := new }.mapBuffer (setEtherType 0 p.etherTypeWord)).len =
        p.len ∧
      ({ (q.pop 14 n).2 with type := new }.mapBuffer (setEtherType 0 p.etherTypeWord)).getBuffer =
        p.transferToUserSpace.getBuffer := by
  obtain ⟨pos, hpos, hlen, hbefore, hbehind⟩ := h.popped
  have hoffset : etherTypeOffset (q.pop 14 n).2.getBuffer = 12 := by
    rw [etherTypeOffset, isLlcFrame, be16, hbefore 12 (by decide), hbefore 13 (by decide), ← be16,
      ← isLlcFrame, hllc']
    rfl
  have hword : p.etherTypeWord = le16 p.transferToUserSpace.getBuffer 12 := by
    have hle := h.offset_le
    have hbytes : le16 p.getBuffer 12 = le16 p.transferToUserSpace.getBuffer 12 := by
      rw [le16, le16, getBuffer_transferToUserSpace p _ (by omega),
        getBuffer_transferToUserSpace p _ (by omega)]
    rw [etherTypeWord, etherTypeOffset, hllc]
    exact hbytes
  refine ⟨pos, (hpos.setType new).mapBuffer _, ?_, ?_⟩
  · rw [len_mapBuffer]
    exact hlen
  · rw [getBuffer_mapBuffer]
    change setEtherType 0 p.etherTypeWord (q.pop 14 n).2.getBuffer = _
    funext i
    by_cases hword' : 12 ≤ i ∧ i < 14
    · rw [setEtherType_of_mem (by omega) (by omega), hoffset, hword,
        leBytes_le16 _ hword'.1 hword'.2]
    · rw [setEtherType_of_not_mem (by omega)]
      by_cases hi : i < 14
      · rw [hbefore i hi, h.before i (by omega) hi]
      · exact hbehind i (Nat.le_of_not_lt hi)

lemma Wraps.restored_linkParse (h : Wraps p q 14 n) (hclass : p.Classified)
    (hllc : isLlcFrame p.getBuffer = false) (hllc' : isLlcFrame q.getBuffer = false)
    (new : PktType) :
    Restored p ({ (q.pop 14 n).2 with type := new }.setEtherTypeAndParse p.etherTypeWord) := by
  obtain ⟨pos, hpos, hlen, hbytes⟩ := h.bytes_link hllc hllc' new
  refine ⟨⟨pos, hpos.status, hpos.iovLen, hpos.fits⟩, ?_, hlen, hbytes⟩
  rw [setEtherTypeAndParse, parseEthernet]
  dsimp only
  rw [hbytes, hlen]
  exact hclass

lemma Wraps.restored_linkClassify (h : Wraps p q 14 n) (hclass : p.Classified)
    (hllc : isLlcFrame p.getBuffer = false) (hllc' : isLlcFrame q.getBuffer = false)
    (new : PktType) :
    Restored p ({ (q.pop 14 n).2 with type := new }.setEtherTypeAndClassify p.etherTypeWord) := by
  obtain ⟨pos, hpos, hlen, hbytes⟩ := h.bytes_link hllc hllc' new
  refine ⟨⟨pos, hpos.status, hpos.iovLen, hpos.fits⟩, ?_, hlen, hbytes⟩
  rw [setEtherTypeAndClassify, classifyPacket]
  dsimp only
  rw [hbytes, hlen]
  exact hclass

end Wraps

/-! ## Words that have been written -/

section Words

variable {mem : ℕ → Byte} {a b : ℕ} {v w mask : BitVec 16}

lemma isLlcFrame_iff : isLlcFrame mem = true ↔ (be16 mem 12).toNat < LLC_DELIMITER_HBO :=
  decide_eq_true_iff

lemma isLlcFrame_of_isEtherType (hv : IsEtherType v) (hmem : be16 mem 12 = htonb16 v) :
    isLlcFrame mem = false := by
  rw [← Bool.not_eq_true, isLlcFrame_iff, hmem]
  exact hv

/-- The ethertype of a frame without an LLC header. -/
lemma be16_setEtherType (hllc : isLlcFrame mem = false) :
    be16 (setEtherType 0 v mem) 12 = htonb16 v := by
  have hoffset : etherTypeOffset mem = 12 := by
    rw [etherTypeOffset, hllc]
    rfl
  have hread : be16 (writeAll ([] ++ [setWord 12 v]) mem) 12 = htonb16 v :=
    be16_writeAll [] (List.forall_mem_nil _) mem
  rw [setEtherType_eq_setWord, hoffset]
  exact hread

lemma be16_of_staysIn {writes : List ((ℕ → Byte) → ℕ → Byte)}
    (hwrites : ∀ write ∈ writes, StaysIn 14 b write) :
    be16 (writeAll writes mem) 12 = be16 mem 12 := by
  rw [be16, be16, StaysIn.writeAll hwrites mem 12 (Or.inl (by decide)),
    StaysIn.writeAll hwrites mem (12 + 1) (Or.inl (by decide))]

/-- A word is made up of its bytes. -/
lemma leBytes_append (v : BitVec 16) : (leBytes v 1 ++ leBytes v 0 : BitVec (8 + 8)) = v := by
  refine BitVec.eq_of_getLsbD_eq fun i hi => ?_
  rw [BitVec.getLsbD_append, leBytes, leBytes]
  split_ifs with hlow
  · rw [BitVec.getLsbD_extractLsb', Nat.mul_zero, Nat.zero_add, decide_eq_true hlow, Bool.true_and]
  · have hhigh : i - 8 < 8 := by omega
    have hsum : 8 * 1 + (i - 8) = i := by omega
    rw [BitVec.getLsbD_extractLsb', hsum, decide_eq_true hhigh, Bool.true_and]

lemma le16_setWord : le16 (setWord a v mem) a = v := by
  have hlow : setWord a v mem a = leBytes v 0 := copyTo_add (by decide : 0 < 16 / 8)
  have hhigh : setWord a v mem (a + 1) = leBytes v 1 := copyTo_add (by decide : 1 < 16 / 8)
  rw [le16, hlow, hhigh]
  exact leBytes_append v

lemma le16_setBits : le16 (setBits a mask v mem) a = v &&& mask ||| le16 mem a &&& ~~~mask := by
  have hlow : setBits a mask v mem a =
      leBytes v 0 &&& leBytes mask 0 ||| mem (a + 0) &&& ~~~leBytes mask 0 :=
    copyTo_add (by decide : 0 < 16 / 8)
  have hhigh : setBits a mask v mem (a + 1) =
      leBytes v 1 &&& leBytes mask 1 ||| mem (a + 1) &&& ~~~leBytes mask 1 :=
    copyTo_add (by decide : 1 < 16 / 8)
  rw [le16, hlow, hhigh, le16]
  conv_rhs => rw [← leBytes_append v, ← leBytes_append mask]
  rw [BitVec.not_append, BitVec.and_append, BitVec.and_append, BitVec.or_append]
  rfl

/-- A field is read back from a word. -/
lemma le16_setBits_and : le16 (setBits a mask v mem) a &&& mask = v &&& mask := by
  rw [le16_setBits]
  ext i hi
  simp only [BitVec.getElem_and, BitVec.getElem_or, BitVec.getElem_not]
  cases v[i] <;> cases mask[i] <;> simp

/-- The other fields of the word stay. -/
lemma le16_setBits_and_of_apart (h : w &&& mask = 0) :
    le16 (setBits a mask v mem) a &&& w = le16 mem a &&& w := by
  rw [le16_setBits]
  ext i hi
  have hbit : (w[i] && mask[i]) = false := by
    rw [← BitVec.getElem_and, h]
    exact BitVec.getElem_zero hi
  simp only [BitVec.getElem_and, BitVec.getElem_or, BitVec.getElem_not]
  revert hbit
  cases w[i] <;> cases mask[i] <;> simp

end Words

/-! ## Each header is popped -/

/-- A header has been pushed, and the call that undoes it gives the packet back. -/
def Undone (p : Datapacketx86 S) (op : HeaderOp) (q : Datapacketx86 S) : Prop :=
  (∃ pos, q.PlacedAt pos) ∧ ∃ r, (op.undo p).run q = some r ∧ Restored p r

section Undone

variable {p p' q : Datapacketx86 S} {offset n : ℕ} {ether_type : BitVec 16}

/-- The ethertype, and before and after it a header behind the Ethernet header, are written. -/
lemma Wraps.link (h : Wraps p p' 14 n)
    (hbefore : ∀ i < 14, p'.getBuffer i = p.transferToUserSpace.getBuffer i)
    (hllc : isLlcFrame p.getBuffer = false) {new : PktType} {v : BitVec 16}
    (first : List ((ℕ → Byte) → ℕ → Byte)) {rest : List ((ℕ → Byte) → ℕ → Byte)}
    (hq : { p' with type := new }.mapBuffer (writeAll (first ++ setEtherType 0 v :: rest)) = q)
    (hfirst : ∀ write ∈ first, StaysIn 14 (14 + n) write)
    (hrest : ∀ write ∈ rest, StaysIn 14 (14 + n) write) :
    Wraps p q 14 n ∧ be16 q.getBuffer 12 = htonb16 v ∧ q.type = new ∧
      etherTypeOffset (writeAll first p'.getBuffer) = 12 := by
  have hle := h.offset_le
  have hllc' : isLlcFrame (writeAll first p'.getBuffer) = false := by
    rw [isLlcFrame, be16_of_staysIn hfirst, be16, hbefore 12 (by decide), hbefore 13 (by decide),
      getBuffer_transferToUserSpace p 12 (by omega), getBuffer_transferToUserSpace p 13 (by omega)]
    exact hllc
  have hoffset : etherTypeOffset (writeAll first p'.getBuffer) = 12 := by
    rw [etherTypeOffset, hllc']
    rfl
  rw [← hq]
  refine ⟨(h.setType new).mapBuffer fun i hi => ?_, ?_, type_mapBuffer _ _, hoffset⟩
  · have hout : i < etherTypeOffset (writeAll first p'.getBuffer) ∨
        etherTypeOffset (writeAll first p'.getBuffer) + 2 ≤ i := by
      omega
    rw [writeAll_append]
    exact (StaysIn.writeAll hrest _ i (by omega)).trans
      ((setEtherType_of_not_mem hout).trans (StaysIn.writeAll hfirst _ i (by omega)))
  · rw [getBuffer_mapBuffer, writeAll_append]
    exact (be16_of_staysIn hrest).trans (be16_setEtherType hllc')

lemma undone_pushPbb (h : p.Placed) (hclass : p.Classified)
    (hq : p.platformPacketPushPbb ether_type = q) (hlen : p.len < q.len) :
    Undone p (.pushPbb ether_type) q := by
  rw [platformPacketPushPbb] at hq
  cases hnew : pushTransitions p.type .isid with
  | none =>
      simp only [hnew] at hq
      exact (not_lt_self (hq ▸ hlen)).elim
  | some new =>
      obtain rfl := pushTransitions_isid hnew
      rcases h.push_cases 0 18 with hfail | ⟨p', hpush, -⟩
      · simp only [hnew, hfail] at hq
        rw [← hq, len_transferToUserSpace] at hlen
        exact (not_lt_self hlen).elim
      · simp only [hnew, hpush] at hq
        have hwraps : Wraps p q 0 18 := by
          rw [← hq]
          refine ((wraps_of_push h hpush).1.setType _).mapBuffer fun i hi => ?_
          refine StaysIn.writeAll (a := 0) (b := 18) ?_ _ i (by omega)
          simp only [List.forall_mem_cons, List.not_mem_nil, false_imp_iff, forall_const, and_true]
          refine ⟨?_, ?_, staysIn_setWord _ (by omega) (by omega)⟩
          · exact fun mem i hi => setBits_of_not_mem _ _ _ (by omega)
          · exact fun mem i hi => setBits_of_not_mem _ _ _ (by omega)
        refine ⟨hwraps.placed, _, rfl, ?_⟩
        have htype : q.type = ⟨.isid false, .none⟩ := by
          rw [← hq]
          exact type_mapBuffer _ _
        rw [platformPacketPopPbb, htype]
        exact hwraps.restored_parse hclass _

lemma undone_pushMpls (h : p.Placed) (hclass : p.Classified) (huntagged : p.Untagged)
    (het : IsEtherType ether_type) (hq : p.platformPacketPushMpls ether_type = some q)
    (hlen : p.len < q.len) : Undone p (.pushMpls ether_type) q := by
  rw [platformPacketPushMpls] at hq
  cases hnew : pushTransitions p.type .mpls with
  | none =>
      simp only [hnew, Option.some_inj] at hq
      exact (not_lt_self (hq ▸ hlen)).elim
  | some new =>
      obtain ⟨llc, tags, labels, -, rfl⟩ := pushTransitions_mpls hnew
      have hmpls : getMplsHdr ⟨p.type.l2, .mpls labels⟩ 0 = some 14 := by
        rw [getMplsHdr, if_pos rfl, protocolOffset_above rfl, huntagged.2]
        rfl
      rcases h.pushPoint_cases 14 4 with hfail | ⟨p', hpush, hpush'⟩
      · simp only [hnew, hfail, Option.some_inj] at hq
        rw [← hq, len_transferToUserSpace] at hlen
        exact (not_lt_self hlen).elim
      · simp only [hnew, hpush, hmpls, Option.bind_some, Option.some_inj] at hq
        obtain ⟨hwraps, hbefore⟩ := wraps_of_push h hpush'
        obtain ⟨hwraps, hether, htype, -⟩ := hwraps.link hbefore huntagged.1 [] hq
          (List.forall_mem_nil _) (by
          split
          all_goals
            simp only [List.forall_mem_cons, List.not_mem_nil, false_imp_iff, forall_const,
              and_true]
            refine ⟨?_, ?_, ?_, ?_⟩
          all_goals
            intro mem i hi
            first
              | exact setBits_of_not_mem _ _ _ (by omega)
              | exact setWord_of_not_mem _ _ (by omega))
        obtain ⟨new, hpop⟩ : ∃ new, popTransitions q.type .mpls = some new := by
          rw [htype, huntagged.2]
          exact ⟨_, rfl⟩
        refine ⟨hwraps.placed, _, rfl, ?_⟩
        rw [platformPacketPopMpls, hpop]
        exact hwraps.restored_linkParse hclass huntagged.1
          (isLlcFrame_of_isEtherType het hether) new

lemma isEtherType_pppoe : IsEtherType (htonb16 ETH_TYPE_PPPOE_SESSION) ∧
    IsEtherType (htonb16 ETH_TYPE_PPPOE_DISCOVERY) := by
  decide

/-- The ethertype that a push has written. -/
lemma currentEtherType_of_be16 {v : BitVec 16} (hv : IsEtherType v)
    (hether : be16 q.getBuffer 12 = htonb16 v) : q.currentEtherType = htonb16 v := by
  rw [currentEtherType, etherTypeOffset, isLlcFrame_of_isEtherType hv hether]
  exact hether

lemma undone_pushPppoe (h : p.Placed) (hclass : p.Classified) (huntagged : p.Untagged)
    (hq : p.platformPacketPushPppoe ether_type = some q) (hlen : p.len < q.len) :
    Undone p (.pushPppoe ether_type) q := by
  obtain ⟨hsession, hdiscovery⟩ := isEtherType_pppoe
  rw [platformPacketPushPppoe] at hq
  cases hnew : pushTransitions p.type .pppoe with
  | none =>
      simp only [hnew, Option.some_inj] at hq
      exact (not_lt_self (hq ▸ hlen)).elim
  | some new =>
      obtain ⟨-, -, -, rfl, -⟩ := pushTransitions_pppoe hnew
      rw [huntagged.2] at hnew
      simp only [hnew] at hq
      split_ifs at hq with het het'
      · rcases h.push_cases 14 8 with hfail | ⟨p', hpush, -⟩
        · simp only [hfail, Option.some_inj] at hq
          rw [← hq, len_transferToUserSpace] at hlen
          exact (not_lt_self hlen).elim
        · have hppp : getPppHdr ⟨.plain false 0, .ppp⟩ = some 20 := by decide
          have hpppoe : getPppoeHdr ⟨.plain false 0, .ppp⟩ = some 14 := by decide
          have hpush' : pushTransitions ⟨.plain false 0, .pppoe⟩ .ppp =
              some ⟨.plain false 0, .ppp⟩ := rfl
          simp only [hpush, hpush', hppp, hpppoe, Option.bind_some, Option.some_inj] at hq
          obtain ⟨hwraps, hbefore⟩ := wraps_of_push h hpush
          obtain ⟨hwraps, hether, htype, -⟩ := hwraps.link hbefore huntagged.1 [] hq
            (List.forall_mem_nil _) (by
            rw [List.forall_mem_cons]
            exact ⟨staysIn_setWord _ (by omega) (by omega),
              staysIn_setPppoeDefaults (by omega) (by omega)⟩)
          have hcurrent := currentEtherType_of_be16 hsession hether
          refine ⟨hwraps.placed, _, rfl, ?_⟩
          have hne : htonb16 (htonb16 ETH_TYPE_PPPOE_SESSION) ≠ ETH_TYPE_PPPOE_DISCOVERY := by
            decide
          have heq : htonb16 (htonb16 ETH_TYPE_PPPOE_SESSION) = ETH_TYPE_PPPOE_SESSION := by
            decide
          rw [platformPacketPopPppoe, hcurrent, if_neg hne, if_pos heq]
          dsimp only
          rw [type_pop, htype]
          exact hwraps.restored_linkClassify hclass huntagged.1
            (isLlcFrame_of_isEtherType hsession hether) _
      · rcases h.pushPoint_cases 14 6 with hfail | ⟨p', hpush, hpush'⟩
        · simp only [hfail, Option.some_inj] at hq
          rw [← hq, len_transferToUserSpace] at hlen
          exact (not_lt_self hlen).elim
        · have hpppoe : getPppoeHdr ⟨.plain false 0, .pppoe⟩ = some 14 := by decide
          simp only [hpush, hpppoe, Option.bind_some, Option.some_inj] at hq
          obtain ⟨hwraps, hbefore⟩ := wraps_of_push h hpush'
          obtain ⟨hwraps, hether, htype, -⟩ := hwraps.link hbefore huntagged.1 [] hq
            (List.forall_mem_nil _) (staysIn_setPppoeDefaults (by omega) (by omega))
          have hcurrent := currentEtherType_of_be16 hdiscovery hether
          refine ⟨hwraps.placed, _, rfl, ?_⟩
          have heq : htonb16 (htonb16 ETH_TYPE_PPPOE_DISCOVERY) = ETH_TYPE_PPPOE_DISCOVERY := by
            decide
          rw [platformPacketPopPppoe, hcurrent, if_pos heq]
          dsimp only
          rw [type_pop, htype]
          exact hwraps.restored_linkClassify hclass huntagged.1
            (isLlcFrame_of_isEtherType hdiscovery hether) _
      · obtain ⟨n_pppoe, -, hq⟩ := Option.bind_eq_some_iff.1 hq
        rw [← Option.some_inj.1 hq, len_mapBuffer] at hlen
        exact (not_lt_self hlen).elim

/-- A tag that has been pushed is the first header. -/
lemma getVlanHdr_plain (tags : Fin 3) (htags : tags ≠ 0) (upper : Upper) :
    getVlanHdr ⟨.plain false tags, upper⟩ = some 14 := by
  have hoffset : ∀ tags : Fin 3, tags ≠ 0 →
      offsetIn .vlan 0 (L2.plain false tags).name = some 14 := by
    decide
  rw [getVlanHdr, protocolOffset_link rfl]
  exact hoffset tags htags

lemma popTransitions_plain_vlan (tags : Fin 3) (htags : tags ≠ 0) (upper : Upper) :
    popTransitions ⟨.plain false tags, upper⟩ .vlan =
      some ⟨.plain false ⟨tags.val - 1, (Nat.sub_le _ _).trans_lt tags.isLt⟩, upper⟩ := by
  simp [popTransitions, htags]

lemma undone_pushVlan (h : p.Placed) (hllc : isLlcFrame p.getBuffer = false)
    (hl2 : ∃ tags, p.type.l2 = .plain false tags) (het : IsEtherType ether_type)
    (hq : p.platformPacketPushVlan ether_type = some q) (hlen : p.len < q.len) :
    Undone p (.pushVlan ether_type) q := by
  obtain ⟨tags, hl2⟩ := hl2
  have hplain : p.type = ⟨.plain false tags, p.type.upper⟩ := by rw [← hl2]
  rw [platformPacketPushVlan] at hq
  have htrans : pushTransitions p.type .vlan = if h : tags.val + 1 < 3 then
      some ⟨.plain false ⟨tags.val + 1, h⟩, p.type.upper⟩ else none := by
    exact (congrArg (pushTransitions · .vlan) hplain).trans rfl
  by_cases htags : tags.val + 1 < 3
  · rw [dif_pos htags] at htrans
    have hne : (⟨tags.val + 1, htags⟩ : Fin 3) ≠ 0 := Fin.ne_of_val_ne (Nat.succ_ne_zero _)
    have hvlan := getVlanHdr_plain _ hne p.type.upper
    rcases h.push_cases 14 4 with hfail | ⟨p', hpush, -⟩
    · simp only [htrans, hfail, Option.some_inj] at hq
      rw [← hq, len_transferToUserSpace] at hlen
      exact (not_lt_self hlen).elim
    · simp only [htrans, hpush, hvlan, Option.bind_some, Option.some_inj] at hq
      obtain ⟨hwraps, hbefore⟩ := wraps_of_push h hpush
      rw [List.append_cons] at hq
      obtain ⟨hwraps, hether, htype, hoffset⟩ := hwraps.link hbefore hllc _ hq (by
        rw [List.forall_mem_append, List.forall_mem_singleton]
        refine ⟨?_, staysIn_setWord _ (by omega) (by omega)⟩
        split
        all_goals
          simp only [List.forall_mem_cons, List.not_mem_nil, false_imp_iff, forall_const, and_true]
          refine ⟨?_, ?_⟩
        all_goals exact fun mem i hi => setBits_of_not_mem _ _ _ (by omega))
          (List.forall_mem_nil _)
      have hllc' := isLlcFrame_of_isEtherType het hether
      have hinner : le16 q.getBuffer (14 + 2) = p.etherTypeWord := by
        rw [← hq, getBuffer_mapBuffer, writeAll_append]
        show le16 (setEtherType 0 ether_type (writeAll _ p'.getBuffer)) (14 + 2) = _
        rw [le16, setEtherType_of_not_mem (by omega), setEtherType_of_not_mem (by omega), ← le16,
          writeAll_append]
        exact le16_setWord
      obtain ⟨pos, hpos, hlen', hbytes⟩ := hwraps.bytes_link hllc hllc' p.type
      refine ⟨hwraps.placed, { (q.pop 14 4).2 with type := p.type }.mapBuffer
        (setEtherType 0 p.etherTypeWord), ?_, ⟨pos, hpos⟩, type_mapBuffer _ _, hlen', hbytes⟩
      have hpop : popTransitions q.type .vlan = some p.type := by
        rw [htype, popTransitions_plain_vlan _ hne]
        exact congrArg some hplain.symm
      show q.platformPacketPopVlan = _
      rw [platformPacketPopVlan, hpop, htype, hvlan]
      simp only [Option.bind_some, hinner]
  · rw [dif_neg htags] at htrans
    simp only [htrans, Option.some_inj] at hq
    exact (not_lt_self (hq ▸ hlen)).elim

/-- A packet that agrees with one into which a header has been pushed, but for that header. -/
lemma Wraps.congr (h : Wraps p p' offset n) (hplaced : ∃ pos, q.PlacedAt pos)
    (hlen : q.len = p'.len)
    (hbytes : ∀ i, i < 12 ∧ i < offset ∨ offset + n ≤ i → q.getBuffer i = p'.getBuffer i) :
    Wraps p q offset n where
  placed := hplaced
  len := hlen.trans h.len
  offset_le := h.offset_le
  before i hi hlt := (hbytes i (Or.inl ⟨hi, hlt⟩)).trans (h.before i hi hlt)
  behind i hi := (hbytes (i + n) (Or.inr (by omega))).trans (h.behind i hi)

lemma placed_setGtpDefaults {payloadlen : ℕ} (h : ∃ pos, p.PlacedAt pos)
    (hq : setGtpDefaults payloadlen p = some q) : ∃ pos, q.PlacedAt pos := by
  obtain ⟨pos, hpos⟩ := h
  obtain ⟨udp, -, hq⟩ := Option.bind_eq_some_iff.1 hq
  obtain ⟨gtp, -, hq⟩ := Option.bind_eq_some_iff.1 hq
  rw [← Option.some_inj.1 hq]
  exact ⟨pos, (hpos.mapBuffer _).setRecalculateChecksum _⟩

lemma placed_setGreDefaults (h : ∃ pos, p.PlacedAt pos) (hq : setGreDefaults p = some q) :
    ∃ pos, q.PlacedAt pos := by
  obtain ⟨pos, hpos⟩ := h
  obtain ⟨gre, -, hq⟩ := Option.bind_eq_some_iff.1 hq
  rw [← Option.some_inj.1 hq]
  exact ⟨pos, (hpos.mapBuffer _).setRecalculateChecksum _⟩

lemma isEtherType_ip : IsEtherType (htonb16 ETH_TYPE_IPV4) ∧
    IsEtherType (htonb16 ETH_TYPE_IPV6) := by
  decide

/-- The headers of UDP and GTP are written behind the IP header. -/
lemma Wraps.setGtpDefaults {m : Datapacketx86 S} {t : PktType} {payloadlen : ℕ}
    (udp : ℕ) (h : Wraps p m 14 n) (htype : m.type = t) (hudp : getUdpHdr t = some udp)
    (hgtp : getGtpuHdr t = some (udp + 8)) (hle : 14 ≤ udp) (hn : udp + 16 ≤ 14 + n)
    (hset : Datapacketx86.setGtpDefaults payloadlen m = some q) :
    Wraps p q 14 n ∧ be16 q.getBuffer 12 = be16 m.getBuffer 12 ∧ q.type = t := by
  obtain ⟨hqtype, hlen, hbytes⟩ := setGtpDefaults_spec hudp hgtp hle (Nat.le_refl _)
    (by omega : udp + 8 + 8 ≤ 14 + n) hset htype
  refine ⟨h.congr (placed_setGtpDefaults h.placed hset) hlen fun i hi => hbytes i (by omega), ?_,
    hqtype⟩
  rw [be16, be16, hbytes _ (Or.inl (by decide)), hbytes _ (Or.inl (by decide))]

lemma undone_pushGtp (h : p.Placed) (hclass : p.Classified) (huntagged : p.Untagged)
    (hq : (HeaderOp.pushGtp ether_type).run p = some q) (hlen : p.len < q.len) :
    Undone p (.pushGtp ether_type) q := by
  obtain ⟨hipv4, hipv6⟩ := isEtherType_ip
  obtain ⟨ip_ttl, DF_flag, hrun⟩ := run_pushGtp ether_type (findsIp_of_pushGtp hq hlen)
  rw [hrun] at hq
  obtain ⟨llc, p', hl2, hcases⟩ := pushGtpTunnel_cases h hq hlen
  rw [huntagged.2] at hcases
  rcases hcases with ⟨-, hpush, ident, hset⟩ | ⟨-, hpush, hset⟩
  · obtain ⟨hwraps, hbefore⟩ := wraps_of_push h hpush
    have hwrites : ∀ write ∈ setTunnelIpv4 14 (20 + 8 + 8 + p.payloadlen) UDP_IP_PROTO ident ip_ttl
        DF_flag, StaysIn 14 (14 + 36) write :=
      staysIn_setTunnelIpv4 (by omega) (by omega)
    obtain ⟨hwraps, hether, htype, -⟩ := hwraps.link hbefore huntagged.1 [] rfl
      (List.forall_mem_nil _) hwrites
    obtain ⟨hwraps, hether', htype⟩ := (hwraps.setRecalculateChecksum .ipv4).setGtpDefaults 34
      htype (by decide) (by decide) (by decide) (by decide) hset
    have hether := hether'.trans hether
    have hcurrent := currentEtherType_of_be16 hipv4 hether
    refine ⟨hwraps.placed, _, rfl, ?_⟩
    have heq : htonb16 (htonb16 ETH_TYPE_IPV4) = ETH_TYPE_IPV4 := by decide
    have hgtp : getGtpuHdr ⟨.plain false 0, .ipv4 0 .gtpu4⟩ = some 42 := by decide
    rw [platformPacketPopGtp, htype, hgtp, hcurrent]
    dsimp only
    rw [if_pos heq]
    exact hwraps.restored_linkParse hclass huntagged.1 (isLlcFrame_of_isEtherType hipv4 hether) _
  · obtain ⟨hwraps, hbefore⟩ := wraps_of_push h hpush
    have hwrites : ∀ write ∈ setTunnelIpv6 14 (8 + 8 + p.payloadlen) UDP_IP_PROTO ip_ttl,
        StaysIn 14 (14 + 56) write :=
      staysIn_setTunnelIpv6 (by omega) (by omega)
    obtain ⟨hwraps, hether, htype, -⟩ := hwraps.link hbefore huntagged.1 [] rfl
      (List.forall_mem_nil _) hwrites
    obtain ⟨hwraps, hether', htype⟩ := hwraps.setGtpDefaults 54 htype
      (by decide) (by decide) (by decide) (by decide) hset
    have hether := hether'.trans hether
    have hcurrent := currentEtherType_of_be16 hipv6 hether
    refine ⟨hwraps.placed, _, rfl, ?_⟩
    have hne : htonb16 (htonb16 ETH_TYPE_IPV6) ≠ ETH_TYPE_IPV4 := by decide
    have heq : htonb16 (htonb16 ETH_TYPE_IPV6) = ETH_TYPE_IPV6 := by decide
    have hgtp : getGtpuHdr ⟨.plain false 0, .ipv6 .gtpu6⟩ = some 62 := by decide
    rw [platformPacketPopGtp, htype, hgtp, hcurrent]
    dsimp only
    rw [if_neg hne, if_pos heq]
    exact hwraps.restored_linkParse hclass huntagged.1 (isLlcFrame_of_isEtherType hipv6 hether) _

/-- The fields that `pop_gre` reads. -/
lemma fields_setGreDefaults {m : Datapacketx86 S} {gre : ℕ} (hgre : getGreHdr m.type = some gre)
    (hset : setGreDefaults m = some q) :
    le16 q.getBuffer (gre + 2) = GRE_PROT_TYPE_TRANSPARENT_ETHERNET_BRIDGING ∧
      greLen q.getBuffer gre = 12 := by
  simp only [setGreDefaults, hgre, Option.bind_some, Option.some_inj] at hset
  set flags := setGreSeqnoFlag gre 0 (setGreKeyFlag gre GRE_KEY_FLAG_MASK
    (setGreCsumFlag gre GRE_CSUM_FLAG_MASK (setGreVersion gre 0 m.getBuffer)))
  set prot := setGreProtType gre GRE_PROT_TYPE_TRANSPARENT_ETHERNET_BRIDGING flags
  have hbuffer : q.getBuffer = setGreKey gre 0 prot := by
    rw [← hset, getBuffer_setRecalculateChecksum, getBuffer_mapBuffer]
    rfl
  have hkey : ∀ i < gre + 4, q.getBuffer i = prot i := by
    intro i hi
    rw [hbuffer, setGreKey]
    split_ifs
    · exact setWord_of_not_mem _ _ (by omega)
    · exact setWord_of_not_mem _ _ (by omega)
    · rfl
  -- the flags are set one after the other, each in a bit of its own
  have hflags : le16 q.getBuffer gre = le16 flags gre := by
    rw [le16, le16, hkey _ (by omega), hkey _ (by omega)]
    congr 1
    · exact setWord_of_not_mem _ _ (by omega)
    · exact setWord_of_not_mem _ _ (by omega)
  have hcsum : le16 q.getBuffer gre &&& GRE_CSUM_FLAG_MASK = GRE_CSUM_FLAG_MASK := by
    rw [hflags]
    refine (le16_setBits_and_of_apart (by decide)).trans ?_
    refine (le16_setBits_and_of_apart (by decide)).trans ?_
    exact le16_setBits_and.trans (by decide)
  have hkeyFlag : le16 q.getBuffer gre &&& GRE_KEY_FLAG_MASK = GRE_KEY_FLAG_MASK := by
    rw [hflags]
    refine (le16_setBits_and_of_apart (by decide)).trans ?_
    exact le16_setBits_and.trans (by decide)
  have hseqno : le16 q.getBuffer gre &&& GRE_SEQNO_FLAG_MASK = 0 := by
    rw [hflags]
    exact le16_setBits_and.trans (by decide)
  constructor
  · rw [le16, hkey _ (by omega), hkey _ (by omega)]
    exact le16_setWord
  · rw [greLen, hcsum, hkeyFlag, hseqno]
    decide

lemma etherType_of_pushGre (hq : p.platformPacketPushGre ether_type = some q)
    (hlen : p.len < q.len) :
    htonb16 ether_type = ETH_TYPE_IPV4 ∨ htonb16 ether_type = ETH_TYPE_IPV6 := by
  by_contra hnone
  rw [not_or] at hnone
  simp only [platformPacketPushGre, if_neg hnone.1, if_neg hnone.2] at hq
  exact not_lt_self (len_setGreDefaults hq ▸ hlen)

/-- The header of GRE is written at the end of the gap. -/
lemma Wraps.setGreDefaults {m : Datapacketx86 S} {t : PktType} {gre : ℕ}
    (h : Wraps p m 0 (gre + 12)) (htype : m.type = t) (hgre : getGreHdr t = some gre)
    (hle : 14 ≤ gre) (hset : Datapacketx86.setGreDefaults m = some q) :
    Wraps p q 0 (gre + 12) ∧ be16 q.getBuffer 12 = be16 m.getBuffer 12 ∧ q.type = t := by
  obtain ⟨hqtype, hlen, hbytes⟩ := setGreDefaults_spec hgre hle
    (by omega : gre + 12 ≤ 0 + (gre + 12)) hset htype
  refine ⟨h.congr (placed_setGreDefaults h.placed hset) hlen fun i hi => hbytes i (by omega), ?_,
    hqtype⟩
  rw [be16, be16, hbytes _ (Or.inl (by decide)), hbytes _ (Or.inl (by decide))]

/-- The Ethernet header and the IP header of a tunnel are written into the gap. -/
lemma Wraps.greTunnel {m : Datapacketx86 S} {dl_dst dl_src : BitVec 64}
    {rest : List ((ℕ → Byte) → ℕ → Byte)} (h : Wraps p p' 0 n) (hn : 14 ≤ n)
    (hrest : ∀ write ∈ rest, StaysIn 14 n write)
    (hplaced : ∃ pos, m.PlacedAt pos) (hlen : m.len = p'.len)
    (hm : m.getBuffer =
      writeAll (setGreEther dl_dst dl_src ether_type ++ rest) p'.getBuffer) :
    Wraps p m 0 n ∧ be16 m.getBuffer 12 = htonb16 ether_type := by
  refine ⟨h.congr hplaced hlen fun i hi => ?_, ?_⟩
  · rw [hm, writeAll_append]
    refine (StaysIn.writeAll hrest _ i (by omega)).trans ?_
    exact StaysIn.writeAll (staysIn_setGreEther hn) _ i (by omega)
  · rw [hm, writeAll_append, be16_of_staysIn hrest]
    exact be16_writeAll [setEtherDlDst 0 dl_dst, setEtherDlSrc 0 dl_src] (List.forall_mem_nil _)
      p'.getBuffer

lemma undone_pushGre (h : p.Placed) (hclass : p.Classified)
    (hq : p.platformPacketPushGre ether_type = some q) (hlen : p.len < q.len) :
    Undone p (.pushGre ether_type) q := by
  have hor := etherType_of_pushGre hq hlen
  have het : IsEtherType ether_type := by
    rw [IsEtherType]
    rcases hor with heq | heq
    · rw [heq]
      decide
    · rw [heq]
      decide
  obtain ⟨p', dl_dst, dl_src, hcases⟩ := pushGre_cases h hq hlen
  rcases hcases with ⟨hipv4, hpush, hset⟩ | ⟨hipv4, hpush, hset⟩
  · have hgre : getGreHdr ⟨.plain false 0, .ipv4 0 .gre4⟩ = some 34 := by decide
    obtain ⟨hwraps, -⟩ := wraps_of_push h hpush
    obtain ⟨pos, hpos⟩ := hwraps.placed
    have htype : (p'.greOverIpv4 dl_dst dl_src ether_type p.len).type =
        ⟨.plain false 0, .ipv4 0 .gre4⟩ := type_mapBuffer _ _
    obtain ⟨hwraps, hether⟩ :
        Wraps p (p'.greOverIpv4 dl_dst dl_src ether_type p.len) 0 46 ∧ be16 _ 12 = _ :=
      hwraps.greTunnel (by decide) (staysIn_setTunnelIpv4 (Nat.le_refl 14) (by decide))
        ⟨pos, ((hpos.setType _).mapBuffer _).setRecalculateChecksum _⟩ (len_mapBuffer _ _)
        (getBuffer_mapBuffer _ _)
    obtain ⟨hprot, hgreLen⟩ := fields_setGreDefaults ((congrArg getGreHdr htype).trans hgre) hset
    obtain ⟨hwraps, hether', htype⟩ := Wraps.setGreDefaults hwraps htype hgre (by decide) hset
    have hcurrent := currentEtherType_of_be16 het (hether'.trans hether)
    refine ⟨hwraps.placed, _, rfl, ?_⟩
    rw [platformPacketPopGre, htype, hgre, hcurrent]
    dsimp only
    rw [if_neg (not_not_intro hprot), if_pos hipv4, hgreLen]
    exact hwraps.restored_parse hclass _
  · have hgre : getGreHdr ⟨.plain false 0, .ipv6 .gre6⟩ = some 54 := by decide
    obtain ⟨hwraps, -⟩ := wraps_of_push h hpush
    obtain ⟨pos, hpos⟩ := hwraps.placed
    have htype : (p'.greOverIpv6 dl_dst dl_src ether_type p.len).type =
        ⟨.plain false 0, .ipv6 .gre6⟩ := type_mapBuffer _ _
    obtain ⟨hwraps, hether⟩ :
        Wraps p (p'.greOverIpv6 dl_dst dl_src ether_type p.len) 0 66 ∧ be16 _ 12 = _ :=
      hwraps.greTunnel (by decide) (staysIn_setTunnelIpv6 (Nat.le_refl 14) (by decide))
        ⟨pos, (hpos.setType _).mapBuffer _⟩ (len_mapBuffer _ _)
        (getBuffer_mapBuffer _ _)
    obtain ⟨hprot, hgreLen⟩ := fields_setGreDefaults ((congrArg getGreHdr htype).trans hgre) hset
    obtain ⟨hwraps, hether', htype⟩ := Wraps.setGreDefaults hwraps htype hgre (by decide) hset
    have hcurrent := currentEtherType_of_be16 het (hether'.trans hether)
    refine ⟨hwraps.placed, _, rfl, ?_⟩
    rw [platformPacketPopGre, htype, hgre, hcurrent]
    dsimp only
    rw [if_neg (not_not_intro hprot), if_neg hipv4, if_pos (hor.resolve_left hipv4), hgreLen]
    exact hwraps.restored_parse hclass _

/-- **A header is popped again.** -/
lemma undone_of_pushes {op : HeaderOp} (h : p.Placed) (hpush : p.Pushes op q) :
    Undone p op q := by
  obtain ⟨hrev, hrun, hlen⟩ := hpush
  cases op with
  | pushPbb ether_type => exact undone_pushPbb h hrev (Option.some.inj hrun) hlen
  | pushVlan ether_type => exact undone_pushVlan h hrev.1 hrev.2.1 hrev.2.2 hrun hlen
  | pushMpls ether_type => exact undone_pushMpls h hrev.1 hrev.2.1 hrev.2.2 hrun hlen
  | pushPppoe ether_type => exact undone_pushPppoe h hrev.1 hrev.2 hrun hlen
  | pushGtp ether_type => exact undone_pushGtp h hrev.1 hrev.2 hrun hlen
  | pushGre ether_type => exact undone_pushGre h hrev hrun hlen
  | popPbb | popVlan | popMpls | popPppoe | popGtp | popGre => exact hrev.elim

end Undone

/-! ## The result -/

/-- Pushes are taken back by the calls that pop. -/
lemma takesBack_headers : TakesBack (HeaderOp.run (S := S)) Pushes (fun p => HeaderOp.undo p)
    Placed (fun p => ∃ pos, p.PlacedAt pos) Restored where
  back h hstep := undone_of_pushes h hstep
  good_of_moved h := h.choose_spec.placed
  congr hmoved hlooks hrun := by
    obtain ⟨r', hr', -, hlooks'⟩ := Alike.run_undo ⟨hmoved, hlooks⟩ hrun
    exact ⟨r', hr', hlooks'⟩
  trans := Restored.trans

/-- **Stacks of headers are popped**: after any number of pushes, each of them reversible where it
is made, the calls that undo them, the last one first, give the frame and the type back. -/
theorem stack_popped {p q : Datapacketx86 S} (h : p.Placed) {undos : List HeaderOp}
    (hstack : Stacked Pushes (fun p => HeaderOp.undo p) p undos q) :
    ∃ r, runAll HeaderOp.run undos q = some r ∧ p.Same r := by
  cases hstack with
  | nil => exact ⟨p, rfl, same_self p⟩
  | cons hstep hrest =>
      obtain ⟨r, hrun, hlooks⟩ := takesBack_headers.runAll h hstep hrest
      exact ⟨r, hrun, hlooks.same⟩

/-- A frame of 60 bytes with a tag. -/
def taggedFrame : Datapacketx86 Unit :=
  ((HeaderOp.pushVlan 0x0081).run (ipv4Packet (0, 46) 60)).getD unused

/-- The frame with the tag, after a header of 802.1ah. -/
def bridgedFrame : Datapacketx86 Unit :=
  ((HeaderOp.pushPbb 0xe788).run taggedFrame).getD unused

/-- A tag and a header of 802.1ah are popped from it. -/
theorem stack_popped_bridgedFrame :
    ∃ r, runAll HeaderOp.run [.popPbb, .popVlan] bridgedFrame = some r ∧
      (ipv4Packet (0, 46) 60).Same r := by
  have hrun {p : Datapacketx86 Unit} {op : HeaderOp} (h : (op.run p).isSome = true) :
      op.run p = some ((op.run p).getD unused) := by
    obtain ⟨q, hq⟩ := Option.isSome_iff_exists.mp h
    rw [hq, Option.getD_some]
  have hvlan : Pushes (ipv4Packet (0, 46) 60) (.pushVlan 0x0081) taggedFrame :=
    ⟨⟨by decide +kernel, ⟨0, by decide +kernel⟩, by decide⟩, hrun (by decide +kernel),
      by decide +kernel⟩
  have hclass : taggedFrame.Classified := by
    show classify _ _ = _
    decide +kernel
  have hpbb : Pushes taggedFrame (.pushPbb 0xe788) bridgedFrame :=
    ⟨hclass, hrun (by decide +kernel), by decide +kernel⟩
  exact stack_popped (placed_ipv4Packet _ (by decide)) (.cons hvlan (.cons hpbb (.nil _)))

end Xdpd.Io.Datapacketx86
