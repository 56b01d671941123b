import Xdpd.Io.FrameWindow

/-!
# A frame as a list of bytes

What pushing and popping does to the bytes of the frame: a gap is opened in the list, or a part of
it is left out.  This is so whenever the end of what is popped does not wrap (`actsOnBytes_iff`).

The functions that take a pointer have checks of their own, and `pop` subtracts the pointer from the
start of the frame.  So they hardly ever do what the functions do that take an offset
(`pointersAgree_iff`).
-/

namespace Xdpd.Io.Datapacketx86

open Xdpd.Lib
open Xdpd.Classifier (subSize)

variable {S : Type*} {p : Datapacketx86 S} {pos offset n : ℕ}

/-! ## Lists of bytes -/

lemma take_frame (h : offset ≤ p.len) :
    p.frame.take offset = (List.range offset).map p.getBuffer := by
  rw [frame, ← List.map_take, List.take_range, Nat.min_eq_left h]

lemma drop_frame (p : Datapacketx86 S) (offset : ℕ) :
    p.frame.drop offset = (List.range (p.len - offset)).map fun i => p.getBuffer (offset + i) := by
  by_cases h : offset ≤ p.len
  · have hlen : p.len = offset + (p.len - offset) := by omega
    have hleft : ((List.range offset).map p.getBuffer).length = offset := by
      rw [List.length_map, List.length_range]
    rw [frame, hlen, List.range_add, List.map_append, List.drop_left' hleft, List.map_map,
      Nat.add_sub_cancel_left]
    rfl
  · have hnil : p.len - offset = 0 := by omega
    rw [hnil, List.drop_eq_nil_of_le (by rw [length_frame]; omega)]
    rfl

/-- The frame in three parts. -/
lemma frame_eq_append {a b c : ℕ} (h : p.len = a + b + c) :
    p.frame = (List.range a).map p.getBuffer ++
      (List.range b).map (fun i => p.getBuffer (a + i)) ++
        (List.range c).map fun i => p.getBuffer (a + b + i) := by
  rw [frame, h, List.range_add, List.range_add, List.map_append, List.map_append, List.map_map,
    List.map_map]
  rfl

/-- A push opens a gap. -/
lemma frame_pushed (h : p.PlacedAt pos) (ho : offset ≤ p.len) (hn : n ≤ pos) :
    ∃ gap : List Byte, gap.length = n ∧
      (p.pushed pos offset n).frame = p.frame.take offset ++ gap ++ p.frame.drop offset := by
  have hlen : (p.pushed pos offset n).len = offset + n + (p.len - offset) := by
    change p.len + n = _
    omega
  refine ⟨(List.range n).map fun i => (p.pushed pos offset n).getBuffer (offset + i), ?_, ?_⟩
  · rw [List.length_map, List.length_range]
  · rw [frame_eq_append hlen, take_frame ho, drop_frame]
    congr 2
    · refine List.map_congr_left fun i hi => ?_
      exact getBuffer_pushed_of_lt h hn (List.mem_range.mp hi)
    · funext i
      rw [show offset + n + i = offset + i + n by omega]
      exact getBuffer_pushed_add h hn (Nat.le_add_right offset i)

/-- A pop leaves something out. -/
lemma frame_popped (h : p.PlacedAt pos) (hn : offset + n ≤ p.len) :
    (p.popped pos offset n).frame = p.frame.take offset ++ p.frame.drop (offset + n) := by
  have hlen : (p.popped pos offset n).len = offset + 0 + (p.len - (offset + n)) := by
    change subSize p.len n = _
    rw [subSize, if_pos (by omega)]
    omega
  rw [frame_eq_append hlen, List.range_zero, List.map_nil, List.append_nil, take_frame (by omega),
    drop_frame]
  congr 1
  · refine List.map_congr_left fun i hi => ?_
    exact getBuffer_popped_of_lt h (List.mem_range.mp hi)
  · refine List.map_congr_left fun i _ => ?_
    rw [getBuffer_popped_of_le h (by omega), show offset + 0 + i + n = offset + n + i by omega]

/-- A pop right after a push undoes it. -/
lemma frame_popped_pushed (h : p.PlacedAt pos) (ho : offset ≤ p.len) (hn : n ≤ pos) :
    ((p.pushed pos offset n).popped (pos - n) offset n).frame = p.frame := by
  obtain ⟨gap, hgap, hframe⟩ := frame_pushed h ho hn
  have hleft : (p.frame.take offset).length = offset := by
    rw [List.length_take, length_frame, Nat.min_eq_left ho]
  have hboth : (p.frame.take offset ++ gap).length = offset + n := by
    rw [List.length_append, hleft, hgap]
  have hlen : offset + n ≤ (p.pushed pos offset n).len := by
    change offset + n ≤ p.len + n
    omega
  rw [frame_popped (h.pushed offset hn) hlen, hframe, List.drop_left' hboth, List.append_assoc,
    List.take_left' hleft, List.take_append_drop]

/-! ## The result -/

/-- Pushing, popping and transferring do to the bytes of the frame what they should. -/
structure ActsOnBytes (p : Datapacketx86 S) (offset num_of_bytes : BitVec 32) : Prop where
  push : (p.push offset.toNat num_of_bytes.toNat).1 = .success →
    ∃ gap : List Byte, gap.length = num_of_bytes.toNat ∧
      (p.push offset.toNat num_of_bytes.toNat).2.frame =
        p.frame.take offset.toNat ++ gap ++ p.frame.drop offset.toNat
  pop : (p.pop offset.toNat num_of_bytes.toNat).1 = .success →
    (p.pop offset.toNat num_of_bytes.toNat).2.frame =
      p.frame.take offset.toNat ++ p.frame.drop (offset.toNat + num_of_bytes.toNat)
  popPush : (p.push offset.toNat num_of_bytes.toNat).1 = .success →
    ((p.push offset.toNat num_of_bytes.toNat).2.pop offset.toNat num_of_bytes.toNat).1 = .success ∧
      ((p.push offset.toNat num_of_bytes.toNat).2.pop offset.toNat num_of_bytes.toNat).2.frame =
        p.frame
  transfer : p.transferToUserSpace.frame = p.frame

lemma frame_push_of_success (h : p.Placed) (hpush : (p.push offset n).1 = .success) :
    ∃ gap : List Byte, gap.length = n ∧
      (p.push offset n).2.frame = p.frame.take offset ++ gap ++ p.frame.drop offset := by
  obtain ⟨pos, hpos⟩ := h.transfer
  rw [push_of_transfer hpos] at hpush ⊢
  split at hpush
  next hroom =>
    rw [if_pos hroom, ← frame_transferToUserSpace p]
    refine frame_pushed hpos ?_ hroom.2
    rw [len_transferToUserSpace]
    exact hroom.1
  · exact absurd hpush nofun

lemma frame_pop_of_success (h : p.Placed) (hpop : (p.pop offset n).1 = .success)
    (hend : offset ≤ p.len → offset + n < 2 ^ 32) :
    (p.pop offset n).2.frame = p.frame.take offset ++ p.frame.drop (offset + n) := by
  obtain ⟨pos, hpos⟩ := h.transfer
  rw [pop_of_transfer hpos] at hpop ⊢
  split at hpop
  next hroom =>
    have hsum := hroom.2
    rw [Nat.mod_eq_of_lt (hend hroom.1)] at hsum
    rw [if_pos hroom, ← frame_transferToUserSpace p]
    refine frame_popped hpos ?_
    rw [len_transferToUserSpace]
    exact hsum
  · exact absurd hpop nofun

lemma frame_pop_push (h : p.Placed) (hpush : (p.push offset n).1 = .success) :
    ((p.push offset n).2.pop offset n).1 = .success ∧
      ((p.push offset n).2.pop offset n).2.frame = p.frame := by
  obtain ⟨pos, hpos⟩ := h.transfer
  have hfits := hpos.fits
  have hsize : bufferSize = 9320 := rfl
  rw [len_transferToUserSpace] at hfits
  rw [push_of_transfer hpos] at hpush ⊢
  split at hpush
  next hroom =>
    have ho : offset ≤ p.transferToUserSpace.len := by
      rw [len_transferToUserSpace]
      exact hroom.1
    have hlen : (p.transferToUserSpace.pushed pos offset n).len = p.len + n := by
      change p.transferToUserSpace.len + n = _
      rw [len_transferToUserSpace]
    have hend : offset ≤ p.len + n ∧ (offset + n) % 2 ^ 32 ≤ p.len + n := by
      rw [Nat.mod_eq_of_lt (by omega)]
      omega
    rw [if_pos hroom, pop_eq (hpos.pushed offset hroom.2), hlen, if_pos hend]
    exact ⟨rfl, (frame_popped_pushed hpos ho hroom.2).trans (frame_transferToUserSpace p)⟩
  · exact absurd hpush nofun

/-- What is left of the frame is longer than memory, if the end of what is popped wraps. -/
lemma not_frame_pop (h : p.Placed) (ho : offset ≤ p.len) (hn : n < 2 ^ 32)
    (hend : 2 ^ 32 ≤ offset + n) : (p.pop offset n).1 = .success ∧
      (p.pop offset n).2.frame ≠ p.frame.take offset ++ p.frame.drop (offset + n) := by
  obtain ⟨pos, hpos⟩ := h.transfer
  have hplen : p.len ≤ 9320 := h.len_le
  have hsum : (offset + n) % 2 ^ 32 ≤ p.len := by omega
  rw [pop_of_transfer hpos, if_pos ⟨ho, hsum⟩]
  refine ⟨rfl, fun hframe => ?_⟩
  have hlen := congrArg List.length hframe
  have hpopped : (p.transferToUserSpace.popped pos offset n).len = subSize p.len n := by
    change subSize p.transferToUserSpace.len n = _
    rw [len_transferToUserSpace]
  rw [length_frame, hpopped, subSize, if_neg (by omega), List.length_append, List.length_take,
    List.length_drop, length_frame] at hlen
  omega

/-- **A frame as a list of bytes.**  Pushing, popping and transferring do what they should exactly
when the end of what is popped does not wrap, or the pop starts beyond the frame. -/
theorem actsOnBytes_iff (h : p.Placed) (offset num_of_bytes : BitVec 32) :
    p.ActsOnBytes offset num_of_bytes ↔
      (offset.toNat ≤ p.len → offset.toNat + num_of_bytes.toNat < 2 ^ 32) := by
  constructor
  · intro hacts ho
    by_contra hend
    obtain ⟨hpop, hframe⟩ := not_frame_pop h ho num_of_bytes.isLt (Nat.le_of_not_lt hend)
    exact hframe (hacts.pop hpop)
  · intro hend
    exact ⟨frame_push_of_success h, fun hpop => frame_pop_of_success h hpop hend,
      frame_pop_push h, frame_transferToUserSpace p⟩

theorem actsOnBytes_blank : blank.ActsOnBytes 14 4 :=
  (actsOnBytes_iff placed_blank 14 4).mpr fun _ => by decide

/-- A pop of `2 ^ 32 - 1` bytes after the first one. -/
theorem not_actsOnBytes_popWraps : ¬ ∀ p : Datapacketx86 Unit, p.Placed → ∀ offset num_of_bytes,
    p.ActsOnBytes offset num_of_bytes := by
  intro h
  have hpop : (blank.pop 1 (2 ^ 32 - 1)).1 = .success ∧ (blank.pop 1 (2 ^ 32 - 1)).2.frame ≠
      blank.frame.take 1 ++ blank.frame.drop (1 + (2 ^ 32 - 1)) :=
    not_frame_pop placed_blank (by decide) (by decide) (by decide)
  exact hpop.2 ((h blank placed_blank 1 0xffffffff).pop hpop.1)

/-! ## Pointers -/

/-- The frame in the NIC and the buffer of the packet are different memory. -/
def Addresses.Apart (mem : Addresses) (p : Datapacketx86 S) : Prop :=
  mem.nic + p.len ≤ mem.userSpaceBuffer ∨ mem.userSpaceBuffer + bufferSize ≤ mem.nic

section Pointers

variable {mem : Addresses}

lemma basePointer_of_placedAt (h : p.PlacedAt pos) :
    p.basePointer mem = mem.userSpaceBuffer + pos := by
  rw [basePointer, h.status]

lemma subSize_add_left (a b : ℕ) : subSize (a + b) a = b := by
  rw [subSize, if_pos (Nat.le_add_right a b), Nat.add_sub_cancel_left]

/-- A pointer into the frame is as good as its offset, if the frame is not in the NIC. -/
lemma pushPointer_eq_pushPoint (h : p.Placed) (hmem : mem.Apart p) (ho : offset ≤ p.len) (n : ℕ) :
    p.pushPointer mem (p.basePointer mem + offset) n = p.pushPoint offset n := by
  have hsize : bufferSize = 9320 := rfl
  have hguard : PRE_GUARD_BYTES = 256 := rfl
  rcases h.cases with ⟨buf, hstatus, hlen⟩ | ⟨pos, hpos⟩
  · have hplaced := placedAt_transferToUserSpace hstatus hlen
    have hframe : FRAME_SIZE_BYTES = 9000 := rfl
    have hbase : p.basePointer mem = mem.nic := by rw [basePointer, hstatus]
    simp only [pushPointer, pushPoint, hstatus, hbase, basePointer_of_placedAt hplaced,
      len_transferToUserSpace]
    rcases hmem with hbefore | hbehind
    · rw [if_pos (by omega)]
    · rw [if_neg (by omega), if_pos (by omega)]
  · have hfits := hpos.fits
    simp only [pushPointer, pushPoint, hpos.status, hpos.transferToUserSpace,
      basePointer_of_placedAt hpos, subSize_add_left]
    rw [if_neg (by omega), Nat.mod_eq_of_lt (by omega)]
    by_cases hend : offset + n > p.len
    · rw [if_pos (by omega), if_pos hend]
    · rw [if_neg (by omega), if_neg hend]

/-- The functions that push do the same. -/
def PushAgrees (p : Datapacketx86 S) (offset n : ℕ) : Prop :=
  match p.status with
  | .bufferedInNic _ => PRE_GUARD_BYTES < n
  | .bufferIsEmpty _ => True
  | .bufferedInUserSpace pos => offset + n ≤ p.len ∨ pos < n

/-- The functions that pop do the same. -/
def PopAgrees (p : Datapacketx86 S) (offset n : ℕ) : Prop :=
  match p.status with
  | .bufferedInNic _ => offset = 0 ∧ n ≤ p.len
  | .bufferIsEmpty _ => True
  | .bufferedInUserSpace _ => offset = 0 ∨ (p.len < offset + n ∧ offset + n < 2 ^ 32)

lemma pushPointer_eq_push_iff (h : p.Placed) (hmem : mem.Apart p) (ho : offset ≤ p.len) (n : ℕ) :
    p.pushPointer mem (p.basePointer mem + offset) n = p.push offset n ↔ p.PushAgrees offset n := by
  rw [pushPointer_eq_pushPoint h hmem ho, PushAgrees]
  rcases h.cases with ⟨buf, hstatus, hlen⟩ | ⟨pos, hpos⟩
  · have hpush := push_of_transfer (placedAt_transferToUserSpace hstatus hlen) offset n
    simp only [pushPoint, hstatus]
    rw [hpush]
    by_cases hn : n ≤ PRE_GUARD_BYTES
    · rw [if_pos ⟨ho, hn⟩]
      exact iff_of_false (fun heq => absurd (congrArg Prod.fst heq) (by simp)) (Nat.not_lt_of_le hn)
    · rw [if_neg fun hroom => hn hroom.2]
      exact iff_of_true rfl (Nat.lt_of_not_le hn)
  · simp only [pushPoint, hpos.status]
    by_cases hend : offset + n > p.len
    · rw [if_pos hend, push_eq hpos]
      by_cases hn : n ≤ pos
      · rw [if_pos ⟨ho, hn⟩]
        exact iff_of_false (fun heq => absurd (congrArg Prod.fst heq) (by simp)) (by omega)
      · rw [if_neg fun hroom => hn hroom.2]
        exact iff_of_true rfl (by omega)
    · rw [if_neg hend]
      exact iff_of_true rfl (by omega)

/-- Unless it is zero, the offset comes out as one beyond the frame. -/
lemma popPointer_eq (h : p.Placed) (ho : offset ≤ p.len) (hne : offset ≠ 0) (n : ℕ) :
    p.popPointer mem (p.basePointer mem + offset) n =
      (.failure, if offset + n ≤ p.len then p.transferToUserSpace else p) := by
  obtain ⟨pos, hpos⟩ := h.transfer
  have hplen : p.len ≤ 9320 := h.len_le
  rw [popPointer, if_neg (by omega)]
  by_cases hend : offset + n ≤ p.len
  · have hoffset : subSize (p.basePointer mem) (p.basePointer mem + offset) % 2 ^ 32 =
        2 ^ 32 - offset := by
      rw [subSize, if_neg (by omega)]
      omega
    have hbeyond : ¬ (2 ^ 32 - offset ≤ p.len ∧ (2 ^ 32 - offset + n) % 2 ^ 32 ≤ p.len) := by omega
    rw [if_neg (by omega), hoffset, pop_of_transfer hpos, if_neg hbeyond, if_pos hend]
  · rw [if_pos (by omega), if_neg hend]

lemma popPointer_zero (p : Datapacketx86 S) (n : ℕ) : p.popPointer mem (p.basePointer mem + 0) n =
    if n ≤ p.len then p.pop 0 n else (.failure, p) := by
  have hzero : subSize (p.basePointer mem) (p.basePointer mem + 0) % 2 ^ 32 = 0 := by
    rw [subSize, if_pos (by omega)]
    omega
  rw [popPointer, if_neg (by omega), hzero]
  by_cases hn : n ≤ p.len
  · rw [if_neg (by omega), if_pos hn]
  · rw [if_pos (by omega), if_neg hn]

lemma popPointer_eq_pop_iff (h : p.Placed) (ho : offset ≤ p.len) (hn : n < 2 ^ 32) :
    p.popPointer mem (p.basePointer mem + offset) n = p.pop offset n ↔ p.PopAgrees offset n := by
  obtain ⟨start, hstart⟩ := h.transfer
  have hplen : p.len ≤ 9320 := h.len_le
  have hpop := pop_of_transfer hstart offset n
  by_cases hzero : offset = 0
  · subst hzero
    rw [popPointer_zero, PopAgrees]
    by_cases hend : n ≤ p.len
    · rw [if_pos hend]
      refine iff_of_true rfl ?_
      split
      · exact ⟨rfl, hend⟩
      · trivial
      · exact .inl rfl
    · rw [if_neg (by omega)] at hpop
      rw [if_neg hend, hpop]
      rcases h.cases with ⟨buf, hstatus, -⟩ | ⟨pos, hpos⟩
      · simp only [hstatus]
        refine iff_of_false (fun heq => ?_) fun hagrees => hend hagrees.2
        have hsame := congrArg (fun r => r.2.status) heq
        exact status_transferToUserSpace_ne hstatus hsame.symm
      · simp only [hpos.status, hpos.transferToUserSpace, true_or]
  · rw [popPointer_eq h ho hzero, PopAgrees, hpop]
    rcases h.cases with ⟨buf, hstatus, -⟩ | ⟨pos, hpos⟩
    · simp only [hstatus]
      refine iff_of_false (fun heq => ?_) fun hagrees => hzero hagrees.1
      by_cases hroom : offset ≤ p.len ∧ (offset + n) % 2 ^ 32 ≤ p.len
      · rw [if_pos hroom] at heq
        exact absurd (congrArg Prod.fst heq) nofun
      · have hend : ¬ offset + n ≤ p.len := by
          intro hend
          refine hroom ⟨ho, ?_⟩
          rw [Nat.mod_eq_of_lt (by omega)]
          exact hend
        rw [if_neg hroom, if_neg hend] at heq
        have hsame := congrArg (fun r => r.2.status) heq
        exact status_transferToUserSpace_ne hstatus hsame.symm
    · simp only [hpos.status, hpos.transferToUserSpace, ite_self]
      by_cases hsum : (offset + n) % 2 ^ 32 ≤ p.len
      · rw [if_pos ⟨ho, hsum⟩]
        exact iff_of_false (fun heq => absurd (congrArg Prod.fst heq) nofun) (by omega)
      · rw [if_neg fun hroom => hsum hroom.2]
        exact iff_of_true rfl (by omega)

/-- **Pointers and offsets.**  For an offset in the frame, the functions that take a pointer do the
same as those that take an offset exactly under these conditions. -/
theorem pointersAgree_iff (h : p.Placed) (hmem : mem.Apart p) (ho : offset ≤ p.len)
    (num_of_bytes : BitVec 32) :
    (p.pushPointer mem (p.basePointer mem + offset) num_of_bytes.toNat =
          p.push offset num_of_bytes.toNat ∧
        p.popPointer mem (p.basePointer mem + offset) num_of_bytes.toNat =
          p.pop offset num_of_bytes.toNat) ↔
      p.PushAgrees offset num_of_bytes.toNat ∧ p.PopAgrees offset num_of_bytes.toNat :=
  and_congr (pushPointer_eq_push_iff h hmem ho _) (popPointer_eq_pop_iff h ho num_of_bytes.isLt)

/-- At the start of the frame. -/
theorem pointersAgree_blank :
    blank.pushPointer ⟨0x1000, 0x9000⟩ (blank.basePointer ⟨0x1000, 0x9000⟩ + 0)
          (4 : BitVec 32).toNat = blank.push 0 (4 : BitVec 32).toNat ∧
      blank.popPointer ⟨0x1000, 0x9000⟩ (blank.basePointer ⟨0x1000, 0x9000⟩ + 0)
          (4 : BitVec 32).toNat = blank.pop 0 (4 : BitVec 32).toNat :=
  (pointersAgree_iff placed_blank (.inr (by decide)) (Nat.zero_le _) 4).mpr
    ⟨.inl (by decide), .inl rfl⟩

/-- A tag is popped after the 14 bytes of the Ethernet header. -/
theorem not_pointersAgree_tag : ¬ ∀ (p : Datapacketx86 Unit) (mem : Addresses) (offset : ℕ)
    (num_of_bytes : BitVec 32), p.Placed → mem.Apart p → offset ≤ p.len →
      p.pushPointer mem (p.basePointer mem + offset) num_of_bytes.toNat =
          p.push offset num_of_bytes.toNat ∧
        p.popPointer mem (p.basePointer mem + offset) num_of_bytes.toNat =
          p.pop offset num_of_bytes.toNat := by
  intro h
  have hpop := (h blank ⟨0x1000, 0x9000⟩ 14 4 placed_blank (.inr (by decide)) (by decide)).2
  have hagrees : 14 = 0 ∨ (blank.len < 14 + 4 ∧ 14 + 4 < 2 ^ 32) :=
    (popPointer_eq_pop_iff placed_blank (by decide) (4 : BitVec 32).isLt).mp hpop
  exact absurd hagrees (by decide)

end Pointers

end Xdpd.Io.Datapacketx86
