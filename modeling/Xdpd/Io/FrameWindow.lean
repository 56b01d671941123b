import Xdpd.Io.Datapacketx86
import Xdpd.Lib.Transition

/-!
# The frame in its slot

A packet is initialised, and then bytes are pushed into it and popped from it, in any order.  The
frame is to stay in the slot, and no call is to touch a byte outside of it.

The check of `pop` adds two `unsigned int`: if the sum wraps, it passes although there is not as
much to pop.  And a call that fails has already transferred the frame from the NIC.  All goes well
exactly if neither happens (`allSteps_sound_iff`).
-/

namespace Xdpd.Io.Datapacketx86

open Xdpd.Lib

variable {S : Type*}

/-! ## Calls -/

/-- The calls that place the frame or move it. -/
inductive BufferOp (S : Type*)
  | init (buf : Option (ℕ → Byte)) (buflen : ℕ) (sw : Option S) (in_port : BitVec 32)
      (classifies copyPacketToInternalBuffer : Bool)
  | push (offset num_of_bytes : BitVec 32)
  | pop (offset num_of_bytes : BitVec 32)
  | transferToUserSpace

/-- What `transfer_to_user_space` returns. -/
def transferResult (p : Datapacketx86 S) : RoflResult :=
  match p.status with
  | .bufferIsEmpty _ => .failure
  | _ => .success

namespace BufferOp

def run : BufferOp S → Datapacketx86 S → RoflResult × Datapacketx86 S
  | init buf buflen sw in_port classifies copies, p =>
      p.init buf buflen sw in_port classifies copies
  | push offset n, p => p.push offset.toNat n.toNat
  | pop offset n, p => p.pop offset.toNat n.toNat
  | transferToUserSpace, p => (p.transferResult, p.transferToUserSpace)

/-- The packet after the call. -/
def next (p : Datapacketx86 S) (op : BufferOp S) : Datapacketx86 S := (op.run p).2

end BufferOp

/-! ## Slots -/

/-- Some of the bytes of the slot. -/
inductive Block
  /-- from `start` on in `user_space_buffer` -/
  | userSpace (start len : ℕ)
  /-- the first bytes of the frame in the NIC -/
  | nic (len : ℕ)

/-- The bytes are all in the slot of the packet.  In the NIC that is the memory that the frame has
been found in. -/
def Block.InSlot (p : Datapacketx86 S) : Block → Prop
  | userSpace start len => ∀ i < len, start + i < bufferSize
  | nic len => len ≤ p.len

/-- The frame is in its slot. -/
def InSlot (p : Datapacketx86 S) : Prop :=
  match p.status with
  | .bufferedInUserSpace pos => pos + p.len ≤ bufferSize
  | _ => True

/-- What `transfer_to_user_space` reads and writes. -/
def transferMoved (p : Datapacketx86 S) : List Block :=
  match p.status with
  | .bufferedInNic _ => [.nic p.len, .userSpace PRE_GUARD_BYTES p.len]
  | _ => []

/-- What a call reads and writes in the slot. -/
def BufferOp.moved (p : Datapacketx86 S) : BufferOp S → List Block
  | init buf buflen _ _ _ copies =>
      if buflen ≤ FRAME_SIZE_BYTES ∧ copies ∧ buf.isSome then [.userSpace PRE_GUARD_BYTES buflen]
      else []
  | push offset n =>
      p.transferMoved ++
        if (p.push offset.toNat n.toNat).1 = .success then
          [.userSpace p.transferToUserSpace.base offset.toNat,
           .userSpace (p.transferToUserSpace.base - n.toNat) offset.toNat]
        else []
  | pop offset n =>
      p.transferMoved ++
        if (p.pop offset.toNat n.toNat).1 = .success then
          [.userSpace p.transferToUserSpace.base offset.toNat,
           .userSpace (p.transferToUserSpace.base + n.toNat) offset.toNat]
        else []
  | transferToUserSpace => p.transferMoved

/-- The call stays in the slot, leaves the frame there, and does nothing if it fails. -/
structure BufferOp.Sound (p : Datapacketx86 S) (op : BufferOp S) : Prop where
  moved : ∀ b ∈ op.moved p, b.InSlot p
  inSlot : (op.next p).InSlot
  failure : (op.run p).1 = .failure →
    (op.next p).status = p.status ∧ (op.next p).len = p.len ∧ (op.next p).frame = p.frame

/-- Nothing fails after the frame has been transferred from the NIC, and the end of what is popped
does not wrap. -/
def BufferOp.Safe (p : Datapacketx86 S) : BufferOp S → Prop
  | push offset n =>
      match p.status with
      | .bufferedInNic _ => offset.toNat ≤ p.len ∧ n.toNat ≤ PRE_GUARD_BYTES
      | _ => True
  | pop offset n =>
      match p.status with
      | .bufferedInNic _ => offset.toNat + n.toNat ≤ p.len
      | _ => offset.toNat ≤ p.len → offset.toNat + n.toNat < 2 ^ 32
  | _ => True

/-! ## Invariant -/

/-- The packet has a frame, which is in its slot. -/
def Placed (p : Datapacketx86 S) : Prop :=
  match p.status with
  | .bufferedInNic _ => p.len ≤ FRAME_SIZE_BYTES
  | .bufferIsEmpty _ => False
  | .bufferedInUserSpace pos => p.PlacedAt pos

section Placed

variable {p : Datapacketx86 S} {buf : ℕ → Byte} {pos offset n : ℕ}

lemma PlacedAt.placed (h : p.PlacedAt pos) : p.Placed := by
  rw [Placed, h.status]
  exact h

lemma Placed.cases (h : p.Placed) :
    (∃ buf, p.status = .bufferedInNic buf ∧ p.len ≤ FRAME_SIZE_BYTES) ∨ ∃ pos, p.PlacedAt pos := by
  rw [Placed] at h
  cases hstatus : p.status with
  | bufferedInNic buf =>
      rw [hstatus] at h
      exact .inl ⟨buf, rfl, h⟩
  | bufferIsEmpty pos =>
      rw [hstatus] at h
      exact absurd h id
  | bufferedInUserSpace pos =>
      rw [hstatus] at h
      exact .inr ⟨pos, h⟩

/-- Wherever the frame is, it is somewhere in user space once it has been transferred. -/
lemma Placed.transfer (h : p.Placed) : ∃ pos, p.transferToUserSpace.PlacedAt pos := by
  rcases h.cases with ⟨buf, hstatus, hlen⟩ | ⟨pos, hpos⟩
  · exact ⟨_, placedAt_transferToUserSpace hstatus hlen⟩
  · rw [hpos.transferToUserSpace]
    exact ⟨pos, hpos⟩

/-- A frame is not longer than the buffer. -/
lemma Placed.len_le (h : p.Placed) : p.len ≤ bufferSize := by
  obtain ⟨pos, hpos⟩ := h.transfer
  have hfits := hpos.fits
  rw [len_transferToUserSpace] at hfits
  omega

lemma Placed.inSlot (h : p.Placed) : p.InSlot := by
  rw [InSlot]
  rcases h.cases with ⟨buf, hstatus, -⟩ | ⟨pos, hpos⟩
  · rw [hstatus]
    trivial
  · rw [hpos.status]
    exact hpos.fits

lemma Placed.transferMoved (h : p.Placed) : ∀ b ∈ p.transferMoved, b.InSlot p := by
  rw [Datapacketx86.transferMoved]
  rcases h.cases with ⟨buf, hstatus, hlen⟩ | ⟨pos, hpos⟩
  · rw [hstatus]
    intro b hb
    rcases List.mem_pair.mp hb with rfl | rfl
    · exact le_refl p.len
    · intro i hi
      have hsize : PRE_GUARD_BYTES + FRAME_SIZE_BYTES ≤ bufferSize := by decide
      omega
  · rw [hpos.status]
    exact nofun

/-- A packet that `init` has filled in has a frame, and one that it has refused is as before. -/
lemma init_cases (p : Datapacketx86 S) (buf : Option (ℕ → Byte)) (buflen : ℕ) (sw : Option S)
    (in_port : BitVec 32) (classifies copies : Bool) :
    p.init buf buflen sw in_port classifies copies = (.failure, p) ∨
      (p.init buf buflen sw in_port classifies copies).1 = .success ∧
        (p.init buf buflen sw in_port classifies copies).2.Placed ∧ buflen ≤ FRAME_SIZE_BYTES := by
  rw [init]
  split
  · exact .inl rfl
  next hlen =>
    have hlen := Nat.le_of_not_lt hlen
    have hplaced : PRE_GUARD_BYTES + buflen ≤ bufferSize := by
      rw [bufferSize]
      omega
    cases copies with
    | true =>
        refine .inr ?_
        cases buf <;> cases classifies <;> exact ⟨rfl, ⟨rfl, rfl, hplaced⟩, hlen⟩
    | false =>
        cases buf with
        | none => exact .inl rfl
        | some buf => cases classifies <;> exact .inr ⟨rfl, hlen, hlen⟩

end Placed

/-! ## Pushing and popping -/

section Moves

variable {p : Datapacketx86 S} {buf : ℕ → Byte} {pos offset n : ℕ} {o m : BitVec 32}

/-- What is moved is in the slot, if the frame is there both before and after it. -/
lemma inSlot_of_moved {start : ℕ} (hfrom : pos + offset ≤ bufferSize)
    (hto : start + offset ≤ bufferSize) :
    ∀ b ∈ [Block.userSpace pos offset, .userSpace start offset], b.InSlot p := by
  intro b hb
  rcases List.mem_pair.mp hb with rfl | rfl
  · intro i hi
    omega
  · intro i hi
    omega

/-- What a push does, wherever the frame is. -/
lemma push_of_transfer (h : p.transferToUserSpace.PlacedAt pos) (offset n : ℕ) :
    p.push offset n =
      if offset ≤ p.len ∧ n ≤ pos then (.success, p.transferToUserSpace.pushed pos offset n)
      else (.failure, p.transferToUserSpace) := by
  rw [← push_transferToUserSpace, push_eq h, len_transferToUserSpace]

/-- A push makes the frame longer, or leaves it as it is. -/
lemma Placed.push_cases (h : p.Placed) (offset n : ℕ) :
    p.push offset n = (.failure, p.transferToUserSpace) ∨
      ∃ p', p.push offset n = (.success, p') ∧ p'.len = p.len + n := by
  obtain ⟨pos, hpos⟩ := h.transfer
  rw [push_of_transfer hpos]
  split_ifs
  · exact Or.inr ⟨_, rfl, congrArg (· + n) (len_transferToUserSpace p)⟩
  · exact Or.inl rfl

lemma len_of_push {p' : Datapacketx86 S} (h : p.Placed) (hpush : p.push offset n = (.success, p')) :
    p'.len = p.len + n := by
  rcases h.push_cases offset n with hfail | ⟨p'', hsuccess, hlen⟩
  · cases hpush.symm.trans hfail
  · exact (congrArg (len ∘ Prod.snd) (hpush.symm.trans hsuccess)).trans hlen

lemma pop_of_transfer (h : p.transferToUserSpace.PlacedAt pos) (offset n : ℕ) :
    p.pop offset n =
      if offset ≤ p.len ∧ (offset + n) % 2 ^ 32 ≤ p.len then
        (.success, p.transferToUserSpace.popped pos offset n)
      else (.failure, p.transferToUserSpace) := by
  rw [← pop_transferToUserSpace, pop_eq h, len_transferToUserSpace]

/-- A frame that has left the NIC is not where it was. -/
lemma status_transferToUserSpace_ne (h : p.status = .bufferedInNic buf) :
    p.transferToUserSpace.status ≠ p.status := by
  rw [transferToUserSpace_of_nic h, h]
  exact nofun

lemma placed_push (h : p.Placed) (offset n : ℕ) : (p.push offset n).2.Placed := by
  obtain ⟨pos, hpos⟩ := h.transfer
  rw [push_of_transfer hpos]
  split
  next hroom => exact (hpos.pushed offset hroom.2).placed
  · exact hpos.placed

/-- A pop leaves the frame in the slot, unless the end of what is popped wraps. -/
lemma placed_pop (h : p.Placed) (hend : offset ≤ p.len → offset + n < 2 ^ 32) :
    (p.pop offset n).2.Placed := by
  obtain ⟨pos, hpos⟩ := h.transfer
  rw [pop_of_transfer hpos]
  split
  next hroom =>
    have hsum := hroom.2
    rw [Nat.mod_eq_of_lt (hend hroom.1)] at hsum
    have hn : n ≤ p.transferToUserSpace.len := by
      rw [len_transferToUserSpace]
      omega
    exact (hpos.popped offset hn).placed
  · exact hpos.placed

lemma moved_push (h : p.Placed) (o m : BitVec 32) :
    ∀ b ∈ (BufferOp.push o m).moved p, b.InSlot p := by
  obtain ⟨pos, hpos⟩ := h.transfer
  have hfits := hpos.fits
  rw [len_transferToUserSpace] at hfits
  intro b hb
  rcases List.mem_append.mp hb with hb | hb
  · exact h.transferMoved b hb
  · rw [push_of_transfer hpos, hpos.base] at hb
    by_cases hroom : o.toNat ≤ p.len ∧ m.toNat ≤ pos
    · rw [if_pos hroom, if_pos rfl] at hb
      exact inSlot_of_moved (by omega) (by omega) b hb
    · rw [if_neg hroom, if_neg nofun] at hb
      exact absurd hb List.not_mem_nil

lemma moved_pop (h : p.Placed) (hend : o.toNat ≤ p.len → o.toNat + m.toNat < 2 ^ 32) :
    ∀ b ∈ (BufferOp.pop o m).moved p, b.InSlot p := by
  obtain ⟨pos, hpos⟩ := h.transfer
  have hfits := hpos.fits
  rw [len_transferToUserSpace] at hfits
  intro b hb
  rcases List.mem_append.mp hb with hb | hb
  · exact h.transferMoved b hb
  · rw [pop_of_transfer hpos, hpos.base] at hb
    by_cases hroom : o.toNat ≤ p.len ∧ (o.toNat + m.toNat) % 2 ^ 32 ≤ p.len
    · have hsum := hroom.2
      rw [Nat.mod_eq_of_lt (hend hroom.1)] at hsum
      rw [if_pos hroom, if_pos rfl] at hb
      exact inSlot_of_moved (by omega) (by omega) b hb
    · rw [if_neg hroom, if_neg nofun] at hb
      exact absurd hb List.not_mem_nil

/-- If the end wraps, then the pop is accepted, and moves bytes to beyond the slot. -/
lemma not_moved_pop (h : p.Placed) (ho : o.toNat ≤ p.len)
    (hend : 2 ^ 32 ≤ o.toNat + m.toNat) : ¬ ∀ b ∈ (BufferOp.pop o m).moved p, b.InSlot p := by
  intro hmoved
  obtain ⟨pos, hpos⟩ := h.transfer
  have hfits := hpos.fits
  rw [len_transferToUserSpace] at hfits
  have hsize : bufferSize = 9320 := rfl
  have hm := m.isLt
  have hsum : (o.toNat + m.toNat) % 2 ^ 32 ≤ p.len := by omega
  have hblock : Block.userSpace (pos + m.toNat) o.toNat ∈ (BufferOp.pop o m).moved p := by
    refine List.mem_append_right _ ?_
    have hpop := pop_of_transfer hpos o.toNat m.toNat
    rw [if_pos ⟨ho, hsum⟩] at hpop
    rw [hpop, if_pos rfl, hpos.base]
    exact List.mem_cons_of_mem _ List.mem_cons_self
  have hbyte := hmoved _ hblock 0 (by omega)
  omega

end Moves

/-! ## Steps -/

section Steps

variable {p : Datapacketx86 S}

lemma sound_push_iff (h : p.Placed) (o m : BitVec 32) :
    (BufferOp.push o m).Sound p ↔ (BufferOp.push o m).Safe p := by
  have hinSlot : ((BufferOp.push o m).next p).InSlot := (placed_push h o.toNat m.toNat).inSlot
  rw [BufferOp.Safe]
  rcases h.cases with ⟨buf, hstatus, hlen⟩ | ⟨pos, hpos⟩
  · have hpush := push_of_transfer (placedAt_transferToUserSpace hstatus hlen) o.toNat m.toNat
    simp only [hstatus]
    constructor
    · intro hsound
      by_contra hroom
      rw [if_neg hroom] at hpush
      have hsame := (hsound.failure (congrArg Prod.fst hpush)).1
      rw [BufferOp.next, BufferOp.run, hpush] at hsame
      exact status_transferToUserSpace_ne hstatus hsame
    · intro hroom
      rw [if_pos hroom] at hpush
      exact ⟨moved_push h o m, hinSlot, fun hfail => absurd (hfail.symm.trans
        (congrArg Prod.fst hpush)) nofun⟩
  · simp only [hpos.status, iff_true]
    refine ⟨moved_push h o m, hinSlot, fun hfail => ?_⟩
    rw [BufferOp.next, BufferOp.run]
    rcases push_cases hpos o.toNat m.toNat with hpush | ⟨-, -, hpush⟩
    · rw [hpush]
      exact ⟨rfl, rfl, rfl⟩
    · exact absurd (hfail.symm.trans (congrArg Prod.fst hpush)) nofun

lemma sound_pop_iff (h : p.Placed) (o m : BitVec 32) :
    (BufferOp.pop o m).Sound p ↔ (BufferOp.pop o m).Safe p := by
  rw [BufferOp.Safe]
  rcases h.cases with ⟨buf, hstatus, hlen⟩ | ⟨pos, hpos⟩
  · have hpop := pop_of_transfer (placedAt_transferToUserSpace hstatus hlen) o.toNat m.toNat
    simp only [hstatus]
    constructor
    · intro hsound
      by_contra hroom
      by_cases hwraps : o.toNat ≤ p.len ∧ 2 ^ 32 ≤ o.toNat + m.toNat
      · exact not_moved_pop h hwraps.1 hwraps.2 hsound.moved
      · have hnot : ¬ (o.toNat ≤ p.len ∧ (o.toNat + m.toNat) % 2 ^ 32 ≤ p.len) := by
          rintro ⟨ho, hsum⟩
          rw [Nat.mod_eq_of_lt (by omega)] at hsum
          exact hroom hsum
        rw [if_neg hnot] at hpop
        have hsame := (hsound.failure (congrArg Prod.fst hpop)).1
        rw [BufferOp.next, BufferOp.run, hpop] at hsame
        exact status_transferToUserSpace_ne hstatus hsame
    · intro hroom
      have hsize : FRAME_SIZE_BYTES = 9000 := rfl
      have hend : o.toNat ≤ p.len → o.toNat + m.toNat < 2 ^ 32 := fun _ => by omega
      have hsum : (o.toNat + m.toNat) % 2 ^ 32 ≤ p.len := by
        rw [Nat.mod_eq_of_lt (by omega)]
        exact hroom
      rw [if_pos ⟨by omega, hsum⟩] at hpop
      exact ⟨moved_pop h hend, (placed_pop h hend).inSlot, fun hfail => absurd (hfail.symm.trans
        (congrArg Prod.fst hpop)) nofun⟩
  · simp only [hpos.status]
    constructor
    · intro hsound ho
      by_contra hend
      exact not_moved_pop h ho (Nat.le_of_not_lt hend) hsound.moved
    · intro hend
      refine ⟨moved_pop h hend, (placed_pop h hend).inSlot, fun hfail => ?_⟩
      have hpop := pop_eq hpos o.toNat m.toNat
      rw [BufferOp.next, BufferOp.run, hpop]
      rw [BufferOp.run, hpop] at hfail
      split at hfail
      · exact absurd hfail nofun
      next hnot =>
        rw [if_neg hnot]
        exact ⟨rfl, rfl, rfl⟩

/-- What `init` copies fits in the buffer. -/
lemma moved_init (p : Datapacketx86 S) (buf : Option (ℕ → Byte)) (buflen : ℕ) (sw : Option S)
    (in_port : BitVec 32) (classifies copies : Bool) :
    ∀ b ∈ (BufferOp.init buf buflen sw in_port classifies copies).moved p, b.InSlot p := by
  intro b hb
  rw [BufferOp.moved] at hb
  split at hb
  next hfills =>
    obtain rfl := List.mem_singleton.mp hb
    intro i hi
    have hsize : PRE_GUARD_BYTES + FRAME_SIZE_BYTES ≤ bufferSize := by decide
    omega
  · exact absurd hb List.not_mem_nil

/-- **One call.**  A call on a packet with a frame is as it should be exactly when it is safe. -/
theorem sound_iff (h : p.Placed) (op : BufferOp S) : op.Sound p ↔ op.Safe p := by
  cases op with
  | init buf buflen sw in_port classifies copies =>
      refine iff_of_true ⟨moved_init p buf buflen sw in_port classifies copies, ?_, ?_⟩ trivial
      · rw [BufferOp.next, BufferOp.run]
        rcases init_cases p buf buflen sw in_port classifies copies with hinit | ⟨-, hplaced, -⟩
        · rw [hinit]
          exact h.inSlot
        · exact hplaced.inSlot
      · intro hfail
        rw [BufferOp.next, BufferOp.run]
        rcases init_cases p buf buflen sw in_port classifies copies with hinit | ⟨hfst, -, -⟩
        · rw [hinit]
          exact ⟨rfl, rfl, rfl⟩
        · exact absurd (hfail.symm.trans hfst) nofun
  | push o m => exact sound_push_iff h o m
  | pop o m => exact sound_pop_iff h o m
  | transferToUserSpace =>
      refine iff_of_true ⟨h.transferMoved, ?_, fun hfail => ?_⟩ trivial
      · obtain ⟨pos, hpos⟩ := h.transfer
        exact hpos.placed.inSlot
      · rw [BufferOp.run, transferResult] at hfail
        rcases h.cases with ⟨buf, hstatus, -⟩ | ⟨pos, hpos⟩
        · rw [hstatus] at hfail
          exact absurd hfail nofun
        · rw [hpos.status] at hfail
          exact absurd hfail nofun

/-- A safe call leaves a frame that is in its slot. -/
lemma placed_next (h : p.Placed) {op : BufferOp S} (hsafe : op.Safe p) : (op.next p).Placed := by
  cases op with
  | init buf buflen sw in_port classifies copies =>
      rw [BufferOp.next, BufferOp.run]
      rcases init_cases p buf buflen sw in_port classifies copies with hinit | ⟨-, hplaced, -⟩
      · rw [hinit]
        exact h
      · exact hplaced
  | push o m => exact placed_push h o.toNat m.toNat
  | pop o m =>
      refine placed_pop h fun ho => ?_
      rw [BufferOp.Safe] at hsafe
      rcases h.cases with ⟨buf, hstatus, hlen⟩ | ⟨pos, hpos⟩
      · simp only [hstatus] at hsafe
        have hsize : FRAME_SIZE_BYTES = 9000 := rfl
        omega
      · simp only [hpos.status] at hsafe
        exact hsafe ho
  | transferToUserSpace =>
      obtain ⟨pos, hpos⟩ := h.transfer
      exact hpos.placed

end Steps

/-! ## Runs -/

/-- **The frame stays in its slot.**  After a packet has been initialised, all calls are as they
should be exactly when each is safe where it is made. -/
theorem allSteps_sound_iff (p : Datapacketx86 S) (buf : Option (ℕ → Byte)) (buflen : ℕ)
    (sw : Option S) (in_port : BitVec 32) (classifies copies : Bool)
    (hinit : (p.init buf buflen sw in_port classifies copies).1 = .success)
    (ops : List (BufferOp S)) :
    AllSteps BufferOp.next BufferOp.Sound (p.init buf buflen sw in_port classifies copies).2 ops ↔
      AllSteps BufferOp.next BufferOp.Safe (p.init buf buflen sw in_port classifies copies).2
        ops := by
  have hiff : ∀ (q : Datapacketx86 S) op, q.Placed → (BufferOp.Sound q op ↔ BufferOp.Safe q op) :=
    fun _ op hq => sound_iff hq op
  have hkeep : ∀ (q : Datapacketx86 S) op, q.Placed → BufferOp.Safe q op →
      (BufferOp.next q op).Placed := fun _ _ hq => placed_next hq
  rcases init_cases p buf buflen sw in_port classifies copies with hfail | ⟨-, hplaced, -⟩
  · exact absurd ((congrArg Prod.fst hfail).symm.trans hinit) nofun
  · exact allSteps_iff hiff hkeep hplaced ops

/-- A frame of 60 bytes. -/
def blank : Datapacketx86 Unit := (unused.init none 60 none 1 false true).2

lemma placed_blank : blank.Placed := ⟨rfl, rfl, by decide⟩

/-- A tag is pushed and popped again. -/
theorem sound_pushPop :
    AllSteps BufferOp.next BufferOp.Sound blank [.push 14 4, .pop 14 4] :=
  (allSteps_sound_iff unused none 60 none 1 false true rfl _).mpr
    ⟨trivial, fun _ => by decide, trivial⟩

/-- A pop of `2 ^ 32 - 1` bytes after the first one. -/
theorem not_sound_popWraps : ¬ ∀ (p : Datapacketx86 Unit) buf buflen sw in_port classifies copies,
    (p.init buf buflen sw in_port classifies copies).1 = .success → ∀ ops,
      AllSteps BufferOp.next BufferOp.Sound
        (p.init buf buflen sw in_port classifies copies).2 ops := by
  intro h
  have hsound := (h unused none 60 none 1 false true rfl [.pop 1 0xffffffff]).1
  exact absurd ((sound_pop_iff placed_blank 1 0xffffffff).mp hsound (by decide)) (by decide)

end Xdpd.Io.Datapacketx86
