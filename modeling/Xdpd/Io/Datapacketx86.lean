import Xdpd.Classifier.Parser
import Xdpd.Io.Bufferpool
import Xdpd.Lib.Memory

/-!
# Packets in memory

A `datapacketx86` has an array of its own for a frame, with space before and behind it, and the
state of the classifier, which says where the frame starts, how long it is and what its type is.
Bytes are pushed into a frame, or popped from it, by moving what comes before them: the frame then
starts earlier or later.  The build is one with `NDEBUG`: what is pushed is not cleared.
-/

namespace Xdpd.Io

open Xdpd.Lib
open Xdpd.Classifier (PktType subSize classify)

/-- Where the frame is, that is `buffering_status` with the pointer `base`: a position in
`user_space_buffer`, or memory of the NIC.  The pointer of an empty packet is left where it was. -/
inductive X86BufferingStatus
  | bufferIsEmpty (pos : ℕ)
  | bufferedInNic (buf : ℕ → Byte)
  | bufferedInUserSpace (pos : ℕ)

/-- `datapacketx86`, with its `classifier_state`.  `slot` is `user_space_buffer`, of the length
`iovLen`, once the packet has been there. -/
structure Datapacketx86 (S : Type*) where
  lsw : Option S
  outputQueue : BitVec 32
  userSpaceBuffer : ℕ → Byte
  iovLen : ℕ
  status : X86BufferingStatus
  type : PktType
  len : ℕ
  portIn : BitVec 32
  phyPortIn : BitVec 32
  calculateChecksumsInSw : BitVec 32

namespace Datapacketx86

/-- `PRE_GUARD_BYTES`. -/
def PRE_GUARD_BYTES : ℕ := 256

/-- `POST_GUARD_BYTES`. -/
def POST_GUARD_BYTES : ℕ := 64

/-- `sizeof(user_space_buffer)`. -/
def bufferSize : ℕ := PRE_GUARD_BYTES + FRAME_SIZE_BYTES + POST_GUARD_BYTES

/-- `rofl_result_t`. -/
inductive RoflResult
  | success | failure
  deriving DecidableEq, Repr

variable {S : Type*}

/-- A packet without a frame, as a buffer of the pool is before it is first used. -/
def unused : Datapacketx86 S where
  lsw := none
  outputQueue := 0
  userSpaceBuffer _ := 0
  iovLen := 0
  status := .bufferIsEmpty PRE_GUARD_BYTES
  type := PktType.start false
  len := 0
  portIn := 0
  phyPortIn := 0
  calculateChecksumsInSw := 0

/-- The bytes from `get_buffer()` on. -/
def getBuffer (p : Datapacketx86 S) : ℕ → Byte :=
  match p.status with
  | .bufferedInNic buf => buf
  | .bufferIsEmpty pos | .bufferedInUserSpace pos => fun i => p.userSpaceBuffer (pos + i)

/-- The bytes of the frame. -/
def frame (p : Datapacketx86 S) : List Byte :=
  (List.range p.len).map p.getBuffer

/-- The packet after something has been written to the bytes from `get_buffer()` on. -/
def mapBuffer (write : (ℕ → Byte) → ℕ → Byte) (p : Datapacketx86 S) : Datapacketx86 S :=
  match p.status with
  | .bufferedInNic buf => { p with status := .bufferedInNic (write buf) }
  | .bufferIsEmpty pos | .bufferedInUserSpace pos =>
      { p with
        userSpaceBuffer := fun a =>
          if pos ≤ a then write p.getBuffer (a - pos) else p.userSpaceBuffer a }

/-- `classify_packet` on the frame of the packet. -/
def classifyPacket (port_in phy_port_in : BitVec 32) (p : Datapacketx86 S) : Datapacketx86 S :=
  { p with
    type := classify p.getBuffer p.len
    portIn := port_in
    phyPortIn := phy_port_in
    calculateChecksumsInSw := 0 }

/-- `init_internal_buffer_location_defaults(X86_DATAPACKET_BUFFERED_IN_USER_SPACE, ..)`. -/
def inUserSpace (buflen : ℕ) (p : Datapacketx86 S) : Datapacketx86 S :=
  { p with
    iovLen := bufferSize
    status := .bufferedInUserSpace PRE_GUARD_BYTES
    len := buflen }

/-- `init_internal_buffer_location_defaults(X86_DATAPACKET_BUFFERED_IN_NIC, ..)`. -/
def inNic (buf : ℕ → Byte) (buflen : ℕ) (p : Datapacketx86 S) : Datapacketx86 S :=
  { p with
    iovLen := 0
    status := .bufferedInNic buf
    len := buflen }

/-- `datapacketx86::init`.  `buf` is `none` for a `NULL` pointer. -/
def init (buf : Option (ℕ → Byte)) (buflen : ℕ) (sw : Option S) (in_port : BitVec 32)
    (classifies copyPacketToInternalBuffer : Bool) (p : Datapacketx86 S) :
    RoflResult × Datapacketx86 S :=
  if buflen > FRAME_SIZE_BYTES then (.failure, p)
  else
    let fill (p : Datapacketx86 S) : RoflResult × Datapacketx86 S :=
      let p := { p with lsw := sw, outputQueue := 0 }
      (.success, if classifies then p.classifyPacket in_port 0 else p)
    if copyPacketToInternalBuffer then
      let p := p.inUserSpace buflen
      match buf with
      | some buf =>
          fill { p with
            userSpaceBuffer := copyTo PRE_GUARD_BYTES buflen buf p.userSpaceBuffer }
      | none => fill p
    else
      match buf with
      | some buf => fill (p.inNic buf buflen)
      | none => (.failure, p)

/-- `destroy`. -/
def destroy (p : Datapacketx86 S) : Datapacketx86 S :=
  match p.status with
  | .bufferedInUserSpace pos => { p with status := .bufferIsEmpty pos }
  | _ => p

/-- `transfer_to_user_space`, for a packet that is in the NIC; the other packets are left as they
are. -/
def transferToUserSpace (p : Datapacketx86 S) : Datapacketx86 S :=
  match p.status with
  | .bufferedInNic buf =>
      { p with
        iovLen := bufferSize
        status := .bufferedInUserSpace PRE_GUARD_BYTES
        userSpaceBuffer := copyTo PRE_GUARD_BYTES p.len buf p.userSpaceBuffer }
  | _ => p

/-- The position of `base` in `user_space_buffer`, if it points there. -/
def base (p : Datapacketx86 S) : ℕ :=
  match p.status with
  | .bufferedInNic _ => 0
  | .bufferIsEmpty pos | .bufferedInUserSpace pos => pos

/-- `base` is set to a position in `user_space_buffer`. -/
def setBase (pos : ℕ) (p : Datapacketx86 S) : Datapacketx86 S :=
  match p.status with
  | .bufferedInNic _ => p
  | .bufferIsEmpty _ => { p with status := .bufferIsEmpty pos }
  | .bufferedInUserSpace _ => { p with status := .bufferedInUserSpace pos }

/-- `push(offset, num_of_bytes)`. -/
def push (offset num_of_bytes : ℕ) (p : Datapacketx86 S) : RoflResult × Datapacketx86 S :=
  let p := p.transferToUserSpace
  if offset > p.len then (.failure, p)
  else
    let free_space_head := p.base
    let free_space_tail := subSize p.iovLen (free_space_head + p.len)
    if num_of_bytes > (free_space_head + free_space_tail) % 2 ^ 64 then (.failure, p)
    else if num_of_bytes > free_space_head then (.failure, p)
    else
      (.success, setBase (p.base - num_of_bytes)
        { p with
          userSpaceBuffer :=
            copyTo (p.base - num_of_bytes) offset p.getBuffer p.userSpaceBuffer
          len := p.len + num_of_bytes })

/-- `pop(offset, num_of_bytes)`.  The end of what is popped is an `unsigned int`. -/
def pop (offset num_of_bytes : ℕ) (p : Datapacketx86 S) : RoflResult × Datapacketx86 S :=
  let p := p.transferToUserSpace
  if offset > p.len then (.failure, p)
  else if (offset + num_of_bytes) % 2 ^ 32 > p.len then (.failure, p)
  else
    (.success, setBase (p.base + num_of_bytes)
      { p with
        userSpaceBuffer := copyTo (p.base + num_of_bytes) offset p.getBuffer p.userSpaceBuffer
        len := subSize p.len num_of_bytes })

/-- Where `user_space_buffer` is, and the frame if it is in the NIC. -/
structure Addresses where
  userSpaceBuffer : ℕ
  nic : ℕ

/-- The pointer `base`. -/
def basePointer (mem : Addresses) (p : Datapacketx86 S) : ℕ :=
  match p.status with
  | .bufferedInNic _ => mem.nic
  | .bufferIsEmpty pos | .bufferedInUserSpace pos => mem.userSpaceBuffer + pos

/-- `push(push_point, num_of_bytes)`.  A frame in the NIC is transferred before the pointer is
compared with `base`. -/
def pushPointer (mem : Addresses) (push_point num_of_bytes : ℕ) (p : Datapacketx86 S) :
    RoflResult × Datapacketx86 S :=
  let p := p.transferToUserSpace
  if push_point < p.basePointer mem then (.failure, p)
  else if push_point + num_of_bytes > p.basePointer mem + p.len then (.failure, p)
  else p.push (subSize push_point (p.basePointer mem) % 2 ^ 32) num_of_bytes

/-- `pop(pop_point, num_of_bytes)`.  The pointer is subtracted from `base`. -/
def popPointer (mem : Addresses) (pop_point num_of_bytes : ℕ) (p : Datapacketx86 S) :
    RoflResult × Datapacketx86 S :=
  if pop_point < p.basePointer mem then (.failure, p)
  else if pop_point + num_of_bytes > p.basePointer mem + p.len then (.failure, p)
  else p.pop (subSize (p.basePointer mem) pop_point % 2 ^ 32) num_of_bytes

/-- `push(push_point, num_of_bytes)`, for a pointer that is `offset` bytes after `base`.  A pointer
into memory of the NIC is not one into the frame any more once the frame has been transferred. -/
def pushPoint (offset num_of_bytes : ℕ) (p : Datapacketx86 S) : RoflResult × Datapacketx86 S :=
  match p.status with
  | .bufferedInNic _ => (.failure, p.transferToUserSpace)
  | _ => if offset + num_of_bytes > p.len then (.failure, p) else p.push offset num_of_bytes

/-! ## Frames -/

lemma length_frame (p : Datapacketx86 S) : p.frame.length = p.len := by
  rw [frame, List.length_map, List.length_range]

@[simp] lemma frame_classifyPacket (port_in phy_port_in : BitVec 32) (p : Datapacketx86 S) :
    (p.classifyPacket port_in phy_port_in).frame = p.frame := rfl

section MapBuffer

variable (write : (ℕ → Byte) → ℕ → Byte) (p : Datapacketx86 S)

@[simp] lemma getBuffer_mapBuffer : (p.mapBuffer write).getBuffer = write p.getBuffer := by
  ext i
  cases hstatus : p.status with
  | bufferedInNic buf => rw [mapBuffer, getBuffer, getBuffer, hstatus]
  | bufferIsEmpty pos =>
      simp only [mapBuffer, getBuffer, hstatus, Nat.le_add_right, if_true, Nat.add_sub_cancel_left]
  | bufferedInUserSpace pos =>
      simp only [mapBuffer, getBuffer, hstatus, Nat.le_add_right, if_true, Nat.add_sub_cancel_left]

@[simp] lemma type_mapBuffer : (p.mapBuffer write).type = p.type := by
  rw [mapBuffer]
  split <;> rfl

@[simp] lemma len_mapBuffer : (p.mapBuffer write).len = p.len := by
  rw [mapBuffer]
  split <;> rfl

@[simp] lemma calculateChecksumsInSw_mapBuffer :
    (p.mapBuffer write).calculateChecksumsInSw = p.calculateChecksumsInSw := by
  rw [mapBuffer]
  split <;> rfl

end MapBuffer

/-! ## Pushing and popping in user space -/

/-- The frame starts at `pos` of the user space buffer, and fits in it. -/
structure PlacedAt (p : Datapacketx86 S) (pos : ℕ) : Prop where
  status : p.status = .bufferedInUserSpace pos
  iovLen : p.iovLen = bufferSize
  fits : pos + p.len ≤ bufferSize

section Placed

variable {p : Datapacketx86 S} {pos offset n : ℕ}

lemma PlacedAt.getBuffer (h : p.PlacedAt pos) :
    p.getBuffer = fun i => p.userSpaceBuffer (pos + i) := by
  rw [Datapacketx86.getBuffer, h.status]

lemma PlacedAt.base (h : p.PlacedAt pos) : p.base = pos := by
  rw [Datapacketx86.base, h.status]

lemma PlacedAt.transferToUserSpace (h : p.PlacedAt pos) : p.transferToUserSpace = p := by
  rw [Datapacketx86.transferToUserSpace, h.status]

/-- The packet after `n` bytes have been pushed after the first `offset` bytes. -/
def pushed (pos offset n : ℕ) (p : Datapacketx86 S) : Datapacketx86 S :=
  { p with
    userSpaceBuffer :=
      copyTo (pos - n) offset (fun i => p.userSpaceBuffer (pos + i)) p.userSpaceBuffer
    status := .bufferedInUserSpace (pos - n)
    len := p.len + n }

/-- A push succeeds exactly when it starts in the frame and there is room before the frame. -/
lemma push_eq (h : p.PlacedAt pos) (offset n : ℕ) :
    p.push offset n =
      if offset ≤ p.len ∧ n ≤ pos then (.success, p.pushed pos offset n) else (.failure, p) := by
  have hfits := h.fits
  have hsize : bufferSize < 2 ^ 64 := by decide
  have htail : (pos + subSize bufferSize (pos + p.len)) % 2 ^ 64 =
      pos + (bufferSize - (pos + p.len)) := by
    rw [subSize, if_pos hfits, Nat.mod_eq_of_lt (by omega)]
  simp only [push, h.transferToUserSpace, h.base, h.iovLen, htail]
  by_cases hoffset : offset ≤ p.len
  · by_cases hn : n ≤ pos
    · rw [if_neg (by omega), if_neg (by omega), if_neg (by omega), if_pos ⟨hoffset, hn⟩, setBase,
        h.getBuffer]
      simp only [h.status, pushed, h.iovLen]
    · have hnot : ¬ (offset ≤ p.len ∧ n ≤ pos) := fun hboth => hn hboth.2
      rw [if_neg (by omega), if_neg hnot, if_pos (Nat.lt_of_not_le hn), ite_self]
  · have hnot : ¬ (offset ≤ p.len ∧ n ≤ pos) := fun hboth => hoffset hboth.1
    rw [if_pos (by omega), if_neg hnot]

lemma PlacedAt.pushed (h : p.PlacedAt pos) (offset : ℕ) (hn : n ≤ pos) :
    (p.pushed pos offset n).PlacedAt (pos - n) where
  status := rfl
  iovLen := h.iovLen
  fits := by
    have hfits := h.fits
    change pos - n + (p.len + n) ≤ bufferSize
    omega

lemma userSpaceBuffer_pushed (p : Datapacketx86 S) (pos offset n : ℕ) :
    (p.pushed pos offset n).userSpaceBuffer =
      copyTo (pos - n) offset (fun i => p.userSpaceBuffer (pos + i)) p.userSpaceBuffer := rfl

/-- Before the gap. -/
lemma getBuffer_pushed_of_lt (h : p.PlacedAt pos) {i : ℕ} (hn : n ≤ pos) (hi : i < offset) :
    (p.pushed pos offset n).getBuffer i = p.getBuffer i := by
  rw [(h.pushed offset hn).getBuffer, h.getBuffer, userSpaceBuffer_pushed]
  exact copyTo_add hi

/-- Behind the gap. -/
lemma getBuffer_pushed_add (h : p.PlacedAt pos) {i : ℕ} (hn : n ≤ pos) (hi : offset ≤ i) :
    (p.pushed pos offset n).getBuffer (i + n) = p.getBuffer i := by
  have hpos : pos - n + (i + n) = pos + i := by omega
  have hblock : pos - n + offset ≤ pos + i := by omega
  rw [(h.pushed offset hn).getBuffer, h.getBuffer, userSpaceBuffer_pushed]
  simp only [hpos]
  exact copyTo_of_le hblock

/-- A push opens the gap, or leaves the packet as it is. -/
lemma push_cases (h : p.PlacedAt pos) (offset n : ℕ) :
    p.push offset n = (.failure, p) ∨
      offset ≤ p.len ∧ n ≤ pos ∧ p.push offset n = (.success, p.pushed pos offset n) := by
  rw [push_eq h]
  by_cases hroom : offset ≤ p.len ∧ n ≤ pos
  · exact Or.inr ⟨hroom.1, hroom.2, if_pos hroom⟩
  · exact Or.inl (if_neg hroom)

lemma pushPoint_cases (h : p.PlacedAt pos) (offset n : ℕ) :
    p.pushPoint offset n = (.failure, p) ∨
      offset ≤ p.len ∧ n ≤ pos ∧ p.pushPoint offset n = (.success, p.pushed pos offset n) := by
  simp only [pushPoint, h.status]
  split_ifs
  · exact Or.inl rfl
  · exact push_cases h offset n

/-- The packet after `n` bytes have been popped after the first `offset` bytes. -/
def popped (pos offset n : ℕ) (p : Datapacketx86 S) : Datapacketx86 S :=
  { p with
    userSpaceBuffer :=
      copyTo (pos + n) offset (fun i => p.userSpaceBuffer (pos + i)) p.userSpaceBuffer
    status := .bufferedInUserSpace (pos + n)
    len := subSize p.len n }

/-- A pop succeeds exactly when it starts in the frame and seems to end there. -/
lemma pop_eq (h : p.PlacedAt pos) (offset n : ℕ) :
    p.pop offset n =
      if offset ≤ p.len ∧ (offset + n) % 2 ^ 32 ≤ p.len then (.success, p.popped pos offset n)
      else (.failure, p) := by
  simp only [pop, h.transferToUserSpace, h.base]
  by_cases hoffset : offset ≤ p.len
  · by_cases hend : (offset + n) % 2 ^ 32 ≤ p.len
    · rw [if_neg (by omega), if_neg (by omega), if_pos ⟨hoffset, hend⟩, setBase, h.getBuffer]
      simp only [h.status, popped]
    · have hnot : ¬ (offset ≤ p.len ∧ (offset + n) % 2 ^ 32 ≤ p.len) := fun hboth => hend hboth.2
      rw [if_neg (by omega), if_neg hnot, if_pos (Nat.lt_of_not_le hend)]
  · have hnot : ¬ (offset ≤ p.len ∧ (offset + n) % 2 ^ 32 ≤ p.len) := fun hboth => hoffset hboth.1
    rw [if_pos (by omega), if_neg hnot]

lemma PlacedAt.popped (h : p.PlacedAt pos) (offset : ℕ) (hn : n ≤ p.len) :
    (p.popped pos offset n).PlacedAt (pos + n) where
  status := rfl
  iovLen := h.iovLen
  fits := by
    have hfits := h.fits
    change pos + n + subSize p.len n ≤ bufferSize
    rw [subSize, if_pos hn]
    omega

lemma userSpaceBuffer_popped (p : Datapacketx86 S) (pos offset n : ℕ) :
    (p.popped pos offset n).userSpaceBuffer =
      copyTo (pos + n) offset (fun i => p.userSpaceBuffer (pos + i)) p.userSpaceBuffer := rfl

/-- Before what is popped. -/
lemma getBuffer_popped_of_lt (h : p.PlacedAt pos) {i : ℕ} (hi : i < offset) :
    (p.popped pos offset n).getBuffer i = p.getBuffer i := by
  have hbuffer : (p.popped pos offset n).getBuffer =
      fun i => (p.popped pos offset n).userSpaceBuffer (pos + n + i) := rfl
  rw [hbuffer, h.getBuffer, userSpaceBuffer_popped]
  exact copyTo_add hi

/-- Behind what is popped. -/
lemma getBuffer_popped_of_le (h : p.PlacedAt pos) {i : ℕ} (hi : offset ≤ i) :
    (p.popped pos offset n).getBuffer i = p.getBuffer (i + n) := by
  have hbuffer : (p.popped pos offset n).getBuffer =
      fun i => (p.popped pos offset n).userSpaceBuffer (pos + n + i) := rfl
  have hpos : pos + (i + n) = pos + n + i := by omega
  rw [hbuffer, h.getBuffer, userSpaceBuffer_popped]
  simp only [hpos]
  exact copyTo_of_le (Nat.add_le_add_left hi _)

end Placed

/-! ## Frames in the NIC -/

section Nic

variable {p : Datapacketx86 S} {buf : ℕ → Byte}

lemma transferToUserSpace_of_nic (h : p.status = .bufferedInNic buf) :
    p.transferToUserSpace =
      { p with
        iovLen := bufferSize
        status := .bufferedInUserSpace PRE_GUARD_BYTES
        userSpaceBuffer := copyTo PRE_GUARD_BYTES p.len buf p.userSpaceBuffer } := by
  rw [transferToUserSpace, h]

lemma len_transferToUserSpace (p : Datapacketx86 S) : p.transferToUserSpace.len = p.len := by
  rw [transferToUserSpace]
  split <;> rfl

/-- There is nothing more to transfer. -/
lemma transferToUserSpace_idem (p : Datapacketx86 S) :
    p.transferToUserSpace.transferToUserSpace = p.transferToUserSpace := by
  cases h : p.status with
  | bufferedInNic buf =>
      rw [transferToUserSpace_of_nic h]
      rfl
  | bufferIsEmpty pos =>
      have hsame : p.transferToUserSpace = p := by rw [transferToUserSpace, h]
      rw [hsame, hsame]
  | bufferedInUserSpace pos =>
      have hsame : p.transferToUserSpace = p := by rw [transferToUserSpace, h]
      rw [hsame, hsame]

lemma placedAt_transferToUserSpace (h : p.status = .bufferedInNic buf)
    (hlen : p.len ≤ FRAME_SIZE_BYTES) : p.transferToUserSpace.PlacedAt PRE_GUARD_BYTES := by
  rw [transferToUserSpace_of_nic h]
  refine ⟨rfl, rfl, ?_⟩
  change PRE_GUARD_BYTES + p.len ≤ PRE_GUARD_BYTES + FRAME_SIZE_BYTES + POST_GUARD_BYTES
  omega

lemma push_transferToUserSpace (offset n : ℕ) (p : Datapacketx86 S) :
    p.transferToUserSpace.push offset n = p.push offset n := by
  rw [push, push, transferToUserSpace_idem]

lemma pop_transferToUserSpace (offset n : ℕ) (p : Datapacketx86 S) :
    p.transferToUserSpace.pop offset n = p.pop offset n := by
  rw [pop, pop, transferToUserSpace_idem]

/-- The bytes of the frame are copied. -/
lemma frame_transferToUserSpace (p : Datapacketx86 S) : p.transferToUserSpace.frame = p.frame := by
  cases h : p.status with
  | bufferedInNic buf =>
      have hbytes : ∀ i < p.len, p.transferToUserSpace.getBuffer i = p.getBuffer i := by
        intro i hi
        rw [transferToUserSpace_of_nic h, getBuffer, getBuffer, h]
        exact copyTo_add hi
      rw [frame, frame, len_transferToUserSpace]
      exact List.map_congr_left fun i hi => hbytes i (List.mem_range.mp hi)
  | bufferIsEmpty pos => rw [transferToUserSpace, h]
  | bufferedInUserSpace pos => rw [transferToUserSpace, h]

end Nic

end Datapacketx86

end Xdpd.Io
