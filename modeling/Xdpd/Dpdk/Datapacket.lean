import Xdpd.Classifier.Parser
import Xdpd.Dpdk.Processing
import Xdpd.Lib.Memory

/-!
# Pushing and popping in an mbuf

`push_datapacket_offset` and `pop_datapacket_offset` have the mbuf library move the start of the
frame, and then move the bytes before the offset.  The functions that take a pointer have checks of
their own, and `pop_datapacket_point` subtracts the pointer from the start of the frame.

The mbuf has one segment.  Its memory is numbered from the start of its data room.  What is read and
written is recorded.
-/

namespace Xdpd.Dpdk.Datapacket

open Xdpd.Lib
open Xdpd.Classifier (subSize)

/-! ## Mbufs -/

/-- `struct rte_mbuf` with one segment, whose frame is in the data room. -/
structure Mbuf where
  memory : ℕ → Byte
  /-- the address of the data room -/
  bufAddr : ℕ
  bufLen : ℕ
  dataOff : ℕ
  /-- `data_len`, and `pkt_len` -/
  dataLen : ℕ
  fits : dataOff + dataLen ≤ bufLen
  bufLen_lt : bufLen < 2 ^ 16

namespace Mbuf

/-- The frame. -/
def frame (m : Mbuf) : List Byte := cells m.memory m.dataOff m.dataLen

/-- The frame starts `n` bytes earlier. -/
def prepended (m : Mbuf) (n : ℕ) (h : n ≤ m.dataOff) : Mbuf :=
  { m with
    dataOff := m.dataOff - n
    dataLen := m.dataLen + n
    fits := by
      have hfits := m.fits
      omega }

/-- The frame starts `n` bytes later. -/
def adjusted (m : Mbuf) (n : ℕ) (h : n ≤ m.dataLen) : Mbuf :=
  { m with
    dataOff := m.dataOff + n
    dataLen := m.dataLen - n
    fits := by
      have hfits := m.fits
      omega }

/-- `memmove` of `n` bytes. -/
def memmove (m : Mbuf) (dst src n : ℕ) : Mbuf :=
  { m with memory := copyTo dst n (fun i => m.memory (src + i)) m.memory }

/-- `memset` of `n` bytes to zero. -/
def memset (m : Mbuf) (dst n : ℕ) : Mbuf :=
  { m with memory := copyTo dst n (fun _ => 0) m.memory }

end Mbuf

/-- The functions of the mbuf library, which take a length of 16 bits. -/
structure MbufApi where
  rtePktmbufPrepend : BitVec 16 → Mbuf → Option Mbuf
  rtePktmbufAdj : BitVec 16 → Mbuf → Option Mbuf

/-- They fail when there is not so much headroom, or not so much in the frame, and leave the mbuf as
it is then.  The bytes are not touched. -/
structure MbufApi.Documented (api : MbufApi) : Prop where
  prepend : ∀ len m, api.rtePktmbufPrepend len m =
    if h : len.toNat ≤ m.dataOff then some (m.prepended len.toNat h) else none
  adj : ∀ len m, api.rtePktmbufAdj len m =
    if h : len.toNat ≤ m.dataLen then some (m.adjusted len.toNat h) else none

/-! ## The functions -/

/-- `datapacket_dpdk_t`, with `base` and `len` of its `clas_state`. -/
structure DatapacketDpdk where
  mbuf : Mbuf
  base : ℕ
  len : ℕ

/-- `get_buffer_dpdk` -/
def DatapacketDpdk.getBuffer (dpkt : DatapacketDpdk) : ℕ := dpkt.mbuf.bufAddr + dpkt.mbuf.dataOff

/-- Bytes that are read or written, numbered as the memory of the mbuf. -/
structure Block where
  start : ℕ
  len : ℕ
  deriving DecidableEq, Repr

/-- All of the bytes are in the data room. -/
def Block.InRoom (b : Block) (m : Mbuf) : Prop := ∀ i < b.len, b.start + i < m.bufLen

/-- What a call returns, what it leaves, and what it has touched. -/
structure Returned where
  result : RoflResult
  dpkt : DatapacketDpdk
  touched : List Block

/-- The packet with an mbuf, where the classifier finds the frame. -/
def DatapacketDpdk.ofMbuf (m : Mbuf) : DatapacketDpdk where
  mbuf := m
  base := m.bufAddr + m.dataOff
  len := m.dataLen

/-- The library, and whether the driver is built with `NDEBUG`. -/
structure Build where
  api : MbufApi
  ndebug : Bool

namespace Build

variable (env : Build)

/-- The `memset` to zero that only a build without `NDEBUG` has. -/
def clear (m : Mbuf) (dst n : ℕ) : Mbuf := if env.ndebug then m else m.memset dst n

/-- What it touches. -/
def cleared (dst n : ℕ) : List Block := if env.ndebug then [] else [⟨dst, n⟩]

/-- `push_datapacket_offset` -/
def pushDatapacketOffset (dpkt : DatapacketDpdk) (offset num_of_bytes : BitVec 32) : Returned :=
  let src := dpkt.mbuf.dataOff
  match env.api.rtePktmbufPrepend (num_of_bytes.setWidth 16) dpkt.mbuf with
  | none => ⟨.failure, dpkt, []⟩
  | some m =>
      let dst := m.dataOff
      let moved := m.memmove dst src offset.toNat
      ⟨.success, .ofMbuf (env.clear moved (dst + offset.toNat) num_of_bytes.toNat),
        [⟨src, offset.toNat⟩, ⟨dst, offset.toNat⟩] ++
          env.cleared (dst + offset.toNat) num_of_bytes.toNat⟩

/-- `pop_datapacket_offset` -/
def popDatapacketOffset (dpkt : DatapacketDpdk) (offset num_of_bytes : BitVec 32) : Returned :=
  let src := dpkt.mbuf.dataOff
  match env.api.rtePktmbufAdj (num_of_bytes.setWidth 16) dpkt.mbuf with
  | none => ⟨.failure, dpkt, []⟩
  | some m =>
      let dst := m.dataOff
      let moved := m.memmove dst src offset.toNat
      ⟨.success, .ofMbuf (env.clear moved src num_of_bytes.toNat),
        [⟨src, offset.toNat⟩, ⟨dst, offset.toNat⟩] ++ env.cleared src num_of_bytes.toNat⟩

/-- `push_datapacket_point` -/
def pushDatapacketPoint (dpkt : DatapacketDpdk) (push_point : ℕ) (num_of_bytes : BitVec 32) :
    Returned :=
  if push_point < dpkt.getBuffer then ⟨.failure, dpkt, []⟩
  else if push_point + num_of_bytes.toNat > dpkt.getBuffer + dpkt.mbuf.dataLen then
    ⟨.failure, dpkt, []⟩
  else
    let offset := subSize push_point dpkt.getBuffer
    env.pushDatapacketOffset dpkt (BitVec.ofNat 32 offset) num_of_bytes

/-- `pop_datapacket_point`.  The pointer is subtracted from the start of the frame. -/
def popDatapacketPoint (dpkt : DatapacketDpdk) (pop_point : ℕ) (num_of_bytes : BitVec 32) :
    Returned :=
  if pop_point < dpkt.getBuffer then ⟨.failure, dpkt, []⟩
  else if pop_point + num_of_bytes.toNat > dpkt.getBuffer + dpkt.mbuf.dataLen then
    ⟨.failure, dpkt, []⟩
  else
    let offset := subSize dpkt.getBuffer pop_point
    env.popDatapacketOffset dpkt (BitVec.ofNat 32 offset) num_of_bytes

end Build

/-! ## The purpose -/

/-- What is seen of a call: the frame, and where the classifier finds it. -/
structure Observed where
  result : RoflResult
  frame : List Byte
  base : ℕ
  len : ℕ

def Returned.observed (r : Returned) : Observed :=
  ⟨r.result, r.dpkt.mbuf.frame, r.dpkt.base, r.dpkt.len⟩

/-- A call that succeeds gives a frame that is as it should be, one that fails leaves everything as
it is, and no byte is touched outside of the data room. -/
structure Edits (dpkt : DatapacketDpdk) (Edited : List Byte → Prop) (r : Returned) : Prop where
  success : r.result = .success → Edited r.dpkt.mbuf.frame
  failure : r.result = .failure →
    r.dpkt.mbuf.frame = dpkt.mbuf.frame ∧ r.dpkt.base = dpkt.base ∧ r.dpkt.len = dpkt.len
  inRoom : ∀ b ∈ r.touched, b.InRoom dpkt.mbuf

/-- A gap of `n` bytes is opened in a list. -/
def Opened (bytes : List Byte) (offset n : ℕ) (bytes' : List Byte) : Prop :=
  ∃ gap : List Byte, gap.length = n ∧ bytes' = bytes.take offset ++ gap ++ bytes.drop offset

/-- A part of a list is left out, of which there is as much. -/
def LeftOut (bytes : List Byte) (offset n : ℕ) (bytes' : List Byte) : Prop :=
  offset + n ≤ bytes.length ∧ bytes' = bytes.take offset ++ bytes.drop (offset + n)

/-- The functions that push do as they should, and agree. -/
def Build.PushEdits (env : Build) (dpkt : DatapacketDpdk) (offset num_of_bytes : BitVec 32) :
    Prop :=
  Edits dpkt (Opened dpkt.mbuf.frame offset.toNat num_of_bytes.toNat)
      (env.pushDatapacketOffset dpkt offset num_of_bytes) ∧
    Edits dpkt (Opened dpkt.mbuf.frame offset.toNat num_of_bytes.toNat)
      (env.pushDatapacketPoint dpkt (dpkt.getBuffer + offset.toNat) num_of_bytes) ∧
    (env.pushDatapacketPoint dpkt (dpkt.getBuffer + offset.toNat) num_of_bytes).observed =
      (env.pushDatapacketOffset dpkt offset num_of_bytes).observed

/-- The functions that pop do as they should, and agree. -/
def Build.PopEdits (env : Build) (dpkt : DatapacketDpdk) (offset num_of_bytes : BitVec 32) : Prop :=
  Edits dpkt (LeftOut dpkt.mbuf.frame offset.toNat num_of_bytes.toNat)
      (env.popDatapacketOffset dpkt offset num_of_bytes) ∧
    Edits dpkt (LeftOut dpkt.mbuf.frame offset.toNat num_of_bytes.toNat)
      (env.popDatapacketPoint dpkt (dpkt.getBuffer + offset.toNat) num_of_bytes) ∧
    (env.popDatapacketPoint dpkt (dpkt.getBuffer + offset.toNat) num_of_bytes).observed =
      (env.popDatapacketOffset dpkt offset num_of_bytes).observed

/-- The functions edit the frame as a list. -/
def Build.EditsFrame (env : Build) (dpkt : DatapacketDpdk) (offset num_of_bytes : BitVec 32) :
    Prop :=
  env.PushEdits dpkt offset num_of_bytes ∧ env.PopEdits dpkt offset num_of_bytes

/-- Both functions that push go on, or both find no headroom for the low 16 bits of the length. -/
def CanPush (dpkt : DatapacketDpdk) (offset num_of_bytes : BitVec 32) : Prop :=
  offset.toNat + num_of_bytes.toNat ≤ dpkt.mbuf.dataLen ∨
    dpkt.mbuf.dataOff < num_of_bytes.toNat % 2 ^ 16

/-- Both functions that pop go on at the start of the frame, or both find the frame too short for
the low 16 bits of the length. -/
def CanPop (dpkt : DatapacketDpdk) (offset num_of_bytes : BitVec 32) : Prop :=
  (offset = 0 ∧ num_of_bytes.toNat ≤ dpkt.mbuf.dataLen) ∨
    dpkt.mbuf.dataLen < num_of_bytes.toNat % 2 ^ 16

instance (dpkt : DatapacketDpdk) (offset num_of_bytes : BitVec 32) :
    Decidable (CanPop dpkt offset num_of_bytes) := inferInstanceAs (Decidable (_ ∨ _))

/-! ## Frames -/

variable {env : Build} {dpkt : DatapacketDpdk} {offset num_of_bytes : BitVec 32}

lemma Mbuf.length_frame (m : Mbuf) : m.frame.length = m.dataLen := length_cells _ _ _

section Frames

variable {m m' : Mbuf} {pos n dst src a i : ℕ}

lemma opened_frame (hpos : pos ≤ m.dataLen) (hoff : m'.dataOff = dst)
    (hlen : m'.dataLen = m.dataLen + n)
    (hbefore : ∀ i < pos, m'.memory (dst + i) = m.memory (m.dataOff + i))
    (hbehind : ∀ i, m'.memory (dst + (pos + n) + i) = m.memory (m.dataOff + pos + i)) :
    Opened m.frame pos n m'.frame := by
  have hsum : m'.dataLen = pos + n + (m.dataLen - pos) := by omega
  refine ⟨cells m'.memory (dst + pos) n, length_cells _ _ _, ?_⟩
  rw [Mbuf.frame, hoff, hsum, cells_add, cells_add, Mbuf.frame, take_cells hpos, drop_cells hpos,
    cells_congr hbefore, cells_congr fun i _ => hbehind i]

lemma leftOut_frame (hpos : pos + n ≤ m.dataLen) (hoff : m'.dataOff = dst)
    (hlen : m'.dataLen = m.dataLen - n)
    (hbefore : ∀ i < pos, m'.memory (dst + i) = m.memory (m.dataOff + i))
    (hbehind : ∀ i, m'.memory (dst + pos + i) = m.memory (m.dataOff + (pos + n) + i)) :
    LeftOut m.frame pos n m'.frame := by
  have hsum : m'.dataLen = pos + (m.dataLen - (pos + n)) := by omega
  have hpos' : pos ≤ m.dataLen := by omega
  refine ⟨by rwa [m.length_frame], ?_⟩
  rw [Mbuf.frame, hoff, hsum, cells_add, Mbuf.frame, take_cells hpos', drop_cells hpos,
    cells_congr hbefore, cells_congr fun i _ => hbehind i]

lemma memory_memmove_add (m : Mbuf) (hi : i < n) :
    (m.memmove dst src n).memory (dst + i) = m.memory (src + i) := by
  show copyTo dst n (fun i => m.memory (src + i)) m.memory (dst + i) = _
  exact copyTo_add hi

lemma memory_memmove_of_le (m : Mbuf) (h : dst + n ≤ a) :
    (m.memmove dst src n).memory a = m.memory a := by
  show copyTo dst n (fun i => m.memory (src + i)) m.memory a = _
  exact copyTo_of_le h

/-- Where the frame is stays as it is. -/
lemma frame_clear (m : Mbuf) (dst n : ℕ) :
    (env.clear m dst n).dataOff = m.dataOff ∧ (env.clear m dst n).dataLen = m.dataLen := by
  rw [Build.clear]
  split <;> exact ⟨rfl, rfl⟩

/-- Other bytes are not cleared. -/
lemma memory_clear (m : Mbuf) (h : a < dst ∨ dst + n ≤ a) :
    (env.clear m dst n).memory a = m.memory a := by
  have hset : (m.memset dst n).memory a = m.memory a := by
    show copyTo dst n (fun _ => 0) m.memory a = _
    rcases h with hlt | hle
    · exact copyTo_of_lt hlt
    · exact copyTo_of_le hle
  rw [Build.clear]
  split
  · rfl
  · exact hset

lemma mem_cleared {b : Block} (h : b ∈ env.cleared dst n) : b = ⟨dst, n⟩ := by
  rw [Build.cleared] at h
  split at h
  · exact absurd h List.not_mem_nil
  · exact List.mem_singleton.mp h

end Frames

lemma Block.inRoom_of_le {b : Block} {m : Mbuf} (h : b.start + b.len ≤ m.bufLen) : b.InRoom m :=
  fun _ hi => lt_of_lt_of_le (Nat.add_lt_add_left hi b.start) h

/-! ## Calls -/

/-- A call that does nothing. -/
lemma edits_failure (dpkt : DatapacketDpdk) (Edited : List Byte → Prop) :
    Edits dpkt Edited ⟨.failure, dpkt, []⟩ :=
  ⟨nofun, fun _ => ⟨rfl, rfl, rfl⟩, nofun⟩

lemma pushDatapacketOffset_of_lt (hapi : env.api.Documented)
    (h : dpkt.mbuf.dataOff < num_of_bytes.toNat % 2 ^ 16) :
    env.pushDatapacketOffset dpkt offset num_of_bytes = ⟨.failure, dpkt, []⟩ := by
  have hnone : ¬ (num_of_bytes.setWidth 16).toNat ≤ dpkt.mbuf.dataOff := by
    rw [BitVec.toNat_setWidth]
    omega
  simp only [Build.pushDatapacketOffset, hapi.prepend, dif_neg hnone]

lemma popDatapacketOffset_of_lt (hapi : env.api.Documented)
    (h : dpkt.mbuf.dataLen < num_of_bytes.toNat % 2 ^ 16) :
    env.popDatapacketOffset dpkt offset num_of_bytes = ⟨.failure, dpkt, []⟩ := by
  have hnone : ¬ (num_of_bytes.setWidth 16).toNat ≤ dpkt.mbuf.dataLen := by
    rw [BitVec.toNat_setWidth]
    omega
  simp only [Build.popDatapacketOffset, hapi.adj, dif_neg hnone]

/-- Otherwise the start of the frame is moved, and the bytes before the offset. -/
lemma pushDatapacketOffset_of_le (hapi : env.api.Documented) {n : ℕ}
    (hn : num_of_bytes.toNat % 2 ^ 16 = n) (h : n ≤ dpkt.mbuf.dataOff) :
    env.pushDatapacketOffset dpkt offset num_of_bytes =
      ⟨.success, .ofMbuf (env.clear ((dpkt.mbuf.prepended n h).memmove (dpkt.mbuf.dataOff - n)
          dpkt.mbuf.dataOff offset.toNat) (dpkt.mbuf.dataOff - n + offset.toNat)
            num_of_bytes.toNat),
        [⟨dpkt.mbuf.dataOff, offset.toNat⟩, ⟨dpkt.mbuf.dataOff - n, offset.toNat⟩] ++
          env.cleared (dpkt.mbuf.dataOff - n + offset.toNat) num_of_bytes.toNat⟩ := by
  have hlow : (num_of_bytes.setWidth 16).toNat = n := (BitVec.toNat_setWidth _ _).trans hn
  simp only [Build.pushDatapacketOffset, hapi.prepend, hlow, dif_pos h]
  rfl

lemma popDatapacketOffset_of_le (hapi : env.api.Documented) {n : ℕ}
    (hn : num_of_bytes.toNat % 2 ^ 16 = n) (h : n ≤ dpkt.mbuf.dataLen) :
    env.popDatapacketOffset dpkt offset num_of_bytes =
      ⟨.success, .ofMbuf (env.clear ((dpkt.mbuf.adjusted n h).memmove (dpkt.mbuf.dataOff + n)
          dpkt.mbuf.dataOff offset.toNat) dpkt.mbuf.dataOff num_of_bytes.toNat),
        [⟨dpkt.mbuf.dataOff, offset.toNat⟩, ⟨dpkt.mbuf.dataOff + n, offset.toNat⟩] ++
          env.cleared dpkt.mbuf.dataOff num_of_bytes.toNat⟩ := by
  have hlow : (num_of_bytes.setWidth 16).toNat = n := (BitVec.toNat_setWidth _ _).trans hn
  simp only [Build.popDatapacketOffset, hapi.adj, hlow, dif_pos h]
  rfl

/-- A push that ends in the old frame, with enough headroom. -/
lemma edits_pushDatapacketOffset (hapi : env.api.Documented)
    (hend : offset.toNat + num_of_bytes.toNat ≤ dpkt.mbuf.dataLen)
    (hroom : num_of_bytes.toNat ≤ dpkt.mbuf.dataOff) :
    Edits dpkt (Opened dpkt.mbuf.frame offset.toNat num_of_bytes.toNat)
      (env.pushDatapacketOffset dpkt offset num_of_bytes) := by
  have hfits := dpkt.mbuf.fits
  have hlt := dpkt.mbuf.bufLen_lt
  rw [pushDatapacketOffset_of_le hapi (Nat.mod_eq_of_lt (by omega)) hroom]
  set dst := dpkt.mbuf.dataOff - num_of_bytes.toNat with hdst
  set m := dpkt.mbuf.prepended num_of_bytes.toNat hroom
  set moved := m.memmove dst dpkt.mbuf.dataOff offset.toNat
  obtain ⟨hoff, hlen⟩ := @frame_clear env moved (dst + offset.toNat) num_of_bytes.toNat
  refine ⟨fun _ => opened_frame (by omega) hoff hlen (fun i hi => ?_) fun i => ?_, nofun, ?_⟩
  · have hbefore : dst + i < dst + offset.toNat := Nat.add_lt_add_left hi dst
    exact (memory_clear moved (.inl hbefore)).trans (memory_memmove_add m hi)
  · have hsame : dst + (offset.toNat + num_of_bytes.toNat) + i =
        dpkt.mbuf.dataOff + offset.toNat + i := by omega
    show (env.clear moved _ _).memory (dst + (offset.toNat + num_of_bytes.toNat) + i) = _
    rw [hsame]
    exact (memory_clear moved (.inr (by omega))).trans (memory_memmove_of_le m (by omega))
  · intro b hb
    refine Block.inRoom_of_le ?_
    rcases List.mem_append.mp hb with hb | hb
    · rcases List.mem_pair.mp hb with rfl | rfl
      · show dpkt.mbuf.dataOff + offset.toNat ≤ _
        omega
      · show dst + offset.toNat ≤ _
        omega
    · obtain rfl := mem_cleared hb
      show dst + offset.toNat + num_of_bytes.toNat ≤ _
      omega

/-- A pop of bytes that are in the frame. -/
lemma edits_popDatapacketOffset (hapi : env.api.Documented)
    (hend : offset.toNat + num_of_bytes.toNat ≤ dpkt.mbuf.dataLen) :
    Edits dpkt (LeftOut dpkt.mbuf.frame offset.toNat num_of_bytes.toNat)
      (env.popDatapacketOffset dpkt offset num_of_bytes) := by
  have hfits := dpkt.mbuf.fits
  have hlt := dpkt.mbuf.bufLen_lt
  have hroom : num_of_bytes.toNat ≤ dpkt.mbuf.dataLen := by omega
  rw [popDatapacketOffset_of_le hapi (Nat.mod_eq_of_lt (by omega)) hroom]
  set src := dpkt.mbuf.dataOff with hsrc
  set dst := src + num_of_bytes.toNat with hdst
  set m := dpkt.mbuf.adjusted num_of_bytes.toNat hroom
  set moved := m.memmove dst src offset.toNat
  obtain ⟨hoff, hlen⟩ := @frame_clear env moved src num_of_bytes.toNat
  refine ⟨fun _ => leftOut_frame hend hoff hlen (fun i hi => ?_) fun i => ?_, nofun, ?_⟩
  · exact (memory_clear moved (.inr (Nat.le_add_right dst i))).trans (memory_memmove_add m hi)
  · have hsame : dst + offset.toNat + i = src + (offset.toNat + num_of_bytes.toNat) + i := by omega
    show (env.clear moved _ _).memory (dst + offset.toNat + i) = _
    rw [hsame]
    exact (memory_clear moved (.inr (by omega))).trans (memory_memmove_of_le m (by omega))
  · intro b hb
    refine Block.inRoom_of_le ?_
    rcases List.mem_append.mp hb with hb | hb
    · rcases List.mem_pair.mp hb with rfl | rfl
      · show src + offset.toNat ≤ _
        omega
      · show dst + offset.toNat ≤ _
        omega
    · obtain rfl := mem_cleared hb
      show src + num_of_bytes.toNat ≤ _
      omega

/-! ## Pointers -/

/-- The checks of the functions that take a pointer: there is as much of the frame behind it. -/
lemma pushDatapacketPoint_eq (dpkt : DatapacketDpdk) (offset num_of_bytes : BitVec 32) :
    env.pushDatapacketPoint dpkt (dpkt.getBuffer + offset.toNat) num_of_bytes =
      if offset.toNat + num_of_bytes.toNat ≤ dpkt.mbuf.dataLen then
        env.pushDatapacketOffset dpkt offset num_of_bytes
      else ⟨.failure, dpkt, []⟩ := by
  have hback : BitVec.ofNat 32 (subSize (dpkt.getBuffer + offset.toNat) dpkt.getBuffer) =
      offset := by
    rw [subSize, if_pos (Nat.le_add_right _ _), Nat.add_sub_cancel_left]
    rw [BitVec.ofNat_toNat, BitVec.setWidth_eq]
  simp only [Build.pushDatapacketPoint, hback]
  rw [if_neg (by omega)]
  by_cases hend : offset.toNat + num_of_bytes.toNat ≤ dpkt.mbuf.dataLen
  · rw [if_neg (by omega), if_pos hend]
  · rw [if_pos (by omega), if_neg hend]

/-- Popping turns the sign of the offset. -/
lemma popDatapacketPoint_eq (dpkt : DatapacketDpdk) (offset num_of_bytes : BitVec 32) :
    env.popDatapacketPoint dpkt (dpkt.getBuffer + offset.toNat) num_of_bytes =
      if offset.toNat + num_of_bytes.toNat ≤ dpkt.mbuf.dataLen then
        env.popDatapacketOffset dpkt (-offset) num_of_bytes
      else ⟨.failure, dpkt, []⟩ := by
  have hback : BitVec.ofNat 32 (subSize dpkt.getBuffer (dpkt.getBuffer + offset.toNat)) =
      -offset := by
    refine BitVec.eq_of_toNat_eq ?_
    rw [BitVec.toNat_ofNat, BitVec.toNat_neg, subSize]
    have hoffset := offset.isLt
    split <;> omega
  simp only [Build.popDatapacketPoint, hback]
  rw [if_neg (by omega)]
  by_cases hend : offset.toNat + num_of_bytes.toNat ≤ dpkt.mbuf.dataLen
  · rw [if_neg (by omega), if_pos hend]
  · rw [if_pos (by omega), if_neg hend]

/-- A pop with the sign of its offset turned moves bytes that are not in the data room. -/
lemma not_inRoom_neg (hapi : env.api.Documented)
    (hend : offset.toNat + num_of_bytes.toNat ≤ dpkt.mbuf.dataLen) (hne : offset ≠ 0)
    {Edited : List Byte → Prop} :
    ¬ Edits dpkt Edited (env.popDatapacketOffset dpkt (-offset) num_of_bytes) := by
  have hfits := dpkt.mbuf.fits
  have hlt := dpkt.mbuf.bufLen_lt
  have hpos : offset.toNat ≠ 0 := fun hzero => hne (BitVec.eq_of_toNat_eq hzero)
  have hneg : (-offset).toNat = 2 ^ 32 - offset.toNat := by
    rw [BitVec.toNat_neg]
    omega
  have hroom : num_of_bytes.toNat ≤ dpkt.mbuf.dataLen := by omega
  intro hedits
  rw [popDatapacketOffset_of_le hapi (Nat.mod_eq_of_lt (by omega)) hroom] at hedits
  have hmoved := hedits.inRoom ⟨dpkt.mbuf.dataOff, (-offset).toNat⟩ (by simp) (2 ^ 32 - 2 ^ 16)
  simp only [hneg] at hmoved
  omega

/-! ## The result -/

lemma pushEdits_iff (hapi : env.api.Documented) (dpkt : DatapacketDpdk)
    (offset num_of_bytes : BitVec 32) :
    env.PushEdits dpkt offset num_of_bytes ↔ CanPush dpkt offset num_of_bytes := by
  rw [Build.PushEdits, pushDatapacketPoint_eq, CanPush]
  by_cases hroom : dpkt.mbuf.dataOff < num_of_bytes.toNat % 2 ^ 16
  · rw [pushDatapacketOffset_of_lt hapi hroom, ite_self]
    exact iff_of_true ⟨edits_failure _ _, edits_failure _ _, rfl⟩ (.inr hroom)
  · by_cases hend : offset.toNat + num_of_bytes.toNat ≤ dpkt.mbuf.dataLen
    · have hfits := dpkt.mbuf.fits
      have hlt := dpkt.mbuf.bufLen_lt
      have hedits := @edits_pushDatapacketOffset env dpkt offset num_of_bytes hapi hend (by omega)
      rw [if_pos hend]
      exact iff_of_true ⟨hedits, hedits, rfl⟩ (.inl hend)
    · rw [if_neg hend, pushDatapacketOffset_of_le hapi rfl (Nat.le_of_not_lt hroom)]
      exact iff_of_false (fun h => absurd (congrArg Observed.result h.2.2) nofun)
        fun h => h.elim hend hroom

lemma popEdits_iff (hapi : env.api.Documented) (dpkt : DatapacketDpdk)
    (offset num_of_bytes : BitVec 32) :
    env.PopEdits dpkt offset num_of_bytes ↔ CanPop dpkt offset num_of_bytes := by
  rw [Build.PopEdits, popDatapacketPoint_eq, CanPop]
  by_cases hroom : dpkt.mbuf.dataLen < num_of_bytes.toNat % 2 ^ 16
  · rw [popDatapacketOffset_of_lt hapi hroom, popDatapacketOffset_of_lt hapi hroom, ite_self]
    exact iff_of_true ⟨edits_failure _ _, edits_failure _ _, rfl⟩ (.inr hroom)
  · by_cases hend : offset.toNat + num_of_bytes.toNat ≤ dpkt.mbuf.dataLen
    · rw [if_pos hend]
      by_cases hzero : offset = 0
      · subst hzero
        have hneg : -(0 : BitVec 32) = 0 := by decide
        have hedits := @edits_popDatapacketOffset env dpkt 0 num_of_bytes hapi hend
        rw [hneg]
        exact iff_of_true ⟨hedits, hedits, rfl⟩ (.inl ⟨rfl, by simpa using hend⟩)
      · exact iff_of_false (fun h => not_inRoom_neg hapi hend hzero h.2.1)
          fun h => h.elim (fun hstart => hzero hstart.1) hroom
    · rw [if_neg hend, popDatapacketOffset_of_le hapi rfl (Nat.le_of_not_lt hroom)]
      refine iff_of_false (fun h => absurd (congrArg Observed.result h.2.2) nofun) fun h => ?_
      rcases h with ⟨rfl, hlen⟩ | hlt
      · exact hend (by simpa using hlen)
      · exact hroom hlt

/-- **Pushing and popping in an mbuf.**  The functions edit the frame as a list, and agree, exactly
under these two conditions. -/
theorem editsFrame_iff (hapi : env.api.Documented) (dpkt : DatapacketDpdk)
    (offset num_of_bytes : BitVec 32) :
    env.EditsFrame dpkt offset num_of_bytes ↔
      CanPush dpkt offset num_of_bytes ∧ CanPop dpkt offset num_of_bytes :=
  and_congr (pushEdits_iff hapi dpkt offset num_of_bytes)
    (popEdits_iff hapi dpkt offset num_of_bytes)

/-- The library does what is documented. -/
def rteMbuf : MbufApi where
  rtePktmbufPrepend len m :=
    if h : len.toNat ≤ m.dataOff then some (m.prepended len.toNat h) else none
  rtePktmbufAdj len m :=
    if h : len.toNat ≤ m.dataLen then some (m.adjusted len.toNat h) else none

lemma documented_rteMbuf : rteMbuf.Documented := ⟨fun _ _ => rfl, fun _ _ => rfl⟩

/-- A frame of 60 bytes, with a headroom of 128 bytes. -/
def received : DatapacketDpdk :=
  .ofMbuf
    { memory := fun _ => 0
      bufAddr := 0x1000
      bufLen := 2176
      dataOff := 128
      dataLen := 60
      fits := by decide
      bufLen_lt := by decide }

/-- At the start of the frame. -/
theorem editsFrame_received : Build.EditsFrame ⟨rteMbuf, true⟩ received 0 4 :=
  (editsFrame_iff documented_rteMbuf received 0 4).mpr ⟨.inl (by decide), .inl (by decide)⟩

/-- A tag is popped after the 12 bytes of the addresses. -/
theorem not_editsFrame_tag : ¬ Build.EditsFrame ⟨rteMbuf, true⟩ received 12 4 := by
  intro h
  have hpop : CanPop received 12 4 := (popEdits_iff documented_rteMbuf received 12 4).mp h.2
  exact absurd hpop (by decide)

end Xdpd.Dpdk.Datapacket
