import Xdpd.Lib.Bytes

/-!
# Reflected cyclic redundancy codes

The register of a reflected code is shifted towards its least significant bit, and the polynomial is
added whenever a one goes out.  Shifting is linear: a table with what `n` shifts leave of each word
of `n` bits takes `n` bits at a time.
-/

namespace Xdpd.Lib

variable {w : ℕ} (poly : BitVec w)

/-- One bit goes out of the register. -/
def crcShift (c : BitVec w) : BitVec w :=
  (c >>> 1) ^^^ (if c.getLsbD 0 then poly else 0)

/-- `n` bits go out of the register. -/
def crcShifts : ℕ → BitVec w → BitVec w
  | 0, c => c
  | n + 1, c => crcShifts n (crcShift poly c)

/-- A byte goes through the register. -/
def crcByte (c : BitVec w) (b : Byte) : BitVec w :=
  crcShifts poly 8 (c ^^^ b.setWidth w)

/-- The register after the bytes of a buffer. -/
def crc (init : BitVec w) (buf : List Byte) : BitVec w :=
  buf.foldl (crcByte poly) init

/-- The register goes on where it was. -/
lemma crc_append (init : BitVec w) (buf buf' : List Byte) :
    crc poly init (buf ++ buf') = crc poly (crc poly init buf) buf' :=
  List.foldl_append

/-- The low bits of a register. -/
def crcLow (n : ℕ) (c : BitVec w) : BitVec w :=
  (c.setWidth n).setWidth w

lemma getLsbD_crcLow (n : ℕ) (c : BitVec w) (i : ℕ) :
    (crcLow n c).getLsbD i = (decide (i < n) && c.getLsbD i) := by
  rw [crcLow, BitVec.getLsbD_setWidth, BitVec.getLsbD_setWidth]
  by_cases hi : i < w
  · simp [hi]
  · simp [hi, BitVec.getLsbD_of_ge c i (Nat.le_of_not_lt hi)]

/-! ## Linearity -/

lemma crcShift_xor (c d : BitVec w) :
    crcShift poly (c ^^^ d) = crcShift poly c ^^^ crcShift poly d := by
  have hadd : (if (c ^^^ d).getLsbD 0 then poly else 0) =
      (if c.getLsbD 0 then poly else 0) ^^^ (if d.getLsbD 0 then poly else 0) := by
    rw [BitVec.getLsbD_xor]
    cases c.getLsbD 0 <;> cases d.getLsbD 0 <;> simp
  rw [crcShift, crcShift, crcShift, hadd, BitVec.ushiftRight_xor_distrib]
  ac_rfl

lemma crcShifts_xor (n : ℕ) (c d : BitVec w) :
    crcShifts poly n (c ^^^ d) = crcShifts poly n c ^^^ crcShifts poly n d := by
  induction n generalizing c d with
  | zero => rfl
  | succ n ih => rw [crcShifts, crcShifts, crcShifts, crcShift_xor, ih]

/-- As long as zeros go out, the register is only shifted. -/
lemma crcShifts_of_low {n : ℕ} {c : BitVec w} (h : ∀ i < n, c.getLsbD i = false) :
    crcShifts poly n c = c >>> n := by
  induction n generalizing c with
  | zero => rfl
  | succ n ih =>
      have hzero : c.getLsbD 0 = false := h 0 n.succ_pos
      have hshift : crcShift poly c = c >>> 1 := by
        rw [crcShift, hzero, if_neg Bool.false_ne_true]
        exact BitVec.xor_zero
      rw [crcShifts, hshift, ih fun i hi => ?_, ← BitVec.shiftRight_add, Nat.add_comm]
      rw [BitVec.getLsbD_ushiftRight]
      exact h _ (by omega)

/-- What `n` shifts leave, from the bits that stay and from those that go out. -/
theorem crcShifts_eq (n : ℕ) (c : BitVec w) :
    crcShifts poly n c = (c >>> n) ^^^ crcShifts poly n (crcLow n c) := by
  have hsplit : c = (c ^^^ crcLow n c) ^^^ crcLow n c := by
    rw [BitVec.xor_assoc, BitVec.xor_self, BitVec.xor_zero]
  have hclear : ∀ i < n, (c ^^^ crcLow n c).getLsbD i = false := by
    intro i hi
    rw [BitVec.getLsbD_xor, getLsbD_crcLow, decide_eq_true hi, Bool.true_and, Bool.xor_self]
  have hstay : (c ^^^ crcLow n c) >>> n = c >>> n := by
    refine BitVec.eq_of_getLsbD_eq fun i _ => ?_
    have hlarge : ¬ n + i < n := by omega
    rw [BitVec.getLsbD_ushiftRight, BitVec.getLsbD_ushiftRight, BitVec.getLsbD_xor, getLsbD_crcLow,
      decide_eq_false hlarge, Bool.false_and, Bool.xor_false]
  calc crcShifts poly n c
      = crcShifts poly n ((c ^^^ crcLow n c) ^^^ crcLow n c) := congrArg _ hsplit
    _ = crcShifts poly n (c ^^^ crcLow n c) ^^^ crcShifts poly n (crcLow n c) :=
        crcShifts_xor poly n _ _
    _ = (c >>> n) ^^^ crcShifts poly n (crcLow n c) := by
        rw [crcShifts_of_low poly hclear, hstay]

/-- **A byte at a time**: the register is shifted by a byte, and what eight shifts leave of the byte
that goes out is added. -/
theorem crcByte_eq (c : BitVec w) (b : Byte) :
    crcByte poly c b = (c >>> 8) ^^^ crcShifts poly 8 (crcLow 8 (c ^^^ b.setWidth w)) := by
  have hbyte : (b.setWidth w) >>> 8 = 0 := by
    refine BitVec.eq_of_getLsbD_eq fun i _ => ?_
    rw [BitVec.getLsbD_ushiftRight, BitVec.getLsbD_setWidth,
      BitVec.getLsbD_of_ge b (8 + i) (Nat.le_add_right 8 i), Bool.and_false]
    exact (BitVec.getLsbD_zero).symm
  rw [crcByte, crcShifts_eq, BitVec.ushiftRight_xor_distrib, hbyte]
  exact congrArg (· ^^^ _) BitVec.xor_zero

end Xdpd.Lib
