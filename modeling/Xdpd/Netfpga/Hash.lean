import Mathlib.SetTheory.Cardinal.Finite
import Mathlib.Data.BitVec
import Xdpd.Lib.PolynomialCode
import Xdpd.Netfpga.FlowEntry

/-!
# The hash of the table of exact entries

`crc32_calculate` computes the remainder of its data modulo the generator that the polynomial
stands for.  Two matches have the same hash if and only if the generator divides their difference,
and this never is so when they differ within four adjacent bytes.  So whatever the other fields of
an entry are, the addresses are spread evenly over the slots of the table.
-/

namespace Xdpd.Netfpga

open Lib Polynomial

/-! ## The hash as a remainder -/

lemma crc32Shift_eq_codeShifts (polynomial : BitVec 32) (n : ℕ) (reg : BitVec 32) :
    crc32Shift polynomial n reg = codeShifts polynomial n reg := by
  induction n generalizing reg with
  | zero => rfl
  | succ n ih => exact ih _

lemma crc32Calculate_eq_code (polynomial : BitVec 32) (data : List (BitVec 8)) :
    crc32Calculate polynomial data = code polynomial data := by
  rw [crc32Calculate, code]
  refine List.foldl_ext _ _ _ fun reg b _ => ?_
  rw [crc32Table, crc32Shift_eq_codeShifts]
  rfl

/-- **The hash is a remainder**: the data, times a power of `X`, modulo the generator. -/
theorem toPolynomial_crc32Calculate (polynomial : BitVec 32) (data : List (BitVec 8)) :
    toPolynomial (crc32Calculate polynomial data) =
      (X ^ 32 * message data) %ₘ generator polynomial := by
  rw [crc32Calculate_eq_code]
  exact toPolynomial_code (by omega) data

/-! ## The bytes of a structure -/

/-- The bytes of a field, or of a structure. -/
def fieldBytes {w : ℕ} (n : ℕ) (a : BitVec w) : List (BitVec 8) :=
  (List.range n).map fun i => a.extractLsb' (8 * i) 8

lemma length_fieldBytes {w : ℕ} (n : ℕ) (a : BitVec w) : (fieldBytes n a).length = n := by
  rw [fieldBytes, List.length_map, List.length_range]

lemma fieldBytes_append {v w : ℕ} (k n : ℕ) (high : BitVec v) (low : BitVec w) (hw : w = 8 * k) :
    fieldBytes (k + n) (high ++ low) = fieldBytes k low ++ fieldBytes n high := by
  rw [fieldBytes, List.range_add, List.map_append, List.map_map]
  refine congrArg₂ (· ++ ·) ?_ ?_
  · refine List.map_congr_left fun i hi => ?_
    have hi := List.mem_range.mp hi
    exact BitVec.extractLsb'_append_eq_of_add_le (by omega)
  · refine List.map_congr_left fun i _ => ?_
    have hsub : 8 * (k + i) - w = 8 * i := by omega
    rw [Function.comp_apply, BitVec.extractLsb'_append_eq_of_le (by omega), hsub]

lemma fieldBytes_injective : Function.Injective (fieldBytes (w := 32) 4) := by
  intro a b h
  refine BitVec.eq_of_getLsbD_eq fun i hi => ?_
  have hbyte := congrArg (fun bytes => bytes.getD (i / 8) 0) h
  have hlt : i / 8 < 4 := by omega
  have hbit := congrArg (fun byte => byte.getLsbD (i % 8)) hbyte
  have hmod : i % 8 < 8 := Nat.mod_lt i (by omega)
  simpa [fieldBytes, hlt, hmod, Nat.div_add_mod] using hbit

/-- The bytes of the matches, as they are hashed. -/
def Matches.bytes (m : Matches) : List (BitVec 8) := fieldBytes 32 m.bits

/-- The structure is packed. -/
lemma Matches.bytes_eq (m : Matches) : m.bytes =
    fieldBytes 2 m.transpDst ++ (fieldBytes 2 m.transpSrc ++ (fieldBytes 1 m.ipProto ++
      (fieldBytes 4 m.ipDst ++ (fieldBytes 4 m.ipSrc ++ (fieldBytes 2 m.ethType ++
        (fieldBytes 6 m.ethDst ++ (fieldBytes 6 m.ethSrc ++ (fieldBytes 1 m.srcPort ++
          (fieldBytes 1 m.ipTos ++ (fieldBytes 2 m.vlanId ++ fieldBytes 1 m.pad)))))))))) := by
  rw [Matches.bytes, Matches.bits, fieldBytes_append 2 30 _ _ rfl, fieldBytes_append 2 28 _ _ rfl,
    fieldBytes_append 1 27 _ _ rfl, fieldBytes_append 4 23 _ _ rfl, fieldBytes_append 4 19 _ _ rfl,
    fieldBytes_append 2 17 _ _ rfl, fieldBytes_append 6 11 _ _ rfl, fieldBytes_append 6 5 _ _ rfl,
    fieldBytes_append 1 4 _ _ rfl, fieldBytes_append 1 3 _ _ rfl, fieldBytes_append 2 1 _ _ rfl]

/-! ## The positions -/

/-- **Equal hashes**: the generator divides the difference of the matches. -/
theorem crc32Calculate_eq_iff {polynomial : BitVec 32} (hodd : polynomial.getLsbD 0 = true)
    (m m' : Matches) :
    crc32Calculate polynomial m.bytes = crc32Calculate polynomial m'.bytes ↔
      generator polynomial ∣ message m.bytes - message m'.bytes := by
  rw [crc32Calculate_eq_code, crc32Calculate_eq_code]
  exact code_eq_code_iff (by omega) hodd _ _

/-- The words with given low bits. -/
lemma card_low {pos : ℕ} (hpos : pos < 1024) :
    Nat.card {c : BitVec 32 // (0x3FF &&& c).toNat = pos} = 2 ^ 22 := by
  have hmask (c : BitVec 32) : (0x3FF &&& c).toNat = c.toNat % 1024 := by
    rw [BitVec.toNat_and, Nat.and_comm]
    exact Nat.and_two_pow_sub_one_eq_mod c.toNat 10
  refine Nat.card_eq_of_equiv_fin
    { toFun := fun c => ⟨c.val.toNat / 1024, by have := c.val.isLt; omega⟩
      invFun := fun k => ⟨BitVec.ofNat 32 (1024 * k + pos), ?_⟩
      left_inv := fun c => ?_
      right_inv := fun k => ?_ }
  · rw [hmask, BitVec.toNat_ofNat]
    omega
  · have hc := c.property
    rw [hmask] at hc
    refine Subtype.ext (BitVec.eq_of_toNat_eq ?_)
    have hlt := c.val.isLt
    rw [BitVec.toNat_ofNat]
    dsimp only
    omega
  · refine Fin.ext ?_
    have hlt := k.isLt
    dsimp only
    rw [BitVec.toNat_ofNat]
    omega

/-- A field whose bytes are hashed between the same ones is spread evenly over the positions. -/
lemma card_hashPosition_field {polynomial : BitVec 32} (hodd : polynomial.getLsbD 0 = true)
    {field : BitVec 32 → Matches} (first last : List (BitVec 8))
    (hfield : ∀ a, (field a).bytes = first ++ fieldBytes 4 a ++ last) {pos : ℕ}
    (hpos : pos < tableSize .fixed) :
    Nat.card {a : BitVec 32 // hashPosition polynomial (field a) = pos} = 2 ^ 22 := by
  have hinj : Function.Injective fun a => crc32Calculate polynomial (field a).bytes := by
    intro a b h
    dsimp only at h
    rw [crc32Calculate_eq_code, crc32Calculate_eq_code, hfield, hfield] at h
    have hshort : 8 * (fieldBytes 4 a).length ≤ 32 := by rw [length_fieldBytes]
    exact fieldBytes_injective (code_append_inj (by omega) hodd first last rfl hshort h)
  have hfinite : Finite (BitVec 32) := Finite.of_equiv _ BitVec.equivFin.symm.toEquiv
  have hbij := Finite.injective_iff_bijective.mp hinj
  rw [← card_low hpos]
  exact Nat.card_congr ((Equiv.ofBijective _ hbij).subtypeEquiv fun a => Iff.rfl)

/-- **Addresses are spread evenly**: whatever the other matches are, each position is that of as
many addresses as any other. -/
theorem card_hashPosition {polynomial : BitVec 32} (hodd : polynomial.getLsbD 0 = true)
    (m : Matches) {pos : ℕ} (hpos : pos < tableSize .fixed) :
    Nat.card {a : BitVec 32 // hashPosition polynomial { m with ipSrc := a } = pos} = 2 ^ 22 ∧
      Nat.card {a : BitVec 32 // hashPosition polynomial { m with ipDst := a } = pos} = 2 ^ 22 := by
  constructor
  · refine card_hashPosition_field hodd
      (fieldBytes 2 m.transpDst ++ fieldBytes 2 m.transpSrc ++ fieldBytes 1 m.ipProto ++
        fieldBytes 4 m.ipDst)
      (fieldBytes 2 m.ethType ++ fieldBytes 6 m.ethDst ++ fieldBytes 6 m.ethSrc ++
        fieldBytes 1 m.srcPort ++ fieldBytes 1 m.ipTos ++ fieldBytes 2 m.vlanId ++
        fieldBytes 1 m.pad) (fun a => ?_) hpos
    simp only [Matches.bytes_eq, List.append_assoc]
  · refine card_hashPosition_field hodd
      (fieldBytes 2 m.transpDst ++ fieldBytes 2 m.transpSrc ++ fieldBytes 1 m.ipProto)
      (fieldBytes 4 m.ipSrc ++ fieldBytes 2 m.ethType ++ fieldBytes 6 m.ethDst ++
        fieldBytes 6 m.ethSrc ++ fieldBytes 1 m.srcPort ++ fieldBytes 1 m.ipTos ++
        fieldBytes 2 m.vlanId ++ fieldBytes 1 m.pad) (fun a => ?_) hpos
    simp only [Matches.bytes_eq, List.append_assoc]

/-- Entries for one destination, under the second polynomial. -/
theorem card_hashPosition_five :
    Nat.card {a : BitVec 32 // hashPosition NETFPGA_POLYNOMIAL2
        { Matches.fill 0 with ipDst := 0x0100A8C0, ipSrc := a } = 5} = 2 ^ 22 ∧
      Nat.card {a : BitVec 32 // hashPosition NETFPGA_POLYNOMIAL2
        { Matches.fill 0 with ipDst := a } = 5} = 2 ^ 22 :=
  have hodd : NETFPGA_POLYNOMIAL2.getLsbD 0 = true := by decide
  have hpos : 5 < tableSize .fixed := by decide
  card_hashPosition hodd { Matches.fill 0 with ipDst := 0x0100A8C0 } hpos

end Xdpd.Netfpga
