import Mathlib.Algebra.Polynomial.Div
import Mathlib.Algebra.CharP.Two
import Mathlib.Algebra.Field.ZMod
import Mathlib.RingTheory.Coprime.Lemmas
import Mathlib.Tactic.LinearCombination

/-!
# Polynomial codes

The bits of a word are the coefficients of a polynomial over the field of two elements.  A register
that is shifted towards its most significant bit, and to which the word of a generator is added
whenever a one goes out, holds remainders: the message, times a power of `X`, modulo the generator.
Messages have the same remainder if and only if the generator divides their difference.

The bytes of the message may go through the register one at a time, with a table of what eight
shifts leave of each byte.
-/

namespace Xdpd.Lib

open Polynomial

/-! ## Words as polynomials -/

section Words

variable {w : ℕ} {c d : BitVec w}

/-- The polynomial whose coefficients are the bits of a word. -/
noncomputable def toPolynomial (c : BitVec w) : (ZMod 2)[X] :=
  ∑ i ∈ Finset.range w, if c.getLsbD i then X ^ i else 0

lemma coeff_toPolynomial (c : BitVec w) (i : ℕ) :
    (toPolynomial c).coeff i = if c.getLsbD i then 1 else 0 := by
  have hterm : ∀ j, (if c.getLsbD j then (X : (ZMod 2)[X]) ^ j else 0).coeff i =
      if j = i then (if c.getLsbD i then 1 else 0) else 0 := by
    intro j
    by_cases hij : j = i
    · subst hij
      cases c.getLsbD j <;> simp
    · cases c.getLsbD j <;> simp [coeff_X_pow, Ne.symm hij, hij]
  rw [toPolynomial, finsetSum_coeff, Finset.sum_congr rfl fun j _ => hterm j,
    Finset.sum_ite_eq']
  by_cases hi : i < w
  · exact if_pos (Finset.mem_range.mpr hi)
  · rw [BitVec.getLsbD_of_ge c i (Nat.le_of_not_lt hi), if_neg Bool.false_ne_true, ite_self]

lemma toPolynomial_injective : Function.Injective (toPolynomial (w := w)) := by
  intro c d h
  refine BitVec.eq_of_getLsbD_eq fun i _ => ?_
  have hcoeff := congrArg (coeff · i) h
  simp only [coeff_toPolynomial] at hcoeff
  revert hcoeff
  cases c.getLsbD i <;> cases d.getLsbD i <;> simp

lemma toPolynomial_xor (c d : BitVec w) :
    toPolynomial (c ^^^ d) = toPolynomial c + toPolynomial d := by
  ext i
  rw [coeff_add, coeff_toPolynomial, coeff_toPolynomial, coeff_toPolynomial, BitVec.getLsbD_xor]
  cases c.getLsbD i <;> cases d.getLsbD i <;> decide

lemma toPolynomial_zero : toPolynomial (0 : BitVec w) = 0 := by
  ext i
  have hbit : (0 : BitVec w).getLsbD i = false := BitVec.getLsbD_zero
  rw [coeff_toPolynomial, hbit, if_neg Bool.false_ne_true, coeff_zero]

lemma degree_toPolynomial_lt (c : BitVec w) : (toPolynomial c).degree < w := by
  rw [degree_lt_iff_coeff_zero]
  intro i hi
  rw [coeff_toPolynomial, BitVec.getLsbD_of_ge c i hi, if_neg Bool.false_ne_true]

lemma toPolynomial_setWidth {v : ℕ} (h : ∀ i, v ≤ i → c.getLsbD i = false) :
    toPolynomial (c.setWidth v) = toPolynomial c := by
  ext i
  rw [coeff_toPolynomial, coeff_toPolynomial, BitVec.getLsbD_setWidth]
  by_cases hi : i < v
  · rw [decide_eq_true hi, Bool.true_and]
  · rw [decide_eq_false hi, Bool.false_and, h i (Nat.le_of_not_lt hi)]

/-- A shift, and what goes out. -/
lemma X_pow_mul_toPolynomial {n : ℕ} (hn : n ≤ w) (c : BitVec w) :
    X ^ n * toPolynomial c =
      toPolynomial (c <<< n) + X ^ w * toPolynomial (c >>> (w - n)) := by
  ext i
  rw [coeff_add, coeff_X_pow_mul', coeff_X_pow_mul', coeff_toPolynomial, coeff_toPolynomial,
    coeff_toPolynomial, BitVec.getLsbD_shiftLeft, BitVec.getLsbD_ushiftRight]
  by_cases hlow : i < n
  · have hle : ¬ n ≤ i := by omega
    have hle' : ¬ w ≤ i := by omega
    simp [hle, hle', hlow]
  · have hle : n ≤ i := by omega
    by_cases hi : i < w
    · have hle' : ¬ w ≤ i := by omega
      simp [hle, hle', hi, hlow]
    · have hle' : w ≤ i := by omega
      have hsum : w - n + (i - w) = i - n := by omega
      simp [hle, hle', hi, hsum]

end Words

/-! ## Remainders -/

section Remainders

variable {w : ℕ} {p : BitVec w}

/-- The generator: the word has its coefficients but for the first one, which is one. -/
noncomputable def generator (p : BitVec w) : (ZMod 2)[X] := X ^ w + toPolynomial p

lemma monic_generator (p : BitVec w) : (generator p).Monic :=
  monic_X_pow_add (degree_toPolynomial_lt p)

lemma degree_generator (p : BitVec w) : (generator p).degree = w := by
  rw [generator, degree_add_eq_left_of_degree_lt, degree_X_pow]
  rw [degree_X_pow]
  exact degree_toPolynomial_lt p

/-- A word is its own remainder. -/
lemma toPolynomial_modByMonic (c : BitVec w) :
    toPolynomial c %ₘ generator p = toPolynomial c := by
  rw [modByMonic_eq_self_iff (monic_generator p), degree_generator]
  exact degree_toPolynomial_lt c

/-- Remainders may be taken before a multiplication. -/
lemma mul_modByMonic_generator (f g : (ZMod 2)[X]) :
    (f * (g %ₘ generator p)) %ₘ generator p = (f * g) %ₘ generator p := by
  refine modByMonic_eq_of_dvd_sub (monic_generator p) ⟨-(f * (g /ₘ generator p)), ?_⟩
  linear_combination f * modByMonic_add_div g (generator p)

/-- One bit goes out of the register. -/
def codeShift (p c : BitVec w) : BitVec w :=
  if c.msb then (c <<< 1) ^^^ p else c <<< 1

/-- `n` bits go out of the register. -/
def codeShifts (p : BitVec w) : ℕ → BitVec w → BitVec w
  | 0, c => c
  | n + 1, c => codeShifts p n (codeShift p c)

lemma toPolynomial_codeShift (hw : 0 < w) (c : BitVec w) :
    toPolynomial (codeShift p c) = (X * toPolynomial c) %ₘ generator p := by
  have hout : toPolynomial (c >>> (w - 1)) = if c.msb then 1 else 0 := by
    ext i
    rw [coeff_toPolynomial, BitVec.getLsbD_ushiftRight, BitVec.msb_eq_getLsbD_last]
    by_cases hi : i = 0
    · subst hi
      rw [Nat.add_zero]
      cases c.getLsbD (w - 1) <;> simp
    · rw [BitVec.getLsbD_of_ge c _ (by omega)]
      cases c.getLsbD (w - 1) <;> simp [coeff_one, hi]
  have hshift : X * toPolynomial c =
      toPolynomial (c <<< 1) + X ^ w * toPolynomial (c >>> (w - 1)) := by
    rw [← X_pow_mul_toPolynomial hw c, pow_one]
  rw [hshift, hout, codeShift]
  split_ifs
  · -- the power of `X` that goes out leaves the rest of the generator
    have hsplit : toPolynomial (c <<< 1) + X ^ w =
        toPolynomial (c <<< 1 ^^^ p) + generator p := by
      have htwo : toPolynomial p + toPolynomial p = 0 := CharTwo.add_self_eq_zero _
      rw [toPolynomial_xor, generator]
      linear_combination -htwo
    rw [mul_one, hsplit, add_modByMonic, toPolynomial_modByMonic,
      modByMonic_self (monic_generator p), add_zero]
  · rw [mul_zero, add_zero, toPolynomial_modByMonic]

/-- **The register holds remainders.** -/
lemma toPolynomial_codeShifts (hw : 0 < w) (n : ℕ) (c : BitVec w) :
    toPolynomial (codeShifts p n c) = (X ^ n * toPolynomial c) %ₘ generator p := by
  induction n generalizing c with
  | zero => rw [codeShifts, pow_zero, one_mul, toPolynomial_modByMonic]
  | succ n ih =>
      rw [codeShifts, ih, toPolynomial_codeShift hw, mul_modByMonic_generator, pow_succ, mul_assoc]

/-! ## Messages -/

/-- The polynomial of a message, whose first byte has the highest powers. -/
noncomputable def message (data : List (BitVec 8)) : (ZMod 2)[X] :=
  data.foldl (fun f b => X ^ 8 * f + toPolynomial b) 0

lemma message_concat (data : List (BitVec 8)) (b : BitVec 8) :
    message (data ++ [b]) = X ^ 8 * message data + toPolynomial b := by
  rw [message, List.foldl_append]
  rfl

/-- A byte goes through the register: the table has what eight shifts leave of the byte that goes
out. -/
def codeByte (p c : BitVec w) (b : BitVec 8) : BitVec w :=
  (c <<< 8) ^^^
    codeShifts p 8 ((((c >>> (w - 8)).setWidth 8 ^^^ b).setWidth w) <<< (w - 8))

/-- The register after the bytes of a message. -/
def code (p : BitVec w) (data : List (BitVec 8)) : BitVec w :=
  data.foldl (codeByte p) 0

lemma toPolynomial_codeByte (hw : 8 ≤ w) (c : BitVec w) (b : BitVec 8) :
    toPolynomial (codeByte p c b) =
      (X ^ 8 * toPolynomial c + X ^ w * toPolynomial b) %ₘ generator p := by
  have hentry (i : BitVec 8) : toPolynomial (codeShifts p 8 ((i.setWidth w) <<< (w - 8))) =
      (X ^ w * toPolynomial i) %ₘ generator p := by
    have hzero : i.setWidth w >>> (w - (w - 8)) = 0 := by
      refine BitVec.eq_of_getLsbD_eq fun j _ => ?_
      rw [BitVec.getLsbD_ushiftRight, BitVec.getLsbD_setWidth, BitVec.getLsbD_of_ge i _ (by omega),
        Bool.and_false]
      exact BitVec.getLsbD_zero.symm
    have hpow : w = 8 + (w - 8) := by omega
    have hshift := X_pow_mul_toPolynomial (Nat.sub_le w 8) (i.setWidth w)
    rw [hzero, toPolynomial_zero, mul_zero, add_zero,
      toPolynomial_setWidth fun j hj => BitVec.getLsbD_of_ge i j (by omega)] at hshift
    rw [toPolynomial_codeShifts (by omega), ← hshift, ← mul_assoc, ← pow_add, ← hpow]
  have htop : toPolynomial ((c >>> (w - 8)).setWidth 8) = toPolynomial (c >>> (w - 8)) := by
    refine toPolynomial_setWidth fun i hi => ?_
    rw [BitVec.getLsbD_ushiftRight]
    exact BitVec.getLsbD_of_ge c _ (by omega)
  rw [codeByte, toPolynomial_xor, hentry, toPolynomial_xor, htop, X_pow_mul_toPolynomial hw,
    ← toPolynomial_modByMonic (p := p) (c <<< 8), ← add_modByMonic,
    toPolynomial_modByMonic (p := p) (c <<< 8)]
  ring_nf

/-- **The register after a message** holds the remainder of the message, times a power of `X`. -/
theorem toPolynomial_code (hw : 8 ≤ w) (data : List (BitVec 8)) :
    toPolynomial (code p data) = (X ^ w * message data) %ₘ generator p := by
  have hfold : ∀ (data : List (BitVec 8)) (c : BitVec w) (f : (ZMod 2)[X]),
      toPolynomial c = (X ^ w * f) %ₘ generator p →
        toPolynomial (data.foldl (codeByte p) c) =
          (X ^ w * data.foldl (fun f b => X ^ 8 * f + toPolynomial b) f) %ₘ generator p := by
    intro data
    induction data with
    | nil => exact fun c f h => h
    | cons b data ih =>
        intro c f h
        refine ih _ _ ?_
        rw [toPolynomial_codeByte hw, h, add_modByMonic, mul_modByMonic_generator, ← add_modByMonic]
        ring_nf
  refine hfold data 0 0 ?_
  rw [toPolynomial_zero, mul_zero, zero_modByMonic]

end Remainders

/-! ## Collisions -/

section Collisions

variable {w : ℕ} {p : BitVec w} {data data' : List (BitVec 8)}

lemma message_append (data data' : List (BitVec 8)) :
    message (data ++ data') = X ^ (8 * data'.length) * message data + message data' := by
  induction data' using List.reverseRecOn with
  | nil =>
      rw [List.append_nil, List.length_nil, mul_zero, pow_zero, one_mul]
      exact (add_zero _).symm
  | append_singleton data' b ih =>
      have hlength : 8 * (data' ++ [b]).length = 8 + 8 * data'.length := by
        rw [List.length_append, List.length_singleton]
        ring
      rw [← List.append_assoc, message_concat, message_concat, ih, hlength, pow_add]
      ring

lemma degree_message_lt (data : List (BitVec 8)) :
    (message data).degree < (8 * data.length : ℕ) := by
  rw [degree_lt_iff_coeff_zero]
  induction data using List.reverseRecOn with
  | nil => exact fun i _ => coeff_zero i
  | append_singleton data b ih =>
      intro i hi
      rw [List.length_append, List.length_singleton] at hi
      have hle : 8 ≤ i := by omega
      rw [message_concat, coeff_add, coeff_X_pow_mul', if_pos hle, ih _ (by omega),
        coeff_toPolynomial, BitVec.getLsbD_of_ge b i hle, if_neg Bool.false_ne_true, add_zero]

/-- A message of a known length is known from its polynomial. -/
lemma message_inj (hlength : data.length = data'.length) (h : message data = message data') :
    data = data' := by
  induction data using List.reverseRecOn generalizing data' with
  | nil => exact (List.eq_nil_of_length_eq_zero hlength.symm).symm
  | append_singleton data b ih =>
      rcases List.eq_nil_or_concat data' with rfl | ⟨data', b', rfl⟩
      · simp at hlength
      rw [List.concat_eq_append] at hlength h ⊢
      rw [message_concat, message_concat] at h
      have hcoeff (i : ℕ) (f : (ZMod 2)[X]) (c : BitVec 8) :
          (X ^ 8 * f + toPolynomial c).coeff i =
            if i < 8 then (toPolynomial c).coeff i else f.coeff (i - 8) := by
        rw [coeff_add, coeff_X_pow_mul']
        by_cases hi : i < 8
        · rw [if_pos hi, if_neg (Nat.not_le_of_lt hi), zero_add]
        · rw [if_neg hi, if_pos (Nat.le_of_not_lt hi), coeff_toPolynomial,
            BitVec.getLsbD_of_ge c i (Nat.le_of_not_lt hi), if_neg Bool.false_ne_true, add_zero]
      have hlast : b = b' := by
        refine toPolynomial_injective (ext fun i => ?_)
        by_cases hi : i < 8
        · have hi' := congrArg (coeff · i) h
          simpa only [hcoeff, if_pos hi] using hi'
        · have hzero (c : BitVec 8) : (toPolynomial c).coeff i = 0 := by
            rw [coeff_toPolynomial, BitVec.getLsbD_of_ge c i (Nat.le_of_not_lt hi),
              if_neg Bool.false_ne_true]
          rw [hzero, hzero]
      have hfirst : message data = message data' := by
        ext i
        have hi := congrArg (coeff · (i + 8)) h
        have hge : ¬ i + 8 < 8 := by omega
        simpa only [hcoeff, if_neg hge, Nat.add_sub_cancel] using hi
      rw [ih (by simpa using hlength) hfirst, hlast]

/-- A generator with a constant term has no factor `X`. -/
lemma isCoprime_generator (hw : 0 < w) (hodd : p.getLsbD 0 = true) (n : ℕ) :
    IsCoprime (generator p) (X ^ n) := by
  refine IsCoprime.pow_right ?_
  have hconstant : (generator p).coeff 0 = 1 := by
    rw [generator, coeff_add, coeff_X_pow, if_neg hw.ne, zero_add, coeff_toPolynomial, if_pos hodd]
  refine ⟨1, -(generator p).divX, ?_⟩
  have hdiv := divX_mul_X_add (generator p)
  rw [hconstant, C_1] at hdiv
  linear_combination -hdiv

/-- **Collisions**: two messages leave the same in the register if and only if the generator divides
their difference. -/
theorem code_eq_code_iff (hw : 8 ≤ w) (hodd : p.getLsbD 0 = true)
    (data data' : List (BitVec 8)) :
    code p data = code p data' ↔ generator p ∣ message data - message data' := by
  rw [← toPolynomial_injective.eq_iff, toPolynomial_code hw, toPolynomial_code hw,
    ← sub_eq_zero, ← sub_modByMonic, ← mul_sub, modByMonic_eq_zero_iff_dvd (monic_generator p)]
  constructor
  · exact (isCoprime_generator (by omega) hodd w).dvd_of_dvd_mul_left
  · exact fun h => h.mul_left _

/-- **Bursts**: messages that differ within as many bits as the register has never collide. -/
theorem code_append_inj (hw : 8 ≤ w) (hodd : p.getLsbD 0 = true) {burst burst' : List (BitVec 8)}
    (first last : List (BitVec 8)) (hlength : burst.length = burst'.length)
    (hshort : 8 * burst.length ≤ w)
    (h : code p (first ++ burst ++ last) = code p (first ++ burst' ++ last)) : burst = burst' := by
  have hdiff : message (first ++ burst ++ last) - message (first ++ burst' ++ last) =
      X ^ (8 * last.length) * (message burst - message burst') := by
    rw [message_append, message_append, message_append, message_append, hlength]
    ring
  rw [code_eq_code_iff hw hodd, hdiff] at h
  have hdvd := (isCoprime_generator (by omega) hodd _).dvd_of_dvd_mul_left h
  have hdegree : (message burst - message burst').degree < (generator p).degree := by
    rw [degree_generator]
    have hle (data : List (BitVec 8)) (hdata : 8 * data.length ≤ w) :
        (message data).degree < w :=
      (degree_message_lt data).trans_le (by exact_mod_cast hdata)
    exact (degree_sub_le _ _).trans_lt (max_lt (hle _ hshort) (hle _ (hlength ▸ hshort)))
  refine message_inj hlength (sub_eq_zero.mp ?_)
  by_contra hne
  exact (monic_generator p).not_dvd_of_degree_lt hne hdegree hdvd

end Collisions

end Xdpd.Lib
