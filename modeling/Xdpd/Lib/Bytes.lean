import Mathlib.Tactic.Ring
import Mathlib.Tactic.Common

/-!
# Words as bytes

A word whose width is a whole number of bytes is taken apart into bytes, and put together from
them, in little-endian and in network (big-endian) order.
-/

namespace Xdpd.Lib

/-- A byte. -/
abbrev Byte := BitVec 8

/-- The bytes of a word, least significant first; zero beyond its width. -/
def leBytes {w : ℕ} (v : BitVec w) (i : ℕ) : Byte :=
  v.extractLsb' (8 * i) 8

/-- The word whose bytes, least significant first, are the first `n` of `b`. -/
def ofLeBytes : (n : ℕ) → (ℕ → Byte) → BitVec (8 * n)
  | 0, _ => 0
  | n + 1, b => (b n ++ ofLeBytes n b).cast (by ring)

/-- The `n` bytes of `b` in the opposite order. -/
def swapBytes (n : ℕ) (b : ℕ → Byte) (i : ℕ) : Byte :=
  b (n - 1 - i)

/-- The bytes of a word of `n` bytes in network order. -/
def beBytes {n : ℕ} (v : BitVec (8 * n)) : ℕ → Byte :=
  swapBytes n (leBytes v)

/-- The word whose bytes in network order are the first `n` of `b`. -/
def ofBeBytes (n : ℕ) (b : ℕ → Byte) : BitVec (8 * n) :=
  ofLeBytes n (swapBytes n b)

lemma getLsbD_ofLeBytes (n : ℕ) (b : ℕ → Byte) (i : ℕ) (hi : i < 8 * n) :
    (ofLeBytes n b).getLsbD i = (b (i / 8)).getLsbD (i % 8) := by
  induction n with
  | zero => omega
  | succ n ih =>
      rw [ofLeBytes, BitVec.getLsbD_cast, BitVec.getLsbD_append]
      by_cases hlow : i < 8 * n
      · rw [if_pos hlow, ih hlow]
      · have hdiv : i / 8 = n := by omega
        have hmod : i % 8 = i - 8 * n := by omega
        rw [if_neg hlow, hdiv, hmod]

/-- Only the first `n` bytes matter. -/
lemma ofLeBytes_congr {n : ℕ} {b b' : ℕ → Byte} (h : ∀ i < n, b i = b' i) :
    ofLeBytes n b = ofLeBytes n b' := by
  refine BitVec.eq_of_getLsbD_eq fun i hi => ?_
  rw [getLsbD_ofLeBytes n b i hi, getLsbD_ofLeBytes n b' i hi, h _ (by omega)]

/-- The word put together from the low bytes of a word is that word, cut to their width. -/
lemma ofLeBytes_leBytes {w : ℕ} (n : ℕ) (v : BitVec w) :
    ofLeBytes n (leBytes v) = v.setWidth (8 * n) := by
  refine BitVec.eq_of_getLsbD_eq fun i hi => ?_
  have hdiv : 8 * (i / 8) + i % 8 = i := Nat.div_add_mod i 8
  have hmod : i % 8 < 8 := Nat.mod_lt i (by decide)
  rw [getLsbD_ofLeBytes n _ i hi, leBytes, BitVec.getLsbD_extractLsb', hdiv,
    BitVec.getLsbD_setWidth]
  simp [hi, hmod]

/-- The bytes of a word are those that it is put together from. -/
lemma leBytes_ofLeBytes {n i : ℕ} (b : ℕ → Byte) (hi : i < n) :
    leBytes (ofLeBytes n b) i = b i := by
  refine BitVec.eq_of_getLsbD_eq fun j hj => ?_
  have hdiv : (8 * i + j) / 8 = i := by omega
  have hmod : (8 * i + j) % 8 = j := by omega
  rw [leBytes, BitVec.getLsbD_extractLsb', getLsbD_ofLeBytes n b _ (by omega), hdiv, hmod,
    decide_eq_true hj, Bool.true_and]

lemma swapBytes_swapBytes {n i : ℕ} (b : ℕ → Byte) (hi : i < n) :
    swapBytes n (swapBytes n b) i = b i := by
  have hback : n - 1 - (n - 1 - i) = i := by omega
  rw [swapBytes, swapBytes, hback]

end Xdpd.Lib
