import Mathlib.Algebra.Order.Group.Nat
import Mathlib.Tactic.Common

/-!
# Ring indices

A position in an unbounded sequence is stored in a ring of `n` slots at its remainder modulo `n`.
Positions that are less than `n` apart have different slots, so the slot determines the position
inside any window of length `n`.
-/

namespace Xdpd.Lib

variable {a b n : ℕ}

/-- Inside a window of `n` positions the slot determines the position. -/
lemma eq_of_mod_eq_of_lt_add (h : a % n = b % n) (hab : a ≤ b) (hb : b < a + n) : a = b := by
  have hdvd : (b - a) % n = 0 := Nat.sub_mod_eq_zero_of_mod_eq h.symm
  have hlt : b - a < n := by omega
  rw [Nat.mod_eq_of_lt hlt] at hdvd
  omega

/-- Two different positions inside a window of `n` have different slots. -/
lemma mod_ne_mod_of_lt (hab : a < b) (hb : b < a + n) : a % n ≠ b % n := fun h =>
  absurd (eq_of_mod_eq_of_lt_add h hab.le hb) hab.ne

/-- The slot after that of `a` is that of `a + 1`: the increment with wrap-around. -/
lemma mod_succ_eq_ite (hn : 0 < n) :
    (a + 1) % n = if n = a % n + 1 then 0 else a % n + 1 := by
  have hlt : a % n < n := Nat.mod_lt a hn
  have hsucc : (a + 1) % n = (a % n + 1) % n := by rw [Nat.mod_add_mod]
  rw [hsucc]
  split_ifs with h
  · rw [← h, Nat.mod_self]
  · exact Nat.mod_eq_of_lt (by omega)

/-- For a power of two, masking with `n - 1` is the remainder modulo `n`. -/
lemma and_sub_one_eq_mod (hn : n.isPowerOfTwo) (x : ℕ) : x &&& (n - 1) = x % n := by
  obtain ⟨k, rfl⟩ := hn
  exact Nat.and_two_pow_sub_one_eq_mod x k

end Xdpd.Lib
