import Mathlib.Algebra.BigOperators.Group.List.Basic
import Mathlib.Data.Nat.ModEq
import Mathlib.Tactic.Ring

/-!
# One's-complement sums

Words in the radix `B` are added up and the carries are added back in at the low end until one word
is left.  What is left depends only on the sum modulo `B - 1`, and on whether it is zero: `IsFold`.
When the radix is a square, that is when a word has two halves, swapping the halves of all words
swaps those of the folded sum.
-/

namespace Xdpd.Lib

variable {B H : ℕ}

/-- The carries of a sum are added back in at the low end. -/
def endAround (B x : ℕ) : ℕ := x % B + x / B

/-- The radix is one modulo itself less one. -/
lemma one_modEq (hB : 1 < B) : 1 ≡ B [MOD B - 1] := by
  have hsplit : B = 1 + (B - 1) := by omega
  calc 1 ≡ 1 + (B - 1) [MOD B - 1] := (Nat.add_modEq_right).symm
    _ = B := hsplit.symm

lemma endAround_modEq (hB : 1 < B) (x : ℕ) : endAround B x ≡ x [MOD B - 1] := by
  calc endAround B x = x % B + 1 * (x / B) := by rw [endAround, one_mul]
    _ ≡ x % B + B * (x / B) [MOD B - 1] := ((one_modEq hB).mul_right _).add_left _
    _ = x := Nat.mod_add_div x B

lemma endAround_eq_zero_iff (x : ℕ) : endAround B x = 0 ↔ x = 0 := by
  constructor
  · intro h
    obtain ⟨hmod, hdiv⟩ := Nat.add_eq_zero_iff.1 h
    rw [← Nat.mod_add_div x B, hmod, hdiv, Nat.mul_zero]
  · rintro rfl
    rw [endAround, Nat.zero_mod, Nat.zero_div]

/-- Adding the carries back in makes a sum of more than one word smaller. -/
lemma endAround_lt (hB : 1 < B) {x : ℕ} (hx : B ≤ x) : endAround B x < x := by
  have hdiv : 0 < x / B := Nat.div_pos hx (by omega)
  calc endAround B x < x % B + B * (x / B) :=
        Nat.add_lt_add_left (lt_mul_of_one_lt_left hdiv hB) _
    _ = x := Nat.mod_add_div x B

/-- The word `f` is what is left of the sum `s`. -/
structure IsFold (B s f : ℕ) : Prop where
  lt : f < B
  modEq : f ≡ s [MOD B - 1]
  eq_zero_iff : f = 0 ↔ s = 0

lemma IsFold.of_lt {s : ℕ} (hs : s < B) : IsFold B s s :=
  ⟨hs, rfl, Iff.rfl⟩

/-- Adding the carries back in does not change what is left. -/
lemma IsFold.of_endAround (hB : 1 < B) {s f : ℕ} (h : IsFold B (endAround B s) f) :
    IsFold B s f :=
  ⟨h.lt, h.modEq.trans (endAround_modEq hB s), h.eq_zero_iff.trans (endAround_eq_zero_iff s)⟩

/-- Sums that agree modulo `B - 1` and in being zero leave the same word. -/
lemma IsFold.unique {s s' f f' : ℕ} (h : IsFold B s f) (h' : IsFold B s' f')
    (hmod : s ≡ s' [MOD B - 1]) (hzero : s = 0 ↔ s' = 0) : f = f' := by
  have hff : f ≡ f' [MOD B - 1] := h.modEq.trans (hmod.trans h'.modEq.symm)
  have hiff : f = 0 ↔ f' = 0 := h.eq_zero_iff.trans (hzero.trans h'.eq_zero_iff.symm)
  by_cases hf : f = 0
  · rw [hf, hiff.1 hf]
  · -- both are between 1 and `B - 1`
    have hf' : f' ≠ 0 := fun h0 => hf (hiff.2 h0)
    have hlt := h.lt
    have hlt' := h'.lt
    have hpred : (f - 1) ≡ (f' - 1) [MOD B - 1] := by
      refine Nat.ModEq.add_right_cancel' 1 ?_
      rwa [Nat.sub_add_cancel (Nat.pos_of_ne_zero hf), Nat.sub_add_cancel (Nat.pos_of_ne_zero hf')]
    have heq : f - 1 = f' - 1 := hpred.eq_of_lt_of_lt (by omega) (by omega)
    omega

/-! ## Sums of ones -/

/-- Nothing but ones is left of the sum. -/
def AllOnes (B s : ℕ) : Prop :=
  s ≠ 0 ∧ B - 1 ∣ s

lemma IsFold.eq_pred_iff (hB : 1 < B) {s f : ℕ} (h : IsFold B s f) : f = B - 1 ↔ AllOnes B s := by
  have hdvd : B - 1 ∣ f ↔ B - 1 ∣ s := h.modEq.dvd_iff (dvd_refl _)
  constructor
  · rintro rfl
    exact ⟨fun hs => absurd (h.eq_zero_iff.2 hs) (by omega), hdvd.1 (dvd_refl _)⟩
  · rintro ⟨hs, hmod⟩
    have hpos : f ≠ 0 := fun hf => hs (h.eq_zero_iff.1 hf)
    have hle : B - 1 ≤ f := Nat.le_of_dvd (Nat.pos_of_ne_zero hpos) (hdvd.2 hmod)
    have hlt := h.lt
    omega

/-- A complement makes up for what agrees with its word. -/
lemma pred_dvd_add_sub_iff {t f : ℕ} (hf : f ≤ B - 1) :
    B - 1 ∣ t + (B - 1 - f) ↔ t ≡ f [MOD B - 1] := by
  have hsum : f + (B - 1 - f) ≡ 0 [MOD B - 1] := by
    rw [Nat.add_sub_cancel' hf]
    exact Nat.modEq_zero_iff_dvd.2 (dvd_refl _)
  rw [← Nat.modEq_zero_iff_dvd]
  constructor
  · intro h
    exact Nat.ModEq.add_right_cancel' _ (h.trans hsum.symm)
  · intro h
    exact (h.add_right _).trans hsum

/-- The complement of what is left of a sum makes up for another sum if and only if the two sums
agree, unless only the second one is zero. -/
lemma IsFold.allOnes_add_iff (hB : 1 < B) {s t f : ℕ} (h : IsFold B s f) :
    AllOnes B (t + (B - 1 - f)) ↔ t ≡ s [MOD B - 1] ∧ (t = 0 → s = 0) := by
  have hlt := h.lt
  have hmod : t ≡ f [MOD B - 1] ↔ t ≡ s [MOD B - 1] :=
    ⟨fun ht => ht.trans h.modEq, fun ht => ht.trans h.modEq.symm⟩
  rw [AllOnes, pred_dvd_add_sub_iff (by omega), hmod, and_comm]
  refine and_congr_right fun hts => ?_
  constructor
  · intro hne ht
    -- the complement is not zero, and what is left is zero modulo `B - 1`
    have hdvd : B - 1 ∣ f := Nat.modEq_zero_iff_dvd.1 ((hmod.2 hts).symm.trans (by rw [ht]))
    have hf : f < B - 1 := by omega
    exact h.eq_zero_iff.1 (Nat.eq_zero_of_dvd_of_lt hdvd hf)
  · intro hzero hsum
    have hf := h.eq_zero_iff.2 (hzero (by omega))
    omega

/-- With the complement of what is left of it, a sum leaves nothing but ones. -/
lemma IsFold.allOnes_add (hB : 1 < B) {s f : ℕ} (h : IsFold B s f) :
    AllOnes B (s + (B - 1 - f)) :=
  (h.allOnes_add_iff hB).2 ⟨rfl, id⟩

/-- The complement of a sum of words: a word with which nothing but ones is left of it.  That is the
word of ones only if the sum is zero. -/
def Complements (B s c : ℕ) : Prop :=
  AllOnes B (s + c) ∧ (c = B - 1 → s = 0)

/-- The complement is that of what is left of the sum. -/
lemma IsFold.complements_iff (hB : 1 < B) {s f c : ℕ} (h : IsFold B s f) (hc : c < B) :
    Complements B s c ↔ c = B - 1 - f := by
  have hlt := h.lt
  have hsum : B - 1 ∣ s + (B - 1 - f) := (pred_dvd_add_sub_iff (by omega)).2 h.modEq.symm
  constructor
  · rintro ⟨⟨hne, hdvd⟩, hones⟩
    have hmod : c ≡ B - 1 - f [MOD B - 1] :=
      Nat.ModEq.add_left_cancel' s
        ((Nat.modEq_zero_iff_dvd.2 hdvd).trans (Nat.modEq_zero_iff_dvd.2 hsum).symm)
    by_cases hlast : c = B - 1
    · have hf := h.eq_zero_iff.2 (hones hlast)
      omega
    · by_cases hf : f = 0
      · -- the sum is zero, and so is the word
        rw [hf, Nat.sub_zero] at hmod
        have hzero : c ≡ 0 [MOD B - 1] := hmod.trans (Nat.modEq_zero_iff_dvd.2 (dvd_refl _))
        have hc0 := hzero.eq_of_lt_of_lt (by omega) (by omega)
        have hs := h.eq_zero_iff.1 hf
        omega
      · exact hmod.eq_of_lt_of_lt (by omega) (by omega)
  · rintro rfl
    refine ⟨h.allOnes_add hB, fun hlast => h.eq_zero_iff.1 ?_⟩
    omega

/-- When the carries are added back in only once, and what is left is cut to a word, the complement
makes up for the sums that agree when the carry that was cut off is added to them. -/
lemma allOnes_add_once_iff (hB : 1 < B) (s t : ℕ) :
    AllOnes B (t + (B - 1 - endAround B s % B)) ↔
      t + endAround B s / B ≡ s [MOD B - 1] ∧ (t = 0 → endAround B s % B ≠ B - 1) := by
  have hlt : endAround B s % B < B := Nat.mod_lt _ (by omega)
  have hsplit : endAround B s % B + endAround B s / B ≡ s [MOD B - 1] :=
    calc endAround B s % B + endAround B s / B
        = endAround B (endAround B s) := rfl
      _ ≡ endAround B s [MOD B - 1] := endAround_modEq hB _
      _ ≡ s [MOD B - 1] := endAround_modEq hB s
  rw [AllOnes, pred_dvd_add_sub_iff (by omega), and_comm]
  refine and_congr ⟨fun h => (h.add_right _).trans hsplit, fun h => ?_⟩ ?_
  · exact Nat.ModEq.add_right_cancel' _ (h.trans hsplit.symm)
  · omega

/-- The same for the sum itself, and for a rest that was not added. -/
lemma allOnes_add_once (hB : 1 < B) (s rest : ℕ) :
    AllOnes B (s + (B - 1 - endAround B s % B) + rest) ↔ B - 1 ∣ endAround B s / B + rest := by
  have hzero : s + rest = 0 → endAround B s % B ≠ B - 1 := by
    intro h
    have hs : s = 0 := by omega
    rw [(endAround_eq_zero_iff s).2 hs, Nat.zero_mod]
    omega
  rw [Nat.add_right_comm, allOnes_add_once_iff hB, and_iff_left hzero, ← Nat.modEq_zero_iff_dvd,
    Nat.add_assoc, Nat.add_comm rest]
  exact ⟨fun h => Nat.ModEq.add_left_cancel' s h, fun h => h.add_left s⟩

/-! ## Words of two halves -/

/-- The word with its two halves in the opposite order. -/
def swapHalves (H w : ℕ) : ℕ := w % H * H + w / H

lemma swapHalves_lt {w : ℕ} (hw : w < H * H) : swapHalves H w < H * H := by
  have hH : 0 < H := Nat.pos_of_mul_pos_right (Nat.zero_lt_of_lt hw)
  have hlow : w % H < H := Nat.mod_lt w hH
  have hhigh : w / H < H := Nat.div_lt_of_lt_mul hw
  calc swapHalves H w < w % H * H + H := Nat.add_lt_add_left hhigh _
    _ = (w % H + 1) * H := by ring
    _ ≤ H * H := Nat.mul_le_mul_right H hlow

/-- Swapping the halves is multiplication by the radix of the halves. -/
lemma swapHalves_modEq (hH : 1 < H) (w : ℕ) : swapHalves H w ≡ H * w [MOD H * H - 1] := by
  have hB : 1 < H * H := one_lt_mul'' hH hH
  calc swapHalves H w = w % H * H + 1 * (w / H) := by rw [swapHalves, one_mul]
    _ ≡ w % H * H + H * H * (w / H) [MOD H * H - 1] := ((one_modEq hB).mul_right _).add_left _
    _ = H * (w % H + H * (w / H)) := by ring
    _ = H * w := by rw [Nat.mod_add_div]

lemma swapHalves_eq_zero_iff (hH : 0 < H) (w : ℕ) : swapHalves H w = 0 ↔ w = 0 := by
  constructor
  · intro h
    obtain ⟨hlow, hhigh⟩ := Nat.add_eq_zero_iff.1 h
    have hmod : w % H = 0 := (Nat.mul_eq_zero.1 hlow).resolve_right hH.ne'
    rw [← Nat.mod_add_div w H, hmod, hhigh, Nat.mul_zero]
  · rintro rfl
    rw [swapHalves, Nat.zero_mod, Nat.zero_div, Nat.zero_mul]

/-- Swapping the halves of all words multiplies their sum, modulo the radix less one. -/
lemma sum_map_swapHalves_modEq (hH : 1 < H) (ws : List ℕ) :
    (ws.map (swapHalves H)).sum ≡ H * ws.sum [MOD H * H - 1] := by
  induction ws with
  | nil => rfl
  | cons w ws ih =>
      rw [List.map_cons, List.sum_cons, List.sum_cons, Nat.mul_add]
      exact (swapHalves_modEq hH w).add ih

lemma sum_map_swapHalves_eq_zero_iff (hH : 0 < H) (ws : List ℕ) :
    (ws.map (swapHalves H)).sum = 0 ↔ ws.sum = 0 := by
  induction ws with
  | nil => rfl
  | cons w ws ih =>
      rw [List.map_cons, List.sum_cons, List.sum_cons, Nat.add_eq_zero_iff, Nat.add_eq_zero_iff, ih,
        swapHalves_eq_zero_iff hH]

/-- Whether only ones are left does not depend on the order of the halves. -/
lemma allOnes_map_swapHalves (hH : 1 < H) (ws : List ℕ) :
    AllOnes (H * H) (ws.map (swapHalves H)).sum ↔ AllOnes (H * H) ws.sum := by
  have hB : 1 < H * H := one_lt_mul'' hH hH
  have hcoprime : (H * H - 1).Coprime H := by
    have hgcd : (H * H - 1).gcd H ∣ 1 := by
      have hself := (Nat.gcd_dvd_right (H * H - 1) H).mul_right H
      have hpred := Nat.gcd_dvd_left (H * H - 1) H
      have hsub := Nat.dvd_sub hself hpred
      rwa [Nat.sub_sub_self hB.le] at hsub
    exact Nat.dvd_one.1 hgcd
  rw [AllOnes, AllOnes, Ne, sum_map_swapHalves_eq_zero_iff (by omega),
    (sum_map_swapHalves_modEq hH ws).dvd_iff (dvd_refl _), hcoprime.dvd_mul_left]

/-- **Byte order independence.**  When the halves of all words are swapped, the halves of what is
left of their sum are. -/
theorem IsFold.map_swapHalves (hH : 1 < H) {ws : List ℕ} {f f' : ℕ} (h : IsFold (H * H) ws.sum f)
    (h' : IsFold (H * H) (ws.map (swapHalves H)).sum f') : f' = swapHalves H f := by
  have hpos : 0 < H := by omega
  have hswap : IsFold (H * H) (swapHalves H f) (swapHalves H f) :=
    .of_lt (swapHalves_lt h.lt)
  refine h'.unique hswap ?_ ?_
  · calc (ws.map (swapHalves H)).sum ≡ H * ws.sum [MOD H * H - 1] :=
          sum_map_swapHalves_modEq hH ws
      _ ≡ H * f [MOD H * H - 1] := (h.modEq.mul_left H).symm
      _ ≡ swapHalves H f [MOD H * H - 1] := (swapHalves_modEq hH f).symm
  · rw [sum_map_swapHalves_eq_zero_iff hpos, swapHalves_eq_zero_iff hpos, h.eq_zero_iff]

end Xdpd.Lib
