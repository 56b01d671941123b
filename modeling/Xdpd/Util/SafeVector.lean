import Mathlib.Data.List.Infix
import Mathlib.Data.List.Nodup
import Mathlib.Tactic.Common

/-!
# The vector of `safevector.h`

`safevector<T>` wraps a `std::vector` with a lock; its content is a list here.  Only the removal of
an element is more than one operation of the vector.
-/

namespace Xdpd.Util

variable {α : Type*} [DecidableEq α]

/-- `erase(const T& elem)`: a loop over the indices that removes the entries equal to `elem`.  After
a removal the index still moves on, past the entry that took the place of the removed one. -/
def SafeVector.erase (elem : α) : List α → List α
  | [] => []
  | x :: vec =>
      if x = elem then
        match vec with
        | [] => []
        | y :: vec => y :: erase elem vec
      else x :: erase elem vec

/-- Without duplicates, the loop removes the element. -/
lemma SafeVector.erase_eq {elem : α} {vec : List α} (hvec : vec.Nodup) :
    SafeVector.erase elem vec = vec.erase elem := by
  fun_induction SafeVector.erase elem vec with
  | case1 => rfl
  | case2 => simp
  | case3 y vec ih =>
      have hnotin : elem ∉ y :: vec := (List.nodup_cons.mp hvec).1
      have hnodup : vec.Nodup := (List.nodup_cons.mp (List.nodup_cons.mp hvec).2).2
      have hvec' : elem ∉ vec := fun h => hnotin (List.mem_cons_of_mem y h)
      rw [ih hnodup, List.erase_of_not_mem hvec', List.erase_cons_head]
  | case4 x vec hne ih =>
      rw [ih (List.nodup_cons.mp hvec).2, List.erase_cons_tail (by simpa using hne)]

/-! ## The loop over the indices -/

/-- `erase(int j)` -/
def SafeVector.eraseAt (j : ℕ) (vec : List α) : List α :=
  vec.eraseIdx j

/-- `for(unsigned int i=0; i < size(); ++i) if( vec[i] == elem ) erase(i);` from the turn of `i` on.
The size is read anew in every turn, so that a removal also ends the loop one entry earlier. -/
def SafeVector.eraseLoop (elem : α) (vec : List α) (i : ℕ) : List α :=
  if h : i < vec.length then
    if vec[i] = elem then eraseLoop elem (SafeVector.eraseAt i vec) (i + 1)
    else eraseLoop elem vec (i + 1)
  else vec
termination_by vec.length - i
decreasing_by
  · rw [SafeVector.eraseAt, List.length_eraseIdx_of_lt h]
    omega
  · omega

/-- `void erase(const T& elem)`: what it returns, and the vector it leaves. -/
def SafeVector.eraseElem (elem : α) (vec : List α) : Unit × List α :=
  ((), SafeVector.eraseLoop elem vec 0)

/-- The entries before the index stay; from it on the loop is `SafeVector.erase`. -/
lemma SafeVector.eraseLoop_eq (elem : α) (vec : List α) (i : ℕ) :
    SafeVector.eraseLoop elem vec i = vec.take i ++ SafeVector.erase elem (vec.drop i) := by
  fun_induction SafeVector.eraseLoop elem vec i with
  | case1 vec i hi heq ih =>
      have htake : (vec.take i).length = i := List.length_take_of_le hi.le
      have herased : SafeVector.eraseAt i vec = vec.take i ++ vec.drop (i + 1) :=
        List.eraseIdx_eq_take_drop_succ vec i
      rw [ih, herased, List.drop_eq_getElem_cons hi, heq, List.take_append, List.drop_append,
        htake, Nat.add_sub_cancel_left, List.take_of_length_le (htake.trans_le i.le_succ),
        List.drop_of_length_le (htake.trans_le i.le_succ), List.nil_append]
      -- The entry after the removed one is passed over.
      rcases vec.drop (i + 1) with _ | ⟨y, rest⟩
      · simp [SafeVector.erase]
      · simp [SafeVector.erase]
  | case2 vec i hi hne ih =>
      have hdrop : SafeVector.erase elem (vec.drop i) =
          vec[i] :: SafeVector.erase elem (vec.drop (i + 1)) := by
        rw [List.drop_eq_getElem_cons hi, SafeVector.erase.eq_def]
        exact if_neg hne
      rw [ih, hdrop, List.take_succ_eq_append_getElem hi, List.append_assoc,
        List.singleton_append]
  | case3 vec i hi =>
      have hlen : vec.length ≤ i := Nat.le_of_not_lt hi
      rw [List.take_of_length_le hlen, List.drop_of_length_le hlen, SafeVector.erase,
        List.append_nil]

lemma SafeVector.eraseElem_snd (elem : α) (vec : List α) :
    (SafeVector.eraseElem elem vec).2 = SafeVector.erase elem vec := by
  rw [SafeVector.eraseElem, SafeVector.eraseLoop_eq, List.take_zero, List.drop_zero,
    List.nil_append]

/-- The entries other than `elem` all stay, in their order. -/
lemma SafeVector.filter_erase (elem : α) (vec : List α) :
    (SafeVector.erase elem vec).filter (· ≠ elem) = vec.filter (· ≠ elem) := by
  fun_induction SafeVector.erase elem vec with
  | case1 => rfl
  | case2 => simp
  | case3 y vec ih =>
      rw [List.filter_cons, ih, List.filter_cons_of_neg (by simp), List.filter_cons]
  | case4 x vec hne ih =>
      rw [List.filter_cons, ih, List.filter_cons]

lemma SafeVector.erase_of_notMem {elem : α} {vec : List α} (hvec : elem ∉ vec) :
    SafeVector.erase elem vec = vec := by
  induction vec with
  | nil => rfl
  | cons x vec ih =>
      obtain ⟨hne, hnotin⟩ : elem ≠ x ∧ elem ∉ vec := by simpa using hvec
      rw [SafeVector.erase.eq_def]
      simp only [if_neg (Ne.symm hne), ih hnotin]

/-- An occurrence is left behind exactly where two of them were adjacent: of such a pair the loop
removes the first, and the second slides under the index. -/
lemma SafeVector.mem_erase_iff (elem : α) (vec : List α) :
    elem ∈ SafeVector.erase elem vec ↔ [elem, elem] <:+: vec := by
  fun_induction SafeVector.erase elem vec with
  | case1 => simp
  | case2 => simp [List.infix_cons_iff]
  | case3 y vec ih =>
      by_cases hy : y = elem
      · subst hy
        exact iff_of_true List.mem_cons_self ⟨[], vec, rfl⟩
      · rw [List.mem_cons, ih, List.infix_cons_iff, List.infix_cons_iff, List.cons_prefix_cons,
          List.cons_prefix_cons, List.cons_prefix_cons]
        simp [Ne.symm hy]
  | case4 x vec hne ih =>
      rw [List.mem_cons, ih, List.infix_cons_iff, List.cons_prefix_cons]
      simp [Ne.symm hne]

/-- Where no two occurrences of `elem` are adjacent, none is left; in every vector the other
entries stay in their order, and a vector without `elem` stays as it is. -/
theorem SafeVector.eraseElem_spec (elem : α) (vec : List α) :
    (SafeVector.eraseElem elem vec).2.filter (· ≠ elem) = vec.filter (· ≠ elem) ∧
      (¬ [elem, elem] <:+: vec → elem ∉ (SafeVector.eraseElem elem vec).2) ∧
      (elem ∉ vec → (SafeVector.eraseElem elem vec).2 = vec) := by
  rw [SafeVector.eraseElem_snd]
  refine ⟨SafeVector.filter_erase elem vec, ?_, SafeVector.erase_of_notMem⟩
  intro hpair hmem
  exact hpair ((SafeVector.mem_erase_iff elem vec).mp hmem)

/-- Of two adjacent occurrences one is left, and what the call returns is the same for a vector
with the element and for one without it. -/
theorem SafeVector.eraseElem_adjacent :
    1 ∈ (SafeVector.eraseElem 1 [1, 1]).2 ∧
      ¬ ∃ notFound : Unit → Prop,
        notFound (SafeVector.eraseElem 1 [2]).1 ∧ ¬ notFound (SafeVector.eraseElem 1 [1]).1 := by
  constructor
  · rw [SafeVector.eraseElem_snd]
    decide
  · rintro ⟨notFound, habsent, hpresent⟩
    exact hpresent habsent

end Xdpd.Util
