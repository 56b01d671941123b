import Mathlib.Logic.Function.Basic
import Mathlib.Data.List.Basic

/-!
# Masked writes

A memory has words in its cells.  A masked write changes some bits of one cell: what they become may
depend on what they are, and the other bits stay.  Two masked writes whose bits are apart commute,
and neither is seen in the bits of the other one.
-/

namespace Xdpd.Lib

/-- The masked bits of a cell become those of `value`. -/
structure MaskedWrite (ι : Type*) (w : ℕ) where
  cell : ι
  mask : BitVec w
  value : BitVec w → BitVec w

namespace MaskedWrite

variable {ι : Type*} {w : ℕ} {k k' : MaskedWrite ι w} {ks ks' : List (MaskedWrite ι w)} {cell : ι}
  {mask : BitVec w}

/-- The bits of a cell are apart from those that are written. -/
def Spares (k : MaskedWrite ι w) (cell : ι) (mask : BitVec w) : Prop :=
  k.cell ≠ cell ∨ k.mask &&& mask = 0

/-- The bits that are written are apart. -/
def Apart (k k' : MaskedWrite ι w) : Prop :=
  k.Spares k'.cell k'.mask

lemma Apart.symm (h : k.Apart k') : k'.Apart k := by
  rcases h with h | h
  · exact .inl (Ne.symm h)
  · exact .inr (by rw [BitVec.and_comm, h])

section Run

variable [DecidableEq ι]

def run (k : MaskedWrite ι w) (mem : ι → BitVec w) : ι → BitVec w :=
  Function.update mem k.cell
    ((k.value (mem k.cell &&& k.mask) &&& k.mask) ||| (mem k.cell &&& ~~~ k.mask))

/-- One write after the other. -/
def runAll (ks : List (MaskedWrite ι w)) (mem : ι → BitVec w) : ι → BitVec w :=
  ks.foldl (fun mem k => k.run mem) mem

/-- A bit is one of those that are written, or stays. -/
lemma getLsbD_run (k : MaskedWrite ι w) (mem : ι → BitVec w) (cell : ι) (i : ℕ) :
    (k.run mem cell).getLsbD i =
      if cell = k.cell ∧ k.mask.getLsbD i = true then
        (k.value (mem cell &&& k.mask)).getLsbD i
      else (mem cell).getLsbD i := by
  by_cases hcell : cell = k.cell
  · subst hcell
    rw [run, Function.update_self, BitVec.getLsbD_or, BitVec.getLsbD_and, BitVec.getLsbD_and,
      BitVec.getLsbD_not]
    by_cases hi : i < w
    · cases hmask : k.mask.getLsbD i <;> simp [hi]
    · have hmask := BitVec.getLsbD_of_ge k.mask i (Nat.le_of_not_lt hi)
      have hmem := BitVec.getLsbD_of_ge (mem k.cell) i (Nat.le_of_not_lt hi)
      simp [hmask, hmem]
  · rw [run, Function.update_of_ne hcell, if_neg fun h => hcell h.1]

/-- The bits that are written. -/
lemma run_and_mask (k : MaskedWrite ι w) (mem : ι → BitVec w) :
    k.run mem k.cell &&& k.mask = k.value (mem k.cell &&& k.mask) &&& k.mask := by
  refine BitVec.eq_of_getLsbD_eq fun i _ => ?_
  rw [BitVec.getLsbD_and, BitVec.getLsbD_and, getLsbD_run]
  cases k.mask.getLsbD i <;> simp

/-- What is apart from a write does not see it. -/
lemma Spares.run_and (h : k.Spares cell mask) (mem : ι → BitVec w) :
    k.run mem cell &&& mask = mem cell &&& mask := by
  refine BitVec.eq_of_getLsbD_eq fun i _ => ?_
  rw [BitVec.getLsbD_and, BitVec.getLsbD_and, getLsbD_run]
  rcases h with h | h
  · rw [if_neg fun hcell => h hcell.1.symm]
  · have hbit : (k.mask &&& mask).getLsbD i = false := by
      rw [h]
      exact BitVec.getLsbD_zero
    rw [BitVec.getLsbD_and] at hbit
    cases hmask : k.mask.getLsbD i with
    | false => simp
    | true =>
        rw [hmask, Bool.true_and] at hbit
        rw [hbit, Bool.and_false, Bool.and_false]

/-- **Writes that are apart commute.** -/
theorem Apart.run_comm (h : k.Apart k') (mem : ι → BitVec w) :
    k.run (k'.run mem) = k'.run (k.run mem) := by
  refine funext fun cell => BitVec.eq_of_getLsbD_eq fun i _ => ?_
  have hk : cell = k.cell → k'.run mem cell &&& k.mask = mem cell &&& k.mask := by
    rintro rfl
    exact h.symm.run_and mem
  have hk' : cell = k'.cell → k.run mem cell &&& k'.mask = mem cell &&& k'.mask := by
    rintro rfl
    exact h.run_and mem
  rw [getLsbD_run, getLsbD_run k', getLsbD_run k', getLsbD_run k]
  by_cases hin : cell = k.cell ∧ k.mask.getLsbD i = true
  · by_cases hin' : cell = k'.cell ∧ k'.mask.getLsbD i = true
    · -- then the bit belongs to both
      exfalso
      rcases h with hne | hzero
      · exact hne (hin.1.symm.trans hin'.1)
      · have hbit : (k.mask &&& k'.mask).getLsbD i = true := by
          rw [BitVec.getLsbD_and, hin.2, hin'.2, Bool.true_and]
        rw [hzero] at hbit
        exact Bool.false_ne_true (BitVec.getLsbD_zero.symm.trans hbit)
    · rw [if_pos hin, if_neg hin', if_pos hin, hk hin.1]
  · by_cases hin' : cell = k'.cell ∧ k'.mask.getLsbD i = true
    · rw [if_neg hin, if_pos hin', if_pos hin', hk' hin'.1]
    · rw [if_neg hin, if_neg hin', if_neg hin', if_neg hin]

lemma runAll_cons (k : MaskedWrite ι w) (ks : List (MaskedWrite ι w)) (mem : ι → BitVec w) :
    runAll (k :: ks) mem = runAll ks (k.run mem) :=
  rfl

lemma runAll_append (ks ks' : List (MaskedWrite ι w)) (mem : ι → BitVec w) :
    runAll (ks ++ ks') mem = runAll ks' (runAll ks mem) :=
  List.foldl_append

/-- A cell that is not written stays. -/
lemma runAll_of_not_mem (h : ∀ k ∈ ks, k.cell ≠ cell) (mem : ι → BitVec w) :
    runAll ks mem cell = mem cell := by
  induction ks generalizing mem with
  | nil => rfl
  | cons k ks ih =>
      rw [runAll_cons, ih fun k' hk' => h k' (List.mem_cons_of_mem k hk')]
      exact Function.update_of_ne (h k List.mem_cons_self).symm _ _

/-- Each cell is written once, if the cells are distinct. -/
lemma runAll_of_mem (h : (ks.map MaskedWrite.cell).Nodup) (hk : k ∈ ks) (mem : ι → BitVec w) :
    runAll ks mem k.cell = (k.value (mem k.cell &&& k.mask) &&& k.mask) |||
      (mem k.cell &&& ~~~ k.mask) := by
  induction ks generalizing mem with
  | nil => cases hk
  | cons k' ks ih =>
      rw [List.map_cons, List.nodup_cons] at h
      rw [runAll_cons]
      rcases List.mem_cons.mp hk with rfl | hk
      · have hne (k' : MaskedWrite ι w) (hk' : k' ∈ ks) : k'.cell ≠ k.cell := by
          intro heq
          exact h.1 (heq ▸ List.mem_map_of_mem hk')
        rw [runAll_of_not_mem hne, run, Function.update_self]
      · have hne : k.cell ≠ k'.cell := by
          intro heq
          exact h.1 (heq ▸ List.mem_map_of_mem hk)
        rw [ih h.2 hk, run, Function.update_of_ne hne]

/-- Writes that spare some bits leave them as they are. -/
lemma runAll_and (h : ∀ k ∈ ks, k.Spares cell mask) (mem : ι → BitVec w) :
    runAll ks mem cell &&& mask = mem cell &&& mask := by
  induction ks generalizing mem with
  | nil => rfl
  | cons k ks ih =>
      rw [runAll_cons, ih fun k' hk' => h k' (List.mem_cons_of_mem k hk')]
      exact (h k List.mem_cons_self).run_and mem

/-- What one of some writes makes of its bits is what all of them do, if the bits of no two of them
overlap. -/
lemma runAll_and_mask (h : ks.Pairwise Apart) (hk : k ∈ ks) (mem : ι → BitVec w) :
    runAll ks mem k.cell &&& k.mask = k.value (mem k.cell &&& k.mask) &&& k.mask := by
  induction ks generalizing mem with
  | nil => cases hk
  | cons k' ks ih =>
      rw [List.pairwise_cons] at h
      rw [runAll_cons]
      rcases List.mem_cons.mp hk with rfl | hk
      · rw [runAll_and (fun k' hk' => (h.1 k' hk').symm), run_and_mask]
      · rw [ih h.2 hk, (h.1 k hk).run_and]

lemma run_runAll_comm (h : ∀ k' ∈ ks, k.Apart k') (mem : ι → BitVec w) :
    k.run (runAll ks mem) = runAll ks (k.run mem) := by
  induction ks generalizing mem with
  | nil => rfl
  | cons k' ks ih =>
      rw [runAll_cons, runAll_cons, ih fun k'' hk'' => h k'' (List.mem_cons_of_mem k' hk''),
        (h k' List.mem_cons_self).run_comm]

/-- **Lists of writes that are apart commute.** -/
theorem runAll_comm (h : ∀ k ∈ ks, ∀ k' ∈ ks', k.Apart k') (mem : ι → BitVec w) :
    runAll ks (runAll ks' mem) = runAll ks' (runAll ks mem) := by
  induction ks generalizing mem with
  | nil => rfl
  | cons k ks ih =>
      rw [runAll_cons, runAll_cons, run_runAll_comm (h k List.mem_cons_self),
        ih fun k' hk' => h k' (List.mem_cons_of_mem k hk')]

end Run

end MaskedWrite

end Xdpd.Lib
