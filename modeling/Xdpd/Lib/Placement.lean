import Mathlib.Algebra.BigOperators.Group.Finset.Basic
import Mathlib.Data.Finset.Card
import Mathlib.Data.List.Perm.Subperm
import Mathlib.Logic.Function.Basic

/-!
# Resources that are handed from place to place

A *placement* `f : ι → List α` says which resources are in which place.  It is *conserved* with
respect to a pool if every resource of the pool is in exactly one place, and once in it, and if
nothing else is anywhere.  Handing one resource over from a place to another keeps this
(`Conserved.moved`).

Where a resource may be in several places, what counts is the sum over all places.
-/

namespace Xdpd.Lib

variable {ι α : Type*}

/-- Every resource of the pool is in exactly one place, and nothing else is in any place. -/
structure Conserved (pool : Finset α) (f : ι → List α) : Prop where
  nodup : ∀ p, (f p).Nodup
  unique : ∀ {p q b}, b ∈ f p → b ∈ f q → p = q
  mem_iff : ∀ b, b ∈ pool ↔ ∃ p, b ∈ f p

/-- One copy of `b` has gone from the place `p` to another place `q`. -/
structure Moved [DecidableEq α] (f f' : ι → List α) (b : α) (p q : ι) : Prop where
  ne : p ≠ q
  mem : b ∈ f p
  source : (f' p).Perm ((f p).erase b)
  target : (f' q).Perm (b :: f q)
  frame : ∀ r, r ≠ p → r ≠ q → f' r = f r

section Conserved

variable {pool : Finset α} {f f' : ι → List α} {b : α} {p q : ι}

lemma Conserved.mem_pool (hf : Conserved pool f) (hb : b ∈ f p) : b ∈ pool :=
  (hf.mem_iff b).mpr ⟨p, hb⟩

lemma Conserved.notMem_of_ne (hf : Conserved pool f) (hb : b ∈ f p) (hpq : p ≠ q) : b ∉ f q :=
  fun hq => hpq (hf.unique hb hq)

/-- While a resource is elsewhere, a place does not hold the whole pool. -/
lemma Conserved.length_lt_card (hf : Conserved pool f) (hb : b ∈ f p) (hpq : p ≠ q) :
    (f q).length < pool.card := by
  have hnodup : (b :: f q).Nodup := List.nodup_cons.mpr ⟨hf.notMem_of_ne hb hpq, hf.nodup q⟩
  have hsub : (b :: f q) ⊆ pool.toList := by
    rintro c hc
    rw [Finset.mem_toList]
    rcases List.mem_cons.mp hc with rfl | hc
    · exact hf.mem_pool hb
    · exact hf.mem_pool hc
  have hlength := (hnodup.subperm hsub).length_le
  rwa [Finset.length_toList, List.length_cons] at hlength

/-- Everything is in one place. -/
lemma Conserved.of_single (hnodup : (f p).Nodup) (hmem : ∀ b, b ∈ pool ↔ b ∈ f p)
    (hother : ∀ q, q ≠ p → f q = []) : Conserved pool f := by
  have hplace : ∀ {q b}, b ∈ f q → q = p := by
    intro q b hb
    by_contra hne
    rw [hother q hne] at hb
    exact absurd hb List.not_mem_nil
  refine ⟨fun q => ?_, fun hq hr => (hplace hq).trans (hplace hr).symm, fun b => ?_⟩
  · by_cases hq : q = p
    · exact hq ▸ hnodup
    · rw [hother q hq]
      exact List.nodup_nil
  · rw [hmem b]
    exact ⟨fun hb => ⟨p, hb⟩, fun ⟨q, hb⟩ => hplace hb ▸ hb⟩

/-- The order within the places does not matter. -/
lemma Conserved.perm (hf : Conserved pool f) (h : ∀ p, (f' p).Perm (f p)) : Conserved pool f' where
  nodup p := (h p).nodup_iff.mpr (hf.nodup p)
  unique hp hq := hf.unique ((h _).mem_iff.mp hp) ((h _).mem_iff.mp hq)
  mem_iff b := (hf.mem_iff b).trans (exists_congr fun p => (h p).mem_iff.symm)

/-- The first element with a property is taken out of a list. -/
lemma perm_cons_eraseP_of_find? {prop : α → Bool} {l : List α} {a : α}
    (h : l.find? prop = some a) : l.Perm (a :: l.eraseP prop) := by
  obtain ⟨hp, l₁, l₂, rfl, hl₁⟩ := List.find?_eq_some_iff_append.mp h
  have hnot : ∀ c ∈ l₁, ¬ prop c = true := by simpa using hl₁
  rw [List.eraseP_append_right _ hnot, List.eraseP_cons_of_pos hp]
  exact List.perm_middle

variable [DecidableEq α]

lemma Moved.mem_source_iff (hmoved : Moved f f' b p q) (hf : Conserved pool f) (c : α) :
    c ∈ f' p ↔ c ≠ b ∧ c ∈ f p := by
  rw [hmoved.source.mem_iff, (hf.nodup p).mem_erase_iff]

lemma Moved.mem_target_iff (hmoved : Moved f f' b p q) (c : α) : c ∈ f' q ↔ c = b ∨ c ∈ f q := by
  rw [hmoved.target.mem_iff, List.mem_cons]

/-- After the move, `b` is at `q`, and everything else is where it was. -/
lemma Moved.mem_iff (hmoved : Moved f f' b p q) (hf : Conserved pool f) (c : α) (r : ι) :
    c ∈ f' r ↔ (c = b ∧ r = q) ∨ (c ≠ b ∧ c ∈ f r) := by
  by_cases hp : r = p
  · subst hp
    rw [hmoved.mem_source_iff hf]
    simp [hmoved.ne]
  by_cases hq : r = q
  · subst hq
    rw [hmoved.mem_target_iff]
    by_cases hc : c = b <;> simp [hc]
  · rw [hmoved.frame r hp hq]
    simp only [hq, and_false, false_or, iff_and_self]
    rintro hc rfl
    exact hp (hf.unique hc hmoved.mem)

/-- **Handing a resource over conserves the pool.** -/
theorem Conserved.moved (hf : Conserved pool f) (hmoved : Moved f f' b p q) :
    Conserved pool f' where
  nodup r := by
    by_cases hp : r = p
    · subst hp
      exact hmoved.source.nodup_iff.mpr ((hf.nodup r).erase b)
    by_cases hq : r = q
    · subst hq
      refine hmoved.target.nodup_iff.mpr (List.nodup_cons.mpr ⟨?_, hf.nodup r⟩)
      exact hf.notMem_of_ne hmoved.mem hmoved.ne
    · rw [hmoved.frame r hp hq]
      exact hf.nodup r
  unique {r r' c} hr hr' := by
    rw [hmoved.mem_iff hf] at hr hr'
    rcases hr with ⟨hc, rfl⟩ | ⟨hc, hr⟩
    · rcases hr' with ⟨-, rfl⟩ | ⟨hc', -⟩
      · rfl
      · exact absurd hc hc'
    · rcases hr' with ⟨hc', -⟩ | ⟨-, hr'⟩
      · exact absurd hc' hc
      · exact hf.unique hr hr'
  mem_iff c := by
    by_cases hc : c = b
    · subst hc
      refine ⟨fun _ => ⟨q, (hmoved.mem_iff hf c q).mpr (.inl ⟨rfl, rfl⟩)⟩, fun _ => ?_⟩
      exact hf.mem_pool hmoved.mem
    · rw [hf.mem_iff c]
      refine exists_congr fun r => ?_
      rw [hmoved.mem_iff hf]
      simp [hc]

/-- A resource is taken out of its place and put back. -/
lemma perm_of_putBack [DecidableEq ι] (hmem : b ∈ f p) (r : ι) :
    (Function.update (Function.update f p ((f p).erase b)) p
      (Function.update f p ((f p).erase b) p ++ [b]) r).Perm (f r) := by
  by_cases hr : r = p
  · subst hr
    rw [Function.update_self, Function.update_self]
    exact (List.perm_append_singleton b _).trans (List.perm_cons_erase hmem).symm
  · rw [Function.update_of_ne hr, Function.update_of_ne hr]

/-- Two places are rewritten: one loses the resource and the other gains it. -/
lemma moved_update [DecidableEq ι] {l l' : List α} (hne : p ≠ q) (hmem : b ∈ f p)
    (hl : l.Perm ((f p).erase b)) (hl' : l'.Perm (b :: f q)) :
    Moved f (Function.update (Function.update f p l) q l') b p q where
  ne := hne
  mem := hmem
  source := by rwa [Function.update_of_ne hne, Function.update_self]
  target := by rwa [Function.update_self]
  frame r hp hq := by rw [Function.update_of_ne hq, Function.update_of_ne hp]

end Conserved

/-- One place is rewritten: the others contribute the same to a sum. -/
lemma exists_sum_update {A : Type*} [Fintype ι] [DecidableEq ι] [AddCommMonoid A] (F : α → A)
    (f : ι → α) (p : ι) :
    ∃ rest, ∑ q, F (f q) = F (f p) + rest ∧
      ∀ a, ∑ q, F (Function.update f p a q) = F a + rest := by
  have hsplit : ∀ a, ∑ q, F (Function.update f p a q) =
      F a + ∑ q ∈ Finset.univ.erase p, F (f q) := by
    intro a
    rw [← Finset.add_sum_erase _ _ (Finset.mem_univ p), Function.update_self]
    congr 1
    refine Finset.sum_congr rfl fun q hq => ?_
    rw [Function.update_of_ne (Finset.ne_of_mem_erase hq)]
  refine ⟨_, ?_, hsplit⟩
  simpa only [Function.update_eq_self] using hsplit (f p)

end Xdpd.Lib
