import Mathlib.Data.List.Nodup
import Mathlib.Logic.Function.Basic
import Mathlib.Tactic.Common

/-!
# Folds over elements with keys

A list of elements with different keys is folded into a state.  A part of the state that is written
by the elements with one key only, and not read by any, is at the end what the element with that key
has written, wherever in the list it is; without such an element it is as it was.  A table is such a
state, with what is under a key as a part for each key.
-/

namespace Xdpd.Lib

variable {σ α κ β : Type*} {step : σ → α → σ} {key : α → κ} {part : σ → β} {write : α → β} {k : κ}
  {l : List α} {a : α}

/-- The part is written by the elements with the key `k` only. -/
structure WritesAt (step : σ → α → σ) (key : α → κ) (part : σ → β) (k : κ) (write : α → β) :
    Prop where
  write_eq : ∀ s a, key a = k → part (step s a) = write a
  keep : ∀ s a, key a ≠ k → part (step s a) = part s

/-- No element has the key. -/
lemma WritesAt.foldl_of_forall_ne (h : WritesAt step key part k write) (hne : ∀ a ∈ l, key a ≠ k)
    (s : σ) : part (l.foldl step s) = part s := by
  induction l generalizing s with
  | nil => rfl
  | cons a l ih =>
      obtain ⟨ha, hl⟩ := List.forall_mem_cons.mp hne
      exact (ih hl (step s a)).trans (h.keep s a ha)

/-- The element with the key has written the part. -/
lemma WritesAt.foldl_of_mem (h : WritesAt step key part k write) (hnodup : (l.map key).Nodup)
    (ha : a ∈ l) (hkey : key a = k) (s : σ) : part (l.foldl step s) = write a := by
  induction l generalizing s with
  | nil => exact absurd ha List.not_mem_nil
  | cons b l ih =>
      obtain ⟨hb, hl⟩ := List.nodup_cons.mp hnodup
      rcases List.mem_cons.mp ha with rfl | ha
      · have hne : ∀ c ∈ l, key c ≠ k := fun c hc heq =>
          hb (List.mem_map.mpr ⟨c, hc, heq.trans hkey.symm⟩)
        exact (h.foldl_of_forall_ne hne (step s a)).trans (h.write_eq s a hkey)
      · exact ih hl ha (step s b)

/-! ## Tables -/

section Table

variable [DecidableEq κ] {m : κ → Option β} {ws : List (κ × β)} {b : β}

/-- The table where a value is written under a key. -/
def putAt (m : κ → Option β) (w : κ × β) : κ → Option β := Function.update m w.1 (some w.2)

/-- What is in the table has been written. -/
lemma mem_of_foldl_putAt (h : ws.foldl putAt m k = some b) : (k, b) ∈ ws ∨ m k = some b := by
  induction ws generalizing m with
  | nil => exact .inr h
  | cons w ws ih =>
      rcases ih h with hmem | hupdate
      · exact .inl (List.mem_cons_of_mem w hmem)
      · by_cases hk : k = w.1
        · subst hk
          rw [putAt, Function.update_self, Option.some.injEq] at hupdate
          exact .inl (List.mem_cons.mpr (.inl (Prod.ext rfl hupdate.symm)))
        · rw [putAt, Function.update_of_ne hk] at hupdate
          exact .inr hupdate

/-- What has been written is in the table, unless something else is written under its key. -/
lemma foldl_putAt_of_mem (hfun : ∀ w ∈ ws, w.1 = k → w.2 = b)
    (h : (k, b) ∈ ws ∨ m k = some b) :
    ws.foldl putAt m k = some b := by
  induction ws generalizing m with
  | nil => exact h.resolve_left List.not_mem_nil
  | cons w ws ih =>
      obtain ⟨hw, hws⟩ := List.forall_mem_cons.mp hfun
      refine ih hws ?_
      by_cases hk : k = w.1
      · right
        subst hk
        rw [putAt, Function.update_self, hw rfl]
      · rw [putAt, Function.update_of_ne hk]
        refine h.imp_left fun hmem => (List.mem_cons.mp hmem).resolve_left fun heq => hk ?_
        exact congrArg Prod.fst heq

end Table

end Xdpd.Lib
