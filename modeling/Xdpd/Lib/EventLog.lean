import Mathlib.Data.List.Infix
import Mathlib.Data.List.Count
import Mathlib.Tactic.Common

/-!
# What comes before what

The order of the events of a log, in which an event can come more than once.
-/

namespace Xdpd.Lib

variable {α : Type*} {l l' l₁ l₂ : List α} {a b : α}

/-- In the log, the one comes somewhere before the other. -/
def Before (l : List α) (a b : α) : Prop := ∃ l₁ l₂, l = l₁ ++ b :: l₂ ∧ a ∈ l₁

lemma Before.append (h : Before l a b) (l' : List α) : Before (l ++ l') a b := by
  obtain ⟨l₁, l₂, rfl, ha⟩ := h
  exact ⟨l₁, l₂ ++ l', by rw [List.append_assoc, List.cons_append], ha⟩

lemma Before.mono (h : Before l a b) (hl : l <+: l') : Before l' a b := by
  obtain ⟨rest, rfl⟩ := hl
  exact h.append rest

/-- What is in the log comes before what is appended. -/
lemma before_append (ha : a ∈ l) (hb : b ∈ l') : Before (l ++ l') a b := by
  obtain ⟨l₁, l₂, rfl⟩ := List.append_of_mem hb
  exact ⟨l ++ l₁, l₂, (List.append_assoc l l₁ _).symm, List.mem_append_left l₁ ha⟩

section Count

variable [DecidableEq α]

lemma count_eq_zero_of_append (h : (l₁ ++ b :: l₂).count b = 1) : b ∉ l₁ ∧ b ∉ l₂ := by
  rw [List.count_append, List.count_cons_self] at h
  exact ⟨List.count_eq_zero.mp (by omega), List.count_eq_zero.mp (by omega)⟩

/-- Of two events that come once each, only one is before the other. -/
lemma Before.asymm (h : Before l a b) (ha : l.count a = 1) (hb : l.count b = 1) :
    ¬ Before l b a := by
  rintro ⟨m₁, m₂, rfl, hmem⟩
  obtain ⟨l₁, l₂, heq, hmem'⟩ := h
  rcases List.append_eq_append_iff.mp heq with ⟨c, rfl, hc⟩ | ⟨c, rfl, hc⟩
  · -- The other one would come in front of both.
    rw [heq] at hb
    exact (count_eq_zero_of_append hb).1 (List.mem_append_left c hmem)
  · exact (count_eq_zero_of_append ha).1 (List.mem_append_left c hmem')

end Count

end Xdpd.Lib
