import Mathlib.Data.List.Basic
import Mathlib.Tactic.Common

/-!
# Translating lists there and back

A list is translated element by element, each to one element of another kind or to none.  The result
is read back in a loop that adds what it reads for each element and stops at the first one that is
refused.  The list survives this exactly when each of its elements does: `translatesBack_iff`.
-/

namespace Xdpd.Lib

variable {α β ε : Type*}

/-- The loop that reads a list back. -/
def readAll (read : β → Except ε (List α)) : List β → Except ε (List α)
  | [] => .ok []
  | b :: bs => do
      let added ← read b
      let rest ← readAll read bs
      return added ++ rest

/-- Every element of the list has a translation, and these are read back as the list. -/
def TranslatesBack (translate : α → Option β) (read : β → Except ε (List α)) (as : List α) : Prop :=
  ∃ bs : List β, as.map translate = bs.map some ∧ readAll read bs = .ok as

/-- An element has no translation, or one that is refused or read back as one element, which is the
same one exactly when `p` holds. -/
def Survives (translate : α → Option β) (read : β → Except ε (List α)) (a : α) (p : Prop) : Prop :=
  (translate a = none ∧ ¬ p) ∨ ∃ b, translate a = some b ∧
    (((∃ e, read b = .error e) ∧ ¬ p) ∨ ∃ a', read b = .ok [a'] ∧ (a' = a ↔ p))

section TranslatesBack

variable {translate : α → Option β} {read : β → Except ε (List α)}

lemma readAll_cons_ok {b : β} {bs : List β} {added : List α} (h : read b = .ok added) :
    readAll read (b :: bs) = (readAll read bs).map (added ++ ·) := by
  rw [readAll, h]
  rfl

lemma readAll_cons_error {b : β} {bs : List β} {e : ε} (h : read b = .error e) :
    readAll read (b :: bs) = .error e := by
  rw [readAll, h]
  rfl

lemma map_eq_ok_iff {γ : Type*} {f : α → γ} {r : Except ε α} {c : γ} :
    r.map f = .ok c ↔ ∃ a, r = .ok a ∧ f a = c := by
  cases r with
  | error e => exact ⟨nofun, nofun⟩
  | ok a =>
      constructor
      · intro h
        exact ⟨a, rfl, Except.ok.inj h⟩
      · rintro ⟨_, ⟨⟩, rfl⟩
        rfl

/-- A list survives exactly when its first element and the rest do. -/
lemma translatesBack_cons {a : α} {p : Prop} (ha : Survives translate read a p) (as : List α) :
    TranslatesBack translate read (a :: as) ↔ p ∧ TranslatesBack translate read as := by
  constructor
  · rintro ⟨bs, hmap, hread⟩
    cases bs with
    | nil => exact absurd hmap nofun
    | cons b bs =>
        rw [List.map_cons, List.map_cons, List.cons.injEq] at hmap
        rcases ha with ⟨hnone, -⟩ | ⟨b', hb', hback⟩
        · exact absurd (hnone.symm.trans hmap.1) nofun
        · obtain rfl : b = b' := Option.some.inj (hmap.1.symm.trans hb')
          rcases hback with ⟨⟨e, he⟩, -⟩ | ⟨a', ha', hiff⟩
          · rw [readAll_cons_error he] at hread
            exact absurd hread nofun
          · -- one element is read for each, so the first one is that of the list
            rw [readAll_cons_ok ha', map_eq_ok_iff] at hread
            obtain ⟨rest, hrest, hcons⟩ := hread
            obtain ⟨hfirst, rfl⟩ := List.cons.inj hcons
            exact ⟨hiff.1 hfirst, bs, hmap.2, hrest⟩
  · rintro ⟨hp, bs, hmap, hread⟩
    rcases ha with ⟨-, hnot⟩ | ⟨b, hb, hback⟩
    · exact absurd hp hnot
    · rcases hback with ⟨-, hnot⟩ | ⟨a', ha', hiff⟩
      · exact absurd hp hnot
      · obtain rfl : a' = a := hiff.2 hp
        refine ⟨b :: bs, ?_, ?_⟩
        · rw [List.map_cons, List.map_cons, hb, hmap]
        · rw [readAll_cons_ok ha', hread]
          rfl

/-- **Lists there and back.**  A list survives the two translations exactly when each of its
elements does. -/
theorem translatesBack_iff {P : α → Prop} (h : ∀ a, Survives translate read a (P a))
    (as : List α) : TranslatesBack translate read as ↔ ∀ a ∈ as, P a := by
  induction as with
  | nil => exact iff_of_true ⟨[], rfl, rfl⟩ nofun
  | cons a as ih => rw [translatesBack_cons (h a), ih, List.forall_mem_cons]

end TranslatesBack

end Xdpd.Lib
