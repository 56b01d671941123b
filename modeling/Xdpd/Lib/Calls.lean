import Mathlib.Data.List.Basic
import Mathlib.Data.List.Pairwise
import Mathlib.Order.Defs.Unbundled
import Mathlib.Tactic.Common

/-!
# Calls that may throw

A call takes a state, and returns or throws.  Either way it leaves a state, and what it has done
before it throws is not taken back.  Calls follow each other, are made for each element of a list,
and have their exceptions caught.

If every call moves the state along a partial order, then a loop that fails and leaves the state as
it was has made all its calls in that state (`forEach_clean_iff`).
-/

namespace Xdpd.Lib

/-- A call: the exception, if it throws one, and the state that it leaves. -/
abbrev Call (ε σ : Type*) := σ → Option ε × σ

namespace Call

variable {ε ε' σ α : Type*}

/-- The call does not throw. -/
def Returns (f : Call ε σ) (s : σ) : Prop := (f s).1 = none

/-- One call after the other, unless the first one throws. -/
def andThen (f g : Call ε σ) : Call ε σ := fun s =>
  match f s with
  | (none, s') => g s'
  | (some e, s') => (some e, s')

/-- The call with its exceptions caught, and others thrown in their place. -/
def rethrow (f : Call ε σ) (throw : ε → ε') : Call ε' σ := fun s => ((f s).1.map throw, (f s).2)

/-- The call with its exceptions caught. -/
def ignore (f : Call ε σ) : Call ε' σ := fun s => (none, (f s).2)

/-- The call with a handler, which makes another call and throws again. -/
def orUndo (f undo : Call ε σ) : Call ε σ := fun s =>
  match f s with
  | (none, s') => (none, s')
  | (some e, s') => (some e, (undo s').2)

/-- A call for each element of a list, up to the first one that throws. -/
def forEach (f : α → Call ε σ) : List α → Call ε σ
  | [] => fun s => (none, s)
  | a :: as => (f a).andThen (forEach f as)

/-- What holds of each element and the state in which its call is made, if no call throws. -/
def AllAlong (f : α → Call ε σ) (P : σ → α → Prop) : List α → σ → Prop
  | [], _ => True
  | a :: as, s => P s a ∧ AllAlong f P as (f a s).2

/-- All exceptions of the call are of a kind. -/
def ThrowsOnly (f : Call ε σ) (P : ε → Prop) : Prop := ∀ s e, (f s).1 = some e → P e

/-- Of calls that are all made in one state, one throws, and none of them up to that one changes
anything. -/
def CleanFailure (Ok Same : α → Prop) : List α → Prop
  | [] => False
  | a :: as => Same a ∧ (Ok a → CleanFailure Ok Same as)

section Sequences

variable {f g : Call ε σ} {s : σ}

lemma andThen_of_returns (h : f.Returns s) : f.andThen g s = g (f s).2 := by
  obtain ⟨x, hx⟩ : ∃ x, f s = (none, x) := ⟨(f s).2, Prod.ext h rfl⟩
  rw [andThen, hx]

lemma andThen_of_throws (h : ¬ f.Returns s) : f.andThen g s = f s := by
  obtain ⟨e, he⟩ := Option.ne_none_iff_exists'.mp h
  obtain ⟨x, hx⟩ : ∃ x, f s = (some e, x) := ⟨(f s).2, Prod.ext he rfl⟩
  rw [andThen, hx]

lemma returns_andThen : (f.andThen g).Returns s ↔ f.Returns s ∧ g.Returns (f s).2 := by
  by_cases h : f.Returns s
  · rw [Returns, andThen_of_returns h]
    exact ⟨fun hg => ⟨h, hg⟩, fun hg => hg.2⟩
  · rw [Returns, andThen_of_throws h]
    exact ⟨fun hf => absurd hf h, fun hf => absurd hf.1 h⟩

/-- The second call changes nothing. -/
lemma snd_andThen_of_same (hg : ∀ s, (g s).2 = s) : (f.andThen g s).2 = (f s).2 := by
  by_cases h : f.Returns s
  · rw [andThen_of_returns h, hg]
  · rw [andThen_of_throws h]

lemma returns_rethrow {throw : ε → ε'} : (f.rethrow throw).Returns s ↔ f.Returns s :=
  Option.map_eq_none_iff

lemma returns_orUndo {undo : Call ε σ} : (f.orUndo undo).Returns s ↔ f.Returns s := by
  rw [Returns, orUndo]
  split
  · next h =>
    refine ⟨fun _ => ?_, fun _ => rfl⟩
    rw [Returns, h]
  · next h =>
    refine ⟨nofun, fun hf => ?_⟩
    rw [Returns, h] at hf
    exact absurd hf nofun

lemma orUndo_of_returns {undo : Call ε σ} (h : f.Returns s) : (f.orUndo undo s).2 = (f s).2 := by
  obtain ⟨x, hx⟩ : ∃ x, f s = (none, x) := ⟨(f s).2, Prod.ext h rfl⟩
  rw [orUndo, hx]

lemma orUndo_of_throws {undo : Call ε σ} (h : ¬ f.Returns s) :
    (f.orUndo undo s).2 = (undo (f s).2).2 := by
  obtain ⟨e, he⟩ := Option.ne_none_iff_exists'.mp h
  obtain ⟨x, hx⟩ : ∃ x, f s = (some e, x) := ⟨(f s).2, Prod.ext he rfl⟩
  rw [orUndo, hx]

lemma throwsOnly_andThen {P : ε → Prop} (hf : f.ThrowsOnly P) (hg : g.ThrowsOnly P) :
    (f.andThen g).ThrowsOnly P := by
  intro s e h
  by_cases hreturns : f.Returns s
  · rw [andThen_of_returns hreturns] at h
    exact hg _ e h
  · rw [andThen_of_throws hreturns] at h
    exact hf s e h

lemma throwsOnly_rethrow {P : ε' → Prop} {throw : ε → ε'} (h : ∀ e, P (throw e)) :
    (f.rethrow throw).ThrowsOnly P := by
  intro s e he
  obtain ⟨e', -, rfl⟩ := Option.map_eq_some_iff.mp he
  exact h e'

end Sequences

section Loops

variable {f : α → Call ε σ} {as : List α} {s : σ}

lemma forEach_append (as bs : List α) :
    forEach f (as ++ bs) = (forEach f as).andThen (forEach f bs) := by
  induction as with
  | nil => rfl
  | cons a as ih =>
      funext s
      rw [List.cons_append, forEach, forEach, ih]
      by_cases h : (f a).Returns s
      · rw [andThen_of_returns h]
        by_cases h' : (forEach f as).Returns (f a s).2
        · rw [andThen_of_returns h', andThen_of_returns (returns_andThen.mpr ⟨h, h'⟩),
            andThen_of_returns h]
        · rw [andThen_of_throws h', andThen_of_throws (fun hr => h' (returns_andThen.mp hr).2),
            andThen_of_returns h]
      · rw [andThen_of_throws h, andThen_of_throws (fun hr => h (returns_andThen.mp hr).1),
          andThen_of_throws h]

/-- A loop returns if all its calls do. -/
lemma returns_forEach :
    (forEach f as).Returns s ↔ AllAlong f (fun s a => (f a).Returns s) as s := by
  induction as generalizing s with
  | nil => exact ⟨fun _ => trivial, fun _ => rfl⟩
  | cons a as ih => rw [forEach, returns_andThen, AllAlong, ih]

lemma returns_forEach_of_forall (h : ∀ a s, (f a).Returns s) (as : List α) (s : σ) :
    (forEach f as).Returns s := by
  induction as generalizing s with
  | nil => rfl
  | cons a as ih => exact returns_andThen.mpr ⟨h a s, ih _⟩

/-- A loop throws where one of its calls does and all before it return. -/
lemma throws_forEach {e : ε} : (forEach f as s).1 = some e ↔ ∃ pre a post, as = pre ++ a :: post ∧
    (forEach f pre).Returns s ∧ (f a (forEach f pre s).2).1 = some e := by
  induction as generalizing s with
  | nil =>
      refine ⟨nofun, ?_⟩
      rintro ⟨pre, a, post, heq, -⟩
      exact absurd heq.symm (List.append_ne_nil_of_right_ne_nil pre (List.cons_ne_nil a post))
  | cons a as ih =>
      rw [forEach]
      constructor
      · intro h
        by_cases ha : (f a).Returns s
        · rw [andThen_of_returns ha] at h
          obtain ⟨pre, b, post, rfl, hpre, hb⟩ := ih.mp h
          refine ⟨a :: pre, b, post, rfl, returns_andThen.mpr ⟨ha, hpre⟩, ?_⟩
          rw [forEach, andThen_of_returns ha]
          exact hb
        · rw [andThen_of_throws ha] at h
          exact ⟨[], a, as, rfl, rfl, h⟩
      · rintro ⟨pre, b, post, heq, hpre, hb⟩
        cases pre with
        | nil =>
            obtain ⟨rfl, rfl⟩ := List.cons.inj heq
            have ha : ¬ (f a).Returns s := fun ha => absurd (ha.symm.trans hb) nofun
            rw [andThen_of_throws ha]
            exact hb
        | cons c pre =>
            obtain ⟨rfl, rfl⟩ := List.cons.inj heq
            obtain ⟨ha, hpre⟩ := returns_andThen.mp hpre
            rw [forEach, andThen_of_returns ha] at hb
            rw [andThen_of_returns ha]
            exact ih.mpr ⟨pre, b, post, rfl, hpre, hb⟩

lemma throwsOnly_forEach {P : ε → Prop} (h : ∀ a, (f a).ThrowsOnly P) :
    (forEach f as).ThrowsOnly P := by
  intro s e he
  obtain ⟨pre, a, post, -, -, ha⟩ := throws_forEach.mp he
  exact h a _ e ha

/-- Loops whose calls do the same do the same. -/
lemma forEach_congr {g : α → Call ε' σ} (hreturns : ∀ a s, (g a).Returns s ↔ (f a).Returns s)
    (hsnd : ∀ a s, (g a s).2 = (f a s).2) (as : List α) (s : σ) :
    ((forEach g as).Returns s ↔ (forEach f as).Returns s) ∧
      (forEach g as s).2 = (forEach f as s).2 := by
  induction as generalizing s with
  | nil => exact ⟨⟨fun _ => rfl, fun _ => rfl⟩, rfl⟩
  | cons a as ih =>
      rw [forEach, forEach, returns_andThen, returns_andThen, hreturns, hsnd, (ih _).1]
      refine ⟨Iff.rfl, ?_⟩
      by_cases h : (f a).Returns s
      · rw [andThen_of_returns h, andThen_of_returns ((hreturns a s).mpr h), hsnd, (ih _).2]
      · rw [andThen_of_throws h, andThen_of_throws ((hreturns a s).not.mpr h), hsnd]

lemma allAlong_congr {P Q : σ → α → Prop} (h : ∀ s a, P s a ↔ Q s a) :
    AllAlong f P as s ↔ AllAlong f Q as s := by
  have hPQ : P = Q := funext fun s => funext fun a => propext (h s a)
  rw [hPQ]

lemma allAlong_and {P Q : σ → α → Prop} :
    AllAlong f (fun s a => P s a ∧ Q s a) as s ↔ AllAlong f P as s ∧ AllAlong f Q as s := by
  induction as generalizing s with
  | nil => exact ⟨fun _ => ⟨trivial, trivial⟩, fun _ => trivial⟩
  | cons a as ih =>
      rw [AllAlong, AllAlong, AllAlong, ih]
      exact and_and_and_comm

/-- **What holds along a loop, said of its first state**: it holds there of each element, and no
element spoils it for a later one. -/
theorem allAlong_iff {P : σ → α → Prop} (Compat : σ → α → α → Prop)
    (hnext : ∀ s a b, P s a → (P (f a s).2 b ↔ P s b ∧ Compat s a b))
    (hcompat : ∀ s a b c, P s a → P (f a s).2 b → P (f a s).2 c →
      (Compat (f a s).2 b c ↔ Compat s b c)) :
    AllAlong f P as s ↔ (∀ a ∈ as, P s a) ∧ as.Pairwise (Compat s) := by
  induction as generalizing s with
  | nil => exact ⟨fun _ => ⟨nofun, .nil⟩, fun _ => trivial⟩
  | cons a as ih =>
      rw [AllAlong, ih, List.forall_mem_cons, List.pairwise_cons]
      constructor
      · rintro ⟨ha, hP, hpair⟩
        have hnext' : ∀ b ∈ as, P s b ∧ Compat s a b := fun b hb => (hnext s a b ha).mp (hP b hb)
        refine ⟨⟨ha, fun b hb => (hnext' b hb).1⟩, fun b hb => (hnext' b hb).2, ?_⟩
        exact hpair.imp_of_mem fun hb hc => (hcompat s a _ _ ha (hP _ hb) (hP _ hc)).mp
      · rintro ⟨⟨ha, hP⟩, hfirst, hpair⟩
        have hP' : ∀ b ∈ as, P (f a s).2 b := fun b hb =>
          (hnext s a b ha).mpr ⟨hP b hb, hfirst b hb⟩
        refine ⟨ha, hP', ?_⟩
        exact hpair.imp_of_mem fun hb hc => (hcompat s a _ _ ha (hP' _ hb) (hP' _ hc)).mpr

/-- The failures of calls that change the state whenever they return. -/
lemma cleanFailure_iff_head {Ok Same : α → Prop} (h : ∀ a, Same a → ¬ Ok a) :
    CleanFailure Ok Same as ↔ ∃ a ∈ as.head?, Same a := by
  cases as with
  | nil => exact ⟨nofun, nofun⟩
  | cons a as =>
      constructor
      · intro hclean
        exact ⟨a, rfl, hclean.1⟩
      · rintro ⟨b, hb, hsame⟩
        obtain rfl : a = b := Option.some.inj hb
        exact ⟨hsame, fun hok => absurd hok (h a hsame)⟩

end Loops

/-- Something about the state is the same. -/
def Keeps {β : Type*} (g : σ → β) (s s' : σ) : Prop := g s' = g s

instance {β : Type*} (g : σ → β) : IsPreorder σ (Keeps g) where
  refl _ := rfl
  trans _ _ _ h₁₂ h₂₃ := Eq.trans h₂₃ h₁₂

section Moves

variable {r : σ → σ → Prop}

lemma moves_andThen [IsTrans σ r] {f g : Call ε σ} {s : σ} (hf : r s (f s).2)
    (hg : ∀ s, r s (g s).2) : r s (f.andThen g s).2 := by
  by_cases h : f.Returns s
  · rw [andThen_of_returns h]
    exact Trans.trans hf (hg _)
  · rw [andThen_of_throws h]
    exact hf

variable {f : α → Call ε σ} (hmoves : ∀ a s, r s (f a s).2)

include hmoves

lemma moves_forEach [IsPreorder σ r] (as : List α) (s : σ) : r s (forEach f as s).2 := by
  induction as generalizing s with
  | nil => exact Std.Refl.refl s
  | cons a as ih => exact moves_andThen (hmoves a s) ih

/-- What each call brings about, and no later one undoes, holds at the end of a loop that
returns. -/
lemma effect_of_forEach [IsPreorder σ r] (E : α → σ → Prop)
    (heffect : ∀ a s, (f a).Returns s → E a (f a s).2)
    (hkeeps : ∀ a s s', r s s' → E a s → E a s') {as : List α} {s : σ}
    (h : (forEach f as).Returns s) : ∀ a ∈ as, E a (forEach f as s).2 := by
  induction as generalizing s with
  | nil => exact nofun
  | cons a as ih =>
      obtain ⟨ha, has⟩ := returns_andThen.mp h
      rw [forEach, andThen_of_returns ha, List.forall_mem_cons]
      exact ⟨hkeeps a _ _ (moves_forEach hmoves as _) (heffect a s ha), ih has⟩

/-- **Failures without a trace.**  A loop whose calls move the state along a partial order fails and
leaves the state as it was exactly when its calls do so in that state. -/
theorem forEach_clean_iff [IsPartialOrder σ r] {Ok Same : α → Prop} {s : σ}
    (hok : ∀ a, (f a).Returns s ↔ Ok a) (hsame : ∀ a, (f a s).2 = s ↔ Same a) (as : List α) :
    ¬ (forEach f as).Returns s ∧ (forEach f as s).2 = s ↔ CleanFailure Ok Same as := by
  induction as with
  | nil => exact ⟨fun h => h.1 rfl, nofun⟩
  | cons a as ih =>
      rw [CleanFailure, ← ih, ← hok, ← hsame, forEach, returns_andThen]
      by_cases h : (f a).Returns s
      · rw [andThen_of_returns h]
        constructor
        · rintro ⟨hfails, hs⟩
          -- the state cannot come back once it has moved
          have hback : r (f a s).2 s := by
            have hrest := moves_forEach hmoves as (f a s).2
            rwa [hs] at hrest
          have ha : (f a s).2 = s := Std.Antisymm.antisymm _ _ hback (hmoves a s)
          rw [ha] at hfails hs
          exact ⟨ha, fun _ => ⟨fun hreturns => hfails ⟨h, hreturns⟩, hs⟩⟩
        · rintro ⟨ha, hrest⟩
          rw [ha]
          exact ⟨fun hreturns => (hrest h).1 hreturns.2, (hrest h).2⟩
      · rw [andThen_of_throws h]
        exact ⟨fun hs => ⟨hs.2, fun hreturns => absurd hreturns h⟩,
          fun hs => ⟨fun hreturns => h hreturns.1, hs.1⟩⟩

end Moves

end Call

end Xdpd.Lib
