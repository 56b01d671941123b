import Mathlib.Data.List.Forall2
import Mathlib.Tactic.Common

/-!
# Loops that may fail

A loop over a list whose body may throw is a fold in `Except`, and one whose body may give up is one
in `Option`.
-/

namespace Xdpd.Lib

variable {α β σ ε : Type}

lemma exists_of_mem_left {R : α → β → Prop} {as : List α} {bs : List β} (h : List.Forall₂ R as bs) :
    ∀ a ∈ as, ∃ b ∈ bs, R a b := by
  induction h with
  | nil => exact nofun
  | cons hab _ ih =>
      refine List.forall_mem_cons.mpr ⟨⟨_, List.mem_cons_self, hab⟩, ?_⟩
      intro a ha
      obtain ⟨b, hb, hR⟩ := ih a ha
      exact ⟨b, List.mem_cons_of_mem _ hb, hR⟩

lemma exists_of_mem_right {R : α → β → Prop} {as : List α} {bs : List β}
    (h : List.Forall₂ R as bs) : ∀ b ∈ bs, ∃ a ∈ as, R a b :=
  exists_of_mem_left h.flip

/-- The loop depends on what its body does with the elements of the list only. -/
lemma foldlM_congr {f g : σ → α → Except ε σ} {as : List α} (h : ∀ s, ∀ a ∈ as, f s a = g s a)
    (s : σ) : as.foldlM f s = as.foldlM g s := by
  induction as generalizing s with
  | nil => rfl
  | cons a as ih =>
      have htail : ∀ s, ∀ a' ∈ as, f s a' = g s a' := fun s a' ha' =>
        h s a' (List.mem_cons_of_mem a ha')
      rw [List.foldlM_cons, List.foldlM_cons, h s a List.mem_cons_self]
      exact congrArg (g s a >>= ·) (funext (ih htail))

/-- A loop whose body throws for some elements, whatever the state, throws for the first of them. -/
lemma foldlM_eq_findSome? {f : σ → α → Except ε σ} {fault : α → Option ε} {next : σ → α → σ}
    (h : ∀ s a, f s a = (fault a).elim (.ok (next s a)) .error) (as : List α) (s : σ) :
    as.foldlM f s = (as.findSome? fault).elim (.ok (as.foldl next s)) .error := by
  induction as generalizing s with
  | nil => rfl
  | cons a as ih =>
      rw [List.foldlM_cons, h, List.findSome?_cons, List.foldl_cons]
      cases fault a with
      | none => exact ih (next s a)
      | some e => rfl

/-- The body of a loop that may give up, as one that does nothing then. -/
def turn (f : σ → α → Option σ) (s : σ) (a : α) : σ := (f s a).getD s

lemma turn_of_eq_some {f : σ → α → Option σ} {s s' : σ} {a : α} (h : f s a = some s') :
    turn f s a = s' := by
  rw [turn, h, Option.getD_some]

section GivesUp

variable {f : σ → α → Option σ} {p : α → Prop} {as : List α}

/-- A loop whose body gives up for some elements, whatever the state, does not if there are none of
them. -/
lemma foldlM_eq_some (h : ∀ s a, f s a = none ↔ p a) (has : ∀ a ∈ as, ¬ p a) (s : σ) :
    as.foldlM f s = some (as.foldl (turn f) s) := by
  induction as generalizing s with
  | nil => rfl
  | cons a as ih =>
      obtain ⟨ha, has⟩ := List.forall_mem_cons.mp has
      obtain ⟨s', hs'⟩ := Option.ne_none_iff_exists'.mp (mt (h s a).mp ha)
      rw [List.foldlM_cons, hs', List.foldl_cons, turn_of_eq_some hs']
      exact ih has s'

/-- It gives up if there is one. -/
lemma foldlM_eq_none (h : ∀ s a, f s a = none ↔ p a) (has : ∃ a ∈ as, p a) (s : σ) :
    as.foldlM f s = none := by
  induction as generalizing s with
  | nil => simp at has
  | cons a as ih =>
      rw [List.foldlM_cons]
      cases hs' : f s a with
      | none => rfl
      | some s' =>
          have ha : ¬ p a := fun ha => absurd (hs'.symm.trans ((h s a).mpr ha)) nofun
          exact ih (by simpa [ha] using has) s'

end GivesUp

/-- The loop that appends one result for each element. -/
lemma foldlM_append {f : α → Except ε β} {as : List α} (acc : List β) :
    as.foldlM (fun bs a => do return bs ++ [← f a]) acc = (as.mapM f).map (acc ++ ·) := by
  induction as generalizing acc with
  | nil =>
      rw [List.foldlM_nil, List.mapM_nil]
      exact congrArg Except.ok (List.append_nil acc).symm
  | cons a as ih =>
      rw [List.foldlM_cons, List.mapM_cons]
      cases f a with
      | error e => rfl
      | ok b =>
          change as.foldlM _ (acc ++ [b]) = _
          rw [ih]
          cases as.mapM f with
          | error e => rfl
          | ok bs => exact congrArg Except.ok (List.append_assoc acc [b] bs)

/-- The loop succeeds exactly when its body does for each element. -/
lemma mapM_eq_ok_iff {f : α → Except ε β} {as : List α} {bs : List β} :
    as.mapM f = .ok bs ↔ List.Forall₂ (fun a b => f a = .ok b) as bs := by
  induction as generalizing bs with
  | nil =>
      rw [List.mapM_nil, List.forall₂_nil_left_iff]
      constructor
      · intro h
        exact (Except.ok.inj h).symm
      · rintro rfl
        rfl
  | cons a as ih =>
      rw [List.mapM_cons, List.forall₂_cons_left_iff]
      cases hfa : f a with
      | error e => exact ⟨nofun, fun ⟨_, _, h, _⟩ => absurd h nofun⟩
      | ok b =>
          cases has : as.mapM f with
          | error e =>
              refine ⟨nofun, ?_⟩
              rintro ⟨_, bs', -, hbs', -⟩
              exact absurd (has.symm.trans (ih.mpr hbs')) nofun
          | ok bs' =>
              constructor
              · intro h
                exact ⟨b, bs', rfl, ih.mp has, (Except.ok.inj h).symm⟩
              · rintro ⟨b', bs'', hb', hbs'', rfl⟩
                obtain rfl := Except.ok.inj hb'
                obtain rfl := Except.ok.inj (has.symm.trans (ih.mpr hbs''))
                rfl

/-- If the loop fails, then its body does for an element. -/
lemma error_of_mapM {f : α → Except ε β} {as : List α} {e : ε} (h : as.mapM f = .error e) :
    ∃ a ∈ as, f a = .error e := by
  induction as with
  | nil =>
      rw [List.mapM_nil] at h
      exact absurd h nofun
  | cons a as ih =>
      rw [List.mapM_cons] at h
      cases hfa : f a with
      | error e' =>
          rw [hfa] at h
          obtain rfl : e' = e := Except.error.inj h
          exact ⟨a, List.mem_cons_self, hfa⟩
      | ok b =>
          cases has : as.mapM f with
          | error e' =>
              rw [hfa, has] at h
              obtain rfl : e' = e := Except.error.inj h
              obtain ⟨a', ha', herr⟩ := ih has
              exact ⟨a', List.mem_cons_of_mem a ha', herr⟩
          | ok bs =>
              rw [hfa, has] at h
              exact absurd h nofun

end Xdpd.Lib
