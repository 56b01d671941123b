import Mathlib.Data.List.Basic
import Mathlib.Tactic.Common

/-!
# Machines that are fed piece by piece

A machine takes one letter at a time.  With each letter it goes to a next state, and it may give its
verdict, after which it takes no more.  Fed a list, it stops behind the letter at which it gave its
verdict; fed a list of pieces, it stops in the piece that holds this letter.

`feedAll_eq`: the verdict does not depend on how the input is cut.  `feed_loop_iff` is the rule for
a machine that collects letters as long as they satisfy a predicate.
-/

namespace Xdpd.Lib

variable {σ β ρ α : Type*}

/-- Feeds letters to a machine until it gives its verdict: the verdict, the state, and the letters
that it did not take. -/
def feed (step : σ → β → Option ρ × σ) (s : σ) : List β → Option ρ × σ × List β
  | [] => (none, s, [])
  | b :: bs =>
      match step s b with
      | (none, s') => feed step s' bs
      | (some r, s') => (some r, s', bs)

/-- Feeds pieces to a machine.  What is left is what it did not take of the last piece. -/
def feedAll (step : σ → β → Option ρ × σ) (s : σ) : List (List β) → Option ρ × σ × List β
  | [] => (none, s, [])
  | piece :: pieces =>
      match feed step s piece with
      | (none, s', _) => feedAll step s' pieces
      | (some r, s', rest) => (some r, s', rest)

/-- Goes on with the letters `bs` after one step. -/
def goOn (step : σ → β → Option ρ × σ) : Option ρ × σ → List β → Option ρ × σ × List β
  | (none, s), bs => feed step s bs
  | (some r, s), bs => (some r, s, bs)

variable {step : σ → β → Option ρ × σ} {s s' : σ} {r : ρ} {bs rest : List β}

@[simp] lemma feed_nil : feed step s [] = (none, s, []) :=
  rfl

lemma feed_cons (b : β) : feed step s (b :: bs) = goOn step (step s b) bs := by
  rw [feed]
  rcases step s b with ⟨_ | r, s'⟩ <;> rfl

@[simp] lemma goOn_none : goOn step (none, s) bs = feed step s bs :=
  rfl

@[simp] lemma goOn_some : goOn step (some r, s) bs = (some r, s, bs) :=
  rfl

/-- A machine that is fed one list after another goes on in the state that the first one leads to,
unless it has given its verdict before. -/
theorem feed_append (xs ys : List β) :
    feed step s (xs ++ ys) =
      match feed step s xs with
      | (none, s', _) => feed step s' ys
      | (some r, s', rest) => (some r, s', rest ++ ys) := by
  induction xs generalizing s with
  | nil => rfl
  | cons x xs ih =>
      rw [List.cons_append, feed_cons, feed_cons]
      rcases step s x with ⟨_ | r, s'⟩
      · exact ih
      · rfl

/-- **Pieces.**  However the input is cut, the machine gives the same verdict in the same state; of
the whole input it leaves what it leaves of the last piece, and the pieces behind. -/
theorem feedAll_eq (step : σ → β → Option ρ × σ) (s : σ) (pieces : List (List β)) :
    ∃ unread : List β, feed step s pieces.flatten =
      ((feedAll step s pieces).1, (feedAll step s pieces).2.1,
        (feedAll step s pieces).2.2 ++ unread) := by
  induction pieces generalizing s with
  | nil => exact ⟨[], rfl⟩
  | cons piece pieces ih =>
      rw [List.flatten_cons, feed_append, feedAll]
      rcases feed step s piece with ⟨_ | r, s', rest⟩
      · exact ih _
      · exact ⟨pieces.flatten, rfl⟩

/-- **Collecting.**  In the states `loop a` the machine takes the letters that satisfy `p` and
pushes them onto `a`; `out` is its step for any other letter.  It gives a verdict exactly when such
a letter comes and it gives the verdict from there. -/
theorem feed_loop_iff (loop : α → σ) (p : β → Prop) (push : α → β → α) (out : α → β → Option ρ × σ)
    (hin : ∀ a b, p b → step (loop a) b = (none, loop (push a b)))
    (hout : ∀ a b, ¬ p b → step (loop a) b = out a b) (a : α) :
    feed step (loop a) bs = (some r, s', rest) ↔
      ∃ word c bs', bs = word ++ c :: bs' ∧ (∀ b ∈ word, p b) ∧ ¬ p c ∧
        goOn step (out (word.foldl push a) c) bs' = (some r, s', rest) := by
  induction bs generalizing a with
  | nil =>
      refine iff_of_false nofun ?_
      rintro ⟨word, c, bs', hbs, -⟩
      exact absurd hbs.symm (by simp)
  | cons b bs ih =>
      rw [feed_cons]
      by_cases hb : p b
      · rw [hin a b hb, goOn_none, ih]
        constructor
        · rintro ⟨word, c, bs', rfl, hword, hc, hgo⟩
          exact ⟨b :: word, c, bs', rfl, List.forall_mem_cons.mpr ⟨hb, hword⟩, hc, hgo⟩
        · rintro ⟨word, c, bs', hbs, hword, hc, hgo⟩
          cases word with
          | nil =>
              obtain ⟨rfl, rfl⟩ := List.cons.inj hbs
              exact absurd hb hc
          | cons b' word =>
              obtain ⟨rfl, rfl⟩ := List.cons.inj hbs
              exact ⟨word, c, bs', rfl, (List.forall_mem_cons.mp hword).2, hc, hgo⟩
      · rw [hout a b hb]
        constructor
        · intro hgo
          exact ⟨[], b, bs, rfl, nofun, hb, hgo⟩
        · rintro ⟨word, c, bs', hbs, hword, -, hgo⟩
          cases word with
          | nil =>
              obtain ⟨rfl, rfl⟩ := List.cons.inj hbs
              exact hgo
          | cons b' word =>
              obtain ⟨rfl, -⟩ := List.cons.inj hbs
              exact absurd (hword b List.mem_cons_self) hb

/-- **A letter that is expected.**  Where any letter but one ends in the verdict `no`, any other
verdict is given exactly when this letter comes and it is given from there. -/
theorem feed_expect_iff {want : β} {next : σ} {no : ρ} (hwant : step s want = (none, next))
    (hother : ∀ b, b ≠ want → (step s b).1 = some no) (hr : r ≠ no) :
    feed step s bs = (some r, s', rest) ↔
      ∃ bs', bs = want :: bs' ∧ feed step next bs' = (some r, s', rest) := by
  cases bs with
  | nil => exact iff_of_false nofun (by rintro ⟨bs', hbs, -⟩; exact absurd hbs nofun)
  | cons b bs =>
      rw [feed_cons]
      by_cases hb : b = want
      · subst hb
        rw [hwant, goOn_none]
        constructor
        · intro h
          exact ⟨bs, rfl, h⟩
        · rintro ⟨bs', hbs, h⟩
          obtain ⟨-, rfl⟩ := List.cons.inj hbs
          exact h
      · refine iff_of_false ?_ ?_
        · rw [show step s b = (some no, (step s b).2) from Prod.ext (hother b hb) rfl, goOn_some]
          intro h
          exact hr (Option.some.inj (Prod.mk.inj h).1).symm
        · rintro ⟨bs', hbs, -⟩
          exact hb (List.cons.inj hbs).1

/-- **A word and the letter behind it.**  The machine takes letters that satisfy `p`, then the
letter `want`, if what it has collected is `ok`; anything else ends in the verdict `no`. -/
theorem feed_collect_iff (loop next : α → σ) (push : α → β → α) (ok : α → Prop) (p : β → Prop)
    {want : β} {no : ρ} (hin : ∀ a b, p b → step (loop a) b = (none, loop (push a b)))
    (hend : ∀ a, ok a → step (loop a) want = (none, next a))
    (hbad : ∀ a b, ¬ p b → ¬ (ok a ∧ b = want) → (step (loop a) b).1 = some no)
    (hwant : ¬ p want) (hr : r ≠ no) (a : α) :
    feed step (loop a) bs = (some r, s', rest) ↔
      ∃ word bs', bs = word ++ want :: bs' ∧ (∀ b ∈ word, p b) ∧ ok (word.foldl push a) ∧
        feed step (next (word.foldl push a)) bs' = (some r, s', rest) := by
  rw [feed_loop_iff loop p push (fun a b => step (loop a) b) hin (fun a b _ => rfl) a]
  constructor
  · rintro ⟨word, c, bs', rfl, hword, hc, hgo⟩
    by_cases hok : ok (word.foldl push a) ∧ c = want
    · obtain ⟨hok, rfl⟩ := hok
      rw [hend _ hok, goOn_none] at hgo
      exact ⟨word, bs', rfl, hword, hok, hgo⟩
    · -- the letter behind the word ends the run with the verdict `no`
      have hno := hbad (word.foldl push a) c hc hok
      rw [show step (loop (word.foldl push a)) c = (some no, (step (loop (word.foldl push a)) c).2)
        from Prod.ext hno rfl, goOn_some] at hgo
      exact absurd (Option.some.inj (Prod.mk.inj hgo).1).symm hr
  · rintro ⟨word, bs', rfl, hword, hok, hgo⟩
    refine ⟨word, want, bs', rfl, hword, hwant, ?_⟩
    rw [hend _ hok, goOn_none]
    exact hgo

/-- **A word with at least one letter.**  The state `first` takes the first letter of the word as
`loop a` does, and ends in the verdict `no` if it is not one. -/
theorem feed_first_iff (loop next : α → σ) (push : α → β → α) (p : β → Prop) {first : σ} {want : β}
    {no : ρ} {a : α} (hfirst : ∀ b, p b → step first b = step (loop a) b)
    (hno : ∀ b, ¬ p b → (step first b).1 = some no)
    (hin : ∀ a b, p b → step (loop a) b = (none, loop (push a b)))
    (hend : ∀ a, step (loop a) want = (none, next a))
    (hbad : ∀ a b, ¬ p b → b ≠ want → (step (loop a) b).1 = some no)
    (hwant : ¬ p want) (hr : r ≠ no) :
    feed step first bs = (some r, s', rest) ↔
      ∃ word bs', bs = word ++ want :: bs' ∧ word ≠ [] ∧ (∀ b ∈ word, p b) ∧
        feed step (next (word.foldl push a)) bs' = (some r, s', rest) := by
  cases bs with
  | nil => exact iff_of_false nofun (by rintro ⟨word, bs', hbs, -⟩; exact absurd hbs.symm (by simp))
  | cons b bs =>
      by_cases hb : p b
      · have hcollect : feed step (loop a) (b :: bs) = (some r, s', rest) ↔
            ∃ word bs', b :: bs = word ++ want :: bs' ∧ (∀ b ∈ word, p b) ∧ True ∧
              feed step (next (word.foldl push a)) bs' = (some r, s', rest) :=
          feed_collect_iff loop next push (fun _ => True) p hin (fun a _ => hend a)
            (fun a b hb hne => hbad a b hb fun h => hne ⟨trivial, h⟩) hwant hr a
        rw [feed_cons, hfirst b hb, ← feed_cons, hcollect]
        constructor
        · rintro ⟨word, bs', hbs, hword, -, h⟩
          refine ⟨word, bs', hbs, ?_, hword, h⟩
          rintro rfl
          exact hwant ((List.cons.inj hbs).1 ▸ hb)
        · rintro ⟨word, bs', hbs, -, hword, h⟩
          exact ⟨word, bs', hbs, hword, trivial, h⟩
      · refine iff_of_false ?_ ?_
        · rw [feed_cons, show step first b = (some no, (step first b).2) from
            Prod.ext (hno b hb) rfl, goOn_some]
          intro h
          exact hr (Option.some.inj (Prod.mk.inj h).1).symm
        · rintro ⟨word, bs', hbs, hne, hword, -⟩
          cases word with
          | nil => exact hne rfl
          | cons b' word =>
              obtain ⟨rfl, -⟩ := List.cons.inj hbs
              exact hb (hword b List.mem_cons_self)

end Xdpd.Lib
