import Mathlib.Logic.Function.Iterate
import Mathlib.Logic.Relation
import Mathlib.Order.WellFounded
import Mathlib.Tactic.Common

/-!
# Calls that call

Each call makes further calls, one after the other.  They are on a stack, and a step replaces the
call on top of it by those that it makes.  The calls that are below it do not matter to a call, so
that the stack becomes empty exactly if no calls follow each other without end (`ends_iff_acc`,
`ends_iff_of_rounds`).
-/

namespace Xdpd.Lib

variable {T V : Type*} (calls : T → List T)

/-- One step. -/
def popCall : List T → List T
  | [] => []
  | t :: stack => calls t ++ stack

/-- The call and all that follow from it are done after finitely many steps. -/
def Ends (t : T) : Prop := ∃ n, (popCall calls)^[n] [t] = []

/-- The first call is made by the second. -/
def MadeBy (t u : T) : Prop := t ∈ calls u

variable {calls}

lemma popCall_append {stack : List T} (h : stack ≠ []) (below : List T) :
    popCall calls (stack ++ below) = popCall calls stack ++ below := by
  cases stack with
  | nil => exact absurd rfl h
  | cons t stack => rw [List.cons_append, popCall, popCall, List.append_assoc]

lemma iterate_popCall_nil (n : ℕ) : (popCall calls)^[n] [] = [] :=
  Function.iterate_fixed rfl n

/-- What is done together is done alone. -/
lemma iterate_popCall_of_append {n : ℕ} {stack below : List T}
    (h : (popCall calls)^[n] (stack ++ below) = []) :
    (popCall calls)^[n] stack = [] ∧ (popCall calls)^[n] below = [] := by
  induction n generalizing stack with
  | zero => exact List.append_eq_nil_iff.mp h
  | succ n ih =>
      rcases eq_or_ne stack [] with rfl | hne
      · exact ⟨iterate_popCall_nil _, h⟩
      · rw [Function.iterate_succ_apply, popCall_append hne] at h
        obtain ⟨hstack, hbelow⟩ := ih h
        refine ⟨hstack, ?_⟩
        rw [Function.iterate_succ_apply', hbelow]
        rfl

/-- What is done alone is done before the calls below it. -/
lemma exists_iterate_popCall_append {n : ℕ} {stack : List T} (below : List T)
    (h : (popCall calls)^[n] stack = []) :
    ∃ m, (popCall calls)^[m] (stack ++ below) = below := by
  induction n generalizing stack with
  | zero =>
      obtain rfl : stack = [] := h
      exact ⟨0, rfl⟩
  | succ n ih =>
      rcases eq_or_ne stack [] with rfl | hne
      · exact ⟨0, rfl⟩
      · obtain ⟨m, hm⟩ := ih h
        refine ⟨m + 1, ?_⟩
        rw [Function.iterate_succ_apply, popCall_append hne]
        exact hm

lemma exists_iterate_popCall_of_forall {stack : List T} (h : ∀ t ∈ stack, Ends calls t) :
    ∃ n, (popCall calls)^[n] stack = [] := by
  induction stack with
  | nil => exact ⟨0, rfl⟩
  | cons t stack ih =>
      obtain ⟨⟨n, hn⟩, hrest⟩ := List.forall_mem_cons.mp h
      obtain ⟨m, hm⟩ := exists_iterate_popCall_append stack hn
      obtain ⟨k, hk⟩ := ih hrest
      refine ⟨k + m, ?_⟩
      rw [Function.iterate_add_apply]
      exact (congrArg _ hm).trans hk

/-- **Where calls end.**  A call ends exactly if there is no infinite descent among the calls. -/
theorem ends_iff_acc {t : T} : Ends calls t ↔ Acc (MadeBy calls) t := by
  constructor
  · rintro ⟨n, hn⟩
    induction n generalizing t with
    | zero => exact absurd hn (List.cons_ne_nil t [])
    | succ n ih =>
        refine .intro t fun u hu => ih ?_
        obtain ⟨before, after, hsplit⟩ := List.append_of_mem hu
        have hcalls : (popCall calls)^[n] (before ++ ([u] ++ after)) = [] := by
          have hn' : (popCall calls)^[n] (calls t ++ []) = [] := hn
          rwa [List.append_nil, hsplit] at hn'
        exact (iterate_popCall_of_append (iterate_popCall_of_append hcalls).2).1
  · intro hacc
    induction hacc with
    | intro t _ ih =>
        obtain ⟨n, hn⟩ := exists_iterate_popCall_of_forall ih
        refine ⟨n + 1, ?_⟩
        rw [Function.iterate_succ_apply, popCall, List.append_nil]
        exact hn

/-- **Rounds of calls.**  Some calls are taken as the rounds, and any other calls come to an end or
to a next round.  A round ends exactly if there is no infinite sequence of rounds. -/
theorem ends_iff_of_rounds {round : V → T} {LeadsTo : V → V → Prop}
    (hleads : ∀ v w, LeadsTo v w → Relation.TransGen (MadeBy calls) (round w) (round v))
    (hround : ∀ v, (∀ w, LeadsTo v w → Acc (MadeBy calls) (round w)) →
      Acc (MadeBy calls) (round v)) (v : V) :
    Ends calls (round v) ↔ ¬ ∃ f : ℕ → V, f 0 = v ∧ ∀ n, LeadsTo (f n) (f (n + 1)) := by
  have hchain : (∃ f : ℕ → V, f 0 = v ∧ ∀ n, LeadsTo (f n) (f (n + 1))) ↔
      ¬ Acc (fun w v => LeadsTo v w) v :=
    (not_acc_iff_exists_descending_chain (r := fun w v => LeadsTo v w)).symm
  rw [ends_iff_acc, hchain, not_not]
  clear hchain
  constructor
  · intro hacc
    have hsub : Subrelation (fun w v => LeadsTo v w)
        (InvImage (Relation.TransGen (MadeBy calls)) round) := fun {w v} h => hleads v w h
    exact hsub.accessible (InvImage.accessible round hacc.transGen)
  · intro hacc
    induction hacc with
    | intro v _ ih => exact hround v ih

end Xdpd.Lib
