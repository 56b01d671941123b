import Mathlib.Data.Option.Basic
import Mathlib.Data.List.Basic
import Mathlib.Logic.Relation
import Mathlib.Tactic.Common

/-!
# Transition systems and their runs

A transition system is given by its partial step function `step : σ → ι → Option σ`: in a state,
an action is either not enabled (`none`) or leads to one next state.  A *schedule* is a list of
actions.  `Run step ok s acts s'` says that the schedule `acts` leads from `s` to `s'` and that
every step of it is taken in a state where the side condition `ok` holds of the action; with
`anyStep` for `ok` this is reachability.

`observe` adds history variables to a system: they record what happens and are never read by the
system itself.
-/

namespace Xdpd.Lib

variable {σ ι η : Type*}

/-- The runs of the system `step` all of whose steps satisfy `ok`. -/
inductive Run (step : σ → ι → Option σ) (ok : σ → ι → Prop) : σ → List ι → σ → Prop
  | nil (s : σ) : Run step ok s [] s
  | cons {s s' s'' : σ} {a : ι} {acts : List ι} (hok : ok s a) (hstep : step s a = some s')
      (hrun : Run step ok s' acts s'') : Run step ok s (a :: acts) s''

/-- The side condition that every step meets. -/
def anyStep : σ → ι → Prop := fun _ _ => True

/-- The state a schedule leads to, if every action of it is enabled in turn. -/
def exec (step : σ → ι → Option σ) (s : σ) : List ι → Option σ
  | [] => some s
  | a :: acts => (step s a).bind fun s' => exec step s' acts

/-- The system that refuses the actions for which `ok` fails. -/
def guarded (step : σ → ι → Option σ) (ok : σ → ι → Prop) [∀ s a, Decidable (ok s a)] :
    σ → ι → Option σ :=
  fun s a => if ok s a then step s a else none

/-- The system with a history `η` that `record` updates at each step. -/
def observe (step : σ → ι → Option σ) (record : σ → ι → η → η) : σ × η → ι → Option (σ × η) :=
  fun p a => (step p.1 a).map fun s' => (s', record p.1 a p.2)

/-- What holds of every action of a schedule in the state in which it is taken, where each action
leads to one next state. -/
def AllSteps (next : σ → ι → σ) (P : σ → ι → Prop) : σ → List ι → Prop
  | _, [] => True
  | s, a :: acts => P s a ∧ AllSteps next P (next s a) acts

section Run

variable {step : σ → ι → Option σ} {ok : σ → ι → Prop}

/-- **The invariant rule.**  What every allowed step preserves holds at the end of a run. -/
theorem Run.invariant {Inv : σ → Prop}
    (hstep : ∀ s a s', Inv s → ok s a → step s a = some s' → Inv s')
    {s s' : σ} {acts : List ι} (hrun : Run step ok s acts s') (hs : Inv s) : Inv s' := by
  induction hrun with
  | nil s => exact hs
  | cons hok hs' _ ih => exact ih (hstep _ _ _ hs hok hs')

/-- **Two side conditions.**  If an invariant is kept by the steps that meet `ok'`, and in its
states the steps that meet `ok` are those that meet `ok'`, then both have the same runs. -/
theorem run_congr {ok' : σ → ι → Prop} {Inv : σ → Prop}
    (hiff : ∀ s a s', Inv s → step s a = some s' → (ok s a ↔ ok' s a))
    (hkeep : ∀ s a s', Inv s → ok' s a → step s a = some s' → Inv s')
    {s s' : σ} (hs : Inv s) (acts : List ι) : Run step ok s acts s' ↔ Run step ok' s acts s' := by
  constructor
  · intro hrun
    induction hrun with
    | nil s => exact .nil s
    | cons hok hstep _ ih =>
        have hok' := (hiff _ _ _ hs hstep).mp hok
        exact .cons hok' hstep (ih (hkeep _ _ _ hs hok' hstep))
  · intro hrun
    induction hrun with
    | nil s => exact .nil s
    | cons hok' hstep _ ih =>
        exact .cons ((hiff _ _ _ hs hstep).mpr hok') hstep (ih (hkeep _ _ _ hs hok' hstep))

/-- One run goes on where another one has ended. -/
lemma Run.append {s s' s'' : σ} {acts acts' : List ι} (h : Run step ok s acts s')
    (h' : Run step ok s' acts' s'') : Run step ok s (acts ++ acts') s'' := by
  induction h with
  | nil s => exact h'
  | cons hok hstep _ ih => exact .cons hok hstep (ih h')

/-- A state that is reached step by step is reached by a run. -/
lemma exists_run_of_reflTransGen {s s' : σ}
    (h : Relation.ReflTransGen (fun s s' => ∃ a, step s a = some s') s s') :
    ∃ acts, Run step anyStep s acts s' := by
  induction h using Relation.ReflTransGen.head_induction_on with
  | refl => exact ⟨[], .nil s'⟩
  | head hstep _ ih =>
      obtain ⟨a, ha⟩ := hstep
      obtain ⟨acts, hrun⟩ := ih
      exact ⟨a :: acts, .cons trivial ha hrun⟩

/-- A successful execution is a run. -/
lemma run_of_exec {s s' : σ} {acts : List ι} (h : exec step s acts = some s') :
    Run step anyStep s acts s' := by
  induction acts generalizing s with
  | nil =>
      obtain rfl : s = s' := by simpa [exec] using h
      exact .nil s
  | cons a acts ih =>
      obtain ⟨s₁, hs₁, h₁⟩ := Option.bind_eq_some_iff.mp h
      exact .cons trivial hs₁ (ih h₁)

/-- A successful execution of the guarded system is a run under the guard. -/
lemma run_of_exec_guarded [∀ s a, Decidable (ok s a)] {s s' : σ} {acts : List ι}
    (h : exec (guarded step ok) s acts = some s') : Run step ok s acts s' := by
  induction acts generalizing s with
  | nil =>
      obtain rfl : s = s' := by simpa [exec] using h
      exact .nil s
  | cons a acts ih =>
      obtain ⟨s₁, hs₁, h₁⟩ := Option.bind_eq_some_iff.mp h
      by_cases hok : ok s a
      · rw [guarded, if_pos hok] at hs₁
        exact .cons hok hs₁ (ih h₁)
      · rw [guarded, if_neg hok] at hs₁
        exact absurd hs₁ (by simp)

end Run

/-- **What every step meets.**  If an invariant is kept by the steps that meet `Q`, and in its
states `P` and `Q` are the same, then all steps of a schedule meet `P` exactly when all meet `Q`. -/
theorem allSteps_iff {next : σ → ι → σ} {P Q : σ → ι → Prop} {Inv : σ → Prop}
    (hiff : ∀ s a, Inv s → (P s a ↔ Q s a)) (hkeep : ∀ s a, Inv s → Q s a → Inv (next s a))
    {s : σ} (hs : Inv s) (acts : List ι) : AllSteps next P s acts ↔ AllSteps next Q s acts := by
  induction acts generalizing s with
  | nil => exact Iff.rfl
  | cons a acts ih =>
      rw [AllSteps, AllSteps, hiff s a hs]
      exact and_congr_right fun hQ => ih (hkeep s a hs hQ)

section Observe

variable {step : σ → ι → Option σ} {record : σ → ι → η → η}

/-- A step of the observed system is a step of the system, with the history brought up to date. -/
lemma observe_eq_some {p p' : σ × η} {a : ι} (h : observe step record p a = some p') :
    step p.1 a = some p'.1 ∧ p'.2 = record p.1 a p.2 := by
  obtain ⟨s', hs', rfl⟩ := Option.map_eq_some_iff.mp h
  exact ⟨hs', rfl⟩

/-- A step of the system is one of the observed system. -/
lemma observe_of_step {s s' : σ} {a : ι} (h : step s a = some s') (hist : η) :
    observe step record (s, hist) a = some (s', record s a hist) := by
  rw [observe, h]
  rfl

end Observe

end Xdpd.Lib
