import Mathlib.Tactic.Common

/-!
# Taking steps back

A system makes steps, and for each step there is an operation that takes it back: not to the state
before the step itself, but to one that looks the same.  If the operations do not tell apart states
that look the same, a whole run is taken back by the operations of its steps, the last one first.
-/

namespace Xdpd.Lib

variable {σ ω : Type*}

/-- Operations, one after the other, as long as each has a result. -/
def runAll (run : ω → σ → Option σ) : List ω → σ → Option σ
  | [], s => some s
  | op :: ops, s => (run op s).bind (runAll run ops)

lemma runAll_append (run : ω → σ → Option σ) (ops ops' : List ω) (s : σ) :
    runAll run (ops ++ ops') s = (runAll run ops s).bind (runAll run ops') := by
  induction ops generalizing s with
  | nil => rfl
  | cons op ops ih =>
      rw [List.cons_append, runAll, runAll]
      cases run op s with
      | none => rfl
      | some s' => exact ih s'

/-- A run of steps, with the operations that take them back, the last one first. -/
inductive Stacked (step : σ → ω → σ → Prop) (undo : σ → ω → ω) : σ → List ω → σ → Prop
  | nil (s : σ) : Stacked step undo s [] s
  | cons {s s' s'' : σ} {op : ω} {undos : List ω} (hstep : step s op s')
      (hrest : Stacked step undo s' undos s'') : Stacked step undo s (undos ++ [undo s op]) s''

/-- What makes operations take steps back.  `good` holds before a step and `moved` behind one;
`looks` is for two states that look the same. -/
structure TakesBack (run : ω → σ → Option σ) (step : σ → ω → σ → Prop) (undo : σ → ω → ω)
    (good moved : σ → Prop) (looks : σ → σ → Prop) : Prop where
  back : ∀ {s s' op}, good s → step s op s' →
    moved s' ∧ ∃ r, run (undo s op) s' = some r ∧ looks s r
  good_of_moved : ∀ {s}, moved s → good s
  congr : ∀ {s₀ op s s' r}, moved s → looks s r → run (undo s₀ op) s = some s' →
    ∃ r', run (undo s₀ op) r = some r' ∧ looks s' r'
  trans : ∀ {s s' s''}, looks s s' → looks s' s'' → looks s s''

/-- **A run is taken back** to a state that looks like its first one. -/
theorem TakesBack.runAll {run : ω → σ → Option σ} {step : σ → ω → σ → Prop} {undo : σ → ω → ω}
    {good moved : σ → Prop} {looks : σ → σ → Prop} (h : TakesBack run step undo good moved looks)
    {s s' s'' : σ} {op : ω} {undos : List ω} (hgood : good s) (hstep : step s op s')
    (hrest : Stacked step undo s' undos s'') :
    ∃ r, Lib.runAll run (undos ++ [undo s op]) s'' = some r ∧ looks s r := by
  induction hrest generalizing s op with
  | nil s' =>
      obtain ⟨-, r, hrun, hlooks⟩ := h.back hgood hstep
      refine ⟨r, ?_, hlooks⟩
      rw [List.nil_append, Lib.runAll, hrun]
      rfl
  | @cons s' s₁ s'' op' undos hstep' _ ih =>
      obtain ⟨hmoved, r, hrun, hlooks⟩ := h.back hgood hstep
      -- the steps behind the first one are taken back to a state that looks like `s'`
      obtain ⟨r', hrun', hlooks'⟩ := ih (h.good_of_moved hmoved) hstep'
      obtain ⟨t, ht, hsame⟩ := h.congr hmoved hlooks' hrun
      refine ⟨t, ?_, h.trans hlooks hsame⟩
      rw [runAll_append, hrun', Option.bind_some, Lib.runAll, ht]
      rfl

end Xdpd.Lib
