import Mathlib.Data.List.Basic
import Mathlib.Data.List.Infix
import Mathlib.Tactic.Common

/-!
# First-in first-out queues, as a specification

The operations on a shared queue are recorded as a list of events, in the order in which they take
effect.  `replay` runs such a list against an ideal unbounded queue and fails as soon as a read
returns anything but the oldest element present.  A log that replays is therefore one in which no
element is returned twice, lost, invented or reordered (`writes_eq_reads_append`).

A bounded queue refuses an element that it has no room for: `offer`.
-/

namespace Xdpd.Lib

variable {α : Type*}

/-- An operation on a queue that has taken effect. -/
inductive FifoEvent (α : Type*)
  /-- `e` has been added at the back -/
  | wrote (e : α)
  /-- a read has returned `v`; `none` stands for a slot that holds no element -/
  | returned (v : Option α)
  deriving DecidableEq, Repr

namespace FifoEvent

/-- The elements added, in order. -/
def writes : List (FifoEvent α) → List α
  | [] => []
  | wrote e :: log => e :: writes log
  | returned _ :: log => writes log

/-- The values returned, in order. -/
def reads : List (FifoEvent α) → List (Option α)
  | [] => []
  | wrote _ :: log => reads log
  | returned v :: log => v :: reads log

variable [DecidableEq α]

/-- The content of the ideal queue after one event, if it is a legal one. -/
def apply (q : List α) : FifoEvent α → Option (List α)
  | wrote e => some (q ++ [e])
  | returned v => if v = q.head? ∧ q ≠ [] then some q.tail else none

/-- The content of the ideal queue after a log, if every event of it is legal. -/
def replay (q : List α) : List (FifoEvent α) → Option (List α)
  | [] => some q
  | ev :: log => (apply q ev).bind fun q' => replay q' log

lemma replay_append (q : List α) (log log' : List (FifoEvent α)) :
    replay q (log ++ log') = (replay q log).bind fun q' => replay q' log' := by
  induction log generalizing q with
  | nil => rfl
  | cons ev log ih =>
      simp only [List.cons_append, replay, Option.bind_assoc]
      exact congrArg _ (funext fun q' => ih q')

/-- Appending a write to a log that replays appends the element. -/
lemma replay_snoc_wrote {q l : List α} {log : List (FifoEvent α)} (h : replay q log = some l)
    (e : α) : replay q (log ++ [wrote e]) = some (l ++ [e]) := by
  simp [replay_append, h, replay, apply]

/-- Appending a read of the oldest element to a log that replays removes that element. -/
lemma replay_snoc_returned {q l : List α} {x : α} {log : List (FifoEvent α)}
    (h : replay q log = some (x :: l)) :
    replay q (log ++ [returned (some x)]) = some l := by
  simp [replay_append, h, replay, apply]

/-- **What a log that replays says.**  The elements written, in order, are the values returned, in
order, followed by what is still in the queue. -/
theorem writes_eq_reads_append {q l : List α} {log : List (FifoEvent α)}
    (h : replay q log = some l) :
    (q ++ writes log).map some = reads log ++ l.map some := by
  induction log generalizing q with
  | nil =>
      obtain rfl : q = l := by simpa [replay] using h
      simp [writes, reads]
  | cons ev log ih =>
      obtain ⟨q', hq', h'⟩ := Option.bind_eq_some_iff.mp h
      cases ev with
      | wrote e =>
          obtain rfl : q ++ [e] = q' := by simpa [apply] using hq'
          simpa [writes, reads] using ih h'
      | returned v =>
          cases q with
          | nil => simp [apply] at hq'
          | cons x q =>
              obtain ⟨rfl, rfl⟩ : v = some x ∧ q = q' := by
                simpa [apply] using hq'
              simpa [writes, reads] using ih h'

end FifoEvent

/-! ## Bounded queues -/

/-- An element is added at the back of a queue of the capacity `cap`, or refused. -/
def offer (cap : ℕ) (e : α) (l : List α) : Bool × List α :=
  if l.length < cap then (true, l ++ [e]) else (false, l)

variable {cap : ℕ} {l : List α}

lemma offer_of_lt (e : α) (h : l.length < cap) : offer cap e l = (true, l ++ [e]) :=
  if_pos h

lemma offer_of_le (e : α) (h : cap ≤ l.length) : offer cap e l = (false, l) :=
  if_neg (Nat.not_lt.mpr h)

/-- A queue stays within its capacity. -/
lemma length_offer_le (e : α) (h : l.length ≤ cap) : (offer cap e l).2.length ≤ cap := by
  by_cases hlt : l.length < cap
  · rw [offer_of_lt e hlt, List.length_append]
    exact hlt
  · simpa [offer_of_le e (Nat.not_lt.mp hlt)] using h

end Xdpd.Lib
