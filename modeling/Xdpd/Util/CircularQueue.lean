import Mathlib.Tactic.Ring
import Xdpd.Lib.RingIndex

/-!
# The ring of `circular_queue.h`

`circular_queue<T>` is an array of `slots` pointers with three pointers into it: `readp` and
`writep`, between which the queued elements lie, and `_writep`, which only the writers use.  A
pointer into `elements` is modelled by its index.  This file has the data structure and its small
functions; the two operations, which are several atomic steps each, are in
`Xdpd.Util.CircularQueueThreads`.
-/

namespace Xdpd.Util

open Xdpd.Lib

variable {α : Type*}

/-- `circular_queue<T>`.  A slot that holds `NULL` is `none`. -/
structure CircularQueue (α : Type*) where
  slots : ℕ
  elements : ℕ → Option α
  writep : ℕ
  _writep : ℕ
  readp : ℕ

namespace CircularQueue

/-- The empty queue that the constructor sets up. -/
def empty (α : Type*) (capacity : ℕ) : CircularQueue α where
  slots := capacity
  elements := fun _ => none
  writep := 0
  _writep := 0
  readp := 0

/-- The constructor.  `none` is the exception `eCircularQueueInvalidSize`. -/
def circularQueue (α : Type*) (capacity : ℕ) : Option (CircularQueue α) :=
  if capacity &&& (capacity - 1) ≠ 0 ∨ capacity = 0 then none else some (empty α capacity)

/-- `is_full(T*** write, T*** read)`. -/
def isFull (q : CircularQueue α) (write read : ℕ) : Bool :=
  (write + 1) &&& (q.slots - 1) == read

/-- `is_empty(T*** write, T*** read)`. -/
def isEmpty (write read : ℕ) : Bool :=
  write == read

/-- `circ_inc_pointer`. -/
def circIncPointer (q : CircularQueue α) (pointer : ℕ) : ℕ :=
  if q.slots = pointer + 1 then 0 else pointer + 1

/-- `size()`. -/
def size (q : CircularQueue α) : ℕ :=
  if q.readp ≤ q.writep then q.writep - q.readp else q.slots - (q.readp - q.writep)

/-- The slots from `readp` up to `writep`: what the queue holds, oldest first. -/
def pending (q : CircularQueue α) : List (Option α) :=
  (List.range' q.readp q.size).map fun i => q.elements (i % q.slots)

/-- A constructed queue is empty, and its capacity is a power of two. -/
lemma eq_empty_of_circularQueue {capacity : ℕ} {q : CircularQueue α}
    (h : circularQueue α capacity = some q) : q = empty α capacity ∧ capacity.isPowerOfTwo := by
  unfold circularQueue at h
  split_ifs at h with hc
  push Not at hc
  exact ⟨(Option.some.inj h).symm, Nat.ne_zero_and_sub_one_eq_zero_iff_isPowerOfTwo.mp ⟨hc.2, hc.1⟩⟩

lemma isFull_eq_true_iff {q : CircularQueue α} (hq : q.slots.isPowerOfTwo) (write read : ℕ) :
    q.isFull write read = true ↔ (write + 1) % q.slots = read := by
  rw [isFull, beq_iff_eq, and_sub_one_eq_mod hq]

@[simp] lemma isEmpty_eq_true_iff (write read : ℕ) : isEmpty write read = true ↔ write = read := by
  simp [isEmpty]

/-- On the slot of a position, `circ_inc_pointer` gives the slot of the next position. -/
lemma circIncPointer_mod (q : CircularQueue α) (hq : 0 < q.slots) (a : ℕ) :
    q.circIncPointer (a % q.slots) = (a + 1) % q.slots :=
  (mod_succ_eq_ite hq).symm

/-- `size()` is the distance between the positions of `readp` and `writep`. -/
lemma size_eq_sub {q : CircularQueue α} {r w : ℕ} (hr : q.readp = r % q.slots)
    (hw : q.writep = w % q.slots) (hrw : r ≤ w) (hwr : w < r + q.slots) : q.size = w - r := by
  have hrdiv := Nat.div_add_mod r q.slots
  have hwdiv := Nat.div_add_mod w q.slots
  have hrlt : r % q.slots < q.slots := Nat.mod_lt _ (by omega)
  have hwlt : w % q.slots < q.slots := Nat.mod_lt _ (by omega)
  -- `w` is in the same lap of the ring as `r`, or in the next one
  have hlap : w / q.slots = r / q.slots ∨ w / q.slots = r / q.slots + 1 := by
    have hle : r / q.slots ≤ w / q.slots := Nat.div_le_div_right hrw
    have hlt : w / q.slots < r / q.slots + 2 := by
      rw [Nat.div_lt_iff_lt_mul (by omega)]
      have hmul : (r / q.slots + 2) * q.slots = q.slots * (r / q.slots) + 2 * q.slots := by ring
      omega
    omega
  unfold size
  rw [hr, hw]
  rcases hlap with h | h
  · rw [h] at hwdiv
    rw [if_pos (by omega)]
    omega
  · rw [h, Nat.mul_add, Nat.mul_one] at hwdiv
    rw [if_neg (by omega)]
    omega

/-- What the queue holds, by the positions of its elements. -/
lemma pending_eq {q : CircularQueue α} {r w : ℕ} (hr : q.readp = r % q.slots)
    (hw : q.writep = w % q.slots) (hrw : r ≤ w) (hwr : w < r + q.slots) :
    q.pending = (List.range' r (w - r)).map fun i => q.elements (i % q.slots) := by
  rw [pending, size_eq_sub hr hw hrw hwr, hr, List.range'_eq_map_range, List.range'_eq_map_range,
    List.map_map, List.map_map]
  refine List.map_congr_left fun i _ => ?_
  simp only [Function.comp_apply, Nat.mod_add_mod]

end CircularQueue

end Xdpd.Util
