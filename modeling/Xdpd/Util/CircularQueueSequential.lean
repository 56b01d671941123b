import Xdpd.Util.CircularQueueThreads

/-!
# A `circular_queue` in one thread

While only one thread uses a `circular_queue`, no compare-and-swap fails, and the two pointers of
the writers are the same between the calls.  The queue then is a first-in first-out queue with room
for one element less than it has slots.

`size()` is an `unsigned int`, and the number of slots has 64 bits: the size that is returned is the
number of elements as long as that is below `2 ^ 32` (`refines_iff`).
-/

namespace Xdpd.Util

open Xdpd.Lib

variable {α τ : Type*}

namespace CircularQueue

/-- `non_blocking_write`, by the only thread.  `NULL` is `none`.  A second compare-and-swap that
fails is tried again for ever: the result is `none` then. -/
def nonBlockingWrite (elem : Option α) (q : CircularQueue α) : Option (Bool × CircularQueue α) :=
  let write_cpy := q._writep
  if q.isFull write_cpy q.readp then some (false, q)
  else
    let next := q.circIncPointer write_cpy
    let q := { q with _writep := next }
    let q := { q with elements := Function.update q.elements write_cpy elem }
    if q.writep = write_cpy then some (true, { q with writep := next }) else none

/-- `non_blocking_read`, by the only thread. -/
def nonBlockingRead (q : CircularQueue α) : Option α × CircularQueue α :=
  let read_cpy := q.readp
  if isEmpty q.writep read_cpy then (none, q)
  else (q.elements read_cpy, { q with readp := q.circIncPointer read_cpy })

/-- What `size()` returns. -/
def sizeReturned (q : CircularQueue α) : BitVec 32 :=
  BitVec.ofNat 32 q.size

end CircularQueue

/-! ## The accesses of one thread -/

section Threads

variable [DecidableEq τ] {s : State α τ} {t : τ} {ret : Option (Result α)} {q : CircularQueue α}

/-- Of the accesses in a row of one thread, the last one counts. -/
@[simp] lemma State.goto_goto (c c' : Pc α) (q q' : CircularQueue α) :
    (s.goto t c q).goto t c' q' = s.goto t c' q' := by
  simp [State.goto]

/-- A thread that makes all its accesses in a row makes those of the sequential write. -/
lemma exec_nonBlockingWrite (hidle : s.pc t = .idle ret) {elem : α} {success : Bool}
    (h : s.queue.nonBlockingWrite (some elem) = some (success, q)) :
    ∃ n, exec step s (.nonBlockingWrite t elem :: List.replicate n (.run t)) =
      some (s.goto t (.idle (some (.write success))) q) := by
  rw [CircularQueue.nonBlockingWrite] at h
  by_cases hfull : s.queue.isFull s.queue._writep s.queue.readp = true
  · obtain ⟨rfl, rfl⟩ : false = success ∧ s.queue = q := by simpa [hfull] using h
    exact ⟨2, by simp [exec, step, hidle, access, hfull]⟩
  · simp only [hfull, if_false, Bool.false_eq_true] at h
    split_ifs at h with hcommit
    obtain ⟨rfl, rfl⟩ : true = success ∧ _ = q := by simpa using h
    exact ⟨5, by simp [exec, step, hidle, access, hfull, hcommit]⟩

/-- The same for the read. -/
lemma exec_nonBlockingRead (hidle : s.pc t = .idle ret) :
    ∃ n, exec step s (.nonBlockingRead t :: List.replicate n (.run t)) =
      some (s.goto t (.idle (some (.read s.queue.nonBlockingRead.1)))
        s.queue.nonBlockingRead.2) := by
  rw [CircularQueue.nonBlockingRead]
  by_cases hempty : s.queue.writep = s.queue.readp
  · exact ⟨2, by simp [exec, step, hidle, access, hempty]⟩
  · exact ⟨4, by simp [exec, step, hidle, access, hempty]⟩

end Threads

/-! ## Calls and what they are to do -/

/-- A call of one of the two operations. -/
inductive QueueCall (α : Type*)
  | nonBlockingWrite (elem : Option α)
  | nonBlockingRead
  deriving DecidableEq, Repr

namespace QueueCall

/-- The result of a call and the queue after it. -/
def run : QueueCall α → CircularQueue α → Option (Result α × CircularQueue α)
  | nonBlockingWrite elem, q =>
      (q.nonBlockingWrite elem).map fun (success, q) => (.write success, q)
  | nonBlockingRead, q => some (.read q.nonBlockingRead.1, q.nonBlockingRead.2)

/-- The same for a list that has room for `cap` elements. -/
def fifo (cap : ℕ) : QueueCall α → List (Option α) → Result α × List (Option α)
  | nonBlockingWrite elem, l => (.write (offer cap elem l).1, (offer cap elem l).2)
  | nonBlockingRead, l => (.read l.head?.join, l.tail)

/-- The list does not take the call. -/
def Refused (cap : ℕ) : QueueCall α → List (Option α) → Prop
  | nonBlockingWrite _, l => l.length = cap
  | nonBlockingRead, l => l = []

end QueueCall

/-- `size()`, `is_full()` and `is_empty()` tell what they are to tell about the list. -/
structure Agrees (q : CircularQueue α) (l : List (Option α)) : Prop where
  size : q.sizeReturned.toNat = l.length
  full : q.isFull q.writep q.readp = true ↔ l.length = q.slots - 1
  empty : CircularQueue.isEmpty q.writep q.readp = true ↔ l = []

/-- The calls have the results that they have for the list.  A call that the list refuses, and no
other, leaves the queue as it is.  Before and after all calls the queue agrees with the list. -/
def Refines (cap : ℕ) : CircularQueue α → List (Option α) → List (QueueCall α) → Prop
  | q, l, [] => Agrees q l
  | q, l, call :: calls => Agrees q l ∧ ∃ q', call.run q = some ((call.fifo cap l).1, q') ∧
      (q' = q ↔ call.Refused cap l) ∧ Refines cap q' (call.fifo cap l).2 calls

/-- The list never has more elements than `size()` can tell. -/
def SizeFits (cap : ℕ) : List (Option α) → List (QueueCall α) → Prop
  | l, [] => l.length < 2 ^ 32
  | l, call :: calls => l.length < 2 ^ 32 ∧ SizeFits cap (call.fifo cap l).2 calls

/-! ## The invariant -/

/-- The queue holds the list `l`, from the position `r` on. -/
structure Represents (q : CircularQueue α) (r : ℕ) (l : List (Option α)) : Prop where
  slots : q.slots.isPowerOfTwo
  readp : q.readp = r % q.slots
  writep : q.writep = (r + l.length) % q.slots
  writers : q._writep = q.writep
  fits : l.length < q.slots
  elements : ∀ i < l.length, l[i]? = some (q.elements ((r + i) % q.slots))

section Invariant

variable {q : CircularQueue α} {r : ℕ} {l : List (Option α)} {cap : ℕ}

lemma represents_empty {capacity : ℕ} (h : capacity.isPowerOfTwo) :
    Represents (CircularQueue.empty α capacity) 0 [] where
  slots := h
  readp := (Nat.zero_mod _).symm
  writep := (Nat.zero_mod _).symm
  writers := rfl
  fits := Nat.pos_of_isPowerOfTwo h
  elements := by simp

/-- The pointers are equal when the queue is empty: the elements never fill all slots. -/
lemma Represents.isEmpty_iff (h : Represents q r l) :
    CircularQueue.isEmpty q.writep q.readp = true ↔ l = [] := by
  rw [CircularQueue.isEmpty_eq_true_iff, h.readp, h.writep]
  constructor
  · intro heq
    have hfits := h.fits
    have hpos := eq_of_mod_eq_of_lt_add heq.symm (Nat.le_add_right r l.length) (by omega)
    exact List.eq_nil_of_length_eq_zero (by omega)
  · rintro rfl
    simp

/-- The slot before `readp` is left free. -/
lemma Represents.isFull_iff (h : Represents q r l) :
    q.isFull q.writep q.readp = true ↔ l.length = q.slots - 1 := by
  have hfits := h.fits
  rw [CircularQueue.isFull_eq_true_iff h.slots, h.readp, h.writep, Nat.mod_add_mod]
  constructor
  · intro heq
    by_contra hlt
    have hpos := eq_of_mod_eq_of_lt_add heq.symm (by omega) (by omega)
    omega
  · intro hlen
    have hlap : r + l.length + 1 = r + q.slots := by omega
    rw [hlap, Nat.add_mod_right]

lemma Represents.size_eq (h : Represents q r l) : q.size = l.length := by
  have hfits := h.fits
  rw [CircularQueue.size_eq_sub h.readp h.writep (Nat.le_add_right _ _) (by omega),
    Nat.add_sub_cancel_left]

/-- The queue agrees with the list that it holds as long as the number of elements has 32 bits. -/
lemma Represents.agrees_iff_length_lt (h : Represents q r l) : Agrees q l ↔ l.length < 2 ^ 32 := by
  have hsize : q.sizeReturned.toNat = l.length ↔ l.length < 2 ^ 32 := by
    rw [CircularQueue.sizeReturned, BitVec.toNat_ofNat, h.size_eq]
    exact ⟨fun heq => heq ▸ Nat.mod_lt _ (by decide), Nat.mod_eq_of_lt⟩
  rw [← hsize]
  exact ⟨fun hagrees => hagrees.size, fun hlen => ⟨hlen, h.isFull_iff, h.isEmpty_iff⟩⟩

/-! ## One call -/

/-- A write takes the slot after the last element, or is refused when the slot after that one is
`readp`. -/
lemma Represents.nonBlockingWrite (h : Represents q r l) (elem : Option α) :
    ∃ q', q.nonBlockingWrite elem = some ((offer (q.slots - 1) elem l).1, q') ∧
      (q' = q ↔ l.length = q.slots - 1) ∧ q'.slots = q.slots ∧
      Represents q' r (offer (q.slots - 1) elem l).2 := by
  have hfits := h.fits
  have hpos : 0 < q.slots := by omega
  have hfull := h.isFull_iff
  rw [← h.writers] at hfull
  by_cases hroom : l.length = q.slots - 1
  · refine ⟨q, ?_, by simp [hroom], rfl, ?_⟩
    · rw [CircularQueue.nonBlockingWrite, if_pos (hfull.mpr hroom), offer_of_le elem hroom.ge]
    · rwa [offer_of_le elem hroom.ge]
  · have hlt : l.length < q.slots - 1 := by omega
    have hslot : q._writep = (r + l.length) % q.slots := h.writers.trans h.writep
    have hnext : q.circIncPointer q._writep = (r + l.length + 1) % q.slots := by
      rw [hslot, q.circIncPointer_mod hpos]
    rw [offer_of_lt elem hlt]
    refine ⟨{ q with
        elements := Function.update q.elements q._writep elem
        writep := q.circIncPointer q._writep
        _writep := q.circIncPointer q._writep }, ?_, ?_, rfl, ?_⟩
    · rw [CircularQueue.nonBlockingWrite, if_neg (mt hfull.mp hroom)]
      exact if_pos h.writers.symm
    · refine iff_of_false (fun hsame => ?_) hroom
      -- the pointer of the writers has moved by one slot, and there are two at least
      have hmoved : q.circIncPointer q._writep = q._writep := congrArg CircularQueue._writep hsame
      rw [hnext, hslot] at hmoved
      exact mod_ne_mod_of_lt (Nat.lt_succ_self _) (by omega) hmoved.symm
    · refine ⟨h.slots, h.readp, ?_, rfl, by simpa using by omega, fun i hi => ?_⟩
      · show q.circIncPointer q._writep = _
        rw [hnext, List.length_append, List.length_singleton, Nat.add_assoc]
      · -- the last element is in the slot that has been written, and the others are in other slots
        rw [List.length_append, List.length_singleton] at hi
        by_cases hlast : i = l.length
        · subst hlast
          simp [hslot]
        · have hother : (r + i) % q.slots ≠ q._writep := by
            rw [hslot]
            exact mod_ne_mod_of_lt (by omega) (by omega)
          rw [List.getElem?_append_left (by omega), h.elements i (by omega)]
          show _ = some (Function.update q.elements q._writep elem _)
          rw [Function.update_of_ne hother]

/-- A read takes the oldest element out of the slot `readp`. -/
lemma Represents.nonBlockingRead (h : Represents q r l) :
    q.nonBlockingRead.1 = l.head?.join ∧ (q.nonBlockingRead.2 = q ↔ l = []) ∧
      q.nonBlockingRead.2.slots = q.slots ∧
      ∃ r', Represents q.nonBlockingRead.2 r' l.tail := by
  have hfits := h.fits
  have hpos : 0 < q.slots := by omega
  cases l with
  | nil =>
      have hread : q.nonBlockingRead = (none, q) := if_pos (h.isEmpty_iff.mpr rfl)
      rw [hread]
      exact ⟨rfl, by simp, rfl, r, h⟩
  | cons elem l =>
      rw [List.length_cons] at hfits
      have hread : q.nonBlockingRead =
          (q.elements q.readp, { q with readp := q.circIncPointer q.readp }) :=
        if_neg (mt h.isEmpty_iff.mp (List.cons_ne_nil elem l))
      have hnext : q.circIncPointer q.readp = (r + 1) % q.slots := by
        rw [h.readp, q.circIncPointer_mod hpos]
      have helem : elem = q.elements q.readp := by
        simpa [h.readp] using h.elements 0 (by simp)
      rw [hread]
      refine ⟨helem.symm, iff_of_false (fun hsame => ?_) (List.cons_ne_nil elem l), rfl, r + 1,
        h.slots, hnext, ?_, h.writers, Nat.lt_of_succ_lt hfits, fun i hi => ?_⟩
      · have hmoved : q.circIncPointer q.readp = q.readp := congrArg CircularQueue.readp hsame
        rw [hnext, h.readp] at hmoved
        exact mod_ne_mod_of_lt (Nat.lt_succ_self r) (by omega) hmoved.symm
      · show q.writep = (r + 1 + l.length) % q.slots
        rw [h.writep, List.length_cons, Nat.add_right_comm, Nat.add_assoc]
      · -- what was after the first element is now one position further on
        have helems := h.elements (i + 1) (by simpa using hi)
        rw [List.getElem?_cons_succ] at helems
        rw [List.tail_cons, helems, Nat.add_right_comm, Nat.add_assoc]

/-- **One call.**  Its result is that for the list, and the queue holds what is left of the list. -/
lemma Represents.run (h : Represents q r l) (call : QueueCall α) :
    ∃ q', call.run q = some ((call.fifo (q.slots - 1) l).1, q') ∧
      (q' = q ↔ call.Refused (q.slots - 1) l) ∧ q'.slots = q.slots ∧
      ∃ r', Represents q' r' (call.fifo (q.slots - 1) l).2 := by
  cases call with
  | nonBlockingWrite elem =>
      obtain ⟨q', hwrite, hrefused, hslots, hq'⟩ := h.nonBlockingWrite elem
      refine ⟨q', ?_, hrefused, hslots, r, hq'⟩
      rw [QueueCall.run, hwrite]
      rfl
  | nonBlockingRead =>
      obtain ⟨hread, hrefused, hslots, hq'⟩ := h.nonBlockingRead
      refine ⟨_, ?_, hrefused, hslots, hq'⟩
      rw [QueueCall.run, hread]
      rfl

/-! ## All calls -/

/-- A queue that holds the list refines it as long as `size()` can tell its length. -/
lemma Represents.refines_iff_sizeFits (h : Represents q r l) (calls : List (QueueCall α)) :
    Refines (q.slots - 1) q l calls ↔ SizeFits (q.slots - 1) l calls := by
  induction calls generalizing q r l with
  | nil => exact h.agrees_iff_length_lt
  | cons call calls ih =>
      obtain ⟨q', hrun, hrefused, hslots, r', hq'⟩ := h.run call
      have hrest := ih hq'
      rw [hslots] at hrest
      rw [Refines, SizeFits, h.agrees_iff_length_lt, ← hrest]
      refine and_congr_right fun _ => ⟨?_, fun hnext => ⟨q', hrun, hrefused, hnext⟩⟩
      rintro ⟨q'', hrun', -, hnext⟩
      obtain rfl : q' = q'' := by simpa [hrun] using hrun'
      exact hnext

end Invariant

/-- **A `circular_queue` in one thread** is a first-in first-out queue with room for one element
less than it has slots, for all calls, if and only if it never holds `2 ^ 32` elements. -/
theorem refines_iff {capacity : ℕ} {q : CircularQueue α}
    (h : CircularQueue.circularQueue α capacity = some q) (calls : List (QueueCall α)) :
    Refines (capacity - 1) q [] calls ↔ SizeFits (capacity - 1) [] calls := by
  obtain ⟨rfl, hcapacity⟩ := CircularQueue.eq_empty_of_circularQueue h
  exact (represents_empty hcapacity).refines_iff_sizeFits calls

/-- With up to `2 ^ 32` slots there are never too many elements. -/
lemma sizeFits_of_le {cap : ℕ} (hcap : cap < 2 ^ 32) {l : List (Option α)} (hl : l.length ≤ cap)
    (calls : List (QueueCall α)) : SizeFits cap l calls := by
  induction calls generalizing l with
  | nil => exact hl.trans_lt hcap
  | cons call calls ih =>
      refine ⟨hl.trans_lt hcap, ih ?_⟩
      cases call with
      | nonBlockingWrite elem => exact length_offer_le elem hl
      | nonBlockingRead =>
          show l.tail.length ≤ cap
          rw [List.length_tail]
          omega

/-- Three writes and a read, in a ring of four slots. -/
theorem refines_fourSlots :
    ∃ q, CircularQueue.circularQueue ℕ 4 = some q ∧
      Refines 3 q [] [.nonBlockingWrite (some 1), .nonBlockingWrite none, .nonBlockingRead,
        .nonBlockingWrite (some 2)] :=
  ⟨_, rfl, (refines_iff (show CircularQueue.circularQueue ℕ 4 = some _ from rfl) _).mpr
    (sizeFits_of_le (by decide) (Nat.zero_le 3) _)⟩

/-- As many writes as there is room for leave as many elements. -/
lemma length_lt_of_sizeFits {cap n : ℕ} {elem : Option α} {l : List (Option α)}
    (hroom : l.length + n ≤ cap)
    (h : SizeFits cap l (List.replicate n (.nonBlockingWrite elem))) : l.length + n < 2 ^ 32 := by
  induction n generalizing l with
  | zero => exact h
  | succ n ih =>
      have hlt : l.length < cap := by omega
      have hrest := h.2
      rw [QueueCall.fifo, offer_of_lt elem hlt] at hrest
      have hlen := ih (by simpa using by omega) hrest
      rw [List.length_append, List.length_singleton] at hlen
      omega

/-- A queue of `2 ^ 33` slots with `2 ^ 32` elements has the size zero. -/
theorem not_refines_of_large :
    ∃ q, CircularQueue.circularQueue Unit (2 ^ 33) = some q ∧
      ¬ Refines (2 ^ 33 - 1) q [] (List.replicate (2 ^ 32) (.nonBlockingWrite (some ()))) := by
  refine ⟨CircularQueue.empty Unit (2 ^ 33), if_neg (by decide), fun hrefines => ?_⟩
  have hcapacity : (2 ^ 33 : ℕ).isPowerOfTwo := ⟨33, rfl⟩
  have hfits := ((represents_empty (α := Unit) hcapacity).refines_iff_sizeFits _).mp hrefines
  have hlen := length_lt_of_sizeFits (by decide) hfits
  rw [List.length_nil, Nat.zero_add] at hlen
  exact absurd hlen (Nat.lt_irrefl _)

end Xdpd.Util
