import Xdpd.Lib.Transition
import Xdpd.Lib.Fifo
import Xdpd.Util.CircularQueue

/-!
# Readers and writers of a `circular_queue`

`non_blocking_write` and `non_blocking_read` run in any number of threads.  A thread is at a program
point `Pc`, one for each load, store or compare-and-swap that it is about to make, and holds the
local variables that are live there.  The memory is sequentially consistent: `step` lets one thread
make one access.

The history of a run is not seen by the code.  It numbers the positions that writers have claimed
and committed and that readers have taken, remembers for every thread the number of the position
it loaded last, and logs the operations in the order in which they take effect.
-/

namespace Xdpd.Util

open Xdpd.Lib

variable {α τ : Type*}

/-- What a call gave back to its caller. -/
inductive Result (α : Type*)
  /-- `ROFL_SUCCESS` or `ROFL_FAILURE` of `non_blocking_write` -/
  | write (success : Bool)
  /-- the pointer that `non_blocking_read` returned; `none` is `NULL` -/
  | read (to_return : Option α)
  deriving DecidableEq, Repr

/-- The next access of a thread. -/
inductive Pc (α : Type*)
  /-- outside the queue, with the result of the last call -/
  | idle (ret : Option (Result α))
  /-- `write_cpy = _writep` -/
  | writeTop (elem : α)
  /-- the load of `readp` in `is_full(&write_cpy, &readp)` -/
  | writeFull (elem : α) (write_cpy : ℕ)
  /-- the compare-and-swap of `_writep` -/
  | writeClaim (elem : α) (write_cpy next : ℕ)
  /-- `*write_cpy = elem` -/
  | writeStore (elem : α) (write_cpy next : ℕ)
  /-- the compare-and-swap of `writep` -/
  | writeCommit (elem : α) (write_cpy next : ℕ)
  /-- `read_cpy = readp` -/
  | readTop
  /-- the load of `writep` in `is_empty(&writep, &read_cpy)` -/
  | readEmpty (read_cpy : ℕ)
  /-- `to_return = *read_cpy` -/
  | readElem (read_cpy : ℕ)
  /-- the compare-and-swap of `readp` -/
  | readAdvance (to_return : Option α) (read_cpy next : ℕ)
  deriving DecidableEq, Repr

/-- The shared queue and the program points of the threads `τ`. -/
structure State (α τ : Type*) where
  queue : CircularQueue α
  pc : τ → Pc α

/-- A thread calls one of the two operations, or makes its next access. -/
inductive Action (α τ : Type*)
  | nonBlockingWrite (t : τ) (elem : α)
  | nonBlockingRead (t : τ)
  | run (t : τ)
  deriving DecidableEq, Repr

variable [DecidableEq τ]

/-- Thread `t` goes to the program point `c`, the queue becoming `q`. -/
def State.goto (s : State α τ) (t : τ) (c : Pc α) (q : CircularQueue α := s.queue) : State α τ where
  queue := q
  pc := Function.update s.pc t c

@[simp] lemma State.goto_queue (s : State α τ) (t : τ) (c : Pc α) (q : CircularQueue α) :
    (s.goto t c q).queue = q := rfl

@[simp] lemma State.goto_pc (s : State α τ) (t : τ) (c : Pc α) (q : CircularQueue α) :
    (s.goto t c q).pc = Function.update s.pc t c := rfl

/-- The next access of thread `t`. -/
def access (s : State α τ) (t : τ) : Option (State α τ) :=
  let q := s.queue
  match s.pc t with
  | .idle _ => none
  | .writeTop elem => some (s.goto t (.writeFull elem q._writep))
  | .writeFull elem write_cpy =>
      if q.isFull write_cpy q.readp then
        some (s.goto t (.idle (some (.write false))))
      else
        some (s.goto t (.writeClaim elem write_cpy (q.circIncPointer write_cpy)))
  | .writeClaim elem write_cpy next =>
      if q._writep = write_cpy then
        some (s.goto t (.writeStore elem write_cpy next) { q with _writep := next })
      else
        some (s.goto t (.writeTop elem))
  | .writeStore elem write_cpy next =>
      some (s.goto t (.writeCommit elem write_cpy next)
        { q with elements := Function.update q.elements write_cpy (some elem) })
  | .writeCommit elem write_cpy next =>
      if q.writep = write_cpy then
        some (s.goto t (.idle (some (.write true))) { q with writep := next })
      else
        some (s.goto t (.writeCommit elem write_cpy next))
  | .readTop => some (s.goto t (.readEmpty q.readp))
  | .readEmpty read_cpy =>
      if CircularQueue.isEmpty q.writep read_cpy then
        some (s.goto t (.idle (some (.read none))))
      else
        some (s.goto t (.readElem read_cpy))
  | .readElem read_cpy =>
      some (s.goto t (.readAdvance (q.elements read_cpy) read_cpy (q.circIncPointer read_cpy)))
  | .readAdvance to_return read_cpy next =>
      if q.readp = read_cpy then
        some (s.goto t (.idle (some (.read to_return))) { q with readp := next })
      else
        some (s.goto t .readTop)

/-- One step of the threads.  A thread calls an operation only when it is outside the queue. -/
def step (s : State α τ) : Action α τ → Option (State α τ)
  | .nonBlockingWrite t elem =>
      match s.pc t with
      | .idle _ => some (s.goto t (.writeTop elem))
      | _ => none
  | .nonBlockingRead t =>
      match s.pc t with
      | .idle _ => some (s.goto t .readTop)
      | _ => none
  | .run t => access s t

/-- The history of a run. -/
structure History (α τ : Type*) where
  /-- the number of positions claimed, that is of swaps of `_writep` -/
  claims : ℕ
  /-- the number of positions committed, that is of swaps of `writep` -/
  commits : ℕ
  /-- the number of positions read, that is of swaps of `readp` -/
  reads : ℕ
  /-- the position whose slot the thread loaded last -/
  stamp : τ → ℕ
  /-- the operations that have taken effect -/
  log : List (FifoEvent α)

/-- A write takes effect when it swaps `writep`, a read when it swaps `readp`. -/
def record (s : State α τ) (a : Action α τ) (h : History α τ) : History α τ :=
  match a with
  | .nonBlockingWrite _ _ => h
  | .nonBlockingRead _ => h
  | .run t =>
      match s.pc t with
      | .writeTop _ => { h with stamp := Function.update h.stamp t h.claims }
      | .readTop => { h with stamp := Function.update h.stamp t h.reads }
      | .writeClaim _ write_cpy _ =>
          if s.queue._writep = write_cpy then { h with claims := h.claims + 1 } else h
      | .writeCommit elem write_cpy _ =>
          if s.queue.writep = write_cpy then
            { h with commits := h.commits + 1, log := h.log ++ [.wrote elem] }
          else h
      | .readAdvance to_return read_cpy _ =>
          if s.queue.readp = read_cpy then
            { h with reads := h.reads + 1, log := h.log ++ [.returned to_return] }
          else h
      | _ => h

/-- The threads with their history. -/
abbrev observed : State α τ × History α τ → Action α τ → Option (State α τ × History α τ) :=
  observe step record

/-- The queue `q` with all threads outside it and nothing recorded. -/
def start (q : CircularQueue α) : State α τ × History α τ :=
  ({ queue := q, pc := fun _ => .idle none },
    { claims := 0, commits := 0, reads := 0, stamp := fun _ => 0, log := [] })

/-- The queue is linearisable so far: its log is that of a first-in first-out queue, whose content
is what lies between `readp` and `writep`. -/
def Linearised [DecidableEq α] (p : State α τ × History α τ) : Prop :=
  ∃ l, FifoEvent.replay [] p.2.log = some l ∧ p.1.queue.pending = l.map some

instance [DecidableEq α] (p : State α τ × History α τ) : Decidable (Linearised p) :=
  match h : FifoEvent.replay [] p.2.log with
  | none => isFalse fun ⟨l, hl, _⟩ => by simp [h] at hl
  | some l => decidable_of_iff (p.1.queue.pending = l.map some)
      ⟨fun hp => ⟨l, h, hp⟩, fun ⟨l', hl', hp⟩ => by
        obtain rfl : l = l' := Option.some.inj (h.symm.trans hl')
        exact hp⟩

omit [DecidableEq τ] in
/-- In a linearisable history, what has been written is what has been read, followed by what is in
the queue. -/
lemma Linearised.writes_eq [DecidableEq α] {p : State α τ × History α τ} (h : Linearised p) :
    (FifoEvent.writes p.2.log).map some = FifoEvent.reads p.2.log ++ p.1.queue.pending := by
  obtain ⟨l, hlog, hpending⟩ := h
  rw [hpending]
  exact FifoEvent.writes_eq_reads_append hlog

/-- A thread at this program point, having loaded the position `stamp`, does not swap a recycled
index: if the index that it is about to swap compares equal to the one that it loaded, then that
index has not been moved since. -/
def Pc.NotRecycled (q : CircularQueue α) (h : History α τ) (stamp : ℕ) : Pc α → Prop
  | .writeClaim _ write_cpy _ => q._writep = write_cpy → h.claims = stamp
  | .readAdvance _ read_cpy _ => q.readp = read_cpy → h.reads = stamp
  | _ => True

/-- The step does not swap a recycled index. -/
def NotRecycled (p : State α τ × History α τ) : Action α τ → Prop
  | .run t => (p.1.pc t).NotRecycled p.1.queue p.2 (p.2.stamp t)
  | _ => True

instance (q : CircularQueue α) (h : History α τ) (stamp : ℕ) :
    ∀ pc : Pc α, Decidable (pc.NotRecycled q h stamp)
  | .writeClaim _ write_cpy _ => inferInstanceAs (Decidable (q._writep = write_cpy → _))
  | .readAdvance _ read_cpy _ => inferInstanceAs (Decidable (q.readp = read_cpy → _))
  | .idle _ | .writeTop _ | .writeFull _ _ | .writeStore _ _ _ | .writeCommit _ _ _ | .readTop
  | .readEmpty _ | .readElem _ => inferInstanceAs (Decidable True)

instance (p : State α τ × History α τ) : ∀ a : Action α τ, Decidable (NotRecycled p a)
  | .run t => inferInstanceAs (Decidable ((p.1.pc t).NotRecycled p.1.queue p.2 (p.2.stamp t)))
  | .nonBlockingWrite _ _ | .nonBlockingRead _ => inferInstanceAs (Decidable True)

end Xdpd.Util
