import Mathlib.Algebra.BigOperators.Fin
import Mathlib.Algebra.Order.BigOperators.Group.Finset
import Mathlib.Algebra.Order.Group.Int
import Xdpd.Io.Datapacketx86

/-!
# Queues with a notification pipe

The queues of a port are served by a thread that waits in `epoll` for a pipe: who stores a packet in
one of the queues writes a byte into the pipe.  Who takes packets counts them (`deferred_drain`),
and reads that many bytes from the pipe after a batch.

The bytes in the pipe, the packets in the queues and the counter are in balance, but for the bytes
that could not be written because the pipe was full (`Lost`).
-/

namespace Xdpd.Io

/-! ## Pipes -/

/-- A pipe whose ends do not block, by the bytes that can be in it and that are. -/
structure NotifyPipe where
  capacity : ℕ
  unread : ℕ
  deriving DecidableEq, Repr

namespace NotifyPipe

/-- `::write(pipe[WRITE], &c, sizeof(c))`.  It fails if the pipe is full; nobody looks at the
result. -/
def write (p : NotifyPipe) : NotifyPipe :=
  if p.unread < p.capacity then { p with unread := p.unread + 1 } else p

/-- `::read(pipe[READ], draining_buffer, n)`: the number of bytes that were read, or an error if the
pipe is empty. -/
def read (p : NotifyPipe) (n : ℕ) : ℤ × NotifyPipe :=
  if p.unread = 0 then (-1, p)
  else (((min n p.unread : ℕ) : ℤ), { p with unread := p.unread - min n p.unread })

lemma read_cases (p : NotifyPipe) (n : ℕ) :
    (p.unread = 0 ∧ p.read n = (-1, p)) ∨
    p.read n = (((min n p.unread : ℕ) : ℤ), { p with unread := p.unread - min n p.unread }) := by
  rw [read]
  split
  case isTrue hempty => exact .inl ⟨hempty, rfl⟩
  case isFalse => exact .inr rfl

end NotifyPipe

/-! ## The queues of a port -/

/-- Queues that share a pipe and a counter. -/
structure NotifiedQueues (n : ℕ) (Pkt : Type*) where
  queues : Fin n → List Pkt
  pipe : NotifyPipe
  deferredDrain : ℤ

namespace NotifiedQueues

variable {n : ℕ} {Pkt : Type*} {s s' : NotifiedQueues n Pkt} {d slots : ℕ}

/-- Empty queues, with a pipe of that capacity. -/
def empty (n capacity : ℕ) : NotifiedQueues n Pkt where
  queues _ := []
  pipe := ⟨capacity, 0⟩
  deferredDrain := 0

/-- `non_blocking_write` to a queue of that many slots, of which one stays free, and the
notification. -/
def store (slots : ℕ) (q : Fin n) (pkt : Pkt) (s : NotifiedQueues n Pkt) :
    Option (NotifiedQueues n Pkt) :=
  if (s.queues q).length + 1 < slots then
    some { s with
      queues := Function.update s.queues q (s.queues q ++ [pkt])
      pipe := s.pipe.write }
  else none

/-- `non_blocking_read`. -/
def take (q : Fin n) (s : NotifiedQueues n Pkt) : Option (Pkt × NotifiedQueues n Pkt) :=
  match s.queues q with
  | [] => none
  | pkt :: rest => some (pkt, { s with queues := Function.update s.queues q rest })

/-- `deferred_drain++`. -/
def defer (s : NotifiedQueues n Pkt) : NotifiedQueues n Pkt :=
  { s with deferredDrain := s.deferredDrain + 1 }

/-- How many bytes `empty_pipe` reads: as many as are counted, but `slots` at most. -/
def drainCount (slots : ℕ) (deferredDrain : ℤ) : ℕ :=
  if deferredDrain > slots then slots else deferredDrain.toNat

/-- What `empty_pipe` does if there is something to drain.  The counter does not become negative. -/
def drain (slots : ℕ) (s : NotifiedQueues n Pkt) : NotifiedQueues n Pkt :=
  let r := s.pipe.read (drainCount slots s.deferredDrain)
  if 0 < r.1 then { s with pipe := r.2, deferredDrain := max 0 (s.deferredDrain - r.1) }
  else { s with pipe := r.2 }

/-- The packets in the queues. -/
def total (s : NotifiedQueues n Pkt) : ℕ := ∑ q, (s.queues q).length

/-- The balance of the port, with `d` notifications that were lost. -/
structure Lost (d : ℕ) (s : NotifiedQueues n Pkt) : Prop where
  balance : (s.pipe.unread : ℤ) + d = s.total + s.deferredDrain
  nonneg : 0 ≤ s.deferredDrain

/-- The pipe holds no bytes that nobody will read. -/
structure Covered (s : NotifiedQueues n Pkt) : Prop where
  unread_le : (s.pipe.unread : ℤ) ≤ s.total + s.deferredDrain
  nonneg : 0 ≤ s.deferredDrain

/-- What the notifications are for: while there is a packet, the pipe wakes the thread that serves
the queues. -/
structure Accounted (s : NotifiedQueues n Pkt) : Prop extends Covered s where
  wakes : (∃ q, s.queues q ≠ []) → 0 < s.pipe.unread

@[simp] lemma total_defer (s : NotifiedQueues n Pkt) : s.defer.total = s.total := rfl

lemma lost_empty (n capacity : ℕ) : Lost 0 (empty n capacity : NotifiedQueues n Pkt) where
  balance := by simp [empty, total]
  nonneg := le_refl 0

lemma total_update (queues : Fin n → List Pkt) (q : Fin n) (l : List Pkt) :
    ∑ i, (Function.update queues q l i).length + (queues q).length =
      ∑ i, (queues i).length + l.length := by
  have hrest : ∑ i ∈ Finset.univ.erase q, (Function.update queues q l i).length =
      ∑ i ∈ Finset.univ.erase q, (queues i).length := by
    refine Finset.sum_congr rfl fun i hi => ?_
    rw [Function.update_of_ne (Finset.ne_of_mem_erase hi)]
  have hnew := Finset.add_sum_erase Finset.univ
    (fun i => (Function.update queues q l i).length) (Finset.mem_univ q)
  have hold := Finset.add_sum_erase Finset.univ (fun i => (queues i).length) (Finset.mem_univ q)
  simp only [Function.update_self] at hnew
  omega

/-- A queue holds no more packets than all of them. -/
lemma length_le_total (s : NotifiedQueues n Pkt) (q : Fin n) : (s.queues q).length ≤ s.total :=
  Finset.single_le_sum (fun i _ => Nat.zero_le (s.queues i).length) (Finset.mem_univ q)

/-! ### What the operations leave of the balance -/

lemma take_cases (q : Fin n) (s : NotifiedQueues n Pkt) :
    (s.queues q = [] ∧ s.take q = none) ∨
    (∃ pkt rest, s.queues q = pkt :: rest ∧
      s.take q = some (pkt, { s with queues := Function.update s.queues q rest })) := by
  rw [take]
  cases hq : s.queues q with
  | nil => exact .inl ⟨rfl, rfl⟩
  | cons pkt rest => exact .inr ⟨pkt, rest, rfl, rfl⟩

lemma eq_of_take {q : Fin n} {pkt : Pkt} (h : s.take q = some (pkt, s')) :
    ∃ rest, s.queues q = pkt :: rest ∧
      s' = { s with queues := Function.update s.queues q rest } := by
  obtain ⟨-, hnone⟩ | ⟨pkt', rest, hq, hsome⟩ := take_cases q s
  · rw [hnone] at h
    cases h
  · obtain ⟨rfl, rfl⟩ := Prod.mk.inj (Option.some.inj (hsome.symm.trans h))
    exact ⟨rest, hq, rfl⟩

lemma Lost.take {q : Fin n} {pkt : Pkt} (h : Lost d s) (htake : s.take q = some (pkt, s')) :
    Lost d s'.defer := by
  obtain ⟨rest, hq, rfl⟩ := eq_of_take htake
  have htotal := total_update s.queues q rest
  rw [hq, List.length_cons] at htotal
  have hbalance := h.balance
  have hnonneg := h.nonneg
  constructor
  · simp only [defer, total] at *
    omega
  · simp only [defer]
    omega

/-- A notification is lost only if the pipe is full. -/
lemma Lost.store {q : Fin n} {pkt : Pkt} (h : Lost d s) (hstore : s.store slots q pkt = some s') :
    Lost (if s.pipe.unread < s.pipe.capacity then d else d + 1) s' := by
  rw [NotifiedQueues.store] at hstore
  split at hstore
  · obtain rfl := Option.some.inj hstore
    have htotal := total_update s.queues q (s.queues q ++ [pkt])
    rw [List.length_append, List.length_singleton] at htotal
    have hbalance := h.balance
    refine ⟨?_, h.nonneg⟩
    simp only [total, NotifyPipe.write] at *
    split
    · simp only [Nat.cast_add, Nat.cast_one]
      omega
    · simp only [Nat.cast_add, Nat.cast_one]
      omega
  · cases hstore

lemma drainCount_le {slots : ℕ} {deferredDrain : ℤ} (h : 0 ≤ deferredDrain) :
    (drainCount slots deferredDrain : ℤ) ≤ deferredDrain := by
  rw [drainCount]
  split
  · omega
  · omega

/-- As many bytes are read as are taken off the counter. -/
lemma drain_cases (slots : ℕ) (h : 0 ≤ s.deferredDrain) :
    ∃ r : ℕ, r = min (drainCount slots s.deferredDrain) s.pipe.unread ∧
      s.drain slots =
        { s with
          pipe := { s.pipe with unread := s.pipe.unread - r }
          deferredDrain := s.deferredDrain - r } := by
  have hcount : (drainCount slots s.deferredDrain : ℤ) ≤ s.deferredDrain := drainCount_le h
  refine ⟨_, rfl, ?_⟩
  rw [drain]
  obtain ⟨hempty, hread⟩ | hread := s.pipe.read_cases (drainCount slots s.deferredDrain)
  · have hzero : min (drainCount slots s.deferredDrain) s.pipe.unread = 0 := by omega
    simp [hread, hzero]
  · rw [hread]
    split
    · congr 1
      omega
    · have hzero : min (drainCount slots s.deferredDrain) s.pipe.unread = 0 := by omega
      simp [hzero]

lemma Lost.drain (h : Lost d s) (slots : ℕ) : Lost d (s.drain slots) := by
  obtain ⟨r, hr, hdrain⟩ := drain_cases slots h.nonneg
  have hcount : (drainCount slots s.deferredDrain : ℤ) ≤ s.deferredDrain := drainCount_le h.nonneg
  have hbalance := h.balance
  rw [hdrain]
  constructor
  · simp only [total] at *
    omega
  · simp only
    omega

/-! ### `enqueue_packet` -/

/-- The queue in which `enqueue_packet` stores a packet: one that there is not is taken for the
queue 0. -/
def queueOf (q_id : ℕ) : Fin IO_IFACE_NUM_QUEUES :=
  if h : q_id < IO_IFACE_NUM_QUEUES then ⟨q_id, h⟩ else ⟨0, IO_IFACE_NUM_QUEUES_pos⟩

/-- `ioport_mmap::enqueue_packet` and `ioport_vlink::enqueue_packet`.  What happens to a packet that
is not stored is left out. -/
def enqueuePacket {S : Type*} (slots : ℕ) (up forwardPackets : Bool) (pkt : Datapacketx86 S)
    (q_id : ℕ) (s : NotifiedQueues IO_IFACE_NUM_QUEUES (Datapacketx86 S)) :
    NotifiedQueues IO_IFACE_NUM_QUEUES (Datapacketx86 S) :=
  if up = true ∧ forwardPackets = true ∧ MIN_PKT_LEN ≤ pkt.len then
    (s.store slots (queueOf q_id) pkt).getD s
  else s

lemma Lost.covered (h : Lost d s) : s.Covered where
  unread_le := by
    have hbalance := h.balance
    omega
  nonneg := h.nonneg

/-- If nothing was lost, there is a byte for every packet. -/
lemma Lost.accounted (h : Lost 0 s) : s.Accounted where
  toCovered := h.covered
  wakes := by
    rintro ⟨q, hq⟩
    have hlen := s.length_le_total q
    have hpos := List.length_pos_of_ne_nil hq
    have hbalance := h.balance
    have hnonneg := h.nonneg
    omega

end NotifiedQueues

end Xdpd.Io
