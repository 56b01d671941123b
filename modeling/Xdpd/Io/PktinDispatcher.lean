import Mathlib.Algebra.Group.Nat.Defs
import Xdpd.Lib.Threads
import Xdpd.Lib.Transition

/-!
# The packet-in dispatcher of the GNU/Linux driver

A thread that has a packet for the controller puts it into the queue of its switch, and then writes
a byte into a pipe, which nobody waits for when the pipe is full.  The background thread waits until
there is a byte to read, or for some time, and then takes the packets out of the queues of all
switches, some at a time, and as many bytes out of the pipe: `pending_to_read` counts those it could
not read yet.  Before a switch is destroyed its queue is drained.

A queue is a list here, and a thread reads from it or writes to it in one step.  A logical switch is
given by its place and its queue, as it has no other part in this.
-/

namespace Xdpd.Io.Pktin

open Xdpd.Lib

/-- `BUCKETS_PER_LS`, `DUMMY_BUF_SIZE` and `ITERATIONS_PER_ROUND` -/
def BUCKETS_PER_LS : ℕ := 16
def DUMMY_BUF_SIZE : ℕ := 128
def ITERATIONS_PER_ROUND : ℕ := 2

/-- `LSI_PKT_IN_QUEUE_SLOTS`, one of which is always free -/
def LSI_PKT_IN_QUEUE_SLOTS : ℕ := 64

/-- Where the background thread is. -/
inductive Point where
  /-- in `epoll_wait` -/
  | wait
  /-- about to look for the switch at place `r`, in the round `k` -/
  | head (k r : ℕ)
  /-- in the loop of `process_sw_of1x_packet_ins`, where `i` packets have been taken -/
  | take (k r i : ℕ)
  /-- after the loop -/
  | empty (k r i : ℕ)
  deriving DecidableEq, Repr

/-- Where another thread is: one that enqueues a packet, or that destroys a switch. -/
inductive Pc where
  | idle
  | notify
  | drainSize (r : ℕ)
  | drainRead (r : ℕ)
  | remove (r : ℕ)
  deriving DecidableEq, Repr

/-- The number of places for switches, and how many bytes the pipe takes. -/
structure Config where
  maxSwitches : ℕ
  pipeSize : ℕ

variable {π τ : Type}

/-- What the threads share, and the background thread with its variables. -/
structure Dispatcher (π : Type) where
  /-- the switch at each place, given by its `pkt_in_queue` -/
  logicalSwitches : ℕ → Option (List π)
  /-- the bytes in `pktin_not_pipe` -/
  unread : ℕ
  /-- `pending_to_read` -/
  pendingToRead : ℕ
  point : Point

/-- The dispatcher and the other threads. -/
abbrev State (π τ : Type) := Threads (Dispatcher π) τ Pc

/-- There are no switches, and the pipe has been opened. -/
def init : State π τ where
  shared := { logicalSwitches := fun _ => none, unread := 0, pendingToRead := 0, point := .wait }
  pc _ := .idle

/-! ## The functions -/

/-- The queue of the switch at a place.  Of a switch that is gone there is nothing to read. -/
def Dispatcher.queue (s : Dispatcher π) (r : ℕ) : List π := (s.logicalSwitches r).getD []

def Dispatcher.setSwitch (s : Dispatcher π) (r : ℕ) (sw : Option (List π)) : Dispatcher π :=
  { s with logicalSwitches := Function.update s.logicalSwitches r sw }

/-- `notify_packet_in`.  The result of `write` is not looked at. -/
def notifyPacketIn (cfg : Config) (s : Dispatcher π) : Dispatcher π :=
  if s.unread < cfg.pipeSize then { s with unread := s.unread + 1 } else s

/-- The end of `process_sw_of1x_packet_ins`, where the pipe is emptied. -/
def emptyPipe (i : ℕ) (s : Dispatcher π) : Dispatcher π :=
  let pending := (s.pendingToRead + i) % 2 ^ 32
  let count := if DUMMY_BUF_SIZE < pending then DUMMY_BUF_SIZE else pending
  -- `read` gives what there is, and fails when there is nothing
  let ret := min count s.unread
  { s with unread := s.unread - ret, pendingToRead := pending - ret }

/-- The next step of `process_packet_ins`.  A packet that has been taken is stored and sent to the
controller, or returned to the bufferpool. -/
def processPacketIns (cfg : Config) (s : Dispatcher π) : Option (Dispatcher π) :=
  match s.point with
  | .wait => none
  | .head k r =>
      if r < cfg.maxSwitches then
        match s.logicalSwitches r with
        | some _ => some { s with point := .take k r 0 }
        | none => some { s with point := .head k (r + 1) }
      else if k + 1 < ITERATIONS_PER_ROUND * ITERATIONS_PER_ROUND then
        some { s with point := .head (k + 1) 0 }
      else some { s with point := .wait }
  | .take k r i =>
      if i < BUCKETS_PER_LS then
        match s.queue r with
        | [] => some { s with point := .empty k r i }
        | _ :: queue => some { s.setSwitch r (some queue) with point := .take k r (i + 1) }
      else some { s with point := .empty k r i }
  | .empty k r i => some { emptyPipe i s with point := .head k (r + 1) }

/-- A round of the loop of `x86_background_tasks_routine`, where `netlink` tells whether there is a
message to read from the other file descriptor. -/
def epollWait (netlink : Bool) (s : Dispatcher π) : Option (Dispatcher π) :=
  if s.point = .wait then
    let readable := decide (0 < s.unread)
    let nfds := readable.toNat + netlink.toNat
    -- "if a PKT_IN was enqueued but write() to the pipe failed [t]hose packets would never be
    -- drained otherwise"
    if readable = true ∨ nfds = 0 then some { s with point := .head 0 0 } else some s
  else none

/-- The next access of another thread: in `platform_of1x_packet_in` after the packet has been
enqueued, in `drain_packet_ins`, and when the switch is removed. -/
def access (cfg : Config) (_ : τ) (s : Dispatcher π) : Pc → Option (Dispatcher π × Pc)
  | .idle => none
  | .notify => some (notifyPacketIn cfg s, .idle)
  | .drainSize r =>
      if (s.queue r).length ≠ 0 then some (s, .drainRead r) else some (s, .remove r)
  | .drainRead r =>
      match s.queue r with
      | [] => some (s, .drainSize r)
      | _ :: queue => some (s.setSwitch r (some queue), .drainSize r)
  | .remove r => some (s.setSwitch r none, .idle)

/-- What happens. -/
inductive Action (π τ : Type) where
  | createSwitch (r : ℕ)
  /-- `platform_of1x_packet_in`; `full` tells whether the queue takes no more packets -/
  | packetIn (t : τ) (r : ℕ) (pkt : π) (full : Bool)
  | destroySwitch (t : τ) (r : ℕ)
  /-- the ports cannot be detached, or the switch cannot be removed -/
  | destroyFails (t : τ)
  | run (t : τ)
  | epollWait (netlink : Bool)
  | processPacketIns
  deriving DecidableEq

variable [DecidableEq τ]

/-- One step. -/
def step (cfg : Config) (s : State π τ) : Action π τ → Option (State π τ)
  | .createSwitch r =>
      if r < cfg.maxSwitches ∧ s.shared.logicalSwitches r = none then
        some ⟨s.shared.setSwitch r (some []), s.pc⟩
      else none
  | .packetIn t r pkt full =>
      if s.pc t = .idle ∧ s.shared.logicalSwitches r ≠ none then
        if full then some s
        else if (s.shared.queue r).length + 1 < LSI_PKT_IN_QUEUE_SLOTS then
          some ⟨s.shared.setSwitch r (some (s.shared.queue r ++ [pkt])),
            Function.update s.pc t .notify⟩
        else none
      else none
  | .destroySwitch t r =>
      if s.pc t = .idle ∧ s.shared.logicalSwitches r ≠ none then some (s.goto t (.drainSize r))
      else none
  | .destroyFails t =>
      match s.pc t with
      | .remove _ => some (s.goto t .idle)
      | _ => none
  | .run t => s.run (access cfg) t
  | .epollWait netlink => (epollWait netlink s.shared).map fun sh => ⟨sh, s.pc⟩
  | .processPacketIns => (processPacketIns cfg s.shared).map fun sh => ⟨sh, s.pc⟩

end Xdpd.Io.Pktin
