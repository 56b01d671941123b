import Xdpd.Lib.Threads
import Xdpd.Lib.Transition

/-!
# The packet-in dispatcher and its draining

Cores put packets into the ring `pkt_ins` and post `pktin_sem` afterwards.  The packet-in thread
waits for the semaphore, takes a packet out of the ring and dispatches it.  Before a switch is
destroyed `wait_pktin_draining` sets `destroying_sw`; the packet-in thread then reads the value of
the semaphore, and posts `pktin_drained` once it has taken that many packets out.

`sem_timedwait` gives `-1` when it times out or is interrupted, and never `ETIMEDOUT`, so that the
packet-in thread goes on to the ring without having taken anything from the semaphore.
-/

namespace Xdpd.Dpdk.Pktin

open Xdpd.Lib

/-- A packet for the controller, with the address of its switch. -/
structure Datapacket where
  addr : ℕ
  sw : ℕ
  deriving DecidableEq

/-- Where the packet-in thread is. -/
inductive Point where
  | head
  | sample
  | reset
  | drained
  | wait
  /-- after `sem_timedwait`, which has taken one from the semaphore or failed -/
  | dequeue (taken : Bool)
  | dispatch (pkt : Datapacket)
  deriving DecidableEq

/-- Where another thread is: a core that enqueues a packet, or the destruction of a switch. -/
inductive Pc where
  | idle
  | enqueuePost
  | drainLock (sw : ℕ)
  | drainSet (sw : ℕ)
  | drainWait (sw : ℕ)
  | drainUnlock (sw : ℕ)
  deriving DecidableEq

/-- The switch that a thread destroys. -/
def Pc.destroys : Pc → Option ℕ
  | drainLock sw => some sw
  | drainSet sw => some sw
  | drainWait sw => some sw
  | drainUnlock sw => some sw
  | _ => none

variable {τ : Type} [DecidableEq τ]

/-- What the threads share, and the packet-in thread with its variables. -/
structure Dispatcher (τ : Type) where
  pktIns : List Datapacket
  pktinSem : ℕ
  pktinDrained : ℕ
  destroyingSw : Bool
  drainMutex : Mutex τ
  point : Point
  /-- `drain_credits`, where `-1` is `none` -/
  drainCredits : Option ℕ

/-- The dispatcher and the other threads. -/
abbrev State (τ : Type) := Threads (Dispatcher τ) τ Pc

/-- `pktin_dispatcher_init`. -/
def init : State τ where
  shared :=
    { pktIns := []
      pktinSem := 0
      pktinDrained := 0
      destroyingSw := false
      drainMutex := none
      point := .head
      drainCredits := none }
  pc _ := .idle

/-- The next access of a thread. -/
def access (t : τ) (s : Dispatcher τ) : Pc → Option (Dispatcher τ × Pc)
  | .idle => none
  | .enqueuePost => some ({ s with pktinSem := s.pktinSem + 1 }, .idle)
  | .drainLock sw =>
      if s.drainMutex = none then some ({ s with drainMutex := some t }, .drainSet sw) else none
  | .drainSet sw => some ({ s with destroyingSw := true }, .drainWait sw)
  | .drainWait sw =>
      match s.pktinDrained with
      | 0 => none
      | n + 1 => some ({ s with pktinDrained := n }, .drainUnlock sw)
  | .drainUnlock _ => some ({ s with drainMutex := none }, .idle)

/-- The next step of the packet-in thread, where `sem_timedwait` succeeds. -/
def processPacketIns (s : Dispatcher τ) : Option (Dispatcher τ) :=
  match s.point with
  | .head =>
      if s.destroyingSw then
        match s.drainCredits with
        | none => some { s with point := .sample }
        | some 0 => some { s with point := .reset }
        | some (_ + 1) => some { s with point := .wait }
      else some { s with point := .wait }
  | .sample =>
      some { s with
        drainCredits := some s.pktinSem
        point := if s.pktinSem = 0 then .reset else .wait }
  | .reset => some { s with drainCredits := none, destroyingSw := false, point := .drained }
  | .drained => some { s with pktinDrained := s.pktinDrained + 1, point := .wait }
  | .wait =>
      match s.pktinSem with
      | 0 => none
      | n + 1 => some { s with pktinSem := n, point := .dequeue true }
  | .dequeue _ =>
      match s.pktIns with
      | [] => some { s with point := .head }
      | pkt :: pktIns =>
          some { s with
            pktIns := pktIns
            drainCredits := s.drainCredits.map fun n => n - 1
            point := .dispatch pkt }
  | .dispatch _ => some { s with point := .head }

/-- `sem_timedwait` times out, or is interrupted. -/
def timedwaitFails (s : Dispatcher τ) : Option (Dispatcher τ) :=
  if s.point = .wait then some { s with point := .dequeue false } else none

/-- What happens. -/
inductive Action (τ : Type) where
  /-- a core calls `enqueue_pktin`; `full` tells whether the ring takes no more packets -/
  | enqueuePktin (t : τ) (pkt : Datapacket) (full : Bool)
  | waitPktinDraining (t : τ) (sw : ℕ)
  | run (t : τ)
  | processPacketIns
  | timedwaitFails
  deriving DecidableEq

/-- One step. -/
def step (s : State τ) : Action τ → Option (State τ)
  | .enqueuePktin t pkt full =>
      if s.pc t ≠ .idle then none
      else if full then some s
      else
        some ⟨{ s.shared with pktIns := s.shared.pktIns ++ [pkt] },
          Function.update s.pc t .enqueuePost⟩
  | .waitPktinDraining t sw => if s.pc t ≠ .idle then none else some (s.goto t (.drainLock sw))
  | .run t => s.run access t
  | .processPacketIns => (processPacketIns s.shared).map fun sh => ⟨sh, s.pc⟩
  | .timedwaitFails => (timedwaitFails s.shared).map fun sh => ⟨sh, s.pc⟩

end Xdpd.Dpdk.Pktin
