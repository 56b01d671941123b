import Mathlib.Data.List.Range
import Mathlib.Logic.Function.Basic
import Mathlib.Tactic.Common

/-!
# Scheduling ports to cores

`processing_schedule_port` gives a port to the core with the least load, and
`processing_deschedule_port` takes it away again.  A core has a list of the ports that it receives
from; the ports have a reference back to their place in it; all cores have an array of transmit
queues that tells which ports are present, and on which core; and the ports in use are counted.

Both work under one spinlock.
-/

namespace Xdpd.Dpdk

/-- `PROCESSING_MAX_PORTS_PER_CORE`. -/
def processingMaxPortsPerCore : ℕ := 32

/-- `PROCESSING_MAX_PORTS`. -/
def processingMaxPorts : ℕ := 128

/-- The types of ports that a core can serve, and any other one. -/
inductive PortType where
  | physical
  | nfShmem
  | nfExternal
  | other
  deriving DecidableEq

/-- Which of the arrays and of the counters a port belongs to: `phy_ports` and
`total_num_of_phy_ports`, or `nf_ports` and `total_num_of_nf_ports`. -/
inductive Family where
  | phy
  | nf
  deriving DecidableEq

/-- The family of a type. -/
def PortType.family : PortType → Option Family
  | physical => some .phy
  | nfShmem => some .nf
  | nfExternal => some .nf
  | other => none

/-- The ports of the system, and the cores. -/
structure Platform (π : Type) where
  /-- `RTE_MAX_LCORE` -/
  maxLcore : ℕ
  type : π → PortType
  /-- `port_id` or `nf_id`: an `nf_id` is never used again, and can be `PROCESSING_MAX_PORTS` and
  more -/
  portId : π → ℕ
  /-- the ports of a family are numbered -/
  eq_of_portId : ∀ p q f, (type p).family = some f → (type q).family = some f →
    portId p = portId q → p = q
  /-- the port is on a known CPU socket, and the core on another one -/
  wrongSocket : π → ℕ → Bool

/-- The part of the platform state of a port that the scheduling uses. -/
structure PortState where
  scheduled : Bool
  coreId : ℕ
  corePortSlot : ℕ
  deriving DecidableEq

/-- The transmit queues of a port. -/
structure PortQueues where
  present : Bool
  coreId : ℕ
  deriving DecidableEq

/-- The tasks of a core. -/
structure CoreTasks (π : Type) where
  available : Bool
  numOfRxPorts : ℕ
  portList : ℕ → Option π
  /-- `phy_ports` and `nf_ports`, by `port_id` and `nf_id` -/
  queues : Family → Fin processingMaxPorts → PortQueues

/-- The state of the scheduling. -/
structure Processing (π : Type) where
  cores : ℕ → CoreTasks π
  ports : π → PortState
  /-- `total_num_of_phy_ports` and `total_num_of_nf_ports` -/
  total : Family → ℕ
  /-- the spinlock is held by a call that has returned -/
  locked : Bool
  /-- an entry behind the end of a port list has been read -/
  overread : Bool
  /-- an entry behind the end of `phy_ports` or `nf_ports` has been written -/
  overwritten : Bool

variable {π : Type} [DecidableEq π]

/-- `processing_init`: nothing is scheduled. -/
def processingInit (available : ℕ → Bool) : Processing π where
  cores i :=
    { available := available i
      numOfRxPorts := 0
      portList _ := none
      queues _ _ := ⟨false, 0⟩ }
  ports _ := ⟨false, 0, 0⟩
  total _ := 0
  locked := false
  overread := false
  overwritten := false

/-- What a call returns. -/
inductive RoflResult where
  | success
  | failure
  deriving DecidableEq

/-! ## `processing_schedule_port` -/

/-- `WRONG_CPU_SOCK_OH`. -/
def wrongCpuSockOh : ℕ := 0x80000000

/-- The load of a core, with an additional weight for the wrong CPU socket. -/
def itLoad (P : Platform π) (s : Processing π) (port : π) (i : ℕ) : ℕ :=
  if P.type port = .physical ∧ P.wrongSocket port i then
    (s.cores i).numOfRxPorts ||| wrongCpuSockOh
  else (s.cores i).numOfRxPorts

/-- The selection so far, and its load, after one more core. -/
def selectStep (P : Platform π) (s : Processing π) (port : π) (sel : Option ℕ × ℕ) (i : ℕ) :
    Option ℕ × ℕ :=
  if (s.cores i).available ∧ (s.cores i).numOfRxPorts ≠ processingMaxPortsPerCore then
    if itLoad P s port i < sel.2 then (some i, itLoad P s port i) else sel
  else sel

/-- The core that is selected, if not all of them are full. -/
def selectCore (P : Platform π) (s : Processing π) (port : π) : Option ℕ :=
  ((List.range P.maxLcore).foldl (selectStep P s port) (none, 0xFFFFFFFF)).1

/-- The queues of all cores with those of one port changed.  The arrays have `PROCESSING_MAX_PORTS`
entries; what is behind them is not modelled. -/
def markQueues (P : Platform π) (cores : ℕ → CoreTasks π) (f : Family) (id : ℕ)
    (queues : PortQueues) : ℕ → CoreTasks π := fun i =>
  if i < P.maxLcore then
    { cores i with queues := fun f' id' =>
        if f' = f ∧ id'.val = id then queues else (cores i).queues f' id' }
  else cores i

/-- The port is assigned to the core. -/
def assignPort (P : Platform π) (s : Processing π) (port : π) (f : Family) (core : ℕ) :
    Processing π :=
  let slot := (s.cores core).numOfRxPorts
  let tasks := { s.cores core with
    portList := Function.update (s.cores core).portList slot (some port)
    numOfRxPorts := slot + 1 }
  { s with
    cores := markQueues P (Function.update s.cores core tasks) f (P.portId port) ⟨true, core⟩
    ports := Function.update s.ports port ⟨true, core, slot⟩
    total := Function.update s.total f (s.total f + 1)
    overwritten := s.overwritten || !decide (P.portId port < processingMaxPorts) }

/-- `processing_schedule_port`.  `queuesSet` tells whether `iface_manager_set_queues` succeeds.  The
call waits if the spinlock is not free. -/
def processingSchedulePort (P : Platform π) (s : Processing π) (port : π) (queuesSet : Bool) :
    Option (RoflResult × Processing π) :=
  if s.locked then none
  else
    match (P.type port).family with
    -- returns without unlocking
    | none => some (.failure, { s with locked := true })
    | some f =>
        if s.total f = processingMaxPorts then some (.failure, s)
        else
          match selectCore P s port with
          | none => some (.failure, s)
          | some core =>
              if (s.cores core).portList (s.cores core).numOfRxPorts ≠ none then
                some (.failure, s)
              else if P.type port = .physical ∧ !queuesSet then
                -- returns without unlocking
                some (.failure, { s with locked := true })
              else some (.success, assignPort P s port f core)

/-! ## `processing_deschedule_port` -/

/-- What the loop of `processing_deschedule_port` changes. -/
structure Shifted (π : Type) where
  portList : ℕ → Option π
  ports : π → PortState
  overread : Bool

/-- One turn of the loop: entry `i` gets the port of entry `i + 1`.  The list has
`PROCESSING_MAX_PORTS_PER_CORE` entries; what is behind it is not modelled. -/
def shiftStep (x : Shifted π) (i : ℕ) : Shifted π :=
  let next := if i + 1 < processingMaxPortsPerCore then x.portList (i + 1) else none
  { portList := Function.update x.portList i next
    ports :=
      match next with
      | none => x.ports
      | some port => Function.update x.ports port { x.ports port with corePortSlot := i }
    overread := x.overread || !decide (i + 1 < processingMaxPortsPerCore) }

/-- `n` turns of the loop, from entry `i` on. -/
def shiftPorts : ℕ → ℕ → Shifted π → Shifted π
  | 0, _, x => x
  | n + 1, i, x => shiftPorts n (i + 1) (shiftStep x i)

/-- The port is taken from its core. -/
def removePort (P : Platform π) (s : Processing π) (port : π) (f : Family) : Processing π :=
  let core := (s.ports port).coreId
  let slot := (s.ports port).corePortSlot
  let num := (s.cores core).numOfRxPorts
  let x := shiftPorts (num - slot) slot ⟨(s.cores core).portList, s.ports, s.overread⟩
  let tasks := { s.cores core with portList := x.portList, numOfRxPorts := num - 1 }
  { s with
    cores := markQueues P (Function.update s.cores core tasks) f (P.portId port) ⟨false, 0xFFFFFFFF⟩
    ports := Function.update x.ports port { x.ports port with scheduled := false }
    total := Function.update s.total f (s.total f - 1)
    overread := x.overread
    overwritten := s.overwritten || !decide (P.portId port < processingMaxPorts) }

/-- `processing_deschedule_port`. -/
def processingDeschedulePort (P : Platform π) (s : Processing π) (port : π) :
    Option (RoflResult × Processing π) :=
  match (P.type port).family with
  | none => some (.failure, s)
  | some f =>
      if !(s.ports port).scheduled then some (.failure, s)
      else if s.locked then none
      else some (.success, removePort P s port f)

/-! ## Calls -/

/-- A call of one of the functions. -/
inductive Call (π : Type) where
  | schedulePort (port : π) (queuesSet : Bool)
  | deschedulePort (port : π)
  deriving DecidableEq

/-- The state after a call, if it returns. -/
def call (P : Platform π) (s : Processing π) : Call π → Option (Processing π)
  | .schedulePort port queuesSet => (processingSchedulePort P s port queuesSet).map Prod.snd
  | .deschedulePort port => (processingDeschedulePort P s port).map Prod.snd

end Xdpd.Dpdk
