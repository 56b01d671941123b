import Mathlib.Algebra.GroupWithZero.Nat
import Mathlib.Data.Fin.Basic
import Mathlib.Order.Fin.Basic
import Xdpd.Lib.SortedMap
import Xdpd.Lib.Threads
import Xdpd.Lib.Transition

/-!
# The switch manager and its threads

`switch_manager` keeps the switches of xdpd in a map by datapath id.  Management threads create and
destroy switches under a mutex; threads of the driver notify a switch of packets, removed flows and
changes of its ports.  A notification holds a read lock from its look into the map until the handler
of the switch has returned, and it is dropped when its id is that in `dpid_under_destruction`, which
it reads without a lock.

`destroy_switch` sets that variable, detaches all ports, takes the switch out of the map under the
write lock, deletes it and resets the variable to `0x0`.  When a port cannot be detached it throws
and leaves the variable as it is.

Each access of a thread to what the threads share is a step of its own.  A lookup in the map and an
insertion take time: they begin with one step and end with another one.  `create_switch` inserts
under the mutex only, which a notification does not hold when it looks its switch up, and a lookup
in a tree that is being changed can miss.
-/

namespace Xdpd.Management

open Xdpd.Lib

/-- A datapath id. -/
abbrev Dpid := Fin (2 ^ 64)

scoped instance neZero_dpid : NeZero (2 ^ 64) := ⟨by decide⟩

/-- An `openflow_switch`, known by its address. -/
structure OpenflowSwitch where
  addr : ℕ
  dpid : Dpid
  dpname : String
  deriving DecidableEq

/-- The notifications. -/
inductive NotificationKind where
  | portAttached
  | portStatusChanged
  | portDetached
  | packetIn
  | flowRemoved
  deriving DecidableEq

/-- A notification for a switch. -/
structure Notification where
  kind : NotificationKind
  dpid : Dpid
  deriving DecidableEq

/-- What the constructor of a switch comes to. -/
inductive NewSwitch where
  | unsupportedSocketType
  | unsupportedVersion
  | constructorThrows
  | constructed
  deriving DecidableEq

/-- What a call gives. -/
inductive Return where
  | eOfSmExists
  | eOfSmUnknownSocketType
  | eOfSmVersionNotSupported
  | eOfSmErrorOnCreation
  | eOfSmDoesNotExist
  | eOfSmGeneralError
  | detachFailed
  | done
  | roflFailure
  | roflSuccess
  /-- what the handler of the switch gave -/
  | handled
  deriving DecidableEq

/-- Where a thread is: the next access that it makes.  `idle` is outside the switch manager. -/
inductive Pc where
  | idle (ret : Option Return)
  | createLock (dpid : Dpid) (dpname : String) (new : NewSwitch)
  | createCheck (dpid : Dpid) (dpname : String) (new : NewSwitch)
  | createStore (dp : OpenflowSwitch)
  /-- the tree of the map is being changed -/
  | createStoring (dp : OpenflowSwitch)
  | createUnlock
  | destroyLock (dpid : Dpid) (snapshot : Option (List String))
  | destroyFind (dpid : Dpid) (snapshot : Option (List String))
  | destroySet (dpid : Dpid) (ports : List String)
  | destroyDetach (dpid : Dpid) (ports : List String)
  | destroyErase (dpid : Dpid)
  | destroyRwunlock (dpid : Dpid) (dp : OpenflowSwitch)
  | destroyDelete (dpid : Dpid) (dp : OpenflowSwitch)
  | destroyReset (dpid : Dpid)
  | destroyUnlock (dpid : Dpid)
  | notifyRead (n : Notification)
  | notifyTry (n : Notification)
  | notifyRetry (n : Notification)
  | notifyFind (n : Notification)
  /-- `find` is under way -/
  | notifyFinding (n : Notification)
  | notifyGet (n : Notification)
  /-- `switchs[dpid]` is under way -/
  | notifyGetting (n : Notification)
  | notifyHandle (n : Notification) (dp : OpenflowSwitch)
  | notifyUnlock (n : Notification) (ret : Return)
  | writerLock
  | writerUnlock
  | readerLock
  | readerUnlock
  deriving DecidableEq

/-- The notification that a thread is in. -/
def Pc.notification : Pc → Option Notification
  | notifyRead n => some n
  | notifyTry n => some n
  | notifyRetry n => some n
  | notifyFind n => some n
  | notifyFinding n => some n
  | notifyGet n => some n
  | notifyGetting n => some n
  | notifyHandle n _ => some n
  | notifyUnlock n _ => some n
  | _ => none

/-- The switch that a thread is destroying, once it has found it. -/
def Pc.destroying : Pc → Option Dpid
  | destroySet dpid _ => some dpid
  | destroyDetach dpid _ => some dpid
  | destroyErase dpid => some dpid
  | destroyRwunlock dpid _ => some dpid
  | destroyDelete dpid _ => some dpid
  | destroyReset dpid => some dpid
  | destroyUnlock dpid => some dpid
  | _ => none

/-- The thread is putting a switch into the map. -/
def Pc.inserting : Pc → Bool
  | createStoring _ => true
  | _ => false

/-- The thread is looking something up in the map. -/
def Pc.lookingUp : Pc → Bool
  | notifyFinding _ => true
  | notifyGetting _ => true
  | _ => false

variable {τ : Type} [DecidableEq τ]

/-- What the threads share. -/
structure SwitchManager (τ : Type) where
  mutex : Mutex τ
  rwlock : Rwlock τ
  dpidUnderDestruction : Dpid
  switchs : SortedMap Dpid OpenflowSwitch
  /-- the addresses of the switches that have not been deleted -/
  alive : ℕ → Bool
  /-- the address of the next switch -/
  next : ℕ

/-- The manager and its threads. -/
abbrev State (τ : Type) := Threads (SwitchManager τ) τ Pc

/-- No switches, and all threads outside. -/
def init : State τ where
  shared :=
    { mutex := none
      rwlock := .free
      dpidUnderDestruction := 0
      switchs := .empty
      alive _ := false
      next := 0 }
  pc _ := .idle none

/-- What a thread does. -/
inductive Action (τ : Type) where
  | createSwitch (t : τ) (dpid : Dpid) (dpname : String) (new : NewSwitch)
  | destroySwitch (t : τ) (dpid : Dpid) (snapshot : Option (List String))
  | notify (t : τ) (n : Notification)
  /-- a call that holds the write lock, such as `rpc_connect_to_ctl` -/
  | write (t : τ)
  /-- a call that holds the read lock, such as `exists` -/
  | read (t : τ)
  | run (t : τ)
  /-- `detach_port_from_switch` throws -/
  | detachThrows (t : τ)
  /-- `find` overlaps an insertion, and misses -/
  | findMisses (t : τ)
  deriving DecidableEq

/-- What a notification for a switch under destruction returns without having tried the lock. -/
def NotificationKind.dropped : NotificationKind → Return
  | packetIn => .roflSuccess
  | flowRemoved => .roflSuccess
  | _ => .roflFailure

/-- The next access of a thread. -/
def access (t : τ) (s : SwitchManager τ) : Pc → Option (SwitchManager τ × Pc)
  | .idle _ => none
  | .createLock dpid dpname new =>
      if s.mutex = none then some ({ s with mutex := some t }, .createCheck dpid dpname new)
      else none
  | .createCheck dpid dpname new =>
      if s.switchs.find dpid ≠ none ∨ s.switchs.entries.any fun e => e.2.dpname == dpname then
        some ({ s with mutex := none }, .idle (some .eOfSmExists))
      else
        match new with
        | .unsupportedSocketType =>
            some ({ s with mutex := none }, .idle (some .eOfSmUnknownSocketType))
        | .unsupportedVersion =>
            some ({ s with mutex := none }, .idle (some .eOfSmVersionNotSupported))
        -- the mutex stays locked
        | .constructorThrows => some (s, .idle (some .eOfSmErrorOnCreation))
        | .constructed =>
            some ({ s with alive := Function.update s.alive s.next true, next := s.next + 1 },
              .createStore ⟨s.next, dpid, dpname⟩)
  | .createStore dp => some (s, .createStoring dp)
  | .createStoring dp => some ({ s with switchs := s.switchs.insert dp.dpid dp }, .createUnlock)
  | .createUnlock => some ({ s with mutex := none }, .idle (some .done))
  | .destroyLock dpid snapshot =>
      if s.mutex = none then some ({ s with mutex := some t }, .destroyFind dpid snapshot)
      else none
  | .destroyFind dpid snapshot =>
      if s.switchs.find dpid = none then
        some ({ s with mutex := none }, .idle (some .eOfSmDoesNotExist))
      else
        match snapshot with
        | none => some ({ s with mutex := none }, .idle (some .eOfSmGeneralError))
        | some ports => some (s, .destroySet dpid ports)
  | .destroySet dpid ports =>
      some ({ s with dpidUnderDestruction := dpid }, .destroyDetach dpid ports)
  | .destroyDetach dpid (_ :: ports) => some (s, .destroyDetach dpid ports)
  | .destroyDetach dpid [] =>
      (s.rwlock.wrlock t).map fun l => ({ s with rwlock := l }, .destroyErase dpid)
  | .destroyErase dpid =>
      (s.switchs.find dpid).map fun dp =>
        ({ s with switchs := s.switchs.erase dpid }, .destroyRwunlock dpid dp)
  | .destroyRwunlock dpid dp =>
      some ({ s with rwlock := s.rwlock.unlock t }, .destroyDelete dpid dp)
  | .destroyDelete dpid dp =>
      some ({ s with alive := Function.update s.alive dp.addr false }, .destroyReset dpid)
  | .destroyReset dpid => some ({ s with dpidUnderDestruction := 0 }, .destroyUnlock dpid)
  | .destroyUnlock _ => some ({ s with mutex := none }, .idle (some .done))
  | .notifyRead n =>
      if n.dpid = s.dpidUnderDestruction then some (s, .idle (some n.kind.dropped))
      else some (s, .notifyTry n)
  | .notifyTry n =>
      match s.rwlock.rdlock t with
      | some l => some ({ s with rwlock := l }, .notifyFind n)
      | none => some (s, .notifyRetry n)
  | .notifyRetry n =>
      if n.dpid = s.dpidUnderDestruction then some (s, .idle (some .roflFailure))
      else some (s, .notifyTry n)
  | .notifyFind n => some (s, .notifyFinding n)
  | .notifyFinding n =>
      match s.switchs.find n.dpid with
      | some _ => some (s, .notifyGet n)
      | none => some (s, .notifyUnlock n .roflFailure)
  | .notifyGet n => some (s, .notifyGetting n)
  | .notifyGetting n => (s.switchs.find n.dpid).map fun dp => (s, .notifyHandle n dp)
  | .notifyHandle n _ => some (s, .notifyUnlock n .handled)
  | .notifyUnlock _ ret => some ({ s with rwlock := s.rwlock.unlock t }, .idle (some ret))
  | .writerLock => (s.rwlock.wrlock t).map fun l => ({ s with rwlock := l }, .writerUnlock)
  | .readerLock => (s.rwlock.rdlock t).map fun l => ({ s with rwlock := l }, .readerUnlock)
  | .writerUnlock => some ({ s with rwlock := s.rwlock.unlock t }, .idle (some .done))
  | .readerUnlock => some ({ s with rwlock := s.rwlock.unlock t }, .idle (some .done))

/-- A thread that is outside calls a function. -/
def call (s : State τ) (t : τ) (c : Pc) : Option (State τ) :=
  match s.pc t with
  | .idle _ => some (s.goto t c)
  | _ => none

/-- `detach_port_from_switch` throws: `destroy_switch` unlocks the mutex and rethrows. -/
def detachThrows (s : State τ) (t : τ) : Option (State τ) :=
  match s.pc t with
  | .destroyDetach _ (_ :: _) =>
      some ⟨{ s.shared with mutex := none }, Function.update s.pc t (.idle (some .detachFailed))⟩
  | _ => none

/-- A thread is putting a switch into the map. -/
def Inserting (s : State τ) : Prop :=
  ∃ t ∈ s.shared.mutex, (s.pc t).inserting = true

instance (s : State τ) : Decidable (Inserting s) :=
  inferInstanceAs (Decidable (∃ t ∈ s.shared.mutex, (s.pc t).inserting = true))

/-- `find` runs into an insertion: the switch is not found, although it may be there. -/
def findMisses (s : State τ) (t : τ) : Option (State τ) :=
  match s.pc t with
  | .notifyFinding n => if Inserting s then some (s.goto t (.notifyUnlock n .roflFailure)) else none
  | _ => none

/-- One step. -/
def step (s : State τ) : Action τ → Option (State τ)
  | .createSwitch t dpid dpname new => call s t (.createLock dpid dpname new)
  | .destroySwitch t dpid snapshot => call s t (.destroyLock dpid snapshot)
  | .notify t n => call s t (.notifyRead n)
  | .write t => call s t .writerLock
  | .read t => call s t .readerLock
  | .run t => s.run access t
  | .detachThrows t => detachThrows s t
  | .findMisses t => findMisses s t

end Xdpd.Management
