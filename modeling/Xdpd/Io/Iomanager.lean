import Mathlib.Logic.Function.Basic
import Xdpd.Lib.Transition
import Xdpd.Util.SafeVector

/-!
# Bringing ports up and down under the I/O threads

The ports are distributed over port groups, each of which has one I/O thread (the header asserts
`DEFAULT_THREADS_PER_PG == 1`).  `iomanager::bring_port_up` and `bring_port_down` change the
running ports of a group, increment its `running_hash` and wait on its semaphore; the thread, in
`epoll_ioscheduler::process_io`, compares the hash with the one it has seen, takes a new snapshot of
the running ports in `init_or_update_fds` and posts the semaphore.  `ioport_mmap::write` increments
the hash as well, when it resets a port after a failure to send.

Here every access to the shared state of a group is a step of its own, the increments of the hash
included, and the steps of the manager and of all threads interleave.  The two operations of the
manager hold its mutex, so that one of them runs at a time.
-/

namespace Xdpd.Io

open Xdpd.Lib Xdpd.Util

variable {π : Type*} [DecidableEq π]

/-- `pg_type_t`. -/
inductive PgType
  | rx | tx
  deriving DecidableEq, Repr

/-- The port groups and the ports that have been added to them.  `add_port` adds a port to one
group for reception and to one for transmission. -/
structure Groups (π : Type*) where
  size : ℕ
  type : ℕ → PgType
  ports : ℕ → List π
  unique : ∀ g g' p, p ∈ ports g → p ∈ ports g' → type g = type g' → g = g'

/-! ## The I/O threads -/

/-- The next step of an I/O thread. -/
inductive ThreadPc
  /-- `if(!pg->running_ports->size()) return`, in `init_or_update_fds` -/
  | init
  /-- `read_lock()`, and the registration of the running ports -/
  | lock
  /-- `*current_hash = pg->running_hash` -/
  | hash
  /-- `signal_as_synchronized(pg)` -/
  | post
  /-- `read_unlock()` -/
  | unlock
  /-- `while(keep_on_working(pg))` -/
  | loop
  /-- the ports with events are read from or written to -/
  | process
  /-- `pg->running_hash++` of a reset, its old value having been loaded -/
  | reset (running_hash : BitVec 32)
  /-- `if(pg->running_hash != current_hash)` -/
  | compare
  /-- `pthread_exit` -/
  | exited
  deriving DecidableEq, Repr

/-- An I/O thread: the snapshot of the running ports that it works on, and their hash. -/
structure IoThread (π : Type*) where
  pc : ThreadPc
  ports : List π
  current_hash : BitVec 32
  deriving DecidableEq, Repr

/-- `portgroup_state`, less what never changes. -/
structure Portgroup (π : Type*) where
  running_ports : List π
  running_hash : BitVec 32
  sync_sem : ℕ
  keep_on : Bool
  thread : Option (IoThread π)
  deriving DecidableEq, Repr

/-- The group when it is created. -/
def createGroup : Portgroup π where
  running_ports := []
  running_hash := 0
  sync_sem := 0
  keep_on := false
  thread := none

/-- The thread holds the read lock of the running ports. -/
def Portgroup.ReadLocked (pg : Portgroup π) : Prop :=
  ∃ t ∈ pg.thread, t.pc = .hash ∨ t.pc = .post ∨ t.pc = .unlock

omit [DecidableEq π] in
instance (pg : Portgroup π) : Decidable pg.ReadLocked :=
  inferInstanceAs (Decidable (∃ t ∈ pg.thread, _))

/-- The next step of the thread `t` of the group `pg`. -/
def threadStep (pg : Portgroup π) (t : IoThread π) : Option (Portgroup π) :=
  match t.pc with
  | .init =>
      some { pg with
        thread := some { t with pc := if pg.running_ports = [] then .loop else .lock } }
  | .lock => some { pg with thread := some { t with pc := .hash, ports := pg.running_ports } }
  | .hash => some { pg with thread := some { t with pc := .post, current_hash := pg.running_hash } }
  | .post =>
      some { pg with sync_sem := pg.sync_sem + 1, thread := some { t with pc := .unlock } }
  | .unlock => some { pg with thread := some { t with pc := .loop } }
  | .loop =>
      some { pg with thread := some { t with pc := if pg.keep_on then .process else .exited } }
  | .process => some { pg with thread := some { t with pc := .compare } }
  | .reset running_hash =>
      some { pg with running_hash := running_hash + 1, thread := some { t with pc := .process } }
  | .compare =>
      some { pg with
        thread := some
          { t with pc := if pg.running_hash ≠ t.current_hash then .init else .loop } }
  | .exited => none

/-! ## The manager -/

/-- `bring_port_up` or `bring_port_down`. -/
inductive Op
  | up | down
  deriving DecidableEq, Repr

/-- The next step of an operation, at the group `i` of its loop. -/
inductive Stage
  /-- the condition of the loop and the tests whether the group contains the port -/
  | scan
  /-- `running_ports->erase(port)` -/
  | erase
  /-- `running_ports->push_back(port)` to a group without running ports -/
  | pushFirst
  /-- `start_portgroup_threads(pg)` -/
  | start
  /-- `running_ports->push_back(port)` -/
  | push
  /-- the load in `pg->running_hash++` -/
  | loadHash
  /-- the store in `pg->running_hash++` -/
  | storeHash (running_hash : BitVec 32)
  /-- `if(pg->running_ports->size() == 0)` -/
  | decide
  /-- `sem_wait(&pg->sync_sem)` -/
  | wait
  /-- `pg->keep_on = false` -/
  | stop
  /-- `pthread_join` -/
  | join
  /-- the flags of what has been brought up or down -/
  | flags
  /-- `port->down()` -/
  | down
  deriving DecidableEq, Repr

/-- An operation that is running: `rx` and `tx` are its flags `brought_rx_*` and `brought_tx_*`. -/
structure Call (π : Type*) where
  op : Op
  port : π
  i : ℕ
  rx : Bool
  tx : Bool
  stage : Stage
  deriving DecidableEq, Repr

/-- The state of all groups, and the operation that holds the mutex. -/
structure State (π : Type*) where
  groups : ℕ → Portgroup π
  call : Option (Call π)

/-- The state after `init`. -/
def State.init : State π where
  groups _ := createGroup
  call := none

/-- The group `g` becomes `pg`. -/
def State.setGroup (s : State π) (g : ℕ) (pg : Portgroup π) : State π :=
  { s with groups := Function.update s.groups g pg }

/-- The operation goes on with `c`. -/
def State.goto (s : State π) (c : Call π) : State π :=
  { s with call := some c }

/-- The operation returns. -/
def State.return (s : State π) : State π :=
  { s with call := none }

omit [DecidableEq π] in
@[simp] lemma State.setGroup_call (s : State π) (g : ℕ) (pg : Portgroup π) :
    (s.setGroup g pg).call = s.call := rfl

omit [DecidableEq π] in
@[simp] lemma State.goto_call (s : State π) (c : Call π) : (s.goto c).call = some c := rfl

omit [DecidableEq π] in
@[simp] lemma State.return_call (s : State π) : s.return.call = none := rfl

omit [DecidableEq π] in
@[simp] lemma State.setGroup_groups (s : State π) (g : ℕ) (pg : Portgroup π) :
    (s.setGroup g pg).groups = Function.update s.groups g pg := rfl

omit [DecidableEq π] in
@[simp] lemma State.goto_groups (s : State π) (c : Call π) : (s.goto c).groups = s.groups := rfl

omit [DecidableEq π] in
@[simp] lemma State.return_groups (s : State π) : s.return.groups = s.groups := rfl

/-- The next step of the operation `c`. -/
def callStep (cfg : Groups π) (s : State π) (c : Call π) : Option (State π) :=
  let pg := s.groups c.i
  match c.stage with
  | .scan =>
      if cfg.size ≤ c.i then
        some s.return
      else
        match c.op with
        | .down =>
            if c.port ∈ pg.running_ports then some (s.goto { c with stage := .erase })
            else some (s.goto { c with i := c.i + 1 })
        | .up =>
            if c.port ∈ cfg.ports c.i then
              if c.port ∈ pg.running_ports then some s.return
              else if pg.running_ports = [] then some (s.goto { c with stage := .pushFirst })
              else some (s.goto { c with stage := .push })
            else some (s.goto { c with i := c.i + 1 })
  | .erase =>
      if pg.ReadLocked then none
      else
        some ((s.setGroup c.i
          { pg with running_ports := SafeVector.erase c.port pg.running_ports }).goto
            { c with stage := .loadHash })
  | .pushFirst =>
      if pg.ReadLocked then none
      else
        some ((s.setGroup c.i { pg with running_ports := pg.running_ports ++ [c.port] }).goto
          { c with stage := .start })
  | .start =>
      some ((s.setGroup c.i
        { pg with
          keep_on := true
          thread := some { pc := .init, ports := [], current_hash := 0 } }).goto
          { c with stage := .wait })
  | .push =>
      if pg.ReadLocked then none
      else
        some ((s.setGroup c.i { pg with running_ports := pg.running_ports ++ [c.port] }).goto
          { c with stage := .loadHash })
  | .loadHash => some (s.goto { c with stage := .storeHash pg.running_hash })
  | .storeHash running_hash =>
      some ((s.setGroup c.i { pg with running_hash := running_hash + 1 }).goto
        { c with stage := if c.op = .down then .decide else .wait })
  | .decide =>
      some (s.goto { c with stage := if pg.running_ports = [] then .stop else .wait })
  | .wait =>
      if pg.sync_sem = 0 then none
      else
        some ((s.setGroup c.i { pg with sync_sem := pg.sync_sem - 1 }).goto
          { c with stage := .flags })
  | .stop => some ((s.setGroup c.i { pg with keep_on := false }).goto { c with stage := .join })
  | .join =>
      if ∃ t ∈ pg.thread, t.pc ≠ .exited then none
      else some ((s.setGroup c.i { pg with thread := none }).goto { c with stage := .flags })
  | .flags =>
      let rx := c.rx || cfg.type c.i == .rx
      let tx := c.tx || cfg.type c.i == .tx
      if rx && tx then
        match c.op with
        | .down => some (s.goto { c with rx := rx, tx := tx, stage := .down })
        | .up => some s.return
      else some (s.goto { c with rx := rx, tx := tx, i := c.i + 1, stage := .scan })
  | .down => some s.return

/-! ## The system -/

/-- What can happen next. -/
inductive Action (π : Type*)
  | bringPortUp (port : π)
  | bringPortDown (port : π)
  /-- the next step of the operation that is running -/
  | manager
  /-- the next step of the thread of the group `g` -/
  | thread (g : ℕ)
  /-- a port of the group `g`, that is being written to, is reset -/
  | resetTx (g : ℕ)
  /-- `init_or_update_fds` has no memory or no file descriptor, and gives up -/
  | initFails (g : ℕ)
  deriving DecidableEq, Repr

/-- An operation at its start. -/
def Op.call (op : Op) (port : π) : Call π where
  op := op
  port := port
  i := 0
  rx := false
  tx := false
  stage := .scan

/-- One step of the manager or of a thread. -/
def step (cfg : Groups π) (s : State π) : Action π → Option (State π)
  | .bringPortUp port =>
      if s.call = none then some (s.goto (Op.up.call port)) else none
  | .bringPortDown port =>
      if s.call = none then some (s.goto (Op.down.call port)) else none
  | .manager => s.call.bind (callStep cfg s)
  | .thread g =>
      (s.groups g).thread.bind fun t => (threadStep (s.groups g) t).map (s.setGroup g)
  | .resetTx g =>
      (s.groups g).thread.bind fun t =>
        if cfg.type g = .tx ∧ t.pc = .process then
          some (s.setGroup g
            { s.groups g with thread := some { t with pc := .reset (s.groups g).running_hash } })
        else none
  | .initFails g =>
      (s.groups g).thread.bind fun t =>
        if t.pc = .lock then
          some (s.setGroup g { s.groups g with thread := some { t with pc := .loop, ports := [] } })
        else none

/-- The operation is about to call `port->down()`. -/
def CallsDown (s : State π) (port : π) : Prop :=
  ∃ c ∈ s.call, c.stage = .down ∧ c.port = port

/-- Some I/O thread still works on a snapshot that contains the port. -/
def InSnapshot (s : State π) (port : π) : Prop :=
  ∃ g, ∃ t ∈ (s.groups g).thread, port ∈ t.ports

/-- The step does not erase a port from a group, in which other ports keep running, while the
semaphore of the group has a token left. -/
def NoStaleToken (s : State π) : Action π → Prop
  | .manager =>
      ∀ c ∈ s.call, c.stage = .erase →
        SafeVector.erase c.port (s.groups c.i).running_ports ≠ [] → (s.groups c.i).sync_sem = 0
  | _ => True

instance (s : State π) : ∀ a : Action π, Decidable (NoStaleToken s a)
  | .manager => inferInstanceAs (Decidable (∀ c ∈ s.call, _))
  | .bringPortUp _ | .bringPortDown _ | .thread _ | .resetTx _ | .initFails _ =>
      inferInstanceAs (Decidable True)

end Xdpd.Io
