import Mathlib.Data.Finset.Insert
import Mathlib.Data.Finset.Basic
import Mathlib.Logic.Function.Basic
import Xdpd.Lib.Programs
import Xdpd.Lib.Transition
import Xdpd.Management.SwitchManager

/-!
# The locks of the port manager

The operations of `port_manager` with every lock and unlock as it stands in the source, run one
after the other.  What the functions of the driver and of `switch_manager` answer is an argument of
a call: a value or an exception, and which ports the driver reports as deleted meanwhile.  The
plugins are told of a port as well; `plugin_manager` catches what they throw.  Memory that a
container of the port manager itself asks for is there, and `assert` is not compiled in.

`blacklist` throws twice without unlocking the mutex.  No other operation does, as long as what it
calls with the mutex held does not throw: `allReleased_iff`.
-/

namespace Xdpd.Management.Locking

open Xdpd.Lib Xdpd.Lib.Program

/-- `LOGICAL_SWITCH_MAX_LOG_PORTS` -/
structure Config where
  maxLogPorts : ℕ

/-- What an operation throws. -/
inductive Exception
  | ePmInvalidPort
  | ePmInvalidPortNumber
  | ePmUnknownError
  | ePmPortNotAttachedError
  | ePmBlacklistedPort
  | eOfSmDoesNotExist
  | eOfSmGeneralError
  /-- an exception of a function that the operation calls -/
  | ofCallee
  deriving DecidableEq, Repr

/-- The members of `port_manager`. -/
structure PortManager where
  mutex : Bool
  /-- somebody holds `rwlock` for writing -/
  rwlock : Bool
  blacklisted : Finset String
  vlinks : String → Option String
  /-- the operation has changed the state of the driver -/
  driverChanged : Bool

/-- What a function answers. -/
structure Answer (α : Type) where
  /-- what it returns; it throws otherwise -/
  result : Option α
  /-- the ports that the driver reports as deleted, if the function changes its state -/
  deleted : Option (List String)

/-- The members of a port snapshot that are read. -/
structure PortSnapshot where
  name : String
  isAttachedToSw : Bool
  attachedSwDpid : Dpid

/-- What the functions answer that an operation calls; it calls none of them twice, but for
`switch_manager::exists`, which it calls for two switches. -/
structure Answers where
  /-- `hal_driver_port_exists` -/
  portExists : Answer Bool
  /-- `hal_driver_get_port_snapshot_by_name`, or `_by_num` -/
  getPortSnapshot : Answer (Option PortSnapshot)
  /-- `hal_driver_bring_port_up`, or `_down`: it gives `HAL_SUCCESS` -/
  bringPort : Answer Bool
  /-- `hal_driver_attach_port_to_switch` -/
  attachPortToSwitch : Answer Bool
  /-- `hal_driver_connect_switches`, with the names of the two ports -/
  connectSwitches : Answer (Option (String × String))
  /-- `hal_driver_detach_port_from_switch`, or `_at_port_num` -/
  detachPortFromSwitch : Answer Bool
  /-- `switch_manager::exists` -/
  switchExists : Dpid → Answer Bool
  /-- `switch_manager::__notify_port_attached`, or `_detached` -/
  notifySwitch : Answer Unit

/-! ## The operations -/

namespace PortManager

/-- The mutex is locked, or unlocked. -/
def withMutex (locked : Bool) (s : PortManager) : PortManager := { s with mutex := locked }

/-- A port that is gone is taken out of the cache. -/
def eraseVlink (name : String) (s : PortManager) : PortManager :=
  { s with vlinks := Function.update s.vlinks name none }

/-- Both ends of a new link are entered into the cache. -/
def insertVlink (port1 port2 : String) (s : PortManager) : PortManager :=
  { s with
    vlinks := Function.update (Function.update s.vlinks port1 (some port2)) port2 (some port1) }

end PortManager

/-- An operation, or a part of one. -/
abbrev Operation (α : Type) := Program Exception PortManager α

/-- `pthread_mutex_lock(&port_manager::mutex)` -/
def lock : Operation Unit := do
  await (·.mutex = false)
  update (·.withMutex true)

/-- `pthread_mutex_unlock(&port_manager::mutex)` -/
def unlock : Operation Unit := update (·.withMutex false)

/-- `pthread_rwlock_wrlock(&port_manager::rwlock)` -/
def wrlock : Operation Unit := do
  await (·.rwlock = false)
  update ({ · with rwlock := true })

/-- `pthread_rwlock_unlock(&port_manager::rwlock)` -/
def rwunlock : Operation Unit := update ({ · with rwlock := false })

/-- `is_blacklisted` -/
def isBlacklisted (name : String) : Operation Bool := read (decide <| name ∈ ·.blacklisted)

/-- `hal_cmm_notify_port_delete` and `__notify_port_deleted`, for a port that the driver has
deleted. -/
def notifyPortDeleted (name : String) : Operation Unit := do
  if ← isBlacklisted name then
    return
  if ← read (fun s => (s.vlinks name).isSome) then
    wrlock
    update (·.eraseVlink name)
    rwunlock

/-- A notification for each of the ports. -/
def notifyAll : List String → Operation Unit
  | [] => pure ()
  | name :: names => do
      notifyPortDeleted name
      notifyAll names

/-- A call of a function. -/
def Answer.call {α : Type} (a : Answer α) : Operation α := do
  match a.deleted with
  | none => pure ()
  | some names =>
      update ({ · with driverChanged := true })
      notifyAll names
  match a.result with
  | none => throw .ofCallee
  | some v => pure v

/-- `is_attached` -/
def isAttached (c : Answers) : Operation Bool := do
  match ← c.getPortSnapshot.call with
  | none => throw .ePmUnknownError
  | some port_snapshot => pure port_snapshot.isAttachedToSw

/-- `blacklist` -/
def blacklist (name : String) (c : Answers) : Operation Unit := do
  if !(← c.portExists.call) then
    throw .ePmInvalidPort
  if ← isBlacklisted name then
    return
  lock
  -- both exceptions leave the mutex locked
  if ← isAttached c then
    throw .ePmInvalidPort
  update (fun s => { s with blacklisted := insert name s.blacklisted })
  unlock

/-- `whitelist` -/
def whitelist (name : String) (c : Answers) : Operation Unit := do
  if !(← c.portExists.call) then
    throw .ePmInvalidPort
  if !(← isBlacklisted name) then
    return
  lock
  update (fun s => { s with blacklisted := s.blacklisted.erase name })
  unlock

/-- `bring_up` and `bring_down` -/
def bringPort (name : String) (c : Answers) : Operation Unit := do
  if ← isBlacklisted name then
    return
  lock
  if !(← c.portExists.call) then
    unlock
    throw .ePmInvalidPort
  let result ← c.bringPort.call
  unlock
  if !result then
    throw .ePmUnknownError

/-- `attach_port_to_switch` -/
def attachPortToSwitch (cfg : Config) (dpid : Dpid) (name : String) (of_port_num : Option ℕ)
    (c : Answers) : Operation Unit := do
  match of_port_num with
  | none => throw .ePmInvalidPortNumber
  | some num =>
      if num > cfg.maxLogPorts then
        throw .ePmInvalidPortNumber
  if ← isBlacklisted name then
    throw .ePmBlacklistedPort
  lock
  if !(← c.portExists.call) then
    unlock
    throw .ePmInvalidPort
  if !(← (c.switchExists dpid).call) then
    unlock
    throw .eOfSmDoesNotExist
  if !(← c.attachPortToSwitch.call) then
    unlock
    throw .ePmUnknownError
  match ← c.getPortSnapshot.call with
  | none =>
      unlock
      throw .ePmUnknownError
  | some _ =>
      c.notifySwitch.call
      unlock

/-- `add_vlink` -/
def addVlink (port1 port2 : String) : Operation Unit := do
  wrlock
  if ← read (fun s => (s.vlinks port1).isSome || (s.vlinks port2).isSome) then
    rwunlock
    throw .ePmUnknownError
  update (·.insertVlink port1 port2)
  rwunlock

/-- `connect_switches`, which gives the names of the ports -/
def connectSwitches (cfg : Config) (dpid_lsi1 dpid_lsi2 : Dpid) (port_num1 port_num2 : Option ℕ)
    (c : Answers) : Operation (String × String) := do
  match port_num1 with
  | none => throw .ePmInvalidPortNumber
  | some num =>
      if num > cfg.maxLogPorts then
        throw .ePmInvalidPortNumber
  match port_num2 with
  | none => throw .ePmInvalidPortNumber
  | some num =>
      if num > cfg.maxLogPorts then
        throw .ePmInvalidPortNumber
  lock
  if !(← (c.switchExists dpid_lsi1).call) then
    unlock
    throw .eOfSmDoesNotExist
  if !(← (c.switchExists dpid_lsi2).call) then
    unlock
    throw .eOfSmDoesNotExist
  match ← c.connectSwitches.call with
  | none =>
      unlock
      throw .ePmUnknownError
  | some (port_name1, port_name2) =>
      tryCatch (addVlink port_name1 port_name2) fun e => do
        unlock
        throw e
      unlock
      pure (port_name1, port_name2)

/-- `detach_port_from_switch` and `detach_port_from_switch_by_num`, which throw `unable` when the
driver cannot detach the port. -/
def detachPort (dpid : Dpid) (unable : Exception) (c : Answers) : Operation Unit := do
  lock
  match ← c.getPortSnapshot.call with
  | none =>
      unlock
      throw .ePmInvalidPort
  | some port_snapshot =>
      if port_snapshot.attachedSwDpid ≠ dpid then
        unlock
        throw .ePmPortNotAttachedError
      if !(← c.detachPortFromSwitch.call) then
        unlock
        throw unable
      if ← c.portExists.call then
        c.notifySwitch.call
      unlock

/-- The functions of the API. -/
inductive ApiFunction
  | blacklist (name : String)
  | whitelist (name : String)
  | bringUp (name : String)
  | bringDown (name : String)
  | attachPortToSwitch (dpid : Dpid) (name : String) (of_port_num : Option ℕ)
  | connectSwitches (dpid_lsi1 dpid_lsi2 : Dpid) (port_num1 port_num2 : Option ℕ)
  | detachPortFromSwitch (dpid : Dpid) (name : String)
  | detachPortFromSwitchByNum (dpid : Dpid) (port_num : ℕ)

/-- A call of a function, and what is answered to it. -/
structure Call where
  function : ApiFunction
  answers : Answers

/-- What the call does. -/
def Call.operation (cfg : Config) (call : Call) : Operation Unit := do
  update ({ · with driverChanged := false })
  match call.function with
  | .blacklist name => blacklist name call.answers
  | .whitelist name => whitelist name call.answers
  | .bringUp name => bringPort name call.answers
  | .bringDown name => bringPort name call.answers
  | .attachPortToSwitch dpid name num => attachPortToSwitch cfg dpid name num call.answers
  | .connectSwitches dpid1 dpid2 num1 num2 =>
      let _ ← connectSwitches cfg dpid1 dpid2 num1 num2 call.answers
  | .detachPortFromSwitch dpid _ => detachPort dpid .ePmUnknownError call.answers
  | .detachPortFromSwitchByNum dpid _ => detachPort dpid .eOfSmGeneralError call.answers

/-! ## The property -/

namespace PortManager

/-- Nobody holds a lock. -/
def Free (s : PortManager) : Prop := s.mutex = false ∧ s.rwlock = false

/-- While the state of the driver is as it was, the blacklist and the cache are too. -/
def CleanSince (s₀ s : PortManager) : Prop :=
  s.driverChanged = false → s.blacklisted = s₀.blacklisted ∧ s.vlinks = s₀.vlinks

end PortManager

/-- What a call is to leave that returns. -/
def Returned {α : Type} : α → PortManager → Prop := fun _ s => s.Free

/-- What a call is to leave that throws. -/
def Thrown (s₀ : PortManager) : Exception → PortManager → Prop :=
  fun _ s => s.Free ∧ s₀.CleanSince s

/-- The call comes to an end, with both locks released; and if it throws before it has changed the
state of the driver, it leaves the blacklist and the cache. -/
def Released (cfg : Config) (s : PortManager) (call : Call) : Prop :=
  wp (call.operation cfg) Returned (Thrown s) s

/-- The function does not throw, and what it returns is as told. -/
def Answer.Returns {α : Type} (a : Answer α) (P : α → Prop) : Prop := ∃ v ∈ a.result, P v

/-- The number is given and in range. -/
def ValidPortNum (cfg : Config) (port_num : Option ℕ) : Prop :=
  ∃ num ∈ port_num, num ≤ cfg.maxLogPorts

/-- No function that is called with the mutex held throws, and a port that comes to be blacklisted
is there and not attached. -/
def Unharmed (cfg : Config) (s : PortManager) (call : Call) : Prop :=
  let c := call.answers
  match call.function with
  | .blacklist name => c.portExists.result = some true → name ∉ s.blacklisted →
      c.getPortSnapshot.Returns fun snapshot =>
        ∃ port ∈ snapshot, port.isAttachedToSw = false
  | .whitelist _ => True
  | .bringUp name | .bringDown name => name ∉ s.blacklisted →
      c.portExists.Returns fun found => found = true → c.bringPort.Returns fun _ => True
  | .attachPortToSwitch dpid name num => ValidPortNum cfg num → name ∉ s.blacklisted →
      c.portExists.Returns fun found => found = true →
        (c.switchExists dpid).Returns fun found => found = true →
          c.attachPortToSwitch.Returns fun success => success = true →
            c.getPortSnapshot.Returns fun snapshot => snapshot ≠ none →
              c.notifySwitch.Returns fun _ => True
  | .connectSwitches dpid1 dpid2 num1 num2 => ValidPortNum cfg num1 → ValidPortNum cfg num2 →
      (c.switchExists dpid1).Returns fun found => found = true →
        (c.switchExists dpid2).Returns fun found => found = true →
          c.connectSwitches.Returns fun _ => True
  | .detachPortFromSwitch dpid _ | .detachPortFromSwitchByNum dpid _ =>
      c.getPortSnapshot.Returns fun snapshot => ∀ port ∈ snapshot, port.attachedSwDpid = dpid →
        c.detachPortFromSwitch.Returns fun success => success = true →
          c.portExists.Returns fun found => found = true → c.notifySwitch.Returns fun _ => True

/-! ## What a call of a function does -/

namespace PortManager

/-- A port that the driver reports as deleted. -/
def deleted (s : PortManager) (name : String) : PortManager :=
  if name ∈ s.blacklisted then s
  else if (s.vlinks name).isSome then s.eraseVlink name
  else s

/-- The state that a function leaves. -/
def after {α : Type} (s : PortManager) (a : Answer α) : PortManager :=
  match a.deleted with
  | none => s
  | some names => names.foldl deleted { s with driverChanged := true }

section Fields

variable {α : Type} {s s₀ : PortManager} {locked : Bool} {name : String}

lemma deleted_eq (s : PortManager) (name : String) :
    (s.deleted name).mutex = s.mutex ∧ (s.deleted name).rwlock = s.rwlock ∧
      (s.deleted name).blacklisted = s.blacklisted ∧
      (s.deleted name).driverChanged = s.driverChanged := by
  rw [deleted]
  split_ifs
  · exact ⟨rfl, rfl, rfl, rfl⟩
  · exact ⟨rfl, rfl, rfl, rfl⟩
  · exact ⟨rfl, rfl, rfl, rfl⟩

lemma foldl_deleted (names : List String) (s : PortManager) :
    (names.foldl deleted s).mutex = s.mutex ∧ (names.foldl deleted s).rwlock = s.rwlock ∧
      (names.foldl deleted s).blacklisted = s.blacklisted ∧
      (names.foldl deleted s).driverChanged = s.driverChanged := by
  induction names generalizing s with
  | nil => exact ⟨rfl, rfl, rfl, rfl⟩
  | cons name names ih =>
      obtain ⟨hmutex, hrwlock, hblacklisted, hchanged⟩ := ih (s.deleted name)
      obtain ⟨hmutex', hrwlock', hblacklisted', hchanged'⟩ := deleted_eq s name
      exact ⟨hmutex.trans hmutex', hrwlock.trans hrwlock', hblacklisted.trans hblacklisted',
        hchanged.trans hchanged'⟩

@[simp]
lemma after_mutex (s : PortManager) (a : Answer α) : (s.after a).mutex = s.mutex := by
  rw [after]
  split
  · rfl
  · exact (foldl_deleted _ _).1

@[simp]
lemma after_rwlock (s : PortManager) (a : Answer α) : (s.after a).rwlock = s.rwlock := by
  rw [after]
  split
  · rfl
  · exact (foldl_deleted _ _).2.1

@[simp]
lemma after_blacklisted (s : PortManager) (a : Answer α) :
    (s.after a).blacklisted = s.blacklisted := by
  rw [after]
  split
  · rfl
  · exact (foldl_deleted _ _).2.2.1

@[simp]
lemma withMutex_mutex (s : PortManager) : (s.withMutex locked).mutex = locked := by
  rw [withMutex]

@[simp]
lemma withMutex_rwlock (s : PortManager) : (s.withMutex locked).rwlock = s.rwlock := by
  rw [withMutex]

@[simp]
lemma withMutex_blacklisted (s : PortManager) :
    (s.withMutex locked).blacklisted = s.blacklisted := by
  rw [withMutex]

@[simp]
lemma cleanSince_withMutex : s₀.CleanSince (s.withMutex locked) ↔ s₀.CleanSince s := Iff.rfl

@[simp]
lemma insertVlink_rwlock (s : PortManager) (port1 port2 : String) :
    (s.insertVlink port1 port2).rwlock = s.rwlock := by
  rw [insertVlink]

/-- A function that reports deletions has changed the state of the driver. -/
@[simp]
lemma cleanSince_after (a : Answer α) :
    s₀.CleanSince (s.after a) ↔ (a.deleted = none → s₀.CleanSince s) := by
  obtain ⟨result, deleted⟩ := a
  cases deleted with
  | none => simp [after]
  | some names => simp [after, CleanSince, (foldl_deleted names _).2.2.2]

end Fields

end PortManager

section Rules

variable {α : Type} {R : Unit → PortManager → Prop} {E : Exception → PortManager → Prop}
variable {s s₀ : PortManager} {name : String}

lemma wp_notifyPortDeleted (hrwlock : s.rwlock = false) :
    wp (notifyPortDeleted name) R E s ↔ R () (s.deleted name) := by
  obtain ⟨mutex, rwlock, blacklisted, vlinks, driverChanged⟩ := s
  subst hrwlock
  rw [notifyPortDeleted, isBlacklisted, PortManager.deleted]
  by_cases hblacklisted : name ∈ blacklisted
  · simp [hblacklisted]
  · by_cases hvlink : (vlinks name).isSome = true
    · simp [hblacklisted, hvlink, wrlock, rwunlock, PortManager.eraseVlink]
    · simp [hblacklisted, hvlink]

lemma wp_notifyAll (names : List String) (hrwlock : s.rwlock = false) :
    wp (notifyAll names) R E s ↔ R () (names.foldl PortManager.deleted s) := by
  induction names generalizing s with
  | nil => simp [notifyAll]
  | cons name names ih =>
      have hdeleted : (s.deleted name).rwlock = false :=
        (PortManager.deleted_eq s name).2.1.trans hrwlock
      rw [notifyAll, wp_bind, wp_notifyPortDeleted hrwlock, ih hdeleted, List.foldl_cons]

/-- A function that is called while nobody holds `rwlock`. -/
lemma wp_call {R : α → PortManager → Prop} (a : Answer α) (hrwlock : s.rwlock = false) :
    wp a.call R E s ↔
      match a.result with
      | none => E .ofCallee (s.after a)
      | some v => R v (s.after a) := by
  obtain ⟨result, deleted⟩ := a
  rw [Answer.call, PortManager.after]
  cases deleted with
  | none =>
      cases result with
      | none => simp
      | some v => simp
  | some names =>
      have hchanged : ({ s with driverChanged := true } : PortManager).rwlock = false := hrwlock
      cases result with
      | none => simp [wp_notifyAll names hchanged]
      | some v => simp [wp_notifyAll names hchanged]

/-- With the mutex locked, a function must not throw. -/
lemma wp_call_held {R : α → PortManager → Prop} (a : Answer α) (hmutex : s.mutex = true)
    (hrwlock : s.rwlock = false) :
    wp a.call R (Thrown s₀) s ↔ a.Returns fun v => R v (s.after a) := by
  rw [wp_call a hrwlock, Answer.Returns]
  cases a.result with
  | none => simp [Thrown, PortManager.Free, hmutex]
  | some v => simp

/-- With the mutex free, it may. -/
lemma wp_call_free {R : α → PortManager → Prop} (a : Answer α) (hmutex : s.mutex = false)
    (hrwlock : s.rwlock = false) (hclean : s₀.CleanSince s) :
    wp a.call R (Thrown s₀) s ↔ ∀ v ∈ a.result, R v (s.after a) := by
  rw [wp_call a hrwlock]
  cases a.result with
  | none => simp [Thrown, PortManager.Free, hmutex, hrwlock, hclean]
  | some v => simp

@[simp]
lemma returned_iff {a : α} : Returned a s ↔ s.mutex = false ∧ s.rwlock = false := Iff.rfl

lemma thrown_iff {e : Exception} (hrwlock : s.rwlock = false) (hclean : s₀.CleanSince s) :
    Thrown s₀ e s ↔ s.mutex = false := by
  rw [Thrown, PortManager.Free]
  exact ⟨fun h => h.1.1, fun h => ⟨⟨h, hrwlock⟩, hclean⟩⟩

end Rules

section Operations

variable {s s₀ : PortManager} {name : String} {c : Answers} {R : Unit → PortManager → Prop}

lemma bringPort_iff (hfree : s.Free) (hclean : s₀.CleanSince s) :
    wp (bringPort name c) Returned (Thrown s₀) s ↔
      (name ∉ s.blacklisted → c.portExists.Returns fun found => found = true →
        c.bringPort.Returns fun _ => True) := by
  obtain ⟨hmutex, hrwlock⟩ := hfree
  simp [bringPort, isBlacklisted, lock, unlock, hmutex, hrwlock, wp_call_held, thrown_iff, hclean]

lemma whitelist_released (hfree : s.Free) (hclean : s₀.CleanSince s) :
    wp (whitelist name c) Returned (Thrown s₀) s := by
  obtain ⟨hmutex, hrwlock⟩ := hfree
  simp [whitelist, isBlacklisted, lock, unlock, hmutex, hrwlock, wp_call_free, thrown_iff, hclean]

lemma blacklist_iff (hfree : s.Free) (hclean : s₀.CleanSince s) :
    wp (blacklist name c) Returned (Thrown s₀) s ↔
      (c.portExists.result = some true → name ∉ s.blacklisted →
        c.getPortSnapshot.Returns fun snapshot =>
          ∃ port ∈ snapshot, port.isAttachedToSw = false) := by
  obtain ⟨hmutex, hrwlock⟩ := hfree
  rcases hsnapshot : c.getPortSnapshot.result with _ | _ | port
  all_goals
    simp [blacklist, isAttached, isBlacklisted, lock, unlock, hmutex, hrwlock, wp_call_free,
      wp_call_held, thrown_iff, hclean, Answer.Returns, hsnapshot]

lemma attachPortToSwitch_iff {cfg : Config} {dpid : Dpid} {num : Option ℕ} (hfree : s.Free)
    (hclean : s₀.CleanSince s) :
    wp (attachPortToSwitch cfg dpid name num c) Returned (Thrown s₀) s ↔
      (ValidPortNum cfg num → name ∉ s.blacklisted →
      c.portExists.Returns fun found => found = true →
        (c.switchExists dpid).Returns fun found => found = true →
          c.attachPortToSwitch.Returns fun success => success = true →
            c.getPortSnapshot.Returns fun snapshot => snapshot ≠ none →
              c.notifySwitch.Returns fun _ => True) := by
  obtain ⟨hmutex, hrwlock⟩ := hfree
  cases num with
  | none => simp [attachPortToSwitch, hmutex, hrwlock, thrown_iff, hclean, ValidPortNum]
  | some num =>
      rcases hsnapshot : c.getPortSnapshot.result with _ | _ | port
      all_goals
        simp [attachPortToSwitch, isBlacklisted, lock, unlock, hmutex, hrwlock, wp_call_held,
          thrown_iff, hclean, ValidPortNum, Answer.Returns, hsnapshot]

/-- `add_vlink` releases `rwlock` on either exit. -/
lemma wp_addVlink {port1 port2 : String} {E : Exception → PortManager → Prop}
    (hrwlock : s.rwlock = false) :
    wp (addVlink port1 port2) R E s ↔
      if (s.vlinks port1).isSome || (s.vlinks port2).isSome then E .ePmUnknownError s
      else R () (s.insertVlink port1 port2) := by
  obtain ⟨mutex, rwlock, blacklisted, vlinks, driverChanged⟩ := s
  subst hrwlock
  by_cases hvlink : ((vlinks port1).isSome || (vlinks port2).isSome) = true
  · simp [addVlink, wrlock, rwunlock, hvlink]
  · simp [addVlink, wrlock, rwunlock, hvlink, PortManager.insertVlink]

lemma connectSwitches_iff {cfg : Config} {dpid1 dpid2 : Dpid} {num1 num2 : Option ℕ}
    (hfree : s.Free) (hclean : s₀.CleanSince s) :
    wp (connectSwitches cfg dpid1 dpid2 num1 num2 c) Returned (Thrown s₀) s ↔
      (ValidPortNum cfg num1 → ValidPortNum cfg num2 →
      (c.switchExists dpid1).Returns fun found => found = true →
        (c.switchExists dpid2).Returns fun found => found = true →
          c.connectSwitches.Returns fun _ => True) := by
  obtain ⟨hmutex, hrwlock⟩ := hfree
  cases num1 with
  | none => simp [connectSwitches, hmutex, hrwlock, thrown_iff, hclean, ValidPortNum]
  | some num1 =>
      cases num2 with
      | none => simp [connectSwitches, hmutex, hrwlock, thrown_iff, hclean, ValidPortNum]
      | some num2 =>
          rcases hconnect : c.connectSwitches.result with _ | _ | ⟨port_name1, port_name2⟩
          all_goals
            simp [connectSwitches, lock, unlock, hmutex, hrwlock, wp_call_held, wp_addVlink,
              thrown_iff, hclean, ValidPortNum, Answer.Returns, hconnect]

lemma detachPort_iff {dpid : Dpid} {unable : Exception} (hfree : s.Free)
    (hclean : s₀.CleanSince s) :
    wp (detachPort dpid unable c) Returned (Thrown s₀) s ↔
      (c.getPortSnapshot.Returns fun snapshot => ∀ port ∈ snapshot, port.attachedSwDpid = dpid →
        c.detachPortFromSwitch.Returns fun success => success = true →
          c.portExists.Returns fun found => found = true →
            c.notifySwitch.Returns fun _ => True) := by
  obtain ⟨hmutex, hrwlock⟩ := hfree
  rcases hsnapshot : c.getPortSnapshot.result with _ | _ | port
  all_goals
    simp [detachPort, lock, unlock, hmutex, hrwlock, wp_call_held, thrown_iff, hclean,
      Answer.Returns, hsnapshot]

/-- A call that finds the locks free releases them exactly when it is not harmed. -/
lemma released_iff {cfg : Config} {call : Call} (hfree : s.Free) :
    Released cfg s call ↔ Unharmed cfg s call := by
  obtain ⟨function, c⟩ := call
  set s₁ : PortManager := { s with driverChanged := false } with hs₁
  have hfree₁ : s₁.Free := hfree
  have hclean : s.CleanSince s₁ := fun _ => ⟨rfl, rfl⟩
  rw [Released, Call.operation, wp_bind, wp_update]
  cases function with
  | blacklist name => exact blacklist_iff hfree₁ hclean
  | whitelist name => exact iff_of_true (whitelist_released hfree₁ hclean) trivial
  | bringUp name => exact bringPort_iff hfree₁ hclean
  | bringDown name => exact bringPort_iff hfree₁ hclean
  | attachPortToSwitch dpid name num => exact attachPortToSwitch_iff hfree₁ hclean
  | connectSwitches dpid1 dpid2 num1 num2 =>
      exact (wp_bind _ _).trans (connectSwitches_iff hfree₁ hclean)
  | detachPortFromSwitch dpid name => exact detachPort_iff hfree₁ hclean
  | detachPortFromSwitchByNum dpid num => exact detachPort_iff hfree₁ hclean

end Operations

/-- The state that a call leaves; a call that blocks leaves none. -/
def Call.next (cfg : Config) (s : PortManager) (call : Call) : PortManager :=
  match call.operation cfg s with
  | none => s
  | some (_, s') => s'

lemma Released.free {cfg : Config} {s : PortManager} {call : Call} (h : Released cfg s call) :
    (call.next cfg s).Free := by
  rw [Released, wp] at h
  rw [Call.next]
  cases hrun : call.operation cfg s with
  | none =>
      rw [hrun] at h
      exact h.elim
  | some p =>
      obtain ⟨r, s'⟩ := p
      rw [hrun] at h
      cases r with
      | error e => exact h.1
      | ok a => exact h

/-- **The locks are released.**  Of any calls, one after the other, from a state with the locks
free, every one returns or throws with the locks released, and leaves the blacklist and the cache
when it throws before it has changed the state of the driver, if and only if no function that is
called with the mutex held throws, and no port that is attached, or that the driver has no snapshot
of, comes to be blacklisted. -/
theorem allReleased_iff (cfg : Config) {s : PortManager} (hfree : s.Free) (calls : List Call) :
    AllSteps (fun s call => call.next cfg s) (Released cfg) s calls ↔
      AllSteps (fun s call => call.next cfg s) (Unharmed cfg) s calls := by
  have hiff : ∀ s call, PortManager.Free s → (Released cfg s call ↔ Unharmed cfg s call) :=
    fun _ _ hfree => released_iff hfree
  have hkeep : ∀ s call, PortManager.Free s → Unharmed cfg s call → (call.next cfg s).Free :=
    fun s call hfree hunharmed => ((hiff s call hfree).2 hunharmed).free
  exact allSteps_iff hiff hkeep hfree calls

/-- The port manager at the start. -/
def PortManager.init : PortManager where
  mutex := false
  rwlock := false
  blacklisted := ∅
  vlinks _ := none
  driverChanged := false

/-- A function that returns, and changes nothing. -/
def Answer.of {α : Type} (v : α) : Answer α := ⟨some v, none⟩

/-- All functions succeed, for a port that is attached to a switch, or to none. -/
def Answers.succeed (attached : Bool) : Answers where
  portExists := .of true
  getPortSnapshot := .of (some ⟨"ge0", attached, if attached then 1 else 0⟩)
  bringPort := .of true
  attachPortToSwitch := .of true
  connectSwitches := .of (some ("vlink0_0", "vlink0_1"))
  detachPortFromSwitch := .of true
  switchExists _ := .of true
  notifySwitch := .of ()

/-- One call of each kind. -/
def eachFunction : List Call :=
  [⟨.blacklist "ge0", .succeed false⟩, ⟨.whitelist "ge0", .succeed false⟩,
    ⟨.attachPortToSwitch 1 "ge0" (some 0), .succeed true⟩, ⟨.bringUp "ge0", .succeed true⟩,
    ⟨.connectSwitches 1 2 (some 0) (some 0), .succeed true⟩, ⟨.bringDown "ge0", .succeed true⟩,
    ⟨.detachPortFromSwitchByNum 1 1, .succeed true⟩,
    ⟨.detachPortFromSwitch 1 "ge0", .succeed false⟩]

theorem allReleased_eachFunction :
    AllSteps (fun s call => Call.next ⟨64⟩ s call) (Released ⟨64⟩) .init eachFunction := by
  refine (allReleased_iff ⟨64⟩ ⟨rfl, rfl⟩ eachFunction).2 ?_
  simp [eachFunction, AllSteps, Unharmed, Answer.Returns, Answers.succeed, Answer.of]

/-- A port that is attached is to be blacklisted; the mutex is never unlocked, and the next call
that needs it waits for ever. -/
theorem blacklist_leaks :
    ¬ Released ⟨64⟩ .init ⟨.blacklist "ge0", .succeed true⟩ ∧
      ∃ s, Call.operation ⟨64⟩ ⟨.blacklist "ge0", .succeed true⟩ .init =
          some (.error .ePmInvalidPort, s) ∧ s.mutex = true ∧
        Call.operation ⟨64⟩ ⟨.bringUp "ge1", .succeed true⟩ s = none := by
  refine ⟨?_, _, rfl, rfl, rfl⟩
  rw [released_iff ⟨rfl, rfl⟩]
  simp [Unharmed, Answer.Returns, Answers.succeed, Answer.of, PortManager.init]

end Xdpd.Management.Locking
