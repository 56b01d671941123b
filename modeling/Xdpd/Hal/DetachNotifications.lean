import Xdpd.Hal.Topology
import Xdpd.Lib.Programs

/-!
# Notifications when a virtual link is detached

`hal_driver_detach_port_from_switch` of the two drivers for one end of a virtual link, with the
snapshots that it takes of the ports.  A snapshot is passed to `hal_cmm_notify_port_delete`, which
destroys it, or is destroyed by the driver.  Each function that the driver calls may fail; what the
pipeline library does when it does not fail is as in `driver.cc`.

The driver for DPDK takes the snapshot of a port after the port has been detached.  Both drivers
destroy a snapshot twice, or never, after some of the failures.  `detaches_iff` says when a call is
right.
-/

namespace Xdpd.Hal

open Xdpd.Lib Xdpd.Lib.Program

/-- What is read of a `switch_port_snapshot_t`. -/
structure PortSnapshot where
  name : String
  /-- `attached_sw_dpid`, if `is_attached_to_sw` -/
  attachedSw : Option Dpid
  ofPortNum : Option ℕ
  deriving DecidableEq, Repr

namespace PhysicalSwitch

/-- The port as it is. -/
def snapshot (s : PhysicalSwitch) (maxLogPorts : ℕ) (name : String) : Option PortSnapshot :=
  (s.ports name).map fun port =>
    { name := name
      attachedSw := port.attachedSw
      ofPortNum := do
        let dpid ← port.attachedSw
        let slots ← s.logicalSwitches dpid
        (List.range maxLogPorts).find? fun num => slots num = some name }

variable {s : PhysicalSwitch} {maxLogPorts : ℕ} {name other : String} {port : SwitchPort}
variable {dpid : Dpid} {slots : ℕ → Option String}

lemma name_of_snapshot {snapshot : PortSnapshot} (h : s.snapshot maxLogPorts name = some snapshot) :
    snapshot.name = name := by
  obtain ⟨port, -, hsnapshot⟩ := Option.map_eq_some_iff.1 h
  rw [← hsnapshot]

/-- A port that has been detached is not attached. -/
lemma attachedSw_snapshot_detach {snapshot : PortSnapshot}
    (h : (s.detach name port dpid slots).snapshot maxLogPorts name = some snapshot) :
    snapshot.attachedSw = none := by
  rw [PhysicalSwitch.snapshot, ports_detach_self] at h
  rw [← Option.some.inj h]

/-- The other ports are attached as before. -/
lemma snapshot_detach_of_ne (hslots : s.logicalSwitches dpid = some slots) (hne : other ≠ name) :
    (s.detach name port dpid slots).snapshot maxLogPorts other = s.snapshot maxLogPorts other := by
  have hslot : ∀ num, ((if slots num = some name then none else slots num) = some other) =
      (slots num = some other) := by
    intro num
    by_cases h : slots num = some name
    · simp [h, hne.symm]
    · rw [if_neg h]
  rw [snapshot, snapshot, ports_detach_of_ne hne]
  refine Option.map_congr fun port' _ => ?_
  cases port'.attachedSw with
  | none => rfl
  | some dpid' =>
      by_cases hdpid : dpid' = dpid
      · subst hdpid
        simp [detach, hslots, hslot]
      · simp [detach, Function.update_of_ne hdpid]

end PhysicalSwitch

/-! ## The drivers -/

/-- What the functions answer that the drivers call. -/
structure DetachEnv where
  api : PhysicalSwitchApi
  /-- `get_vlink_pair`; for DPDK, what `platform_port_state` points to -/
  vlinkPair : String → Option String
  /-- `iomanager::remove_port` gives `ROFL_SUCCESS` -/
  removePort : String → Bool
  /-- `port_manager::is_blacklisted` -/
  isBlacklisted : String → Bool

/-- A snapshot in memory. -/
structure SnapshotRef where
  id : ℕ
  snapshot : PortSnapshot

/-- The state of the library, and what has been done with the snapshots. -/
structure DetachState where
  pipeline : PhysicalSwitch
  taken : ℕ
  destroyed : List ℕ
  /-- those that have been passed to `hal_cmm_notify_port_delete` -/
  notified : List PortSnapshot
  /-- those that have been passed on to `switch_manager::__notify_port_detached` -/
  told : List PortSnapshot

/-- Nothing has been done yet. -/
def DetachState.init (s : PhysicalSwitch) : DetachState := ⟨s, 0, [], [], []⟩

/-- A null pointer is dereferenced. -/
inductive DetachFault
  | nullPointer
  deriving DecidableEq, Repr

/-- A function of the driver, or a part of one. -/
abbrev Detach (α : Type) := Program DetachFault DetachState α

/-- `switch_port_destroy_snapshot`, if there is a snapshot. -/
def destroySnapshot (snapshot : Option SnapshotRef) : Detach Unit :=
  update fun s => { s with destroyed := s.destroyed ++ (snapshot.map (·.id)).toList }

namespace DetachEnv

variable (env : DetachEnv)

/-- The snapshot that `physical_switch_get_port_snapshot` gives. -/
def snapshot (name : String) (s : PhysicalSwitch) : Option PortSnapshot :=
  if env.api.getPortSnapshot name s then s.snapshot env.api.maxLogPorts name else none

/-- `physical_switch_get_port_snapshot` -/
def getPortSnapshot (name : String) : Detach (Option SnapshotRef) := do
  match env.snapshot name (← read (·.pipeline)) with
  | none => pure none
  | some snapshot =>
      let id ← read (·.taken)
      update ({ · with taken := id + 1 })
      pure (some ⟨id, snapshot⟩)

/-- A switch is told about the port: it is attached, and not blacklisted. -/
def heard (snapshot : PortSnapshot) : Bool :=
  !env.isBlacklisted snapshot.name && snapshot.attachedSw.isSome

/-- `hal_cmm_notify_port_delete`, whose result the drivers do not look at. -/
def notifyPortDelete (snapshot : Option SnapshotRef) : Detach Unit :=
  match snapshot with
  | none => pure ()
  | some ref => do
      update fun s => { s with
        notified := s.notified ++ [ref.snapshot]
        told := s.told ++ [ref.snapshot].filter env.heard }
      destroySnapshot (some ref)

/-- `physical_switch_detach_port_from_logical_switch`, which fails for a null pointer. -/
def detachPort (name : String) (dpid : Option Dpid) : Detach Bool := do
  let s ← read (·.pipeline)
  match dpid.bind fun dpid => env.api.detachPort name dpid s with
  | none => pure false
  | some pipeline =>
      update ({ · with pipeline := pipeline })
      pure true

/-- `physical_switch_remove_port` -/
def removeSwitchPort (name : String) : Detach Bool := do
  match env.api.removePort name (← read (·.pipeline)) with
  | none => pure false
  | some pipeline =>
      update ({ · with pipeline := pipeline })
      pure true

/-- `DRIVER_DETACH_ERROR`, in both drivers. -/
def driverDetachError (port_snapshot port_pair_snapshot : Option SnapshotRef) : Detach Bool := do
  destroySnapshot port_snapshot
  destroySnapshot port_pair_snapshot
  return false

/-- `hal_driver_detach_port_from_switch` of gnu_linux, for the other end of a virtual link. -/
def detachPair (name port_pair : String) (port_snapshot : Option SnapshotRef) : Detach Bool := do
  let port_pair_snapshot ← env.getPortSnapshot port_pair
  if !env.removePort port_pair then
    return ← driverDetachError port_snapshot port_pair_snapshot
  match ← read (·.pipeline.ports port_pair) with
  | none => throw .nullPointer
  | some port =>
      if !(← env.detachPort port_pair port.attachedSw) then
        return ← driverDetachError port_snapshot port_pair_snapshot
      env.notifyPortDelete port_pair_snapshot
      if !(← env.removeSwitchPort name) then
        return false
      if !(← env.removeSwitchPort port_pair) then
        return ← driverDetachError port_snapshot port_pair_snapshot
      env.notifyPortDelete port_snapshot
      return true

/-- `hal_driver_detach_port_from_switch` of gnu_linux, for a port that is attached to the switch. -/
def detachAttached (dpid : Dpid) (name : String) (port : SwitchPort) : Detach Bool := do
  match ← env.getPortSnapshot name with
  | none => return false
  | some ref =>
      if !env.removePort name then
        return ← driverDetachError (some ref) none
      if !(← env.detachPort name (some dpid)) then
        return ← driverDetachError (some ref) none
      match port.type with
      | .physical =>
          destroySnapshot (some ref)
          return true
      | .virtual =>
          match env.vlinkPair name with
          | none => driverDetachError (some ref) none
          | some port_pair => env.detachPair name port_pair (some ref)

namespace Dpdk

/-- `hal_driver_detach_port_from_switch` of gnu_linux_dpdk, for the other end of a virtual link. -/
def removeLink (name port_pair : String) (port_snapshot port_pair_snapshot : Option SnapshotRef) :
    Detach Bool := do
  match ← read (·.pipeline.ports port_pair) with
  | none => throw .nullPointer
  | some port =>
      if !(← env.detachPort port_pair port.attachedSw) then
        return ← driverDetachError port_snapshot port_pair_snapshot
      if !(← env.removeSwitchPort name) then
        return false
      if !(← env.removeSwitchPort port_pair) then
        return ← driverDetachError port_snapshot port_pair_snapshot
      return true

/-- `hal_driver_detach_port_from_switch` of gnu_linux_dpdk, for both ends of a virtual link. -/
def detachPair (name port_pair : String) : Detach Bool := do
  let port_snapshot ← env.getPortSnapshot name
  let port_pair_snapshot ← env.getPortSnapshot port_pair
  env.notifyPortDelete port_snapshot
  env.notifyPortDelete port_pair_snapshot
  removeLink env name port_pair port_snapshot port_pair_snapshot

/-- `hal_driver_detach_port_from_switch` of gnu_linux_dpdk, for a port that is attached to the
switch. -/
def detachAttached (dpid : Dpid) (name : String) (port : SwitchPort) : Detach Bool := do
  if !(← env.detachPort name (some dpid)) then
    return ← driverDetachError none none
  match port.type with
  | .physical => return true
  | .virtual =>
      match env.vlinkPair name with
      | none => throw .nullPointer
      | some port_pair => detachPair env name port_pair

end Dpdk

end DetachEnv

/-- The two drivers. -/
inductive DriverName
  | gnuLinux
  | gnuLinuxDpdk
  deriving DecidableEq, Repr

namespace DetachEnv

variable (env : DetachEnv)

/-- `hal_driver_detach_port_from_switch` -/
def detachPortFromSwitch (driver : DriverName) (dpid : Dpid) (name : String) : Detach Bool := do
  match ← read (·.pipeline.logicalSwitches dpid) with
  | none => return false
  | some _ =>
      match ← read (·.pipeline.ports name) with
      | none => return false
      | some port =>
          if port.attachedSw ≠ some dpid then
            return false
          match driver with
          | .gnuLinux => env.detachAttached dpid name port
          | .gnuLinuxDpdk => Dpdk.detachAttached env dpid name port

/-! ## The purpose -/

/-- The two ports are the ends of a virtual link. -/
structure Link (s : PhysicalSwitch) (name pair : String) : Prop where
  ne : pair ≠ name
  isVirtual : ∀ port, s.ports name = some port → port.type = .virtual
  exists_pair : ∃ port, s.ports pair = some port
  vlinkPair : env.vlinkPair name = some pair

/-- What the pipeline library does when it detaches a port. -/
def Detaches : Prop :=
  ∀ {name dpid s s'}, env.api.detachPort name dpid s = some s' → ∃ port slots,
    s.ports name = some port ∧ port.attachedSw = some dpid ∧
      s.logicalSwitches dpid = some slots ∧ s' = s.detach name port dpid slots

/-- The snapshots of the ports as they are. -/
def snapshots (s : PhysicalSwitch) (names : List String) : List PortSnapshot :=
  names.filterMap (s.snapshot env.api.maxLogPorts)

/-- What a call is to leave: each snapshot has been destroyed once; and after a success there has
been one notification for each end, with the end as it was before the call. -/
def Right (s : PhysicalSwitch) (name pair : String) (success : Bool) (s' : DetachState) : Prop :=
  s'.destroyed.Perm (List.range s'.taken) ∧
    (success = true → s'.notified.Perm (env.snapshots s [name, pair]) ∧
      s'.told.Perm ((env.snapshots s [name, pair]).filter env.heard))

/-- The call does what it should. -/
def DetachesRightly (driver : DriverName) (dpid : Dpid) (name pair : String) (s : PhysicalSwitch) :
    Prop :=
  wp (env.detachPortFromSwitch driver dpid name) (env.Right s name pair) (fun _ _ => False)
    (.init s)

/-- The library detaches the port from the switch that it points to. -/
def detached (name : String) (s : PhysicalSwitch) : Option PhysicalSwitch := do
  let port ← s.ports name
  let dpid ← port.attachedSw
  env.api.detachPort name dpid s

/-- The driver copes with the failures of the functions that it calls. -/
def CopesWith (dpid : Dpid) (name pair : String) (s : PhysicalSwitch) : DriverName → Prop
  | .gnuLinux => env.snapshot name s ≠ none → env.removePort name = true →
      ∀ s₁, env.api.detachPort name dpid s = some s₁ → env.removePort pair = true →
        ∀ s₂, env.detached pair s₁ = some s₂ → ∃ s₃, env.api.removePort name s₂ = some s₃ ∧
          (env.snapshot pair s₁ = none ↔ env.api.removePort pair s₃ = none)
  | .gnuLinuxDpdk => ∀ s₁, env.api.detachPort name dpid s = some s₁ →
      (∃ s₂, env.detached pair s₁ = some s₂ ∧ env.api.removePort name s₂ = none) ∨
        env.snapshot name s₁ = none ∧ env.snapshot pair s₁ = none ∧
          ∀ s₂, env.detached pair s₁ = some s₂ →
            ∀ s₃, env.api.removePort name s₂ = some s₃ → env.api.removePort pair s₃ = none

variable {env}
variable {s s₁ : PhysicalSwitch} {dpid : Dpid} {name pair : String}

section Rules

variable {t : DetachState} {E : DetachFault → DetachState → Prop}

@[simp]
lemma wp_getPortSnapshot {R : Option SnapshotRef → DetachState → Prop} :
    wp (env.getPortSnapshot name) R E t ↔
      match env.snapshot name t.pipeline with
      | none => R none t
      | some snapshot => R (some ⟨t.taken, snapshot⟩) { t with taken := t.taken + 1 } := by
  rw [getPortSnapshot, wp_bind, wp_read]
  cases env.snapshot name t.pipeline with
  | none => exact Iff.rfl
  | some snapshot => exact Iff.rfl

@[simp]
lemma wp_detachPort {R : Bool → DetachState → Prop} {sw : Option Dpid} :
    wp (env.detachPort name sw) R E t ↔
      match sw.bind fun sw => env.api.detachPort name sw t.pipeline with
      | none => R false t
      | some pipeline => R true { t with pipeline := pipeline } := by
  rw [detachPort, wp_bind, wp_read]
  cases sw.bind fun sw => env.api.detachPort name sw t.pipeline with
  | none => exact Iff.rfl
  | some pipeline => exact Iff.rfl

@[simp]
lemma wp_removeSwitchPort {R : Bool → DetachState → Prop} :
    wp (env.removeSwitchPort name) R E t ↔
      match env.api.removePort name t.pipeline with
      | none => R false t
      | some pipeline => R true { t with pipeline := pipeline } := by
  rw [removeSwitchPort, wp_bind, wp_read]
  cases env.api.removePort name t.pipeline with
  | none => exact Iff.rfl
  | some pipeline => exact Iff.rfl

@[simp]
lemma wp_destroySnapshot {R : Unit → DetachState → Prop} {snapshot : Option SnapshotRef} :
    wp (destroySnapshot snapshot) R E t ↔
      R () { t with destroyed := t.destroyed ++ (snapshot.map (·.id)).toList } := Iff.rfl

@[simp]
lemma wp_notifyPortDelete_none {R : Unit → DetachState → Prop} :
    wp (env.notifyPortDelete none) R E t ↔ R () t := Iff.rfl

@[simp]
lemma wp_notifyPortDelete_some {R : Unit → DetachState → Prop} {ref : SnapshotRef} :
    wp (env.notifyPortDelete (some ref)) R E t ↔
      R () { t with
        notified := t.notified ++ [ref.snapshot]
        told := t.told ++ [ref.snapshot].filter env.heard
        destroyed := t.destroyed ++ [ref.id] } := Iff.rfl

@[simp]
lemma wp_driverDetachError {R : Bool → DetachState → Prop} {ref ref' : Option SnapshotRef} :
    wp (driverDetachError ref ref') R E t ↔
      R false { t with
        destroyed := t.destroyed ++ (ref.map (·.id)).toList ++ (ref'.map (·.id)).toList } := Iff.rfl

end Rules

@[simp]
lemma right_failure {t : DetachState} :
    env.Right s name pair false t ↔ t.destroyed.Perm (List.range t.taken) := by
  simp [Right]

section Ends

variable {snap snap' : PortSnapshot}

lemma right_success {t : DetachState} (hsnap : s.snapshot env.api.maxLogPorts name = some snap)
    (hsnap' : s.snapshot env.api.maxLogPorts pair = some snap') :
    env.Right s name pair true t ↔ t.destroyed.Perm (List.range t.taken) ∧
      t.notified.Perm [snap, snap'] ∧ t.told.Perm ([snap, snap'].filter env.heard) := by
  simp [Right, snapshots, hsnap, hsnap']

/-- gnu_linux, from where the port is off the switch. -/
lemma wp_detachPair (hsnap : s.snapshot env.api.maxLogPorts name = some snap)
    (hsnap' : s.snapshot env.api.maxLogPorts pair = some snap')
    (hpair : ∃ port, s₁.ports pair = some port)
    (hsame : s₁.snapshot env.api.maxLogPorts pair = some snap') :
    wp (env.detachPair name pair (some ⟨0, snap⟩)) (env.Right s name pair) (fun _ _ => False)
        ⟨s₁, 1, [], [], []⟩ ↔
      (env.removePort pair = true → ∀ s₂, env.detached pair s₁ = some s₂ →
        ∃ s₃, env.api.removePort name s₂ = some s₃ ∧
          (env.snapshot pair s₁ = none ↔ env.api.removePort pair s₃ = none)) := by
  obtain ⟨port, hport⟩ := hpair
  have hdetached : (port.attachedSw.bind fun sw => env.api.detachPort pair sw s₁) =
      env.detached pair s₁ := by
    simp [detached, hport]
  have hone : env.snapshot pair s₁ = none ∨ env.snapshot pair s₁ = some snap' := by
    rw [snapshot, hsame]
    split
    · exact .inr rfl
    · exact .inl rfl
  by_cases hremove : env.removePort pair = true
  · cases hs₂ : env.detached pair s₁ with
    | none =>
        rcases hone with h | h
        · simp +decide [detachPair, hport, hremove, h, hdetached, hs₂]
        · simp +decide [detachPair, hport, hremove, h, hdetached, hs₂]
    | some s₂ =>
        cases hs₃ : env.api.removePort name s₂ with
        | none =>
            rcases hone with h | h
            · simp +decide [detachPair, hport, hremove, h, hdetached, hs₂, hs₃]
            · simp +decide [detachPair, hport, hremove, h, hdetached, hs₂, hs₃]
        | some s₃ =>
            cases hs₄ : env.api.removePort pair s₃ with
            | none =>
                rcases hone with h | h
                · simp +decide [detachPair, hport, hremove, h, hdetached, hs₂, hs₃, hs₄]
                · simp +decide [detachPair, hport, hremove, h, hdetached, hs₂, hs₃, hs₄]
            | some s₄ =>
                rcases hone with h | h
                · simp +decide [detachPair, hport, hremove, h, hdetached, hs₂, hs₃, hs₄,
                    right_success hsnap hsnap']
                · simp +decide [detachPair, hport, hremove, h, hdetached, hs₂, hs₃, hs₄,
                    right_success hsnap hsnap']
                  have hswap : [snap', snap].Perm [snap, snap'] := List.Perm.swap ..
                  rw [← List.filter_append]
                  exact ⟨hswap, hswap.filter env.heard⟩
  · rcases hone with h | h
    · simp +decide [detachPair, hremove, h]
    · simp +decide [detachPair, hremove, h]

/-- gnu_linux_dpdk, from where all snapshots are destroyed, without the right notifications. -/
lemma wp_dpdk_removeLink {t : DetachState} {ref ref' : Option SnapshotRef}
    (hpair : ∃ port, t.pipeline.ports pair = some port)
    (hwrong : ∀ pipeline, ¬ env.Right s name pair true { t with pipeline := pipeline })
    (hrefs : (ref.map (·.id)).toList ++ (ref'.map (·.id)).toList = t.destroyed)
    (hdestroyed : t.destroyed.Perm (List.range t.taken)) :
    wp (Dpdk.removeLink env name pair ref ref') (env.Right s name pair) (fun _ _ => False) t ↔
      ((∃ s₂, env.detached pair t.pipeline = some s₂ ∧ env.api.removePort name s₂ = none) ∨
        t.taken = 0 ∧ ∀ s₂, env.detached pair t.pipeline = some s₂ →
          ∀ s₃, env.api.removePort name s₂ = some s₃ → env.api.removePort pair s₃ = none) := by
  obtain ⟨port, hport⟩ := hpair
  have hdetached : (port.attachedSw.bind fun sw => env.api.detachPort pair sw t.pipeline) =
      env.detached pair t.pipeline := by
    simp [detached, hport]
  -- the snapshots are destroyed again
  have htwice : (t.destroyed ++ t.destroyed).Perm (List.range t.taken) ↔ t.taken = 0 := by
    constructor
    · intro h
      have hlength := h.length_eq
      rw [List.length_append, hdestroyed.length_eq, List.length_range] at hlength
      omega
    · intro h
      rw [h, List.range_zero, List.perm_nil] at hdestroyed
      rw [hdestroyed, h]
      exact List.Perm.refl _
  cases hs₂ : env.detached pair t.pipeline with
  | none => simp [Dpdk.removeLink, hport, hdetached, hs₂, List.append_assoc, hrefs, htwice]
  | some s₂ =>
      cases hs₃ : env.api.removePort name s₂ with
      | none => simp [Dpdk.removeLink, hport, hdetached, hs₂, hs₃, hdestroyed]
      | some s₃ =>
          cases hs₄ : env.api.removePort pair s₃ with
          | none =>
              simp [Dpdk.removeLink, hport, hdetached, hs₂, hs₃, hs₄, List.append_assoc, hrefs,
                htwice]
          | some s₄ => simp [Dpdk.removeLink, hport, hdetached, hs₂, hs₃, hs₄, hwrong]

lemma eq_of_snapshot {t : PhysicalSwitch} {x : PortSnapshot} (h : env.snapshot name t = some x) :
    t.snapshot env.api.maxLogPorts name = some x := by
  rw [snapshot] at h
  split at h
  · exact h
  · exact absurd h nofun

/-- gnu_linux_dpdk, from where the port is off the switch: its snapshot shows that already. -/
lemma wp_dpdk_detachPair (hsnap : s.snapshot env.api.maxLogPorts name = some snap)
    (hsnap' : s.snapshot env.api.maxLogPorts pair = some snap') (hattached : snap.attachedSw ≠ none)
    (hne : pair ≠ name) (hpair : ∃ port, s₁.ports pair = some port)
    (hoff : ∀ x, s₁.snapshot env.api.maxLogPorts name = some x → x.attachedSw = none) :
    wp (Dpdk.detachPair env name pair) (env.Right s name pair) (fun _ _ => False)
        ⟨s₁, 0, [], [], []⟩ ↔
      ((∃ s₂, env.detached pair s₁ = some s₂ ∧ env.api.removePort name s₂ = none) ∨
        env.snapshot name s₁ = none ∧ env.snapshot pair s₁ = none ∧
          ∀ s₂, env.detached pair s₁ = some s₂ →
            ∀ s₃, env.api.removePort name s₂ = some s₃ → env.api.removePort pair s₃ = none) := by
  have hname : ∀ x ∈ env.snapshot name s₁, x ≠ snap := by
    rintro x hx rfl
    exact hattached (hoff x (eq_of_snapshot hx))
  have hpairName : ∀ x ∈ env.snapshot pair s₁, x ≠ snap := by
    rintro x hx rfl
    have hname := PhysicalSwitch.name_of_snapshot (eq_of_snapshot hx)
    exact hne (hname.symm.trans (PhysicalSwitch.name_of_snapshot hsnap))
  have hwrong : ∀ t : DetachState, snap ∉ t.notified → ¬ env.Right s name pair true t := by
    intro t hnotMem hright
    have hperm := ((right_success hsnap hsnap').1 hright).2.1
    exact hnotMem (hperm.mem_iff.2 List.mem_cons_self)
  rw [Dpdk.detachPair]
  cases h : env.snapshot name s₁ with
  | none =>
      cases h' : env.snapshot pair s₁ with
      | none =>
          simp only [wp_bind, wp_getPortSnapshot, h, h', wp_notifyPortDelete_none]
          rw [wp_dpdk_removeLink hpair (fun _ => hwrong _ (by simp)) rfl (List.Perm.refl _)]
          simp
      | some x' =>
          have hx' := (hpairName x' h').symm
          simp only [wp_bind, wp_getPortSnapshot, h, h', wp_notifyPortDelete_none,
            wp_notifyPortDelete_some]
          rw [wp_dpdk_removeLink hpair (fun _ => hwrong _ (by simp [hx'])) rfl (List.Perm.refl _)]
          simp
  | some x =>
      have hx := (hname x h).symm
      cases h' : env.snapshot pair s₁ with
      | none =>
          simp only [wp_bind, wp_getPortSnapshot, h, h', wp_notifyPortDelete_none,
            wp_notifyPortDelete_some]
          rw [wp_dpdk_removeLink hpair (fun _ => hwrong _ (by simp [hx])) rfl (List.Perm.refl _)]
          simp
      | some x' =>
          have hx' := (hpairName x' h').symm
          simp only [wp_bind, wp_getPortSnapshot, h, h', wp_notifyPortDelete_some]
          rw [wp_dpdk_removeLink hpair (fun _ => hwrong _ (by simp [hx, hx'])) rfl
            (List.Perm.refl _)]
          simp

end Ends

/-- The port stays on its switch. -/
lemma detachesRightly_of_none {driver : DriverName} (h : env.api.detachPort name dpid s = none) :
    env.DetachesRightly driver dpid name pair s := by
  rw [DetachesRightly, detachPortFromSwitch]
  cases hslots : s.logicalSwitches dpid with
  | none => simp [DetachState.init, hslots]
  | some slots =>
      cases hport : s.ports name with
      | none => simp [DetachState.init, hslots, hport]
      | some port =>
          cases driver with
          | gnuLinux =>
              cases hsnap : env.snapshot name s with
              | none => simp [DetachState.init, hslots, hport, detachAttached, hsnap]
              | some snap => simp [DetachState.init, hslots, hport, detachAttached, hsnap, h]
          | gnuLinuxDpdk => simp [DetachState.init, hslots, hport, Dpdk.detachAttached, h]

/-- **Notifications.** -/
theorem detachesRightly_iff (driver : DriverName) (henv : env.Detaches)
    (hlink : env.Link s name pair) :
    env.DetachesRightly driver dpid name pair s ↔ env.CopesWith dpid name pair s driver := by
  cases hs₁ : env.api.detachPort name dpid s with
  | none =>
      refine iff_of_true (detachesRightly_of_none hs₁) ?_
      cases driver with
      | gnuLinux => simp [CopesWith, hs₁]
      | gnuLinuxDpdk => simp [CopesWith, hs₁]
  | some s₁ =>
      obtain ⟨port, slots, hport, hsw, hslots, rfl⟩ := henv hs₁
      have htype := hlink.isVirtual port hport
      obtain ⟨port', hport'⟩ := hlink.exists_pair
      have hpair : ∃ port', (s.detach name port dpid slots).ports pair = some port' := by
        rw [PhysicalSwitch.ports_detach_of_ne hlink.ne]
        exact ⟨port', hport'⟩
      have hsame := @PhysicalSwitch.snapshot_detach_of_ne s env.api.maxLogPorts name pair port dpid
        slots hslots hlink.ne
      obtain ⟨snap, hsnap⟩ : ∃ snap, s.snapshot env.api.maxLogPorts name = some snap := by
        rw [PhysicalSwitch.snapshot, hport]
        exact ⟨_, rfl⟩
      obtain ⟨snap', hsnap'⟩ : ∃ snap, s.snapshot env.api.maxLogPorts pair = some snap := by
        rw [PhysicalSwitch.snapshot, hport']
        exact ⟨_, rfl⟩
      rw [DetachesRightly, detachPortFromSwitch]
      cases driver with
      | gnuLinux =>
          have hrest := wp_detachPair hsnap hsnap' hpair (hsame.trans hsnap')
          cases hsnap₀ : env.snapshot name s with
          | none => simp [DetachState.init, hslots, hport, hsw, detachAttached, hsnap₀, CopesWith]
          | some x =>
              obtain rfl : x = snap := Option.some.inj ((eq_of_snapshot hsnap₀).symm.trans hsnap)
              by_cases hremove : env.removePort name = true
              · simp [DetachState.init, hslots, hport, hsw, detachAttached, hsnap₀, CopesWith,
                  hremove, hs₁, htype, hlink.vlinkPair, hrest]
              · simp [DetachState.init, hslots, hport, hsw, detachAttached, hsnap₀, CopesWith,
                  hremove]
      | gnuLinuxDpdk =>
          have hattached : snap.attachedSw ≠ none := by
            rw [PhysicalSwitch.snapshot, hport] at hsnap
            rw [← Option.some.inj hsnap]
            simp [hsw]
          have hrest := wp_dpdk_detachPair hsnap hsnap' hattached hlink.ne hpair fun x =>
            PhysicalSwitch.attachedSw_snapshot_detach
          simp [DetachState.init, hslots, hport, hsw, Dpdk.detachAttached, CopesWith, hs₁, htype,
            hlink.vlinkPair, hrest]

/-! ## A library that does not fail -/

lemma detached_of_consistent (hapi : env.api.Documented)
    (hconsistent : s.Consistent env.api.maxLogPorts) (hname : s.PointsTo name dpid) :
    ∃ port slots, s.ports name = some port ∧ port.attachedSw = some dpid ∧
      s.logicalSwitches dpid = some slots ∧
        env.api.detachPort name dpid s = some (s.detach name port dpid slots) := by
  obtain ⟨num, slots, hslots, hslot⟩ := (hconsistent.pointsTo_iff name dpid).1 hname
  obtain ⟨port, hport, hsw⟩ := hname
  exact ⟨port, slots, hport, hsw, hslots, hapi.detachPort hport hsw hslots hslot⟩

lemma snapshot_ne_none (hapi : env.api.Documented) {port : SwitchPort}
    (hport : s.ports name = some port) : env.snapshot name s ≠ none := by
  have hsnapshot : env.api.getPortSnapshot name s = true := hapi.getPortSnapshot (by simp [hport])
  rw [snapshot, if_pos hsnapshot, PhysicalSwitch.snapshot, hport]
  exact Option.some_ne_none _

/-- Where the library fails as little as it says, the driver for DPDK is never right. -/
theorem copesWith_iff_of_documented (driver : DriverName) (hapi : env.api.Documented)
    (hne : pair ≠ name) (hconsistent : s.Consistent env.api.maxLogPorts)
    (hname : s.PointsTo name dpid) (hpair : ∃ dpid', s.PointsTo pair dpid') :
    env.CopesWith dpid name pair s driver ↔ driver = .gnuLinux := by
  obtain ⟨port, slots, hport, hsw, hslots, hs₁⟩ := detached_of_consistent hapi hconsistent hname
  obtain ⟨dpid', hpair⟩ := hpair
  rw [← PhysicalSwitch.pointsTo_congr (PhysicalSwitch.ports_detach_of_ne hne)] at hpair
  obtain ⟨port', slots', hport', hsw', hslots', hs₂⟩ := detached_of_consistent hapi
    (hconsistent.detach hport hsw hslots) hpair
  have hdetached : env.detached pair (s.detach name port dpid slots) =
      some ((s.detach name port dpid slots).detach pair port' dpid' slots') := by
    simp [detached, hport', hsw', hs₂]
  obtain ⟨s₃, hs₃, hport₃⟩ : ∃ s₃, env.api.removePort name
      ((s.detach name port dpid slots).detach pair port' dpid' slots') = some s₃ ∧
        s₃.ports pair = some { port' with attachedSw := none } := by
    have hport₂ : ((s.detach name port dpid slots).detach pair port' dpid' slots').ports name =
        some { port with attachedSw := none } :=
      (PhysicalSwitch.ports_detach_of_ne hne.symm).trans PhysicalSwitch.ports_detach_self
    exact ⟨_, hapi.removePort hport₂ rfl,
      (Function.update_of_ne hne _ _).trans PhysicalSwitch.ports_detach_self⟩
  cases driver with
  | gnuLinux =>
      refine iff_of_true (fun _ _ s₁ hs₁' _ s₂ hs₂' => ?_) rfl
      obtain rfl := Option.some.inj (hs₁.symm.trans hs₁')
      obtain rfl := Option.some.inj (hdetached.symm.trans hs₂')
      refine ⟨s₃, hs₃, iff_of_false (snapshot_ne_none hapi hport') ?_⟩
      rw [hapi.removePort hport₃ rfl]
      exact Option.some_ne_none _
  | gnuLinuxDpdk =>
      refine iff_of_false (fun h => ?_) (by decide)
      rcases h _ hs₁ with ⟨s₂, hs₂', hnone⟩ | ⟨hnone, -⟩
      · obtain rfl := Option.some.inj (hdetached.symm.trans hs₂')
        rw [hs₃] at hnone
        exact Option.some_ne_none _ hnone
      · exact snapshot_ne_none hapi PhysicalSwitch.ports_detach_self hnone

end DetachEnv

/-! ## Examples -/

/-- The link between two switches. -/
def oneLink : PhysicalSwitch where
  ports name := if name = "vlink0_0" then some ⟨.virtual, some 1, 0⟩
    else if name = "vlink0_1" then some ⟨.virtual, some 2, 1⟩ else none
  logicalSwitches dpid := if dpid = 1 then some fun num => if num = 1 then some "vlink0_0" else none
    else if dpid = 2 then some fun num => if num = 3 then some "vlink0_1" else none else none

lemma has_oneLink {dpid : Dpid} {num : ℕ} {name : String} :
    oneLink.Has dpid num name ↔
      dpid = 1 ∧ num = 1 ∧ name = "vlink0_0" ∨ dpid = 2 ∧ num = 3 ∧ name = "vlink0_1" := by
  constructor
  · rintro ⟨slots, hslots, hslot⟩
    simp only [oneLink] at hslots
    split_ifs at hslots with h1 h2
    · rw [← Option.some.inj hslots, Option.ite_none_right_eq_some] at hslot
      exact .inl ⟨h1, hslot.1, (Option.some.inj hslot.2).symm⟩
    · rw [← Option.some.inj hslots, Option.ite_none_right_eq_some] at hslot
      exact .inr ⟨h2, hslot.1, (Option.some.inj hslot.2).symm⟩
  · rintro (⟨rfl, rfl, rfl⟩ | ⟨rfl, rfl, rfl⟩)
    · exact ⟨_, rfl, rfl⟩
    · exact ⟨_, rfl, rfl⟩

lemma pointsTo_oneLink {dpid : Dpid} {name : String} :
    oneLink.PointsTo name dpid ↔ dpid = 1 ∧ name = "vlink0_0" ∨ dpid = 2 ∧ name = "vlink0_1" := by
  constructor
  · rintro ⟨port, hport, hsw⟩
    simp only [oneLink] at hport
    split_ifs at hport with h0 h1
    · rw [← Option.some.inj hport] at hsw
      exact .inl ⟨(Option.some.inj hsw).symm, h0⟩
    · rw [← Option.some.inj hport] at hsw
      exact .inr ⟨(Option.some.inj hsw).symm, h1⟩
  · rintro (⟨rfl, rfl⟩ | ⟨rfl, rfl⟩)
    · exact ⟨_, rfl, rfl⟩
    · exact ⟨_, rfl, rfl⟩

lemma consistent_oneLink : oneLink.Consistent 8 where
  pointsTo_iff := by
    intro name dpid
    simp only [pointsTo_oneLink, has_oneLink]
    constructor
    · rintro (⟨hdpid, hname⟩ | ⟨hdpid, hname⟩)
      · exact ⟨1, .inl ⟨hdpid, rfl, hname⟩⟩
      · exact ⟨3, .inr ⟨hdpid, rfl, hname⟩⟩
    · rintro ⟨num, ⟨hdpid, -, hname⟩ | ⟨hdpid, -, hname⟩⟩
      · exact .inl ⟨hdpid, hname⟩
      · exact .inr ⟨hdpid, hname⟩
  bounds := by
    intro dpid num name h
    rcases has_oneLink.1 h with ⟨-, rfl, -⟩ | ⟨-, rfl, -⟩
    · decide
    · decide

/-- No function fails. -/
def noFailure : DetachEnv where
  api := Driver.sevenPorts
  vlinkPair name := if name = "vlink0_0" then some "vlink0_1" else some "vlink0_0"
  removePort _ := true
  isBlacklisted _ := false

lemma detaches_noFailure : noFailure.Detaches := by
  intro name dpid s s' hs'
  obtain ⟨port, hport, hs'⟩ := Option.bind_eq_some_iff.mp hs'
  obtain ⟨slots, hslots, hs'⟩ := Option.bind_eq_some_iff.mp hs'
  split_ifs at hs' with hsw
  exact ⟨port, slots, hport, hsw, hslots, (Option.some.inj hs').symm⟩

lemma link_noFailure : noFailure.Link oneLink "vlink0_0" "vlink0_1" where
  ne := by decide
  isVirtual := by
    intro port hport
    rw [← Option.some.inj hport]
  exists_pair := ⟨_, rfl⟩
  vlinkPair := rfl

/-- The driver of gnu_linux notifies for both ends. -/
theorem detachesRightly_gnuLinux : noFailure.CopesWith 1 "vlink0_0" "vlink0_1" oneLink .gnuLinux ∧
    noFailure.DetachesRightly .gnuLinux 1 "vlink0_0" "vlink0_1" oneLink := by
  have hcopes : noFailure.CopesWith 1 "vlink0_0" "vlink0_1" oneLink .gnuLinux :=
    (DetachEnv.copesWith_iff_of_documented .gnuLinux Driver.documented_sevenPorts (by decide)
      consistent_oneLink ⟨_, rfl, rfl⟩ ⟨2, _, rfl, rfl⟩).2 rfl
  exact ⟨hcopes, (DetachEnv.detachesRightly_iff .gnuLinux detaches_noFailure link_noFailure).2
    hcopes⟩

/-- The driver for DPDK says of the port that it is not attached. -/
theorem not_detachesRightly_dpdk : ¬ ∀ (env : DetachEnv) (driver : DriverName) (dpid : Dpid)
    (name pair : String) (s : PhysicalSwitch), env.Detaches → env.Link s name pair →
      env.DetachesRightly driver dpid name pair s := by
  intro h
  have hright := h noFailure .gnuLinuxDpdk 1 "vlink0_0" "vlink0_1" oneLink detaches_noFailure
    link_noFailure
  have hrun : ∃ t, noFailure.detachPortFromSwitch .gnuLinuxDpdk 1 "vlink0_0" (.init oneLink) =
      some (.ok true, t) ∧ ⟨"vlink0_0", none, none⟩ ∈ t.notified := ⟨_, rfl, by decide⟩
  obtain ⟨t, hrun, hmem⟩ := hrun
  rw [DetachEnv.DetachesRightly, wp, hrun] at hright
  have hsnapshot := (hright.2 rfl).1.mem_iff.1 hmem
  exact absurd hsnapshot (by decide)

end Xdpd.Hal
