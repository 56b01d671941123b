import Xdpd.Hal.Topology
import Xdpd.Io.GroupCalls
import Xdpd.Lib.Programs

/-!
# What a failed call leaves

`hal_driver_attach_port_to_switch`, `create_virtual_port_pair` and `hal_driver_connect_switches`
call functions that can fail, one after the other, and hardly undo anything:

* a port that cannot be scheduled stays attached;
* when the library has no slot for the second port of a link, the first one is freed, but not
  removed from the library;
* two switches that cannot be connected keep the ports of the link, and what else has been done.

`atomicOnFailure_iff` says exactly when a call that fails leaves everything as it was.  A call that
succeeds does what the function of `Xdpd.Hal.Driver` does (`AgreesWith`).
-/

namespace Xdpd.Hal

open Xdpd.Lib Xdpd.Lib.Program Xdpd.Io

/-! ## The functions -/

/-- The state of the driver, and what has been freed. -/
structure HalState extends Driver where
  /-- the names under which the library has a `switch_port_t` that has been freed -/
  freed : List String

/-- A function does not come to its end: it throws, or waits for ever. -/
inductive Stuck
  | stuck
  deriving DecidableEq, Repr

/-- A function of the driver, or a part of one. -/
abbrev HalProgram (α : Type) := Program Stuck HalState α

/-- What the functions call that is not in the driver, and which calls fail. -/
structure LinkEnv where
  api : PhysicalSwitchApi
  cnt : GroupCounts
  fails : Fails

/-- What `create_virtual_port_pair` gets. -/
structure NewLink where
  /-- whether `switch_port_init` gives a port -/
  port1 : Bool
  port2 : Bool
  /-- the address that `new` gives, unless it throws -/
  vport1 : Option ℕ
  vport2 : Option ℕ
  deriving DecidableEq, Repr

/-- A `switch_port_t` of a virtual link, with its `ioport`. -/
def virtualPort (vport : ℕ) : SwitchPort := ⟨.virtual, none, vport⟩

@[simp]
lemma platformPortState_virtualPort (vport : ℕ) :
    (virtualPort vport).platformPortState = vport := rfl

/-- A function of the I/O manager, which takes the mutex. -/
def manage (f : ManagerState ℕ → Outcome × ManagerState ℕ) : HalProgram Bool := do
  let s ← read (·.iomanager)
  if s.locked then
    throw .stuck
  update ({ · with iomanager := (f s).2 })
  match (f s).1 with
  | .success => return true
  | .failure => return false
  | .stuck => throw .stuck

/-- `free` for the ports, of which the library may still have some, and `delete` for their
ioports. -/
def HalState.free (s : HalState) (ports : List (String × SwitchPort)) : HalState :=
  { s with
    freed := s.freed ++ (ports.filter fun p => s.pipeline.ports p.1 = some p.2).map Prod.fst
    ioports := fun address => if address ∈ ports.map (·.2.platformPortState) then none
      else s.ioports address }

/-- Two ioports are created and connected, for the ports with these names. -/
def HalState.link (s : HalState) (name1 name2 : String) (vport1 vport2 : ℕ) : HalState :=
  { s with
    ioports := Function.update (Function.update s.ioports vport1 (some ⟨name1, some vport2⟩))
      vport2 (some ⟨name2, some vport1⟩) }

@[simp]
lemma HalState.pipeline_link (s : HalState) (name1 name2 : String) (vport1 vport2 : ℕ) :
    (s.link name1 name2 vport1 vport2).pipeline = s.pipeline := rfl

namespace LinkEnv

variable (env : LinkEnv)

/-- `physical_switch_attach_port_to_logical_switch`, or with a port number
`physical_switch_attach_port_to_logical_switch_at_port_num`. -/
def attach (name : String) (dpid : Dpid) (num : ℕ) (s : PhysicalSwitch) : Option PhysicalSwitch :=
  if num = 0 then env.api.attachPort name dpid s else env.api.attachPortAtPortNum name dpid num s

/-- `hal_driver_attach_port_to_switch` -/
def attachPortToSwitch (dpid : Dpid) (name : String) (num : ℕ) : HalProgram Bool := do
  match ← read (·.pipeline.logicalSwitches dpid) with
  | none => return false
  | some _ =>
      match ← read (·.pipeline.ports name) with
      | none => return false
      | some port =>
          match env.attach name dpid num (← read (·.pipeline)) with
          | none => return false
          | some pipeline =>
              update ({ · with pipeline := pipeline })
              manage (addPort env.cnt (env.fails port.platformPortState) port.platformPortState)

/-- `physical_switch_add_port` -/
def addSwitchPort (name : String) (port : SwitchPort) : HalProgram Bool := do
  match env.api.addPort name port (← read (·.pipeline)) with
  | none => return false
  | some pipeline =>
      update ({ · with pipeline := pipeline })
      return true

/-- `create_virtual_port_pair` -/
def createVirtualPortPair (new : NewLink) : HalProgram Bool := do
  let name1 ← read (Driver.vlinkName ·.numOfVlinks 0)
  let name2 ← read (Driver.vlinkName ·.numOfVlinks 1)
  if !new.port1 || !new.port2 then
    return false
  match new.vport1, new.vport2 with
  | some vport1, some vport2 =>
      update (·.link name1 name2 vport1 vport2)
      if !(← env.addSwitchPort name1 (virtualPort vport1)) then
        update (·.free [(name1, virtualPort vport1), (name2, virtualPort vport2)])
        return false
      if !(← env.addSwitchPort name2 (virtualPort vport2)) then
        update (·.free [(name1, virtualPort vport1), (name2, virtualPort vport2)])
        return false
      update fun s => { s with numOfVlinks := (s.numOfVlinks + 1) % 2 ^ 32 }
      return true
  | _, _ => throw .stuck

/-- `physical_switch_get_port_snapshot` -/
def hasSnapshot (name : String) : HalProgram Bool := read (env.api.getPortSnapshot name ·.pipeline)

/-- `hal_driver_bring_port_up` -/
def bringPortUp (name : String) : HalProgram Bool := do
  match ← read (·.pipeline.ports name) with
  | none => return false
  | some port =>
      if port.attachedSw = none then
        return !env.fails port.platformPortState .portUp
      manage (Io.bringPortUp env.cnt (env.fails port.platformPortState) port.platformPortState)

/-- `hal_driver_connect_switches`, without the notifications.  The last two snapshots are only
asserted. -/
def connectSwitches (dpid1 dpid2 : Dpid) (num1 num2 : ℕ) (new : NewLink) : HalProgram Bool := do
  let lsw1 ← read (·.pipeline.logicalSwitches dpid1)
  let lsw2 ← read (·.pipeline.logicalSwitches dpid2)
  if lsw1.isNone || lsw2.isNone then
    return false
  let name1 ← read (Driver.vlinkName ·.numOfVlinks 0)
  let name2 ← read (Driver.vlinkName ·.numOfVlinks 1)
  if !(← env.createVirtualPortPair new) then
    return false
  if !(← env.attachPortToSwitch dpid1 name1 num1) then
    return false
  if !(← env.attachPortToSwitch dpid2 name2 num2) then
    return false
  let port1_not ← env.hasSnapshot name1
  let port2_not ← env.hasSnapshot name2
  if !port1_not || !port2_not then
    return false
  if !(← env.bringPortUp name1) then
    return false
  env.bringPortUp name2

end LinkEnv

/-- An end of a new link: the port, its `ioport`, and where it is to be attached. -/
structure LinkEnd where
  name : String
  vport : ℕ
  dpid : Dpid
  num : ℕ

/-- A call of one of the three functions. -/
inductive LinkCall
  | attachPortToSwitch (dpid : Dpid) (name : String) (num : ℕ)
  | createVirtualPortPair (new : NewLink)
  | connectSwitches (dpid1 dpid2 : Dpid) (num1 num2 : ℕ) (new : NewLink)
  deriving DecidableEq, Repr

namespace LinkCall

/-- The function is called. -/
def run (env : LinkEnv) : LinkCall → HalProgram Bool
  | attachPortToSwitch dpid name num => env.attachPortToSwitch dpid name num
  | createVirtualPortPair new => env.createVirtualPortPair new
  | connectSwitches dpid1 dpid2 num1 num2 new => env.connectSwitches dpid1 dpid2 num1 num2 new

/-- The link that is created. -/
def new : LinkCall → Option NewLink
  | attachPortToSwitch _ _ _ => none
  | createVirtualPortPair new | connectSwitches _ _ _ _ new => some new

end LinkCall

/-! ## The purpose -/

/-- The registered ports, their attachments, the groups and the virtual links are as before. -/
structure Unchanged (s s' : HalState) : Prop where
  pipeline : s'.pipeline = s.pipeline
  portgroups : s'.iomanager.portgroups = s.iomanager.portgroups
  ioports : s'.ioports = s.ioports

/-- No registered port has been freed, nor its ioport. -/
def NoneFreed (s : HalState) : Prop :=
  ∀ name port, s.pipeline.ports name = some port →
    name ∉ s.freed ∧ s.ioports port.platformPortState ≠ none

/-- If the function returns a failure, then it leaves everything as it was. -/
def AtomicOnFailure (p : HalProgram Bool) (s : HalState) : Prop :=
  wp p (fun success s' => success = false → Unchanged s s' ∧ NoneFreed s') (fun _ _ => True) s

/-- Nothing refers to freed memory. -/
structure Intact (cnt : GroupCounts) (s : HalState) : Prop where
  scheduled : Scheduled cnt s.iomanager
  noneFreed : NoneFreed s
  unknown : ∀ address, s.ioports address = none → Unknown s.iomanager address

/-- What `new` gives is not in use. -/
structure NewLink.Unused (new : NewLink) (s : HalState) : Prop where
  vport1 : ∀ vport ∈ new.vport1, s.ioports vport = none
  vport2 : ∀ vport ∈ new.vport2, s.ioports vport = none
  ne : ∀ vport ∈ new.vport1, vport ∉ new.vport2

namespace LinkEnv

variable (env : LinkEnv)

/-- A port that the library attaches can be scheduled. -/
def CanAttach (dpid : Dpid) (name : String) (num : ℕ) (s : HalState) : Prop :=
  s.pipeline.logicalSwitches dpid ≠ none → ∀ port ∈ s.pipeline.ports name,
    env.attach name dpid num s.pipeline ≠ none →
      outcome (.stuck s.iomanager.locked :: addHazards env.cnt (env.fails port.platformPortState)
        port.platformPortState s.iomanager) ≠ .failure

/-- The library adds the first port of the next link. -/
def addFirst (vport1 : ℕ) (s : HalState) : Option PhysicalSwitch :=
  env.api.addPort (Driver.vlinkName s.numOfVlinks 0) (virtualPort vport1) s.pipeline

/-- The library adds both of them. -/
def addBoth (vport1 vport2 : ℕ) (s : HalState) : Option PhysicalSwitch :=
  (env.addFirst vport1 s).bind
    (env.api.addPort (Driver.vlinkName s.numOfVlinks 1) (virtualPort vport2))

/-- The library does not refuse the second port when it has added the first. -/
def CanCreate (new : NewLink) (s : HalState) : Prop :=
  new.port1 = true → new.port2 = true → ∀ vport1 ∈ new.vport1, ∀ vport2 ∈ new.vport2,
    env.addFirst vport1 s ≠ none → env.addBoth vport1 vport2 s ≠ none

/-- What can go wrong when the port of a new link is attached, which the library has in the state
`s`; `m` is the state of the manager. -/
def attachHazards (e : LinkEnd) (s : PhysicalSwitch) (m : ManagerState ℕ) : List Hazard :=
  [.failure (env.attach e.name e.dpid e.num s).isNone, .stuck m.locked,
    .stuck (env.fails e.vport (.pushPort m.nextRx)),
    .stuck (env.fails e.vport (.pushPort (m.nextTx env.cnt)))]

/-- What can go wrong in `hal_driver_connect_switches` once the link has been created. -/
def connectHazards (end1 end2 : LinkEnd) (s : PhysicalSwitch) (m : ManagerState ℕ) : List Hazard :=
  let s' := (env.attach end1.name end1.dpid end1.num s).getD s
  let m' := m.added env.cnt end1.vport
  env.attachHazards end1 s m ++ env.attachHazards end2 s' m' ++
    upHazards (env.fails end1.vport) m.nextRx (m.nextTx env.cnt) (m.isIdle m.nextRx)
      (m.isIdle (m.nextTx env.cnt)) ++
    upHazards (env.fails end2.vport) m'.nextRx (m'.nextTx env.cnt)
      (m.isIdle m'.nextRx && m'.nextRx ≠ m.nextRx)
      (m.isIdle (m'.nextTx env.cnt) && m'.nextTx env.cnt ≠ m.nextTx env.cnt)

/-- The library adds both ports of the link, and is in the state `pipeline` then. -/
structure Creates (new : NewLink) (s : HalState) (vport1 vport2 : ℕ) (pipeline : PhysicalSwitch) :
    Prop where
  port1 : new.port1 = true
  port2 : new.port2 = true
  new1 : new.vport1 = some vport1
  new2 : new.vport2 = some vport2
  addBoth : env.addBoth vport1 vport2 s = some pipeline

/-- The link can be created; and once it has been, no call fails so that the function returns. -/
def CanConnect (dpid1 dpid2 : Dpid) (num1 num2 : ℕ) (new : NewLink) (s : HalState) : Prop :=
  s.pipeline.logicalSwitches dpid1 ≠ none → s.pipeline.logicalSwitches dpid2 ≠ none →
    env.CanCreate new s ∧ ∀ vport1 vport2 pipeline, env.Creates new s vport1 vport2 pipeline →
      outcome (env.connectHazards ⟨Driver.vlinkName s.numOfVlinks 0, vport1, dpid1, num1⟩
        ⟨Driver.vlinkName s.numOfVlinks 1, vport2, dpid2, num2⟩ pipeline s.iomanager) ≠ .failure

/-- The condition on a call. -/
def CanCall (s : HalState) : LinkCall → Prop
  | .attachPortToSwitch dpid name num => env.CanAttach dpid name num s
  | .createVirtualPortPair new => env.CanCreate new s
  | .connectSwitches dpid1 dpid2 num1 num2 new => env.CanConnect dpid1 dpid2 num1 num2 new s

end LinkEnv

/-! ## One function after the other -/

/-- The program ends as its hazards say: with success it comes to the state `s₁`, and where it fails
`Left` holds of what it leaves. -/
def Performs (p : HalProgram Bool) (hazards : List Hazard) (Left : HalState → Prop)
    (s s₁ : HalState) : Prop :=
  wp p (fun success s' => if success then outcome hazards = .success ∧ s' = s₁
    else outcome hazards = .failure ∧ Left s') (fun _ _ => outcome hazards = .stuck) s

variable {env : LinkEnv} {p q : HalProgram Bool} {hazards hazards' : List Hazard}
variable {Left : HalState → Prop} {s s₁ s₂ : HalState}

/-- Two programs of which the second one is only run after a success of the first. -/
lemma Performs.andThen (hp : Performs p hazards Left s s₁)
    (hq : outcome hazards = .success → Performs q hazards' Left s₁ s₂) :
    Performs (do
      if !(← p) then
        return false
      q) (hazards ++ hazards') Left s s₂ := by
  rw [Performs, wp_bind]
  refine wp_mono hp (fun success s' h => ?_) fun _ s' h => ?_
  · cases success with
    | false =>
        obtain ⟨hfailure, hleft⟩ := h
        refine ⟨?_, hleft⟩
        rw [outcome_append, hfailure]
        rfl
    | true =>
        obtain ⟨hsuccess, rfl⟩ := h
        have hrest := hq hsuccess
        rw [outcome_append, hsuccess]
        exact hrest
  · rw [outcome_append, h]
    rfl

lemma Performs.congr (hp : Performs p hazards Left s s₁)
    (h : outcome hazards = outcome hazards') : Performs p hazards' Left s s₁ := by
  rwa [Performs, h] at hp

/-- The second program is not run. -/
lemma Performs.stop (hp : Performs p hazards Left s s₁) (h : outcome hazards ≠ .success) :
    Performs (do
      if !(← p) then
        return false
      q) hazards Left s s₂ := by
  have hthen : Performs (do
      if !(← p) then
        return false
      q) (hazards ++ []) Left s s₂ := hp.andThen fun hsuccess => absurd hsuccess h
  rwa [List.append_nil] at hthen

/-- A function of the manager that ends as its internal calls say. -/
lemma performs_manage {f : ManagerState ℕ → Outcome × ManagerState ℕ} {m : ManagerState ℕ}
    (hspec : (f s.iomanager).1 = outcome hazards ∧
      ((f s.iomanager).1 = .success → (f s.iomanager).2 = m))
    (hleft : ∀ m, Left { s with iomanager := m }) :
    Performs (manage f) (.stuck s.iomanager.locked :: hazards) Left s
      { s with iomanager := m } := by
  obtain ⟨houtcome, hstate⟩ := hspec
  rw [Performs, manage]
  cases hlocked : s.iomanager.locked with
  | true => simp [hlocked]
  | false =>
      rw [outcome_stuck, if_neg (by simp), ← houtcome]
      cases hend : (f s.iomanager).1 with
      | success => simp [hlocked, hend, hstate hend]
      | failure => simp [hlocked, hend, hleft]
      | stuck => simp [hlocked, hend]

variable {dpid : Dpid} {name : String} {num : ℕ} {port : SwitchPort}

lemma performs_attachPortToSwitch (hs : Scheduled env.cnt s.iomanager)
    (hlsw : s.pipeline.logicalSwitches dpid ≠ none) (hport : s.pipeline.ports name = some port)
    (hsame : Left s)
    (hleft : ∀ pipeline ∈ env.attach name dpid num s.pipeline, ∀ m,
      Left { s with pipeline := pipeline, iomanager := m }) :
    Performs (env.attachPortToSwitch dpid name num)
      (.failure (env.attach name dpid num s.pipeline).isNone :: .stuck s.iomanager.locked ::
        addHazards env.cnt (env.fails port.platformPortState) port.platformPortState s.iomanager)
      Left s { s with
        pipeline := (env.attach name dpid num s.pipeline).getD s.pipeline
        iomanager := s.iomanager.added env.cnt port.platformPortState } := by
  obtain ⟨slots, hslots⟩ := Option.ne_none_iff_exists'.1 hlsw
  cases hattach : env.attach name dpid num s.pipeline with
  | none =>
      rw [Performs, LinkEnv.attachPortToSwitch]
      simp [hslots, hport, hattach, hsame]
  | some pipeline =>
      have hspec := @addPort_spec ℕ env.cnt s.iomanager port.platformPortState
        (env.fails port.platformPortState) _ hs
      have hmanage := performs_manage (s := { s with pipeline := pipeline }) hspec
        (hleft pipeline hattach)
      rw [Performs] at hmanage ⊢
      rw [LinkEnv.attachPortToSwitch]
      simpa [hslots, hport, hattach] using hmanage

lemma performs_bringPortUp {r t : ℕ} (hport : s.pipeline.ports name = some port)
    (hsw : port.attachedSw ≠ none) (honly : OnlyIn env.cnt s.iomanager port.platformPortState r t)
    (hleft : ∀ m, Left { s with iomanager := m }) :
    Performs (env.bringPortUp name) (.stuck s.iomanager.locked ::
        upHazards (env.fails port.platformPortState) r t (s.iomanager.isIdle r)
          (s.iomanager.isIdle t))
      Left s { s with iomanager := s.iomanager.started port.platformPortState r t } := by
  have hspec := @bringPortUp_spec ℕ env.cnt s.iomanager port.platformPortState
    (env.fails port.platformPortState) _ r t honly
  have hmanage := performs_manage hspec hleft
  rw [Performs] at hmanage ⊢
  rw [LinkEnv.bringPortUp]
  simpa [hport, hsw] using hmanage

/-! ## Connecting two switches -/

lemma attaches_of_attach (hapi : env.api.Documented) {s s' : PhysicalSwitch}
    (h : env.attach name dpid num s = some s') :
    ∃ num, s.Attaches env.api.maxLogPorts name dpid num s' := by
  rw [LinkEnv.attach] at h
  split_ifs at h
  · exact hapi.attachPort h
  · exact ⟨num, hapi.attachPortAtPortNum h⟩

/-- The switch has not had a port under the number. -/
lemma ne_of_attach (hapi : env.api.Documented) {s s' : PhysicalSwitch}
    (h : env.attach name dpid num s = some s') : s' ≠ s := by
  obtain ⟨num', port, slots, -, hslots, hfree, -, -, rfl⟩ := attaches_of_attach hapi h
  intro heq
  have hslots' : (s.attach name port dpid slots num').logicalSwitches dpid =
      some (Function.update slots num' (some name)) := Function.update_self ..
  rw [heq, hslots, Option.some.injEq] at hslots'
  rw [hslots', Function.update_self] at hfree
  exact absurd hfree (Option.some_ne_none name)

/-- A port that is attached stays registered, and nothing else happens to others. -/
lemma ports_attach (hapi : env.api.Documented) {s s' : PhysicalSwitch}
    (h : env.attach name dpid num s = some s') : ∃ port, s.ports name = some port ∧
      s'.ports name = some { port with attachedSw := some dpid } ∧
      (∀ other ≠ name, s'.ports other = s.ports other) ∧
      ∀ dpid', s.logicalSwitches dpid' ≠ none → s'.logicalSwitches dpid' ≠ none := by
  obtain ⟨num', port, slots, hport, hslots, -, -, -, rfl⟩ := attaches_of_attach hapi h
  refine ⟨port, hport, Function.update_self .., fun other hne => Function.update_of_ne hne .., ?_⟩
  intro dpid' hdpid'
  by_cases h : dpid' = dpid
  · subst h
    simp [PhysicalSwitch.attach]
  · simpa [PhysicalSwitch.attach, Function.update_of_ne h] using hdpid'

/-- The two ports of a new link have been added to the library. -/
structure PairAdded (s : HalState) (end1 end2 : LinkEnd) : Prop where
  port1 : s.pipeline.ports end1.name = some (virtualPort end1.vport)
  port2 : s.pipeline.ports end2.name = some (virtualPort end2.vport)
  unknown1 : Unknown s.iomanager end1.vport
  unknown2 : Unknown s.iomanager end2.vport
  ne : end2.vport ≠ end1.vport

variable {end1 end2 : LinkEnd}

lemma PairAdded.name_ne (h : PairAdded s end1 end2) : end2.name ≠ end1.name := by
  intro hname
  have hport := h.port2
  rw [hname, h.port1] at hport
  exact h.ne (congrArg SwitchPort.platformPortState (Option.some.inj hport)).symm

lemma performs_attachNew {e : LinkEnd} (hs : Scheduled env.cnt s.iomanager)
    (hlsw : s.pipeline.logicalSwitches e.dpid ≠ none)
    (hport : s.pipeline.ports e.name = some (virtualPort e.vport))
    (hunknown : Unknown s.iomanager e.vport) (hsame : Left s)
    (hleft : ∀ pipeline ∈ env.attach e.name e.dpid e.num s.pipeline, ∀ m,
      Left { s with pipeline := pipeline, iomanager := m }) :
    Performs (env.attachPortToSwitch e.dpid e.name e.num)
      (env.attachHazards e s.pipeline s.iomanager) Left s { s with
        pipeline := (env.attach e.name e.dpid e.num s.pipeline).getD s.pipeline
        iomanager := s.iomanager.added env.cnt e.vport } := by
  refine (performs_attachPortToSwitch hs hlsw hport hsame hleft).congr ?_
  have hnew := @outcome_addHazards ℕ env.cnt s.iomanager e.vport (env.fails e.vport) _ hunknown []
  rw [List.append_nil] at hnew
  rw [LinkEnv.attachHazards, outcome_failure, outcome_stuck, outcome_failure, outcome_stuck]
  exact congrArg _ (congrArg _ hnew)

/-- Both ports must have a snapshot. -/
lemma wp_snapshots {name1 name2 : String} {R : Bool → HalState → Prop}
    {E : Stuck → HalState → Prop} :
    wp (do
      let port1_not ← env.hasSnapshot name1
      let port2_not ← env.hasSnapshot name2
      if !port1_not || !port2_not then
        return false
      p) R E s ↔ if env.api.getPortSnapshot name1 s.pipeline = true ∧
        env.api.getPortSnapshot name2 s.pipeline = true then wp p R E s else R false s := by
  cases h1 : env.api.getPortSnapshot name1 s.pipeline with
  | false => simp [LinkEnv.hasSnapshot, h1]
  | true =>
      cases h2 : env.api.getPortSnapshot name2 s.pipeline with
      | false => simp [LinkEnv.hasSnapshot, h1, h2]
      | true => simp [LinkEnv.hasSnapshot, h1, h2]

/-- The last part of `hal_driver_connect_switches`: both ports are attached. -/
lemma performs_bringUp (hapi : env.api.Documented) {port1 port2 : SwitchPort} {r1 t1 r2 t2 : ℕ}
    {name1 name2 : String}
    (hport1 : s.pipeline.ports name1 = some port1) (hport2 : s.pipeline.ports name2 = some port2)
    (hsw1 : port1.attachedSw ≠ none) (hsw2 : port2.attachedSw ≠ none)
    (honly1 : OnlyIn env.cnt s.iomanager port1.platformPortState r1 t1)
    (honly2 : OnlyIn env.cnt s.iomanager port2.platformPortState r2 t2)
    (hne : port2.platformPortState ≠ port1.platformPortState) :
    Performs (do
      let port1_not ← env.hasSnapshot name1
      let port2_not ← env.hasSnapshot name2
      if !port1_not || !port2_not then
        return false
      if !(← env.bringPortUp name1) then
        return false
      env.bringPortUp name2)
      ((.stuck s.iomanager.locked :: upHazards (env.fails port1.platformPortState) r1 t1
          (s.iomanager.isIdle r1) (s.iomanager.isIdle t1)) ++
        (.stuck s.iomanager.locked :: upHazards (env.fails port2.platformPortState) r2 t2
          (s.iomanager.isIdle r2 && r2 ≠ r1) (s.iomanager.isIdle t2 && t2 ≠ t1)))
      (fun s' => s'.pipeline.ports name1 ≠ none) s { s with
        iomanager := (s.iomanager.started port1.platformPortState r1 t1).started
          port2.platformPortState r2 t2 } := by
  have hregistered : s.pipeline.ports name1 ≠ none := by simp [hport1]
  have hfirst : Performs (env.bringPortUp name1) _ (fun s' => s'.pipeline.ports name1 ≠ none) s _ :=
    performs_bringPortUp hport1 hsw1 honly1 fun _ => hregistered
  have hsecond : Performs (env.bringPortUp name2) _ (fun s' => s'.pipeline.ports name1 ≠ none)
      { s with iomanager := s.iomanager.started port1.platformPortState r1 t1 } _ :=
    performs_bringPortUp hport2 hsw2 (honly2.started hne) fun _ => hregistered
  -- the groups for reception and those for transmission are different ones
  have hr2 : r2 ≠ t1 := Nat.ne_of_lt (rx_lt_tx honly2.type_rx honly1.type_tx)
  have ht2 : t2 ≠ r1 := Nat.ne_of_gt (rx_lt_tx honly1.type_rx honly2.type_tx)
  have hidleRx : (s.iomanager.started port1.platformPortState r1 t1).isIdle r2 =
      (s.iomanager.isIdle r2 && r2 ≠ r1) := by
    rw [isIdle_started]
    simp [hr2]
  have hidleTx : (s.iomanager.started port1.platformPortState r1 t1).isIdle t2 =
      (s.iomanager.isIdle t2 && t2 ≠ t1) := by
    rw [isIdle_started]
    simp [ht2]
  rw [hidleRx, hidleTx] at hsecond
  have hsnapshot1 : env.api.getPortSnapshot name1 s.pipeline = true :=
    hapi.getPortSnapshot hregistered
  have hsnapshot2 : env.api.getPortSnapshot name2 s.pipeline = true :=
    hapi.getPortSnapshot (by simp [hport2])
  rw [Performs, wp_snapshots, if_pos ⟨hsnapshot1, hsnapshot2⟩]
  exact hfirst.andThen fun _ => hsecond

/-- What `hal_driver_connect_switches` does once the first port has been attached. -/
lemma performs_connectSecond (hapi : env.api.Documented) (hs : Scheduled env.cnt s.iomanager)
    {port1 : SwitchPort} {r1 t1 : ℕ} (hport1 : s.pipeline.ports end1.name = some port1)
    (hsw1 : port1.attachedSw ≠ none)
    (honly1 : OnlyIn env.cnt s.iomanager port1.platformPortState r1 t1)
    (hport2 : s.pipeline.ports end2.name = some (virtualPort end2.vport))
    (hunknown2 : Unknown s.iomanager end2.vport) (hne : end2.vport ≠ port1.platformPortState)
    (hname : end2.name ≠ end1.name) (hlsw2 : s.pipeline.logicalSwitches end2.dpid ≠ none) : ∃ s₁,
    Performs (do
      if !(← env.attachPortToSwitch end2.dpid end2.name end2.num) then
        return false
      let port1_not ← env.hasSnapshot end1.name
      let port2_not ← env.hasSnapshot end2.name
      if !port1_not || !port2_not then
        return false
      if !(← env.bringPortUp end1.name) then
        return false
      env.bringPortUp end2.name)
      (env.attachHazards end2 s.pipeline s.iomanager ++
        (upHazards (env.fails port1.platformPortState) r1 t1 (s.iomanager.isIdle r1)
          (s.iomanager.isIdle t1) ++
        upHazards (env.fails end2.vport) s.iomanager.nextRx (s.iomanager.nextTx env.cnt)
          (s.iomanager.isIdle s.iomanager.nextRx && s.iomanager.nextRx ≠ r1)
          (s.iomanager.isIdle (s.iomanager.nextTx env.cnt) && s.iomanager.nextTx env.cnt ≠ t1)))
      (fun s' => s'.pipeline.ports end1.name ≠ none) s s₁ := by
  have hregistered : s.pipeline.ports end1.name ≠ none := by simp [hport1]
  have hleft : ∀ pipeline ∈ env.attach end2.name end2.dpid end2.num s.pipeline,
      pipeline.ports end1.name ≠ none := by
    intro pipeline hattach
    obtain ⟨_, -, -, hother, -⟩ := ports_attach hapi hattach
    rw [hother _ hname.symm]
    exact hregistered
  have hattached : Performs (env.attachPortToSwitch end2.dpid end2.name end2.num) _
      (fun s' => s'.pipeline.ports end1.name ≠ none) s _ :=
    performs_attachNew hs hlsw2 hport2 hunknown2 hregistered fun pipeline h _ => hleft pipeline h
  cases hattach : env.attach end2.name end2.dpid end2.num s.pipeline with
  | none =>
      refine ⟨s, (hattached.stop ?_).congr ?_⟩
      · simp [LinkEnv.attachHazards, hattach]
      · simp [LinkEnv.attachHazards, hattach]
  | some pipeline =>
      obtain ⟨port2, hport2', hself, hother, -⟩ := ports_attach hapi hattach
      obtain rfl := Option.some.inj (hport2.symm.trans hport2')
      rw [hattach, Option.getD_some] at hattached
      have hup := performs_bringUp (s := { s with
          pipeline := pipeline
          iomanager := s.iomanager.added env.cnt end2.vport })
        hapi ((hother _ hname.symm).trans hport1) hself hsw1 (by simp)
          (honly1.added hs hne.symm) (hunknown2.onlyIn hs) hne
      simp only [isIdle_added hs] at hup
      refine ⟨_, (hattached.andThen fun _ => hup).congr ?_⟩
      -- a manager that is locked is locked from the start
      cases hlocked : s.iomanager.locked with
      | true => simp [LinkEnv.attachHazards, hattach, hlocked]
      | false =>
          have hlocked' : (s.iomanager.added env.cnt end2.vport).locked = false := hlocked
          simp [LinkEnv.attachHazards, hattach, hlocked, hlocked', outcome_append]

/-- What `hal_driver_connect_switches` does once both ports have been added to the library. -/
lemma performs_connect (hapi : env.api.Documented) (hs : Scheduled env.cnt s.iomanager)
    (hadded : PairAdded s end1 end2) (hlsw1 : s.pipeline.logicalSwitches end1.dpid ≠ none)
    (hlsw2 : s.pipeline.logicalSwitches end2.dpid ≠ none) : ∃ s₁,
    Performs (do
      if !(← env.attachPortToSwitch end1.dpid end1.name end1.num) then
        return false
      if !(← env.attachPortToSwitch end2.dpid end2.name end2.num) then
        return false
      let port1_not ← env.hasSnapshot end1.name
      let port2_not ← env.hasSnapshot end2.name
      if !port1_not || !port2_not then
        return false
      if !(← env.bringPortUp end1.name) then
        return false
      env.bringPortUp end2.name)
      (env.connectHazards end1 end2 s.pipeline s.iomanager)
      (fun s' => s'.pipeline.ports end1.name ≠ none) s s₁ := by
  have hleft : ∀ pipeline ∈ env.attach end1.name end1.dpid end1.num s.pipeline,
      pipeline.ports end1.name ≠ none := by
    intro pipeline hattach
    obtain ⟨_, -, hself, -, -⟩ := ports_attach hapi hattach
    simp [hself]
  have hfirst : Performs (env.attachPortToSwitch end1.dpid end1.name end1.num) _
      (fun s' => s'.pipeline.ports end1.name ≠ none) s _ :=
    performs_attachNew hs hlsw1 hadded.port1 hadded.unknown1 (by simp [hadded.port1])
      fun pipeline h _ => hleft pipeline h
  cases hattach : env.attach end1.name end1.dpid end1.num s.pipeline with
  | none =>
      refine ⟨s, (hfirst.stop ?_).congr ?_⟩
      · simp [LinkEnv.attachHazards, hattach]
      · simp [LinkEnv.connectHazards, LinkEnv.attachHazards, hattach]
  | some pipeline =>
      rw [hattach, Option.getD_some] at hfirst
      obtain ⟨port1, hport1, hself, hother, hlsw⟩ := ports_attach hapi hattach
      obtain rfl := Option.some.inj (hadded.port1.symm.trans hport1)
      obtain ⟨s₁, hsecond⟩ := performs_connectSecond (s := { s with
          pipeline := pipeline
          iomanager := s.iomanager.added env.cnt end1.vport })
        hapi scheduled_added hself (by simp) (hadded.unknown1.onlyIn hs)
          ((hother _ hadded.name_ne).trans hadded.port2) (hadded.unknown2.added hs hadded.ne)
          hadded.ne hadded.name_ne (hlsw _ hlsw2)
      simp only [isIdle_added hs] at hsecond
      refine ⟨s₁, (hfirst.andThen fun _ => hsecond).congr ?_⟩
      simp [LinkEnv.connectHazards, hattach]

/-! ## Creating a link -/

lemma wp_addSwitchPort {R : Bool → HalState → Prop} {E : Stuck → HalState → Prop} :
    wp (env.addSwitchPort name port) R E s ↔ match env.api.addPort name port s.pipeline with
      | none => R false s
      | some pipeline => R true { s with pipeline := pipeline } := by
  rw [LinkEnv.addSwitchPort]
  cases h : env.api.addPort name port s.pipeline with
  | none => simp [h]
  | some pipeline => simp [h]

/-- A port that the library still has is freed. -/
lemma not_noneFreed_free {ports : List (String × SwitchPort)}
    (hport : s.pipeline.ports name = some port) (hmem : (name, port) ∈ ports) :
    ¬ NoneFreed (s.free ports) := by
  intro hnone
  refine (hnone name port hport).1 (List.mem_append_right _ ?_)
  exact List.mem_map_of_mem (List.mem_filter.2 ⟨hmem, decide_eq_true hport⟩)

/-- The ports of a link that the library does not have are freed. -/
lemma unchanged_free_link (hnone : NoneFreed s) {name1 name2 : String} {vport1 vport2 : ℕ}
    (hvport1 : s.ioports vport1 = none) (hvport2 : s.ioports vport2 = none) :
    Unchanged s ((s.link name1 name2 vport1 vport2).free
        [(name1, virtualPort vport1), (name2, virtualPort vport2)]) ∧
      NoneFreed ((s.link name1 name2 vport1 vport2).free
        [(name1, virtualPort vport1), (name2, virtualPort vport2)]) := by
  have hioports : ((s.link name1 name2 vport1 vport2).free
      [(name1, virtualPort vport1), (name2, virtualPort vport2)]).ioports = s.ioports := by
    funext address
    simp only [HalState.free, HalState.link, List.map_cons, List.map_nil, List.mem_cons,
      List.not_mem_nil, or_false, platformPortState_virtualPort]
    by_cases h1 : address = vport1
    · rw [if_pos (.inl h1), h1, hvport1]
    · by_cases h2 : address = vport2
      · rw [if_pos (.inr h2), h2, hvport2]
      · rw [if_neg (not_or.2 ⟨h1, h2⟩), Function.update_of_ne h2, Function.update_of_ne h1]
  refine ⟨⟨rfl, rfl, hioports⟩, fun name port hport => ?_⟩
  obtain ⟨hfreed, hioport⟩ := hnone name port hport
  rw [hioports]
  refine ⟨fun hmem => ?_, hioport⟩
  rcases List.mem_append.1 hmem with hmem | hmem
  · exact hfreed hmem
  · -- the library would have a port whose ioport is not in use
    obtain ⟨⟨name', port'⟩, hfilter, rfl⟩ := List.mem_map.1 hmem
    obtain ⟨hpair, hregistered⟩ := List.mem_filter.1 hfilter
    have halive := (hnone name' port' (of_decide_eq_true hregistered)).2
    simp only [List.mem_cons, Prod.mk.injEq, List.not_mem_nil, or_false] at hpair
    rcases hpair with ⟨-, rfl⟩ | ⟨-, rfl⟩
    · exact halive hvport1
    · exact halive hvport2

section Create

variable {new : NewLink} {vport1 vport2 : ℕ} {pipeline : PhysicalSwitch}

/-- The library does not take the first port: both are freed, and nothing refers to them. -/
lemma create_of_none (hs : Intact env.cnt s) (hnew : new.Unused s)
    (hport1 : new.port1 = true) (hport2 : new.port2 = true)
    (hvport1 : new.vport1 = some vport1) (hvport2 : new.vport2 = some vport2)
    (hfirst : env.addFirst vport1 s = none) :
    wp (env.createVirtualPortPair new)
      (fun success s' => success = false ∧ Unchanged s s' ∧ NoneFreed s') (fun _ _ => False) s := by
  rw [LinkEnv.addFirst] at hfirst
  rw [LinkEnv.createVirtualPortPair]
  simp only [wp_bind, wp_read, hport1, hport2, hvport1, hvport2, Bool.not_true, Bool.or_self,
    Bool.false_eq_true, if_false, wp_update, wp_addSwitchPort, HalState.pipeline_link, hfirst,
    Bool.not_false, if_true, wp_pure, true_and]
  exact unchanged_free_link hs.noneFreed (hnew.vport1 _ hvport1) (hnew.vport2 _ hvport2)

/-- The library takes the first port only: it is freed, but still registered. -/
lemma create_of_first (hapi : env.api.Documented)
    (hport1 : new.port1 = true) (hport2 : new.port2 = true)
    (hvport1 : new.vport1 = some vport1) (hvport2 : new.vport2 = some vport2)
    (hfirst : env.addFirst vport1 s = some pipeline)
    (hboth : env.addBoth vport1 vport2 s = none) :
    wp (env.createVirtualPortPair new) (fun success s' => success = false ∧ ¬ NoneFreed s')
      (fun _ _ => False) s := by
  rw [LinkEnv.addBoth, hfirst, Option.bind_some] at hboth
  rw [LinkEnv.addFirst] at hfirst
  obtain ⟨-, rfl⟩ := hapi.addPort hfirst
  rw [LinkEnv.createVirtualPortPair]
  simp only [wp_bind, wp_read, hport1, hport2, hvport1, hvport2, Bool.not_true, Bool.or_self,
    Bool.false_eq_true, if_false, wp_update, wp_addSwitchPort, HalState.pipeline_link, hfirst,
    hboth, Bool.not_false, if_true, wp_pure, true_and]
  exact not_noneFreed_free (Function.update_self ..) List.mem_cons_self

/-- The library takes both ports. -/
lemma create_of_both (hport1 : new.port1 = true) (hport2 : new.port2 = true)
    (hvport1 : new.vport1 = some vport1) (hvport2 : new.vport2 = some vport2)
    (hboth : env.addBoth vport1 vport2 s = some pipeline) :
    wp (env.createVirtualPortPair new) (fun success s' => success = true ∧
      s'.pipeline = pipeline ∧ s'.iomanager = s.iomanager) (fun _ _ => False) s := by
  obtain ⟨pipeline1, hfirst, hsecond⟩ := Option.bind_eq_some_iff.1 hboth
  rw [LinkEnv.addFirst] at hfirst
  rw [LinkEnv.createVirtualPortPair]
  simp only [wp_bind, wp_read, hport1, hport2, hvport1, hvport2, Bool.not_true, Bool.or_self,
    Bool.false_eq_true, if_false, wp_update, wp_addSwitchPort, HalState.pipeline_link, hfirst,
    hsecond, wp_pure, true_and]
  rfl

end Create

/-! ## Calls that succeed -/

/-- The program does what the function of the driver does that is only defined where it succeeds. -/
def AgreesWith (p : HalProgram Bool) (f : Driver → Option Driver) (s : HalState) : Prop :=
  wp p (fun success s' => success = true → f s.toDriver = some s'.toDriver) (fun _ _ => True) s

variable {f g : Driver → Option Driver}

lemma AgreesWith.andThen (hp : AgreesWith p f s) (hq : ∀ s', AgreesWith q g s') :
    AgreesWith (do
      if !(← p) then
        return false
      q) (fun s => (f s).bind g) s := by
  rw [AgreesWith, wp_bind]
  refine wp_mono hp (fun success s' hf => ?_) fun _ _ _ => trivial
  cases success with
  | false => exact nofun
  | true =>
      refine wp_mono (hq s') (fun success' s'' hg hsuccess => ?_) fun _ _ _ => trivial
      rw [hf rfl, Option.bind_some, hg hsuccess]

lemma agreesWith_manage (f : ManagerState ℕ → Outcome × ManagerState ℕ) (s : HalState) :
    AgreesWith (manage f) (fun s => s.manage (f s.iomanager)) s := by
  rw [AgreesWith, manage]
  cases hlocked : s.iomanager.locked with
  | true => simp [hlocked]
  | false =>
      cases hend : (f s.iomanager).1 with
      | success => simp [hlocked, hend, Driver.manage]
      | failure => simp [hlocked, hend]
      | stuck => simp [hlocked, hend]

lemma agreesWith_attachPortToSwitch (s : HalState) :
    AgreesWith (env.attachPortToSwitch dpid name num)
      (Driver.attachPortToSwitch env.api env.cnt env.fails dpid name num) s := by
  rw [AgreesWith, LinkEnv.attachPortToSwitch]
  cases hslots : s.pipeline.logicalSwitches dpid with
  | none => simp [hslots]
  | some slots =>
      cases hport : s.pipeline.ports name with
      | none => simp [hslots, hport]
      | some port =>
          cases hattach : env.attach name dpid num s.pipeline with
          | none => simp [hslots, hport, hattach]
          | some pipeline =>
              have hmanage := agreesWith_manage
                (addPort env.cnt (env.fails port.platformPortState) port.platformPortState)
                { s with pipeline := pipeline }
              rw [AgreesWith] at hmanage
              rw [LinkEnv.attach] at hattach
              simpa [hslots, hport, LinkEnv.attach, hattach, Driver.attachPortToSwitch]
                using hmanage

lemma agreesWith_bringPortUp (s : HalState) :
    AgreesWith (env.bringPortUp name) (Driver.bringPortUp env.cnt env.fails name true) s := by
  rw [AgreesWith, LinkEnv.bringPortUp]
  cases hport : s.pipeline.ports name with
  | none => simp [hport]
  | some port =>
      by_cases hsw : port.attachedSw = none
      · simp [hport, hsw, Driver.bringPortUp]
      · have hmanage := agreesWith_manage
          (Io.bringPortUp env.cnt (env.fails port.platformPortState) port.platformPortState) s
        rw [AgreesWith] at hmanage
        simpa [hport, hsw, Driver.bringPortUp] using hmanage


section Create

variable {new : NewLink} {vport1 vport2 : ℕ}

lemma agreesWith_createVirtualPortPair (hnew : new.Unused s) (hvport1 : new.vport1 = some vport1)
    (hvport2 : new.vport2 = some vport2) :
    AgreesWith (env.createVirtualPortPair new)
      (Driver.createVirtualPortPair env.api vport1 vport2) s := by
  have hunused : ¬ (vport1 = vport2 ∨ s.ioports vport1 ≠ none ∨ s.ioports vport2 ≠ none) := by
    rintro (rfl | h | h)
    · exact hnew.ne _ hvport1 hvport2
    · exact h (hnew.vport1 _ hvport1)
    · exact h (hnew.vport2 _ hvport2)
  rw [AgreesWith, LinkEnv.createVirtualPortPair]
  by_cases hports : (!new.port1 || !new.port2) = true
  · simp [hports]
  · cases hfirst : env.addFirst vport1 s with
    | none =>
        rw [LinkEnv.addFirst] at hfirst
        simp [hports, hvport1, hvport2, wp_addSwitchPort, hfirst]
    | some pipeline1 =>
        cases hsecond : env.api.addPort (Driver.vlinkName s.numOfVlinks 1) (virtualPort vport2)
            pipeline1 with
        | none =>
            rw [LinkEnv.addFirst] at hfirst
            simp [hports, hvport1, hvport2, wp_addSwitchPort, hfirst, hsecond]
        | some pipeline2 =>
            rw [LinkEnv.addFirst] at hfirst
            rw [virtualPort] at hfirst hsecond
            simp [hports, hvport1, hvport2, wp_addSwitchPort, virtualPort, hfirst, hsecond,
              Driver.createVirtualPortPair, hunused, HalState.link]

lemma agreesWith_bringUp {name1 name2 : String} (s : HalState) :
    AgreesWith (do
      let port1_not ← env.hasSnapshot name1
      let port2_not ← env.hasSnapshot name2
      if !port1_not || !port2_not then
        return false
      if !(← env.bringPortUp name1) then
        return false
      env.bringPortUp name2)
      (fun s => if env.api.getPortSnapshot name1 s.pipeline = false ∨
          env.api.getPortSnapshot name2 s.pipeline = false then none
        else (Driver.bringPortUp env.cnt env.fails name1 true s).bind
          (Driver.bringPortUp env.cnt env.fails name2 true)) s := by
  have hfirst : AgreesWith (env.bringPortUp name1) _ s := agreesWith_bringPortUp s
  have hsecond : ∀ s', AgreesWith (env.bringPortUp name2) _ s' := agreesWith_bringPortUp
  have hup := hfirst.andThen hsecond
  rw [AgreesWith] at hup ⊢
  rw [wp_snapshots]
  by_cases hsnapshots : env.api.getPortSnapshot name1 s.pipeline = true ∧
      env.api.getPortSnapshot name2 s.pipeline = true
  · have hnot : ¬ (env.api.getPortSnapshot name1 s.pipeline = false ∨
        env.api.getPortSnapshot name2 s.pipeline = false) := by simp [hsnapshots]
    rw [if_pos hsnapshots]
    simpa only [if_neg hnot] using hup
  · rw [if_neg hsnapshots]
    exact fun hsuccess => absurd hsuccess Bool.false_ne_true

lemma agreesWith_connectSwitches {dpid1 dpid2 : Dpid} {num1 num2 : ℕ} (hnew : new.Unused s)
    (hvport1 : new.vport1 = some vport1) (hvport2 : new.vport2 = some vport2) :
    AgreesWith (env.connectSwitches dpid1 dpid2 num1 num2 new)
      (Driver.connectSwitches env.api env.cnt env.fails dpid1 dpid2 num1 num2 vport1 vport2) s := by
  have hcreate : AgreesWith (env.createVirtualPortPair new) _ s :=
    agreesWith_createVirtualPortPair hnew hvport1 hvport2
  have hattach1 : ∀ s', AgreesWith
      (env.attachPortToSwitch dpid1 (Driver.vlinkName s.numOfVlinks 0) num1) _ s' :=
    agreesWith_attachPortToSwitch
  have hattach2 : ∀ s', AgreesWith
      (env.attachPortToSwitch dpid2 (Driver.vlinkName s.numOfVlinks 1) num2) _ s' :=
    agreesWith_attachPortToSwitch
  have hall := hcreate.andThen fun s' => (hattach1 s').andThen fun s' =>
    (hattach2 s').andThen (@agreesWith_bringUp env (Driver.vlinkName s.numOfVlinks 0)
      (Driver.vlinkName s.numOfVlinks 1))
  rw [AgreesWith, LinkEnv.connectSwitches, wp_bind, wp_read, wp_bind, wp_read]
  cases hlsw1 : s.pipeline.logicalSwitches dpid1 with
  | none => simp
  | some slots1 =>
      cases hlsw2 : s.pipeline.logicalSwitches dpid2 with
      | none => simp
      | some slots2 =>
          rw [if_neg (by simp), wp_bind, wp_read, wp_bind, wp_read]
          refine wp_mono hall (fun success s' h hsuccess => ?_) fun _ _ _ => trivial
          rw [Driver.connectSwitches, hlsw1, hlsw2]
          exact h hsuccess

end Create

/-- In every run whose calls succeed nothing refers to freed memory. -/
lemma intact_of_wired {s : Driver} (h : s.Wired env.api env.cnt) : Intact env.cnt ⟨s, []⟩ where
  scheduled := ⟨h.ready.rxSched, h.ready.txSched⟩
  noneFreed name port hport := by
    obtain ⟨connected, hioport⟩ := h.ioport hport
    exact ⟨List.not_mem_nil, fun hnone => absurd (hnone.symm.trans hioport) nofun⟩
  unknown address hnone g := by
    have hmem : address ∉ (s.iomanager.portgroups g).ports := by
      intro hmem
      obtain ⟨name, port, hport, rfl⟩ := h.members ⟨g, hmem⟩
      obtain ⟨connected, hioport⟩ := h.ioport hport
      exact absurd (hnone.symm.trans hioport) nofun
    exact ⟨hmem, fun hrun => hmem (h.ready.running g hrun)⟩

/-! ## Which failures are atomic -/

/-- A function that leaves something behind when it fails must not fail. -/
lemma Performs.wp_iff_ne_failure (h : Performs p hazards Left s s₁) {R : HalState → Prop}
    (hleft : ∀ s', Left s' → ¬ R s') :
    wp p (fun success s' => success = false → R s') (fun _ _ => True) s ↔
      outcome hazards ≠ .failure := by
  refine wp_iff h (fun success s' hend => ?_) fun _ s' hend => ?_
  · cases success with
    | false =>
        obtain ⟨hfailure, hs'⟩ := hend
        exact iff_of_false (fun hR => hleft s' hs' (hR rfl)) (not_not_intro hfailure)
    | true =>
        obtain ⟨hsuccess, -⟩ := hend
        exact iff_of_true nofun (by simp [hsuccess])
  · exact iff_of_true trivial (by simp [hend])

lemma unchanged_refl (s : HalState) : Unchanged s s := ⟨rfl, rfl, rfl⟩

lemma atomicOnFailure_attach_iff (hapi : env.api.Documented) (hs : Intact env.cnt s) :
    AtomicOnFailure (env.attachPortToSwitch dpid name num) s ↔ env.CanAttach dpid name num s := by
  have hnothing : Unchanged s s ∧ NoneFreed s := ⟨unchanged_refl s, hs.noneFreed⟩
  rw [AtomicOnFailure, LinkEnv.attachPortToSwitch, LinkEnv.CanAttach]
  cases hslots : s.pipeline.logicalSwitches dpid with
  | none => simp [hslots, hnothing]
  | some slots =>
      cases hport : s.pipeline.ports name with
      | none => simp [hslots, hport, hnothing]
      | some port =>
          cases hattach : env.attach name dpid num s.pipeline with
          | none => simp [hslots, hport, hattach, hnothing]
          | some pipeline =>
              have hspec := @addPort_spec ℕ env.cnt s.iomanager port.platformPortState
                (env.fails port.platformPortState) _ hs.scheduled
              have hmanage : Performs (manage _) _ (fun s' => s'.pipeline = pipeline)
                  { s with pipeline := pipeline } _ := performs_manage hspec fun _ => rfl
              have hiff := hmanage.wp_iff_ne_failure (R := fun s' => Unchanged s s' ∧ NoneFreed s')
                fun s' hs' hR => ne_of_attach hapi hattach (hs'.symm.trans hR.1.pipeline)
              simpa [hslots, hport, hattach] using hiff

section Create

variable {new : NewLink}

/-- The three ends of `create_virtual_port_pair`. -/
lemma create_cases (hapi : env.api.Documented) (hs : Intact env.cnt s) (hnew : new.Unused s) :
    (wp (env.createVirtualPortPair new)
        (fun success s' => success = false ∧ Unchanged s s' ∧ NoneFreed s') (fun _ _ => True) s ∧
      env.CanCreate new s ∧ ∀ vport1 vport2 pipeline, ¬ env.Creates new s vport1 vport2 pipeline) ∨
    (wp (env.createVirtualPortPair new) (fun success s' => success = false ∧ ¬ NoneFreed s')
        (fun _ _ => False) s ∧ ¬ env.CanCreate new s) ∨
    ∃ vport1 vport2 pipeline, env.Creates new s vport1 vport2 pipeline ∧ env.CanCreate new s ∧
      wp (env.createVirtualPortPair new) (fun success s' => success = true ∧
        s'.pipeline = pipeline ∧ s'.iomanager = s.iomanager) (fun _ _ => False) s := by
  have hnothing : Unchanged s s ∧ NoneFreed s := ⟨unchanged_refl s, hs.noneFreed⟩
  by_cases hports : new.port1 = true ∧ new.port2 = true
  · obtain ⟨hport1, hport2⟩ := hports
    cases hvport1 : new.vport1 with
    | none =>
        refine .inl ⟨?_, ?_, fun _ _ _ h => absurd (hvport1.symm.trans h.new1) nofun⟩
        · rw [LinkEnv.createVirtualPortPair]
          simp [hport1, hport2, hvport1]
        · simp [LinkEnv.CanCreate, hvport1]
    | some vport1 =>
        cases hvport2 : new.vport2 with
        | none =>
            refine .inl ⟨?_, ?_, fun _ _ _ h => absurd (hvport2.symm.trans h.new2) nofun⟩
            · rw [LinkEnv.createVirtualPortPair]
              simp [hport1, hport2, hvport1, hvport2]
            · simp [LinkEnv.CanCreate, hvport2]
        | some vport2 =>
            have hcan : env.CanCreate new s ↔
                (env.addFirst vport1 s ≠ none → env.addBoth vport1 vport2 s ≠ none) := by
              simp [LinkEnv.CanCreate, hport1, hport2, hvport1, hvport2]
            cases hboth : env.addBoth vport1 vport2 s with
            | some pipeline =>
                refine .inr (.inr ⟨vport1, vport2, pipeline, ?_, ?_, ?_⟩)
                · exact ⟨hport1, hport2, hvport1, hvport2, hboth⟩
                · exact hcan.2 fun _ => by simp [hboth]
                · exact create_of_both hport1 hport2 hvport1 hvport2 hboth
            | none =>
                cases hfirst : env.addFirst vport1 s with
                | none =>
                    refine .inl ⟨?_, hcan.2 fun h => absurd hfirst h, fun vport1' vport2' _ h => ?_⟩
                    · exact wp_mono
                        (create_of_none hs hnew hport1 hport2 hvport1 hvport2 hfirst)
                        (fun _ _ h => h) fun _ _ _ => trivial
                    · obtain rfl := Option.some.inj (hvport1.symm.trans h.new1)
                      obtain rfl := Option.some.inj (hvport2.symm.trans h.new2)
                      exact absurd (hboth.symm.trans h.addBoth) nofun
                | some pipeline =>
                    refine .inr (.inl ⟨?_, fun h => hcan.1 h (by simp [hfirst]) hboth⟩)
                    exact create_of_first hapi hport1 hport2 hvport1 hvport2 hfirst hboth
  · refine .inl ⟨?_, fun h1 h2 => absurd ⟨h1, h2⟩ hports, fun _ _ _ h => hports ⟨h.port1, h.port2⟩⟩
    have hnot : (!new.port1 || !new.port2) = true := by
      cases h1 : new.port1 <;> cases h2 : new.port2 <;> simp_all
    rw [LinkEnv.createVirtualPortPair]
    simp [hnot, hnothing]

lemma atomicOnFailure_create_iff (hapi : env.api.Documented) (hs : Intact env.cnt s)
    (hnew : new.Unused s) :
    AtomicOnFailure (env.createVirtualPortPair new) s ↔ env.CanCreate new s := by
  rcases create_cases hapi hs hnew with ⟨hend, hcan, -⟩ | ⟨hend, hcan⟩ | ⟨_, _, _, -, hcan, hend⟩
  · refine wp_iff hend (fun success s' h => iff_of_true (fun _ => h.2) hcan) fun _ _ _ => ?_
    exact iff_of_true trivial hcan
  · refine wp_iff hend (fun success s' h => iff_of_false ?_ hcan) fun _ _ h => h.elim
    exact fun hatomic => h.2 (hatomic h.1).2
  · refine wp_iff hend (fun success s' h => iff_of_true ?_ hcan) fun _ _ h => h.elim
    exact fun hfailure => absurd (h.1.symm.trans hfailure) nofun

/-- What the library has when it has added both ports. -/
lemma pipeline_of_creates (hapi : env.api.Documented) {vport1 vport2 : ℕ}
    {pipeline : PhysicalSwitch} (h : env.Creates new s vport1 vport2 pipeline) :
    s.pipeline.ports (Driver.vlinkName s.numOfVlinks 0) = none ∧
      pipeline.ports (Driver.vlinkName s.numOfVlinks 0) = some (virtualPort vport1) ∧
      pipeline.ports (Driver.vlinkName s.numOfVlinks 1) = some (virtualPort vport2) ∧
      pipeline.logicalSwitches = s.pipeline.logicalSwitches := by
  obtain ⟨pipeline1, hfirst, hsecond⟩ := Option.bind_eq_some_iff.1 h.addBoth
  obtain ⟨hfree1, rfl⟩ := hapi.addPort hfirst
  obtain ⟨hfree2, rfl⟩ := hapi.addPort hsecond
  have hne : Driver.vlinkName s.numOfVlinks 0 ≠ Driver.vlinkName s.numOfVlinks 1 := by
    intro hname
    rw [← hname] at hfree2
    exact absurd ((Function.update_self ..).symm.trans hfree2) (Option.some_ne_none _)
  refine ⟨hfree1, ?_, Function.update_self .., rfl⟩
  exact (Function.update_of_ne hne ..).trans (Function.update_self ..)

lemma LinkEnv.Creates.pairAdded {vport1 vport2 : ℕ} {pipeline : PhysicalSwitch} {s' : HalState}
    (h : env.Creates new s vport1 vport2 pipeline) (hapi : env.api.Documented)
    (hs : Intact env.cnt s) (hnew : new.Unused s) (hpipeline : s'.pipeline = pipeline)
    (hmanager : s'.iomanager = s.iomanager) (dpid1 dpid2 : Dpid) (num1 num2 : ℕ) :
    PairAdded s' ⟨Driver.vlinkName s.numOfVlinks 0, vport1, dpid1, num1⟩
      ⟨Driver.vlinkName s.numOfVlinks 1, vport2, dpid2, num2⟩ := by
  obtain ⟨-, hport1, hport2, -⟩ := pipeline_of_creates hapi h
  refine ⟨by rw [hpipeline, hport1], by rw [hpipeline, hport2], ?_, ?_, ?_⟩
  · rw [hmanager]
    exact hs.unknown _ (hnew.vport1 _ h.new1)
  · rw [hmanager]
    exact hs.unknown _ (hnew.vport2 _ h.new2)
  · rintro rfl
    exact hnew.ne _ h.new1 h.new2

lemma atomicOnFailure_connect_iff (hapi : env.api.Documented) (hs : Intact env.cnt s)
    (hnew : new.Unused s) {dpid1 dpid2 : Dpid} {num1 num2 : ℕ} :
    AtomicOnFailure (env.connectSwitches dpid1 dpid2 num1 num2 new) s ↔
      env.CanConnect dpid1 dpid2 num1 num2 new s := by
  have hnothing : Unchanged s s ∧ NoneFreed s := ⟨unchanged_refl s, hs.noneFreed⟩
  rw [AtomicOnFailure, LinkEnv.connectSwitches, LinkEnv.CanConnect, wp_bind, wp_read, wp_bind,
    wp_read]
  cases hlsw1 : s.pipeline.logicalSwitches dpid1 with
  | none => simp [hnothing]
  | some slots1 =>
      cases hlsw2 : s.pipeline.logicalSwitches dpid2 with
      | none => simp [hnothing]
      | some slots2 =>
          rw [if_neg (by simp), wp_bind, wp_read, wp_bind, wp_read, wp_bind]
          rw [imp_iff_right (Option.some_ne_none slots1),
            imp_iff_right (Option.some_ne_none slots2)]
          rcases create_cases hapi hs hnew with ⟨hend, hcan, hnone⟩ | ⟨hend, hcan⟩ |
            ⟨vport1, vport2, pipeline, hcreates, hcan, hend⟩
          · refine wp_iff hend (fun success s' h => iff_of_true ?_ ?_) fun _ _ _ =>
              iff_of_true trivial ?_
            · obtain ⟨rfl, hsame⟩ := h
              exact fun _ => hsame
            · exact ⟨hcan, fun _ _ _ h => absurd h (hnone _ _ _)⟩
            · exact ⟨hcan, fun _ _ _ h => absurd h (hnone _ _ _)⟩
          · refine wp_iff hend (fun success s' h => iff_of_false ?_ ?_) fun _ _ h => h.elim
            · obtain ⟨rfl, hfreed⟩ := h
              exact fun hatomic => hfreed (hatomic rfl).2
            · exact fun h => hcan h.1
          · refine wp_iff hend (fun success s' h => ?_) fun _ _ h => h.elim
            obtain ⟨rfl, hpipeline, hmanager⟩ := h
            obtain ⟨hfree, -, -, hlsw⟩ := pipeline_of_creates hapi hcreates
            have hadded := hcreates.pairAdded hapi hs hnew hpipeline hmanager dpid1 dpid2 num1 num2
            obtain ⟨s₁, hconnect⟩ := performs_connect hapi (by rw [hmanager]; exact hs.scheduled)
              hadded (by rw [hpipeline, hlsw, hlsw1]; simp) (by rw [hpipeline, hlsw, hlsw2]; simp)
            rw [hpipeline, hmanager] at hconnect
            -- the first port of the link has not been there before
            have hiff := hconnect.wp_iff_ne_failure (R := fun s' => Unchanged s s' ∧ NoneFreed s')
              fun s'' hregistered h => hregistered (by rw [h.1.pipeline, hfree])
            rw [if_neg (by simp)]
            refine hiff.trans ⟨fun h => ⟨hcan, fun vport1' vport2' pipeline' h' => ?_⟩, fun h =>
              h.2 _ _ _ hcreates⟩
            obtain rfl := Option.some.inj (hcreates.new1.symm.trans h'.new1)
            obtain rfl := Option.some.inj (hcreates.new2.symm.trans h'.new2)
            obtain rfl := Option.some.inj (hcreates.addBoth.symm.trans h'.addBoth)
            exact h

end Create

/-- **Atomicity of failed calls.** -/
theorem atomicOnFailure_iff {c : LinkCall} (hapi : env.api.Documented) (hs : Intact env.cnt s)
    (hnew : ∀ new ∈ c.new, new.Unused s) :
    AtomicOnFailure (c.run env) s ↔ env.CanCall s c := by
  cases c with
  | attachPortToSwitch dpid name num => exact atomicOnFailure_attach_iff hapi hs
  | createVirtualPortPair new => exact atomicOnFailure_create_iff hapi hs (hnew new rfl)
  | connectSwitches dpid1 dpid2 num1 num2 new =>
      exact atomicOnFailure_connect_iff hapi hs (hnew new rfl)

/-- Two switches that have no ports, of a driver without interfaces. -/
def noPorts : HalState where
  pipeline :=
    { ports := fun _ => none
      logicalSwitches := fun dpid => if dpid = 1 ∨ dpid = 2 then some fun _ => none else none }
  ioports _ := none
  iomanager := .init
  numOfVlinks := 0
  freed := []

/-- A library with seven ports in a switch, where no call fails. -/
def noFailures : LinkEnv := ⟨Driver.sevenPorts, oneOfEither, fun _ _ => false⟩

/-- A link whose ioports have these addresses. -/
def newLink : NewLink := ⟨true, true, some 100, some 101⟩

lemma intact_noPorts : Intact oneOfEither noPorts where
  scheduled := ⟨Nat.one_pos, Nat.one_pos⟩
  noneFreed _ _ hport := absurd hport nofun
  unknown _ _ _ := ⟨List.not_mem_nil, List.not_mem_nil⟩

lemma unused_newLink : newLink.Unused noPorts where
  vport1 _ _ := rfl
  vport2 _ _ := rfl
  ne := by simp [newLink]

/-- The two switches are connected, and a port that does not exist is not attached. -/
theorem atomicOnFailure_noFailures :
    AtomicOnFailure (LinkCall.run noFailures (.connectSwitches 1 2 0 3 newLink)) noPorts ∧
      AtomicOnFailure (LinkCall.run noFailures (.attachPortToSwitch 1 "eth0" 0)) noPorts := by
  constructor
  · refine (atomicOnFailure_iff Driver.documented_sevenPorts intact_noPorts ?_).2 ?_
    · rintro new ⟨⟩
      exact unused_newLink
    · intro _ _
      refine ⟨?_, fun vport1 vport2 pipeline h => ?_⟩
      · rintro - - vport1 ⟨⟩ vport2 ⟨⟩ -
        decide
      · obtain rfl := Option.some.inj h.new1
        obtain rfl := Option.some.inj h.new2
        obtain rfl := Option.some.inj h.addBoth
        decide
  · refine (atomicOnFailure_iff Driver.documented_sevenPorts intact_noPorts ?_).2 ?_
    · simp [LinkCall.new]
    · intro _ port hport
      exact absurd hport (by simp [noPorts])

/-- The second switch has no port number 9: the two ports of the link stay registered. -/
theorem not_atomicOnFailure_noFailures : ¬ ∀ env : LinkEnv, env.api.Documented →
    ∀ (s : HalState) (c : LinkCall), Intact env.cnt s → (∀ new ∈ c.new, new.Unused s) →
      AtomicOnFailure (c.run env) s := by
  intro hall
  have hunused : ∀ new ∈ (LinkCall.connectSwitches 1 2 0 9 newLink).new, new.Unused noPorts := by
    rintro new ⟨⟩
    exact unused_newLink
  have hatomic := hall noFailures Driver.documented_sevenPorts noPorts _ intact_noPorts hunused
  obtain ⟨-, hconnect⟩ := (atomicOnFailure_connect_iff Driver.documented_sevenPorts intact_noPorts
    unused_newLink).1 hatomic (by decide) (by decide)
  exact hconnect 100 101 _ ⟨rfl, rfl, rfl, rfl, rfl⟩ rfl

end Xdpd.Hal
