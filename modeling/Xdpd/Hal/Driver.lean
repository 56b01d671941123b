import Mathlib.Algebra.GroupWithZero.Nat
import Mathlib.Data.PEquiv
import Xdpd.Io.PortGroups

/-!
# The ports of the driver

The functions of `driver.cc` that create and destroy logical switches, attach and detach ports,
bring them up and down, and connect switches by virtual links, run one after the other.  A function
gives the next state when it returns `HAL_SUCCESS`, and nothing otherwise.

Which switches and ports there are, and which port is attached where, is kept by the pipeline
library.  Its functions are a parameter; `PhysicalSwitchApi.Documented` says what the driver can
expect of them.
-/

namespace Xdpd.Hal

open Xdpd.Io

/-- A datapath id. -/
abbrev Dpid := Fin (2 ^ 64)

scoped instance neZero_dpid : NeZero (2 ^ 64) := ⟨by decide⟩

/-! ## The pipeline library -/

/-- The types of port that the driver creates. -/
inductive PortType
  | physical
  | virtual
  deriving DecidableEq, Repr

/-- `switch_port_t` -/
structure SwitchPort where
  type : PortType
  /-- the switch that `attached_sw` points to -/
  attachedSw : Option Dpid
  /-- the address of the `ioport` -/
  platformPortState : ℕ
  deriving DecidableEq, Repr

/-- The physical switch: the ports that have been added to it, and its logical switches with the
ports that are attached, by number. -/
@[ext]
structure PhysicalSwitch where
  ports : String → Option SwitchPort
  logicalSwitches : Dpid → Option (ℕ → Option String)

/-- The functions of the library; `none` is `ROFL_FAILURE`. -/
structure PhysicalSwitchApi where
  /-- `LOGICAL_SWITCH_MAX_LOG_PORTS`, which is also the `max_ports` of every switch -/
  maxLogPorts : ℕ
  /-- `physical_switch_add_logical_switch` -/
  addLogicalSwitch (dpid : Dpid) : PhysicalSwitch → Option PhysicalSwitch
  /-- `physical_switch_remove_logical_switch` -/
  removeLogicalSwitch (dpid : Dpid) : PhysicalSwitch → Option PhysicalSwitch
  /-- `physical_switch_attach_port_to_logical_switch` -/
  attachPort (name : String) (dpid : Dpid) : PhysicalSwitch → Option PhysicalSwitch
  /-- `physical_switch_attach_port_to_logical_switch_at_port_num` -/
  attachPortAtPortNum (name : String) (dpid : Dpid) (num : ℕ) :
    PhysicalSwitch → Option PhysicalSwitch
  /-- `physical_switch_detach_port_from_logical_switch` -/
  detachPort (name : String) (dpid : Dpid) : PhysicalSwitch → Option PhysicalSwitch
  /-- `physical_switch_detach_all_ports_from_logical_switch` -/
  detachAllPorts (dpid : Dpid) : PhysicalSwitch → Option PhysicalSwitch
  /-- `physical_switch_add_port` -/
  addPort (name : String) (port : SwitchPort) : PhysicalSwitch → Option PhysicalSwitch
  /-- `physical_switch_remove_port` -/
  removePort (name : String) : PhysicalSwitch → Option PhysicalSwitch
  /-- `physical_switch_get_port_snapshot` gives a snapshot -/
  getPortSnapshot (name : String) : PhysicalSwitch → Bool

namespace PhysicalSwitch

/-- The port is attached to the switch under a number. -/
def attach (s : PhysicalSwitch) (name : String) (port : SwitchPort) (dpid : Dpid)
    (slots : ℕ → Option String) (num : ℕ) : PhysicalSwitch where
  ports := Function.update s.ports name (some { port with attachedSw := some dpid })
  logicalSwitches := Function.update s.logicalSwitches dpid
    (some (Function.update slots num (some name)))

/-- The port is attached no more. -/
def detach (s : PhysicalSwitch) (name : String) (port : SwitchPort) (dpid : Dpid)
    (slots : ℕ → Option String) : PhysicalSwitch where
  ports := Function.update s.ports name (some { port with attachedSw := none })
  logicalSwitches := Function.update s.logicalSwitches dpid
    (some fun num => if slots num = some name then none else slots num)

/-- No port is attached to the switch. -/
def detachAll (s : PhysicalSwitch) (dpid : Dpid) : PhysicalSwitch where
  ports name := (s.ports name).map fun port =>
    if port.attachedSw = some dpid then { port with attachedSw := none } else port
  logicalSwitches := Function.update s.logicalSwitches dpid (some fun _ => none)

/-- The switch gets the port under a number that is free. -/
def Attaches (s : PhysicalSwitch) (maxLogPorts : ℕ) (name : String) (dpid : Dpid) (num : ℕ)
    (s' : PhysicalSwitch) : Prop :=
  ∃ port slots, s.ports name = some port ∧ s.logicalSwitches dpid = some slots ∧
    slots num = none ∧ 0 < num ∧ num < maxLogPorts ∧ s' = s.attach name port dpid slots num

end PhysicalSwitch

/-- What the library does when it returns `ROFL_SUCCESS`, and when it does. -/
structure PhysicalSwitchApi.Documented (api : PhysicalSwitchApi) : Prop where
  addLogicalSwitch : ∀ {dpid s s'}, api.addLogicalSwitch dpid s = some s' →
    s.logicalSwitches dpid = none ∧
      s' = { s with logicalSwitches := Function.update s.logicalSwitches dpid (some fun _ => none) }
  removeLogicalSwitch : ∀ {dpid s s'}, api.removeLogicalSwitch dpid s = some s' →
    s' = { s with logicalSwitches := Function.update s.logicalSwitches dpid none }
  attachPort : ∀ {name dpid s s'}, api.attachPort name dpid s = some s' →
    ∃ num, s.Attaches api.maxLogPorts name dpid num s'
  attachPortAtPortNum : ∀ {name dpid num s s'}, api.attachPortAtPortNum name dpid num s = some s' →
    s.Attaches api.maxLogPorts name dpid num s'
  detachPort : ∀ {name dpid s port slots num}, s.ports name = some port →
    port.attachedSw = some dpid → s.logicalSwitches dpid = some slots → slots num = some name →
      api.detachPort name dpid s = some (s.detach name port dpid slots)
  detachAllPorts : ∀ {dpid s s'}, api.detachAllPorts dpid s = some s' → s' = s.detachAll dpid
  addPort : ∀ {name port s s'}, api.addPort name port s = some s' →
    s.ports name = none ∧ s' = { s with ports := Function.update s.ports name (some port) }
  removePort : ∀ {name s port}, s.ports name = some port → port.attachedSw = none →
    api.removePort name s = some { s with ports := Function.update s.ports name none }
  getPortSnapshot : ∀ {name s}, s.ports name ≠ none → api.getPortSnapshot name s = true

/-! ## The driver -/

/-- An `ioport`; those of virtual ports are connected. -/
structure Ioport where
  /-- the name of the port that `of_port_state` points to -/
  ofPortState : String
  connectedPort : Option ℕ
  deriving DecidableEq, Repr

/-- The state of the driver. -/
structure Driver where
  pipeline : PhysicalSwitch
  /-- the ioports that have not been deleted, by address -/
  ioports : ℕ → Option Ioport
  iomanager : ManagerState ℕ
  numOfVlinks : ℕ

/-- Which of the calls that the manager of the groups makes fail, for each ioport. -/
abbrev Fails := ℕ → InternalCall → Bool

namespace Driver

/-- The driver at the start, with an ioport for each interface that has been found. -/
def init (found : String ≃. ℕ) : Driver where
  pipeline :=
    { ports := fun name => (found name).map fun address => ⟨.physical, none, address⟩
      logicalSwitches := fun _ => none }
  ioports address := (found.symm address).map fun name => ⟨name, none⟩
  iomanager := .init
  numOfVlinks := 0

/-- The manager of the groups returns. -/
def manage (s : Driver) (p : Outcome × ManagerState ℕ) : Option Driver :=
  if p.1 = .success then some { s with iomanager := p.2 } else none

variable (api : PhysicalSwitchApi) (cnt : GroupCounts) (fails : Fails)

/-- `hal_driver_create_switch`, which does not look at the result of the library. -/
def createSwitch (dpid : Dpid) (s : Driver) : Option Driver :=
  some { s with pipeline := (api.addLogicalSwitch dpid s.pipeline).getD s.pipeline }

/-- `hal_driver_destroy_switch_by_dpid`.  When a port cannot be taken out of its groups, this is
only logged. -/
def destroySwitchByDpid (dpid : Dpid) (s : Driver) : Option Driver := do
  let slots ← s.pipeline.logicalSwitches dpid
  let ports := ((List.range api.maxLogPorts).filterMap slots).filterMap s.pipeline.ports
  let iomanager := ports.foldl
    (fun manager port => (removePort cnt (fails port.platformPortState) port.platformPortState
      manager).2) s.iomanager
  let pipeline ← api.detachAllPorts dpid s.pipeline
  let pipeline ← api.removeLogicalSwitch dpid pipeline
  some { s with pipeline := pipeline, iomanager := iomanager }

/-- `hal_driver_attach_port_to_switch`, where `*of_port_num` is `num`. -/
def attachPortToSwitch (dpid : Dpid) (name : String) (num : ℕ) (s : Driver) : Option Driver := do
  let _ ← s.pipeline.logicalSwitches dpid
  let port ← s.pipeline.ports name
  let pipeline ← (if num = 0 then api.attachPort name dpid s.pipeline
    else api.attachPortAtPortNum name dpid num s.pipeline)
  manage { s with pipeline := pipeline }
    (addPort cnt (fails port.platformPortState) port.platformPortState s.iomanager)

/-- The name of an end of a virtual link. -/
def vlinkName (link edge : ℕ) : String := "vlink" ++ toString link ++ "_" ++ toString edge

/-- `create_virtual_port_pair`, where `new` gives the addresses `vport1` and `vport2`, which are not
in use. -/
def createVirtualPortPair (vport1 vport2 : ℕ) (s : Driver) : Option Driver :=
  if vport1 = vport2 ∨ s.ioports vport1 ≠ none ∨ s.ioports vport2 ≠ none then none
  else do
    let name1 := vlinkName s.numOfVlinks 0
    let name2 := vlinkName s.numOfVlinks 1
    let pipeline ← api.addPort name1 ⟨.virtual, none, vport1⟩ s.pipeline
    let pipeline ← api.addPort name2 ⟨.virtual, none, vport2⟩ pipeline
    some { s with
      pipeline := pipeline
      ioports := Function.update (Function.update s.ioports vport1 (some ⟨name1, some vport2⟩))
        vport2 (some ⟨name2, some vport1⟩)
      numOfVlinks := (s.numOfVlinks + 1) % 2 ^ 32 }

/-- `hal_driver_bring_port_up`, where `up` is whether `ioport::up` succeeds, for a port that is not
attached. -/
def bringPortUp (name : String) (up : Bool) (s : Driver) : Option Driver := do
  let port ← s.pipeline.ports name
  if port.attachedSw ≠ none then
    s.manage (Io.bringPortUp cnt (fails port.platformPortState) port.platformPortState s.iomanager)
  else if up then some s else none

/-- `hal_driver_bring_port_down`. -/
def bringPortDown (name : String) (down : Bool) (s : Driver) : Option Driver := do
  let port ← s.pipeline.ports name
  if port.attachedSw ≠ none then
    s.manage
      (Io.bringPortDown cnt (fails port.platformPortState) port.platformPortState s.iomanager)
  else if down then some s else none

/-- The port with this number, which the functions that take a number work on. -/
def portByNum (dpid : Dpid) (num : ℕ) (s : Driver) : Option SwitchPort := do
  let slots ← s.pipeline.logicalSwitches dpid
  let name ← slots num
  let port ← s.pipeline.ports name
  if port.attachedSw ≠ some dpid then none else some port

/-- `hal_driver_bring_port_up_by_num`. -/
def bringPortUpByNum (dpid : Dpid) (num : ℕ) (s : Driver) : Option Driver := do
  let port ← portByNum dpid num s
  s.manage (Io.bringPortUp cnt (fails port.platformPortState) port.platformPortState s.iomanager)

/-- `hal_driver_bring_port_down_by_num`. -/
def bringPortDownByNum (dpid : Dpid) (num : ℕ) (s : Driver) : Option Driver := do
  let port ← portByNum dpid num s
  s.manage (Io.bringPortDown cnt (fails port.platformPortState) port.platformPortState s.iomanager)

/-- `hal_driver_connect_switches`.  The last two snapshots are only asserted. -/
def connectSwitches (dpid1 dpid2 : Dpid) (num1 num2 vport1 vport2 : ℕ) (s : Driver) :
    Option Driver := do
  let _ ← s.pipeline.logicalSwitches dpid1
  let _ ← s.pipeline.logicalSwitches dpid2
  let name1 := vlinkName s.numOfVlinks 0
  let name2 := vlinkName s.numOfVlinks 1
  let s ← createVirtualPortPair api vport1 vport2 s
  let s ← attachPortToSwitch api cnt fails dpid1 name1 num1 s
  let s ← attachPortToSwitch api cnt fails dpid2 name2 num2 s
  if api.getPortSnapshot name1 s.pipeline = false ∨
      api.getPortSnapshot name2 s.pipeline = false then
    none
  else
    let s ← bringPortUp cnt fails name1 true s
    bringPortUp cnt fails name2 true s

/-- `get_vlink_pair`. -/
def getVlinkPair (port : SwitchPort) (s : Driver) : Option String := do
  let vport ← s.ioports port.platformPortState
  let connected ← vport.connectedPort
  let pair ← s.ioports connected
  some pair.ofPortState

/-- A port is taken out of its groups, and then off its switch. -/
def removeAndDetach (name : String) (port : SwitchPort) (s : Driver) : Option Driver := do
  let s ← s.manage
    (removePort cnt (fails port.platformPortState) port.platformPortState s.iomanager)
  let dpid ← port.attachedSw
  let pipeline ← api.detachPort name dpid s.pipeline
  some { s with pipeline := pipeline }

/-- `hal_driver_detach_port_from_switch`. -/
def detachPortFromSwitch (dpid : Dpid) (name : String) (s : Driver) : Option Driver := do
  let _ ← s.pipeline.logicalSwitches dpid
  let port ← s.pipeline.ports name
  if port.attachedSw ≠ some dpid ∨ api.getPortSnapshot name s.pipeline = false then none
  else
    let s ← removeAndDetach api cnt fails name port s
    match port.type with
    | .physical => some s
    | .virtual =>
        -- the other end of the link goes as well, and both are deleted
        let pairName ← getVlinkPair port s
        let pair ← s.pipeline.ports pairName
        let s ← removeAndDetach api cnt fails pairName pair s
        let pipeline ← api.removePort name s.pipeline
        let pipeline ← api.removePort pairName pipeline
        some { s with
          pipeline := pipeline
          ioports := Function.update (Function.update s.ioports port.platformPortState none)
            pair.platformPortState none }

/-- `hal_driver_detach_port_from_switch_at_port_num`. -/
def detachPortFromSwitchAtPortNum (dpid : Dpid) (num : ℕ) (s : Driver) : Option Driver := do
  let slots ← s.pipeline.logicalSwitches dpid
  if num = 0 ∨ api.maxLogPorts ≤ num then none
  else
    let name ← slots num
    detachPortFromSwitch api cnt fails dpid name s

end Driver

/-- The functions, with their arguments and with what `new` and `ioport::up` and `down` give. -/
inductive HalFunction
  | createSwitch (dpid : Dpid)
  | destroySwitchByDpid (dpid : Dpid)
  | attachPortToSwitch (dpid : Dpid) (name : String) (num : ℕ)
  | connectSwitches (dpid1 dpid2 : Dpid) (num1 num2 vport1 vport2 : ℕ)
  | detachPortFromSwitch (dpid : Dpid) (name : String)
  | detachPortFromSwitchAtPortNum (dpid : Dpid) (num : ℕ)
  | bringPortUp (name : String) (up : Bool)
  | bringPortDown (name : String) (down : Bool)
  | bringPortUpByNum (dpid : Dpid) (num : ℕ)
  | bringPortDownByNum (dpid : Dpid) (num : ℕ)
  deriving DecidableEq, Repr

/-- A call of one of the functions. -/
structure HalCall where
  function : HalFunction
  fails : Fails

/-- A call that returns `HAL_SUCCESS`. -/
def Driver.step (api : PhysicalSwitchApi) (cnt : GroupCounts) (s : Driver) (c : HalCall) :
    Option Driver :=
  match c.function with
  | .createSwitch dpid => createSwitch api dpid s
  | .destroySwitchByDpid dpid => destroySwitchByDpid api cnt c.fails dpid s
  | .attachPortToSwitch dpid name num => attachPortToSwitch api cnt c.fails dpid name num s
  | .connectSwitches dpid1 dpid2 num1 num2 vport1 vport2 =>
      connectSwitches api cnt c.fails dpid1 dpid2 num1 num2 vport1 vport2 s
  | .detachPortFromSwitch dpid name => detachPortFromSwitch api cnt c.fails dpid name s
  | .detachPortFromSwitchAtPortNum dpid num =>
      detachPortFromSwitchAtPortNum api cnt c.fails dpid num s
  | .bringPortUp name up => bringPortUp cnt c.fails name up s
  | .bringPortDown name down => bringPortDown cnt c.fails name down s
  | .bringPortUpByNum dpid num => bringPortUpByNum cnt c.fails dpid num s
  | .bringPortDownByNum dpid num => bringPortDownByNum cnt c.fails dpid num s

end Xdpd.Hal
