import Xdpd.Hal.Attachment
import Xdpd.Lib.FieldWrites
import Xdpd.Lib.Programs

/-!
# Port-mods of OpenFlow 1.2

`of12_endpoint::handle_port_mod`, with the functions of the driver that it calls.  The switch, the
ports and their attachment are those of `driver.cc`, and stay as they are; what changes are the
attributes of the ports.  Whether a setter of an `ioport` or the manager of the groups succeeds, and
whether the port has the new value afterwards, is a parameter.

The message is not checked against the table of ports.  `handles_iff` says when it is handled as it
should be.
-/

namespace Xdpd.OpenFlow.PortMod

open Xdpd.Hal Xdpd.Lib Xdpd.Lib.Program

/-! ## The message -/

/-- The fields of `cofmsg_port_mod` that are read. -/
structure CofmsgPortMod where
  config : BitVec 32
  mask : BitVec 32
  advertise : BitVec 32
  portNo : BitVec 32
  deriving DecidableEq, Repr

/-- `OFPP_ALL` -/
def OFPP_ALL : BitVec 32 := 0xfffffffc

/-- `OFPPC_PORT_DOWN` -/
def OFPPC_PORT_DOWN : BitVec 32 := 1

/-- `OFPPC_NO_RECV` -/
def OFPPC_NO_RECV : BitVec 32 := 4

/-- `OFPPC_NO_FWD` -/
def OFPPC_NO_FWD : BitVec 32 := 0x20

/-- `OFPPC_NO_PACKET_IN` -/
def OFPPC_NO_PACKET_IN : BitVec 32 := 0x40

/-- A bit as a condition. -/
def hasBit (bits bit : BitVec 32) : Bool := bits &&& bit != 0

/-- What a port-mod can change of a `switch_port_t`. -/
inductive PortAttribute
  | dropReceived | forwardPackets | ofGeneratePacketIn | advertised | up
  deriving DecidableEq, Repr

namespace PortAttribute

/-- The type of the attribute. -/
abbrev Value : PortAttribute → Type
  | advertised => BitVec 32
  | _ => Bool

/-- In the order in which a port-mod goes through them. -/
def all : List PortAttribute := [dropReceived, forwardPackets, ofGeneratePacketIn, advertised, up]

lemma mem_all (a : PortAttribute) : a ∈ all := by
  cases a <;> decide

lemma nodup_all : all.Nodup := by decide

end PortAttribute

/-- The attributes of a port. -/
abbrev PortConfig := ∀ a : PortAttribute, a.Value

/-- A new value for an attribute. -/
abbrev PortRequest := FieldWrite PortAttribute.Value

/-- The value that the message has for an attribute, if it is to be changed. -/
def CofmsgPortMod.requested (msg : CofmsgPortMod) : ∀ a : PortAttribute, Option a.Value
  | .dropReceived => if hasBit msg.mask OFPPC_NO_RECV then
      some (hasBit msg.config OFPPC_NO_RECV) else none
  | .forwardPackets => if hasBit msg.mask OFPPC_NO_FWD then
      some (!hasBit msg.config OFPPC_NO_FWD) else none
  | .ofGeneratePacketIn => if hasBit msg.mask OFPPC_NO_PACKET_IN then
      some (!hasBit msg.config OFPPC_NO_PACKET_IN) else none
  | .advertised => if msg.advertise != 0 then some msg.advertise else none
  | .up => if hasBit msg.mask OFPPC_PORT_DOWN then
      some (!hasBit msg.config OFPPC_PORT_DOWN) else none

/-- What the message asks for. -/
def CofmsgPortMod.requests (msg : CofmsgPortMod) : List PortRequest :=
  FieldWrite.ofNew msg.requested PortAttribute.all

/-! ## The driver -/

/-- What stays as it is while a port-mod is handled. -/
structure Datapath where
  maxLogPorts : ℕ
  pipeline : PhysicalSwitch
  /-- `sw->dpid` -/
  dpid : Dpid
  /-- `physical_switch_get_port_by_num`, for `dpid` -/
  getPortByNum : BitVec 32 → Option String
  /-- the setters of the `ioport`, and `iomanager::bring_port_up` and `bring_port_down` -/
  outcomes : WriteOutcomes PortAttribute.Value

/-- The attributes of the ports, and the ports whose status has been notified. -/
structure PortStates where
  config : String → PortConfig
  notified : List String

/-- What is raised.  The last two stand for undefined behaviour. -/
inductive PortModError
  | ePortModBadPort
  | ePortModBase
  | outOfBounds
  | nullPointer
  deriving DecidableEq, Repr

/-- The error is sent to the controller. -/
def PortModError.IsException (e : PortModError) : Prop := e ≠ .outOfBounds ∧ e ≠ .nullPointer

/-- A function of the driver or of the endpoint. -/
abbrev Call (α : Type) := Program PortModError PortStates α

section Calls

variable {R : Unit → PortStates → Prop} {E : PortModError → PortStates → Prop} {s : PortStates}

/-- A call that is made if the message asks for it, and has to give `HAL_SUCCESS`. -/
def callIf (c : Bool) (call : Call Bool) : Call Unit :=
  if c then do
    let success ← call
    if success then pure () else throw .ePortModBase
  else pure ()

lemma wp_callIf (c : Bool) (call : Call Bool) :
    wp (callIf c call) R E s ↔
      (c = true → wp call (fun success s' => (success = true → R () s') ∧
        (¬ success = true → E .ePortModBase s')) E s) ∧ (¬ c = true → R () s) := by
  have hrest : (fun success => wp (if success = true then pure () else throw .ePortModBase) R E) =
      fun success s' => (success = true → R () s') ∧ (¬ success = true → E .ePortModBase s') := by
    funext success s'
    rw [wp_ite, wp_pure, wp_throw]
  rw [callIf, wp_ite, wp_bind, wp_pure, hrest]

end Calls

namespace Datapath

variable (d : Datapath)

/-- The number is that of a port which is attached to the switch. -/
def Attached (num : BitVec 32) (name : String) : Prop := d.pipeline.Has d.dpid num.toNat name

/-- What the driver can expect of the pipeline library. -/
structure Documented : Prop where
  consistent : d.pipeline.Consistent d.maxLogPorts
  getPortByNum : ∀ num name, d.getPortByNum num = some name ↔ d.Attached num name

/-- The port may get the value. -/
def attempt (name : String) (w : PortRequest) (s : PortStates) : PortStates :=
  if d.outcomes.takes w then
    { s with config := Function.update s.config name (w.put (s.config name)) }
  else s

/-- A setter of the `ioport`, or the manager of the groups: whether it gives `ROFL_SUCCESS`. -/
def set (name : String) (w : PortRequest) : Call Bool := do
  update (d.attempt name w)
  return d.outcomes.succeeds w

/-- A `hal_driver_of1x_set_port_…_config`. -/
def setPortConfig (num : BitVec 32) (w : PortRequest) : Call Bool :=
  match d.getPortByNum num with
  | none => pure false
  | some name => d.set name w

/-- `hal_driver_of1x_set_port_drop_received_config` -/
def setPortDropReceivedConfig (num : BitVec 32) (dropReceived : Bool) : Call Bool :=
  d.setPortConfig num ⟨.dropReceived, dropReceived⟩

/-- `hal_driver_of1x_set_port_forward_config` -/
def setPortForwardConfig (num : BitVec 32) (forward : Bool) : Call Bool :=
  d.setPortConfig num ⟨.forwardPackets, forward⟩

/-- `hal_driver_of1x_set_port_generate_packet_in_config` -/
def setPortGeneratePacketInConfig (num : BitVec 32) (generatePacketIn : Bool) : Call Bool :=
  d.setPortConfig num ⟨.ofGeneratePacketIn, generatePacketIn⟩

/-- `hal_driver_of1x_set_port_advertise_config` -/
def setPortAdvertiseConfig (num : BitVec 32) (advertise : BitVec 32) : Call Bool :=
  d.setPortConfig num ⟨.advertised, advertise⟩

/-- What the two functions do with a port that they have found; `bg` notifies for the ports that are
not virtual. -/
def bringPort (name : String) (port : SwitchPort) (up : Bool) : Call Bool := do
  let success ← d.set name ⟨.up, up⟩
  update fun s =>
    if success = true ∧ port.type = .virtual then { s with notified := s.notified ++ [name] } else s
  return success

/-- `hal_driver_bring_port_up_by_num`, or `_down_by_num`.  The table has `maxLogPorts` slots. -/
def bringPortByNum (num : BitVec 32) (up : Bool) : Call Bool :=
  match d.pipeline.logicalSwitches d.dpid with
  | none => pure false
  | some slots =>
      if d.maxLogPorts ≤ num.toNat then throw .outOfBounds
      else
        match slots num.toNat with
        | none => pure false
        | some name =>
            match d.pipeline.ports name with
            | none => throw .nullPointer
            | some port =>
                match port.attachedSw with
                | none => throw .nullPointer
                | some dpid => if dpid ≠ d.dpid then pure false else d.bringPort name port up

/-- `hal_driver_bring_port_up_by_num` -/
def bringPortUpByNum (num : BitVec 32) : Call Bool := d.bringPortByNum num true

/-- `hal_driver_bring_port_down_by_num` -/
def bringPortDownByNum (num : BitVec 32) : Call Bool := d.bringPortByNum num false

/-- `of12_endpoint::handle_port_mod` -/
def handlePortMod (msg : CofmsgPortMod) : Call Unit :=
  if msg.portNo = OFPP_ALL then throw .ePortModBadPort
  else do
    callIf (hasBit msg.mask OFPPC_NO_RECV)
      (d.setPortDropReceivedConfig msg.portNo (hasBit msg.config OFPPC_NO_RECV))
    callIf (hasBit msg.mask OFPPC_NO_FWD)
      (d.setPortForwardConfig msg.portNo (!hasBit msg.config OFPPC_NO_FWD))
    callIf (hasBit msg.mask OFPPC_NO_PACKET_IN)
      (d.setPortGeneratePacketInConfig msg.portNo (!hasBit msg.config OFPPC_NO_PACKET_IN))
    callIf (msg.advertise != 0)
      (d.setPortAdvertiseConfig msg.portNo msg.advertise)
    callIf (hasBit msg.mask OFPPC_PORT_DOWN)
      (if hasBit msg.config OFPPC_PORT_DOWN then d.bringPortDownByNum msg.portNo
        else d.bringPortUpByNum msg.portNo)

/-! ## The purpose -/

/-- A port-mod is handled: no slot outside the table and no port that is not there is looked at; an
exception leaves all ports as they are; and otherwise one port has the number, and gets the values
that the message has for its attributes. -/
def Handles (msg : CofmsgPortMod) (s : PortStates) : Prop :=
  wp (d.handlePortMod msg)
    (fun _ s' => ∃ name, d.Attached msg.portNo name ∧
      s'.config = Function.update s.config name
        (fun a => (msg.requested a).getD (s.config name a)))
    (fun e s' => e.IsException ∧ s'.config = s.config) s

/-- The message can be handled: its number is that of all ports; it is that of no port, and the
message asks for something that is refused then; or it is that of a port, and either each attribute
that is to be changed gets its value, or has it, or the driver refuses one, and no attribute up to
that one changes. -/
def CanHandle (msg : CofmsgPortMod) (s : PortStates) : Prop :=
  msg.portNo = OFPP_ALL ∨
    (∀ name, ¬ d.Attached msg.portNo name) ∧
      ((∃ a, a ≠ .up ∧ msg.requested a ≠ none) ∨
        msg.requested .up ≠ none ∧
          (d.pipeline.logicalSwitches d.dpid = none ∨ msg.portNo.toNat < d.maxLogPorts)) ∨
    ∃ name, d.Attached msg.portNo name ∧
      ((∀ w ∈ msg.requests, d.outcomes.succeeds w = true ∧
          (d.outcomes.takes w = true ∨ w.Done (s.config name))) ∨
        ∃ pre w post, msg.requests = pre ++ w :: post ∧
          (∀ w' ∈ pre, d.outcomes.succeeds w' = true) ∧ d.outcomes.succeeds w = false ∧
          ∀ w' ∈ pre ++ [w], d.outcomes.takes w' = true → w'.Done (s.config name))

/-! ## One call after the other -/

/-- The call for a value. -/
def callOf (num : BitVec 32) : PortRequest → Call Bool
  | ⟨.up, up⟩ => d.bringPortByNum num up
  | w => d.setPortConfig num w

/-- The calls for some values, up to the first that fails. -/
def callAll (num : BitVec 32) : List PortRequest → Call Unit
  | [] => pure ()
  | w :: ws => do
      callIf true (d.callOf num w)
      callAll num ws

variable {d}
variable {msg : CofmsgPortMod} {s : PortStates} {num : BitVec 32} {name : String}
variable {w : PortRequest} {ws : List PortRequest}

/-- A call that the message may ask for is one for the values that it has. -/
lemma callIf_callOf {a : PortAttribute} (c : Bool) (v : a.Value) :
    (do
      callIf c (d.callOf num ⟨a, v⟩)
      d.callAll num ws) =
      d.callAll num (((if c = true then some v else none).map (FieldWrite.mk a)).toList ++ ws) := by
  cases c with
  | false => rfl
  | true => rfl

lemma handlePortMod_eq :
    d.handlePortMod msg = if msg.portNo = OFPP_ALL then throw .ePortModBadPort
      else d.callAll msg.portNo msg.requests := by
  have hup : (if hasBit msg.config OFPPC_PORT_DOWN then d.bringPortDownByNum msg.portNo
      else d.bringPortUpByNum msg.portNo) =
        d.callOf msg.portNo ⟨.up, !hasBit msg.config OFPPC_PORT_DOWN⟩ := by
    cases hasBit msg.config OFPPC_PORT_DOWN <;> rfl
  rw [handlePortMod, hup]
  refine if_congr Iff.rfl rfl ?_
  -- one attribute after the other, in the order of the list
  refine Eq.trans ?_ (callIf_callOf _ _)
  refine bind_congr fun _ => Eq.trans ?_ (callIf_callOf _ _)
  refine bind_congr fun _ => Eq.trans ?_ (callIf_callOf _ _)
  refine bind_congr fun _ => Eq.trans ?_ (callIf_callOf _ _)
  refine bind_congr fun _ => Eq.trans ?_ (callIf_callOf _ _)
  exact bind_pure_unit.symm

/-! ## A number that is that of a port -/

lemma Attached.eq (h : d.Attached num name) {name' : String} (h' : d.Attached num name') :
    name' = name := by
  obtain ⟨slots, hslots, hslot⟩ := h
  rw [Attached, PhysicalSwitch.has_of_slots hslots, hslot] at h'
  exact (Option.some.inj h').symm

lemma config_attempt :
    (d.attempt name w s).config = Function.update s.config name
      (if d.outcomes.takes w = true then w.put (s.config name) else s.config name) := by
  rw [attempt]
  split
  · rfl
  · rw [Function.update_eq_self]

/-- The value is passed to the port, for which there may be a notification. -/
lemma wp_callOf (hd : d.Documented) (h : d.Attached num name) (w : PortRequest) (s : PortStates) :
    ∃ notified, ∀ R E, wp (d.callOf num w) R E s ↔
      R (d.outcomes.succeeds w) ⟨(d.attempt name w s).config, notified⟩ := by
  have hset : ∃ notified, ∀ R E, wp (d.setPortConfig num w) R E s ↔
      R (d.outcomes.succeeds w) ⟨(d.attempt name w s).config, notified⟩ := by
    rw [setPortConfig, (hd.getPortByNum num name).2 h]
    exact ⟨(d.attempt name w s).notified, fun R E => Iff.rfl⟩
  obtain ⟨a, v⟩ := w
  cases a with
  | up =>
      obtain ⟨port, hport, hsw⟩ := (hd.consistent.pointsTo_iff name d.dpid).2 ⟨num.toNat, h⟩
      have hbounds := (hd.consistent.bounds h).2
      obtain ⟨slots, hslots, hslot⟩ := h
      simp only [callOf, bringPortByNum, hslots, hslot, hport, hsw, if_neg hbounds.not_ge]
      simp only [bringPort, set, ne_eq, not_true_eq_false, if_false, bind_assoc, wp_bind,
        wp_update, wp_pure]
      split
      · exact ⟨_, fun R E => Iff.rfl⟩
      · exact ⟨_, fun R E => Iff.rfl⟩
  | _ => exact hset

/-- The attributes of the port are those after the writes. -/
lemma wp_callAll (hd : d.Documented) (h : d.Attached num name) (ws : List PortRequest)
    (s : PortStates) :
    ∃ notified, ∀ R E, wp (d.callAll num ws) R E s ↔
      ((FieldWrite.attempt d.outcomes ws (s.config name)).1 = true → R ()
        ⟨Function.update s.config name (FieldWrite.attempt d.outcomes ws (s.config name)).2,
          notified⟩) ∧
      (¬ (FieldWrite.attempt d.outcomes ws (s.config name)).1 = true → E .ePortModBase
        ⟨Function.update s.config name (FieldWrite.attempt d.outcomes ws (s.config name)).2,
          notified⟩) := by
  induction ws generalizing s with
  | nil =>
      refine ⟨s.notified, fun R E => ?_⟩
      simp [callAll, FieldWrite.attempt]
  | cons w ws ih =>
      obtain ⟨notified, hw⟩ := wp_callOf hd h w s
      simp only [config_attempt] at hw
      obtain ⟨notified', hws⟩ := ih ⟨Function.update s.config name
        (if d.outcomes.takes w = true then w.put (s.config name) else s.config name), notified⟩
      by_cases hsucceeds : d.outcomes.succeeds w = true
      · refine ⟨notified', fun R E => ?_⟩
        simp [callAll, wp_callIf, hw, hws, hsucceeds, FieldWrite.attempt]
      · refine ⟨notified, fun R E => ?_⟩
        simp [callAll, wp_callIf, hw, hsucceeds, FieldWrite.attempt]

lemma handles_of_attached (hd : d.Documented) (hall : msg.portNo ≠ OFPP_ALL)
    (h : d.Attached msg.portNo name) :
    d.Handles msg s ↔ FieldWrite.AllOrNothing d.outcomes msg.requests (s.config name) := by
  have hputAll : FieldWrite.putAll msg.requests (s.config name) =
      fun a => (msg.requested a).getD (s.config name a) := by
    rw [CofmsgPortMod.requests, FieldWrite.putAll_ofNew msg.requested PortAttribute.nodup_all]
    funext a
    rw [if_pos (PortAttribute.mem_all a)]
  obtain ⟨notified, hwp⟩ := wp_callAll hd h msg.requests s
  rw [Handles, handlePortMod_eq, if_neg hall, hwp, FieldWrite.AllOrNothing, hputAll]
  cases hok : (FieldWrite.attempt d.outcomes msg.requests (s.config name)).1 with
  | true =>
      simp only [not_true_eq_false, false_implies, and_true, true_implies, if_true]
      constructor
      · rintro ⟨name', hname', hconfig⟩
        rw [h.eq hname'] at hconfig
        exact Function.update_injective _ _ hconfig
      · intro hconfig
        exact ⟨name, h, congrArg _ hconfig⟩
  | false =>
      simp only [Bool.false_eq_true, not_false_eq_true, false_implies, true_and, true_implies,
        if_false, Function.update_eq_self_iff]
      exact and_iff_right ⟨by decide, by decide⟩

/-! ## A number that is that of no port -/

lemma wp_setPortConfig_of_unattached (hd : d.Documented) (h : ∀ name, ¬ d.Attached num name)
    (w : PortRequest) (R : Bool → PortStates → Prop) (E : PortModError → PortStates → Prop) :
    wp (d.setPortConfig num w) R E s ↔ R false s := by
  have hnone : d.getPortByNum num = none := by
    refine Option.eq_none_iff_forall_not_mem.2 fun name hname => ?_
    exact h name ((hd.getPortByNum num name).1 hname)
  rw [setPortConfig, hnone]
  exact Iff.rfl

lemma wp_bringPortByNum_of_unattached (h : ∀ name, ¬ d.Attached num name) (up : Bool)
    (R : Bool → PortStates → Prop) (E : PortModError → PortStates → Prop) :
    wp (d.bringPortByNum num up) R E s ↔
      if d.pipeline.logicalSwitches d.dpid = none ∨ num.toNat < d.maxLogPorts then R false s
      else E .outOfBounds s := by
  rw [bringPortByNum]
  cases hslots : d.pipeline.logicalSwitches d.dpid with
  | none => simp
  | some slots =>
      have hslot : slots num.toNat = none :=
        Option.eq_none_iff_forall_not_mem.2 fun name hname => h name ⟨slots, hslots, hname⟩
      by_cases hnum : num.toNat < d.maxLogPorts
      · simp [hnum, hnum.not_ge, hslot]
      · simp [hnum, not_lt.1 hnum]

/-- Something that is refused has to be asked for. -/
lemma wp_callAll_of_unattached (hd : d.Documented) (h : ∀ name, ¬ d.Attached num name)
    {new : ∀ a : PortAttribute, Option a.Value} {as : List PortAttribute} (hup : .up ∉ as)
    {E : PortModError → PortStates → Prop} (hbase : E .ePortModBase s)
    (hbounds : ¬ E .outOfBounds s) :
    wp (d.callAll num (FieldWrite.ofNew new (as ++ [.up]))) (fun _ _ => False) E s ↔
      (∃ a ∈ as, new a ≠ none) ∨ new .up ≠ none ∧
        (d.pipeline.logicalSwitches d.dpid = none ∨ num.toNat < d.maxLogPorts) := by
  induction as with
  | nil =>
      rw [List.nil_append, FieldWrite.ofNew, List.flatMap_singleton]
      cases new .up with
      | none => simp [callAll]
      | some up =>
          simp [callAll, wp_callIf, callOf, wp_bringPortByNum_of_unattached h, hbase, hbounds]
  | cons a as ih =>
      rw [List.mem_cons, not_or] at hup
      have hcall : ∀ v, d.callOf num ⟨a, v⟩ = d.setPortConfig num ⟨a, v⟩ := by
        cases a with
        | up => exact absurd rfl hup.1
        | _ => exact fun v => rfl
      rw [List.cons_append, FieldWrite.ofNew, List.flatMap_cons, List.exists_mem_cons_iff]
      cases new a with
      | none =>
          show wp (d.callAll num (FieldWrite.ofNew new (as ++ [.up]))) _ E s ↔ _
          rw [ih hup.2]
          simp
      | some v =>
          show wp (d.callAll num (⟨a, v⟩ :: FieldWrite.ofNew new (as ++ [.up]))) _ E s ↔ _
          simp [callAll, wp_callIf, hcall, wp_setPortConfig_of_unattached hd h, hbase]

lemma handles_of_unattached (hd : d.Documented) (hall : msg.portNo ≠ OFPP_ALL)
    (h : ∀ name, ¬ d.Attached msg.portNo name) :
    d.Handles msg s ↔ (∃ a, a ≠ .up ∧ msg.requested a ≠ none) ∨ msg.requested .up ≠ none ∧
      (d.pipeline.logicalSwitches d.dpid = none ∨ msg.portNo.toNat < d.maxLogPorts) := by
  have hnone : ∀ config, ¬ ∃ name, d.Attached msg.portNo name ∧
      config = Function.update s.config name
        (fun a => (msg.requested a).getD (s.config name a)) := by
    rintro config ⟨name, hname, -⟩
    exact h name hname
  have hset : ∀ a, a ≠ .up ↔ a ∈ PortAttribute.all.dropLast := by
    intro a
    cases a <;> decide
  have hbase : PortModError.ePortModBase.IsException ∧ s.config = s.config :=
    ⟨⟨by decide, by decide⟩, rfl⟩
  simp only [Handles, handlePortMod_eq, if_neg hall, hnone, hset]
  exact @wp_callAll_of_unattached d s msg.portNo hd h msg.requested PortAttribute.all.dropLast
    (by decide) (fun e s' => e.IsException ∧ s'.config = s.config) hbase fun h => h.1.1 rfl

/-- **Port-mods.** -/
theorem handles_iff (hd : d.Documented) : d.Handles msg s ↔ d.CanHandle msg s := by
  rw [CanHandle]
  by_cases hall : msg.portNo = OFPP_ALL
  · have hthrow : d.Handles msg s := by
      rw [Handles, handlePortMod_eq, if_pos hall, wp_throw]
      exact ⟨⟨by decide, by decide⟩, rfl⟩
    exact iff_of_true hthrow (.inl hall)
  · by_cases h : ∃ name, d.Attached msg.portNo name
    · obtain ⟨name, hname⟩ := h
      rw [handles_of_attached hd hall hname, CofmsgPortMod.requests,
        FieldWrite.allOrNothing_iff_outcomes (FieldWrite.nodup_ofNew _ PortAttribute.nodup_all)]
      constructor
      · exact fun h => .inr (.inr ⟨name, hname, h⟩)
      · rintro (h | ⟨h, -⟩ | ⟨name', hname', h⟩)
        · exact absurd h hall
        · exact absurd hname (h name)
        · rwa [hname.eq hname'] at h
    · have hnone := not_exists.1 h
      rw [handles_of_unattached hd hall hnone]
      constructor
      · exact fun h' => .inr (.inl ⟨hnone, h'⟩)
      · rintro (h' | ⟨-, h'⟩ | ⟨name, hname, -⟩)
        · exact absurd h' hall
        · exact h'
        · exact absurd hname (hnone name)

end Datapath

/-! ## A switch with one port -/

/-- A port that is attached as number 1, where all calls succeed and take effect. -/
def onePort : Datapath where
  maxLogPorts := 8
  pipeline :=
    { ports := fun name => if name = "ge0" then some ⟨.physical, some 1, 0⟩ else none
      logicalSwitches := fun dpid =>
        if dpid = 1 then some fun num => if num = 1 then some "ge0" else none else none }
  dpid := 1
  getPortByNum num := if num = 1 then some "ge0" else none
  outcomes := ⟨fun _ => true, fun _ => true⟩

/-- All ports are up, and nothing else is set. -/
def portsUp : PortStates where
  config _
    | .dropReceived | .forwardPackets | .ofGeneratePacketIn => false
    | .advertised => 0
    | .up => true
  notified := []

lemma has_onePort {dpid : Dpid} {num : ℕ} {name : String} :
    onePort.pipeline.Has dpid num name ↔ dpid = 1 ∧ num = 1 ∧ name = "ge0" := by
  simp only [PhysicalSwitch.Has, onePort]
  constructor
  · rintro ⟨slots, hslots, hslot⟩
    split_ifs at hslots with hdpid
    rw [← Option.some.inj hslots] at hslot
    simp only [Option.ite_none_right_eq_some] at hslot
    exact ⟨hdpid, hslot.1, (Option.some.inj hslot.2).symm⟩
  · rintro ⟨rfl, rfl, rfl⟩
    exact ⟨_, rfl, rfl⟩

lemma attached_onePort {num : BitVec 32} {name : String} :
    onePort.Attached num name ↔ num = 1 ∧ name = "ge0" := by
  rw [Datapath.Attached, has_onePort]
  constructor
  · rintro ⟨-, hnum, hname⟩
    exact ⟨BitVec.eq_of_toNat_eq hnum, hname⟩
  · rintro ⟨rfl, rfl⟩
    exact ⟨rfl, rfl, rfl⟩

lemma documented_onePort : onePort.Documented where
  consistent :=
    { pointsTo_iff := by
        intro name dpid
        simp only [has_onePort, PhysicalSwitch.PointsTo]
        constructor
        · rintro ⟨port, hport, hsw⟩
          simp only [onePort] at hport
          split_ifs at hport with hname
          rw [← Option.some.inj hport] at hsw
          exact ⟨1, (Option.some.inj hsw).symm, rfl, hname⟩
        · rintro ⟨num, rfl, -, rfl⟩
          exact ⟨_, rfl, rfl⟩
      bounds := by
        intro dpid num name h
        obtain ⟨-, rfl, -⟩ := has_onePort.1 h
        decide }
  getPortByNum := by
    intro num name
    rw [attached_onePort]
    simp only [onePort]
    split_ifs with hnum
    · rw [Option.some.injEq]
      exact ⟨fun h => ⟨hnum, h.symm⟩, fun h => h.2.symm⟩
    · exact iff_of_false (by simp) fun h => hnum h.1

/-- Frames that come in on the port are to be dropped. -/
def dropReceived : CofmsgPortMod where
  config := OFPPC_NO_RECV
  mask := OFPPC_NO_RECV
  advertise := 0
  portNo := 1

theorem handles_dropReceived :
    onePort.CanHandle dropReceived portsUp ∧ onePort.Handles dropReceived portsUp := by
  have hcan : onePort.CanHandle dropReceived portsUp :=
    .inr (.inr ⟨"ge0", attached_onePort.2 ⟨rfl, rfl⟩, .inl fun _ _ => ⟨rfl, .inl rfl⟩⟩)
  exact ⟨hcan, (Datapath.handles_iff documented_onePort).2 hcan⟩

/-- The port of the local networking stack is to be brought down. -/
def localPortDown : CofmsgPortMod where
  config := OFPPC_PORT_DOWN
  mask := OFPPC_PORT_DOWN
  advertise := 0
  portNo := 0xfffffffe

/-- The number of the local port is taken as that of a slot. -/
theorem not_handles_localPortDown : ¬ ∀ d : Datapath, d.Documented →
    ∀ (msg : CofmsgPortMod) (s : PortStates), d.Handles msg s := by
  intro h
  have houtOfBounds : onePort.handlePortMod localPortDown portsUp =
      some (.error .outOfBounds, portsUp) := rfl
  have hhandles := h onePort documented_onePort localPortDown portsUp
  rw [Datapath.Handles, wp, houtOfBounds] at hhandles
  exact hhandles.1.1 rfl

end Xdpd.OpenFlow.PortMod
