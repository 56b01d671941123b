import Mathlib.Data.Finset.Basic
import Mathlib.Data.Finset.Insert
import Mathlib.Logic.Function.Basic
import Xdpd.Management.SwitchManager

/-!
# The port manager

`port_manager` attaches the ports of the driver to switches, keeps the blacklist, and keeps a cache
of the virtual links that it has made.  Most of what a call does is done in the critical section of
one mutex; the checks of `exists` and `is_blacklisted` in front of it are not.

A section is a function of what it finds, with what the driver answers as an argument.
-/

namespace Xdpd.Management.Ports

/-- How a port of a network function reaches it. -/
inductive NfPortType where
  | shmem
  | external
  deriving DecidableEq

/-- The type of a port of the driver. -/
inductive PortType where
  | physical
  | nf (type : NfPortType)
  /-- an end of a virtual link, with the name of the other end -/
  | virtual (pair : String)
  deriving DecidableEq

/-- A port of the driver. -/
structure SwitchPort where
  type : PortType
  attachedSw : Option Dpid
  deriving DecidableEq

/-- The members of `port_manager`, and the ports of the driver. -/
structure PortManager where
  /-- a call has thrown without unlocking the mutex -/
  locked : Bool
  blacklisted : Finset String
  vlinks : String → Option String
  ports : String → Option SwitchPort

/-- What a call gives. -/
inductive Return where
  | done
  | ePmInvalidPort
  | ePmInvalidPortNumber
  | ePmUnknownError
  | ePmPortNotAttachedError
  | ePmBlacklistedPort
  | eOfSmDoesNotExist
  deriving DecidableEq

/-- The port manager at the start, with the ports that the driver has found. -/
def PortManager.init (ports : String → Option SwitchPort) : PortManager where
  locked := false
  blacklisted := ∅
  vlinks _ := none
  ports := ports

/-- The port is attached to a switch. -/
def PortManager.Attached (s : PortManager) (name : String) : Prop :=
  ∃ port ∈ s.ports name, port.attachedSw ≠ none

instance (s : PortManager) (name : String) : Decidable (s.Attached name) :=
  inferInstanceAs (Decidable (∃ port ∈ s.ports name, port.attachedSw ≠ none))

/-- The port with another attachment. -/
def PortManager.setAttached (s : PortManager) (name : String) (port : SwitchPort)
    (sw : Option Dpid) : PortManager :=
  { s with ports := Function.update s.ports name (some { port with attachedSw := sw }) }

/-! ## Sections -/

/-- The section of `blacklist`. -/
def blacklistSection (s : PortManager) (name : String) : Return × PortManager :=
  match s.ports name with
  -- `is_attached` throws, and the mutex stays locked
  | none => (.ePmUnknownError, { s with locked := true })
  | some port =>
      if port.attachedSw ≠ none then (.ePmInvalidPort, { s with locked := true })
      else (.done, { s with blacklisted := insert name s.blacklisted })

/-- The section of `whitelist`. -/
def whitelistSection (s : PortManager) (name : String) : Return × PortManager :=
  (.done, { s with blacklisted := s.blacklisted.erase name })

/-- What `hal_driver_attach_port_to_switch` comes to. -/
inductive AttachResult where
  | success
  | failure
  /-- the port is attached, but the I/O manager does not take it -/
  | failureOfIomanager
  deriving DecidableEq

/-- The section of `attach_port_to_switch`.  `switchExists` is what `switch_manager::exists`
gives. -/
def attachSection (s : PortManager) (dpid : Dpid) (name : String) (switchExists : Bool)
    (result : AttachResult) : Return × PortManager :=
  match s.ports name with
  | none => (.ePmInvalidPort, s)
  | some port =>
      if !switchExists then (.eOfSmDoesNotExist, s)
      else
        match result with
        | .success => (.done, s.setAttached name port (some dpid))
        | .failure => (.ePmUnknownError, s)
        | .failureOfIomanager => (.ePmUnknownError, s.setAttached name port (some dpid))

/-- `is_vlink`. -/
def isVlink (s : PortManager) (name : String) : Bool := (s.vlinks name).isSome

/-- `hal_cmm_notify_port_delete` and `__notify_port_deleted`, which both look into the blacklist. -/
def notifyPortDelete (s : PortManager) (name : String) : PortManager :=
  if name ∈ s.blacklisted then s
  else if isVlink s name then { s with vlinks := Function.update s.vlinks name none }
  else s

/-- What `hal_driver_detach_port_from_switch` comes to, as far as the port itself is concerned. -/
inductive DetachResult where
  | success
  | failure
  /-- a port of a link is detached, but its pair cannot be -/
  | failureOfPair
  deriving DecidableEq

/-- The driver takes a port away. -/
def PortManager.removePort (s : PortManager) (name : String) : PortManager :=
  { s with ports := Function.update s.ports name none }

/-- The driver deletes both ends of a virtual link, with a notification for each. -/
def deleteLink (s : PortManager) (name pair : String) : PortManager :=
  notifyPortDelete (((notifyPortDelete s pair).removePort name).removePort pair) name

/-- `hal_driver_detach_port_from_switch` for a port that is attached. -/
def halDetach (s : PortManager) (name : String) (port : SwitchPort) (result : DetachResult) :
    Return × PortManager :=
  match result with
  | .failure => (.ePmUnknownError, s)
  | .failureOfPair => (.ePmUnknownError, s.setAttached name port none)
  | .success =>
      match port.type with
      | .physical => (.done, s.setAttached name port none)
      | .nf _ => (.done, s.setAttached name port none)
      | .virtual pair =>
          match (s.setAttached name port none).ports pair with
          | none => (.ePmUnknownError, s.setAttached name port none)
          | some portPair =>
              if portPair.attachedSw = none then (.ePmUnknownError, s.setAttached name port none)
              else (.done, deleteLink (s.setAttached name port none) name pair)

/-- The section of `detach_port_from_switch`. -/
def detachSection (s : PortManager) (dpid : Dpid) (name : String) (result : DetachResult) :
    Return × PortManager :=
  match s.ports name with
  | none => (.ePmInvalidPort, s)
  | some port =>
      -- the snapshot of a port that is not attached has the dpid `0x0`
      if port.attachedSw.getD 0 ≠ dpid then (.ePmPortNotAttachedError, s)
      else if port.attachedSw = none then (.ePmUnknownError, s)
      else halDetach s name port result

/-- `add_vlink`.  It throws if the cache already has one of the names. -/
def addVlink (vlinks : String → Option String) (port1 port2 : String) :
    Option (String → Option String) :=
  if vlinks port1 ≠ none ∨ vlinks port2 ≠ none then none
  else some (Function.update (Function.update vlinks port1 (some port2)) port2 (some port1))

/-- What `hal_driver_connect_switches` comes to. -/
inductive ConnectResult where
  | success
  | failure
  /-- the pair was created, and the ports attached as told, before the driver failed -/
  | failureAfterCreation (sw1 sw2 : Option Dpid)
  deriving DecidableEq

/-- The driver creates a pair of ports. -/
def PortManager.createPair (s : PortManager) (name1 name2 : String) (sw1 sw2 : Option Dpid) :
    PortManager :=
  { s with
    ports := Function.update (Function.update s.ports name1 (some ⟨.virtual name2, sw1⟩)) name2
      (some ⟨.virtual name1, sw2⟩) }

/-- The section of `connect_switches`, where the driver names the new ports `name1` and `name2`. -/
def connectSection (s : PortManager) (dpid1 dpid2 : Dpid) (switchesExist : Bool)
    (name1 name2 : String) (result : ConnectResult) : Return × PortManager :=
  if !switchesExist then (.eOfSmDoesNotExist, s)
  else
    match result with
    | .failure => (.ePmUnknownError, s)
    | .failureAfterCreation sw1 sw2 => (.ePmUnknownError, s.createPair name1 name2 sw1 sw2)
    | .success =>
        let s := s.createPair name1 name2 (some dpid1) (some dpid2)
        match addVlink s.vlinks name1 name2 with
        | none => (.ePmUnknownError, s)
        | some vlinks => (.done, { s with vlinks := vlinks })

/-! ## What the sections do to the ports -/

section Ports

variable {s : PortManager} {name other : String} {port : SwitchPort}

/-- Attaching or detaching a port changes nothing for the others. -/
lemma attached_setAttached_of_ne {sw : Option Dpid} (hne : other ≠ name) :
    (s.setAttached name port sw).Attached other ↔ s.Attached other := by
  unfold PortManager.Attached PortManager.setAttached
  simp only [Function.update_of_ne hne]

lemma attached_of_setAttached_none (h : (s.setAttached name port none).Attached other) :
    s.Attached other := by
  by_cases hne : other = name
  · obtain ⟨port', hport', hattached⟩ := h
    simp only [PortManager.setAttached, hne, Function.update_self] at hport'
    obtain rfl := Option.some.inj hport'
    exact absurd rfl hattached
  · exact (attached_setAttached_of_ne hne).mp h

lemma attached_of_removePort (h : (s.removePort name).Attached other) : s.Attached other := by
  obtain ⟨port', hport', hattached⟩ := h
  by_cases hne : other = name
  · simp only [PortManager.removePort, hne, Function.update_self] at hport'
    exact absurd hport' nofun
  · simp only [PortManager.removePort, Function.update_of_ne hne] at hport'
    exact ⟨port', hport', hattached⟩

/-- A notification only concerns the cache of links. -/
lemma notifyPortDelete_eq (s : PortManager) (name : String) :
    (notifyPortDelete s name).ports = s.ports ∧
      (notifyPortDelete s name).blacklisted = s.blacklisted ∧
      (notifyPortDelete s name).locked = s.locked := by
  rw [notifyPortDelete]
  split
  · exact ⟨rfl, rfl, rfl⟩
  · split <;> exact ⟨rfl, rfl, rfl⟩

lemma attached_notifyPortDelete :
    (notifyPortDelete s name).Attached other ↔ s.Attached other := by
  rw [PortManager.Attached, (notifyPortDelete_eq s name).1, PortManager.Attached]

lemma attached_of_deleteLink {pair : String} (h : (deleteLink s name pair).Attached other) :
    s.Attached other := by
  have hremoved := attached_notifyPortDelete.mp h
  exact attached_notifyPortDelete.mp (attached_of_removePort (attached_of_removePort hremoved))

lemma blacklisted_deleteLink (s : PortManager) (name pair : String) :
    (deleteLink s name pair).blacklisted = s.blacklisted :=
  (notifyPortDelete_eq _ name).2.1.trans (notifyPortDelete_eq s pair).2.1

/-- The driver does nothing, or detaches the port, or deletes its link. -/
lemma halDetach_cases (s : PortManager) (name : String) (port : SwitchPort)
    (result : DetachResult) :
    (halDetach s name port result).2 = s ∨
      (halDetach s name port result).2 = s.setAttached name port none ∨
      ∃ pair, result = .success ∧ port.type = .virtual pair ∧ s.Attached pair ∧
        (halDetach s name port result).2 = deleteLink (s.setAttached name port none) name pair := by
  cases result with
  | failure => exact .inl rfl
  | failureOfPair => exact .inr (.inl rfl)
  | success =>
      unfold halDetach
      dsimp only
      split
      · exact .inr (.inl rfl)
      · exact .inr (.inl rfl)
      · next pair htype =>
        split
        · exact .inr (.inl rfl)
        · next portPair hpair =>
          split
          · exact .inr (.inl rfl)
          · next hattached =>
            have hpair : s.Attached pair :=
              attached_of_setAttached_none ⟨portPair, hpair, hattached⟩
            exact .inr (.inr ⟨pair, rfl, htype, hpair, rfl⟩)

end Ports

end Xdpd.Management.Ports
