import Mathlib.Logic.Function.Basic
import Mathlib.Tactic.Common
import Xdpd.OpenFlow.Pipeline

/-!
# Flow entries of the Freescale switch

An entry of the pipeline that looks at layer two only is put into the chip: into its table of MAC
addresses, if it is for one destination address, and else as an entry of its access control list.

The library of the chip is not part of the driver.  `Chip` has what the driver calls, and what it
relies on.  The fields of an entry on the stack have no value before one is written.
-/

namespace Xdpd.Fscale

open Xdpd.OpenFlow (VlanPresent)

/-! ## Entries of the pipeline -/

/-- A value of which the bits count that are ones in the mask. -/
structure Tern (w : ℕ) where
  value : BitVec w
  mask : BitVec w
  deriving DecidableEq, Repr

/-- The types of match that the driver knows. -/
inductive MatchType
  | inPort | inPhyPort | ethDst | ethSrc | ethType | vlanVid
  | other
  deriving DecidableEq, Repr

/-- A match of an entry. -/
structure Match where
  type : MatchType
  value16 : BitVec 16 := 0
  value32 : BitVec 32 := 0
  /-- `__tern`, for an address -/
  tern : Tern 48 := ⟨0, 0⟩
  hasWildcard : Bool := false
  /-- not read for the entries that are made -/
  mask16 : BitVec 16 := 0xFFF
  vlanPresent : VlanPresent := .specific
  deriving DecidableEq, Repr

/-- The types of action that the driver knows. -/
inductive ActionType
  | noAction | output
  | other
  deriving DecidableEq, Repr

structure Action where
  type : ActionType
  field32 : BitVec 32 := 0
  deriving DecidableEq, Repr

/-- `of1x_flow_entry_t`, as far as the driver reads it. -/
structure FlowEntry where
  matchs : List Match
  /-- the group of the apply-actions, if there is one -/
  applyActions : Option (List Action)
  deriving DecidableEq, Repr

/-- The bits of `match_bm`. -/
def FlowEntry.matchBm (e : FlowEntry) : List MatchType := e.matchs.map fun m => m.type

/-- The bits of `wildcard_bm`. -/
def FlowEntry.wildcardBm (e : FlowEntry) : List MatchType :=
  (e.matchs.filter fun m => m.hasWildcard).map fun m => m.type

/-- `actions_are_only_l2` -/
def actionsAreOnlyL2 (actions : List Action) : Bool :=
  (actions.all fun a => a.type = .output ∨ a.type = .noAction) &&
    actions.any fun a => a.type = .output ∨ a.type = .noAction

/-- `is_l2_entry`.  The pointer to the apply-actions is followed without a check: where an entry has
none, the source dereferences `NULL`, and here the entry is refused. -/
def FlowEntry.isL2Entry (e : FlowEntry) : Bool :=
  e.matchBm.all (· ≠ .other) && e.wildcardBm.all (· ≠ .other) &&
    e.applyActions.any actionsAreOnlyL2

/-- `is_entry_for_mac_table` -/
def FlowEntry.isEntryForMacTable (e : FlowEntry) : Bool :=
  (e.matchBm.all fun t => t = .ethSrc ∨ t = .ethDst ∨ t = .vlanVid) && e.wildcardBm.isEmpty &&
    e.applyActions.any actionsAreOnlyL2 && e.matchBm.contains .ethDst

/-! ## Entries of the chip -/

/-- `vtss_ace_type_t`, the two that are used -/
inductive AceType
  | any | etype
  deriving DecidableEq, Repr

/-- `vtss_acl_port_action_t` -/
inductive PortAction
  | none | filter | redir
  deriving DecidableEq, Repr

/-- `vtss_acl_action_t` -/
structure AceAction where
  learn : Option Bool
  cpu : Option Bool
  cpuOnce : Option Bool
  portAction : Option PortAction
  portList : ℕ → Option Bool

/-- `vtss_ace_t`, with the addresses of `frame.etype` and the VLAN of `vlan.vid`. -/
structure Ace where
  id : Option (BitVec 32)
  type : Option AceType
  portList : BitVec 8 → Option Bool
  dmac : Option (Tern 48)
  smac : Option (Tern 48)
  vid : Option (Tern 16)
  action : AceAction

/-- The variable on the stack. -/
def Ace.uninit : Ace :=
  ⟨none, none, fun _ => none, none, none, none, ⟨none, none, none, none, fun _ => none⟩⟩

/-- All fields have been written. -/
structure AceAction.Initialised (action : AceAction) : Prop where
  learn : action.learn ≠ none
  cpu : action.cpu ≠ none
  cpuOnce : action.cpuOnce ≠ none
  portAction : action.portAction ≠ none
  portList : ∀ port, action.portList port ≠ none

/-- All fields have been written. -/
structure Ace.Initialised (ace : Ace) : Prop where
  id : ace.id ≠ none
  type : ace.type ≠ none
  portList : ∀ port, ace.portList port ≠ none
  dmac : ace.dmac ≠ none
  smac : ace.smac ≠ none
  vid : ace.vid ≠ none
  action : ace.action.Initialised

/-- `vtss_mac_table_entry_t`; it is cleared as a whole before it is filled. -/
structure MacEntry where
  vid : BitVec 16
  mac : BitVec 48
  locked : Bool
  copyToCpu : Bool
  destination : ℕ → Bool

/-- What is handed to the chip. -/
inductive Rule
  | mac (entry : MacEntry)
  | acl (ace : Ace)

/-- The library of the chip, and how the chip takes frames. -/
structure Chip where
  isValidPort : ℕ → Bool
  isInternalPort : ℕ → Bool
  /-- `VTSS_PORT_NO_START` -/
  portNoStart : ℕ
  /-- `VTSS_PORT_NO_END` -/
  portNoEnd : ℕ
  /-- `VTSS_ACE_ID_LAST` -/
  aceIdLast : BitVec 32
  /-- `vtss_ace_init`: an entry with the defaults for the type, which is for no port, any address
  and any VLAN -/
  aceInit : AceType → Ace
  aceInit_initialised : ∀ t, (aceInit t).Initialised
  aceInit_type : ∀ t, (aceInit t).type = some t
  aceInit_portList : ∀ t port, (aceInit t).portList port = some false
  aceInit_dmac : ∀ t, (aceInit t).dmac = some ⟨0, 0⟩
  aceInit_smac : ∀ t, (aceInit t).smac = some ⟨0, 0⟩
  aceInit_vid : ∀ t, (aceInit t).vid = some ⟨0, 0⟩
  /-- whether a frame with this Ethernet type is one for `VTSS_ACE_TYPE_ETYPE` -/
  isEtype : BitVec 16 → Bool
  /-- the VLAN that a frame with this tag is in, if it comes in at the port -/
  vid : BitVec 8 → Option (BitVec 12) → BitVec 16

variable (chip : Chip)

/-! ## Entries of the access control list -/

/-- The frames are not for the CPU, and nothing is learnt from them. -/
def Ace.notToCpu (ace : Ace) : Ace :=
  { ace with
    action := { ace.action with cpu := some false, cpuOnce := some false, learn := some false } }

/-- `port_no` -/
def Match.portNo (m : Match) : BitVec 8 := m.value32.setWidth 8

/-- The port is one that can be matched and sent to. -/
def Chip.usable (port : ℕ) : Bool := chip.isValidPort port && !chip.isInternalPort port

/-- What is done before a port is written. -/
def anyAce (ace : Ace) (type : Option MatchType) : Ace :=
  if type = none then (chip.aceInit .any).notToCpu else ace

/-- The port is one that is matched. -/
def Ace.addPort (ace : Ace) (port : BitVec 8) : Ace :=
  { ace with portList := Function.update ace.portList port (some true) }

/-- `add_or_update_match_in_port`; `type` is the one of the match before, if there is one. -/
def addOrUpdateMatchInPort (ace : Ace) (type : Option MatchType) (m : Match) : Option Ace :=
  if chip.usable m.portNo.toNat then some ((anyAce chip ace type).addPort m.portNo) else none

/-- What is done before an address is written: the first match is for all ports, and after a match
on a port only the ports are kept. -/
def etypeAce (ace : Ace) (type : Option MatchType) : Ace :=
  match type with
  | none => { (chip.aceInit .etype).notToCpu with portList := fun _ => some true }
  | some .inPort | some .inPhyPort => { chip.aceInit .etype with portList := ace.portList }
  | some _ => ace

/-- `add_or_update_eth_dst` -/
def addOrUpdateEthDst (ace : Ace) (type : Option MatchType) (m : Match) : Ace :=
  { etypeAce chip ace type with dmac := some m.tern }

/-- `add_or_update_eth_src` -/
def addOrUpdateEthSrc (ace : Ace) (type : Option MatchType) (m : Match) : Ace :=
  { etypeAce chip ace type with smac := some m.tern }

/-- One turn of the loop over the matches, with the type of the match before. -/
def aclMatchStep (s : Ace × Option MatchType) (m : Match) : Option (Ace × Option MatchType) :=
  match m.type with
  | .inPort | .inPhyPort => (addOrUpdateMatchInPort chip s.1 s.2 m).map (·, some m.type)
  | .ethDst => some (addOrUpdateEthDst chip s.1 s.2 m, some m.type)
  | .ethSrc => some (addOrUpdateEthSrc chip s.1 s.2 m, some m.type)
  | _ => some (s.1, some m.type)

/-- `vtss_l2sw_generate_acl_entry_matches` -/
def generateAclEntryMatches (aclId : BitVec 32) (ace : Ace) (matchs : List Match) : Option Ace :=
  if aclId = chip.aceIdLast then none
  else if matchs = [] then some { chip.aceInit .any with portList := fun _ => some true }
  else (matchs.foldlM (aclMatchStep chip) (ace, none)).map Prod.fst

def OF1X_PORT_IN_PORT : BitVec 32 := 0xfffffff8
def OF1X_PORT_NORMAL : BitVec 32 := 0xfffffffa
def OF1X_PORT_FLOOD : BitVec 32 := 0xfffffffb
def OF1X_PORT_ALL : BitVec 32 := 0xfffffffc
def OF1X_PORT_CONTROLLER : BitVec 32 := 0xfffffffd

/-- The port is cleared in the list, for the ports from the first one up to one that is not
valid. -/
def AceAction.clearPorts (action : AceAction) : AceAction :=
  let ports := (List.range' chip.portNoStart (chip.portNoEnd - chip.portNoStart)).takeWhile
    chip.isValidPort
  { action with
    portList := ports.foldl (fun portList port => Function.update portList port (some false))
      action.portList }

/-- One turn of the loop over the actions. -/
def AceAction.step (action : AceAction) (a : Action) : Option AceAction :=
  match a.type with
  | .output =>
      let port := (a.field32.setWidth 16).toNat
      if a.field32 = OF1X_PORT_CONTROLLER then
        some { action with learn := some false, cpu := some true }
      else if a.field32 = OF1X_PORT_FLOOD ∨ a.field32 = OF1X_PORT_NORMAL ∨
          a.field32 = OF1X_PORT_ALL ∨ a.field32 = OF1X_PORT_IN_PORT then none
      else if chip.usable port then
        some
          { action with
            learn := some false
            portAction := some .redir
            portList := Function.update action.portList port (some true) }
      -- only an assertion, and `NDEBUG` is defined
      else some action
  | _ => some action

/-- `vtss_l2sw_generate_acl_entry_actions` -/
def generateAclEntryActions (ace : Ace) (applyActions : Option (List Action)) : Option Ace :=
  match applyActions with
  | none => some ace
  | some [] => none
  | some actions =>
      (actions.foldlM (AceAction.step chip) (ace.action.clearPorts chip)).map fun action =>
        { ace with action }

/-- `vtss_l2sw_add_flow_entry`, up to the call of `vtss_ace_add` -/
def addFlowEntry (aclId : BitVec 32) (e : FlowEntry) : Option Ace := do
  let ace ← generateAclEntryMatches chip aclId .uninit e.matchs
  let ace ← generateAclEntryActions chip ace e.applyActions
  return { ace with id := some aclId }

/-! ## Entries of the table of addresses -/

/-- One turn of the loop over the matches. -/
def MacEntry.matchStep (entry : MacEntry) (m : Match) : Option MacEntry :=
  match m.type with
  | .ethDst => some { entry with mac := m.tern.value }
  | .ethSrc => some entry
  | .vlanVid => some { entry with vid := m.value16 }
  | _ => none

/-- One turn of the loop over the actions. -/
def MacEntry.actionStep (entry : MacEntry) (a : Action) : Option MacEntry :=
  match a.type with
  | .output =>
      let port := (a.field32.setWidth 16).toNat
      if a.field32 = OF1X_PORT_CONTROLLER then some { entry with copyToCpu := true }
      else if a.field32 = OF1X_PORT_ALL ∨ a.field32 = OF1X_PORT_FLOOD then
        some { entry with destination := fun _ => true }
      else if a.field32 = OF1X_PORT_NORMAL ∨ a.field32 = OF1X_PORT_IN_PORT then none
      else if chip.isValidPort port then
        some { entry with destination := Function.update entry.destination port true }
      else some entry
  | _ => none

/-- `vtss_l2sw_generate_mac_entry` -/
def generateMacEntry (e : FlowEntry) : Option MacEntry := do
  let entry ← e.matchs.foldlM MacEntry.matchStep ⟨1, 0, true, false, fun _ => false⟩
  match e.applyActions with
  | none | some [] => none
  | some actions => actions.foldlM (MacEntry.actionStep chip) entry

/-- `plaftorm_of1x_add_entry_hook`: what is put into the chip for the entry, if anything. -/
def addEntryHook (aclId : BitVec 32) (e : FlowEntry) : Option Rule :=
  if e.isL2Entry then
    if e.isEntryForMacTable then (generateMacEntry chip e).map .mac
    else (addFlowEntry chip aclId e).map .acl
  else none

end Xdpd.Fscale
