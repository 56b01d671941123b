import Mathlib.Data.Finset.Image
import Xdpd.Lib.Calls
import Xdpd.Management.PortManager

/-!
# The plugin of the node orchestrator

`MessageHandler` carries out the commands of a node orchestrator: it creates and destroys switches
(LSIs), attaches and detaches ports, and creates and destroys the ports of network functions and
virtual links.  Each command is a sequence of calls of `switch_manager`, `port_manager` and
`nf_port_manager`, any of which may throw; a handler answers with an error when one does.

A request holds the fields of the message and, for each call that it leads to, what the driver
answers.  The mutex of the port manager is taken to be free when a command begins: none of these
calls leaves it locked (`PortManager.locked` is for `blacklist`).
-/

namespace Xdpd.Management.NodeOrchestrator

open Xdpd.Lib Ports

/-! ## Resources -/

/-- What the commands are about. -/
structure Resources where
  /-- the switches, with their names -/
  switchs : Finset (Dpid × String)
  manager : PortManager
  /-- the names of the NF ports; an id that the table does not have reads as the empty list -/
  nfPortNames : Dpid → List String

/-- The plugin. -/
structure Node where
  resources : Resources
  nextDpid : Dpid

/-- `switch_manager::exists`. -/
def Resources.switchExists (s : Resources) (dpid : Dpid) : Bool := ∃ sw ∈ s.switchs, sw.1 = dpid

/-- No switches, and the ports that the driver has found. -/
def Node.init (ports : String → Option SwitchPort) : Node where
  resources := ⟨∅, .init ports, fun _ => []⟩
  nextDpid := 1

/-- What a section of the port manager comes to. -/
def Resources.leave (s : Resources) (p : Ports.Return × PortManager) : Option Unit × Resources :=
  (if p.1 = .done then none else some (), { s with manager := p.2 })

@[simp] lemma Resources.leave_fst_eq_none_iff {s : Resources} {p : Ports.Return × PortManager} :
    (s.leave p).1 = none ↔ p.1 = .done := by
  rw [leave, ite_eq_left_iff, imp_iff_not_or, not_not, or_iff_left (Option.some_ne_none ())]

/-! ## The calls of the managers -/

/-- `switch_manager::create_switch`.  `constructed` tells whether the switch can be constructed.
What the endpoint of a switch throws, `eOfSmErrorOnCreation`, is not in the exception specification
of the constructors, so that `std::unexpected` is called and the program may end; here it is thrown
like any other exception. -/
def createSwitch (dpid : Dpid) (dpname : String) (constructed : Bool) : Call Unit Resources :=
  fun s =>
    if s.switchExists dpid ∨ ∃ sw ∈ s.switchs, sw.2 = dpname then (some (), s)
    else if !constructed then (some (), s)
    else (none, { s with switchs := insert (dpid, dpname) s.switchs })

/-- `port_manager::attach_port_to_switch`. -/
def attachPortToSwitch (dpid : Dpid) (name : String) (validNumber : Bool) (result : AttachResult) :
    Call Unit Resources := fun s =>
  if !validNumber then (some (), s)
  else if name ∈ s.manager.blacklisted then (some (), s)
  else s.leave (attachSection s.manager dpid name (s.switchExists dpid) result)

/-- `port_manager::bring_up` and `port_manager::bring_down`. -/
def bringPort (name : String) (success : Bool) : Call Unit Resources := fun s =>
  if name ∈ s.manager.blacklisted then (none, s)
  else if s.manager.ports name = none then (some (), s)
  else if success then (none, s)
  else (some (), s)

def bringUp (name : String) (success : Bool) : Call Unit Resources := bringPort name success

def bringDown (name : String) (success : Bool) : Call Unit Resources := bringPort name success

/-- `port_manager::detach_port_from_switch`. -/
def detachPortFromSwitch (dpid : Dpid) (name : String) (result : DetachResult) :
    Call Unit Resources := fun s => s.leave (detachSection s.manager dpid name result)

/-- `nf_port_manager::create_nf_port`. -/
def createNf (name : String) (type : NfPortType) (success : Bool) : Call Unit Resources := fun s =>
  if s.manager.ports name ≠ none then (some (), s)
  else if !success then (some (), s)
  else (none, { s with manager := { s.manager with
    ports := Function.update s.manager.ports name (some ⟨.nf type, none⟩) } })

/-- `nf_port_manager::destroy_nf_port`.  The driver does nothing, and reports success, when the port
is not one of a network function. -/
def destroyNf (name : String) (success : Bool) : Call Unit Resources := fun s =>
  match s.manager.ports name with
  | none => (some (), s)
  | some port =>
      if !success then (some (), s)
      else
        match port.type with
        | .nf _ => (none, { s with manager := s.manager.removePort name })
        | _ => (none, s)

/-- What the driver answers to the calls for a virtual link. -/
structure VirtualLink where
  /-- the names of the two ends -/
  name1 : String
  name2 : String
  result : ConnectResult
  /-- the driver gives snapshots of both ends -/
  snapshots : Bool
  deriving DecidableEq

/-- The names are new to the driver. -/
def Resources.Unused (s : Resources) (l : VirtualLink) : Prop :=
  l.name1 ≠ l.name2 ∧ s.manager.ports l.name1 = none ∧ s.manager.ports l.name2 = none

instance (s : Resources) (l : VirtualLink) : Decidable (s.Unused l) :=
  inferInstanceAs (Decidable (_ ∧ _ ∧ _))

/-- `port_manager::connect_switches`.  The driver cannot create ports with names that it uses. -/
def connectSwitches (dpid1 dpid2 : Dpid) (l : VirtualLink) : Call Unit Resources := fun s =>
  if s.Unused l then
    s.leave (connectSection s.manager dpid1 dpid2 (s.switchExists dpid1 && s.switchExists dpid2)
      l.name1 l.name2 l.result)
  else (some (), s)

/-- `port_manager::get_port_info`, for both ends of a link. -/
def getPortInfos (l : VirtualLink) : Call Unit Resources := fun s =>
  if s.manager.ports l.name1 ≠ none ∧ s.manager.ports l.name2 ≠ none ∧ l.snapshots then (none, s)
  else (some (), s)

/-- A port that is to be detached, with what the driver answers. -/
structure Detach where
  name : String
  result : DetachResult
  deriving DecidableEq

/-- The switch is taken out of the map. -/
def eraseSwitch (dpid : Dpid) : Call Unit Resources := fun s =>
  (none, { s with switchs := s.switchs.filter fun sw => sw.1 ≠ dpid })

/-- `switch_manager::destroy_switch`, with the ports of the snapshot, if the driver gives one. -/
def destroySwitch (dpid : Dpid) (snapshot : Option (List Detach)) : Call Unit Resources := fun s =>
  if !s.switchExists dpid then (some (), s)
  else
    match snapshot with
    | none => (some (), s)
    | some ports =>
        (Call.forEach (fun p => detachPortFromSwitch dpid p.name p.result) ports).andThen
          (eraseSwitch dpid) s

/-! ## The functions of `NodeOrchestrator` -/

/-- A physical port of a message, with what the driver answers. -/
structure PhyPort where
  name : String
  /-- `of_port_num` is in range -/
  validNumber : Bool
  attached : AttachResult
  broughtUp : Bool
  deriving DecidableEq

def attachPhyPort (dpid : Dpid) (p : PhyPort) : Call Unit Resources :=
  (attachPortToSwitch dpid p.name p.validNumber p.attached).andThen (bringUp p.name p.broughtUp)

/-- `createLSI`.  Ports without a name are ignored. -/
def createSwitchWithPorts (dpid : Dpid) (constructed : Bool) (ports : List PhyPort) :
    Call Unit Resources :=
  (createSwitch dpid (toString dpid.val) constructed).andThen
    (Call.forEach (attachPhyPort dpid) (ports.filter fun p => p.name ≠ ""))

/-- A port of a network function, as it is created, with what the driver answers. -/
structure NfPort where
  name : String
  type : NfPortType
  created : Bool
  attached : AttachResult
  /-- the answer when the port is destroyed again -/
  destroyed : Bool
  broughtUp : Bool
  deriving DecidableEq

/-- `createNfPort`.  A port that cannot be attached is destroyed again. -/
def createNfPort (dpid : Dpid) (p : NfPort) : Call Unit Resources :=
  (createNf p.name p.type p.created).andThen
    (((attachPortToSwitch dpid p.name true p.attached).orUndo
        (destroyNf p.name p.destroyed)).andThen
      (bringUp p.name p.broughtUp))

def createVirtualLink (dpidA dpidB : Dpid) (l : VirtualLink) : Call Unit Resources :=
  (connectSwitches dpidA dpidB l).andThen (getPortInfos l)

/-- How `destroyNfPort` ends, when it does not return `true`. -/
inductive NotDestroyed where
  | returnsFalse
  | throws
  deriving DecidableEq

/-- An NF port that is to be destroyed, with what the driver answers. -/
structure NfPortDestroy where
  name : String
  broughtDown : Bool
  detached : DetachResult
  destroyed : Bool
  deriving DecidableEq

/-- `destroyNfPort` where `detach` is `false`. -/
def destroyNfPort (name : String) (destroyed : Bool) : Call NotDestroyed Resources :=
  (destroyNf name destroyed).rethrow fun _ => .returnsFalse

/-- `destroyNfPort` where `detach` is `true`.  The exceptions of `bring_down` are not caught. -/
def detachAndDestroyNfPort (dpid : Dpid) (p : NfPortDestroy) : Call NotDestroyed Resources :=
  ((bringDown p.name p.broughtDown).rethrow fun _ => .throws).andThen
    (((detachPortFromSwitch dpid p.name p.detached).rethrow fun _ => .returnsFalse).andThen
      (destroyNfPort p.name p.destroyed))

/-- `detachPort` with a name, where `vlink` is `false`: it returns `false` for an end of a link, and
`true` even if the port cannot be detached. -/
def detachPort (dpid : Dpid) (p : Detach) : Call Unit Resources := fun s =>
  if isVlink s.manager p.name then (some (), s)
  else (detachPortFromSwitch dpid p.name p.result).ignore s

/-- An end of a virtual link in a message, with what the driver answers. -/
structure LinkEnd where
  lsiId : Option Dpid
  vlinkId : Option ℕ
  /-- the port that the driver finds under the number `vlinkId` of the switch -/
  port : Option String
  result : DetachResult
  deriving DecidableEq

/-- `detachPort` with a number, which always returns `true`. -/
def detachPortByNum (l : LinkEnd) : Call Unit Resources := fun s =>
  match l.lsiId, l.port with
  | some dpid, some name => (detachPortFromSwitch dpid name l.result).ignore s
  | _, _ => (none, s)

/-! ## Messages -/

/-- What a handler answers. -/
inductive Reply where
  | ok (command : String)
  | error (command message : String)
  /-- an exception leaves the handler, and nothing is sent -/
  | exception
  deriving DecidableEq

/-- A port of a network function in a message, with what the driver answers. -/
structure NfPortMessage where
  port : String
  created : Bool
  attached : AttachResult
  destroyed : Bool
  broughtUp : Bool
  deriving DecidableEq

/-- A network function of a message. -/
structure NetworkFunction where
  name : Option String
  type : Option String
  ports : List NfPortMessage
  deriving DecidableEq

/-- The virtual links of a message, with what the driver answers for each of them. -/
structure VirtualLinks where
  number : Option ℤ
  answers : ℕ → VirtualLink

/-- The links that are to be created: none, if the number is negative. -/
def VirtualLinks.links (v : VirtualLinks) : List VirtualLink :=
  (List.range (v.number.getD 0).toNat).map v.answers

/-- The message `create-lsi`. -/
structure CreateLsi where
  controllerAddress : Option String
  controllerPort : Option String
  ports : List PhyPort
  wireless : Option NfPortMessage
  networkFunctions : List NetworkFunction
  virtualLinks : Option (VirtualLinks × Option Dpid)
  constructed : Bool

/-- What is wrong with a network function. -/
def NetworkFunction.refusal (command : String) (f : NetworkFunction) : Option String :=
  if f.type ≠ none ∧ f.type ≠ some "dpdk" ∧ f.type ≠ some "docker" then
    some " Received command \"create-lsi\" with a network function with a wrong \"type\""
  else if f.name = none ∨ f.ports = [] ∨ f.type = none then
    some (" Received command \"" ++ command ++ "\" with a network function without the " ++
      "\"name\", the \"ports\", the \"type\", all of them")
  else none

/-- The name of an NF port is made from the id of its switch. -/
def nfPortName (dpid : Dpid) (port : String) : String := toString dpid.val ++ "_" ++ port

def NfPortMessage.toNfPort (dpid : Dpid) (type : NfPortType) (p : NfPortMessage) : NfPort where
  name := nfPortName dpid p.port
  type := type
  created := p.created
  attached := p.attached
  destroyed := p.destroyed
  broughtUp := p.broughtUp

/-- `nfTypes`: where two network functions have the same name, the last type counts for both. -/
def nfType (fs : List NetworkFunction) (name : Option String) : NfPortType :=
  if (fs.reverse.find? fun f => f.name = name).bind (·.type) = some "dpdk" then .shmem
  else .external

/-- The ports of the network functions, in the order in which they are created. -/
def nfPorts (dpid : Dpid) (fs : List NetworkFunction) : List NfPort :=
  fs.flatMap fun f => f.ports.map (·.toNfPort dpid (nfType fs f.name))

/-- The port for a wireless interface. -/
def CreateLsi.wirelessPort (m : CreateLsi) (dpid : Dpid) : List NfPort :=
  m.wireless.toList.map (·.toNfPort dpid .external)

/-- All the NF ports, in the order in which they are created. -/
def CreateLsi.allNfPorts (m : CreateLsi) (dpid : Dpid) : List NfPort :=
  m.wirelessPort dpid ++ nfPorts dpid m.networkFunctions

/-- The virtual links that are to be created. -/
def CreateLsi.links (m : CreateLsi) : List VirtualLink :=
  (m.virtualLinks.map fun v => v.1.links).getD []

/-- The switch at the other end of the links. -/
def CreateLsi.remoteLsi (m : CreateLsi) : Dpid := (m.virtualLinks.bind (·.2)).getD 0

/-- What is wrong with a message `create-lsi`. -/
def CreateLsi.refusal (m : CreateLsi) : Option String :=
  match m.networkFunctions.findSome? (·.refusal "create-lsi") with
  | some text => some text
  | none =>
      if ∃ v ∈ m.virtualLinks, v.1.number = none ∨ v.2 = none then
        some ("Received command \"create-lsi\" with field \"virtual-links\" without sub-fields " ++
          "\"number\" or \"remote-lsi\" or \"both\"")
      else if m.controllerAddress = none ∨ m.controllerPort = none then
        some "Command without controller port, controller address, or both"
      else none

/-- A request. -/
inductive Request where
  /-- the message has no command, or an unknown one -/
  | unknown
  | createLsi (m : CreateLsi)
  /-- `destroyed` has the driver's answers for the ports of the table -/
  | destroyLsi (lsiId : Option Dpid) (snapshot : Option (List Detach)) (destroyed : ℕ → Bool)
  | attachPhyPorts (lsiId : Option Dpid) (ports : Option (List PhyPort))
  | detachPhyPorts (lsiId : Option Dpid) (ports : Option (List Detach))
  | createNfPorts (lsiId : Option Dpid) (networkFunctions : List NetworkFunction)
  | destroyNfPorts (lsiId : Option Dpid) (ports : Option (List NfPortDestroy))
  | createVirtualLinks (links : VirtualLinks) (lsiA lsiB : Option Dpid)
  | destroyVirtualLinks (links : Option (List LinkEnd))

/-! ## The functions of `MessageHandler` -/

/-- Each name is created, and the first failure reported under the name of a command. -/
def createEach (dpid : Dpid) (text : NfPort → String) (ports : List NfPort) :
    Call Reply Resources :=
  Call.forEach (fun p => (createNfPort dpid p).rethrow fun _ => .error "create-lsi" (text p)) ports

def createNfFailure (p : NfPort) : String :=
  "An error occurred while creating/attaching the NF port " ++ p.name

/-- `nfPortNames[dpid] = names`. -/
def setNfPortNames (dpid : Dpid) (names : List String) : Call Reply Resources := fun s =>
  (none, { s with nfPortNames := Function.update s.nfPortNames dpid names })

def createLinks (command : String) (dpidA dpidB : Dpid) (links : List VirtualLink) :
    Call Reply Resources :=
  Call.forEach (fun l => (createVirtualLink dpidA dpidB l).rethrow fun _ =>
    .error command "An error occurred while creating a virtual link") links

def createLsi (m : CreateLsi) (dpid : Dpid) : Call Reply Resources :=
  ((createSwitchWithPorts dpid m.constructed m.ports).rethrow fun _ =>
      .error "create-lsi" "error during the creation of the LSI").andThen
    ((createEach dpid
        (fun _ => "An error occurred while creating the wireless port " ++
          ((m.wireless.map (·.port)).getD "")) (m.wirelessPort dpid)).andThen
      ((createEach dpid createNfFailure (nfPorts dpid m.networkFunctions)).andThen
        ((setNfPortNames dpid ((m.allNfPorts dpid).map (·.name))).andThen
          (createLinks "create-lsi" dpid m.remoteLsi m.links))))

/-- The ports of the table are destroyed, whether or not the driver can, and the entry erased. -/
def destroyTable (dpid : Dpid) (destroyed : ℕ → Bool) : Call Reply Resources := fun s =>
  (Call.forEach (fun e => (destroyNfPort e.1 (destroyed e.2)).ignore)
    (s.nfPortNames dpid).zipIdx).andThen (setNfPortNames dpid []) s

def destroyLsi (dpid : Dpid) (snapshot : Option (List Detach)) (destroyed : ℕ → Bool) :
    Call Reply Resources :=
  ((destroySwitch dpid snapshot).rethrow fun _ =>
    .error "destroy-lsi" "error during the destruction of the LSI").andThen
      (destroyTable dpid destroyed)

def attachPhyPorts (dpid : Dpid) (ports : List PhyPort) : Call Reply Resources :=
  Call.forEach (fun p => (attachPhyPort dpid p).rethrow fun _ =>
    .error "attach-physical-ports"
      ("An error occurred while attaching the physical port " ++ p.name)) ports

def detachPhyPorts (dpid : Dpid) (ports : List Detach) : Call Reply Resources :=
  Call.forEach (fun p => (detachPort dpid p).rethrow fun _ =>
    .error "detach-physical-ports" ("An error occurred while detaching the port " ++ p.name ++
      " from LSI " ++ toString dpid.val)) ports

/-- `createNFPorts`: the names enter the table when all the ports have been created. -/
def createNfPorts (dpid : Dpid) (ports : List NfPort) : Call Reply Resources := fun s =>
  (createEach dpid createNfFailure ports).andThen
    (setNfPortNames dpid (s.nfPortNames dpid ++ ports.map (·.name))) s

/-- The first of the names is taken out of the table. -/
def eraseNfPortName (dpid : Dpid) (name : String) : Call NotDestroyed Resources := fun s =>
  (none, { s with
    nfPortNames := Function.update s.nfPortNames dpid ((s.nfPortNames dpid).erase name) })

/-- What `destroyNFPorts` does when a port is not destroyed. -/
def NotDestroyed.reply (name : String) : NotDestroyed → Reply
  | returnsFalse =>
      .error "destroy-nfs-ports" ("An error occurred while destroying port " ++ name)
  | throws => .exception

def destroyNfPorts (dpid : Dpid) (ports : List NfPortDestroy) : Call Reply Resources :=
  Call.forEach (fun p => ((eraseNfPortName dpid p.name).andThen
    (detachAndDestroyNfPort dpid p)).rethrow (·.reply p.name)) ports

def destroyVirtualLinks (links : List LinkEnd) : Call Reply Resources :=
  Call.forEach (fun l => (detachPortByNum l).ignore) links

/-- The answer, when the exceptions of a handler are the errors that it reports. -/
def Node.respond (n : Node) (command : String) (f : Call Reply Resources) : Reply × Node :=
  ((f n.resources).1.getD (.ok command), { n with resources := (f n.resources).2 })

/-- `processCommand`. -/
def processCommand (n : Node) : Request → Reply × Node
  | .unknown => (.error "ERROR" "Unknown command", n)
  | .createLsi m =>
      match m.refusal with
      | some text => (.error "create-lsi" text, n)
      | none =>
          { n with nextDpid := n.nextDpid + 1 }.respond "create-lsi" (createLsi m n.nextDpid)
  | .destroyLsi lsiId snapshot destroyed =>
      match lsiId with
      | some dpid => n.respond "destroy-lsi" (destroyLsi dpid snapshot destroyed)
      | none => (.error "destroy-lsi" "Command without lsi-id", n)
  | .attachPhyPorts lsiId ports =>
      match lsiId, ports with
      | some dpid, some ports => n.respond "attach-physical-ports" (attachPhyPorts dpid ports)
      | _, _ => (.error "attach-physical-ports" "Command without ports, lsi-id, or both", n)
  | .detachPhyPorts lsiId ports =>
      match lsiId, ports with
      | some dpid, some ports => n.respond "detach-physical-ports" (detachPhyPorts dpid ports)
      | _, _ => (.error "detach-physical-ports" "Command without ports, lsi-id, or both", n)
  | .createNfPorts lsiId fs =>
      match fs.findSome? (·.refusal "create-nf-ports"), lsiId with
      | some text, _ => (.error "create-nfs-ports" text, n)
      | none, some dpid => n.respond "create-nfs-ports" (createNfPorts dpid (nfPorts dpid fs))
      | none, none => (.error "create-nfs-ports" "Command without lsi-id", n)
  | .destroyNfPorts lsiId ports =>
      match lsiId, ports with
      | _, some [] => (.error "destroy-nfs-ports" "Command with an empty ports list", n)
      | some dpid, some ports => n.respond "destroy-nfs-ports" (destroyNfPorts dpid ports)
      | _, _ => (.error "destroy-nfs-ports" "Command without lsi-id, ports or both", n)
  | .createVirtualLinks links lsiA lsiB =>
      match links.number, lsiA, lsiB with
      | some _, some dpidA, some dpidB =>
          n.respond "create-virtual-links"
            (createLinks "create-virtual-links" dpidA dpidB links.links)
      | _, _, _ =>
          (.error "create-virtual-links" ("Received command \"create-virtual-links\" without " ++
            "sub-fields \"number\", \"lsi-a\", \"lsi-b\" or may of them"), n)
  | .destroyVirtualLinks links =>
      match links with
      | none => (.error "destroy-virtual-links" "Command without virtual-links", n)
      | some [] =>
          (.error "destroy-virtual-links" "Command with an empty virtual links list", n)
      | some links =>
          if ∃ l ∈ links, l.lsiId = none ∨ l.vlinkId = none then
            (.error "destroy-virtual-links"
              "Command with a virtual-links without the lsi-id, the vlink-id, or both", n)
          else n.respond "destroy-virtual-links" (destroyVirtualLinks links)

end Xdpd.Management.NodeOrchestrator
