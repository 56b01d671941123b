import Xdpd.Hal.Attachment
import Xdpd.Io.GroupMembership
import Xdpd.Lib.Transition

/-!
# The topology of the driver

Attached ports are in the groups of the I/O threads, the two ends of a virtual link point to each
other, and nothing points to an ioport that has been deleted.  The calls keep it so, but for one:
when a switch is destroyed its virtual ports are detached like others, and their links stay.

`topology_of_run` is the result for the runs in which no switch is destroyed while a virtual port is
attached to it.  `Wired` is what is left in all runs, and `loose` the set of the virtual ports that
are not attached, which the condition keeps empty.
-/

namespace Xdpd.Hal.Driver

open Xdpd.Lib Xdpd.Io PhysicalSwitch

/-- A virtual port and another one, whose ioports are connected to each other. -/
structure Linked (s : Driver) (name : String) (port : SwitchPort) (pair : String)
    (port' : SwitchPort) : Prop where
  ne : pair ≠ name
  exist : s.pipeline.ports pair = some port'
  type : port'.type = .virtual
  left : s.ioports port.platformPortState = some ⟨name, some port'.platformPortState⟩
  right : s.ioports port'.platformPortState = some ⟨pair, some port.platformPortState⟩

/-- The topology of the driver is as it should be. -/
structure Topology (api : PhysicalSwitchApi) (cnt : GroupCounts) (s : Driver) : Prop where
  attached : ∀ name port, s.pipeline.ports name = some port →
    (port.attachedSw ≠ none ↔ s.iomanager.InGroups cnt port.platformPortState)
  members : ∀ address, s.iomanager.Member address →
    ∃ name port, s.pipeline.ports name = some port ∧ port.platformPortState = address
  linked : ∀ name port, s.pipeline.ports name = some port → port.type = .virtual →
    ∃ pair port', s.Linked name port pair port' ∧ port.attachedSw ≠ none ∧ port'.attachedSw ≠ none
  ioports : ∀ name port, s.pipeline.ports name = some port →
    s.ioports port.platformPortState ≠ none
  connected : ∀ address vport other, s.ioports address = some vport →
    vport.connectedPort = some other → s.ioports other ≠ none
  detachable : ∀ fails name port dpid, s.pipeline.ports name = some port →
    port.attachedSw = some dpid → (detachPortFromSwitch api cnt fails dpid name s).isSome
  detachableAtPortNum : ∀ fails dpid num name, s.pipeline.Has dpid num name →
    (detachPortFromSwitchAtPortNum api cnt fails dpid num s).isSome

/-- No virtual port is attached to a switch that is destroyed. -/
def SparesVirtualPorts (api : PhysicalSwitchApi) (s : Driver) (c : HalCall) : Prop :=
  match c.function with
  | .destroySwitchByDpid dpid =>
      ∀ slots ∈ s.pipeline.logicalSwitches dpid, ∀ num < api.maxLogPorts, ∀ name ∈ slots num,
        ∀ port ∈ s.pipeline.ports name, port.type = .physical
  | _ => True

instance (api : PhysicalSwitchApi) (s : Driver) : ∀ c, Decidable (SparesVirtualPorts api s c)
  | ⟨.destroySwitchByDpid dpid, _⟩ =>
      inferInstanceAs (Decidable (∀ slots ∈ s.pipeline.logicalSwitches dpid,
        ∀ num < api.maxLogPorts, ∀ name ∈ slots num, ∀ port ∈ s.pipeline.ports name,
          port.type = .physical))
  | ⟨.createSwitch _, _⟩ | ⟨.attachPortToSwitch _ _ _, _⟩ | ⟨.connectSwitches _ _ _ _ _ _, _⟩
  | ⟨.detachPortFromSwitch _ _, _⟩ | ⟨.detachPortFromSwitchAtPortNum _ _, _⟩
  | ⟨.bringPortUp _ _, _⟩ | ⟨.bringPortDown _ _, _⟩ | ⟨.bringPortUpByNum _ _, _⟩
  | ⟨.bringPortDownByNum _ _, _⟩ => inferInstanceAs (Decidable True)

/-! ## What holds in every run -/

/-- The topology, but for the virtual ports being attached. -/
structure Wired (api : PhysicalSwitchApi) (cnt : GroupCounts) (s : Driver) : Prop where
  consistent : s.pipeline.Consistent api.maxLogPorts
  ready : Ready cnt s.iomanager
  physical : ∀ {name port}, s.pipeline.ports name = some port → port.type = .physical →
    s.ioports port.platformPortState = some ⟨name, none⟩
  linked : ∀ {name port}, s.pipeline.ports name = some port → port.type = .virtual →
    ∃ pair port', s.Linked name port pair port'
  exist : ∀ {address vport}, s.ioports address = some vport →
    ∃ port, s.pipeline.ports vport.ofPortState = some port ∧ port.platformPortState = address
  member_iff : ∀ {name port}, s.pipeline.ports name = some port →
    (s.iomanager.Member port.platformPortState ↔ port.attachedSw ≠ none)
  members : ∀ {address}, s.iomanager.Member address →
    ∃ name port, s.pipeline.ports name = some port ∧ port.platformPortState = address

/-- The virtual ports that are not attached. -/
def loose (s : Driver) : Set String :=
  {name | ∃ port, s.pipeline.ports name = some port ∧ port.type = .virtual ∧ port.attachedSw = none}

variable {api : PhysicalSwitchApi} {cnt : GroupCounts} {fails : Fails} {s s' : Driver}
variable {name pair : String} {port port' : SwitchPort} {dpid : Dpid} {num : ℕ}

namespace Wired

lemma ioport (h : Wired api cnt s) (hport : s.pipeline.ports name = some port) :
    ∃ connected, s.ioports port.platformPortState = some ⟨name, connected⟩ := by
  cases htype : port.type with
  | physical => exact ⟨none, h.physical hport htype⟩
  | virtual =>
      obtain ⟨pair, port', hlinked⟩ := h.linked hport htype
      exact ⟨_, hlinked.left⟩

/-- No two ports have the same ioport. -/
lemma name_eq (h : Wired api cnt s) (hport : s.pipeline.ports name = some port)
    (hport' : s.pipeline.ports pair = some port')
    (hsame : port.platformPortState = port'.platformPortState) : name = pair := by
  obtain ⟨connected, hioport⟩ := h.ioport hport
  obtain ⟨connected', hioport'⟩ := h.ioport hport'
  rw [hsame, hioport'] at hioport
  exact (congrArg Ioport.ofPortState (Option.some.inj hioport)).symm

end Wired

/-- A port with nothing said of its attachment. -/
def unattached (port : SwitchPort) : SwitchPort := { port with attachedSw := none }

lemma exists_of_unattached_eq {ports ports' : String → Option SwitchPort}
    (h : ∀ name, (ports' name).map unattached = (ports name).map unattached)
    (hport : ports' name = some port) : ∃ port', ports name = some port' ∧
      port'.type = port.type ∧ port'.platformPortState = port.platformPortState := by
  have hname := h name
  rw [hport, Option.map_some] at hname
  obtain ⟨port', hport', hsame⟩ := Option.map_eq_some_iff.mp hname.symm
  have htype : (unattached port').type = (unattached port).type := congrArg SwitchPort.type hsame
  have hioport : (unattached port').platformPortState = (unattached port).platformPortState :=
    congrArg SwitchPort.platformPortState hsame
  exact ⟨port', hport', htype, hioport⟩

/-- Ports are attached and detached, and the manager of the groups goes along. -/
lemma Wired.of_rewired (h : Wired api cnt s) {pipeline : PhysicalSwitch} {manager : ManagerState ℕ}
    (hports : ∀ name, (pipeline.ports name).map unattached = (s.pipeline.ports name).map unattached)
    (hconsistent : pipeline.Consistent api.maxLogPorts) (hready : Ready cnt manager)
    (hmember : ∀ {name port}, pipeline.ports name = some port →
      (manager.Member port.platformPortState ↔ port.attachedSw ≠ none))
    (hmembers : ∀ {address}, manager.Member address →
      ∃ name port, s.pipeline.ports name = some port ∧ port.platformPortState = address) :
    Wired api cnt { s with pipeline := pipeline, iomanager := manager } := by
  have hold : ∀ {name port}, pipeline.ports name = some port → ∃ port',
      s.pipeline.ports name = some port' ∧ port'.type = port.type ∧
        port'.platformPortState = port.platformPortState :=
    fun hport => exists_of_unattached_eq hports hport
  have hnew : ∀ {name port}, s.pipeline.ports name = some port → ∃ port',
      pipeline.ports name = some port' ∧ port'.type = port.type ∧
        port'.platformPortState = port.platformPortState :=
    fun hport => exists_of_unattached_eq (fun name => (hports name).symm) hport
  refine ⟨hconsistent, hready, ?_, ?_, ?_, hmember, ?_⟩
  · intro name port hport htype
    obtain ⟨port₀, hport₀, htype₀, hioport⟩ := hold hport
    rw [← hioport]
    exact h.physical hport₀ (htype₀.trans htype)
  · intro name port hport htype
    obtain ⟨port₀, hport₀, htype₀, hioport⟩ := hold hport
    obtain ⟨pair, port₁, hlinked⟩ := h.linked hport₀ (htype₀.trans htype)
    obtain ⟨port', hport', htype', hioport'⟩ := hnew hlinked.exist
    refine ⟨pair, port', hlinked.ne, hport', htype'.trans hlinked.type, ?_, ?_⟩
    · rw [← hioport, hioport']
      exact hlinked.left
    · rw [← hioport, hioport']
      exact hlinked.right
  · intro address vport hvport
    obtain ⟨port₀, hport₀, hioport⟩ := h.exist hvport
    obtain ⟨port, hport, -, hioport'⟩ := hnew hport₀
    exact ⟨port, hport, hioport'.trans hioport⟩
  · intro address hmem
    obtain ⟨name, port₀, hport₀, hioport⟩ := hmembers hmem
    obtain ⟨port, hport, -, hioport'⟩ := hnew hport₀
    exact ⟨name, port, hport, hioport'.trans hioport⟩

/-- What a port points to changes. -/
lemma map_unattached_update {ports : String → Option SwitchPort} (hport : ports name = some port)
    (sw : Option Dpid) (name' : String) :
    (Function.update ports name (some { port with attachedSw := sw }) name').map unattached =
      (ports name').map unattached := by
  by_cases hname : name' = name
  · rw [hname, Function.update_self, hport]
    rfl
  · rw [Function.update_of_ne hname]

lemma manage_eq_some {p : Outcome × ManagerState ℕ} :
    s.manage p = some s' ↔ p.1 = .success ∧ s' = { s with iomanager := p.2 } := by
  rw [manage]
  split_ifs with hsuccess
  · exact ⟨fun hs' => ⟨hsuccess, (Option.some.inj hs').symm⟩, fun hs' => congrArg some hs'.2.symm⟩
  · exact ⟨nofun, fun hs' => absurd hs'.1 hsuccess⟩

/-! ## Attaching ports and bringing them up and down -/

/-- The ports stay in their groups. -/
lemma Wired.of_members (h : Wired api cnt s) {manager : ManagerState ℕ} (hready : Ready cnt manager)
    (hmember : ∀ q, manager.Member q ↔ s.iomanager.Member q) :
    Wired api cnt { s with iomanager := manager } := by
  refine h.of_rewired (fun _ => rfl) h.consistent hready (fun {name port} hport => ?_)
    fun {address} hmem => h.members ((hmember address).mp hmem)
  rw [hmember]
  exact h.member_iff hport

lemma Wired.bringUp (h : Wired api cnt s) {address : ℕ} (hs' : s.manage
    (Io.bringPortUp cnt (fails address) address s.iomanager) = some s') :
    Wired api cnt s' ∧ s'.loose = s.loose := by
  obtain ⟨hsuccess, rfl⟩ := manage_eq_some.mp hs'
  obtain ⟨hready, hmember⟩ := h.ready.bringPortUp hsuccess
  exact ⟨h.of_members hready hmember, rfl⟩

lemma Wired.bringDown (h : Wired api cnt s) {address : ℕ} (hs' : s.manage
    (Io.bringPortDown cnt (fails address) address s.iomanager) = some s') :
    Wired api cnt s' ∧ s'.loose = s.loose := by
  obtain ⟨hsuccess, rfl⟩ := manage_eq_some.mp hs'
  obtain ⟨hready, hmember⟩ := h.ready.bringPortDown (fails address) address
  exact ⟨h.of_members hready hmember, rfl⟩

lemma Wired.bringPortUp (h : Wired api cnt s) {up : Bool}
    (hs' : bringPortUp cnt fails name up s = some s') :
    Wired api cnt s' ∧ s'.loose = s.loose := by
  obtain ⟨port, hport, hs'⟩ := Option.bind_eq_some_iff.mp hs'
  split_ifs at hs' with hattached hup
  · exact h.bringUp hs'
  · obtain rfl := Option.some.inj hs'
    exact ⟨h, rfl⟩

lemma Wired.bringPortDown (h : Wired api cnt s) {down : Bool}
    (hs' : bringPortDown cnt fails name down s = some s') :
    Wired api cnt s' ∧ s'.loose = s.loose := by
  obtain ⟨port, hport, hs'⟩ := Option.bind_eq_some_iff.mp hs'
  split_ifs at hs' with hattached hdown
  · exact h.bringDown hs'
  · obtain rfl := Option.some.inj hs'
    exact ⟨h, rfl⟩

/-- A call that attaches a port. -/
lemma attachPortToSwitch_cases (hapi : api.Documented)
    (hs' : attachPortToSwitch api cnt fails dpid name num s = some s') :
    ∃ port slots num', s.pipeline.ports name = some port ∧
      s.pipeline.logicalSwitches dpid = some slots ∧ slots num' = none ∧ 0 < num' ∧
        num' < api.maxLogPorts ∧
        (addPort cnt (fails port.platformPortState) port.platformPortState s.iomanager).1 =
          .success ∧
        s' = { s with
          pipeline := s.pipeline.attach name port dpid slots num'
          iomanager := (addPort cnt (fails port.platformPortState) port.platformPortState
            s.iomanager).2 } := by
  obtain ⟨-, -, hs'⟩ := Option.bind_eq_some_iff.mp hs'
  obtain ⟨port, hport, hs'⟩ := Option.bind_eq_some_iff.mp hs'
  obtain ⟨pipeline, hpipeline, hs'⟩ := Option.bind_eq_some_iff.mp hs'
  obtain ⟨hsuccess, rfl⟩ := manage_eq_some.mp hs'
  have hattaches : ∃ num', s.pipeline.Attaches api.maxLogPorts name dpid num' pipeline := by
    split_ifs at hpipeline
    · exact hapi.attachPort hpipeline
    · exact ⟨num, hapi.attachPortAtPortNum hpipeline⟩
  obtain ⟨num', port', slots, hport', hslots, hfree, hpos, hlt, rfl⟩ := hattaches
  obtain rfl := Option.some.inj (hport.symm.trans hport')
  exact ⟨port, slots, num', hport, hslots, hfree, hpos, hlt, hsuccess, rfl⟩

lemma Wired.attachPortToSwitch (h : Wired api cnt s) (hapi : api.Documented)
    (hs' : attachPortToSwitch api cnt fails dpid name num s = some s') :
    Wired api cnt s' ∧ s'.loose = s.loose \ {name} := by
  obtain ⟨port, slots, num', hport, hslots, hfree, hpos, hlt, hsuccess, rfl⟩ :=
    attachPortToSwitch_cases hapi hs'
  obtain ⟨hnot, hready, hmember⟩ := h.ready.addPort hsuccess
  have hsw : port.attachedSw = none := not_not.mp ((h.member_iff hport).not.mp hnot)
  constructor
  · refine h.of_rewired (map_unattached_update hport _)
      (h.consistent.attach hport hsw hslots hfree hpos hlt) hready
      (fun {name' port'} hport' => ?_) fun {address} hmem => ?_
    · rw [hmember]
      by_cases hname : name' = name
      · subst hname
        rw [ports_attach_self] at hport'
        obtain rfl := Option.some.inj hport'
        exact iff_of_true (.inl rfl) nofun
      · rw [ports_attach_of_ne hname] at hport'
        rw [← h.member_iff hport', or_iff_right fun hsame => hname (h.name_eq hport' hport hsame)]
    · rcases (hmember address).mp hmem with rfl | hmem
      · exact ⟨name, port, hport, rfl⟩
      · exact h.members hmem
  · ext name'
    constructor
    · rintro ⟨port', hport', htype, hnone⟩
      have hname : name' ≠ name := by
        rintro rfl
        change (s.pipeline.attach name' port dpid slots num').ports name' = some port' at hport'
        rw [ports_attach_self] at hport'
        obtain rfl := Option.some.inj hport'
        exact absurd hnone nofun
      exact ⟨⟨port', (ports_attach_of_ne hname).symm.trans hport', htype, hnone⟩, hname⟩
    · rintro ⟨⟨port', hport', htype, hnone⟩, hname⟩
      exact ⟨port', (ports_attach_of_ne hname).trans hport', htype, hnone⟩

/-! ## Virtual links -/

lemma Linked.mono (h : s.Linked name port pair port')
    (hports : ∀ name port, s.pipeline.ports name = some port → s'.pipeline.ports name = some port)
    (hioports : ∀ address vport, s.ioports address = some vport → s'.ioports address = some vport) :
    s'.Linked name port pair port' :=
  ⟨h.ne, hports _ _ h.exist, h.type, hioports _ _ h.left, hioports _ _ h.right⟩

/-- Two ports under new names, with new ioports that are connected to each other. -/
structure NewPair (s s' : Driver) (name1 name2 : String) (vport1 vport2 : ℕ) : Prop where
  names : name2 ≠ name1
  addresses : vport2 ≠ vport1
  new1 : s.pipeline.ports name1 = none
  new2 : s.pipeline.ports name2 = none
  ionew1 : s.ioports vport1 = none
  ionew2 : s.ioports vport2 = none
  eq : s' = { s with
    pipeline := { s.pipeline with
      ports := Function.update (Function.update s.pipeline.ports name1
        (some ⟨.virtual, none, vport1⟩)) name2 (some ⟨.virtual, none, vport2⟩) }
    ioports := Function.update (Function.update s.ioports vport1 (some ⟨name1, some vport2⟩))
      vport2 (some ⟨name2, some vport1⟩)
    numOfVlinks := (s.numOfVlinks + 1) % 2 ^ 32 }

lemma newPair_of_createVirtualPortPair (hapi : api.Documented) {vport1 vport2 : ℕ}
    (hs' : createVirtualPortPair api vport1 vport2 s = some s') :
    NewPair s s' (vlinkName s.numOfVlinks 0) (vlinkName s.numOfVlinks 1) vport1 vport2 := by
  rw [createVirtualPortPair] at hs'
  split_ifs at hs' with hused
  obtain ⟨pipeline1, hpipeline1, hs'⟩ := Option.bind_eq_some_iff.mp hs'
  obtain ⟨pipeline2, hpipeline2, hs'⟩ := Option.bind_eq_some_iff.mp hs'
  obtain rfl := Option.some.inj hs'
  obtain ⟨hnew1, rfl⟩ := hapi.addPort hpipeline1
  obtain ⟨hnew2, rfl⟩ := hapi.addPort hpipeline2
  simp only [not_or, not_not] at hused
  have hnames : vlinkName s.numOfVlinks 1 ≠ vlinkName s.numOfVlinks 0 := by
    intro hsame
    rw [hsame] at hnew2
    exact absurd ((Function.update_self _ _ _).symm.trans hnew2) nofun
  exact ⟨hnames, Ne.symm hused.1, hnew1, (Function.update_of_ne hnames _ _).symm.trans hnew2,
    hused.2.1, hused.2.2, rfl⟩

namespace NewPair

variable {name1 name2 : String} {vport1 vport2 : ℕ}

lemma ports1 (h : NewPair s s' name1 name2 vport1 vport2) :
    s'.pipeline.ports name1 = some ⟨.virtual, none, vport1⟩ := by
  rw [h.eq]
  exact (Function.update_of_ne h.names.symm _ _).trans (Function.update_self _ _ _)

lemma ports2 (h : NewPair s s' name1 name2 vport1 vport2) :
    s'.pipeline.ports name2 = some ⟨.virtual, none, vport2⟩ := by
  rw [h.eq]
  exact Function.update_self _ _ _

lemma ioports1 (h : NewPair s s' name1 name2 vport1 vport2) :
    s'.ioports vport1 = some ⟨name1, some vport2⟩ := by
  rw [h.eq]
  exact (Function.update_of_ne h.addresses.symm _ _).trans (Function.update_self _ _ _)

lemma ioports2 (h : NewPair s s' name1 name2 vport1 vport2) :
    s'.ioports vport2 = some ⟨name2, some vport1⟩ := by
  rw [h.eq]
  exact Function.update_self _ _ _

lemma ports_of_ne (h : NewPair s s' name1 name2 vport1 vport2) (hne1 : name ≠ name1)
    (hne2 : name ≠ name2) : s'.pipeline.ports name = s.pipeline.ports name := by
  rw [h.eq]
  exact (Function.update_of_ne hne2 _ _).trans (Function.update_of_ne hne1 _ _)

lemma ioports_of_ne (h : NewPair s s' name1 name2 vport1 vport2) {address : ℕ}
    (hne1 : address ≠ vport1) (hne2 : address ≠ vport2) :
    s'.ioports address = s.ioports address := by
  rw [h.eq]
  exact (Function.update_of_ne hne2 _ _).trans (Function.update_of_ne hne1 _ _)

/-- The ports that were there stay. -/
lemma ports_mono (h : NewPair s s' name1 name2 vport1 vport2) (name : String) (port : SwitchPort)
    (hport : s.pipeline.ports name = some port) : s'.pipeline.ports name = some port := by
  refine (h.ports_of_ne ?_ ?_).trans hport
  · rintro rfl
    exact absurd (h.new1.symm.trans hport) nofun
  · rintro rfl
    exact absurd (h.new2.symm.trans hport) nofun

lemma ioports_mono (h : NewPair s s' name1 name2 vport1 vport2) (address : ℕ) (vport : Ioport)
    (hvport : s.ioports address = some vport) : s'.ioports address = some vport := by
  refine (h.ioports_of_ne ?_ ?_).trans hvport
  · rintro rfl
    exact absurd (h.ionew1.symm.trans hvport) nofun
  · rintro rfl
    exact absurd (h.ionew2.symm.trans hvport) nofun

/-- A port is one of the new ones, or was there before. -/
lemma ports_cases (h : NewPair s s' name1 name2 vport1 vport2)
    (hport : s'.pipeline.ports name = some port) :
    (name = name1 ∧ port = ⟨.virtual, none, vport1⟩) ∨
      (name = name2 ∧ port = ⟨.virtual, none, vport2⟩) ∨ s.pipeline.ports name = some port := by
  by_cases hname1 : name = name1
  · rw [hname1, h.ports1] at hport
    exact .inl ⟨hname1, (Option.some.inj hport).symm⟩
  · by_cases hname2 : name = name2
    · rw [hname2, h.ports2] at hport
      exact .inr (.inl ⟨hname2, (Option.some.inj hport).symm⟩)
    · rw [h.ports_of_ne hname1 hname2] at hport
      exact .inr (.inr hport)

lemma wired (h : NewPair s s' name1 name2 vport1 vport2) (hwired : Wired api cnt s) :
    Wired api cnt s' := by
  have hpipeline : s'.pipeline.Consistent api.maxLogPorts := by
    rw [h.eq]
    have hfirst := hwired.consistent.updatePort name1 (some ⟨.virtual, none, vport1⟩)
      (fun port hport => absurd (h.new1.symm.trans hport) nofun)
      (fun port hport => by rw [← Option.some.inj hport])
    refine hfirst.updatePort name2 (some ⟨.virtual, none, vport2⟩)
      (fun port hport => ?_) (fun port hport => by rw [← Option.some.inj hport])
    have hnew2 : Function.update s.pipeline.ports name1 (some ⟨.virtual, none, vport1⟩) name2 =
        none := (Function.update_of_ne h.names _ _).trans h.new2
    exact absurd (hnew2.symm.trans hport) nofun
  have hmanager : s'.iomanager = s.iomanager := by
    rw [h.eq]
  have hnot : ∀ {address}, s.ioports address = none → ¬ s.iomanager.Member address := by
    rintro address hnone hmem
    obtain ⟨name, port, hport, rfl⟩ := hwired.members hmem
    obtain ⟨connected, hioport⟩ := hwired.ioport hport
    exact absurd (hnone.symm.trans hioport) nofun
  refine ⟨hpipeline, hmanager ▸ hwired.ready, ?_, ?_, ?_, ?_, ?_⟩
  · intro name port hport htype
    rcases h.ports_cases hport with ⟨rfl, rfl⟩ | ⟨rfl, rfl⟩ | hport
    · exact absurd htype nofun
    · exact absurd htype nofun
    · exact h.ioports_mono _ _ (hwired.physical hport htype)
  · intro name port hport htype
    rcases h.ports_cases hport with ⟨rfl, rfl⟩ | ⟨rfl, rfl⟩ | hport
    · exact ⟨name2, _, h.names, h.ports2, rfl, h.ioports1, h.ioports2⟩
    · exact ⟨name1, _, h.names.symm, h.ports1, rfl, h.ioports2, h.ioports1⟩
    · obtain ⟨pair, port', hlinked⟩ := hwired.linked hport htype
      exact ⟨pair, port', hlinked.mono h.ports_mono h.ioports_mono⟩
  · intro address vport hvport
    by_cases haddress1 : address = vport1
    · subst haddress1
      rw [h.ioports1] at hvport
      obtain rfl := Option.some.inj hvport
      exact ⟨_, h.ports1, rfl⟩
    · by_cases haddress2 : address = vport2
      · subst haddress2
        rw [h.ioports2] at hvport
        obtain rfl := Option.some.inj hvport
        exact ⟨_, h.ports2, rfl⟩
      · rw [h.ioports_of_ne haddress1 haddress2] at hvport
        obtain ⟨port, hport, hioport⟩ := hwired.exist hvport
        exact ⟨port, h.ports_mono _ _ hport, hioport⟩
  · intro name port hport
    rw [hmanager]
    rcases h.ports_cases hport with ⟨rfl, rfl⟩ | ⟨rfl, rfl⟩ | hport
    · exact iff_of_false (hnot h.ionew1) (not_not.mpr rfl)
    · exact iff_of_false (hnot h.ionew2) (not_not.mpr rfl)
    · exact hwired.member_iff hport
  · intro address hmem
    rw [hmanager] at hmem
    obtain ⟨name, port, hport, hioport⟩ := hwired.members hmem
    exact ⟨name, port, h.ports_mono _ _ hport, hioport⟩

lemma loose_subset (h : NewPair s s' name1 name2 vport1 vport2) :
    s'.loose ⊆ s.loose ∪ {name1, name2} := by
  rintro name ⟨port, hport, htype, hsw⟩
  rcases h.ports_cases hport with ⟨rfl, -⟩ | ⟨rfl, -⟩ | hport
  · exact .inr (.inl rfl)
  · exact .inr (.inr rfl)
  · exact .inl ⟨port, hport, htype, hsw⟩

end NewPair

lemma Wired.connectSwitches (h : Wired api cnt s) (hapi : api.Documented) {dpid1 dpid2 : Dpid}
    {num1 num2 vport1 vport2 : ℕ}
    (hs' : connectSwitches api cnt fails dpid1 dpid2 num1 num2 vport1 vport2 s = some s') :
    Wired api cnt s' ∧ s'.loose ⊆ s.loose := by
  obtain ⟨-, -, hs'⟩ := Option.bind_eq_some_iff.mp hs'
  obtain ⟨-, -, hs'⟩ := Option.bind_eq_some_iff.mp hs'
  obtain ⟨s₁, hs₁, hs'⟩ := Option.bind_eq_some_iff.mp hs'
  obtain ⟨s₂, hs₂, hs'⟩ := Option.bind_eq_some_iff.mp hs'
  obtain ⟨s₃, hs₃, hs'⟩ := Option.bind_eq_some_iff.mp hs'
  split_ifs at hs'
  obtain ⟨s₄, hs₄, hs'⟩ := Option.bind_eq_some_iff.mp hs'
  have hpair := newPair_of_createVirtualPortPair hapi hs₁
  obtain ⟨h₂, hloose₂⟩ := (hpair.wired h).attachPortToSwitch hapi hs₂
  obtain ⟨h₃, hloose₃⟩ := h₂.attachPortToSwitch hapi hs₃
  obtain ⟨h₄, hloose₄⟩ := h₃.bringPortUp hs₄
  obtain ⟨h', hloose'⟩ := h₄.bringPortUp hs'
  refine ⟨h', ?_⟩
  rw [hloose', hloose₄, hloose₃, hloose₂]
  rintro name ⟨⟨hname, hne1⟩, hne2⟩
  exact (hpair.loose_subset hname).resolve_right fun hnew => hnew.elim hne1 hne2

/-! ## Detaching ports -/

/-- An attached port can be taken out of its groups and off its switch. -/
lemma Wired.removeAndDetach (h : Wired api cnt s) (hapi : api.Documented) (fails : Fails)
    (hport : s.pipeline.ports name = some port) (hsw : port.attachedSw = some dpid) :
    ∃ s', removeAndDetach api cnt fails name port s = some s' ∧ Wired api cnt s' ∧
      s'.ioports = s.ioports ∧
      s'.pipeline.ports name = some { port with attachedSw := none } ∧
      ∀ name' ≠ name, s'.pipeline.ports name' = s.pipeline.ports name' := by
  have hattached : port.attachedSw ≠ none := by
    rw [hsw]
    exact nofun
  obtain ⟨num, slots, hslots, hslot⟩ :=
    (h.consistent.pointsTo_iff name dpid).mp ⟨port, hport, hsw⟩
  obtain ⟨hsuccess, hready, hmember⟩ :=
    h.ready.removePort (fails port.platformPortState) port.platformPortState
  set manager := (removePort cnt (fails port.platformPortState) port.platformPortState
    s.iomanager).2 with hmanager
  refine ⟨{ s with
    pipeline := s.pipeline.detach name port dpid slots, iomanager := manager }, ?_, ?_, rfl,
    ports_detach_self, fun name' hne => ports_detach_of_ne hne⟩
  · have hmanage : s.manage (removePort cnt (fails port.platformPortState) port.platformPortState
        s.iomanager) = some { s with iomanager := manager } :=
      manage_eq_some.mpr ⟨hsuccess.mpr ((h.member_iff hport).mpr hattached), rfl⟩
    rw [Driver.removeAndDetach, hmanage, hsw]
    simp only [Option.bind_eq_bind, Option.bind_some, hapi.detachPort hport hsw hslots hslot]
  · refine h.of_rewired (map_unattached_update hport none)
      (h.consistent.detach hport hsw hslots) hready (fun {name' port'} hport' => ?_)
      fun {address} hmem => h.members ((hmember address).mp hmem).2
    rw [hmember]
    by_cases hname : name' = name
    · subst hname
      rw [ports_detach_self] at hport'
      obtain rfl := Option.some.inj hport'
      exact iff_of_false (fun hmem => hmem.1 rfl) (not_not.mpr rfl)
    · rw [ports_detach_of_ne hname] at hport'
      rw [← h.member_iff hport', and_iff_right fun hsame => hname (h.name_eq hport' hport hsame)]

/-- What a map has after two keys have been taken out of it. -/
lemma of_update_none {α β : Type*} [DecidableEq α] {f : α → Option β} {a b x : α} {y : β}
    (h : Function.update (Function.update f a none) b none x = some y) :
    x ≠ a ∧ x ≠ b ∧ f x = some y := by
  have hb : x ≠ b := by
    rintro rfl
    exact absurd ((Function.update_self _ _ _).symm.trans h) nofun
  rw [Function.update_of_ne hb] at h
  have ha : x ≠ a := by
    rintro rfl
    exact absurd ((Function.update_self _ _ _).symm.trans h) nofun
  exact ⟨ha, hb, (Function.update_of_ne ha _ _).symm.trans h⟩

/-- An ioport is connected to one other, which is of one port. -/
lemma Wired.eq_of_connected (h : Wired api cnt s) {address : ℕ} {left right other : String}
    {q : SwitchPort} (hq : s.pipeline.ports other = some q)
    (hport' : s.pipeline.ports pair = some port')
    (hconnected : s.ioports address = some ⟨left, some q.platformPortState⟩)
    (hconnected' : s.ioports address = some ⟨right, some port'.platformPortState⟩) :
    other = pair := by
  have hsame := Option.some.inj (hconnected.symm.trans hconnected')
  exact h.name_eq hq hport' (Option.some.inj (congrArg Ioport.connectedPort hsame))

/-- Both ends of a link are deleted, after they have been detached. -/
lemma Wired.deletePair (h : Wired api cnt s) (hport : s.pipeline.ports name = some port)
    (hlinked : s.Linked name port pair port') (hsw : port.attachedSw = none)
    (hsw' : port'.attachedSw = none) : Wired api cnt { s with
      pipeline := { s.pipeline with
        ports := Function.update (Function.update s.pipeline.ports name none) pair none }
      ioports := Function.update (Function.update s.ioports port.platformPortState none)
        port'.platformPortState none } := by
  set ports := Function.update (Function.update s.pipeline.ports name none) pair none
  set ioports := Function.update (Function.update s.ioports port.platformPortState none)
    port'.platformPortState none
  have hkept : ∀ {other}, other ≠ name → other ≠ pair → ports other = s.pipeline.ports other :=
    fun hname hpair => (Function.update_of_ne hpair _ _).trans (Function.update_of_ne hname _ _)
  -- the ioports of the other ports stay
  have hother : ∀ {other q}, ports other = some q →
      ioports q.platformPortState = s.ioports q.platformPortState := by
    intro other q hq
    obtain ⟨hname, hpair, hold⟩ := of_update_none hq
    have hne : q.platformPortState ≠ port.platformPortState := fun hsame =>
      hname (h.name_eq hold hport hsame)
    have hne' : q.platformPortState ≠ port'.platformPortState := fun hsame =>
      hpair (h.name_eq hold hlinked.exist hsame)
    exact (Function.update_of_ne hne' _ _).trans (Function.update_of_ne hne _ _)
  have hconsistent :
      PhysicalSwitch.Consistent api.maxLogPorts { s.pipeline with ports := ports } := by
    have hfirst := h.consistent.updatePort name none
      (fun q hq => by rwa [← Option.some.inj (hport.symm.trans hq)]) nofun
    refine hfirst.updatePort pair none (fun q hq => ?_) nofun
    have hpair : Function.update s.pipeline.ports name none pair = some port' :=
      (Function.update_of_ne hlinked.ne _ _).trans hlinked.exist
    rwa [← Option.some.inj (hpair.symm.trans hq)]
  refine ⟨hconsistent, h.ready, ?_, ?_, ?_, ?_, ?_⟩
  · intro other q hq htype
    obtain ⟨-, -, hold⟩ := of_update_none hq
    exact (hother hq).trans (h.physical hold htype)
  · intro other q hq htype
    obtain ⟨hname, hpair, hold⟩ := of_update_none hq
    obtain ⟨end', q', hends⟩ := h.linked hold htype
    -- the other end of another link is neither of the two
    have hname' : end' ≠ name := by
      rintro rfl
      obtain rfl := Option.some.inj (hport.symm.trans hends.exist)
      exact hpair (h.eq_of_connected hold hlinked.exist hends.right hlinked.left)
    have hpair' : end' ≠ pair := by
      rintro rfl
      obtain rfl := Option.some.inj (hlinked.exist.symm.trans hends.exist)
      exact hname (h.eq_of_connected hold hport hends.right hlinked.right)
    have hq' : ports end' = some q' := (hkept hname' hpair').trans hends.exist
    exact ⟨end', q', hends.ne, hq', hends.type, (hother hq).trans hends.left,
      (hother hq').trans hends.right⟩
  · intro address vport hvport
    obtain ⟨hname, hpair, hold⟩ := of_update_none hvport
    obtain ⟨q, hq, haddress⟩ := h.exist hold
    refine ⟨q, (hkept ?_ ?_).trans hq, haddress⟩
    · intro hsame
      rw [hsame] at hq
      obtain rfl := Option.some.inj (hport.symm.trans hq)
      exact hname haddress.symm
    · intro hsame
      rw [hsame] at hq
      obtain rfl := Option.some.inj (hlinked.exist.symm.trans hq)
      exact hpair haddress.symm
  · intro other q hq
    obtain ⟨-, -, hold⟩ := of_update_none hq
    exact h.member_iff hold
  · intro address hmem
    obtain ⟨other, q, hq, rfl⟩ := h.members hmem
    have hattached := (h.member_iff hq).mp hmem
    refine ⟨other, q, (hkept ?_ ?_).trans hq, rfl⟩
    · rintro rfl
      obtain rfl := Option.some.inj (hport.symm.trans hq)
      exact hattached hsw
    · rintro rfl
      obtain rfl := Option.some.inj (hlinked.exist.symm.trans hq)
      exact hattached hsw'

lemma Linked.getVlinkPair (h : s.Linked name port pair port') (hioports : s'.ioports = s.ioports) :
    getVlinkPair port s' = some pair := by
  rw [Driver.getVlinkPair, hioports, h.left]
  simp only [Option.bind_eq_bind, Option.bind_some, h.right]

/-- A port that is detached is not a loose one, and the others are as before. -/
lemma loose_subset_of_ports
    (hports : ∀ name' port', s'.pipeline.ports name' = some port' → port'.type = .virtual →
      s.pipeline.ports name' = some port') : s'.loose ⊆ s.loose := by
  rintro name' ⟨port', hport', htype, hnone⟩
  exact ⟨port', hports name' port' hport' htype, htype, hnone⟩

/-- An attached port can be detached, unless it is the end of a link with a loose end. -/
lemma Wired.detachPortFromSwitch (h : Wired api cnt s) (hapi : api.Documented) (fails : Fails)
    (hport : s.pipeline.ports name = some port) (hsw : port.attachedSw = some dpid)
    (hpair : ∀ {pair port'}, s.Linked name port pair port' → port'.attachedSw ≠ none) :
    ∃ s', detachPortFromSwitch api cnt fails dpid name s = some s' ∧ Wired api cnt s' ∧
      s'.loose ⊆ s.loose := by
  obtain ⟨-, slots, hslots, -⟩ := (h.consistent.pointsTo_iff name dpid).mp ⟨port, hport, hsw⟩
  have hsnapshot : api.getPortSnapshot name s.pipeline = true := by
    refine hapi.getPortSnapshot ?_
    rw [hport]
    exact nofun
  have hgood : ¬ (port.attachedSw ≠ some dpid ∨ api.getPortSnapshot name s.pipeline = false) := by
    rw [hsw, hsnapshot]
    exact fun hcase => hcase.elim (fun hne => hne rfl) nofun
  obtain ⟨s₁, hs₁, h₁, hioports₁, hname₁, hother₁⟩ := h.removeAndDetach hapi fails hport hsw
  simp only [Driver.detachPortFromSwitch, hslots, Option.bind_eq_bind, Option.bind_some, hport,
    if_neg hgood, hs₁]
  cases htype : port.type with
  | physical =>
      refine ⟨s₁, rfl, h₁, loose_subset_of_ports fun name' port' hport' htype' => ?_⟩
      have hne : name' ≠ name := by
        rintro rfl
        obtain rfl := Option.some.inj (hname₁.symm.trans hport')
        exact absurd (htype.symm.trans htype') nofun
      exact (hother₁ name' hne).symm.trans hport'
  | virtual =>
      obtain ⟨pair, port', hlinked⟩ := h.linked hport htype
      obtain ⟨dpid', hsw'⟩ := Option.ne_none_iff_exists'.mp (hpair hlinked)
      have hport'₁ : s₁.pipeline.ports pair = some port' :=
        (hother₁ pair hlinked.ne).trans hlinked.exist
      obtain ⟨s₂, hs₂, h₂, hioports₂, hpair₂, hother₂⟩ :=
        h₁.removeAndDetach hapi fails hport'₁ hsw'
      have hname₂ : s₂.pipeline.ports name = some { port with attachedSw := none } :=
        (hother₂ name hlinked.ne.symm).trans hname₁
      have hpair₃ : Function.update s₂.pipeline.ports name none pair =
          some { port' with attachedSw := none } :=
        (Function.update_of_ne hlinked.ne _ _).trans hpair₂
      have hioports : s₂.ioports = s.ioports := hioports₂.trans hioports₁
      have hlinked₂ : s₂.Linked name { port with attachedSw := none } pair
          { port' with attachedSw := none } :=
        ⟨hlinked.ne, hpair₂, hlinked.type, hioports ▸ hlinked.left, hioports ▸ hlinked.right⟩
      have hfirst := hapi.removePort hname₂ rfl
      have hsecond := hapi.removePort
        (s := ⟨Function.update s₂.pipeline.ports name none, s₂.pipeline.logicalSwitches⟩) hpair₃ rfl
      refine ⟨_, ?_, h₂.deletePair hname₂ hlinked₂ rfl rfl, ?_⟩
      · simp only [hlinked.getVlinkPair hioports₁, Option.bind_some, hport'₁, hs₂, hfirst, hsecond]
      · refine loose_subset_of_ports fun name' q hq _ => ?_
        have hne' : name' ≠ pair := by
          rintro rfl
          exact absurd ((Function.update_self _ _ _).symm.trans hq) nofun
        have hne : name' ≠ name := by
          rintro rfl
          change Function.update (Function.update s₂.pipeline.ports name' none) pair none name' =
            some q at hq
          rw [Function.update_of_ne hne', Function.update_self] at hq
          exact absurd hq nofun
        rw [← hother₁ name' hne, ← hother₂ name' hne']
        exact (Function.update_of_ne hne _ _).symm.trans
          ((Function.update_of_ne hne' _ _).symm.trans hq)

lemma detachPortFromSwitch_cases (hs' : detachPortFromSwitch api cnt fails dpid name s = some s') :
    ∃ port, s.pipeline.ports name = some port ∧ port.attachedSw = some dpid := by
  obtain ⟨-, -, hs'⟩ := Option.bind_eq_some_iff.mp hs'
  obtain ⟨port, hport, hs'⟩ := Option.bind_eq_some_iff.mp hs'
  split_ifs at hs' with hbad
  exact ⟨port, hport, not_not.mp (not_or.mp hbad).1⟩

/-! ## Destroying a switch -/

/-- All the ports are taken out of their groups. -/
lemma ready_foldl_removePort (fails : Fails) (ports : List SwitchPort) {manager : ManagerState ℕ}
    (h : Ready cnt manager) :
    Ready cnt (ports.foldl (fun manager port =>
      (removePort cnt (fails port.platformPortState) port.platformPortState manager).2) manager) ∧
    ∀ q, (ports.foldl (fun manager port =>
      (removePort cnt (fails port.platformPortState) port.platformPortState manager).2)
        manager).Member q ↔ (∀ port ∈ ports, q ≠ port.platformPortState) ∧ manager.Member q := by
  induction ports generalizing manager with
  | nil => exact ⟨h, fun q => ⟨fun hmem => ⟨nofun, hmem⟩, And.right⟩⟩
  | cons port ports ih =>
      obtain ⟨-, hready, hmember⟩ :=
        h.removePort (fails port.platformPortState) port.platformPortState
      obtain ⟨hready', hmember'⟩ := ih hready
      refine ⟨hready', fun q => ?_⟩
      rw [List.foldl_cons, hmember' q, hmember q, List.forall_mem_cons]
      exact ⟨fun ⟨hrest, hfirst, hmem⟩ => ⟨⟨hfirst, hrest⟩, hmem⟩,
        fun ⟨⟨hfirst, hrest⟩, hmem⟩ => ⟨hrest, hfirst, hmem⟩⟩

/-- What a call leaves that destroys a switch. -/
lemma destroySwitchByDpid_cases (hapi : api.Documented)
    (hs' : destroySwitchByDpid api cnt fails dpid s = some s') :
    ∃ slots, s.pipeline.logicalSwitches dpid = some slots ∧ s' = { s with
      pipeline := { s.pipeline.detachAll dpid with
        logicalSwitches :=
          Function.update (s.pipeline.detachAll dpid).logicalSwitches dpid none }
      iomanager := (((List.range api.maxLogPorts).filterMap slots).filterMap
        s.pipeline.ports).foldl (fun manager port =>
          (removePort cnt (fails port.platformPortState) port.platformPortState manager).2)
          s.iomanager } := by
  obtain ⟨slots, hslots, hs'⟩ := Option.bind_eq_some_iff.mp hs'
  obtain ⟨pipeline₁, hpipeline₁, hs'⟩ := Option.bind_eq_some_iff.mp hs'
  obtain ⟨pipeline₂, hpipeline₂, hs'⟩ := Option.bind_eq_some_iff.mp hs'
  obtain rfl := hapi.detachAllPorts hpipeline₁
  obtain rfl := hapi.removeLogicalSwitch hpipeline₂
  exact ⟨slots, hslots, (Option.some.inj hs').symm⟩

lemma Wired.mem_ports_iff (h : Wired api cnt s) {slots : ℕ → Option String}
    (hslots : s.pipeline.logicalSwitches dpid = some slots)
    (hport : s.pipeline.ports name = some port) :
    port ∈ ((List.range api.maxLogPorts).filterMap slots).filterMap s.pipeline.ports ↔
      port.attachedSw = some dpid := by
  rw [List.mem_filterMap]
  constructor
  · rintro ⟨name', hname', hport'⟩
    obtain ⟨num, -, hslot⟩ := List.mem_filterMap.mp hname'
    obtain ⟨q, hq, hsw⟩ := (h.consistent.pointsTo_iff name' dpid).mpr ⟨num, slots, hslots, hslot⟩
    rwa [Option.some.inj (hport'.symm.trans hq)]
  · intro hsw
    obtain ⟨num, hhas⟩ := (h.consistent.pointsTo_iff name dpid).mp ⟨port, hport, hsw⟩
    refine ⟨name, List.mem_filterMap.mpr ⟨num, ?_, (has_of_slots hslots).mp hhas⟩, hport⟩
    exact List.mem_range.mpr (h.consistent.bounds hhas).2

lemma Wired.destroySwitchByDpid (h : Wired api cnt s) (hapi : api.Documented)
    (hs' : destroySwitchByDpid api cnt fails dpid s = some s') :
    Wired api cnt s' ∧ s'.loose = s.loose ∪
      {name | ∃ port, s.pipeline.ports name = some port ∧ port.type = .virtual ∧
        port.attachedSw = some dpid} := by
  obtain ⟨slots, hslots, rfl⟩ := destroySwitchByDpid_cases hapi hs'
  obtain ⟨hready, hmember⟩ := ready_foldl_removePort fails
    (((List.range api.maxLogPorts).filterMap slots).filterMap s.pipeline.ports) h.ready
  -- the ports in the list are those that are attached to the switch
  have hmem : ∀ {name port}, s.pipeline.ports name = some port →
      ((∀ q ∈ ((List.range api.maxLogPorts).filterMap slots).filterMap s.pipeline.ports,
        port.platformPortState ≠ q.platformPortState) ↔ port.attachedSw ≠ some dpid) := by
    intro name port hport
    refine Iff.trans ?_ (h.mem_ports_iff hslots hport).not
    refine ⟨fun hall hin => hall port hin rfl, fun hnot q hq hsame => hnot ?_⟩
    obtain ⟨name', -, hq'⟩ := List.mem_filterMap.mp hq
    obtain rfl := h.name_eq hport hq' hsame
    rwa [Option.some.inj (hport.symm.trans hq')]
  constructor
  · refine h.of_rewired (fun name' => ?_) ?_ hready (fun {name' port'} hport' => ?_)
      fun {address} haddress => h.members ((hmember address).mp haddress).2
    · change ((s.pipeline.ports name').map _).map unattached = _
      rw [Option.map_map]
      refine Option.map_congr fun port _ => ?_
      change unattached (if _ then _ else _) = _
      split
      · rfl
      · rfl
    · refine (h.consistent.detachAll dpid).removeSwitch fun name' hpoints => ?_
      exact (pointsTo_detachAll.mp hpoints).2 rfl
    · obtain ⟨port, hport, rfl⟩ := Option.map_eq_some_iff.mp hport'
      rw [hmember]
      split
      · next hsw =>
        exact iff_of_false (fun hcase => (hmem hport).mp hcase.1 hsw) (not_not.mpr rfl)
      · next hsw =>
        rw [hmem hport, h.member_iff hport]
        exact ⟨And.right, fun hattached => ⟨hsw, hattached⟩⟩
  · ext name'
    constructor
    · rintro ⟨port', hport', htype, hnone⟩
      obtain ⟨port, hport, rfl⟩ := Option.map_eq_some_iff.mp hport'
      split at htype
      · next hsw => exact .inr ⟨port, hport, htype, hsw⟩
      · next hsw =>
        rw [if_neg hsw] at hnone
        exact .inl ⟨port, hport, htype, hnone⟩
    · rintro (⟨port, hport, htype, hnone⟩ | ⟨port, hport, htype, hsw⟩)
      · refine ⟨port, Option.map_eq_some_iff.mpr ⟨port, hport, if_neg ?_⟩, htype, hnone⟩
        rw [hnone]
        exact nofun
      · exact ⟨{ port with attachedSw := none },
          Option.map_eq_some_iff.mpr ⟨port, hport, if_pos hsw⟩, htype, rfl⟩

/-! ## Whole runs -/

lemma Wired.createSwitch (h : Wired api cnt s) (hapi : api.Documented) (dpid : Dpid) :
    Wired api cnt
      { s with pipeline := (api.addLogicalSwitch dpid s.pipeline).getD s.pipeline } := by
  cases hadd : api.addLogicalSwitch dpid s.pipeline with
  | none => exact h
  | some pipeline =>
      obtain ⟨hnew, rfl⟩ := hapi.addLogicalSwitch hadd
      exact h.of_rewired (fun _ => rfl) (h.consistent.addSwitch hnew) h.ready h.member_iff h.members

lemma loose_createSwitch (hapi : api.Documented) (dpid : Dpid) :
    loose { s with pipeline := (api.addLogicalSwitch dpid s.pipeline).getD s.pipeline } =
      s.loose := by
  cases hadd : api.addLogicalSwitch dpid s.pipeline with
  | none => rfl
  | some pipeline =>
      obtain ⟨-, rfl⟩ := hapi.addLogicalSwitch hadd
      rfl

/-- Without loose ports, every attached port can be detached. -/
lemma Wired.detach_of_tight (h : Wired api cnt s) (hloose : s.loose = ∅) (hapi : api.Documented)
    (fails : Fails) (hport : s.pipeline.ports name = some port)
    (hsw : port.attachedSw = some dpid) :
    ∃ s', Driver.detachPortFromSwitch api cnt fails dpid name s = some s' ∧ Wired api cnt s' ∧
      s'.loose = ∅ := by
  obtain ⟨s', hs', h', hloose'⟩ := h.detachPortFromSwitch hapi fails hport hsw
    fun hlinked hnone => by
    have hin : _ ∈ s.loose := ⟨_, hlinked.exist, hlinked.type, hnone⟩
    rw [hloose] at hin
    exact hin
  rw [hloose] at hloose'
  exact ⟨s', hs', h', Set.subset_empty_iff.mp hloose'⟩

/-- **What one call does.**  Unless a switch with a virtual port is destroyed, no port is loose
afterwards. -/
lemma Wired.step (h : Wired api cnt s) (hloose : s.loose = ∅) (hapi : api.Documented) {c : HalCall}
    (hspares : SparesVirtualPorts api s c) (hs' : step api cnt s c = some s') :
    Wired api cnt s' ∧ s'.loose = ∅ := by
  obtain ⟨function, fails⟩ := c
  cases function with
  | createSwitch dpid =>
      obtain rfl := Option.some.inj hs'
      exact ⟨h.createSwitch hapi dpid, (loose_createSwitch hapi dpid).trans hloose⟩
  | destroySwitchByDpid dpid =>
      obtain ⟨h', hloose'⟩ := h.destroySwitchByDpid hapi hs'
      refine ⟨h', ?_⟩
      rw [hloose', hloose, Set.empty_union, Set.eq_empty_iff_forall_notMem]
      rintro name ⟨port, hport, htype, hsw⟩
      obtain ⟨num, hhas⟩ := (h.consistent.pointsTo_iff name dpid).mp ⟨port, hport, hsw⟩
      have hlt := (h.consistent.bounds hhas).2
      obtain ⟨slots, hslots, hslot⟩ := hhas
      exact absurd ((hspares slots hslots num hlt name hslot port hport).symm.trans htype) nofun
  | attachPortToSwitch dpid name num =>
      obtain ⟨h', hloose'⟩ := h.attachPortToSwitch hapi hs'
      refine ⟨h', ?_⟩
      rw [hloose', hloose]
      exact Set.eq_empty_iff_forall_notMem.mpr fun _ hin => hin.1
  | connectSwitches dpid1 dpid2 num1 num2 vport1 vport2 =>
      obtain ⟨h', hloose'⟩ := h.connectSwitches hapi hs'
      rw [hloose] at hloose'
      exact ⟨h', Set.subset_empty_iff.mp hloose'⟩
  | detachPortFromSwitch dpid name =>
      obtain ⟨port, hport, hsw⟩ := detachPortFromSwitch_cases hs'
      obtain ⟨s₁, hs₁, h'⟩ := h.detach_of_tight hloose hapi fails hport hsw
      rwa [Option.some.inj (hs'.symm.trans hs₁)]
  | detachPortFromSwitchAtPortNum dpid num =>
      obtain ⟨slots, hslots, hs'⟩ := Option.bind_eq_some_iff.mp hs'
      split_ifs at hs'
      obtain ⟨name, hslot, hs'⟩ := Option.bind_eq_some_iff.mp hs'
      obtain ⟨port, hport, hsw⟩ := detachPortFromSwitch_cases hs'
      obtain ⟨s₁, hs₁, h'⟩ := h.detach_of_tight hloose hapi fails hport hsw
      rwa [Option.some.inj (hs'.symm.trans hs₁)]
  | bringPortUp name up =>
      obtain ⟨h', hloose'⟩ := h.bringPortUp hs'
      exact ⟨h', hloose'.trans hloose⟩
  | bringPortDown name down =>
      obtain ⟨h', hloose'⟩ := h.bringPortDown hs'
      exact ⟨h', hloose'.trans hloose⟩
  | bringPortUpByNum dpid num =>
      obtain ⟨port, -, hs'⟩ := Option.bind_eq_some_iff.mp hs'
      obtain ⟨h', hloose'⟩ := h.bringUp hs'
      exact ⟨h', hloose'.trans hloose⟩
  | bringPortDownByNum dpid num =>
      obtain ⟨port, -, hs'⟩ := Option.bind_eq_some_iff.mp hs'
      obtain ⟨h', hloose'⟩ := h.bringDown hs'
      exact ⟨h', hloose'.trans hloose⟩

lemma wired_init (api : PhysicalSwitchApi) (cnt : GroupCounts) (found : String ≃. ℕ) :
    Wired api cnt (init found) := by
  have hports : ∀ {name port}, (init found).pipeline.ports name = some port →
      ∃ address, found name = some address ∧ port = ⟨.physical, none, address⟩ := by
    intro name port hport
    obtain ⟨address, haddress, rfl⟩ := Option.map_eq_some_iff.mp hport
    exact ⟨address, haddress, rfl⟩
  refine ⟨⟨fun name dpid => iff_of_false ?_ ?_, ?_⟩, ready_init cnt, ?_, ?_, ?_, ?_, ?_⟩
  · rintro ⟨port, hport, hsw⟩
    obtain ⟨address, -, rfl⟩ := hports hport
    exact absurd hsw nofun
  · rintro ⟨num, slots, hslots, -⟩
    exact absurd hslots nofun
  · rintro dpid num name ⟨slots, hslots, -⟩
    exact absurd hslots nofun
  · intro name port hport htype
    obtain ⟨address, haddress, rfl⟩ := hports hport
    exact Option.map_eq_some_iff.mpr ⟨name, found.mem_iff_mem.mpr haddress, rfl⟩
  · intro name port hport htype
    obtain ⟨address, -, rfl⟩ := hports hport
    exact absurd htype nofun
  · intro address vport hvport
    obtain ⟨name, hname, rfl⟩ := Option.map_eq_some_iff.mp hvport
    have hport : (init found).pipeline.ports name = some ⟨.physical, none, address⟩ :=
      Option.map_eq_some_iff.mpr ⟨address, found.mem_iff_mem.mp hname, rfl⟩
    exact ⟨_, hport, rfl⟩
  · intro name port hport
    obtain ⟨address, -, rfl⟩ := hports hport
    exact iff_of_false not_member_init (not_not.mpr rfl)
  · intro address hmem
    exact absurd hmem not_member_init

lemma loose_init (found : String ≃. ℕ) : (init found).loose = ∅ := by
  rw [Set.eq_empty_iff_forall_notMem]
  rintro name ⟨port, hport, htype, -⟩
  obtain ⟨address, -, rfl⟩ := Option.map_eq_some_iff.mp hport
  exact absurd htype nofun

/-- The topology is right if no port is loose. -/
lemma Wired.topology (h : Wired api cnt s) (hloose : s.loose = ∅) (hapi : api.Documented) :
    Topology api cnt s := by
  have htight : ∀ {name port}, s.pipeline.ports name = some port → port.type = .virtual →
      port.attachedSw ≠ none := by
    intro name port hport htype hnone
    have hin : name ∈ s.loose := ⟨port, hport, htype, hnone⟩
    rw [hloose] at hin
    exact hin
  refine ⟨fun name port hport => ?_, fun _ => h.members, fun name port hport htype => ?_,
    fun name port hport => ?_, fun address vport other hvport hconnected => ?_,
    fun fails name port dpid hport hsw => ?_, fun fails dpid num name hhas => ?_⟩
  · rw [h.ready.inGroups_iff]
    exact (h.member_iff hport).symm
  · obtain ⟨pair, port', hlinked⟩ := h.linked hport htype
    exact ⟨pair, port', hlinked, htight hport htype, htight hlinked.exist hlinked.type⟩
  · obtain ⟨connected, hioport⟩ := h.ioport hport
    rw [hioport]
    exact nofun
  · obtain ⟨port, hport, rfl⟩ := h.exist hvport
    cases htype : port.type with
    | physical =>
        rw [Option.some.inj (hvport.symm.trans (h.physical hport htype))] at hconnected
        exact absurd hconnected nofun
    | virtual =>
        obtain ⟨pair, port', hlinked⟩ := h.linked hport htype
        rw [Option.some.inj (hvport.symm.trans hlinked.left)] at hconnected
        rw [← Option.some.inj hconnected, hlinked.right]
        exact nofun
  · obtain ⟨s', hs', -⟩ := h.detach_of_tight hloose hapi fails hport hsw
    exact Option.isSome_iff_exists.mpr ⟨s', hs'⟩
  · obtain ⟨port, hport, hsw⟩ := (h.consistent.pointsTo_iff name dpid).mpr ⟨num, hhas⟩
    obtain ⟨s', hs', -⟩ := h.detach_of_tight hloose hapi fails hport hsw
    obtain ⟨hpos, hlt⟩ := h.consistent.bounds hhas
    obtain ⟨slots, hslots, hslot⟩ := hhas
    have hrange : ¬ (num = 0 ∨ api.maxLogPorts ≤ num) := by omega
    refine Option.isSome_iff_exists.mpr ⟨s', ?_⟩
    simp only [detachPortFromSwitchAtPortNum, hslots, Option.bind_eq_bind, Option.bind_some,
      if_neg hrange, hslot, hs']

/-- **The topology of the driver** is right in every run in which no switch is destroyed while a
virtual port is attached to it. -/
theorem topology_of_run {api : PhysicalSwitchApi} (hapi : api.Documented) (cnt : GroupCounts)
    (found : String ≃. ℕ) {calls : List HalCall} {s : Driver}
    (hrun : Run (step api cnt) (SparesVirtualPorts api) (init found) calls s) :
    Topology api cnt s := by
  have hstep : ∀ (s : Driver) c s', Wired api cnt s ∧ s.loose = ∅ → SparesVirtualPorts api s c →
      step api cnt s c = some s' → Wired api cnt s' ∧ s'.loose = ∅ :=
    fun s c s' h hspares hs' => h.1.step h.2 hapi hspares hs'
  obtain ⟨hwired, hloose⟩ := hrun.invariant hstep ⟨wired_init api cnt found, loose_init found⟩
  exact hwired.topology hloose hapi

/-- The condition is the exact one for the destruction of a switch. -/
lemma topology_destroySwitchByDpid_iff (h : Wired api cnt s) (hloose : s.loose = ∅)
    (hapi : api.Documented) (hs' : destroySwitchByDpid api cnt fails dpid s = some s') :
    Topology api cnt s' ↔ SparesVirtualPorts api s ⟨.destroySwitchByDpid dpid, fails⟩ := by
  obtain ⟨h', hloose'⟩ := h.destroySwitchByDpid hapi hs'
  constructor
  · intro htopology slots hslots num _ name hslot port hport
    obtain ⟨port₀, hport₀, hsw⟩ :=
      (h.consistent.pointsTo_iff name dpid).mpr ⟨num, slots, hslots, hslot⟩
    obtain rfl := Option.some.inj (Eq.trans hport₀.symm hport)
    cases htype : port₀.type with
    | physical => rfl
    | virtual =>
        have hin : name ∈ s'.loose := by
          rw [hloose']
          exact .inr ⟨port₀, hport₀, htype, hsw⟩
        obtain ⟨port', hport', htype', hnone⟩ := hin
        obtain ⟨-, -, -, hattached, -⟩ := htopology.linked name port' hport' htype'
        exact absurd hnone hattached
  · intro hspares
    obtain ⟨-, htight⟩ := h.step hloose hapi hspares (c := ⟨.destroySwitchByDpid dpid, fails⟩) hs'
    exact h'.topology htight hapi

/-! ## Examples -/

/-- A library with switches of seven ports. -/
def sevenPorts : PhysicalSwitchApi where
  maxLogPorts := 8
  addLogicalSwitch dpid s :=
    match s.logicalSwitches dpid with
    | none => some { s with
        logicalSwitches := Function.update s.logicalSwitches dpid (some fun _ => none) }
    | some _ => none
  removeLogicalSwitch dpid s :=
    some { s with logicalSwitches := Function.update s.logicalSwitches dpid none }
  attachPort name dpid s := do
    let port ← s.ports name
    let slots ← s.logicalSwitches dpid
    let num ← (List.range 8).find? fun num => 0 < num ∧ slots num = none
    some (s.attach name port dpid slots num)
  attachPortAtPortNum name dpid num s := do
    let port ← s.ports name
    let slots ← s.logicalSwitches dpid
    if slots num = none ∧ 0 < num ∧ num < 8 then some (s.attach name port dpid slots num) else none
  detachPort name dpid s := do
    let port ← s.ports name
    let slots ← s.logicalSwitches dpid
    if port.attachedSw = some dpid then some (s.detach name port dpid slots) else none
  detachAllPorts dpid s := some (s.detachAll dpid)
  addPort name port s :=
    if s.ports name = none then some { s with ports := Function.update s.ports name (some port) }
    else none
  removePort name s := some { s with ports := Function.update s.ports name none }
  getPortSnapshot name s := (s.ports name).isSome

lemma documented_sevenPorts : sevenPorts.Documented where
  addLogicalSwitch := by
    intro dpid s s' hs'
    dsimp only [sevenPorts] at hs'
    split at hs'
    · next hnew => exact ⟨hnew, (Option.some.inj hs').symm⟩
    · exact absurd hs' nofun
  removeLogicalSwitch := fun hs' => (Option.some.inj hs').symm
  attachPort := by
    intro name dpid s s' hs'
    obtain ⟨port, hport, hs'⟩ := Option.bind_eq_some_iff.mp hs'
    obtain ⟨slots, hslots, hs'⟩ := Option.bind_eq_some_iff.mp hs'
    obtain ⟨num, hnum, hs'⟩ := Option.bind_eq_some_iff.mp hs'
    have hfound := List.find?_some hnum
    obtain ⟨hpos, hfree⟩ := of_decide_eq_true hfound
    exact ⟨num, port, slots, hport, hslots, hfree, hpos,
      List.mem_range.mp (List.mem_of_find?_eq_some hnum), (Option.some.inj hs').symm⟩
  attachPortAtPortNum := by
    intro name dpid num s s' hs'
    obtain ⟨port, hport, hs'⟩ := Option.bind_eq_some_iff.mp hs'
    obtain ⟨slots, hslots, hs'⟩ := Option.bind_eq_some_iff.mp hs'
    split_ifs at hs' with hfree
    exact ⟨port, slots, hport, hslots, hfree.1, hfree.2.1, hfree.2.2, (Option.some.inj hs').symm⟩
  detachPort := by
    intro name dpid s port slots num hport hsw hslots _
    simp only [sevenPorts, hport, hslots, Option.bind_eq_bind, Option.bind_some, if_pos hsw]
  detachAllPorts := fun hs' => (Option.some.inj hs').symm
  addPort := by
    intro name port s s' hs'
    dsimp only [sevenPorts] at hs'
    split_ifs at hs' with hnew
    exact ⟨hnew, (Option.some.inj hs').symm⟩
  removePort := fun _ _ => rfl
  getPortSnapshot := fun hname => Option.isSome_iff_ne_none.mpr hname

/-- Calls none of whose internal calls fails. -/
def calls (functions : List HalFunction) : List HalCall :=
  functions.map fun function => ⟨function, fun _ _ => false⟩

/-- Two switches with a link, of which the first one also has a physical port. -/
def linkedSwitches : List HalFunction :=
  [.createSwitch 1, .createSwitch 2, .attachPortToSwitch 1 "eth0" 0,
    .connectSwitches 1 2 0 3 100 101]

/-- The link is deleted by detaching one of its ends, and then the first switch is destroyed with
the port that it still has. -/
theorem topology_linkedSwitches :
    ∃ s ∈ exec (guarded (step sevenPorts oneOfEither) (SparesVirtualPorts sevenPorts))
        (init (PEquiv.single "eth0" 7))
        (calls (linkedSwitches ++ [.detachPortFromSwitchAtPortNum 2 3, .destroySwitchByDpid 1])),
      s.pipeline.ports "vlink0_0" = none ∧ Topology sevenPorts oneOfEither s := by
  have hexec : ∃ s ∈ exec (guarded (step sevenPorts oneOfEither) (SparesVirtualPorts sevenPorts))
      (init (PEquiv.single "eth0" 7))
      (calls (linkedSwitches ++ [.detachPortFromSwitchAtPortNum 2 3, .destroySwitchByDpid 1])),
        s.pipeline.ports "vlink0_0" = none := by decide
  obtain ⟨s, hs, hgone⟩ := hexec
  exact ⟨s, hs, hgone, topology_of_run documented_sevenPorts _ _ (run_of_exec_guarded hs)⟩

/-- The first switch is destroyed while its end of the link is attached: the other end is still
attached, and cannot be detached any more. -/
theorem not_topology_linkedSwitches : ¬ ∀ api : PhysicalSwitchApi, api.Documented →
    ∀ (cnt : GroupCounts) (found : String ≃. ℕ) (calls : List HalCall) (s : Driver),
      Run (step api cnt) anyStep (init found) calls s → Topology api cnt s := by
  intro hall
  have hexec : ∃ s ∈ exec (step sevenPorts oneOfEither) (init (PEquiv.single "eth0" 7))
      (calls (linkedSwitches ++ [.destroySwitchByDpid 1])),
        (∃ port ∈ s.pipeline.ports "vlink0_1", port.attachedSw = some 2) ∧
        (detachPortFromSwitch sevenPorts oneOfEither (fun _ _ => false) 2 "vlink0_1" s).isSome =
          false := by decide
  obtain ⟨s, hs, ⟨port, hport, hsw⟩, hfails⟩ := hexec
  have htopology := hall sevenPorts documented_sevenPorts _ _ _ s (run_of_exec hs)
  exact absurd ((htopology.detachable (fun _ _ => false) "vlink0_1" port 2 hport hsw).symm.trans
    hfails) nofun

end Xdpd.Hal.Driver
