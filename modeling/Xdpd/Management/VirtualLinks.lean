import Xdpd.Management.PortManager

/-!
# The cache of virtual links

`connect_switches` enters both ends of a new link into the cache, and the notification that a port
was deleted takes one end out of it, unless the port is blacklisted.  The driver reports the two
ends of a link in two notifications, which it sends within one call when it deletes the link itself.

The cache is right after every call in the runs in which links are deleted as a whole, and while
neither of their ends is blacklisted: `right_of_whole`.
-/

namespace Xdpd.Management.Ports

/-- The port manager, and the deletions that the driver has not reported yet. -/
structure Links where
  manager : PortManager
  pending : List String

/-- What happens to the port manager: the calls of its functions, and what the driver does by
itself. -/
inductive Event where
  | connectSwitches (dpid1 dpid2 : Dpid) (switchesExist : Bool) (name1 name2 : String)
    (result : ConnectResult)
  | attachPortToSwitch (dpid : Dpid) (name : String) (switchExists : Bool) (result : AttachResult)
  | detachPortFromSwitch (dpid : Dpid) (name : String) (result : DetachResult)
  | blacklist (name : String)
  | whitelist (name : String)
  /-- the driver deletes a port -/
  | deletePort (name : String)
  /-- the driver reports that it has deleted a port -/
  | notifyPortDelete (name : String)
  deriving DecidableEq

/-- The ports that the driver has found. -/
def Links.init (ports : String → Option SwitchPort) : Links := ⟨.init ports, []⟩

/-- A section that waits for the mutex. -/
def Links.section (l : Links) (p : Return × PortManager) : Option Links :=
  if l.manager.locked then none else some { l with manager := p.2 }

/-- One event.  The driver gives new links names that it does not use. -/
def event (l : Links) : Event → Option Links
  | .connectSwitches dpid1 dpid2 switchesExist name1 name2 result =>
      if name1 = name2 ∨ l.manager.ports name1 ≠ none ∨ l.manager.ports name2 ≠ none then none
      else l.section (connectSection l.manager dpid1 dpid2 switchesExist name1 name2 result)
  | .attachPortToSwitch dpid name switchExists result =>
      if name ∈ l.manager.blacklisted then some l
      else l.section (attachSection l.manager dpid name switchExists result)
  | .detachPortFromSwitch dpid name result =>
      l.section (detachSection l.manager dpid name result)
  | .blacklist name =>
      if l.manager.ports name = none ∨ name ∈ l.manager.blacklisted then some l
      else l.section (blacklistSection l.manager name)
  | .whitelist name =>
      if l.manager.ports name = none ∨ name ∉ l.manager.blacklisted then some l
      else l.section (whitelistSection l.manager name)
  | .deletePort name => some ⟨l.manager.removePort name, name :: l.pending⟩
  | .notifyPortDelete name =>
      if name ∈ l.pending then
        some ⟨notifyPortDelete l.manager name, l.pending.erase name⟩
      else none

/-- The port is an end of a virtual link. -/
def PortManager.IsVirtual (s : PortManager) (name : String) : Prop :=
  ∃ port pair, s.ports name = some port ∧ port.type = .virtual pair

/-- The cache is symmetric, has no names but those of virtual ports, once all deletions have been
reported, and has no entries for names that the driver may use for a new link. -/
structure Right (l : Links) : Prop where
  symmetric : ∀ a b, l.manager.vlinks a = some b ↔ l.manager.vlinks b = some a
  exist : l.pending = [] → ∀ a b, l.manager.vlinks a = some b →
    l.manager.IsVirtual a ∧ l.manager.IsVirtual b
  new : ∀ a b, l.manager.ports a = none → l.manager.ports b = none →
    addVlink l.manager.vlinks a b ≠ none

/-- The other end of a link. -/
def PortType.pair : PortType → Option String
  | physical => none
  | nf _ => none
  | virtual pair => some pair

/-- The cache has the link, and neither end is blacklisted, or it has neither of the ends. -/
def PortManager.WholeLink (s : PortManager) (name pair : String) : Prop :=
  (s.vlinks name = some pair ∧ name ∉ s.blacklisted ∧ pair ∉ s.blacklisted) ∨
    (s.vlinks name = none ∧ s.vlinks pair = none)

instance (s : PortManager) (name pair : String) : Decidable (s.WholeLink name pair) :=
  inferInstanceAs (Decidable ((_ ∧ _ ∧ _) ∨ (_ ∧ _)))

/-- A link is deleted as a whole: by a call that detaches one of its ends, while the other one is
attached as well and neither is blacklisted.  A port that is deleted or reported alone is not in the
cache. -/
def Whole (l : Links) : Event → Prop
  | .detachPortFromSwitch dpid name result => result = .success →
      ∀ port ∈ l.manager.ports name, port.attachedSw = some dpid →
        ∀ pair ∈ port.type.pair, l.manager.Attached pair → l.manager.WholeLink name pair
  | .deletePort name => l.manager.vlinks name = none
  | .notifyPortDelete name => l.manager.vlinks name = none ∨ name ∈ l.manager.blacklisted
  | _ => True

instance (l : Links) (e : Event) : Decidable (Whole l e) := by
  cases e <;> unfold Whole <;> infer_instance

/-! ## The invariant -/

/-- Each entry of the cache has its counterpart, and its ports are those of a link. -/
def LinkInv (s : PortManager) : Prop :=
  ∀ a b, s.vlinks a = some b → s.vlinks b = some a ∧
    ∃ port, s.ports a = some port ∧ port.type = .virtual b

namespace LinkInv

variable {s : PortManager} {name pair : String} {port : SwitchPort}

/-- A name that the driver does not use is not in the cache. -/
lemma vlinks_eq_none (h : LinkInv s) (hname : s.ports name = none) : s.vlinks name = none := by
  rw [Option.eq_none_iff_forall_ne_some]
  intro b hb
  obtain ⟨-, port, hport, -⟩ := h name b hb
  exact absurd (hname.symm.trans hport) (by simp)

/-- Changes that touch neither the cache nor the types of its ports. -/
lemma of_ports (h : LinkInv s) {s' : PortManager} (hvlinks : s'.vlinks = s.vlinks)
    (hports : ∀ a b port, s.vlinks a = some b → s.ports a = some port → port.type = .virtual b →
      ∃ port', s'.ports a = some port' ∧ port'.type = .virtual b) : LinkInv s' := by
  intro a b hab
  rw [hvlinks] at hab
  obtain ⟨hba, port, hport, htype⟩ := h a b hab
  rw [hvlinks]
  exact ⟨hba, hports a b port hab hport htype⟩

lemma setAttached (h : LinkInv s) (hport : s.ports name = some port) (sw : Option Dpid) :
    LinkInv (s.setAttached name port sw) := by
  refine h.of_ports rfl fun a b port' _ hport' htype => ?_
  by_cases hne : a = name
  · subst hne
    obtain rfl := Option.some.inj (hport.symm.trans hport')
    exact ⟨_, Function.update_self _ _ _, htype⟩
  · refine ⟨port', ?_, htype⟩
    simp only [PortManager.setAttached, Function.update_of_ne hne]
    exact hport'

/-- A port that is not in the cache is removed. -/
lemma removePort (h : LinkInv s) (hname : s.vlinks name = none) : LinkInv (s.removePort name) := by
  refine h.of_ports rfl fun a b port hab hport htype => ⟨port, ?_, htype⟩
  have hne : a ≠ name := by
    rintro rfl
    exact absurd (hname.symm.trans hab) nofun
  simp only [PortManager.removePort, Function.update_of_ne hne]
  exact hport

/-- The driver creates a pair with new names. -/
lemma createPair (h : LinkInv s) {name1 name2 : String} (hname1 : s.ports name1 = none)
    (hname2 : s.ports name2 = none) (sw1 sw2 : Option Dpid) :
    LinkInv (s.createPair name1 name2 sw1 sw2) := by
  refine h.of_ports rfl fun a b port _ hport htype => ⟨port, ?_, htype⟩
  have hne1 : a ≠ name1 := by
    rintro rfl
    exact absurd (hname1.symm.trans hport) (by simp)
  have hne2 : a ≠ name2 := by
    rintro rfl
    exact absurd (hname2.symm.trans hport) (by simp)
  simp only [PortManager.createPair, Function.update_of_ne hne1, Function.update_of_ne hne2]
  exact hport

/-- The new link is entered into the cache. -/
lemma addVlink (h : LinkInv s) {name1 name2 : String} (hne : name1 ≠ name2)
    {port1 port2 : SwitchPort} (hport1 : s.ports name1 = some port1)
    (htype1 : port1.type = .virtual name2) (hport2 : s.ports name2 = some port2)
    (htype2 : port2.type = .virtual name1) {vlinks : String → Option String}
    (hvlinks : addVlink s.vlinks name1 name2 = some vlinks) :
    LinkInv { s with vlinks := vlinks } := by
  rw [Ports.addVlink] at hvlinks
  split at hvlinks
  · exact absurd hvlinks nofun
  next hnone =>
    rw [not_or, not_not, not_not] at hnone
    obtain rfl := Option.some.inj hvlinks
    intro a b hab
    dsimp only at hab ⊢
    by_cases ha2 : a = name2
    · subst ha2
      rw [Function.update_self] at hab
      obtain rfl := Option.some.inj hab
      rw [Function.update_of_ne hne, Function.update_self]
      exact ⟨rfl, port2, hport2, htype2⟩
    · rw [Function.update_of_ne ha2] at hab
      by_cases ha1 : a = name1
      · subst ha1
        rw [Function.update_self] at hab
        obtain rfl := Option.some.inj hab
        rw [Function.update_self]
        exact ⟨rfl, port1, hport1, htype1⟩
      · -- an older link does not have one of the new names
        rw [Function.update_of_ne ha1] at hab
        obtain ⟨hba, hport⟩ := h a b hab
        have hb1 : b ≠ name1 := by
          rintro rfl
          exact absurd (hnone.1.symm.trans hba) nofun
        have hb2 : b ≠ name2 := by
          rintro rfl
          exact absurd (hnone.2.symm.trans hba) nofun
        rw [Function.update_of_ne hb2, Function.update_of_ne hb1]
        exact ⟨hba, hport⟩

/-- Both ends of a link are taken out of the cache. -/
lemma eraseLink (h : LinkInv s) (hlink : s.vlinks name = some pair) :
    LinkInv { s with
      vlinks := Function.update (Function.update s.vlinks pair none) name none } := by
  intro a b hab
  dsimp only at hab ⊢
  by_cases haname : a = name
  · rw [haname, Function.update_self] at hab
    exact absurd hab nofun
  · rw [Function.update_of_ne haname] at hab
    by_cases hapair : a = pair
    · rw [hapair, Function.update_self] at hab
      exact absurd hab nofun
    · rw [Function.update_of_ne hapair] at hab
      obtain ⟨hba, hport⟩ := h a b hab
      have hbname : b ≠ name := by
        rintro rfl
        exact hapair (Option.some.inj (hba.symm.trans hlink))
      have hbpair : b ≠ pair := by
        rintro rfl
        exact haname (Option.some.inj (hba.symm.trans (h name b hlink).1))
      rw [Function.update_of_ne hbname, Function.update_of_ne hbpair]
      exact ⟨hba, hport⟩

end LinkInv

section Notifications

variable {s : PortManager} {name pair : String}

/-- A notification that is not filtered takes its port out of the cache. -/
lemma notifyPortDelete_of_notMem (hname : name ∉ s.blacklisted) :
    notifyPortDelete s name = { s with vlinks := Function.update s.vlinks name none } := by
  rw [notifyPortDelete, if_neg hname]
  split
  · rfl
  · next hvlink =>
    rw [isVlink, Bool.not_eq_true, Option.isSome_eq_false_iff, Option.isNone_iff_eq_none] at hvlink
    rw [← hvlink, Function.update_eq_self]

/-- A notification for a port that is not in the cache does nothing, and neither does one that is
filtered. -/
lemma notifyPortDelete_eq_self (h : s.vlinks name = none ∨ name ∈ s.blacklisted) :
    notifyPortDelete s name = s := by
  by_cases hname : name ∈ s.blacklisted
  · rw [notifyPortDelete, if_pos hname]
  · rw [notifyPortDelete_of_notMem hname]
    have hnone := h.resolve_right hname
    rw [← hnone, Function.update_eq_self]

/-- A whole link is deleted. -/
lemma LinkInv.deleteLink (h : LinkInv s) (hwhole : s.WholeLink name pair) :
    LinkInv (deleteLink s name pair) := by
  rcases hwhole with ⟨hlink, hname, hpair⟩ | ⟨hname, hpair⟩
  · have heq : Ports.deleteLink s name pair =
        (PortManager.removePort { s with
          vlinks := Function.update (Function.update s.vlinks pair none) name none }
            name).removePort pair := by
      rw [Ports.deleteLink, notifyPortDelete_of_notMem hpair]
      exact notifyPortDelete_of_notMem hname
    have herased := h.eraseLink hlink
    rw [heq]
    refine (herased.removePort (Function.update_self _ _ _)).removePort ?_
    by_cases hne : pair = name
    · exact hne ▸ Function.update_self _ _ _
    · exact (Function.update_of_ne hne _ _).trans (Function.update_self _ _ _)
  · have heq : Ports.deleteLink s name pair = (s.removePort name).removePort pair := by
      rw [Ports.deleteLink, notifyPortDelete_eq_self (.inl hpair)]
      exact notifyPortDelete_eq_self (.inl hname)
    rw [heq]
    exact (h.removePort hname).removePort hpair

end Notifications

namespace LinkInv

variable {s : PortManager}

lemma attachSection (h : LinkInv s) (dpid : Dpid) (name : String) (switchExists : Bool)
    (result : AttachResult) : LinkInv (attachSection s dpid name switchExists result).2 := by
  rw [Ports.attachSection]
  split
  · exact h
  · next port hport =>
    split
    · exact h
    · cases result with
      | success => exact h.setAttached hport _
      | failure => exact h
      | failureOfIomanager => exact h.setAttached hport _

lemma blacklistSection (h : LinkInv s) (name : String) : LinkInv (blacklistSection s name).2 := by
  rw [Ports.blacklistSection]
  split
  · exact h
  · split <;> exact h

lemma detachSection (h : LinkInv s) (dpid : Dpid) (name : String) (result : DetachResult)
    (hwhole : result = .success → ∀ port ∈ s.ports name, port.attachedSw = some dpid →
      ∀ pair ∈ port.type.pair, s.Attached pair → s.WholeLink name pair) :
    LinkInv (detachSection s dpid name result).2 := by
  rw [Ports.detachSection]
  split
  · exact h
  next port hport =>
    split
    · exact h
    next hdpid =>
      split
      · exact h
      next hattached =>
        have hsw : port.attachedSw = some dpid := by
          obtain ⟨sw, hsw⟩ := Option.ne_none_iff_exists'.mp hattached
          rw [not_not, hsw] at hdpid
          rw [hsw, ← hdpid]
          rfl
        rcases halDetach_cases s name port result with heq | heq | ⟨pair, hres, htype, hpair, heq⟩
        · rw [heq]
          exact h
        · rw [heq]
          exact h.setAttached hport none
        · rw [heq]
          have hmem : pair ∈ port.type.pair := by rw [htype]; rfl
          exact (h.setAttached hport none).deleteLink (hwhole hres port hport hsw pair hmem hpair)

lemma connectSection (h : LinkInv s) {name1 name2 : String} (hne : name1 ≠ name2)
    (hname1 : s.ports name1 = none) (hname2 : s.ports name2 = none) (dpid1 dpid2 : Dpid)
    (switchesExist : Bool) (result : ConnectResult) :
    LinkInv (connectSection s dpid1 dpid2 switchesExist name1 name2 result).2 := by
  unfold Ports.connectSection
  split
  · exact h
  · cases result with
    | failure => exact h
    | failureAfterCreation sw1 sw2 => exact h.createPair hname1 hname2 sw1 sw2
    | success =>
        have hpair := h.createPair hname1 hname2 (some dpid1) (some dpid2)
        have hport1 : (s.createPair name1 name2 (some dpid1) (some dpid2)).ports name1 =
            some ⟨.virtual name2, some dpid1⟩ :=
          (Function.update_of_ne hne _ _).trans (Function.update_self _ _ _)
        have hport2 : (s.createPair name1 name2 (some dpid1) (some dpid2)).ports name2 =
            some ⟨.virtual name1, some dpid2⟩ := Function.update_self _ _ _
        dsimp only
        split
        · exact hpair
        · next vlinks hvlinks => exact hpair.addVlink hne hport1 rfl hport2 rfl hvlinks

/-- What the invariant gives. -/
lemma right {l : Links} (h : LinkInv l.manager) : Right l := by
  refine ⟨fun a b => ⟨fun hab => (h a b hab).1, fun hba => (h b a hba).1⟩, ?_, ?_⟩
  · intro _ a b hab
    obtain ⟨hba, port, hport, htype⟩ := h a b hab
    obtain ⟨-, port', hport', htype'⟩ := h b a hba
    exact ⟨⟨port, b, hport, htype⟩, port', a, hport', htype'⟩
  · intro a b ha hb
    rw [Ports.addVlink, h.vlinks_eq_none ha, h.vlinks_eq_none hb]
    exact nofun

end LinkInv

lemma section_eq_some {l l' : Links} {p : Return × PortManager} (h : l.section p = some l') :
    l'.manager = p.2 := by
  rw [Links.section] at h
  split at h <;> cases h
  rfl

/-- **Every event keeps the invariant** under which links are deleted as a whole. -/
lemma LinkInv.event {l l' : Links} (h : LinkInv l.manager) {e : Event} (hwhole : Whole l e)
    (hevent : event l e = some l') : LinkInv l'.manager := by
  cases e with
  | connectSwitches dpid1 dpid2 switchesExist name1 name2 result =>
      rw [Ports.event] at hevent
      split at hevent
      · cases hevent
      next hnew =>
        simp only [not_or, not_not] at hnew
        rw [section_eq_some hevent]
        exact h.connectSection hnew.1 hnew.2.1 hnew.2.2 dpid1 dpid2 switchesExist result
  | attachPortToSwitch dpid name switchExists result =>
      rw [Ports.event] at hevent
      split at hevent
      · cases hevent
        exact h
      · rw [section_eq_some hevent]
        exact h.attachSection dpid name switchExists result
  | detachPortFromSwitch dpid name result =>
      rw [Ports.event] at hevent
      rw [section_eq_some hevent]
      exact h.detachSection dpid name result hwhole
  | blacklist name =>
      rw [Ports.event] at hevent
      split at hevent
      · cases hevent
        exact h
      · rw [section_eq_some hevent]
        exact h.blacklistSection name
  | whitelist name =>
      rw [Ports.event] at hevent
      split at hevent
      · cases hevent
        exact h
      · rw [section_eq_some hevent]
        exact h
  | deletePort name =>
      rw [Ports.event] at hevent
      cases hevent
      exact h.removePort hwhole
  | notifyPortDelete name =>
      rw [Ports.event] at hevent
      split at hevent
      · cases hevent
        dsimp only
        rw [notifyPortDelete_eq_self hwhole]
        exact h
      · cases hevent

/-- **The cache of virtual links.**  In every run in which links are deleted as a whole and while
neither end is blacklisted, the cache is right after every call. -/
theorem right_of_whole (ports : String → Option SwitchPort) {events : List Event} {l : Links}
    (hrun : Lib.Run event Whole (.init ports) events l) : Right l := by
  have hstep : ∀ (l : Links) e l', LinkInv l.manager → Whole l e → event l e = some l' →
      LinkInv l'.manager := by
    intro l e l' hinv hwhole hevent
    exact hinv.event hwhole hevent
  have hinv : LinkInv l.manager := hrun.invariant hstep nofun
  exact hinv.right

/-- A link is made, deleted, and made again under the same names. -/
def reusedNames : List Event :=
  [.connectSwitches 1 2 true "vlink0_0" "vlink0_1" .success,
    .detachPortFromSwitch 2 "vlink0_1" .success,
    .connectSwitches 3 4 true "vlink0_1" "vlink0_0" .success]

theorem right_reusedNames :
    ∃ l ∈ Lib.exec (Lib.guarded event Whole) (.init fun _ => none) reusedNames,
      l.manager.vlinks "vlink0_0" = some "vlink0_1" ∧ Right l := by
  have hexec : ∃ l ∈ Lib.exec (Lib.guarded event Whole) (.init fun _ => none) reusedNames,
      l.manager.vlinks "vlink0_0" = some "vlink0_1" := by decide
  obtain ⟨l, hl, hlink⟩ := hexec
  exact ⟨l, hl, hlink, right_of_whole _ (Lib.run_of_exec_guarded hl)⟩

/-- The driver deletes one end of a link and reports it: the other end stays in the cache. -/
theorem not_right_of_oneEnd : ¬ ∀ (events : List Event) (l : Links),
    Lib.Run event Lib.anyStep (.init fun _ => none) events l → Right l := by
  intro hall
  have hexec : ∃ l ∈ Lib.exec event (.init fun _ => none)
      [.connectSwitches 1 2 true "vlink0_0" "vlink0_1" .success, .deletePort "vlink0_0",
        .notifyPortDelete "vlink0_0"],
      l.manager.vlinks "vlink0_1" = some "vlink0_0" ∧ l.manager.vlinks "vlink0_0" = none := by
    decide
  obtain ⟨l, hl, hleft, herased⟩ := hexec
  have hsym := ((hall _ l (Lib.run_of_exec hl)).symmetric _ _).mp hleft
  exact absurd (herased.symm.trans hsym) nofun

end Xdpd.Management.Ports
