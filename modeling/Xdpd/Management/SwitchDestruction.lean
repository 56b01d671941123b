import Mathlib.Data.Set.Finite.Basic
import Mathlib.Data.Finset.Sort
import Xdpd.Lib.Transition
import Xdpd.Management.Destruction
import Xdpd.Management.VirtualLinks

/-!
# The destruction of a switch

`destroy_switch` takes a snapshot of the switch and detaches the ports that the snapshot has, one
after the other.  When an end of a virtual link is detached the driver deletes the other end as
well, which may be a port of the snapshot that the loop has not come to yet.

`destroys_iff` tells for which switches the call goes through, in every state that the calls of the
two managers lead to.  The invariant is that the two ends of a link know each other.
-/

namespace Xdpd.Management.NodeOrchestrator

open Xdpd.Lib Ports

/-! ## Calls -/

/-- The switches and the ports, and `dpid_under_destruction`. -/
structure Switches where
  resources : Resources
  dpidUnderDestruction : Dpid

/-- No switches, and the physical ports that the driver has found. -/
def Switches.init (names : Finset String) : Switches where
  resources :=
    (Node.init fun name => if name ∈ names then some ⟨.physical, none⟩ else none).resources
  dpidUnderDestruction := 0

/-- A call of one of the managers, with what the driver answers. -/
inductive Command
  | createSwitch (dpid : Dpid) (dpname : String) (constructed : Bool)
  | attachPortToSwitch (dpid : Dpid) (name : String) (validNumber : Bool) (result : AttachResult)
  | connectSwitches (dpid1 dpid2 : Dpid) (l : VirtualLink)
  | detachPortFromSwitch (dpid : Dpid) (name : String) (result : DetachResult)

def Command.call : Command → Call Unit Resources
  | createSwitch dpid dpname constructed => NodeOrchestrator.createSwitch dpid dpname constructed
  | attachPortToSwitch dpid name validNumber result =>
      NodeOrchestrator.attachPortToSwitch dpid name validNumber result
  | connectSwitches dpid1 dpid2 l => NodeOrchestrator.connectSwitches dpid1 dpid2 l
  | detachPortFromSwitch dpid name result =>
      NodeOrchestrator.detachPortFromSwitch dpid name result

/-- A call is made, and returns or throws. -/
def Switches.step (s : Switches) (c : Command) : Option Switches :=
  some { s with resources := (c.call s.resources).2 }

/-- `destroy_switch`, with the variable.  It is set before the ports are detached, and reset at the
end. -/
def Switches.destroySwitch (dpid : Dpid) (snapshot : Option (List Detach)) : Call Unit Switches :=
  fun s =>
    if s.resources.switchExists dpid = true ∧ snapshot ≠ none then
      match NodeOrchestrator.destroySwitch dpid snapshot s.resources with
      | (some e, r) => (some e, ⟨r, dpid⟩)
      | (none, r) => (none, ⟨r, 0⟩)
    else (some (), s)

/-! ## What is to come of it -/

/-- The ports that the driver puts into a snapshot of the switch. -/
structure Resources.IsSnapshot (s : Resources) (dpid : Dpid) (names : List String) : Prop where
  nodup : names.Nodup
  attached : ∀ name, name ∈ names ↔ s.AttachedTo dpid name

/-- The calls to the driver, which has no reason of its own to fail. -/
def detaches (names : List String) : List Detach :=
  names.map fun name => ⟨name, .success⟩

/-- The driver detaches each port that is still attached when the loop comes to it. -/
def Resources.HalSucceeds (s : Resources) (dpid : Dpid) (names : List String) : Prop :=
  ∀ pre name post, names = pre ++ name :: post →
    (Call.forEach (Detach.call dpid) (detaches pre)).Returns s →
      (Call.forEach (Detach.call dpid) (detaches pre) s).2.AttachedTo dpid name →
        (Call.forEach (Detach.call dpid) (detaches pre) s).2.Detachable dpid ⟨name, .success⟩

/-- The switch is destroyed, with its ports and links, and nothing else. -/
structure Switches.Destroyed (s : Switches) (dpid : Dpid) (p : Option Unit × Switches) :
    Prop where
  returns : p.1 = none
  switchs : p.2.resources.switchs = s.resources.switchs.filter fun sw => sw.1 ≠ dpid
  detached : ∀ name, ¬ p.2.resources.AttachedTo dpid name
  links : ∀ name port pair, s.resources.manager.ports name = some port →
    port.attachedSw = some dpid → port.type = .virtual pair →
      ∀ other, other = name ∨ other = pair → p.2.resources.manager.ports other = none ∧
        p.2.resources.manager.vlinks other = none
  others : ∀ name port sw, s.resources.manager.ports name = some port →
    port.attachedSw = some sw → sw ≠ dpid →
      (∀ pair, port.type = .virtual pair → ¬ s.resources.AttachedTo dpid pair) →
        p.2.resources.manager.ports name = some port
  reset : p.2.dpidUnderDestruction = 0

/-- Unless the driver fails, the switch is destroyed. -/
def Switches.Destroys (s : Switches) (dpid : Dpid) (names : List String) : Prop :=
  s.resources.HalSucceeds dpid names →
    s.Destroyed dpid (Switches.destroySwitch dpid (some (detaches names)) s)

/-- The loop comes to the second end of a link that it has deleted. -/
def Resources.LoopsBack (s : Resources) (dpid : Dpid) (names : List String) : Prop :=
  ∃ pre name post, names = pre ++ name :: post ∧
    (∀ q ∈ pre, s.Detachable dpid ⟨q, .success⟩) ∧ ∃ q ∈ pre, s.IsEnd q name

/-! ## The invariant -/

/-- The ends of a link know each other, no port is blacklisted, and there are finitely many. -/
structure Resources.Paired (s : Resources) : Prop where
  paired : ∀ name port pair, s.manager.ports name = some port → port.type = .virtual pair →
    pair ≠ name ∧ ∃ port', s.manager.ports pair = some port' ∧ port'.type = .virtual name
  blacklisted : s.manager.blacklisted = ∅
  finite : {name | s.manager.ports name ≠ none}.Finite

namespace Resources.Paired

variable {s s' : Resources} {name : String} {port : SwitchPort}

/-- A port keeps its type. -/
lemma withPort (h : s.Paired) (hport : s.manager.ports name = some port) (sw : Option Dpid) :
    (s.withPort name { port with attachedSw := sw }).Paired := by
  have htypes : ∀ other port',
      (s.withPort name { port with attachedSw := sw }).manager.ports other = some port' →
        ∃ port'', s.manager.ports other = some port'' ∧ port''.type = port'.type := by
    intro other port' hport'
    by_cases hne : other = name
    · rw [hne, ports_withPort_self] at hport'
      rw [hne, ← Option.some.inj hport']
      exact ⟨port, hport, rfl⟩
    · rw [ports_withPort_of_ne hne] at hport'
      exact ⟨port', hport', rfl⟩
  refine ⟨fun other port' pair hport' htype => ?_, h.blacklisted, h.finite.subset ?_⟩
  · obtain ⟨port₀, hport₀, hsame⟩ := htypes other port' hport'
    obtain ⟨hne, port₁, hport₁, htype₁⟩ := h.paired other port₀ pair hport₀ (hsame.trans htype)
    refine ⟨hne, ?_⟩
    by_cases hpair : pair = name
    · rw [hpair] at hport₁ ⊢
      obtain rfl := Option.some.inj (hport.symm.trans hport₁)
      exact ⟨_, ports_withPort_self, htype₁⟩
    · exact ⟨port₁, (ports_withPort_of_ne hpair).trans hport₁, htype₁⟩
  · intro other hother
    obtain ⟨port', hport'⟩ := Option.ne_none_iff_exists'.mp hother
    obtain ⟨port'', hport'', -⟩ := htypes other port' hport'
    change s.manager.ports other ≠ none
    rw [hport'']
    exact nofun

/-- The new link has two names that are not used. -/
lemma createPair (h : s.Paired) {l : VirtualLink} (hunused : s.Unused l) {sw1 sw2 : Option Dpid}
    {vlinks : String → Option String} : Paired { s with manager :=
      { s.manager.createPair l.name1 l.name2 sw1 sw2 with vlinks := vlinks } } := by
  obtain ⟨hne, hname1, hname2⟩ := hunused
  have hport1 : (s.manager.createPair l.name1 l.name2 sw1 sw2).ports l.name1 =
      some ⟨.virtual l.name2, sw1⟩ :=
    (Function.update_of_ne hne _ _).trans (Function.update_self _ _ _)
  have hport2 : (s.manager.createPair l.name1 l.name2 sw1 sw2).ports l.name2 =
      some ⟨.virtual l.name1, sw2⟩ := Function.update_self _ _ _
  refine ⟨fun other port pair hport htype => ?_, h.blacklisted, ?_⟩
  · change (s.manager.createPair l.name1 l.name2 sw1 sw2).ports other = some port at hport
    change pair ≠ other ∧ ∃ port', (s.manager.createPair l.name1 l.name2 sw1 sw2).ports pair =
      some port' ∧ port'.type = .virtual other
    by_cases h1 : other = l.name1
    · subst h1
      obtain rfl := Option.some.inj (hport1.symm.trans hport)
      obtain rfl := PortType.virtual.inj htype
      exact ⟨hne.symm, _, hport2, rfl⟩
    · by_cases h2 : other = l.name2
      · subst h2
        obtain rfl := Option.some.inj (hport2.symm.trans hport)
        obtain rfl := PortType.virtual.inj htype
        exact ⟨hne, _, hport1, rfl⟩
      · rw [ports_createPair_of_ne h1 h2] at hport
        obtain ⟨hpair, port', hport', htype'⟩ := h.paired other port pair hport htype
        have hpair1 : pair ≠ l.name1 := by
          rintro rfl
          exact absurd (hname1.symm.trans hport') (by simp)
        have hpair2 : pair ≠ l.name2 := by
          rintro rfl
          exact absurd (hname2.symm.trans hport') (by simp)
        exact ⟨hpair, port', (ports_createPair_of_ne hpair1 hpair2).trans hport', htype'⟩
  · refine ((h.finite.insert l.name1).insert l.name2).subset fun other hother => ?_
    change (s.manager.createPair l.name1 l.name2 sw1 sw2).ports other ≠ none at hother
    by_cases h2 : other = l.name2
    · exact .inl h2
    · by_cases h1 : other = l.name1
      · exact .inr (.inl h1)
      · rw [ports_createPair_of_ne h1 h2] at hother
        exact .inr (.inr hother)

/-- Both ends of a link are gone. -/
lemma deleteLink (h : s.Paired) (hport : s.manager.ports name = some port) {pair : String}
    (htype : port.type = .virtual pair) : Paired { s with
      manager := Ports.deleteLink (s.manager.setAttached name port none) name pair } := by
  have hports : ∀ other port', (Ports.deleteLink (s.manager.setAttached name port none) name
      pair).ports other = some port' →
        other ≠ name ∧ other ≠ pair ∧ s.manager.ports other = some port' := by
    intro other port' hport'
    have hnot : ¬ (other = name ∨ other = pair) := fun hend =>
      absurd ((ports_deleteLink_eq_none hend).symm.trans hport') (by simp)
    rw [not_or] at hnot
    refine ⟨hnot.1, hnot.2, ?_⟩
    rw [(ports_deleteLink_of_ne hnot.1 hnot.2).1] at hport'
    exact (Function.update_of_ne hnot.1 _ _).symm.trans hport'
  refine ⟨fun other port' pair' hport' htype' => ?_, ?_, h.finite.subset fun other hother => ?_⟩
  · obtain ⟨hname, hpair, hold⟩ := hports other port' hport'
    obtain ⟨hne, port₁, hport₁, htype₁⟩ := h.paired other port' pair' hold htype'
    -- the other end of a link that stays is none of the two
    have hname' : pair' ≠ name := by
      rintro rfl
      obtain rfl := Option.some.inj (hport.symm.trans hport₁)
      exact hpair (PortType.virtual.inj (htype₁.symm.trans htype))
    have hpair' : pair' ≠ pair := by
      rintro rfl
      obtain ⟨-, port₂, hport₂, htype₂⟩ := h.paired name port pair' hport htype
      obtain rfl := Option.some.inj (hport₁.symm.trans hport₂)
      exact hname (PortType.virtual.inj (htype₁.symm.trans htype₂))
    refine ⟨hne, port₁, ?_, htype₁⟩
    exact (ports_deleteLink_of_ne hname' hpair').1.trans
      ((Function.update_of_ne hname' _ _).trans hport₁)
  · exact (blacklisted_deleteLink _ name pair).trans h.blacklisted
  · obtain ⟨port', hport'⟩ := Option.ne_none_iff_exists'.mp hother
    change s.manager.ports other ≠ none
    rw [(hports other port' hport').2.2]
    simp

lemma detach (h : s.Paired) (dpid : Dpid) (p : Detach) : (p.call dpid s).2.Paired := by
  by_cases hdetaches : s.Detaches dpid p
  · obtain ⟨port, hport, hs' | ⟨pair, htype, -, hs'⟩⟩ := detach_cases hdetaches
    · rw [hs']
      exact h.withPort hport none
    · rw [hs']
      exact h.deleteLink hport htype
  · rw [(detach_of_not_detaches hdetaches).2]
    exact h

/-- **Every call keeps the invariant.** -/
lemma call (h : s.Paired) (c : Command) : (c.call s).2.Paired := by
  cases c with
  | createSwitch dpid dpname constructed =>
      have hmanager : (createSwitch dpid dpname constructed s).2.manager = s.manager := by
        rw [createSwitch]
        split
        · rfl
        · split <;> rfl
      refine ⟨?_, ?_, ?_⟩
      · intro name port pair
        rw [Command.call, hmanager]
        exact h.paired name port pair
      · exact (congrArg PortManager.blacklisted hmanager).trans h.blacklisted
      · rw [Command.call, hmanager]
        exact h.finite
  | attachPortToSwitch dpid name validNumber result =>
      rw [Command.call]
      by_cases hreaches : s.Reaches dpid name validNumber result
      · obtain ⟨port, hport⟩ := Option.ne_none_iff_exists'.mp hreaches.2.2.1
        rw [(attachPortToSwitch_of_reaches hreaches hport).2]
        exact h.withPort hport (some dpid)
      · rw [(attachPortToSwitch_of_not_reaches hreaches).2]
        exact h
  | connectSwitches dpid1 dpid2 l =>
      rw [Command.call]
      by_cases hreaches : s.LinkReaches dpid1 dpid2 l
      · obtain ⟨sw1, sw2, vlinks, hs', -⟩ := snd_connectSwitches hreaches
        rw [hs']
        exact h.createPair hreaches.1
      · rw [connectSwitches_of_not_reaches hreaches]
        exact h
  | detachPortFromSwitch dpid name result => exact h.detach dpid ⟨name, result⟩

lemma of_init (names : Finset String) : (Switches.init names).resources.Paired := by
  have hports : ∀ name, (Switches.init names).resources.manager.ports name =
      if name ∈ names then some ⟨.physical, none⟩ else none := fun _ => rfl
  refine ⟨fun name port pair hport htype => ?_, rfl, names.finite_toSet.subset fun name hname => ?_⟩
  · rw [hports] at hport
    split at hport
    · obtain rfl := Option.some.inj hport
      cases htype
    · cases hport
  · by_contra hnot
    exact hname ((hports name).trans (if_neg hnot))

/-- The invariant holds in every state that calls lead to. -/
lemma of_run {names : Finset String} {commands : List Command} {s : Switches}
    (hrun : Run Switches.step anyStep (.init names) commands s) : s.resources.Paired := by
  have hstep : ∀ (s : Switches) c s', s.resources.Paired → anyStep s c →
      Switches.step s c = some s' → s'.resources.Paired := by
    intro s c s' h _ hs'
    obtain rfl := Option.some.inj hs'
    exact h.call c
  exact hrun.invariant hstep (of_init names)

end Resources.Paired

/-- The driver can give a snapshot. -/
lemma exists_isSnapshot {s : Resources} (h : s.Paired) (dpid : Dpid) :
    ∃ names, s.IsSnapshot dpid names := by
  have hfinite : {name | s.AttachedTo dpid name}.Finite := by
    refine h.finite.subset ?_
    rintro name ⟨port, hport, -⟩
    change s.manager.ports name ≠ none
    rw [hport]
    exact nofun
  refine ⟨hfinite.toFinset.toList, hfinite.toFinset.nodup_toList, fun name => ?_⟩
  rw [Finset.mem_toList, Set.Finite.mem_toFinset]
  exact Iff.rfl

/-! ## The loop -/

/-- Both ends of a link that is deleted leave the cache. -/
lemma vlinks_deleteLink_eq_none {s : PortManager} {name pair other : String}
    (h : s.blacklisted = ∅) (hother : other = name ∨ other = pair) :
    (deleteLink s name pair).vlinks other = none := by
  have hfree : ∀ name, name ∉ s.blacklisted := by
    rw [h]
    exact Finset.notMem_empty
  have heq : deleteLink s name pair = (PortManager.removePort { s with
      vlinks := Function.update (Function.update s.vlinks pair none) name none }
        name).removePort pair := by
    rw [deleteLink, notifyPortDelete_of_notMem (hfree pair)]
    exact notifyPortDelete_of_notMem (hfree name)
  rw [heq]
  change Function.update (Function.update s.vlinks pair none) name none other = none
  by_cases hname : other = name
  · rw [hname, Function.update_self]
  · rw [Function.update_of_ne hname, hother.resolve_left hname, Function.update_self]

section Loop

variable {s : Resources} {dpid : Dpid} {ports : List Detach}

/-- After a loop that returns, a port is as before, or it is an end of a link of one of the ports,
and not attached any more. -/
lemma ports_detachEach (h : (Call.forEach (Detach.call dpid) ports).Returns s) (other : String) :
    ((∀ q ∈ ports, ¬ s.IsEnd q.name other) →
      (Call.forEach (Detach.call dpid) ports s).2.manager.ports other = s.manager.ports other) ∧
    ((∃ q ∈ ports, s.IsEnd q.name other) →
      ¬ (Call.forEach (Detach.call dpid) ports s).2.manager.Attached other) := by
  induction ports generalizing s with
  | nil => exact ⟨fun _ => rfl, fun hend => absurd hend nofun⟩
  | cons p ports ih =>
      obtain ⟨hp, hports⟩ := Call.returns_andThen.mp h
      have hdetachable := returns_detach.mp hp
      -- the later ports have the same ends before the first call
      have hends : ∀ q ∈ ports, ((p.call dpid s).2.IsEnd q.name other ↔ s.IsEnd q.name other) :=
        fun q hq => isEnd_detach_iff hdetachable ((returns_detachEach.mp hports).1 q hq) other
      obtain ⟨hsame, hgone⟩ := ih hports
      rw [Call.forEach, Call.andThen_of_returns hp]
      constructor
      · intro hnot
        rw [hsame fun q hq hend => hnot q (List.mem_cons_of_mem p hq) ((hends q hq).mp hend)]
        exact ports_detach_of_not_isEnd (hnot p List.mem_cons_self)
      · rintro ⟨q, hq, hend⟩
        rcases List.mem_cons.mp hq with rfl | hq
        · rintro ⟨port, hport, hattached⟩
          have hshrinking := Call.moves_forEach (shrinking_detach dpid) ports (q.call dpid s).2
          exact not_attached_detach_of_isEnd hdetachable hend
            ⟨port, hshrinking.ports_of_attached hport hattached, hattached⟩
        · exact hgone ⟨q, hq, (hends q hq).mpr hend⟩

/-- The links of the ports leave the cache. -/
lemma vlinks_detachEach (h : (Call.forEach (Detach.call dpid) ports).Returns s)
    (hblacklisted : s.manager.blacklisted = ∅) {q : Detach} (hq : q ∈ ports) {port : SwitchPort}
    (hport : s.manager.ports q.name = some port) {pair : String} (htype : port.type = .virtual pair)
    {other : String} (hother : other = q.name ∨ other = pair) :
    (Call.forEach (Detach.call dpid) ports s).2.manager.vlinks other = none := by
  induction ports generalizing s with
  | nil => exact absurd hq (by simp)
  | cons p ports ih =>
      obtain ⟨hp, hports⟩ := Call.returns_andThen.mp h
      have hdetachable := returns_detach.mp hp
      have hshrinking := shrinking_detach dpid p s
      rw [Call.forEach, Call.andThen_of_returns hp]
      rcases List.mem_cons.mp hq with rfl | hq
      · have hfirst : (q.call dpid s).2.manager.vlinks other = none := by
          obtain ⟨-, port', hport', ⟨hnot, -⟩ | ⟨pair', htype', -, hs'⟩⟩ :=
            detach_of_detachable hdetachable
          · obtain rfl := Option.some.inj (hport.symm.trans hport')
            exact absurd htype (hnot pair)
          · obtain rfl := Option.some.inj (hport.symm.trans hport')
            obtain rfl : pair = pair' := PortType.virtual.inj (htype.symm.trans htype')
            rw [hs']
            exact vlinks_deleteLink_eq_none hblacklisted hother
        have hrest := Call.moves_forEach (shrinking_detach dpid) ports (q.call dpid s).2
        refine Option.eq_none_iff_forall_ne_some.mpr fun x hx => ?_
        exact absurd (hfirst.symm.trans (hrest.vlinks other x hx)) (by simp)
      · have hapart := ((detachable_detach_iff hdetachable).mp
          ((returns_detachEach.mp hports).1 q hq)).2
        have hlater : (p.call dpid s).2.manager.ports q.name = s.manager.ports q.name :=
          ports_detach_of_not_isEnd fun hend => hapart q.name ⟨hend, .inl rfl⟩
        exact ih hports (hshrinking.blacklisted.trans hblacklisted) hq (hlater.trans hport)

end Loop

/-! ## The result -/

section Result

variable {s : Resources} {dpid : Dpid} {names : List String}

lemma mem_detaches {names : List String} {p : Detach} :
    p ∈ detaches names ↔ ∃ name ∈ names, p = ⟨name, .success⟩ := by
  rw [detaches, List.mem_map]
  constructor
  · rintro ⟨name, hname, rfl⟩
    exact ⟨name, hname, rfl⟩
  · rintro ⟨name, hname, rfl⟩
    exact ⟨name, hname, rfl⟩

lemma detaches_append (pre post : List String) :
    detaches (pre ++ post) = detaches pre ++ detaches post := List.map_append

/-- A name that the loop comes to is not one of those before it. -/
lemma Resources.IsSnapshot.ne_of_split (h : s.IsSnapshot dpid names) {pre post : List String}
    {name : String} (hsplit : names = pre ++ name :: post) : name ∉ pre := by
  have hnodup := h.nodup
  rw [hsplit, List.nodup_append] at hnodup
  exact fun hmem => hnodup.2.2 name hmem name List.mem_cons_self rfl

/-- The switch is destroyed when all ports of the snapshot can be detached. -/
lemma destroyed_of_allDetachable {s : Switches} (h : s.resources.Paired)
    (hexists : s.resources.switchExists dpid = true) (hsnapshot : s.resources.IsSnapshot dpid names)
    (hall : s.resources.AllDetachable dpid (detaches names)) :
    s.Destroyed dpid (Switches.destroySwitch dpid (some (detaches names)) s) := by
  have hreturns := (returns_destroySwitch hexists).mpr hall
  have hloop := returns_detachEach.mpr hall
  have hsnd := snd_destroySwitch hexists hall
  set r := (Call.forEach (Detach.call dpid) (detaches names) s.resources).2
  have hcall : Switches.destroySwitch dpid (some (detaches names)) s =
      (none, ⟨(eraseSwitch dpid r).2, 0⟩) := by
    obtain ⟨x, hx⟩ : ∃ x, destroySwitch dpid (some (detaches names)) s.resources = (none, x) :=
      ⟨_, Prod.ext hreturns rfl⟩
    rw [hx] at hsnd
    rw [Switches.destroySwitch, if_pos ⟨hexists, nofun⟩, hx]
    exact congrArg (fun r => (none, Switches.mk r 0)) hsnd
  have hshrinking := Call.moves_forEach (shrinking_detach dpid) (detaches names) s.resources
  rw [hcall]
  refine ⟨rfl, ?_, fun name => ?_, ?_, ?_, rfl⟩
  · change r.switchs.filter _ = _
    rw [hshrinking.switchs]
  · rintro ⟨port, hport, hsw⟩
    have hattached : port.attachedSw ≠ none := by
      rw [hsw]
      exact nofun
    have hbefore := hshrinking.ports_of_attached hport hattached
    have hmem := (hsnapshot.attached name).mpr ⟨port, hbefore, hsw⟩
    exact (ports_detachEach hloop name).2 ⟨_, mem_detaches.mpr ⟨name, hmem, rfl⟩, .inl rfl⟩
      ⟨port, hport, hattached⟩
  · intro name port pair hport hsw htype other hother
    have hmem := mem_detaches.mpr ⟨name, (hsnapshot.attached name).mpr ⟨port, hport, hsw⟩, rfl⟩
    refine ⟨?_, vlinks_detachEach hloop h.blacklisted hmem hport htype hother⟩
    exact (ports_detachEach_eq_none_iff hloop other).mpr
      (.inr ⟨_, hmem, port, hport, pair, htype, hother⟩)
  · intro name port sw hport hsw hne hpair
    refine ((ports_detachEach hloop name).1 fun q hq hend => ?_).trans hport
    obtain ⟨name', hname', rfl⟩ := mem_detaches.mp hq
    obtain ⟨port', hport', hsw'⟩ := (hsnapshot.attached name').mp hname'
    rcases hend with rfl | ⟨port₁, hport₁, htype₁⟩
    · obtain rfl := Option.some.inj (hport.symm.trans hport')
      exact hne (Option.some.inj (hsw.symm.trans hsw'))
    · -- the port is the other end of a link of the switch
      obtain ⟨-, port₂, hport₂, htype₂⟩ := h.paired name' port₁ name hport₁ htype₁
      obtain rfl := Option.some.inj (hport.symm.trans hport₂)
      exact hpair name' htype₂ ⟨port', hport', hsw'⟩

/-- The loop gets through if the driver does not fail and no link is met twice. -/
lemma allDetachable_of_not_loopsBack (hsnapshot : s.IsSnapshot dpid names)
    (hloops : ¬ s.LoopsBack dpid names) (hsucceeds : s.HalSucceeds dpid names) :
    s.AllDetachable dpid (detaches names) := by
  refine returns_detachEach.mp ?_
  by_contra hfails
  obtain ⟨e, he⟩ := Option.ne_none_iff_exists'.mp hfails
  obtain ⟨pre', p, post', hsplit, hpre, hthrows⟩ := Call.throws_forEach.mp he
  -- the loop over the names stops at the same place
  obtain ⟨pre, rest, hnames, rfl, hrest⟩ := List.map_eq_append_iff.mp hsplit
  obtain ⟨name, post, rfl, rfl, rfl⟩ := List.map_eq_cons_iff.mp hrest
  have hends : ∀ q ∈ pre, ¬ s.IsEnd q name := fun q hq hend =>
    hloops ⟨pre, name, post, hnames, fun q' hq' =>
      (returns_detachEach.mp hpre).1 _ (mem_detaches.mpr ⟨q', hq', rfl⟩), q, hq, hend⟩
  have hsame : (Call.forEach (Detach.call dpid) (detaches pre) s).2.manager.ports name =
      s.manager.ports name := by
    refine (ports_detachEach hpre name).1 fun q hq hend => ?_
    obtain ⟨name', hname', rfl⟩ := mem_detaches.mp hq
    exact hends name' hname' hend
  obtain ⟨port, hport, hsw⟩ := (hsnapshot.attached name).mp (by rw [hnames]; simp)
  have hdetachable := hsucceeds pre name post hnames hpre ⟨port, hsame.trans hport, hsw⟩
  exact absurd ((returns_detach.mpr hdetachable).symm.trans hthrows) nofun

/-- A port that can be detached at first, and is still attached when the loop comes to it, can be
detached then. -/
lemma detachable_of_attached (h : s.Paired) {pre : List String} {name : String} (hname : name ∉ pre)
    (hpre : (Call.forEach (Detach.call dpid) (detaches pre)).Returns s)
    (hdetachable : s.Detachable dpid ⟨name, .success⟩)
    (hattached : (Call.forEach (Detach.call dpid) (detaches pre) s).2.AttachedTo dpid name) :
    (Call.forEach (Detach.call dpid) (detaches pre) s).2.Detachable dpid ⟨name, .success⟩ := by
  obtain ⟨port, hport, hsw, -, hpair⟩ := hdetachable
  have hends : ∀ q ∈ pre, ¬ s.IsEnd q name := by
    intro q hq hend
    obtain ⟨port', hport', hsw'⟩ := hattached
    refine (ports_detachEach hpre name).2 ⟨_, mem_detaches.mpr ⟨q, hq, rfl⟩, hend⟩
      ⟨port', hport', ?_⟩
    rw [hsw']
    exact nofun
  have hsame : ∀ other, (∀ q ∈ pre, ¬ s.IsEnd q other) →
      (Call.forEach (Detach.call dpid) (detaches pre) s).2.manager.ports other =
        s.manager.ports other := by
    intro other hnot
    refine (ports_detachEach hpre other).1 fun q hq hend => ?_
    obtain ⟨q', hq', rfl⟩ := mem_detaches.mp hq
    exact hnot q' hq' hend
  refine ⟨port, (hsame name hends).trans hport, hsw, rfl, fun pair htype => ?_⟩
  obtain ⟨hne, hpairAttached⟩ := hpair pair htype
  obtain ⟨-, port₂, hport₂, htype₂⟩ := h.paired name port pair hport htype
  refine ⟨hne, (attached_eq_of_ports (hsame pair fun q hq hend => ?_)).mpr hpairAttached⟩
  rcases hend with rfl | ⟨port₁, hport₁, htype₁⟩
  · exact hends pair hq (.inr ⟨port₂, hport₂, htype₂⟩)
  · obtain ⟨-, port₃, hport₃, htype₃⟩ := h.paired q port₁ pair hport₁ htype₁
    obtain rfl := Option.some.inj (hport₂.symm.trans hport₃)
    exact hname (PortType.virtual.inj (htype₂.symm.trans htype₃) ▸ hq)

/-- If a link is met twice, the loop stops there, and the driver has not failed. -/
lemma halSucceeds_of_loopsBack (h : s.Paired) (hsnapshot : s.IsSnapshot dpid names)
    (hloops : s.LoopsBack dpid names) :
    s.HalSucceeds dpid names ∧ ¬ s.AllDetachable dpid (detaches names) := by
  obtain ⟨pre, name, post, hnames, hdetachable, q, hq, hend⟩ := hloops
  have hapart : ∀ ports : List Detach, (ports.Pairwise fun p q => s.Apart p.name q.name) →
      ∀ rest, ports = detaches pre ++ ⟨name, .success⟩ :: rest → False := by
    rintro ports hpairwise rest rfl
    refine (List.pairwise_append.mp hpairwise).2.2 _ (mem_detaches.mpr ⟨q, hq, rfl⟩) _
      List.mem_cons_self name ⟨hend, .inl rfl⟩
  constructor
  · intro pre' name' post' hnames' hpre' hattached
    have hsplit : pre ++ name :: post = pre' ++ name' :: post' := hnames.symm.trans hnames'
    -- the two places in the snapshot: the first one that is met twice, and that of the call
    have hsame : pre' = pre → name' = name → False := by
      rintro rfl rfl
      obtain ⟨port, hport, hsw⟩ := hattached
      refine (ports_detachEach hpre' name').2 ⟨_, mem_detaches.mpr ⟨q, hq, rfl⟩, hend⟩
        ⟨port, hport, ?_⟩
      rw [hsw]
      exact nofun
    rcases List.append_eq_append_iff.mp hsplit with ⟨between, hpre, hrest⟩ | ⟨between, hpre, hrest⟩
    · cases between with
      | nil =>
          rw [List.append_nil] at hpre
          exact absurd (List.cons.inj hrest).1.symm (hsame hpre)
      | cons x between =>
          obtain ⟨rfl, -⟩ := List.cons.inj hrest
          refine absurd (hapart _ (returns_detachEach.mp hpre').2 (detaches between) ?_) id
          rw [hpre, detaches_append]
          rfl
    · cases between with
      | nil =>
          rw [List.append_nil] at hpre
          exact absurd (List.cons.inj hrest).1 (hsame hpre.symm)
      | cons x between =>
          obtain ⟨rfl, -⟩ := List.cons.inj hrest
          have hmem : name' ∈ pre := by
            rw [hpre]
            exact List.mem_append_right pre' List.mem_cons_self
          exact detachable_of_attached h (hsnapshot.ne_of_split hnames') hpre'
            (hdetachable name' hmem) hattached
  · intro hall
    refine hapart _ hall.2 (detaches post) ?_
    rw [hnames, detaches_append]
    rfl

/-- **The destruction of a switch completes**, in every state that calls of the managers lead to,
exactly when no link is met twice. -/
theorem destroys_iff (ports : Finset String) {commands : List Command} {s : Switches}
    (hrun : Run Switches.step anyStep (.init ports) commands s) {dpid : Dpid}
    (hexists : s.resources.switchExists dpid = true) {names : List String}
    (hsnapshot : s.resources.IsSnapshot dpid names) :
    s.Destroys dpid names ↔ ¬ s.resources.LoopsBack dpid names := by
  have hpaired := Resources.Paired.of_run hrun
  constructor
  · intro hdestroys hloops
    obtain ⟨hsucceeds, hnot⟩ := halSucceeds_of_loopsBack hpaired hsnapshot hloops
    have hreturns := (hdestroys hsucceeds).returns
    rw [Switches.destroySwitch, if_pos ⟨hexists, nofun⟩] at hreturns
    refine hnot ((returns_destroySwitch hexists).mp ?_)
    split at hreturns
    · exact absurd hreturns nofun
    next heq =>
      rw [Call.Returns, heq]
  · intro hloops hsucceeds
    exact destroyed_of_allDetachable hpaired hexists hsnapshot
      (allDetachable_of_not_loopsBack hsnapshot hloops hsucceeds)

end Result

/-- Two switches, and a link from the first one to one of them. -/
def linked (dpid2 : Dpid) : List Command :=
  [.createSwitch 1 "dp0" true, .createSwitch 2 "dp1" true,
    .connectSwitches 1 dpid2 ⟨"vlink0_0", "vlink0_1", .success, true⟩]

/-- The first switch has a physical port too. -/
def linkedWithPort : List Command :=
  linked 2 ++ [.attachPortToSwitch 1 "eth0" true .success]

/-- The first switch is destroyed, with its end of the link to the second one and with its physical
port, which the loop comes to after the link is gone. -/
theorem destroys_linked : ∃ s ∈ exec Switches.step (.init {"eth0", "eth1"}) linkedWithPort,
    s.resources.AttachedTo 1 "vlink0_0" ∧ s.resources.AttachedTo 1 "eth0" ∧
      s.Destroys 1 ["vlink0_0", "eth0"] := by
  have hexec : ∃ s ∈ exec Switches.step (.init {"eth0", "eth1"}) linkedWithPort,
      s.resources.switchExists 1 = true ∧ s.resources.AttachedTo 1 "vlink0_0" ∧
        s.resources.AttachedTo 1 "eth0" := by decide
  obtain ⟨s, hs, hswitch, hlink, hphysical⟩ := hexec
  have hports : s.resources.manager.ports = Function.update (Function.update (Function.update
      (Switches.init {"eth0", "eth1"}).resources.manager.ports "vlink0_0"
        (some ⟨.virtual "vlink0_1", some 1⟩)) "vlink0_1" (some ⟨.virtual "vlink0_0", some 2⟩))
          "eth0" (some ⟨.physical, some 1⟩) := by
    obtain rfl := Option.some.inj hs
    rfl
  have hsnapshot : s.resources.IsSnapshot 1 ["vlink0_0", "eth0"] := by
    refine ⟨by decide, fun name => ?_⟩
    rw [List.mem_pair]
    constructor
    · rintro (rfl | rfl)
      · exact hlink
      · exact hphysical
    · rintro ⟨port, hport, hsw⟩
      by_contra hne
      rw [not_or] at hne
      rw [hports, Function.update_of_ne hne.2] at hport
      by_cases hother : name = "vlink0_1"
      · subst hother
        obtain rfl := Option.some.inj hport
        exact absurd hsw (by decide)
      · -- a port that was there at the start, and is not attached
        rw [Function.update_of_ne hother, Function.update_of_ne hne.1] at hport
        change (if _ then _ else _) = _ at hport
        split at hport
        · obtain rfl := Option.some.inj hport
          exact absurd hsw nofun
        · exact absurd hport nofun
  refine ⟨s, hs, hlink, hphysical, (destroys_iff _ (run_of_exec hs) hswitch hsnapshot).mpr ?_⟩
  rintro ⟨pre, name, post, hsplit, -, q, hq, hend⟩
  obtain ⟨rfl, rfl⟩ : q = "vlink0_0" ∧ name = "eth0" := by
    match pre, hsplit, hq with
    | [x], hsplit, hq =>
        obtain ⟨rfl, hrest⟩ := List.cons.inj hsplit
        exact ⟨List.mem_singleton.mp hq, (List.cons.inj hrest).1.symm⟩
    | x :: y :: pre, hsplit, _ =>
        have hlength := congrArg List.length hsplit
        simp only [List.length_append, List.length_cons, List.length_nil] at hlength
        omega
  -- the other end of the link is not a port of the snapshot
  obtain hsame | ⟨port, hport, htype⟩ := hend
  · exact absurd hsame (by decide)
  · rw [hports] at hport
    obtain rfl := Option.some.inj hport
    exact absurd (PortType.virtual.inj htype) (by decide)

/-- The link has both ends on the first switch.  Its second end is gone when the loop comes to it,
and the switch stays. -/
theorem not_destroys_linked : ¬ ∀ (ports : Finset String) (commands : List Command) (s : Switches),
    Run Switches.step anyStep (.init ports) commands s → ∀ (dpid : Dpid) (names : List String),
      s.resources.switchExists dpid = true → s.resources.IsSnapshot dpid names →
        s.Destroys dpid names := by
  intro hall
  have hexec : ∃ s ∈ exec Switches.step (.init ∅) (linked 1),
      s.resources.switchExists 1 = true ∧ (1, "dp0") ∈ (Switches.destroySwitch 1
        (some (detaches ["vlink0_0", "vlink0_1"])) s).2.resources.switchs ∧
      s.resources.AttachedTo 1 "vlink0_0" ∧ s.resources.AttachedTo 1 "vlink0_1" := by decide
  obtain ⟨s, hs, hswitch, hleft, hattached0, hattached1⟩ := hexec
  have hports : s.resources.manager.ports = Function.update (Function.update (fun _ => none)
      "vlink0_0" (some ⟨.virtual "vlink0_1", some 1⟩)) "vlink0_1"
        (some ⟨.virtual "vlink0_0", some 1⟩) := by
    obtain rfl := Option.some.inj hs
    rfl
  have hport0 : s.resources.manager.ports "vlink0_0" = some ⟨.virtual "vlink0_1", some 1⟩ := by
    rw [hports]
    rfl
  have hport1 : s.resources.manager.ports "vlink0_1" = some ⟨.virtual "vlink0_0", some 1⟩ := by
    rw [hports]
    rfl
  have hsnapshot : s.resources.IsSnapshot 1 ["vlink0_0", "vlink0_1"] := by
    refine ⟨by decide, fun name => ?_⟩
    rw [List.mem_pair]
    constructor
    · rintro (rfl | rfl)
      · exact hattached0
      · exact hattached1
    · rintro ⟨port, hport, -⟩
      by_contra hne
      rw [not_or] at hne
      rw [hports, Function.update_of_ne hne.2, Function.update_of_ne hne.1] at hport
      exact absurd hport nofun
  have hloops : s.resources.LoopsBack 1 ["vlink0_0", "vlink0_1"] := by
    refine ⟨["vlink0_0"], "vlink0_1", [], rfl, fun q hq => ?_, "vlink0_0", List.mem_cons_self,
      .inr ⟨_, hport0, rfl⟩⟩
    obtain rfl := List.mem_singleton.mp hq
    refine ⟨_, hport0, rfl, rfl, fun pair hpair => ?_⟩
    obtain rfl := PortType.virtual.inj hpair
    exact ⟨by decide, _, hport1, nofun⟩
  have hpaired := Resources.Paired.of_run (run_of_exec hs)
  have hdestroyed := hall ∅ _ s (run_of_exec hs) 1 _ hswitch hsnapshot
    (halSucceeds_of_loopsBack hpaired hsnapshot hloops).1
  rw [hdestroyed.switchs, Finset.mem_filter] at hleft
  exact hleft.2 rfl

end Xdpd.Management.NodeOrchestrator
