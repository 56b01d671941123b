import Xdpd.Management.Removal

/-!
# What the commands that remove something do

The commands detach ports, and destroy virtual links, NF ports and switches.  For each of them,
when its loop returns, when it fails and leaves what was there, and when every operation takes
effect, all said of the resources before the loop.
-/

namespace Xdpd.Management.NodeOrchestrator

open Xdpd.Lib Ports

namespace Resources

/-- The port is an end of a virtual link. -/
def IsVirtual (s : Resources) (name : String) : Prop :=
  ∃ port ∈ s.manager.ports name, ∃ pair, port.type = .virtual pair

/-- The port is one of a network function. -/
def IsNf (s : Resources) (name : String) : Prop :=
  ∃ port ∈ s.manager.ports name, ∃ type, port.type = .nf type

end Resources

/-! ## Physical ports -/

/-- The port is taken from the switch. -/
def DetachEffect (dpid : Dpid) (p : Detach) (s s' : Resources) : Prop :=
  s.AttachedTo dpid p.name ∧ ¬ s'.AttachedTo dpid p.name

section DetachPort

variable {s : Resources} {dpid : Dpid} {p : Detach} {ports : List Detach}

lemma returns_detachPort : (detachPort dpid p).Returns s ↔ isVlink s.manager p.name = false := by
  rw [Call.Returns, detachPort]
  cases isVlink s.manager p.name with
  | false => exact ⟨fun _ => rfl, fun _ => rfl⟩
  | true => exact ⟨by simp, by simp⟩

lemma snd_detachPort_of_vlink (h : isVlink s.manager p.name = true) :
    (detachPort dpid p s).2 = s := by
  rw [detachPort, h]
  rfl

lemma snd_detachPort (h : isVlink s.manager p.name = false) :
    (detachPort dpid p s).2 = (p.call dpid s).2 := by
  rw [detachPort, h]
  rfl

lemma shrinking_detachPort (p : Detach) (s : Resources) : Shrinking s (detachPort dpid p s).2 := by
  cases h : isVlink s.manager p.name with
  | false =>
      rw [snd_detachPort h]
      exact shrinking_detach dpid p s
  | true =>
      rw [snd_detachPort_of_vlink h]
      exact Std.Refl.refl s

/-- The port is left as it is. -/
def Resources.DetachKeeps (s : Resources) (dpid : Dpid) (p : Detach) : Prop :=
  isVlink s.manager p.name = true ∨ ¬ s.Detaches dpid p

lemma detachPort_same_iff : (detachPort dpid p s).2 = s ↔ s.DetachKeeps dpid p := by
  rw [Resources.DetachKeeps]
  cases h : isVlink s.manager p.name with
  | false =>
      rw [snd_detachPort h, detach_same_iff]
      exact ⟨.inr, fun hs => hs.resolve_left nofun⟩
  | true =>
      rw [snd_detachPort_of_vlink h]
      exact ⟨fun _ => .inl rfl, fun _ => rfl⟩

lemma detachPorts_clean_iff :
    ¬ (Call.forEach (detachPort dpid) ports).Returns s ∧
        (Call.forEach (detachPort dpid) ports s).2 = s ↔
      Call.CleanFailure (fun p => isVlink s.manager p.name = false) (s.DetachKeeps dpid) ports :=
  Call.forEach_clean_iff shrinking_detachPort (fun _ => returns_detachPort)
    (fun _ => detachPort_same_iff) ports

/-- The port is not an end of a link in the cache, and the driver takes it away. -/
def Resources.PortDetaches (s : Resources) (dpid : Dpid) (p : Detach) : Prop :=
  isVlink s.manager p.name = false ∧ s.Detaches dpid p

lemma detachEffect_iff :
    isVlink s.manager p.name = false ∧ DetachEffect dpid p s (detachPort dpid p s).2 ↔
      s.PortDetaches dpid p := by
  constructor
  · rintro ⟨hvlink, hbefore, hafter⟩
    refine ⟨hvlink, ?_⟩
    by_contra hnot
    rw [snd_detachPort hvlink, (detach_of_not_detaches hnot).2] at hafter
    exact hafter hbefore
  · rintro ⟨hvlink, hdetaches⟩
    refine ⟨hvlink, hdetaches.1, ?_⟩
    rw [snd_detachPort hvlink]
    rintro ⟨port, hport, hsw⟩
    refine not_attached_detach hdetaches ⟨port, hport, ?_⟩
    rw [hsw]
    exact nofun

/-- Detaching one port does not take away another one. -/
def Resources.Spares (s : Resources) (p q : Detach) : Prop :=
  p.name ≠ q.name ∧ ¬ s.Removes p q.name

lemma ports_detach_of_spares (dpid : Dpid) {q : Detach} (h : s.Spares p q) :
    (p.call dpid s).2.manager.ports q.name = s.manager.ports q.name ∧
      (p.call dpid s).2.manager.vlinks q.name = s.manager.vlinks q.name :=
  ports_detach_of_ne (Ne.symm h.1) h.2

/-- A port that is attached after another one has been detached has been spared. -/
lemma spares_of_attachedTo {q : Detach} (h : s.Detaches dpid p)
    (hq : (p.call dpid s).2.AttachedTo dpid q.name) : s.Spares p q := by
  obtain ⟨port, hport, hsw⟩ := hq
  have hattached : port.attachedSw ≠ none := by
    rw [hsw]
    simp
  refine ⟨fun hne => ?_, ?_⟩
  · rw [← hne] at hport
    exact not_attached_detach h ⟨port, hport, hattached⟩
  · rintro ⟨hresult, port', hport', htype⟩
    -- the pair is attached, so that the link would have been deleted
    have hbefore := (shrinking_detach dpid p s).ports_of_attached hport hattached
    obtain ⟨⟨port'', hport'', hsw''⟩, -⟩ := h
    obtain rfl := Option.some.inj (Eq.trans hport'.symm hport'')
    have hne : q.name ≠ p.name := by
      intro hne
      rw [hne] at hport
      exact not_attached_detach ⟨⟨port', hport', hsw''⟩, by rw [hresult]; simp⟩
        ⟨port, hport, hattached⟩
    have hdetachable : s.Detachable dpid p := by
      refine ⟨port', hport', hsw'', hresult, fun pair hpair => ?_⟩
      obtain rfl : q.name = pair := PortType.virtual.inj (htype.symm.trans hpair)
      exact ⟨hne, port, hbefore, hattached⟩
    have hgone := ports_detach_of_isEnd hdetachable hport' htype (.inr rfl)
    exact absurd (hgone.symm.trans hport) (by simp)

lemma portDetaches_of_same {s s' : Resources} {q : Detach}
    (hports : s'.manager.ports q.name = s.manager.ports q.name)
    (hvlinks : s'.manager.vlinks q.name = s.manager.vlinks q.name) :
    s'.PortDetaches dpid q ↔ s.PortDetaches dpid q := by
  rw [Resources.PortDetaches, Resources.PortDetaches, isVlink, isVlink, hvlinks, Resources.Detaches,
    Resources.Detaches, Resources.AttachedTo, Resources.AttachedTo, hports]

lemma portDetaches_iff :
    Call.AllAlong (detachPort dpid) (fun s p => s.PortDetaches dpid p) ports s ↔
      (∀ p ∈ ports, s.PortDetaches dpid p) ∧ ports.Pairwise s.Spares := by
  rw [Call.allAlong_iff Resources.Spares]
  · intro s p q hp
    rw [snd_detachPort hp.1]
    constructor
    · intro hq
      have hspares := spares_of_attachedTo hp.2 hq.2.1
      obtain ⟨hports, hvlinks⟩ := ports_detach_of_spares dpid hspares
      exact ⟨(portDetaches_of_same hports hvlinks).mp hq, hspares⟩
    · rintro ⟨hq, hspares⟩
      obtain ⟨hports, hvlinks⟩ := ports_detach_of_spares dpid hspares
      exact (portDetaches_of_same hports hvlinks).mpr hq
  · intro s p q q' hp hq _
    rw [snd_detachPort hp.1] at hq ⊢
    have hspares := spares_of_attachedTo hp.2 hq.2.1
    rw [Resources.Spares, Resources.Spares, Resources.Removes, Resources.Removes,
      (ports_detach_of_spares dpid hspares).1]

end DetachPort

/-! ## Virtual links -/

/-- The end of the link is there, and gone afterwards. -/
def LinkEffect (l : LinkEnd) (s s' : Resources) : Prop :=
  ∃ dpid name, l.lsiId = some dpid ∧ l.port = some name ∧ s.AttachedTo dpid name ∧
    s.IsVirtual name ∧ s'.manager.ports name = none

/-- The port with the number is an end of a link, and can be detached. -/
def Resources.LinkDestroyable (s : Resources) (l : LinkEnd) : Prop :=
  ∃ dpid name, l.lsiId = some dpid ∧ l.port = some name ∧
    s.Detachable dpid ⟨name, l.result⟩ ∧ s.IsVirtual name

section DestroyLink

variable {s : Resources} {l l' : LinkEnd} {links : List LinkEnd}

lemma snd_detachPortByNum {dpid : Dpid} {name : String} (hdpid : l.lsiId = some dpid)
    (hname : l.port = some name) :
    (detachPortByNum l s).2 = (Detach.call dpid ⟨name, l.result⟩ s).2 := by
  rw [detachPortByNum, hdpid, hname]
  rfl

lemma linkEffect_iff : LinkEffect l s (detachPortByNum l s).2 ↔ s.LinkDestroyable l := by
  constructor
  · rintro ⟨dpid, name, hdpid, hname, hattached, hvirtual, hgone⟩
    refine ⟨dpid, name, hdpid, hname, ?_, hvirtual⟩
    rw [snd_detachPortByNum hdpid hname] at hgone
    by_contra hnot
    obtain ⟨port, hport, hsw⟩ := hattached
    by_cases hdetaches : s.Detaches dpid ⟨name, l.result⟩
    · rw [(detach_of_not_detachable hdetaches hnot hport).2, Resources.ports_withPort_self] at hgone
      exact absurd hgone nofun
    · rw [(detach_of_not_detaches hdetaches).2, hport] at hgone
      exact absurd hgone nofun
  · rintro ⟨dpid, name, hdpid, hname, hdetachable, port, hport, pair, htype⟩
    refine ⟨dpid, name, hdpid, hname, hdetachable.detaches.1, ⟨port, hport, pair, htype⟩, ?_⟩
    rw [snd_detachPortByNum hdpid hname]
    exact ports_detach_of_isEnd hdetachable hport htype (.inl rfl)

/-- The ports are not ends of one link. -/
def Resources.LinksApart (s : Resources) (l l' : LinkEnd) : Prop :=
  ∀ name ∈ l.port, ∀ name' ∈ l'.port, s.Apart name name'

/-- One link after the other. -/
lemma linkDestroyable_iff_of_destroyable (h : s.LinkDestroyable l) :
    (detachPortByNum l s).2.LinkDestroyable l' ↔ s.LinkDestroyable l' ∧ s.LinksApart l l' := by
  obtain ⟨dpid, name, hdpid, hname, hdetachable, -⟩ := h
  rw [snd_detachPortByNum hdpid hname]
  have hvirtual : ∀ name', s.Apart name name' →
      ((Detach.call dpid ⟨name, l.result⟩ s).2.IsVirtual name' ↔ s.IsVirtual name') := by
    intro name' hapart
    have hsame : (Detach.call dpid ⟨name, l.result⟩ s).2.manager.ports name' =
        s.manager.ports name' :=
      ports_detach_of_not_isEnd fun hend => hapart name' ⟨hend, .inl rfl⟩
    rw [Resources.IsVirtual, Resources.IsVirtual, hsame]
  constructor
  · rintro ⟨dpid', name', hdpid', hname', hdetachable', hvirtual'⟩
    obtain ⟨hbefore, hapart⟩ := (detachable_detach_iff hdetachable).mp hdetachable'
    refine ⟨⟨dpid', name', hdpid', hname', hbefore, (hvirtual name' hapart).mp hvirtual'⟩, ?_⟩
    intro n hn n' hn'
    obtain rfl := Option.some.inj (hname.symm.trans hn)
    obtain rfl := Option.some.inj (hname'.symm.trans hn')
    exact hapart
  · rintro ⟨⟨dpid', name', hdpid', hname', hbefore, hvirtual'⟩, hapart⟩
    have hapart' := hapart name hname name' hname'
    exact ⟨dpid', name', hdpid', hname', (detachable_detach_iff hdetachable).mpr ⟨hbefore, hapart'⟩,
      (hvirtual name' hapart').mpr hvirtual'⟩

lemma destroyLinks_effect_iff :
    Call.AllAlong detachPortByNum (fun s l => LinkEffect l s (detachPortByNum l s).2) links s ↔
      (∀ l ∈ links, s.LinkDestroyable l) ∧ links.Pairwise s.LinksApart := by
  rw [Call.allAlong_congr fun s l => linkEffect_iff, Call.allAlong_iff Resources.LinksApart]
  · intro s l l' hl
    exact linkDestroyable_iff_of_destroyable hl
  · rintro s l l₁ l₂ ⟨dpid, name, hdpid, hname, hdetachable, -⟩ h₁ h₂
    rw [snd_detachPortByNum hdpid hname] at h₁ h₂ ⊢
    obtain ⟨dpid₁, name₁, -, hname₁, hdetachable₁, -⟩ := h₁
    obtain ⟨dpid₂, name₂, -, hname₂, hdetachable₂, -⟩ := h₂
    have hiff := apart_detach_iff hdetachable hdetachable₁ hdetachable₂
    constructor
    · intro hapart n hn n' hn'
      obtain rfl := Option.some.inj (hname₁.symm.trans hn)
      obtain rfl := Option.some.inj (hname₂.symm.trans hn')
      exact hiff.mp (hapart _ hn _ hn')
    · intro hapart n hn n' hn'
      obtain rfl := Option.some.inj (hname₁.symm.trans hn)
      obtain rfl := Option.some.inj (hname₂.symm.trans hn')
      exact hiff.mpr (hapart _ hn _ hn')

end DestroyLink

/-! ## NF ports -/

/-- `bring_down` throws. -/
def Resources.BringDownThrows (s : Resources) (p : NfPortDestroy) : Prop :=
  p.name ∉ s.manager.blacklisted ∧ (s.manager.ports p.name = none ∨ p.broughtDown = false)

/-- The port as it is detached. -/
def NfPortDestroy.toDetach (p : NfPortDestroy) : Detach := ⟨p.name, p.detached⟩

/-- `destroyNfPort` returns `true`. -/
def Resources.ReturnsTrue (s : Resources) (dpid : Dpid) (p : NfPortDestroy) : Prop :=
  ¬ s.BringDownThrows p ∧ s.Detachable dpid p.toDetach ∧ ¬ s.IsVirtual p.name ∧ p.destroyed = true

/-- There is an NF port, and it is gone afterwards. -/
def NfEffect (p : NfPortDestroy) (s s' : Resources) : Prop :=
  s.IsNf p.name ∧ s'.manager.ports p.name = none

/-- The resources with one name less in the table. -/
def Resources.eraseName (s : Resources) (dpid : Dpid) (name : String) : Resources :=
  { s with nfPortNames := Function.update s.nfPortNames dpid ((s.nfPortNames dpid).erase name) }

/-- One round of the loop of `destroyNFPorts`. -/
def eraseAndDestroy (dpid : Dpid) (p : NfPortDestroy) : Call NotDestroyed Resources :=
  (eraseNfPortName dpid p.name).andThen (detachAndDestroyNfPort dpid p)

section DestroyNfPort

variable {s : Resources} {dpid : Dpid} {p : NfPortDestroy} {ports : List NfPortDestroy}

lemma nfPortNames_eraseName (s : Resources) (dpid : Dpid) (name : String) (dpid' : Dpid) :
    (s.eraseName dpid name).nfPortNames dpid' =
      if dpid' = dpid then (s.nfPortNames dpid).erase name else s.nfPortNames dpid' :=
  Function.update_apply _ _ _ _

lemma shrinking_eraseName (s : Resources) (dpid : Dpid) (name : String) :
    Shrinking s (s.eraseName dpid name) := by
  refine ⟨fun _ port h => ⟨port, h, .inl rfl⟩, fun _ _ => id, fun dpid' => ?_, rfl, rfl, rfl⟩
  rw [nfPortNames_eraseName]
  split
  · next heq =>
    rw [heq]
    exact List.erase_sublist
  · exact .refl _

lemma eraseName_eq_iff {name : String} :
    s.eraseName dpid name = s ↔ name ∉ s.nfPortNames dpid := by
  constructor
  · intro h hmem
    have hnames := nfPortNames_eraseName s dpid name dpid
    rw [h, if_pos rfl] at hnames
    have hlength := List.length_erase_of_mem hmem
    rw [← hnames] at hlength
    have hpos := List.length_pos_of_mem hmem
    omega
  · intro h
    rw [Resources.eraseName, List.erase_of_not_mem h, Function.update_eq_self]

/-- The port of a network function is removed, and no other one. -/
lemma snd_destroyNf (s : Resources) (name : String) (success : Bool) :
    (success = true ∧ s.IsNf name ∧
        (destroyNf name success s).2 = { s with manager := s.manager.removePort name }) ∨
      (¬ (success = true ∧ s.IsNf name) ∧ (destroyNf name success s).2 = s) := by
  rw [destroyNf]
  cases hport : s.manager.ports name with
  | none =>
      refine .inr ⟨fun h => ?_, rfl⟩
      obtain ⟨port, hport', -⟩ := h.2
      exact absurd (hport.symm.trans hport') (by simp)
  | some port =>
      cases success with
      | false => exact .inr ⟨fun h => absurd h.1 (by simp), rfl⟩
      | true =>
          obtain ⟨type, sw⟩ := port
          cases type with
          | nf type => exact .inl ⟨rfl, ⟨_, hport, type, rfl⟩, rfl⟩
          | physical =>
              refine .inr ⟨fun h => ?_, rfl⟩
              obtain ⟨port', hport', type', htype⟩ := h.2
              obtain rfl := Option.some.inj (hport.symm.trans hport')
              cases htype
          | virtual pair =>
              refine .inr ⟨fun h => ?_, rfl⟩
              obtain ⟨port', hport', type', htype⟩ := h.2
              obtain rfl := Option.some.inj (hport.symm.trans hport')
              cases htype

lemma returns_destroyNf {name : String} {success : Bool} :
    (destroyNf name success).Returns s ↔ s.manager.ports name ≠ none ∧ success = true := by
  rw [Call.Returns, destroyNf]
  cases s.manager.ports name with
  | none => exact ⟨by simp, fun h => absurd rfl h.1⟩
  | some port =>
      cases success with
      | false => exact ⟨by simp, by simp⟩
      | true =>
          refine ⟨fun _ => ⟨by simp, rfl⟩, fun _ => ?_⟩
          obtain ⟨type, sw⟩ := port
          cases type <;> rfl

lemma shrinking_destroyNf (s : Resources) (name : String) (success : Bool) :
    Shrinking s (destroyNf name success s).2 := by
  rcases snd_destroyNf s name success with ⟨-, -, hs'⟩ | ⟨-, hs'⟩
  · rw [hs']
    refine ⟨fun other port hport => ⟨port, ?_, .inl rfl⟩, fun _ _ => id, fun _ => .refl _, rfl,
      rfl, rfl⟩
    by_cases hne : other = name
    · rw [hne, ports_removePort_self] at hport
      cases hport
    · exact (ports_removePort_of_ne hne).symm.trans hport
  · rw [hs']
    exact Std.Refl.refl s

lemma bringDown_eq (s : Resources) (p : NfPortDestroy) :
    ((bringDown p.name p.broughtDown).Returns s ↔ ¬ s.BringDownThrows p) ∧
      (bringDown p.name p.broughtDown s).2 = s := by
  refine ⟨?_, snd_bringPort s⟩
  rw [Call.Returns, bringDown, bringPort, Resources.BringDownThrows]
  by_cases hblacklisted : p.name ∈ s.manager.blacklisted
  · rw [if_pos hblacklisted]
    exact ⟨fun _ h => h.1 hblacklisted, fun _ => rfl⟩
  · rw [if_neg hblacklisted]
    by_cases hport : s.manager.ports p.name = none
    · rw [if_pos hport]
      exact ⟨by simp, fun h => absurd ⟨hblacklisted, .inl hport⟩ h⟩
    · rw [if_neg hport]
      cases hdown : p.broughtDown with
      | false => exact ⟨by simp, fun h => absurd ⟨hblacklisted, .inr rfl⟩ h⟩
      | true => exact ⟨fun _ h => h.2.elim hport (by simp), fun _ => rfl⟩

/-- The exceptions of `bring_down` are not caught. -/
lemma detachAndDestroy_of_throws (h : s.BringDownThrows p) :
    detachAndDestroyNfPort dpid p s = (some .throws, s) := by
  obtain ⟨hreturns, hs'⟩ := bringDown_eq s p
  have hthrows : ¬ ((bringDown p.name p.broughtDown).rethrow fun _ =>
      NotDestroyed.throws).Returns s := by
    rw [Call.returns_rethrow, hreturns]
    exact not_not.mpr h
  rw [detachAndDestroyNfPort, Call.andThen_of_throws hthrows]
  have hfst : ((bringDown p.name p.broughtDown s).1.map fun _ => NotDestroyed.throws) =
      some .throws := by
    obtain ⟨e, he⟩ := Option.ne_none_iff_exists'.mp fun hnone => hreturns.mp hnone h
    rw [he]
    rfl
  exact Prod.ext hfst hs'

lemma detachAndDestroy_of_down (h : ¬ s.BringDownThrows p) :
    detachAndDestroyNfPort dpid p s =
      ((p.toDetach.call dpid).rethrow fun _ => NotDestroyed.returnsFalse).andThen
        (destroyNfPort p.name p.destroyed) s := by
  obtain ⟨hreturns, hs'⟩ := bringDown_eq s p
  have hdown : ((bringDown p.name p.broughtDown).rethrow fun _ =>
      NotDestroyed.throws).Returns s := by
    rw [Call.returns_rethrow, hreturns]
    exact h
  rw [detachAndDestroyNfPort, Call.andThen_of_returns hdown]
  exact congrArg _ hs'

/-- A port that has been detached is gone if it was an end of a link. -/
lemma ports_detach_ne_none_iff {q : Detach} (h : s.Detachable dpid q) :
    (q.call dpid s).2.manager.ports q.name ≠ none ↔ ¬ s.IsVirtual q.name := by
  obtain ⟨-, port, hport, ⟨hnot, hs'⟩ | ⟨pair, htype, -, hs'⟩⟩ := detach_of_detachable h
  · rw [hs', Resources.ports_withPort_self]
    refine ⟨fun _ => ?_, fun _ => nofun⟩
    rintro ⟨port', hport', pair, htype⟩
    obtain rfl := Option.some.inj (hport.symm.trans hport')
    exact hnot pair htype
  · rw [hs']
    refine ⟨fun hne => absurd (ports_deleteLink_eq_none (.inl rfl)) hne, fun hnot => ?_⟩
    exact absurd ⟨port, hport, pair, htype⟩ hnot

lemma returns_detachAndDestroy :
    (detachAndDestroyNfPort dpid p).Returns s ↔ s.ReturnsTrue dpid p := by
  rw [Resources.ReturnsTrue]
  by_cases h : s.BringDownThrows p
  · rw [Call.Returns, detachAndDestroy_of_throws h]
    exact ⟨by simp, fun hr => absurd h hr.1⟩
  · rw [Call.Returns, detachAndDestroy_of_down h, ← Call.Returns, Call.returns_andThen,
      Call.returns_rethrow, returns_detach]
    constructor
    · rintro ⟨hdetachable, hdestroy⟩
      obtain ⟨hport, hdestroyed⟩ := returns_destroyNf.mp (Call.returns_rethrow.mp hdestroy)
      exact ⟨h, hdetachable, (ports_detach_ne_none_iff hdetachable).mp hport, hdestroyed⟩
    · rintro ⟨-, hdetachable, hvirtual, hdestroyed⟩
      refine ⟨hdetachable, Call.returns_rethrow.mpr (returns_destroyNf.mpr ⟨?_, hdestroyed⟩)⟩
      exact (ports_detach_ne_none_iff hdetachable).mpr hvirtual

lemma throws_detachAndDestroy :
    (detachAndDestroyNfPort dpid p s).1 = some .throws ↔ s.BringDownThrows p := by
  by_cases h : s.BringDownThrows p
  · rw [detachAndDestroy_of_throws h]
    exact ⟨fun _ => h, fun _ => rfl⟩
  · refine ⟨fun hthrows => absurd hthrows ?_, fun hthrows => absurd hthrows h⟩
    have hmap : ∀ o : Option Unit, o.map (fun _ => NotDestroyed.returnsFalse) ≠ some .throws := by
      rintro (- | -) <;> exact nofun
    rw [detachAndDestroy_of_down h]
    by_cases hdetach : ((p.toDetach.call dpid).rethrow fun _ => NotDestroyed.returnsFalse).Returns s
    · rw [Call.andThen_of_returns hdetach]
      exact hmap _
    · rw [Call.andThen_of_throws hdetach]
      exact hmap _

lemma shrinking_detachAndDestroy (dpid : Dpid) (p : NfPortDestroy) (s : Resources) :
    Shrinking s (detachAndDestroyNfPort dpid p s).2 := by
  by_cases h : s.BringDownThrows p
  · rw [detachAndDestroy_of_throws h]
    exact Std.Refl.refl s
  · rw [detachAndDestroy_of_down h]
    exact Call.moves_andThen (shrinking_detach dpid p.toDetach s) fun s =>
      shrinking_destroyNf s p.name p.destroyed

lemma shrinking_eraseAndDestroy (dpid : Dpid) (p : NfPortDestroy) (s : Resources) :
    Shrinking s (eraseAndDestroy dpid p s).2 :=
  Call.moves_andThen (shrinking_eraseName s dpid p.name) (shrinking_detachAndDestroy dpid p)

/-- A port that can be detached is left detached, if not gone. -/
lemma not_attached_detachAndDestroy (h : ¬ s.BringDownThrows p)
    (hdetaches : s.Detaches dpid p.toDetach) :
    ¬ (detachAndDestroyNfPort dpid p s).2.manager.Attached p.name := by
  rintro ⟨port, hport, hattached⟩
  rw [detachAndDestroy_of_down h] at hport
  refine not_attached_detach hdetaches ⟨port, ?_, hattached⟩
  by_cases hdetach : ((p.toDetach.call dpid).rethrow fun _ => NotDestroyed.returnsFalse).Returns s
  · rw [Call.andThen_of_returns hdetach] at hport
    exact (shrinking_destroyNf _ p.name p.destroyed).ports_of_attached hport hattached
  · rw [Call.andThen_of_throws hdetach] at hport
    exact hport

lemma detachAndDestroy_same_iff : (detachAndDestroyNfPort dpid p s).2 = s ↔
    s.BringDownThrows p ∨ ¬ s.Detaches dpid p.toDetach := by
  by_cases h : s.BringDownThrows p
  · rw [detachAndDestroy_of_throws h]
    exact ⟨fun _ => .inl h, fun _ => rfl⟩
  · constructor
    · intro hs'
      refine .inr fun hdetaches => not_attached_detachAndDestroy h hdetaches ?_
      obtain ⟨port, hport, hsw⟩ := hdetaches.1
      rw [hs']
      refine ⟨port, hport, ?_⟩
      rw [hsw]
      exact nofun
    · intro hkeeps
      obtain ⟨hthrows, hs'⟩ := detach_of_not_detaches (hkeeps.resolve_left h)
      have hthrows' : ¬ ((p.toDetach.call dpid).rethrow fun _ =>
          NotDestroyed.returnsFalse).Returns s := by
        rw [Call.returns_rethrow]
        exact hthrows
      rw [detachAndDestroy_of_down h, Call.andThen_of_throws hthrows']
      exact hs'

lemma eraseAndDestroy_same_iff : (eraseAndDestroy dpid p s).2 = s ↔
    p.name ∉ s.nfPortNames dpid ∧ (s.BringDownThrows p ∨ ¬ s.Detaches dpid p.toDetach) := by
  have hsecond : (detachAndDestroyNfPort dpid p (s.eraseName dpid p.name)).2 =
      s.eraseName dpid p.name ↔ s.BringDownThrows p ∨ ¬ s.Detaches dpid p.toDetach :=
    detachAndDestroy_same_iff
  rw [← eraseName_eq_iff, ← hsecond]
  change (detachAndDestroyNfPort dpid p (s.eraseName dpid p.name)).2 = s ↔ _
  constructor
  · intro hs'
    -- the name cannot come back
    have hback : Shrinking (s.eraseName dpid p.name) s := by
      have hrest := shrinking_detachAndDestroy dpid p (s.eraseName dpid p.name)
      rwa [hs'] at hrest
    have heq : s.eraseName dpid p.name = s :=
      Std.Antisymm.antisymm _ _ hback (shrinking_eraseName s dpid p.name)
    rw [heq] at hs' ⊢
    exact ⟨rfl, hs'⟩
  · rintro ⟨heq, hs'⟩
    rw [hs', heq]

/-- What `destroyNfPort` leaves when it returns `true`. -/
lemma snd_eraseAndDestroy (h : s.ReturnsTrue dpid p) :
    ((eraseAndDestroy dpid p s).2.manager.ports p.name = none ↔ s.IsNf p.name) ∧
      ¬ (eraseAndDestroy dpid p s).2.manager.Attached p.name ∧
      ∀ other, other ≠ p.name →
        (eraseAndDestroy dpid p s).2.manager.ports other = s.manager.ports other := by
  obtain ⟨hdown, hdetachable, hvirtual, hdestroyed⟩ := h
  set t := s.eraseName dpid p.name
  have ht : t.Detachable dpid p.toDetach := hdetachable
  have hreturns : ((p.toDetach.call dpid).rethrow fun _ => NotDestroyed.returnsFalse).Returns t :=
    Call.returns_rethrow.mpr (returns_detach.mpr ht)
  have hs' : (eraseAndDestroy dpid p s).2 =
      (destroyNf p.name p.destroyed (p.toDetach.call dpid t).2).2 := by
    change (detachAndDestroyNfPort dpid p t).2 = _
    rw [detachAndDestroy_of_down (s := t) hdown, Call.andThen_of_returns hreturns]
    rfl
  -- a port that is not an end of a link stays, without its switch
  obtain ⟨-, port, hport, hcase⟩ := detach_of_detachable ht
  have hstays : (p.toDetach.call dpid t).2 =
      t.withPort p.name { port with attachedSw := none } := by
    rcases hcase with ⟨-, hstays⟩ | ⟨pair, htype, -, -⟩
    · exact hstays
    · exact absurd ⟨port, hport, pair, htype⟩ hvirtual
  have hnf : (t.withPort p.name { port with attachedSw := none }).IsNf p.name ↔
      s.IsNf p.name := by
    constructor
    · rintro ⟨port', hport', type, htype⟩
      rw [Resources.ports_withPort_self] at hport'
      obtain rfl := Option.some.inj hport'
      exact ⟨port, hport, type, htype⟩
    · rintro ⟨port', hport', type, htype⟩
      obtain rfl := Option.some.inj (hport.symm.trans hport')
      exact ⟨_, Resources.ports_withPort_self, type, htype⟩
  rw [hs', hstays]
  rcases snd_destroyNf (t.withPort p.name { port with attachedSw := none }) p.name p.destroyed with
    ⟨-, hisNf, hgone⟩ | ⟨hisNf, hsame⟩
  · rw [hgone]
    refine ⟨⟨fun _ => hnf.mp hisNf, fun _ => ports_removePort_self⟩, ?_, fun other hne => ?_⟩
    · rintro ⟨port', hport', -⟩
      exact absurd (ports_removePort_self.symm.trans hport') (by simp)
    · exact (ports_removePort_of_ne hne).trans (Resources.ports_withPort_of_ne hne)
  · rw [hsame]
    refine ⟨?_, ?_, fun other hne => Resources.ports_withPort_of_ne hne⟩
    · rw [Resources.ports_withPort_self]
      exact ⟨by simp, fun h => absurd ⟨hdestroyed, hnf.mpr h⟩ hisNf⟩
    · rintro ⟨port', hport', hattached⟩
      rw [Resources.ports_withPort_self] at hport'
      obtain rfl := Option.some.inj hport'
      exact hattached rfl

lemma returns_eraseAndDestroy : (eraseAndDestroy dpid p).Returns s ↔ s.ReturnsTrue dpid p := by
  rw [eraseAndDestroy, Call.returns_andThen]
  have hsecond : (detachAndDestroyNfPort dpid p).Returns (s.eraseName dpid p.name) ↔
      s.ReturnsTrue dpid p := returns_detachAndDestroy
  exact ⟨fun h => hsecond.mp h.2, fun h => ⟨rfl, hsecond.mpr h⟩⟩

lemma throws_eraseAndDestroy :
    (eraseAndDestroy dpid p s).1 = some .throws ↔ s.BringDownThrows p :=
  throws_detachAndDestroy (s := s.eraseName dpid p.name)

/-- One NF port after the other: the second one must not have the name of the first one. -/
lemma returnsTrue_iff_of_returnsTrue {q : NfPortDestroy} (h : s.ReturnsTrue dpid p) :
    (eraseAndDestroy dpid p s).2.ReturnsTrue dpid q ↔
      s.ReturnsTrue dpid q ∧ p.name ≠ q.name := by
  obtain ⟨-, hnot, hother⟩ := snd_eraseAndDestroy h
  have hshrinking := shrinking_eraseAndDestroy dpid p s
  by_cases hne : q.name = p.name
  · refine ⟨fun hq => ?_, fun hq => absurd hne.symm hq.2⟩
    obtain ⟨port, hport, hsw⟩ := hq.2.1.detaches.1
    rw [NfPortDestroy.toDetach, hne] at hport
    refine absurd ⟨port, hport, ?_⟩ hnot
    rw [hsw]
    exact nofun
  · have hsame := hother q.name hne
    -- the port is not an end of a link, so that its pair does not matter
    have hdetachable : ∀ t t' : Resources, t'.manager.ports q.name = t.manager.ports q.name →
        ¬ t.IsVirtual q.name → t.Detachable dpid q.toDetach → t'.Detachable dpid q.toDetach := by
      rintro t t' hports hvirtual ⟨port, hport, hsw, hresult, -⟩
      refine ⟨port, Eq.trans hports hport, hsw, hresult, fun pair htype => ?_⟩
      exact absurd ⟨port, hport, pair, htype⟩ hvirtual
    have hvirtual : (eraseAndDestroy dpid p s).2.IsVirtual q.name ↔ s.IsVirtual q.name := by
      rw [Resources.IsVirtual, Resources.IsVirtual, hsame]
    have hdown : (eraseAndDestroy dpid p s).2.BringDownThrows q ↔ s.BringDownThrows q := by
      rw [Resources.BringDownThrows, Resources.BringDownThrows, hsame, hshrinking.blacklisted]
    rw [Resources.ReturnsTrue, Resources.ReturnsTrue, hvirtual, hdown]
    constructor
    · rintro ⟨hdown, hq, hv, hdestroyed⟩
      have hq' := hdetachable (eraseAndDestroy dpid p s).2 s hsame.symm (hvirtual.not.mpr hv) hq
      exact ⟨⟨hdown, hq', hv, hdestroyed⟩, Ne.symm hne⟩
    · rintro ⟨⟨hdown, hq, hv, hdestroyed⟩, -⟩
      exact ⟨hdown, hdetachable s (eraseAndDestroy dpid p s).2 hsame hv hq, hv, hdestroyed⟩

lemma returns_destroyNfPorts : (Call.forEach (eraseAndDestroy dpid) ports).Returns s ↔
    (∀ p ∈ ports, s.ReturnsTrue dpid p) ∧ ports.Pairwise fun p q => p.name ≠ q.name := by
  rw [Call.returns_forEach, Call.allAlong_iff fun _ p q => p.name ≠ q.name]
  · simp only [returns_eraseAndDestroy]
  · intro s p q hp
    rw [returns_eraseAndDestroy] at hp
    rw [returns_eraseAndDestroy, returns_eraseAndDestroy, returnsTrue_iff_of_returnsTrue hp]
  · intros
    exact Iff.rfl

lemma destroyNfPorts_clean_iff :
    ¬ (Call.forEach (eraseAndDestroy dpid) ports).Returns s ∧
        (Call.forEach (eraseAndDestroy dpid) ports s).2 = s ↔
      ∃ p ∈ ports.head?, p.name ∉ s.nfPortNames dpid ∧
        (s.BringDownThrows p ∨ ¬ s.Detaches dpid p.toDetach) := by
  rw [Call.forEach_clean_iff (shrinking_eraseAndDestroy dpid) (fun _ => returns_eraseAndDestroy)
    (fun _ => eraseAndDestroy_same_iff)]
  refine Call.cleanFailure_iff_head fun p hsame htrue => ?_
  rcases hsame.2 with hthrows | hnot
  · exact htrue.1 hthrows
  · exact hnot htrue.2.1.detaches

/-- Every round destroys an NF port. -/
lemma destroyNfPorts_effect_iff :
    (Call.forEach (eraseAndDestroy dpid) ports).Returns s ∧
        Call.AllAlong (eraseAndDestroy dpid) (fun s p => NfEffect p s (eraseAndDestroy dpid p s).2)
          ports s ↔
      (∀ p ∈ ports, s.ReturnsTrue dpid p ∧ s.IsNf p.name) ∧
        ports.Pairwise fun p q => p.name ≠ q.name := by
  rw [Call.returns_forEach, ← Call.allAlong_and]
  have hiff : ∀ s p, (eraseAndDestroy dpid p).Returns s ∧
      NfEffect p s (eraseAndDestroy dpid p s).2 ↔ s.ReturnsTrue dpid p ∧ s.IsNf p.name := by
    intro s p
    rw [returns_eraseAndDestroy]
    exact ⟨fun h => ⟨h.1, h.2.1⟩, fun h => ⟨h.1, h.2, (snd_eraseAndDestroy h.1).1.mpr h.2⟩⟩
  rw [Call.allAlong_congr hiff, Call.allAlong_iff fun _ p q => p.name ≠ q.name]
  · intro s p q hp
    rw [returnsTrue_iff_of_returnsTrue hp.1]
    have hnf : p.name ≠ q.name → ((eraseAndDestroy dpid p s).2.IsNf q.name ↔ s.IsNf q.name) := by
      intro hne
      rw [Resources.IsNf, Resources.IsNf, (snd_eraseAndDestroy hp.1).2.2 q.name (Ne.symm hne)]
    constructor
    · rintro ⟨⟨htrue, hne⟩, hisNf⟩
      exact ⟨⟨htrue, (hnf hne).mp hisNf⟩, hne⟩
    · rintro ⟨⟨htrue, hisNf⟩, hne⟩
      exact ⟨⟨htrue, hne⟩, (hnf hne).mpr hisNf⟩
  · intros
    exact Iff.rfl

/-- The ports that are gone after a loop that returns: those that were, and the NF ports among
those of the loop. -/
lemma ports_destroyNfPorts_eq_none_iff {name : String}
    (h : (Call.forEach (eraseAndDestroy dpid) ports).Returns s) :
    (Call.forEach (eraseAndDestroy dpid) ports s).2.manager.ports name = none ↔
      s.manager.ports name = none ∨ (s.IsNf name ∧ ∃ p ∈ ports, p.name = name) := by
  induction ports generalizing s with
  | nil => exact ⟨.inl, fun h => h.resolve_right (by simp)⟩
  | cons p ports ih =>
      obtain ⟨hp, hports⟩ := Call.returns_andThen.mp h
      obtain ⟨hself, -, hother⟩ := snd_eraseAndDestroy (returns_eraseAndDestroy.mp hp)
      rw [Call.forEach, Call.andThen_of_returns hp, ih hports, List.exists_mem_cons_iff]
      by_cases hne : name = p.name
      · -- a later port does not have this name
        have hlater : ¬ ∃ q ∈ ports, q.name = name := by
          rintro ⟨q, hq, hname⟩
          have hpair := ((returns_destroyNfPorts.mp h).2)
          exact (List.pairwise_cons.mp hpair).1 q hq (hname.trans hne).symm
        rw [hne, hself]
        constructor
        · rintro (hnf | ⟨-, hq⟩)
          · exact .inr ⟨hnf, .inl rfl⟩
          · exact absurd (hne ▸ hq) hlater
        · rintro (hnone | ⟨hnf, -⟩)
          · obtain ⟨port, hport, -⟩ := (returns_eraseAndDestroy.mp hp).2.1.detaches.1
            exact absurd (hnone.symm.trans hport) (by simp)
          · exact .inl hnf
      · rw [hother name hne, Resources.IsNf, hother name hne, ← Resources.IsNf]
        constructor
        · rintro (hnone | ⟨hnf, hq⟩)
          · exact .inl hnone
          · exact .inr ⟨hnf, .inr hq⟩
        · rintro (hnone | ⟨hnf, hq | hq⟩)
          · exact .inl hnone
          · exact absurd hq.symm hne
          · exact .inr ⟨hnf, hq⟩

end DestroyNfPort

/-! ## Switches -/

/-- The name is that of an end of a link which has an end among the ports. -/
def Resources.InLinkOf (s : Resources) (ports : List Detach) (name : String) : Prop :=
  ∃ p ∈ ports, ∃ port ∈ s.manager.ports p.name, ∃ pair,
    port.type = .virtual pair ∧ (name = p.name ∨ name = pair)

/-- All the ports can be detached, one after the other. -/
def Resources.AllDetachable (s : Resources) (dpid : Dpid) (ports : List Detach) : Prop :=
  (∀ p ∈ ports, s.Detachable dpid p) ∧ ports.Pairwise fun p q => s.Apart p.name q.name

section DestroySwitch

variable {s : Resources} {dpid : Dpid} {snapshot : Option (List Detach)} {ports : List Detach}

lemma destroySwitch_eq (hexists : s.switchExists dpid = true) : destroySwitch dpid (some ports) s =
    (Call.forEach (Detach.call dpid) ports).andThen (eraseSwitch dpid) s := by
  unfold destroySwitch
  rw [hexists]
  rfl

lemma destroySwitch_of_not_exists (h : s.switchExists dpid = false ∨ snapshot = none) :
    destroySwitch dpid snapshot s = (some (), s) := by
  unfold destroySwitch
  cases hexists : s.switchExists dpid with
  | false => rfl
  | true =>
      rw [h.resolve_left (by rw [hexists]; exact nofun)]
      rfl

lemma returns_destroySwitch (hexists : s.switchExists dpid = true) :
    (destroySwitch dpid (some ports)).Returns s ↔ s.AllDetachable dpid ports := by
  rw [Call.Returns, destroySwitch_eq hexists, ← Call.Returns, Call.returns_andThen,
    returns_detachEach]
  exact ⟨fun h => h.1, fun h => ⟨h, rfl⟩⟩

lemma destroySwitch_clean_iff (hexists : s.switchExists dpid = true) :
    ¬ (destroySwitch dpid (some ports)).Returns s ∧ (destroySwitch dpid (some ports) s).2 = s ↔
      ∃ p ∈ ports.head?, ¬ s.Detaches dpid p := by
  have hiff : (destroySwitch dpid (some ports)).Returns s ↔
      (Call.forEach (Detach.call dpid) ports).Returns s :=
    (returns_destroySwitch hexists).trans returns_detachEach.symm
  rw [← detachEach_clean_iff, hiff]
  refine and_congr_right fun hfails => ?_
  rw [destroySwitch_eq hexists, Call.andThen_of_throws hfails]

lemma snd_destroySwitch (hexists : s.switchExists dpid = true)
    (h : s.AllDetachable dpid ports) : (destroySwitch dpid (some ports) s).2 =
      (eraseSwitch dpid (Call.forEach (Detach.call dpid) ports s).2).2 := by
  rw [destroySwitch_eq hexists, Call.andThen_of_returns (returns_detachEach.mpr h)]

/-- One of the calls for the ports of a table. -/
def destroyEntry (destroyed : ℕ → Bool) (e : String × ℕ) : Call Reply Resources :=
  (destroyNfPort e.1 (destroyed e.2)).ignore

lemma ports_destroyEntry_eq_none_iff {destroyed : ℕ → Bool} {e : String × ℕ} {name : String} :
    (destroyEntry destroyed e s).2.manager.ports name = none ↔ s.manager.ports name = none ∨
      (s.IsNf name ∧ e.1 = name ∧ destroyed e.2 = true) := by
  change (destroyNf e.1 (destroyed e.2) s).2.manager.ports name = none ↔ _
  rcases snd_destroyNf s e.1 (destroyed e.2) with ⟨hdestroyed, hnf, hs'⟩ | ⟨hnot, hs'⟩
  · rw [hs']
    by_cases hne : e.1 = name
    · subst hne
      exact ⟨fun _ => .inr ⟨hnf, rfl, hdestroyed⟩, fun _ => ports_removePort_self⟩
    · have hsame : (s.manager.removePort e.1).ports name = s.manager.ports name :=
        ports_removePort_of_ne (Ne.symm hne)
      change (s.manager.removePort e.1).ports name = none ↔ _
      rw [hsame]
      exact ⟨.inl, fun h => h.resolve_right fun h => hne h.2.1⟩
  · rw [hs']
    refine ⟨.inl, fun h => h.resolve_right ?_⟩
    rintro ⟨hnf, rfl, hdestroyed⟩
    exact hnot ⟨hdestroyed, hnf⟩

lemma shrinking_destroyEntry (destroyed : ℕ → Bool) (e : String × ℕ) (s : Resources) :
    Shrinking s (destroyEntry destroyed e s).2 := shrinking_destroyNf s e.1 (destroyed e.2)

/-- A port that stays has its type. -/
lemma Shrinking.isNf_iff {s s' : Resources} {name : String} (h : Shrinking s s')
    (hname : s'.manager.ports name ≠ none) : s'.IsNf name ↔ s.IsNf name := by
  obtain ⟨port', hport'⟩ := Option.ne_none_iff_exists'.mp hname
  obtain ⟨port, hport, hcase⟩ := h.ports name port' hport'
  have htype : port'.type = port.type := by
    rcases hcase with rfl | rfl <;> rfl
  rw [Resources.IsNf, Resources.IsNf, hport, hport']
  simp only [Option.mem_def, Option.some.injEq, exists_eq_left', htype]

/-- The ports that are gone after the ports of a table have been destroyed as far as possible. -/
lemma ports_destroyEntries_eq_none_iff {destroyed : ℕ → Bool} {name : String}
    (es : List (String × ℕ)) (s : Resources) :
    (Call.forEach (destroyEntry destroyed) es s).2.manager.ports name = none ↔
      s.manager.ports name = none ∨
        (s.IsNf name ∧ ∃ e ∈ es, e.1 = name ∧ destroyed e.2 = true) := by
  induction es generalizing s with
  | nil => exact ⟨.inl, fun h => h.resolve_right nofun⟩
  | cons e es ih =>
      have hreturns : (destroyEntry destroyed e).Returns s := rfl
      rw [Call.forEach, Call.andThen_of_returns hreturns, ih, ports_destroyEntry_eq_none_iff,
        List.exists_mem_cons_iff]
      by_cases hgone : (destroyEntry destroyed e s).2.manager.ports name = none
      · have hcase := ports_destroyEntry_eq_none_iff.mp hgone
        refine ⟨fun _ => ?_, fun _ => .inl hcase⟩
        exact hcase.imp_right fun h => ⟨h.1, .inl h.2⟩
      · rw [(shrinking_destroyEntry destroyed e s).isNf_iff hgone]
        rw [ports_destroyEntry_eq_none_iff] at hgone
        constructor
        · rintro (h | ⟨hnf, h⟩)
          · exact absurd h hgone
          · exact .inr ⟨hnf, .inr h⟩
        · rintro (h | ⟨hnf, h | h⟩)
          · exact absurd (.inl h) hgone
          · exact absurd (.inr ⟨hnf, h⟩) hgone
          · exact .inr ⟨hnf, h⟩

end DestroySwitch

end Xdpd.Management.NodeOrchestrator
