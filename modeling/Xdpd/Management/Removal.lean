import Xdpd.Management.Creation

/-!
# What detaching and destroying does

When a port is detached from a switch, and when this fails and leaves what was there
(`Detachable`, `Detaches`), and the same for the ends of virtual links and for NF ports.  As for
`Creation`, a loop is judged by what holds before the first of its calls; two ports get in each
other's way there if they are ends of one link (`Apart`).
-/

namespace Xdpd.Management.NodeOrchestrator

open Xdpd.Lib Ports

/-- Ports have been detached or removed, and links and names have left the caches. -/
structure Shrinking (s s' : Resources) : Prop where
  ports : ∀ name port', s'.manager.ports name = some port' → ∃ port,
    s.manager.ports name = some port ∧ (port' = port ∨ port' = { port with attachedSw := none })
  vlinks : ∀ name pair, s'.manager.vlinks name = some pair → s.manager.vlinks name = some pair
  names : ∀ dpid, (s'.nfPortNames dpid).Sublist (s.nfPortNames dpid)
  switchs : s'.switchs = s.switchs
  blacklisted : s'.manager.blacklisted = s.manager.blacklisted
  locked : s'.manager.locked = s.manager.locked

instance : IsPartialOrder Resources Shrinking where
  refl s := ⟨fun _ port h => ⟨port, h, .inl rfl⟩, fun _ _ => id, fun _ => .refl _, rfl, rfl, rfl⟩
  trans s₁ s₂ s₃ h₁₂ h₂₃ := by
    refine ⟨fun name port₃ h₃ => ?_,
      fun name pair h => h₁₂.vlinks name pair (h₂₃.vlinks name pair h),
      fun dpid => (h₂₃.names dpid).trans (h₁₂.names dpid), h₂₃.switchs.trans h₁₂.switchs,
      h₂₃.blacklisted.trans h₁₂.blacklisted, h₂₃.locked.trans h₁₂.locked⟩
    obtain ⟨port₂, h₂, hport₃⟩ := h₂₃.ports name port₃ h₃
    obtain ⟨port₁, h₁, hport₂⟩ := h₁₂.ports name port₂ h₂
    refine ⟨port₁, h₁, ?_⟩
    rcases hport₃ with rfl | rfl
    · exact hport₂
    · rcases hport₂ with rfl | rfl
      · exact .inr rfl
      · exact .inr rfl
  antisymm s₁ s₂ h₁₂ h₂₁ := by
    have hports : ∀ name, s₂.manager.ports name = s₁.manager.ports name := by
      intro name
      cases h₁ : s₁.manager.ports name with
      | none =>
          refine Option.eq_none_iff_forall_ne_some.mpr fun port₂ h₂ => ?_
          obtain ⟨port₁, h₁', -⟩ := h₁₂.ports name port₂ h₂
          exact absurd (h₁.symm.trans h₁') nofun
      | some port₁ =>
          obtain ⟨port₂, h₂, hport₁⟩ := h₂₁.ports name port₁ h₁
          obtain ⟨port₁', h₁', hport₂⟩ := h₁₂.ports name port₂ h₂
          obtain rfl := Option.some.inj (h₁.symm.trans h₁')
          rw [h₂]
          rcases hport₁ with rfl | hport₁
          · rfl
          · rcases hport₂ with rfl | hport₂
            · rfl
            · -- both are the port without its switch
              rw [hport₁] at hport₂
              rw [hport₁, hport₂]
    refine (Resources.eq_of_rest (funext hports) (funext fun name => ?_) ?_).symm
    · exact Option.ext fun pair => ⟨h₁₂.vlinks name pair, h₂₁.vlinks name pair⟩
    · have hnames : s₂.nfPortNames = s₁.nfPortNames :=
        funext fun dpid => (h₁₂.names dpid).antisymm (h₂₁.names dpid)
      rw [Resources.rest, Resources.rest, h₁₂.switchs, hnames, h₁₂.blacklisted, h₁₂.locked]

section Order

variable {s s' : Resources} {dpid : Dpid} {name : String}

lemma Shrinking.ports_eq_none (h : Shrinking s s') (hname : s.manager.ports name = none) :
    s'.manager.ports name = none := by
  refine Option.eq_none_iff_forall_ne_some.mpr fun port' hport' => ?_
  obtain ⟨port, hport, -⟩ := h.ports name port' hport'
  exact absurd (hname.symm.trans hport) nofun

/-- A port that is still attached has not been touched. -/
lemma Shrinking.ports_of_attached (h : Shrinking s s') {port : SwitchPort}
    (hport : s'.manager.ports name = some port) (hsw : port.attachedSw ≠ none) :
    s.manager.ports name = some port := by
  obtain ⟨port', hport', rfl | rfl⟩ := h.ports name port hport
  · exact hport'
  · exact absurd rfl hsw

end Order

/-! ## Ports -/

/-- The name is that of the port, or of the other end of its link. -/
def Resources.IsEnd (s : Resources) (name other : String) : Prop :=
  other = name ∨ ∃ port ∈ s.manager.ports name, port.type = .virtual other

/-- The ports are not ends of the same link. -/
def Resources.Apart (s : Resources) (name name' : String) : Prop :=
  ∀ other, ¬ (s.IsEnd name other ∧ s.IsEnd name' other)

/-- The port is attached to the switch, and the driver takes it away. -/
def Resources.Detaches (s : Resources) (dpid : Dpid) (p : Detach) : Prop :=
  s.AttachedTo dpid p.name ∧ p.result ≠ .failure

/-- The port can be detached from the switch, and deleted with its link. -/
def Resources.Detachable (s : Resources) (dpid : Dpid) (p : Detach) : Prop :=
  ∃ port, s.manager.ports p.name = some port ∧ port.attachedSw = some dpid ∧ p.result = .success ∧
    ∀ pair, port.type = .virtual pair → pair ≠ p.name ∧ s.manager.Attached pair

/-- The call that detaches the port. -/
def Detach.call (dpid : Dpid) (p : Detach) : Call Unit Resources :=
  detachPortFromSwitch dpid p.name p.result

section Detach

variable {s : Resources} {dpid : Dpid} {p : Detach} {port : SwitchPort}

lemma Resources.Detachable.detaches (h : s.Detachable dpid p) : s.Detaches dpid p := by
  obtain ⟨port, hport, hsw, hresult, -⟩ := h
  refine ⟨⟨port, hport, hsw⟩, ?_⟩
  rw [hresult]
  exact nofun

lemma detach_of_not_detaches (h : ¬ s.Detaches dpid p) :
    ¬ (p.call dpid).Returns s ∧ (p.call dpid s).2 = s := by
  rw [Call.Returns, Detach.call, detachPortFromSwitch, detachSection]
  cases hport : s.manager.ports p.name with
  | none => exact ⟨by simp, rfl⟩
  | some port =>
      dsimp only
      by_cases hdpid : port.attachedSw.getD 0 = dpid
      · rw [if_neg (not_not.mpr hdpid)]
        cases hsw : port.attachedSw with
        | none => exact ⟨by simp, rfl⟩
        | some sw =>
            have hattached : s.AttachedTo dpid p.name := by
              refine ⟨port, hport, ?_⟩
              rw [hsw] at hdpid
              rw [hsw, ← hdpid]
              rfl
            have hresult : p.result = .failure := by
              by_contra hne
              exact h ⟨hattached, hne⟩
            rw [if_neg (Option.some_ne_none sw), hresult]
            exact ⟨by simp [halDetach], rfl⟩
      · rw [if_pos hdpid]
        exact ⟨by simp, rfl⟩

lemma detach_of_attached (hport : s.manager.ports p.name = some port)
    (hsw : port.attachedSw = some dpid) :
    p.call dpid s = s.leave (halDetach s.manager p.name port p.result) := by
  rw [Detach.call, detachPortFromSwitch, detachSection, hport]
  dsimp only
  rw [hsw, Option.getD_some, if_neg (not_not.mpr rfl), if_neg nofun]

/-- The port stays, without its switch. -/
lemma detach_of_not_detachable (h : s.Detaches dpid p) (hnot : ¬ s.Detachable dpid p)
    (hport : s.manager.ports p.name = some port) :
    ¬ (p.call dpid).Returns s ∧
      (p.call dpid s).2 = s.withPort p.name { port with attachedSw := none } := by
  obtain ⟨⟨port', hport', hsw⟩, hresult⟩ := h
  obtain rfl := Option.some.inj (hport.symm.trans hport')
  rw [Call.Returns, detach_of_attached hport hsw]
  cases hcase : p.result with
  | failure => exact absurd hcase hresult
  | failureOfPair => exact ⟨by simp [halDetach], rfl⟩
  | success =>
      cases htype : port.type with
      | physical =>
          refine absurd ⟨port, hport, hsw, hcase, fun pair hpair => ?_⟩ hnot
          exact absurd (htype.symm.trans hpair) (by simp)
      | nf type =>
          refine absurd ⟨port, hport, hsw, hcase, fun pair hpair => ?_⟩ hnot
          exact absurd (htype.symm.trans hpair) (by simp)
      | virtual pair =>
          have hpair : ¬ (pair ≠ p.name ∧ s.manager.Attached pair) := by
            intro hpair
            refine hnot ⟨port, hport, hsw, hcase, fun pair' htype' => ?_⟩
            obtain rfl : pair = pair' := PortType.virtual.inj (htype.symm.trans htype')
            exact hpair
          obtain ⟨type, sw⟩ := port
          obtain rfl : type = .virtual pair := htype
          unfold halDetach
          dsimp only
          split
          · exact ⟨by simp, rfl⟩
          next portPair hportPair =>
            by_cases hattached : portPair.attachedSw = none
            · rw [if_pos hattached]
              exact ⟨by simp, rfl⟩
            · refine absurd ?_ hpair
              by_cases hne : pair = p.name
              · rw [hne] at hportPair
                simp only [PortManager.setAttached, Function.update_self] at hportPair
                obtain rfl := Option.some.inj hportPair
                exact absurd rfl hattached
              · simp only [PortManager.setAttached, Function.update_of_ne hne] at hportPair
                exact ⟨hne, portPair, hportPair, hattached⟩

/-- The port stays without its switch, or its link is deleted. -/
lemma detach_of_detachable (h : s.Detachable dpid p) :
    (p.call dpid).Returns s ∧ ∃ port, s.manager.ports p.name = some port ∧
      (((∀ pair, port.type ≠ .virtual pair) ∧
          (p.call dpid s).2 = s.withPort p.name { port with attachedSw := none }) ∨
        ∃ pair, port.type = .virtual pair ∧ pair ≠ p.name ∧ (p.call dpid s).2 = { s with
          manager := deleteLink (s.manager.setAttached p.name port none) p.name pair }) := by
  obtain ⟨port, hport, hsw, hresult, hpair⟩ := h
  rw [Call.Returns, detach_of_attached hport hsw, hresult]
  cases htype : port.type with
  | physical =>
      unfold halDetach
      rw [htype]
      exact ⟨rfl, port, hport, .inl ⟨by rw [htype]; simp, rfl⟩⟩
  | nf type =>
      unfold halDetach
      rw [htype]
      exact ⟨rfl, port, hport, .inl ⟨by rw [htype]; simp, rfl⟩⟩
  | virtual pair =>
      obtain ⟨hne, portPair, hportPair, hattached⟩ := hpair pair htype
      have hlook : (s.manager.setAttached p.name port none).ports pair = some portPair :=
        (Function.update_of_ne hne _ _).trans hportPair
      unfold halDetach
      rw [htype]
      dsimp only
      rw [hlook]
      dsimp only
      rw [if_neg hattached]
      exact ⟨rfl, port, hport, .inr ⟨pair, htype, hne, rfl⟩⟩

/-! ### Deleting a link -/

lemma vlinks_notifyPortDelete_of_ne {s : PortManager} {name other : String} (hne : other ≠ name) :
    (notifyPortDelete s name).vlinks other = s.vlinks other := by
  rw [notifyPortDelete]
  split
  · rfl
  · split
    · exact Function.update_of_ne hne _ _
    · rfl

lemma vlinks_of_notifyPortDelete {s : PortManager} {name other pair : String}
    (h : (notifyPortDelete s name).vlinks other = some pair) : s.vlinks other = some pair := by
  by_cases hne : other = name
  · subst hne
    rw [notifyPortDelete] at h
    split at h
    · exact h
    · split at h
      · exact absurd ((Function.update_self _ _ _).symm.trans h) (by simp)
      · exact h
  · rw [vlinks_notifyPortDelete_of_ne hne] at h
    exact h

lemma ports_removePort_of_ne {s : PortManager} {name other : String} (hne : other ≠ name) :
    (s.removePort name).ports other = s.ports other := Function.update_of_ne hne _ _

lemma ports_removePort_self {s : PortManager} {name : String} :
    (s.removePort name).ports name = none := Function.update_self _ _ _

lemma ports_deleteLink_of_ne {s : PortManager} {name pair other : String} (hname : other ≠ name)
    (hpair : other ≠ pair) : (deleteLink s name pair).ports other = s.ports other ∧
      (deleteLink s name pair).vlinks other = s.vlinks other := by
  constructor
  · rw [deleteLink, (notifyPortDelete_eq _ name).1, ports_removePort_of_ne hpair,
      ports_removePort_of_ne hname, (notifyPortDelete_eq s pair).1]
  · rw [deleteLink, vlinks_notifyPortDelete_of_ne hname]
    exact vlinks_notifyPortDelete_of_ne hpair

lemma ports_deleteLink_eq_none {s : PortManager} {name pair other : String}
    (h : other = name ∨ other = pair) : (deleteLink s name pair).ports other = none := by
  rw [deleteLink, (notifyPortDelete_eq _ name).1]
  by_cases hpair : other = pair
  · rw [hpair, ports_removePort_self]
  · rw [ports_removePort_of_ne hpair, h.resolve_right hpair, ports_removePort_self]

lemma locked_deleteLink (s : PortManager) (name pair : String) :
    (deleteLink s name pair).locked = s.locked :=
  (notifyPortDelete_eq _ name).2.2.trans (notifyPortDelete_eq s pair).2.2

lemma vlinks_of_deleteLink {s : PortManager} {name pair other other' : String}
    (h : (deleteLink s name pair).vlinks other = some other') : s.vlinks other = some other' := by
  have hremoved := vlinks_of_notifyPortDelete h
  exact vlinks_of_notifyPortDelete hremoved

/-! ### What a call leaves -/

lemma returns_detach : (p.call dpid).Returns s ↔ s.Detachable dpid p := by
  constructor
  · intro hreturns
    by_contra hnot
    by_cases h : s.Detaches dpid p
    · obtain ⟨port, hport, -⟩ := h.1
      exact (detach_of_not_detachable h hnot hport).1 hreturns
    · exact (detach_of_not_detaches h).1 hreturns
  · intro h
    exact (detach_of_detachable h).1

/-- The driver removes the other end of the link. -/
def Resources.Removes (s : Resources) (p : Detach) (other : String) : Prop :=
  p.result = .success ∧ ∃ port ∈ s.manager.ports p.name, port.type = .virtual other

/-- A call that detaches its port either keeps the port, or deletes the link. -/
lemma detach_cases (h : s.Detaches dpid p) : ∃ port, s.manager.ports p.name = some port ∧
    ((p.call dpid s).2 = s.withPort p.name { port with attachedSw := none } ∨
      ∃ pair, port.type = .virtual pair ∧ s.Detachable dpid p ∧ (p.call dpid s).2 = { s with
        manager := deleteLink (s.manager.setAttached p.name port none) p.name pair }) := by
  by_cases hdetachable : s.Detachable dpid p
  · obtain ⟨-, port, hport, hcase⟩ := detach_of_detachable hdetachable
    refine ⟨port, hport, ?_⟩
    rcases hcase with ⟨-, hs'⟩ | ⟨pair, htype, -, hs'⟩
    · exact .inl hs'
    · exact .inr ⟨pair, htype, hdetachable, hs'⟩
  · obtain ⟨port, hport, -⟩ := h.1
    exact ⟨port, hport, .inl (detach_of_not_detachable h hdetachable hport).2⟩

/-- Only the port and the other end of its link are touched. -/
lemma ports_detach_of_ne {other : String} (hne : other ≠ p.name) (hpair : ¬ s.Removes p other) :
    (p.call dpid s).2.manager.ports other = s.manager.ports other ∧
      (p.call dpid s).2.manager.vlinks other = s.manager.vlinks other := by
  by_cases h : s.Detaches dpid p
  · obtain ⟨port, hport, hs' | ⟨pair, htype, hdetachable, hs'⟩⟩ := detach_cases h
    · rw [hs']
      exact ⟨Resources.ports_withPort_of_ne hne, rfl⟩
    · rw [hs']
      have hother : other ≠ pair := by
        rintro rfl
        obtain ⟨-, -, -, hresult, -⟩ := hdetachable
        exact hpair ⟨hresult, port, hport, htype⟩
      have hdeleted := ports_deleteLink_of_ne (s := s.manager.setAttached p.name port none)
        hne hother
      exact ⟨hdeleted.1.trans (Function.update_of_ne hne _ _), hdeleted.2⟩
  · rw [(detach_of_not_detaches h).2]
    exact ⟨rfl, rfl⟩

/-- The port is no longer attached to any switch. -/
lemma not_attached_detach (h : s.Detaches dpid p) :
    ¬ (p.call dpid s).2.manager.Attached p.name := by
  rintro ⟨port', hport', hattached⟩
  obtain ⟨port, hport, hs' | ⟨pair, -, -, hs'⟩⟩ := detach_cases h
  · rw [hs', Resources.ports_withPort_self] at hport'
    obtain rfl := Option.some.inj hport'
    exact hattached rfl
  · rw [hs'] at hport'
    exact absurd ((ports_deleteLink_eq_none (.inl rfl)).symm.trans hport') nofun

/-- The link of the port is deleted. -/
lemma ports_detach_of_isEnd {other : String} (h : s.Detachable dpid p) {port : SwitchPort}
    (hport : s.manager.ports p.name = some port) {pair : String} (htype : port.type = .virtual pair)
    (hother : other = p.name ∨ other = pair) : (p.call dpid s).2.manager.ports other = none := by
  obtain ⟨-, port', hport', ⟨hnot, -⟩ | ⟨pair', htype', -, hs'⟩⟩ := detach_of_detachable h
  · obtain rfl := Option.some.inj (hport.symm.trans hport')
    exact absurd htype (hnot pair)
  · obtain rfl := Option.some.inj (hport.symm.trans hport')
    obtain rfl : pair = pair' := PortType.virtual.inj (htype.symm.trans htype')
    rw [hs']
    exact ports_deleteLink_eq_none hother

lemma shrinking_withPort (hport : s.manager.ports p.name = some port) :
    Shrinking s (s.withPort p.name { port with attachedSw := none }) := by
  refine ⟨fun name port' hport' => ?_, fun _ _ => id, fun _ => .refl _, rfl, rfl, rfl⟩
  by_cases hne : name = p.name
  · subst hne
    rw [Resources.ports_withPort_self] at hport'
    exact ⟨port, hport, .inr (Option.some.inj hport').symm⟩
  · rw [Resources.ports_withPort_of_ne hne] at hport'
    exact ⟨port', hport', .inl rfl⟩

lemma shrinking_detach (dpid : Dpid) (p : Detach) (s : Resources) :
    Shrinking s (p.call dpid s).2 := by
  by_cases h : s.Detaches dpid p
  · obtain ⟨port, hport, hs' | ⟨pair, htype, hdetachable, hs'⟩⟩ := detach_cases h
    · rw [hs']
      exact shrinking_withPort hport
    · rw [hs']
      refine
        { ports := fun name port' hport' => ?_
          vlinks := fun name pair' hpair => ?_
          names := fun _ => .refl _
          switchs := rfl
          blacklisted := blacklisted_deleteLink (s.manager.setAttached p.name port none) p.name pair
          locked := locked_deleteLink (s.manager.setAttached p.name port none) p.name pair }
      · by_cases hne : name = p.name ∨ name = pair
        · exact absurd ((ports_deleteLink_eq_none hne).symm.trans hport') nofun
        · rw [not_or] at hne
          have hsame := (ports_deleteLink_of_ne (s := s.manager.setAttached p.name port none)
            hne.1 hne.2).1
          rw [hsame] at hport'
          exact ⟨port', (Function.update_of_ne hne.1 _ _).symm.trans hport', .inl rfl⟩
      · exact vlinks_of_deleteLink (s := s.manager.setAttached p.name port none) hpair
  · rw [(detach_of_not_detaches h).2]
    exact Std.Refl.refl s

lemma detach_same_iff : (p.call dpid s).2 = s ↔ ¬ s.Detaches dpid p := by
  constructor
  · intro hs' h
    obtain ⟨port, hport, hsw⟩ := h.1
    refine not_attached_detach h ?_
    rw [hs']
    exact ⟨port, hport, by rw [hsw]; exact nofun⟩
  · intro h
    exact (detach_of_not_detaches h).2

/-! ### Detaching several ports -/

/-- The ends of the link of a port that has been detached are not attached any more. -/
lemma not_attached_detach_of_isEnd {other : String} (h : s.Detachable dpid p)
    (hend : s.IsEnd p.name other) : ¬ (p.call dpid s).2.manager.Attached other := by
  rcases hend with rfl | ⟨port, hport, htype⟩
  · exact not_attached_detach h.detaches
  · rintro ⟨port', hport', -⟩
    exact absurd ((ports_detach_of_isEnd h hport htype (.inr rfl)).symm.trans hport') nofun

lemma ports_detach_of_not_isEnd {other : String} (hend : ¬ s.IsEnd p.name other) :
    (p.call dpid s).2.manager.ports other = s.manager.ports other := by
  rw [Resources.IsEnd, not_or] at hend
  exact (ports_detach_of_ne hend.1 fun h => hend.2 h.2).1

lemma attached_eq_of_ports {s s' : PortManager} {name : String} (h : s'.ports name = s.ports name) :
    s'.Attached name ↔ s.Attached name := by
  rw [PortManager.Attached, PortManager.Attached, h]

/-- **One port after the other**: the second one can be detached unless it is an end of the link of
the first one, or of the same link. -/
lemma detachable_detach_iff {dpid' : Dpid} {q : Detach} (h : s.Detachable dpid p) :
    (p.call dpid s).2.Detachable dpid' q ↔ s.Detachable dpid' q ∧ s.Apart p.name q.name := by
  constructor
  · rintro ⟨port, hport, hsw, hresult, hpair⟩
    have hq : ¬ s.IsEnd p.name q.name := by
      intro hend
      refine not_attached_detach_of_isEnd h hend ⟨port, hport, ?_⟩
      rw [hsw]
      exact nofun
    have hsame : (p.call dpid s).2.manager.ports q.name = s.manager.ports q.name :=
      ports_detach_of_not_isEnd hq
    rw [hsame] at hport
    refine ⟨⟨port, hport, hsw, hresult, fun pair htype => ?_⟩, ?_⟩
    · obtain ⟨hne, hattached⟩ := hpair pair htype
      have hpair' : ¬ s.IsEnd p.name pair := fun hend =>
        not_attached_detach_of_isEnd h hend hattached
      exact ⟨hne, (attached_eq_of_ports (ports_detach_of_not_isEnd hpair')).mp hattached⟩
    · rintro other ⟨hend, rfl | ⟨port', hport', htype⟩⟩
      · exact hq hend
      · obtain rfl := Option.some.inj (hport.symm.trans hport')
        exact not_attached_detach_of_isEnd h hend (hpair other htype).2
  · rintro ⟨⟨port, hport, hsw, hresult, hpair⟩, hapart⟩
    have hq : ¬ s.IsEnd p.name q.name := fun hend => hapart q.name ⟨hend, .inl rfl⟩
    refine ⟨port, (ports_detach_of_not_isEnd hq).trans hport, hsw, hresult, fun pair htype => ?_⟩
    obtain ⟨hne, hattached⟩ := hpair pair htype
    have hpair' : ¬ s.IsEnd p.name pair := fun hend =>
      hapart pair ⟨hend, .inr ⟨port, hport, htype⟩⟩
    exact ⟨hne, (attached_eq_of_ports (ports_detach_of_not_isEnd hpair')).mpr hattached⟩

/-- A port that can still be detached is the one that it was. -/
lemma isEnd_detach_iff {dpid' : Dpid} {q : Detach} (h : s.Detachable dpid p)
    (hq : (p.call dpid s).2.Detachable dpid' q) (other : String) :
    (p.call dpid s).2.IsEnd q.name other ↔ s.IsEnd q.name other := by
  have hapart := ((detachable_detach_iff h).mp hq).2
  have hnot : ¬ s.IsEnd p.name q.name := fun hend => hapart q.name ⟨hend, .inl rfl⟩
  rw [Resources.IsEnd, Resources.IsEnd, ports_detach_of_not_isEnd hnot]

lemma apart_detach_iff {dpid' dpid'' : Dpid} {q q' : Detach} (h : s.Detachable dpid p)
    (hq : (p.call dpid s).2.Detachable dpid' q) (hq' : (p.call dpid s).2.Detachable dpid'' q') :
    (p.call dpid s).2.Apart q.name q'.name ↔ s.Apart q.name q'.name := by
  rw [Resources.Apart, Resources.Apart]
  simp only [isEnd_detach_iff h hq, isEnd_detach_iff h hq']

variable {ports : List Detach}

lemma returns_detachEach : (Call.forEach (Detach.call dpid) ports).Returns s ↔
    (∀ p ∈ ports, s.Detachable dpid p) ∧ ports.Pairwise fun p q => s.Apart p.name q.name := by
  rw [Call.returns_forEach, Call.allAlong_iff fun s p q => s.Apart p.name q.name]
  · simp only [returns_detach]
  · intro s p q hp
    rw [returns_detach] at hp
    rw [returns_detach, returns_detach, detachable_detach_iff hp]
  · intro s p q q' hp hq hq'
    exact apart_detach_iff (returns_detach.mp hp) (returns_detach.mp hq) (returns_detach.mp hq')

lemma detachEach_clean_iff :
    ¬ (Call.forEach (Detach.call dpid) ports).Returns s ∧
        (Call.forEach (Detach.call dpid) ports s).2 = s ↔
      ∃ p ∈ ports.head?, ¬ s.Detaches dpid p := by
  rw [Call.forEach_clean_iff (shrinking_detach dpid) (fun _ => returns_detach)
    (fun _ => detach_same_iff)]
  exact Call.cleanFailure_iff_head fun p hnot hdetachable => hnot hdetachable.detaches

/-- The ports that are gone after a loop that returns: those that were, and both ends of the
links. -/
lemma ports_detachEach_eq_none_iff (h : (Call.forEach (Detach.call dpid) ports).Returns s)
    (name : String) : (Call.forEach (Detach.call dpid) ports s).2.manager.ports name = none ↔
      s.manager.ports name = none ∨ ∃ p ∈ ports, ∃ port ∈ s.manager.ports p.name, ∃ pair,
        port.type = .virtual pair ∧ (name = p.name ∨ name = pair) := by
  induction ports generalizing s with
  | nil => exact ⟨.inl, fun h => h.resolve_right (by simp)⟩
  | cons p ports ih =>
      obtain ⟨hp, hports⟩ := Call.returns_andThen.mp h
      have hdetachable := returns_detach.mp hp
      rw [Call.forEach, Call.andThen_of_returns hp, ih hports]
      -- the later ports are as they were before the first call
      have hlater : ∀ q ∈ ports, (p.call dpid s).2.manager.ports q.name =
          s.manager.ports q.name := by
        intro q hq
        have hq' := (returns_detachEach.mp hports).1 q hq
        have hapart := ((detachable_detach_iff hdetachable).mp hq').2
        exact ports_detach_of_not_isEnd fun hend => hapart q.name ⟨hend, .inl rfl⟩
      have hfirst : (p.call dpid s).2.manager.ports name = none ↔ s.manager.ports name = none ∨
          ∃ port ∈ s.manager.ports p.name, ∃ pair,
            port.type = .virtual pair ∧ (name = p.name ∨ name = pair) := by
        constructor
        · intro hnone
          obtain ⟨-, port, hport, ⟨-, hs'⟩ | ⟨pair, htype, -, hs'⟩⟩ :=
            detach_of_detachable hdetachable
          · by_cases hne : name = p.name
            · rw [hs', hne, Resources.ports_withPort_self] at hnone
              cases hnone
            · rw [hs', Resources.ports_withPort_of_ne hne] at hnone
              exact .inl hnone
          · by_cases hne : name = p.name ∨ name = pair
            · exact .inr ⟨port, hport, pair, htype, hne⟩
            · rw [not_or] at hne
              rw [hs'] at hnone
              refine .inl (Eq.trans ?_ hnone)
              exact ((ports_deleteLink_of_ne hne.1 hne.2).1.trans
                (Function.update_of_ne hne.1 _ _)).symm
        · rintro (hnone | ⟨port, hport, pair, htype, hne⟩)
          · exact (shrinking_detach dpid p s).ports_eq_none hnone
          · exact ports_detach_of_isEnd hdetachable hport htype hne
      rw [hfirst]
      constructor
      · rintro ((hnone | hend) | ⟨q, hq, hend⟩)
        · exact .inl hnone
        · exact .inr ⟨p, List.mem_cons_self, hend⟩
        · rw [hlater q hq] at hend
          exact .inr ⟨q, List.mem_cons_of_mem p hq, hend⟩
      · rintro (hnone | ⟨q, hq, hend⟩)
        · exact .inl (.inl hnone)
        · rcases List.mem_cons.mp hq with rfl | hq
          · exact .inl (.inr hend)
          · rw [← hlater q hq] at hend
            exact .inr ⟨q, hq, hend⟩

end Detach

end Xdpd.Management.NodeOrchestrator
