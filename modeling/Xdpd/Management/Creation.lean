import Xdpd.Management.NodeOrchestrator

/-!
# What attaching and creating does

When a port is attached, an NF port created or a link made, and when this fails and leaves what was
there (`Attachable`, `NfCreatable`, `LinkCreatable` and their counterparts).  All of it is said of
the resources before the call, and then of a loop by what holds before the first of its calls.
-/

namespace Xdpd.Management.NodeOrchestrator

open Xdpd.Lib Ports

namespace Resources

/-- The port is attached to the switch. -/
def AttachedTo (s : Resources) (dpid : Dpid) (name : String) : Prop :=
  ∃ port ∈ s.manager.ports name, port.attachedSw = some dpid

instance (s : Resources) (dpid : Dpid) (name : String) : Decidable (s.AttachedTo dpid name) :=
  inferInstanceAs (Decidable (∃ port ∈ s.manager.ports name, port.attachedSw = some dpid))

/-- The resources with a port. -/
def withPort (s : Resources) (name : String) (port : SwitchPort) : Resources :=
  { s with manager := { s.manager with ports := Function.update s.manager.ports name (some port) } }

/-- What neither attaching nor creating ports changes. -/
def rest (s : Resources) : Finset (Dpid × String) × (Dpid → List String) × Finset String × Bool :=
  (s.switchs, s.nfPortNames, s.manager.blacklisted, s.manager.locked)

variable {s s' : Resources} {dpid : Dpid} {name other : String} {port : SwitchPort}

lemma eq_of_rest (hports : s'.manager.ports = s.manager.ports)
    (hvlinks : s'.manager.vlinks = s.manager.vlinks) (hrest : s'.rest = s.rest) : s' = s := by
  obtain ⟨switchs, ⟨locked, blacklisted, vlinks, ports⟩, names⟩ := s
  obtain ⟨switchs', ⟨locked', blacklisted', vlinks', ports'⟩, names'⟩ := s'
  simp only [rest, Prod.mk.injEq] at hports hvlinks hrest
  obtain ⟨rfl, rfl, rfl, rfl⟩ := hrest
  obtain rfl := hports
  obtain rfl := hvlinks
  rfl

lemma switchs_eq (h : s'.rest = s.rest) : s'.switchs = s.switchs := congrArg (·.1) h

lemma nfPortNames_eq (h : s'.rest = s.rest) : s'.nfPortNames = s.nfPortNames :=
  congrArg (·.2.1) h

lemma blacklisted_eq (h : s'.rest = s.rest) : s'.manager.blacklisted = s.manager.blacklisted :=
  congrArg (·.2.2.1) h

lemma switchExists_eq (h : s'.rest = s.rest) (dpid : Dpid) :
    s'.switchExists dpid = s.switchExists dpid := by
  rw [switchExists, switchExists, switchs_eq h]

@[simp] lemma ports_withPort_self :
    (s.withPort name port).manager.ports name = some port := Function.update_self _ _ _

lemma ports_withPort_of_ne (hne : other ≠ name) :
    (s.withPort name port).manager.ports other = s.manager.ports other :=
  Function.update_of_ne hne _ _

@[simp] lemma vlinks_withPort : (s.withPort name port).manager.vlinks = s.manager.vlinks := rfl

@[simp] lemma rest_withPort : (s.withPort name port).rest = s.rest := rfl

/-- There are two ports under a name, one after the other. -/
lemma withPort_withPort {port' : SwitchPort} :
    (s.withPort name port).withPort name port' = s.withPort name port' := by
  refine eq_of_rest ?_ rfl rfl
  exact Function.update_idem _ _ _

lemma withPort_eq_self (h : s.manager.ports name = some port) : s.withPort name port = s := by
  refine eq_of_rest ?_ rfl rfl
  change Function.update s.manager.ports name (some port) = s.manager.ports
  rw [← h, Function.update_eq_self]

end Resources

/-! ## Attaching -/

/-- Ports have been attached to the switch, and nothing else has happened. -/
structure Attaching (dpid : Dpid) (s s' : Resources) : Prop where
  ports : ∀ name, s'.manager.ports name = s.manager.ports name ∨
    ∃ port, s.manager.ports name = some port ∧
      s'.manager.ports name = some { port with attachedSw := some dpid }
  vlinks : s'.manager.vlinks = s.manager.vlinks
  rest : s'.rest = s.rest

instance (dpid : Dpid) : IsPartialOrder Resources (Attaching dpid) where
  refl s := ⟨fun _ => .inl rfl, rfl, rfl⟩
  trans s₁ s₂ s₃ h₁₂ h₂₃ := by
    refine ⟨fun name => ?_, h₂₃.vlinks.trans h₁₂.vlinks, h₂₃.rest.trans h₁₂.rest⟩
    rcases h₁₂.ports name with h₂ | ⟨port, h₁, h₂⟩
    · rw [← h₂]
      exact h₂₃.ports name
    · refine .inr ⟨port, h₁, ?_⟩
      rcases h₂₃.ports name with h₃ | ⟨port', h₂', h₃⟩
      · rw [h₃, h₂]
      · obtain rfl := Option.some.inj (h₂.symm.trans h₂')
        exact h₃
  antisymm s₁ s₂ h₁₂ h₂₁ := by
    refine (Resources.eq_of_rest (funext fun name => ?_) h₁₂.vlinks h₁₂.rest).symm
    rcases h₁₂.ports name with h₂ | ⟨port, h₁, h₂⟩
    · exact h₂
    · rcases h₂₁.ports name with h₁' | ⟨port', h₂', h₁'⟩
      · exact h₁'.symm
      · -- the port is attached to the switch in both
        obtain rfl := Option.some.inj (h₂.symm.trans h₂')
        rw [h₂, h₁']

lemma Attaching.attachedTo {dpid : Dpid} {s s' : Resources} {name : String}
    (h : Attaching dpid s s') (hs : s.AttachedTo dpid name) : s'.AttachedTo dpid name := by
  obtain ⟨port, hport, hsw⟩ := hs
  rcases h.ports name with h' | ⟨port', hport', h'⟩
  · exact ⟨port, h'.trans hport, hsw⟩
  · exact ⟨_, h', rfl⟩

lemma Attaching.ports_eq_none_iff {dpid : Dpid} {s s' : Resources} {name : String}
    (h : Attaching dpid s s') : s'.manager.ports name = none ↔ s.manager.ports name = none := by
  rcases h.ports name with h' | ⟨port, hport, h'⟩
  · rw [h']
  · rw [h', hport]
    exact ⟨nofun, nofun⟩

/-- `attach_port_to_switch` gets as far as to attach the port. -/
def Resources.Reaches (s : Resources) (dpid : Dpid) (name : String) (validNumber : Bool)
    (result : AttachResult) : Prop :=
  validNumber = true ∧ name ∉ s.manager.blacklisted ∧ s.manager.ports name ≠ none ∧
    s.switchExists dpid = true ∧ result ≠ .failure

section Attach

variable {s : Resources} {dpid : Dpid} {name : String} {validNumber : Bool} {result : AttachResult}

lemma attachPortToSwitch_of_not_reaches (h : ¬ s.Reaches dpid name validNumber result) :
    ¬ (attachPortToSwitch dpid name validNumber result).Returns s ∧
      (attachPortToSwitch dpid name validNumber result s).2 = s := by
  unfold Call.Returns attachPortToSwitch
  split
  · exact ⟨nofun, rfl⟩
  next hnumber =>
    split
    · exact ⟨nofun, rfl⟩
    next hblacklisted =>
      unfold attachSection
      cases hport : s.manager.ports name with
      | none => exact ⟨nofun, rfl⟩
      | some port =>
          dsimp only
          split
          · exact ⟨nofun, rfl⟩
          next hexists =>
            simp only [Bool.not_eq_true', Bool.not_eq_false] at hnumber hexists
            have hfailure : result = .failure := by
              by_contra hne
              refine h ⟨hnumber, hblacklisted, ?_, hexists, hne⟩
              rw [hport]
              exact nofun
            rw [hfailure]
            exact ⟨nofun, rfl⟩

lemma attachPortToSwitch_of_reaches (h : s.Reaches dpid name validNumber result)
    {port : SwitchPort} (hport : s.manager.ports name = some port) :
    ((attachPortToSwitch dpid name validNumber result).Returns s ↔ result = .success) ∧
      (attachPortToSwitch dpid name validNumber result s).2 =
        s.withPort name { port with attachedSw := some dpid } := by
  obtain ⟨hnumber, hblacklisted, -, hexists, hresult⟩ := h
  have heq : attachPortToSwitch dpid name validNumber result s =
      s.leave (attachSection s.manager dpid name (s.switchExists dpid) result) := by
    rw [attachPortToSwitch, hnumber, if_neg hblacklisted]
    rfl
  rw [Call.Returns, heq, attachSection, hport, hexists]
  cases result with
  | success => exact ⟨⟨fun _ => rfl, fun _ => rfl⟩, rfl⟩
  | failure => exact absurd rfl hresult
  | failureOfIomanager => exact ⟨⟨by simp, by simp⟩, rfl⟩

lemma snd_bringPort {success : Bool} (s : Resources) : (bringPort name success s).2 = s := by
  unfold bringPort
  split
  · rfl
  · split
    · rfl
    · split <;> rfl

lemma snd_andThen_bringUp {f : Call Unit Resources} {success : Bool} :
    (f.andThen (bringUp name success) s).2 = (f s).2 := Call.snd_andThen_of_same snd_bringPort

/-- A port that is there and not blacklisted is brought up if the driver can. -/
lemma returns_bringUp {success : Bool} (hblacklisted : name ∉ s.manager.blacklisted)
    (hport : s.manager.ports name ≠ none) :
    (bringUp name success).Returns s ↔ success = true := by
  rw [Call.Returns, bringUp, bringPort, if_neg hblacklisted, if_neg hport]
  cases success with
  | false => exact ⟨by simp, by simp⟩
  | true => exact ⟨fun _ => rfl, fun _ => rfl⟩

end Attach

/-- The port can be attached and brought up. -/
def Resources.Attachable (s : Resources) (dpid : Dpid) (p : PhyPort) : Prop :=
  s.Reaches dpid p.name p.validNumber p.attached ∧ p.attached = .success ∧ p.broughtUp = true

/-- What is there is left as it is: the port is not attached, or it has been before. -/
def Resources.AttachKeeps (s : Resources) (dpid : Dpid) (p : PhyPort) : Prop :=
  s.Reaches dpid p.name p.validNumber p.attached → s.AttachedTo dpid p.name

section AttachPhyPort

variable {s : Resources} {dpid : Dpid} {p : PhyPort} {ports : List PhyPort}

lemma snd_attachPhyPort (s : Resources) : (attachPhyPort dpid p s).2 =
    (attachPortToSwitch dpid p.name p.validNumber p.attached s).2 := snd_andThen_bringUp

lemma returns_attachPhyPort : (attachPhyPort dpid p).Returns s ↔ s.Attachable dpid p := by
  rw [attachPhyPort, Call.returns_andThen, Resources.Attachable]
  by_cases h : s.Reaches dpid p.name p.validNumber p.attached
  · obtain ⟨port, hport⟩ := Option.ne_none_iff_exists'.mp h.2.2.1
    obtain ⟨hreturns, hs'⟩ := attachPortToSwitch_of_reaches h hport
    have hup : (bringUp p.name p.broughtUp).Returns
        (attachPortToSwitch dpid p.name p.validNumber p.attached s).2 ↔ p.broughtUp = true := by
      rw [hs']
      refine returns_bringUp h.2.1 ?_
      rw [Resources.ports_withPort_self]
      exact nofun
    rw [hreturns, hup]
    exact ⟨fun hr => ⟨h, hr⟩, fun hr => hr.2⟩
  · exact ⟨fun hr => absurd hr.1 (attachPortToSwitch_of_not_reaches h).1, fun hr => absurd hr.1 h⟩

lemma attaching_attachPhyPort (p : PhyPort) (s : Resources) :
    Attaching dpid s (attachPhyPort dpid p s).2 := by
  rw [snd_attachPhyPort]
  by_cases h : s.Reaches dpid p.name p.validNumber p.attached
  · obtain ⟨port, hport⟩ := Option.ne_none_iff_exists'.mp h.2.2.1
    rw [(attachPortToSwitch_of_reaches h hport).2]
    refine ⟨fun name => ?_, rfl, rfl⟩
    by_cases hne : name = p.name
    · subst hne
      exact .inr ⟨port, hport, Resources.ports_withPort_self⟩
    · exact .inl (Resources.ports_withPort_of_ne hne)
  · rw [(attachPortToSwitch_of_not_reaches h).2]
    exact Std.Refl.refl s

lemma attachPhyPort_same_iff : (attachPhyPort dpid p s).2 = s ↔ s.AttachKeeps dpid p := by
  rw [snd_attachPhyPort, Resources.AttachKeeps]
  by_cases h : s.Reaches dpid p.name p.validNumber p.attached
  · obtain ⟨port, hport⟩ := Option.ne_none_iff_exists'.mp h.2.2.1
    rw [(attachPortToSwitch_of_reaches h hport).2]
    constructor
    · intro hs _
      rw [← hs]
      exact ⟨_, Resources.ports_withPort_self, rfl⟩
    · intro hattached
      obtain ⟨port', hport', hsw⟩ := hattached h
      obtain rfl := Option.some.inj (hport.symm.trans hport')
      rw [← hsw]
      exact Resources.withPort_eq_self hport
  · exact ⟨fun _ hr => absurd hr h, fun _ => (attachPortToSwitch_of_not_reaches h).2⟩

/-- What decides about a port is not changed when others are attached. -/
lemma Attaching.attachable_iff {s' : Resources} (h : Attaching dpid s s') {dpid' : Dpid} :
    s'.Attachable dpid' p ↔ s.Attachable dpid' p := by
  rw [Resources.Attachable, Resources.Attachable, Resources.Reaches, Resources.Reaches, Ne,
    h.ports_eq_none_iff, Resources.blacklisted_eq h.rest, Resources.switchExists_eq h.rest]

lemma returns_attachEach :
    (Call.forEach (attachPhyPort dpid) ports).Returns s ↔ ∀ p ∈ ports, s.Attachable dpid p := by
  rw [Call.returns_forEach, Call.allAlong_iff fun _ _ _ => True]
  · simp only [returns_attachPhyPort]
    exact and_iff_left (List.pairwise_of_forall fun _ _ => trivial)
  · intro s a b _
    rw [returns_attachPhyPort, returns_attachPhyPort, and_true,
      (attaching_attachPhyPort a s).attachable_iff]
  · intros
    exact Iff.rfl

lemma attachEach_clean_iff :
    ¬ (Call.forEach (attachPhyPort dpid) ports).Returns s ∧
        (Call.forEach (attachPhyPort dpid) ports s).2 = s ↔
      Call.CleanFailure (s.Attachable dpid) (s.AttachKeeps dpid) ports :=
  Call.forEach_clean_iff attaching_attachPhyPort (fun _ => returns_attachPhyPort)
    (fun _ => attachPhyPort_same_iff) ports

/-- The ports of a loop that returns are attached. -/
lemma attachedTo_of_attachEach (h : (Call.forEach (attachPhyPort dpid) ports).Returns s) :
    ∀ p ∈ ports, (Call.forEach (attachPhyPort dpid) ports s).2.AttachedTo dpid p.name := by
  refine Call.effect_of_forEach attaching_attachPhyPort
    (fun p s => s.AttachedTo dpid p.name) ?_ ?_ h
  · intro p s hreturns
    have hreaches := (returns_attachPhyPort.mp hreturns).1
    obtain ⟨port, hport⟩ := Option.ne_none_iff_exists'.mp hreaches.2.2.1
    rw [snd_attachPhyPort, (attachPortToSwitch_of_reaches hreaches hport).2]
    exact ⟨_, Resources.ports_withPort_self, rfl⟩
  · intro p s s' hattaching hattached
    exact hattaching.attachedTo hattached

end AttachPhyPort

/-! ## Creating -/

/-- Ports and links have been added, and nothing else has happened. -/
structure Extending (s s' : Resources) : Prop where
  ports : ∀ name port, s.manager.ports name = some port → s'.manager.ports name = some port
  vlinks : ∀ name pair, s.manager.vlinks name = some pair → s'.manager.vlinks name = some pair
  rest : s'.rest = s.rest

instance : IsPartialOrder Resources Extending where
  refl s := ⟨fun _ _ => id, fun _ _ => id, rfl⟩
  trans s₁ s₂ s₃ h₁₂ h₂₃ :=
    ⟨fun name port h => h₂₃.ports name port (h₁₂.ports name port h),
      fun name pair h => h₂₃.vlinks name pair (h₁₂.vlinks name pair h), h₂₃.rest.trans h₁₂.rest⟩
  antisymm s₁ s₂ h₁₂ h₂₁ := by
    refine Resources.eq_of_rest (funext fun name => ?_) (funext fun name => ?_) h₂₁.rest
    · exact Option.ext fun port => ⟨h₁₂.ports name port, h₂₁.ports name port⟩
    · exact Option.ext fun pair => ⟨h₁₂.vlinks name pair, h₂₁.vlinks name pair⟩

lemma Extending.attachedTo {s s' : Resources} {dpid : Dpid} {name : String}
    (h : Extending s s') (hs : s.AttachedTo dpid name) : s'.AttachedTo dpid name := by
  obtain ⟨port, hport, hsw⟩ := hs
  exact ⟨port, h.ports name port hport, hsw⟩

lemma extending_withPort {s : Resources} {name : String} {port : SwitchPort}
    (hname : s.manager.ports name = none) : Extending s (s.withPort name port) := by
  refine ⟨fun other port' hport' => ?_, fun _ _ => id, rfl⟩
  have hne : other ≠ name := by
    rintro rfl
    exact absurd (hname.symm.trans hport') nofun
  rw [Resources.ports_withPort_of_ne hne]
  exact hport'

/-! ### NF ports -/

/-- A port with the name of the NF port can be attached. -/
def Resources.NfAttachable (s : Resources) (dpid : Dpid) (p : NfPort) : Prop :=
  p.name ∉ s.manager.blacklisted ∧ s.switchExists dpid = true ∧ p.attached = .success

/-- The NF port can be created, attached and brought up. -/
def Resources.NfCreatable (s : Resources) (dpid : Dpid) (p : NfPort) : Prop :=
  s.manager.ports p.name = none ∧ p.created = true ∧ s.NfAttachable dpid p ∧ p.broughtUp = true

/-- The NF port is not created, or it cannot be attached and is destroyed again. -/
def Resources.NfUndone (s : Resources) (dpid : Dpid) (p : NfPort) : Prop :=
  s.manager.ports p.name ≠ none ∨ p.created = false ∨
    (¬ s.NfAttachable dpid p ∧ p.destroyed = true)

section CreateNfPort

variable {s : Resources} {dpid : Dpid} {p : NfPort} {ports : List NfPort}

lemma createNfPort_of_not_created (h : s.manager.ports p.name ≠ none ∨ p.created = false) :
    ¬ (createNfPort dpid p).Returns s ∧ (createNfPort dpid p s).2 = s := by
  have hcreate : createNf p.name p.type p.created s = (some (), s) := by
    by_cases hport : s.manager.ports p.name = none
    · rw [createNf, if_neg (not_not.mpr hport), h.resolve_left (not_not.mpr hport)]
      rfl
    · rw [createNf, if_pos hport]
  have hthrows : ¬ (createNf p.name p.type p.created).Returns s := by
    rw [Call.Returns, hcreate]
    simp
  rw [Call.Returns, createNfPort, Call.andThen_of_throws hthrows, hcreate]
  exact ⟨by simp, rfl⟩

/-- The port of a network function is destroyed, and nothing is left of it. -/
lemma snd_destroyNf_withPort (hport : s.manager.ports p.name = none) (sw : Option Dpid)
    (destroyed : Bool) :
    (destroyNf p.name destroyed (s.withPort p.name ⟨.nf p.type, sw⟩)).2 =
      if destroyed then s else s.withPort p.name ⟨.nf p.type, sw⟩ := by
  rw [destroyNf, Resources.ports_withPort_self]
  cases destroyed with
  | false => rfl
  | true =>
      refine Resources.eq_of_rest ?_ rfl rfl
      change Function.update (Function.update s.manager.ports p.name _) p.name none = _
      rw [Function.update_idem, ← hport, Function.update_eq_self]
      rfl

lemma createNfPort_of_created (hport : s.manager.ports p.name = none)
    (hcreated : p.created = true) :
    createNfPort dpid p s =
      ((attachPortToSwitch dpid p.name true p.attached).orUndo
        (destroyNf p.name p.destroyed)).andThen (bringUp p.name p.broughtUp)
          (s.withPort p.name ⟨.nf p.type, none⟩) := by
  have hcreate : createNf p.name p.type p.created s =
      (none, s.withPort p.name ⟨.nf p.type, none⟩) := by
    rw [createNf, if_neg (not_not.mpr hport), hcreated]
    rfl
  have hreturns : (createNf p.name p.type p.created).Returns s := by
    rw [Call.Returns, hcreate]
  rw [createNfPort, Call.andThen_of_returns hreturns, hcreate]

/-- A port that has been created, and can be attached. -/
lemma createNfPort_of_attachable (hport : s.manager.ports p.name = none)
    (hcreated : p.created = true) (hattach : s.NfAttachable dpid p) :
    ((createNfPort dpid p).Returns s ↔ p.broughtUp = true) ∧
      (createNfPort dpid p s).2 = s.withPort p.name ⟨.nf p.type, some dpid⟩ := by
  obtain ⟨hblacklisted, hexists, hsuccess⟩ := hattach
  have hreaches : (s.withPort p.name ⟨.nf p.type, none⟩).Reaches dpid p.name true p.attached := by
    refine ⟨rfl, hblacklisted, ?_, hexists, ?_⟩
    · rw [Resources.ports_withPort_self]
      simp
    · rw [hsuccess]
      simp
  obtain ⟨hiff, hs'⟩ := attachPortToSwitch_of_reaches hreaches Resources.ports_withPort_self
  have hreturns := hiff.mpr hsuccess
  rw [Resources.withPort_withPort] at hs'
  rw [Call.Returns, createNfPort_of_created hport hcreated, ← Call.Returns, Call.returns_andThen,
    snd_andThen_bringUp, Call.orUndo_of_returns hreturns, hs']
  have hup : (bringUp p.name p.broughtUp).Returns
      (s.withPort p.name ⟨.nf p.type, some dpid⟩) ↔ p.broughtUp = true := by
    refine returns_bringUp hblacklisted ?_
    rw [Resources.ports_withPort_self]
    simp
  rw [hup]
  exact ⟨and_iff_right (Call.returns_orUndo.mpr hreturns), rfl⟩

/-- A port that has been created, and cannot be attached. -/
lemma createNfPort_of_not_attachable (hport : s.manager.ports p.name = none)
    (hcreated : p.created = true) (hattach : ¬ s.NfAttachable dpid p) :
    ¬ (createNfPort dpid p).Returns s ∧ ∃ sw, (createNfPort dpid p s).2 =
      if p.destroyed then s else s.withPort p.name ⟨.nf p.type, sw⟩ := by
  have hthrows : ¬ (attachPortToSwitch dpid p.name true p.attached).Returns
        (s.withPort p.name ⟨.nf p.type, none⟩) ∧
      ∃ sw, (attachPortToSwitch dpid p.name true p.attached
        (s.withPort p.name ⟨.nf p.type, none⟩)).2 = s.withPort p.name ⟨.nf p.type, sw⟩ := by
    by_cases hreaches : (s.withPort p.name ⟨.nf p.type, none⟩).Reaches dpid p.name true p.attached
    · obtain ⟨hiff, hs'⟩ := attachPortToSwitch_of_reaches hreaches Resources.ports_withPort_self
      refine ⟨fun hreturns => hattach ⟨hreaches.2.1, hreaches.2.2.2.1, hiff.mp hreturns⟩, ?_⟩
      rw [hs', Resources.withPort_withPort]
      exact ⟨_, rfl⟩
    · obtain ⟨hthrows, hs'⟩ := attachPortToSwitch_of_not_reaches hreaches
      exact ⟨hthrows, _, hs'⟩
  obtain ⟨hthrows, sw, hs'⟩ := hthrows
  rw [Call.Returns, createNfPort_of_created hport hcreated, ← Call.Returns, Call.returns_andThen,
    snd_andThen_bringUp, Call.orUndo_of_throws hthrows, hs',
    snd_destroyNf_withPort hport]
  exact ⟨fun hreturns => hthrows (Call.returns_orUndo.mp hreturns.1), sw, rfl⟩

lemma returns_createNfPort : (createNfPort dpid p).Returns s ↔ s.NfCreatable dpid p := by
  by_cases hport : s.manager.ports p.name = none
  · cases hcreated : p.created with
    | false =>
        refine ⟨fun h => absurd h (createNfPort_of_not_created (.inr hcreated)).1, fun h => ?_⟩
        exact absurd (hcreated.symm.trans h.2.1) nofun
    | true =>
        by_cases hattach : s.NfAttachable dpid p
        · rw [(createNfPort_of_attachable hport hcreated hattach).1]
          exact ⟨fun hup => ⟨hport, hcreated, hattach, hup⟩, fun h => h.2.2.2⟩
        · exact ⟨fun h => absurd h (createNfPort_of_not_attachable hport hcreated hattach).1,
            fun h => absurd h.2.2.1 hattach⟩
  · exact ⟨fun h => absurd h (createNfPort_of_not_created (.inl hport)).1,
      fun h => absurd h.1 hport⟩

lemma snd_createNfPort (h : s.NfCreatable dpid p) :
    (createNfPort dpid p s).2 = s.withPort p.name ⟨.nf p.type, some dpid⟩ :=
  (createNfPort_of_attachable h.1 h.2.1 h.2.2.1).2

/-- What `createNfPort` leaves: nothing, or the port. -/
lemma snd_createNfPort_cases (s : Resources) (dpid : Dpid) (p : NfPort) :
    (s.NfUndone dpid p ∧ (createNfPort dpid p s).2 = s) ∨
      (¬ s.NfUndone dpid p ∧ s.manager.ports p.name = none ∧
        ∃ sw, (createNfPort dpid p s).2 = s.withPort p.name ⟨.nf p.type, sw⟩) := by
  by_cases hport : s.manager.ports p.name = none
  · cases hcreated : p.created with
    | false =>
        exact .inl ⟨.inr (.inl hcreated), (createNfPort_of_not_created (.inr hcreated)).2⟩
    | true =>
        have hnot : s.NfUndone dpid p → ¬ s.NfAttachable dpid p ∧ p.destroyed = true := by
          rintro (h | h | h)
          · exact absurd hport h
          · exact absurd (hcreated.symm.trans h) nofun
          · exact h
        by_cases hattach : s.NfAttachable dpid p
        · exact .inr ⟨fun h => (hnot h).1 hattach, hport, _,
            (createNfPort_of_attachable hport hcreated hattach).2⟩
        · obtain ⟨-, sw, hs'⟩ := createNfPort_of_not_attachable hport hcreated hattach
          cases hdestroyed : p.destroyed with
          | false =>
              rw [hdestroyed] at hs'
              exact .inr ⟨fun h => absurd (hdestroyed.symm.trans (hnot h).2) nofun, hport, sw, hs'⟩
          | true =>
              rw [hdestroyed] at hs'
              exact .inl ⟨.inr (.inr ⟨hattach, hdestroyed⟩), hs'⟩
  · exact .inl ⟨.inl hport, (createNfPort_of_not_created (.inl hport)).2⟩

lemma createNfPort_same_iff : (createNfPort dpid p s).2 = s ↔ s.NfUndone dpid p := by
  rcases snd_createNfPort_cases s dpid p with ⟨hundone, hs'⟩ | ⟨hundone, hport, sw, hs'⟩
  · exact ⟨fun _ => hundone, fun _ => hs'⟩
  · refine ⟨fun h => ?_, fun h => absurd h hundone⟩
    rw [hs'] at h
    have hself : (s.withPort p.name ⟨.nf p.type, sw⟩).manager.ports p.name = none := by
      rw [h]
      exact hport
    rw [Resources.ports_withPort_self] at hself
    exact absurd hself nofun

lemma extending_createNfPort (p : NfPort) (s : Resources) :
    Extending s (createNfPort dpid p s).2 := by
  rcases snd_createNfPort_cases s dpid p with ⟨-, hs'⟩ | ⟨-, hport, sw, hs'⟩
  · rw [hs']
    exact Std.Refl.refl s
  · rw [hs']
    exact extending_withPort hport

/-- A port is no longer created once another one has its name. -/
lemma nfCreatable_withPort {q : NfPort} {port : SwitchPort} :
    (s.withPort p.name port).NfCreatable dpid q ↔ s.NfCreatable dpid q ∧ p.name ≠ q.name := by
  have hports : (s.withPort p.name port).manager.ports q.name = none ↔
      s.manager.ports q.name = none ∧ p.name ≠ q.name := by
    by_cases hne : q.name = p.name
    · rw [hne, Resources.ports_withPort_self]
      exact ⟨nofun, fun h => absurd rfl h.2⟩
    · rw [Resources.ports_withPort_of_ne hne]
      exact ⟨fun h => ⟨h, Ne.symm hne⟩, fun h => h.1⟩
  rw [Resources.NfCreatable, hports]
  exact ⟨fun h => ⟨⟨h.1.1, h.2⟩, h.1.2⟩, fun h => ⟨⟨h.1.1, h.2⟩, h.1.2⟩⟩

lemma returns_createNfPorts : (Call.forEach (createNfPort dpid) ports).Returns s ↔
    (∀ p ∈ ports, s.NfCreatable dpid p) ∧ ports.Pairwise fun p q => p.name ≠ q.name := by
  rw [Call.returns_forEach, Call.allAlong_iff fun _ p q => p.name ≠ q.name]
  · simp only [returns_createNfPort]
  · intro s p q hp
    rw [returns_createNfPort] at hp
    rw [returns_createNfPort, returns_createNfPort, snd_createNfPort hp, nfCreatable_withPort]
  · intros
    exact Iff.rfl

lemma createNfPorts_clean_iff :
    ¬ (Call.forEach (createNfPort dpid) ports).Returns s ∧
        (Call.forEach (createNfPort dpid) ports s).2 = s ↔
      ∃ p ∈ ports.head?, s.NfUndone dpid p := by
  rw [Call.forEach_clean_iff extending_createNfPort (fun _ => returns_createNfPort)
    (fun _ => createNfPort_same_iff)]
  refine Call.cleanFailure_iff_head fun p hundone hcreatable => ?_
  rcases hundone with h | h | h
  · exact h hcreatable.1
  · exact absurd (h.symm.trans hcreatable.2.1) nofun
  · exact h.1 hcreatable.2.2.1

/-- The NF ports of a loop that returns are there and attached. -/
lemma ports_of_createNfPorts (h : (Call.forEach (createNfPort dpid) ports).Returns s) :
    ∀ p ∈ ports, (Call.forEach (createNfPort dpid) ports s).2.manager.ports p.name =
      some ⟨.nf p.type, some dpid⟩ := by
  refine Call.effect_of_forEach extending_createNfPort
    (fun p s => s.manager.ports p.name = some ⟨.nf p.type, some dpid⟩) ?_ ?_ h
  · intro p s hreturns
    rw [snd_createNfPort (returns_createNfPort.mp hreturns)]
    exact Resources.ports_withPort_self
  · intro p s s' hextending hport
    exact hextending.ports _ _ hport

lemma vlinks_createNfPort (p : NfPort) (s : Resources) :
    (createNfPort dpid p s).2.manager.vlinks = s.manager.vlinks := by
  rcases snd_createNfPort_cases s dpid p with ⟨-, hs'⟩ | ⟨-, -, sw, hs'⟩
  · rw [hs']
  · rw [hs', Resources.vlinks_withPort]

/-- Nothing happens to the other names. -/
lemma ports_createNfPorts_of_notMem {name : String} (hname : ∀ p ∈ ports, p.name ≠ name)
    (s : Resources) :
    (Call.forEach (createNfPort dpid) ports s).2.manager.ports name = s.manager.ports name := by
  induction ports generalizing s with
  | nil => rfl
  | cons p ports ih =>
      obtain ⟨hp, hports⟩ := List.forall_mem_cons.mp hname
      have hfirst : (createNfPort dpid p s).2.manager.ports name = s.manager.ports name := by
        rcases snd_createNfPort_cases s dpid p with ⟨-, hs'⟩ | ⟨-, -, sw, hs'⟩
        · rw [hs']
        · rw [hs', Resources.ports_withPort_of_ne (Ne.symm hp)]
      rw [Call.forEach]
      by_cases h : (createNfPort dpid p).Returns s
      · rw [Call.andThen_of_returns h]
        exact (ih hports _).trans hfirst
      · rw [Call.andThen_of_throws h]
        exact hfirst

end CreateNfPort

/-! ### Virtual links -/

/-- `connect_switches` gets as far as to create the two ends of the link. -/
def Resources.LinkReaches (s : Resources) (dpidA dpidB : Dpid) (l : VirtualLink) : Prop :=
  s.Unused l ∧ s.switchExists dpidA = true ∧ s.switchExists dpidB = true ∧ l.result ≠ .failure

/-- The link can be created. -/
def Resources.LinkCreatable (s : Resources) (dpidA dpidB : Dpid) (l : VirtualLink) : Prop :=
  s.LinkReaches dpidA dpidB l ∧ l.result = .success ∧ s.manager.vlinks l.name1 = none ∧
    s.manager.vlinks l.name2 = none ∧ l.snapshots = true

/-- The resources with the link. -/
def Resources.withLink (s : Resources) (dpidA dpidB : Dpid) (l : VirtualLink) : Resources :=
  { s with
    manager := { s.manager.createPair l.name1 l.name2 (some dpidA) (some dpidB) with
      vlinks := Function.update (Function.update s.manager.vlinks l.name1 (some l.name2)) l.name2
        (some l.name1) } }

/-- The links have no end in common. -/
def VirtualLink.Apart (l l' : VirtualLink) : Prop :=
  l'.name1 ≠ l.name1 ∧ l'.name1 ≠ l.name2 ∧ l'.name2 ≠ l.name1 ∧ l'.name2 ≠ l.name2

section CreateVirtualLink

variable {s : Resources} {dpidA dpidB : Dpid} {l : VirtualLink} {links : List VirtualLink}

lemma ports_createPair_of_ne {s : PortManager} {name1 name2 name : String} {sw1 sw2 : Option Dpid}
    (h1 : name ≠ name1) (h2 : name ≠ name2) :
    (s.createPair name1 name2 sw1 sw2).ports name = s.ports name :=
  (Function.update_of_ne h2 _ _).trans (Function.update_of_ne h1 _ _)

/-- A new link enters the cache, if neither of its names is there. -/
lemma connectSection_of_new {s : PortManager} {name1 name2 : String} (h1 : s.vlinks name1 = none)
    (h2 : s.vlinks name2 = none) : connectSection s dpidA dpidB true name1 name2 .success =
      (.done, { s.createPair name1 name2 (some dpidA) (some dpidB) with
        vlinks := Function.update (Function.update s.vlinks name1 (some name2)) name2
          (some name1) }) := by
  have hadd : addVlink (s.createPair name1 name2 (some dpidA) (some dpidB)).vlinks name1 name2 =
      some _ := if_neg (not_or.mpr ⟨not_not.mpr h1, not_not.mpr h2⟩)
  unfold connectSection
  dsimp only
  rw [if_neg (by decide), hadd]
  rfl

lemma connectSection_of_known {s : PortManager} {name1 name2 : String}
    (h : ¬ (s.vlinks name1 = none ∧ s.vlinks name2 = none)) :
    connectSection s dpidA dpidB true name1 name2 .success =
      (.ePmUnknownError, s.createPair name1 name2 (some dpidA) (some dpidB)) := by
  have hadd : addVlink (s.createPair name1 name2 (some dpidA) (some dpidB)).vlinks name1 name2 =
      none := if_pos (not_and_or.mp h)
  unfold connectSection
  dsimp only
  rw [if_neg (by decide), hadd]

lemma connectSwitches_of_not_reaches (h : ¬ s.LinkReaches dpidA dpidB l) :
    connectSwitches dpidA dpidB l s = (some (), s) := by
  by_cases hunused : s.Unused l
  · rw [connectSwitches, if_pos hunused]
    unfold connectSection
    split
    · rfl
    next hexist =>
      simp only [Bool.not_eq_true', Bool.not_eq_false, Bool.and_eq_true] at hexist
      have hfailure : l.result = .failure := by
        by_contra hne
        exact h ⟨hunused, hexist.1, hexist.2, hne⟩
      rw [hfailure]
      rfl
  · rw [connectSwitches, if_neg hunused]

lemma connectSwitches_of_reaches (h : s.LinkReaches dpidA dpidB l) :
    connectSwitches dpidA dpidB l s = s.leave
      (connectSection s.manager dpidA dpidB true l.name1 l.name2 l.result) := by
  rw [connectSwitches, if_pos h.1, h.2.1, h.2.2.1]
  rfl

/-- The two ends are there, and possibly in the cache. -/
lemma snd_connectSwitches (h : s.LinkReaches dpidA dpidB l) :
    ∃ sw1 sw2 vlinks, (connectSwitches dpidA dpidB l s).2 =
        { s with manager :=
          { s.manager.createPair l.name1 l.name2 sw1 sw2 with vlinks := vlinks } } ∧
      ∀ name pair, s.manager.vlinks name = some pair → vlinks name = some pair := by
  rw [connectSwitches_of_reaches h]
  cases hresult : l.result with
  | failure => exact absurd hresult h.2.2.2
  | failureAfterCreation sw1 sw2 => exact ⟨sw1, sw2, _, rfl, fun _ _ => id⟩
  | success =>
      refine ⟨some dpidA, some dpidB, ?_⟩
      by_cases hcache : s.manager.vlinks l.name1 = none ∧ s.manager.vlinks l.name2 = none
      · rw [connectSection_of_new hcache.1 hcache.2]
        refine ⟨_, rfl, fun name pair hname => ?_⟩
        have hne1 : name ≠ l.name1 := by
          rintro rfl
          exact absurd (hcache.1.symm.trans hname) nofun
        have hne2 : name ≠ l.name2 := by
          rintro rfl
          exact absurd (hcache.2.symm.trans hname) nofun
        rw [Function.update_of_ne hne2, Function.update_of_ne hne1]
        exact hname
      · rw [connectSection_of_known hcache]
        exact ⟨s.manager.vlinks, rfl, fun _ _ => id⟩

lemma returns_connectSwitches : (connectSwitches dpidA dpidB l).Returns s ↔
    s.LinkReaches dpidA dpidB l ∧ l.result = .success ∧ s.manager.vlinks l.name1 = none ∧
      s.manager.vlinks l.name2 = none := by
  by_cases h : s.LinkReaches dpidA dpidB l
  · rw [Call.Returns, connectSwitches_of_reaches h]
    cases hresult : l.result with
    | failure => exact absurd hresult h.2.2.2
    | failureAfterCreation sw1 sw2 => exact ⟨by simp [connectSection], by simp⟩
    | success =>
        by_cases hcache : s.manager.vlinks l.name1 = none ∧ s.manager.vlinks l.name2 = none
        · rw [connectSection_of_new hcache.1 hcache.2]
          exact ⟨fun _ => ⟨h, rfl, hcache⟩, fun _ => rfl⟩
        · rw [connectSection_of_known hcache]
          exact ⟨by simp, fun hnew => absurd hnew.2.2 hcache⟩
  · rw [Call.Returns, connectSwitches_of_not_reaches h]
    exact ⟨by simp, fun hreaches => absurd hreaches.1 h⟩

lemma snd_connectSwitches_of_returns (h : (connectSwitches dpidA dpidB l).Returns s) :
    (connectSwitches dpidA dpidB l s).2 = s.withLink dpidA dpidB l := by
  obtain ⟨hreaches, hsuccess, hcache⟩ := returns_connectSwitches.mp h
  rw [connectSwitches_of_reaches hreaches, hsuccess, connectSection_of_new hcache.1 hcache.2]
  rfl

lemma snd_getPortInfos (s : Resources) : (getPortInfos l s).2 = s := by
  unfold getPortInfos
  split <;> rfl

lemma snd_createVirtualLink (s : Resources) : (createVirtualLink dpidA dpidB l s).2 =
    (connectSwitches dpidA dpidB l s).2 := Call.snd_andThen_of_same snd_getPortInfos

lemma ports_withLink (s : Resources) (dpidA dpidB : Dpid) (hne : l.name1 ≠ l.name2) :
    (s.withLink dpidA dpidB l).manager.ports l.name1 = some ⟨.virtual l.name2, some dpidA⟩ ∧
      (s.withLink dpidA dpidB l).manager.ports l.name2 = some ⟨.virtual l.name1, some dpidB⟩ :=
  ⟨(Function.update_of_ne hne _ _).trans (Function.update_self _ _ _), Function.update_self _ _ _⟩

lemma returns_createVirtualLink :
    (createVirtualLink dpidA dpidB l).Returns s ↔ s.LinkCreatable dpidA dpidB l := by
  rw [createVirtualLink, Call.returns_andThen, Resources.LinkCreatable]
  by_cases h : (connectSwitches dpidA dpidB l).Returns s
  · have hparts := returns_connectSwitches.mp h
    have hinfos : (getPortInfos l).Returns (connectSwitches dpidA dpidB l s).2 ↔
        l.snapshots = true := by
      obtain ⟨hport1, hport2⟩ := ports_withLink s dpidA dpidB hparts.1.1.1
      rw [snd_connectSwitches_of_returns h, Call.Returns, getPortInfos, hport1, hport2]
      cases l.snapshots with
      | false => exact ⟨by simp, by simp⟩
      | true => exact ⟨fun _ => rfl, fun _ => rfl⟩
    rw [hinfos]
    exact ⟨fun hr => ⟨hparts.1, hparts.2.1, hparts.2.2.1, hparts.2.2.2, hr.2⟩,
      fun hr => ⟨h, hr.2.2.2.2⟩⟩
  · exact ⟨fun hr => absurd hr.1 h,
      fun hr => absurd (returns_connectSwitches.mpr ⟨hr.1, hr.2.1, hr.2.2.1, hr.2.2.2.1⟩) h⟩

lemma createVirtualLink_same_iff :
    (createVirtualLink dpidA dpidB l s).2 = s ↔ ¬ s.LinkReaches dpidA dpidB l := by
  rw [snd_createVirtualLink]
  constructor
  · intro hs' hreaches
    obtain ⟨sw1, sw2, vlinks, heq, -⟩ := snd_connectSwitches hreaches
    have hport : s.manager.ports l.name2 = some ⟨.virtual l.name1, sw2⟩ := by
      rw [← hs', heq]
      exact Function.update_self _ _ _
    exact absurd (hreaches.1.2.2.symm.trans hport) nofun
  · intro h
    rw [connectSwitches_of_not_reaches h]

lemma extending_createVirtualLink (l : VirtualLink) (s : Resources) :
    Extending s (createVirtualLink dpidA dpidB l s).2 := by
  rw [snd_createVirtualLink]
  by_cases hreaches : s.LinkReaches dpidA dpidB l
  · obtain ⟨sw1, sw2, vlinks, heq, hvlinks⟩ := snd_connectSwitches hreaches
    rw [heq]
    refine ⟨fun name port hport => ?_, hvlinks, rfl⟩
    have hne1 : name ≠ l.name1 := by
      rintro rfl
      exact absurd (hreaches.1.2.1.symm.trans hport) nofun
    have hne2 : name ≠ l.name2 := by
      rintro rfl
      exact absurd (hreaches.1.2.2.symm.trans hport) nofun
    exact (ports_createPair_of_ne hne1 hne2).trans hport
  · rw [connectSwitches_of_not_reaches hreaches]
    exact Std.Refl.refl s

/-- Two links can both be created unless they have an end in common. -/
lemma linkCreatable_withLink {l' : VirtualLink} (hne : l.name1 ≠ l.name2) :
    (s.withLink dpidA dpidB l).LinkCreatable dpidA dpidB l' ↔
      s.LinkCreatable dpidA dpidB l' ∧ l.Apart l' := by
  obtain ⟨hport1, hport2⟩ := ports_withLink s dpidA dpidB hne
  have hnew : ∀ name, (s.withLink dpidA dpidB l).manager.ports name = none ↔
      s.manager.ports name = none ∧ name ≠ l.name1 ∧ name ≠ l.name2 := by
    intro name
    by_cases h1 : name = l.name1
    · rw [h1, hport1]
      exact ⟨nofun, fun h => absurd rfl h.2.1⟩
    · by_cases h2 : name = l.name2
      · rw [h2, hport2]
        exact ⟨nofun, fun h => absurd rfl h.2.2⟩
      · have hport : (s.withLink dpidA dpidB l).manager.ports name = s.manager.ports name :=
          ports_createPair_of_ne h1 h2
        rw [hport]
        exact ⟨fun h => ⟨h, h1, h2⟩, fun h => h.1⟩
  have hvlinks : ∀ name, name ≠ l.name1 → name ≠ l.name2 →
      (s.withLink dpidA dpidB l).manager.vlinks name = s.manager.vlinks name := by
    intro name h1 h2
    exact (Function.update_of_ne h2 _ _).trans (Function.update_of_ne h1 _ _)
  constructor
  · rintro ⟨⟨⟨hne', hnew1, hnew2⟩, hreaches⟩, hsuccess, hvlinks1, hvlinks2, hsnapshots⟩
    obtain ⟨hnew1, h11, h12⟩ := (hnew l'.name1).mp hnew1
    obtain ⟨hnew2, h21, h22⟩ := (hnew l'.name2).mp hnew2
    rw [hvlinks _ h11 h12] at hvlinks1
    rw [hvlinks _ h21 h22] at hvlinks2
    exact ⟨⟨⟨⟨hne', hnew1, hnew2⟩, hreaches⟩, hsuccess, hvlinks1, hvlinks2, hsnapshots⟩,
      h11, h12, h21, h22⟩
  · rintro ⟨⟨⟨⟨hne', hnew1, hnew2⟩, hreaches⟩, hsuccess, hvlinks1, hvlinks2, hsnapshots⟩,
      h11, h12, h21, h22⟩
    rw [← hvlinks _ h11 h12] at hvlinks1
    rw [← hvlinks _ h21 h22] at hvlinks2
    exact ⟨⟨⟨hne', (hnew _).mpr ⟨hnew1, h11, h12⟩, (hnew _).mpr ⟨hnew2, h21, h22⟩⟩, hreaches⟩,
      hsuccess, hvlinks1, hvlinks2, hsnapshots⟩

lemma returns_createVirtualLinks : (Call.forEach (createVirtualLink dpidA dpidB) links).Returns s ↔
    (∀ l ∈ links, s.LinkCreatable dpidA dpidB l) ∧ links.Pairwise VirtualLink.Apart := by
  rw [Call.returns_forEach, Call.allAlong_iff fun _ => VirtualLink.Apart]
  · simp only [returns_createVirtualLink]
  · intro s l l' hl
    rw [returns_createVirtualLink] at hl
    have hs' : (createVirtualLink dpidA dpidB l s).2 = s.withLink dpidA dpidB l := by
      rw [snd_createVirtualLink]
      exact snd_connectSwitches_of_returns
        (returns_connectSwitches.mpr ⟨hl.1, hl.2.1, hl.2.2.1, hl.2.2.2.1⟩)
    rw [returns_createVirtualLink, returns_createVirtualLink, hs',
      linkCreatable_withLink hl.1.1.1]
  · intros
    exact Iff.rfl

lemma createVirtualLinks_clean_iff :
    ¬ (Call.forEach (createVirtualLink dpidA dpidB) links).Returns s ∧
        (Call.forEach (createVirtualLink dpidA dpidB) links s).2 = s ↔
      ∃ l ∈ links.head?, ¬ s.LinkReaches dpidA dpidB l := by
  rw [Call.forEach_clean_iff extending_createVirtualLink (fun _ => returns_createVirtualLink)
    (fun _ => createVirtualLink_same_iff)]
  exact Call.cleanFailure_iff_head fun l hnot hcreatable => hnot hcreatable.1

/-- The links of a loop that returns are there, with both ends attached. -/
lemma ports_of_createVirtualLinks
    (h : (Call.forEach (createVirtualLink dpidA dpidB) links).Returns s) : ∀ l ∈ links,
      (Call.forEach (createVirtualLink dpidA dpidB) links s).2.manager.ports l.name1 =
          some ⟨.virtual l.name2, some dpidA⟩ ∧
        (Call.forEach (createVirtualLink dpidA dpidB) links s).2.manager.ports l.name2 =
          some ⟨.virtual l.name1, some dpidB⟩ := by
  refine Call.effect_of_forEach extending_createVirtualLink
    (fun l s => s.manager.ports l.name1 = some ⟨.virtual l.name2, some dpidA⟩ ∧
      s.manager.ports l.name2 = some ⟨.virtual l.name1, some dpidB⟩) ?_ ?_ h
  · intro l s hreturns
    have hl := returns_createVirtualLink.mp hreturns
    rw [snd_createVirtualLink, snd_connectSwitches_of_returns
      (returns_connectSwitches.mpr ⟨hl.1, hl.2.1, hl.2.2.1, hl.2.2.2.1⟩)]
    exact ports_withLink s dpidA dpidB hl.1.1.1
  · rintro l s s' hextending ⟨hport1, hport2⟩
    exact ⟨hextending.ports _ _ hport1, hextending.ports _ _ hport2⟩

end CreateVirtualLink

end Xdpd.Management.NodeOrchestrator
