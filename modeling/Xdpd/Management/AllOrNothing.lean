import Xdpd.Management.Destruction

/-!
# Which commands are carried out as a whole

A command is carried out as a whole if an error means that nothing has happened, and a success that
everything has.  The handlers undo nothing, except that `createNfPort` destroys a port which it
cannot attach; and they take a port for detached, and an NF port for destroyed, when the managers
have thrown.

So a command is carried out as a whole exactly when nothing fails, or the first call that fails has
left no trace and none before it has: `allOrNothing_iff`.
-/

namespace Xdpd.Management.NodeOrchestrator

open Xdpd.Lib Ports

/-! ## The property -/

/-- The NF ports are new, and they are there, attached, and in the table. -/
def NfPortsCreated (dpid : Dpid) (ports : List NfPort) (s s' : Resources) : Prop :=
  (∀ p ∈ ports, s.manager.ports p.name = none ∧
      s'.manager.ports p.name = some ⟨.nf p.type, some dpid⟩ ∧ p.name ∈ s'.nfPortNames dpid) ∧
    ports.Pairwise fun p q => p.name ≠ q.name

/-- The links are new, and they are there, with both ends attached. -/
def LinksCreated (dpidA dpidB : Dpid) (links : List VirtualLink) (s s' : Resources) : Prop :=
  (∀ l ∈ links, s.Unused l ∧
      s'.manager.ports l.name1 = some ⟨.virtual l.name2, some dpidA⟩ ∧
      s'.manager.ports l.name2 = some ⟨.virtual l.name1, some dpidB⟩) ∧
    links.Pairwise VirtualLink.Apart

/-- The switch is new, and it is there with all its ports and links. -/
def LsiCreated (m : CreateLsi) (dpid : Dpid) (s s' : Resources) : Prop :=
  s.switchExists dpid = false ∧ s'.switchExists dpid = true ∧
    (∀ p ∈ m.ports, p.name ≠ "" → s'.AttachedTo dpid p.name) ∧
    NfPortsCreated dpid (m.allNfPorts dpid) s s' ∧ LinksCreated dpid m.remoteLsi m.links s s'

/-- Every operation that the request asks for takes effect.  Those that remove something do so each
when its turn comes. -/
def TookEffect (n : Node) (s' : Resources) : Request → Prop
  | .createLsi m => LsiCreated m n.nextDpid n.resources s'
  | .destroyLsi (some dpid) _ _ => s'.switchExists dpid = false ∧
      ∀ name ∈ n.resources.nfPortNames dpid, s'.manager.ports name = none
  | .attachPhyPorts (some dpid) (some ports) => ∀ p ∈ ports, s'.AttachedTo dpid p.name
  | .detachPhyPorts (some dpid) (some ports) => Call.AllAlong (detachPort dpid)
      (fun s p => DetachEffect dpid p s (detachPort dpid p s).2) ports n.resources
  | .createNfPorts (some dpid) fs => NfPortsCreated dpid (nfPorts dpid fs) n.resources s'
  | .destroyNfPorts (some dpid) (some ports) => Call.AllAlong (eraseAndDestroy dpid)
      (fun s p => NfEffect p s (eraseAndDestroy dpid p s).2) ports n.resources
  | .createVirtualLinks links (some dpidA) (some dpidB) =>
      LinksCreated dpidA dpidB links.links n.resources s'
  | .destroyVirtualLinks (some links) => Call.AllAlong detachPortByNum
      (fun s l => LinkEffect l s (detachPortByNum l s).2) links n.resources
  | _ => False

/-- An error means that nothing has happened, and a success that everything has. -/
def Faithful (answer : Reply × Node) (before : Resources) (Took : Resources → Prop) : Prop :=
  match answer.1 with
  | .ok _ => Took answer.2.resources
  | .error _ _ => answer.2.resources = before
  | .exception => True

/-- The request is carried out as a whole or not at all, and answered accordingly. -/
def AllOrNothing (n : Node) (r : Request) : Prop :=
  Faithful (processCommand n r) n.resources fun s' => TookEffect n s' r

/-! ## The condition -/

/-- The resources with the switch. -/
def Resources.withSwitch (s : Resources) (dpid : Dpid) : Resources :=
  { s with switchs := insert (dpid, toString dpid.val) s.switchs }

/-- The switch can be created: neither its id nor its name is taken. -/
def Resources.SwitchCreatable (s : Resources) (dpid : Dpid) (constructed : Bool) : Prop :=
  ¬ (s.switchExists dpid = true ∨ ∃ sw ∈ s.switchs, sw.2 = toString dpid.val) ∧
    constructed = true

/-- All the NF ports can be created. -/
def Resources.AllNfCreatable (s : Resources) (dpid : Dpid) (ports : List NfPort) : Prop :=
  (∀ p ∈ ports, s.NfCreatable dpid p) ∧ ports.Pairwise fun p q => p.name ≠ q.name

/-- All the links can be created. -/
def Resources.AllLinkCreatable (s : Resources) (dpidA dpidB : Dpid) (links : List VirtualLink) :
    Prop :=
  (∀ l ∈ links, s.LinkCreatable dpidA dpidB l) ∧ links.Pairwise VirtualLink.Apart

/-- Everything that a switch is created with can be. -/
def Resources.ContentCreatable (s : Resources) (m : CreateLsi) (dpid : Dpid) : Prop :=
  (∀ p ∈ m.ports, p.name ≠ "" → s.Attachable dpid p) ∧ s.AllNfCreatable dpid (m.allNfPorts dpid) ∧
    s.AllLinkCreatable dpid m.remoteLsi m.links ∧
    ∀ l ∈ m.links, ∀ p ∈ m.allNfPorts dpid, p.name ≠ l.name1 ∧ p.name ≠ l.name2

/-- The NF ports of the table go away with the switch. -/
def Resources.TableDestroyable (s : Resources) (dpid : Dpid) (ports : List Detach)
    (destroyed : ℕ → Bool) : Prop :=
  ∀ name ∈ s.nfPortNames dpid, s.manager.ports name = none ∨ s.InLinkOf ports name ∨
    (s.IsNf name ∧ ∃ e ∈ (s.nfPortNames dpid).zipIdx, e.1 = name ∧ destroyed e.2 = true)

/-- An NF port is reached that cannot be brought down. -/
def Resources.ReachesBringDown (s : Resources) (dpid : Dpid) (ports : List NfPortDestroy) : Prop :=
  ∃ pre p post, ports = pre ++ p :: post ∧ (∀ q ∈ pre, s.ReturnsTrue dpid q) ∧
    (pre.Pairwise fun p q => p.name ≠ q.name) ∧ p.name ∉ s.manager.blacklisted ∧
    ((s.manager.ports p.name = none ∨ (s.IsNf p.name ∧ ∃ q ∈ pre, q.name = p.name)) ∨
      p.broughtDown = false)

/-- Nothing fails once something has been changed, and no failure is passed over. -/
def NothingToUndo (n : Node) : Request → Prop
  | .createLsi m => m.refusal ≠ none ∨ ¬ n.resources.SwitchCreatable n.nextDpid m.constructed ∨
      (n.resources.withSwitch n.nextDpid).ContentCreatable m n.nextDpid
  | .destroyLsi (some dpid) snapshot destroyed =>
      n.resources.switchExists dpid = false ∨ snapshot = none ∨ ∃ ports, snapshot = some ports ∧
        ((∃ p ∈ ports.head?, ¬ n.resources.Detaches dpid p) ∨
          (n.resources.AllDetachable dpid ports ∧
            n.resources.TableDestroyable dpid ports destroyed))
  | .attachPhyPorts (some dpid) (some ports) =>
      (∀ p ∈ ports, n.resources.Attachable dpid p) ∨
        Call.CleanFailure (n.resources.Attachable dpid) (n.resources.AttachKeeps dpid) ports
  | .detachPhyPorts (some dpid) (some ports) =>
      ((∀ p ∈ ports, n.resources.PortDetaches dpid p) ∧ ports.Pairwise n.resources.Spares) ∨
        Call.CleanFailure (fun p => isVlink n.resources.manager p.name = false)
          (n.resources.DetachKeeps dpid) ports
  | .createNfPorts (some dpid) fs =>
      fs.findSome? (·.refusal "create-nf-ports") ≠ none ∨
        n.resources.AllNfCreatable dpid (nfPorts dpid fs) ∨
        ∃ p ∈ (nfPorts dpid fs).head?, n.resources.NfUndone dpid p
  | .destroyNfPorts (some dpid) (some ports) =>
      ((∀ p ∈ ports, n.resources.ReturnsTrue dpid p ∧ n.resources.IsNf p.name) ∧
          ports.Pairwise fun p q => p.name ≠ q.name) ∨
        n.resources.ReachesBringDown dpid ports ∨
        ∃ p ∈ ports.head?, p.name ∉ n.resources.nfPortNames dpid ∧
          ¬ n.resources.BringDownThrows p ∧ ¬ n.resources.Detaches dpid p.toDetach
  | .createVirtualLinks links (some dpidA) (some dpidB) => links.number = none ∨
      n.resources.AllLinkCreatable dpidA dpidB links.links ∨
      ∃ l ∈ links.links.head?, ¬ n.resources.LinkReaches dpidA dpidB l
  | .destroyVirtualLinks (some links) => (∃ l ∈ links, l.lsiId = none ∨ l.vlinkId = none) ∨
      ((∀ l ∈ links, n.resources.LinkDestroyable l) ∧ links.Pairwise n.resources.LinksApart)
  -- the other requests are refused
  | _ => True

/-! ## The commands -/

/-- An answer with an error. -/
def Reply.IsError : Reply → Prop
  | error _ _ => True
  | _ => False

section Respond

variable {n : Node} {command : String} {f : Call Reply Resources} {Took : Resources → Prop}

/-- The answer of a handler whose exceptions are all reported. -/
lemma faithful_respond (herror : f.ThrowsOnly Reply.IsError) :
    Faithful (n.respond command f) n.resources Took ↔
      (f.Returns n.resources → Took (f n.resources).2) ∧
        (¬ f.Returns n.resources → (f n.resources).2 = n.resources) := by
  rw [Node.respond, Call.Returns]
  cases he : (f n.resources).1 with
  | none => exact ⟨fun h => ⟨fun _ => h, fun hne => absurd rfl hne⟩, fun h => h.1 rfl⟩
  | some e =>
      cases e with
      | ok command => exact absurd (herror n.resources _ he) id
      | error command message =>
          exact ⟨fun h => ⟨by simp, fun _ => h⟩, fun h => h.2 (by simp)⟩
      | exception => exact absurd (herror n.resources _ he) id

/-- The answer of a loop whose exceptions are all reported. -/
lemma faithful_loop {α ε : Type} (f : α → Call ε Resources) (failed : String) (text : α → String)
    (as : List α) :
    Faithful (n.respond command
        (Call.forEach (fun a => (f a).rethrow fun _ => .error failed (text a)) as))
        n.resources Took ↔
      ((Call.forEach f as).Returns n.resources → Took (Call.forEach f as n.resources).2) ∧
        (¬ (Call.forEach f as).Returns n.resources →
          (Call.forEach f as n.resources).2 = n.resources) := by
  obtain ⟨hreturns, hsnd⟩ := Call.forEach_congr
    (g := fun a => (f a).rethrow fun _ => Reply.error failed (text a))
    (fun _ _ => Call.returns_rethrow) (fun _ _ => rfl) as n.resources
  rw [faithful_respond, hreturns, hsnd]
  exact Call.throwsOnly_forEach fun a => Call.throwsOnly_rethrow fun _ => trivial

/-- If every success is as it should be, only the failures are left. -/
lemma or_of_took {Returns Same Took : Prop} (htook : Returns → Took) :
    (Returns → Took) ∧ (¬ Returns → Same) ↔ Returns ∨ (¬ Returns ∧ Same) := by
  constructor
  · intro h
    exact (em Returns).imp_right fun hfails => ⟨hfails, h.2 hfails⟩
  · rintro (h | ⟨hfails, hsame⟩)
    · exact ⟨htook, fun hfails => absurd h hfails⟩
    · exact ⟨htook, fun _ => hsame⟩

end Respond

section Loops

variable {n : Node} {command : String} {dpid dpidA dpidB : Dpid}

lemma faithful_attachPhyPorts {ports : List PhyPort} :
    Faithful (n.respond command (attachPhyPorts dpid ports)) n.resources
        (fun s' => ∀ p ∈ ports, s'.AttachedTo dpid p.name) ↔
      (∀ p ∈ ports, n.resources.Attachable dpid p) ∨
        Call.CleanFailure (n.resources.Attachable dpid) (n.resources.AttachKeeps dpid) ports := by
  rw [attachPhyPorts, faithful_loop, or_of_took attachedTo_of_attachEach,
    attachEach_clean_iff, returns_attachEach]

lemma faithful_detachPhyPorts {ports : List Detach} :
    Faithful (n.respond command (detachPhyPorts dpid ports)) n.resources
        (fun _ => Call.AllAlong (detachPort dpid)
          (fun s p => DetachEffect dpid p s (detachPort dpid p s).2) ports n.resources) ↔
      ((∀ p ∈ ports, n.resources.PortDetaches dpid p) ∧ ports.Pairwise n.resources.Spares) ∨
        Call.CleanFailure (fun p => isVlink n.resources.manager p.name = false)
          (n.resources.DetachKeeps dpid) ports := by
  have heffect : ((Call.forEach (detachPort dpid) ports).Returns n.resources ∧
      Call.AllAlong (detachPort dpid) (fun s p => DetachEffect dpid p s (detachPort dpid p s).2)
        ports n.resources) ↔
      (∀ p ∈ ports, n.resources.PortDetaches dpid p) ∧ ports.Pairwise n.resources.Spares := by
    rw [← portDetaches_iff, Call.returns_forEach, ← Call.allAlong_and]
    refine Call.allAlong_congr fun s p => ?_
    rw [returns_detachPort]
    exact detachEffect_iff
  rw [detachPhyPorts, faithful_loop, ← heffect, ← detachPorts_clean_iff]
  constructor
  · intro h
    exact (em _).imp (fun hreturns => ⟨hreturns, h.1 hreturns⟩)
      fun hfails => ⟨hfails, h.2 hfails⟩
  · rintro (⟨hreturns, htook⟩ | ⟨hfails, hsame⟩)
    · exact ⟨fun _ => htook, fun hfails => absurd hreturns hfails⟩
    · exact ⟨fun hreturns => absurd hreturns hfails, fun _ => hsame⟩

/-- The links of a loop that returns. -/
lemma linksCreated_of_returns {links : List VirtualLink} {s : Resources}
    (h : (Call.forEach (createVirtualLink dpidA dpidB) links).Returns s) :
    LinksCreated dpidA dpidB links s
      (Call.forEach (createVirtualLink dpidA dpidB) links s).2 := by
  obtain ⟨hcreatable, hapart⟩ := returns_createVirtualLinks.mp h
  refine ⟨fun l hl => ⟨(hcreatable l hl).1.1, ?_⟩, hapart⟩
  exact ports_of_createVirtualLinks h l hl

lemma faithful_createLinks {links : List VirtualLink} {command' : String} :
    Faithful (n.respond command (createLinks command' dpidA dpidB links)) n.resources
        (LinksCreated dpidA dpidB links n.resources) ↔
      n.resources.AllLinkCreatable dpidA dpidB links ∨
        ∃ l ∈ links.head?, ¬ n.resources.LinkReaches dpidA dpidB l := by
  rw [createLinks, faithful_loop, or_of_took linksCreated_of_returns,
    createVirtualLinks_clean_iff, returns_createVirtualLinks]
  rfl

lemma faithful_destroyVirtualLinks {links : List LinkEnd} :
    Faithful (n.respond command (destroyVirtualLinks links)) n.resources
        (fun _ => Call.AllAlong detachPortByNum
          (fun s l => LinkEffect l s (detachPortByNum l s).2) links n.resources) ↔
      (∀ l ∈ links, n.resources.LinkDestroyable l) ∧ links.Pairwise n.resources.LinksApart := by
  have hreturns : (destroyVirtualLinks links).Returns n.resources :=
    Call.returns_forEach_of_forall (f := fun l => (detachPortByNum l).ignore) (fun _ _ => rfl)
      links n.resources
  rw [faithful_respond, ← destroyLinks_effect_iff]
  · exact ⟨fun h => h.1 hreturns, fun h => ⟨fun _ => h, fun hfails => absurd hreturns hfails⟩⟩
  · exact Call.throwsOnly_forEach fun _ _ _ => nofun

/-- The NF ports of a loop that returns, and their names. -/
lemma nfPortsCreated_of_returns {ports : List NfPort} {s s' : Resources}
    (h : (Call.forEach (createNfPort dpid) ports).Returns s)
    (hports : ∀ p ∈ ports,
      (Call.forEach (createNfPort dpid) ports s).2.manager.ports p.name =
        some ⟨.nf p.type, some dpid⟩ → s'.manager.ports p.name = some ⟨.nf p.type, some dpid⟩)
    (hnames : ∀ p ∈ ports, p.name ∈ s'.nfPortNames dpid) : NfPortsCreated dpid ports s s' := by
  obtain ⟨hcreatable, hne⟩ := returns_createNfPorts.mp h
  refine ⟨fun p hp => ⟨(hcreatable p hp).1, ?_, hnames p hp⟩, hne⟩
  exact hports p hp (ports_of_createNfPorts h p hp)

lemma createEach_eq (dpid : Dpid) (text : NfPort → String) (ports : List NfPort) (s : Resources) :
    ((createEach dpid text ports).Returns s ↔ (Call.forEach (createNfPort dpid) ports).Returns s) ∧
      (createEach dpid text ports s).2 = (Call.forEach (createNfPort dpid) ports s).2 :=
  Call.forEach_congr (fun _ _ => Call.returns_rethrow) (fun _ _ => rfl) ports s

lemma throwsOnly_createEach (dpid : Dpid) (text : NfPort → String) (ports : List NfPort) :
    (createEach dpid text ports).ThrowsOnly Reply.IsError :=
  Call.throwsOnly_forEach fun _ => Call.throwsOnly_rethrow fun _ => trivial

lemma nfPortNames_setNfPortNames (dpid : Dpid) (names : List String) (s : Resources) :
    (setNfPortNames dpid names s).2.nfPortNames dpid = names := Function.update_self _ _ _

lemma throwsOnly_setNfPortNames (dpid : Dpid) (names : List String) :
    (setNfPortNames dpid names).ThrowsOnly Reply.IsError := fun _ _ h => absurd h nofun

lemma faithful_createNfPorts {ports : List NfPort} :
    Faithful (n.respond command (createNfPorts dpid ports)) n.resources
        (NfPortsCreated dpid ports n.resources) ↔
      n.resources.AllNfCreatable dpid ports ∨
        ∃ p ∈ ports.head?, n.resources.NfUndone dpid p := by
  obtain ⟨hreturns, hsnd⟩ := createEach_eq dpid createNfFailure ports n.resources
  have hall : (createNfPorts dpid ports).Returns n.resources ↔
      (Call.forEach (createNfPort dpid) ports).Returns n.resources := by
    rw [← hreturns]
    change ((createEach dpid createNfFailure ports).andThen _).Returns n.resources ↔ _
    rw [Call.returns_andThen]
    exact and_iff_left rfl
  rw [faithful_respond, hall, or_of_took, returns_createNfPorts, ← createNfPorts_clean_iff]
  · refine or_congr Iff.rfl ?_
    rw [← returns_createNfPorts]
    refine and_congr_right fun hfails => ?_
    rw [createNfPorts, Call.andThen_of_throws (hreturns.not.mpr hfails), hsnd]
  · intro h
    rw [createNfPorts, Call.andThen_of_returns (hreturns.mpr h), hsnd]
    refine nfPortsCreated_of_returns h (fun _ _ => id) fun p hp => ?_
    rw [nfPortNames_setNfPortNames]
    exact List.mem_append_right _ (List.mem_map_of_mem hp)
  · intro s e he
    exact Call.throwsOnly_andThen (throwsOnly_createEach dpid createNfFailure ports)
      (throwsOnly_setNfPortNames dpid _) s e he

end Loops

section Destroy

variable {n : Node} {command : String} {dpid : Dpid}

/-- The loop of `destroyNFPorts` is left by an exception of `bring_down`. -/
lemma throws_destroyNfPorts {ports : List NfPortDestroy} {s : Resources} :
    (Call.forEach (eraseAndDestroy dpid) ports s).1 = some .throws ↔
      s.ReachesBringDown dpid ports := by
  rw [Call.throws_forEach, Resources.ReachesBringDown]
  refine exists_congr fun pre => exists_congr fun p => exists_congr fun post =>
    and_congr_right fun _ => ?_
  rw [returns_destroyNfPorts, and_assoc, throws_eraseAndDestroy]
  refine and_congr_right fun htrue => and_congr_right fun hne => ?_
  have hreturns := returns_destroyNfPorts.mpr ⟨htrue, hne⟩
  have hblacklisted :=
    (Call.moves_forEach (shrinking_eraseAndDestroy dpid) pre s).blacklisted
  rw [Resources.BringDownThrows, hblacklisted, ports_destroyNfPorts_eq_none_iff hreturns]

lemma destroyNfPorts_eq (dpid : Dpid) (ports : List NfPortDestroy) (s : Resources) :
    ((destroyNfPorts dpid ports).Returns s ↔
        (Call.forEach (eraseAndDestroy dpid) ports).Returns s) ∧
      (destroyNfPorts dpid ports s).2 = (Call.forEach (eraseAndDestroy dpid) ports s).2 :=
  Call.forEach_congr (f := eraseAndDestroy dpid)
    (g := fun p => (eraseAndDestroy dpid p).rethrow (·.reply p.name))
    (fun _ _ => Call.returns_rethrow) (fun _ _ => rfl) ports s

lemma map_reply_eq_exception_iff (name : String) (o : Option NotDestroyed) :
    o.map (·.reply name) = some .exception ↔ o = some .throws := by
  rcases o with - | - | -
  · exact ⟨nofun, nofun⟩
  · exact ⟨nofun, nofun⟩
  · exact ⟨fun _ => rfl, fun _ => rfl⟩

lemma exception_destroyNfPorts {ports : List NfPortDestroy} {s : Resources} :
    (destroyNfPorts dpid ports s).1 = some .exception ↔ s.ReachesBringDown dpid ports := by
  rw [← throws_destroyNfPorts, destroyNfPorts, Call.throws_forEach, Call.throws_forEach]
  refine exists_congr fun pre => exists_congr fun p => exists_congr fun post =>
    and_congr_right fun _ => ?_
  obtain ⟨hpre, hpre'⟩ := destroyNfPorts_eq dpid pre s
  change (destroyNfPorts dpid pre).Returns s ∧
    (eraseAndDestroy dpid p (destroyNfPorts dpid pre s).2).1.map (·.reply p.name) =
      some .exception ↔ _
  rw [hpre, hpre', map_reply_eq_exception_iff]

lemma faithful_destroyNfPorts {ports : List NfPortDestroy} :
    Faithful (n.respond command (destroyNfPorts dpid ports)) n.resources
        (fun _ => Call.AllAlong (eraseAndDestroy dpid)
          (fun s p => NfEffect p s (eraseAndDestroy dpid p s).2) ports n.resources) ↔
      ((∀ p ∈ ports, n.resources.ReturnsTrue dpid p ∧ n.resources.IsNf p.name) ∧
          ports.Pairwise fun p q => p.name ≠ q.name) ∨
        n.resources.ReachesBringDown dpid ports ∨
        ∃ p ∈ ports.head?, p.name ∉ n.resources.nfPortNames dpid ∧
          ¬ n.resources.BringDownThrows p ∧ ¬ n.resources.Detaches dpid p.toDetach := by
  obtain ⟨hreturns, hsnd⟩ := destroyNfPorts_eq dpid ports n.resources
  have hclean : ¬ (Call.forEach (eraseAndDestroy dpid) ports).Returns n.resources ∧
      (Call.forEach (eraseAndDestroy dpid) ports n.resources).2 = n.resources ↔ _ :=
    destroyNfPorts_clean_iff
  rw [← hreturns, ← hsnd] at hclean
  rw [← destroyNfPorts_effect_iff, ← hreturns, ← exception_destroyNfPorts, Node.respond,
    Faithful]
  have hhead : (∃ p ∈ ports.head?, p.name ∉ n.resources.nfPortNames dpid ∧
      ¬ n.resources.BringDownThrows p ∧ ¬ n.resources.Detaches dpid p.toDetach) →
      ¬ (destroyNfPorts dpid ports).Returns n.resources ∧
        (destroyNfPorts dpid ports n.resources).2 = n.resources := by
    rintro ⟨p, hp, hname, -, hdetaches⟩
    exact hclean.mpr ⟨p, hp, hname, .inr hdetaches⟩
  cases he : (destroyNfPorts dpid ports n.resources).1 with
  | none =>
      refine ⟨fun htook => .inl ⟨he, htook⟩, ?_⟩
      rintro (htook | hexception | h)
      · exact htook.2
      · cases hexception
      · exact absurd he (hhead h).1
  | some e =>
      cases e with
      | ok command =>
          have hnotOk : (destroyNfPorts dpid ports).ThrowsOnly (· ≠ .ok command) := by
            refine Call.throwsOnly_forEach fun p => Call.throwsOnly_rethrow fun e => ?_
            cases e <;> simp [NotDestroyed.reply]
          exact absurd rfl (hnotOk n.resources _ he)
      | error command message =>
          constructor
          · intro hsame
            have hfails : ¬ (destroyNfPorts dpid ports).Returns n.resources := by
              rw [Call.Returns, he]
              simp
            obtain ⟨p, hp, hname, hcase⟩ := hclean.mp ⟨hfails, hsame⟩
            -- the error is not that of `bring_down`
            have hdown : ¬ n.resources.BringDownThrows p := by
              intro hthrows
              obtain ⟨post, rfl⟩ : ∃ post, ports = p :: post := by
                cases ports with
                | nil => exact absurd hp (by simp)
                | cons q post => exact ⟨post, by rw [Option.some.inj hp]⟩
              have hreaches : n.resources.ReachesBringDown dpid (p :: post) :=
                ⟨[], p, post, rfl, fun _ hq => absurd hq (by simp), .nil, hthrows.1,
                  hthrows.2.imp_left .inl⟩
              exact absurd (he.symm.trans (exception_destroyNfPorts.mpr hreaches)) (by simp)
            exact .inr (.inr ⟨p, hp, hname, hdown, hcase.resolve_left hdown⟩)
          · rintro (htook | hexception | h)
            · exact absurd (he.symm.trans htook.1) (by simp)
            · cases hexception
            · exact (hhead h).2
      | exception => exact ⟨fun _ => .inr (.inl rfl), fun _ => trivial⟩

/-! ### Destroying a switch -/

/-- What is left of the ports when the ports of a snapshot have been detached and those of the table
destroyed as far as possible. -/
lemma ports_destroyLsi_eq_none_iff {ports : List Detach} {destroyed : ℕ → Bool} {s : Resources}
    (h : s.AllDetachable dpid ports) (es : List (String × ℕ)) (name : String) :
    (Call.forEach (destroyEntry destroyed) es (eraseSwitch dpid
        (Call.forEach (Detach.call dpid) ports s).2).2).2.manager.ports name = none ↔
      s.manager.ports name = none ∨ s.InLinkOf ports name ∨
        (s.IsNf name ∧ ∃ e ∈ es, e.1 = name ∧ destroyed e.2 = true) := by
  have hreturns := returns_detachEach.mpr h
  rw [ports_destroyEntries_eq_none_iff]
  change (Call.forEach (Detach.call dpid) ports s).2.manager.ports name = none ∨
    ((Call.forEach (Detach.call dpid) ports s).2.IsNf name ∧ _) ↔ _
  have hgone := ports_detachEach_eq_none_iff hreturns name
  by_cases hnone : (Call.forEach (Detach.call dpid) ports s).2.manager.ports name = none
  · have hcase := hgone.mp hnone
    exact ⟨fun _ => hcase.imp_right .inl, fun _ => .inl hnone⟩
  · rw [(Call.moves_forEach (shrinking_detach dpid) ports s).isNf_iff hnone]
    constructor
    · rintro (h' | h')
      · exact absurd h' hnone
      · exact .inr (.inr h')
    · rintro (h' | h' | h')
      · exact absurd (hgone.mpr (.inl h')) hnone
      · exact absurd (hgone.mpr (.inr h')) hnone
      · exact .inr h'

lemma returns_destroyTable (dpid : Dpid) (destroyed : ℕ → Bool) (s : Resources) :
    (destroyTable dpid destroyed).Returns s :=
  Call.returns_andThen.mpr
    ⟨Call.returns_forEach_of_forall (f := destroyEntry destroyed) (fun _ _ => rfl) _ s, rfl⟩

lemma snd_destroyTable (dpid : Dpid) (destroyed : ℕ → Bool) (s : Resources) :
    (destroyTable dpid destroyed s).2.switchs = s.switchs ∧
      (destroyTable dpid destroyed s).2.manager =
        (Call.forEach (destroyEntry destroyed) (s.nfPortNames dpid).zipIdx s).2.manager := by
  have hreturns : (Call.forEach (destroyEntry destroyed) (s.nfPortNames dpid).zipIdx).Returns s :=
    Call.returns_forEach_of_forall (f := destroyEntry destroyed) (fun _ _ => rfl) _ s
  have hs' : destroyTable dpid destroyed s = setNfPortNames dpid []
      (Call.forEach (destroyEntry destroyed) (s.nfPortNames dpid).zipIdx s).2 :=
    Call.andThen_of_returns hreturns
  rw [hs']
  exact ⟨(Call.moves_forEach (shrinking_destroyEntry destroyed) _ s).switchs, rfl⟩

lemma switchExists_eraseSwitch (dpid : Dpid) (s : Resources) :
    (eraseSwitch dpid s).2.switchExists dpid = false := by
  rw [Resources.switchExists, decide_eq_false_iff_not]
  rintro ⟨sw, hsw, hdpid⟩
  exact (Finset.mem_filter.mp hsw).2 hdpid

lemma nfPortNames_detachEach (dpid : Dpid) (ports : List Detach) (s : Resources) :
    (Call.forEach (Detach.call dpid) ports s).2.nfPortNames = s.nfPortNames :=
  Call.moves_forEach (f := Detach.call dpid) (r := Call.Keeps Resources.nfPortNames)
    (fun _ _ => rfl) ports s

/-- The switch is gone, and what remains of the table are the ports that could not be destroyed. -/
lemma took_destroyLsi_iff {ports : List Detach} {destroyed : ℕ → Bool} {s : Resources}
    (hexists : s.switchExists dpid = true) (h : s.AllDetachable dpid ports) :
    ((destroyLsi dpid (some ports) destroyed s).2.switchExists dpid = false ∧
        ∀ name ∈ s.nfPortNames dpid,
          (destroyLsi dpid (some ports) destroyed s).2.manager.ports name = none) ↔
      s.TableDestroyable dpid ports destroyed := by
  have hreturns : ((destroySwitch dpid (some ports)).rethrow fun _ =>
      Reply.error "destroy-lsi" "error during the destruction of the LSI").Returns s :=
    Call.returns_rethrow.mpr ((returns_destroySwitch hexists).mpr h)
  set t := (eraseSwitch dpid (Call.forEach (Detach.call dpid) ports s).2).2 with ht
  have hs' : destroyLsi dpid (some ports) destroyed s = destroyTable dpid destroyed t := by
    rw [destroyLsi, Call.andThen_of_returns hreturns]
    exact congrArg _ (snd_destroySwitch hexists h)
  have hnames : t.nfPortNames = s.nfPortNames := nfPortNames_detachEach dpid ports s
  obtain ⟨hswitchs, hmanager⟩ := snd_destroyTable dpid destroyed t
  have hgone : (destroyTable dpid destroyed t).2.switchExists dpid = false := by
    rw [Resources.switchExists, hswitchs]
    exact switchExists_eraseSwitch dpid _
  rw [hs', Resources.TableDestroyable]
  refine (and_iff_right hgone).trans (forall₂_congr fun name _ => ?_)
  rw [hmanager, hnames, ht, ports_destroyLsi_eq_none_iff h]

lemma faithful_destroyLsi {snapshot : Option (List Detach)} {destroyed : ℕ → Bool} :
    Faithful (n.respond command (destroyLsi dpid snapshot destroyed)) n.resources
        (fun s' => s'.switchExists dpid = false ∧
          ∀ name ∈ n.resources.nfPortNames dpid, s'.manager.ports name = none) ↔
      n.resources.switchExists dpid = false ∨ snapshot = none ∨ ∃ ports, snapshot = some ports ∧
        ((∃ p ∈ ports.head?, ¬ n.resources.Detaches dpid p) ∨
          (n.resources.AllDetachable dpid ports ∧
            n.resources.TableDestroyable dpid ports destroyed)) := by
  have herror : (destroyLsi dpid snapshot destroyed).ThrowsOnly Reply.IsError :=
    Call.throwsOnly_andThen (Call.throwsOnly_rethrow fun _ => trivial) fun s e he =>
      absurd ((returns_destroyTable dpid destroyed s).symm.trans he) (by simp)
  have hreturns : ∀ s, (destroyLsi dpid snapshot destroyed).Returns s ↔
      (destroySwitch dpid snapshot).Returns s := by
    intro s
    rw [destroyLsi, Call.returns_andThen, Call.returns_rethrow]
    exact and_iff_left (returns_destroyTable dpid destroyed _)
  have hfails : ∀ s, ¬ (destroySwitch dpid snapshot).Returns s →
      (destroyLsi dpid snapshot destroyed s).2 = (destroySwitch dpid snapshot s).2 := by
    intro s hs
    rw [destroyLsi, Call.andThen_of_throws (Call.returns_rethrow.not.mpr hs)]
    rfl
  rw [faithful_respond herror, hreturns]
  by_cases hnone : n.resources.switchExists dpid = false ∨ snapshot = none
  · have heq := destroySwitch_of_not_exists hnone
    have hnot : ¬ (destroySwitch dpid snapshot).Returns n.resources := by
      rw [Call.Returns, heq]
      simp
    refine ⟨fun _ => hnone.imp_right .inl, fun _ => ⟨fun h => absurd h hnot, fun _ => ?_⟩⟩
    rw [hfails _ hnot, heq]
  · rw [not_or, Bool.not_eq_false] at hnone
    obtain ⟨hexists, hsnapshot⟩ := hnone
    obtain ⟨ports, rfl⟩ := Option.ne_none_iff_exists'.mp hsnapshot
    have hclean : ¬ (destroySwitch dpid (some ports)).Returns n.resources ∧
        (destroySwitch dpid (some ports) n.resources).2 = n.resources ↔ _ :=
      destroySwitch_clean_iff hexists
    rw [returns_destroySwitch hexists] at hclean ⊢
    constructor
    · intro h
      refine .inr (.inr ⟨ports, rfl, ?_⟩)
      by_cases hall : n.resources.AllDetachable dpid ports
      · exact .inr ⟨hall, (took_destroyLsi_iff hexists hall).mp (h.1 hall)⟩
      · have hnot := (returns_destroySwitch hexists).not.mpr hall
        have hsame := h.2 hall
        rw [hfails _ hnot] at hsame
        exact .inl (hclean.mp ⟨hall, hsame⟩)
    · rintro (h | h | ⟨ports', heq, h⟩)
      · exact absurd (hexists.symm.trans h) (by simp)
      · cases h
      · obtain rfl := Option.some.inj heq
        rcases h with hhead | ⟨hall, htable⟩
        · obtain ⟨hall, hsame⟩ := hclean.mpr hhead
          have hnot := (returns_destroySwitch hexists).not.mpr hall
          exact ⟨fun h => absurd h hall, fun _ => (hfails _ hnot).trans hsame⟩
        · exact ⟨fun _ => (took_destroyLsi_iff hexists hall).mpr htable,
            fun hnot => absurd hall hnot⟩

end Destroy

/-! ### Creating a switch -/

section Create

variable {n : Node} {command : String} {dpid : Dpid} {s s' : Resources}

lemma createSwitch_of_creatable {constructed : Bool} (h : s.SwitchCreatable dpid constructed) :
    createSwitch dpid (toString dpid.val) constructed s = (none, s.withSwitch dpid) := by
  rw [createSwitch, if_neg h.1, h.2]
  rfl

lemma createSwitch_of_not_creatable {constructed : Bool}
    (h : ¬ s.SwitchCreatable dpid constructed) :
    createSwitch dpid (toString dpid.val) constructed s = (some (), s) := by
  rw [createSwitch]
  split
  · rfl
  next hnew =>
    cases constructed with
    | false => rfl
    | true => exact absurd ⟨hnew, rfl⟩ h

lemma Attaching.nfCreatable_iff (h : Attaching dpid s s') {dpid' : Dpid} {p : NfPort} :
    s'.NfCreatable dpid' p ↔ s.NfCreatable dpid' p := by
  rw [Resources.NfCreatable, Resources.NfCreatable, Resources.NfAttachable, Resources.NfAttachable,
    h.ports_eq_none_iff, Resources.blacklisted_eq h.rest, Resources.switchExists_eq h.rest]

lemma Attaching.linkCreatable_iff (h : Attaching dpid s s') {dpidA dpidB : Dpid}
    {l : VirtualLink} : s'.LinkCreatable dpidA dpidB l ↔ s.LinkCreatable dpidA dpidB l := by
  rw [Resources.LinkCreatable, Resources.LinkCreatable, Resources.LinkReaches,
    Resources.LinkReaches, Resources.Unused, Resources.Unused, h.ports_eq_none_iff,
    h.ports_eq_none_iff, Resources.switchExists_eq h.rest, Resources.switchExists_eq h.rest,
    h.vlinks]

/-- A link can be created after NF ports, unless one of them has the name of an end. -/
lemma linkCreatable_createNfPorts_iff {ports : List NfPort} {dpidA dpidB : Dpid}
    {l : VirtualLink} (h : (Call.forEach (createNfPort dpid) ports).Returns s) :
    (Call.forEach (createNfPort dpid) ports s).2.LinkCreatable dpidA dpidB l ↔
      s.LinkCreatable dpidA dpidB l ∧ ∀ p ∈ ports, p.name ≠ l.name1 ∧ p.name ≠ l.name2 := by
  have hrest : (Call.forEach (createNfPort dpid) ports s).2.rest = s.rest :=
    (Call.moves_forEach extending_createNfPort ports s).rest
  have hvlinks : (Call.forEach (createNfPort dpid) ports s).2.manager.vlinks = s.manager.vlinks :=
    Call.moves_forEach (f := createNfPort dpid)
      (r := Call.Keeps fun s : Resources => s.manager.vlinks) vlinks_createNfPort ports s
  have hnone : ∀ name, (Call.forEach (createNfPort dpid) ports s).2.manager.ports name = none ↔
      s.manager.ports name = none ∧ ∀ p ∈ ports, p.name ≠ name := by
    intro name
    by_cases hname : ∀ p ∈ ports, p.name ≠ name
    · rw [ports_createNfPorts_of_notMem hname s]
      exact (and_iff_left hname).symm
    · obtain ⟨p, hp⟩ := not_forall.mp hname
      obtain ⟨hmem, heq⟩ := Classical.not_imp.mp hp
      rw [not_not] at heq
      have hport := ports_of_createNfPorts h p hmem
      rw [heq] at hport
      exact ⟨fun hnone => absurd (hnone.symm.trans hport) nofun, fun hnot => absurd hnot.2 hname⟩
  rw [Resources.LinkCreatable, Resources.LinkCreatable, Resources.LinkReaches,
    Resources.LinkReaches, Resources.Unused, Resources.Unused, hnone, hnone,
    Resources.switchExists_eq hrest, Resources.switchExists_eq hrest, hvlinks]
  constructor
  · rintro ⟨⟨⟨hne, ⟨h1, hp1⟩, h2, hp2⟩, hreaches⟩, hcase⟩
    exact ⟨⟨⟨⟨hne, h1, h2⟩, hreaches⟩, hcase⟩, fun p hp => ⟨hp1 p hp, hp2 p hp⟩⟩
  · rintro ⟨⟨⟨⟨hne, h1, h2⟩, hreaches⟩, hcase⟩, hp⟩
    exact ⟨⟨⟨hne, ⟨h1, fun p hp' => (hp p hp').1⟩, h2, fun p hp' => (hp p hp').2⟩, hreaches⟩,
      hcase⟩

/-- The NF ports and the links of a switch, once its physical ports have been attached. -/
def createContent (m : CreateLsi) (dpid : Dpid) : Call Reply Resources :=
  (createEach dpid
      (fun _ => "An error occurred while creating the wireless port " ++
        ((m.wireless.map (·.port)).getD "")) (m.wirelessPort dpid)).andThen
    ((createEach dpid createNfFailure (nfPorts dpid m.networkFunctions)).andThen
      ((setNfPortNames dpid ((m.allNfPorts dpid).map (·.name))).andThen
        (createLinks "create-lsi" dpid m.remoteLsi m.links)))

/-- The wireless port and the ports of the network functions are created by one loop. -/
lemma createContent_eq (m : CreateLsi) (dpid : Dpid) (s : Resources) :
    ((createContent m dpid).Returns s ↔
        (Call.forEach (createNfPort dpid) (m.allNfPorts dpid)).Returns s ∧
          (Call.forEach (createVirtualLink dpid m.remoteLsi) m.links).Returns
            (setNfPortNames dpid ((m.allNfPorts dpid).map (·.name))
              (Call.forEach (createNfPort dpid) (m.allNfPorts dpid) s).2).2) ∧
      ((createContent m dpid).Returns s → (createContent m dpid s).2 =
        (Call.forEach (createVirtualLink dpid m.remoteLsi) m.links
          (setNfPortNames dpid ((m.allNfPorts dpid).map (·.name))
            (Call.forEach (createNfPort dpid) (m.allNfPorts dpid) s).2).2).2) := by
  set text : NfPort → String := fun _ => "An error occurred while creating the wireless port " ++
    ((m.wireless.map (·.port)).getD "") with htext
  obtain ⟨hwireless, hwireless'⟩ := createEach_eq dpid text (m.wirelessPort dpid) s
  obtain ⟨hnfs, hnfs'⟩ := createEach_eq dpid createNfFailure (nfPorts dpid m.networkFunctions)
    (Call.forEach (createNfPort dpid) (m.wirelessPort dpid) s).2
  have hset : ∀ names s, (setNfPortNames dpid names).Returns s := fun _ _ => rfl
  rw [CreateLsi.allNfPorts, Call.forEach_append, Call.returns_andThen, createContent]
  by_cases hw : (Call.forEach (createNfPort dpid) (m.wirelessPort dpid)).Returns s
  · rw [Call.Returns, Call.andThen_of_returns (hwireless.mpr hw), hwireless',
      Call.andThen_of_returns hw]
    by_cases hn : (Call.forEach (createNfPort dpid) (nfPorts dpid m.networkFunctions)).Returns
        (Call.forEach (createNfPort dpid) (m.wirelessPort dpid) s).2
    · rw [Call.andThen_of_returns (hnfs.mpr hn), hnfs', Call.andThen_of_returns (hset _ _)]
      obtain ⟨hlinks, hlinks'⟩ := Call.forEach_congr
        (g := fun l => (createVirtualLink dpid m.remoteLsi l).rethrow fun _ =>
          Reply.error "create-lsi" "An error occurred while creating a virtual link")
        (fun _ _ => Call.returns_rethrow) (fun _ _ => rfl) m.links
        (setNfPortNames dpid ((m.wirelessPort dpid ++ nfPorts dpid m.networkFunctions).map (·.name))
          (Call.forEach (createNfPort dpid) (nfPorts dpid m.networkFunctions)
            (Call.forEach (createNfPort dpid) (m.wirelessPort dpid) s).2).2).2
      exact ⟨hlinks.trans (and_iff_right ⟨hw, hn⟩).symm, fun _ => hlinks'⟩
    · rw [Call.andThen_of_throws (hnfs.not.mpr hn)]
      exact ⟨⟨fun h => absurd (hnfs.mp h) hn, fun h => absurd h.1.2 hn⟩,
        fun h => absurd (hnfs.mp h) hn⟩
  · rw [Call.Returns, Call.andThen_of_throws (hwireless.not.mpr hw)]
    exact ⟨⟨fun h => absurd (hwireless.mp h) hw, fun h => absurd h.1.1 hw⟩,
      fun h => absurd (hwireless.mp h) hw⟩

lemma createSwitchWithPorts_eq {constructed : Bool} (h : s.SwitchCreatable dpid constructed)
    (ports : List PhyPort) : createSwitchWithPorts dpid constructed ports s =
      Call.forEach (attachPhyPort dpid) (ports.filter fun p => p.name ≠ "")
        (s.withSwitch dpid) := by
  have hcreate := createSwitch_of_creatable h
  have hreturns : (createSwitch dpid (toString dpid.val) constructed).Returns s := by
    rw [Call.Returns, hcreate]
  rw [createSwitchWithPorts, Call.andThen_of_returns hreturns, hcreate]

/-- The switches are those before, and the new one, whatever fails. -/
lemma switchs_createLsi {m : CreateLsi} (h : s.SwitchCreatable dpid m.constructed) :
    (createLsi m dpid s).2.switchs = (s.withSwitch dpid).switchs := by
  have hattach : (createSwitchWithPorts dpid m.constructed m.ports s).2.switchs =
      (s.withSwitch dpid).switchs := by
    rw [createSwitchWithPorts_eq h]
    exact Resources.switchs_eq (Call.moves_forEach attaching_attachPhyPort _ _).rest
  have hcontent : ∀ s, (createContent m dpid s).2.switchs = s.switchs := by
    have heach : ∀ text ports s, (createEach dpid text ports s).2.switchs = s.switchs := by
      intro text ports s
      rw [(createEach_eq dpid text ports s).2]
      exact Resources.switchs_eq (Call.moves_forEach extending_createNfPort _ _).rest
    have hlinks : ∀ s, (createLinks "create-lsi" dpid m.remoteLsi m.links s).2.switchs =
        s.switchs := by
      intro s
      refine Call.moves_forEach (r := Call.Keeps Resources.switchs)
        (f := fun l => (createVirtualLink dpid m.remoteLsi l).rethrow fun _ => Reply.error _ _)
        (fun l s => ?_) m.links s
      exact Resources.switchs_eq (extending_createVirtualLink l s).rest
    intro s
    refine Call.moves_andThen (r := Call.Keeps Resources.switchs) (heach _ _ s) fun s => ?_
    refine Call.moves_andThen (r := Call.Keeps Resources.switchs) (heach _ _ s) fun s => ?_
    exact Call.moves_andThen (r := Call.Keeps Resources.switchs) rfl hlinks
  rw [← hattach]
  by_cases hreturns : (createSwitchWithPorts dpid m.constructed m.ports).Returns s
  · rw [createLsi, Call.andThen_of_returns (Call.returns_rethrow.mpr hreturns)]
    exact hcontent _
  · rw [createLsi, Call.andThen_of_throws (Call.returns_rethrow.not.mpr hreturns)]
    rfl

lemma returns_createSwitchWithPorts {constructed : Bool} (h : s.SwitchCreatable dpid constructed)
    {ports : List PhyPort} : (createSwitchWithPorts dpid constructed ports).Returns s ↔
      ∀ p ∈ ports, p.name ≠ "" → (s.withSwitch dpid).Attachable dpid p := by
  rw [Call.Returns, createSwitchWithPorts_eq h, ← Call.Returns, returns_attachEach]
  simp only [List.mem_filter, decide_eq_true_eq, and_imp]

lemma returns_createLsi {m : CreateLsi} (h : s.SwitchCreatable dpid m.constructed) :
    (createLsi m dpid).Returns s ↔ (s.withSwitch dpid).ContentCreatable m dpid := by
  have hchain : (createLsi m dpid).Returns s ↔
      (createSwitchWithPorts dpid m.constructed m.ports).Returns s ∧
        (createContent m dpid).Returns (createSwitchWithPorts dpid m.constructed m.ports s).2 := by
    change (Call.andThen _ (createContent m dpid)).Returns s ↔ _
    rw [Call.returns_andThen, Call.returns_rethrow]
    exact Iff.rfl
  have hattaching : Attaching dpid (s.withSwitch dpid)
      (createSwitchWithPorts dpid m.constructed m.ports s).2 := by
    rw [createSwitchWithPorts_eq h]
    exact Call.moves_forEach attaching_attachPhyPort _ _
  rw [hchain, returns_createSwitchWithPorts h, (createContent_eq m dpid _).1,
    Resources.ContentCreatable]
  refine and_congr_right fun _ => ?_
  rw [returns_createNfPorts, Resources.AllNfCreatable]
  simp only [hattaching.nfCreatable_iff]
  refine and_congr_right fun hnf => ?_
  have hreturns : (Call.forEach (createNfPort dpid) (m.allNfPorts dpid)).Returns
      (createSwitchWithPorts dpid m.constructed m.ports s).2 := by
    rw [returns_createNfPorts]
    simp only [hattaching.nfCreatable_iff]
    exact hnf
  -- the names in the table do not matter for the links
  have hlink : ∀ l, (setNfPortNames dpid ((m.allNfPorts dpid).map (·.name))
      (Call.forEach (createNfPort dpid) (m.allNfPorts dpid)
        (createSwitchWithPorts dpid m.constructed m.ports s).2).2).2.LinkCreatable dpid m.remoteLsi
          l ↔ (s.withSwitch dpid).LinkCreatable dpid m.remoteLsi l ∧
            ∀ p ∈ m.allNfPorts dpid, p.name ≠ l.name1 ∧ p.name ≠ l.name2 := by
    intro l
    rw [← hattaching.linkCreatable_iff, ← linkCreatable_createNfPorts_iff hreturns]
    exact Iff.rfl
  rw [returns_createVirtualLinks, Resources.AllLinkCreatable]
  simp only [hlink]
  constructor
  · rintro ⟨hcreatable, hapart⟩
    exact ⟨⟨fun l hl => (hcreatable l hl).1, hapart⟩, fun l hl => (hcreatable l hl).2⟩
  · rintro ⟨⟨hcreatable, hapart⟩, hnames⟩
    exact ⟨fun l hl => ⟨hcreatable l hl, hnames l hl⟩, hapart⟩

/-- A switch that has been created is there with all its ports and links. -/
lemma lsiCreated_of_returns {m : CreateLsi} (h : s.SwitchCreatable dpid m.constructed)
    (hreturns : (createLsi m dpid).Returns s) : LsiCreated m dpid s (createLsi m dpid s).2 := by
  obtain ⟨hports, hnf, hlinks, -⟩ := (returns_createLsi h).mp hreturns
  have hattach : (Call.forEach (attachPhyPort dpid) (m.ports.filter fun p => p.name ≠ "")).Returns
      (s.withSwitch dpid) := by
    have hswitch := (returns_createSwitchWithPorts h).mpr hports
    rw [Call.Returns, createSwitchWithPorts_eq h] at hswitch
    exact hswitch
  set t := (Call.forEach (attachPhyPort dpid) (m.ports.filter fun p => p.name ≠ "")
    (s.withSwitch dpid)).2 with ht
  have hs' : createLsi m dpid s = createContent m dpid t := by
    have hswitch := (returns_createSwitchWithPorts h).mpr hports
    refine (Call.andThen_of_returns (Call.returns_rethrow.mpr hswitch)).trans ?_
    exact congrArg (fun p => createContent m dpid p.2) (createSwitchWithPorts_eq h m.ports)
  have hcontent : (createContent m dpid).Returns t := by
    rw [Call.Returns, ← hs']
    exact hreturns
  obtain ⟨hnfReturns, hlinksReturn⟩ := (createContent_eq m dpid t).1.mp hcontent
  have hlast := (createContent_eq m dpid t).2 hcontent
  set u := (setNfPortNames dpid ((m.allNfPorts dpid).map (·.name))
    (Call.forEach (createNfPort dpid) (m.allNfPorts dpid) t).2).2 with hu
  have hattaching : Attaching dpid (s.withSwitch dpid) t :=
    Call.moves_forEach attaching_attachPhyPort _ _
  have hnfs : Extending t (Call.forEach (createNfPort dpid) (m.allNfPorts dpid) t).2 :=
    Call.moves_forEach extending_createNfPort _ _
  have hvirtual : Extending u (Call.forEach (createVirtualLink dpid m.remoteLsi) m.links u).2 :=
    Call.moves_forEach extending_createVirtualLink _ _
  have hexists : s.switchExists dpid = false := by
    by_contra hne
    exact h.1 (.inl (eq_true_of_ne_false hne))
  have hswitch : (createLsi m dpid s).2.switchExists dpid = true := by
    rw [Resources.switchExists, switchs_createLsi h, decide_eq_true_eq]
    exact ⟨(dpid, toString dpid.val), Finset.mem_insert_self _ _, rfl⟩
  rw [hs', hlast] at hswitch ⊢
  refine ⟨hexists, hswitch, ?_, ⟨?_, hnf.2⟩, ?_, hlinks.2⟩
  · intro p hp hne
    have hmem : p ∈ m.ports.filter fun p => p.name ≠ "" :=
      List.mem_filter.mpr ⟨hp, decide_eq_true_eq.mpr hne⟩
    exact hvirtual.attachedTo (hnfs.attachedTo (attachedTo_of_attachEach hattach p hmem))
  · intro p hp
    refine ⟨(hnf.1 p hp).1, ?_, ?_⟩
    · exact hvirtual.ports _ _ (ports_of_createNfPorts hnfReturns p hp)
    · rw [Resources.nfPortNames_eq hvirtual.rest, hu, nfPortNames_setNfPortNames]
      exact List.mem_map_of_mem hp
  · intro l hl
    exact ⟨(hlinks.1 l hl).1.1, ports_of_createVirtualLinks hlinksReturn l hl⟩

lemma throwsOnly_createLsi (m : CreateLsi) (dpid : Dpid) :
    (createLsi m dpid).ThrowsOnly Reply.IsError := by
  have hlinks : (createLinks "create-lsi" dpid m.remoteLsi m.links).ThrowsOnly Reply.IsError :=
    Call.throwsOnly_forEach fun _ => Call.throwsOnly_rethrow fun _ => trivial
  exact Call.throwsOnly_andThen (Call.throwsOnly_rethrow fun _ => trivial)
    (Call.throwsOnly_andThen (throwsOnly_createEach dpid _ _)
      (Call.throwsOnly_andThen (throwsOnly_createEach dpid _ _)
        (Call.throwsOnly_andThen (throwsOnly_setNfPortNames dpid _) hlinks)))

lemma faithful_createLsi {m : CreateLsi} :
    Faithful (n.respond command (createLsi m dpid)) n.resources (LsiCreated m dpid n.resources) ↔
      ¬ n.resources.SwitchCreatable dpid m.constructed ∨
        (n.resources.withSwitch dpid).ContentCreatable m dpid := by
  rw [faithful_respond (throwsOnly_createLsi m dpid)]
  by_cases h : n.resources.SwitchCreatable dpid m.constructed
  · rw [returns_createLsi h]
    constructor
    · intro hfaithful
      by_contra hnot
      have hsame := hfaithful.2 fun hcontent => hnot (.inr hcontent)
      -- the new switch is still there
      have hmem : (dpid, toString dpid.val) ∈ (createLsi m dpid n.resources).2.switchs := by
        rw [switchs_createLsi h]
        exact Finset.mem_insert_self _ _
      rw [hsame] at hmem
      exact h.1 (.inl (decide_eq_true ⟨_, hmem, rfl⟩))
    · intro hcase
      have hcontent := hcase.resolve_left (not_not_intro h)
      exact ⟨fun _ => lsiCreated_of_returns h ((returns_createLsi h).mpr hcontent),
        fun hnot => absurd hcontent hnot⟩
  · have hcreate := createSwitch_of_not_creatable h
    have hthrows : ¬ (createSwitch dpid (toString dpid.val) m.constructed).Returns n.resources := by
      rw [Call.Returns, hcreate]
      simp
    have hports : createSwitchWithPorts dpid m.constructed m.ports n.resources =
        (some (), n.resources) := by
      rw [createSwitchWithPorts, Call.andThen_of_throws hthrows, hcreate]
    have hnot : ¬ ((createSwitchWithPorts dpid m.constructed m.ports).rethrow fun _ =>
        Reply.error "create-lsi" "error during the creation of the LSI").Returns n.resources := by
      rw [Call.returns_rethrow, Call.Returns, hports]
      simp
    have hfails : ¬ (createLsi m dpid).Returns n.resources :=
      fun hreturns => hnot (Call.returns_andThen.mp hreturns).1
    have hsame : (createLsi m dpid n.resources).2 = n.resources := by
      rw [createLsi, Call.andThen_of_throws hnot]
      exact congrArg Prod.snd hports
    exact ⟨fun _ => .inl h, fun _ => ⟨fun hreturns => absurd hreturns hfails, fun _ => hsame⟩⟩

end Create

/-! ## The result -/

/-- A request that is refused changes nothing. -/
lemma faithful_refused {n : Node} {command message : String} {Took : Resources → Prop} :
    Faithful (.error command message, n) n.resources Took := rfl

lemma allOrNothing_of_refused {n : Node} {r : Request} {command message : String}
    (h : processCommand n r = (.error command message, n)) : AllOrNothing n r := by
  rw [AllOrNothing, h]
  exact faithful_refused

lemma allOrNothing_createLsi (n : Node) (m : CreateLsi) :
    AllOrNothing n (.createLsi m) ↔ NothingToUndo n (.createLsi m) := by
  rw [AllOrNothing, processCommand, NothingToUndo]
  cases hrefusal : m.refusal with
  | some text => exact iff_of_true rfl (.inl (Option.some_ne_none text))
  | none =>
      refine Iff.trans ?_ (or_iff_right (not_not_intro rfl)).symm
      exact faithful_createLsi (n := { n with nextDpid := n.nextDpid + 1 })

lemma allOrNothing_createNfPorts (n : Node) (lsiId : Option Dpid) (fs : List NetworkFunction) :
    AllOrNothing n (.createNfPorts lsiId fs) ↔ NothingToUndo n (.createNfPorts lsiId fs) := by
  cases hrefusal : fs.findSome? (·.refusal "create-nf-ports") with
  | some text =>
      have hanswer : processCommand n (.createNfPorts lsiId fs) =
          (.error "create-nfs-ports" text, n) := by
        dsimp only [processCommand]
        rw [hrefusal]
      refine iff_of_true (allOrNothing_of_refused hanswer) ?_
      cases lsiId with
      | none => trivial
      | some dpid =>
          refine .inl ?_
          rw [hrefusal]
          exact Option.some_ne_none text
  | none =>
      cases lsiId with
      | none =>
          have hanswer : processCommand n (.createNfPorts none fs) =
              (.error "create-nfs-ports" "Command without lsi-id", n) := by
            dsimp only [processCommand]
            rw [hrefusal]
          exact iff_of_true (allOrNothing_of_refused hanswer) trivial
      | some dpid =>
          have hanswer : processCommand n (.createNfPorts (some dpid) fs) =
              n.respond "create-nfs-ports" (createNfPorts dpid (nfPorts dpid fs)) := by
            dsimp only [processCommand]
            rw [hrefusal]
          rw [AllOrNothing, hanswer]
          exact faithful_createNfPorts.trans (or_iff_right (not_not_intro hrefusal)).symm

lemma allOrNothing_destroyNfPorts (n : Node) (lsiId : Option Dpid)
    (ports : Option (List NfPortDestroy)) :
    AllOrNothing n (.destroyNfPorts lsiId ports) ↔
      NothingToUndo n (.destroyNfPorts lsiId ports) := by
  cases lsiId with
  | none => rcases ports with - | - | ⟨p, ports⟩ <;> exact iff_of_true rfl trivial
  | some dpid =>
      rcases ports with - | - | ⟨p, ports⟩
      · exact iff_of_true rfl trivial
      · exact iff_of_true rfl (.inl ⟨List.forall_mem_nil _, .nil⟩)
      · exact faithful_destroyNfPorts

lemma allOrNothing_createVirtualLinks (n : Node) (links : VirtualLinks) (lsiA lsiB : Option Dpid) :
    AllOrNothing n (.createVirtualLinks links lsiA lsiB) ↔
      NothingToUndo n (.createVirtualLinks links lsiA lsiB) := by
  by_cases hcomplete : ∃ number dpidA dpidB, links.number = some number ∧ lsiA = some dpidA ∧
      lsiB = some dpidB
  · obtain ⟨number, dpidA, dpidB, hnumber, rfl, rfl⟩ := hcomplete
    have hanswer : processCommand n (.createVirtualLinks links (some dpidA) (some dpidB)) =
        n.respond "create-virtual-links"
          (createLinks "create-virtual-links" dpidA dpidB links.links) := by
      dsimp only [processCommand]
      rw [hnumber]
    rw [AllOrNothing, hanswer]
    refine faithful_createLinks.trans (or_iff_right ?_).symm
    rw [hnumber]
    exact Option.some_ne_none number
  · obtain ⟨message, hanswer⟩ : ∃ message, processCommand n (.createVirtualLinks links lsiA lsiB) =
        (.error "create-virtual-links" message, n) := by
      dsimp only [processCommand]
      split
      next hnumber => exact absurd ⟨_, _, _, hnumber, rfl, rfl⟩ hcomplete
      · exact ⟨_, rfl⟩
    refine iff_of_true (allOrNothing_of_refused hanswer) ?_
    rcases lsiA with - | dpidA
    · trivial
    · rcases lsiB with - | dpidB
      · trivial
      · refine .inl (Option.eq_none_iff_forall_ne_some.mpr fun number hnumber => ?_)
        exact hcomplete ⟨number, dpidA, dpidB, hnumber, rfl, rfl⟩

lemma allOrNothing_destroyVirtualLinks (n : Node) (links : Option (List LinkEnd)) :
    AllOrNothing n (.destroyVirtualLinks links) ↔ NothingToUndo n (.destroyVirtualLinks links) := by
  rcases links with - | - | ⟨l, links⟩
  · exact iff_of_true rfl trivial
  · exact iff_of_true rfl (.inr ⟨List.forall_mem_nil _, .nil⟩)
  · rw [AllOrNothing]
    dsimp only [processCommand]
    split
    next hrefused => exact iff_of_true faithful_refused (.inl hrefused)
    next hcomplete => exact faithful_destroyVirtualLinks.trans (or_iff_right hcomplete).symm

/-- **All or nothing.**  A request is carried out as a whole or not at all exactly when nothing
fails once something has been changed, and no failure is passed over. -/
theorem allOrNothing_iff (n : Node) (r : Request) : AllOrNothing n r ↔ NothingToUndo n r := by
  cases r with
  | unknown => exact iff_of_true rfl trivial
  | createLsi m => exact allOrNothing_createLsi n m
  | destroyLsi lsiId snapshot destroyed =>
      cases lsiId with
      | none => exact iff_of_true rfl trivial
      | some dpid => exact faithful_destroyLsi
  | attachPhyPorts lsiId ports =>
      rcases lsiId with - | dpid
      · exact iff_of_true rfl trivial
      · rcases ports with - | ports
        · exact iff_of_true rfl trivial
        · exact faithful_attachPhyPorts
  | detachPhyPorts lsiId ports =>
      rcases lsiId with - | dpid
      · exact iff_of_true rfl trivial
      · rcases ports with - | ports
        · exact iff_of_true rfl trivial
        · exact faithful_detachPhyPorts
  | createNfPorts lsiId fs => exact allOrNothing_createNfPorts n lsiId fs
  | destroyNfPorts lsiId ports => exact allOrNothing_destroyNfPorts n lsiId ports
  | createVirtualLinks links lsiA lsiB => exact allOrNothing_createVirtualLinks n links lsiA lsiB
  | destroyVirtualLinks links => exact allOrNothing_destroyVirtualLinks n links

/-- A node with one physical port, and a message to create a switch with that port, which the driver
does not attach: the answer is an error, and the switch is there. -/
theorem not_allOrNothing : ¬ ∀ n r, AllOrNothing n r := by
  intro h
  have hsame := h
    (.init fun name => if name = "ge0" then some ⟨.physical, none⟩ else none)
    (.createLsi ⟨some "127.0.0.1", some "6633", [⟨"ge0", true, .failure, true⟩], none, [], none,
      true⟩)
  have hswitchs := congrArg Resources.switchs hsame
  exact absurd hswitchs (by decide)

end Xdpd.Management.NodeOrchestrator
