import Mathlib.Data.Set.Insert
import Xdpd.Management.ConfigNodes

/-!
# What a call of `execute` does

A call for a scope calls its hooks once, if the scope has not been processed, and goes through its
subscopes or leaves them, as the type of the scope has it.
-/

namespace Xdpd.Management.Scopes

open Xdpd.Lib Xdpd.Lib.Program

/-! ## The parts of a call -/

/-- The scopes at the paths are opened: those that have not been processed before have their hooks
called once, and no others are. -/
structure Opens (paths : Set Path) (s s' : State) : Prop where
  processed : ∀ path, s'.processed path = true ↔ s.processed path = true ∨ path ∈ paths
  grows : s.log <+: s'.log
  once : ∀ e : Event, e.path ∈ paths → s.processed e.path = false →
    s'.log.count e = s.log.count e + 1
  others : ∀ e : Event, e.path ∉ paths ∨ s.processed e.path = true →
    s'.log.count e = s.log.count e
  kept : ∀ p entry, s.prioritySubScopes p = some entry → s'.prioritySubScopes p = some entry

namespace Opens

variable {A B : Set Path} {s s' s'' : State}

lemma refl (s : State) : Opens ∅ s s where
  processed path := by simp
  grows := List.prefix_rfl
  once _ h := h.elim
  others _ _ := rfl
  kept _ _ h := h

lemma trans (h : Opens A s s') (h' : Opens B s' s'') : Opens (A ∪ B) s s'' where
  processed path := by rw [h'.processed, h.processed, or_assoc, Set.mem_union]
  grows := h.grows.trans h'.grows
  once e he hnot := by
    by_cases hA : e.path ∈ A
    · rw [h'.others e (.inr ((h.processed e.path).mpr (.inr hA))), h.once e hA hnot]
    · have hnot' : s'.processed e.path = false := by
        rw [← Bool.not_eq_true, h.processed, not_or]
        exact ⟨by simp [hnot], hA⟩
      rw [h'.once e (he.resolve_left hA) hnot', h.others e (.inl hA)]
  others e he := by
    rw [Set.mem_union, not_or] at he
    rcases he with ⟨hA, hB⟩ | hdone
    · rw [h'.others e (.inl hB), h.others e (.inl hA)]
    · rw [h'.others e (.inr ((h.processed e.path).mpr (.inl hdone))), h.others e (.inr hdone)]
  kept p entry hp := h'.kept p entry (h.kept p entry hp)

lemma congr (h : Opens A s s') (hAB : A = B) : Opens B s s' := hAB ▸ h

/-- Nothing is opened again. -/
lemma insert (h : Opens A s s') {path : Path} (hdone : s.processed path = true) :
    Opens (insert path A) s s' where
  processed path' := by
    rw [h.processed, Set.mem_insert_iff]
    constructor
    · exact Or.imp_right .inr
    · rintro (hpath | rfl | hpath)
      · exact .inl hpath
      · exact .inl hdone
      · exact .inr hpath
  grows := h.grows
  once e he hnew := by
    refine h.once e (he.resolve_left fun heq => ?_) hnew
    rw [heq, hdone] at hnew
    cases hnew
  others e he := h.others e (he.imp_left fun hnot hmem => hnot (.inr hmem))
  kept := h.kept

end Opens

/-- The hook `pre_validate` of the scope has been called. -/
structure Entered (n : Node) (s s' : State) : Prop where
  processed : s'.processed = s.processed
  log : s'.log = s.log ++ [.preValidate n.path]
  map : ∀ p entry, s'.prioritySubScopes p = some entry ↔
    s.prioritySubScopes p = some entry ∨ (p, entry) ∈ n.hookEntries

/-- The hook `post_validate` of the scope has been called. -/
def State.leave (s : State) (n : Node) : State :=
  { s with
    log := s.log ++ [.postValidate n.path]
    processed := Function.update s.processed n.path true }

lemma Event.eq_of_path {e : Event} {path : Path} (h : e.path = path) :
    e = .preValidate path ∨ e = .postValidate path := by
  cases e with
  | preValidate path' => exact .inl (congrArg Event.preValidate h)
  | postValidate path' => exact .inr (congrArg Event.postValidate h)

/-- A scope with those that it goes through between its hooks. -/
lemma Entered.opens {n : Node} {s s₁ s₂ : State} {A : Set Path} (h : Entered n s s₁)
    (h' : Opens A s₁ s₂) (hnot : s.processed n.path = false) (hA : n.path ∉ A) :
    Opens (insert n.path A) s (s₂.leave n) := by
  have hlog : ∀ e : Event, (s₂.leave n).log.count e =
      s₂.log.count e + [Event.postValidate n.path].count e := fun e => List.count_append ..
  have hlog₁ : ∀ e : Event, s₁.log.count e =
      s.log.count e + [Event.preValidate n.path].count e := by
    intro e
    rw [h.log, List.count_append]
  have hother : ∀ e : Event, e.path ≠ n.path → [Event.postValidate n.path].count e = 0 ∧
      [Event.preValidate n.path].count e = 0 := by
    intro e hne
    constructor <;>
    · refine List.count_eq_zero.mpr fun hmem => hne ?_
      rw [List.mem_singleton.mp hmem]
      rfl
  refine ⟨fun path => ?_, ?_, fun e he hnew => ?_, fun e he => ?_, fun p entry hp => ?_⟩
  · have hprocessed := h'.processed path
    rw [h.processed] at hprocessed
    by_cases heq : path = n.path
    · simp [State.leave, heq]
    · simp [State.leave, heq, hprocessed]
  · refine List.IsPrefix.trans ?_ (h'.grows.trans (List.prefix_append _ _))
    rw [h.log]
    exact List.prefix_append _ _
  · rw [hlog]
    by_cases hself : e.path = n.path
    · rw [h'.others e (.inl (hself ▸ hA)), hlog₁]
      rcases Event.eq_of_path hself with rfl | rfl <;> simp
    · have hmem := (Set.mem_insert_iff.mp he).resolve_left hself
      rw [h'.once e hmem (by rw [h.processed]; exact hnew), hlog₁, (hother e hself).1,
        (hother e hself).2]
  · have hself : e.path ≠ n.path := by
      rintro hself
      rcases he with hnotin | hdone
      · exact hnotin (hself ▸ Set.mem_insert n.path A)
      · rw [hself, hnot] at hdone
        cases hdone
    have he' : e.path ∉ A ∨ s₁.processed e.path = true := by
      rw [h.processed]
      exact he.imp_left fun hnotin hmem => hnotin (Set.mem_insert_of_mem _ hmem)
    rw [hlog, h'.others e he', hlog₁, (hother e hself).1, (hother e hself).2]
    rfl
  · exact h'.kept p entry ((h.map p entry).mpr (.inl hp))

/-- What holds of the scopes that have been processed. -/
structure Inv (config : Config) (tree : ScopeTree) (s : State) : Prop where
  logged : ∀ n ∈ tree.nodes config, s.processed n.path = true → ∀ e ∈ n.events, e ∈ s.log
  hooked : ∀ n ∈ tree.nodes config, s.processed n.path = true →
    ∀ x ∈ n.hookEntries, s.prioritySubScopes x.1 = some x.2
  registered : ∀ p entry, s.prioritySubScopes p = some entry →
    (p, entry) ∈ tree.root.entries [] none ∨
      ∃ u ∈ tree.nodes config, (p, entry) ∈ u.hookEntries ∧ .preValidate u.path ∈ s.log
  childrenFirst : ∀ n ∈ tree.nodes config, n.decl.type = .normal → s.processed n.path = true →
    ∀ m ∈ tree.nodes config, n.IsChild m → ∀ e ∈ m.events,
      Before s.log e (.postValidate n.path)
  checked : ∀ n ∈ tree.nodes config, s.processed n.path = true →
    (n.path ≠ [] → n.ElementsDeclared config) ∧ n.ParametersPresent config

section Inv

variable {config : Config} {tree : ScopeTree} {s s' : State} {n m : Node}

lemma node_eq_of_path (hn : n ∈ tree.nodes config) (hm : m ∈ tree.nodes config)
    (hpath : n.path = m.path) : n = m :=
  eq_of_path tree.distinct hn hm hpath

lemma has_of_mem_nodes (hn : n ∈ tree.nodes config) : config.has n.path = true := by
  refine has_of_mem ?_ hn
  obtain ⟨members, hroot⟩ := config.root
  rw [Config.has, hroot]
  rfl

lemma Inv.entered (h : Inv config tree s) (hn : n ∈ tree.nodes config) (he : Entered n s s') :
    Inv config tree s' where
  logged m hm hdone e hmem := by
    rw [he.processed] at hdone
    rw [he.log]
    exact List.mem_append_left _ (h.logged m hm hdone e hmem)
  hooked m hm hdone x hx := by
    rw [he.processed] at hdone
    exact (he.map x.1 x.2).mpr (.inl (h.hooked m hm hdone x hx))
  registered p entry hp := by
    rw [he.log]
    rcases (he.map p entry).mp hp with hp | hp
    · refine (h.registered p entry hp).imp_right ?_
      rintro ⟨u, hu, hmem, hlog⟩
      exact ⟨u, hu, hmem, List.mem_append_left _ hlog⟩
    · exact .inr ⟨n, hn, hp, List.mem_append_right _ List.mem_cons_self⟩
  childrenFirst m hm hnormal hdone c hc hchild e hmem := by
    rw [he.processed] at hdone
    rw [he.log]
    exact (h.childrenFirst m hm hnormal hdone c hc hchild e hmem).append _
  checked m hm hdone := by
    rw [he.processed] at hdone
    exact h.checked m hm hdone

lemma Inv.leave (h : Inv config tree s) (hn : n ∈ tree.nodes config)
    (hpre : .preValidate n.path ∈ s.log)
    (hhooked : ∀ x ∈ n.hookEntries, s.prioritySubScopes x.1 = some x.2)
    (hchecked : (n.path ≠ [] → n.ElementsDeclared config) ∧ n.ParametersPresent config)
    (hchildren : n.decl.type = .normal → ∀ m ∈ tree.nodes config, n.IsChild m →
      s.processed m.path = true) : Inv config tree (s.leave n) := by
  have hcases : ∀ m ∈ tree.nodes config, (s.leave n).processed m.path = true →
      m = n ∨ s.processed m.path = true := by
    intro m hm hdone
    by_cases heq : m.path = n.path
    · exact .inl (node_eq_of_path hm hn heq)
    · exact .inr (by simpa [State.leave, heq] using hdone)
  refine ⟨fun m hm hdone e hmem => ?_, fun m hm hdone x hx => ?_, fun p entry hp => ?_,
    fun m hm hnormal hdone c hc hchild e hmem => ?_, fun m hm hdone => ?_⟩
  · rcases hcases m hm hdone with rfl | hdone
    · rcases List.mem_cons.mp hmem with rfl | hmem
      · exact List.mem_append_left _ hpre
      · rw [List.mem_singleton.mp hmem]
        exact List.mem_append_right _ List.mem_cons_self
    · exact List.mem_append_left _ (h.logged m hm hdone e hmem)
  · rcases hcases m hm hdone with rfl | hdone
    · exact hhooked x hx
    · exact h.hooked m hm hdone x hx
  · refine (h.registered p entry hp).imp_right ?_
    rintro ⟨u, hu, hmem, hlog⟩
    exact ⟨u, hu, hmem, List.mem_append_left _ hlog⟩
  · rcases hcases m hm hdone with rfl | hdone
    · exact before_append (h.logged c hc (hchildren hnormal c hc hchild) e hmem)
        List.mem_cons_self
    · exact (h.childrenFirst m hm hnormal hdone c hc hchild e hmem).append _
  · rcases hcases m hm hdone with rfl | hdone
    · exact hchecked
    · exact h.checked m hm hdone

end Inv

/-! ## The checks and the registrations -/

/-- No scope throws what the loop over the priorities catches. -/
def Raised (e : Exception) (_ : State) : Prop := e ≠ .settingNotFoundException

/-- The map has the entries, and what it had. -/
structure Registers (entries : List (ℕ × Entry)) (s s' : State) : Prop where
  processed : s'.processed = s.processed
  registered : s'.registered = s.registered
  log : s'.log = s.log
  map : ∀ p entry, s'.prioritySubScopes p = some entry ↔
    s.prioritySubScopes p = some entry ∨ (p, entry) ∈ entries

lemma wp_registerAll (entries : List (ℕ × Entry)) (s : State) :
    wp (registerAll entries) (fun _ s' => Registers entries s s') Raised s := by
  induction entries generalizing s with
  | nil => exact ⟨rfl, rfl, rfl, fun p entry => by simp⟩
  | cons x entries ih =>
      simp only [registerAll, registerPriority, wp_bind, wp_read, wp_ite, wp_throw, wp_update]
      refine ⟨fun _ h => Exception.noConfusion h, fun hfree => ?_⟩
      refine wp_mono (ih _) (fun _ s' h => ?_) fun _ _ h => h
      refine ⟨h.processed, h.registered, h.log, fun p entry => ?_⟩
      rw [h.map, List.mem_cons]
      obtain ⟨q, entry'⟩ := x
      by_cases hp : p = q
      · subst hp
        have hnone : s.prioritySubScopes p = none := by simpa using hfree
        simp [hnone, eq_comm]
      · simp [hp]

section Calls

variable {throws : Event → Option Exception} {config : Config} {tree : ScopeTree}

lemma wp_callHook {e : Event} (hreturns : throws e = none) {R : Unit → State → Prop}
    {E : Exception → State → Prop} {s : State} :
    wp (callHook throws e) R E s ↔ R () { s with log := s.log ++ [e] } := by
  rw [callHook, hreturns]
  rfl

/-- The hook `pre_validate` and the checks after it. -/
def enter (throws : Event → Option Exception) (config : Config) (n : Node) : Operation := do
  preValidate throws n.path n.scope.hooked
  checkElements config n.path n.decl n.scope.children
  checkParameters config n.path n.decl

lemma wp_preValidate (n : Node) (hreturns : ∀ e ∈ n.events, throws e = none) (s : State) :
    wp (preValidate throws n.path n.scope.hooked) (fun _ s' => Entered n s s') Raised s := by
  simp only [preValidate, wp_bind, wp_read, wp_ite, wp_throw, wp_update]
  refine ⟨fun _ h => Exception.noConfusion h, fun _ => ?_⟩
  refine wp_mono (wp_registerAll _ _) (fun _ s' h => ?_) fun _ _ h => h
  rw [wp_callHook (hreturns _ List.mem_cons_self)]
  exact ⟨h.processed, congrArg (· ++ _) h.log, h.map⟩

lemma wp_checkElements (n : Node) (s : State) :
    wp (checkElements config n.path n.decl n.scope.children)
      (fun _ s' => s' = s ∧ n.ElementsDeclared config) Raised s := by
  unfold checkElements Node.ElementsDeclared
  rw [wp_ite]
  refine ⟨fun hempty => ⟨rfl, .inl (by simpa using hempty)⟩, fun _ => ?_⟩
  cases hlookup : config.lookup n.path with
  | none => exact ⟨rfl, .inr trivial⟩
  | some shape =>
      cases shape with
      | group members =>
          simp only [wp_ite, wp_throw, wp_pure]
          refine ⟨fun hall => ⟨trivial, .inr ?_⟩, fun _ h => Exception.noConfusion h⟩
          simpa using hall
      | list length =>
          simp only [wp_ite, wp_throw, wp_pure]
          exact ⟨fun hlength => ⟨trivial, .inr hlength⟩, fun _ h => Exception.noConfusion h⟩
      | scalar => exact ⟨rfl, .inr trivial⟩

lemma wp_checkParameters (n : Node) (s : State) :
    wp (checkParameters config n.path n.decl)
      (fun _ s' => s' = s ∧ n.ParametersPresent config) Raised s := by
  simp only [checkParameters, wp_ite, wp_throw, wp_pure]
  refine ⟨fun hall => ⟨trivial, fun parameter hmem hmandatory => ?_⟩,
    fun _ h => Exception.noConfusion h⟩
  have hparameter := List.all_eq_true.mp hall parameter hmem
  simpa [hmandatory] using hparameter

lemma wp_enter (n : Node) (hreturns : ∀ e ∈ n.events, throws e = none) (s : State) :
    wp (enter throws config n) (fun _ s' => Entered n s s' ∧ n.ElementsDeclared config ∧
      n.ParametersPresent config) Raised s := by
  rw [enter, wp_bind]
  refine wp_mono (wp_preValidate n hreturns s) (fun _ s₁ hentered => ?_) fun _ _ h => h
  rw [wp_bind]
  refine wp_mono (wp_checkElements n s₁) ?_ fun _ _ h => h
  rintro _ _ ⟨rfl, hdeclared⟩
  refine wp_mono (wp_checkParameters n _) ?_ fun _ _ h => h
  rintro _ _ ⟨rfl, hpresent⟩
  exact ⟨hentered, hdeclared, hpresent⟩

/-! ## The calls -/

/-- The loops over the subscopes. -/
def walk (throws : Event → Option Exception) (config : Config) (n : Node) : Operation := do
  executeAll throws config n.path n.scope.subScopes
  executeAll throws config n.path n.scope.hooked

/-- The hook `post_validate`, if the scope has not been processed. -/
def finish (throws : Event → Option Exception) (n : Node) : Operation := do
  let processed ← read fun s : State => s.processed n.path
  if processed then pure ()
  else do
    callHook throws (.postValidate n.path)
    update fun s => { s with processed := Function.update s.processed n.path true }

/-- What a call does after the checks. -/
def proceed (throws : Event → Option Exception) (config : Config) (n : Node)
    (priority_call : Bool) : Operation := do
  if priority_call = n.decl.type.isTaint then walk throws config n else pure ()
  finish throws n

lemma execute_eq (n : Node) (priority_call : Bool) :
    execute throws config n.path priority_call n.scope = (do
      let processed ← read fun s : State => s.processed n.path
      if processed && n.decl.type.isTaint then pure ()
      else if processed then proceed throws config n priority_call
      else do
        enter throws config n
        proceed throws config n priority_call) := by
  obtain ⟨path, scope, around, registrar⟩ := n
  cases scope with
  | mk decl subScopes hooked =>
      rw [execute]
      simp only [proceed, walk, enter, finish, bind_assoc]
      rfl

lemma wp_finish {n : Node} (hreturns : ∀ e ∈ n.events, throws e = none) {s : State}
    (hfresh : s.processed n.path = false) {R : Unit → State → Prop}
    {E : Exception → State → Prop} :
    wp (finish throws n) R E s ↔ R () (s.leave n) := by
  rw [finish, wp_bind, wp_read, hfresh, if_neg Bool.false_ne_true, wp_bind,
    wp_callHook (hreturns _ (List.mem_cons_of_mem _ List.mem_cons_self))]
  rfl

lemma wp_finish_of_processed {n : Node} {s : State} (hdone : s.processed n.path = true)
    {R : Unit → State → Prop} {E : Exception → State → Prop} :
    wp (finish throws n) R E s ↔ R () s := by
  rw [finish, wp_bind, wp_read, hdone, if_pos rfl, wp_pure]

lemma wp_proceed {n : Node} {s : State} {priority_call : Bool} {R : Unit → State → Prop}
    {E : Exception → State → Prop} :
    wp (proceed throws config n priority_call) R E s ↔
      if priority_call = n.decl.type.isTaint then
        wp (walk throws config n) (fun _ => wp (finish throws n) R E) E s
      else wp (finish throws n) R E s := by
  rw [proceed]
  by_cases hgoes : priority_call = n.decl.type.isTaint
  · rw [if_pos hgoes, if_pos hgoes, wp_bind]
  · rw [if_neg hgoes, if_neg hgoes]

/-- The paths of some nodes. -/
def paths (nodes : List Node) : Set Path := {path | ∃ m ∈ nodes, m.path = path}

lemma paths_nil : paths [] = ∅ := by simp [paths]

lemma paths_cons (n : Node) (nodes : List Node) :
    paths (n :: nodes) = insert n.path (paths nodes) := by
  ext path
  simp [paths, eq_comm]

lemma paths_append (nodes nodes' : List Node) :
    paths (nodes ++ nodes') = paths nodes ∪ paths nodes' := by
  ext path
  simp [paths, or_and_right, exists_or]

lemma path_notMem_region (n : Node) : n.path ∉ paths (n.region config) := by
  rintro ⟨m, hm, hpath⟩
  exact path_ne_of_mem_below (mem_region.mp hm).1 hpath

/-- A call has gone through the nodes. -/
structure Walked (config : Config) (tree : ScopeTree) (nodes : List Node) (s s' : State) :
    Prop where
  inv : Inv config tree s'
  opens : Opens (paths nodes) s s'
  present : ∀ m ∈ nodes, m.decl.type.isTaint = false → m.SubscopesPresent config

lemma Walked.refl {s : State} (h : Inv config tree s) : Walked config tree [] s s where
  inv := h
  opens := (Opens.refl s).congr paths_nil.symm
  present := nofun

lemma Walked.trans {nodes nodes' : List Node} {s s' s'' : State}
    (h : Walked config tree nodes s s') (h' : Walked config tree nodes' s' s'') :
    Walked config tree (nodes ++ nodes') s s'' where
  inv := h'.inv
  opens := (h.opens.trans h'.opens).congr (paths_append nodes nodes').symm
  present m hm := (List.mem_append.mp hm).elim (h.present m) (h'.present m)

/-- The nodes that a call goes through which opens the node. -/
def Node.spans (config : Config) (goes : Bool) (n : Node) : List Node :=
  n :: if goes then n.region config else []

/-- The hooks of a node have been called, and those of the nodes that it goes through in between. -/
structure Opened (config : Config) (tree : ScopeTree) (goes : Bool) (n : Node) (s s' : State) :
    Prop where
  fresh : s.processed n.path = false
  inv : Inv config tree s'
  opens : Opens (paths (n.spans config goes)) s s'
  log : ∃ calls, s'.log = s.log ++ .preValidate n.path :: (calls ++ [.postValidate n.path])
  present : goes = true → n.SubscopesPresent config ∧
    ∀ m ∈ n.region config, m.decl.type.isTaint = false → m.SubscopesPresent config

variable {n : Node} {s s₁ s₂ : State}

lemma Opened.of_walked {goes : Bool} (hn : n ∈ tree.nodes config)
    (hfresh : s.processed n.path = false) (hentered : Entered n s s₁)
    (hchecked : (n.path ≠ [] → n.ElementsDeclared config) ∧ n.ParametersPresent config)
    (hgoes : n.decl.type = .normal → goes = true)
    (hwalked : Walked config tree (if goes then n.region config else []) s₁ s₂)
    (hpresent : goes = true → n.SubscopesPresent config) :
    Opened config tree goes n s (s₂.leave n) := by
  have hmem : Event.preValidate n.path ∈ s₂.log := by
    refine hwalked.opens.grows.subset ?_
    rw [hentered.log]
    exact List.mem_append_right _ List.mem_cons_self
  have hnot : n.path ∉ paths (if goes then n.region config else []) := by
    cases goes with
    | false => simp [paths]
    | true => exact path_notMem_region n
  refine ⟨hfresh, ?_, ?_, ?_, fun hgoes' => ⟨hpresent hgoes', fun m hm => ?_⟩⟩
  · refine hwalked.inv.leave hn hmem (fun x hx => ?_) hchecked fun hnormal m hm hchild => ?_
    · exact hwalked.opens.kept _ _ ((hentered.map x.1 x.2).mpr (.inr hx))
    · -- The call has gone through the subscopes.
      obtain ⟨sc, hsc, hpath⟩ := hchild
      refine (hwalked.opens.processed m.path).mpr (.inr ?_)
      rw [hgoes hnormal, if_pos rfl]
      obtain ⟨registrar, hbelow⟩ := child_mem_below hsc (hpath ▸ has_of_mem_nodes hm)
      exact ⟨_, mem_region.mpr ⟨hbelow, rfl⟩, hpath.symm⟩
  · rw [Node.spans, paths_cons]
    exact hentered.opens hwalked.opens hfresh hnot
  · obtain ⟨calls, hcalls⟩ := hwalked.opens.grows
    refine ⟨calls, ?_⟩
    rw [State.leave, ← hcalls, hentered.log]
    simp
  · rw [hgoes', if_pos rfl] at hwalked
    exact hwalked.present m hm

/-- A call for a scope that has not been processed. -/
lemma wp_execute_of_fresh (hn : n ∈ tree.nodes config) (hs : Inv config tree s)
    (hreturns : ∀ e ∈ n.events, throws e = none) (hfresh : s.processed n.path = false)
    {priority_call : Bool} (hcall : n.decl.type = .normal → priority_call = false)
    (hwalk : priority_call = n.decl.type.isTaint → ∀ s₁, Inv config tree s₁ →
      wp (walk throws config n) (fun _ s₂ => Walked config tree (n.region config) s₁ s₂ ∧
        n.SubscopesPresent config) Raised s₁) :
    wp (execute throws config n.path priority_call n.scope)
      (fun _ s' => Opened config tree (priority_call == n.decl.type.isTaint) n s s') Raised s := by
  rw [execute_eq, wp_bind, wp_read, hfresh, Bool.false_and, if_neg Bool.false_ne_true,
    if_neg Bool.false_ne_true, wp_bind]
  refine wp_mono (wp_enter n hreturns s) ?_ fun _ _ h => h
  rintro _ s₁ ⟨hentered, hdeclared, hpresent⟩
  have hinv := hs.entered hn hentered
  have hfresh₁ : s₁.processed n.path = false := by rw [hentered.processed, hfresh]
  rw [wp_proceed]
  by_cases hgoes : priority_call = n.decl.type.isTaint
  · rw [if_pos hgoes, beq_iff_eq.mpr hgoes]
    refine wp_mono (hwalk hgoes s₁ hinv) ?_ fun _ _ h => h
    rintro _ s₂ ⟨hwalked, hsubscopes⟩
    have hfresh₂ : s₂.processed n.path = false := by
      rw [← Bool.not_eq_true, hwalked.opens.processed, hfresh₁]
      simp [path_notMem_region]
    rw [wp_finish hreturns hfresh₂]
    exact .of_walked hn hfresh hentered ⟨fun _ => hdeclared, hpresent⟩ (fun _ => rfl) hwalked
      fun _ => hsubscopes
  · rw [if_neg hgoes, beq_eq_false_iff_ne.mpr hgoes, wp_finish hreturns hfresh₁]
    refine .of_walked hn hfresh hentered ⟨fun _ => hdeclared, hpresent⟩ (fun hnormal => ?_)
      (.refl hinv) nofun
    refine absurd ?_ hgoes
    rw [hcall hnormal, hnormal]
    rfl

/-- The loop over the subscopes, from what the calls for them do. -/
lemma wp_executeAll {path : Path} {around : Option (Path × ℕ)} {registrar : Option Path}
    {scs : List Scope}
    (h : ∀ sc ∈ scs, config.has (path ++ [sc.decl.name]) = true → ∀ s, Inv config tree s →
      wp (execute throws config (path ++ [sc.decl.name]) false sc)
        (fun _ s' => Walked config tree
          (Node.reach config ⟨path ++ [sc.decl.name], sc, around, registrar⟩) s s') Raised s)
    (hs : Inv config tree s) :
    wp (executeAll throws config path scs) (fun _ s' =>
      Walked config tree
        ((nodesAll config path around registrar scs).filter fun m => m.around = around) s s' ∧
      ∀ sc ∈ scs, sc.decl.mandatory = true → config.isGroup (path ++ [sc.decl.name]) = true)
      Raised s := by
  induction scs generalizing s with
  | nil =>
      rw [executeAll]
      exact ⟨.refl hs, nofun⟩
  | cons sc scs ih =>
      have ih' := fun s₁ => ih (s := s₁) fun sc' hsc' => h sc' (List.mem_cons_of_mem _ hsc')
      rw [executeAll, nodesAll, List.filter_append]
      by_cases hthrows : (sc.decl.mandatory && !config.isGroup (path ++ [sc.decl.name])) = true
      · rw [if_pos hthrows, wp_bind, wp_throw]
        exact fun h => Exception.noConfusion h
      have hmandatory : sc.decl.mandatory = true →
          config.isGroup (path ++ [sc.decl.name]) = true := by
        intro hmandatory
        simpa [hmandatory] using hthrows
      rw [if_neg hthrows]
      by_cases hhas : config.has (path ++ [sc.decl.name]) = true
      · rw [if_pos hhas, if_pos hhas, wp_bind]
        refine wp_mono (h sc List.mem_cons_self hhas s hs) (fun _ s₁ hwalked => ?_) fun _ _ h => h
        refine wp_mono (ih' s₁ hwalked.inv) ?_ fun _ _ h => h
        rintro _ s₂ ⟨hwalked', hall⟩
        exact ⟨hwalked.trans hwalked', List.forall_mem_cons.mpr ⟨hmandatory, hall⟩⟩
      · rw [if_neg hhas, if_neg hhas, List.filter_nil, List.nil_append]
        refine wp_mono (ih' s hs) ?_ fun _ _ h => h
        rintro _ s₂ ⟨hwalked, hall⟩
        exact ⟨hwalked, List.forall_mem_cons.mpr ⟨hmandatory, hall⟩⟩

/-- What the tree calls for the subscopes of a node are to do. -/
def ChildCalls (throws : Event → Option Exception) (config : Config) (tree : ScopeTree)
    (n : Node) (registrar : Option Path) (scs : List Scope) : Prop :=
  ∀ sc ∈ scs, config.has (n.path ++ [sc.decl.name]) = true → ∀ s, Inv config tree s →
    wp (execute throws config (n.path ++ [sc.decl.name]) false sc)
      (fun _ s' => Walked config tree
        (Node.reach config ⟨n.path ++ [sc.decl.name], sc, n.inner, registrar⟩) s s') Raised s

lemma wp_walk_of (hsubs : ChildCalls throws config tree n n.registrar n.scope.subScopes)
    (hhooked : ChildCalls throws config tree n (some n.path) n.scope.hooked)
    (hs : Inv config tree s) :
    wp (walk throws config n) (fun _ s' => Walked config tree (n.region config) s s' ∧
      n.SubscopesPresent config) Raised s := by
  rw [walk, wp_bind]
  refine wp_mono (wp_executeAll hsubs hs) ?_ fun _ _ h => h
  rintro _ s₁ ⟨hwalked, hall⟩
  refine wp_mono (wp_executeAll hhooked hwalked.inv) ?_ fun _ _ h => h
  rintro _ s₂ ⟨hwalked', hall'⟩
  refine ⟨?_, fun sc hsc => (mem_children_iff.mp hsc).elim (hall sc) (hall' sc)⟩
  rw [Node.region, Node.below, List.filter_append]
  exact hwalked.trans hwalked'

lemma around_lt_of_mem (hn : n ∈ tree.nodes config) :
    ∀ t ∈ n.around, t.1.length < n.path.length :=
  around_lt (fun _ ht => (Option.not_mem_none _ ht).elim) hn

/-- A tree call goes through a node, and through what is below it unless it is a taint scope. -/
lemma wp_execute_of (hn : n ∈ tree.nodes config) (hreturns : ∀ e ∈ n.events, throws e = none)
    (hwalk : ∀ s, Inv config tree s → wp (walk throws config n)
      (fun _ s' => Walked config tree (n.region config) s s' ∧ n.SubscopesPresent config) Raised s)
    (hs : Inv config tree s) :
    wp (execute throws config n.path false n.scope)
      (fun _ s' => Walked config tree (n.reach config) s s') Raised s := by
  cases hdone : s.processed n.path with
  | false =>
      refine wp_mono (wp_execute_of_fresh hn hs hreturns hdone (fun _ => rfl) fun _ => hwalk)
        (fun _ s' hopened => ?_) fun _ _ h => h
      cases htaint : n.decl.type.isTaint with
      | true =>
          rw [htaint] at hopened
          rw [reach_of_taint (around_lt_of_mem hn) htaint]
          refine ⟨hopened.inv, hopened.opens, fun m hm hnot => ?_⟩
          rw [List.mem_singleton.mp hm, htaint] at hnot
          cases hnot
      | false =>
          rw [htaint] at hopened
          rw [reach_of_not_taint htaint]
          have hpresent := hopened.present rfl
          exact ⟨hopened.inv, hopened.opens,
            List.forall_mem_cons.mpr ⟨fun _ => hpresent.1, hpresent.2⟩⟩
  | true =>
      rw [execute_eq, wp_bind, wp_read]
      cases htaint : n.decl.type.isTaint with
      | true =>
          rw [hdone, Bool.true_and, if_pos rfl, reach_of_taint (around_lt_of_mem hn) htaint]
          refine ⟨hs, ?_, fun m hm hnot => ?_⟩
          · rw [paths_cons, paths_nil]
            exact (Opens.refl s).insert hdone
          · rw [List.mem_singleton.mp hm, htaint] at hnot
            cases hnot
      | false =>
          rw [hdone, Bool.and_false, if_neg Bool.false_ne_true, if_pos rfl, wp_proceed,
            if_pos htaint.symm, reach_of_not_taint htaint]
          refine wp_mono (hwalk s hs) ?_ fun _ _ h => h
          rintro _ s' ⟨hwalked, hsubscopes⟩
          rw [wp_finish_of_processed ((hwalked.opens.processed n.path).mpr (.inl hdone))]
          refine ⟨hwalked.inv, ?_, List.forall_mem_cons.mpr ⟨fun _ => hsubscopes, hwalked.present⟩⟩
          rw [paths_cons]
          exact hwalked.opens.insert hdone

/-- What is registered and is in the configuration belongs to a node. -/
lemma Inv.exists_node (h : Inv config tree s) {p : ℕ} {entry : Entry}
    (hentry : s.prioritySubScopes p = some entry) (hhas : config.has entry.path = true) :
    ∃ t ∈ tree.nodes config, p ∈ t.decl.type.number ∧ t.entry = entry := by
  rcases h.registered p entry hentry with hmem | ⟨u, hu, hmem, -⟩
  · exact node_of_entry hmem hhas none
  · obtain ⟨t, ht, hrest⟩ := node_of_hookEntry hmem hhas
    exact ⟨t, below_subset hu ht, hrest⟩

/-- What the turn of a priority does: the scope with it is opened, unless it has been processed or
is not there. -/
def Turned (config : Config) (tree : ScopeTree) (p : ℕ) (s s' : State) : Prop :=
  (s' = s ∧ ∀ entry, s.prioritySubScopes p = some entry → config.has entry.path = true →
    s.processed entry.path = true) ∨
  ∃ t ∈ tree.nodes config, p ∈ t.decl.type.number ∧ s.prioritySubScopes p = some t.entry ∧
    Opened config tree t.decl.type.isTaint t s s'

/-- The node of the root. -/
def ScopeTree.rootNode (tree : ScopeTree) : Node := ⟨[], tree.root, none, none⟩

lemma ScopeTree.rootNode_mem : tree.rootNode ∈ tree.nodes config := self_mem_nodes

/-- What the call for the configuration does after the turns. -/
def conclude (throws : Event → Option Exception) (config : Config) (tree : ScopeTree) :
    Operation := do
  preValidate throws tree.rootNode.path tree.rootNode.scope.hooked
  checkParameters config tree.rootNode.path tree.rootNode.decl
  walk throws config tree.rootNode
  callHook throws (.postValidate tree.rootNode.path)

lemma executeConfig_eq : executeConfig throws config tree.root = (do
    turns throws config (List.range (tree.root.numbers.foldr max 0 + 1))
    conclude throws config tree) := by
  unfold conclude walk ScopeTree.rootNode Node.decl
  simp only [bind_assoc]
  cases tree.root with
  | mk decl subScopes hooked =>
      rw [executeConfig]
      rfl

section Returns

variable (hreturns : ∀ n ∈ tree.nodes config, ∀ e ∈ n.events, throws e = none)

include hreturns

lemma wp_execute (hn : n ∈ tree.nodes config) (hs : Inv config tree s) :
    wp (execute throws config n.path false n.scope)
      (fun _ s' => Walked config tree (n.reach config) s s') Raised s := by
  revert s
  revert hn
  refine nodes_induct config
    (motive := fun path around registrar sc =>
      (⟨path, sc, around, registrar⟩ : Node) ∈ tree.nodes config → ∀ {s : State},
        Inv config tree s → wp (execute throws config path false sc)
          (fun _ s' => Walked config tree (Node.reach config ⟨path, sc, around, registrar⟩) s s')
          Raised s) ?_ n.path n.around n.registrar n.scope
  -- The induction is over the tree, for any state with the invariant.
  intro n₀ ihSubs ihHooked hn s hs
  refine wp_execute_of hn (hreturns n₀ hn) (fun s hs => wp_walk_of ?_ ?_ hs) hs
  · intro sc hsc hhas s hs
    refine ihSubs sc hsc hhas ?_ hs
    exact below_subset hn (sub_mem_below hsc hhas)
  · intro sc hsc hhas s hs
    refine ihHooked sc hsc hhas ?_ hs
    exact below_subset hn (hook_mem_below hsc hhas)

lemma wp_walk (hn : n ∈ tree.nodes config) (hs : Inv config tree s) :
    wp (walk throws config n) (fun _ s' => Walked config tree (n.region config) s s' ∧
      n.SubscopesPresent config) Raised s := by
  refine wp_walk_of (fun sc hsc hhas s hs => ?_) (fun sc hsc hhas s hs => ?_) hs
  · exact wp_execute hreturns (n := ⟨n.path ++ [sc.decl.name], sc, n.inner, n.registrar⟩)
      (below_subset hn (sub_mem_below hsc hhas)) hs
  · exact wp_execute hreturns (n := ⟨n.path ++ [sc.decl.name], sc, n.inner, some n.path⟩)
      (below_subset hn (hook_mem_below hsc hhas)) hs

/-- The priority call for a scope: one that has been processed is passed over. -/
lemma wp_execute_true (hn : n ∈ tree.nodes config) {p : ℕ} (hp : p ∈ n.decl.type.number)
    (hs : Inv config tree s) :
    wp (execute throws config n.path true n.scope)
      (fun _ s' => s' = s ∧ s.processed n.path = true ∨
        Opened config tree n.decl.type.isTaint n s s') Raised s := by
  cases hdone : s.processed n.path with
  | false =>
      have hcall : n.decl.type = .normal → true = false := by
        intro hnormal
        rw [hnormal] at hp
        cases hp
      refine wp_mono (wp_execute_of_fresh hn hs (hreturns n hn) hdone hcall
        fun _ s₁ hs₁ => wp_walk hreturns hn hs₁) (fun _ s' hopened => ?_) fun _ _ h => h
      rw [Bool.true_beq] at hopened
      exact .inr hopened
  | true =>
      rw [execute_eq, wp_bind, wp_read, hdone, Bool.true_and, if_pos rfl]
      cases htaint : n.decl.type.isTaint with
      | true => exact .inl ⟨rfl, rfl⟩
      | false =>
          rw [if_neg Bool.false_ne_true, wp_proceed, htaint, if_neg Bool.false_ne_true.symm,
            wp_finish_of_processed hdone]
          exact .inl ⟨rfl, rfl⟩

/-- The turn of a priority. -/
lemma wp_turn (hs : Inv config tree s) (p : ℕ) :
    wp (turn throws config p) (fun _ s' => Turned config tree p s s') Raised s := by
  rw [turn, wp_bind, wp_read]
  cases hentry : s.prioritySubScopes p with
  | none =>
      refine .inl ⟨rfl, fun entry h => ?_⟩
      rw [hentry] at h
      cases h
  | some entry =>
      rw [wp_tryCatch]
      by_cases hhas : config.has entry.path = true
      · obtain ⟨t, ht, hp, rfl⟩ := hs.exists_node hentry hhas
        rw [if_pos hhas]
        refine wp_mono (wp_execute_true hreturns ht hp hs) ?_ fun e _ hraised => ?_
        · rintro _ s' (⟨rfl, hdone⟩ | hopened)
          · refine .inl ⟨rfl, fun entry h _ => ?_⟩
            rw [← Option.some.inj (hentry.symm.trans h)]
            exact hdone
          · exact .inr ⟨t, ht, hp, hentry, hopened⟩
        · rw [if_neg hraised]
          exact hraised
      · rw [if_neg hhas]
        refine .inl ⟨rfl, fun entry' h hhas' => absurd hhas' ?_⟩
        rw [← Option.some.inj (hentry.symm.trans h)]
        exact hhas

/-- The root itself. -/
lemma wp_conclude (hs : Inv config tree s) (hfresh : s.processed [] = false) :
    wp (conclude throws config tree) (fun _ s' => ∃ s'', s'.log = s''.log ∧
      Opened config tree true tree.rootNode s s'') Raised s := by
  have hn : tree.rootNode ∈ tree.nodes config := tree.rootNode_mem
  have hevents := hreturns _ hn
  rw [conclude, wp_bind]
  refine wp_mono (wp_preValidate tree.rootNode hevents s) (fun _ s₁ hentered => ?_) fun _ _ h => h
  rw [wp_bind]
  refine wp_mono (wp_checkParameters tree.rootNode s₁) ?_ fun _ _ h => h
  rintro _ s₁ ⟨rfl, hpresent⟩
  rw [wp_bind]
  refine wp_mono (wp_walk hreturns hn (hs.entered hn hentered)) ?_ fun _ _ h => h
  rintro _ s₂ ⟨hwalked, hsubscopes⟩
  rw [wp_callHook (hevents _ (List.mem_cons_of_mem _ List.mem_cons_self))]
  refine ⟨s₂.leave tree.rootNode, rfl, ?_⟩
  exact .of_walked hn hfresh hentered ⟨fun hne => absurd rfl hne, hpresent⟩ (fun _ => rfl) hwalked
    fun _ => hsubscopes

end Returns

end Calls

end Xdpd.Management.Scopes
