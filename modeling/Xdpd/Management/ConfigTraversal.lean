import Mathlib.Data.List.MinMax
import Mathlib.Order.Nat
import Xdpd.Management.ConfigCalls

/-!
# What a call of `execute` goes through

A scope with a priority that is left to a taint scope around it, or that is made too late for its
turn, has its hooks called between those of another one; if it is a taint scope, then its subscopes
are not gone through.  Where this does not happen, each scope has its turn: `traversed_iff`.
-/

namespace Xdpd.Management.Scopes

open Xdpd.Lib Xdpd.Lib.Program

/-! ## The hooks that return -/

section Logged

variable {throws : Event → Option Exception} {config : Config}

/-- Only hooks that return are in the log. -/
def Logged (throws : Event → Option Exception) (s : State) : Prop :=
  ∀ e ∈ s.log, throws e = none

lemma maintains_callHook (e : Event) : Maintains (Logged throws) (callHook throws e) := by
  unfold callHook
  cases hthrows : throws e with
  | some exception => exact .throw exception
  | none =>
      refine .update fun s h e' he' => ?_
      rcases List.mem_append.mp he' with he' | he'
      · exact h e' he'
      · rw [List.mem_singleton.mp he', hthrows]

lemma maintains_registerAll (entries : List (ℕ × Entry)) :
    Maintains (Logged throws) (registerAll entries) := by
  induction entries with
  | nil => exact .pure ()
  | cons entry entries ih =>
      refine .bind (.bind (.read _) fun taken => ?_) fun _ => ih
      exact .ite (.throw _) (.update fun _ h => h)

lemma maintains_preValidate (path : Path) (hooked : List Scope) :
    Maintains (Logged throws) (preValidate throws path hooked) := by
  refine .bind (.read _) fun again => .ite (.throw _) (.bind (.update fun _ h => h) fun _ => ?_)
  exact .bind (maintains_registerAll _) fun _ => maintains_callHook _

lemma maintains_checkElements (path : Path) (decl : Decl) (children : List Scope) :
    Maintains (Logged throws) (checkElements config path decl children) := by
  refine .ite (.pure ()) ?_
  cases config.lookup path with
  | none => exact .pure ()
  | some shape =>
      cases shape with
      | group members => exact .ite (.pure ()) (.throw _)
      | list length => exact .ite (.pure ()) (.throw _)
      | scalar => exact .pure ()

lemma maintains_checkParameters (path : Path) (decl : Decl) :
    Maintains (Logged throws) (checkParameters config path decl) :=
  .ite (.pure ()) (.throw _)

lemma maintains_executeAll {scs : List Scope} (path : Path)
    (h : ∀ sc ∈ scs, ∀ path, Maintains (Logged throws) (execute throws config path false sc)) :
    Maintains (Logged throws) (executeAll throws config path scs) := by
  induction scs with
  | nil =>
      rw [executeAll]
      exact .pure ()
  | cons sc scs ih =>
      have ih' := ih fun sc' hsc' => h sc' (List.mem_cons_of_mem _ hsc')
      rw [executeAll]
      refine .ite (.bind (.throw _) fun _ => ih') (.ite ?_ ih')
      exact .bind (h sc List.mem_cons_self _) fun _ => ih'

lemma maintains_execute (sc : Scope) (path : Path) (priority_call : Bool) :
    Maintains (Logged throws) (execute throws config path priority_call sc) := by
  induction sc using Scope.induct generalizing path priority_call with
  | mk decl subScopes hooked ihSubs ihHooked =>
      let n : Node := ⟨path, .mk decl subScopes hooked, none, none⟩
      have hfinish : Maintains (Logged throws) (finish throws n) := by
        refine .bind (.read _) fun processed => .ite (.pure ()) ?_
        exact .bind (maintains_callHook _) fun _ => .update fun _ h => h
      have hproceed : Maintains (Logged throws) (proceed throws config n priority_call) := by
        refine .ite (.bind (.bind ?_ fun _ => ?_) fun _ => hfinish) hfinish
        · exact maintains_executeAll _ fun sc hsc path => ihSubs sc hsc path false
        · exact maintains_executeAll _ fun sc hsc path => ihHooked sc hsc path false
      show Maintains _ (execute throws config n.path priority_call n.scope)
      rw [execute_eq]
      refine .bind (.read _) fun processed => .ite (.pure ()) (.ite hproceed ?_)
      refine .bind (.bind (maintains_preValidate _ _) fun _ => ?_) fun _ => hproceed
      exact .bind (maintains_checkElements _ _ _) fun _ => maintains_checkParameters _ _

lemma maintains_turn (p : ℕ) : Maintains (Logged throws) (turn throws config p) := by
  refine .bind (.read _) fun entry => ?_
  cases entry with
  | none => exact .pure ()
  | some entry =>
      refine .tryCatch (.ite (maintains_execute _ _ _) (.throw _)) fun e => ?_
      exact .ite (.pure ()) (.throw _)

lemma maintains_turns (ps : List ℕ) : Maintains (Logged throws) (turns throws config ps) := by
  induction ps with
  | nil => exact .pure ()
  | cons p ps ih => exact .bind (maintains_turn p) fun _ => ih

lemma maintains_run (tree : ScopeTree) : Maintains (Logged throws) (run throws config tree) := by
  have hall : ∀ path scs, Maintains (Logged throws) (executeAll throws config path scs) :=
    fun path scs => maintains_executeAll path fun sc _ path => maintains_execute sc path false
  refine .bind (maintains_registerAll _) fun _ => ?_
  rw [executeConfig_eq]
  refine .bind (maintains_turns _) fun _ => .bind (maintains_preValidate _ _) fun _ => ?_
  refine .bind (maintains_checkParameters _ _) fun _ => ?_
  refine .bind (.bind (hall _ _) fun _ => hall _ _) fun _ => maintains_callHook _

end Logged

/-! ## The states of a call -/

section Trace

variable {throws : Event → Option Exception} {config : Config} {tree : ScopeTree}
  {s s' : State} {n m : Node}

lemma turns_append (ps ps' : List ℕ) : turns throws config (ps ++ ps') = (do
    turns throws config ps
    turns throws config ps') := by
  induction ps with
  | nil => rfl
  | cons p ps ih =>
      rw [List.cons_append, turns, ih, turns, bind_assoc]

lemma exists_states {bound : ℕ}
    (h : turns throws config (List.range bound) s = some (.ok (), s')) :
    ∃ σ : ℕ → State, σ 0 = s ∧ σ bound = s' ∧
      ∀ p < bound, turn throws config p (σ p) = some (.ok (), σ (p + 1)) := by
  induction bound generalizing s' with
  | zero =>
      have heq : s = s' := by
        injection h with h
        injection h
      exact ⟨fun _ => s, rfl, heq, nofun⟩
  | succ bound ih =>
      rw [List.range_succ, turns_append, bind_eq_ok] at h
      obtain ⟨⟨⟩, s₁, h₁, h⟩ := h
      rw [turns, bind_eq_ok] at h
      obtain ⟨⟨⟩, s₂, h₂, h⟩ := h
      have heq : s₂ = s' := by
        injection h with h
        injection h
      subst heq
      obtain ⟨σ, hzero, hlast, hturn⟩ := ih h₁
      refine ⟨Function.update σ (bound + 1) s₂, ?_, Function.update_self .., fun p hp => ?_⟩
      · rw [Function.update_of_ne (Nat.succ_ne_zero bound).symm, hzero]
      rw [Function.update_of_ne (by omega)]
      by_cases hpb : p = bound
      · rw [hpb, Function.update_self, hlast]
        exact h₂
      · rw [Function.update_of_ne (by omega)]
        exact hturn p (by omega)

/-- The states between the turns of the priorities below a bound, and after the call for the root
itself, which comes last. -/
structure Trace (config : Config) (tree : ScopeTree) (bound : ℕ) (σ : ℕ → State) : Prop where
  init : Registers (tree.root.entries [] none) .init (σ 0)
  turn : ∀ p < bound, Turned config tree p (σ p) (σ (p + 1))
  last : Opened config tree true tree.rootNode (σ bound) (σ (bound + 1))
  inBound : ∀ n ∈ tree.nodes config, ∀ p ∈ n.decl.type.number, p < bound

lemma Registers.inv (h : Registers (tree.root.entries [] none) .init s) : Inv config tree s := by
  have hnot : ∀ path, s.processed path ≠ true := by
    intro path hdone
    rw [h.processed] at hdone
    cases hdone
  refine ⟨fun _ _ hdone => absurd hdone (hnot _), fun _ _ hdone => absurd hdone (hnot _),
    fun p entry hp => ?_, fun _ _ _ hdone => absurd hdone (hnot _),
    fun _ _ hdone => absurd hdone (hnot _)⟩
  exact .inl (((h.map p entry).mp hp).resolve_left nofun)

lemma Turned.inv {p : ℕ} (h : Turned config tree p s s') (hs : Inv config tree s) :
    Inv config tree s' := by
  rcases h with ⟨rfl, -⟩ | ⟨t, -, -, -, hopened⟩
  · exact hs
  · exact hopened.inv

lemma eq_rootNode (hn : n ∈ tree.nodes config) (hpath : n.path = []) : n = tree.rootNode :=
  node_eq_of_path hn tree.rootNode_mem hpath

/-- The root has no turn. -/
lemma Turned.root {p : ℕ} (h : Turned config tree p s s') (hs : s.processed [] = false) :
    s'.processed [] = false := by
  rcases h with ⟨rfl, -⟩ | ⟨t, ht, hp, -, hopened⟩
  · exact hs
  have hne : t.path ≠ [] := by
    intro hpath
    rw [eq_rootNode ht hpath, Node.decl, ScopeTree.rootNode, tree.normal] at hp
    cases hp
  rw [← Bool.not_eq_true, hopened.opens.processed, hs, Node.spans, paths_cons, Set.mem_insert_iff,
    not_or, not_or]
  refine ⟨Bool.false_ne_true, hne.symm, ?_⟩
  rintro ⟨m, hm, hpath⟩
  cases htaint : t.decl.type.isTaint with
  | false =>
      rw [htaint] at hm
      cases hm
  | true =>
      rw [htaint, if_pos rfl, mem_region] at hm
      have hlength := length_lt_of_mem_below hm.1
      rw [hpath] at hlength
      exact absurd hlength (Nat.not_lt_zero _)

/-- A call that does not throw has a trace. -/
lemma exists_trace (hreturns : ∀ n ∈ tree.nodes config, ∀ e ∈ n.events, throws e = none)
    (h : run throws config tree .init = some (.ok (), s)) :
    ∃ bound σ, Trace config tree bound σ ∧ (σ (bound + 1)).log = s.log := by
  rw [run, bind_eq_ok] at h
  obtain ⟨⟨⟩, s₀, hregister, h⟩ := h
  rw [executeConfig_eq, bind_eq_ok] at h
  obtain ⟨⟨⟩, s₁, hturns, h⟩ := h
  have hinit := of_eq_ok (wp_registerAll _ _) hregister
  obtain ⟨σ, hzero, hbound, hturn⟩ := exists_states hturns
  let bound := tree.root.numbers.foldr max 0 + 1
  -- Each turn starts with the invariant, and leaves the root alone.
  have hsteps : ∀ p ≤ bound, Inv config tree (σ p) ∧ (σ p).processed [] = false := by
    intro p hp
    induction p with
    | zero =>
        rw [hzero]
        exact ⟨hinit.inv, congrFun hinit.processed []⟩
    | succ p ih =>
        obtain ⟨hinv, hroot⟩ := ih (by omega)
        have hturned := of_eq_ok (wp_turn hreturns hinv p) (hturn p hp)
        exact ⟨hturned.inv hinv, hturned.root hroot⟩
  obtain ⟨hinv, hroot⟩ := hsteps bound le_rfl
  rw [← hbound] at h
  obtain ⟨s'', hlog, hopened⟩ := of_eq_ok (wp_conclude hreturns hinv hroot) h
  refine ⟨bound, Function.update σ (bound + 1) s'', ⟨?_, fun p hp => ?_, ?_, fun n hn p hp => ?_⟩,
    ?_⟩
  · rw [Function.update_of_ne (Nat.succ_ne_zero bound).symm, hzero]
    exact hinit
  · rw [Function.update_of_ne (by omega), Function.update_of_ne (by omega)]
    exact of_eq_ok (wp_turn hreturns (hsteps p hp.le).1 p) (hturn p hp)
  · rw [Function.update_of_ne (by omega), Function.update_self]
    exact hopened
  · exact Nat.lt_succ_of_le (List.le_max_of_le' 0 (mem_numbers hn hp) le_rfl)
  · rw [Function.update_self, hlog]

lemma path_of_mem_events {e : Event} (he : e ∈ n.events) : e.path = n.path := by
  rcases List.mem_cons.mp he with rfl | he
  · rfl
  · rw [List.mem_singleton.mp he]
    rfl

lemma prio_of_number {p : ℕ} (hp : p ∈ n.decl.type.number) : n.prio = .some p := by
  rw [Option.mem_def] at hp
  rw [Node.prio, hp]

lemma inner_rootNode : tree.rootNode.inner = none := by
  rw [Node.inner, Node.decl, ScopeTree.rootNode, tree.normal]

lemma prio_rootNode : tree.rootNode.prio = ⊤ := by
  rw [Node.prio, Node.decl, ScopeTree.rootNode, tree.normal]
  rfl

lemma mem_nodes_of_spans {goes : Bool} (hn : n ∈ tree.nodes config)
    (hm : m ∈ n.spans config goes) : m ∈ tree.nodes config := by
  rcases List.mem_cons.mp hm with rfl | hm
  · exact hn
  · cases goes with
    | false => cases hm
    | true => exact below_subset hn (mem_region.mp hm).1

/-- The call at the end of the trace, or the turn of the node at its priority. -/
def AtTurn (tree : ScopeTree) (bound : ℕ) (σ : ℕ → State) (p : ℕ) (t : Node) : Prop :=
  (p < bound ∧ p ∈ t.decl.type.number ∧ (σ p).prioritySubScopes p = some t.entry) ∨
    p = bound ∧ t = tree.rootNode

namespace Trace

variable {bound : ℕ} {σ : ℕ → State} (h : Trace config tree bound σ)

include h

/-- Each step of the trace opens a node, or nothing happens. -/
lemma step {p : ℕ} (hp : p ≤ bound) : σ (p + 1) = σ p ∨
    ∃ t ∈ tree.nodes config, ∃ goes, AtTurn tree bound σ p t ∧
      Opened config tree goes t (σ p) (σ (p + 1)) := by
  rcases hp.lt_or_eq with hp | rfl
  · rcases h.turn p hp with ⟨heq, -⟩ | ⟨t, ht, hnumber, hentry, hopened⟩
    · exact .inl heq
    · exact .inr ⟨t, ht, _, .inl ⟨hp, hnumber, hentry⟩, hopened⟩
  · exact .inr ⟨_, tree.rootNode_mem, true, .inr ⟨rfl, rfl⟩, h.last⟩

lemma exists_opens {p q : ℕ} (hpq : p ≤ q) (hq : q ≤ bound + 1) :
    ∃ paths, Opens paths (σ p) (σ q) := by
  induction q, hpq using Nat.le_induction with
  | base => exact ⟨∅, .refl _⟩
  | succ q hpq ih =>
      obtain ⟨A, hA⟩ := ih (by omega)
      rcases h.step (p := q) (by omega) with heq | ⟨t, -, goes, -, hopened⟩
      · rw [heq]
        exact ⟨A, hA⟩
      · exact ⟨_, hA.trans hopened.opens⟩

lemma inv {p : ℕ} (hp : p ≤ bound + 1) : Inv config tree (σ p) := by
  induction p with
  | zero => exact h.init.inv
  | succ p ih =>
      rcases h.step (p := p) (by omega) with heq | ⟨t, -, goes, -, hopened⟩
      · rw [heq]
        exact ih (by omega)
      · exact hopened.inv

lemma processed_mono {p q : ℕ} (hpq : p ≤ q) (hq : q ≤ bound + 1) {path : Path}
    (hdone : (σ p).processed path = true) : (σ q).processed path = true := by
  obtain ⟨A, hA⟩ := h.exists_opens hpq hq
  exact (hA.processed path).mpr (.inl hdone)

/-- The hooks of the scopes that have been processed are called once, and no others are. -/
lemma count {p : ℕ} (hp : p ≤ bound + 1) (e : Event) :
    (σ p).log.count e = if (σ p).processed e.path = true then 1 else 0 := by
  obtain ⟨A, hA⟩ := h.exists_opens (Nat.zero_le p) hp
  have hnot : (σ 0).processed e.path = false := congrFun h.init.processed e.path
  have hzero : (σ 0).log.count e = 0 := by
    rw [h.init.log]
    rfl
  have hprocessed := hA.processed e.path
  rw [hnot] at hprocessed
  by_cases hmem : e.path ∈ A
  · rw [if_pos (hprocessed.mpr (.inr hmem)), hA.once e hmem hnot, hzero]
  · rw [if_neg fun hdone => hmem ((hprocessed.mp hdone).resolve_left Bool.false_ne_true),
      hA.others e (.inl hmem), hzero]

lemma mem_log_iff {p : ℕ} (hp : p ≤ bound + 1) {e : Event} (he : e ∈ n.events) :
    e ∈ (σ p).log ↔ (σ p).processed n.path = true := by
  rw [← List.count_pos_iff, h.count hp, path_of_mem_events he]
  by_cases hdone : (σ p).processed n.path = true
  · simp [hdone]
  · simp [hdone]

/-- What is registered and has been processed has been so at some turn. -/
lemma exists_turn {q : ℕ} (hq : q ≤ bound + 1) (hn : n ∈ tree.nodes config)
    (hdone : (σ q).processed n.path = true) : ∃ p < q, (σ p).processed n.path = false ∧
      ∃ t ∈ tree.nodes config, ∃ goes, AtTurn tree bound σ p t ∧
        Opened config tree goes t (σ p) (σ (p + 1)) ∧ n ∈ t.spans config goes := by
  induction q with
  | zero =>
      rw [h.init.processed] at hdone
      cases hdone
  | succ q ih =>
      cases hbefore : (σ q).processed n.path with
      | true =>
          obtain ⟨p, hp, hrest⟩ := ih (by omega) hbefore
          exact ⟨p, hp.trans q.lt_succ_self, hrest⟩
      | false =>
          refine ⟨q, q.lt_succ_self, hbefore, ?_⟩
          rcases h.step (p := q) (by omega) with heq | ⟨t, ht, goes, hturn, hopened⟩
          · rw [heq, hbefore] at hdone
            cases hdone
          · rw [hopened.opens.processed, hbefore] at hdone
            obtain ⟨m, hm, hpath⟩ := hdone.resolve_left Bool.false_ne_true
            obtain rfl := node_eq_of_path (mem_nodes_of_spans ht hm) hn hpath
            exact ⟨t, ht, goes, hturn, hopened, hm⟩

/-- The hooks of what a call goes through come between its own. -/
lemma between {p : ℕ} (hp : p ≤ bound) {goes : Bool} {t : Node}
    (hopened : Opened config tree goes t (σ p) (σ (p + 1))) (hm : m ∈ t.spans config goes)
    (hne : m.path ≠ t.path) (hfresh : (σ p).processed m.path = false) :
    ∀ e ∈ m.events, Before (σ (bound + 1)).log (.preValidate t.path) e ∧
      Before (σ (bound + 1)).log e (.postValidate t.path) := by
  intro e he
  obtain ⟨calls, hlog⟩ := hopened.log
  have hpath := path_of_mem_events he
  have hmem : e ∈ calls := by
    have hdone := (hopened.opens.processed m.path).mpr (.inr ⟨m, hm, rfl⟩)
    have hmem := (h.mem_log_iff (by omega) he).mpr hdone
    have hnot : e ∉ (σ p).log := by
      rw [h.mem_log_iff (by omega) he, hfresh]
      exact Bool.false_ne_true
    rw [hlog] at hmem
    rcases List.mem_cons.mp ((List.mem_append.mp hmem).resolve_left hnot) with rfl | hmem
    · exact absurd hpath.symm hne
    · refine (List.mem_append.mp hmem).resolve_right fun hlast => ?_
      rw [List.mem_singleton.mp hlast] at hpath
      exact hne hpath.symm
  obtain ⟨A, hA⟩ := h.exists_opens (p := p + 1) (by omega) le_rfl
  refine ⟨Before.mono ?_ hA.grows, Before.mono ?_ hA.grows⟩
  · rw [hlog, List.append_cons (σ p).log]
    exact before_append (List.mem_append_right _ List.mem_cons_self) (List.mem_append_left _ hmem)
  · rw [hlog, ← List.cons_append, ← List.append_assoc]
    exact before_append (List.mem_append_right _ (List.mem_cons_of_mem _ hmem))
      List.mem_cons_self

/-- A scope with a priority is in the map, once the hook that registers it has been called. -/
lemma registered_of {p q : ℕ} (hq : q ≤ bound + 1) (hn : n ∈ tree.nodes config)
    (hp : p ∈ n.decl.type.number)
    (hregistrar : ∀ u ∈ tree.nodes config, n.registrar = some u.path →
      (σ q).processed u.path = true) : (σ q).prioritySubScopes p = some n.entry := by
  rcases entry_cases hn hp with ⟨-, hmem⟩ | ⟨u, hu, hreg, hmem⟩
  · obtain ⟨A, hA⟩ := h.exists_opens (Nat.zero_le q) hq
    exact hA.kept p n.entry ((h.init.map p n.entry).mpr (.inr hmem))
  · exact (h.inv hq).hooked u hu (hregistrar u hu hreg) _ hmem

lemma map_mono {p q r : ℕ} (hpq : p ≤ q) (hq : q ≤ bound + 1) {entry : Entry}
    (hentry : (σ p).prioritySubScopes r = some entry) :
    (σ q).prioritySubScopes r = some entry := by
  obtain ⟨A, hA⟩ := h.exists_opens hpq hq
  exact hA.kept r entry hentry

end Trace

lemma node_eq_of_entry (hn : n ∈ tree.nodes config) (hm : m ∈ tree.nodes config)
    (hentry : n.entry = m.entry) : n = m :=
  node_eq_of_path hn hm (congrArg Entry.path hentry)

/-- A scope that is in the map at its turn, and has not been processed, is opened. -/
lemma Trace.opened_of_fresh {bound : ℕ} {σ : ℕ → State} (h : Trace config tree bound σ) {p : ℕ}
    (hn : n ∈ tree.nodes config) (hp : p ∈ n.decl.type.number)
    (hentry : (σ p).prioritySubScopes p = some n.entry)
    (hfresh : (σ p).processed n.path = false) :
    Opened config tree n.decl.type.isTaint n (σ p) (σ (p + 1)) := by
  rcases h.turn p (h.inBound n hn p hp) with ⟨-, hidle⟩ | ⟨t, ht, -, hentry', hopened⟩
  · have hdone : (σ p).processed n.path = true := hidle _ hentry (has_of_mem_nodes hn)
    rw [hfresh] at hdone
    cases hdone
  · obtain rfl := node_eq_of_entry ht hn (Option.some.inj (hentry'.symm.trans hentry))
    exact hopened

lemma isTaint_of_type {t : Node} {p : ℕ} (htype : t.decl.type = .priorityTaint p) :
    t.decl.type.isTaint = true := by
  rw [htype]
  rfl

lemma number_of_taint {t : Node} {p : ℕ} (htype : t.decl.type = .priorityTaint p) :
    p ∈ t.decl.type.number := by
  rw [htype]
  rfl

/-- What a taint scope is opened with at its turn. -/
lemma mem_spans_of_around {t : Node} {p : ℕ} (htype : t.decl.type = .priorityTaint p)
    (hbelow : n ∈ t.below config) (haround : n.around = some (t.path, p)) :
    n ∈ t.spans config t.decl.type.isTaint := by
  have hinner : t.inner = some (t.path, p) := by
    rw [Node.inner, htype]
  rw [Node.spans, isTaint_of_type htype, if_pos rfl]
  exact List.mem_cons_of_mem _ (mem_region.mpr ⟨hbelow, haround.trans hinner.symm⟩)

/-- A finite priority is that of the scope itself, or of the taint scope around it. -/
lemma prio_eq_some (hn : n ∈ tree.nodes config) {p : ℕ} (hprio : n.prio = .some p) :
    p ∈ n.decl.type.number ∨ ∃ t ∈ tree.nodes config, t.decl.type = .priorityTaint p ∧
      n.around = some (t.path, p) ∧ n ∈ t.below config := by
  rw [Node.prio] at hprio
  cases hnumber : n.decl.type.number with
  | some q =>
      rw [hnumber] at hprio
      exact .inl (congrArg some (WithTop.coe_injective hprio))
  | none =>
      rcases around_cases hn with hnone | ⟨t, ht, q, htype, haround, hbelow⟩
      · rw [hnumber, hnone] at hprio
        cases hprio
      · rw [hnumber, haround] at hprio
        obtain rfl := WithTop.coe_injective hprio
        exact .inr ⟨t, ht, htype, haround, hbelow⟩

/-- The call for the root goes through what has no priority. -/
lemma mem_spans_of_prio (hn : n ∈ tree.nodes config) (hprio : n.prio = ⊤) :
    n ∈ tree.rootNode.spans config true := by
  have haround : n.around = none := by
    rw [Node.prio] at hprio
    cases hnumber : n.decl.type.number with
    | some q =>
        rw [hnumber] at hprio
        cases hprio
    | none =>
        cases haround : n.around with
        | none => rfl
        | some t =>
            rw [hnumber, haround] at hprio
            cases hprio
  rcases mem_nodes.mp hn with rfl | hbelow
  · exact List.mem_cons_self
  · refine List.mem_cons_of_mem _ ?_
    rw [if_pos rfl]
    exact mem_region.mpr ⟨hbelow, haround.trans inner_rootNode.symm⟩

/-- The priority of a scope that a priority call goes through, if its own one is smaller than those
of the taint scopes around it. -/
lemma prio_le_of_mem_spans {t : Node} {p : ℕ} (hp : p ∈ t.decl.type.number)
    (htaints : ∀ q ∈ n.decl.type.number, ∀ t ∈ n.around, q < t.2)
    (hn : n ∈ t.spans config t.decl.type.isTaint) : n.prio ≤ .some p := by
  rcases List.mem_cons.mp hn with rfl | hn
  · exact (prio_of_number hp).le
  cases htaint : t.decl.type.isTaint with
  | false =>
      rw [htaint] at hn
      cases hn
  | true =>
      obtain ⟨q, htype, hinner⟩ := inner_eq_some_of_taint htaint
      have hq : q = p := by
        rw [htype] at hp
        exact Option.some.inj hp
      rw [htaint, if_pos rfl, mem_region, hinner] at hn
      rw [Node.prio]
      cases hnumber : n.decl.type.number with
      | some r =>
          have hlt : r < q := htaints r hnumber _ hn.2
          exact WithTop.coe_le_coe.mpr (hq ▸ hlt.le)
      | none =>
          rw [hn.2, hq]

lemma lt_some_succ_iff {a : WithTop ℕ} {p : ℕ} :
    a < .some (p + 1) ↔ a < .some p ∨ a = .some p := by
  cases a with
  | top => exact iff_of_false not_top_lt fun h => h.elim not_top_lt nofun
  | coe q =>
      rw [WithTop.coe_lt_coe, WithTop.coe_lt_coe, WithTop.coe_inj]
      omega

/-! ## What is traversed is orderly -/

namespace Trace

variable {bound : ℕ} {σ : ℕ → State} (h : Trace config tree bound σ)

include h

section Traversed

variable (ht : Traversed config tree (σ (bound + 1)).log)

include ht

/-- A node has its hooks called at the turn of its priority. -/
lemma prio_eq {p : ℕ} (hp : p ≤ bound) {goes : Bool} {t : Node} (hmem : t ∈ tree.nodes config)
    (hopened : Opened config tree goes t (σ p) (σ (p + 1))) (hm : m ∈ t.spans config goes)
    (hfresh : (σ p).processed m.path = false) : m.prio = t.prio := by
  have hm' := mem_nodes_of_spans hmem hm
  by_cases hpath : m.path = t.path
  · rw [node_eq_of_path hm' hmem hpath]
  -- The hooks of the node come between those of the other one, so that neither is the first.
  have hbetween := h.between hp hopened hm hpath hfresh
  have hpre : ∀ n : Node, .preValidate n.path ∈ n.events := fun n => List.mem_cons_self
  have hpost : ∀ n : Node, .postValidate n.path ∈ n.events :=
    fun n => List.mem_cons_of_mem _ List.mem_cons_self
  rcases lt_trichotomy m.prio t.prio with hlt | heq | hlt
  · refine absurd (ht.ordered m hm' t hmem hlt _ (hpre m) _ (hpre t)) ?_
    exact (hbetween _ (hpre m)).1.asymm (ht.once t hmem _ (hpre t)) (ht.once m hm' _ (hpre m))
  · exact heq
  · refine absurd (ht.ordered t hmem m hm' hlt _ (hpost t) _ (hpre m)) ?_
    exact (hbetween _ (hpre m)).2.asymm (ht.once m hm' _ (hpre m)) (ht.once t hmem _ (hpost t))

lemma processed_last (hn : n ∈ tree.nodes config) :
    (σ (bound + 1)).processed n.path = true := by
  refine (h.mem_log_iff le_rfl (e := .preValidate n.path) List.mem_cons_self).mp ?_
  rw [← List.count_pos_iff, ht.once n hn _ List.mem_cons_self]
  exact Nat.one_pos

/-- A node with a priority is opened at its own turn. -/
lemma opened_of_number {p : ℕ} (hn : n ∈ tree.nodes config) (hp : p ∈ n.decl.type.number) :
    (σ p).processed n.path = false ∧ (σ p).prioritySubScopes p = some n.entry := by
  obtain ⟨q, hq, hfresh, t, hmem, goes, hturn, hopened, hspans⟩ :=
    h.exists_turn le_rfl hn (h.processed_last ht hn)
  have hprio := h.prio_eq ht (by omega) hmem hopened hspans hfresh
  rw [prio_of_number hp] at hprio
  -- The turn is its own; and what the map has there is what it has at the end.
  rcases hturn with ⟨-, hnumber, hentry⟩ | ⟨-, rfl⟩
  · rw [prio_of_number hnumber] at hprio
    obtain rfl := WithTop.coe_injective hprio
    have hlast := h.registered_of le_rfl hn hp fun u hu _ => h.processed_last ht hu
    have heq := Option.some.inj (hlast.symm.trans (h.map_mono (by omega) le_rfl hentry))
    obtain rfl := node_eq_of_entry hn hmem heq
    exact ⟨hfresh, hentry⟩
  · rw [prio_rootNode] at hprio
    exact absurd hprio (WithTop.coe_ne_top)

/-- What has been processed before a turn has a smaller priority. -/
lemma prio_lt_of_processed {p : ℕ} (hp : p ≤ bound) (hn : n ∈ tree.nodes config)
    (hdone : (σ p).processed n.path = true) : n.prio < .some p := by
  obtain ⟨q, hq, hfresh, t, hmem, goes, hturn, hopened, hspans⟩ := h.exists_turn (by omega) hn hdone
  rcases hturn with ⟨-, hnumber, -⟩ | ⟨heq, -⟩
  · rw [h.prio_eq ht (by omega) hmem hopened hspans hfresh, prio_of_number hnumber]
    exact WithTop.coe_lt_coe.mpr hq
  · omega

lemma taints_of_traversed (hn : n ∈ tree.nodes config) {p : ℕ} (hp : p ∈ n.decl.type.number)
    {t : Path × ℕ} (haround : t ∈ n.around) : p < t.2 := by
  rcases around_cases hn with hnone | ⟨t', ht', q, htype, heq, hbelow⟩
  · rw [hnone] at haround
    cases haround
  rw [heq] at haround
  obtain rfl := Option.some.inj haround
  have hq := number_of_taint htype
  obtain ⟨hfresh, hentry⟩ := h.opened_of_number ht hn hp
  obtain ⟨hfresh', hentry'⟩ := h.opened_of_number ht ht' hq
  have hopened := h.opened_of_fresh ht' hq hentry' hfresh'
  have hdone : (σ (q + 1)).processed n.path = true :=
    (hopened.opens.processed n.path).mpr (.inr ⟨n, mem_spans_of_around htype hbelow heq, rfl⟩)
  rcases lt_trichotomy p q with hlt | rfl | hlt
  · exact hlt
  · -- One priority has one scope.
    have hnode := node_eq_of_entry hn ht' (Option.some.inj (hentry.symm.trans hentry'))
    exact absurd (congrArg Node.path hnode) (path_ne_of_mem_below hbelow)
  · have hbound := h.inBound n hn p hp
    rw [h.processed_mono hlt (by omega) hdone] at hfresh
    cases hfresh

lemma registered_of_traversed (hn : n ∈ tree.nodes config) {p : ℕ}
    (hp : p ∈ n.decl.type.number) (hm : m ∈ tree.nodes config)
    (hregistrar : n.registrar = some m.path) : m.prio < .some p := by
  have hbound := h.inBound n hn p hp
  obtain ⟨-, hentry⟩ := h.opened_of_number ht hn hp
  refine h.prio_lt_of_processed ht hbound.le hm ?_
  -- The entry is in the map at the turn, so that the hook has been called before.
  rcases (h.inv (p := p) (by omega)).registered p n.entry hentry with hmem | ⟨u, hu, hmem, hlog⟩
  · have hnone : n.registrar = none := registrar_of_mem_entries hmem
    rw [hregistrar] at hnone
    cases hnone
  · obtain ⟨sc, -, hmem⟩ := mem_entriesAll.mp hmem
    have hsome : n.registrar = some u.path := registrar_of_mem_entries hmem
    have hpath : m.path = u.path := Option.some.inj (hregistrar.symm.trans hsome)
    rw [hpath]
    exact (h.mem_log_iff (n := u) (by omega) List.mem_cons_self).mp hlog

end Traversed

/-! ## What is orderly is traversed -/

section Orderly

variable (ho : Orderly throws config tree)

include ho

/-- A node with a priority is opened at its turn, if what has been processed before are the nodes
with smaller ones. -/
lemma opened_of_iff {p : ℕ}
    (hiff : ∀ n ∈ tree.nodes config, (σ p).processed n.path = true ↔ n.prio < .some p)
    (hn : n ∈ tree.nodes config) (hp : p ∈ n.decl.type.number) :
    Opened config tree n.decl.type.isTaint n (σ p) (σ (p + 1)) := by
  have hbound := h.inBound n hn p hp
  refine h.opened_of_fresh hn hp (h.registered_of (by omega) hn hp fun u hu hreg => ?_) ?_
  · exact (hiff u hu).mpr (ho.registered n hn p hp u hu hreg)
  · rw [← Bool.not_eq_true, hiff n hn, prio_of_number hp]
    exact lt_irrefl _

lemma processed_iff {p : ℕ} (hp : p ≤ bound) (hn : n ∈ tree.nodes config) :
    (σ p).processed n.path = true ↔ n.prio < .some p := by
  induction p generalizing n with
  | zero =>
      rw [h.init.processed]
      exact iff_of_false Bool.false_ne_true (bot_le (a := n.prio)).not_gt
  | succ p ih =>
      have hiff : ∀ n ∈ tree.nodes config, (σ p).processed n.path = true ↔ n.prio < .some p :=
        fun n hn => ih (by omega) hn
      rw [lt_some_succ_iff]
      constructor
      · -- What the turn goes through has the priority of the turn, or one of its own before it.
        intro hdone
        rcases h.turn p hp with ⟨heq, -⟩ | ⟨t, ht, hnumber, -, hopened⟩
        · rw [heq] at hdone
          exact .inl ((hiff n hn).mp hdone)
        · rcases (hopened.opens.processed n.path).mp hdone with hdone | ⟨m, hm, hpath⟩
          · exact .inl ((hiff n hn).mp hdone)
          · obtain rfl := node_eq_of_path (mem_nodes_of_spans ht hm) hn hpath
            exact (prio_le_of_mem_spans hnumber (ho.taints m hn) hm).lt_or_eq
      · rintro (hlt | heq)
        · exact h.processed_mono p.le_succ (by omega) ((hiff n hn).mpr hlt)
        · rcases prio_eq_some hn heq with hnumber | ⟨t, ht, htype, haround, hbelow⟩
          · exact ((h.opened_of_iff ho hiff hn hnumber).opens.processed _).mpr
              (.inr ⟨n, List.mem_cons_self, rfl⟩)
          · have hopened := h.opened_of_iff ho hiff ht (number_of_taint htype)
            exact (hopened.opens.processed _).mpr
              (.inr ⟨n, mem_spans_of_around htype hbelow haround, rfl⟩)

lemma opened_of_orderly {p : ℕ} (hn : n ∈ tree.nodes config) (hp : p ∈ n.decl.type.number) :
    Opened config tree n.decl.type.isTaint n (σ p) (σ (p + 1)) :=
  h.opened_of_iff ho (fun _ hm => h.processed_iff ho (h.inBound n hn p hp).le hm) hn hp

omit ho in
lemma prio_lt_bound (hn : n ∈ tree.nodes config) (hprio : n.prio ≠ ⊤) : n.prio < .some bound := by
  obtain ⟨p, hp⟩ := WithTop.ne_top_iff_exists.mp hprio
  rw [← hp]
  refine WithTop.coe_lt_coe.mpr ?_
  rcases prio_eq_some hn hp.symm with hnumber | ⟨t, ht, htype, -, -⟩
  · exact h.inBound n hn p hnumber
  · exact h.inBound t ht p (number_of_taint htype)

/-- All nodes are processed. -/
lemma processed_of_orderly (hn : n ∈ tree.nodes config) :
    (σ (bound + 1)).processed n.path = true := by
  by_cases hprio : n.prio = ⊤
  · exact (h.last.opens.processed _).mpr (.inr ⟨n, mem_spans_of_prio hn hprio, rfl⟩)
  · exact h.processed_mono bound.le_succ le_rfl
      ((h.processed_iff ho le_rfl hn).mpr (h.prio_lt_bound hn hprio))

/-- A node that is processed comes before one that is not. -/
lemma before_of_fresh {p : ℕ} (hp : p ≤ bound) (hm : m ∈ tree.nodes config)
    (hdone : (σ p).processed n.path = true) (hfresh : (σ p).processed m.path = false) :
    ∀ e ∈ n.events, ∀ e' ∈ m.events, Before (σ (bound + 1)).log e e' := by
  intro e he e' he'
  obtain ⟨A, hA⟩ := h.exists_opens (p := p) (by omega) le_rfl
  obtain ⟨calls, hcalls⟩ := hA.grows
  have hmem := (h.mem_log_iff (by omega) he).mpr hdone
  have hmem' := (h.mem_log_iff le_rfl he').mpr (h.processed_of_orderly ho hm)
  have hnot : e' ∉ (σ p).log := by
    rw [h.mem_log_iff (by omega) he', hfresh]
    exact Bool.false_ne_true
  rw [← hcalls] at hmem' ⊢
  exact before_append hmem ((List.mem_append.mp hmem').resolve_left hnot)

lemma ordered_of_orderly (hn : n ∈ tree.nodes config) (hm : m ∈ tree.nodes config)
    (hlt : n.prio < m.prio) :
    ∀ e ∈ n.events, ∀ e' ∈ m.events, Before (σ (bound + 1)).log e e' := by
  have hfresh : ∀ p ≤ bound, ¬ m.prio < .some p → (σ p).processed m.path = false := by
    intro p hp hnot
    rw [← Bool.not_eq_true, h.processed_iff ho hp hm]
    exact hnot
  by_cases hprio : m.prio = ⊤
  · have hbound := h.prio_lt_bound hn (hlt.trans_le le_top).ne
    refine h.before_of_fresh ho le_rfl hm ((h.processed_iff ho le_rfl hn).mpr hbound) ?_
    exact hfresh bound le_rfl (hprio ▸ not_top_lt)
  · have hbound := h.prio_lt_bound hm hprio
    obtain ⟨p, hp⟩ := WithTop.ne_top_iff_exists.mp hprio
    rw [← hp] at hlt hbound
    have hle : p ≤ bound := (WithTop.coe_lt_coe.mp hbound).le
    refine h.before_of_fresh ho hle hm ((h.processed_iff ho hle hn).mpr hlt) ?_
    exact hfresh p hle (hp ▸ lt_irrefl _)

lemma subscopes_of_orderly (hn : n ∈ tree.nodes config) : n.SubscopesPresent config := by
  cases htaint : n.decl.type.isTaint with
  | true =>
      obtain ⟨p, htype, -⟩ := inner_eq_some_of_taint htaint
      exact ((h.opened_of_orderly ho hn (number_of_taint htype)).present htaint).1
  | false =>
      rcases around_cases hn with hnone | ⟨t, ht, p, htype, haround, hbelow⟩
      · have hpresent := h.last.present rfl
        rcases mem_nodes.mp hn with rfl | hbelow
        · exact hpresent.1
        · exact hpresent.2 n (mem_region.mpr ⟨hbelow, hnone.trans inner_rootNode.symm⟩) htaint
      · have htaint' := isTaint_of_type htype
        have hopened := h.opened_of_orderly ho ht (number_of_taint htype)
        have hspans := mem_spans_of_around htype hbelow haround
        rw [Node.spans, htaint', if_pos rfl] at hspans
        rcases List.mem_cons.mp hspans with rfl | hregion
        · rw [htaint] at htaint'
          cases htaint'
        · exact (hopened.present htaint').2 n hregion htaint

lemma traversed_of_orderly : Traversed config tree (σ (bound + 1)).log where
  once n hn e he := by
    rw [h.count le_rfl, path_of_mem_events he, if_pos (h.processed_of_orderly ho hn)]
  ordered n hn m hm hlt := h.ordered_of_orderly ho hn hm hlt
  childrenFirst n hn hnormal :=
    (h.inv le_rfl).childrenFirst n hn hnormal (h.processed_of_orderly ho hn)
  declared n hn := by
    by_cases hpath : n.path = []
    · exact ho.rootDeclared n hn hpath
    · exact ((h.inv le_rfl).checked n hn (h.processed_of_orderly ho hn)).1 hpath
  parameters n hn := ((h.inv le_rfl).checked n hn (h.processed_of_orderly ho hn)).2
  subscopes n hn := h.subscopes_of_orderly ho hn

end Orderly

end Trace

/-- **A call for the configuration that does not throw has gone through the scopes in their order,
if and only if the scopes are orderly.** -/
theorem traversed_iff (h : run throws config tree .init = some (.ok (), s)) :
    Traversed config tree s.log ↔ Orderly throws config tree := by
  constructor
  · intro ht
    have hreturns : ∀ n ∈ tree.nodes config, ∀ e ∈ n.events, throws e = none := by
      intro n hn e he
      refine of_eq_ok (maintains_run tree .init nofun) h e ?_
      rw [← List.count_pos_iff, ht.once n hn e he]
      exact Nat.one_pos
    obtain ⟨bound, σ, htrace, hlog⟩ := exists_trace hreturns h
    rw [← hlog] at ht
    exact ⟨hreturns, fun n hn _ => ht.declared n hn,
      fun n hn p hp t => htrace.taints_of_traversed ht hn hp,
      fun n hn p hp m hm => htrace.registered_of_traversed ht hn hp hm⟩
  · intro ho
    obtain ⟨bound, σ, htrace, hlog⟩ := exists_trace ho.returns h
    rw [← hlog]
    exact htrace.traversed_of_orderly ho

/-! ## Two trees -/

/-- What there is at a path of a chain of groups. -/
def chainLookup : List String → Path → Option Shape
  | [], [] => some (.group [])
  | name :: _, [] => some (.group [name])
  | name :: names, name' :: path => if name' = name then chainLookup names path else none
  | [], _ :: _ => none

/-- A configuration with one group in the other. -/
def Config.chain (names : List String) : Config where
  lookup := chainLookup names
  root := by cases names <;> exact ⟨_, rfl⟩
  members path name := by
    induction path generalizing names with
    | nil =>
        cases names with
        | nil => simp [chainLookup]
        | cons name' names =>
            by_cases hname : name = name'
            · cases names <;> simp [chainLookup, hname]
            · simp [chainLookup, hname]
    | cons name' path ih =>
        cases names with
        | nil => simp [chainLookup]
        | cons name'' names =>
            by_cases hname : name' = name''
            · simpa [chainLookup, hname] using ih names
            · simp [chainLookup, hname]

lemma Scope.Distinct.nil (decl : Decl) : (Scope.mk decl [] []).Distinct := .mk List.nodup_nil nofun

lemma Scope.Distinct.singleton {sc : Scope} (h : sc.Distinct) (decl : Decl) :
    (Scope.mk decl [sc] []).Distinct :=
  .mk (List.nodup_singleton _) (List.forall_mem_singleton.mpr h)

/-- A taint scope, with a scope in it that comes before it. -/
def orderlyTree : ScopeTree where
  root := .mk { name := "config" } [.mk { name := "a", type := .priorityTaint 2 }
    [.mk { name := "b", type := .priority 1 } [] []] []] []
  normal := rfl
  distinct := ((Scope.Distinct.nil _).singleton _).singleton _

theorem traversed_orderlyTree : ∃ s,
    run (fun _ => none) (.chain ["a", "b"]) orderlyTree .init = some (.ok (), s) ∧
      Traversed (.chain ["a", "b"]) orderlyTree s.log := by
  have hall : ∀ P : Node → Prop, P orderlyTree.rootNode →
      (∀ n : Node, n.path = ["a"] → n.around = none → n.registrar = none → P n) →
      (∀ n : Node, n.path = ["a", "b"] → n.decl.type = .priority 1 → n.around = some (["a"], 2) →
        n.registrar = none → P n) → ∀ n ∈ orderlyTree.nodes (.chain ["a", "b"]), P n :=
    fun P hroot ha hb => List.forall_mem_cons.mpr ⟨hroot, List.forall_mem_cons.mpr
      ⟨ha _ rfl rfl rfl, List.forall_mem_singleton.mpr (hb _ rfl rfl rfl rfl)⟩⟩
  refine ⟨_, rfl, (traversed_iff rfl).mpr ⟨fun _ _ _ _ => rfl, ?_, ?_, ?_⟩⟩
  · refine hall _ (fun _ => .inr fun name hname => .inr ?_) ?_ ?_
    · exact ⟨_, List.mem_cons_self, (List.mem_singleton.mp hname).symm⟩
    · intro n hpath _ _ hnil
      rw [hpath] at hnil
      cases hnil
    · intro n hpath _ _ _ hnil
      rw [hpath] at hnil
      cases hnil
  · refine hall _ nofun ?_ ?_
    · intro n _ haround _ p _ t ht
      rw [haround] at ht
      cases ht
    · intro n _ htype haround _ p hp t ht
      rw [htype] at hp
      rw [haround] at ht
      cases hp
      cases ht
      decide
  · refine hall _ nofun ?_ ?_
    · intro n _ _ hreg p _ m _ hregistrar
      rw [hreg] at hregistrar
      cases hregistrar
    · intro n _ _ _ hreg p _ m _ hregistrar
      rw [hreg] at hregistrar
      cases hregistrar

/-- A taint scope in one that comes before it. -/
def nestedTree : ScopeTree where
  root := .mk { name := "config" } [.mk { name := "a", type := .priorityTaint 1 }
    [.mk { name := "b", type := .priorityTaint 2 } [.mk { name := "c" } [] []] []] []] []
  normal := rfl
  distinct :=
    (((Scope.Distinct.nil _).singleton _).singleton _).singleton _

/-- The hooks of the scope in both are not called. -/
theorem not_traversed_nestedTree : ∃ s,
    run (fun _ => none) (.chain ["a", "b", "c"]) nestedTree .init = some (.ok (), s) ∧
      ¬ Traversed (.chain ["a", "b", "c"]) nestedTree s.log := by
  refine ⟨_, rfl, fun h => ?_⟩
  have hnode : (⟨["a", "b", "c"], .mk { name := "c" } [] [], some (["a", "b"], 2), none⟩ : Node) ∈
      nestedTree.nodes (.chain ["a", "b", "c"]) :=
    .tail _ (.tail _ (.tail _ (.head _)))
  have hcount := h.once _ hnode (.preValidate ["a", "b", "c"]) List.mem_cons_self
  revert hcount
  decide

end Trace

end Xdpd.Management.Scopes
