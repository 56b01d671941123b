import Mathlib.Data.List.Nodup
import Xdpd.Management.ConfigScope

/-!
# The scopes that are in the configuration

Each path has one node.  A node that has a priority is registered by the constructors of the tree or
by the hook of another node, and what is registered and is in the configuration belongs to a node.
-/

namespace Xdpd.Management.Scopes

open Xdpd.Lib Xdpd.Lib.Program

/-! ## Trees -/

/-- The induction over a tree. -/
theorem Scope.induct {motive : Scope → Prop}
    (mk : ∀ decl subScopes hooked, (∀ sc ∈ subScopes, motive sc) → (∀ sc ∈ hooked, motive sc) →
      motive (.mk decl subScopes hooked)) (sc : Scope) : motive sc :=
  @Scope.rec motive (fun scs => ∀ sc ∈ scs, motive sc) mk nofun
    (fun _ _ h hs => List.forall_mem_cons.mpr ⟨h, hs⟩) sc

namespace Node

variable (n : Node)

/-- The scopes below it. -/
def below (config : Config) : List Node :=
  nodesAll config n.path n.inner n.registrar n.scope.subScopes ++
    nodesAll config n.path n.inner (some n.path) n.scope.hooked

/-- What the map of the root has for it. -/
def entry : Entry := ⟨n.path, n.scope, n.registrar⟩

/-- What its hook registers with a priority. -/
def hookEntries : List (ℕ × Entry) := entriesAll n.path (some n.path) n.scope.hooked

end Node

section Nodes

variable {config : Config} {path : Path} {around : Option (Path × ℕ)} {registrar : Option Path}
  {sc : Scope} {scs : List Scope} {n m : Node}

lemma nodes_eq : sc.nodes config path around registrar =
    ⟨path, sc, around, registrar⟩ :: Node.below ⟨path, sc, around, registrar⟩ config := by
  cases sc
  rw [Scope.nodes]
  rfl

lemma mem_nodes : n ∈ sc.nodes config path around registrar ↔
    n = ⟨path, sc, around, registrar⟩ ∨
      n ∈ Node.below ⟨path, sc, around, registrar⟩ config := by
  rw [nodes_eq, List.mem_cons]

lemma mem_nodesAll : n ∈ nodesAll config path around registrar scs ↔
    ∃ sc ∈ scs, config.has (path ++ [sc.decl.name]) = true ∧
      n ∈ sc.nodes config (path ++ [sc.decl.name]) around registrar := by
  induction scs with
  | nil => simp [nodesAll]
  | cons sc scs ih =>
      rw [nodesAll, List.mem_append, ih]
      by_cases h : config.has (path ++ [sc.decl.name]) = true
      · simp [h]
      · simp [h]

/-- A node below another one belongs to a subscope of it, of its constructor or of its hook. -/
lemma mem_below : m ∈ n.below config ↔
    (∃ sc ∈ n.scope.subScopes, config.has (n.path ++ [sc.decl.name]) = true ∧
      m ∈ sc.nodes config (n.path ++ [sc.decl.name]) n.inner n.registrar) ∨
    ∃ sc ∈ n.scope.hooked, config.has (n.path ++ [sc.decl.name]) = true ∧
      m ∈ sc.nodes config (n.path ++ [sc.decl.name]) n.inner (some n.path) := by
  rw [Node.below, List.mem_append, mem_nodesAll, mem_nodesAll]

lemma mem_children_iff : sc ∈ n.scope.children ↔
    sc ∈ n.scope.subScopes ∨ sc ∈ n.scope.hooked := by
  cases hscope : n.scope
  exact List.mem_append

/-- A node below another one belongs to a subscope of it. -/
lemma exists_of_mem_below (h : m ∈ n.below config) : ∃ sc ∈ n.scope.children, ∃ registrar,
    config.has (n.path ++ [sc.decl.name]) = true ∧
      m ∈ sc.nodes config (n.path ++ [sc.decl.name]) n.inner registrar := by
  rcases mem_below.mp h with ⟨sc, hsc, hhas, hm⟩ | ⟨sc, hsc, hhas, hm⟩
  · exact ⟨sc, mem_children_iff.mpr (.inl hsc), _, hhas, hm⟩
  · exact ⟨sc, mem_children_iff.mpr (.inr hsc), _, hhas, hm⟩

lemma self_mem_nodes : n ∈ n.scope.nodes config n.path n.around n.registrar :=
  mem_nodes.mpr (.inl rfl)

lemma sub_mem_below (hsc : sc ∈ n.scope.subScopes)
    (hhas : config.has (n.path ++ [sc.decl.name]) = true) :
    (⟨n.path ++ [sc.decl.name], sc, n.inner, n.registrar⟩ : Node) ∈ n.below config :=
  mem_below.mpr (.inl ⟨sc, hsc, hhas, mem_nodes.mpr (.inl rfl)⟩)

lemma hook_mem_below (hsc : sc ∈ n.scope.hooked)
    (hhas : config.has (n.path ++ [sc.decl.name]) = true) :
    (⟨n.path ++ [sc.decl.name], sc, n.inner, some n.path⟩ : Node) ∈ n.below config :=
  mem_below.mpr (.inr ⟨sc, hsc, hhas, mem_nodes.mpr (.inl rfl)⟩)

/-- A subscope that is in the configuration is a node below its scope. -/
lemma child_mem_below (hsc : sc ∈ n.scope.children)
    (hhas : config.has (n.path ++ [sc.decl.name]) = true) : ∃ registrar,
    (⟨n.path ++ [sc.decl.name], sc, n.inner, registrar⟩ : Node) ∈ n.below config := by
  rcases mem_children_iff.mp hsc with hsc | hsc
  · exact ⟨_, sub_mem_below hsc hhas⟩
  · exact ⟨_, hook_mem_below hsc hhas⟩

variable (config) in
/-- **Induction over the nodes.**  What holds of a node with any context, if it holds of the nodes
of its subscopes, holds of all of them. -/
lemma nodes_induct {motive : Path → Option (Path × ℕ) → Option Path → Scope → Prop}
    (step : ∀ n : Node,
      (∀ sc ∈ n.scope.subScopes, config.has (n.path ++ [sc.decl.name]) = true →
        motive (n.path ++ [sc.decl.name]) n.inner n.registrar sc) →
      (∀ sc ∈ n.scope.hooked, config.has (n.path ++ [sc.decl.name]) = true →
        motive (n.path ++ [sc.decl.name]) n.inner (some n.path) sc) →
      motive n.path n.around n.registrar n.scope) (path : Path) (around : Option (Path × ℕ))
    (registrar : Option Path) (sc : Scope) : motive path around registrar sc := by
  induction sc using Scope.induct generalizing path around registrar with
  | mk decl subScopes hooked ihSubs ihHooked =>
      exact step ⟨path, .mk decl subScopes hooked, around, registrar⟩
        (fun sc hsc _ => ihSubs sc hsc _ _ _) (fun sc hsc _ => ihHooked sc hsc _ _ _)

/-- **Induction over where a node is.**  It is the scope itself, or it belongs to a subscope of the
constructor, or to one of the hook. -/
lemma mem_nodes_induct {motive : Path → Option (Path × ℕ) → Option Path → Scope → Node → Prop}
    (self : ∀ n : Node, motive n.path n.around n.registrar n.scope n)
    (sub : ∀ n₀ : Node, ∀ sc ∈ n₀.scope.subScopes,
      config.has (n₀.path ++ [sc.decl.name]) = true →
      ∀ n ∈ sc.nodes config (n₀.path ++ [sc.decl.name]) n₀.inner n₀.registrar,
        motive (n₀.path ++ [sc.decl.name]) n₀.inner n₀.registrar sc n →
          motive n₀.path n₀.around n₀.registrar n₀.scope n)
    (hook : ∀ n₀ : Node, ∀ sc ∈ n₀.scope.hooked,
      config.has (n₀.path ++ [sc.decl.name]) = true →
      ∀ n ∈ sc.nodes config (n₀.path ++ [sc.decl.name]) n₀.inner (some n₀.path),
        motive (n₀.path ++ [sc.decl.name]) n₀.inner (some n₀.path) sc n →
          motive n₀.path n₀.around n₀.registrar n₀.scope n)
    (h : n ∈ sc.nodes config path around registrar) : motive path around registrar sc n := by
  revert n
  refine nodes_induct config
    (motive := fun path around registrar sc => ∀ {n : Node},
      n ∈ sc.nodes config path around registrar → motive path around registrar sc n)
    ?_ path around registrar sc
  intro n₀ ihSubs ihHooked n hn
  rcases mem_nodes.mp hn with rfl | hn
  · exact self n₀
  · rcases mem_below.mp hn with ⟨sc, hsc, hhas, hn⟩ | ⟨sc, hsc, hhas, hn⟩
    · exact sub n₀ sc hsc hhas n hn (ihSubs sc hsc hhas hn)
    · exact hook n₀ sc hsc hhas n hn (ihHooked sc hsc hhas hn)

/-! ### Paths -/

lemma prefix_of_mem_nodes (h : n ∈ sc.nodes config path around registrar) : path <+: n.path := by
  refine mem_nodes_induct (motive := fun path _ _ _ n => path <+: n.path)
    (fun _ => List.prefix_rfl) ?_ ?_ h
  · exact fun _ _ _ _ _ _ ih => (List.prefix_append _ _).trans ih
  · exact fun _ _ _ _ _ _ ih => (List.prefix_append _ _).trans ih

lemma prefix_of_mem_below (h : m ∈ n.below config) :
    ∃ sc ∈ n.scope.children, n.path ++ [sc.decl.name] <+: m.path := by
  obtain ⟨sc, hsc, registrar, -, hm⟩ := exists_of_mem_below h
  exact ⟨sc, hsc, prefix_of_mem_nodes hm⟩

lemma length_lt_of_mem_below (h : m ∈ n.below config) : n.path.length < m.path.length := by
  obtain ⟨sc, -, hbegins⟩ := prefix_of_mem_below h
  have hlength := hbegins.length_le
  rw [List.length_append, List.length_singleton] at hlength
  exact hlength

lemma path_ne_of_mem_below (h : m ∈ n.below config) : m.path ≠ n.path :=
  fun heq => (length_lt_of_mem_below h).ne (congrArg List.length heq.symm)

/-- Two names that continue a path to the same one are the same. -/
lemma name_eq_of_append {a b : String} {path' : Path} (ha : path ++ [a] <+: path')
    (hb : path ++ [b] <+: path') : a = b := by
  have hab : path ++ [a] <+: path ++ [b] :=
    List.prefix_of_prefix_length_le ha hb (by simp)
  have heq := hab.eq_of_length (by simp)
  exact List.singleton_injective (List.append_cancel_left heq)

lemma distinct_of_mem {sc' : Scope} (h : sc.Distinct) (hsc : sc' ∈ sc.children) : sc'.Distinct := by
  cases h with
  | mk names inner => exact inner sc' hsc

lemma children_eq_of_name {sc₁ sc₂ : Scope} (h : sc.Distinct) (h₁ : sc₁ ∈ sc.children)
    (h₂ : sc₂ ∈ sc.children) (hname : sc₁.decl.name = sc₂.decl.name) : sc₁ = sc₂ := by
  cases h with
  | mk names inner => exact List.inj_on_of_nodup_map names h₁ h₂ hname

/-- A subscope comes from the constructor or from the hook. -/
lemma not_mem_hooked_of_mem {sc : Scope} (h : sc.Distinct) {sc' : Scope}
    (h₁ : sc' ∈ sc.subScopes) : sc' ∉ sc.hooked := by
  cases h with
  | mk names inner =>
      intro h₂
      rw [List.map_append] at names
      exact (List.nodup_append.mp names).2.2 _ (List.mem_map_of_mem h₁) _ (List.mem_map_of_mem h₂)
        rfl

/-- A path has one node. -/
lemma eq_of_path (hdistinct : sc.Distinct) (hn : n ∈ sc.nodes config path around registrar)
    (hm : m ∈ sc.nodes config path around registrar) (hpath : n.path = m.path) : n = m := by
  revert n m
  revert hdistinct
  refine nodes_induct config
    (motive := fun path around registrar sc => sc.Distinct → ∀ {n m : Node},
      n ∈ sc.nodes config path around registrar → m ∈ sc.nodes config path around registrar →
        n.path = m.path → n = m) ?_ path around registrar sc
  intro n₀ ihSubs ihHooked hdistinct n m hn hm hpath
  rcases mem_nodes.mp hn with rfl | hn
  · rcases mem_nodes.mp hm with rfl | hm
    · rfl
    · exact absurd hpath.symm (path_ne_of_mem_below hm)
  rcases mem_nodes.mp hm with rfl | hm
  · exact absurd hpath (path_ne_of_mem_below hn)
  -- Both go through the same subscope.
  have hsame : ∀ {sc₁ sc₂ : Scope}, sc₁ ∈ n₀.scope.children → sc₂ ∈ n₀.scope.children →
      n₀.path ++ [sc₁.decl.name] <+: n.path → n₀.path ++ [sc₂.decl.name] <+: m.path →
        sc₁ = sc₂ := by
    intro sc₁ sc₂ h₁ h₂ hpre₁ hpre₂
    rw [hpath] at hpre₁
    exact children_eq_of_name hdistinct h₁ h₂ (name_eq_of_append hpre₁ hpre₂)
  rcases mem_below.mp hn with ⟨sc₁, h₁, hhas, hn⟩ | ⟨sc₁, h₁, hhas, hn⟩
  · have hc₁ := mem_children_iff.mpr (.inl h₁)
    rcases mem_below.mp hm with ⟨sc₂, h₂, -, hm⟩ | ⟨sc₂, h₂, -, hm⟩
    · obtain rfl := hsame hc₁ (mem_children_iff.mpr (.inl h₂)) (prefix_of_mem_nodes hn)
        (prefix_of_mem_nodes hm)
      exact ihSubs sc₁ h₁ hhas (distinct_of_mem hdistinct hc₁) hn hm hpath
    · obtain rfl := hsame hc₁ (mem_children_iff.mpr (.inr h₂)) (prefix_of_mem_nodes hn)
        (prefix_of_mem_nodes hm)
      exact absurd h₂ (not_mem_hooked_of_mem hdistinct h₁)
  · have hc₁ := mem_children_iff.mpr (.inr h₁)
    rcases mem_below.mp hm with ⟨sc₂, h₂, -, hm⟩ | ⟨sc₂, h₂, -, hm⟩
    · obtain rfl := hsame hc₁ (mem_children_iff.mpr (.inl h₂)) (prefix_of_mem_nodes hn)
        (prefix_of_mem_nodes hm)
      exact absurd h₁ (not_mem_hooked_of_mem hdistinct h₂)
    · obtain rfl := hsame hc₁ (mem_children_iff.mpr (.inr h₂)) (prefix_of_mem_nodes hn)
        (prefix_of_mem_nodes hm)
      exact ihHooked sc₁ h₁ hhas (distinct_of_mem hdistinct hc₁) hn hm hpath

/-- What is below a node of a tree is a node of it. -/
lemma below_subset (hn : n ∈ sc.nodes config path around registrar) (hm : m ∈ n.below config) :
    m ∈ sc.nodes config path around registrar := by
  revert hm
  refine mem_nodes_induct (motive := fun path around registrar sc n =>
    m ∈ n.below config → m ∈ sc.nodes config path around registrar)
    (fun _ hm => mem_nodes.mpr (.inr hm)) ?_ ?_ hn
  · intro n₀ sc hsc hhas n _ ih hm
    exact mem_nodes.mpr (.inr (mem_below.mpr (.inl ⟨sc, hsc, hhas, ih hm⟩)))
  · intro n₀ sc hsc hhas n _ ih hm
    exact mem_nodes.mpr (.inr (mem_below.mpr (.inr ⟨sc, hsc, hhas, ih hm⟩)))

/-! ### Taint scopes and hooks -/

/-- The taint scope around a node below another one is that one, or around it, or below it. -/
lemma around_cases_of_below {n₀ : Node} (hbelow : n ∈ n₀.below config)
    (h : n.around = n₀.inner ∨ ∃ t ∈ n₀.below config, ∃ p, t.decl.type = .priorityTaint p ∧
      n.around = some (t.path, p) ∧ n ∈ t.below config) : n.around = n₀.around ∨
    ∃ t ∈ n₀.scope.nodes config n₀.path n₀.around n₀.registrar, ∃ p,
      t.decl.type = .priorityTaint p ∧ n.around = some (t.path, p) ∧ n ∈ t.below config := by
  rcases h with hinner | ⟨t, ht, hrest⟩
  · cases htype : n₀.decl.type with
    | priorityTaint p =>
        rw [Node.inner, htype] at hinner
        exact .inr ⟨n₀, self_mem_nodes, p, htype, hinner, hbelow⟩
    | normal =>
        rw [Node.inner, htype] at hinner
        exact .inl hinner
    | priority p =>
        rw [Node.inner, htype] at hinner
        exact .inl hinner
  · exact .inr ⟨t, below_subset self_mem_nodes ht, hrest⟩

/-- The innermost taint scope around a node is the one around the whole tree, or it is in the tree
and has the node below it. -/
lemma around_cases (hn : n ∈ sc.nodes config path around registrar) : n.around = around ∨
    ∃ t ∈ sc.nodes config path around registrar, ∃ p, t.decl.type = .priorityTaint p ∧
      n.around = some (t.path, p) ∧ n ∈ t.below config := by
  refine mem_nodes_induct (motive := fun path around registrar sc n => n.around = around ∨
    ∃ t ∈ sc.nodes config path around registrar, ∃ p, t.decl.type = .priorityTaint p ∧
      n.around = some (t.path, p) ∧ n ∈ t.below config) (fun _ => .inl rfl) ?_ ?_ hn
  · intro n₀ sc hsc hhas n hn ih
    refine around_cases_of_below (mem_below.mpr (.inl ⟨sc, hsc, hhas, hn⟩)) (ih.imp_right ?_)
    rintro ⟨t, ht, hrest⟩
    exact ⟨t, mem_below.mpr (.inl ⟨sc, hsc, hhas, ht⟩), hrest⟩
  · intro n₀ sc hsc hhas n hn ih
    refine around_cases_of_below (mem_below.mpr (.inr ⟨sc, hsc, hhas, hn⟩)) (ih.imp_right ?_)
    rintro ⟨t, ht, hrest⟩
    exact ⟨t, mem_below.mpr (.inr ⟨sc, hsc, hhas, ht⟩), hrest⟩

lemma mem_entriesAll {x : ℕ × Entry} : x ∈ entriesAll path registrar scs ↔
    ∃ sc ∈ scs, x ∈ sc.entries (path ++ [sc.decl.name]) registrar := by
  induction scs with
  | nil => simp [entriesAll]
  | cons sc scs ih => simp [entriesAll, ih]

lemma mem_entries {x : ℕ × Entry} : x ∈ sc.entries path registrar ↔
    (∃ sc' ∈ sc.subScopes, x ∈ sc'.entries (path ++ [sc'.decl.name]) registrar) ∨
      x.1 ∈ sc.decl.type.number ∧ x.2 = ⟨path, sc, registrar⟩ := by
  obtain ⟨p, entry⟩ := x
  cases sc with
  | mk decl subScopes hooked =>
      rw [Scope.entries, List.mem_append, mem_entriesAll]
      refine or_congr Iff.rfl ?_
      cases hnumber : decl.type.number with
      | none => simp [Scope.decl, hnumber]
      | some q => simp [Scope.decl, hnumber, eq_comm]

/-- A scope with a priority is registered by the constructors, or by the hook of a node. -/
lemma entry_cases (hn : n ∈ sc.nodes config path around registrar) {p : ℕ}
    (hp : p ∈ n.decl.type.number) :
    (n.registrar = registrar ∧ (p, n.entry) ∈ sc.entries path registrar) ∨
      ∃ u ∈ sc.nodes config path around registrar, n.registrar = some u.path ∧
        (p, n.entry) ∈ u.hookEntries := by
  revert hp
  refine mem_nodes_induct
    (motive := fun path around registrar sc n => p ∈ n.decl.type.number →
      (n.registrar = registrar ∧ (p, n.entry) ∈ sc.entries path registrar) ∨
        ∃ u ∈ sc.nodes config path around registrar, n.registrar = some u.path ∧
          (p, n.entry) ∈ u.hookEntries)
    (fun _ hp => .inl ⟨rfl, mem_entries.mpr (.inr ⟨hp, rfl⟩)⟩) ?_ ?_ hn
  · intro n₀ sc hsc hhas n _ ih hp
    rcases ih hp with ⟨hreg, hmem⟩ | ⟨u, hu, hrest⟩
    · exact .inl ⟨hreg, mem_entries.mpr (.inl ⟨sc, hsc, hmem⟩)⟩
    · exact .inr ⟨u, mem_nodes.mpr (.inr (mem_below.mpr (.inl ⟨sc, hsc, hhas, hu⟩))), hrest⟩
  · intro n₀ sc hsc hhas n _ ih hp
    rcases ih hp with ⟨hreg, hmem⟩ | ⟨u, hu, hrest⟩
    · exact .inr ⟨n₀, self_mem_nodes, hreg, mem_entriesAll.mpr ⟨sc, hsc, hmem⟩⟩
    · exact .inr ⟨u, mem_nodes.mpr (.inr (mem_below.mpr (.inr ⟨sc, hsc, hhas, hu⟩))), hrest⟩

/-- A path in the configuration has all of its beginnings there. -/
lemma has_of_beginning {path' : Path} (h : config.has path' = true) (hbegins : path <+: path') :
    config.has path = true := by
  obtain ⟨rest, rfl⟩ := hbegins
  induction rest using List.reverseRecOn with
  | nil => rwa [List.append_nil] at h
  | append_singleton rest name ih =>
      refine ih ?_
      rw [← List.append_assoc] at h
      obtain ⟨members, hgroup, -⟩ := (config.members (path ++ rest) name).mp
        (by simpa [Config.has, Option.isSome_iff_ne_none] using h)
      simp [Config.has, hgroup]

lemma prefix_of_mem_entries {x : ℕ × Entry} (h : x ∈ sc.entries path registrar) :
    path <+: x.2.path := by
  induction sc using Scope.induct generalizing path with
  | mk decl subScopes hooked ih _ =>
      rcases mem_entries.mp h with ⟨sc, hsc, hmem⟩ | ⟨-, heq⟩
      · exact (List.prefix_append _ _).trans (ih sc hsc hmem)
      · rw [heq]

/-- What is registered, and in the configuration, is a node. -/
lemma node_of_entry {x : ℕ × Entry} (h : x ∈ sc.entries path registrar)
    (hhas : config.has x.2.path = true) (around : Option (Path × ℕ)) :
    ∃ n ∈ sc.nodes config path around registrar, x.1 ∈ n.decl.type.number ∧ n.entry = x.2 := by
  revert h
  refine nodes_induct config
    (motive := fun path around registrar sc => x ∈ sc.entries path registrar →
      ∃ n ∈ sc.nodes config path around registrar, x.1 ∈ n.decl.type.number ∧ n.entry = x.2)
    ?_ path around registrar sc
  intro n₀ ihSubs _ h
  rcases mem_entries.mp h with ⟨sc, hsc, hmem⟩ | ⟨hnumber, heq⟩
  · have hhas' := has_of_beginning hhas (prefix_of_mem_entries hmem)
    obtain ⟨n, hn, hrest⟩ := ihSubs sc hsc hhas' hmem
    exact ⟨n, mem_nodes.mpr (.inr (mem_below.mpr (.inl ⟨sc, hsc, hhas', hn⟩))), hrest⟩
  · exact ⟨n₀, self_mem_nodes, hnumber, heq.symm⟩

lemma node_of_hookEntry {x : ℕ × Entry} (h : x ∈ n.hookEntries)
    (hhas : config.has x.2.path = true) :
    ∃ m ∈ n.below config, x.1 ∈ m.decl.type.number ∧ m.entry = x.2 := by
  obtain ⟨sc, hsc, hmem⟩ := mem_entriesAll.mp h
  have hhas' := has_of_beginning hhas (prefix_of_mem_entries hmem)
  obtain ⟨m, hm, hrest⟩ := node_of_entry hmem hhas n.inner
  exact ⟨m, mem_below.mpr (.inr ⟨sc, hsc, hhas', hm⟩), hrest⟩

/-- What is below a path of the configuration is in it. -/
lemma has_of_mem (hhas : config.has path = true)
    (hn : n ∈ sc.nodes config path around registrar) : config.has n.path = true := by
  revert hhas
  refine mem_nodes_induct
    (motive := fun path _ _ _ n => config.has path = true → config.has n.path = true)
    (fun _ h => h) ?_ ?_ hn
  · exact fun _ _ _ hhas _ _ ih _ => ih hhas
  · exact fun _ _ _ hhas _ _ ih _ => ih hhas

lemma mem_numbersAll {p : ℕ} : p ∈ numbersAll scs ↔ ∃ sc ∈ scs, p ∈ sc.numbers := by
  induction scs with
  | nil => simp [numbersAll]
  | cons sc scs ih => simp [numbersAll, ih]

lemma numbers_eq : sc.numbers =
    sc.decl.type.number.toList ++ numbersAll sc.subScopes ++ numbersAll sc.hooked := by
  cases sc
  rw [Scope.numbers]
  rfl

lemma mem_numbers (hn : n ∈ sc.nodes config path around registrar) {p : ℕ}
    (hp : p ∈ n.decl.type.number) : p ∈ sc.numbers := by
  revert hp
  refine mem_nodes_induct (motive := fun _ _ _ sc n => p ∈ n.decl.type.number → p ∈ sc.numbers)
    ?_ ?_ ?_ hn
  · intro n hp
    rw [numbers_eq, List.mem_append, List.mem_append]
    exact .inl (.inl (Option.mem_toList.mpr hp))
  · intro n₀ sc hsc _ n _ ih hp
    rw [numbers_eq, List.mem_append, List.mem_append, mem_numbersAll]
    exact .inl (.inr ⟨sc, hsc, ih hp⟩)
  · intro n₀ sc hsc _ n _ ih hp
    rw [numbers_eq, List.mem_append, mem_numbersAll]
    exact .inr ⟨sc, hsc, ih hp⟩

/-! ### Regions -/

/-- The nodes that a call for the subscopes goes through: it stops at taint scopes. -/
def Node.region (config : Config) (n : Node) : List Node :=
  (n.below config).filter fun m => m.around = n.inner

lemma mem_region : m ∈ n.region config ↔ m ∈ n.below config ∧ m.around = n.inner := by
  rw [Node.region, List.mem_filter, decide_eq_true_iff]

/-- The nodes that a call for the node itself goes through, if it has none of the priority calls. -/
def Node.reach (config : Config) (n : Node) : List Node :=
  (n.scope.nodes config n.path n.around n.registrar).filter fun m => m.around = n.around

lemma registrar_of_mem_entries {x : ℕ × Entry} (h : x ∈ sc.entries path registrar) :
    x.2.registrar = registrar := by
  induction sc using Scope.induct generalizing path with
  | mk decl subScopes hooked ih _ =>
      rcases mem_entries.mp h with ⟨sc, hsc, hmem⟩ | ⟨-, heq⟩
      · exact ih sc hsc hmem
      · rw [heq]

lemma around_lt (haround : ∀ t ∈ around, t.1.length < path.length)
    (hn : n ∈ sc.nodes config path around registrar) :
    ∀ t ∈ n.around, t.1.length < n.path.length := by
  intro t ht
  rcases around_cases hn with heq | ⟨t', -, p, -, heq, hbelow⟩
  · rw [heq] at ht
    exact (haround t ht).trans_le (prefix_of_mem_nodes hn).length_le
  · rw [heq] at ht
    obtain rfl := Option.some.inj ht
    exact length_lt_of_mem_below hbelow

/-- Below a taint scope, none of the nodes has a taint scope further out around it. -/
lemma le_around_of_taint (htaint : n.decl.type.isTaint = true) (hm : m ∈ n.below config) :
    ∀ t ∈ m.around, n.path.length ≤ t.1.length := by
  obtain ⟨sc, -, registrar, -, hm⟩ := exists_of_mem_below hm
  intro t ht
  rcases around_cases hm with heq | ⟨t', ht', p, -, heq, -⟩
  · rw [heq, Node.inner] at ht
    cases htype : n.decl.type with
    | priorityTaint p =>
        rw [htype] at ht
        obtain rfl := Option.some.inj ht
        exact le_rfl
    | normal =>
        rw [htype] at htaint
        cases htaint
    | priority p =>
        rw [htype] at htaint
        cases htaint
  · rw [heq] at ht
    obtain rfl := Option.some.inj ht
    have hlength := (prefix_of_mem_nodes ht').length_le
    rw [List.length_append] at hlength
    exact (Nat.le_add_right _ _).trans hlength

lemma inner_eq_some_of_taint (htaint : n.decl.type.isTaint = true) :
    ∃ p, n.decl.type = .priorityTaint p ∧ n.inner = some (n.path, p) := by
  rw [Node.inner]
  cases htype : n.decl.type with
  | priorityTaint p => exact ⟨p, rfl, rfl⟩
  | normal =>
      rw [htype] at htaint
      cases htaint
  | priority p =>
      rw [htype] at htaint
      cases htaint

lemma inner_eq_of_not_taint (h : n.decl.type.isTaint = false) : n.inner = n.around := by
  rw [Node.inner]
  cases htype : n.decl.type with
  | priorityTaint p =>
      rw [htype] at h
      cases h
  | normal => rfl
  | priority p => rfl

/-- What is below a taint scope has another taint scope around it. -/
lemma around_ne_of_taint (haround : ∀ t ∈ n.around, t.1.length < n.path.length)
    (htaint : n.decl.type.isTaint = true) (hm : m ∈ n.below config) : m.around ≠ n.around := by
  obtain ⟨p, -, hinner⟩ := inner_eq_some_of_taint htaint
  obtain ⟨sc, -, registrar, -, hnodes⟩ := exists_of_mem_below hm
  have hsome : ∃ t, m.around = some t := by
    rcases around_cases hnodes with heq | ⟨t, -, p, -, heq, -⟩
    · exact ⟨_, heq.trans hinner⟩
    · exact ⟨_, heq⟩
  obtain ⟨t, ht⟩ := hsome
  intro heq
  have hle := le_around_of_taint htaint hm t ht
  exact absurd (haround t (heq ▸ ht)) hle.not_gt

lemma reach_eq :
    n.reach config = n :: (n.below config).filter fun m => m.around = n.around := by
  rw [Node.reach, nodes_eq, List.filter_cons, if_pos (decide_eq_true rfl)]

lemma reach_of_taint (haround : ∀ t ∈ n.around, t.1.length < n.path.length)
    (htaint : n.decl.type.isTaint = true) : n.reach config = [n] := by
  have hnone : ∀ m ∈ n.below config, ¬ decide (m.around = n.around) = true := by
    intro m hm
    rw [decide_eq_true_iff]
    exact around_ne_of_taint haround htaint hm
  rw [reach_eq, List.filter_eq_nil_iff.mpr hnone]

lemma reach_of_not_taint (htaint : n.decl.type.isTaint = false) :
    n.reach config = n :: n.region config := by
  rw [reach_eq, Node.region, inner_eq_of_not_taint htaint]

end Nodes

end Xdpd.Management.Scopes
