import Mathlib.Order.WithBot
import Xdpd.Lib.EventLog
import Xdpd.Lib.Programs

/-!
# The scopes of the configuration

A scope validates a group of the configuration: it has parameters and subscopes, which its
constructor registers or its hook `pre_validate`.  `execute` calls the hooks of a scope and goes
through its subscopes.

A subscope can be registered with a priority.  The root goes through those first, in the order of
their priorities; a scope that taints its subscopes takes them with it.  What has been processed
then is not processed again when the root goes through the tree.
-/

namespace Xdpd.Management.Scopes

open Xdpd.Lib Xdpd.Lib.Program

/-! ## The configuration -/

/-- The names on the way from the root. -/
abbrev Path := List String

/-- What a setting is.  The elements of a list or an array have no names. -/
inductive Shape
  | group (members : List String)
  | list (length : ℕ)
  | scalar
  deriving DecidableEq, Repr

/-- A `libconfig::Config`. -/
structure Config where
  lookup : Path → Option Shape
  root : ∃ members, lookup [] = some (.group members)
  members : ∀ path name, lookup (path ++ [name]) ≠ none ↔
    ∃ members, lookup path = some (.group members) ∧ name ∈ members

/-- `exists` -/
def Config.has (config : Config) (path : Path) : Bool := (config.lookup path).isSome

/-- `isGroup` -/
def Config.isGroup (config : Config) (path : Path) : Bool :=
  match config.lookup path with
  | some (.group _) => true
  | _ => false

/-! ## Scopes -/

/-- `__scope_type_t`, with the priority that the scope has been registered with -/
inductive ScopeType
  | normal
  | priority (p : ℕ)
  | priorityTaint (p : ℕ)
  deriving DecidableEq, Repr

def ScopeType.isTaint : ScopeType → Bool
  | priorityTaint _ => true
  | _ => false

def ScopeType.number : ScopeType → Option ℕ
  | normal => none
  | priority p => some p
  | priorityTaint p => some p

/-- A scope without its subscopes. -/
structure Decl where
  name : String
  type : ScopeType := .normal
  mandatory : Bool := false
  /-- the parameters, and whether they are mandatory -/
  parameters : List (String × Bool) := []
  deriving DecidableEq, Repr

/-- A scope, with the subscopes that its constructor registers, and those that its hook
`pre_validate` does. -/
inductive Scope
  | mk (decl : Decl) (subScopes hooked : List Scope)

namespace Scope

def decl : Scope → Decl
  | mk decl _ _ => decl

/-- `sub_scopes`, once the hook has been called -/
def children : Scope → List Scope
  | mk _ subScopes hooked => subScopes ++ hooked

def subScopes : Scope → List Scope
  | mk _ subScopes _ => subScopes

def hooked : Scope → List Scope
  | mk _ _ hooked => hooked

/-- `register_subscope` refuses a second scope with the same name. -/
inductive Distinct : Scope → Prop
  | mk {decl : Decl} {subScopes hooked : List Scope}
      (names : ((subScopes ++ hooked).map fun sc => sc.decl.name).Nodup)
      (inner : ∀ sc ∈ subScopes ++ hooked, Distinct sc) : Distinct (mk decl subScopes hooked)

end Scope

/-- The tree of a root scope. -/
structure ScopeTree where
  root : Scope
  normal : root.decl.type = .normal
  distinct : root.Distinct

/-- A scope of the map `priority_sub_scopes`. -/
structure Entry where
  path : Path
  scope : Scope
  /-- the scope whose hook has made it, if it was not the constructor of the root -/
  registrar : Option Path

mutual

/-- What the constructor of a scope registers with a priority, and the scope itself. -/
def Scope.entries (path : Path) (registrar : Option Path) : Scope → List (ℕ × Entry)
  | .mk decl subScopes hooked =>
      entriesAll path registrar subScopes ++
        (decl.type.number.map fun p => (p, ⟨path, .mk decl subScopes hooked, registrar⟩)).toList

def entriesAll (path : Path) (registrar : Option Path) : List Scope → List (ℕ × Entry)
  | [] => []
  | sc :: scs =>
      sc.entries (path ++ [sc.decl.name]) registrar ++ entriesAll path registrar scs

end

mutual

/-- The priorities in a tree, those of hooks included. -/
def Scope.numbers : Scope → List ℕ
  | .mk decl subScopes hooked =>
      decl.type.number.toList ++ numbersAll subScopes ++ numbersAll hooked

def numbersAll : List Scope → List ℕ
  | [] => []
  | sc :: scs => sc.numbers ++ numbersAll scs

end

/-! ## Execution -/

/-- What is thrown. -/
inductive Exception
  | eConfDuplicatedScope
  | eConfDuplicatedPriority
  | eConfMandatoryParameterNotPresent
  | eConfUnknownElement
  /-- of libconfig, for a setting that does not exist -/
  | settingNotFoundException
  /-- of the standard library, for a string made of `NULL` -/
  | logicError
  /-- another one of a hook -/
  | other
  deriving DecidableEq, Repr

/-- A call of a hook. -/
inductive Event
  | preValidate (path : Path)
  | postValidate (path : Path)
  deriving DecidableEq, Repr

def Event.path : Event → Path
  | preValidate path => path
  | postValidate path => path

/-- The scopes while they are executed. -/
structure State where
  /-- `__processed` -/
  processed : Path → Bool
  /-- the scopes whose hooks have registered what they have to -/
  registered : Path → Bool
  /-- `priority_sub_scopes` of the root -/
  prioritySubScopes : ℕ → Option Entry
  /-- the hooks that have been called, and have returned -/
  log : List Event

/-- The state before the root is made. -/
def State.init : State := ⟨fun _ => false, fun _ => false, fun _ => none, []⟩

abbrev Operation := Program Exception State Unit

/-- `register_priority_subscope`, for the map of the root -/
def registerPriority (entry : ℕ × Entry) : Operation := do
  let taken ← read fun s : State => (s.prioritySubScopes entry.1).isSome
  if taken then throw .eConfDuplicatedPriority
  else
    update fun s =>
      { s with prioritySubScopes := Function.update s.prioritySubScopes entry.1 (some entry.2) }

/-- The registrations of a constructor, or of a hook. -/
def registerAll : List (ℕ × Entry) → Operation
  | [] => pure ()
  | entry :: entries => do
      registerPriority entry
      registerAll entries

-- `throws` is what the hooks throw, if anything.
variable (throws : Event → Option Exception) (config : Config)

/-- The hook does its work. -/
def callHook (e : Event) : Operation :=
  match throws e with
  | some exception => throw exception
  | none => update fun s => { s with log := s.log ++ [e] }

/-- `pre_validate`.  A hook that is called again registers its scopes again, which are there. -/
def preValidate (path : Path) (hooked : List Scope) : Operation := do
  let again ← read fun s : State => s.registered path
  if again && !hooked.isEmpty then throw .eConfDuplicatedScope
  else do
    update fun s => { s with registered := Function.update s.registered path true }
    registerAll (entriesAll path (some path) hooked)
    callHook throws (.preValidate path)

/-- The elements of the setting are parameters or subscopes, if there are any of either. -/
def checkElements (path : Path) (decl : Decl) (children : List Scope) : Operation :=
  if children.isEmpty && decl.parameters.isEmpty then pure ()
  else
    match config.lookup path with
    | some (.group members) =>
        if members.all fun name => decl.parameters.any (fun parameter => parameter.1 = name) ||
            children.any fun sc => sc.decl.name = name then pure ()
        else throw .eConfUnknownElement
    | some (.list length) => if length = 0 then pure () else throw .logicError
    | _ => pure ()

/-- The mandatory parameters are there. -/
def checkParameters (path : Path) (decl : Decl) : Operation :=
  if decl.parameters.all fun parameter => !parameter.2 || config.has (path ++ [parameter.1]) then
    pure ()
  else throw .eConfMandatoryParameterNotPresent

mutual

/-- `scope::execute(Setting&, ..)` -/
def execute (path : Path) (priority_call : Bool) : Scope → Operation
  | .mk decl subScopes hooked => do
      let processed ← read fun s : State => s.processed path
      if processed && decl.type.isTaint then pure ()
      else do
        if processed then pure ()
        else do
          preValidate throws path hooked
          checkElements config path decl (subScopes ++ hooked)
          checkParameters config path decl
        if priority_call = decl.type.isTaint then do
          executeAll path subScopes
          executeAll path hooked
        else pure ()
        let processed ← read fun s : State => s.processed path
        if processed then pure ()
        else do
          callHook throws (.postValidate path)
          update fun s => { s with processed := Function.update s.processed path true }

/-- The loop over the subscopes. -/
def executeAll (path : Path) : List Scope → Operation
  | [] => pure ()
  | sc :: scs => do
      if sc.decl.mandatory && !config.isGroup (path ++ [sc.decl.name]) then
        throw .eConfMandatoryParameterNotPresent
      else if config.has (path ++ [sc.decl.name]) then
        execute (path ++ [sc.decl.name]) false sc
      else pure ()
      executeAll path scs

end

/-- The turn of a priority in the loop over `priority_sub_scopes`.  A scope that is not in the
configuration is passed over. -/
def turn (p : ℕ) : Operation := do
  let entry ← read fun s : State => s.prioritySubScopes p
  match entry with
  | none => pure ()
  | some entry =>
      tryCatch
        (if config.has entry.path then execute throws config entry.path true entry.scope
        else throw .settingNotFoundException)
        fun e => if e = .settingNotFoundException then pure () else throw e

/-- The turns of some priorities. -/
def turns : List ℕ → Operation
  | [] => pure ()
  | p :: ps => do
      turn throws config p
      turns ps

/-- `scope::execute(Config&, ..)`.  The map may grow in front of the iterator, so that every
priority has its turn at which it is looked for. -/
def executeConfig : Scope → Operation
  | .mk decl subScopes hooked => do
      turns throws config (List.range ((Scope.mk decl subScopes hooked).numbers.foldr max 0 + 1))
      preValidate throws [] hooked
      checkParameters config [] decl
      executeAll throws config [] subScopes
      executeAll throws config [] hooked
      callHook throws (.postValidate [])

/-- The root is made, and executed. -/
def run (tree : ScopeTree) : Operation := do
  registerAll (tree.root.entries [] none)
  executeConfig throws config tree.root

/-! ## What is in the configuration -/

/-- A scope that the configuration has a setting for. -/
structure Node where
  path : Path
  scope : Scope
  /-- the innermost scope around it that taints its subscopes, and its priority -/
  around : Option (Path × ℕ)
  /-- the scope whose hook has made it, or one around it; there is none for the scopes that the
  constructors make -/
  registrar : Option Path

namespace Node

variable (n : Node)

def decl : Decl := n.scope.decl

/-- The taint scope around the subscopes. -/
def inner : Option (Path × ℕ) :=
  match n.decl.type with
  | .priorityTaint p => some (n.path, p)
  | _ => n.around

/-- A scope has the priority that it has been registered with, and else that of the innermost taint
scope around it.  The others come last. -/
def prio : WithTop ℕ :=
  match n.decl.type.number, n.around with
  | some p, _ => .some p
  | none, some (_, p) => .some p
  | none, none => ⊤

def events : List Event := [.preValidate n.path, .postValidate n.path]

/-- The node is a subscope of the other one. -/
def IsChild (m : Node) : Prop := ∃ sc ∈ n.scope.children, m.path = n.path ++ [sc.decl.name]

/-- The elements of the setting are declared, if there are any declarations. -/
def ElementsDeclared (config : Config) : Prop :=
  n.scope.children = [] ∧ n.decl.parameters = [] ∨
    match config.lookup n.path with
    | some (.group members) => ∀ name ∈ members,
        (∃ parameter ∈ n.decl.parameters, parameter.1 = name) ∨
          ∃ sc ∈ n.scope.children, sc.decl.name = name
    | some (.list length) => length = 0
    | _ => True

/-- The mandatory parameters are there. -/
def ParametersPresent (config : Config) : Prop :=
  ∀ parameter ∈ n.decl.parameters, parameter.2 = true →
    config.has (n.path ++ [parameter.1]) = true

/-- The mandatory subscopes are there. -/
def SubscopesPresent (config : Config) : Prop :=
  ∀ sc ∈ n.scope.children, sc.decl.mandatory = true →
    config.isGroup (n.path ++ [sc.decl.name]) = true

end Node

mutual

/-- The scope and those below it that are in the configuration. -/
def Scope.nodes (path : Path) (around : Option (Path × ℕ)) (registrar : Option Path) :
    Scope → List Node
  | .mk decl subScopes hooked =>
      let n : Node := ⟨path, .mk decl subScopes hooked, around, registrar⟩
      n :: (nodesAll path n.inner registrar subScopes ++ nodesAll path n.inner (some path) hooked)

def nodesAll (path : Path) (around : Option (Path × ℕ)) (registrar : Option Path) :
    List Scope → List Node
  | [] => []
  | sc :: scs =>
      (if config.has (path ++ [sc.decl.name]) then
        sc.nodes (path ++ [sc.decl.name]) around registrar
      else []) ++ nodesAll path around registrar scs

end

/-- The scopes that are in the configuration. -/
def ScopeTree.nodes (tree : ScopeTree) : List Node := tree.root.nodes config [] none none

/-- What a call that does not throw is to have done, by the hooks that it has called. -/
structure Traversed (tree : ScopeTree) (log : List Event) : Prop where
  once : ∀ n ∈ tree.nodes config, ∀ e ∈ n.events, log.count e = 1
  ordered : ∀ n ∈ tree.nodes config, ∀ m ∈ tree.nodes config, n.prio < m.prio →
    ∀ e ∈ n.events, ∀ e' ∈ m.events, Before log e e'
  childrenFirst : ∀ n ∈ tree.nodes config, n.decl.type = .normal →
    ∀ m ∈ tree.nodes config, n.IsChild m → ∀ e ∈ m.events, Before log e (.postValidate n.path)
  declared : ∀ n ∈ tree.nodes config, n.ElementsDeclared config
  parameters : ∀ n ∈ tree.nodes config, n.ParametersPresent config
  subscopes : ∀ n ∈ tree.nodes config, n.SubscopesPresent config

/-- When it does so: no hook throws; the root has only elements that are declared, if any are; and
each scope with a priority comes before the innermost taint scope around it, and after the scope
whose hook has made it. -/
structure Orderly (tree : ScopeTree) : Prop where
  returns : ∀ n ∈ tree.nodes config, ∀ e ∈ n.events, throws e = none
  rootDeclared : ∀ n ∈ tree.nodes config, n.path = [] → n.ElementsDeclared config
  taints : ∀ n ∈ tree.nodes config, ∀ p ∈ n.decl.type.number, ∀ t ∈ n.around, p < t.2
  registered : ∀ n ∈ tree.nodes config, ∀ p ∈ n.decl.type.number,
    ∀ m ∈ tree.nodes config, n.registrar = some m.path → m.prio < .some p

end Xdpd.Management.Scopes
