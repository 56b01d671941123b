import Mathlib.Data.List.TakeWhile
import Xdpd.Rest.Server

/-!
# The routes of the REST server

The keys that the plugin registers are texts, some with groups `(\w+)` or `([0-9]+)`: `Pattern`.
What the library of regular expressions does with such keys is `Pattern.Matches`.

`resolve_eq_some_iff` says which controller a request is resolved to, by the handler as the plugin
has set it up: the path itself is entered into the table and tried as a regular expression, but the
server copies the handler for each connection.  `serve_of_route` follows a request from the stream
to the function of its route.
-/

namespace Xdpd.Rest

open Lib

/-! ### Patterns -/

/-- The characters that a group captures: those of `\w`, or digits. -/
inductive CharClass
  | word
  | digits
deriving DecidableEq, Repr

/-- The parts of a key: a character, any character, or a group that captures characters of a
class. -/
inductive Atom
  | lit (c : UInt8)
  | any
  | group (cls : CharClass)
deriving DecidableEq, Repr

abbrev Pattern : Type :=
  List Atom

def Atom.render : Atom → List UInt8
  | .lit c => [c]
  | .any => bytes "."
  | .group .word => bytes "(\\w+)"
  | .group .digits => bytes "([0-9]+)"

/-- The text of a key. -/
def Pattern.render (p : Pattern) : List UInt8 :=
  p.flatMap Atom.render

/-- The characters of `\w`. -/
def isWord (c : UInt8) : Bool :=
  isDigit c || (decide (code 'a' ≤ c) && decide (c ≤ code 'z')) ||
    (decide (code 'A' ≤ c) && decide (c ≤ code 'Z')) || c == code '_'

def CharClass.mem : CharClass → UInt8 → Bool
  | .word => isWord
  | .digits => isDigit

/-- A path matches a pattern as a whole, with what the groups capture. -/
inductive Pattern.Matches : Pattern → List UInt8 → List (List UInt8) → Prop
  | nil : Pattern.Matches [] [] []
  | lit {p : Pattern} {path : List UInt8} {grps : List (List UInt8)} (c : UInt8)
      (h : Pattern.Matches p path grps) : Pattern.Matches (.lit c :: p) (c :: path) grps
  | any {p : Pattern} {path : List UInt8} {grps : List (List UInt8)} (c : UInt8)
      (h : Pattern.Matches p path grps) : Pattern.Matches (.any :: p) (c :: path) grps
  | group {p : Pattern} {path : List UInt8} {grps : List (List UInt8)} {w : List UInt8}
      {cls : CharClass} (hne : w ≠ []) (hw : ∀ c ∈ w, cls.mem c) (h : Pattern.Matches p path grps) :
      Pattern.Matches (.group cls :: p) (w ++ path) (w :: grps)

/-- Reads a key as a pattern. -/
def readPattern : List Char → Pattern
  | [] => []
  | '(' :: '\\' :: 'w' :: '+' :: ')' :: cs => .group .word :: readPattern cs
  | '(' :: '[' :: '0' :: '-' :: '9' :: ']' :: '+' :: ')' :: cs => .group .digits :: readPattern cs
  | '.' :: cs => .any :: readPattern cs
  | c :: cs => .lit (code c) :: readPattern cs

/-- What the library is relied on: a key is a regular expression, and matches what it says. -/
def Regex.Reads (regex : Regex) (p : Pattern) : Prop :=
  ∃ expression, regex p.render = some expression ∧
    ∀ path grps, expression path = some grps ↔ p.Matches path grps

/-! ### The tables of the plugin -/

inductive Controller
  | index
  | systemInfo
  | listPlugins
  | listMatchingAlgorithms
  | listPorts
  | portDetail
  | listLsis
  | lsiDetail
  | lsiTableFlows
  | lsiGroups
  | mgmtEnabled
  | portUp
  | portDown
  | attachPort
  | detachPort
  | createLsi
  | createVlink
  | destroySwitch
deriving DecidableEq, Repr

def getPaths : List (String × Controller) :=
  [("/", .index),
    ("/index.htm", .index),
    ("/index.html", .index),
    ("/info/system", .systemInfo),
    ("/info/plugins", .listPlugins),
    ("/info/matching-algorithms", .listMatchingAlgorithms),
    ("/info/ports", .listPorts),
    ("/info/port/(\\w+)", .portDetail),
    ("/info/lsis", .listLsis),
    ("/info/lsi/(\\w+)", .lsiDetail),
    ("/info/lsi/(\\w+)/table/([0-9]+)/flows", .lsiTableFlows),
    ("/info/lsi/(\\w+)/group-table", .lsiGroups)]

def postPaths : List (String × Controller) :=
  [("/mgmt/", .mgmtEnabled),
    ("/mgmt/port/(\\w+)/up", .portUp),
    ("/mgmt/port/(\\w+)/down", .portDown),
    ("/mgmt/attach/port/(\\w+)/(\\w+)", .attachPort),
    ("/mgmt/detach/port/(\\w+)/(\\w+)", .detachPort),
    ("/mgmt/create/lsi", .createLsi)]

def putPaths : List (String × Controller) :=
  [("/mgmt/create/vlink/(\\w+)/(\\w+)", .createVlink)]

def deletePaths : List (String × Controller) :=
  [("/mgmt/destroy/lsi/(\\w+)", .destroySwitch)]

/-- The handler that `srvthread` sets up. -/
def srvHandler : RestHandler Controller :=
  let h := getPaths.foldl (fun h r => h.registerGetPath (bytes r.1) r.2) .new
  let h := postPaths.foldl (fun h r => h.registerPostPath (bytes r.1) r.2) h
  let h := putPaths.foldl (fun h r => h.registerPutPath (bytes r.1) r.2) h
  deletePaths.foldl (fun h r => h.registerDeletePath (bytes r.1) r.2) h

/-- The patterns of registered paths. -/
def routes (paths : List (String × Controller)) : List (Pattern × Controller) :=
  paths.map fun r => (readPattern r.1.toList, r.2)

/-- The routes of a method; a method that is not known is that of `GET`. -/
def routesOf (method : List UInt8) : List (Pattern × Controller) :=
  if method = bytes "post" then routes postPaths
  else if method = bytes "put" then routes putPaths
  else if method = bytes "delete" then routes deletePaths
  else routes getPaths

/-! ### Tables -/

section Table

variable {α : Type}

/-- A table in which functions are registered under the texts of patterns. -/
def table (rs : List (Pattern × α)) : Handlers α :=
  rs.foldl (fun m r => m.insert r.1.render (some r.2)) .empty

/-- Nothing but characters and groups: no character of a path can be taken for the start of a
group, and none ends a string. -/
def Pattern.Plain (p : Pattern) : Prop :=
  ∀ a ∈ p, a ≠ .any ∧ a ≠ .lit (code '(') ∧ a ≠ .lit 0

instance (p : Pattern) : Decidable p.Plain :=
  inferInstanceAs (Decidable (∀ a ∈ p, a ≠ .any ∧ a ≠ .lit (code '(') ∧ a ≠ .lit 0))

/-- The pattern goes on with a character that is not one of a word, or ends. -/
def Pattern.closed : Pattern → Bool
  | [] => true
  | .lit c :: _ => !isWord c
  | _ => false

/-- A sufficient condition for two patterns not to match the same path. -/
def clash : Pattern → Pattern → Bool
  | .lit c :: p, .lit c' :: p' => c != c' || clash p p'
  | .any :: p, .any :: p' => clash p p'
  | .group cls :: p, .group cls' :: p' =>
      cls == cls' && Pattern.closed p && Pattern.closed p' && clash p p'
  | .lit c :: _, .group cls :: _ => !cls.mem c
  | .group cls :: _, .lit c :: _ => !cls.mem c
  | [], .lit _ :: _ => true
  | .lit _ :: _, [] => true
  | _, _ => false

/-- The patterns have different texts and do not match the same path. -/
def Separate (p p' : Pattern) : Prop :=
  clash p p' = true ∧ p.render ≠ p'.render

instance (p p' : Pattern) : Decidable (Separate p p') :=
  inferInstanceAs (Decidable (_ ∧ _))

/-- Two patterns that have different texts and match no path both. -/
def Apart (p p' : Pattern) : Prop :=
  p.render ≠ p'.render ∧ ∀ path grps grps', p.Matches path grps → ¬ p'.Matches path grps'

lemma Apart.symm {p p' : Pattern} (h : Apart p p') : Apart p' p :=
  ⟨h.1.symm, fun path grps grps' hp' hp => h.2 path grps' grps hp hp'⟩

section Matches

variable {p p' : Pattern} {path : List UInt8} {grps grps' : List (List UInt8)}

lemma matches_nil (h : Pattern.Matches [] path grps) : path = [] ∧ grps = [] := by
  cases h
  exact ⟨rfl, rfl⟩

lemma matches_lit {c : UInt8} (h : Pattern.Matches (.lit c :: p) path grps) :
    ∃ path', path = c :: path' ∧ p.Matches path' grps := by
  cases h with
  | lit _ h => exact ⟨_, rfl, h⟩

lemma matches_any (h : Pattern.Matches (.any :: p) path grps) :
    ∃ c path', path = c :: path' ∧ p.Matches path' grps := by
  cases h with
  | any _ h => exact ⟨_, _, rfl, h⟩

lemma matches_group {cls : CharClass} (h : Pattern.Matches (.group cls :: p) path grps) :
    ∃ w path' grps', w ≠ [] ∧ (∀ c ∈ w, cls.mem c) ∧ path = w ++ path' ∧ grps = w :: grps' ∧
      p.Matches path' grps' := by
  cases h with
  | group hne hw h => exact ⟨_, _, _, hne, hw, rfl, rfl, h⟩

/-- A path that matches a group starts with a character of its class. -/
lemma head_of_matches_group {cls : CharClass} (h : Pattern.Matches (.group cls :: p) path grps) :
    ∃ c path', path = c :: path' ∧ cls.mem c := by
  obtain ⟨w, path', grps', hne, hw, rfl, -⟩ := matches_group h
  cases w with
  | nil => exact absurd rfl hne
  | cons c w => exact ⟨c, w ++ path', rfl, hw c List.mem_cons_self⟩

lemma isWord_of_mem {cls : CharClass} {c : UInt8} (h : cls.mem c) : isWord c := by
  cases cls with
  | word => exact h
  | digits =>
      rw [isWord, show isDigit c = true from h]
      rfl

/-- What is matched behind a group does not start with a character that it captures. -/
lemma takeWhile_of_closed (h : p.Matches path grps) (hp : Pattern.closed p = true)
    (cls : CharClass) : path.takeWhile cls.mem = [] := by
  cases h with
  | nil => rfl
  | lit c h =>
      rw [Pattern.closed, Bool.not_eq_true'] at hp
      refine List.takeWhile_cons_of_neg fun hc => ?_
      rw [isWord_of_mem hc] at hp
      exact absurd hp nofun
  | any c h => exact absurd hp (by simp [Pattern.closed])
  | group hne hw h => exact absurd hp (by simp [Pattern.closed])

/-- A group takes all that a path starts with of characters of its class. -/
lemma takeWhile_group {cls : CharClass} {w rest : List UInt8} (hw : ∀ c ∈ w, cls.mem c)
    (hrest : rest.takeWhile cls.mem = []) :
    (w ++ rest).takeWhile cls.mem = w ∧ (w ++ rest).dropWhile cls.mem = rest := by
  have htake : (w ++ rest).takeWhile cls.mem = w := by
    rw [List.takeWhile_append_of_pos hw, hrest, List.append_nil]
  have hsplit : w ++ (w ++ rest).dropWhile cls.mem = w ++ rest := by
    calc w ++ (w ++ rest).dropWhile cls.mem
        = (w ++ rest).takeWhile cls.mem ++ (w ++ rest).dropWhile cls.mem := by rw [htake]
      _ = w ++ rest := List.takeWhile_append_dropWhile
  exact ⟨htake, List.append_cancel_left hsplit⟩

/-- Patterns that clash do not match the same path. -/
lemma not_matches_of_clash (hclash : clash p p' = true) (h : p.Matches path grps) :
    ¬ p'.Matches path grps' := by
  intro h'
  induction p, p' using clash.induct generalizing path grps grps' with
  | case1 c p c' p' ih =>
      rw [clash, Bool.or_eq_true] at hclash
      obtain ⟨path₁, rfl, h₁⟩ := matches_lit h
      obtain ⟨path₂, hpath, h₂⟩ := matches_lit h'
      obtain ⟨rfl, rfl⟩ := List.cons.inj hpath
      exact ih (hclash.resolve_left (by simp)) h₁ h₂
  | case2 p p' ih =>
      obtain ⟨c, path₁, rfl, h₁⟩ := matches_any h
      obtain ⟨c', path₂, hpath, h₂⟩ := matches_any h'
      obtain ⟨-, rfl⟩ := List.cons.inj hpath
      exact ih hclash h₁ h₂
  | case3 cls p cls' p' ih =>
      rw [clash, Bool.and_eq_true, Bool.and_eq_true, Bool.and_eq_true, beq_iff_eq] at hclash
      obtain ⟨⟨⟨rfl, hp⟩, hp'⟩, hclash⟩ := hclash
      obtain ⟨w, path₁, grps₁, -, hw, rfl, rfl, h₁⟩ := matches_group h
      obtain ⟨w', path₂, grps₂, -, hw', hpath, rfl, h₂⟩ := matches_group h'
      have hrest : path₁ = path₂ := by
        rw [← (takeWhile_group hw (takeWhile_of_closed h₁ hp cls)).2, hpath]
        exact (takeWhile_group hw' (takeWhile_of_closed h₂ hp' cls)).2
      exact ih hclash h₁ (hrest ▸ h₂)
  | case4 c p cls p' =>
      obtain ⟨path₁, rfl, -⟩ := matches_lit h
      obtain ⟨c', path₂, hpath, hc'⟩ := head_of_matches_group h'
      obtain ⟨rfl, -⟩ := List.cons.inj hpath
      rw [clash, hc'] at hclash
      exact absurd hclash (by simp)
  | case5 cls p c p' =>
      obtain ⟨path₁, rfl, -⟩ := matches_lit h'
      obtain ⟨c', path₂, hpath, hc'⟩ := head_of_matches_group h
      obtain ⟨rfl, -⟩ := List.cons.inj hpath
      rw [clash, hc'] at hclash
      exact absurd hclash (by simp)
  | case6 c p' =>
      obtain ⟨rfl, -⟩ := matches_nil h
      obtain ⟨path₂, hpath, -⟩ := matches_lit h'
      exact absurd hpath nofun
  | case7 c p =>
      obtain ⟨rfl, -⟩ := matches_nil h'
      obtain ⟨path₂, hpath, -⟩ := matches_lit h
      exact absurd hpath nofun
  | case8 p p' h₁ h₂ h₃ h₄ h₅ h₆ h₇ =>
      exact absurd ((clash.eq_8 p p' h₁ h₂ h₃ h₄ h₅ h₆ h₇).symm.trans hclash) nofun

lemma paren_lt_of_isWord {c : UInt8} (h : isWord c) : code '(' < c := by
  have hall : ∀ i : Fin 256, isWord (UInt8.ofFin i) → code '(' < UInt8.ofFin i := by
    decide +kernel
  exact hall c.toFin h

/-- The text of a group comes before what it captures. -/
lemma render_group_lt {cls : CharClass} {w rest rest' : List UInt8} (hne : w ≠ [])
    (hw : ∀ c ∈ w, cls.mem c) : (Atom.group cls).render ++ rest < w ++ rest' := by
  cases w with
  | nil => exact absurd rfl hne
  | cons c w =>
      have hlt := paren_lt_of_isWord (isWord_of_mem (hw c List.mem_cons_self))
      cases cls <;> exact List.cons_lt_cons_iff.mpr (.inl hlt)

/-- A path that matches a plain pattern is its text, or comes behind it. -/
lemma eq_or_lt_of_matches (hp : p.Plain) (h : p.Matches path grps) :
    (path = p.render ∧ grps = []) ∨ p.render < path := by
  induction h with
  | nil => exact .inl ⟨rfl, rfl⟩
  | lit c h ih =>
      rcases ih (List.forall_mem_cons.mp hp).2 with ⟨rfl, rfl⟩ | hlt
      · exact .inl ⟨rfl, rfl⟩
      · exact .inr (List.cons_lt_cons_iff.mpr (.inr ⟨rfl, hlt⟩))
  | any c h => exact absurd rfl (List.forall_mem_cons.mp hp).1.1
  | group hne hw h => exact .inr (render_group_lt hne hw)

lemma paren_not_mem_group {cls : CharClass} {w : List UInt8} (hw : ∀ c ∈ w, cls.mem c) :
    code '(' ∉ w :=
  fun h => lt_irrefl _ (paren_lt_of_isWord (isWord_of_mem (hw _ h)))

/-- There is no parenthesis in a path that matches a plain pattern. -/
lemma paren_not_mem (hp : p.Plain) (h : p.Matches path grps) : code '(' ∉ path := by
  induction h with
  | nil => exact List.not_mem_nil
  | lit c h ih =>
      obtain ⟨hc, hp⟩ := List.forall_mem_cons.mp hp
      rw [List.mem_cons, not_or]
      exact ⟨fun heq => hc.2.1 (by rw [heq]), ih hp⟩
  | any c h => exact absurd rfl (List.forall_mem_cons.mp hp).1.1
  | group hne hw h ih =>
      rw [List.mem_append, not_or]
      exact ⟨paren_not_mem_group hw, ih (List.forall_mem_cons.mp hp).2⟩

/-- A text without groups matches itself. -/
lemma matches_render (p : Pattern) (hparen : code '(' ∉ p.render) : p.Matches p.render [] := by
  induction p with
  | nil => exact .nil
  | cons a p ih =>
      rw [Pattern.render, List.flatMap_cons, List.mem_append, not_or] at hparen
      have htail := ih hparen.2
      cases a with
      | lit c => exact .lit c htail
      | any => exact .any (code '.') htail
      | group cls => cases cls <;> exact absurd List.mem_cons_self hparen.1

end Matches

/-! ### Resolving a path -/

section Resolve

variable {regex : Regex} {rs : List (Pattern × α)} {path : List UInt8} {grps : List (List UInt8)}

lemma mem_foldl_insert {m : Handlers α} {e : List UInt8 × Option α}
    (he : e ∈ (rs.foldl (fun m r => m.insert r.1.render (some r.2)) m).entries) :
    e ∈ m.entries ∨ ∃ r ∈ rs, e = (r.1.render, some r.2) := by
  induction rs generalizing m with
  | nil => exact .inl he
  | cons r rs ih =>
      rcases ih he with he | ⟨r', hr', he⟩
      · rcases SortedMap.mem_insert.mp he with he | ⟨he, -⟩
        · exact .inr ⟨r, List.mem_cons_self, he⟩
        · exact .inl he
      · exact .inr ⟨r', List.mem_cons_of_mem r hr', he⟩

/-- Each entry of a table is that of a route. -/
lemma exists_route_of_mem_table {e : List UInt8 × Option α} (he : e ∈ (table rs).entries) :
    ∃ r ∈ rs, e = (r.1.render, some r.2) :=
  (mem_foldl_insert he).resolve_left List.not_mem_nil

lemma mem_foldl_of_mem {m : Handlers α} {e : List UInt8 × Option α} (he : e ∈ m.entries)
    (hne : ∀ r ∈ rs, e.1 ≠ r.1.render) :
    e ∈ (rs.foldl (fun m r => m.insert r.1.render (some r.2)) m).entries := by
  induction rs generalizing m with
  | nil => exact he
  | cons r rs ih =>
      obtain ⟨hr, hrs⟩ := List.forall_mem_cons.mp hne
      exact ih (SortedMap.mem_insert.mpr (.inr ⟨he, hr⟩)) hrs

/-- Each route has its entry. -/
lemma mem_table (hsep : rs.Pairwise fun r r' => Apart r.1 r'.1) {r : Pattern × α} (hr : r ∈ rs) :
    (r.1.render, some r.2) ∈ (table rs).entries := by
  obtain ⟨rs₁, rs₂, rfl⟩ := List.append_of_mem hr
  rw [List.pairwise_append, List.pairwise_cons] at hsep
  rw [table, List.foldl_append, List.foldl_cons]
  exact mem_foldl_of_mem (SortedMap.mem_insert.mpr (.inl rfl)) fun r' hr' => (hsep.2.1.1 r' hr').1

/-- The routes of a table are told apart by their texts and by the paths that they match. -/
lemma apart_of_ne (hsep : rs.Pairwise fun r r' => Apart r.1 r'.1) {r r' : Pattern × α} (hr : r ∈ rs)
    (hr' : r' ∈ rs) (hne : r.1.render ≠ r'.1.render) : Apart r.1 r'.1 := by
  induction hsep with
  | nil => exact absurd hr List.not_mem_nil
  | cons hhead _ ih =>
      rcases List.mem_cons.mp hr with rfl | htail
      · rcases List.mem_cons.mp hr' with rfl | htail'
        · exact absurd rfl hne
        · exact hhead r' htail'
      · rcases List.mem_cons.mp hr' with rfl | htail'
        · exact (hhead r htail).symm
        · exact ih htail htail'

/-- The key is an expression that does not match the path. -/
def Misses (regex : Regex) (key path : List UInt8) : Prop :=
  ∃ expression, regex key = some expression ∧ expression path = none

/-- The loop finds the first key that matches, if all keys before it are expressions. -/
lemma firstMatch_eq_some_iff {es : List (List UInt8 × Option α)} {f : Option α} :
    firstMatch regex path es = some (f, grps) ↔
      ∃ es₁ e es₂, es = es₁ ++ e :: es₂ ∧ (∀ e' ∈ es₁, Misses regex e'.1 path) ∧ e.2 = f ∧
        ∃ expression, regex e.1 = some expression ∧ expression path = some grps := by
  induction es with
  | nil =>
      refine iff_of_false nofun ?_
      rintro ⟨es₁, e, es₂, hes, -⟩
      exact absurd hes.symm (by simp)
  | cons e es ih =>
      constructor
      · intro h
        rw [firstMatch] at h
        cases hexpr : regex e.1 with
        | none => rw [hexpr] at h; exact absurd h nofun
        | some expression =>
            rw [hexpr] at h
            cases hmatch : expression path with
            | none =>
                simp only [hmatch] at h
                obtain ⟨es₁, e', es₂, rfl, hes₁, he'⟩ := ih.mp h
                refine ⟨e :: es₁, e', es₂, rfl, ?_, he'⟩
                exact List.forall_mem_cons.mpr ⟨⟨expression, hexpr, hmatch⟩, hes₁⟩
            | some grps' =>
                simp only [hmatch] at h
                obtain ⟨rfl, rfl⟩ := Prod.mk.inj (Option.some.inj h)
                exact ⟨[], e, es, rfl, nofun, rfl, expression, hexpr, hmatch⟩
      · rintro ⟨es₁, e', es₂, hes, hes₁, he'⟩
        rw [firstMatch]
        cases es₁ with
        | nil =>
            obtain ⟨rfl, rfl⟩ := List.cons.inj hes
            obtain ⟨rfl, expression, hexpr, hmatch⟩ := he'
            rw [hexpr]
            simp only [hmatch]
        | cons e₁ es₁ =>
            obtain ⟨rfl, rfl⟩ := List.cons.inj hes
            obtain ⟨⟨expression, hexpr, hmatch⟩, hes₁⟩ := List.forall_mem_cons.mp hes₁
            rw [hexpr]
            simp only [hmatch]
            exact ih.mpr ⟨es₁, e', es₂, rfl, hes₁, he'⟩

/-- The path that is asked for, as it is looked up. -/
lemma getHandler_of_key (hsep : rs.Pairwise fun r r' => Apart r.1 r'.1) {r : Pattern × α}
    (hr : r ∈ rs) {reqPath : List UInt8} (hkey : stripSlash reqPath = r.1.render) :
    (getHandler regex (table rs) reqPath).1 = some (some r.2, []) := by
  have hfind := SortedMap.find_eq_some_iff.mpr (mem_table hsep hr)
  rw [getHandler, hkey, SortedMap.subscript_of_some hfind]

/-- A string ends at its first zero, so it comes behind what `c_str` shows of it. -/
lemma cStr_eq_or_lt (s : List UInt8) : cStr s = s ∨ cStr s < s := by
  induction s with
  | nil => exact .inl rfl
  | cons c s ih =>
      by_cases hc : c = 0
      · refine .inr ?_
        rw [cStr, List.takeWhile_cons_of_neg (by simpa using hc)]
        exact List.nil_lt_cons c s
      · rw [cStr, List.takeWhile_cons_of_pos (by simpa using hc)]
        rcases ih with ih | ih
        · exact .inl (congrArg (c :: ·) ih)
        · exact .inr (List.cons_lt_cons_iff.mpr (.inr ⟨rfl, ih⟩))

lemma cStr_of_not_mem {s : List UInt8} (h : 0 ∉ s) : cStr s = s := by
  induction s with
  | nil => rfl
  | cons c s ih =>
      rw [List.mem_cons, not_or] at h
      rw [cStr, List.takeWhile_cons_of_pos (by simpa using Ne.symm h.1)]
      exact congrArg (c :: ·) (ih h.2)

/-- A route answers a path, as it is looked up: the path is its key, or it is no key, matches the
pattern of the route, and does not stop the search where it has been entered itself. -/
def Answers (regex : Regex) (rs : List (Pattern × α)) (r : Pattern × α) (path : List UInt8)
    (grps : List (List UInt8)) : Prop :=
  (path = r.1.render ∧ grps = []) ∨
    ((∀ r' ∈ rs, path ≠ r'.1.render) ∧ r.1.Matches (cStr path) grps ∧
      (r.1.render < path ∨ Misses regex path (cStr path)))

/-- **What a path is resolved to.**  In a table whose patterns are apart, a path is resolved to the
function of the route that answers it, and to no function if there is none. -/
theorem getHandler_eq_some_iff (hsep : rs.Pairwise fun r r' => Apart r.1 r'.1)
    (hreads : ∀ r ∈ rs, regex.Reads r.1) {reqPath : List UInt8} {f : α} :
    (getHandler regex (table rs) reqPath).1 = some (some f, grps) ↔
      ∃ r ∈ rs, r.2 = f ∧ Answers regex rs r (stripSlash reqPath) grps := by
  set path := stripSlash reqPath with hpath
  cases hfind : (table rs).find path with
  | some f' =>
      obtain ⟨r', hr', he⟩ := exists_route_of_mem_table (SortedMap.find_eq_some_iff.mp hfind)
      obtain ⟨hkey', rfl⟩ := Prod.mk.inj he
      rw [getHandler_of_key hsep hr' hkey']
      constructor
      · intro h
        obtain ⟨hf, rfl⟩ := Prod.mk.inj (Option.some.inj h)
        exact ⟨r', hr', Option.some.inj hf, .inl ⟨hkey', rfl⟩⟩
      · rintro ⟨r, hr, rfl, ⟨hkey, rfl⟩ | ⟨hnokey, -⟩⟩
        · have hmem := mem_table hsep hr
          rw [← hkey] at hmem
          rw [Option.some.inj (hfind.symm.trans (SortedMap.find_eq_some_iff.mpr hmem))]
        · exact absurd hkey' (hnokey r' hr')
  | none =>
      have hnokey : ∀ r ∈ rs, path ≠ r.1.render := fun r hr hkey =>
        SortedMap.find_eq_none_iff.mp hfind _ (mem_table hsep hr) hkey.symm
      have hsorted := ((table rs).insert path none).sorted
      rw [getHandler, ← hpath, SortedMap.subscript_of_none hfind]
      simp only [firstMatch_eq_some_iff]
      constructor
      · rintro ⟨es₁, e, es₂, hes, hes₁, hf, expression, hexpr, hmatch⟩
        have he : e ∈ ((table rs).insert path none).entries := by simp [hes]
        rcases SortedMap.mem_insert.mp he with rfl | ⟨he, -⟩
        · exact absurd hf nofun
        · obtain ⟨r, hr, rfl⟩ := exists_route_of_mem_table he
          obtain ⟨expression', hexpr', hiff⟩ := hreads r hr
          obtain rfl := Option.some.inj (hexpr.symm.trans hexpr')
          refine ⟨r, hr, Option.some.inj hf, .inr ⟨hnokey, (hiff _ _).mp hmatch, ?_⟩⟩
          rcases lt_or_gt_of_ne (hnokey r hr) with hlt | hlt
          · -- the path comes first, so it has been tried as an expression
            have hown : (path, none) ∈ ((table rs).insert path none).entries :=
              SortedMap.mem_insert.mpr (.inl rfl)
            rw [hes, List.mem_append, List.mem_cons] at hown
            rw [hes, List.pairwise_append, List.pairwise_cons] at hsorted
            rcases hown with hown | hown | hown
            · exact .inr (hes₁ _ hown)
            · exact absurd (Prod.mk.inj hown).2 nofun
            · exact absurd (hsorted.2.1.1 _ hown) (lt_asymm hlt)
          · exact .inl hlt
      · rintro ⟨r, hr, rfl, ⟨hkey, -⟩ | ⟨-, hmatch, hown⟩⟩
        · exact absurd hkey (hnokey r hr)
        · obtain ⟨es₁, es₂, hes⟩ := List.append_of_mem
            (SortedMap.mem_insert.mpr (.inr ⟨mem_table hsep hr, (hnokey r hr).symm⟩) :
              (r.1.render, some r.2) ∈ ((table rs).insert path none).entries)
          rw [hes, List.pairwise_append] at hsorted
          obtain ⟨expression, hexpr, hiff⟩ := hreads r hr
          refine ⟨es₁, _, es₂, hes, ?_, rfl, expression, hexpr, (hiff _ _).mpr hmatch⟩
          intro e' he'
          have hlt := hsorted.2.2 e' he' _ List.mem_cons_self
          have hmem : e' ∈ ((table rs).insert path none).entries :=
            hes ▸ List.mem_append_left _ he'
          rcases SortedMap.mem_insert.mp hmem with rfl | ⟨hmem, -⟩
          · exact hown.resolve_left (lt_asymm hlt)
          · obtain ⟨r', hr', rfl⟩ := exists_route_of_mem_table hmem
            have hapart : Apart r'.1 r.1 := apart_of_ne hsep hr' hr (ne_of_lt hlt)
            obtain ⟨expression', hexpr', hiff'⟩ := hreads r' hr'
            refine ⟨expression', hexpr', ?_⟩
            cases hnone : expression' (cStr path) with
            | none => rfl
            | some grps' => exact absurd hmatch (hapart.2 _ _ _ ((hiff' _ _).mp hnone))

/-- A path that matches a plain pattern is answered by its route: it is no other key, and the key of
the route comes before it. -/
lemma answers_of_matches (hsep : rs.Pairwise fun r r' => Apart r.1 r'.1)
    (hnul : ∀ r ∈ rs, (0 : UInt8) ∉ r.1.render) {r : Pattern × α} (hr : r ∈ rs)
    (hplain : r.1.Plain) (hmatch : r.1.Matches (cStr path) grps) :
    Answers regex rs r path grps := by
  by_cases hkey : path = r.1.render
  · rw [hkey, cStr_of_not_mem (hnul r hr)] at hmatch
    exact .inl ⟨hkey, ((eq_or_lt_of_matches hplain hmatch).resolve_right (lt_irrefl _)).2⟩
  · refine .inr ⟨?_, hmatch, .inl ?_⟩
    · intro r' hr' hkey'
      have hne : r.1.render ≠ r'.1.render := fun h => hkey (hkey'.trans h.symm)
      rw [hkey', cStr_of_not_mem (hnul r' hr')] at hmatch
      exact (apart_of_ne hsep hr hr' hne).2 _ _ _ hmatch
        (matches_render r'.1 (paren_not_mem hplain hmatch))
    · rcases eq_or_lt_of_matches hplain hmatch with ⟨heq, -⟩ | hlt
      · rcases cStr_eq_or_lt path with hself | hlt
        · exact absurd (hself.symm.trans heq) hkey
        · exact heq ▸ hlt
      · rcases cStr_eq_or_lt path with hself | hlt'
        · exact hself ▸ hlt
        · exact lt_trans hlt hlt'

end Resolve

end Table

/-! ### The plugin -/

section Plugin

variable {regex : Regex} {method path : List UInt8} {grps : List (List UInt8)}

/-- The text of a key that is read as a pattern is the key. -/
lemma render_readPattern (cs : List Char) : (readPattern cs).render = cs.map code := by
  induction cs using readPattern.induct with
  | case1 => rfl
  | case2 cs ih => rw [readPattern, Pattern.render, List.flatMap_cons]; exact congrArg (_ ++ ·) ih
  | case3 cs ih => rw [readPattern, Pattern.render, List.flatMap_cons]; exact congrArg (_ ++ ·) ih
  | case4 cs ih => rw [readPattern, Pattern.render, List.flatMap_cons]; exact congrArg (_ ++ ·) ih
  | case5 c cs h₁ h₂ h₃ ih =>
      rw [readPattern.eq_5 c cs h₁ h₂ h₃, Pattern.render, List.flatMap_cons]
      exact congrArg (_ ++ ·) ih

lemma foldl_insert_eq_table (paths : List (String × Controller)) :
    paths.foldl (fun m r => m.insert (bytes r.1) (some r.2)) SortedMap.empty =
      table (routes paths) := by
  rw [table, routes, List.foldl_map]
  refine List.foldl_ext _ _ _ ?_
  intro m r _
  rw [render_readPattern]
  rfl

lemma srvHandler_eq : srvHandler = 
    ⟨table (routes getPaths), table (routes postPaths), table (routes putPaths),
      table (routes deletePaths), RestHandler.methodsToEnum (α := Controller) .new⟩ := by
  simp only [← foldl_insert_eq_table]
  rfl

/-- What the names of methods stand for. -/
def httpMethod (name : List UInt8) : HttpMethod :=
  if name = bytes "post" then .post
  else if name = bytes "put" then .put
  else if name = bytes "delete" then .delete
  else .get

lemma subscript_methodsToEnum (name : List UInt8) :
    ((RestHandler.new : RestHandler Controller).methodsToEnum.subscript name .get).1 =
      httpMethod name := by
  have hfind : (RestHandler.new : RestHandler Controller).methodsToEnum.find name =
      if name = bytes "get" then some .get else if httpMethod name = .get then none else
        some (httpMethod name) := by
    rw [RestHandler.new, httpMethod]
    by_cases hdelete : name = bytes "delete"
    · rw [hdelete, SortedMap.find_insert_self]
      decide
    · rw [SortedMap.find_insert_of_ne _ hdelete, if_neg hdelete]
      by_cases hput : name = bytes "put"
      · rw [hput, SortedMap.find_insert_self]
        decide
      · rw [SortedMap.find_insert_of_ne _ hput, if_neg hput]
        by_cases hpost : name = bytes "post"
        · rw [hpost, SortedMap.find_insert_self]
          decide
        · rw [SortedMap.find_insert_of_ne _ hpost, if_neg hpost]
          by_cases hget : name = bytes "get"
          · rw [hget, SortedMap.find_insert_self]
            decide
          · rw [SortedMap.find_insert_of_ne _ hget, if_neg hget]
            rfl
  by_cases hget : name = bytes "get"
  · rw [if_pos hget] at hfind
    rw [SortedMap.subscript_of_some hfind, hget]
    decide
  · rw [if_neg hget] at hfind
    by_cases hm : httpMethod name = .get
    · rw [if_pos hm] at hfind
      rw [SortedMap.subscript_of_none hfind, hm]
    · rw [if_neg hm] at hfind
      rw [SortedMap.subscript_of_some hfind]

/-- A method selects the table of its routes. -/
lemma resolve_eq (method path : List UInt8) :
    (srvHandler.resolve regex method path).1 =
      (getHandler regex (table (routesOf (method.map tolower))) path).1 := by
  rw [srvHandler_eq, RestHandler.resolve]
  simp only [subscript_methodsToEnum, httpMethod, routesOf]
  by_cases hpost : method.map tolower = bytes "post"
  · simp only [if_pos hpost]
  · simp only [if_neg hpost]
    by_cases hput : method.map tolower = bytes "put"
    · simp only [if_pos hput]
    · simp only [if_neg hput]
      by_cases hdelete : method.map tolower = bytes "delete"
      · simp only [if_pos hdelete]
      · simp only [if_neg hdelete]

lemma pairwise_apart {rs : List (Pattern × Controller)}
    (h : rs.Pairwise fun r r' => Separate r.1 r'.1) : rs.Pairwise fun r r' => Apart r.1 r'.1 :=
  h.imp fun h => ⟨h.2, fun _ _ _ hp hp' => not_matches_of_clash h.1 hp hp'⟩

/-- The tables of the plugin meet what the rules above ask for. -/
lemma routesOf_spec (method : List UInt8) :
    ((routesOf method).Pairwise fun r r' => Apart r.1 r'.1) ∧
      (∀ r ∈ routesOf method, (0 : UInt8) ∉ r.1.render) ∧
      ∀ r ∈ routesOf method, r.2 ≠ .index → r.1.Plain := by
  have hget : ((routes getPaths).Pairwise fun r r' => Separate r.1 r'.1) ∧
      (∀ r ∈ routes getPaths, (0 : UInt8) ∉ r.1.render) ∧
      ∀ r ∈ routes getPaths, r.2 ≠ .index → r.1.Plain := by decide +kernel
  have hpost : ((routes postPaths).Pairwise fun r r' => Separate r.1 r'.1) ∧
      (∀ r ∈ routes postPaths, (0 : UInt8) ∉ r.1.render) ∧
      ∀ r ∈ routes postPaths, r.2 ≠ .index → r.1.Plain := by decide +kernel
  have hput : ((routes putPaths).Pairwise fun r r' => Separate r.1 r'.1) ∧
      (∀ r ∈ routes putPaths, (0 : UInt8) ∉ r.1.render) ∧
      ∀ r ∈ routes putPaths, r.2 ≠ .index → r.1.Plain := by decide +kernel
  have hdelete : ((routes deletePaths).Pairwise fun r r' => Separate r.1 r'.1) ∧
      (∀ r ∈ routes deletePaths, (0 : UInt8) ∉ r.1.render) ∧
      ∀ r ∈ routes deletePaths, r.2 ≠ .index → r.1.Plain := by decide +kernel
  rw [routesOf]
  split_ifs
  · exact ⟨pairwise_apart hpost.1, hpost.2⟩
  · exact ⟨pairwise_apart hput.1, hput.2⟩
  · exact ⟨pairwise_apart hdelete.1, hdelete.2⟩
  · exact ⟨pairwise_apart hget.1, hget.2⟩

/-- The keys of the plugin are expressions, and match what they say. -/
def Regex.ReadsKeys (regex : Regex) : Prop :=
  ∀ r ∈ routes (getPaths ++ postPaths ++ putPaths ++ deletePaths), regex.Reads r.1

lemma Regex.ReadsKeys.routesOf (h : regex.ReadsKeys) (method : List UInt8) :
    ∀ r ∈ routesOf method, regex.Reads r.1 := by
  intro r hr
  refine h r ?_
  rw [routes, List.map_append, List.map_append, List.map_append]
  rw [Rest.routesOf] at hr
  split_ifs at hr with hpost hput hdelete
  · exact List.mem_append_left _ (List.mem_append_left _ (List.mem_append_right _ hr))
  · exact List.mem_append_left _ (List.mem_append_right _ hr)
  · exact List.mem_append_right _ hr
  · exact List.mem_append_left _ (List.mem_append_left _ (List.mem_append_left _ hr))

/-- The path, as it is looked up, is the key of the route, or matches its pattern. -/
def Selects (r : Pattern × Controller) (path : List UInt8) (grps : List (List UInt8)) : Prop :=
  (stripSlash path = r.1.render ∧ grps = []) ∨ r.1.Matches (cStr (stripSlash path)) grps

/-- The route that a path selects answers it, unless it is that of the index page, whose keys have
a dot. -/
lemma answers_of_selects (method : List UInt8) {r : Pattern × Controller} (hr : r ∈ routesOf method)
    (hk : r.2 ≠ .index) (hsel : Selects r path grps) :
    Answers regex (routesOf method) r (stripSlash path) grps := by
  obtain ⟨hsep, hnul, hplain⟩ := routesOf_spec method
  rcases hsel with hkey | hmatch
  · exact .inl hkey
  · exact answers_of_matches hsep hnul hr (hplain r hr hk) hmatch

/-- **Which controller answers.**  A request is resolved to a controller, other than that of the
index page, exactly when its path, without a slash at the end, selects the route of the controller
among those of its method. -/
theorem resolve_eq_some_iff (hkeys : regex.ReadsKeys) {k : Controller} (hk : k ≠ .index) :
    (srvHandler.resolve regex method path).1 = some (some k, grps) ↔
      ∃ r ∈ routesOf (method.map tolower), r.2 = k ∧ Selects r path grps := by
  rw [resolve_eq, getHandler_eq_some_iff (routesOf_spec _).1 (hkeys.routesOf _)]
  refine exists_congr fun r => and_congr_right fun hr => and_congr_right fun hf => ?_
  constructor
  · rintro (hkey | ⟨-, hmatch, -⟩)
    · exact .inl hkey
    · exact .inr hmatch
  · exact answers_of_selects _ hr (hf ▸ hk)

/-- **From the stream to the controller.**  If a stream starts with the text of a message whose
encoded path, without a slash at the end, selects a route of its method, other than those of the
index page, then the reply is what the controller of the route makes of the request, however the
stream is cut and whatever follows. -/
theorem serve_of_route (hkeys : regex.ReadsKeys) {lexicalCast : List UInt8 → Option UInt64}
    (call : Controller → Request → Reply → List (List UInt8) → Option Reply) (rep : Reply)
    {s : Parsing} (hs : s.Fresh) (reads : List (List UInt8)) (m : Message lexicalCast)
    {rest : List UInt8} (hreads : reads.flatten = m.render ++ rest) (hpath : Encodes path m.uri)
    {r : Pattern × Controller} (hr : r ∈ routesOf (m.method.map tolower)) (hk : r.2 ≠ .index)
    (hsel : Selects r path grps) :
    serve lexicalCast (fun req => (srvHandler.handle regex call req rep).1) s reads =
      some (execute call (some r.2) grps m.request rep) := by
  have hresolve : (srvHandler.resolve regex m.request.method path).1 = some (some r.2, grps) := by
    rw [resolve_eq, getHandler_eq_some_iff (routesOf_spec _).1 (hkeys.routesOf _)]
    exact ⟨r, hr, rfl, answers_of_selects _ hr hk hsel⟩
  rw [serve_of_message hs m hreads,
    RestHandler.handle_of_resolve rep (urlDecode_of_encodes hpath) hresolve]

/-! ### An instance of the library -/

/-- A matcher for patterns: the groups take all they can. -/
def Pattern.run : Pattern → List UInt8 → Option (List (List UInt8))
  | [], [] => some []
  | [], _ :: _ => none
  | .lit c :: p, c' :: path => if c = c' then Pattern.run p path else none
  | .any :: p, _ :: path => Pattern.run p path
  | .lit _ :: _, [] => none
  | .any :: _, [] => none
  | .group cls :: p, path =>
      if path.takeWhile cls.mem = [] then none
      else (Pattern.run p (path.dropWhile cls.mem)).map (path.takeWhile cls.mem :: ·)

/-- Behind each group, the pattern goes on with a character that is not one of a word, or ends. -/
def Pattern.tight : Pattern → Bool
  | [] => true
  | .group _ :: p => Pattern.closed p && Pattern.tight p
  | .lit _ :: p => Pattern.tight p
  | .any :: p => Pattern.tight p

/-- What the matcher finds is a match. -/
lemma matches_of_run {p : Pattern} (h : Pattern.run p path = some grps) : p.Matches path grps := by
  induction p, path using Pattern.run.induct generalizing grps with
  | case1 =>
      obtain rfl := Option.some.inj h
      exact .nil
  | case2 => exact absurd h nofun
  | case3 p c path ih =>
      rw [Pattern.run, if_pos rfl] at h
      exact .lit c (ih h)
  | case4 c p c' path hne =>
      rw [Pattern.run, if_neg hne] at h
      exact absurd h nofun
  | case5 p c path ih => exact .any c (ih h)
  | case6 => exact absurd h nofun
  | case7 => exact absurd h nofun
  | case8 cls p path hnil =>
      rw [Pattern.run, if_pos hnil] at h
      exact absurd h nofun
  | case9 cls p path hne ih =>
      rw [Pattern.run, if_neg hne, Option.map_eq_some_iff] at h
      obtain ⟨grps', hrun, rfl⟩ := h
      have hall : ∀ c ∈ path.takeWhile cls.mem, cls.mem c := fun c hc => List.mem_takeWhile_imp hc
      have hmatch := Pattern.Matches.group hne hall (ih hrun)
      rwa [List.takeWhile_append_dropWhile] at hmatch

/-- A match of a tight pattern is found. -/
lemma run_of_matches {p : Pattern} (hp : Pattern.tight p = true) (h : p.Matches path grps) :
    Pattern.run p path = some grps := by
  induction h with
  | nil => rfl
  | lit c h ih => rw [Pattern.run, if_pos rfl, ih hp]
  | any c h ih => rw [Pattern.run, ih hp]
  | group hne hw h ih =>
      rw [Pattern.tight, Bool.and_eq_true] at hp
      obtain ⟨htake, hdrop⟩ := takeWhile_group hw (takeWhile_of_closed h hp.1 _)
      rw [Pattern.run, htake, hdrop, if_neg hne, ih hp.2]
      rfl

/-- A library that reads every text as a pattern. -/
def patternRegex : Regex :=
  fun key => some (Pattern.run (readPattern (key.map fun c => Char.ofNat c.toNat)))

lemma patternRegex_readsKeys : patternRegex.ReadsKeys := by
  have hkeys : ∀ r ∈ routes (getPaths ++ postPaths ++ putPaths ++ deletePaths),
      readPattern (r.1.render.map fun c => Char.ofNat c.toNat) = r.1 ∧
        Pattern.tight r.1 = true := by decide +kernel
  intro r hr
  obtain ⟨hread, htight⟩ := hkeys r hr
  refine ⟨Pattern.run r.1, ?_, fun path grps => ⟨matches_of_run, run_of_matches htight⟩⟩
  rw [patternRegex, hread]

theorem resolve_eq_some_iff_sample :
    (srvHandler.resolve patternRegex (bytes "PoSt") (bytes "/mgmt/port/eth0/up/")).1 =
      some (some .portUp, [bytes "eth0"]) :=
  (resolve_eq_some_iff patternRegex_readsKeys (by decide)).mpr
    ⟨(readPattern "/mgmt/port/(\\w+)/up".toList, .portUp), by decide +kernel, rfl,
      .inr (matches_of_run (by decide +kernel))⟩

lemma encodes_sampleMessage : Encodes (bytes "/info/port/eth0") sampleMessage.uri :=
  (Encodes.escape (v := 3) (w := 0) rfl rfl .nil).append_raw (bytes "/info/port/eth")
    (by decide +kernel)

theorem serve_of_route_sample :
    serve (fun _ => some 1) (fun req => (srvHandler.handle patternRegex
      (fun _ _ _ grps => some ⟨.accepted, [], grps.flatten⟩) req (stockReply .ok)).1)
      freshParsing [sampleMessage.render] =
      some ⟨.accepted, contentHeaders (bytes "eth0") "application/json", bytes "eth0"⟩ :=
  serve_of_route (r := (readPattern "/info/port/(\\w+)".toList, .portDetail)) patternRegex_readsKeys
    (fun _ _ _ grps => some ⟨.accepted, [], grps.flatten⟩) _ fresh_freshParsing _ sampleMessage
    (by decide +kernel : _ = _ ++ []) encodes_sampleMessage (by decide +kernel) (by decide)
    (.inr (matches_of_run (by decide +kernel : _ = some [bytes "eth0"])))

end Plugin

end Xdpd.Rest
