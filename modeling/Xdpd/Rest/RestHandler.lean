import Xdpd.Lib.SortedMap
import Mathlib.Data.List.Lex
import Xdpd.Rest.RequestParser

/-!
# The handler of REST requests

`rest_handler` keeps a map from paths to functions for each method.  A request is resolved to one
of them: by its path, and else by the keys of the map as regular expressions, in the order of the
map.  Looking a path up with `operator[]` enters it with an empty function.

Regular expressions are those of a library: `Regex` is what the handler uses of it.
-/

namespace Xdpd.Rest

open Lib

/-! ### Replies -/

inductive StatusType
  | ok
  | created
  | accepted
  | noContent
  | multipleChoices
  | movedPermanently
  | movedTemporarily
  | notModified
  | badRequest
  | unauthorized
  | forbidden
  | notFound
  | internalServerError
  | notImplemented
  | badGateway
  | serviceUnavailable
deriving DecidableEq, Repr

structure Reply where
  status : StatusType
  headers : List Header
  content : List UInt8
deriving DecidableEq, Repr

def bytes (s : String) : List UInt8 :=
  s.toList.map code

/-- The pages of `stock_replies`. -/
def stockContent (title heading : String) : List UInt8 :=
  bytes "<html><head><title>" ++ bytes title ++ bytes "</title></head><body><h1>" ++
    bytes heading ++ bytes "</h1></body></html>"

/-- `stock_replies::to_string` -/
def StatusType.content : StatusType → List UInt8
  | .ok => []
  | .created => stockContent "Created" "201 Created"
  | .accepted => stockContent "Accepted" "202 Accepted"
  | .noContent => stockContent "No Content" "204 Content"
  | .multipleChoices => stockContent "Multiple Choices" "300 Multiple Choices"
  | .movedPermanently => stockContent "Moved Permanently" "301 Moved Permanently"
  | .movedTemporarily => stockContent "Moved Temporarily" "302 Moved Temporarily"
  | .notModified => stockContent "Not Modified" "304 Not Modified"
  | .badRequest => stockContent "Bad Request" "400 Bad Request"
  | .unauthorized => stockContent "Unauthorized" "401 Unauthorized"
  | .forbidden => stockContent "Forbidden" "403 Forbidden"
  | .notFound => stockContent "Not Found" "404 Not Found"
  | .internalServerError =>
      stockContent "Internal Server Error" "500 Internal Server Error"
  | .notImplemented => stockContent "Not Implemented" "501 Not Implemented"
  | .badGateway => stockContent "Bad Gateway" "502 Bad Gateway"
  | .serviceUnavailable => stockContent "Service Unavailable" "503 Service Unavailable"

/-- The headers that announce the content and its type. -/
def contentHeaders (content : List UInt8) (type : String) : List Header :=
  [⟨contentLengthName, (Nat.toDigits 10 content.length).map code⟩,
    ⟨bytes "Content-Type", bytes type⟩]

def stockReply (status : StatusType) : Reply :=
  ⟨status, contentHeaders status.content "text/html", status.content⟩

/-! ### Decoding of paths -/

/-- The value of a hexadecimal digit. -/
def hexDigit (c : UInt8) : Option ℕ :=
  if code '0' ≤ c ∧ c ≤ code '9' then some (c - code '0').toNat
  else if code 'a' ≤ c ∧ c ≤ code 'f' then some ((c - code 'a').toNat + 10)
  else if code 'A' ≤ c ∧ c ≤ code 'F' then some ((c - code 'A').toNat + 10)
  else none

def isSpace (c : UInt8) : Bool :=
  c == code ' ' || (decide (9 ≤ c) && decide (c ≤ 13))

/-- `is >> std::hex >> value` for an `int` and a stream of two characters: white space is skipped,
then a sign and digits are read as far as they go.  A leading `0x` needs a digit behind it. -/
def readHex (a b : UInt8) : Option Int :=
  if isSpace a then (hexDigit b).map fun v => (v : Int)
  else if a = code '+' then (hexDigit b).map fun v => (v : Int)
  else if a = code '-' then (hexDigit b).map fun v => -(v : Int)
  else if a = code '0' ∧ (b = code 'x' ∨ b = code 'X') then none
  else
    match hexDigit a, hexDigit b with
    | some v, some w => some ((16 * v + w : ℕ) : Int)
    | some v, none => some (v : Int)
    | none, _ => none

/-- `static_cast<char>` of an `int` -/
def toChar (v : Int) : UInt8 :=
  UInt8.ofNat (v % 256).toNat

/-- `file_handler::url_decode` -/
def urlDecode : List UInt8 → Option (List UInt8)
  | [] => some []
  | c :: cs =>
      if c = code '%' then
        match cs with
        | a :: b :: rest =>
            match readHex a b with
            | some v => (urlDecode rest).map (toChar v :: ·)
            | none => none
        | _ => none
      else if c = code '+' then (urlDecode cs).map (code ' ' :: ·)
      else (urlDecode cs).map (c :: ·)

/-! ### The handler -/

/-- What the handler uses of `boost::regex`: a text may be no expression at all, else it matches
a path as a whole or not, with the groups that it captures. -/
abbrev Regex : Type :=
  List UInt8 → Option (List UInt8 → Option (List (List UInt8)))

/-- `std::string` compares characters as unsigned numbers. -/
instance byteOrder : LinearOrder UInt8 where
  le_refl := UInt8.le_refl
  le_trans _ _ _ := UInt8.le_trans
  le_antisymm _ _ := UInt8.le_antisymm
  le_total := UInt8.le_total
  lt_iff_le_not_ge a b := by
    rw [UInt8.not_le]
    exact ⟨fun h => ⟨UInt8.le_of_lt h, h⟩, And.right⟩
  toDecidableLE := inferInstance

/-- A map from paths to functions; a function may be empty. -/
abbrev Handlers (α : Type) : Type :=
  SortedMap (List UInt8) (Option α)

inductive HttpMethod
  | get
  | post
  | put
  | delete
deriving DecidableEq, Repr

structure RestHandler (α : Type) where
  getHandlers : Handlers α
  postHandlers : Handlers α
  putHandlers : Handlers α
  deleteHandlers : Handlers α
  methodsToEnum : SortedMap (List UInt8) HttpMethod

variable {α : Type}

/-- The constructor -/
def RestHandler.new : RestHandler α where
  getHandlers := .empty
  postHandlers := .empty
  putHandlers := .empty
  deleteHandlers := .empty
  methodsToEnum := (((SortedMap.empty.insert (bytes "get") HttpMethod.get).insert (bytes "post")
    .post).insert (bytes "put") .put).insert (bytes "delete") .delete

def RestHandler.registerGetPath (h : RestHandler α) (path : List UInt8) (f : α) : RestHandler α :=
  { h with getHandlers := h.getHandlers.insert path (some f) }

def RestHandler.registerPostPath (h : RestHandler α) (path : List UInt8) (f : α) : RestHandler α :=
  { h with postHandlers := h.postHandlers.insert path (some f) }

def RestHandler.registerPutPath (h : RestHandler α) (path : List UInt8) (f : α) : RestHandler α :=
  { h with putHandlers := h.putHandlers.insert path (some f) }

def RestHandler.registerDeletePath (h : RestHandler α) (path : List UInt8) (f : α) :
    RestHandler α :=
  { h with deleteHandlers := h.deleteHandlers.insert path (some f) }

/-- Strips the last character of a path if it is a slash, but not the only one. -/
def stripSlash (path : List UInt8) : List UInt8 :=
  if path.length ≠ 1 ∧ path.getLast? = some (code '/') then path.dropLast else path

/-- What `c_str` shows of a string. -/
def cStr (s : List UInt8) : List UInt8 :=
  s.takeWhile (· ≠ 0)

/-- The loop over the map: the first key that matches as a regular expression. -/
def firstMatch (regex : Regex) (path : List UInt8) :
    List (List UInt8 × Option α) → Option (Option α × List (List UInt8))
  | [] => none
  | e :: es =>
      match regex e.1 with
      | none => none
      | some expression =>
          match expression path with
          | some grps => some (e.2, grps)
          | none => firstMatch regex path es

/-- `rest_handler::get_handler`: the function, with the groups, or an exception; and what is left
of the map. -/
def getHandler (regex : Regex) (handlers : Handlers α) (reqPath : List UInt8) :
    Option (Option α × List (List UInt8)) × Handlers α :=
  let path := stripSlash reqPath
  let looked := handlers.subscript path none
  match looked.1 with
  | some f => (some (some f, []), looked.2)
  | none => (firstMatch regex (cStr path) looked.2.entries, looked.2)

/-- The resolution step of `operator()`: a method that is not known is entered as the first one of
the enumeration. -/
def RestHandler.resolve (regex : Regex) (h : RestHandler α) (method path : List UInt8) :
    Option (Option α × List (List UInt8)) × RestHandler α :=
  let known := h.methodsToEnum.subscript (method.map tolower) .get
  let h := { h with methodsToEnum := known.2 }
  match known.1 with
  | .get =>
      let r := getHandler regex h.getHandlers path
      (r.1, { h with getHandlers := r.2 })
  | .post =>
      let r := getHandler regex h.postHandlers path
      (r.1, { h with postHandlers := r.2 })
  | .put =>
      let r := getHandler regex h.putHandlers path
      (r.1, { h with putHandlers := r.2 })
  | .delete =>
      let r := getHandler regex h.deleteHandlers path
      (r.1, { h with deleteHandlers := r.2 })

/-- The execution step of `operator()`: `call` is what a function makes of the request, the reply
so far and the groups, if it does not throw. -/
def execute (call : α → Request → Reply → List (List UInt8) → Option Reply) (f : Option α)
    (grps : List (List UInt8)) (req : Request) (rep : Reply) : Reply :=
  match f.bind fun f => call f req { rep with status := .ok } grps with
  | none => stockReply .internalServerError
  | some rep =>
      if rep.headers.isEmpty then
        { rep with headers := contentHeaders rep.content "application/json" }
      else rep

/-- `rest_handler::operator()` -/
def RestHandler.handle (regex : Regex)
    (call : α → Request → Reply → List (List UInt8) → Option Reply) (h : RestHandler α)
    (req : Request) (rep : Reply) : Reply × RestHandler α :=
  match urlDecode req.uri with
  | none => (stockReply .badRequest, h)
  | some path =>
      match h.resolve regex req.method path with
      | (none, h') => (stockReply .badRequest, h')
      | (some (f, grps), h') => (execute call f grps req rep, h')

/-- A request that is resolved is executed. -/
lemma RestHandler.handle_of_resolve {regex : Regex}
    {call : α → Request → Reply → List (List UInt8) → Option Reply} {h : RestHandler α}
    {req : Request} {path : List UInt8} {f : Option α} {grps : List (List UInt8)} (rep : Reply)
    (hpath : urlDecode req.uri = some path)
    (hresolve : (h.resolve regex req.method path).1 = some (f, grps)) :
    (h.handle regex call req rep).1 = execute call f grps req rep := by
  rw [handle, hpath]
  rcases hres : h.resolve regex req.method path with ⟨_ | ⟨f', grps'⟩, h'⟩
  · rw [hres] at hresolve
    exact absurd hresolve nofun
  · rw [hres] at hresolve
    obtain ⟨rfl, rfl⟩ := Prod.mk.inj (Option.some.inj hresolve)
    simp only [hres]

/-! ### Decoding what has been encoded -/

/-- A text with its characters as they are, with plus signs for spaces, or with escapes of two
hexadecimal digits. -/
inductive Encodes : List UInt8 → List UInt8 → Prop
  | nil : Encodes [] []
  | raw {c : UInt8} {text uri : List UInt8} (hpercent : c ≠ code '%') (hplus : c ≠ code '+')
      (h : Encodes text uri) : Encodes (c :: text) (c :: uri)
  | space {text uri : List UInt8} (h : Encodes text uri) :
      Encodes (code ' ' :: text) (code '+' :: uri)
  | escape {a b : UInt8} {v w : ℕ} {text uri : List UInt8} (ha : hexDigit a = some v)
      (hb : hexDigit b = some w) (h : Encodes text uri) :
      Encodes (UInt8.ofNat (16 * v + w) :: text) (code '%' :: a :: b :: uri)

lemma Encodes.append_raw {text uri : List UInt8} (h : Encodes text uri) (xs : List UInt8)
    (hxs : ∀ c ∈ xs, c ≠ code '%' ∧ c ≠ code '+') : Encodes (xs ++ text) (xs ++ uri) := by
  induction xs with
  | nil => exact h
  | cons x xs ih =>
      obtain ⟨hx, hxs⟩ := List.forall_mem_cons.mp hxs
      exact .raw hx.1 hx.2 (ih hxs)

lemma hexDigit_lt {a : UInt8} {v : ℕ} (h : hexDigit a = some v) : v < 16 ∧ isSpace a = false := by
  have hall : ∀ i : Fin 256, ∀ v ∈ hexDigit (UInt8.ofFin i),
      v < 16 ∧ isSpace (UInt8.ofFin i) = false := by
    decide +kernel
  exact hall a.toFin v h

lemma readHex_of_digits {a b : UInt8} {v w : ℕ} (ha : hexDigit a = some v)
    (hb : hexDigit b = some w) : readHex a b = some ((16 * v + w : ℕ) : Int) := by
  have hne {c d : UInt8} (hc : hexDigit c = none) (hd : hexDigit d = some v ∨ hexDigit d = some w) :
      d ≠ c := by
    rintro rfl
    rcases hd with hd | hd <;> exact absurd (hd.symm.trans hc) nofun
  rw [readHex, (hexDigit_lt ha).2, if_neg Bool.false_ne_true, if_neg (hne rfl (.inl ha)),
    if_neg (hne rfl (.inl ha)),
    if_neg fun h => h.2.elim (hne rfl (.inr hb)) (hne rfl (.inr hb)), ha, hb]

lemma toChar_natCast (n : ℕ) : toChar (n : Int) = UInt8.ofNat n := by
  have hmod : ((n : Int) % 256).toNat = n % 256 := by omega
  rw [toChar, hmod]
  exact UInt8.ofNat_mod_size

/-- **Decoding.**  A text is what each of its encodings is decoded to. -/
lemma urlDecode_of_encodes {text uri : List UInt8} (h : Encodes text uri) :
    urlDecode uri = some text := by
  induction h with
  | nil => rfl
  | raw hpercent hplus _ ih =>
      rw [urlDecode.eq_def]
      simp only [if_neg hpercent, if_neg hplus, ih]
      rfl
  | space _ ih =>
      rw [urlDecode.eq_def]
      simp only [if_neg (by decide : code '+' ≠ code '%'), ih]
      rfl
  | escape ha hb _ ih =>
      rw [urlDecode.eq_def]
      simp only [if_true, readHex_of_digits ha hb, ih, toChar_natCast]
      rfl

end Xdpd.Rest
