import Mathlib.Data.List.ModifyLast
import Xdpd.Lib.Incremental

/-!
# The parser of HTTP requests

The REST server of xdpd reads a request with a coroutine, `request_parser::consume`, that is entered
once for each character.  Where it is entered again is the state of the parser, `Point`; between two
characters it has nothing else but the request that it fills in and the announced length of the
content.  `parse` feeds it a buffer.

A `char` is signed: the characters from 128 on are negative as an `int`.
-/

namespace Xdpd.Rest

open Lib

/-- A character as a byte. -/
def code (c : Char) : UInt8 :=
  UInt8.ofNat c.toNat

/-- A `char` that is converted to `int`. -/
def toInt (c : UInt8) : Int :=
  c.toInt8.toInt

structure Header where
  name : List UInt8
  value : List UInt8
deriving DecidableEq, Repr

structure Request where
  method : List UInt8
  uri : List UInt8
  httpVersionMajor : Int
  httpVersionMinor : Int
  headers : List Header
  content : List UInt8
deriving DecidableEq, Repr

/-- Where the coroutine is entered with the next character. -/
inductive Point
  | start
  | method
  | uri
  | protocolH
  | protocolT
  | protocolT'
  | protocolP
  | slash
  | majorFirst
  | major
  | minorFirst
  | minor
  | newline
  | headers
  | blanks
  | name
  | space
  | value
  | valueNewline
  | lastNewline
  | content
  | terminated
deriving DecidableEq, Repr

/-- The parser and the request that it fills in. -/
structure Parsing where
  point : Point
  contentLength : UInt64
  req : Request
deriving DecidableEq, Repr

/-! ### Characters -/

def isChar (c : UInt8) : Bool :=
  decide (0 ≤ toInt c) && decide (toInt c ≤ 127)

def isCtl (c : UInt8) : Bool :=
  (decide (0 ≤ toInt c) && decide (toInt c ≤ 31)) || decide (toInt c = 127)

def tspecials : List UInt8 :=
  ['(', ')', '<', '>', '@', ',', ';', ':', '\\', '"', '/', '[', ']', '?', '=', '{', '}', ' ',
    '\t'].map code

def isTspecial (c : UInt8) : Bool :=
  tspecials.contains c

def isDigit (c : UInt8) : Bool :=
  decide (toInt (code '0') ≤ toInt c) && decide (toInt c ≤ toInt (code '9'))

def tolower (c : UInt8) : UInt8 :=
  if code 'A' ≤ c ∧ c ≤ code 'Z' then c + 32 else c

def headersEqual (a b : List UInt8) : Bool :=
  a.length == b.length && (a.map tolower == b.map tolower)

/-- The three tests that the method and the names of headers have in common. -/
def isToken (c : UInt8) : Bool :=
  isChar c && !isCtl c && !isTspecial c

/-- The characters that a line of a header may be continued after. -/
def isBlank (c : UInt8) : Bool :=
  c == code ' ' || c == code '\t'

def contentLengthName : List UInt8 :=
  ['C', 'o', 'n', 't', 'e', 'n', 't', '-', 'L', 'e', 'n', 'g', 't', 'h'].map code

/-- A version number with one more digit; an `int` wraps around. -/
def addDigit (v : Int) (c : UInt8) : Int :=
  Int.bmod (v * 10 + toInt c - toInt (code '0')) 4294967296

/-! ### The coroutine -/

def Parsing.yield (s : Parsing) (point : Point) : Option Bool × Parsing :=
  (none, { s with point := point })

/-- `return` without `yield` ends the coroutine. -/
def Parsing.finish (s : Parsing) (result : Bool) : Option Bool × Parsing :=
  (some result, { s with point := .terminated })

/-- `if (c != want) return false; yield` -/
def Parsing.expect (s : Parsing) (c want : UInt8) (point : Point) : Option Bool × Parsing :=
  if c ≠ want then s.finish false else s.yield point

def Parsing.pushMethod (s : Parsing) (c : UInt8) : Parsing :=
  { s with req := { s.req with method := s.req.method ++ [c] } }

def Parsing.pushUri (s : Parsing) (c : UInt8) : Parsing :=
  { s with req := { s.req with uri := s.req.uri ++ [c] } }

def Parsing.pushMajor (s : Parsing) (c : UInt8) : Parsing :=
  { s with req := { s.req with httpVersionMajor := addDigit s.req.httpVersionMajor c } }

def Parsing.pushMinor (s : Parsing) (c : UInt8) : Parsing :=
  { s with req := { s.req with httpVersionMinor := addDigit s.req.httpVersionMinor c } }

def Parsing.pushHeader (s : Parsing) : Parsing :=
  { s with req := { s.req with headers := s.req.headers ++ [⟨[], []⟩] } }

def pushName (hs : List Header) (c : UInt8) : List Header :=
  hs.modifyLast fun h => { h with name := h.name ++ [c] }

def pushValue (hs : List Header) (c : UInt8) : List Header :=
  hs.modifyLast fun h => { h with value := h.value ++ [c] }

def Parsing.setHeaders (s : Parsing) (hs : List Header) : Parsing :=
  { s with req := { s.req with headers := hs } }

def Parsing.pushContent (s : Parsing) (c : UInt8) : Parsing :=
  { s with req := { s.req with content := s.req.content ++ [c] } }

def consumeMethod (s : Parsing) (c : UInt8) : Option Bool × Parsing :=
  if isToken c && c != code ' ' then (s.pushMethod c).yield .method
  else if s.req.method.isEmpty then s.finish false
  else s.expect c (code ' ') .uri

def consumeUri (s : Parsing) (c : UInt8) : Option Bool × Parsing :=
  if !isCtl c && c != code ' ' then (s.pushUri c).yield .uri
  else if s.req.uri.isEmpty then s.finish false
  else s.expect c (code ' ') .protocolH

def consumeMajor (s : Parsing) (c : UInt8) : Option Bool × Parsing :=
  if isDigit c then (s.pushMajor c).yield .major else s.expect c (code '.') .minorFirst

def consumeMinor (s : Parsing) (c : UInt8) : Option Bool × Parsing :=
  if isDigit c then (s.pushMinor c).yield .minor else s.expect c (code '\r') .newline

def consumeName (s : Parsing) (c : UInt8) : Option Bool × Parsing :=
  if isToken c && c != code ':' then (s.setHeaders (pushName s.req.headers c)).yield .name
  else s.expect c (code ':') .space

def consumeValue (s : Parsing) (c : UInt8) : Option Bool × Parsing :=
  if isChar c && !isCtl c && c != code '\r' then
    (s.setHeaders (pushValue s.req.headers c)).yield .value
  else s.expect c (code '\r') .valueNewline

/-- The condition of the loop over the headers, and where its body starts. -/
def consumeHeaders (s : Parsing) (c : UInt8) : Option Bool × Parsing :=
  if (isToken c && c != code '\r') || isBlank c then
    if isBlank c then
      -- the value of the previous header is continued
      if s.req.headers.isEmpty then s.finish false else s.yield .blanks
    else consumeName s.pushHeader c
  else s.expect c (code '\r') .lastNewline

/-- The loop that looks for the length of the content, with `content_length_`. -/
def readContentLength (lexicalCast : List UInt8 → Option UInt64) :
    List Header → UInt64 → Bool × UInt64
  | [], n => (true, n)
  | h :: hs, n =>
      if headersEqual h.name contentLengthName then
        match lexicalCast h.value with
        | some n' => readContentLength lexicalCast hs n'
        | none => (false, n)
      else readContentLength lexicalCast hs n

def consumeContent (s : Parsing) : Option Bool × Parsing :=
  if s.req.content.length < s.contentLength.toNat then s.yield .content else s.finish true

/-- `request_parser::consume`.  `lexicalCast` is `boost::lexical_cast<std::size_t>`, which may
throw. -/
def consume (lexicalCast : List UInt8 → Option UInt64) (s : Parsing) (c : UInt8) :
    Option Bool × Parsing :=
  match s.point with
  | .start => consumeMethod ⟨.start, 0, ⟨[], [], 0, 0, [], []⟩⟩ c
  | .method => consumeMethod s c
  | .uri => consumeUri s c
  | .protocolH => s.expect c (code 'H') .protocolT
  | .protocolT => s.expect c (code 'T') .protocolT'
  | .protocolT' => s.expect c (code 'T') .protocolP
  | .protocolP => s.expect c (code 'P') .slash
  | .slash => s.expect c (code '/') .majorFirst
  | .majorFirst => if !isDigit c then s.finish false else consumeMajor s c
  | .major => consumeMajor s c
  | .minorFirst => if !isDigit c then s.finish false else consumeMinor s c
  | .minor => consumeMinor s c
  | .newline => s.expect c (code '\n') .headers
  | .headers => consumeHeaders s c
  | .blanks => if isBlank c then s.yield .blanks else consumeValue s c
  | .name => consumeName s c
  | .space => s.expect c (code ' ') .value
  | .value => consumeValue s c
  | .valueNewline => s.expect c (code '\n') .headers
  | .lastNewline =>
      if c ≠ code '\n' then s.finish false
      else
        let announced := readContentLength lexicalCast s.req.headers s.contentLength
        let s' := { s with contentLength := announced.2 }
        if announced.1 then consumeContent s' else s'.finish false
  | .content => consumeContent (s.pushContent c)
  | .terminated => (some true, s)

/-- `request_parser::parse` on a buffer: the result, the parser with the request, and what it has
not consumed. -/
def parse (lexicalCast : List UInt8 → Option UInt64) (s : Parsing) (buffer : List UInt8) :
    Option Bool × Parsing × List UInt8 :=
  feed (consume lexicalCast) s buffer

end Xdpd.Rest
