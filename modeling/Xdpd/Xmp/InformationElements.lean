import Xdpd.Lib.Bytes
import Xdpd.Lib.Records
import Xdpd.Lib.SortedMap

/-!
# Messages of the XMP management protocol

A message is a header of eight bytes and a map of information elements (IEs), at most one of each
type.  An IE is an object of one of the classes `cxmpie_command`, `cxmpie_name` and so on, which
owns a piece of memory; `cxmpie` itself is the class of the types it has no name for.  A
`cxmpie_multipart` owns a queue of further IEs.

`pack` writes a message into a buffer, `unpack` reads one from a buffer.  Both loops that read IEs,
that of `cxmpies::unpack` and that of `cxmpie_multipart::unpack`, are `unpackLoop`.  Reading or
writing past the end of a buffer, or following a `NULL`, is undefined in the program; it is an error
of its own here.
-/

namespace Xdpd.Xmp

open Xdpd.Lib

/-! ## Memory -/

/-- The exceptions of the codec, and what is undefined. -/
inductive XmpError where
  | eXmpInval
  | eXmpIEsInval
  | eXmpIeInval
  | outOfBounds
  | nullPointer
  deriving DecidableEq

/-- What is thrown, and not undefined. -/
def XmpError.IsException (e : XmpError) : Prop := e ≠ .outOfBounds ∧ e ≠ .nullPointer

/-- The `n` bytes at `i` of a buffer. -/
def readAt (buf : List Byte) (i n : ℕ) : Except XmpError (List Byte) :=
  if i + n ≤ buf.length then .ok ((buf.drop i).take n) else .error .outOfBounds

/-- Writes bytes to the front of a buffer. -/
def write (buf bytes : List Byte) : Except XmpError (List Byte) :=
  if bytes.length ≤ buf.length then .ok (bytes ++ buf.drop bytes.length) else .error .outOfBounds

/-- The number in the first two bytes, in network order. -/
def be16 : List Byte → ℕ
  | a :: b :: _ => 256 * a.toNat + b.toNat
  | _ => 0

/-- `htobe16` of a length, cut to sixteen bits. -/
def htobe16 (n : ℕ) : List Byte := [BitVec.ofNat 8 (n / 256), BitVec.ofNat 8 n]

/-- Reads a number of two bytes. -/
def readBe16 (buf : List Byte) (i : ℕ) : Except XmpError ℕ :=
  (readAt buf i 2).map be16

/-! ## Information elements -/

/-- `XMPIET_NONE`. -/
@[match_pattern] abbrev xmpietNone : ℕ := 0

/-- `XMPIET_COMMAND`. -/
@[match_pattern] abbrev xmpietCommand : ℕ := 1

/-- `XMPIET_PORTNAME`. -/
@[match_pattern] abbrev xmpietPortname : ℕ := 2

/-- `XMPIET_DPID`. -/
@[match_pattern] abbrev xmpietDpid : ℕ := 3

/-- `XMPIET_MULTIPART`. -/
@[match_pattern] abbrev xmpietMultipart : ℕ := 4

/-- `XMPIET_PORTINFO`. -/
@[match_pattern] abbrev xmpietPortinfo : ℕ := 5

/-- `XMPIET_LSINAME`. -/
@[match_pattern] abbrev xmpietLsiname : ℕ := 6

/-- `XMPIET_LSIINFO`. -/
@[match_pattern] abbrev xmpietLsiinfo : ℕ := 7

/-- `XMPIET_CONTROLLER`. -/
@[match_pattern] abbrev xmpietController : ℕ := 8

/-- `XMPIET_LSIXLSI`. -/
@[match_pattern] abbrev xmpietLsixlsi : ℕ := 9

/-- `sizeof(struct xmp_ie_header_t)`: a type and a length. -/
def ieHeaderSize : ℕ := 4

/-- The classes of IEs that have no inner ones. -/
inductive IeClass where
  | cxmpie
  | command
  | name
  | dpid
  | portinfo
  | lsiinfo
  | controller
  | lsixlsi
  deriving DecidableEq

/-- The size of the structure that a class reads and writes. -/
def IeClass.structSize : IeClass → ℕ
  | cxmpie => ieHeaderSize
  | command => ieHeaderSize + 4
  | name => ieHeaderSize + 32
  | dpid => ieHeaderSize + 8
  | portinfo => ieHeaderSize + (4 + 32 + 3 * 4 + 2 * 8 + 4)
  | lsiinfo => ieHeaderSize + (32 + 8 + 3 * 4 + 1)
  | controller => ieHeaderSize + (64 + 4 + 1 + 4 * 4 + 2)
  | lsixlsi => ieHeaderSize + (8 + 4 + 8 + 4)

/-- The size that `operator=(cxmpie const&)` of a class asks for. -/
def IeClass.leastSize : IeClass → ℕ
  -- both ask for `sizeof(struct xmp_ie_name_t)`
  | portinfo => name.structSize
  | lsiinfo => name.structSize
  | cls => cls.structSize

/-- The types that `operator=(cxmpie const&)` of a class takes. -/
def IeClass.takes : IeClass → ℕ → Bool
  | cxmpie, _ => true
  | command, type => type == xmpietCommand
  | name, type => type == xmpietPortname || type == xmpietLsiname
  | dpid, type => type == xmpietDpid
  | portinfo, type => type == xmpietPortinfo
  | lsiinfo, type => type == xmpietLsiinfo
  | controller, type => type == xmpietController
  | lsixlsi, type => type == xmpietLsixlsi

/-- An object of one of the classes, with its memory.  The queue of a multipart holds pointers,
which may be `NULL`. -/
inductive Cxmpie where
  | plain (cls : IeClass) (memory : List Byte)
  | multipart (memory : List Byte) (ies : List (Option Cxmpie))

namespace Cxmpie

/-- `somem()`. -/
def memory : Cxmpie → List Byte
  | plain _ mem => mem
  | multipart mem _ => mem

/-- `get_type`. -/
def getType (mem : List Byte) : ℕ := be16 mem

/-- `set_length`. -/
def setLength (mem : List Byte) (n : ℕ) : List Byte :=
  mem.take 2 ++ (htobe16 n ++ mem.drop ieHeaderSize)

/-- The `length` of the classes without inner IEs. -/
def plainLength (cls : IeClass) (mem : List Byte) : ℕ :=
  match cls with
  | .cxmpie => mem.length
  | cls => cls.structSize

mutual

/-- `length`. -/
def length : Cxmpie → Except XmpError ℕ
  | plain cls mem => .ok (plainLength cls mem)
  | multipart _ ies => (lengthIes ies).map (ieHeaderSize + ·)

/-- The sum in `cxmpie_multipart::length`. -/
def lengthIes : List (Option Cxmpie) → Except XmpError ℕ
  | [] => .ok 0
  | none :: _ => .error .nullPointer
  | some ie :: ies => do
      let n ← ie.length
      let m ← lengthIes ies
      return n + m

end

/-- `cxmpie::pack`, where `n` is what the virtual `length()` gives: sets the length field and copies
the memory.  A multipart has no more than its header to copy. -/
def packMemory (mem : List Byte) (n : ℕ) (buf : List Byte) (buflen : ℕ) :
    Except XmpError (List Byte × List Byte) :=
  if buflen < n then .error .eXmpIeInval
  else do
    let mem := setLength mem n
    let buf ← write buf (mem.take n)
    return (buf, mem)

mutual

/-- `pack`: the buffer and the object after it. -/
def pack : Cxmpie → List Byte → ℕ → Except XmpError (List Byte × Cxmpie)
  | plain cls mem, buf, buflen =>
      let n := plainLength cls mem
      if buflen < n then .error .eXmpIeInval
      else do
        let (buf, mem) ← packMemory mem n buf n
        return (buf, plain cls mem)
  | multipart mem ies, buf, buflen => do
      let n ← length (multipart mem ies)
      if buflen < n then .error .eXmpIeInval
      else do
        let (buf, mem) ← packMemory mem n buf buflen
        let (inner, ies) ← packIes ies (buf.drop ieHeaderSize)
        return (buf.take ieHeaderSize ++ inner, multipart mem ies)

/-- The loop of `cxmpie_multipart::pack`. -/
def packIes : List (Option Cxmpie) → List Byte → Except XmpError (List Byte × List (Option Cxmpie))
  | [], buf => .ok (buf, [])
  | none :: _, _ => .error .nullPointer
  | some ie :: ies, buf => do
      let n ← ie.length
      let (buf, ie) ← ie.pack buf n
      let (inner, ies) ← packIes ies (buf.drop n)
      return (buf.take n ++ inner, some ie :: ies)

end

/-- `cxmpie::unpack`: the memory after it. -/
def unpackMemory (buf : List Byte) (buflen : ℕ) : Except XmpError (List Byte) :=
  if buflen < ieHeaderSize then .error .eXmpIeInval
  else do
    let len ← readBe16 buf 2
    readAt buf 0 (if buflen < len then buflen else len)

/-- The constructor `cxmpie(buf, buflen)`: the memory of the object. -/
def ofBuf (buf : List Byte) (buflen : ℕ) : Except XmpError (List Byte) := do
  let _ ← readAt buf 0 buflen
  if buflen < ieHeaderSize then .error .eXmpIeInval
  else unpackMemory buf buflen

/-- The constructors of the classes from a `cxmpie`, which go through `operator=(cxmpie const&)`. -/
def ofCxmpie (cls : IeClass) (elem : List Byte) : Except XmpError Cxmpie := do
  let type ← readBe16 elem 0
  if cls.takes type = false then .error .eXmpIeInval
  else if elem.length < cls.leastSize then .error .eXmpIeInval
  else return plain cls elem

/-- `cxmpie_multipart::bakery`, with assertions compiled out. -/
def bakery (ref : List Byte) : Except XmpError (Option Cxmpie) := do
  match ← readBe16 ref 0 with
  | xmpietNone => return none
  | xmpietCommand => some <$> ofCxmpie .command ref
  | xmpietLsiname => some <$> ofCxmpie .name ref
  | xmpietPortname => some <$> ofCxmpie .name ref
  | xmpietDpid => some <$> ofCxmpie .dpid ref
  | xmpietPortinfo => some <$> ofCxmpie .portinfo ref
  | xmpietLsiinfo => some <$> ofCxmpie .lsiinfo ref
  | xmpietController => some <$> ofCxmpie .controller ref
  | _ => return none

end Cxmpie

/-- The loop over a list of IEs: each is copied into a `cxmpie` of its own and handed to `body`. -/
def unpackLoop {σ : Type} (body : σ → List Byte → Except XmpError σ) (s : σ) (buf : List Byte) :
    Except XmpError σ :=
  if _h : ieHeaderSize < buf.length then do
    let len ← readBe16 buf 2
    if _hbad : buf.length < len ∨ len < ieHeaderSize then
      return s
    else do
      let elem ← Cxmpie.ofBuf buf len
      let s' ← body s elem
      unpackLoop body s' (buf.drop len)
  else return s
termination_by buf.length
decreasing_by
  rw [List.length_drop]
  have hpos : ieHeaderSize = 4 := rfl
  omega

namespace Cxmpie

/-- `cxmpie_multipart::unpack`: the queue after it. -/
def multipartUnpack (buf : List Byte) : Except XmpError (List (Option Cxmpie)) :=
  unpackLoop (fun ies tmp => do return ies ++ [← bakery tmp]) [] (buf.drop ieHeaderSize)

/-- The constructor of a multipart from a `cxmpie`. -/
def multipartOfCxmpie (elem : List Byte) : Except XmpError Cxmpie := do
  let type ← readBe16 elem 0
  if type ≠ xmpietMultipart then .error .eXmpIeInval
  else return multipart elem (← multipartUnpack elem)

end Cxmpie

/-! ## Lists of information elements -/

/-- `cxmpies`: the IEs of a message by their type. -/
abbrev Cxmpies := SortedMap ℕ Cxmpie

namespace Cxmpies

/-- `length`. -/
def length (xmpies : Cxmpies) : Except XmpError ℕ :=
  Cxmpie.lengthIes (xmpies.values.map some)

/-- `pack`: the buffer and the IEs after it.  Its loop is that of `cxmpie_multipart::pack`. -/
def pack (xmpies : Cxmpies) (buf : List Byte) (buflen : ℕ) :
    Except XmpError (List Byte × Cxmpies) := do
  let n ← length xmpies
  if buflen < n then .error .eXmpIEsInval
  else do
    let (buf, ies) ← Cxmpie.packIes (xmpies.values.map some) buf
    return (buf, xmpies.setValues ies.reduceOption)

/-- `map_and_insert`. -/
def mapAndInsert (xmpmap : Cxmpies) (xmpie : List Byte) : Except XmpError Cxmpies := do
  let type ← readBe16 xmpie 0
  let xmpmap := xmpmap.erase type
  match type with
  | xmpietNone => return xmpmap
  | xmpietCommand => return xmpmap.insert xmpietCommand (← Cxmpie.ofCxmpie .command xmpie)
  | xmpietPortname => return xmpmap.insert xmpietPortname (← Cxmpie.ofCxmpie .name xmpie)
  | xmpietDpid => return xmpmap.insert xmpietDpid (← Cxmpie.ofCxmpie .dpid xmpie)
  | xmpietPortinfo => return xmpmap.insert xmpietPortinfo (← Cxmpie.ofCxmpie .portinfo xmpie)
  | xmpietMultipart => return xmpmap.insert xmpietMultipart (← Cxmpie.multipartOfCxmpie xmpie)
  | xmpietLsiname => return xmpmap.insert xmpietLsiname (← Cxmpie.ofCxmpie .name xmpie)
  | xmpietLsiinfo => return xmpmap.insert xmpietLsiinfo (← Cxmpie.ofCxmpie .lsiinfo xmpie)
  | xmpietController => return xmpmap.insert xmpietController (← Cxmpie.ofCxmpie .controller xmpie)
  | xmpietLsixlsi => return xmpmap.insert xmpietLsixlsi (← Cxmpie.ofCxmpie .lsixlsi xmpie)
  | type => return xmpmap.insert type (.plain .cxmpie xmpie)

/-- `unpack`, which clears the map first. -/
def unpack (buf : List Byte) : Except XmpError Cxmpies :=
  unpackLoop mapAndInsert SortedMap.empty buf

end Cxmpies

/-! ## Messages -/

/-- `sizeof(struct xmp_header_t)`: version, type, length and transaction id. -/
def xmpHeaderSize : ℕ := 8

/-- `cxmpmsg`. -/
structure Cxmpmsg where
  memory : List Byte
  xmpies : Cxmpies

namespace Cxmpmsg

/-- `get_version`. -/
def getVersion (msg : Cxmpmsg) : Byte := msg.memory.getD 0 0

/-- `get_type`. -/
def getType (msg : Cxmpmsg) : Byte := msg.memory.getD 1 0

/-- `get_length`. -/
def getLength (msg : Cxmpmsg) : ℕ := be16 (msg.memory.drop 2)

/-- `get_xid`. -/
def getXid (msg : Cxmpmsg) : BitVec 32 := ofBeBytes 4 fun i => msg.memory.getD (4 + i) 0

/-- `length`. -/
def length (msg : Cxmpmsg) : Except XmpError ℕ :=
  msg.xmpies.length.map (xmpHeaderSize + ·)

/-- `set_length`. -/
def setLength (msg : Cxmpmsg) (n : ℕ) : Cxmpmsg :=
  { msg with memory := msg.memory.take 2 ++ (htobe16 n ++ msg.memory.drop 4) }

/-- `pack`: the buffer and the object after it. -/
def pack (msg : Cxmpmsg) (buf : List Byte) (buflen : ℕ) :
    Except XmpError (List Byte × Cxmpmsg) := do
  let n ← msg.length
  if buflen < n then .error .eXmpInval
  else do
    let msg := msg.setLength n
    let buf ← write buf (msg.memory.take xmpHeaderSize)
    let m ← msg.xmpies.length
    let (ies, xmpies) ← msg.xmpies.pack (buf.drop xmpHeaderSize) m
    return (buf.take xmpHeaderSize ++ ies, { msg with xmpies := xmpies })

/-- `unpack`. -/
def unpack (buf : List Byte) : Except XmpError Cxmpmsg :=
  if buf.length < xmpHeaderSize then .error .eXmpInval
  else if xmpHeaderSize < buf.length then do
    return ⟨buf, ← Cxmpies.unpack (buf.drop xmpHeaderSize)⟩
  else return ⟨buf, SortedMap.empty⟩

end Cxmpmsg

end Xdpd.Xmp
