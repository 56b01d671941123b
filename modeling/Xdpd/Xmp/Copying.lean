import Mathlib.Algebra.Order.BigOperators.Group.List
import Xdpd.Xmp.Content

/-!
# Copies of XMP messages

`cxmpies::operator=` makes a new object for each IE of its source.  `map_and_insert` has only a
reference to a `cxmpie`, so that a multipart is not copied by its copy constructor, but read again
from its memory, as far as its `length()` goes.  The memory of a multipart that was filled by
`push_back` holds a header and nothing else.
-/

namespace Xdpd.Xmp

open Xdpd.Lib

/-! ## Objects -/

/-- An object of an IE, with its address.  The queue of a multipart holds pointers. -/
inductive IeObject where
  | plain (addr : ℕ) (cls : IeClass) (memory : List Byte)
  | multipart (addr : ℕ) (memory : List Byte) (ies : List (Option IeObject))

namespace IeObject

open Cxmpie

mutual

/-- The IE without the addresses. -/
def value : IeObject → Cxmpie
  | plain _ cls mem => .plain cls mem
  | multipart _ mem ies => .multipart mem (valueIes ies)

/-- The IEs of a queue without the addresses. -/
def valueIes : List (Option IeObject) → List (Option Cxmpie)
  | [] => []
  | none :: ies => none :: valueIes ies
  | some ie :: ies => some ie.value :: valueIes ies

end

mutual

/-- The addresses of an IE and of its inner ones. -/
def addrs : IeObject → List ℕ
  | plain addr _ _ => [addr]
  | multipart addr _ ies => addr :: addrsIes ies

/-- The addresses of the IEs of a queue. -/
def addrsIes : List (Option IeObject) → List ℕ
  | [] => []
  | none :: ies => addrsIes ies
  | some ie :: ies => ie.addrs ++ addrsIes ies

end

/-! ## Making objects

`next` is the first address that is not in use. -/

/-- The constructors of the classes from a `cxmpie`, for an object of any class. -/
def newFrom (cls : IeClass) (elem : Cxmpie) (next : ℕ) : Except XmpError (IeObject × ℕ) := do
  let type ← readBe16 elem.memory 0
  if cls.takes type = false then .error .eXmpIeInval
  else do
    let n ← elem.length
    if n < cls.leastSize then .error .eXmpIeInval
    else return (plain next cls elem.memory, next + 1)

/-- A pointer to a new object. -/
def pointer (ie : IeObject × ℕ) : Option IeObject × ℕ := (some ie.1, ie.2)

/-- `cxmpie_multipart::bakery`, with assertions compiled out. -/
def bakery (ref : Cxmpie) (next : ℕ) : Except XmpError (Option IeObject × ℕ) := do
  match ← readBe16 ref.memory 0 with
  | xmpietNone => return (none, next)
  | xmpietCommand => pointer <$> newFrom .command ref next
  | xmpietLsiname => pointer <$> newFrom .name ref next
  | xmpietPortname => pointer <$> newFrom .name ref next
  | xmpietDpid => pointer <$> newFrom .dpid ref next
  | xmpietPortinfo => pointer <$> newFrom .portinfo ref next
  | xmpietLsiinfo => pointer <$> newFrom .lsiinfo ref next
  | xmpietController => pointer <$> newFrom .controller ref next
  | _ => return (none, next)

/-- The loop of `cxmpie_multipart::unpack` on a memory with `buflen` bytes to go, which the memory
need not have. -/
def unpackQueue (buf : List Byte) (buflen next : ℕ) :
    Except XmpError (List (Option IeObject) × ℕ) :=
  if _h : ieHeaderSize < buflen then do
    let len ← readBe16 buf 2
    if _hbad : buflen < len ∨ len < ieHeaderSize then
      return ([], next)
    else do
      let tmp ← ofBuf buf len
      let ie ← bakery (.plain .cxmpie tmp) next
      let ies ← unpackQueue (buf.drop len) (buflen - len) ie.2
      return (ie.1 :: ies.1, ies.2)
  else return ([], next)
termination_by buflen
decreasing_by
  have hpos : ieHeaderSize = 4 := rfl
  omega

/-- The constructor of a multipart from a `cxmpie`, for an object of any class. -/
def newMultipart (elem : Cxmpie) (next : ℕ) : Except XmpError (IeObject × ℕ) := do
  let type ← readBe16 elem.memory 0
  if type ≠ xmpietMultipart then .error .eXmpIeInval
  else do
    let n ← elem.length
    let ies ← unpackQueue (elem.memory.drop ieHeaderSize) (n - ieHeaderSize) (next + 1)
    return (multipart next elem.memory ies.1, ies.2)

end IeObject

/-! ## Lists of objects -/

/-- `cxmpies`, with the objects that its pointers go to. -/
abbrev IeObjects := SortedMap ℕ IeObject

namespace IeObjects

open IeObject

/-- The map with a new object under a type. -/
def inserted (xmpmap : IeObjects) (type : ℕ) (ie : IeObject × ℕ) : IeObjects × ℕ :=
  (xmpmap.insert type ie.1, ie.2)

/-- `map_and_insert`, for an object of any class. -/
def mapAndInsert (xmpmap : IeObjects) (xmpie : Cxmpie) (next : ℕ) :
    Except XmpError (IeObjects × ℕ) := do
  let type ← readBe16 xmpie.memory 0
  let xmpmap := xmpmap.erase type
  match type with
  | xmpietNone => return (xmpmap, next)
  | xmpietCommand => inserted xmpmap xmpietCommand <$> newFrom .command xmpie next
  | xmpietPortname => inserted xmpmap xmpietPortname <$> newFrom .name xmpie next
  | xmpietDpid => inserted xmpmap xmpietDpid <$> newFrom .dpid xmpie next
  | xmpietPortinfo => inserted xmpmap xmpietPortinfo <$> newFrom .portinfo xmpie next
  | xmpietMultipart => inserted xmpmap xmpietMultipart <$> newMultipart xmpie next
  | xmpietLsiname => inserted xmpmap xmpietLsiname <$> newFrom .name xmpie next
  | xmpietLsiinfo => inserted xmpmap xmpietLsiinfo <$> newFrom .lsiinfo xmpie next
  | xmpietController => inserted xmpmap xmpietController <$> newFrom .controller xmpie next
  | xmpietLsixlsi => inserted xmpmap xmpietLsixlsi <$> newFrom .lsixlsi xmpie next
  | type => return inserted xmpmap type (.plain next .cxmpie xmpie.memory, next + 1)

/-- `clear` -/
def clear (_this : IeObjects) : IeObjects := SortedMap.empty

/-- `operator=`, for two different objects; the copy constructor is the same for a new `this`. -/
def assign (this xmpies : IeObjects) (next : ℕ) : Except XmpError (IeObjects × ℕ) :=
  xmpies.values.foldlM (fun s it => mapAndInsert s.1 it.value s.2) (clear this, next)

/-- `length` -/
def length (xmpies : IeObjects) : Except XmpError ℕ :=
  Cxmpie.lengthIes (xmpies.values.map fun ie => some ie.value)

/-- The IEs and what they say. -/
def contents (xmpies : IeObjects) : List (ℕ × IeContent) :=
  xmpies.entries.map fun e => (e.1, e.2.value.content)

/-- The addresses of all objects. -/
def addrs (xmpies : IeObjects) : List ℕ := xmpies.values.flatMap IeObject.addrs

/-- A copy says the same as its source, has the same length, and has no object of it. -/
def IsCopy (xmpies copy : IeObjects) : Prop :=
  copy.contents = xmpies.contents ∧ copy.length = xmpies.length ∧ ∀ a ∈ copy.addrs, a ∉ xmpies.addrs

/-- Assigning the list gives a copy. -/
def Copies (xmpies : IeObjects) : Prop :=
  ∀ this next, (∀ a ∈ xmpies.addrs, a < next) →
    ∃ copy next', assign this xmpies next = .ok (copy, next') ∧ xmpies.IsCopy copy

end IeObjects

/-! ## Messages -/

/-- `cxmpmsg`, with the objects of its IEs. -/
structure MsgObject where
  memory : List Byte
  xmpies : IeObjects

namespace MsgObject

/-- `operator=`, for two different objects; the copy constructor is the same for a new `this`. -/
def assign (this msg : MsgObject) (next : ℕ) : Except XmpError (MsgObject × ℕ) :=
  (IeObjects.assign this.xmpies msg.xmpies next).map fun xmpies =>
    (⟨msg.memory, xmpies.1⟩, xmpies.2)

/-- `length` -/
def length (msg : MsgObject) : Except XmpError ℕ := msg.xmpies.length.map (xmpHeaderSize + ·)

/-- Assigning the message gives a copy of it. -/
def Copies (msg : MsgObject) : Prop :=
  ∀ this next, (∀ a ∈ msg.xmpies.addrs, a < next) → ∃ copy next',
    assign this msg next = .ok (copy, next') ∧ copy.memory = msg.memory ∧
      copy.length = msg.length ∧ msg.xmpies.IsCopy copy.xmpies

end MsgObject

/-! ## What the memory of a multipart has to hold -/

namespace Cxmpie

/-- A record from which `bakery` makes an IE that says the same. -/
def Stands (r : List Byte) (ie : Cxmpie) : Prop :=
  ∃ cls, innerClass (getType r) = some cls ∧ cls.leastSize ≤ r.length ∧
    ie.content = .data (getType r) cls.structSize (plainBody cls r)

/-- The memory has one record after the other for the IEs of a queue, and no more of the first
`buflen` bytes is a record. -/
def Spells : List (Option Cxmpie) → List Byte → ℕ → Prop
  | [], buf, buflen => buflen ≤ ieHeaderSize ∨
      (ieHeaderSize ≤ buf.length ∧ (buflen < be16 (buf.drop 2) ∨ be16 (buf.drop 2) < ieHeaderSize))
  | none :: _, _, _ => False
  | some ie :: ies, buf, buflen => ieHeaderSize < buflen ∧
      ieHeaderSize ≤ be16 (buf.drop 2) ∧ be16 (buf.drop 2) ≤ buflen ∧
      be16 (buf.drop 2) ≤ buf.length ∧ Stands (buf.take (be16 (buf.drop 2))) ie ∧
      Spells ies (buf.drop (be16 (buf.drop 2))) (buflen - be16 (buf.drop 2))

/-- All inner IEs are there, and the memory behind the header holds their records, as far as their
lengths go. -/
def Held : Cxmpie → Prop
  | plain _ _ => True
  | multipart mem ies => ∃ n, lengthIes ies = .ok n ∧ Spells ies (mem.drop ieHeaderSize) n

/-- An IE that can be in the map under a type. -/
structure IsEntry (type : ℕ) (ie : Cxmpie) : Prop where
  ne_none : type ≠ xmpietNone
  hasType : ie.HasType type
  header_le : ieHeaderSize ≤ ie.memory.length

end Cxmpie

/-- Every IE is under its type. -/
def IeObjects.WellFormed (xmpies : IeObjects) : Prop :=
  ∀ e ∈ xmpies.entries, e.2.value.IsEntry e.1

namespace Cxmpie

/-! ## Lengths and contents -/

mutual

/-- The length of an IE is a part of what it says. -/
lemma length_eq_of_content : ∀ {ie ie' : Cxmpie}, ie.content = ie'.content →
    ie.length = ie'.length
  | plain _ _, plain _ _, h => congrArg Except.ok (IeContent.data.inj h).2.1
  | multipart _ _, multipart _ _, h => by
      rw [length, length, lengthIes_eq_of_content (IeContent.parts.inj h).2]
  | plain _ _, multipart _ _, h => absurd h nofun
  | multipart _ _, plain _ _, h => absurd h nofun

/-- The length of a queue is a part of what its IEs say. -/
lemma lengthIes_eq_of_content : ∀ {ies ies' : List (Option Cxmpie)},
    contentIes ies = contentIes ies' → lengthIes ies = lengthIes ies'
  | [], [], _ => rfl
  | none :: _, none :: _, _ => rfl
  | some ie :: ies, some ie' :: ies', h => by
      obtain ⟨hie, hies⟩ := List.cons.inj h
      rw [lengthIes, lengthIes, length_eq_of_content hie, lengthIes_eq_of_content hies]
  | [], none :: _, h => absurd h nofun
  | [], some _ :: _, h => absurd h nofun
  | none :: _, [], h => absurd h nofun
  | some _ :: _, [], h => absurd h nofun
  | none :: _, some ie :: _, h => by
      have hnull := (List.cons.inj h).1
      cases ie <;> exact absurd hnull nofun
  | some ie :: _, none :: _, h => by
      have hnull := (List.cons.inj h).1
      cases ie <;> exact absurd hnull nofun

end

/-- A queue has a length if all its IEs are there. -/
lemma none_notMem_of_lengthIes {ies : List (Option Cxmpie)} {n : ℕ} (h : lengthIes ies = .ok n) :
    none ∉ ies := by
  induction ies generalizing n with
  | nil => exact List.not_mem_nil
  | cons o ies ih =>
      cases o with
      | none => exact absurd h nofun
      | some ie =>
          rw [lengthIes] at h
          cases hie : ie.length with
          | error e =>
              rw [hie] at h
              exact absurd h nofun
          | ok n =>
              cases hies : lengthIes ies with
              | error e =>
                  rw [hie, hies] at h
                  exact absurd h nofun
              | ok m =>
                  rw [List.mem_cons]
                  rintro (hnone | hmem)
                  · exact absurd hnone nofun
                  · exact ih hies hmem

end Cxmpie

namespace IeObject

open Cxmpie

variable {buf : List Byte} {buflen next next' : ℕ} {ies : List (Option Cxmpie)}
  {queue : List (Option IeObject)} {o : Option IeObject} {ie : Cxmpie} {obj : IeObject}

/-! ## One record -/

lemma readType_eq {mem : List Byte} (h : ieHeaderSize ≤ mem.length) :
    readBe16 mem 0 = .ok (getType mem) :=
  readBe16_eq (le_trans (by decide) h)

lemma newFrom_eq {cls : IeClass} {n : ℕ} (h : ieHeaderSize ≤ ie.memory.length)
    (htakes : cls.takes (getType ie.memory) = true) (hlen : ie.length = .ok n) :
    newFrom cls ie next =
      if n < cls.leastSize then .error .eXmpIeInval
      else .ok (.plain next cls ie.memory, next + 1) := by
  rw [newFrom, readType_eq h]
  change (if cls.takes (getType ie.memory) = false then _ else _) = _
  rw [if_neg (by rw [htakes]; decide), hlen]
  rfl

/-- What `bakery` makes of an IE, by its type. -/
lemma bakery_eq {n : ℕ} (h : ieHeaderSize ≤ ie.memory.length) (hlen : ie.length = .ok n) :
    bakery ie next = (innerClass (getType ie.memory)).elim (.ok (none, next)) fun cls =>
      if n < cls.leastSize then .error .eXmpIeInval
      else .ok (some (.plain next cls ie.memory), next + 1) := by
  have hnew : ∀ cls : IeClass, cls.takes (getType ie.memory) = true →
      pointer <$> newFrom cls ie next =
        if n < cls.leastSize then .error .eXmpIeInval
        else .ok (some (.plain next cls ie.memory), next + 1) := by
    intro cls htakes
    rw [newFrom_eq h htakes hlen]
    change Except.map pointer (if n < cls.leastSize then _ else _) = _
    split <;> rfl
  rw [bakery, readType_eq h]
  generalize getType ie.memory = type at hnew
  match type, hnew with
  | 0, _ => rfl
  | 1, hnew => exact hnew .command rfl
  | 2, hnew => exact hnew .name rfl
  | 3, hnew => exact hnew .dpid rfl
  | 4, _ => rfl
  | 5, hnew => exact hnew .portinfo rfl
  | 6, hnew => exact hnew .name rfl
  | 7, hnew => exact hnew .lsiinfo rfl
  | 8, hnew => exact hnew .controller rfl
  | n + 9, _ => rfl

/-- What `bakery` makes of a record. -/
lemma bakery_record_eq {r : List Byte} (h : ieHeaderSize ≤ r.length) :
    bakery (.plain .cxmpie r) next = (innerClass (getType r)).elim (.ok (none, next)) fun cls =>
      if r.length < cls.leastSize then .error .eXmpIeInval
      else .ok (some (.plain next cls r), next + 1) :=
  @bakery_eq next (.plain .cxmpie r) r.length h rfl

lemma bakery_eq_ok {r : List Byte} (hr : ieHeaderSize ≤ r.length)
    (h : bakery (.plain .cxmpie r) next = .ok (o, next')) :
    (o = none ∧ next' = next) ∨ ∃ cls, innerClass (getType r) = some cls ∧
      cls.leastSize ≤ r.length ∧ o = some (.plain next cls r) ∧ next' = next + 1 := by
  rw [bakery_record_eq hr] at h
  cases hcls : innerClass (getType r) with
  | none =>
      rw [hcls] at h
      obtain ⟨ho, hnext⟩ := Prod.mk.inj (Except.ok.inj h)
      exact .inl ⟨ho.symm, hnext.symm⟩
  | some cls =>
      rw [hcls, Option.elim_some] at h
      split_ifs at h with hlt
      obtain ⟨ho, hnext⟩ := Prod.mk.inj (Except.ok.inj h)
      exact .inr ⟨cls, rfl, Nat.not_lt.mp hlt, ho.symm, hnext.symm⟩

/-! ## The loop -/

/-- The loop ends. -/
lemma unpackQueue_stop (h : buflen ≤ ieHeaderSize ∨ (ieHeaderSize ≤ buf.length ∧
      (buflen < be16 (buf.drop 2) ∨ be16 (buf.drop 2) < ieHeaderSize))) :
    unpackQueue buf buflen next = .ok ([], next) := by
  rw [unpackQueue]
  by_cases hlt : ieHeaderSize < buflen
  · obtain ⟨hhead, hbad⟩ := h.resolve_left (Nat.not_le.mpr hlt)
    have hlen : readBe16 buf 2 = .ok (be16 (buf.drop 2)) := readBe16_eq hhead
    rw [dif_pos hlt, hlen]
    exact dif_pos hbad
  · exact dif_neg hlt

/-- The loop goes on behind a record. -/
lemma unpackQueue_cons (hlt : ieHeaderSize < buflen) (hhead : ieHeaderSize ≤ be16 (buf.drop 2))
    (hbuflen : be16 (buf.drop 2) ≤ buflen) (hbuf : be16 (buf.drop 2) ≤ buf.length) :
    unpackQueue buf buflen next = (do
      let ie ← bakery (.plain .cxmpie (buf.take (be16 (buf.drop 2)))) next
      let ies ← unpackQueue (buf.drop (be16 (buf.drop 2))) (buflen - be16 (buf.drop 2)) ie.2
      return (ie.1 :: ies.1, ies.2)) := by
  have hlen : readBe16 buf 2 = .ok (be16 (buf.drop 2)) := readBe16_eq (hhead.trans hbuf)
  have hgood : ¬(buflen < be16 (buf.drop 2) ∨ be16 (buf.drop 2) < ieHeaderSize) :=
    not_or.mpr ⟨Nat.not_lt.mpr hbuflen, Nat.not_lt.mpr hhead⟩
  rw [unpackQueue, dif_pos hlt, hlen]
  change (if _h : _ then _ else _) = _
  rw [dif_neg hgood, ofBuf_eq hhead hbuf]
  rfl

/-- What the loop has found when it is through. -/
lemma unpackQueue_eq_ok (h : unpackQueue buf buflen next = .ok (queue, next')) :
    (queue = [] ∧ next' = next ∧ (buflen ≤ ieHeaderSize ∨ (ieHeaderSize ≤ buf.length ∧
        (buflen < be16 (buf.drop 2) ∨ be16 (buf.drop 2) < ieHeaderSize)))) ∨
      ∃ o queue' next₁, queue = o :: queue' ∧ ieHeaderSize < buflen ∧
        ieHeaderSize ≤ be16 (buf.drop 2) ∧ be16 (buf.drop 2) ≤ buflen ∧
        be16 (buf.drop 2) ≤ buf.length ∧
        bakery (.plain .cxmpie (buf.take (be16 (buf.drop 2)))) next = .ok (o, next₁) ∧
        unpackQueue (buf.drop (be16 (buf.drop 2))) (buflen - be16 (buf.drop 2)) next₁
          = .ok (queue', next') := by
  by_cases hlt : ieHeaderSize < buflen
  swap
  · rw [unpackQueue_stop (.inl (Nat.not_lt.mp hlt))] at h
    obtain ⟨rfl, rfl⟩ := Prod.mk.inj (Except.ok.inj h)
    exact .inl ⟨rfl, rfl, .inl (Nat.not_lt.mp hlt)⟩
  by_cases hread : ieHeaderSize ≤ buf.length
  swap
  · have hshort : ¬2 + 2 ≤ buf.length := hread
    rw [unpackQueue, dif_pos hlt, readBe16, readAt, if_neg hshort] at h
    cases h
  by_cases hbad : buflen < be16 (buf.drop 2) ∨ be16 (buf.drop 2) < ieHeaderSize
  · rw [unpackQueue_stop (.inr ⟨hread, hbad⟩)] at h
    obtain ⟨rfl, rfl⟩ := Prod.mk.inj (Except.ok.inj h)
    exact .inl ⟨rfl, rfl, .inr ⟨hread, hbad⟩⟩
  obtain ⟨hbuflen, hhead⟩ := not_or.mp hbad
  by_cases hbuf : be16 (buf.drop 2) ≤ buf.length
  swap
  · have hlen : readBe16 buf 2 = .ok (be16 (buf.drop 2)) := readBe16_eq hread
    rw [unpackQueue, dif_pos hlt, hlen] at h
    change (if _h : _ then _ else _) = _ at h
    rw [dif_neg hbad, ofBuf, readAt, if_neg (by rwa [Nat.zero_add])] at h
    cases h
  right
  rw [unpackQueue_cons hlt (Nat.not_lt.mp hhead) (Nat.not_lt.mp hbuflen) hbuf] at h
  cases hie : bakery (.plain .cxmpie (buf.take (be16 (buf.drop 2)))) next with
  | error e =>
      rw [hie] at h
      cases h
  | ok ie =>
      rw [hie] at h
      change (unpackQueue _ _ ie.2 >>= _) = _ at h
      cases hies : unpackQueue (buf.drop (be16 (buf.drop 2))) (buflen - be16 (buf.drop 2)) ie.2 with
      | error e =>
          rw [hies] at h
          cases h
      | ok ies =>
          rw [hies] at h
          obtain ⟨rfl, rfl⟩ := Prod.mk.inj (Except.ok.inj h)
          exact ⟨ie.1, ies.1, ie.2, rfl, hlt, Nat.not_lt.mp hhead, Nat.not_lt.mp hbuflen, hbuf, rfl,
            hies⟩

/-- All objects of the queue are new. -/
lemma addrs_of_unpackQueue (h : unpackQueue buf buflen next = .ok (queue, next')) :
    next ≤ next' ∧ ∀ a ∈ addrsIes queue, next ≤ a := by
  induction queue generalizing buf buflen next with
  | nil =>
      rcases unpackQueue_eq_ok h with ⟨-, rfl, -⟩ | ⟨o, queue', next₁, heq, -⟩
      · exact ⟨le_rfl, nofun⟩
      · exact absurd heq nofun
  | cons o queue ih =>
      rcases unpackQueue_eq_ok h with
        ⟨heq, -⟩ | ⟨o, queue', next₁, heq, -, hhead, -, hbuf, ho, hrest⟩
      · exact absurd heq nofun
      obtain ⟨rfl, rfl⟩ := List.cons.inj heq
      obtain ⟨hle, haddrs⟩ := ih hrest
      have htake : ieHeaderSize ≤ (buf.take (be16 (buf.drop 2))).length := by
        rwa [List.length_take_of_le hbuf]
      rcases bakery_eq_ok htake ho with ⟨rfl, rfl⟩ | ⟨cls, -, -, rfl, rfl⟩
      · exact ⟨hle, haddrs⟩
      · refine ⟨(Nat.le_succ next).trans hle, fun a ha => ?_⟩
        rcases List.mem_append.mp ha with ha | ha
        · exact (List.mem_singleton.mp ha).ge
        · exact (Nat.le_succ next).trans (haddrs a ha)

lemma content_of_class {cls : IeClass} {r : List Byte} (hcls : innerClass (getType r) = some cls) :
    (Cxmpie.plain cls r).content = .data (getType r) cls.structSize (plainBody cls r) := by
  rw [content, plainLength_of_ne (innerClass_ne_cxmpie hcls)]

/-- If the queue says the same, then the memory has its records. -/
lemma spells_of_unpackQueue (hnull : none ∉ ies)
    (h : unpackQueue buf buflen next = .ok (queue, next'))
    (hcontent : contentIes (valueIes queue) = contentIes ies) : Spells ies buf buflen := by
  induction queue generalizing buf buflen next ies with
  | nil =>
      rcases unpackQueue_eq_ok h with ⟨-, -, hstop⟩ | ⟨o, queue', next₁, heq, -⟩
      swap
      · exact absurd heq nofun
      match ies, hcontent with
      | [], _ => exact hstop
      | none :: _, hcontent => exact absurd hcontent nofun
      | some _ :: _, hcontent => exact absurd hcontent nofun
  | cons o queue ih =>
      rcases unpackQueue_eq_ok h with
        ⟨heq, -⟩ | ⟨o, queue', next₁, heq, hlt, hhead, hbuflen, hbuf, ho, hrest⟩
      · exact absurd heq nofun
      obtain ⟨rfl, rfl⟩ := List.cons.inj heq
      have htake : ieHeaderSize ≤ (buf.take (be16 (buf.drop 2))).length := by
        rwa [List.length_take_of_le hbuf]
      match ies, hnull, hcontent with
      | [], _, hcontent => cases o <;> exact absurd hcontent nofun
      | none :: _, hnull, _ => exact absurd List.mem_cons_self hnull
      | some ie :: ies, hnull, hcontent =>
          rw [List.mem_cons, not_or] at hnull
          rcases bakery_eq_ok htake ho with ⟨rfl, -⟩ | ⟨cls, hcls, hleast, rfl, rfl⟩
          · have hie := (List.cons.inj hcontent).1
            cases ie <;> exact absurd hie nofun
          · obtain ⟨hie, hies⟩ := List.cons.inj hcontent
            refine ⟨hlt, hhead, hbuflen, hbuf, ⟨cls, hcls, hleast, ?_⟩, ih hnull.2 hrest hies⟩
            rw [← content_of_class hcls]
            exact hie.symm

/-- If the memory has the records of a queue, then it is read from there. -/
lemma unpackQueue_of_spells (h : Spells ies buf buflen) :
    ∃ queue next', unpackQueue buf buflen next = .ok (queue, next') ∧
      contentIes (valueIes queue) = contentIes ies := by
  induction ies generalizing buf buflen next with
  | nil => exact ⟨[], next, unpackQueue_stop h, rfl⟩
  | cons o ies ih =>
      cases o with
      | none => exact absurd h id
      | some ie =>
          obtain ⟨hlt, hhead, hbuflen, hbuf, ⟨cls, hcls, hleast, hie⟩, hrest⟩ := h
          have htake : ieHeaderSize ≤ (buf.take (be16 (buf.drop 2))).length := by
            rwa [List.length_take_of_le hbuf]
          obtain ⟨queue, next', hqueue, hcontent⟩ := @ih _ _ (next + 1) hrest
          refine ⟨some (.plain next cls (buf.take (be16 (buf.drop 2)))) :: queue, next', ?_, ?_⟩
          · rw [unpackQueue_cons hlt hhead hbuflen hbuf, bakery_record_eq htake, hcls,
              Option.elim_some, if_neg (Nat.not_lt.mpr hleast)]
            change (unpackQueue _ _ (next + 1) >>= _) = _
            rw [hqueue]
            rfl
          · rw [valueIes, contentIes, contentIes, hcontent, value, content_of_class hcls, hie]

/-! ## The copy constructor of a multipart -/

/-- `cxmpie_multipart::copy_ies` -/
def copyIes : List (Option Cxmpie) → ℕ → Except XmpError (List (Option IeObject) × ℕ)
  | [], next => .ok ([], next)
  | none :: _, _ => .error .nullPointer
  | some ie :: ies, next => do
      let o ← bakery ie next
      let queue ← copyIes ies o.2
      return (o.1 :: queue.1, queue.2)

/-- The copy constructor, which `map_and_insert` does not choose, keeps inner IEs of the classes
that `bakery` has for their types, whatever the memory of the multipart holds. -/
lemma copyIes_of_innerClass (h : ∀ o ∈ ies, ∃ cls mem, o = some (.plain cls mem) ∧
      innerClass (getType mem) = some cls ∧ ieHeaderSize ≤ mem.length) (next : ℕ) :
    ∃ queue next', copyIes ies next = .ok (queue, next') ∧ valueIes queue = ies := by
  induction ies generalizing next with
  | nil => exact ⟨[], next, rfl, rfl⟩
  | cons o ies ih =>
      rw [List.forall_mem_cons] at h
      obtain ⟨⟨cls, mem, rfl, hcls, hmem⟩, hies⟩ := h
      obtain ⟨queue, next', hqueue, rfl⟩ := ih hies (next + 1)
      have hlen : (Cxmpie.plain cls mem).length = .ok cls.structSize :=
        congrArg Except.ok (plainLength_of_ne (innerClass_ne_cxmpie hcls) mem)
      have hbakery := @bakery_eq next (.plain cls mem) _ hmem hlen
      change _ = (innerClass (getType mem)).elim _ _ at hbakery
      rw [hcls, Option.elim_some, if_neg (Nat.not_lt.mpr (leastSize_le_structSize cls))] at hbakery
      refine ⟨some (.plain next cls mem) :: queue, next', ?_, rfl⟩
      rw [copyIes, hbakery]
      change (copyIes _ (next + 1) >>= _) = _
      rw [hqueue]
      rfl

/-! ## One IE of the map -/

/-- The object that `map_and_insert` makes for an IE. -/
def copyIe (ie : Cxmpie) (next : ℕ) : Except XmpError (IeObject × ℕ) :=
  match ie with
  | .plain cls mem => .ok (.plain next cls mem, next + 1)
  | .multipart mem ies => do
      let n ← lengthIes ies
      let queue ← unpackQueue (mem.drop ieHeaderSize) n (next + 1)
      return (.multipart next mem queue.1, queue.2)

lemma newMultipart_eq {mem : List Byte} (h : ieHeaderSize ≤ mem.length)
    (htype : getType mem = xmpietMultipart) :
    newMultipart (.multipart mem ies) next = copyIe (.multipart mem ies) next := by
  rw [newMultipart]
  change (readBe16 mem 0 >>= _) = _
  rw [readType_eq h]
  change (if getType mem ≠ xmpietMultipart then _ else _) = _
  rw [if_neg (not_not.mpr htype), Cxmpie.length, copyIe]
  cases lengthIes ies with
  | error e => rfl
  | ok n =>
      change (unpackQueue _ (ieHeaderSize + n - ieHeaderSize) _ >>= _) = _
      rw [Nat.add_sub_cancel_left]
      rfl

/-- A multipart is read again from its memory, as far as its inner IEs are long. -/
lemma copyIe_multipart_eq_ok {mem : List Byte}
    (h : copyIe (.multipart mem ies) next = .ok (obj, next')) :
    ∃ n queue, lengthIes ies = .ok n ∧
      unpackQueue (mem.drop ieHeaderSize) n (next + 1) = .ok (queue, next') ∧
      obj = .multipart next mem queue := by
  rw [copyIe] at h
  cases hn : lengthIes ies with
  | error e =>
      rw [hn] at h
      cases h
  | ok n =>
      rw [hn] at h
      change (unpackQueue _ n (next + 1) >>= _) = _ at h
      cases hqueue : unpackQueue (mem.drop ieHeaderSize) n (next + 1) with
      | error e =>
          rw [hqueue] at h
          cases h
      | ok queue =>
          rw [hqueue] at h
          obtain ⟨rfl, rfl⟩ := Prod.mk.inj (Except.ok.inj h)
          exact ⟨n, queue.1, rfl, hqueue, rfl⟩

lemma addrs_of_copyIe (h : copyIe ie next = .ok (obj, next')) :
    next ≤ next' ∧ ∀ a ∈ obj.addrs, next ≤ a := by
  cases ie with
  | plain cls mem =>
      obtain ⟨rfl, rfl⟩ := Prod.mk.inj (Except.ok.inj h)
      exact ⟨Nat.le_succ next, fun a ha => (List.mem_singleton.mp ha).ge⟩
  | multipart mem ies =>
      obtain ⟨n, queue, -, hqueue, rfl⟩ := copyIe_multipart_eq_ok h
      obtain ⟨hle, haddrs⟩ := addrs_of_unpackQueue hqueue
      refine ⟨(Nat.le_succ next).trans hle, fun a ha => ?_⟩
      rcases List.mem_cons.mp ha with rfl | ha
      · exact le_rfl
      · exact (Nat.le_succ next).trans (haddrs a ha)

/-- If the new object says the same, then the memory held the records. -/
lemma held_of_copyIe (h : copyIe ie next = .ok (obj, next'))
    (hcontent : obj.value.content = ie.content) : ie.Held := by
  cases ie with
  | plain cls mem => exact trivial
  | multipart mem ies =>
      obtain ⟨n, queue, hn, hqueue, rfl⟩ := copyIe_multipart_eq_ok h
      exact ⟨n, hn, spells_of_unpackQueue (none_notMem_of_lengthIes hn) hqueue
        (IeContent.parts.inj hcontent).2⟩

lemma copyIe_of_held (h : ie.Held) (next : ℕ) :
    ∃ obj next', copyIe ie next = .ok (obj, next') ∧ obj.value.content = ie.content := by
  cases ie with
  | plain cls mem => exact ⟨_, _, rfl, rfl⟩
  | multipart mem ies =>
      obtain ⟨n, hn, hspells⟩ := h
      obtain ⟨queue, next', hqueue, hcontent⟩ := @unpackQueue_of_spells _ _ (next + 1) _ hspells
      refine ⟨.multipart next mem queue, next', ?_, ?_⟩
      · rw [copyIe, hn]
        change (unpackQueue _ n (next + 1) >>= _) = _
        rw [hqueue]
        rfl
      · rw [value, content, content, hcontent]

end IeObject

namespace IeObjects

open Cxmpie IeObject

variable {m xmpies copy : IeObjects} {ie : Cxmpie} {type next next' : ℕ}

/-- `map_and_insert` makes an object of the same class, unless it is a multipart. -/
lemma mapAndInsert_eq (h : ie.IsEntry type) : mapAndInsert m ie next =
    inserted (m.erase type) type <$> copyIe ie next := by
  obtain ⟨hne, htype, hhead⟩ := h
  cases ie with
  | multipart mem ies =>
      obtain ⟨rfl, hget⟩ := htype
      have hmem : ieHeaderSize ≤ mem.length := hhead
      have hread : readBe16 mem 0 = .ok xmpietMultipart := hget ▸ readType_eq hmem
      rw [← newMultipart_eq hmem hget, mapAndInsert]
      change (readBe16 mem 0 >>= _) = _
      rw [hread]
      rfl
  | plain cls mem =>
      obtain ⟨hmulti, rfl, rfl⟩ := htype
      have hmem : ieHeaderSize ≤ mem.length := hhead
      have hnew : ∀ cls : IeClass, cls ≠ .cxmpie → cls.takes (getType mem) = true →
          newFrom cls (.plain cls mem) next = copyIe (.plain cls mem) next := by
        intro cls hcls htakes
        have hmem : ieHeaderSize ≤ (Cxmpie.plain cls mem).memory.length := hhead
        have hlen : (Cxmpie.plain cls mem).length = .ok cls.structSize :=
          congrArg Except.ok (plainLength_of_ne hcls mem)
        rw [newFrom_eq hmem htakes hlen, if_neg (Nat.not_lt.mpr (leastSize_le_structSize cls))]
        rfl
      rw [mapAndInsert]
      change (readBe16 mem 0 >>= _) = _
      rw [readType_eq hmem]
      generalize getType mem = type at hne hmulti hnew
      match type, hne, hmulti, hnew with
      | 0, hne, _, _ => exact absurd rfl hne
      | 1, _, _, hnew => exact congrArg (inserted (m.erase 1) 1 <$> ·) (hnew .command nofun rfl)
      | 2, _, _, hnew => exact congrArg (inserted (m.erase 2) 2 <$> ·) (hnew .name nofun rfl)
      | 3, _, _, hnew => exact congrArg (inserted (m.erase 3) 3 <$> ·) (hnew .dpid nofun rfl)
      | 4, _, hmulti, _ => exact absurd rfl hmulti
      | 5, _, _, hnew => exact congrArg (inserted (m.erase 5) 5 <$> ·) (hnew .portinfo nofun rfl)
      | 6, _, _, hnew => exact congrArg (inserted (m.erase 6) 6 <$> ·) (hnew .name nofun rfl)
      | 7, _, _, hnew => exact congrArg (inserted (m.erase 7) 7 <$> ·) (hnew .lsiinfo nofun rfl)
      | 8, _, _, hnew => exact congrArg (inserted (m.erase 8) 8 <$> ·) (hnew .controller nofun rfl)
      | 9, _, _, hnew => exact congrArg (inserted (m.erase 9) 9 <$> ·) (hnew .lsixlsi nofun rfl)
      | n + 10, _, _, _ => rfl

/-! ## The whole list -/

/-- The entry is a copy of another one, made when the addresses from `next` on were free. -/
def CopiedFrom (next : ℕ) (e copied : ℕ × IeObject) : Prop :=
  copied.1 = e.1 ∧ ∃ n n', next ≤ n ∧ copyIe e.2.value n = .ok (copied.2, n')

lemma CopiedFrom.mono {next₁ : ℕ} (hle : next ≤ next₁) {e copied : ℕ × IeObject}
    (h : CopiedFrom next₁ e copied) : CopiedFrom next e copied := by
  obtain ⟨hkey, n, n', hn, hcopy⟩ := h
  exact ⟨hkey, n, n', hle.trans hn, hcopy⟩

/-- The loop over entries whose keys come after those of the map. -/
def assignFrom (m : IeObjects) (next : ℕ) (es : List (ℕ × IeObject)) :
    Except XmpError (IeObjects × ℕ) :=
  es.foldlM (fun s e => mapAndInsert s.1 e.2.value s.2) (m, next)

lemma assign_eq (this : IeObjects) :
    assign this xmpies next = assignFrom SortedMap.empty next xmpies.entries :=
  List.foldlM_map

lemma assignFrom_cons {e : ℕ × IeObject} {es : List (ℕ × IeObject)} (he : e.2.value.IsEntry e.1)
    (hlt : ∀ e' ∈ m.entries, e'.1 < e.1) {obj : IeObject}
    (hcopy : copyIe e.2.value next = .ok (obj, next')) :
    assignFrom m next (e :: es) = assignFrom (m.insert e.1 obj) next' es := by
  have herase : m.erase e.1 = m := SortedMap.erase_of_forall_ne fun e' he' => (hlt e' he').ne
  rw [assignFrom, List.foldlM_cons, mapAndInsert_eq he, hcopy, herase]
  rfl

lemma forall_lt_insert {e : ℕ × IeObject} {es : List (ℕ × IeObject)}
    (hsorted : (e :: es).Pairwise fun e e' => e.1 < e'.1)
    (hlt : ∀ e' ∈ m.entries, ∀ e'' ∈ e :: es, e'.1 < e''.1) (obj : IeObject) :
    ∀ e' ∈ (m.insert e.1 obj).entries, ∀ e'' ∈ es, e'.1 < e''.1 := by
  intro e' he' e'' he''
  rcases SortedMap.mem_insert.mp he' with rfl | ⟨he', -⟩
  · exact (List.pairwise_cons.mp hsorted).1 e'' he''
  · exact hlt e' he' e'' (List.mem_cons_of_mem e he'')

variable {es : List (ℕ × IeObject)}

/-- What the loop has made when it is through. -/
lemma assignFrom_eq_ok (hes : ∀ e ∈ es, e.2.value.IsEntry e.1)
    (hsorted : es.Pairwise fun e e' => e.1 < e'.1)
    (hlt : ∀ e ∈ m.entries, ∀ e' ∈ es, e.1 < e'.1)
    (h : assignFrom m next es = .ok (copy, next')) :
    ∃ copied, copy.entries = m.entries ++ copied ∧ List.Forall₂ (CopiedFrom next) es copied := by
  induction es generalizing m next with
  | nil =>
      obtain ⟨rfl, -⟩ := Prod.mk.inj (Except.ok.inj h)
      exact ⟨[], (List.append_nil _).symm, .nil⟩
  | cons e es ih =>
      rw [List.forall_mem_cons] at hes
      have hkeys : ∀ e' ∈ m.entries, e'.1 < e.1 := fun e' he' => hlt e' he' e List.mem_cons_self
      cases hcopy : copyIe e.2.value next with
      | error err =>
          rw [assignFrom, List.foldlM_cons, mapAndInsert_eq hes.1, hcopy] at h
          exact absurd h nofun
      | ok obj =>
          rw [assignFrom_cons hes.1 hkeys hcopy] at h
          obtain ⟨copied, hentries, hcopied⟩ := ih hes.2 (List.pairwise_cons.mp hsorted).2
            (forall_lt_insert hsorted hlt obj.1) h
          rw [SortedMap.entries_insert_of_forall_lt obj.1 hkeys, List.append_assoc] at hentries
          refine ⟨(e.1, obj.1) :: copied, hentries, .cons ⟨rfl, next, obj.2, le_rfl, hcopy⟩ ?_⟩
          exact hcopied.imp fun _ _ => CopiedFrom.mono (addrs_of_copyIe hcopy).1

/-- The loop comes to its end. -/
lemma assignFrom_of_held (hes : ∀ e ∈ es, e.2.value.IsEntry e.1)
    (hsorted : es.Pairwise fun e e' => e.1 < e'.1)
    (hlt : ∀ e ∈ m.entries, ∀ e' ∈ es, e.1 < e'.1) (hheld : ∀ e ∈ es, e.2.value.Held) (next : ℕ) :
    ∃ copy next', assignFrom m next es = .ok (copy, next') := by
  induction es generalizing m next with
  | nil => exact ⟨m, next, rfl⟩
  | cons e es ih =>
      rw [List.forall_mem_cons] at hes hheld
      have hkeys : ∀ e' ∈ m.entries, e'.1 < e.1 := fun e' he' => hlt e' he' e List.mem_cons_self
      obtain ⟨obj, next', hcopy, -⟩ := copyIe_of_held hheld.1 next
      rw [assignFrom_cons hes.1 hkeys hcopy]
      exact ih hes.2 (List.pairwise_cons.mp hsorted).2 (forall_lt_insert hsorted hlt obj) hheld.2
        next'

/-- The copied entries say the same exactly if the memory of each multipart held its records. -/
lemma contents_eq_iff {copied : List (ℕ × IeObject)}
    (h : List.Forall₂ (CopiedFrom next) es copied) :
    copied.map (fun e => (e.1, e.2.value.content)) = es.map (fun e => (e.1, e.2.value.content)) ↔
      ∀ e ∈ es, e.2.value.Held := by
  induction h with
  | nil => exact iff_of_true rfl nofun
  | @cons e e' es copied hcopied _ ih =>
      obtain ⟨hkey, n, n', -, hcopy⟩ := hcopied
      have hhead : (e'.1, e'.2.value.content) = (e.1, e.2.value.content) ↔ e.2.value.Held := by
        rw [hkey, Prod.mk.injEq, eq_self, true_and]
        constructor
        · exact held_of_copyIe hcopy
        · intro hheld
          obtain ⟨obj, next', hcopy', hcontent⟩ := copyIe_of_held hheld n
          obtain ⟨rfl, -⟩ := Prod.mk.inj (Except.ok.inj (hcopy.symm.trans hcopy'))
          exact hcontent
      rw [List.map_cons, List.map_cons, List.cons.injEq, hhead, ih, List.forall_mem_cons]

lemma length_eq_of_contents (h : copy.contents = xmpies.contents) :
    copy.length = xmpies.length := by
  have hcontents : ∀ x : IeObjects, contentIes (x.values.map fun ie => some ie.value) =
      x.contents.map Prod.snd := by
    intro x
    have hvalues : (x.values.map fun ie => some ie.value) = (x.values.map value).map some := by
      rw [List.map_map]
      rfl
    rw [hvalues, contentIes_map_some, SortedMap.values, contents, List.map_map, List.map_map,
      List.map_map]
    rfl
  exact lengthIes_eq_of_content (by rw [hcontents, hcontents, h])

lemma le_addrs_of_copiedFrom {copied : List (ℕ × IeObject)}
    (h : List.Forall₂ (CopiedFrom next) es copied) :
    ∀ a ∈ (copied.map Prod.snd).flatMap IeObject.addrs, next ≤ a := by
  intro a ha
  obtain ⟨obj, hobj, ha⟩ := List.mem_flatMap.mp ha
  obtain ⟨e', he', rfl⟩ := List.mem_map.mp hobj
  obtain ⟨e, -, -, n, n', hn, hcopy⟩ := exists_of_mem_right h e' he'
  exact hn.trans ((addrs_of_copyIe hcopy).2 a ha)

/-- A list is copied exactly if the memory of its multipart holds the records of the inner IEs. -/
lemma copies_iff (h : xmpies.WellFormed) :
    xmpies.Copies ↔ ∀ e ∈ xmpies.entries, e.2.value.Held := by
  have hkeys : ∀ e ∈ (SortedMap.empty : IeObjects).entries, ∀ e' ∈ xmpies.entries, e.1 < e'.1 :=
    nofun
  constructor
  · intro hcopies
    have hnext : ∀ a ∈ xmpies.addrs, a < xmpies.addrs.sum + 1 := fun a ha =>
      Nat.lt_succ_of_le (List.le_sum_of_mem ha)
    obtain ⟨copy, next', hassign, hcontents, -⟩ := hcopies SortedMap.empty _ hnext
    rw [assign_eq] at hassign
    obtain ⟨copied, hentries, hcopied⟩ := assignFrom_eq_ok h xmpies.sorted hkeys hassign
    rw [← contents_eq_iff hcopied]
    rw [contents, hentries] at hcontents
    exact hcontents
  · intro hheld this next hnext
    obtain ⟨copy, next', hassign⟩ := assignFrom_of_held h xmpies.sorted hkeys hheld next
    obtain ⟨copied, hentries, hcopied⟩ := assignFrom_eq_ok h xmpies.sorted hkeys hassign
    have hcontents : copy.contents = xmpies.contents := by
      rw [contents, hentries]
      exact (contents_eq_iff hcopied).mpr hheld
    refine ⟨copy, next', (assign_eq this).trans hassign, hcontents,
      length_eq_of_contents hcontents, fun a ha hmem => ?_⟩
    rw [addrs, SortedMap.values, hentries] at ha
    exact absurd (hnext a hmem) (Nat.not_lt.mpr (le_addrs_of_copiedFrom hcopied a ha))

end IeObjects

/-! ## How lists are built -/

namespace IeObject

open Cxmpie

variable {buf : List Byte} {next : ℕ}

lemma valueIes_cons (o : Option IeObject) (queue : List (Option IeObject)) :
    valueIes (o :: queue) = o.map value :: valueIes queue := by
  cases o <;> rfl

lemma bakery_value {r : List Byte} (h : ieHeaderSize ≤ r.length) :
    (bakery (.plain .cxmpie r) next).map (fun o => o.1.map value) = innerOf r := by
  rw [bakery_record_eq h, innerOf]
  cases innerClass (getType r) with
  | none => rfl
  | some cls =>
      rw [Option.elim_some]
      change _ = (construct cls r).map some
      rw [construct]
      split <;> rfl

/-- A memory that is read to its end, as when a message is unpacked. -/
lemma unpackQueue_value (buf : List Byte) (next : ℕ) :
    (unpackQueue buf buf.length next).map (fun queue => valueIes queue.1) =
      (ieFraming.records buf).mapM innerOf := by
  induction buf using Framing.cuts_induction (F := ieFraming) generalizing next with
  | hcut buf h ih =>
      obtain ⟨hlt, hhead, hle⟩ := id h
      change ieHeaderSize ≤ be16 (buf.drop 2) at hhead
      change be16 (buf.drop 2) ≤ buf.length at hle
      have hinner := @bakery_value next (buf.take (be16 (buf.drop 2)))
        (by rwa [List.length_take_of_le hle])
      rw [unpackQueue_cons hlt hhead hle hle, Framing.records_of_cuts h, List.mapM_cons,
        ← List.length_drop]
      change _ = (innerOf (buf.take (be16 (buf.drop 2))) >>= _)
      cases hie : bakery (.plain .cxmpie (buf.take (be16 (buf.drop 2)))) next with
      | error e =>
          rw [hie] at hinner
          rw [← hinner]
          rfl
      | ok ie =>
          rw [hie] at hinner
          rw [← hinner]
          have hrest : Except.map (fun queue => valueIes queue.1) (unpackQueue
              (buf.drop (be16 (buf.drop 2))) (buf.drop (be16 (buf.drop 2))).length ie.2) =
              (ieFraming.records (buf.drop (be16 (buf.drop 2)))).mapM innerOf := ih ie.2
          change Except.map _ (unpackQueue (buf.drop (be16 (buf.drop 2)))
              (buf.drop (be16 (buf.drop 2))).length ie.2 >>= _) =
            ((ieFraming.records (buf.drop (be16 (buf.drop 2)))).mapM innerOf >>= _)
          rw [← hrest]
          cases unpackQueue (buf.drop (be16 (buf.drop 2)))
            (buf.drop (be16 (buf.drop 2))).length ie.2 with
          | error e => rfl
          | ok ies => exact congrArg Except.ok (valueIes_cons ie.1 ies.1)
  | hstop buf h =>
      rw [Framing.records_of_not_cuts h]
      have hstop : buf.length ≤ ieHeaderSize ∨ (ieHeaderSize ≤ buf.length ∧
          (buf.length < be16 (buf.drop 2) ∨ be16 (buf.drop 2) < ieHeaderSize)) := by
        by_contra hcuts
        obtain ⟨hlt, hgood⟩ := not_or.mp hcuts
        rw [Nat.not_le] at hlt
        obtain ⟨hle, hhead⟩ := not_or.mp fun hbad => hgood ⟨hlt.le, hbad⟩
        exact h ⟨hlt, Nat.not_lt.mp hhead, Nat.not_lt.mp hle⟩
      rw [unpackQueue_stop hstop]
      rfl

lemma newMultipart_value {r : List Byte} (h : ieHeaderSize ≤ r.length)
    (htype : getType r = xmpietMultipart) :
    (newMultipart (.plain .cxmpie r) next).map (fun ie => ie.1.value) = multipartOf r := by
  rw [newMultipart, multipartOf, ← unpackQueue_value _ (next + 1), List.length_drop]
  change Except.map _ (readBe16 r 0 >>= _) = _
  rw [readType_eq h]
  change Except.map _ (if getType r ≠ xmpietMultipart then _ else _) = _
  rw [if_neg (not_not.mpr htype)]
  change Except.map _ (unpackQueue (r.drop ieHeaderSize) (r.length - ieHeaderSize) (next + 1) >>= _)
    = _
  cases unpackQueue (r.drop ieHeaderSize) (r.length - ieHeaderSize) (next + 1) <;> rfl

lemma newFrom_value {cls : IeClass} {r : List Byte} (h : ieHeaderSize ≤ r.length)
    (htakes : cls.takes (getType r) = true) :
    (newFrom cls (.plain .cxmpie r) next).map (fun ie => ie.1.value) = construct cls r := by
  have hmem : ieHeaderSize ≤ (Cxmpie.plain .cxmpie r).memory.length := h
  rw [newFrom_eq hmem htakes rfl, construct]
  change Except.map _ (if r.length < cls.leastSize then _ else _) = _
  split <;> rfl

end IeObject

namespace IeObjects

open Cxmpie IeObject

variable {m xmpies : IeObjects} {next next' : ℕ}

/-- The list without the addresses. -/
def value (xmpies : IeObjects) : Cxmpies where
  entries := xmpies.entries.map fun e => (e.1, e.2.value)
  sorted := List.pairwise_map.mpr xmpies.sorted

lemma value_erase (m : IeObjects) (type : ℕ) : value (m.erase type) = (value m).erase type := by
  ext1
  change (m.entries.filter _).map _ = (m.entries.map _).filter _
  rw [List.filter_map]
  rfl

lemma value_insert (m : IeObjects) (type : ℕ) (obj : IeObject) :
    value (m.insert type obj) = (value m).insert type obj.value := by
  ext1
  change (m.entries.filter _ ++ (type, obj) :: m.entries.filter _).map _ =
    (m.entries.map _).filter _ ++ (type, obj.value) :: (m.entries.map _).filter _
  rw [List.filter_map, List.filter_map, List.map_append, List.map_cons]
  rfl

/-- For a record, `map_and_insert` is what it is when a message is unpacked. -/
lemma mapAndInsert_value {r : List Byte} (h : ieHeaderSize ≤ r.length) :
    (mapAndInsert m (.plain .cxmpie r) next).map (fun s => value s.1) =
      Cxmpies.mapAndInsert (value m) r := by
  have hput : ∀ (x : Except XmpError (IeObject × ℕ)) (type : ℕ),
      (inserted (m.erase type) type <$> x).map (fun s => value s.1) =
        ((x.map fun ie => ie.1.value).map some).map ((value m).put type) := by
    intro x type
    cases x with
    | error e => rfl
    | ok ie =>
        change Except.ok (value ((m.erase type).insert type ie.1)) = _
        rw [value_insert, value_erase]
        rfl
  have hnew : ∀ cls : IeClass, cls.takes (getType r) = true →
      (inserted (m.erase (getType r)) (getType r) <$> newFrom cls (.plain .cxmpie r) next).map
        (fun s => value s.1) = ((construct cls r).map some).map ((value m).put (getType r)) := by
    intro cls htakes
    rw [hput, newFrom_value h htakes]
  have hmulti : getType r = xmpietMultipart →
      (inserted (m.erase (getType r)) (getType r) <$> newMultipart (.plain .cxmpie r) next).map
        (fun s => value s.1) = ((multipartOf r).map some).map ((value m).put (getType r)) := by
    intro htype
    rw [hput, newMultipart_value h htype]
  rw [Cxmpies.mapAndInsert_eq _ h, topOf, mapAndInsert]
  change Except.map _ (readBe16 r 0 >>= _) = _
  rw [readType_eq h]
  generalize getType r = type at hnew hmulti
  rcases type with _ | _ | _ | _ | _ | _ | _ | _ | _ | _ | n
  · exact congrArg Except.ok (value_erase m 0)
  · exact hnew .command rfl
  · exact hnew .name rfl
  · exact hnew .dpid rfl
  · exact hmulti rfl
  · exact hnew .portinfo rfl
  · exact hnew .name rfl
  · exact hnew .lsiinfo rfl
  · exact hnew .controller rfl
  · exact hnew .lsixlsi rfl
  · have hlong : construct .cxmpie r = .ok (.plain .cxmpie r) := if_neg (Nat.not_lt.mpr h)
    change Except.ok (value ((m.erase (n + 10)).insert (n + 10) _)) =
      ((construct .cxmpie r).map some).map _
    rw [hlong, value_insert, value_erase]
    rfl

/-- `unpack` -/
def unpack (buf : List Byte) (next : ℕ) : Except XmpError (IeObjects × ℕ) :=
  unpackLoop (fun s elem => mapAndInsert s.1 (.plain .cxmpie elem) s.2) (SortedMap.empty, next) buf

/-- Without the addresses, lists are unpacked as before. -/
lemma unpack_value (buf : List Byte) (next : ℕ) :
    (unpack buf next).map (fun s => value s.1) = Cxmpies.unpack buf := by
  have hfold : ∀ (rs : List (List Byte)) (s : IeObjects × ℕ), (∀ r ∈ rs, ieHeaderSize ≤ r.length) →
      (rs.foldlM (fun s elem => mapAndInsert s.1 (.plain .cxmpie elem) s.2) s).map
        (fun s => value s.1) = rs.foldlM Cxmpies.mapAndInsert (value s.1) := by
    intro rs
    induction rs with
    | nil => exact fun _ _ => rfl
    | cons r rs ih =>
        intro s hrs
        rw [List.forall_mem_cons] at hrs
        have hstep := @mapAndInsert_value s.1 s.2 r hrs.1
        rw [List.foldlM_cons, List.foldlM_cons, ← hstep]
        cases mapAndInsert s.1 (.plain .cxmpie r) s.2 with
        | error e => rfl
        | ok s' => exact ih s' hrs.2
  rw [unpack, unpackLoop_eq, Cxmpies.unpack, unpackLoop_eq]
  exact hfold _ _ fun r hr => (Framing.isRecord_of_mem_records hr).1

lemma isEntry_of_unpack {buf : List Byte} {x : Cxmpies} (h : Cxmpies.unpack buf = .ok x) :
    ∀ e ∈ x.entries, e.2.IsEntry e.1 := by
  intro e he
  rw [Cxmpies.unpack_eq] at h
  rcases (SortedMap.mem_of_foldlM_enter h e).mp he with ⟨r, hlast, htype, hr⟩ | ⟨hempty, -⟩
  swap
  · exact absurd hempty List.not_mem_nil
  have hhead : ieHeaderSize ≤ r.length := (Framing.isRecord_of_mem_records hlast.mem).1
  obtain ⟨hne, ⟨hmulti, ies, hie, -⟩ | ⟨hmulti, hie, -⟩⟩ := topOf_eq_ok hr
  · rw [hie]
    exact ⟨htype ▸ hne, ⟨htype ▸ hmulti, htype⟩, hhead⟩
  · rw [hie]
    exact ⟨htype ▸ hne, ⟨htype ▸ hmulti, congrArg topClass htype, htype⟩, hhead⟩

/-- Lists that are unpacked have every IE under its type. -/
lemma wellFormed_of_unpack {buf : List Byte} (h : unpack buf next = .ok (xmpies, next')) :
    xmpies.WellFormed := by
  have hvalue := unpack_value buf next
  rw [h] at hvalue
  exact fun e he => isEntry_of_unpack hvalue.symm (e.1, e.2.value) (List.mem_map_of_mem he)

/-- Adding an IE under its type keeps this. -/
lemma WellFormed.insert (h : xmpies.WellFormed) {type : ℕ} {obj : IeObject}
    (hobj : obj.value.IsEntry type) : IeObjects.WellFormed (SortedMap.insert xmpies type obj) := by
  intro e he
  rcases SortedMap.mem_insert.mp he with rfl | ⟨he, -⟩
  · exact hobj
  · exact h e he

/-- `push_back` keeps it, whatever the pointer is. -/
lemma WellFormed.pushBack (h : xmpies.WellFormed) {addr : ℕ} {mem : List Byte}
    {queue : List (Option IeObject)}
    (hfind : xmpies.find xmpietMultipart = some (.multipart addr mem queue)) (o : Option IeObject) :
    IeObjects.WellFormed (SortedMap.insert xmpies xmpietMultipart
      (.multipart addr mem (queue ++ [o]))) := by
  obtain ⟨hne, htype, hhead⟩ := h _ (SortedMap.find_eq_some_iff.mp hfind)
  exact h.insert ⟨hne, htype, hhead⟩

end IeObjects

/-! ## When the memory holds the records -/

namespace Cxmpie

variable {mem r : List Byte} {ies : List (Option Cxmpie)}

/-- A multipart that was never unpacked has the memory of its header only. -/
lemma held_header_iff (h : mem.length = ieHeaderSize) : (multipart mem ies).Held ↔ ies = [] := by
  have hdrop : mem.drop ieHeaderSize = [] := List.drop_eq_nil_of_le h.le
  constructor
  · rintro ⟨n, -, hspells⟩
    rw [hdrop] at hspells
    match ies, hspells with
    | [], _ => rfl
    | none :: _, hspells => exact absurd hspells id
    | some _ :: _, ⟨_, hhead, _⟩ => exact absurd hhead (by decide)
  · rintro rfl
    exact ⟨0, rfl, .inl (Nat.zero_le _)⟩

lemma spells_of_records (buf : List Byte)
    (h : List.Forall₂ (fun r o => innerOf r = .ok o) (ieFraming.records buf) ies)
    (hwhole : ∀ r ∈ ieFraming.records buf, ∃ cls, innerClass (getType r) = some cls ∧
      r.length = cls.structSize) : ∃ n, lengthIes ies = .ok n ∧ Spells ies buf n := by
  induction buf using Framing.cuts_induction (F := ieFraming) generalizing ies with
  | hcut buf hcuts ih =>
      obtain ⟨-, hhead, hle⟩ := id hcuts
      change ieHeaderSize ≤ be16 (buf.drop 2) at hhead
      change be16 (buf.drop 2) ≤ buf.length at hle
      rw [Framing.records_of_cuts hcuts] at h hwhole
      rw [List.forall_mem_cons] at hwhole
      obtain ⟨⟨cls, hcls, hlen⟩, hrest⟩ := hwhole
      cases h with
      | @cons _ o _ ies ho hies =>
          obtain ⟨m, hm, hspells⟩ := ih hies hrest
          change (buf.take (be16 (buf.drop 2))).length = _ at hlen
          rw [List.length_take_of_le hle] at hlen
          rcases innerOf_eq_ok ho with ⟨-, hnone⟩ | ⟨cls', hcls', rfl, hleast⟩
          · exact absurd (hcls.symm.trans hnone) nofun
          obtain rfl := Option.some_inj.mp (hcls.symm.trans hcls')
          have hlength := plainLength_of_ne (innerClass_ne_cxmpie hcls)
            (buf.take (be16 (buf.drop 2)))
          have hlt := ieHeaderSize_lt_structSize (innerClass_ne_cxmpie hcls)
          have hsub : be16 (buf.drop 2) + m - be16 (buf.drop 2) = m := Nat.add_sub_cancel_left ..
          refine ⟨be16 (buf.drop 2) + m, ?_, ?_, hhead, Nat.le_add_right _ _, hle,
            ⟨cls, hcls, hleast, IeObject.content_of_class hcls⟩, ?_⟩
          · rw [lengthIes, hm, hlen, ← hlength]
            rfl
          · rw [← hlen] at hlt
            exact hlt.trans_le (Nat.le_add_right _ _)
          · rw [hsub]
            exact hspells
  | hstop buf hcuts =>
      rw [Framing.records_of_not_cuts hcuts] at h
      cases h
      exact ⟨0, rfl, .inl (Nat.zero_le _)⟩

/-- A multipart that was unpacked holds its records if none is longer or shorter than the structure
of its class. -/
lemma held_of_multipartOf (h : multipartOf r = .ok (.multipart r ies))
    (hwhole : ∀ r' ∈ ieFraming.records (r.drop ieHeaderSize),
      ∃ cls, innerClass (getType r') = some cls ∧ r'.length = cls.structSize) :
    (multipart r ies).Held := by
  obtain ⟨ies', hies, heq⟩ := map_eq_ok_iff.mp h
  obtain ⟨-, rfl⟩ := Cxmpie.multipart.inj heq
  exact spells_of_records _ (mapM_eq_ok_iff.mp hies) hwhole

end Cxmpie

/-! ## Messages -/

namespace MsgObject

open Cxmpie

/-- A message and its IEs are copied exactly if the memory of a multipart holds the records of the
inner IEs, as far as their lengths go. -/
theorem copies_iff_held (msg : MsgObject) (h : msg.xmpies.WellFormed) :
    msg.xmpies.Copies ∧ msg.Copies ↔ ∀ e ∈ msg.xmpies.entries, e.2.value.Held := by
  rw [← IeObjects.copies_iff h]
  constructor
  · exact And.left
  · refine fun hcopies => ⟨hcopies, fun this next hnext => ?_⟩
    obtain ⟨copy, next', hassign, hcopy⟩ := hcopies this.xmpies next hnext
    refine ⟨⟨msg.memory, copy⟩, next', ?_, rfl, ?_, hcopy⟩
    · rw [assign, hassign]
      rfl
    · rw [length, length, hcopy.2.1]

/-- A reply with a multipart. -/
def reply (mem : List Byte) (ies : List (Option IeObject)) : MsgObject where
  memory := [1, 2, 0, 8, 0, 0, 0, 7]
  xmpies := ⟨[(xmpietMultipart, .multipart 0 mem ies)], List.pairwise_singleton _ _⟩

lemma wellFormed_reply {mem : List Byte} (htype : getType mem = xmpietMultipart)
    (hhead : ieHeaderSize ≤ mem.length) (ies : List (Option IeObject)) :
    (reply mem ies).xmpies.WellFormed := by
  intro e he
  obtain rfl := List.mem_singleton.mp he
  exact ⟨Nat.succ_ne_zero 3, ⟨rfl, htype⟩, hhead⟩

/-- The record of a name. -/
def portname : List Byte := [0, 2, 0, 36, 97] ++ List.replicate 31 0

lemma records_portname : ieFraming.records portname = [portname] := by
  have hcuts : ieFraming.Cuts portname := by decide
  have hend : ¬ ieFraming.Cuts (portname.drop (ieFraming.lenOf portname)) := by decide
  rw [Framing.records_of_cuts hcuts, Framing.records_of_not_cuts hend]
  rfl

/-- A reply that lists a port is copied after it has been unpacked. -/
theorem copies_reply_portname :
    (reply ([0, 4, 0, 40] ++ portname) [some (.plain 1 .name portname)]).xmpies.Copies ∧
      (reply ([0, 4, 0, 40] ++ portname) [some (.plain 1 .name portname)]).Copies := by
  refine (copies_iff_held _ (wellFormed_reply rfl (by decide) _)).mpr fun e he => ?_
  obtain rfl := List.mem_singleton.mp he
  have hrecords : ieFraming.records (([0, 4, 0, 40] ++ portname).drop ieHeaderSize) = [portname] :=
    records_portname
  refine held_of_multipartOf ?_ fun r hr => ?_
  · rw [multipartOf, hrecords]
    rfl
  · rw [hrecords] at hr
    obtain rfl := List.mem_singleton.mp hr
    exact ⟨.name, rfl, rfl⟩

/-- It is not copied if the port was pushed: its multipart is read behind the end of its memory. -/
theorem not_copies_reply_name :
    ¬(reply [0, 4, 0, 4] [some (.plain 1 .name portname)]).xmpies.Copies := by
  intro h
  have hwf : (reply [0, 4, 0, 4] [some (.plain 1 .name portname)]).xmpies.WellFormed :=
    wellFormed_reply rfl (by decide) _
  have hheld := (IeObjects.copies_iff hwf).mp h _ (List.mem_singleton.mpr rfl)
  exact absurd ((held_header_iff rfl).mp hheld) nofun

end MsgObject

end Xdpd.Xmp
