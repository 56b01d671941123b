import Mathlib.Data.List.Induction
import Xdpd.Xmp.Wire

/-!
# What XMP information elements say

The `content` of an IE is its type, its length and the bytes behind its header, or for a multipart
what its inner IEs say.  An IE whose inner ones are known to `bakery` is read back from its wire
form with the same content (`topOf_wire`).  What is read from any record is bounded by the size of
the record (`bounded_of_topOf`), so that an IE which says more cannot come back.
-/

namespace Xdpd.Xmp

open Xdpd.Lib

/-! ## Contents -/

/-- What an IE says: its type, its length and the bytes behind its header, or its inner IEs.  The
length field is not a part of it. -/
inductive IeContent where
  | null
  | data (type length : ℕ) (body : List Byte)
  | parts (type : ℕ) (ies : List IeContent)

namespace Cxmpie

mutual

/-- What an IE says. -/
def content : Cxmpie → IeContent
  | plain cls mem => .data (getType mem) (plainLength cls mem) (plainBody cls mem)
  | multipart mem ies => .parts (getType mem) (contentIes ies)

/-- What the IEs of a queue say. -/
def contentIes : List (Option Cxmpie) → List IeContent
  | [] => []
  | none :: ies => .null :: contentIes ies
  | some ie :: ies => ie.content :: contentIes ies

end

/-- The object has the class that `cxmpies` keeps for a type, and that type. -/
def HasType (type : ℕ) : Cxmpie → Prop
  | plain cls mem => type ≠ xmpietMultipart ∧ cls = topClass type ∧ getType mem = type
  | multipart mem _ => type = xmpietMultipart ∧ getType mem = type

/-- The IE has no inner ones, a type that `bakery` has a class for, and the length of that class. -/
def Known (o : Option Cxmpie) : Prop :=
  ∃ cls mem cls', o = some (plain cls mem) ∧ innerClass (getType mem) = some cls' ∧
    plainLength cls mem = cls'.structSize

/-- All inner IEs are known to `bakery`. -/
def InnerKnown : Cxmpie → Prop
  | plain _ _ => True
  | multipart _ ies => ∀ o ∈ ies, Known o

end Cxmpie

/-! ## Wire forms as records -/

namespace Cxmpie

lemma ieHeaderSize_le_wire {ie : Cxmpie} (h : ie.Proper) : ieHeaderSize ≤ ie.wire.length := by
  cases ie with
  | plain cls mem =>
      rw [length_wire_plain h]
      exact ieHeaderSize_le_plainLength h
  | multipart mem ies =>
      rw [length_wire_multipart h]
      exact Nat.le_add_right _ _

lemma isRecord_encode {mem : List Byte} (h : ieHeaderSize ≤ mem.length) {body : List Byte}
    (hlen : (encode mem body).length < 65536) : ieFraming.IsRecord (encode mem body) := by
  rw [length_encode h] at hlen
  refine ⟨?_, ?_⟩
  · rw [length_encode h]
    exact Nat.le_add_right _ _
  · change be16 ((encode mem body).drop 2) = _
    rw [drop_two_encode h, be16_htobe16, Nat.mod_eq_of_lt hlen, length_encode h]

/-- The wire form of an IE is a record if its length fits the length field. -/
lemma isRecord_wire {ie : Cxmpie} (h : ie.Proper) (hlen : ie.wire.length < 65536) :
    ieFraming.IsRecord ie.wire := by
  cases ie with
  | plain cls mem => exact isRecord_encode (ieHeaderSize_le_memory h) hlen
  | multipart mem ies => exact isRecord_encode h.1 hlen

lemma wireIes_map_some (ies : List Cxmpie) :
    wireIes (ies.map some) = (ies.map wire).flatten := by
  induction ies with
  | nil => rfl
  | cons ie ies ih => rw [List.map_cons, wireIes, ih, List.map_cons, List.flatten_cons]

lemma contentIes_map_some (ies : List Cxmpie) :
    contentIes (ies.map some) = ies.map content := by
  induction ies with
  | nil => rfl
  | cons ie ies ih => rw [List.map_cons, contentIes, ih, List.map_cons]

lemma properIes_map_some {ies : List Cxmpie} :
    ProperIes (ies.map some) ↔ ∀ ie ∈ ies, ie.Proper := by
  induction ies with
  | nil => exact iff_of_true trivial nofun
  | cons ie ies ih => rw [List.map_cons, ProperIes, ih, List.forall_mem_cons]

/-- A queue whose IEs are all there. -/
lemma eq_map_some_of_properIes {ies : List (Option Cxmpie)} (h : ProperIes ies) :
    ∃ l : List Cxmpie, ies = l.map some := by
  induction ies with
  | nil => exact ⟨[], rfl⟩
  | cons o ies ih =>
      cases o with
      | none => exact absurd h id
      | some ie =>
          obtain ⟨l, rfl⟩ := ih h.2
          exact ⟨ie :: l, rfl⟩

/-- The IEs in front of the last one are found. -/
lemma records_wires {l : List Cxmpie} {ie : Cxmpie}
    (hl : ∀ ie' ∈ l, ie'.Proper ∧ ie'.wire.length < 65536) (h : ie.Proper) :
    ieFraming.records ((l.map wire).flatten ++ ie.wire)
      = l.map wire ++ ieFraming.records ie.wire := by
  have hwire := ieHeaderSize_le_wire h
  refine Framing.records_flatten_append (fun r hr => ?_) ?_
  · obtain ⟨ie', hie', rfl⟩ := List.mem_map.mp hr
    exact isRecord_wire (hl ie' hie').1 (hl ie' hie').2
  · change ieHeaderSize + 1 ≤ ieHeaderSize + ie.wire.length
    exact Nat.add_le_add_left (le_trans (by decide) hwire) _

/-- An IE with a body is found at the end. -/
lemma records_wire {ie : Cxmpie} (h : ie.Proper) (hlen : ie.wire.length < 65536)
    (hbody : ieHeaderSize < ie.wire.length) : ieFraming.records ie.wire = [ie.wire] := by
  have hrecord := (isRecord_wire h hlen).records_append (t := []) hbody
  rwa [List.append_nil, Framing.records_nil] at hrecord

/-- All IEs are found if the last one has a body. -/
lemma records_wires_of_last {l : List Cxmpie}
    (hl : ∀ ie ∈ l, ie.Proper ∧ ie.wire.length < 65536)
    (hlast : ∀ ie, l.getLast? = some ie → ieHeaderSize < ie.wire.length) :
    ieFraming.records (l.map wire).flatten = l.map wire := by
  induction l using List.reverseRecOn with
  | nil => exact Framing.records_nil
  | append_singleton l ie _ =>
      rw [List.forall_mem_append, List.forall_mem_singleton] at hl
      have hbody := hlast ie List.getLast?_concat
      rw [List.map_append, List.map_singleton, List.flatten_append, List.flatten_singleton,
        records_wires hl.1 hl.2.1, records_wire hl.2.1 hl.2.2 hbody]

/-! ## IEs that come back -/

lemma leastSize_le_structSize (cls : IeClass) : cls.leastSize ≤ cls.structSize := by
  cases cls <;> decide

lemma innerClass_ne_cxmpie {type : ℕ} {cls : IeClass} (h : innerClass type = some cls) :
    cls ≠ .cxmpie := by
  rintro rfl
  unfold innerClass at h
  split at h <;> exact absurd h (by decide)

/-- The classes with a structure of their own have one with a body. -/
lemma ieHeaderSize_lt_structSize {cls : IeClass} (h : cls ≠ .cxmpie) :
    ieHeaderSize < cls.structSize := by
  revert h
  cases cls <;> decide

lemma structSize_lt (cls : IeClass) : cls.structSize < 65536 := by
  cases cls <;> decide

/-- A record with the length of a class, read as an object of it. -/
lemma construct_encode {cls : IeClass} {mem body : List Byte}
    (hle : cls.leastSize ≤ (encode mem body).length) :
    construct cls (encode mem body) = .ok (plain cls (encode mem body)) :=
  if_neg (Nat.not_lt.mpr hle)

lemma content_plain_encode {cls : IeClass} {mem body : List Byte} (h : ieHeaderSize ≤ mem.length)
    (hlen : plainLength cls (encode mem body) = (encode mem body).length) :
    (plain cls (encode mem body)).content
      = .data (getType mem) (ieHeaderSize + body.length) body := by
  rw [content, plainBody, hlen, List.take_length, getType_encode h, drop_encode h,
    length_encode h]

/-- What an IE that owns its memory says, by its body. -/
lemma content_plain {cls : IeClass} {mem : List Byte} (h : (plain cls mem).Proper) :
    (plain cls mem).content
      = .data (getType mem) (ieHeaderSize + (plainBody cls mem).length) (plainBody cls mem) := by
  have hle := ieHeaderSize_le_plainLength h
  have hsum : ieHeaderSize + (plainBody cls mem).length = plainLength cls mem := by
    rw [length_plainBody h]
    omega
  rw [content, hsum]

/-- An inner IE that is known comes back. -/
lemma innerOf_wire {ie : Cxmpie} (h : ie.Proper) (hknown : Known (some ie)) :
    ∃ ie', innerOf ie.wire = .ok (some ie') ∧ ie'.content = ie.content := by
  obtain ⟨cls, mem, cls', heq, hcls, hlen⟩ := hknown
  obtain rfl := Option.some.inj heq
  have hmem : ieHeaderSize ≤ mem.length := ieHeaderSize_le_memory h
  have hwire : (plain cls mem).wire.length = cls'.structSize := (length_wire_plain h).trans hlen
  have hplain : plainLength cls' (plain cls mem).wire = (plain cls mem).wire.length := by
    rw [plainLength_of_ne (innerClass_ne_cxmpie hcls), hwire]
  refine ⟨plain cls' (plain cls mem).wire, ?_, ?_⟩
  · rw [innerOf, wire, getType_encode hmem, hcls]
    change (construct cls' _).map some = _
    rw [construct_encode (by
      rw [← wire, hwire]
      exact leastSize_le_structSize cls')]
    rfl
  · rw [content_plain h]
    exact content_plain_encode hmem hplain

/-- A multipart whose inner IEs are known comes back. -/
lemma multipartOf_wire {mem : List Byte} {ies : List (Option Cxmpie)}
    (h : (multipart mem ies).Proper) (hknown : ∀ o ∈ ies, Known o) :
    ∃ ie', multipartOf (multipart mem ies).wire = .ok ie' ∧
      ie'.content = (multipart mem ies).content := by
  obtain ⟨l, rfl⟩ := eq_map_some_of_properIes h.2
  have hproper := properIes_map_some.mp h.2
  have hlens : ∀ ie ∈ l, ieHeaderSize < ie.wire.length ∧ ie.wire.length < 65536 := by
    intro ie hie
    obtain ⟨cls, mem', cls', heq, hcls, hlen⟩ := hknown (some ie) (List.mem_map_of_mem hie)
    obtain rfl := Option.some.inj heq
    rw [length_wire_plain (hproper _ hie), hlen]
    exact ⟨ieHeaderSize_lt_structSize (innerClass_ne_cxmpie hcls), structSize_lt cls'⟩
  have hrecords : ieFraming.records ((multipart mem (l.map some)).wire.drop ieHeaderSize)
      = l.map wire := by
    rw [wire, drop_encode h.1, wireIes_map_some]
    refine records_wires_of_last (fun ie hie => ⟨hproper ie hie, (hlens ie hie).2⟩) ?_
    intro ie hie
    exact (hlens ie (List.mem_of_getLast? hie)).1
  have hall : ∃ l' : List Cxmpie, (l.map wire).mapM innerOf = .ok (l'.map some) ∧
      l'.map content = l.map content := by
    clear hrecords h
    induction l with
    | nil => exact ⟨[], rfl, rfl⟩
    | cons ie l ih =>
        rw [List.forall_mem_cons] at hproper hlens
        rw [List.map_cons, List.forall_mem_cons] at hknown
        obtain ⟨ie', hie', hcontent⟩ := innerOf_wire hproper.1 hknown.1
        obtain ⟨l', hl', hcontents⟩ := ih hknown.2 hproper.2 hlens.2
        refine ⟨ie' :: l', ?_, ?_⟩
        · rw [List.map_cons, List.mapM_cons, hie', hl']
          rfl
        · rw [List.map_cons, List.map_cons, hcontent, hcontents]
  obtain ⟨l', hl', hcontents⟩ := hall
  refine ⟨multipart (multipart mem (l.map some)).wire (l'.map some), ?_, ?_⟩
  · rw [multipartOf, hrecords, hl']
    rfl
  · rw [content, content, contentIes_map_some, contentIes_map_some, hcontents, wire,
      getType_encode h.1]

lemma leastSize_topClass_le {cls : IeClass} {mem : List Byte} (h : (plain cls mem).Proper) :
    cls.leastSize ≤ plainLength cls mem := by
  by_cases hcls : cls = .cxmpie
  · subst hcls
    exact h
  · rw [plainLength_of_ne hcls]
    exact leastSize_le_structSize cls

/-- **An IE comes back.** -/
lemma topOf_wire {type : ℕ} {ie : Cxmpie} (htype : type ≠ xmpietNone) (h : ie.Proper)
    (hhas : ie.HasType type) (hknown : ie.InnerKnown) :
    getType ie.wire = type ∧ ∃ ie', topOf ie.wire = .ok (some ie') ∧ ie'.content = ie.content := by
  cases ie with
  | plain cls mem =>
      obtain ⟨hne, rfl, hmem⟩ := hhas
      have hhead : ieHeaderSize ≤ mem.length := ieHeaderSize_le_memory h
      have hget : getType (plain (topClass type) mem).wire = type := by
        rw [wire, getType_encode hhead, hmem]
      have hlen := length_wire_plain h
      refine ⟨hget, plain (topClass type) (plain (topClass type) mem).wire, ?_, ?_⟩
      · rw [topOf, hget, if_neg htype, if_neg hne, wire, construct_encode (by
          rw [← wire, hlen]
          exact leastSize_topClass_le h)]
        rfl
      · rw [content_plain h]
        refine content_plain_encode hhead ?_
        rw [← wire]
        by_cases hcls : topClass type = .cxmpie
        · rw [hcls]
          rfl
        · rw [hlen, plainLength_of_ne hcls, plainLength_of_ne hcls]
  | multipart mem ies =>
      obtain ⟨rfl, hmem⟩ := hhas
      have hget : getType (multipart mem ies).wire = xmpietMultipart := by
        rw [wire, getType_encode h.1, hmem]
      obtain ⟨ie', hie', hcontent⟩ := multipartOf_wire h hknown
      refine ⟨hget, ie', ?_, hcontent⟩
      rw [topOf, hget, if_neg htype, if_pos rfl, hie']
      rfl

/-! ## What decoded IEs say -/

end Cxmpie

namespace IeContent

open Cxmpie

/-- The number of bytes behind the header. -/
def bodySize : IeContent → ℕ
  | data _ _ body => body.length
  | _ => 0

/-- What an inner IE can say after decoding. -/
def IsKnown (c : IeContent) : Prop :=
  c = .null ∨ ∃ type body cls, innerClass type = some cls ∧ c = .data type cls.structSize body

/-- What an IE can say after decoding: what came in a record of less than 65536 bytes. -/
def Bounded : IeContent → Prop
  | null => True
  | data _ n _ => n < 65536
  | parts _ ies => (∀ c ∈ ies, c.IsKnown) ∧
      ieHeaderSize + (ies.map fun c => ieHeaderSize + c.bodySize).sum < 65536

end IeContent

namespace Cxmpie

lemma length_lt_of_isRecord {r : List Byte} (h : ieFraming.IsRecord r) : r.length < 65536 := by
  rw [← h.2]
  exact be16_lt _

lemma contentIes_cons (o : Option Cxmpie) (ies : List (Option Cxmpie)) :
    contentIes (o :: ies) = (o.map content).getD .null :: contentIes ies := by
  cases o <;> rfl

/-- What an inner IE says fits the record it came from. -/
lemma known_of_innerOf {r : List Byte} {o : Option Cxmpie} (hr : ieHeaderSize ≤ r.length)
    (h : innerOf r = .ok o) : ((o.map content).getD .null).IsKnown ∧
      ieHeaderSize + ((o.map content).getD .null).bodySize ≤ r.length := by
  rcases innerOf_eq_ok h with ⟨rfl, -⟩ | ⟨cls, hcls, rfl, -⟩
  · exact ⟨.inl rfl, hr⟩
  · refine ⟨.inr ⟨getType r, plainBody cls r, cls, hcls, ?_⟩, ?_⟩
    · rw [Option.map_some, Option.getD_some, content, plainLength_of_ne (innerClass_ne_cxmpie hcls)]
    · change ieHeaderSize + (plainBody cls r).length ≤ r.length
      rw [plainBody, List.length_drop]
      have htake := List.length_take_le' (plainLength cls r) r
      omega

lemma bounded_contentIes {rs : List (List Byte)} {ies : List (Option Cxmpie)}
    (h : List.Forall₂ (fun r o => innerOf r = .ok o) rs ies)
    (hrs : ∀ r ∈ rs, ieHeaderSize ≤ r.length) : (∀ c ∈ contentIes ies, c.IsKnown) ∧
      ((contentIes ies).map fun c => ieHeaderSize + c.bodySize).sum
        ≤ (rs.map List.length).sum := by
  induction h with
  | nil => exact ⟨nofun, le_rfl⟩
  | cons hro _ ih =>
      rw [List.forall_mem_cons] at hrs
      obtain ⟨hknown, hsize⟩ := known_of_innerOf hrs.1 hro
      obtain ⟨hknowns, hsizes⟩ := ih hrs.2
      rw [contentIes_cons]
      refine ⟨List.forall_mem_cons.mpr ⟨hknown, hknowns⟩, ?_⟩
      rw [List.map_cons, List.sum_cons, List.map_cons, List.sum_cons]
      exact Nat.add_le_add hsize hsizes

/-- **Decoded IEs are small.** -/
lemma bounded_of_topOf {r : List Byte} {ie : Cxmpie} (hr : ieFraming.IsRecord r)
    (h : topOf r = .ok (some ie)) : ie.content.Bounded := by
  have hlt := length_lt_of_isRecord hr
  obtain ⟨-, ⟨-, ies, rfl, hies⟩ | ⟨-, rfl, -⟩⟩ := topOf_eq_ok h
  · obtain ⟨hknown, hsize⟩ := bounded_contentIes hies fun r' hr' =>
      (Framing.isRecord_of_mem_records hr').1
    have hsum := Framing.sum_length_records_le (F := ieFraming) (r.drop ieHeaderSize)
    rw [List.length_drop] at hsum
    have hhead : ieHeaderSize ≤ r.length := hr.1
    exact ⟨hknown, by omega⟩
  · change plainLength _ r < 65536
    by_cases hcls : topClass (getType r) = .cxmpie
    · rw [hcls]
      exact hlt
    · rw [plainLength_of_ne hcls]
      exact structSize_lt _

/-- An IE that says no more than a decoded one fits its length field, and its inner IEs are
known. -/
lemma fits_of_bounded {ie : Cxmpie} (h : ie.Proper) (hbounded : ie.content.Bounded) :
    ie.wire.length < 65536 ∧ ie.InnerKnown := by
  cases ie with
  | plain cls mem =>
      rw [length_wire_plain h]
      exact ⟨hbounded, trivial⟩
  | multipart mem ies =>
      obtain ⟨l, rfl⟩ := eq_map_some_of_properIes h.2
      have hproper := properIes_map_some.mp h.2
      obtain ⟨hknown, hsize⟩ := hbounded
      rw [contentIes_map_some] at hknown hsize
      have hinner : ∀ ie ∈ l, Known (some ie) ∧
          ieHeaderSize + ie.content.bodySize = ie.wire.length := by
        intro ie hie
        obtain hnull | ⟨type, body, cls, hcls, hdata⟩ := hknown _ (List.mem_map_of_mem hie)
        · cases ie <;> exact absurd hnull nofun
        · cases ie with
          | multipart mem' ies' => exact absurd hdata nofun
          | plain cls' mem' =>
              have hle := ieHeaderSize_le_plainLength (hproper _ hie)
              obtain ⟨rfl, hlen, -⟩ := IeContent.data.inj hdata
              refine ⟨⟨cls', mem', cls, rfl, hcls, hlen⟩, ?_⟩
              rw [length_wire_plain (hproper _ hie)]
              change ieHeaderSize + (plainBody cls' mem').length = _
              rw [length_plainBody (hproper _ hie)]
              omega
      have hwires : (wireIes (l.map some)).length
          = ((l.map content).map fun c => ieHeaderSize + c.bodySize).sum := by
        rw [wireIes_map_some, List.length_flatten, List.map_map, List.map_map]
        congr 1
        exact List.map_congr_left fun ie hie => (hinner ie hie).2.symm
      refine ⟨?_, ?_⟩
      · rwa [length_wire_multipart h, hwires]
      · intro o ho
        obtain ⟨ie, hie, rfl⟩ := List.mem_map.mp ho
        exact (hinner ie hie).1

end Cxmpie

end Xdpd.Xmp
