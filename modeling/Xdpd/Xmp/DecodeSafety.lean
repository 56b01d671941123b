import Xdpd.Xmp.Content

/-!
# Decoding XMP messages safely

`unpack` never reads past the end of its buffer, whatever the buffer holds.  What it leaves in the
message is not always usable: `cxmpie_portinfo` and `cxmpie_lsiinfo` ask for no more than the size
of a `cxmpie_name`, which is less than that of their own structures, and `bakery` makes `NULL` of
inner IEs it has no class for.  `unpack` is safe exactly on the buffers where this does not happen
to a record that stays: `decodeSafe_iff`.
-/

namespace Xdpd.Xmp

open Xdpd.Lib

namespace Cxmpie

/-- The records of the inner IEs of a multipart. -/
def innerRecords (r : List Byte) : List (List Byte) := ieFraming.records (r.drop ieHeaderSize)

/-- An inner IE is there, has the class of its type and owns the structure that it reads. -/
def InnerUsable (o : Option Cxmpie) : Prop :=
  ∃ cls mem, o = some (plain cls mem) ∧ innerClass (getType mem) = some cls ∧
    cls.structSize ≤ mem.length

/-- An IE has the class that the getter of its type casts to, it owns the structure that it reads,
and so do the inner ones. -/
def Usable (type : ℕ) (ie : Cxmpie) : Prop :=
  ie.HasType type ∧
    match ie with
    | plain cls mem => cls.structSize ≤ mem.length
    | multipart mem ies => ieHeaderSize ≤ mem.length ∧ ∀ o ∈ ies, InnerUsable o

/-- The record of an inner IE that is refused. -/
def InnerRefused (r : List Byte) : Prop :=
  ∃ cls, innerClass (getType r) = some cls ∧ r.length < cls.leastSize

/-- The record of an inner IE that `bakery` has a class for, and which holds its structure. -/
def InnerWhole (r : List Byte) : Prop :=
  ∃ cls, innerClass (getType r) = some cls ∧ cls.structSize ≤ r.length

/-- A record that is refused: too short for its class, or with such an inner one. -/
def Refused (r : List Byte) : Prop :=
  getType r ≠ xmpietNone ∧
    if getType r = xmpietMultipart then ∃ r' ∈ innerRecords r, InnerRefused r'
    else r.length < (topClass (getType r)).leastSize

/-- A record that holds the structure of its class, or only such inner ones; one without a type is
skipped. -/
def WholeRecord (r : List Byte) : Prop :=
  getType r = xmpietNone ∨
    if getType r = xmpietMultipart then ∀ r' ∈ innerRecords r, InnerWhole r'
    else (topClass (getType r)).structSize ≤ r.length

end Cxmpie

namespace Cxmpmsg

/-- Decoding reads nothing outside the buffer, and either throws or leaves usable IEs only. -/
def DecodeSafe (buf : List Byte) : Prop :=
  match unpack buf with
  | .error e => e.IsException
  | .ok msg => ∀ e ∈ msg.xmpies.entries, e.2.Usable e.1

/-- The records of the IEs of a message. -/
def ieRecords (buf : List Byte) : List (List Byte) := ieFraming.records (buf.drop xmpHeaderSize)

end Cxmpmsg

namespace Cxmpie

lemma construct_eq_error {cls : IeClass} {r : List Byte} {e : XmpError}
    (h : construct cls r = .error e) : e = .eXmpIeInval ∧ r.length < cls.leastSize := by
  rw [construct] at h
  split at h
  · next hlt => exact ⟨(Except.error.inj h).symm, hlt⟩
  · cases h

lemma map_eq_error_iff {α β : Type} {f : α → β} {x : Except XmpError α} {e : XmpError} :
    x.map f = .error e ↔ x = .error e := by
  cases x with
  | error e' =>
      constructor
      · intro h
        exact congrArg Except.error (Except.error.inj h)
      · rintro ⟨⟩
        rfl
  | ok a => exact ⟨nofun, nofun⟩

lemma innerOf_eq_error {r : List Byte} {e : XmpError} (h : innerOf r = .error e) :
    e = .eXmpIeInval ∧ InnerRefused r := by
  rw [innerOf] at h
  cases hcls : innerClass (getType r) with
  | none =>
      rw [hcls] at h
      cases h
  | some cls =>
      rw [hcls] at h
      obtain ⟨rfl, hlt⟩ := construct_eq_error (map_eq_error_iff.mp h)
      exact ⟨rfl, cls, hcls, hlt⟩

lemma not_innerRefused_of_ok {r : List Byte} {o : Option Cxmpie} (h : innerOf r = .ok o) :
    ¬ InnerRefused r := by
  rintro ⟨cls, hcls, hlt⟩
  rcases innerOf_eq_ok h with ⟨-, hnone⟩ | ⟨cls', hcls', -, hle⟩
  · exact absurd (hnone.symm.trans hcls) nofun
  · obtain rfl := Option.some.inj (hcls.symm.trans hcls')
    omega

/-- What is thrown for a record is thrown because it is refused. -/
lemma topOf_eq_error {r : List Byte} {e : XmpError} (h : topOf r = .error e) :
    e = .eXmpIeInval ∧ Refused r := by
  rw [topOf] at h
  split at h
  · cases h
  next hnone =>
    split at h
    · next hmulti =>
        obtain ⟨r', hr', herr⟩ := error_of_mapM (map_eq_error_iff.mp (map_eq_error_iff.mp h))
        obtain ⟨rfl, hrefused⟩ := innerOf_eq_error herr
        refine ⟨rfl, hnone, ?_⟩
        rw [if_pos hmulti]
        exact ⟨r', hr', hrefused⟩
    · next hmulti =>
        obtain ⟨rfl, hlt⟩ := construct_eq_error (map_eq_error_iff.mp h)
        refine ⟨rfl, hnone, ?_⟩
        rwa [if_neg hmulti]

/-- A record that something is made of is not refused. -/
lemma not_refused_of_ok {r : List Byte} {o : Option Cxmpie} (h : topOf r = .ok o) :
    ¬ Refused r := by
  rintro ⟨hnone, hrefused⟩
  rw [topOf, if_neg hnone] at h
  split at hrefused
  · next hmulti =>
      rw [if_pos hmulti] at h
      obtain ⟨ie, hie, -⟩ := map_eq_ok_iff.mp h
      obtain ⟨ies, hies, -⟩ := map_eq_ok_iff.mp hie
      obtain ⟨r', hr', hshort⟩ := hrefused
      obtain ⟨o, -, ho⟩ := exists_of_mem_left (mapM_eq_ok_iff.mp hies) r' hr'
      exact not_innerRefused_of_ok ho hshort
  · next hmulti =>
      rw [if_neg hmulti] at h
      obtain ⟨ie, hie, -⟩ := map_eq_ok_iff.mp h
      have hle := (construct_eq_ok hie).2
      omega

/-- The inner IE is usable exactly when its record holds its structure. -/
lemma innerUsable_iff {r : List Byte} {o : Option Cxmpie} (h : innerOf r = .ok o) :
    InnerUsable o ↔ InnerWhole r := by
  rcases innerOf_eq_ok h with ⟨rfl, hnone⟩ | ⟨cls, hcls, rfl, -⟩
  · refine iff_of_false ?_ ?_
    · rintro ⟨_, _, hsome, -⟩
      exact absurd hsome nofun
    · rintro ⟨cls, hcls, -⟩
      exact absurd (hnone.symm.trans hcls) nofun
  · constructor
    · rintro ⟨cls', mem, heq, -, hle⟩
      obtain ⟨rfl, rfl⟩ := Cxmpie.plain.inj (Option.some.inj heq)
      exact ⟨cls, hcls, hle⟩
    · rintro ⟨cls', hcls', hle⟩
      obtain rfl := Option.some.inj (hcls.symm.trans hcls')
      exact ⟨cls, r, rfl, hcls, hle⟩

/-- What is made of a record is usable exactly when the record holds its structure. -/
lemma usable_iff {r : List Byte} {ie : Cxmpie} (hr : ieHeaderSize ≤ r.length)
    (h : topOf r = .ok (some ie)) : ie.Usable (getType r) ↔ WholeRecord r := by
  obtain ⟨hnone, ⟨hmulti, ies, rfl, hies⟩ | ⟨hmulti, rfl, -⟩⟩ := topOf_eq_ok h
  · rw [WholeRecord, or_iff_right hnone, if_pos hmulti]
    constructor
    · rintro ⟨-, -, husable⟩ r' hr'
      obtain ⟨o, ho, hmade⟩ := exists_of_mem_left hies r' hr'
      exact (innerUsable_iff hmade).mp (husable o ho)
    · intro hwhole
      refine ⟨⟨hmulti, rfl⟩, hr, ?_⟩
      intro o ho
      obtain ⟨r', hr', hmade⟩ := exists_of_mem_right hies o ho
      exact (innerUsable_iff hmade).mpr (hwhole r' hr')
  · rw [WholeRecord, or_iff_right hnone, if_neg hmulti]
    exact ⟨fun h => h.2, fun h => ⟨⟨hmulti, rfl, rfl⟩, h⟩⟩

lemma getType_of_topOf_none {r : List Byte} (h : topOf r = .ok none) : getType r = xmpietNone := by
  rw [topOf] at h
  split at h
  · next hnone => exact hnone
  · split at h
    · obtain ⟨_, _, hsome⟩ := map_eq_ok_iff.mp h
      cases hsome
    · obtain ⟨_, _, hsome⟩ := map_eq_ok_iff.mp h
      cases hsome

end Cxmpie

namespace Cxmpmsg

open Cxmpie

/-- What is made of the records of a message, if nothing is thrown. -/
lemma mem_unpack_iff {buf : List Byte} {m : Cxmpies}
    (h : Cxmpies.unpack (buf.drop xmpHeaderSize) = .ok m) {e : ℕ × Cxmpie} : e ∈ m.entries ↔
      ∃ r, SortedMap.IsLast Cxmpie.getType (ieRecords buf) r ∧ Cxmpie.getType r = e.1 ∧
        topOf r = .ok (some e.2) := by
  rw [Cxmpies.unpack_eq] at h
  rw [SortedMap.mem_of_foldlM_enter h e]
  exact or_iff_left fun hempty => absurd hempty.1 List.not_mem_nil

/-- **No read outside the buffer.**  If anything goes wrong, then an exception is thrown, because
the header or a record is too short. -/
lemma unpack_eq_error {buf : List Byte} {e : XmpError} (h : unpack buf = .error e) :
    (buf.length < xmpHeaderSize ∧ e = .eXmpInval) ∨
      (e = .eXmpIeInval ∧ ∃ r ∈ ieRecords buf, Refused r) := by
  by_cases hshort : buf.length < xmpHeaderSize
  · rw [unpack, if_pos hshort] at h
    exact .inl ⟨hshort, (Except.error.inj h).symm⟩
  · rw [unpack_eq (Nat.not_lt.mp hshort), map_eq_error_iff, Cxmpies.unpack_eq] at h
    obtain ⟨r, hr, herr⟩ := SortedMap.error_of_foldlM_enter h
    obtain ⟨rfl, hrefused⟩ := topOf_eq_error herr
    exact .inr ⟨rfl, r, hr, hrefused⟩

/-- What stays in the message is usable exactly when the last record of each type holds its
structure. -/
lemma usable_iff_of_ok {buf : List Byte} {m : Cxmpies}
    (h : Cxmpies.unpack (buf.drop xmpHeaderSize) = .ok m) :
    (∀ e ∈ m.entries, e.2.Usable e.1) ↔
      ∀ r, SortedMap.IsLast Cxmpie.getType (ieRecords buf) r → WholeRecord r := by
  constructor
  · intro husable r hlast
    rw [Cxmpies.unpack_eq] at h
    obtain ⟨o, ho⟩ := SortedMap.ok_of_foldlM_enter h r hlast.mem
    rw [← Cxmpies.unpack_eq] at h
    cases o with
    | none => exact .inl (getType_of_topOf_none ho)
    | some ie =>
        have hentry : (Cxmpie.getType r, ie) ∈ m.entries :=
          (mem_unpack_iff h).mpr ⟨r, hlast, rfl, ho⟩
        exact (usable_iff (Framing.isRecord_of_mem_records hlast.mem).1 ho).mp (husable _ hentry)
  · intro hwhole e he
    obtain ⟨r, hlast, htype, hr⟩ := (mem_unpack_iff h).mp he
    rw [← htype]
    exact (usable_iff (Framing.isRecord_of_mem_records hlast.mem).1 hr).mpr (hwhole r hlast)

/-- A request with a `portinfo` IE of 36 bytes, half the size of the structure. -/
def shortPortinfo : List Byte := [1, 1, 0, 44, 0, 0, 0, 7] ++ ([0, 5, 0, 36] ++ List.replicate 32 0)

/-- It is accepted, and the getters read past the end of the IE. -/
theorem shortPortinfo_not_safe : ¬ DecodeSafe shortPortinfo := by
  have hrecord : ieFraming.IsRecord ([0, 5, 0, 36] ++ List.replicate 32 0) := ⟨by decide, rfl⟩
  have hrecords : ieRecords shortPortinfo = [[0, 5, 0, 36] ++ List.replicate 32 0] := by
    have hone := hrecord.records_append (t := []) (by decide)
    rwa [List.append_nil, Framing.records_nil] at hone
  have hwhole : ¬ WholeRecord ([0, 5, 0, 36] ++ List.replicate 32 0) := by
    rintro (hnone | hsize)
    · exact absurd hnone (by decide)
    · rw [if_neg (by decide)] at hsize
      exact absurd hsize (by decide)
  have hlast : SortedMap.IsLast Cxmpie.getType (ieRecords shortPortinfo)
      ([0, 5, 0, 36] ++ List.replicate 32 0) := by
    rw [hrecords]
    exact ⟨[], [], rfl, nofun⟩
  have hm : Cxmpies.unpack (shortPortinfo.drop xmpHeaderSize)
      = .ok (SortedMap.empty.put xmpietPortinfo
          (some (.plain .portinfo ([0, 5, 0, 36] ++ List.replicate 32 0)))) := by
    rw [Cxmpies.unpack_eq, show ieFraming.records _ = _ from hrecords]
    rfl
  rw [DecodeSafe, unpack_eq (by decide), hm]
  intro husable
  exact hwhole ((usable_iff_of_ok hm).mp husable _ hlast)

/-- **When decoding is safe.**  Nothing outside the buffer is ever read.  Decoding leaves usable IEs
only, or throws, exactly when the buffer has no whole header, or some record is refused, or the last
record of each type holds the structure of its class, and in a multipart so do the inner ones. -/
theorem decodeSafe_iff (buf : List Byte) : DecodeSafe buf ↔
    buf.length < xmpHeaderSize ∨ (∃ r ∈ ieRecords buf, Refused r) ∨
      ∀ r, SortedMap.IsLast Cxmpie.getType (ieRecords buf) r → WholeRecord r := by
  rw [DecodeSafe]
  cases hun : unpack buf with
  | error e =>
      rcases unpack_eq_error hun with ⟨hshort, rfl⟩ | ⟨rfl, hrefused⟩
      · exact iff_of_true ⟨by simp, by simp⟩ (.inl hshort)
      · exact iff_of_true ⟨by simp, by simp⟩ (.inr (.inl hrefused))
  | ok msg =>
      have hlong : xmpHeaderSize ≤ buf.length := by
        by_contra hshort
        rw [unpack, if_pos (Nat.not_le.mp hshort)] at hun
        cases hun
      rw [unpack_eq hlong] at hun
      obtain ⟨m, hm, rfl⟩ := map_eq_ok_iff.mp hun
      have hnone : ¬ ∃ r ∈ ieRecords buf, Refused r := by
        rintro ⟨r, hr, hrefused⟩
        rw [Cxmpies.unpack_eq] at hm
        obtain ⟨o, ho⟩ := SortedMap.ok_of_foldlM_enter hm r hr
        exact not_refused_of_ok ho hrefused
      rw [or_iff_right (Nat.not_lt.mpr hlong), or_iff_right hnone]
      exact usable_iff_of_ok hm

end Cxmpmsg

end Xdpd.Xmp
