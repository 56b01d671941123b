import Xdpd.OpenFlow.Pipeline

/-!
# Translating a match field by field

A match is translated field by field, in a fixed order, each field that is present to one match of
the pipeline or to none.  The way back sets one field for each match of the pipeline.  What comes
back of each field, and when the match comes back as it was, follows from what comes back of one
field alone.
-/

namespace Xdpd.OpenFlow

variable {M : Type*}
variable (mapMatch : (f : OxmField) → BitVec f.width → BitVec f.width → Option M)
variable (reverse : OfMatch → M → OfMatch)
variable (back : (f : OxmField) → BitVec f.width → BitVec f.width → f.Masked)

/-- The match that is made from a field, if it is present. -/
def mapField (ofmatch : OfMatch) (f : OxmField) : List M :=
  match ofmatch.field f with
  | some (value, mask) => (mapMatch f value mask).toList
  | none => []

/-- The match made from a field sets that field to what comes back of it, and nothing else. -/
def SetsItsField : Prop :=
  ∀ (f : OxmField) (value mask : BitVec f.width),
    (f.isMaskable = false → mask = BitVec.allOnes f.width) →
    ∀ m, mapMatch f value mask = some m → ∀ ofmatch,
      (reverse ofmatch m).field = Function.update ofmatch.field f (some (back f value mask)) ∧
        (reverse ofmatch m).others = ofmatch.others

/-- What comes back of a field. -/
def fieldBack (f : OxmField) (o : Option f.Masked) : Option f.Masked :=
  o.bind fun p => (mapMatch f p.1 p.2).map fun _ => back f p.1 p.2

variable {mapMatch reverse back}

/-- Setting one field. -/
lemma foldl_mapField (h : SetsItsField mapMatch reverse back) (ofmatch acc : OfMatch)
    (f : OxmField) :
    ((mapField mapMatch ofmatch f).foldl reverse acc).field =
        Function.update acc.field f ((fieldBack mapMatch back f (ofmatch.field f)).or
          (acc.field f)) ∧
      ((mapField mapMatch ofmatch f).foldl reverse acc).others = acc.others := by
  cases hfield : ofmatch.field f with
  | none => simp [mapField, hfield, fieldBack]
  | some p =>
      cases hm : mapMatch f p.1 p.2 with
      | none => simp [mapField, hfield, hm, fieldBack]
      | some m =>
          have hset := h f p.1 p.2 (ofmatch.exact f p hfield) m hm acc
          simpa [mapField, hfield, hm, fieldBack] using hset

/-- Different fields do not interfere. -/
lemma foldl_flatMap_mapField (h : SetsItsField mapMatch reverse back) (ofmatch : OfMatch)
    {order : List OxmField} (horder : order.Nodup) (acc : OfMatch) :
    (∀ f, ((order.flatMap (mapField mapMatch ofmatch)).foldl reverse acc).field f =
      if f ∈ order then (fieldBack mapMatch back f (ofmatch.field f)).or (acc.field f)
      else acc.field f) ∧
    ((order.flatMap (mapField mapMatch ofmatch)).foldl reverse acc).others = acc.others := by
  induction order generalizing acc with
  | nil => simp
  | cons g order ih =>
      obtain ⟨hg, hnodup⟩ := List.nodup_cons.mp horder
      obtain ⟨hfield, hothers⟩ := foldl_mapField h ofmatch acc g
      obtain ⟨hrest, hothers'⟩ := ih hnodup ((mapField mapMatch ofmatch g).foldl reverse acc)
      rw [List.flatMap_cons, List.foldl_append]
      refine ⟨fun f => ?_, hothers'.trans hothers⟩
      rw [hrest f, hfield]
      by_cases hfg : f = g
      · subst hfg
        rw [if_neg hg, Function.update_self, if_pos List.mem_cons_self]
      · simp [hfg]

/-- What comes back of each field of a match. -/
lemma field_foldl_mapField (h : SetsItsField mapMatch reverse back) (ofmatch : OfMatch)
    {order : List OxmField} (horder : order.Nodup) (f : OxmField) :
    ((order.flatMap (mapField mapMatch ofmatch)).foldl reverse .empty).field f =
      if f ∈ order then fieldBack mapMatch back f (ofmatch.field f) else none := by
  rw [(foldl_flatMap_mapField h ofmatch horder .empty).1 f]
  split_ifs
  · exact Option.or_none
  · rfl

/-- **A match there and back.**  It comes back as it was exactly when it has only fields of the
order, each of them is translated, and each comes back as it was. -/
theorem foldl_mapField_eq_iff (h : SetsItsField mapMatch reverse back) (ofmatch : OfMatch)
    {order : List OxmField} (horder : order.Nodup) :
    (order.flatMap (mapField mapMatch ofmatch)).foldl reverse .empty = ofmatch ↔
      ofmatch.others = [] ∧ ∀ f value mask, ofmatch.field f = some (value, mask) →
        f ∈ order ∧ (mapMatch f value mask).isSome = true ∧ back f value mask = (value, mask) := by
  have hothers := (foldl_flatMap_mapField h ofmatch horder .empty).2
  constructor
  · intro heq
    refine ⟨by rw [← heq, hothers]; rfl, fun f value mask hf => ?_⟩
    have hback := field_foldl_mapField h ofmatch horder f
    rw [heq, hf] at hback
    split_ifs at hback with hmem
    rw [fieldBack, Option.bind_some] at hback
    obtain ⟨m, hm, hvalue⟩ := Option.map_eq_some_iff.1 hback.symm
    exact ⟨hmem, by rw [hm]; rfl, hvalue⟩
  · rintro ⟨hnone, hfields⟩
    refine OfMatch.ext (funext fun f => ?_) (hothers.trans hnone.symm)
    rw [field_foldl_mapField h ofmatch horder]
    cases hf : ofmatch.field f with
    | none => exact ite_self none
    | some p =>
        obtain ⟨hmem, hsome, hback⟩ := hfields f p.1 p.2 hf
        obtain ⟨m, hm⟩ := Option.isSome_iff_exists.1 hsome
        rw [if_pos hmem, fieldBack, Option.bind_some, hm, Option.map_some, hback]

end Xdpd.OpenFlow
