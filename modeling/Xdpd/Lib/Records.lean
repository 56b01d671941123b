import Mathlib.Algebra.GroupWithZero.Nat
import Mathlib.Data.List.Basic
import Mathlib.Tactic.Common

/-!
# Records that carry their own length

A record starts with a header of fixed size, from which its whole length can be read.  A loop takes
the records off the front of a stretch of letters, as long as at least `least` letters are left and
the next record is whole.  `records` are those it finds and `rest` is what it leaves.

The records of a concatenation come back (`records_flatten_append`), and a stretch can be cut
anywhere: what is left of the first part is carried over to the second (`records_append`).
-/

namespace Xdpd.Lib

variable {α : Type*}

/-- How records are laid out, and when the loop over them goes on. -/
structure Framing (α : Type*) where
  /-- the size of the header -/
  header : ℕ
  header_pos : 0 < header
  /-- the loop goes on while this many letters are left -/
  least : ℕ
  header_le_least : header ≤ least
  /-- the length of the first record, read from its header -/
  lenOf : List α → ℕ
  lenOf_append : ∀ s t, header ≤ s.length → lenOf (s ++ t) = lenOf s

namespace Framing

variable (F : Framing α)

/-- The loop finds a whole record at the front. -/
def Cuts (s : List α) : Prop :=
  F.least ≤ s.length ∧ F.header ≤ F.lenOf s ∧ F.lenOf s ≤ s.length

instance (s : List α) : Decidable (F.Cuts s) := by
  unfold Cuts
  infer_instance

lemma Cuts.length_drop_lt {F : Framing α} {s : List α} (h : F.Cuts s) :
    (s.drop (F.lenOf s)).length < s.length := by
  have hpos := F.header_pos
  obtain ⟨-, hle, hlen⟩ := h
  rw [List.length_drop]
  omega

/-- The records at the front. -/
def records (s : List α) : List (List α) :=
  if _h : F.Cuts s then s.take (F.lenOf s) :: records (s.drop (F.lenOf s)) else []
termination_by s.length
decreasing_by exact Cuts.length_drop_lt (by assumption)

/-- What is left after them. -/
def rest (s : List α) : List α :=
  if _h : F.Cuts s then rest (s.drop (F.lenOf s)) else s
termination_by s.length
decreasing_by exact Cuts.length_drop_lt (by assumption)

/-- A record: its header tells its length. -/
def IsRecord (r : List α) : Prop := F.header ≤ r.length ∧ F.lenOf r = r.length

variable {F}

lemma records_of_cuts {s : List α} (h : F.Cuts s) :
    F.records s = s.take (F.lenOf s) :: F.records (s.drop (F.lenOf s)) := by
  rw [records, dif_pos h]

lemma records_of_not_cuts {s : List α} (h : ¬ F.Cuts s) : F.records s = [] := by
  rw [records, dif_neg h]

lemma rest_of_cuts {s : List α} (h : F.Cuts s) :
    F.rest s = F.rest (s.drop (F.lenOf s)) := by
  rw [rest, dif_pos h]

lemma rest_of_not_cuts {s : List α} (h : ¬ F.Cuts s) : F.rest s = s := by
  rw [rest, dif_neg h]

/-- Induction on the records of a stretch. -/
lemma cuts_induction {P : List α → Prop} (hcut : ∀ s, F.Cuts s → P (s.drop (F.lenOf s)) → P s)
    (hstop : ∀ s, ¬ F.Cuts s → P s) (s : List α) : P s := by
  induction hn : s.length using Nat.strongRecOn generalizing s with
  | _ n ih =>
      by_cases h : F.Cuts s
      · exact hcut s h (ih _ (hn ▸ h.length_drop_lt) _ rfl)
      · exact hstop s h

/-- Nothing is lost. -/
lemma flatten_records_append_rest (s : List α) : (F.records s).flatten ++ F.rest s = s := by
  induction s using cuts_induction (F := F) with
  | hcut s h ih =>
      rw [records_of_cuts h, rest_of_cuts h, List.flatten_cons, List.append_assoc, ih,
        List.take_append_drop]
  | hstop s h => rw [records_of_not_cuts h, rest_of_not_cuts h, List.flatten_nil, List.nil_append]

lemma sum_length_records_le (s : List α) : ((F.records s).map List.length).sum ≤ s.length := by
  rw [← List.length_flatten]
  calc (F.records s).flatten.length
      ≤ (F.records s).flatten.length + (F.rest s).length := Nat.le_add_right _ _
    _ = s.length := by rw [← List.length_append, flatten_records_append_rest]

lemma Cuts.append {s : List α} (h : F.Cuts s) (t : List α) :
    F.Cuts (s ++ t) ∧ F.lenOf (s ++ t) = F.lenOf s := by
  obtain ⟨hleast, hle, hlen⟩ := h
  have heq : F.lenOf (s ++ t) = F.lenOf s :=
    F.lenOf_append s t (Nat.le_trans F.header_le_least hleast)
  refine ⟨⟨?_, ?_, ?_⟩, heq⟩
  · rw [List.length_append]
    omega
  · rwa [heq]
  · rw [heq, List.length_append]
    omega

lemma Cuts.isRecord_take {s : List α} (h : F.Cuts s) : F.IsRecord (s.take (F.lenOf s)) := by
  obtain ⟨-, hle, hlen⟩ := h
  have htake : (s.take (F.lenOf s)).length = F.lenOf s := List.length_take_of_le hlen
  have heq := F.lenOf_append (s.take (F.lenOf s)) (s.drop (F.lenOf s)) (by rwa [htake])
  rw [List.take_append_drop] at heq
  exact ⟨by rwa [htake], by rw [htake, ← heq]⟩

/-- What is found are records. -/
lemma isRecord_of_mem_records {s r : List α} (hr : r ∈ F.records s) : F.IsRecord r := by
  induction s using cuts_induction (F := F) with
  | hcut s h ih =>
      rw [records_of_cuts h, List.mem_cons] at hr
      rcases hr with rfl | hr
      · exact h.isRecord_take
      · exact ih hr
  | hstop s h =>
      rw [records_of_not_cuts h] at hr
      exact absurd hr List.not_mem_nil

/-- **Cutting anywhere.**  What is left of the first part is carried over to the second. -/
theorem records_append (s t : List α) :
    F.records (s ++ t) = F.records s ++ F.records (F.rest s ++ t) := by
  induction s using cuts_induction (F := F) with
  | hcut s h ih =>
      obtain ⟨happ, heq⟩ := h.append t
      rw [records_of_cuts happ, heq, List.take_append_of_le_length h.2.2,
        List.drop_append_of_le_length h.2.2, ih, records_of_cuts h, rest_of_cuts h,
        List.cons_append]
  | hstop s h => rw [records_of_not_cuts h, rest_of_not_cuts h, List.nil_append]

lemma rest_append (s t : List α) : F.rest (s ++ t) = F.rest (F.rest s ++ t) := by
  induction s using cuts_induction (F := F) with
  | hcut s h ih =>
      obtain ⟨happ, heq⟩ := h.append t
      rw [rest_of_cuts happ, heq, List.drop_append_of_le_length h.2.2, ih, rest_of_cuts h]
  | hstop s h => rw [rest_of_not_cuts h]

lemma IsRecord.cuts_append {r t : List α} (hr : F.IsRecord r)
    (ht : F.least ≤ r.length + t.length) : F.Cuts (r ++ t) ∧ F.lenOf (r ++ t) = r.length := by
  obtain ⟨hle, hlen⟩ := hr
  have heq : F.lenOf (r ++ t) = r.length := (F.lenOf_append r t hle).trans hlen
  refine ⟨⟨?_, ?_, ?_⟩, heq⟩
  · rwa [List.length_append]
  · rwa [heq]
  · rw [heq, List.length_append]
    omega

/-- A record is found if the loop gets to see it. -/
lemma IsRecord.records_append {r t : List α} (hr : F.IsRecord r)
    (ht : F.least ≤ r.length + t.length) : F.records (r ++ t) = r :: F.records t := by
  obtain ⟨hcuts, heq⟩ := hr.cuts_append ht
  rw [records_of_cuts hcuts, heq, List.take_left, List.drop_left]

lemma records_of_length_lt {s : List α} (h : s.length < F.least) : F.records s = [] :=
  records_of_not_cuts fun hcuts => absurd hcuts.1 (by omega)

lemma records_nil : F.records [] = [] :=
  records_of_length_lt (Nat.lt_of_lt_of_le F.header_pos F.header_le_least)

/-- **Records come back.**  Those in front of something long enough for the loop to see all of them
are found. -/
theorem records_flatten_append {rs : List (List α)} {t : List α} (hrs : ∀ r ∈ rs, F.IsRecord r)
    (ht : F.least ≤ F.header + t.length) : F.records (rs.flatten ++ t) = rs ++ F.records t := by
  induction rs with
  | nil => rfl
  | cons r rs ih =>
      rw [List.forall_mem_cons] at hrs
      have hhead : F.header ≤ r.length := hrs.1.1
      have hrest : F.least ≤ r.length + (rs.flatten ++ t).length := by
        rw [List.length_append]
        omega
      rw [List.flatten_cons, List.append_assoc, hrs.1.records_append hrest, ih hrs.2,
        List.cons_append]

end Framing

end Xdpd.Lib
