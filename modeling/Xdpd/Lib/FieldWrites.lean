import Mathlib.Data.List.Nodup
import Mathlib.Logic.Function.Basic
import Mathlib.Tactic.Common

/-!
# Writes to the fields of a record

A record is a function on its fields.  Fields are written one after the other, and each write may
fail, after which no more are made; whether it took effect is another matter, for a write that
succeeds as for one that fails.

A list of writes is all or nothing when the record has all of the values after a success, and is as
it was after a failure.  `allOrNothing_iff_outcomes` says when this is so.
-/

namespace Xdpd.Lib

variable {α : Type*} {β : α → Type*}

/-- A field, and the value that is written to it. -/
structure FieldWrite (β : α → Type*) where
  field : α
  value : β field

/-- Which writes succeed, and which take effect. -/
structure WriteOutcomes (β : α → Type*) where
  succeeds : FieldWrite β → Bool
  takes : FieldWrite β → Bool

namespace FieldWrite

/-- The writes to those of the fields that there is a new value for, in their order. -/
def ofNew (new : ∀ a, Option (β a)) (as : List α) : List (FieldWrite β) :=
  as.flatMap fun a => ((new a).map (mk a)).toList

/-- The record has the value already. -/
def Done (w : FieldWrite β) (c : ∀ a, β a) : Prop := c w.field = w.value

section Records

variable [DecidableEq α]

/-- The record with the field written. -/
def put (w : FieldWrite β) (c : ∀ a, β a) : ∀ a, β a := Function.update c w.field w.value

/-- All of the writes take effect. -/
def putAll (ws : List (FieldWrite β)) (c : ∀ a, β a) : ∀ a, β a := ws.foldl (fun c w => w.put c) c

/-- The writes up to the first one that fails: whether all succeed, and the record at the end. -/
def attempt (o : WriteOutcomes β) : List (FieldWrite β) → (∀ a, β a) → Bool × (∀ a, β a)
  | [], c => (true, c)
  | w :: ws, c =>
      let c := if o.takes w then w.put c else c
      if o.succeeds w then attempt o ws c else (false, c)

/-- All of the writes take effect when they succeed, and none when one fails. -/
def AllOrNothing (o : WriteOutcomes β) (ws : List (FieldWrite β)) (c : ∀ a, β a) : Prop :=
  (attempt o ws c).2 = if (attempt o ws c).1 then putAll ws c else c

variable {o : WriteOutcomes β} {w w' : FieldWrite β} {ws pre post : List (FieldWrite β)}
variable {c : ∀ a, β a}

@[simp]
lemma putAll_cons : putAll (w :: ws) c = putAll ws (w.put c) := rfl

lemma put_of_done (h : w.Done c) : w.put c = c :=
  Function.update_eq_self_iff.2 h.symm

lemma done_put : w.Done (w.put c) :=
  Function.update_self ..

lemma done_put_of_ne (h : w'.field ≠ w.field) : w'.Done (w.put c) ↔ w'.Done c := by
  rw [Done, put, Function.update_of_ne h, Done]

/-- A field that is not written keeps its value. -/
lemma done_putAll (h : ∀ w' ∈ ws, w'.field ≠ w.field) : w.Done (putAll ws c) ↔ w.Done c := by
  induction ws generalizing c with
  | nil => exact Iff.rfl
  | cons w' ws ih =>
      rw [putAll_cons, ih fun w'' hw'' => h w'' (List.mem_cons_of_mem w' hw''),
        done_put_of_ne (h w' List.mem_cons_self).symm]

/-- The fields that are written get their new values. -/
lemma putAll_ofNew (new : ∀ a, Option (β a)) {as : List α} (hnodup : as.Nodup) :
    putAll (ofNew new as) c = fun a => if a ∈ as then (new a).getD (c a) else c a := by
  induction as generalizing c with
  | nil => rfl
  | cons b as ih =>
      obtain ⟨hb, hnodup⟩ := List.nodup_cons.1 hnodup
      have hputAll : putAll (ofNew new (b :: as)) c =
          putAll (ofNew new as) (Function.update c b ((new b).getD (c b))) := by
        rw [ofNew, List.flatMap_cons]
        cases new b with
        | none => rw [Option.getD_none, Function.update_eq_self]; rfl
        | some v => rfl
      rw [hputAll, ih hnodup]
      funext a
      by_cases ha : a = b
      · subst ha
        rw [if_neg hb, if_pos List.mem_cons_self, Function.update_self]
      · have hmem : a ∈ b :: as ↔ a ∈ as := by simp [ha]
        simp only [hmem, Function.update_of_ne ha]

omit [DecidableEq α] in
/-- A field that has a new value is written once. -/
lemma nodup_ofNew (new : ∀ a, Option (β a)) {as : List α} (hnodup : as.Nodup) :
    ((ofNew new as).map field).Nodup := by
  refine hnodup.sublist ?_
  induction as with
  | nil => exact List.Sublist.slnil
  | cons a as ih =>
      have hih := ih (List.nodup_cons.1 hnodup).2
      rw [ofNew, List.flatMap_cons, List.map_append]
      cases new a with
      | none => exact hih.cons a
      | some v => exact hih.cons_cons a

omit [DecidableEq α] in
lemma field_ne_of_nodup (hnodup : ((w :: ws).map field).Nodup) : ∀ w' ∈ ws, w'.field ≠ w.field := by
  intro w' hw' heq
  exact (List.nodup_cons.1 hnodup).1 (heq ▸ List.mem_map_of_mem hw')

/-- Some of the writes come to the same as none if the record has their values. -/
lemma putAll_filter_eq_self (hnodup : (ws.map field).Nodup) (p : FieldWrite β → Bool) :
    putAll (ws.filter p) c = c ↔ ∀ w ∈ ws, p w = true → w.Done c := by
  induction ws generalizing c with
  | nil => simp [putAll]
  | cons w ws ih =>
      have hne := field_ne_of_nodup hnodup
      have hne' : ∀ w' ∈ ws.filter p, w'.field ≠ w.field :=
        fun w' hw' => hne w' (List.mem_of_mem_filter hw')
      have hih := @ih c (List.nodup_cons.1 hnodup).2
      by_cases hp : p w = true
      · rw [List.filter_cons_of_pos hp, putAll_cons, List.forall_mem_cons]
        constructor
        · intro h
          have hdone : w.Done c := by
            rw [← h, done_putAll hne']
            exact done_put
          rw [put_of_done hdone] at h
          exact ⟨fun _ => hdone, hih.1 h⟩
        · rintro ⟨hdone, hrest⟩
          rw [put_of_done (hdone hp)]
          exact hih.2 hrest
      · rw [List.filter_cons_of_neg hp, List.forall_mem_cons, hih]
        exact ⟨fun h => ⟨fun hp' => absurd hp' hp, h⟩, fun h => h.2⟩

/-- Some of the writes come to the same as all if the record has the values of the others. -/
lemma putAll_filter_eq_putAll (hnodup : (ws.map field).Nodup) (p : FieldWrite β → Bool) :
    putAll (ws.filter p) c = putAll ws c ↔ ∀ w ∈ ws, p w = true ∨ w.Done c := by
  induction ws generalizing c with
  | nil => simp [putAll]
  | cons w ws ih =>
      have hne := field_ne_of_nodup hnodup
      have hne' : ∀ w' ∈ ws.filter p, w'.field ≠ w.field :=
        fun w' hw' => hne w' (List.mem_of_mem_filter hw')
      have hih := fun c => @ih c (List.nodup_cons.1 hnodup).2
      rw [List.forall_mem_cons, putAll_cons]
      by_cases hp : p w = true
      · have hrest : (∀ w' ∈ ws, p w' = true ∨ w'.Done (w.put c)) ↔
            ∀ w' ∈ ws, p w' = true ∨ w'.Done c := by
          refine forall₂_congr fun w' hw' => ?_
          rw [done_put_of_ne (hne w' hw')]
        rw [List.filter_cons_of_pos hp, putAll_cons, hih, hrest]
        exact ⟨fun h => ⟨.inl hp, h⟩, fun h => h.2⟩
      · rw [List.filter_cons_of_neg hp]
        constructor
        · intro h
          have hdone : w.Done c := by
            rw [← done_putAll hne', h, done_putAll hne]
            exact done_put
          rw [put_of_done hdone] at h
          exact ⟨.inr hdone, (hih c).1 h⟩
        · rintro ⟨hdone, hrest⟩
          rw [put_of_done (hdone.resolve_left hp)]
          exact (hih c).2 hrest

lemma attempt_of_succeeds (h : ∀ w ∈ ws, o.succeeds w = true) :
    attempt o ws c = (true, putAll (ws.filter o.takes) c) := by
  induction ws generalizing c with
  | nil => rfl
  | cons w ws ih =>
      obtain ⟨hw, hws⟩ := List.forall_mem_cons.1 h
      rw [attempt, if_pos hw, ih hws]
      by_cases htakes : o.takes w = true
      · rw [List.filter_cons_of_pos htakes, if_pos htakes, putAll_cons]
      · rw [List.filter_cons_of_neg htakes, if_neg htakes]

lemma attempt_of_fails (h : ∀ w ∈ pre, o.succeeds w = true) (hw : o.succeeds w = false) :
    attempt o (pre ++ w :: post) c = (false, putAll ((pre ++ [w]).filter o.takes) c) := by
  induction pre generalizing c with
  | nil =>
      rw [List.nil_append, attempt, hw]
      by_cases htakes : o.takes w = true
      · simp [htakes, putAll]
      · simp [htakes, putAll]
  | cons w' pre ih =>
      obtain ⟨hw', hpre⟩ := List.forall_mem_cons.1 h
      rw [List.cons_append, attempt, if_pos hw', ih hpre, List.cons_append]
      by_cases htakes : o.takes w' = true
      · rw [List.filter_cons_of_pos htakes, if_pos htakes, putAll_cons]
      · rw [List.filter_cons_of_neg htakes, if_neg htakes]

omit [DecidableEq α] in
/-- All writes succeed, or there is a first one that fails. -/
lemma succeeds_or_fails (o : WriteOutcomes β) (ws : List (FieldWrite β)) :
    (∀ w ∈ ws, o.succeeds w = true) ∨ ∃ pre w post, ws = pre ++ w :: post ∧
      (∀ w' ∈ pre, o.succeeds w' = true) ∧ o.succeeds w = false := by
  induction ws with
  | nil => exact .inl nofun
  | cons w ws ih =>
      cases hw : o.succeeds w with
      | false => exact .inr ⟨[], w, ws, rfl, nofun, hw⟩
      | true =>
          rcases ih with hws | ⟨pre, w', post, rfl, hpre, hw'⟩
          · exact .inl (List.forall_mem_cons.2 ⟨hw, hws⟩)
          · exact .inr ⟨w :: pre, w', post, rfl, List.forall_mem_cons.2 ⟨hw, hpre⟩, hw'⟩

omit [DecidableEq α] in
/-- There is only one first write that fails. -/
lemma first_fails_unique {pre' post' : List (FieldWrite β)}
    (heq : pre ++ w :: post = pre' ++ w' :: post') (hpre : ∀ w ∈ pre, o.succeeds w = true)
    (hw : o.succeeds w = false) (hpre' : ∀ w ∈ pre', o.succeeds w = true)
    (hw' : o.succeeds w' = false) : pre ++ [w] = pre' ++ [w'] := by
  induction pre generalizing pre' with
  | nil =>
      cases pre' with
      | nil => rw [(List.cons.inj heq).1]
      | cons x pre' =>
          have hx := hpre' x List.mem_cons_self
          rw [← (List.cons.inj heq).1, hw] at hx
          exact absurd hx Bool.false_ne_true
  | cons x pre ih =>
      obtain ⟨hx, hpre⟩ := List.forall_mem_cons.1 hpre
      cases pre' with
      | nil =>
          rw [(List.cons.inj heq).1, hw'] at hx
          exact absurd hx Bool.false_ne_true
      | cons x' pre' =>
          obtain ⟨rfl, hrest⟩ := List.cons.inj heq
          rw [List.cons_append, ih hrest hpre (List.forall_mem_cons.1 hpre').2, List.cons_append]

/-- **All or nothing.**  Either all writes succeed, and take effect unless they change nothing; or
one fails, and up to that one all that take effect change nothing. -/
theorem allOrNothing_iff_outcomes (hnodup : (ws.map field).Nodup) :
    AllOrNothing o ws c ↔
      (∀ w ∈ ws, o.succeeds w = true ∧ (o.takes w = true ∨ w.Done c)) ∨
        ∃ pre w post, ws = pre ++ w :: post ∧ (∀ w' ∈ pre, o.succeeds w' = true) ∧
          o.succeeds w = false ∧ ∀ w' ∈ pre ++ [w], o.takes w' = true → w'.Done c := by
  rw [AllOrNothing]
  rcases succeeds_or_fails o ws with hall | ⟨pre, w, post, rfl, hpre, hw⟩
  · rw [attempt_of_succeeds hall, if_pos rfl, putAll_filter_eq_putAll hnodup]
    constructor
    · exact fun h => .inl fun w hw => ⟨hall w hw, h w hw⟩
    · rintro (h | ⟨pre, w, post, rfl, -, hw, -⟩)
      · exact fun w hw => (h w hw).2
      · have hsucceeds := hall w (by simp)
        rw [hw] at hsucceeds
        exact absurd hsucceeds Bool.false_ne_true
  · have hnodup' : ((pre ++ [w]).map field).Nodup := by
      refine hnodup.sublist (List.Sublist.map field ?_)
      exact (List.Sublist.refl pre).append (List.singleton_sublist.2 List.mem_cons_self)
    rw [attempt_of_fails hpre hw, if_neg Bool.false_ne_true, putAll_filter_eq_self hnodup']
    constructor
    · exact fun h => .inr ⟨pre, w, post, rfl, hpre, hw, h⟩
    · rintro (h | ⟨pre', w', post', heq, hpre', hw', h⟩)
      · have hsucceeds := (h w (by simp)).1
        rw [hw] at hsucceeds
        exact absurd hsucceeds Bool.false_ne_true
      · rw [first_fails_unique heq hpre hw hpre' hw']
        exact h

end Records

end FieldWrite

end Xdpd.Lib
