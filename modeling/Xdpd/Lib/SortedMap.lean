import Mathlib.Order.Lattice
import Mathlib.Data.List.Basic
import Mathlib.Tactic.Common

/-!
# Maps in the order of their keys

A map whose entries are kept sorted by key, with at most one entry for a key, as a `std::map` keeps
them.  Iterating over the map visits the entries in that order.
-/

namespace Xdpd.Lib

/-- A map with its entries in the order of the keys. -/
@[ext] structure SortedMap (κ ν : Type*) [LinearOrder κ] where
  entries : List (κ × ν)
  sorted : entries.Pairwise fun e e' => e.1 < e'.1

namespace SortedMap

section IsLast

variable {κ β : Type*} {key : β → κ}

/-- The element is the last one with its key. -/
def IsLast (key : β → κ) (bs : List β) (b : β) : Prop :=
  ∃ pre post, bs = pre ++ b :: post ∧ ∀ b' ∈ post, key b' ≠ key b

lemma isLast_cons {b b' : β} {bs : List β} :
    IsLast key (b' :: bs) b ↔ (b = b' ∧ ∀ b'' ∈ bs, key b'' ≠ key b) ∨ IsLast key bs b := by
  constructor
  · rintro ⟨pre, post, heq, hpost⟩
    cases pre with
    | nil =>
        obtain ⟨rfl, rfl⟩ := List.cons.inj heq
        exact .inl ⟨rfl, hpost⟩
    | cons b'' pre =>
        obtain ⟨rfl, rfl⟩ := List.cons.inj heq
        exact .inr ⟨pre, post, rfl, hpost⟩
  · rintro (⟨rfl, hpost⟩ | ⟨pre, post, rfl, hpost⟩)
    · exact ⟨[], bs, rfl, hpost⟩
    · exact ⟨b' :: pre, post, rfl, hpost⟩

lemma IsLast.mem {b : β} {bs : List β} (h : IsLast key bs b) : b ∈ bs := by
  obtain ⟨pre, post, rfl, -⟩ := h
  exact List.mem_append_right pre List.mem_cons_self

end IsLast

variable {κ ν : Type*} [LinearOrder κ]

/-- No entries. -/
def empty : SortedMap κ ν := ⟨[], .nil⟩

/-- The map without the entry of a key. -/
def erase (m : SortedMap κ ν) (k : κ) : SortedMap κ ν :=
  ⟨m.entries.filter fun e => e.1 ≠ k, m.sorted.filter _⟩

/-- The map with one more entry, in the place of the one its key had. -/
def insert (m : SortedMap κ ν) (k : κ) (v : ν) : SortedMap κ ν where
  entries := m.entries.filter (fun e => e.1 < k) ++ (k, v) :: m.entries.filter fun e => k < e.1
  sorted := by
    refine List.pairwise_append.mpr
      ⟨m.sorted.filter _, List.pairwise_cons.mpr ⟨?_, m.sorted.filter _⟩, ?_⟩
    · intro e he
      exact of_decide_eq_true (List.mem_filter.mp he).2
    · intro e he e' he'
      have hlt : e.1 < k := of_decide_eq_true (List.mem_filter.mp he).2
      rcases List.mem_cons.mp he' with rfl | he'
      · exact hlt
      · exact lt_trans hlt (of_decide_eq_true (List.mem_filter.mp he').2)

lemma sorted_zip {es : List (κ × ν)} (h : es.Pairwise fun e e' => e.1 < e'.1) (vs : List ν) :
    ((es.zip vs).map fun p => (p.1.1, p.2)).Pairwise fun e e' => e.1 < e'.1 := by
  induction es generalizing vs with
  | nil => exact .nil
  | cons e es ih =>
      rw [List.pairwise_cons] at h
      cases vs with
      | nil => exact .nil
      | cons v vs =>
          refine List.pairwise_cons.mpr ⟨?_, ih h.2 vs⟩
          intro e' he'
          obtain ⟨p, hp, rfl⟩ := List.mem_map.mp he'
          exact h.1 p.1 (List.of_mem_zip hp).1

/-- The map with its values replaced in turn. -/
def setValues (m : SortedMap κ ν) (vs : List ν) : SortedMap κ ν :=
  ⟨(m.entries.zip vs).map fun p => (p.1.1, p.2), sorted_zip m.sorted vs⟩

/-- The values in the order of their keys. -/
def values (m : SortedMap κ ν) : List ν := m.entries.map Prod.snd

/-- The value of a key. -/
def find (m : SortedMap κ ν) (k : κ) : Option ν :=
  (m.entries.find? fun e => e.1 = k).map Prod.snd

/-- The map with another value for a key, or with none. -/
def put (m : SortedMap κ ν) (k : κ) : Option ν → SortedMap κ ν
  | none => m.erase k
  | some v => (m.erase k).insert k v

/-- The value of a key, which is entered with a default value if it has none. -/
def subscript (m : SortedMap κ ν) (k : κ) (default : ν) : ν × SortedMap κ ν :=
  match m.find k with
  | some v => (v, m)
  | none => (default, m.insert k default)

lemma mem_erase {m : SortedMap κ ν} {k : κ} {e : κ × ν} :
    e ∈ (m.erase k).entries ↔ e ∈ m.entries ∧ e.1 ≠ k := by
  rw [erase, List.mem_filter, decide_eq_true_eq]

lemma mem_insert {m : SortedMap κ ν} {k : κ} {v : ν} {e : κ × ν} :
    e ∈ (m.insert k v).entries ↔ e = (k, v) ∨ (e ∈ m.entries ∧ e.1 ≠ k) := by
  rw [insert, List.mem_append, List.mem_cons, List.mem_filter, List.mem_filter, decide_eq_true_eq,
    decide_eq_true_eq, ne_iff_lt_or_gt]
  tauto

lemma eq_of_mem_sorted {es : List (κ × ν)} (h : es.Pairwise fun e e' => e.1 < e'.1)
    {e e' : κ × ν} (he : e ∈ es) (he' : e' ∈ es) (hkey : e.1 = e'.1) : e = e' := by
  induction h with
  | nil => exact absurd he List.not_mem_nil
  | cons hlt _ ih =>
      rcases List.mem_cons.mp he with rfl | hmem
      · rcases List.mem_cons.mp he' with rfl | hmem'
        · rfl
        · exact absurd hkey (ne_of_lt (hlt e' hmem'))
      · rcases List.mem_cons.mp he' with rfl | hmem'
        · exact absurd hkey.symm (ne_of_lt (hlt e hmem))
        · exact ih hmem hmem'

/-- A key has the value that its entry tells. -/
lemma find_eq_some_iff {m : SortedMap κ ν} {k : κ} {v : ν} :
    m.find k = some v ↔ (k, v) ∈ m.entries := by
  rw [find, Option.map_eq_some_iff]
  constructor
  · rintro ⟨e, he, rfl⟩
    have hkey : e.1 = k := by simpa using List.find?_some he
    rw [← hkey]
    exact List.mem_of_find?_eq_some he
  · intro he
    cases hfind : m.entries.find? fun e => e.1 = k with
    | none =>
        have hne := List.find?_eq_none.mp hfind (k, v) he
        exact absurd (decide_eq_true rfl) hne
    | some e =>
        have hkey : e.1 = k := by simpa using List.find?_some hfind
        exact ⟨e, rfl, by rw [eq_of_mem_sorted m.sorted (List.mem_of_find?_eq_some hfind) he hkey]⟩

lemma find_eq_none_iff {m : SortedMap κ ν} {k : κ} :
    m.find k = none ↔ ∀ e ∈ m.entries, e.1 ≠ k := by
  rw [find, Option.map_eq_none_iff, List.find?_eq_none]
  exact forall₂_congr fun e _ => not_congr decide_eq_true_iff

@[simp] lemma find_empty (k : κ) : (empty : SortedMap κ ν).find k = none := rfl

@[simp] lemma find_insert_self (m : SortedMap κ ν) (k : κ) (v : ν) :
    (m.insert k v).find k = some v :=
  find_eq_some_iff.mpr (mem_insert.mpr (.inl rfl))

@[simp] lemma find_insert_of_ne {m : SortedMap κ ν} {k k' : κ} (v : ν) (h : k' ≠ k) :
    (m.insert k v).find k' = m.find k' := by
  ext v'
  rw [find_eq_some_iff, find_eq_some_iff, mem_insert]
  simp [h]

@[simp] lemma find_erase_self (m : SortedMap κ ν) (k : κ) : (m.erase k).find k = none :=
  find_eq_none_iff.mpr fun _ he => (mem_erase.mp he).2

@[simp] lemma find_erase_of_ne {m : SortedMap κ ν} {k k' : κ} (h : k' ≠ k) :
    (m.erase k).find k' = m.find k' := by
  ext v'
  rw [find_eq_some_iff, find_eq_some_iff, mem_erase]
  simp [h]

lemma entries_eq_nil_iff {m : SortedMap κ ν} : m.entries = [] ↔ ∀ k, m.find k = none := by
  constructor
  · intro h k
    rw [find, h]
    rfl
  · intro h
    refine List.eq_nil_iff_forall_not_mem.mpr ?_
    intro e he
    exact find_eq_none_iff.mp (h e.1) e he rfl

lemma subscript_of_some {m : SortedMap κ ν} {k : κ} {default v : ν} (h : m.find k = some v) :
    m.subscript k default = (v, m) := by
  rw [subscript, h]

lemma subscript_of_none {m : SortedMap κ ν} {k : κ} {default : ν} (h : m.find k = none) :
    m.subscript k default = (default, m.insert k default) := by
  rw [subscript, h]

/-- Erasing a key that has no entry does nothing. -/
lemma erase_of_forall_ne {m : SortedMap κ ν} {k : κ} (h : ∀ e ∈ m.entries, e.1 ≠ k) :
    m.erase k = m := by
  ext1
  exact List.filter_eq_self.mpr fun e he => decide_eq_true (h e he)

/-- An entry with the greatest key comes last. -/
lemma entries_insert_of_forall_lt {m : SortedMap κ ν} {k : κ} (v : ν)
    (h : ∀ e ∈ m.entries, e.1 < k) : (m.insert k v).entries = m.entries ++ [(k, v)] := by
  have hlt : m.entries.filter (fun e => e.1 < k) = m.entries :=
    List.filter_eq_self.mpr fun e he => decide_eq_true (h e he)
  have hgt : m.entries.filter (fun e => k < e.1) = [] :=
    List.filter_eq_nil_iff.mpr fun e he hk => lt_asymm (h e he) (of_decide_eq_true hk)
  calc (m.insert k v).entries
      = m.entries.filter (fun e => e.1 < k) ++ (k, v) :: m.entries.filter fun e => k < e.1 := rfl
    _ = m.entries ++ [(k, v)] := by rw [hlt, hgt]

lemma mem_put {m : SortedMap κ ν} {k : κ} {o : Option ν} {e : κ × ν} :
    e ∈ (m.put k o).entries ↔ (k = e.1 ∧ o = some e.2) ∨ (e ∈ m.entries ∧ e.1 ≠ k) := by
  cases o with
  | none =>
      rw [put, mem_erase]
      exact ⟨.inr, fun h => h.resolve_left fun h => absurd h.2 nofun⟩
  | some v =>
      rw [put, mem_insert, mem_erase, Option.some.injEq, Prod.ext_iff, eq_comm, eq_comm (a := e.2)]
      tauto

/-! ### Entering one element after the other -/

section Enter

variable {β ε : Type} {key : β → κ} {val : β → Except ε (Option ν)}

/-- Puts what a loop finds for each element in the place of its key, unless it fails. -/
def enter (key : β → κ) (val : β → Except ε (Option ν)) (m : SortedMap κ ν) (b : β) :
    Except ε (SortedMap κ ν) :=
  (val b).map (m.put (key b))

lemma enter_eq_ok_iff {m m' : SortedMap κ ν} {b : β} :
    enter key val m b = .ok m' ↔ ∃ o, val b = .ok o ∧ m.put (key b) o = m' := by
  rw [enter]
  cases val b with
  | error e => exact ⟨nofun, fun ⟨_, h, _⟩ => absurd h nofun⟩
  | ok o =>
      constructor
      · intro h
        exact ⟨o, rfl, Except.ok.inj h⟩
      · rintro ⟨o', ho', rfl⟩
        rw [Except.ok.inj ho']
        rfl

lemma foldlM_enter_cons {m : SortedMap κ ν} {b : β} {bs : List β} {o : Option ν}
    (ho : val b = .ok o) :
    (b :: bs).foldlM (enter key val) m = bs.foldlM (enter key val) (m.put (key b) o) := by
  rw [List.foldlM_cons, enter_eq_ok_iff.mpr ⟨o, ho, rfl⟩]
  rfl

/-- If the loop succeeds, then so does its body for each element. -/
lemma ok_of_foldlM_enter {m m' : SortedMap κ ν} {bs : List β}
    (h : bs.foldlM (enter key val) m = .ok m') : ∀ b ∈ bs, ∃ o, val b = .ok o := by
  induction bs generalizing m with
  | nil => exact nofun
  | cons b bs ih =>
      cases ho : val b with
      | error e =>
          rw [List.foldlM_cons, enter, ho] at h
          exact absurd h nofun
      | ok o =>
          rw [foldlM_enter_cons ho] at h
          exact List.forall_mem_cons.mpr ⟨⟨o, ho⟩, ih h⟩

/-- If the loop fails, then its body does for an element. -/
lemma error_of_foldlM_enter {m : SortedMap κ ν} {bs : List β} {err : ε}
    (h : bs.foldlM (enter key val) m = .error err) : ∃ b ∈ bs, val b = .error err := by
  induction bs generalizing m with
  | nil => exact absurd h nofun
  | cons b bs ih =>
      cases ho : val b with
      | error err' =>
          rw [List.foldlM_cons, enter, ho] at h
          obtain rfl : err' = err := Except.error.inj h
          exact ⟨b, List.mem_cons_self, ho⟩
      | ok o =>
          rw [foldlM_enter_cons ho] at h
          obtain ⟨b', hb', herr⟩ := ih h
          exact ⟨b', List.mem_cons_of_mem b hb', herr⟩

/-- **The entries after the loop.**  The last element with a key decides what the key has. -/
theorem mem_of_foldlM_enter {m m' : SortedMap κ ν} {bs : List β}
    (h : bs.foldlM (enter key val) m = .ok m') (e : κ × ν) : e ∈ m'.entries ↔
      (∃ b, IsLast key bs b ∧ key b = e.1 ∧ val b = .ok (some e.2)) ∨
        (e ∈ m.entries ∧ ∀ b ∈ bs, key b ≠ e.1) := by
  induction bs generalizing m with
  | nil =>
      obtain rfl : m = m' := Except.ok.inj h
      constructor
      · intro he
        exact .inr ⟨he, nofun⟩
      · rintro (⟨b, hb, -⟩ | ⟨he, -⟩)
        · exact absurd hb.mem List.not_mem_nil
        · exact he
  | cons b bs ih =>
      obtain ⟨o, ho⟩ := ok_of_foldlM_enter h b List.mem_cons_self
      rw [foldlM_enter_cons ho] at h
      rw [ih h, mem_put, List.forall_mem_cons]
      constructor
      · rintro (⟨b', hlast, hb'⟩ | ⟨⟨hkey, rfl⟩ | ⟨he, hne⟩, hbs⟩)
        · exact .inl ⟨b', isLast_cons.mpr (.inr hlast), hb'⟩
        · exact .inl ⟨b, isLast_cons.mpr (.inl ⟨rfl, hkey ▸ hbs⟩), hkey, ho⟩
        · exact .inr ⟨he, hne.symm, hbs⟩
      · rintro (⟨b', hlast, hkey, hval⟩ | ⟨he, hne, hbs⟩)
        · rcases isLast_cons.mp hlast with ⟨rfl, hbs⟩ | hlast
          · exact .inr ⟨.inl ⟨hkey, Except.ok.inj (ho.symm.trans hval)⟩, hkey ▸ hbs⟩
          · exact .inl ⟨b', hlast, hkey, hval⟩
        · exact .inr ⟨.inr ⟨he, hne.symm⟩, hbs⟩

/-- Elements in the order of their keys are appended. -/
lemma foldlM_enter_of_sorted {m : SortedMap κ ν} {bs : List β} {es : List (κ × ν)}
    (h : List.Forall₂ (fun b e => key b = e.1 ∧ val b = .ok (some e.2)) bs es)
    (hsorted : (m.entries ++ es).Pairwise fun e e' => e.1 < e'.1) :
    ∃ m', bs.foldlM (enter key val) m = .ok m' ∧ m'.entries = m.entries ++ es := by
  induction h generalizing m with
  | nil => exact ⟨m, rfl, (List.append_nil _).symm⟩
  | @cons b e bs es hbe hrest ih =>
      obtain ⟨hkey, hval⟩ := hbe
      have hlt : ∀ e' ∈ m.entries, e'.1 < key b := by
        intro e' he'
        rw [hkey]
        exact (List.pairwise_append.mp hsorted).2.2 e' he' e List.mem_cons_self
      have hput : (m.put (key b) (some e.2)).entries = m.entries ++ [e] := by
        have herase : m.erase (key b) = m :=
          erase_of_forall_ne fun e' he' => ne_of_lt (hlt e' he')
        rw [put, herase, entries_insert_of_forall_lt _ hlt, hkey]
      have happend : (m.put (key b) (some e.2)).entries ++ es = m.entries ++ e :: es := by
        rw [hput, List.append_assoc, List.singleton_append]
      obtain ⟨m', hm', hentries⟩ := ih (m := m.put (key b) (some e.2)) (by rwa [happend])
      rw [foldlM_enter_cons hval]
      exact ⟨m', hm', hentries.trans happend⟩

end Enter

end SortedMap

end Xdpd.Lib
