import Mathlib.Data.Finset.Card
import Mathlib.Data.Finset.Filter
import Mathlib.Data.Finset.Range
import Xdpd.Lib.Transition
import Xdpd.Netfpga.Device

/-!
# The driver's tables and the card

The driver's tables mirror the card when a slot is in use exactly if an installed entry has its row,
the counters count the slots in use, and no two installed entries share a row.  The code keeps this
as long as no deletion succeeds: a deletion gives back no slot, and makes a row of the table of
exact entries invalid whatever the entry is.  The one deletion that does no harm is that of an exact
entry whose slot goes to the entry that replaces it.  An addition keeps it if a slot is free;
otherwise the new entry takes the row of another one.
-/

namespace Xdpd.Netfpga

open Lib

namespace Device

/-- An entry has a row of a table. -/
def Occupies (d : Device) (entry : ℕ) (type : EntryType) (pos : ℕ) : Prop :=
  ∃ hw ∈ d.platformState entry, hw.type = type ∧ hw.hwPos = pos

/-- The slots in use of a table. -/
def used (d : Device) (type : EntryType) : Finset ℕ :=
  (Finset.range (tableSize type)).filter fun pos => d.table type pos ≠ none

/-- The tables mirror the installed entries. -/
structure Mirrors (d : Device) (installed : Finset ℕ) : Prop where
  slots : ∀ type, ∀ pos < tableSize type,
    d.table type pos ≠ none ↔ ∃ entry ∈ installed, d.Occupies entry type pos
  counters : ∀ type, (d.num type).toNat = (d.used type).card
  rows : ∀ entry ∈ installed, ∃ hw ∈ d.platformState entry,
    hw.hwPos < tableSize hw.type ∧ (d.hardware.rows hw.address).Holds hw
  apart : ∀ entry ∈ installed, ∀ entry' ∈ installed, ∀ type pos,
    d.Occupies entry type pos → d.Occupies entry' type pos → entry = entry'

/-- A deletion makes the row of the entry invalid, and changes no other row. -/
def DeletesOwnRow (d : Device) (entry : ℕ) (failing : Option ℕ) : Prop :=
  (d.deleteFlowEntry entry failing).1 = true → ∀ hw ∈ d.platformState entry,
    ((d.deleteFlowEntry entry failing).2.hardware.rows hw.address).Invalid ∧
      ∀ address ≠ hw.address,
        (d.deleteFlowEntry entry failing).2.hardware.rows address = d.hardware.rows address

/-- The deletions of a hook are of this kind. -/
def OwnRows (d : Device) : Hook → Prop
  | .add _ _ => True
  | .modify old _ failingDelete _ => d.DeletesOwnRow old failingDelete
  | .remove entry failing => d.DeletesOwnRow entry failing

/-! ## When the mirror is kept -/

/-- A slot is free: one of the two that the hashes give, or any. -/
def HasRoom (d : Device) (hw : HwEntry) : Prop :=
  match hw.type with
  | .fixed => ∃ polynomial ∈ [NETFPGA_POLYNOMIAL1, NETFPGA_POLYNOMIAL2],
      d.table .fixed (hashPosition polynomial hw.matchs) = none
  | .wildcarded => ∃ pos < tableSize .wildcarded, d.table .wildcarded pos = none

/-- The entry is not translated, or finds a free slot. -/
def Addable (d : Device) (flow : FlowEntry) : Prop := ∀ hw ∈ mapFlowEntry flow, d.HasRoom hw

/-- The entry has no platform state, or a write fails. -/
def DeleteFails (d : Device) (entry : ℕ) (failing : Option ℕ) : Prop :=
  d.platformState entry = none ∨ Fails failing (numWrites .fixed)

/-- An exact entry whose slot the new entry is going to take. -/
def Replaces (d : Device) (old : ℕ) (flow : FlowEntry) : Prop :=
  ∃ hwOld ∈ d.platformState old, ∃ hw ∈ mapFlowEntry flow,
    hwOld.type = .fixed ∧ d.table .fixed hwOld.hwPos = some old ∧ hw.type = .fixed ∧
      d.table .fixed (hashPosition NETFPGA_POLYNOMIAL1 hw.matchs) ≠ none ∧
      hashPosition NETFPGA_POLYNOMIAL2 hw.matchs = hwOld.hwPos

/-- The calls that keep the mirror. -/
def Keeps (flow : ℕ → FlowEntry) (d : Device) : Hook → Prop
  | .add entry _ => d.Addable (flow entry)
  | .modify old mod failingDelete _ =>
      (d.DeleteFails old failingDelete → d.Addable (flow mod)) ∧
        (¬ d.DeleteFails old failingDelete → d.Replaces old (flow mod))
  | .remove entry failing => d.DeleteFails entry failing

/-! ## Slots -/

section Slots

variable {d : Device} {type type' : EntryType} {pos pos' : ℕ} {slot : Option ℕ}

@[simp]
lemma setSlot_self (d : Device) (type : EntryType) (pos : ℕ) (slot : Option ℕ) :
    (d.setSlot type pos slot).table type pos = slot := by
  simp [setSlot]

lemma setSlot_of_ne (d : Device) (slot : Option ℕ) (h : ¬ (type' = type ∧ pos' = pos)) :
    (d.setSlot type pos slot).table type' pos' = d.table type' pos' := by
  by_cases htype : type' = type
  · subst htype
    have hpos : pos' ≠ pos := fun hpos => h ⟨rfl, hpos⟩
    simp [setSlot, hpos]
  · simp [setSlot, htype]

lemma setSlot_setSlot (d : Device) (type : EntryType) (pos : ℕ) (slot slot' : Option ℕ) :
    (d.setSlot type pos slot).setSlot type pos slot' = d.setSlot type pos slot' := by
  simp [setSlot]

lemma setSlot_eq (h : d.table type pos = slot) : d.setSlot type pos slot = d := by
  subst h
  simp [setSlot]

lemma mem_used : pos ∈ d.used type ↔ pos < tableSize type ∧ d.table type pos ≠ none := by
  simp [used]

/-- The slots in use of the other table. -/
lemma used_setSlot_of_ne (d : Device) (slot : Option ℕ) (h : type' ≠ type) :
    (d.setSlot type pos slot).used type' = d.used type' := by
  ext pos'
  rw [mem_used, mem_used, setSlot_of_ne d slot fun hsame => h hsame.1]

/-- One more slot is in use. -/
lemma card_used_setSlot_some {entry : ℕ} (hpos : pos < tableSize type)
    (hfree : d.table type pos = none) :
    ((d.setSlot type pos (some entry)).used type).card = (d.used type).card + 1 := by
  have hinsert : (d.setSlot type pos (some entry)).used type = insert pos (d.used type) := by
    ext pos'
    rw [Finset.mem_insert, mem_used, mem_used]
    by_cases h : pos' = pos
    · subst h
      simp [hpos]
    · rw [setSlot_of_ne d _ fun hsame => h hsame.2]
      simp [h]
  rw [hinsert, Finset.card_insert_of_notMem fun hmem => (mem_used.mp hmem).2 hfree]

/-- One slot less is in use. -/
lemma card_used_setSlot_none (hpos : pos < tableSize type) (hused : d.table type pos ≠ none) :
    ((d.setSlot type pos none).used type).card + 1 = (d.used type).card := by
  have herase : (d.setSlot type pos none).used type = (d.used type).erase pos := by
    ext pos'
    rw [Finset.mem_erase, mem_used, mem_used]
    by_cases h : pos' = pos
    · subst h
      simp
    · rw [setSlot_of_ne d _ fun hsame => h hsame.2]
      simp [h]
  rw [herase, Finset.card_erase_add_one (mem_used.mpr ⟨hpos, hused⟩)]

lemma card_used_le (d : Device) (type : EntryType) : (d.used type).card ≤ tableSize type :=
  (Finset.card_filter_le _ _).trans_eq (Finset.card_range _)

end Slots

/-! ## What the calls of the driver do -/

/-- The entry has been added in its row. -/
structure Added (d d' : Device) (entry : ℕ) (hw : HwEntry) : Prop where
  table : d'.table = (d.setSlot hw.type hw.hwPos (some entry)).table
  num : d'.num = Function.update d.num hw.type (d.num hw.type + 1)
  platformState : d'.platformState = Function.update d.platformState entry (some hw)
  rows : ∃ row : Row, row.Holds hw ∧
    d'.hardware.rows = Function.update d.hardware.rows hw.address row

/-- The entry could not be added in its row. -/
structure Refused (d d' : Device) (entry : ℕ) (hw : HwEntry) : Prop where
  table : d'.table = (d.setSlot hw.type hw.hwPos none).table
  num : d'.num = d.num
  platformState : d'.platformState = Function.update d.platformState entry (some hw)
  rows : d'.hardware.rows = d.hardware.rows

/-- The entry has been deleted. -/
structure Deleted (d d' : Device) (entry : ℕ) (hw : HwEntry) : Prop where
  table : d'.table = d.table
  num : d'.num = Function.update d.num hw.type (d.num hw.type - 1)
  platformState : d'.platformState = Function.update d.platformState entry none
  rows : ∃ row : Row, row.Invalid ∧
    d'.hardware.rows = Function.update d.hardware.rows hw.hwPos row

/-- Only registers have changed. -/
structure Unchanged (d d' : Device) : Prop where
  table : d'.table = d.table
  num : d'.num = d.num
  platformState : d'.platformState = d.platformState
  rows : d'.hardware.rows = d.hardware.rows

section Calls

variable {d : Device} {entry pos : ℕ} {flow : FlowEntry} {hw : HwEntry} {failing : Option ℕ}

lemma tableSize_le (type : EntryType) : tableSize type ≤ 1024 := by
  cases type <;> decide

lemma address_lt (hpos : hw.hwPos < tableSize hw.type) : hw.address < 2 ^ 32 := by
  have hsize := tableSize_le hw.type
  have hbase : tableBase hw.type ≤ 0x8000 := by cases hw.type <;> decide
  rw [HwEntry.address]
  omega

/-- An entry that has got a slot is added when no write fails. -/
lemma addFlowEntry_of_not_fails
    (hgen : d.generateHwFlowEntry entry flow =
      some (hw, d.setSlot hw.type hw.hwPos (some entry)))
    (hpos : hw.hwPos < tableSize hw.type) (hfails : ¬ Fails failing (numWrites hw.type)) :
    (d.addFlowEntry entry flow failing).1 = true ∧
      Added d (d.addFlowEntry entry flow failing).2 entry hw := by
  obtain ⟨hdone, row, hrow, hrows⟩ : (d.hardware.addEntryHw failing hw).1 = true ∧
      ∃ row : Row, row.Holds hw ∧ (d.hardware.addEntryHw failing hw).2.rows =
        Function.update d.hardware.rows hw.address row :=
    addEntryHw_of_not_fails hfails (address_lt hpos)
  rcases hadd : d.hardware.addEntryHw failing hw with ⟨done, hardware⟩
  rw [hadd] at hdone hrows
  obtain rfl : done = true := hdone
  have hslot : (d.setSlot hw.type hw.hwPos (some entry)).hardware = d.hardware := rfl
  unfold addFlowEntry
  rw [hgen]
  dsimp only
  rw [hslot, hadd]
  exact ⟨rfl, rfl, rfl, rfl, row, hrow, hrows⟩

/-- It gives the slot back when a write fails. -/
lemma addFlowEntry_of_fails
    (hgen : d.generateHwFlowEntry entry flow =
      some (hw, d.setSlot hw.type hw.hwPos (some entry)))
    (hfails : Fails failing (numWrites hw.type)) :
    (d.addFlowEntry entry flow failing).1 = false ∧
      Refused d (d.addFlowEntry entry flow failing).2 entry hw := by
  obtain ⟨hdone, hrows⟩ : (d.hardware.addEntryHw failing hw).1 = false ∧
      (d.hardware.addEntryHw failing hw).2.rows = d.hardware.rows := addEntryHw_of_fails hfails
  rcases hadd : d.hardware.addEntryHw failing hw with ⟨done, hardware⟩
  rw [hadd] at hdone hrows
  obtain rfl : done = false := hdone
  have hslot : (d.setSlot hw.type hw.hwPos (some entry)).hardware = d.hardware := rfl
  unfold addFlowEntry
  rw [hgen]
  dsimp only
  rw [hslot, hadd]
  have hback := congrArg Device.table (setSlot_setSlot d hw.type hw.hwPos (some entry) none)
  exact ⟨rfl, hback, rfl, rfl, hrows⟩

/-- A deletion fails when the entry has no platform state, or a write fails. -/
lemma deleteFlowEntry_of_fails (h : d.DeleteFails entry failing) :
    (d.deleteFlowEntry entry failing).1 = false ∧
      Unchanged d (d.deleteFlowEntry entry failing).2 := by
  unfold deleteFlowEntry
  split
  next => exact ⟨rfl, rfl, rfl, rfl, rfl⟩
  next hw hstate =>
    have hfails : Fails failing (numWrites .fixed) :=
      h.resolve_left fun hnone => absurd (hstate.symm.trans hnone) (Option.some_ne_none hw)
    obtain ⟨hdone, hrows⟩ : (d.hardware.deleteEntryHw failing hw.hwPos).1 = false ∧
        (d.hardware.deleteEntryHw failing hw.hwPos).2.rows = d.hardware.rows :=
      deleteEntryHw_of_fails hfails
    rcases hdelete : d.hardware.deleteEntryHw failing hw.hwPos with ⟨done, hardware⟩
    rw [hdelete] at hdone hrows
    obtain rfl : done = false := hdone
    exact ⟨rfl, rfl, rfl, rfl, hrows⟩

/-- Otherwise the platform state is gone, and a row of the table of exact entries is invalid. -/
lemma deleteFlowEntry_of_not_fails (h : ¬ d.DeleteFails entry failing)
    (hstate : d.platformState entry = some hw) (hpos : hw.hwPos < tableSize hw.type) :
    (d.deleteFlowEntry entry failing).1 = true ∧
      Deleted d (d.deleteFlowEntry entry failing).2 entry hw := by
  have hfails : ¬ Fails failing (numWrites .fixed) := fun hfails => h (.inr hfails)
  have hlt : hw.hwPos < 2 ^ 32 := lt_of_le_of_lt (Nat.le_add_left _ _) (address_lt hpos)
  obtain ⟨hdone, row, hrow, hrows⟩ : (d.hardware.deleteEntryHw failing hw.hwPos).1 = true ∧
      ∃ row : Row, row.Invalid ∧ (d.hardware.deleteEntryHw failing hw.hwPos).2.rows =
        Function.update d.hardware.rows hw.hwPos row := deleteEntryHw_of_not_fails hfails hlt
  rcases hdelete : d.hardware.deleteEntryHw failing hw.hwPos with ⟨done, hardware⟩
  rw [hdelete] at hdone hrows
  obtain rfl : done = true := hdone
  unfold deleteFlowEntry
  rw [hstate]
  dsimp only
  rw [hdelete]
  exact ⟨rfl, rfl, rfl, rfl, row, hrow, hrows⟩

/-- An entry that finds a free slot gets one. -/
lemma generateHwFlowEntry_of_hasRoom (entry : ℕ) (hmap : mapFlowEntry flow = some hw)
    (h : d.HasRoom hw) :
    ∃ pos < tableSize hw.type, d.table hw.type pos = none ∧
      d.generateHwFlowEntry entry flow =
        some ({ hw with hwPos := pos }, d.setSlot hw.type pos (some entry)) := by
  unfold generateHwFlowEntry
  rw [hmap]
  unfold HasRoom at h
  cases htype : hw.type with
  | fixed =>
      rw [htype] at h
      dsimp only at h ⊢
      rw [htype]
      refine ⟨d.positionExact hw.matchs, ?_, ?_, rfl⟩
      · rw [positionExact]
        split <;> exact hashPosition_lt _ _
      · rw [positionExact]
        split
        next hfree => exact hfree
        next hused =>
          obtain ⟨polynomial, hmem, hfree⟩ := h
          rcases List.mem_cons.mp hmem with rfl | hmem
          · exact absurd hfree hused
          · obtain rfl := List.mem_singleton.mp hmem
            exact hfree
  | wildcarded =>
      rw [htype] at h
      dsimp only at h ⊢
      rw [htype]
      obtain ⟨pos, hpos, hfree⟩ := h
      have hsome : (d.positionWildcard).isSome := by
        rw [positionWildcard, List.find?_isSome]
        exact ⟨pos, List.mem_range.mpr hpos, decide_eq_true hfree⟩
      obtain ⟨found, hfound⟩ := Option.isSome_iff_exists.mp hsome
      have hmem : found ∈ List.range (tableSize .wildcarded) := List.mem_of_find?_eq_some hfound
      have hfree' : d.table .wildcarded found = none :=
        of_decide_eq_true (List.find?_some (p := fun i => d.table .wildcarded i = none) hfound)
      refine ⟨found, List.mem_range.mp hmem, hfree', ?_⟩
      dsimp only
      rw [hfound]

/-- An exact entry both of whose slots are in use takes the second one. -/
lemma generateHwFlowEntry_of_collision (entry : ℕ) (hmap : mapFlowEntry flow = some hw)
    (htype : hw.type = .fixed)
    (hused : d.table .fixed (hashPosition NETFPGA_POLYNOMIAL1 hw.matchs) ≠ none) :
    d.generateHwFlowEntry entry flow =
      some ({ hw with hwPos := hashPosition NETFPGA_POLYNOMIAL2 hw.matchs },
        d.setSlot hw.type (hashPosition NETFPGA_POLYNOMIAL2 hw.matchs) (some entry)) := by
  unfold generateHwFlowEntry
  rw [hmap]
  dsimp only
  rw [htype]
  dsimp only
  rw [positionExact, if_neg hused]

end Calls

/-! ## The invariant -/

/-- A slot has the installed entry of its row, and none if there is no such entry. -/
structure Tables (d : Device) (installed : Finset ℕ) : Prop where
  slots : ∀ type, ∀ pos < tableSize type, ∀ entry,
    d.table type pos = some entry ↔ entry ∈ installed ∧ d.Occupies entry type pos
  counters : ∀ type, (d.num type).toNat = (d.used type).card
  rows : ∀ entry ∈ installed, ∃ hw ∈ d.platformState entry,
    hw.hwPos < tableSize hw.type ∧ (d.hardware.rows hw.address).Holds hw

namespace Tables

variable {d d' : Device} {installed : Finset ℕ} {entry : ℕ} {hw : HwEntry}

lemma init (hardware : Hardware) : Tables (.init hardware) ∅ where
  slots type pos _ entry := by simp [Device.init]
  counters type := by simp [Device.init, used]
  rows entry h := absurd h (Finset.notMem_empty entry)

/-- The tables mirror the installed entries. -/
lemma mirrors (h : Tables d installed) : d.Mirrors installed where
  slots type pos hpos := by
    rw [Option.ne_none_iff_exists']
    exact exists_congr fun entry => h.slots type pos hpos entry
  counters := h.counters
  rows := h.rows
  apart entry hentry entry' hentry' type pos hocc hocc' := by
    obtain ⟨hw, hstate, rfl, rfl⟩ := hocc
    obtain ⟨hw₁, hstate₁, hpos, -⟩ := h.rows entry hentry
    obtain rfl : hw = hw₁ := Option.some_injective _ (hstate.symm.trans hstate₁)
    have hslot := (h.slots _ _ hpos entry).mpr ⟨hentry, hw, hstate, rfl, rfl⟩
    have hslot' := (h.slots _ _ hpos entry').mpr ⟨hentry', hocc'⟩
    exact Option.some_injective _ (hslot.symm.trans hslot')

lemma notMem (h : Tables d installed) (hstate : d.platformState entry = none) :
    entry ∉ installed := by
  intro hmem
  obtain ⟨hw, hstate', -⟩ := h.rows entry hmem
  exact absurd (hstate'.symm.trans hstate) (Option.some_ne_none hw)

lemma addable_of_unchanged {flow : FlowEntry} (hd : Unchanged d d') :
    d'.Addable flow ↔ d.Addable flow := by
  simp only [Addable, HasRoom, hd.table]

/-- A call that only writes registers keeps the tables. -/
lemma of_unchanged (h : Tables d installed) (hd : Unchanged d d') : Tables d' installed := by
  obtain ⟨hardware, table, num, platformState⟩ := d
  obtain ⟨hardware', table', num', platformState'⟩ := d'
  obtain ⟨htable, hnum, hstate, hrows⟩ := hd
  dsimp only at htable hnum hstate hrows
  subst htable hnum hstate
  exact ⟨h.slots, h.counters, fun entry hentry => hrows ▸ h.rows entry hentry⟩

/-- Positions in two tables have different rows. -/
lemma address_ne {hw hw' : HwEntry} (hpos : hw.hwPos < tableSize hw.type)
    (hpos' : hw'.hwPos < tableSize hw'.type)
    (h : ¬ (hw'.type = hw.type ∧ hw'.hwPos = hw.hwPos)) : hw'.address ≠ hw.address := by
  have hsize := tableSize_le hw.type
  have hsize' := tableSize_le hw'.type
  intro haddress
  rw [HwEntry.address, HwEntry.address] at haddress
  by_cases htype : hw'.type = hw.type
  · rw [htype] at haddress
    exact h ⟨htype, Nat.add_left_cancel haddress⟩
  · -- the tables are further apart than they are long
    have hbase : tableBase hw'.type + 1024 ≤ tableBase hw.type ∨
        tableBase hw.type + 1024 ≤ tableBase hw'.type := by
      revert htype
      cases hw'.type <;> cases hw.type <;> decide
    omega

/-- The positions of an installed entry are still the same. -/
lemma occupies_of_update {state : Option HwEntry} {type : EntryType} {pos : ℕ} {entry' : ℕ}
    (hstate : d'.platformState = Function.update d.platformState entry state)
    (hne : entry' ≠ entry) : d'.Occupies entry' type pos ↔ d.Occupies entry' type pos := by
  rw [Occupies, Occupies, hstate, Function.update_of_ne hne]

/-- An entry that has been added in a free slot is installed. -/
lemma of_added (h : Tables d installed) (hd : Added d d' entry hw)
    (hpos : hw.hwPos < tableSize hw.type) (hfree : d.table hw.type hw.hwPos = none)
    (hnew : entry ∉ installed) : Tables d' (insert entry installed) := by
  have hself : d'.platformState entry = some hw := by
    rw [hd.platformState, Function.update_self]
  have hother : ∀ entry' ∈ installed, entry' ≠ entry := fun entry' hmem heq =>
    hnew (heq ▸ hmem)
  refine ⟨?_, ?_, ?_⟩
  · intro type pos hlt entry'
    rw [hd.table, Finset.mem_insert]
    by_cases hsame : type = hw.type ∧ pos = hw.hwPos
    · obtain ⟨rfl, rfl⟩ := hsame
      rw [setSlot_self]
      constructor
      · intro hslot
        obtain rfl : entry = entry' := Option.some_injective _ hslot
        exact ⟨.inl rfl, hw, hself, rfl, rfl⟩
      · rintro ⟨rfl | hmem, hocc⟩
        · rfl
        · -- the slot was free
          rw [occupies_of_update hd.platformState (hother entry' hmem)] at hocc
          have hslot := (h.slots _ _ hlt entry').mpr ⟨hmem, hocc⟩
          exact absurd (hslot.symm.trans hfree) (Option.some_ne_none entry')
    · rw [setSlot_of_ne d _ hsame, h.slots type pos hlt entry']
      constructor
      · rintro ⟨hmem, hocc⟩
        exact ⟨.inr hmem, (occupies_of_update hd.platformState (hother entry' hmem)).mpr hocc⟩
      · rintro ⟨rfl | hmem, hocc⟩
        · obtain ⟨hw', hstate', rfl, rfl⟩ := hocc
          obtain rfl : hw = hw' := Option.some_injective _ (hself.symm.trans hstate')
          exact absurd ⟨rfl, rfl⟩ hsame
        · exact ⟨hmem, (occupies_of_update hd.platformState (hother entry' hmem)).mp hocc⟩
  · intro type
    have hused : d'.used type = (d.setSlot hw.type hw.hwPos (some entry)).used type := by
      rw [used, used, hd.table]
    rw [hused, hd.num]
    by_cases htype : type = hw.type
    · subst htype
      have hcard := card_used_le d hw.type
      have hsize := tableSize_le hw.type
      have hone : BitVec.toNat (1 : BitVec 32) = 1 := rfl
      rw [Function.update_self, card_used_setSlot_some hpos hfree, BitVec.toNat_add,
        h.counters, hone]
      omega
    · rw [Function.update_of_ne htype, used_setSlot_of_ne d _ htype, h.counters]
  · intro entry' hmem
    obtain ⟨row, hrow, hrows⟩ := hd.rows
    rcases Finset.mem_insert.mp hmem with rfl | hmem
    · refine ⟨hw, hself, hpos, ?_⟩
      rw [hrows, Function.update_self]
      exact hrow
    · obtain ⟨hw', hstate', hpos', hrow'⟩ := h.rows entry' hmem
      refine ⟨hw', ?_, hpos', ?_⟩
      · rw [hd.platformState, Function.update_of_ne (hother entry' hmem)]
        exact hstate'
      · have hne : ¬ (hw'.type = hw.type ∧ hw'.hwPos = hw.hwPos) := by
          rintro ⟨htype, hsame⟩
          have hslot := (h.slots _ _ hpos' entry').mpr ⟨hmem, hw', hstate', rfl, rfl⟩
          rw [htype, hsame, hfree] at hslot
          exact absurd hslot.symm (Option.some_ne_none entry')
        rw [hrows, Function.update_of_ne (address_ne hpos hpos' hne)]
        exact hrow'

/-- An entry that could not be added in a free slot changes nothing. -/
lemma of_refused (h : Tables d installed) (hd : Refused d d' entry hw)
    (hfree : d.table hw.type hw.hwPos = none) (hnew : entry ∉ installed) :
    Tables d' installed := by
  have hother : ∀ entry' ∈ installed, entry' ≠ entry := fun entry' hmem heq =>
    hnew (heq ▸ hmem)
  have htable : d'.table = d.table := by rw [hd.table, setSlot_eq hfree]
  refine ⟨?_, ?_, ?_⟩
  · intro type pos hlt entry'
    rw [htable, h.slots type pos hlt entry']
    refine and_congr_right fun hmem => ?_
    exact (occupies_of_update hd.platformState (hother entry' hmem)).symm
  · intro type
    rw [hd.num, used, htable]
    exact h.counters type
  · intro entry' hmem
    rw [hd.platformState, Function.update_of_ne (hother entry' hmem), hd.rows]
    exact h.rows entry' hmem

/-- If the slot of an exact entry that has been deleted were free, the tables would be right. -/
lemma of_deleted (h : Tables d installed) (hd : Deleted d d' entry hw)
    (hstate : d.platformState entry = some hw) (htype : hw.type = .fixed)
    (hslot : d.table .fixed hw.hwPos = some entry) (hpos : hw.hwPos < tableSize hw.type) :
    Tables (d'.setSlot hw.type hw.hwPos none) (installed.erase entry) := by
  have hstate' : (d'.setSlot hw.type hw.hwPos none).platformState =
      Function.update d.platformState entry none := hd.platformState
  have hbefore : (d'.setSlot hw.type hw.hwPos none).table =
      (d.setSlot hw.type hw.hwPos none).table := by
    rw [setSlot, setSlot, hd.table]
  refine ⟨?_, ?_, ?_⟩
  · intro type pos hlt entry'
    rw [hbefore, Finset.mem_erase]
    by_cases hsame : type = hw.type ∧ pos = hw.hwPos
    · obtain ⟨rfl, rfl⟩ := hsame
      rw [setSlot_self]
      refine iff_of_false (Option.some_ne_none entry').symm ?_
      -- only the entry had the slot
      rintro ⟨⟨hne, hmem⟩, hocc⟩
      rw [occupies_of_update hstate' hne] at hocc
      have hslot' := (h.slots _ _ hlt entry').mpr ⟨hmem, hocc⟩
      rw [htype, hslot] at hslot'
      exact hne (Option.some_injective _ hslot').symm
    · rw [setSlot_of_ne d _ hsame, h.slots type pos hlt entry']
      constructor
      · rintro ⟨hmem, hocc⟩
        have hne : entry' ≠ entry := by
          rintro rfl
          obtain ⟨hw', hstate₁, rfl, rfl⟩ := hocc
          obtain rfl : hw = hw' := Option.some_injective _ (hstate.symm.trans hstate₁)
          exact hsame ⟨rfl, rfl⟩
        exact ⟨⟨hne, hmem⟩, (occupies_of_update hstate' hne).mpr hocc⟩
      · rintro ⟨⟨hne, hmem⟩, hocc⟩
        exact ⟨hmem, (occupies_of_update hstate' hne).mp hocc⟩
  · intro type
    have hused : (d'.setSlot hw.type hw.hwPos none).used type =
        (d.setSlot hw.type hw.hwPos none).used type := by
      rw [used, used, hbefore]
    have hnum : (d'.setSlot hw.type hw.hwPos none).num =
        Function.update d.num hw.type (d.num hw.type - 1) := hd.num
    rw [hused, hnum]
    by_cases hsame : type = hw.type
    · subst hsame
      have hcard := card_used_setSlot_none hpos (by
        rw [htype, hslot]
        exact Option.some_ne_none entry)
      have hle := card_used_le d hw.type
      have hsize := tableSize_le hw.type
      have hcount := h.counters hw.type
      have hone : BitVec.toNat (1 : BitVec 32) = 1 := rfl
      rw [Function.update_self, BitVec.toNat_sub, hone]
      omega
    · rw [Function.update_of_ne hsame, used_setSlot_of_ne d _ hsame, h.counters]
  · intro entry' hmem
    obtain ⟨hne, hmem⟩ := Finset.mem_erase.mp hmem
    obtain ⟨row, -, hrows⟩ := hd.rows
    obtain ⟨hw', hstate₁, hpos', hrow'⟩ := h.rows entry' hmem
    refine ⟨hw', ?_, hpos', ?_⟩
    · rw [hstate', Function.update_of_ne hne]
      exact hstate₁
    · have hother : ¬ (hw'.type = hw.type ∧ hw'.hwPos = hw.hwPos) := by
        rintro ⟨hsame, hsame'⟩
        have hslot' := (h.slots _ _ hpos' entry').mpr ⟨hmem, hw', hstate₁, rfl, rfl⟩
        rw [hsame, hsame', htype, hslot] at hslot'
        exact hne (Option.some_injective _ hslot').symm
      have haddress : hw.hwPos = hw.address := by
        rw [HwEntry.address, htype, tableBase, Nat.zero_add]
      change Row.Holds (d'.hardware.rows hw'.address) hw'
      rw [hrows, haddress, Function.update_of_ne (address_ne hpos hpos' hother)]
      exact hrow'

/-- An addition that keeps the mirror: with a free slot, or after the deletion of the entry that had
the slot. -/
lemma of_slot {flow : FlowEntry} {failing : Option ℕ} (hw : HwEntry)
    (h : Tables (d.setSlot hw.type hw.hwPos none) installed)
    (hgen : d.generateHwFlowEntry entry flow =
      some (hw, d.setSlot hw.type hw.hwPos (some entry)))
    (hpos : hw.hwPos < tableSize hw.type) (hnew : d.platformState entry = none) :
    Tables (d.addFlowEntry entry flow failing).2
      (if (d.addFlowEntry entry flow failing).1 then insert entry installed else installed) := by
  have hnew' : entry ∉ installed := h.notMem hnew
  have hfree := setSlot_self d hw.type hw.hwPos none
  by_cases hfails : Fails failing (numWrites hw.type)
  · obtain ⟨hdone, hd⟩ := addFlowEntry_of_fails hgen hfails
    rw [hdone]
    have hd' : Refused (d.setSlot hw.type hw.hwPos none) (d.addFlowEntry entry flow failing).2
        entry hw :=
      ⟨by rw [setSlot_setSlot, hd.table], hd.num, hd.platformState, hd.rows⟩
    exact h.of_refused hd' hfree hnew'
  · obtain ⟨hdone, hd⟩ := addFlowEntry_of_not_fails hgen hpos hfails
    rw [hdone, if_pos rfl]
    have hd' : Added (d.setSlot hw.type hw.hwPos none) (d.addFlowEntry entry flow failing).2
        entry hw :=
      ⟨by rw [setSlot_setSlot, hd.table], hd.num, hd.platformState, hd.rows⟩
    exact h.of_added hd' hpos hfree hnew'

/-- An addition that finds a free slot, or cannot be translated. -/
lemma of_addable {flow : FlowEntry} (h : Tables d installed) (hadd : d.Addable flow)
    (hnew : d.platformState entry = none) (failing : Option ℕ) :
    Tables (d.addFlowEntry entry flow failing).2
      (if (d.addFlowEntry entry flow failing).1 then insert entry installed else installed) := by
  cases hmap : mapFlowEntry flow with
  | none =>
      have hskip : d.addFlowEntry entry flow failing = (false, d) := by
        unfold addFlowEntry generateHwFlowEntry
        rw [hmap]
      rw [hskip]
      exact h
  | some hw =>
      obtain ⟨pos, hpos, hfree, hgen⟩ :=
        generateHwFlowEntry_of_hasRoom entry hmap (hadd hw hmap)
      refine of_slot { hw with hwPos := pos } ?_ hgen hpos hnew
      rw [setSlot_eq hfree]
      exact h

/-- A deletion that fails changes nothing. -/
lemma of_deleteFails {failing : Option ℕ} (h : Tables d installed)
    (hdelete : d.DeleteFails entry failing) :
    Tables (d.deleteFlowEntry entry failing).2
      (if (d.deleteFlowEntry entry failing).1 then installed.erase entry else installed) := by
  obtain ⟨hdone, hd⟩ := deleteFlowEntry_of_fails hdelete
  rw [hdone]
  exact h.of_unchanged hd

/-- The deletion of an exact entry whose slot the new entry takes. -/
lemma of_replaces {flow : FlowEntry} {old mod : ℕ} {failing : Option ℕ} (h : Tables d installed)
    (hreplaces : d.Replaces old flow) (hdelete : ¬ d.DeleteFails old failing)
    (hnew : d.platformState mod = none) (failingAdd : Option ℕ) :
    (d.deleteFlowEntry old failing).1 = true ∧
      Tables ((d.deleteFlowEntry old failing).2.addFlowEntry mod flow failingAdd).2
        (if ((d.deleteFlowEntry old failing).2.addFlowEntry mod flow failingAdd).1 then
          insert mod (installed.erase old) else installed.erase old) := by
  obtain ⟨hwOld, hstate, hw, hmap, htypeOld, hslot, htype, hused, hhash⟩ := hreplaces
  have hlt : hwOld.hwPos < tableSize .fixed := hhash ▸ hashPosition_lt _ _
  have hpos : hwOld.hwPos < tableSize hwOld.type := htypeOld ▸ hlt
  obtain ⟨hdone, hd⟩ := deleteFlowEntry_of_not_fails hdelete hstate hpos
  refine ⟨hdone, ?_⟩
  have hfreed := h.of_deleted hd hstate htypeOld hslot hpos
  have hgen := generateHwFlowEntry_of_collision (d := (d.deleteFlowEntry old failing).2)
    mod hmap htype (by rw [hd.table]; exact hused)
  rw [hhash] at hgen
  refine of_slot { hw with hwPos := hwOld.hwPos } ?_ hgen ?_ ?_
  · dsimp only
    rw [htype, ← htypeOld]
    exact hfreed
  · dsimp only
    rw [htype]
    exact hlt
  · rw [hd.platformState, Function.update_apply, hnew, ite_self]

/-- **The step.**  A call that keeps the mirror keeps the invariant. -/
lemma step {flow : ℕ → FlowEntry} {hook : Hook} (h : Tables d installed)
    (hkeeps : Keeps flow d hook) (hstep : d.step flow hook = some d') :
    Tables d' (d.record flow hook installed) := by
  cases hook with
  | add entry failing =>
      rw [Device.step] at hstep
      split at hstep
      next hnew =>
        obtain rfl := Option.some_injective _ hstep
        exact h.of_addable hkeeps hnew failing
      next => exact absurd hstep.symm (Option.some_ne_none d')
  | modify old mod failingDelete failingAdd =>
      rw [Device.step] at hstep
      split at hstep
      next hnew =>
        obtain rfl := Option.some_injective _ hstep
        by_cases hdelete : d.DeleteFails old failingDelete
        · obtain ⟨-, hd⟩ := deleteFlowEntry_of_fails hdelete
          have hadd := hkeeps.1 hdelete
          rw [← addable_of_unchanged hd] at hadd
          exact (h.of_deleteFails hdelete).of_addable hadd (by rw [hd.platformState, hnew]) _
        · obtain ⟨hdone, htables⟩ :=
            h.of_replaces (hkeeps.2 hdelete) hdelete hnew failingAdd
          dsimp only [record]
          rw [hdone, if_pos rfl]
          exact htables
      next => exact absurd hstep.symm (Option.some_ne_none d')
  | remove entry failing =>
      obtain rfl := Option.some_injective _ hstep
      exact h.of_deleteFails hkeeps

/-- **The deletions.**  A call that keeps the mirror makes no other row invalid. -/
lemma ownRows {flow : ℕ → FlowEntry} {hook : Hook} (hkeeps : Keeps flow d hook) :
    d.OwnRows hook := by
  have hfailed : ∀ entry failing, d.DeleteFails entry failing → d.DeletesOwnRow entry failing := by
    intro entry failing hdelete hdone
    obtain ⟨hfalse, -⟩ := deleteFlowEntry_of_fails hdelete
    exact absurd (hdone.symm.trans hfalse) (by decide)
  cases hook with
  | add entry failing => trivial
  | modify old mod failingDelete failingAdd =>
      by_cases hdelete : d.DeleteFails old failingDelete
      · exact hfailed old failingDelete hdelete
      · obtain ⟨hwOld, hstate, hw, -, htype, -, -, -, hhash⟩ := hkeeps.2 hdelete
        have hlt : hwOld.hwPos < tableSize .fixed := hhash ▸ hashPosition_lt _ _
        obtain ⟨-, hd⟩ := deleteFlowEntry_of_not_fails hdelete hstate (htype ▸ hlt)
        intro _ hw' hstate'
        obtain rfl : hwOld = hw' := Option.some_injective _ (hstate.symm.trans hstate')
        obtain ⟨row, hrow, hrows⟩ := hd.rows
        have haddress : hwOld.address = hwOld.hwPos := by
          rw [HwEntry.address, htype, tableBase, Nat.zero_add]
        rw [hrows, haddress]
        refine ⟨by rw [Function.update_self]; exact hrow, fun address hne => ?_⟩
        rw [Function.update_of_ne hne]
  | remove entry failing => exact hfailed entry failing hkeeps

end Tables

/-- **The tables in every run.**  As long as no deletion of an entry succeeds, but for one whose
slot goes to the entry that replaces it, and every entry that is added finds a free slot, the tables
mirror the installed entries, and no deletion makes a row of another entry invalid. -/
theorem mirrors_of_run {flow : ℕ → FlowEntry} {hardware : Hardware} {hooks : List Hook}
    {d : Device} {installed : Finset ℕ}
    (hrun : Run (observe (Device.step flow) (record flow)) (fun p hook => Keeps flow p.1 hook)
      (.init hardware, ∅) hooks (d, installed)) :
    d.Mirrors installed ∧ ∀ hook, Keeps flow d hook → d.OwnRows hook := by
  have hinv : Tables d installed := by
    refine hrun.invariant (fun p hook p' (hp : Tables p.1 p.2) hkeeps hstep => ?_)
      (Tables.init hardware)
    obtain ⟨hstep', hrecord⟩ := observe_eq_some hstep
    rw [hrecord]
    exact hp.step hkeeps hstep'
  exact ⟨hinv.mirrors, fun hook hkeeps => Tables.ownRows hkeeps⟩

/-- **No other deletion.**  A deletion that succeeds and is not part of a replacement leaves the
counters and the slots apart. -/
theorem not_mirrors_of_deleted {d : Device} {entry : ℕ} {failing : Option ℕ}
    {installed : Finset ℕ} (h : d.Mirrors installed)
    (hdone : (d.deleteFlowEntry entry failing).1 = true) (installed' : Finset ℕ) :
    ¬ (d.deleteFlowEntry entry failing).2.Mirrors installed' := by
  obtain ⟨hw, htable, hnum⟩ : ∃ hw : HwEntry,
      (d.deleteFlowEntry entry failing).2.table = d.table ∧
        (d.deleteFlowEntry entry failing).2.num =
          Function.update d.num hw.type (d.num hw.type - 1) := by
    unfold deleteFlowEntry at hdone ⊢
    split at hdone
    next => exact absurd hdone Bool.false_ne_true
    next hw _ =>
      split at hdone
      next => exact absurd hdone Bool.false_ne_true
      next => exact ⟨hw, rfl, rfl⟩
  intro h'
  have hcount := h.counters hw.type
  have hcount' := h'.counters hw.type
  rw [used, htable, ← used, ← hcount, hnum, Function.update_self] at hcount'
  have hone : BitVec.toNat (1 : BitVec 32) = 1 := rfl
  rw [BitVec.toNat_sub, hone] at hcount'
  omega

instance (d : Device) (hw : HwEntry) : Decidable (d.HasRoom hw) :=
  match htype : hw.type with
  | .fixed =>
      decidable_of_iff (∃ polynomial ∈ [NETFPGA_POLYNOMIAL1, NETFPGA_POLYNOMIAL2],
        d.table .fixed (hashPosition polynomial hw.matchs) = none) (by rw [HasRoom, htype])
  | .wildcarded =>
      decidable_of_iff (∃ pos < tableSize .wildcarded, d.table .wildcarded pos = none)
        (by rw [HasRoom, htype])

instance (d : Device) (flow : FlowEntry) : Decidable (d.Addable flow) :=
  inferInstanceAs (Decidable (∀ hw ∈ mapFlowEntry flow, d.HasRoom hw))

instance (d : Device) (entry : ℕ) (failing : Option ℕ) : Decidable (d.DeleteFails entry failing) :=
  inferInstanceAs (Decidable (_ ∨ _))

instance (d : Device) (old : ℕ) (flow : FlowEntry) : Decidable (d.Replaces old flow) :=
  inferInstanceAs (Decidable (∃ hwOld ∈ d.platformState old, ∃ hw ∈ mapFlowEntry flow,
    hwOld.type = .fixed ∧ d.table .fixed hwOld.hwPos = some old ∧ hw.type = .fixed ∧
      d.table .fixed (hashPosition NETFPGA_POLYNOMIAL1 hw.matchs) ≠ none ∧
      hashPosition NETFPGA_POLYNOMIAL2 hw.matchs = hwOld.hwPos))

instance (flow : ℕ → FlowEntry) (d : Device) : (hook : Hook) → Decidable (Keeps flow d hook)
  | .add entry _ => inferInstanceAs (Decidable (d.Addable (flow entry)))
  | .modify old mod failingDelete _ =>
      inferInstanceAs (Decidable ((d.DeleteFails old failingDelete → d.Addable (flow mod)) ∧
        (¬ d.DeleteFails old failingDelete → d.Replaces old (flow mod))))
  | .remove entry failing => inferInstanceAs (Decidable (d.DeleteFails entry failing))

/-- Entry `0` sends what comes in at port 1 to port 2, and the others drop everything. -/
def twoFlows : ℕ → FlowEntry
  | 0 =>
      { matchs := [{ type := .inPort, value32 := 1 }]
        applyActions := some [{ type := .output, field32 := 2 }] }
  | _ => { matchs := [], applyActions := none }

/-- A card with nothing in its tables. -/
def blankCard : Hardware := ⟨fun _ => 0, fun _ => ⟨[], [], []⟩⟩

/-- An entry is added, writes fail when another one is added and when the first is deleted, and the
replacement of the first becomes an addition. -/
theorem mirrors_twoFlows :
    ∃ p ∈ exec (guarded (observe (Device.step twoFlows) (record twoFlows))
        (fun p hook => Keeps twoFlows p.1 hook)) (.init blankCard, ∅)
        [.add 0 none, .add 1 (some 3), .remove 0 (some 7), .modify 0 2 (some 1) none],
      p.2 = {0, 2} ∧ p.1.Mirrors p.2 ∧
        ∀ hook, Keeps twoFlows p.1 hook → p.1.OwnRows hook := by
  have hexec : ∃ p ∈ exec (guarded (observe (Device.step twoFlows) (record twoFlows))
      (fun p hook => Keeps twoFlows p.1 hook)) (.init blankCard, ∅)
      [.add 0 none, .add 1 (some 3), .remove 0 (some 7), .modify 0 2 (some 1) none],
      p.2 = {0, 2} := by decide +kernel
  obtain ⟨p, hp, hinstalled⟩ := hexec
  exact ⟨p, hp, hinstalled, mirrors_of_run (run_of_exec_guarded hp)⟩

/-- An entry is added and deleted: the slot stays in use. -/
theorem not_mirrors_deleted :
    ¬ ∀ (flow : ℕ → FlowEntry) (hardware : Hardware) (hooks : List Hook) (d : Device)
        (installed : Finset ℕ),
      Run (observe (Device.step flow) (record flow)) anyStep (.init hardware, ∅) hooks
          (d, installed) →
        d.Mirrors installed ∧ ∀ hook, d.OwnRows hook := by
  intro h
  have hexec : ∃ p ∈ exec (observe (Device.step twoFlows) (record twoFlows)) (.init blankCard, ∅)
      [.add 0 none, .remove 0 none], p.1.table .wildcarded 0 = some 0 ∧ p.2 = ∅ := by
    decide +kernel
  obtain ⟨⟨d, installed⟩, hrun, hslot, hinstalled⟩ := hexec
  obtain rfl : installed = ∅ := hinstalled
  obtain ⟨hmirrors, -⟩ := h _ _ _ d ∅ (run_of_exec hrun)
  obtain ⟨entry, hentry, -⟩ := (hmirrors.slots .wildcarded 0 (by decide)).mp
    (by rw [hslot]; exact Option.some_ne_none 0)
  exact absurd hentry (Finset.notMem_empty entry)

end Device

end Xdpd.Netfpga
