import Mathlib.Algebra.Group.Nat.Defs
import Mathlib.Data.Nat.Notation
import Mathlib.Logic.Function.Basic
import Xdpd.Netfpga.FlowEntry

/-!
# The registers of the NetFPGA

An entry is put into a row of one of the two tables of the card by writing registers: the address
of the row, the words of the entry, and at last the order to load them.  Any of the writes can
fail, and no register is written after that one.  So a row is either loaded as a whole or left as it
was.
-/

namespace Xdpd.Netfpga

/-- The registers, from `NETFPGA_OF_BASE_ADDR` on. -/
def NETFPGA_OF_BASE_ADDR_REG : ℕ := 0x1e
def NETFPGA_OF_WRITE_ORDER_REG : ℕ := 0x1f
def NETFPGA_OF_LOOKUP_CMP_BASE_REG : ℕ := 0x22
def NETFPGA_OF_LOOKUP_CMP_MASK_BASE_REG : ℕ := 0x2a
def NETFPGA_OF_LOOKUP_ACTION_BASE_REG : ℕ := 0x32
def NETFPGA_OF_STATS_BASE_REG : ℕ := 0x3c

/-- The words of a row. -/
structure Row where
  cmp : List (BitVec 32)
  mask : List (BitVec 32)
  action : List (BitVec 32)
  deriving DecidableEq, Repr

/-- The card: its registers, and the rows of its tables by address. -/
structure Hardware where
  regs : ℕ → BitVec 32
  rows : ℕ → Row

/-- The row that the lookup registers hold. -/
def Hardware.lookup (hw : Hardware) : Row where
  cmp := (List.range 8).map fun i => hw.regs (NETFPGA_OF_LOOKUP_CMP_BASE_REG + i)
  mask := (List.range 8).map fun i => hw.regs (NETFPGA_OF_LOOKUP_CMP_MASK_BASE_REG + i)
  action := (List.range 10).map fun i => hw.regs (NETFPGA_OF_LOOKUP_ACTION_BASE_REG + i)

/-- `netfpga_write_reg`.  The order to write loads the row at the address. -/
def Hardware.writeReg (hw : Hardware) (reg : ℕ) (value : BitVec 32) : Hardware :=
  if reg = NETFPGA_OF_WRITE_ORDER_REG then
    { regs := Function.update hw.regs reg value
      rows := Function.update hw.rows (hw.regs NETFPGA_OF_BASE_ADDR_REG).toNat hw.lookup }
  else { hw with regs := Function.update hw.regs reg value }

/-- One write after the other. -/
def Hardware.writeAll (hw : Hardware) (writes : List (ℕ × BitVec 32)) : Hardware :=
  writes.foldl (fun hw w => hw.writeReg w.1 w.2) hw

/-- The writes up to the one that fails, if there is one: whether all have been made. -/
def Hardware.write (hw : Hardware) (failing : Option ℕ) (writes : List (ℕ × BitVec 32)) :
    Bool × Hardware :=
  match failing with
  | some k =>
      if k < writes.length then (false, hw.writeAll (writes.take k)) else (true, hw.writeAll writes)
  | none => (true, hw.writeAll writes)

/-- `NETFPGA_EXACT_BASE` and `NETFPGA_WILDCARD_BASE` -/
def tableBase : EntryType → ℕ
  | .fixed => 0x0000
  | .wildcarded => 0x8000

/-- The address of the row of an entry. -/
def HwEntry.address (e : HwEntry) : ℕ := tableBase e.type + e.hwPos

/-- Words for consecutive registers. -/
def block (base n : ℕ) (words : ℕ → BitVec 32) : List (ℕ × BitVec 32) :=
  (List.range n).map fun i => (base + i, words i)

/-- The writes of the masks, which only wildcarded entries have. -/
def HwEntry.maskWrites (e : HwEntry) : List (ℕ × BitVec 32) :=
  match e.type with
  | .fixed => []
  | .wildcarded => block NETFPGA_OF_LOOKUP_CMP_MASK_BASE_REG 8 (word e.masks.bits)

/-- The writes of `netfpga_add_entry_hw` before the order. -/
def HwEntry.setup (e : HwEntry) : List (ℕ × BitVec 32) :=
  [(NETFPGA_OF_BASE_ADDR_REG, BitVec.ofNat 32 e.address)] ++
    block NETFPGA_OF_LOOKUP_CMP_BASE_REG 8 (word e.matchs.bits) ++ e.maskWrites ++
    block NETFPGA_OF_LOOKUP_ACTION_BASE_REG 10 (word e.actions.bits) ++
    block NETFPGA_OF_STATS_BASE_REG 2 (fun _ => 0)

/-- The writes of `netfpga_add_entry_hw`. -/
def HwEntry.writes (e : HwEntry) : List (ℕ × BitVec 32) :=
  e.setup ++ [(NETFPGA_OF_WRITE_ORDER_REG, 1)]

/-- `netfpga_add_entry_hw`. -/
def Hardware.addEntryHw (hw : Hardware) (failing : Option ℕ) (e : HwEntry) : Bool × Hardware :=
  hw.write failing e.writes

/-- `netfpga_delete_entry_hw`: an empty entry is put into the row. -/
def Hardware.deleteEntryHw (hw : Hardware) (failing : Option ℕ) (pos : ℕ) : Bool × Hardware :=
  hw.addEntryHw failing { initFlowEntry with hwPos := pos }

/-! ## What the writes do -/

/-- One of `n` writes fails. -/
def Fails (failing : Option ℕ) (n : ℕ) : Prop := ∃ k ∈ failing, k < n

instance (failing : Option ℕ) (n : ℕ) : Decidable (Fails failing n) :=
  match failing with
  | none => isFalse (by rintro ⟨k, hk, -⟩; exact absurd hk (by simp))
  | some k => decidable_of_iff (k < n) (by simp [Fails])

/-- How many registers are written to load an entry. -/
def numWrites : EntryType → ℕ
  | .fixed => 22
  | .wildcarded => 30

lemma length_writes (e : HwEntry) : e.writes.length = numWrites e.type := by
  cases htype : e.type <;>
    simp [HwEntry.writes, HwEntry.setup, HwEntry.maskWrites, block, numWrites, htype]

/-- The row has the words of an entry. -/
structure Row.Holds (row : Row) (e : HwEntry) : Prop where
  cmp : row.cmp = (List.range 8).map (word e.matchs.bits)
  mask : e.type = .wildcarded → row.mask = (List.range 8).map (word e.masks.bits)
  action : row.action = (List.range 10).map (word e.actions.bits)

/-- The row of an empty entry. -/
structure Row.Invalid (row : Row) : Prop where
  cmp : row.cmp = List.replicate 8 0
  action : row.action = List.replicate 10 0

section Hardware

variable {hw : Hardware} {writes : List (ℕ × BitVec 32)}

lemma Hardware.writeReg_regs (hw : Hardware) (reg : ℕ) (value : BitVec 32) :
    (hw.writeReg reg value).regs = Function.update hw.regs reg value := by
  rw [Hardware.writeReg]
  split <;> rfl

/-- Without an order the rows stay as they are. -/
lemma Hardware.writeAll_rows (h : ∀ w ∈ writes, w.1 ≠ NETFPGA_OF_WRITE_ORDER_REG) :
    (hw.writeAll writes).rows = hw.rows := by
  induction writes generalizing hw with
  | nil => rfl
  | cons w writes ih =>
      have hw' : (hw.writeReg w.1 w.2).rows = hw.rows := by
        rw [Hardware.writeReg, if_neg (h w List.mem_cons_self)]
      exact (ih fun w hw => h w (List.mem_cons_of_mem _ hw)).trans hw'

lemma Hardware.writeAll_append (hw : Hardware) (writes writes' : List (ℕ × BitVec 32)) :
    hw.writeAll (writes ++ writes') = (hw.writeAll writes).writeAll writes' :=
  List.foldl_append

lemma Hardware.writeAll_regs_of_ne {reg : ℕ} (h : ∀ w ∈ writes, w.1 ≠ reg) :
    (hw.writeAll writes).regs reg = hw.regs reg := by
  induction writes generalizing hw with
  | nil => rfl
  | cons w writes ih =>
      refine (ih fun w hw => h w (List.mem_cons_of_mem _ hw)).trans ?_
      rw [Hardware.writeReg_regs, Function.update_of_ne (h w List.mem_cons_self).symm]

lemma mem_block {base n : ℕ} {words : ℕ → BitVec 32} {w : ℕ × BitVec 32} :
    w ∈ block base n words ↔ ∃ i < n, (base + i, words i) = w := by
  simp [block]

/-- The registers of a block have its words afterwards. -/
lemma Hardware.writeAll_block {base n i : ℕ} {words : ℕ → BitVec 32} (hi : i < n) :
    (hw.writeAll (block base n words)).regs (base + i) = words i := by
  induction n with
  | zero => exact absurd hi (Nat.not_lt_zero i)
  | succ n ih =>
      have hsucc : block base (n + 1) words = block base n words ++ [(base + n, words n)] := by
        simp [block, List.range_succ]
      have hlast : (hw.writeAll (block base (n + 1) words)).regs =
          Function.update (hw.writeAll (block base n words)).regs (base + n) (words n) := by
        rw [hsucc, Hardware.writeAll_append]
        exact Hardware.writeReg_regs _ _ _
      rw [hlast]
      rcases Nat.lt_succ_iff_lt_or_eq.mp hi with h | rfl
      · rw [Function.update_of_ne (by omega), ih h]
      · rw [Function.update_self]

/-- A block that is not written over keeps its words. -/
lemma Hardware.writeAll_block_append {base n i : ℕ} {words : ℕ → BitVec 32}
    {before after : List (ℕ × BitVec 32)} (hi : i < n) (h : ∀ w ∈ after, w.1 ≠ base + i) :
    (hw.writeAll (before ++ block base n words ++ after)).regs (base + i) = words i := by
  rw [Hardware.writeAll_append, Hardware.writeAll_append, Hardware.writeAll_regs_of_ne h,
    Hardware.writeAll_block hi]

end Hardware

section Entry

variable {e : HwEntry} {hw : Hardware} {w : ℕ × BitVec 32} {failing : Option ℕ}

lemma le_of_mem_block {base n : ℕ} {words : ℕ → BitVec 32} (h : w ∈ block base n words) :
    base ≤ w.1 ∧ w.1 < base + n := by
  obtain ⟨i, hi, rfl⟩ := mem_block.mp h
  exact ⟨Nat.le_add_right _ _, by simpa using hi⟩

lemma le_of_mem_maskWrites (h : w ∈ e.maskWrites) :
    NETFPGA_OF_LOOKUP_CMP_MASK_BASE_REG ≤ w.1 ∧ w.1 < NETFPGA_OF_LOOKUP_ACTION_BASE_REG := by
  rw [HwEntry.maskWrites] at h
  split at h
  · exact absurd h List.not_mem_nil
  · exact le_of_mem_block h

/-- The words of the actions and the statistics come after those of the masks. -/
lemma le_of_mem_actionWrites
    (h : w ∈ block NETFPGA_OF_LOOKUP_ACTION_BASE_REG 10 (word e.actions.bits) ++
      block NETFPGA_OF_STATS_BASE_REG 2 (fun _ => 0)) :
    NETFPGA_OF_LOOKUP_ACTION_BASE_REG ≤ w.1 := by
  rcases List.mem_append.mp h with h | h
  · exact (le_of_mem_block h).1
  · exact Nat.le_trans (by decide) (le_of_mem_block h).1

lemma ne_order_of_mem_setup (h : w ∈ e.setup) : w.1 ≠ NETFPGA_OF_WRITE_ORDER_REG := by
  simp only [HwEntry.setup, List.append_assoc, List.mem_append, List.mem_singleton] at h
  dsimp only [NETFPGA_OF_WRITE_ORDER_REG]
  rcases h with rfl | h | h | h
  · simp [NETFPGA_OF_BASE_ADDR_REG]
  · have := (le_of_mem_block h).1
    simp only [NETFPGA_OF_LOOKUP_CMP_BASE_REG] at this
    omega
  · have := (le_of_mem_maskWrites h).1
    simp only [NETFPGA_OF_LOOKUP_CMP_MASK_BASE_REG] at this
    omega
  · have := le_of_mem_actionWrites (List.mem_append.mpr h)
    simp only [NETFPGA_OF_LOOKUP_ACTION_BASE_REG] at this
    omega

/-- The registers hold the words of the entry when the order comes. -/
lemma lookup_setup (hw : Hardware) (e : HwEntry) : (hw.writeAll e.setup).lookup.Holds e where
  cmp := by
    refine List.map_congr_left fun i hi => ?_
    have hi : i < 8 := List.mem_range.mp hi
    have hsetup : e.setup = [(NETFPGA_OF_BASE_ADDR_REG, BitVec.ofNat 32 e.address)] ++
        block NETFPGA_OF_LOOKUP_CMP_BASE_REG 8 (word e.matchs.bits) ++
        (e.maskWrites ++ (block NETFPGA_OF_LOOKUP_ACTION_BASE_REG 10 (word e.actions.bits) ++
          block NETFPGA_OF_STATS_BASE_REG 2 (fun _ => 0))) := by
      simp only [HwEntry.setup, List.append_assoc]
    rw [hsetup]
    refine Hardware.writeAll_block_append hi fun w hw => ?_
    dsimp only [NETFPGA_OF_LOOKUP_CMP_BASE_REG]
    rcases List.mem_append.mp hw with hw | hw
    · have := (le_of_mem_maskWrites hw).1
      simp only [NETFPGA_OF_LOOKUP_CMP_MASK_BASE_REG] at this
      omega
    · have := le_of_mem_actionWrites hw
      simp only [NETFPGA_OF_LOOKUP_ACTION_BASE_REG] at this
      omega
  mask htype := by
    refine List.map_congr_left fun i hi => ?_
    have hi : i < 8 := List.mem_range.mp hi
    have hmask : e.maskWrites =
        block NETFPGA_OF_LOOKUP_CMP_MASK_BASE_REG 8 (word e.masks.bits) := by
      rw [HwEntry.maskWrites, htype]
    rw [HwEntry.setup, List.append_assoc, hmask]
    refine Hardware.writeAll_block_append hi fun w hw => ?_
    have := le_of_mem_actionWrites hw
    simp only [NETFPGA_OF_LOOKUP_ACTION_BASE_REG, NETFPGA_OF_LOOKUP_CMP_MASK_BASE_REG] at this ⊢
    omega
  action := by
    refine List.map_congr_left fun i hi => ?_
    have hi : i < 10 := List.mem_range.mp hi
    refine Hardware.writeAll_block_append hi fun w hw => ?_
    have := (le_of_mem_block hw).1
    simp only [NETFPGA_OF_LOOKUP_ACTION_BASE_REG, NETFPGA_OF_STATS_BASE_REG] at this ⊢
    omega

/-- The address register has the address of the row when the order comes. -/
lemma address_setup (hw : Hardware) (haddress : e.address < 2 ^ 32) :
    ((hw.writeAll e.setup).regs NETFPGA_OF_BASE_ADDR_REG).toNat = e.address := by
  have hother : ∀ w ∈ block NETFPGA_OF_LOOKUP_CMP_BASE_REG 8 (word e.matchs.bits) ++
      (e.maskWrites ++ (block NETFPGA_OF_LOOKUP_ACTION_BASE_REG 10 (word e.actions.bits) ++
        block NETFPGA_OF_STATS_BASE_REG 2 (fun _ => 0))), w.1 ≠ NETFPGA_OF_BASE_ADDR_REG := by
    intro w hw
    dsimp only [NETFPGA_OF_BASE_ADDR_REG]
    rcases List.mem_append.mp hw with hw | hw
    · have := (le_of_mem_block hw).1
      simp only [NETFPGA_OF_LOOKUP_CMP_BASE_REG] at this
      omega
    rcases List.mem_append.mp hw with hw | hw
    · have := (le_of_mem_maskWrites hw).1
      simp only [NETFPGA_OF_LOOKUP_CMP_MASK_BASE_REG] at this
      omega
    · have := le_of_mem_actionWrites hw
      simp only [NETFPGA_OF_LOOKUP_ACTION_BASE_REG] at this
      omega
  rw [HwEntry.setup, List.append_assoc, List.append_assoc, List.append_assoc,
    Hardware.writeAll_append, Hardware.writeAll_regs_of_ne hother]
  have hfirst : hw.writeAll [(NETFPGA_OF_BASE_ADDR_REG, BitVec.ofNat 32 e.address)] =
      hw.writeReg NETFPGA_OF_BASE_ADDR_REG (BitVec.ofNat 32 e.address) := rfl
  rw [hfirst, Hardware.writeReg_regs, Function.update_self, BitVec.toNat_ofNat,
    Nat.mod_eq_of_lt haddress]

/-- When a write fails no row changes. -/
lemma addEntryHw_of_fails (hfails : Fails failing (numWrites e.type)) :
    (hw.addEntryHw failing e).1 = false ∧ (hw.addEntryHw failing e).2.rows = hw.rows := by
  obtain ⟨k, rfl, hk⟩ := hfails
  rw [← length_writes] at hk
  have hadd : hw.addEntryHw (some k) e = (false, hw.writeAll (e.writes.take k)) := if_pos hk
  rw [hadd]
  refine ⟨rfl, Hardware.writeAll_rows fun w hw => ne_order_of_mem_setup (e := e) ?_⟩
  -- the order is the last write
  have hk' : k ≤ e.setup.length := by
    rw [HwEntry.writes, List.length_append, List.length_singleton] at hk
    exact Nat.lt_succ_iff.mp hk
  rw [HwEntry.writes, List.take_append_of_le_length hk'] at hw
  exact List.mem_of_mem_take hw

/-- When no write fails the row of the entry is loaded, and no other one. -/
lemma addEntryHw_of_not_fails (hfails : ¬ Fails failing (numWrites e.type))
    (haddress : e.address < 2 ^ 32) :
    (hw.addEntryHw failing e).1 = true ∧ ∃ row : Row, row.Holds e ∧
      (hw.addEntryHw failing e).2.rows = Function.update hw.rows e.address row := by
  have hall : hw.addEntryHw failing e = (true, hw.writeAll e.writes) := by
    cases failing with
    | none => rfl
    | some k => exact if_neg fun hk => hfails ⟨k, rfl, length_writes e ▸ hk⟩
  rw [hall]
  refine ⟨rfl, _, lookup_setup hw e, ?_⟩
  have horder : (hw.writeAll e.writes).rows = Function.update (hw.writeAll e.setup).rows
      ((hw.writeAll e.setup).regs NETFPGA_OF_BASE_ADDR_REG).toNat (hw.writeAll e.setup).lookup := by
    rw [HwEntry.writes, Hardware.writeAll_append]
    rfl
  dsimp only
  rw [horder, address_setup hw haddress,
    Hardware.writeAll_rows fun w hw => ne_order_of_mem_setup hw]

/-- An empty entry makes a row invalid. -/
lemma Row.Holds.invalid {row : Row} {pos : ℕ}
    (h : row.Holds { initFlowEntry with hwPos := pos }) : row.Invalid where
  cmp := h.cmp.trans (by change (List.range 8).map (word (Matches.fill 0).bits) = _; decide)
  action := h.action.trans (by change (List.range 10).map (word Actions.zero.bits) = _; decide)

lemma deleteEntryHw_of_fails {pos : ℕ} (hfails : Fails failing (numWrites .fixed)) :
    (hw.deleteEntryHw failing pos).1 = false ∧ (hw.deleteEntryHw failing pos).2.rows = hw.rows :=
  addEntryHw_of_fails hfails

/-- A deletion makes the row of the position in the table of exact entries invalid, and leaves all
others. -/
lemma deleteEntryHw_of_not_fails {pos : ℕ} (hfails : ¬ Fails failing (numWrites .fixed))
    (hpos : pos < 2 ^ 32) :
    (hw.deleteEntryHw failing pos).1 = true ∧ ∃ row : Row, row.Invalid ∧
      (hw.deleteEntryHw failing pos).2.rows = Function.update hw.rows pos row := by
  have haddress : HwEntry.address { initFlowEntry with hwPos := pos } = pos := Nat.zero_add pos
  obtain ⟨hdone, row, hrow, hrows⟩ := addEntryHw_of_not_fails
    (e := { initFlowEntry with hwPos := pos }) hfails (by rw [haddress]; exact hpos)
  rw [haddress] at hrows
  exact ⟨hdone, row, hrow.invalid, hrows⟩

end Entry

end Xdpd.Netfpga
