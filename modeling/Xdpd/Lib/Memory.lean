import Mathlib.Tactic.Common

/-!
# Memories

A memory is a map from addresses.  A block of cells is copied into it from another memory or from
itself; in the second case all of the block is read before any of it is written.  Several writes are
made one after the other.  A list of cells is cut where the addresses are.
-/

namespace Xdpd.Lib

variable {α : Type*}

/-- The memory after the first `n` cells of `src` have been copied to the address `dst`. -/
def copyTo (dst n : ℕ) (src mem : ℕ → α) : ℕ → α :=
  fun a => if dst ≤ a ∧ a < dst + n then src (a - dst) else mem a

variable {dst n a : ℕ} {src mem : ℕ → α}

/-- A cell of the block. -/
lemma copyTo_add {i : ℕ} (hi : i < n) : copyTo dst n src mem (dst + i) = src i := by
  rw [copyTo, if_pos ⟨Nat.le_add_right dst i, Nat.add_lt_add_left hi dst⟩, Nat.add_sub_cancel_left]

lemma copyTo_of_lt (h : a < dst) : copyTo dst n src mem a = mem a :=
  if_neg fun hblock => absurd hblock.1 (Nat.not_le_of_lt h)

lemma copyTo_of_le (h : dst + n ≤ a) : copyTo dst n src mem a = mem a :=
  if_neg fun hblock => absurd hblock.2 (Nat.not_lt_of_le h)

/-- A cell is what it was in both memories, or one of the block. -/
lemma copyTo_congr {mem' : ℕ → α} (h : mem' a = mem a) :
    copyTo dst n src mem' a = copyTo dst n src mem a := by
  rw [copyTo, copyTo, h]

/-- What is copied over does not matter. -/
lemma copyTo_eq_copyTo {mem' : ℕ → α} (h : ∀ a, a < dst ∨ dst + n ≤ a → mem' a = mem a) :
    copyTo dst n src mem' = copyTo dst n src mem := by
  ext a
  by_cases hblock : dst ≤ a ∧ a < dst + n
  · rw [copyTo, copyTo, if_pos hblock, if_pos hblock]
  · have hout : a < dst ∨ dst + n ≤ a := by omega
    exact copyTo_congr (h a hout)

/-! ## Writes -/

/-- Writes, one after the other. -/
def writeAll (writes : List ((ℕ → α) → ℕ → α)) (mem : ℕ → α) : ℕ → α :=
  writes.foldl (fun mem write => write mem) mem

/-- A write changes no cells but those from `a` on that are before `b`. -/
def StaysIn (a b : ℕ) (write : (ℕ → α) → ℕ → α) : Prop :=
  ∀ mem i, i < a ∨ b ≤ i → write mem i = mem i

lemma StaysIn.writeAll {a b : ℕ} {writes : List ((ℕ → α) → ℕ → α)}
    (h : ∀ write ∈ writes, StaysIn a b write) : StaysIn a b (Lib.writeAll writes) := by
  induction writes with
  | nil => exact fun mem i _ => rfl
  | cons write writes ih =>
      intro mem i hi
      have hfirst := h write List.mem_cons_self mem i hi
      have hrest := ih (fun w hw => h w (List.mem_cons_of_mem write hw)) (write mem) i hi
      exact hrest.trans hfirst

/-- The first writes are made first. -/
lemma writeAll_append (before after : List ((ℕ → α) → ℕ → α)) (mem : ℕ → α) :
    writeAll (before ++ after) mem = writeAll after (writeAll before mem) :=
  List.foldl_append

/-- A write leaves the cells from `a` on that are before `b` as they are. -/
def Spares (a b : ℕ) (write : (ℕ → α) → ℕ → α) : Prop :=
  ∀ mem i, a ≤ i → i < b → write mem i = mem i

lemma StaysIn.spares {a b c d : ℕ} {write : (ℕ → α) → ℕ → α} (h : StaysIn a b write)
    (hapart : d ≤ a ∨ b ≤ c) : Spares c d write := by
  intro mem i hc hd
  have hout : i < a ∨ b ≤ i := hapart.imp (Nat.lt_of_lt_of_le hd) (Nat.le_trans · hc)
  exact h mem i hout

lemma Spares.writeAll {a b : ℕ} {writes : List ((ℕ → α) → ℕ → α)}
    (h : ∀ write ∈ writes, Spares a b write) : Spares a b (Lib.writeAll writes) := by
  induction writes with
  | nil => exact fun mem i _ _ => rfl
  | cons write writes ih =>
      intro mem i ha hb
      have hfirst := h write List.mem_cons_self mem i ha hb
      have hrest := ih (fun w hw => h w (List.mem_cons_of_mem write hw)) (write mem) i ha hb
      exact hrest.trans hfirst

/-- A write into the cells from `start` on that are before `stop`.  What becomes of a cell depends
on this cell only. -/
structure WriteBlock (α : Type*) where
  start : ℕ
  stop : ℕ
  write : (ℕ → α) → ℕ → α
  staysIn : StaysIn start stop write
  pointwise : ∀ mem mem' i, mem' i = mem i → write mem' i = write mem i

/-- The cells that are written are apart. -/
def WriteBlock.Apart (b b' : WriteBlock α) : Prop := b.stop ≤ b'.start ∨ b'.stop ≤ b.start

/-- The `n` cells from the address `start` on. -/
def cells (mem : ℕ → α) (start n : ℕ) : List α := (List.range n).map fun i => mem (start + i)

@[simp] lemma length_cells (mem : ℕ → α) (start n : ℕ) : (cells mem start n).length = n := by
  rw [cells, List.length_map, List.length_range]

lemma cells_congr {mem mem' : ℕ → α} {start start' n : ℕ}
    (h : ∀ i < n, mem' (start' + i) = mem (start + i)) :
    cells mem' start' n = cells mem start n :=
  List.map_congr_left fun i hi => h i (List.mem_range.mp hi)

lemma cells_add (mem : ℕ → α) (start n k : ℕ) :
    cells mem start (n + k) = cells mem start n ++ cells mem (start + n) k := by
  rw [cells, List.range_add, List.map_append, List.map_map, cells, cells]
  congr 1
  refine List.map_congr_left fun i _ => ?_
  rw [Nat.add_assoc]
  rfl

lemma take_cells {mem : ℕ → α} {start n k : ℕ} (h : k ≤ n) :
    (cells mem start n).take k = cells mem start k := by
  obtain ⟨rest, rfl⟩ := Nat.exists_eq_add_of_le h
  rw [cells_add, List.take_left' (length_cells mem start k)]

lemma drop_cells {mem : ℕ → α} {start n k : ℕ} (h : k ≤ n) :
    (cells mem start n).drop k = cells mem (start + k) (n - k) := by
  obtain ⟨rest, rfl⟩ := Nat.exists_eq_add_of_le h
  rw [cells_add, List.drop_left' (length_cells mem start k), Nat.add_sub_cancel_left]

end Xdpd.Lib
