import Mathlib.Data.Finset.Erase
import Mathlib.Data.Finset.Insert
import Xdpd.Netfpga.Registers

/-!
# The driver of the NetFPGA

The driver has a copy of the tables of the card that tells which rows are in use.  The hooks of the
pipeline add, delete and replace entries, and do not look at the results.
-/

namespace Xdpd.Netfpga

/-- `netfpga_device_t`, with the card, and the platform states of the entries of the pipeline. -/
structure Device where
  hardware : Hardware
  /-- `hw_exact_table` and `hw_wildcard_table`: the entry that has the slot -/
  table : EntryType → ℕ → Option ℕ
  /-- `num_of_exact_entries` and `num_of_wildcarded_entries` -/
  num : EntryType → BitVec 32
  platformState : ℕ → Option HwEntry

namespace Device

/-- The state after `netfpga_init`, whatever it has written to the card. -/
def init (hardware : Hardware) : Device where
  hardware := hardware
  table _ _ := none
  num _ := 0
  platformState _ := none

def setSlot (d : Device) (type : EntryType) (pos : ℕ) (slot : Option ℕ) : Device :=
  { d with table := Function.update d.table type (Function.update (d.table type) pos slot) }

/-- The position that `netfpga_set_hw_position_exact` chooses. -/
def positionExact (d : Device) (m : Matches) : ℕ :=
  if d.table .fixed (hashPosition NETFPGA_POLYNOMIAL1 m) = none then
    hashPosition NETFPGA_POLYNOMIAL1 m
  else hashPosition NETFPGA_POLYNOMIAL2 m

/-- The position that `netfpga_set_hw_position_wildcard` finds. -/
def positionWildcard (d : Device) : Option ℕ :=
  (List.range (tableSize .wildcarded)).find? fun i => d.table .wildcarded i = none

/-- `netfpga_generate_hw_flow_entry`: the entry gets a position, and the slot.  In a table of
wildcarded entries without a free slot it stays at position zero, and gets none. -/
def generateHwFlowEntry (d : Device) (entry : ℕ) (flow : FlowEntry) : Option (HwEntry × Device) :=
  match mapFlowEntry flow with
  | none => none
  | some hw =>
      match hw.type with
      | .wildcarded =>
          match d.positionWildcard with
          | some pos => some ({ hw with hwPos := pos }, d.setSlot .wildcarded pos (some entry))
          | none => some (hw, d)
      | .fixed =>
          let pos := d.positionExact hw.matchs
          some ({ hw with hwPos := pos }, d.setSlot .fixed pos (some entry))

/-- `netfpga_add_flow_entry`. -/
def addFlowEntry (d : Device) (entry : ℕ) (flow : FlowEntry) (failing : Option ℕ) :
    Bool × Device :=
  match d.generateHwFlowEntry entry flow with
  | none => (false, d)
  | some (hw, d) =>
      let d := { d with platformState := Function.update d.platformState entry (some hw) }
      match d.hardware.addEntryHw failing hw with
      | (false, hardware) => (false, { d with hardware := hardware }.setSlot hw.type hw.hwPos none)
      | (true, hardware) =>
          (true, { d with
            hardware := hardware
            num := Function.update d.num hw.type (d.num hw.type + 1) })

/-- `netfpga_delete_flow_entry`. -/
def deleteFlowEntry (d : Device) (entry : ℕ) (failing : Option ℕ) : Bool × Device :=
  match d.platformState entry with
  | none => (false, d)
  | some hw =>
      match d.hardware.deleteEntryHw failing hw.hwPos with
      | (false, hardware) => (false, { d with hardware := hardware })
      | (true, hardware) =>
          (true, { d with
            hardware := hardware
            num := Function.update d.num hw.type (d.num hw.type - 1)
            platformState := Function.update d.platformState entry none })

end Device

/-! ## The hooks -/

/-- A call of a hook, with the writes that fail. -/
inductive Hook
  | add (entry : ℕ) (failing : Option ℕ)
  | modify (old mod : ℕ) (failingDelete failingAdd : Option ℕ)
  | remove (entry : ℕ) (failing : Option ℕ)
  deriving DecidableEq, Repr

/-- `plaftorm_of1x_add_entry_hook`, `platform_of1x_modify_entry_hook` and
`platform_of1x_remove_entry_hook`.  An entry that is added is a new one, without a platform
state. -/
def Device.step (flow : ℕ → FlowEntry) (d : Device) : Hook → Option Device
  | .add entry failing =>
      if d.platformState entry = none then some (d.addFlowEntry entry (flow entry) failing).2
      else none
  | .modify old mod failingDelete failingAdd =>
      if d.platformState mod = none then
        some ((d.deleteFlowEntry old failingDelete).2.addFlowEntry mod (flow mod) failingAdd).2
      else none
  | .remove entry failing => some (d.deleteFlowEntry entry failing).2

/-- The entries that have been added, and not deleted again, with success. -/
def Device.record (flow : ℕ → FlowEntry) (d : Device) : Hook → Finset ℕ → Finset ℕ
  | .add entry failing, installed =>
      if (d.addFlowEntry entry (flow entry) failing).1 then insert entry installed else installed
  | .modify old mod failingDelete failingAdd, installed =>
      let rest := if (d.deleteFlowEntry old failingDelete).1 then installed.erase old else installed
      if ((d.deleteFlowEntry old failingDelete).2.addFlowEntry mod (flow mod) failingAdd).1 then
        insert mod rest
      else rest
  | .remove entry failing, installed =>
      if (d.deleteFlowEntry entry failing).1 then installed.erase entry else installed

end Xdpd.Netfpga
