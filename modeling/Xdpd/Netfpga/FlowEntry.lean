import Mathlib.Tactic.Common

/-!
# Flow entries of the NetFPGA

`netfpga_generate_hw_flow_entry` translates an entry of the pipeline into one of the hardware.  An
entry that matches on all twelve fields exactly goes into the table of exact entries, under a hash
of its matches, and any other one into the table of wildcarded entries.

Matches and actions of an entry of the pipeline are given by what the getters of the pipeline
library return for them.
-/

namespace Xdpd.Netfpga

/-! ## Entries of the hardware -/

/-- `netfpga_flow_entry_matches_t` -/
structure Matches where
  transpDst : BitVec 16
  transpSrc : BitVec 16
  ipProto : BitVec 8
  ipDst : BitVec 32
  ipSrc : BitVec 32
  ethType : BitVec 16
  ethDst : BitVec 48
  ethSrc : BitVec 48
  srcPort : BitVec 8
  ipTos : BitVec 8
  vlanId : BitVec 16
  pad : BitVec 8
  deriving DecidableEq, Repr

/-- The packed structure: the first field has the lowest bits. -/
def Matches.bits (m : Matches) : BitVec 256 :=
  m.pad ++ m.vlanId ++ m.ipTos ++ m.srcPort ++ m.ethSrc ++ m.ethDst ++ m.ethType ++ m.ipSrc ++
    m.ipDst ++ m.ipProto ++ m.transpSrc ++ m.transpDst

/-- Matches and masks with all bytes the same. -/
def Matches.fill (b : BitVec 8) : Matches where
  transpDst := b ++ b
  transpSrc := b ++ b
  ipProto := b
  ipDst := b ++ b ++ b ++ b
  ipSrc := b ++ b ++ b ++ b
  ethType := b ++ b
  ethDst := b ++ b ++ b ++ b ++ b ++ b
  ethSrc := b ++ b ++ b ++ b ++ b ++ b
  srcPort := b
  ipTos := b
  vlanId := b ++ b
  pad := b

/-- `netfpga_flow_entry_actions_t` -/
structure Actions where
  forwardBitmask : BitVec 16
  actionFlags : BitVec 16
  vlanId : BitVec 16
  vlanPcp : BitVec 8
  ethSrc : BitVec 48
  ethDst : BitVec 48
  ipSrc : BitVec 32
  ipDst : BitVec 32
  ipTos : BitVec 8
  transpSrc : BitVec 16
  transpDst : BitVec 16
  reserved : BitVec 64
  deriving DecidableEq, Repr

def Actions.bits (a : Actions) : BitVec 320 :=
  a.reserved ++ a.transpDst ++ a.transpSrc ++ a.ipTos ++ a.ipDst ++ a.ipSrc ++ a.ethDst ++
    a.ethSrc ++ a.vlanPcp ++ a.vlanId ++ a.actionFlags ++ a.forwardBitmask

/-- No actions. -/
def Actions.zero : Actions := ⟨0, 0, 0, 0, 0, 0, 0, 0, 0, 0, 0, 0⟩

/-- A word of 32 bits of a structure. -/
def word {w : ℕ} (bits : BitVec w) (i : ℕ) : BitVec 32 := bits.extractLsb' (32 * i) 32

/-- `netfpga_flow_entry_type_t` -/
inductive EntryType
  | fixed
  | wildcarded
  deriving DecidableEq, Repr

/-- `netfpga_flow_entry_t` -/
structure HwEntry where
  hwPos : ℕ
  type : EntryType
  matchs : Matches
  masks : Matches
  actions : Actions
  deriving DecidableEq, Repr

/-- `netfpga_init_flow_entry` -/
def initFlowEntry : HwEntry := ⟨0, .fixed, .fill 0, .fill 0, .zero⟩

/-! ## Entries of the pipeline -/

/-- The types of match that the driver maps. -/
inductive MatchType
  | inPort | ethDst | ethSrc | ethType | vlanPcp | vlanVid | ipDscp | nwProto | nwSrc | nwDst
  | tpSrc | tpDst
  | other
  deriving DecidableEq, Repr

/-- A match of an entry, with what the library gives for it. -/
structure Match where
  type : MatchType
  value8 : BitVec 8 := 0
  value16 : BitVec 16 := 0
  value32 : BitVec 32 := 0
  mask32 : BitVec 32 := 0
  mask64 : BitVec 64 := 0
  /-- `__tern->value.u64` -/
  ternValue : BitVec 64 := 0
  /-- `__tern->mask.u64` -/
  ternMask : BitVec 64 := 0
  deriving DecidableEq, Repr

/-- The types of action that the driver maps. -/
inductive ActionType
  | setEthDst | setEthSrc | setVlanVid | setVlanPcp | setIpDscp | setNwSrc | setNwDst | setTpSrc
  | setTpDst | output
  | other
  deriving DecidableEq, Repr

/-- An action, with what the library gives for it. -/
structure Action where
  type : ActionType
  field8 : BitVec 8 := 0
  field16 : BitVec 16 := 0
  field32 : BitVec 32 := 0
  /-- `__field.u64` -/
  field64 : BitVec 64 := 0
  deriving DecidableEq, Repr

/-- `of1x_flow_entry_t`, as far as the driver maps it: the apply-actions are absent or a list. -/
structure FlowEntry where
  matchs : List Match
  applyActions : Option (List Action)
  deriving DecidableEq, Repr

/-! ## The translation -/

/-- `0x1 << n` with a 32-bit integer: the shift takes the low five bits of `n`. -/
def shiftOne (n : BitVec 32) : BitVec 32 := 1 <<< (n.toNat % 32)

/-- `NETFPGA_PORT_BASE` -/
def NETFPGA_PORT_BASE : BitVec 32 := 1

/-- What the loop over the matches has so far. -/
structure Mapped where
  matchs : Matches
  masks : Matches
  numOfMatches : ℕ

/-- One turn of the loop of `netfpga_flow_entry_map_matches`. -/
def Mapped.step (e : Mapped) (m : Match) : Mapped :=
  match m.type with
  | .inPort =>
      { matchs := { e.matchs with
          srcPort := (shiftOne ((m.value32 - NETFPGA_PORT_BASE) * 2)).setWidth 8 }
        masks := { e.masks with srcPort := 0 }
        numOfMatches := e.numOfMatches + 1 }
  | .ethDst =>
      { matchs := { e.matchs with ethDst := m.ternValue.setWidth 48 }
        masks := { e.masks with ethDst := m.ternMask.setWidth 48 }
        numOfMatches := if m.mask64 = 0x00FFFFFF then e.numOfMatches + 1 else e.numOfMatches }
  | .ethSrc =>
      { matchs := { e.matchs with ethSrc := m.ternValue.setWidth 48 }
        masks := { e.masks with ethSrc := m.ternMask.setWidth 48 }
        numOfMatches := if m.mask64 = 0x00FFFFFF then e.numOfMatches + 1 else e.numOfMatches }
  | .ethType =>
      { e with
        matchs := { e.matchs with ethType := m.value16 }
        numOfMatches := e.numOfMatches + 1 }
  | .vlanPcp =>
      { matchs := { e.matchs with vlanId := (m.value8.setWidth 16 <<< 13) &&& 0xE000 }
        masks := { e.masks with vlanId := e.masks.vlanId ||| 0xE000 }
        numOfMatches := e.numOfMatches + 1 }
  | .vlanVid =>
      { matchs := { e.matchs with vlanId := m.value16 }
        masks := { e.masks with vlanId := e.masks.vlanId ||| 0x0FFF }
        numOfMatches := e.numOfMatches + 1 }
  | .ipDscp =>
      { matchs := { e.matchs with ipTos := m.value8 }
        masks := { e.masks with ipTos := e.masks.ipTos ||| 0xFC }
        numOfMatches := e.numOfMatches + 1 }
  | .nwProto =>
      { matchs := { e.matchs with ipProto := m.value8 }
        masks := { e.masks with ipProto := 0xFF }
        numOfMatches := e.numOfMatches + 1 }
  | .nwSrc =>
      let wildcarded := m.mask32 ≠ 0xFFFF ∧ m.mask32 ≠ 0
      { matchs := { e.matchs with ipSrc := m.value32 }
        masks := { e.masks with ipSrc := if wildcarded then m.mask32 else 0 }
        numOfMatches := if wildcarded then e.numOfMatches else e.numOfMatches + 1 }
  | .nwDst =>
      let wildcarded := m.mask32 ≠ 0xFFFF ∧ m.mask32 ≠ 0
      { matchs := { e.matchs with ipDst := m.value32 }
        masks := { e.masks with ipDst := if wildcarded then m.mask32 else 0 }
        numOfMatches := if wildcarded then e.numOfMatches else e.numOfMatches + 1 }
  | .tpSrc =>
      { matchs := { e.matchs with transpSrc := m.value16 }
        masks := { e.masks with transpSrc := 0xFFFF }
        numOfMatches := e.numOfMatches + 1 }
  | .tpDst =>
      { matchs := { e.matchs with transpDst := m.value16 }
        masks := { e.masks with transpDst := 0xFFFF }
        numOfMatches := e.numOfMatches + 1 }
  | .other => e

/-- `MAX_NUM_OF_MATCHES` -/
def MAX_NUM_OF_MATCHES : ℕ := 12

/-- `netfpga_flow_entry_map_matches`. -/
def mapMatches (hw : HwEntry) (matchs : List Match) : HwEntry :=
  let e := matchs.foldl Mapped.step ⟨hw.matchs, .fill 0xFF, 0⟩
  { hw with
    matchs := e.matchs
    masks := e.masks
    type := if e.numOfMatches = MAX_NUM_OF_MATCHES then .fixed else .wildcarded }

/-- The flag of an action, by its number in `netfpga_action_type`. -/
def actionFlag (i : ℕ) : BitVec 16 := 1 <<< i

/-- The bits of the ports that a packet is sent to. -/
def forwardTo (srcPort : BitVec 8) (port : BitVec 16) : BitVec 16 :=
  if 1 ≤ port ∧ port ≤ 4 then
    (shiftOne ((port.setWidth 32 - NETFPGA_PORT_BASE) * 2)).setWidth 16
  else if port = 0xfff8 then srcPort.setWidth 16
  else if port = 0xfffc ∨ port = 0xfffd then
    [0, 2, 4, 6].foldl (fun mask i =>
      if srcPort.setWidth 16 ≠ actionFlag i then mask ||| actionFlag i else mask) 0
  else 0

/-- One turn of the loop of `netfpga_flow_entry_map_actions`. -/
def Actions.step (srcPort : BitVec 8) (a : Actions) (action : Action) : Actions :=
  match action.type with
  | .setEthDst =>
      { a with
        ethDst := action.field64.setWidth 48
        actionFlags := a.actionFlags ||| actionFlag 5 }
  | .setEthSrc =>
      { a with
        ethSrc := action.field64.setWidth 48
        actionFlags := a.actionFlags ||| actionFlag 4 }
  | .setVlanVid =>
      { a with vlanId := action.field16, actionFlags := a.actionFlags ||| actionFlag 1 }
  | .setVlanPcp =>
      { a with
        vlanId := a.vlanId ||| ((action.field8.setWidth 16 <<< 13) &&& 0xE000)
        actionFlags := a.actionFlags ||| actionFlag 2 }
  | .setIpDscp =>
      { a with
        ipTos := (action.field8 <<< 2) &&& 0xFC
        actionFlags := a.actionFlags ||| actionFlag 8 }
  -- the flags of these two are those of the transport ports
  | .setNwSrc => { a with ipSrc := action.field32, actionFlags := a.actionFlags ||| actionFlag 9 }
  | .setNwDst => { a with ipDst := action.field32, actionFlags := a.actionFlags ||| actionFlag 10 }
  | .setTpSrc =>
      { a with transpSrc := action.field16, actionFlags := a.actionFlags ||| actionFlag 9 }
  | .setTpDst =>
      { a with transpDst := action.field16, actionFlags := a.actionFlags ||| actionFlag 10 }
  | .output =>
      { a with
        actionFlags := 0
        forwardBitmask := forwardTo srcPort (action.field32.setWidth 16) }
  | .other => a

/-- `netfpga_flow_entry_map_actions`, which fails for an empty list. -/
def mapActions (hw : HwEntry) : Option (List Action) → Option HwEntry
  | none => some hw
  | some [] => none
  | some actions =>
      some { hw with actions := actions.foldl (Actions.step hw.matchs.srcPort) hw.actions }

/-- The translation, before the entry is given a position. -/
def mapFlowEntry (entry : FlowEntry) : Option HwEntry :=
  mapActions (mapMatches initFlowEntry entry.matchs) entry.applyActions

/-! ## The hash -/

/-- `NETFPGA_POLYNOMIAL1` and `NETFPGA_POLYNOMIAL2` -/
def NETFPGA_POLYNOMIAL1 : BitVec 32 := 0x04C11DB7
def NETFPGA_POLYNOMIAL2 : BitVec 32 := 0x1EDC6F41

/-- The inner loop of `crc32_init`, with `n` bits to go. -/
def crc32Shift (polynomial : BitVec 32) : ℕ → BitVec 32 → BitVec 32
  | 0, reg => reg
  | n + 1, reg =>
      crc32Shift polynomial n (if reg.msb then (reg <<< 1) ^^^ polynomial else reg <<< 1)

/-- An entry of the table that `crc32_init` makes. -/
def crc32Table (polynomial : BitVec 32) (i : BitVec 8) : BitVec 32 :=
  crc32Shift polynomial 8 (i.setWidth 32 <<< 24)

/-- `crc32_calculate`. -/
def crc32Calculate (polynomial : BitVec 32) (data : List (BitVec 8)) : BitVec 32 :=
  data.foldl (fun result b =>
    (result <<< 8) ^^^ crc32Table polynomial ((result >>> 24).setWidth 8 ^^^ b)) 0

/-- `NETFPGA_OPENFLOW_EXACT_TABLE_SIZE` and `NETFPGA_OPENFLOW_WILDCARD_TABLE_SIZE` -/
def tableSize : EntryType → ℕ
  | .fixed => 1024
  | .wildcarded => 32 - 8

/-- The position in the table of exact entries. -/
def hashPosition (polynomial : BitVec 32) (m : Matches) : ℕ :=
  (0x3FF &&& crc32Calculate polynomial
    ((List.range 32).map fun i => m.bits.extractLsb' (8 * i) 8)).toNat

lemma hashPosition_lt (polynomial : BitVec 32) (m : Matches) :
    hashPosition polynomial m < tableSize .fixed := by
  rw [hashPosition, BitVec.toNat_and]
  exact Nat.lt_succ_of_le Nat.and_le_left

end Xdpd.Netfpga
