import Mathlib.Data.List.ReduceOption
import Mathlib.Data.Fintype.Card
import Mathlib.Data.List.Perm.Basic
import Xdpd.OpenFlow.Of13Actions
import Xdpd.OpenFlow.Of13Matches

/-!
# Translation of OpenFlow 1.3 flow entries and group buckets

`of13_map_flow_entry` builds a flow entry of the pipeline from a flow-mod.  It copies the
instructions one by one; `of13_map_reverse_flow_entry_instructions` gives them back for flow-stats
replies in a loop over the instruction group of the entry.  `of13_map_bucket_list` and
`of13_map_reverse_bucket_list` do the same for the buckets of a group.

The first of the two has no case for the meter instruction, and the second none for that of an
experimenter.  All others are given back: `of13Instructions_back`.
-/

namespace Xdpd.OpenFlow.Of13

open Xdpd.Lib

/-! ## Messages -/

/-- The instructions of a flow-mod, as `cofinstructions` holds them: at most one of each type. -/
@[ext] structure CofInstructions where
  applyActions : Option (List CofAction)
  clearActions : Bool
  writeActions : Option (List CofAction)
  /-- the metadata and its mask -/
  writeMetadata : Option (BitVec 64 × BitVec 64)
  gotoTable : Option (BitVec 8)
  meter : Option (BitVec 32)
  /-- the experimenter and the body -/
  experimenter : Option (BitVec 32 × List Byte)
  deriving DecidableEq

/-- No instructions. -/
def CofInstructions.empty : CofInstructions where
  applyActions := none
  clearActions := false
  writeActions := none
  writeMetadata := none
  gotoTable := none
  meter := none
  experimenter := none

/-- What `of13_map_flow_entry` reads of a flow-mod. -/
structure FlowMod where
  flags : BitVec 16
  priority : BitVec 16
  cookie : BitVec 64
  cookieMask : BitVec 64
  idleTimeout : BitVec 16
  hardTimeout : BitVec 16
  ofmatch : OfMatch
  instructions : CofInstructions

/-- `OFPFF_SEND_FLOW_REM`. -/
def ofpffSendFlowRem : BitVec 16 := 1

/-- A bucket of a group. -/
structure CofBucket where
  weight : BitVec 16
  watchPort : BitVec 32
  watchGroup : BitVec 32
  actions : List CofAction
  deriving DecidableEq

/-- `cofbuckets`: a `std::map` from numbers to buckets, in the order of the numbers. -/
structure CofBuckets where
  buckets : List (BitVec 32 × CofBucket)
  sorted : buckets.Pairwise fun b b' => b.1 < b'.1

namespace CofBuckets

/-- No buckets. -/
def empty : CofBuckets := ⟨[], .nil⟩

/-- The buckets in their order. -/
def values (bs : CofBuckets) : List CofBucket := bs.buckets.map Prod.snd

/-- An entry of a `std::map` is set: it replaces the one with its key, or takes its place. -/
def setEntry (id : BitVec 32) (bucket : CofBucket) :
    List (BitVec 32 × CofBucket) → List (BitVec 32 × CofBucket)
  | [] => [(id, bucket)]
  | b :: bs =>
      if id < b.1 then (id, bucket) :: b :: bs
      else if id = b.1 then (id, bucket) :: bs
      else b :: setEntry id bucket bs

lemma mem_setEntry {id : BitVec 32} {bucket : CofBucket} {bs : List (BitVec 32 × CofBucket)}
    {b : BitVec 32 × CofBucket} (h : b ∈ setEntry id bucket bs) : b = (id, bucket) ∨ b ∈ bs := by
  induction bs with
  | nil => exact .inl (List.mem_singleton.1 h)
  | cons b' bs ih =>
      rw [setEntry] at h
      split_ifs at h with hlt heq
      · exact List.mem_cons.1 h
      · rcases List.mem_cons.1 h with h | h
        · exact .inl h
        · exact .inr (List.mem_cons_of_mem _ h)
      · rcases List.mem_cons.1 h with rfl | h
        · exact .inr List.mem_cons_self
        · exact (ih h).imp_right (List.mem_cons_of_mem _)

lemma sorted_setEntry (id : BitVec 32) (bucket : CofBucket) {bs : List (BitVec 32 × CofBucket)}
    (h : bs.Pairwise fun b b' => b.1 < b'.1) :
    (setEntry id bucket bs).Pairwise fun b b' => b.1 < b'.1 := by
  induction bs with
  | nil => exact List.pairwise_singleton _ _
  | cons b bs ih =>
      obtain ⟨hfirst, hrest⟩ := List.pairwise_cons.1 h
      rw [setEntry]
      split_ifs with hlt heq
      · refine List.pairwise_cons.2 ⟨fun b' hb' => ?_, h⟩
        rcases List.mem_cons.1 hb' with rfl | hb'
        · exact hlt
        · exact BitVec.lt_trans hlt (hfirst b' hb')
      · refine List.pairwise_cons.2 ⟨fun b' hb' => ?_, hrest⟩
        exact heq ▸ hfirst b' hb'
      · refine List.pairwise_cons.2 ⟨fun b' hb' => ?_, ih hrest⟩
        rcases mem_setEntry hb' with rfl | hb'
        · exact BitVec.lt_of_le_ne (BitVec.not_lt.1 hlt) (Ne.symm heq)
        · exact hfirst b' hb'

/-- `set_bucket(id) = bucket`. -/
def setBucket (bs : CofBuckets) (id : BitVec 32) (bucket : CofBucket) : CofBuckets :=
  ⟨setEntry id bucket bs.buckets, sorted_setEntry id bucket bs.sorted⟩

/-- A bucket with a number above all others comes last. -/
lemma setEntry_append {id : BitVec 32} {bucket : CofBucket} {bs : List (BitVec 32 × CofBucket)}
    (h : ∀ b ∈ bs, b.1 < id) : setEntry id bucket bs = bs ++ [(id, bucket)] := by
  induction bs with
  | nil => rfl
  | cons b bs ih =>
      have hlt : b.1 < id := h b List.mem_cons_self
      rw [setEntry, if_neg (BitVec.lt_asymm hlt), if_neg (Ne.symm (BitVec.ne_of_lt hlt)),
        ih fun b' hb' => h b' (List.mem_cons_of_mem _ hb'), List.cons_append]

end CofBuckets

/-! ## The pipeline -/

/-- `of1x_instruction_type_t`. -/
inductive InstructionType
  | noInstruction | applyActions | clearActions | writeActions | writeMetadata | experimenter
  | meter | gotoTable
  deriving DecidableEq, Repr

/-- An instruction of a group of instructions of the pipeline, with actions `G` to apply and `W` to
write. -/
inductive Instruction (G W : Type*)
  /-- the slot of a type that the group does not have -/
  | noInstruction
  | applyActions (apply_actions : G)
  | clearActions
  | writeActions (write_actions : W)
  | writeMetadata (metadata metadata_mask : BitVec 64)
  | experimenter
  | meter
  | gotoTable (go_to_table : BitVec 32)

/-- `inst->type`. -/
def Instruction.type {G W : Type*} : Instruction G W → InstructionType
  | .noInstruction => .noInstruction
  | .applyActions _ => .applyActions
  | .clearActions => .clearActions
  | .writeActions _ => .writeActions
  | .writeMetadata _ _ => .writeMetadata
  | .experimenter => .experimenter
  | .meter => .meter
  | .gotoTable _ => .gotoTable

/-- What the translation uses of the groups `G` and sets `W` of actions `A`, of the groups `IG` of
instructions and of the buckets `B` and lists of buckets `BL` of the pipeline. -/
structure EntryApi (A G W IG B BL : Type*) where
  /-- `of1x_init_action_group`, and `of1x_push_packet_action_to_group` for each action -/
  actionGroup : List (Option A) → G
  /-- the chain of actions from `head` on -/
  groupActions : G → List A
  /-- `of1x_init_write_actions`, and `of1x_set_packet_action_on_write_actions` for each action -/
  writeActions : List (Option A) → W
  /-- the array `actions` -/
  writtenActions : W → List A
  instructionGroup : IG
  addInstructionToGroup : IG → Instruction G W → IG
  /-- the array `instructions` -/
  instructions : IG → List (Instruction G W)
  initBucket : BitVec 16 → BitVec 32 → BitVec 32 → G → B
  weight : B → BitVec 16
  port : B → BitVec 32
  group : B → BitVec 32
  actions : B → G
  initBucketList : BL
  insertBucketInList : BL → B → BL
  /-- the chain of `of1x_stats_bucket_desc_msg_t` for the list -/
  bucketDescs : BL → List B

/-- The pipeline keeps instructions and buckets as they are given to it: of instructions of
different types, which stand in some order among empty slots, and of buckets, in the order in which
they are inserted. -/
structure EntryApi.StoresAsGiven {A G W IG B BL : Type*} (api : EntryApi A G W IG B BL) : Prop where
  instructions_add : ∀ l : List (Instruction G W),
    (l.map Instruction.type).Nodup → (∀ i ∈ l, i.type ≠ .noInstruction) →
    ((api.instructions (l.foldl api.addInstructionToGroup api.instructionGroup)).filter
      (·.type ≠ .noInstruction)).Perm l
  weight_init : ∀ w p g as, api.weight (api.initBucket w p g as) = w
  port_init : ∀ w p g as, api.port (api.initBucket w p g as) = p
  group_init : ∀ w p g as, api.group (api.initBucket w p g as) = g
  actions_init : ∀ w p g as, api.actions (api.initBucket w p g as) = as
  bucketDescs_insert : ∀ l : List B,
    api.bucketDescs (l.foldl api.insertBucketInList api.initBucketList) = l

variable {A G W IG B BL M : Type*}
variable (pkt : PacketActionApi A) (mapi : MatchApi M) (api : EntryApi A G W IG B BL)
variable (experimental : Bool)

/-! ## From OpenFlow to the pipeline -/

/-- A flow entry of the pipeline. -/
structure FlowEntry (M IG : Type*) where
  notifyRemoval : Bool
  priority : BitVec 16
  cookie : BitVec 64
  cookieMask : BitVec 64
  flags : BitVec 16
  idleTimeout : BitVec 16
  hardTimeout : BitVec 16
  matchList : List M
  instGrp : IG

/-- The actions of a group to apply: `of13_map_flow_entry_actions` with an action group. -/
def mapApplyActions (actions : List CofAction) : G :=
  api.actionGroup (of13MapFlowEntryActions pkt experimental actions)

/-- The actions of a set to write: `of13_map_flow_entry_actions` with write actions. -/
def mapWriteActions (actions : List CofAction) : W :=
  api.writeActions (of13MapFlowEntryActions pkt experimental actions)

/-- The instructions that `of13_map_flow_entry` adds to the group of the entry, in its order. -/
def mapInstructions (inst : CofInstructions) : List (Instruction G W) :=
  (inst.applyActions.map fun as =>
      Instruction.applyActions (mapApplyActions pkt api experimental as)).toList ++
    (if inst.clearActions then [Instruction.clearActions] else []) ++
    (inst.experimenter.map fun _ => Instruction.experimenter).toList ++
    (inst.gotoTable.map fun table_id => Instruction.gotoTable (table_id.setWidth 32)).toList ++
    (inst.writeActions.map fun as =>
      Instruction.writeActions (mapWriteActions pkt api experimental as)).toList ++
    (inst.writeMetadata.map fun m => Instruction.writeMetadata m.1 m.2).toList

/-- The exceptions of `of13_map_flow_entry`. -/
inductive FlowModError
  | eFlowModUnknown
  deriving DecidableEq, Repr

/-- `of13_map_flow_entry`; `entry` tells whether `of1x_init_flow_entry` returned one. -/
def of13MapFlowEntry (entry : Bool) (msg : FlowMod) : Except FlowModError (FlowEntry M IG) :=
  if !entry then .error .eFlowModUnknown
  else
    .ok {
      notifyRemoval := msg.flags &&& ofpffSendFlowRem != 0
      priority := msg.priority
      cookie := msg.cookie
      cookieMask := msg.cookieMask
      flags := msg.flags
      idleTimeout := msg.idleTimeout
      hardTimeout := msg.hardTimeout
      matchList := of13MapFlowEntryMatches mapi experimental msg.ofmatch
      instGrp := (mapInstructions pkt api experimental msg.instructions).foldl
        api.addInstructionToGroup api.instructionGroup }

/-- `of13_map_bucket_list`. -/
def of13MapBucketList (of_buckets : CofBuckets) (bucket_list : BL) : BL :=
  of_buckets.buckets.foldl (fun bucket_list b =>
    api.insertBucketInList bucket_list
      (api.initBucket b.2.weight b.2.watchPort b.2.watchGroup
        (mapApplyActions pkt api experimental b.2.actions))) bucket_list

/-! ## From the pipeline to OpenFlow -/

/-- The loop over the actions of a group. -/
def reverseApplyActions (group : G) : Except ReverseError (List CofAction) :=
  of13MapReverseFlowEntryActions pkt experimental (api.groupActions group)

/-- The loop over the actions of a set. -/
def reverseWriteActions (write_actions : W) : Except ReverseError (List CofAction) :=
  of13MapReverseFlowEntryActions pkt experimental (api.writtenActions write_actions)

/-- The body of the loop of `of13_map_reverse_flow_entry_instructions`, with the function
`of13_map_reverse_flow_entry_instruction_*` of the type. -/
def reverseInstruction (instructions : CofInstructions) :
    Instruction G W → Except ReverseError CofInstructions
  | .noInstruction => .ok instructions
  | .applyActions apply_actions =>
      (reverseApplyActions pkt api experimental apply_actions).map fun as =>
        { instructions with applyActions := some as }
  | .clearActions => .ok { instructions with clearActions := true }
  | .writeActions write_actions =>
      (reverseWriteActions pkt api experimental write_actions).map fun as =>
        { instructions with writeActions := some as }
  | .writeMetadata metadata metadata_mask =>
      .ok { instructions with writeMetadata := some (metadata, metadata_mask) }
  -- the call for this type is commented out
  | .experimenter => .ok instructions
  | .gotoTable go_to_table =>
      .ok { instructions with gotoTable := some (go_to_table.setWidth 8) }
  -- the instruction does not carry the meter
  | .meter => .ok { instructions with meter := some 0 }

/-- `of13_map_reverse_flow_entry_instructions`. -/
def of13MapReverseFlowEntryInstructions (group : IG) : Except ReverseError CofInstructions :=
  (api.instructions group).foldlM (reverseInstruction pkt api experimental) .empty

/-- The loop of `of13_map_reverse_bucket_list`, from the bucket `bucket_id` on. -/
def reverseBuckets : List B → BitVec 32 → CofBuckets → Except ReverseError CofBuckets
  | [], _, of_buckets => .ok of_buckets
  | bu :: rest, bucket_id, of_buckets => do
      let actions ← reverseApplyActions pkt api experimental (api.actions bu)
      reverseBuckets rest (bucket_id + 1) (of_buckets.setBucket bucket_id
        { weight := api.weight bu, watchPort := api.port bu, watchGroup := api.group bu, actions })

/-- `of13_map_reverse_bucket_list`. -/
def of13MapReverseBucketList (bucket_list : BL) : Except ReverseError CofBuckets :=
  reverseBuckets pkt api experimental (api.bucketDescs bucket_list) 0 .empty

/-! ## What the translations give back -/

/-- The translation of the actions of a group round-trips on this list of actions. -/
def AppliedBack (actions : List CofAction) : Prop :=
  reverseApplyActions pkt api experimental (mapApplyActions pkt api experimental actions) =
    .ok actions

/-- The translation of the actions of a set round-trips on this list of actions. -/
def WrittenBack (actions : List CofAction) : Prop :=
  reverseWriteActions pkt api experimental (mapWriteActions pkt api experimental actions) =
    .ok actions

/-- The flow-mod is rejected, or its instructions are read back from the entry as they were. -/
def InstructionsFaithful (entry : Bool) (msg : FlowMod) : Prop :=
  ∀ e, of13MapFlowEntry pkt mapi api experimental entry msg = .ok e →
    of13MapReverseFlowEntryInstructions pkt api experimental e.instGrp = .ok msg.instructions

/-- The buckets are read back as they were, in their order. -/
def BucketsFaithful (of_buckets : CofBuckets) : Prop :=
  ∃ back, of13MapReverseBucketList pkt api experimental
      (of13MapBucketList pkt api experimental of_buckets api.initBucketList) = .ok back ∧
    back.values = of_buckets.values

section Back

variable {pkt mapi api experimental}

/-- What the loop over a group of instructions that was made from `inst` does with one of them. -/
def restore (inst acc : CofInstructions) : Instruction G W → CofInstructions
  | .noInstruction | .experimenter => acc
  | .applyActions _ => { acc with applyActions := inst.applyActions }
  | .clearActions => { acc with clearActions := inst.clearActions }
  | .writeActions _ => { acc with writeActions := inst.writeActions }
  | .writeMetadata _ _ => { acc with writeMetadata := inst.writeMetadata }
  | .meter => { acc with meter := some 0 }
  | .gotoTable _ => { acc with gotoTable := inst.gotoTable }

/-- The instructions are independent of each other. -/
lemma restore_comm (inst acc : CofInstructions) (i i' : Instruction G W) :
    restore inst (restore inst acc i) i' = restore inst (restore inst acc i') i := by
  cases i <;> cases i' <;> rfl

/-- The instructions that the entry has, and those that it is read back from. -/
lemma mem_mapInstructions {inst : CofInstructions} {i : Instruction G W}
    (hi : i ∈ mapInstructions pkt api experimental inst) :
    (∃ as, inst.applyActions = some as ∧
        i = .applyActions (mapApplyActions pkt api experimental as)) ∨
      inst.clearActions = true ∧ i = .clearActions ∨
      i = .experimenter ∨
      (∃ table_id, inst.gotoTable = some table_id ∧ i = .gotoTable (table_id.setWidth 32)) ∨
      (∃ as, inst.writeActions = some as ∧
        i = .writeActions (mapWriteActions pkt api experimental as)) ∨
      ∃ m, inst.writeMetadata = some m ∧ i = .writeMetadata m.1 m.2 := by
  simp only [mapInstructions, List.mem_append, Option.mem_toList, Option.map_eq_some_iff] at hi
  rcases hi with ((((⟨as, h, rfl⟩ | hclear) | ⟨_, -, rfl⟩) | ⟨t, h, rfl⟩) | ⟨as, h, rfl⟩) |
    ⟨m, h, rfl⟩
  · exact .inl ⟨as, h, rfl⟩
  · split_ifs at hclear with h
    · exact .inr (.inl ⟨h, List.mem_singleton.1 hclear⟩)
    · exact absurd hclear List.not_mem_nil
  · exact .inr (.inr (.inl rfl))
  · exact .inr (.inr (.inr (.inl ⟨t, h, rfl⟩)))
  · exact .inr (.inr (.inr (.inr (.inl ⟨as, h, rfl⟩))))
  · exact .inr (.inr (.inr (.inr (.inr ⟨m, h, rfl⟩))))

lemma reverseInstruction_eq {inst : CofInstructions} {i : Instruction G W}
    (happly : ∀ as, inst.applyActions = some as → AppliedBack pkt api experimental as)
    (hwrite : ∀ as, inst.writeActions = some as → WrittenBack pkt api experimental as)
    (hi : i ∈ mapInstructions pkt api experimental inst) (acc : CofInstructions) :
    reverseInstruction pkt api experimental acc i = .ok (restore inst acc i) := by
  rcases mem_mapInstructions hi with
    ⟨as, has, rfl⟩ | ⟨hclear, rfl⟩ | rfl | ⟨t, ht, rfl⟩ | ⟨as, has, rfl⟩ | ⟨m, hm, rfl⟩
  · rw [reverseInstruction, happly as has, restore, has]
    rfl
  · rw [reverseInstruction, restore, hclear]
  · rfl
  · rw [reverseInstruction, restore, ht, setWidth_setWidth_self (by decide)]
  · rw [reverseInstruction, hwrite as has, restore, has]
    rfl
  · rw [reverseInstruction, restore, hm]

lemma type_mapInstructions_ne (inst : CofInstructions) :
    ∀ i ∈ mapInstructions pkt api experimental inst, i.type ≠ .noInstruction := by
  intro i hi
  rcases mem_mapInstructions hi with
    ⟨as, -, rfl⟩ | ⟨-, rfl⟩ | rfl | ⟨t, -, rfl⟩ | ⟨as, -, rfl⟩ | ⟨m, -, rfl⟩ <;>
    exact nofun

lemma nodup_type_mapInstructions (inst : CofInstructions) :
    ((mapInstructions pkt api experimental inst).map Instruction.type).Nodup := by
  obtain ⟨apply, clear, write, metadata, goto, meter, experimenter⟩ := inst
  cases apply <;> cases clear <;> cases write <;> cases metadata <;> cases goto <;>
    cases experimenter <;> simp [mapInstructions, Instruction.type]

/-- All that the entry has of the instructions. -/
lemma foldl_restore (inst : CofInstructions) :
    (mapInstructions pkt api experimental inst).foldl (restore inst) .empty =
      { inst with meter := none, experimenter := none } := by
  obtain ⟨apply, clear, write, metadata, goto, meter, experimenter⟩ := inst
  cases apply <;> cases clear <;> cases write <;> cases metadata <;> cases goto <;>
    cases experimenter <;> rfl

/-- The loop over the array, in which the instructions stand in some order among empty slots. -/
lemma foldlM_reverseInstruction {inst : CofInstructions} {l : List (Instruction G W)}
    (happly : ∀ as, inst.applyActions = some as → AppliedBack pkt api experimental as)
    (hwrite : ∀ as, inst.writeActions = some as → WrittenBack pkt api experimental as)
    (hl : ∀ i ∈ l.filter (·.type ≠ .noInstruction), i ∈ mapInstructions pkt api experimental inst)
    (acc : CofInstructions) :
    l.foldlM (reverseInstruction pkt api experimental) acc =
      .ok ((l.filter (·.type ≠ .noInstruction)).foldl (restore inst) acc) := by
  induction l generalizing acc with
  | nil => rfl
  | cons i l ih =>
      rw [List.foldlM_cons]
      by_cases htype : i.type = .noInstruction
      · have hnone : i = .noInstruction := by
          cases i <;> first | rfl | exact absurd htype (by simp [Instruction.type])
        rw [List.filter_cons_of_neg (by simp [htype])] at hl ⊢
        rw [hnone]
        exact ih hl acc
      · rw [List.filter_cons_of_pos (by simp [htype])] at hl ⊢
        rw [reverseInstruction_eq happly hwrite (hl i List.mem_cons_self)]
        exact ih (fun i' hi' => hl i' (List.mem_cons_of_mem _ hi')) _

/-- **What comes back of the instructions** of a flow-mod: all but the meter and the experimenter,
of which nothing comes back. -/
theorem of13Instructions_back (hapi : api.StoresAsGiven) {msg : FlowMod}
    (happly : ∀ as, msg.instructions.applyActions = some as →
      AppliedBack pkt api experimental as)
    (hwrite : ∀ as, msg.instructions.writeActions = some as →
      WrittenBack pkt api experimental as)
    {entry : Bool} {e : FlowEntry M IG}
    (he : of13MapFlowEntry pkt mapi api experimental entry msg = .ok e) :
    of13MapReverseFlowEntryInstructions pkt api experimental e.instGrp =
      .ok { msg.instructions with meter := none, experimenter := none } := by
  have hgrp : e.instGrp = (mapInstructions pkt api experimental msg.instructions).foldl
      api.addInstructionToGroup api.instructionGroup := by
    rw [of13MapFlowEntry] at he
    split_ifs at he
    rw [← Except.ok.inj he]
  have hperm := hapi.instructions_add (mapInstructions pkt api experimental msg.instructions)
    (nodup_type_mapInstructions msg.instructions) (type_mapInstructions_ne msg.instructions)
  rw [of13MapReverseFlowEntryInstructions, hgrp,
    foldlM_reverseInstruction happly hwrite fun i hi => hperm.mem_iff.1 hi,
    hperm.foldl_eq' fun i _ i' _ acc => restore_comm _ acc i i', foldl_restore]

/-- A map has at most one bucket for each number. -/
lemma CofBuckets.length_le (bs : CofBuckets) : bs.buckets.length ≤ 2 ^ 32 := by
  have hnodup : (bs.buckets.map fun b => b.1.toFin).Nodup := by
    refine List.pairwise_map.2 (bs.sorted.imp fun {b b'} hlt heq => ?_)
    exact BitVec.ne_of_lt hlt (BitVec.toFin_inj.1 heq)
  have hle := hnodup.length_le_card
  rwa [List.length_map, Fintype.card_fin] at hle

/-- The list of buckets of the pipeline. -/
lemma bucketDescs_mapBucketList (hapi : api.StoresAsGiven) (of_buckets : CofBuckets) :
    api.bucketDescs (of13MapBucketList pkt api experimental of_buckets api.initBucketList) =
      of_buckets.values.map fun b => api.initBucket b.weight b.watchPort b.watchGroup
        (mapApplyActions pkt api experimental b.actions) := by
  rw [of13MapBucketList, CofBuckets.values, List.map_map, ← hapi.bucketDescs_insert (List.map _ _),
    List.foldl_map]
  rfl

/-- The loop over the buckets, the `i`-th of which gets the number `i`. -/
lemma reverseBuckets_spec (hapi : api.StoresAsGiven) (rest : List CofBucket) (i : ℕ)
    (hi : i + rest.length ≤ 2 ^ 32)
    (happly : ∀ b ∈ rest, AppliedBack pkt api experimental b.actions) (of_buckets : CofBuckets)
    (hlt : ∀ b ∈ of_buckets.buckets, b.1.toNat < i) :
    ∃ back, reverseBuckets pkt api experimental
        (rest.map fun b => api.initBucket b.weight b.watchPort b.watchGroup
          (mapApplyActions pkt api experimental b.actions)) (BitVec.ofNat 32 i) of_buckets =
        .ok back ∧
      back.values = of_buckets.values ++ rest := by
  induction rest generalizing i of_buckets with
  | nil => exact ⟨of_buckets, rfl, (List.append_nil _).symm⟩
  | cons b rest ih =>
      rw [List.length_cons] at hi
      have hid : (BitVec.ofNat 32 i).toNat = i := by
        rw [BitVec.toNat_ofNat, Nat.mod_eq_of_lt (by omega)]
      have hlast : (of_buckets.setBucket (BitVec.ofNat 32 i) b).buckets =
          of_buckets.buckets ++ [(BitVec.ofNat 32 i, b)] := by
        refine CofBuckets.setEntry_append fun b' hb' => ?_
        rw [BitVec.lt_def, hid]
        exact hlt b' hb'
      have hnext : ∀ b' ∈ (of_buckets.setBucket (BitVec.ofNat 32 i) b).buckets,
          b'.1.toNat < i + 1 := by
        intro b' hb'
        rw [hlast] at hb'
        rcases List.mem_append.1 hb' with hb' | hb'
        · exact Nat.lt_succ_of_lt (hlt b' hb')
        · rw [List.mem_singleton.1 hb', hid]
          exact Nat.lt_succ_self i
      obtain ⟨back, hback, hvalues⟩ := ih (i + 1) (by omega)
        (fun b' hb' => happly b' (List.mem_cons_of_mem _ hb')) _ hnext
      refine ⟨back, ?_, ?_⟩
      · have hsucc : BitVec.ofNat 32 i + 1 = BitVec.ofNat 32 (i + 1) := (BitVec.ofNat_add i 1).symm
        rw [List.map_cons, reverseBuckets, hapi.actions_init, happly b List.mem_cons_self,
          hapi.weight_init, hapi.port_init, hapi.group_init, hsucc]
        exact hback
      · rw [hvalues, CofBuckets.values, hlast, List.map_append, List.append_assoc]
        rfl

/-- All buckets come back. -/
theorem of13Buckets_faithful (hapi : api.StoresAsGiven) {of_buckets : CofBuckets}
    (happly : ∀ b ∈ of_buckets.values, AppliedBack pkt api experimental b.actions) :
    BucketsFaithful pkt api experimental of_buckets := by
  have hlength : 0 + of_buckets.values.length ≤ 2 ^ 32 := by
    rw [CofBuckets.values, List.length_map, Nat.zero_add]
    exact of_buckets.length_le
  obtain ⟨back, hback, hvalues⟩ :=
    reverseBuckets_spec hapi of_buckets.values 0 hlength happly .empty nofun
  exact ⟨back, by rw [of13MapReverseBucketList, bucketDescs_mapBucketList hapi]; exact hback,
    hvalues⟩

/-- **Flow entries and buckets.**  Where the translation of actions round-trips, the instructions of
a flow-mod that is not rejected and the buckets of a group are given back as they were, exactly when
the flow-mod has no meter and no experimenter instruction. -/
theorem of13Entry_faithful_iff (hapi : api.StoresAsGiven) (mapi : MatchApi M) (entry : Bool)
    (msg : FlowMod) (of_buckets : CofBuckets)
    (happly : ∀ as, msg.instructions.applyActions = some as →
      AppliedBack pkt api experimental as)
    (hwrite : ∀ as, msg.instructions.writeActions = some as →
      WrittenBack pkt api experimental as)
    (hbuckets : ∀ b ∈ of_buckets.values, AppliedBack pkt api experimental b.actions) :
    InstructionsFaithful pkt mapi api experimental entry msg ∧
        BucketsFaithful pkt api experimental of_buckets ↔
      (entry = true → msg.instructions.meter = none ∧ msg.instructions.experimenter = none) := by
  constructor
  · rintro ⟨hfaithful, -⟩ rfl
    have he : of13MapFlowEntry pkt mapi api experimental true msg = .ok _ := rfl
    have hback := (of13Instructions_back hapi happly hwrite he).symm.trans (hfaithful _ he)
    have heq := Except.ok.inj hback
    exact ⟨by rw [← heq], by rw [← heq]⟩
  · intro hnone
    refine ⟨fun e he => ?_, of13Buckets_faithful hapi hbuckets⟩
    have hentry : entry = true := by
      cases entry with
      | false => exact absurd he nofun
      | true => rfl
    obtain ⟨hmeter, hexperimenter⟩ := hnone hentry
    rw [of13Instructions_back hapi happly hwrite he]
    congr 1
    ext1 <;> simp [hmeter, hexperimenter]

/-- A list of readable actions round-trips when the pipeline keeps the actions of a group. -/
lemma appliedBack_of_readable (hpkt : pkt.StoresAsGiven)
    (hkeep : ∀ as : List A, api.groupActions (api.actionGroup (as.map some)) = as)
    {actions : List CofAction} (h : ∀ action ∈ actions, action.Readable experimental) :
    AppliedBack pkt api experimental actions := by
  obtain ⟨packet_actions, hmap, hreverse⟩ :=
    (of13Actions_faithful_iff hpkt experimental actions).2 h
  rw [AppliedBack, reverseApplyActions, mapApplyActions, hmap, hkeep]
  exact hreverse

end Back

/-- The pipeline as plain records. -/
def EntryApi.record : EntryApi A (List A) (List A) (List (Instruction (List A) (List A)))
    (BitVec 16 × BitVec 32 × BitVec 32 × List A)
    (List (BitVec 16 × BitVec 32 × BitVec 32 × List A)) where
  actionGroup actions := actions.reduceOption
  groupActions group := group
  writeActions actions := actions.reduceOption
  writtenActions write_actions := write_actions
  instructionGroup := []
  addInstructionToGroup group i := group ++ [i]
  instructions group := group
  initBucket w p g as := (w, p, g, as)
  weight b := b.1
  port b := b.2.1
  group b := b.2.2.1
  actions b := b.2.2.2
  initBucketList := []
  insertBucketInList bucket_list b := bucket_list ++ [b]
  bucketDescs bucket_list := bucket_list

lemma foldl_snoc {α : Type*} (l acc : List α) : l.foldl (fun l a => l ++ [a]) acc = acc ++ l := by
  induction l generalizing acc with
  | nil => exact (List.append_nil acc).symm
  | cons a l ih => rw [List.foldl_cons, ih, List.append_assoc, List.singleton_append]

lemma EntryApi.record_storesAsGiven : (EntryApi.record (A := A)).StoresAsGiven := by
  refine ⟨fun l _ hpresent => ?_, fun _ _ _ _ => rfl, fun _ _ _ _ => rfl, fun _ _ _ _ => rfl,
    fun _ _ _ _ => rfl, fun l => foldl_snoc l []⟩
  have hfilter : l.filter (·.type ≠ .noInstruction) = l :=
    List.filter_eq_self.2 fun i hi => decide_eq_true (hpresent i hi)
  refine List.Perm.of_eq ((congrArg (List.filter _) ?_).trans hfilter)
  exact foldl_snoc l []

/-- A flow-mod with all the instructions that come back. -/
def allButMeter : FlowMod where
  flags := 1
  priority := 100
  cookie := 7
  cookieMask := 0
  idleTimeout := 10
  hardTimeout := 0
  ofmatch := .empty
  instructions := {
    applyActions := some [.pushVlan 0x8100, .output 2 0xffff]
    clearActions := true
    writeActions := some [.decNwTtl, .output 3 0xffff]
    writeMetadata := some (0xf0, 0xff)
    gotoTable := some 4
    meter := none
    experimenter := none }

/-- The buckets number 1 and 5 of a group. -/
def twoBuckets : CofBuckets where
  buckets := [(1, ⟨10, 1, 0xffffffff, [.output 1 0]⟩), (5, ⟨20, 2, 0xffffffff, [.output 2 0]⟩)]
  sorted := by decide

theorem of13Entry_faithful_allButMeter :
    InstructionsFaithful PacketActionApi.record MatchApi.record EntryApi.record false true
        allButMeter ∧
      BucketsFaithful PacketActionApi.record EntryApi.record false twoBuckets := by
  have hback : ∀ {actions : List CofAction}, (∀ a ∈ actions, a.Readable false) →
      AppliedBack PacketActionApi.record EntryApi.record false actions :=
    appliedBack_of_readable PacketActionApi.record_storesAsGiven
      fun as => by simp [EntryApi.record, List.reduceOption]
  have hreadable : ∀ b ∈ twoBuckets.values, ∀ a ∈ b.actions, a.Readable false := by
    simp [twoBuckets, CofBuckets.values, CofAction.Readable]
  refine (of13Entry_faithful_iff EntryApi.record_storesAsGiven MatchApi.record true allButMeter
    twoBuckets ?_ ?_ ?_).2 fun _ => ⟨rfl, rfl⟩
  · rintro as ⟨⟩
    exact hback (by simp [CofAction.Readable])
  · rintro as ⟨⟩
    exact hback (by simp [CofAction.Readable])
  · exact fun b hb => hback (hreadable b hb)

/-- The meter instruction of a flow-mod is not in the entry that is installed. -/
theorem of13Entry_not_faithful_meter :
    ¬ InstructionsFaithful PacketActionApi.record MatchApi.record EntryApi.record false true
      { allButMeter with instructions := { CofInstructions.empty with meter := some 1 } } := by
  intro hfaithful
  have hback := hfaithful _ rfl
  rw [show of13MapReverseFlowEntryInstructions _ _ _ _ = _ from rfl] at hback
  exact absurd (congrArg CofInstructions.meter (Except.ok.inj hback)) (by decide)

end Xdpd.OpenFlow.Of13
