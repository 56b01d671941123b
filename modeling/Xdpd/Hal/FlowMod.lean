import Xdpd.Io.Bufferpool
import Mathlib.Tactic.Common

/-!
# Flow-mods

`hal_driver_of1x_process_flow_mod_add`, `_modify` and `_delete`.  The flow tables and the operations
on single tables are those of the pipeline library; here they are a parameter, and each operation is
assumed to be atomic: it leaves the tables alone when it does not succeed.

The driver calls a table operation, and only then looks for the packet that the request names.  It
does not undo the operation when there is none, nor the removals from some of the tables when that
from another one fails.  `flowMod_failure` says what the tables are after a failure.
-/

namespace Xdpd.Hal

open Xdpd.Io

/-- `hal_fm_result_t`. -/
inductive HalFmResult
  | success | failure | overlapFailure | tableFullFailure | invalidTableIdFailure
  | validationFailure
  deriving DecidableEq, Repr

/-- `of1x_flow_removal_strictness_t`. -/
inductive RemovalStrictness
  | notStrict | strict
  deriving DecidableEq, Repr

/-- `OF1X_FLOW_TABLE_ALL`. -/
def OF1X_FLOW_TABLE_ALL : ℕ := 0xff

/-- `OF1XP_NO_BUFFER`. -/
def OF1XP_NO_BUFFER : BitVec 32 := 0xffffffff

variable {T E R : Type*}

/-- What the driver uses of the pipeline library: the tables `T`, the entries `E` and the results
`R` of the operations. -/
structure PipelineApi (T E R : Type*) where
  /-- `ROFL_OF1X_FM_SUCCESS` -/
  fmSuccess : R
  /-- `hal_fm_map_pipeline_retcode` -/
  mapPipelineRetcode : R → HalFmResult
  /-- `pipeline.num_of_tables` -/
  numOfTables : T → ℕ
  /-- `of1x_add_flow_entry_table` -/
  addFlowEntryTable (table_id : ℕ) (flow_entry : E) (check_overlap reset_counts : Bool) : T → R × T
  /-- `of1x_modify_flow_entry_table` -/
  modifyFlowEntryTable (table_id : ℕ) (flow_entry : E) (strictness : RemovalStrictness)
    (reset_counts : Bool) : T → R × T
  /-- `of1x_remove_flow_entry_table` -/
  removeFlowEntryTable (table_id : ℕ) (flow_entry : E) (strictness : RemovalStrictness)
    (out_port out_group : BitVec 32) : T → R × T
  /-- `of_process_packet_pipeline`: what it leaves of the tables -/
  processPacketPipeline (pkt : ℕ) : T → T

/-- A table operation leaves the tables alone when it does not succeed. -/
def PipelineApi.AtomicOp (api : PipelineApi T E R) (op : T → R × T) : Prop :=
  ∀ t, (op t).1 ≠ api.fmSuccess → (op t).2 = t

/-- Each operation on a single table is atomic. -/
structure PipelineApi.Atomic (api : PipelineApi T E R) : Prop where
  add : ∀ table_id flow_entry check_overlap reset_counts,
    api.AtomicOp (api.addFlowEntryTable table_id flow_entry check_overlap reset_counts)
  modify : ∀ table_id flow_entry strictness reset_counts,
    api.AtomicOp (api.modifyFlowEntryTable table_id flow_entry strictness reset_counts)
  remove : ∀ table_id flow_entry strictness out_port out_group,
    api.AtomicOp (api.removeFlowEntryTable table_id flow_entry strictness out_port out_group)

/-- What the driver uses of an `of1x_switch_t`. -/
structure LogicalSwitch (T : Type*) where
  tables : T
  storage : DatapacketStorage

/-! ## The driver -/

section Driver

variable [DecidableEq R] (api : PipelineApi T E R)

/-- The request names a packet of the storage. -/
def NamesBuffer (buffer_id : BitVec 32) : Prop :=
  buffer_id ≠ 0 ∧ buffer_id ≠ OF1XP_NO_BUFFER

instance (buffer_id : BitVec 32) : Decidable (NamesBuffer buffer_id) :=
  inferInstanceAs (Decidable (_ ∧ _))

/-- The end of `hal_driver_of1x_process_flow_mod_add` and of `_modify`: the packet that the request
names is processed. -/
def processBuffered (buffer_id : BitVec 32) (lsw : LogicalSwitch T) :
    HalFmResult × LogicalSwitch T :=
  if NamesBuffer buffer_id then
    match lsw.storage.getPacket buffer_id with
    | (none, storage) => (.failure, { lsw with storage := storage })
    | (some pkt, storage) =>
        (.success, { tables := api.processPacketPipeline pkt lsw.tables, storage := storage })
  else (.success, lsw)

/-- What `hal_driver_of1x_process_flow_mod_add` and `_modify` have in common: the operation on one
table, and then the packet. -/
def processFlowModOp (op : T → R × T) (table_id : ℕ) (buffer_id : BitVec 32) :
    Option (LogicalSwitch T) → HalFmResult × Option (LogicalSwitch T)
  | none => (.failure, none)
  | some lsw =>
      if api.numOfTables lsw.tables ≤ table_id then (.invalidTableIdFailure, some lsw)
      else
        let result := op lsw.tables
        if result.1 ≠ api.fmSuccess then
          (api.mapPipelineRetcode result.1, some { lsw with tables := result.2 })
        else
          let processed := processBuffered api buffer_id { lsw with tables := result.2 }
          (processed.1, some processed.2)

/-- `hal_driver_of1x_process_flow_mod_add`, for the switch with the `dpid` of the request. -/
def flowModAdd (table_id : ℕ) (flow_entry : E) (buffer_id : BitVec 32)
    (check_overlap reset_counts : Bool) (lsw : Option (LogicalSwitch T)) :
    HalFmResult × Option (LogicalSwitch T) :=
  processFlowModOp api (api.addFlowEntryTable table_id flow_entry check_overlap reset_counts)
    table_id buffer_id lsw

/-- `hal_driver_of1x_process_flow_mod_modify`. -/
def flowModModify (table_id : ℕ) (flow_entry : E) (buffer_id : BitVec 32)
    (strictness : RemovalStrictness) (reset_counts : Bool) (lsw : Option (LogicalSwitch T)) :
    HalFmResult × Option (LogicalSwitch T) :=
  processFlowModOp api (api.modifyFlowEntryTable table_id flow_entry strictness reset_counts)
    table_id buffer_id lsw

/-- The loop of `hal_driver_of1x_process_flow_mod_delete` over the tables from `i` on, of which `n`
are left. -/
def deleteFromTables (remove : ℕ → T → R × T) : ℕ → ℕ → T → HalFmResult × T
  | 0, _, t => (.success, t)
  | n + 1, i, t =>
      let result := remove i t
      if result.1 ≠ api.fmSuccess then (api.mapPipelineRetcode result.1, result.2)
      else deleteFromTables remove n (i + 1) result.2

/-- `hal_driver_of1x_process_flow_mod_delete`. -/
def flowModDelete (table_id : ℕ) (flow_entry : E) (out_port out_group : BitVec 32)
    (strictness : RemovalStrictness) :
    Option (LogicalSwitch T) → HalFmResult × Option (LogicalSwitch T)
  | none => (.failure, none)
  | some lsw =>
      let remove i := api.removeFlowEntryTable i flow_entry strictness out_port out_group
      if api.numOfTables lsw.tables ≤ table_id ∧ table_id ≠ OF1X_FLOW_TABLE_ALL then
        (.invalidTableIdFailure, some lsw)
      else if table_id = OF1X_FLOW_TABLE_ALL then
        let result := deleteFromTables api remove (api.numOfTables lsw.tables) 0 lsw.tables
        (result.1, some { lsw with tables := result.2 })
      else
        let result := remove table_id lsw.tables
        if result.1 ≠ api.fmSuccess then
          (api.mapPipelineRetcode result.1, some { lsw with tables := result.2 })
        else (.success, some { lsw with tables := result.2 })

end Driver

/-! ## After a failure -/

variable {api : PipelineApi T E R}

/-- The tables of a switch, if there is one. -/
def tablesOf (lsw : Option (LogicalSwitch T)) : Option T :=
  lsw.map LogicalSwitch.tables

/-- The operation took effect, but the packet that the request names is not in the storage. -/
def BufferLost (api : PipelineApi T E R) (op : T → R × T) (buffer_id : BitVec 32)
    (lsw : Option (LogicalSwitch T)) (tables : Option T) : Prop :=
  ∃ sw, lsw = some sw ∧ NamesBuffer buffer_id ∧ (sw.storage.getPacket buffer_id).1 = none ∧
    (op sw.tables).1 = api.fmSuccess ∧ tables = some (op sw.tables).2

/-- All tables were named, and the removal succeeded for those before the `k`-th one and failed for
it: what is left are the tables `ts k` that the removals before it have led to. -/
def PartlyDeleted (api : PipelineApi T E R) (remove : ℕ → T → R × T) (table_id : ℕ)
    (lsw : Option (LogicalSwitch T)) (tables : Option T) : Prop :=
  table_id = OF1X_FLOW_TABLE_ALL ∧
    ∃ sw, lsw = some sw ∧ ∃ k < api.numOfTables sw.tables, ∃ ts : ℕ → T, ts 0 = sw.tables ∧
      tables = some (ts k) ∧ (∀ j < k, remove j (ts j) = (api.fmSuccess, ts (j + 1))) ∧
      (remove k (ts k)).1 ≠ api.fmSuccess

lemma processBuffered_failure {buffer_id : BitVec 32} {lsw : LogicalSwitch T}
    (hfail : (processBuffered api buffer_id lsw).1 ≠ .success) :
    NamesBuffer buffer_id ∧ (lsw.storage.getPacket buffer_id).1 = none ∧
      (processBuffered api buffer_id lsw).2.tables = lsw.tables := by
  rw [processBuffered] at hfail ⊢
  by_cases hnames : NamesBuffer buffer_id
  · rw [if_pos hnames] at hfail ⊢
    cases hpkt : lsw.storage.getPacket buffer_id with
    | mk pkt storage =>
        rw [hpkt] at hfail
        cases pkt with
        | none => exact ⟨hnames, rfl, rfl⟩
        | some pkt => exact absurd rfl hfail
  · rw [if_neg hnames] at hfail
    exact absurd rfl hfail

variable [DecidableEq R]

lemma processFlowModOp_failure {op : T → R × T} (hop : api.AtomicOp op) (table_id : ℕ)
    (buffer_id : BitVec 32) (lsw : Option (LogicalSwitch T))
    (hfail : (processFlowModOp api op table_id buffer_id lsw).1 ≠ .success) :
    tablesOf (processFlowModOp api op table_id buffer_id lsw).2 = tablesOf lsw ∨
      BufferLost api op buffer_id lsw
        (tablesOf (processFlowModOp api op table_id buffer_id lsw).2) := by
  cases lsw with
  | none => exact Or.inl rfl
  | some sw =>
      simp only [processFlowModOp] at hfail ⊢
      split_ifs at hfail ⊢ with htable hresult
      · exact Or.inl rfl
      · exact Or.inl (congrArg some (hop sw.tables hresult))
      · obtain ⟨hnames, hnone, htables⟩ := processBuffered_failure hfail
        exact Or.inr ⟨sw, rfl, hnames, hnone, not_not.1 hresult, congrArg some htables⟩

/-- The loop leaves the tables as the removals before the failing one have left them. -/
lemma deleteFromTables_failure {remove : ℕ → T → R × T} (hremove : ∀ i, api.AtomicOp (remove i))
    (n i : ℕ) (t : T) (hfail : (deleteFromTables api remove n i t).1 ≠ .success) :
    ∃ k < n, ∃ ts : ℕ → T, ts 0 = t ∧ ts k = (deleteFromTables api remove n i t).2 ∧
      (∀ j < k, remove (i + j) (ts j) = (api.fmSuccess, ts (j + 1))) ∧
      (remove (i + k) (ts k)).1 ≠ api.fmSuccess := by
  induction n generalizing i t with
  | zero => exact absurd rfl hfail
  | succ n ih =>
      rw [deleteFromTables] at hfail ⊢
      by_cases hresult : (remove i t).1 = api.fmSuccess
      · rw [if_neg (not_not_intro hresult)] at hfail ⊢
        obtain ⟨k, hk, ts, hfirst, hlast, hbefore, hfailed⟩ := ih (i + 1) (remove i t).2 hfail
        refine ⟨k + 1, Nat.succ_lt_succ hk, fun j => if j = 0 then t else ts (j - 1), rfl, hlast,
          ?_, ?_⟩
        · intro j hj
          cases j with
          | zero =>
              refine Prod.ext hresult ?_
              exact hfirst.symm
          | succ j =>
              have hstep := hbefore j (Nat.lt_of_succ_lt_succ hj)
              rw [Nat.add_right_comm] at hstep
              exact hstep
        · rw [Nat.add_right_comm] at hfailed
          exact hfailed
      · rw [if_pos hresult]
        exact ⟨0, Nat.succ_pos n, fun _ => t, rfl, (hremove i t hresult).symm,
          fun j hj => absurd hj (Nat.not_lt_zero j), hresult⟩

lemma flowModDelete_failure (hatomic : api.Atomic) (table_id : ℕ) (flow_entry : E)
    (out_port out_group : BitVec 32) (strictness : RemovalStrictness)
    (lsw : Option (LogicalSwitch T))
    (hfail : (flowModDelete api table_id flow_entry out_port out_group strictness lsw).1 ≠
      .success) :
    tablesOf (flowModDelete api table_id flow_entry out_port out_group strictness lsw).2 =
        tablesOf lsw ∨
      PartlyDeleted api
        (fun i => api.removeFlowEntryTable i flow_entry strictness out_port out_group) table_id lsw
        (tablesOf (flowModDelete api table_id flow_entry out_port out_group strictness lsw).2) := by
  have hremove (i : ℕ) :
      api.AtomicOp (api.removeFlowEntryTable i flow_entry strictness out_port out_group) :=
    hatomic.remove i flow_entry strictness out_port out_group
  cases lsw with
  | none => exact Or.inl rfl
  | some sw =>
      simp only [flowModDelete] at hfail ⊢
      split_ifs at hfail ⊢ with hinvalid hall hresult
      · exact Or.inl rfl
      · obtain ⟨k, hk, ts, hfirst, hlast, hbefore, hfailed⟩ :=
          deleteFromTables_failure hremove _ 0 sw.tables hfail
        refine Or.inr ⟨hall, sw, rfl, k, hk, ts, hfirst, congrArg some hlast.symm, ?_, ?_⟩
        · intro j hj
          rw [← hbefore j hj, Nat.zero_add]
        · rwa [Nat.zero_add] at hfailed
      · exact Or.inl (congrArg some (hremove table_id sw.tables hresult))
      · exact absurd rfl hfail

/-- **After a failure the tables are as before**, unless a packet was named that is not in the
storage, or a removal from all tables failed for one of them. -/
theorem flowMod_failure (hatomic : api.Atomic) (table_id : ℕ) (flow_entry : E)
    (lsw : Option (LogicalSwitch T)) :
    (∀ buffer_id check_overlap reset_counts,
      let res := flowModAdd api table_id flow_entry buffer_id check_overlap reset_counts lsw
      res.1 ≠ .success →
        tablesOf res.2 = tablesOf lsw ∨
          BufferLost api (api.addFlowEntryTable table_id flow_entry check_overlap reset_counts)
            buffer_id lsw (tablesOf res.2)) ∧
    (∀ buffer_id strictness reset_counts,
      let res := flowModModify api table_id flow_entry buffer_id strictness reset_counts lsw
      res.1 ≠ .success →
        tablesOf res.2 = tablesOf lsw ∨
          BufferLost api (api.modifyFlowEntryTable table_id flow_entry strictness reset_counts)
            buffer_id lsw (tablesOf res.2)) ∧
    (∀ out_port out_group strictness,
      let res := flowModDelete api table_id flow_entry out_port out_group strictness lsw
      res.1 ≠ .success →
        tablesOf res.2 = tablesOf lsw ∨
          PartlyDeleted api
            (fun i => api.removeFlowEntryTable i flow_entry strictness out_port out_group)
            table_id lsw (tablesOf res.2)) := by
  refine ⟨fun buffer_id check_overlap reset_counts => ?_,
    fun buffer_id strictness reset_counts => ?_, fun out_port out_group strictness => ?_⟩
  · exact processFlowModOp_failure (hatomic.add _ _ _ _) table_id buffer_id lsw
  · exact processFlowModOp_failure (hatomic.modify _ _ _ _) table_id buffer_id lsw
  · exact flowModDelete_failure hatomic table_id flow_entry out_port out_group strictness lsw

/-- Two tables, as the list of their entries.  The matching algorithm of the second one does not
manage to remove an entry that it has. -/
def listTables : PipelineApi (List (ℕ × ℕ)) ℕ Bool where
  fmSuccess := true
  mapPipelineRetcode result := if result then .success else .failure
  numOfTables _ := 2
  addFlowEntryTable table_id flow_entry _ _ t := (true, t ++ [(table_id, flow_entry)])
  modifyFlowEntryTable _ _ _ _ t := (true, t)
  removeFlowEntryTable table_id flow_entry _ _ _ t :=
    if table_id = 1 ∧ t.contains (table_id, flow_entry) then (false, t)
    else (true, t.erase (table_id, flow_entry))
  processPacketPipeline _ t := t

lemma listTables_atomic : listTables.Atomic where
  add _ _ _ _ t h := absurd rfl h
  modify _ _ _ _ t h := absurd rfl h
  remove table_id flow_entry strictness out_port out_group t h := by
    simp only [listTables] at h ⊢
    split_ifs at h ⊢
    · rfl
    · exact absurd rfl h

/-- A switch with the same entry in both tables, and no packet in its storage. -/
def listSwitch : Option (LogicalSwitch (List (ℕ × ℕ))) :=
  some { tables := [(0, 5), (1, 5)], storage := { next_id := 1, store := [] } }

theorem flowMod_failure_listTables :
    tablesOf (flowModAdd listTables 0 6 7 false false listSwitch).2 = tablesOf listSwitch ∨
      BufferLost listTables (listTables.addFlowEntryTable 0 6 false false) 7 listSwitch
        (tablesOf (flowModAdd listTables 0 6 7 false false listSwitch).2) :=
  (flowMod_failure listTables_atomic 0 6 listSwitch).1 7 false false (by decide)

/-- The entry is installed although the request fails, because packet 7 is not in the storage; and
the entry of the first table is gone although the removal from all tables fails. -/
theorem flowMod_not_atomic :
    ((flowModAdd listTables 0 6 7 false false listSwitch).1 = .failure ∧
      tablesOf (flowModAdd listTables 0 6 7 false false listSwitch).2 =
        some [(0, 5), (1, 5), (0, 6)]) ∧
    ((flowModDelete listTables OF1X_FLOW_TABLE_ALL 5 0 0 .strict listSwitch).1 = .failure ∧
      tablesOf (flowModDelete listTables OF1X_FLOW_TABLE_ALL 5 0 0 .strict listSwitch).2 =
        some [(1, 5)]) := by
  decide

end Xdpd.Hal
