import Mathlib.Data.Finset.Insert
import Mathlib.Data.Finset.SDiff
import Xdpd.Fscale.RuleTranslation
import Xdpd.Lib.Transition

/-!
# The records of the rules in the chip

For an entry that it puts into the chip the driver allocates a record, which names the table and the
id of the rule, and hangs it on the entry as its platform state.  `delete` frees the record and
leaves the pointer as it is; so does an addition that the chip refuses.

What the pipeline does with the entries is not part of the driver: each call of a hook comes with
the entries that the pipeline has destroyed until the next one.

The records are right after every hook of a run exactly when every hook meets `Keeps`:
`run_right_iff`.
-/

namespace Xdpd.Fscale

open Xdpd.Lib

/-! ## The driver -/

/-- `ACL_INVALID_ID` -/
def ACL_INVALID_ID : BitVec 32 := -1

/-- `vtss_l2sw_flow_entry_t`: the type, and the field that names the rule in the table of that
type. -/
inductive VtssEntry
  | acl (aclId : BitVec 32)
  | mac (vid : BitVec 16) (mac : BitVec 48)
  deriving DecidableEq, Repr

/-- `acl_id`, which only an addition to the access control list writes -/
def VtssEntry.aclId : VtssEntry → BitVec 32
  | acl aclId => aclId
  | mac _ _ => ACL_INVALID_ID

/-- The type is `VTSS_ENTRY_TYPE_MAC`. -/
def VtssEntry.isMac : VtssEntry → Bool
  | acl _ => false
  | mac _ _ => true

/-- The driver with the chip. -/
structure Driver where
  /-- `aclId` -/
  aclId : BitVec 32
  /-- the records that have been allocated and not been freed -/
  heap : ℕ → Option VtssEntry
  /-- the pointers of the entries -/
  platformState : ℕ → Option ℕ
  /-- the tables of the chip: the entry whose rule is under an id or an address -/
  rules : VtssEntry → Option ℕ

/-- An entry of the pipeline that a hook is given, and what it says at the time. -/
structure Given where
  id : ℕ
  flow : FlowEntry
  deriving DecidableEq

/-- What the calls of a hook come to, as far as it makes them.  A call that fails leaves the chip as
it is. -/
structure Answers where
  /-- `vtss_ace_init` succeeds -/
  aceInit : Bool := true
  /-- the address that `malloc` gives -/
  alloc : Option ℕ
  /-- `vtss_ace_add` or `vtss_mac_table_add` succeeds -/
  added : Bool := true
  /-- `vtss_ace_del` or `vtss_mac_table_del` succeeds -/
  deleted : Bool := true
  deriving DecidableEq

namespace Driver

/-- The state after `vtss_l2sw_init`. -/
def init : Driver where
  aclId := 1
  heap _ := none
  platformState _ := none
  rules _ := none

/-- The record that the platform state points to. -/
def record (d : Driver) (entry : ℕ) : Option VtssEntry := (d.platformState entry).bind d.heap

variable (chip : Chip) (d : Driver)

/-- What the two additions do once they have made their rule: the pointer is set before the rule is
handed to the chip.  `none` where `malloc` would give a record that is in use. -/
def addRecord (entry : ℕ) (r : VtssEntry) (a : Answers) : Option (Bool × Driver) :=
  match a.alloc with
  | none => some (false, d)
  | some p =>
      if d.heap p ≠ none then none
      else
        let d := { d with
          heap := Function.update d.heap p (some r)
          platformState := Function.update d.platformState entry (some p) }
        if a.added then some (true, { d with rules := Function.update d.rules r (some entry) })
        else some (false, { d with heap := Function.update d.heap p none })

/-- `vtss_l2sw_add_flow_entry` -/
def addFlowEntry (e : Given) (a : Answers) : Option (Bool × Driver) :=
  match if a.aceInit then Fscale.addFlowEntry chip d.aclId e.flow else none with
  | none => some (false, d)
  | some _ => do
      let (done, d) ← d.addRecord e.id (.acl d.aclId) a
      return (done, if done then { d with aclId := d.aclId + 1 } else d)

/-- `vtss_l2sw_add_mac_entry` -/
def addMacEntry (e : Given) (a : Answers) : Option (Bool × Driver) :=
  match generateMacEntry chip e.flow with
  | none => some (false, d)
  | some entry => d.addRecord e.id (.mac entry.vid entry.mac) a

/-- The two deletions, with what they check of the record.  `none` where the record has been
freed. -/
def deleteRecord (refused : VtssEntry → Bool) (entry : ℕ) (a : Answers) : Option (Bool × Driver) :=
  match d.platformState entry with
  | none => some (false, d)
  | some p =>
      match d.heap p with
      | none => none
      | some r =>
          if refused r then some (false, d)
          else if a.deleted then
            some (true, { d with
              heap := Function.update d.heap p none
              rules := Function.update d.rules r none })
          else some (false, d)

/-- `vtss_l2sw_delete_flow_entry` -/
def deleteFlowEntry (e : Given) (a : Answers) : Option (Bool × Driver) :=
  d.deleteRecord (fun r => r.aclId = ACL_INVALID_ID) e.id a

/-- `vtss_l2sw_detele_mac_entry` -/
def deleteMacEntry (e : Given) (a : Answers) : Option (Bool × Driver) :=
  d.deleteRecord (fun r => !r.isMac) e.id a

/-- The addition that is chosen from the matches. -/
def addEntry (e : Given) (a : Answers) : Option Driver :=
  (if e.flow.isEntryForMacTable then d.addMacEntry chip e a else d.addFlowEntry chip e a).map
    Prod.snd

/-- The deletion that is chosen from the matches. -/
def deleteEntry (e : Given) (a : Answers) : Option Driver :=
  (if e.flow.isEntryForMacTable then d.deleteMacEntry e a else d.deleteFlowEntry e a).map Prod.snd

/-- `plaftorm_of1x_add_entry_hook` -/
def addEntryHook (e : Given) (a : Answers) : Option Driver :=
  if e.flow.isL2Entry then d.addEntry chip e a else some d

/-- `platform_of1x_modify_entry_hook` -/
def modifyEntryHook (old mod : Given) (a : Answers) : Option Driver :=
  if mod.flow.isL2Entry then do
    let d ← d.deleteEntry old a
    d.addEntry chip mod a
  else some d

/-- `platform_of1x_remove_entry_hook` -/
def removeEntryHook (e : Given) (a : Answers) : Option Driver :=
  if e.flow.isL2Entry then d.deleteEntry e a else some d

end Driver

/-! ## Runs -/

/-- A call of a hook. -/
inductive Hook
  | add (e : Given) (a : Answers)
  | modify (old mod : Given) (a : Answers)
  | remove (e : Given) (a : Answers)
  deriving DecidableEq

/-- The entry that a hook hands to the driver as a new one. -/
def Hook.new : Hook → Finset ℕ
  | add e _ => {e.id}
  | modify _ mod _ => {mod.id}
  | remove _ _ => ∅

/-- The entry whose rule a hook is to take out of the chip. -/
def Hook.old : Hook → Option Given
  | add _ _ => none
  | modify old _ _ => some old
  | remove e _ => some e

/-- A call of a hook, and the entries that the pipeline destroys before the next one. -/
structure Call where
  hook : Hook
  destroyed : Finset ℕ := ∅

/-- The driver, and the entries of the pipeline. -/
structure State where
  driver : Driver
  /-- the entries that have not been destroyed -/
  live : Finset ℕ
  /-- all the entries so far -/
  seen : Finset ℕ

/-- The state after `vtss_l2sw_init`. -/
def State.init : State := ⟨.init, ∅, ∅⟩

/-- The entries that are left after a call. -/
def State.left (s : State) (call : Call) : Finset ℕ := (s.live ∪ call.hook.new) \ call.destroyed

variable (chip : Chip)

/-- The pipeline adds new entries, and modifies and removes those that it has.  What it modifies
them to is another entry, which is new or has been given before. -/
def State.hook (s : State) : Hook → Option Driver
  | .add e a => if e.id ∉ s.seen then s.driver.addEntryHook chip e a else none
  | .modify old mod a =>
      if old.id ∈ s.live ∧ mod.id ≠ old.id ∧ (mod.id ∈ s.live ∨ mod.id ∉ s.seen) then
        s.driver.modifyEntryHook chip old mod a
      else none
  | .remove e a => if e.id ∈ s.live then s.driver.removeEntryHook e a else none

/-- A call of a hook. -/
def State.step (s : State) (call : Call) : Option State :=
  (s.hook chip call.hook).map fun d => ⟨d, s.left call, s.seen ∪ call.hook.new⟩

/-! ## What the records are to be -/

/-- The entries with a rule in the chip are those with a record; it is one that has not been freed,
and names the only rule of its entry. -/
structure Driver.Right (d : Driver) (live : Finset ℕ) : Prop where
  ne_none_iff : ∀ entry ∈ live, d.platformState entry ≠ none ↔ ∃ r, d.rules r = some entry
  alive : ∀ entry ∈ live, ∀ p ∈ d.platformState entry, d.heap p ≠ none
  names : ∀ entry ∈ live, ∀ r ∈ d.record entry, ∀ r', d.rules r' = some entry ↔ r' = r
  apart : ∀ entry ∈ live, ∀ entry' ∈ live, ∀ aclId, d.record entry = some (.acl aclId) →
    d.record entry' = some (.acl aclId) → entry = entry'

/-- After the call the records are right, and an entry that has been modified or removed has no rule
any more. -/
def State.RightAfter (s : State) (call : Call) : Prop :=
  ∀ s', s.step chip call = some s' → s'.driver.Right s'.live ∧
    ∀ e ∈ call.hook.old, ∀ r, s'.driver.rules r ≠ some e.id

/-! ## When they are -/

/-- The record of the rule that a hook makes for an entry, if the entry is for the chip and can be
expressed. -/
def Driver.recordFor (d : Driver) (e : Given) (a : Answers) : Option VtssEntry :=
  if e.flow.isL2Entry then
    if e.flow.isEntryForMacTable then
      (generateMacEntry chip e.flow).map fun entry => .mac entry.vid entry.mac
    else if a.aceInit then (Fscale.addFlowEntry chip d.aclId e.flow).map fun _ => .acl d.aclId
    else none
  else none

/-- The record of the rule that a hook hands to the chip. -/
def Driver.called (d : Driver) (e : Given) (a : Answers) : Option VtssEntry :=
  if a.alloc = none then none else d.recordFor chip e a

/-- An addition: if the chip refuses the rule, then the pipeline destroys the entry.  If the rule
goes into the table of addresses, then no entry that is left has its address, and the entry has no
other rule. -/
def Driver.AddKeeps (d : Driver) (e : Given) (a : Answers) (left : Finset ℕ) : Prop :=
  ∀ r ∈ d.called chip e a,
    (a.added = false → e.id ∉ left) ∧
      (a.added = true →
        (r.isMac = true → ∀ other ∈ left, d.rules r = some other → other = e.id) ∧
          (e.id ∈ left → ∀ r', d.rules r' = some e.id → r' = r))

/-- The deletion that is chosen from the matches takes the rule out of the chip. -/
def VtssEntry.Deletes (r : VtssEntry) (e : Given) (a : Answers) : Prop :=
  a.deleted = true ∧
    if e.flow.isEntryForMacTable then r.isMac = true else r.aclId ≠ ACL_INVALID_ID

/-- The calls that keep the records right.  An entry with a rule is given to a deletion only if the
rule goes, and the pipeline does not use it again; the new rule may take the place of the old
one. -/
def State.Keeps (s : State) (call : Call) : Prop :=
  match call.hook with
  | .add e a => s.driver.AddKeeps chip e a (s.left call)
  | .modify old mod a =>
      (∀ r ∈ s.driver.record old.id, old.id ∉ s.left call ∧ mod.flow.isL2Entry = true ∧
        (r.Deletes old a ∨ a.added = true ∧ s.driver.called chip mod a = some r)) ∧
      s.driver.AddKeeps chip mod a (s.left call)
  | .remove e a =>
      ∀ r ∈ s.driver.record e.id,
        e.id ∉ s.left call ∧ e.flow.isL2Entry = true ∧ r.Deletes e a

namespace Driver

/-! ## One entry -/

/-- The entry has no rule and no record, or one of each, which belong together. -/
def Sound (d : Driver) (entry : ℕ) : Prop :=
  (d.platformState entry = none ∧ ∀ r, d.rules r ≠ some entry) ∨
    ∃ p r, d.platformState entry = some p ∧ d.heap p = some r ∧
      ∀ r', d.rules r' = some entry ↔ r' = r

/-- The entry has a pointer, and no rule. -/
def Dangles (d : Driver) (entry : ℕ) : Prop :=
  d.platformState entry ≠ none ∧ ∀ r, d.rules r ≠ some entry

section Sound

variable {d : Driver} {entry : ℕ}

lemma record_eq_some {r : VtssEntry} :
    d.record entry = some r ↔ ∃ p, d.platformState entry = some p ∧ d.heap p = some r :=
  Option.bind_eq_some_iff

lemma record_eq_none_of (h : d.platformState entry = none) : d.record entry = none := by
  rw [record, h]
  rfl

/-- A record that a sound entry has names its rule. -/
lemma Sound.names (h : d.Sound entry) {r : VtssEntry} (hr : d.record entry = some r)
    (r' : VtssEntry) : d.rules r' = some entry ↔ r' = r := by
  obtain ⟨p, hp, hheap⟩ := record_eq_some.mp hr
  rcases h with ⟨hnone, -⟩ | ⟨p', r'', hp', hheap', hrules⟩
  · rw [hnone] at hp
    cases hp
  · obtain rfl := Option.some.inj (hp.symm.trans hp')
    obtain rfl := Option.some.inj (hheap.symm.trans hheap')
    exact hrules r'

lemma Dangles.not_sound (h : d.Dangles entry) : ¬ d.Sound entry := by
  rintro (⟨hnone, -⟩ | ⟨p, r, -, -, hrules⟩)
  · exact h.1 hnone
  · exact h.2 r ((hrules r).mpr rfl)

/-- The records are right if they are for each of the entries. -/
lemma right_iff {live : Finset ℕ} : d.Right live ↔ ∀ entry ∈ live, d.Sound entry := by
  constructor
  · intro h entry hentry
    cases hp : d.platformState entry with
    | none =>
        refine .inl ⟨hp, fun r hr => ?_⟩
        exact (h.ne_none_iff entry hentry).mpr ⟨r, hr⟩ hp
    | some p =>
        obtain ⟨r, hr⟩ := Option.ne_none_iff_exists'.mp (h.alive entry hentry p hp)
        exact .inr ⟨p, r, hp, hr, h.names entry hentry r (record_eq_some.mpr ⟨p, hp, hr⟩)⟩
  · intro h
    refine ⟨fun entry hentry => ?_, fun entry hentry p hp => ?_,
      fun entry hentry r hr => (h entry hentry).names hr, ?_⟩
    · rcases h entry hentry with ⟨hnone, hrules⟩ | ⟨p, r, hp, -, hrules⟩
      · exact iff_of_false (not_not_intro hnone) (fun ⟨r, hr⟩ => hrules r hr)
      · exact iff_of_true (by simp [hp]) ⟨r, (hrules r).mpr rfl⟩
    · rcases h entry hentry with ⟨hnone, -⟩ | ⟨p', r, hp', hheap, -⟩
      · rw [hnone] at hp
        cases hp
      · obtain rfl := Option.some.inj (hp.symm.trans hp')
        simp [hheap]
    · intro entry hentry entry' hentry' aclId hr hr'
      have hrule := ((h entry hentry).names hr (.acl aclId)).mpr rfl
      have hrule' := ((h entry' hentry').names hr' (.acl aclId)).mpr rfl
      exact Option.some.inj (hrule.symm.trans hrule')

end Sound

/-! ## What the calls do -/

/-- What an addition comes to. -/
inductive Added (d : Driver) (e : Given) (a : Answers) : Driver → Prop
  | skipped (hr : d.called chip e a = none) : Added d e a d
  | refused {p : ℕ} {r : VtssEntry} (hr : d.called chip e a = some r) (hfree : d.heap p = none)
      (hadded : a.added = false) :
      Added d e a { d with
        heap := Function.update (Function.update d.heap p (some r)) p none
        platformState := Function.update d.platformState e.id (some p) }
  | done {p : ℕ} {r : VtssEntry} (hr : d.called chip e a = some r) (hfree : d.heap p = none)
      (hadded : a.added = true) :
      Added d e a
        { aclId := if r.isMac then d.aclId else d.aclId + 1
          heap := Function.update d.heap p (some r)
          platformState := Function.update d.platformState e.id (some p)
          rules := Function.update d.rules r (some e.id) }

/-- What a deletion comes to. -/
inductive Deleted (d : Driver) (e : Given) (a : Answers) : Driver → Prop
  | absent (hp : d.platformState e.id = none) : Deleted d e a d
  | refused {r : VtssEntry} (hr : d.record e.id = some r) (hnot : ¬ r.Deletes e a) :
      Deleted d e a d
  | done {p : ℕ} {r : VtssEntry} (hp : d.platformState e.id = some p) (hr : d.heap p = some r)
      (hdeletes : r.Deletes e a) :
      Deleted d e a { d with
        heap := Function.update d.heap p none
        rules := Function.update d.rules r none }

section Effects

variable {chip} {d d' : Driver} {e : Given} {a : Answers}

/-- The part that both additions share. -/
lemma addRecord_eq_some {r : VtssEntry} {b : Bool} (h : d.addRecord e.id r a = some (b, d')) :
    (a.alloc = none ∧ b = false ∧ d' = d) ∨ ∃ p, a.alloc = some p ∧ d.heap p = none ∧
      ((a.added = false ∧ b = false ∧ d' = { d with
        heap := Function.update (Function.update d.heap p (some r)) p none
        platformState := Function.update d.platformState e.id (some p) }) ∨
      (a.added = true ∧ b = true ∧ d' = { d with
        heap := Function.update d.heap p (some r)
        platformState := Function.update d.platformState e.id (some p)
        rules := Function.update d.rules r (some e.id) })) := by
  cases halloc : a.alloc with
  | none =>
      simp only [addRecord, halloc, Option.some.injEq, Prod.mk.injEq] at h
      exact .inl ⟨rfl, h.1.symm, h.2.symm⟩
  | some p =>
      by_cases hfree : d.heap p = none
      · cases hadded : a.added with
        | false =>
            simp only [addRecord, halloc, hfree, hadded, ne_eq, not_true_eq_false, if_false,
              Bool.false_eq_true, Option.some.injEq, Prod.mk.injEq] at h
            exact .inr ⟨p, rfl, hfree, .inl ⟨rfl, h.1.symm, h.2.symm⟩⟩
        | true =>
            simp only [addRecord, halloc, hfree, hadded, ne_eq, not_true_eq_false, if_false,
              if_true, Option.some.injEq, Prod.mk.injEq] at h
            exact .inr ⟨p, rfl, hfree, .inr ⟨rfl, h.1.symm, h.2.symm⟩⟩
      · simp [addRecord, halloc, hfree] at h

lemma added_of_addMacEntry {b : Bool} (hL2 : e.flow.isL2Entry = true)
    (hmac : e.flow.isEntryForMacTable = true) (h : d.addMacEntry chip e a = some (b, d')) :
    Added chip d e a d' := by
  cases hentry : generateMacEntry chip e.flow with
  | none =>
      simp only [addMacEntry, hentry, Option.some.injEq, Prod.mk.injEq] at h
      rw [← h.2]
      exact .skipped (by simp [called, recordFor, hL2, hmac, hentry])
  | some entry =>
      simp only [addMacEntry, hentry] at h
      have hfor : d.recordFor chip e a = some (.mac entry.vid entry.mac) := by
        simp [recordFor, hL2, hmac, hentry]
      rcases addRecord_eq_some h with ⟨halloc, -, rfl⟩ | ⟨p, halloc, hfree, hcases⟩
      · exact .skipped (by simp [called, halloc])
      have hr : d.called chip e a = some (.mac entry.vid entry.mac) := by
        simp [called, halloc, hfor]
      rcases hcases with ⟨hadded, -, rfl⟩ | ⟨hadded, -, rfl⟩
      · exact .refused hr hfree hadded
      · exact .done hr hfree hadded

lemma added_of_addFlowEntry {b : Bool} (hL2 : e.flow.isL2Entry = true)
    (hmac : e.flow.isEntryForMacTable = false) (h : d.addFlowEntry chip e a = some (b, d')) :
    Added chip d e a d' := by
  cases hace : if a.aceInit then Fscale.addFlowEntry chip d.aclId e.flow else none with
  | none =>
      simp only [addFlowEntry, hace, Option.some.injEq, Prod.mk.injEq] at h
      rw [← h.2]
      refine .skipped ?_
      cases hinit : a.aceInit <;> simp [called, recordFor, hL2, hmac, hinit] at hace ⊢
      simp [hace]
  | some ace =>
      simp only [addFlowEntry, hace] at h
      have hfor : d.recordFor chip e a = some (.acl d.aclId) := by
        cases hinit : a.aceInit <;> simp [hinit] at hace
        simp [recordFor, hL2, hmac, hinit, hace]
      cases hadd : d.addRecord e.id (.acl d.aclId) a with
      | none => simp [hadd] at h
      | some result =>
          obtain ⟨done, d₁⟩ := result
          simp only [hadd, Option.bind_eq_bind, Option.bind_some, Option.pure_def,
            Option.some.injEq, Prod.mk.injEq] at h
          obtain ⟨rfl, rfl⟩ := h
          rcases addRecord_eq_some hadd with ⟨halloc, rfl, rfl⟩ | ⟨p, halloc, hfree, hcases⟩
          · exact .skipped (by simp [called, halloc])
          have hr : d.called chip e a = some (.acl d.aclId) := by
            simp [called, halloc, hfor]
          rcases hcases with ⟨hadded, rfl, rfl⟩ | ⟨hadded, rfl, rfl⟩
          · exact .refused hr hfree hadded
          · exact .done hr hfree hadded

lemma added_of_addEntry (hL2 : e.flow.isL2Entry = true) (h : d.addEntry chip e a = some d') :
    Added chip d e a d' := by
  obtain ⟨⟨b, d₁⟩, hcall, rfl⟩ := Option.map_eq_some_iff.mp h
  cases hmac : e.flow.isEntryForMacTable with
  | true =>
      rw [hmac, if_pos rfl] at hcall
      exact added_of_addMacEntry hL2 hmac hcall
  | false =>
      rw [hmac, if_neg Bool.false_ne_true] at hcall
      exact added_of_addFlowEntry hL2 hmac hcall

/-- **The addition.** -/
lemma added_of_addEntryHook (h : d.addEntryHook chip e a = some d') : Added chip d e a d' := by
  unfold addEntryHook at h
  by_cases hL2 : e.flow.isL2Entry = true
  · rw [if_pos hL2] at h
    exact added_of_addEntry hL2 h
  · rw [if_neg hL2] at h
    obtain rfl := Option.some.inj h
    exact .skipped (by simp [called, recordFor, hL2])

/-- **The deletion.** -/
lemma deleted_of_deleteEntry (h : d.deleteEntry e a = some d') : Deleted d e a d' := by
  obtain ⟨⟨b, d₁⟩, hcall, rfl⟩ := Option.map_eq_some_iff.mp h
  have hdelete : ∀ refused : VtssEntry → Bool,
      (∀ r : VtssEntry, r.Deletes e a ↔ a.deleted = true ∧ refused r = false) →
        d.deleteRecord refused e.id a = some (b, d₁) → Deleted d e a d₁ := by
    intro refused hrefused h
    cases hp : d.platformState e.id with
    | none =>
        simp only [deleteRecord, hp, Option.some.injEq, Prod.mk.injEq] at h
        rw [← h.2]
        exact .absent hp
    | some p =>
        cases hr : d.heap p with
        | none => simp [deleteRecord, hp, hr] at h
        | some r =>
            have hrecord : d.record e.id = some r := record_eq_some.mpr ⟨p, hp, hr⟩
            by_cases hdeletes : r.Deletes e a
            · obtain ⟨hdeleted, hnot⟩ := (hrefused r).mp hdeletes
              simp only [deleteRecord, hp, hr, hnot, hdeleted, Bool.false_eq_true, if_false,
                if_true, Option.some.injEq, Prod.mk.injEq] at h
              rw [← h.2]
              exact .done hp hr hdeletes
            · have hsame : d₁ = d := by
                cases hrefuses : refused r with
                | true =>
                    simp only [deleteRecord, hp, hr, hrefuses, if_true, Option.some.injEq,
                      Prod.mk.injEq] at h
                    exact h.2.symm
                | false =>
                    have hdeleted : a.deleted = false := by
                      simpa using fun hdeleted => hdeletes ((hrefused r).mpr ⟨hdeleted, hrefuses⟩)
                    simp only [deleteRecord, hp, hr, hrefuses, hdeleted, Bool.false_eq_true,
                      if_false, Option.some.injEq, Prod.mk.injEq] at h
                    exact h.2.symm
              rw [hsame]
              exact .refused hrecord hdeletes
  cases hmac : e.flow.isEntryForMacTable with
  | true =>
      rw [hmac, if_pos rfl] at hcall
      refine hdelete (fun r => !r.isMac) (fun r => ?_) hcall
      simp [VtssEntry.Deletes, hmac]
  | false =>
      rw [hmac, if_neg Bool.false_ne_true] at hcall
      refine hdelete (fun r => r.aclId = ACL_INVALID_ID) (fun r => ?_) hcall
      simp [VtssEntry.Deletes, hmac]

/-- The rules of the other entries stay, but for the one whose place the new rule takes. -/
lemma Added.rules_of_ne (h : Added chip d e a d') {other : ℕ} (hne : other ≠ e.id)
    (r : VtssEntry) : d'.rules r = some other ↔
      d.rules r = some other ∧ ¬ (a.added = true ∧ d.called chip e a = some r) := by
  cases h with
  | skipped hr => simp [hr]
  | refused hr hfree hadded => simp [hadded]
  | @done p r' hr hfree hadded =>
      by_cases heq : r = r'
      · subst heq
        simp [hr, hadded, Ne.symm hne]
      · simp [hr, hadded, Function.update_of_ne heq, Ne.symm heq]

lemma Added.platformState_of_ne (h : Added chip d e a d') {other : ℕ} (hne : other ≠ e.id) :
    d'.platformState other = d.platformState other := by
  cases h with
  | skipped => rfl
  | refused => exact Function.update_of_ne hne _ _
  | done => exact Function.update_of_ne hne _ _

lemma Added.dangles (h : Added chip d e a d') {other : ℕ} (hne : other ≠ e.id)
    (hother : d.Dangles other) : d'.Dangles other := by
  refine ⟨by rw [h.platformState_of_ne hne]; exact hother.1, fun r hr => ?_⟩
  exact hother.2 r ((h.rules_of_ne hne r).mp hr).1

/-- Another entry stays sound unless the new rule takes the place of its rule. -/
lemma Added.sound_iff_of_ne (h : Added chip d e a d') {other : ℕ} (hne : other ≠ e.id)
    (hother : d.Sound other) : d'.Sound other ↔
      ∀ r ∈ d.called chip e a, a.added = true → d.rules r ≠ some other := by
  have hrules := h.rules_of_ne hne
  have hstate := h.platformState_of_ne hne
  constructor
  · rintro hsound r hr hadded hrule
    rcases hother with ⟨-, hnone⟩ | ⟨p, r', hp, hheap, hother⟩
    · exact hnone r hrule
    · obtain rfl := (hother r).mp hrule
      refine Dangles.not_sound ⟨by rw [hstate, hp]; simp, fun r' hr' => ?_⟩ hsound
      obtain ⟨hr', hnot⟩ := (hrules r').mp hr'
      exact hnot ⟨hadded, (hother r').mp hr' ▸ hr⟩
  · intro hfree
    have hsame : ∀ r, d'.rules r = some other ↔ d.rules r = some other := by
      intro r
      rw [hrules r]
      exact and_iff_left_of_imp fun hrule ⟨hadded, hr⟩ => hfree r hr hadded hrule
    rcases hother with ⟨hp, hnone⟩ | ⟨p, r', hp, hheap, hother⟩
    · exact .inl ⟨by rw [hstate, hp], fun r hr => hnone r ((hsame r).mp hr)⟩
    · refine .inr ⟨p, r', by rw [hstate, hp], ?_, fun r => by rw [hsame r, hother r]⟩
      -- The record of the entry is not at the address that `malloc` gives.
      cases h with
      | skipped => exact hheap
      | @refused p' r hr hfree' hadded =>
          have hp' : p ≠ p' := by
            rintro rfl
            rw [hheap] at hfree'
            cases hfree'
          simp [Function.update_of_ne hp', hheap]
      | @done p' r hr hfree' hadded =>
          have hp' : p ≠ p' := by
            rintro rfl
            rw [hheap] at hfree'
            cases hfree'
          simp [Function.update_of_ne hp', hheap]

/-- The entry itself is sound if the chip takes the rule, and it has no other one. -/
lemma Added.sound_iff_self (h : Added chip d e a d') (he : d.Sound e.id) : d'.Sound e.id ↔
    ∀ r ∈ d.called chip e a, a.added = true ∧ ∀ r', d.rules r' = some e.id → r' = r := by
  cases h with
  | skipped hr => simp [hr, he]
  | @refused p r hr hfree hadded =>
      refine iff_of_false ?_ fun hall => ?_
      · rintro (⟨hnone, -⟩ | ⟨p', r', hp', hheap, -⟩)
        · simp at hnone
        · simp only [Function.update_self, Option.some.injEq] at hp'
          subst hp'
          simp at hheap
      · exact Bool.false_ne_true (hadded.symm.trans (hall r hr).1)
  | @done p r hr hfree hadded =>
      have hrules : ∀ r', Function.update d.rules r (some e.id) r' = some e.id ↔
          r' = r ∨ d.rules r' = some e.id := by
        intro r'
        by_cases heq : r' = r
        · simp [heq]
        · simp [heq]
      simp only [hr, Option.mem_def, Option.some.injEq, forall_eq', hadded, true_and]
      constructor
      · rintro (⟨hnone, -⟩ | ⟨p', r', hp', hheap, hsound⟩) r'' hr''
        · simp at hnone
        · simp only [Function.update_self, Option.some.injEq] at hp'
          subst hp'
          simp only [Function.update_self, Option.some.injEq] at hheap
          subst hheap
          exact (hsound r'').mp ((hrules r'').mpr (.inr hr''))
      · intro honly
        refine .inr ⟨p, r, Function.update_self .., Function.update_self .., fun r' => ?_⟩
        exact (hrules r').trans ⟨fun h => h.elim id (honly r'), .inl⟩

/-- **What an addition keeps.**  The entries that are left are sound after it exactly if it is of
the right kind. -/
lemma Added.sound_iff (h : Added chip d e a d') {left : Finset ℕ} (he : d.Sound e.id)
    (hleft : ∀ other ∈ left, d.Sound other)
    (hacl : ∀ r ∈ d.called chip e a, r.isMac = false → d.rules r = none) :
    (∀ other ∈ left, d'.Sound other) ↔ d.AddKeeps chip e a left := by
  constructor
  · intro hsound r hr
    refine ⟨fun hadded hmem => ?_,
      fun hadded => ⟨fun hmac other hother hrule => ?_, fun hmem => ?_⟩⟩
    · have hself := (h.sound_iff_self he).mp (hsound e.id hmem) r hr
      exact Bool.false_ne_true (hadded.symm.trans hself.1)
    · by_contra hne
      exact (h.sound_iff_of_ne hne (hleft other hother)).mp (hsound other hother) r hr hadded hrule
    · exact ((h.sound_iff_self he).mp (hsound e.id hmem) r hr).2
  · intro hkeeps other hother
    by_cases hne : other = e.id
    · subst hne
      refine (h.sound_iff_self he).mpr fun r hr => ?_
      have hadded : a.added = true := by
        by_contra hadded
        exact (hkeeps r hr).1 (by simpa using hadded) hother
      exact ⟨hadded, ((hkeeps r hr).2 hadded).2 hother⟩
    · refine (h.sound_iff_of_ne hne (hleft other hother)).mpr fun r hr hadded hrule => ?_
      cases hmac : r.isMac with
      | true => exact hne (((hkeeps r hr).2 hadded).1 hmac other hother hrule)
      | false =>
          rw [hacl r hr hmac] at hrule
          cases hrule

/-! ### Deletions -/

lemma Deleted.aclId_eq (h : Deleted d e a d') : d'.aclId = d.aclId := by
  cases h <;> rfl

lemma Deleted.platformState_eq (h : Deleted d e a d') : d'.platformState = d.platformState := by
  cases h <;> rfl

lemma Deleted.called_eq (h : Deleted d e a d') (mod : Given) (a' : Answers) :
    d'.called chip mod a' = d.called chip mod a' := by
  rw [called, recordFor, h.aclId_eq, called, recordFor]

/-- The rules of the other entries stay. -/
lemma Deleted.rules_of_ne (h : Deleted d e a d') (he : d.Sound e.id) {other : ℕ}
    (hne : other ≠ e.id) (r : VtssEntry) : d'.rules r = some other ↔ d.rules r = some other := by
  cases h with
  | absent => rfl
  | refused => rfl
  | @done p r' hp hr hdeletes =>
      have hrule := (he.names (record_eq_some.mpr ⟨p, hp, hr⟩) r').mpr rfl
      by_cases heq : r = r'
      · subst heq
        simp [hrule, Ne.symm hne]
      · simp [heq]

lemma Deleted.rules_eq_some (h : Deleted d e a d') {r : VtssEntry} {entry : ℕ}
    (hr : d'.rules r = some entry) : d.rules r = some entry := by
  cases h with
  | absent => exact hr
  | refused => exact hr
  | @done p r' hp hr' hdeletes =>
      by_cases heq : r = r'
      · simp [heq] at hr
      · simpa [heq] using hr

lemma Deleted.sound_of_ne (h : Deleted d e a d') (he : d.Sound e.id) {other : ℕ}
    (hne : other ≠ e.id) (hother : d.Sound other) : d'.Sound other := by
  have hrules := h.rules_of_ne he hne
  rcases hother with ⟨hp, hnone⟩ | ⟨p, r, hp, hheap, hother⟩
  · exact .inl ⟨by rw [h.platformState_eq, hp], fun r hr => hnone r ((hrules r).mp hr)⟩
  · refine .inr ⟨p, r, by rw [h.platformState_eq, hp], ?_, fun r' => by rw [hrules, hother]⟩
    cases h with
    | absent => exact hheap
    | refused => exact hheap
    | @done p' r' hp' hr' hdeletes =>
        -- Two entries with one record would have one rule.
        have hpne : p ≠ p' := by
          rintro rfl
          obtain rfl := Option.some.inj (hheap.symm.trans hr')
          have hrule := (he.names (record_eq_some.mpr ⟨p, hp', hr'⟩) r).mpr rfl
          exact hne (Option.some.inj (((hother r).mpr rfl).symm.trans hrule))
        simp [hpne, hheap]

/-- What becomes of the entry that is to be deleted. -/
lemma Deleted.old (h : Deleted d e a d') (he : d.Sound e.id) :
    (d.record e.id = none ∧ d' = d ∧ ∀ r, d.rules r ≠ some e.id) ∨
    ∃ r, d.record e.id = some r ∧ (r.Deletes e a ∧ d'.Dangles e.id ∨ ¬ r.Deletes e a ∧ d' = d) := by
  cases h with
  | absent hp =>
      refine .inl ⟨record_eq_none_of hp, rfl, ?_⟩
      rcases he with ⟨-, hnone⟩ | ⟨p, r, hp', -⟩
      · exact hnone
      · rw [hp] at hp'
        cases hp'
  | refused hr hnot => exact .inr ⟨_, hr, .inr ⟨hnot, rfl⟩⟩
  | @done p r hp hr hdeletes =>
      have hrecord := record_eq_some.mpr ⟨p, hp, hr⟩
      refine .inr ⟨r, hrecord, .inl ⟨hdeletes, by simp [hp], fun r' hr' => ?_⟩⟩
      by_cases heq : r' = r
      · simp [heq] at hr'
      · exact heq ((he.names hrecord r').mp (by simpa [heq] using hr'))

lemma Deleted.sound_left (h : Deleted d e a d') (he : d.Sound e.id) {left : Finset ℕ}
    (hleft : ∀ other ∈ left, d.Sound other) (hgone : ∀ r ∈ d.record e.id, e.id ∉ left) :
    ∀ other ∈ left, d'.Sound other := by
  intro other hother
  by_cases hne : other = e.id
  · subst hne
    rcases h.old he with ⟨-, rfl, -⟩ | ⟨r, hr, -⟩
    · exact he
    · exact absurd hother (hgone r hr)
  · exact h.sound_of_ne he hne (hleft other hother)

/-- If the old entry is not left with a record, then its deletion has no part in what the addition
has to keep. -/
lemma Deleted.addKeeps_iff (h : Deleted d e a d') (he : d.Sound e.id) {left : Finset ℕ}
    (hgone : ∀ r ∈ d.record e.id, e.id ∉ left) {mod : Given} (hne : mod.id ≠ e.id) :
    d'.AddKeeps chip mod a left ↔ d.AddKeeps chip mod a left := by
  have hrules : ∀ other ∈ left, ∀ r, d'.rules r = some other ↔ d.rules r = some other := by
    intro other hother r
    by_cases heq : other = e.id
    · subst heq
      rcases h.old he with ⟨-, rfl, -⟩ | ⟨r', hr', -⟩
      · rfl
      · exact absurd hother (hgone r' hr')
    · exact h.rules_of_ne he heq r
  have hmod := h.rules_of_ne he hne
  unfold AddKeeps
  rw [h.called_eq]
  simp only [hmod]
  constructor
  · intro hkeeps r hr
    refine ⟨(hkeeps r hr).1, fun hadded => ⟨fun hmac other hother hrule => ?_,
      ((hkeeps r hr).2 hadded).2⟩⟩
    exact ((hkeeps r hr).2 hadded).1 hmac other hother ((hrules other hother r).mpr hrule)
  · intro hkeeps r hr
    refine ⟨(hkeeps r hr).1, fun hadded => ⟨fun hmac other hother hrule => ?_,
      ((hkeeps r hr).2 hadded).2⟩⟩
    exact ((hkeeps r hr).2 hadded).1 hmac other hother ((hrules other hother r).mp hrule)

/-- **What a modification keeps.** -/
lemma modify_iff {old mod : Given} {d₁ : Driver} {left : Finset ℕ} (hdelete : Deleted d old a d₁)
    (hadd : Added chip d₁ mod a d') (hne : mod.id ≠ old.id) (hold : d.Sound old.id)
    (hmod : d.Sound mod.id) (hleft : ∀ other ∈ left, d.Sound other)
    (hacl : ∀ r ∈ d.called chip mod a, r.isMac = false → d.rules r = none) :
    ((∀ other ∈ left, d'.Sound other) ∧ ∀ r, d'.rules r ≠ some old.id) ↔
      (∀ r ∈ d.record old.id, old.id ∉ left ∧
        (r.Deletes old a ∨ a.added = true ∧ d.called chip mod a = some r)) ∧
      d.AddKeeps chip mod a left := by
  have hacl₁ : ∀ r ∈ d₁.called chip mod a, r.isMac = false → d₁.rules r = none := by
    intro r hr hmac
    rw [hdelete.called_eq] at hr
    by_contra hsome
    obtain ⟨entry, hentry⟩ := Option.ne_none_iff_exists'.mp hsome
    have hrule := hdelete.rules_eq_some hentry
    rw [hacl r hr hmac] at hrule
    cases hrule
  have hrules := hadd.rules_of_ne hne.symm
  have hadded_iff := fun hgone : ∀ r ∈ d.record old.id, old.id ∉ left =>
    (hadd.sound_iff (hdelete.sound_of_ne hold hne hmod) (hdelete.sound_left hold hleft hgone)
      hacl₁).trans (hdelete.addKeeps_iff hold hgone hne)
  constructor
  · rintro ⟨hsound, hgone⟩
    have hrecord : ∀ r ∈ d.record old.id, old.id ∉ left ∧
        (r.Deletes old a ∨ a.added = true ∧ d.called chip mod a = some r) := by
      intro r hr
      rcases hdelete.old hold with ⟨hnone, -, -⟩ | ⟨r', hr', hcases⟩
      · rw [hnone] at hr
        cases hr
      obtain rfl := Option.some.inj (hr.symm.trans hr')
      rcases hcases with ⟨hdeletes, hdangles⟩ | ⟨-, rfl⟩
      · exact ⟨fun hmem => (hadd.dangles hne.symm hdangles).not_sound (hsound _ hmem),
          .inl hdeletes⟩
      -- The rule is still there, and must be the one that the new rule replaces.
      · obtain ⟨p, hp, -⟩ := record_eq_some.mp hr
        have hdangles : d'.Dangles old.id :=
          ⟨by rw [hadd.platformState_of_ne hne.symm, hp]; simp, hgone⟩
        refine ⟨fun hmem => hdangles.not_sound (hsound _ hmem), .inr ?_⟩
        by_contra hnot
        exact hgone r ((hrules r).mpr ⟨(hold.names hr r).mpr rfl, hnot⟩)
    exact ⟨hrecord, (hadded_iff fun r hr => (hrecord r hr).1).mp hsound⟩
  · rintro ⟨hrecord, hkeeps⟩
    refine ⟨(hadded_iff fun r hr => (hrecord r hr).1).mpr hkeeps, fun r hr => ?_⟩
    obtain ⟨hrule, hnot⟩ := (hrules r).mp hr
    rcases hdelete.old hold with ⟨-, rfl, hnone⟩ | ⟨r', hr', ⟨-, hdangles⟩ | ⟨hdeletes, rfl⟩⟩
    · exact hnone r hrule
    · exact hdangles.2 r hrule
    · obtain rfl := (hold.names hr' r).mp hrule
      exact hnot ((hrecord r hr').2.resolve_left hdeletes)

/-- **What a removal keeps.** -/
lemma remove_iff {left : Finset ℕ} (hdelete : Deleted d e a d') (he : d.Sound e.id)
    (hleft : ∀ other ∈ left, d.Sound other) :
    ((∀ other ∈ left, d'.Sound other) ∧ ∀ r, d'.rules r ≠ some e.id) ↔
      ∀ r ∈ d.record e.id, e.id ∉ left ∧ r.Deletes e a := by
  constructor
  · rintro ⟨hsound, hgone⟩ r hr
    rcases hdelete.old he with ⟨hnone, -, -⟩ | ⟨r', hr', hcases⟩
    · rw [hnone] at hr
      cases hr
    obtain rfl := Option.some.inj (hr.symm.trans hr')
    rcases hcases with ⟨hdeletes, hdangles⟩ | ⟨-, rfl⟩
    · exact ⟨fun hmem => hdangles.not_sound (hsound _ hmem), hdeletes⟩
    · exact absurd ((he.names hr r).mpr rfl) (hgone r)
  · intro hrecord
    refine ⟨hdelete.sound_left he hleft fun r hr => (hrecord r hr).1, fun r hrule => ?_⟩
    rcases hdelete.old he with ⟨-, rfl, hnone⟩ | ⟨r', hr', ⟨-, hdangles⟩ | ⟨hdeletes, -⟩⟩
    · exact hnone r hrule
    · exact hdangles.2 r hrule
    · exact hdeletes (hrecord r' hr').2

/-- A hook that does nothing keeps an entry's rule. -/
lemma skip_iff {left : Finset ℕ} (he : d.Sound e.id) (hleft : ∀ other ∈ left, d.Sound other) :
    ((∀ other ∈ left, d.Sound other) ∧ ∀ r, d.rules r ≠ some e.id) ↔ d.record e.id = none := by
  constructor
  · rintro ⟨-, hgone⟩
    by_contra hsome
    obtain ⟨r, hr⟩ := Option.ne_none_iff_exists'.mp hsome
    exact hgone r ((he.names hr r).mpr rfl)
  · intro hnone
    refine ⟨hleft, fun r hrule => ?_⟩
    rcases he with ⟨-, hnot⟩ | ⟨p, r', hp, hheap, -⟩
    · exact hnot r hrule
    · rw [record_eq_some.mpr ⟨p, hp, hheap⟩] at hnone
      cases hnone

end Effects

/-! ### The ids of the access control list -/

/-- The ids in use come before the next one, which has not gone past the last one. -/
structure Counted (d : Driver) : Prop where
  ids : ∀ aclId, d.rules (.acl aclId) ≠ none → (aclId - 1).toNat < (d.aclId - 1).toNat
  bound : (d.aclId - 1).toNat ≤ (chip.aceIdLast - 1).toNat

section Counted

variable {chip} {d d' : Driver} {e : Given} {a : Answers}

/-- A rule for the access control list has the next id, which is not the last one. -/
lemma called_eq_acl {r : VtssEntry} (hr : d.called chip e a = some r) (hmac : r.isMac = false) :
    r = .acl d.aclId ∧ d.aclId ≠ chip.aceIdLast := by
  have hfor : d.recordFor chip e a = some r := by
    unfold called at hr
    by_cases halloc : a.alloc = none
    · rw [if_pos halloc] at hr
      cases hr
    · rwa [if_neg halloc] at hr
  unfold recordFor at hfor
  by_cases hL2 : e.flow.isL2Entry = true
  · rw [if_pos hL2] at hfor
    by_cases htable : e.flow.isEntryForMacTable = true
    · rw [if_pos htable] at hfor
      obtain ⟨entry, -, rfl⟩ := Option.map_eq_some_iff.mp hfor
      cases hmac
    · rw [if_neg htable] at hfor
      by_cases hinit : a.aceInit = true
      · rw [if_pos hinit] at hfor
        obtain ⟨ace, hace, rfl⟩ := Option.map_eq_some_iff.mp hfor
        refine ⟨rfl, fun hlast => ?_⟩
        simp [Fscale.addFlowEntry, generateAclEntryMatches, hlast] at hace
      · rw [if_neg hinit] at hfor
        cases hfor
  · rw [if_neg hL2] at hfor
    cases hfor

lemma Counted.rules_called (h : d.Counted chip) {r : VtssEntry} (hr : d.called chip e a = some r)
    (hmac : r.isMac = false) : d.rules r = none := by
  obtain ⟨rfl, -⟩ := called_eq_acl hr hmac
  by_contra hsome
  exact lt_irrefl _ (h.ids _ hsome)

lemma Counted.added (h : d.Counted chip) (hadd : Added chip d e a d') : d'.Counted chip := by
  cases hadd with
  | skipped => exact h
  | refused => exact ⟨h.ids, h.bound⟩
  | @done p r hr hfree hadded =>
      cases hmac : r.isMac with
      | true =>
          refine ⟨fun aclId hrule => h.ids aclId ?_, h.bound⟩
          have hne : .acl aclId ≠ r := by
            rintro rfl
            cases hmac
          simpa [hne] using hrule
      | false =>
          obtain ⟨rfl, hlast⟩ := called_eq_acl hr hmac
          have hbound := h.bound
          have hnext : (d.aclId + 1 - 1).toNat = (d.aclId - 1).toNat + 1 := by bv_omega
          refine ⟨fun aclId hrule => ?_, ?_⟩
          · change (aclId - 1).toNat < (d.aclId + 1 - 1).toNat
            rw [hnext, Nat.lt_succ_iff]
            by_cases heq : aclId = d.aclId
            · rw [heq]
            · exact (h.ids aclId (by simpa [heq] using hrule)).le
          · change (d.aclId + 1 - 1).toNat ≤ _
            bv_omega

lemma Counted.deleted (h : d.Counted chip) (hdelete : Deleted d e a d') : d'.Counted chip := by
  refine ⟨fun aclId hrule => ?_, by rw [hdelete.aclId_eq]; exact h.bound⟩
  obtain ⟨entry, hentry⟩ := Option.ne_none_iff_exists'.mp hrule
  rw [hdelete.aclId_eq]
  exact h.ids aclId (by rw [hdelete.rules_eq_some hentry]; simp)

end Counted

end Driver

/-! ## Whole runs -/

namespace State

open Driver

/-- The records are right, the entries that have not been given to a hook have none, and no id is
used twice. -/
structure Inv (s : State) : Prop where
  sound : ∀ entry ∈ s.live, s.driver.Sound entry
  live_subset : s.live ⊆ s.seen
  unseen : ∀ entry ∉ s.seen,
    s.driver.platformState entry = none ∧ ∀ r, s.driver.rules r ≠ some entry
  counted : s.driver.Counted chip

lemma inv_init : Inv chip .init where
  sound := nofun
  live_subset := Finset.Subset.refl ∅
  unseen _ _ := ⟨rfl, nofun⟩
  counted := ⟨fun _ h => absurd rfl h, by simp [init, Driver.init]⟩

section Step

variable {chip} {s s' : State} {call : Call} {d' : Driver}

lemma step_eq_some (h : s.step chip call = some s') : ∃ d', s.hook chip call.hook = some d' ∧
    s' = ⟨d', s.left call, s.seen ∪ call.hook.new⟩ := by
  obtain ⟨d', hd', rfl⟩ := Option.map_eq_some_iff.mp h
  exact ⟨d', hd', rfl⟩

lemma hook_add {e : Given} {a : Answers} (h : s.hook chip (.add e a) = some d') :
    e.id ∉ s.seen ∧ Added chip s.driver e a d' := by
  obtain ⟨hnew, h⟩ := Option.ite_none_right_eq_some.mp h
  exact ⟨hnew, added_of_addEntryHook h⟩

lemma hook_modify {old mod : Given} {a : Answers} (h : s.hook chip (.modify old mod a) = some d') :
    (old.id ∈ s.live ∧ mod.id ≠ old.id ∧ (mod.id ∈ s.live ∨ mod.id ∉ s.seen)) ∧
      (mod.flow.isL2Entry = false ∧ d' = s.driver ∨ mod.flow.isL2Entry = true ∧
        ∃ d₁, Deleted s.driver old a d₁ ∧ Added chip d₁ mod a d') := by
  obtain ⟨hgiven, h⟩ := Option.ite_none_right_eq_some.mp h
  refine ⟨hgiven, ?_⟩
  unfold modifyEntryHook at h
  cases hL2 : mod.flow.isL2Entry with
  | false =>
      rw [hL2, if_neg Bool.false_ne_true] at h
      exact .inl ⟨rfl, (Option.some.inj h).symm⟩
  | true =>
      rw [hL2, if_pos rfl] at h
      obtain ⟨d₁, hdelete, hadd⟩ := Option.bind_eq_some_iff.mp h
      exact .inr ⟨rfl, d₁, deleted_of_deleteEntry hdelete, added_of_addEntry hL2 hadd⟩

lemma hook_remove {e : Given} {a : Answers} (h : s.hook chip (.remove e a) = some d') :
    e.id ∈ s.live ∧ (e.flow.isL2Entry = false ∧ d' = s.driver ∨
      e.flow.isL2Entry = true ∧ Deleted s.driver e a d') := by
  obtain ⟨hgiven, h⟩ := Option.ite_none_right_eq_some.mp h
  refine ⟨hgiven, ?_⟩
  unfold removeEntryHook at h
  cases hL2 : e.flow.isL2Entry with
  | false =>
      rw [hL2, if_neg Bool.false_ne_true] at h
      exact .inl ⟨rfl, (Option.some.inj h).symm⟩
  | true =>
      rw [hL2, if_pos rfl] at h
      exact .inr ⟨rfl, deleted_of_deleteEntry h⟩

/-- A hook is a deletion followed by an addition, where it may leave out either. -/
lemma hook_cases {hook : Hook} (h : s.hook chip hook = some d') :
    ∃ d₁, (d₁ = s.driver ∨ ∃ e a, Deleted s.driver e a d₁) ∧
      (d' = d₁ ∨ ∃ e a, e.id ∈ hook.new ∧ Added chip d₁ e a d') := by
  cases hook with
  | add e a => exact ⟨_, .inl rfl, .inr ⟨e, a, Finset.mem_singleton_self _, (hook_add h).2⟩⟩
  | modify old mod a =>
      rcases (hook_modify h).2 with ⟨-, rfl⟩ | ⟨-, d₁, hdelete, hadd⟩
      · exact ⟨_, .inl rfl, .inl rfl⟩
      · exact ⟨d₁, .inr ⟨old, a, hdelete⟩, .inr ⟨mod, a, Finset.mem_singleton_self _, hadd⟩⟩
  | remove e a =>
      rcases (hook_remove h).2 with ⟨-, rfl⟩ | ⟨-, hdelete⟩
      · exact ⟨_, .inl rfl, .inl rfl⟩
      · exact ⟨d', .inr ⟨e, a, hdelete⟩, .inl rfl⟩

lemma Inv.sound_of_unseen (h : s.Inv chip) {entry : ℕ} (hentry : entry ∉ s.seen) :
    s.driver.Sound entry :=
  .inl (h.unseen entry hentry)

lemma rightAfter_iff (hstep : s.step chip call = some s') : s.RightAfter chip call ↔
    (∀ entry ∈ s.left call, s'.driver.Sound entry) ∧
      ∀ e ∈ call.hook.old, ∀ r, s'.driver.rules r ≠ some e.id := by
  have hlive : s'.live = s.left call := by
    obtain ⟨d', -, rfl⟩ := step_eq_some hstep
    rfl
  rw [← hlive, ← right_iff]
  constructor
  · intro h
    exact h s' hstep
  · intro h s'' hstep'
    obtain rfl := Option.some.inj (hstep.symm.trans hstep')
    exact h

/-- **A call.**  The records are right after it exactly if it is one that keeps them so. -/
theorem rightAfter_iff_keeps (h : s.Inv chip) (hstep : s.step chip call = some s') :
    s.RightAfter chip call ↔ s.Keeps chip call := by
  rw [rightAfter_iff hstep]
  obtain ⟨d', hhook, rfl⟩ := step_eq_some hstep
  have hleft : (∀ entry ∈ call.hook.new, s.driver.Sound entry) →
      ∀ entry ∈ s.left call, s.driver.Sound entry := by
    intro hnew entry hentry
    rcases Finset.mem_union.mp (Finset.mem_sdiff.mp hentry).1 with hlive | hmem
    · exact h.sound entry hlive
    · exact hnew entry hmem
  unfold Keeps
  cases hcall : call.hook with
  | add e a =>
      rw [hcall] at hhook hleft
      obtain ⟨hunseen, hadd⟩ := hook_add hhook
      have he := h.sound_of_unseen hunseen
      have hiff := hadd.sound_iff he (hleft (by simpa [Hook.new] using he))
        (fun r => h.counted.rules_called)
      simpa [Hook.old] using hiff
  | modify old mod a =>
      rw [hcall] at hhook hleft
      obtain ⟨⟨hlive, hne, hmod⟩, hcases⟩ := hook_modify hhook
      have hsound : s.driver.Sound mod.id := hmod.elim (h.sound mod.id) h.sound_of_unseen
      have hleft' := hleft (by simpa [Hook.new] using hsound)
      have hold := h.sound old.id hlive
      rcases hcases with ⟨hL2, rfl⟩ | ⟨hL2, d₁, hdelete, hadd⟩
      · have hcalled : s.driver.called chip mod a = none := by simp [called, recordFor, hL2]
        have hiff := skip_iff hold hleft'
        simpa [Hook.old, hL2, AddKeeps, hcalled, Option.eq_none_iff_forall_ne_some] using hiff
      · have hiff := modify_iff hdelete hadd hne hold hsound hleft'
          (fun r => h.counted.rules_called)
        simpa [Hook.old, hL2] using hiff
  | remove e a =>
      rw [hcall] at hhook hleft
      obtain ⟨hlive, hcases⟩ := hook_remove hhook
      have hleft' := hleft (by simp [Hook.new])
      have he := h.sound e.id hlive
      rcases hcases with ⟨hL2, rfl⟩ | ⟨hL2, hdelete⟩
      · have hiff := skip_iff he hleft'
        simpa [Hook.old, hL2, Option.eq_none_iff_forall_ne_some] using hiff
      · have hiff := remove_iff hdelete he hleft'
        simpa [Hook.old, hL2] using hiff

/-- **The step.** -/
lemma Inv.step (h : s.Inv chip) (hkeeps : s.Keeps chip call)
    (hstep : s.step chip call = some s') : s'.Inv chip := by
  have hsound := ((rightAfter_iff hstep).mp ((rightAfter_iff_keeps h hstep).mpr hkeeps)).1
  obtain ⟨d', hhook, rfl⟩ := step_eq_some hstep
  obtain ⟨d₁, hdelete, hadd⟩ := hook_cases hhook
  have hcounted : d₁.Counted chip := by
    rcases hdelete with rfl | ⟨e, a, hdelete⟩
    · exact h.counted
    · exact h.counted.deleted hdelete
  have hunseen : ∀ entry ∉ s.seen,
      d₁.platformState entry = none ∧ ∀ r, d₁.rules r ≠ some entry := by
    intro entry hentry
    rcases hdelete with rfl | ⟨e, a, hdelete⟩
    · exact h.unseen entry hentry
    · obtain ⟨hp, hnone⟩ := h.unseen entry hentry
      exact ⟨by rw [hdelete.platformState_eq, hp],
        fun r hr => hnone r (hdelete.rules_eq_some hr)⟩
  refine ⟨hsound, ?_, fun entry hentry => ?_, ?_⟩
  · exact Finset.sdiff_subset.trans (Finset.union_subset_union_left h.live_subset)
  · rw [Finset.mem_union, not_or] at hentry
    obtain ⟨hp, hnone⟩ := hunseen entry hentry.1
    rcases hadd with rfl | ⟨e, a, he, hadd⟩
    · exact ⟨hp, hnone⟩
    · have hne : entry ≠ e.id := fun heq => hentry.2 (heq ▸ he)
      exact ⟨by rw [hadd.platformState_of_ne hne, hp],
        fun r hr => hnone r ((hadd.rules_of_ne hne r).mp hr).1⟩
  · rcases hadd with rfl | ⟨e, a, -, hadd⟩
    · exact hcounted
    · exact hcounted.added hadd

end Step

/-- **The records in every run.**  After every call of a run the records are right, and the old rule
is gone, exactly if every call is one that keeps them so. -/
theorem run_right_iff (calls : List Call) (s : State) :
    Run (State.step chip) (RightAfter chip) .init calls s ↔
      Run (State.step chip) (Keeps chip) .init calls s := by
  have hiff : ∀ (s : State) (call : Call) (s' : State), s.Inv chip →
      s.step chip call = some s' → (s.RightAfter chip call ↔ s.Keeps chip call) :=
    fun _ _ _ => rightAfter_iff_keeps
  have hkeep : ∀ (s : State) (call : Call) (s' : State), s.Inv chip →
      s.Keeps chip call → s.step chip call = some s' → s'.Inv chip :=
    fun _ _ _ => Inv.step
  exact run_congr hiff hkeep (inv_init chip) calls

/-- Frames that come in at one port go out of another one. -/
def onePort : Given :=
  { id := 0
    flow :=
      { matchs := [{ type := .inPort, value32 := 1 }]
        applyActions := some [{ type := .output, field32 := 2 }] } }

/-- The first entry is added, and the chip refuses it: its pointer is left. -/
theorem not_rightAfter_refused :
    ¬ ∀ (chip : Chip) (calls : List Call) (s : State),
      Run (State.step chip) anyStep .init calls s → ∀ call, s.RightAfter chip call := by
  intro h
  have hstep : ∃ s ∈ State.step eightPorts .init
      ⟨.add onePort { alloc := some 0, added := false }, ∅⟩,
      0 ∈ s.live ∧ s.driver.platformState 0 = some 0 ∧ s.driver.heap 0 = none := by decide
  obtain ⟨s, hs, hlive, hstate, hheap⟩ := hstep
  obtain ⟨hright, -⟩ := h eightPorts [] .init (.nil _) _ s hs
  exact hright.alive 0 hlive 0 hstate hheap

end State

end Xdpd.Fscale
