import Mathlib.Data.List.Nodup
import Mathlib.Data.List.Perm.Subperm
import Xdpd.Fscale.FlowEntry
import Xdpd.Lib.KeyedFold
import Xdpd.Lib.Loops

/-!
# What the rules of the Freescale switch mean

An entry of the access control list is made in one pass over the matches, and initialised by the
first of them if that is one on a port or on an address.  A match on an address that comes after one
on a port has the entry made anew, with the ports that are in it; one on a port that comes after an
address adds its port to all others.  Matches on the Ethernet type and on the VLAN do nothing.
-/

namespace Xdpd.Fscale

open Xdpd.Lib

/-! ## Frames -/

/-- What can be matched of a frame; the ports have the numbers of the chip. -/
structure Frame where
  port : BitVec 8
  ethDst : BitVec 48
  ethSrc : BitVec 48
  /-- the one after the tag -/
  ethType : BitVec 16
  tag : Option (BitVec 12)

/-- The bits that count are as in the value. -/
def Tern.Accepts {w : ℕ} (t : Tern w) (field : BitVec w) : Prop :=
  field &&& t.mask = t.value &&& t.mask

/-- The tag of a frame is as a match on the VLAN says. -/
def Match.AcceptsTag (m : Match) (tag : Option (BitVec 12)) : Prop :=
  match m.vlanPresent with
  | .none => tag = none
  | .any => tag ≠ none
  | .specific => ∃ vid, tag = some vid ∧
      (⟨m.value16.setWidth 12, m.mask16.setWidth 12⟩ : Tern 12).Accepts vid

/-- The frame is as the match says. -/
def Match.Accepts (m : Match) (f : Frame) : Prop :=
  match m.type with
  | .inPort | .inPhyPort => m.value32 = f.port.setWidth 32
  | .ethDst => m.tern.Accepts f.ethDst
  | .ethSrc => m.tern.Accepts f.ethSrc
  | .ethType => f.ethType = m.value16
  | .vlanVid => m.AcceptsTag f.tag
  | .other => True

/-- All matches of the entry are met. -/
def FlowEntry.Accepts (e : FlowEntry) (f : Frame) : Prop := ∀ m ∈ e.matchs, m.Accepts f

/-- An entry with at most one match of each type; an address without a wildcard has all bits in its
mask. -/
structure Entry extends FlowEntry where
  nodup : (matchs.map fun m => m.type).Nodup
  exact : ∀ m ∈ matchs, m.type = .ethDst ∨ m.type = .ethSrc → m.hasWildcard = false →
    m.tern.mask = BitVec.allOnes 48

/-- The type of frame that the entry of the list is for. -/
def Ace.AcceptsType (chip : Chip) (ace : Ace) (f : Frame) : Prop :=
  match ace.type with
  | none => False
  | some .any => True
  | some .etype => chip.isEtype f.ethType = true ∧ (∃ t ∈ ace.dmac, t.Accepts f.ethDst) ∧
      ∃ t ∈ ace.smac, t.Accepts f.ethSrc

/-- The chip applies the rule to the frame. -/
def Rule.Accepts (chip : Chip) (f : Frame) : Rule → Prop
  | .mac entry => chip.vid f.port f.tag = entry.vid ∧ f.ethDst = entry.mac
  | .acl ace => ace.portList f.port = some true ∧
      (∃ t ∈ ace.vid, t.Accepts (chip.vid f.port f.tag)) ∧ ace.AcceptsType chip f

/-- The rule has no field that was not written. -/
def Rule.Initialised : Rule → Prop
  | .mac _ => True
  | .acl ace => ace.Initialised

/-- The rule that is made matches the frames that the entry does, it has no field without a value,
and it does not depend on the order of the matches. -/
structure Entry.Translated (chip : Chip) (aclId : BitVec 32) (e : Entry) : Prop where
  accepts_iff : ∀ rule, addEntryHook chip aclId e.toFlowEntry = some rule →
    ∀ f : Frame, rule.Accepts chip f ↔ e.Accepts f
  initialised : ∀ rule, addEntryHook chip aclId e.toFlowEntry = some rule → rule.Initialised
  perm : ∀ matchs, matchs.Perm e.matchs →
    addEntryHook chip aclId { e.toFlowEntry with matchs } = addEntryHook chip aclId e.toFlowEntry

/-! ## When it is right -/

/-- The actions, if there are any. -/
def FlowEntry.actions (e : FlowEntry) : List Action := e.applyActions.getD []

/-- The match is on a port. -/
def Match.OnPort (m : Match) : Prop := m.type = .inPort ∨ m.type = .inPhyPort

/-- The match is on an address. -/
def Match.OnAddress (m : Match) : Prop := m.type = .ethDst ∨ m.type = .ethSrc

/-- An action that is not for the table of addresses. -/
def Action.NotForMac (a : Action) : Prop :=
  a.type ≠ .output ∨ a.field32 = OF1X_PORT_NORMAL ∨ a.field32 = OF1X_PORT_IN_PORT

/-- An action that is not for the access control list. -/
def Action.NotForAcl (a : Action) : Prop :=
  a.type = .output ∧ (a.field32 = OF1X_PORT_FLOOD ∨ a.field32 = OF1X_PORT_NORMAL ∨
    a.field32 = OF1X_PORT_ALL ∨ a.field32 = OF1X_PORT_IN_PORT)

/-- The access control list does not take the entry. -/
def FlowEntry.AclRefused (chip : Chip) (aclId : BitVec 32) (e : FlowEntry) : Prop :=
  aclId = chip.aceIdLast ∨ (∃ m ∈ e.matchs, m.OnPort ∧ chip.usable m.portNo.toNat = false) ∨
    ∃ a ∈ e.actions, a.NotForAcl

/-- The VLAN of the match on it, or the default. -/
def FlowEntry.vid (e : FlowEntry) : BitVec 16 :=
  ((e.matchs.find? fun m => m.type = .vlanVid).map fun m => m.value16).getD 1

/-- The entry is for any source address, and for the frames that the chip has in the VLAN of the
rule. -/
def Entry.AnySourceInVlan (chip : Chip) (e : Entry) : Prop :=
  (∀ m ∈ e.matchs, m.type ≠ .ethSrc) ∧
    ∀ port tag, (∀ m ∈ e.matchs, m.type = .vlanVid → m.AcceptsTag tag) ↔
      chip.vid port tag = e.vid

/-- The matches are on one port only, or on addresses that all frames can have. -/
def Entry.OnePortOrAddresses (chip : Chip) (e : Entry) : Prop :=
  (∃ port : BitVec 8, ∀ m ∈ e.matchs, m.OnPort ∧ m.value32 = port.setWidth 32) ∨
    ∀ m ∈ e.matchs, m.OnAddress ∧ ∀ ethType, chip.isEtype ethType = true

/-- The entry is refused; or it is for the table of addresses, with any source address and the
frames of the VLAN; or it is for the access control list, with one port or addresses only. -/
def Entry.Expressible (chip : Chip) (aclId : BitVec 32) (e : Entry) : Prop :=
  e.isL2Entry = true →
    if e.isEntryForMacTable then (∃ a ∈ e.actions, a.NotForMac) ∨ e.AnySourceInVlan chip
    else e.AclRefused chip aclId ∨ e.OnePortOrAddresses chip

/-! ## Which entries are taken -/

lemma FlowEntry.isL2Entry_iff {e : FlowEntry} :
    e.isL2Entry = true ↔
      (∀ m ∈ e.matchs, m.type ≠ .other) ∧ e.applyActions.any actionsAreOnlyL2 = true := by
  rw [FlowEntry.isL2Entry, Bool.and_eq_true, Bool.and_eq_true]
  refine and_congr_left fun _ => ?_
  constructor
  · rintro ⟨hmatch, -⟩
    simpa [FlowEntry.matchBm] using hmatch
  · intro h
    refine ⟨by simpa [FlowEntry.matchBm] using h, ?_⟩
    -- what is in the one bitmap is in the other
    have hwildcard : ∀ m ∈ e.matchs, m.hasWildcard = false ∨ m.type ≠ .other := fun m hm =>
      .inr (h m hm)
    simpa [FlowEntry.wildcardBm] using hwildcard

lemma FlowEntry.isEntryForMacTable_iff {e : FlowEntry} :
    e.isEntryForMacTable = true ↔
      (∀ m ∈ e.matchs, (m.OnAddress ∨ m.type = .vlanVid) ∧ m.hasWildcard = false) ∧
        (∃ m ∈ e.matchs, m.type = .ethDst) ∧ e.applyActions.any actionsAreOnlyL2 = true := by
  simp only [FlowEntry.isEntryForMacTable, FlowEntry.matchBm, FlowEntry.wildcardBm,
    Bool.and_eq_true, List.all_map, List.all_eq_true, Function.comp_apply, decide_eq_true_eq,
    List.isEmpty_iff, List.map_eq_nil_iff, List.filter_eq_nil_iff, List.contains_eq_mem,
    List.mem_map, Bool.not_eq_true, Match.OnAddress]
  constructor
  · rintro ⟨⟨⟨htype, hexact⟩, hactions⟩, hdst⟩
    refine ⟨fun m hm => ⟨?_, hexact m hm⟩, hdst, hactions⟩
    rcases htype m hm with h | h | h
    · exact .inl (.inr h)
    · exact .inl (.inl h)
    · exact .inr h
  · rintro ⟨hmatch, hdst, hactions⟩
    refine ⟨⟨⟨fun m hm => ?_, fun m hm => (hmatch m hm).2⟩, hactions⟩, hdst⟩
    rcases (hmatch m hm).1 with (h | h) | h
    · exact .inr (.inl h)
    · exact .inl h
    · exact .inr (.inr h)

/-- An entry that is taken has actions. -/
lemma FlowEntry.applyActions_of_any {e : FlowEntry}
    (h : e.applyActions.any actionsAreOnlyL2 = true) :
    e.applyActions = some e.actions ∧ e.actions ≠ [] := by
  obtain ⟨actions, hactions, honly⟩ := (Option.any_eq_true _ _).mp h
  refine ⟨by rw [FlowEntry.actions, hactions, Option.getD_some], ?_⟩
  rw [FlowEntry.actions, hactions, Option.getD_some]
  rintro rfl
  exact absurd honly (by decide)

section Perm

variable {e : FlowEntry} {matchs : List Match}

lemma isL2Entry_perm (h : matchs.Perm e.matchs) :
    { e with matchs }.isL2Entry = e.isL2Entry := by
  rw [Bool.eq_iff_iff, FlowEntry.isL2Entry_iff, FlowEntry.isL2Entry_iff]
  simp only [h.mem_iff]

lemma isEntryForMacTable_perm (h : matchs.Perm e.matchs) :
    { e with matchs }.isEntryForMacTable = e.isEntryForMacTable := by
  rw [Bool.eq_iff_iff, FlowEntry.isEntryForMacTable_iff, FlowEntry.isEntryForMacTable_iff]
  simp only [h.mem_iff]

end Perm

variable {chip : Chip} {aclId : BitVec 32}

/-! ## The table of addresses -/

lemma matchStep_eq_none_iff (entry : MacEntry) (m : Match) :
    entry.matchStep m = none ↔ ¬ (m.OnAddress ∨ m.type = .vlanVid) := by
  rw [MacEntry.matchStep, Match.OnAddress]
  cases m.type <;> simp

lemma actionStep_eq_none_iff (entry : MacEntry) (a : Action) :
    entry.actionStep chip a = none ↔ a.NotForMac := by
  rw [MacEntry.actionStep, Action.NotForMac]
  cases a.type with
  | output =>
      by_cases hcontroller : a.field32 = OF1X_PORT_CONTROLLER
      · simp [hcontroller, OF1X_PORT_CONTROLLER, OF1X_PORT_NORMAL, OF1X_PORT_IN_PORT]
      by_cases hall : a.field32 = OF1X_PORT_ALL ∨ a.field32 = OF1X_PORT_FLOOD
      · rcases hall with hall | hall <;>
          simp [hall, OF1X_PORT_CONTROLLER, OF1X_PORT_NORMAL, OF1X_PORT_IN_PORT, OF1X_PORT_ALL,
            OF1X_PORT_FLOOD]
      by_cases hnormal : a.field32 = OF1X_PORT_NORMAL ∨ a.field32 = OF1X_PORT_IN_PORT
      · simp [hcontroller, hall, hnormal]
      · rw [not_or] at hnormal
        simp only [hcontroller, hall, hnormal, if_false, or_false, ne_eq, not_true_eq_false,
          iff_false]
        split <;> nofun
  | _ => simp

/-- The entry for the table of addresses. -/
def macRule (chip : Chip) (e : FlowEntry) : MacEntry :=
  e.actions.foldl (turn (MacEntry.actionStep chip))
    (e.matchs.foldl (turn MacEntry.matchStep) ⟨1, 0, true, false, fun _ => false⟩)

lemma generateMacEntry_eq {e : FlowEntry} (h : e.isEntryForMacTable = true) :
    generateMacEntry chip e =
      e.actions.foldlM (MacEntry.actionStep chip)
        (e.matchs.foldl (turn MacEntry.matchStep) ⟨1, 0, true, false, fun _ => false⟩) := by
  obtain ⟨hmatch, -, hany⟩ := FlowEntry.isEntryForMacTable_iff.mp h
  obtain ⟨hactions, hne⟩ := FlowEntry.applyActions_of_any hany
  have hmatchs := foldlM_eq_some matchStep_eq_none_iff
    (fun m hm => not_not_intro (hmatch m hm).1) ⟨1, 0, true, false, fun _ => false⟩
  rw [generateMacEntry, hmatchs, Option.bind_eq_bind, Option.bind_some, hactions]
  generalize e.actions = actions at hne ⊢
  cases actions with
  | nil => exact absurd rfl hne
  | cons a actions => rfl

lemma writesAt_mac : WritesAt (turn MacEntry.matchStep) (fun m => m.type) (fun entry => entry.mac)
    .ethDst fun m => m.tern.value where
  write_eq entry m h := by simp [turn, MacEntry.matchStep, h]
  keep entry m h := by
    cases ht : m.type <;> simp_all [turn, MacEntry.matchStep]

lemma writesAt_vid : WritesAt (turn MacEntry.matchStep) (fun m => m.type) (fun entry => entry.vid)
    .vlanVid fun m => m.value16 where
  write_eq entry m h := by simp [turn, MacEntry.matchStep, h]
  keep entry m h := by
    cases ht : m.type <;> simp_all [turn, MacEntry.matchStep]

/-- The actions leave the address and the VLAN. -/
lemma actionStep_keep (entry : MacEntry) (a : Action) :
    (turn (MacEntry.actionStep chip) entry a).mac = entry.mac ∧
      (turn (MacEntry.actionStep chip) entry a).vid = entry.vid := by
  rw [turn, MacEntry.actionStep]
  dsimp only
  split
  · split_ifs <;> exact ⟨rfl, rfl⟩
  · exact ⟨rfl, rfl⟩

lemma foldl_actionStep_keep (actions : List Action) (entry : MacEntry) :
    (actions.foldl (turn (MacEntry.actionStep chip)) entry).mac = entry.mac ∧
      (actions.foldl (turn (MacEntry.actionStep chip)) entry).vid = entry.vid := by
  refine List.foldlRecOn
    (motive := fun entry' : MacEntry => entry'.mac = entry.mac ∧ entry'.vid = entry.vid)
    actions _ ⟨rfl, rfl⟩ fun entry' h a _ => ?_
  exact ⟨(actionStep_keep entry' a).1.trans h.1, (actionStep_keep entry' a).2.trans h.2⟩

lemma Entry.eq_of_type (e : Entry) {m m' : Match} (hm : m ∈ e.matchs) (hm' : m' ∈ e.matchs)
    (h : m.type = m'.type) : m = m' :=
  List.inj_on_of_nodup_map e.nodup hm hm' h

lemma macRule_mac (e : Entry) {m : Match} (hm : m ∈ e.matchs) (ht : m.type = .ethDst) :
    (macRule chip e.toFlowEntry).mac = m.tern.value :=
  (foldl_actionStep_keep _ _).1.trans (writesAt_mac.foldl_of_mem e.nodup hm ht _)

lemma macRule_vid (e : Entry) : (macRule chip e.toFlowEntry).vid = e.vid := by
  refine (foldl_actionStep_keep _ _).2.trans ?_
  rw [FlowEntry.vid]
  cases hfind : e.matchs.find? fun m => m.type = .vlanVid with
  | none =>
      have hne : ∀ m ∈ e.matchs, m.type ≠ .vlanVid := by simpa using hfind
      exact writesAt_vid.foldl_of_forall_ne hne _
  | some m =>
      have ht : m.type = .vlanVid := by simpa using List.find?_some hfind
      exact writesAt_vid.foldl_of_mem e.nodup (List.mem_of_find?_eq_some hfind) ht _

/-- Matches of different types can be exchanged. -/
lemma matchStep_comm {m m' : Match} (h : m.type ≠ m'.type) (entry : MacEntry) :
    turn MacEntry.matchStep (turn MacEntry.matchStep entry m) m' =
      turn MacEntry.matchStep (turn MacEntry.matchStep entry m') m := by
  cases ht : m.type <;> cases ht' : m'.type <;>
    first
      | exact absurd (ht.trans ht'.symm) h
      | simp [turn, MacEntry.matchStep, ht, ht']

lemma macRule_perm (e : Entry) {matchs : List Match} (h : matchs.Perm e.matchs) :
    macRule chip { e.toFlowEntry with matchs } = macRule chip e.toFlowEntry := by
  have hcomm : ∀ m ∈ matchs, ∀ m' ∈ matchs, ∀ entry : MacEntry,
      turn MacEntry.matchStep (turn MacEntry.matchStep entry m) m' =
        turn MacEntry.matchStep (turn MacEntry.matchStep entry m') m := by
    intro m hm m' hm' entry
    by_cases ht : m.type = m'.type
    · rw [e.eq_of_type (h.mem_iff.mp hm) (h.mem_iff.mp hm') ht]
    · exact matchStep_comm ht entry
  have hfold := h.foldl_eq' hcomm ⟨1, 0, true, false, fun _ => false⟩
  exact congrArg (e.actions.foldl (turn (MacEntry.actionStep chip))) hfold

lemma Tern.accepts_of_mask {w : ℕ} {t : Tern w} (h : t.mask = BitVec.allOnes w)
    (field : BitVec w) : t.Accepts field ↔ field = t.value := by
  rw [Tern.Accepts, h, BitVec.and_allOnes, BitVec.and_allOnes]

lemma Tern.accepts_value {w : ℕ} (t : Tern w) : t.Accepts t.value := rfl

lemma Tern.accepts_zero {w : ℕ} (field : BitVec w) : (⟨0, 0⟩ : Tern w).Accepts field := by
  simp [Tern.Accepts]

/-- Each match on the VLAN is met by some tag. -/
lemma Match.exists_acceptsTag (m : Match) : ∃ tag, m.AcceptsTag tag := by
  cases h : m.vlanPresent with
  | none => exact ⟨none, by simp only [Match.AcceptsTag, h]⟩
  | any => exact ⟨some 0, by simp [Match.AcceptsTag, h]⟩
  | specific =>
      refine ⟨some (m.value16.setWidth 12), ?_⟩
      simp only [Match.AcceptsTag, h]
      exact ⟨_, rfl, Tern.accepts_value _⟩

/-- For each type there is something that a match of the entry with that type accepts. -/
lemma Entry.exists_forall (e : Entry) {α : Type} [Nonempty α] {P : Match → α → Prop}
    (h : ∀ m, ∃ a, P m a) (t : MatchType) : ∃ a, ∀ m ∈ e.matchs, m.type = t → P m a := by
  by_cases hex : ∃ m ∈ e.matchs, m.type = t
  · obtain ⟨m, hm, ht⟩ := hex
    obtain ⟨a, ha⟩ := h m
    refine ⟨a, fun m' hm' ht' => ?_⟩
    rw [e.eq_of_type hm' hm (ht'.trans ht.symm)]
    exact ha
  · obtain ⟨a⟩ := ‹Nonempty α›
    exact ⟨a, fun m hm ht => absurd ⟨m, hm, ht⟩ hex⟩

/-- The frame is as the matches of one type say. -/
def FlowEntry.AcceptsAt (e : FlowEntry) (t : MatchType) (f : Frame) : Prop :=
  ∀ m ∈ e.matchs, m.type = t → m.Accepts f

lemma FlowEntry.accepts_iff_of_mac {e : FlowEntry} (h : e.isEntryForMacTable = true) (f : Frame) :
    e.Accepts f ↔ e.AcceptsAt .ethDst f ∧ e.AcceptsAt .ethSrc f ∧ e.AcceptsAt .vlanVid f := by
  obtain ⟨hmatch, -⟩ := FlowEntry.isEntryForMacTable_iff.mp h
  constructor
  · intro haccepts
    exact ⟨fun m hm _ => haccepts m hm, fun m hm _ => haccepts m hm, fun m hm _ => haccepts m hm⟩
  · rintro ⟨hdst, hsrc, hvlan⟩ m hm
    rcases (hmatch m hm).1 with (ht | ht) | ht
    · exact hdst m hm ht
    · exact hsrc m hm ht
    · exact hvlan m hm ht

/-- The rule does not look at the source address. -/
lemma macRule_accepts_iff (e : Entry) (h : e.isEntryForMacTable = true) (f : Frame) :
    (Rule.mac (macRule chip e.toFlowEntry)).Accepts chip f ↔
      e.AcceptsAt .ethDst f ∧ chip.vid f.port f.tag = e.vid := by
  obtain ⟨hmatch, ⟨m, hm, ht⟩, -⟩ := FlowEntry.isEntryForMacTable_iff.mp h
  have hmask := e.exact m hm (.inl ht) (hmatch m hm).2
  rw [Rule.Accepts, macRule_mac e hm ht, macRule_vid, and_comm,
    ← Tern.accepts_of_mask hmask f.ethDst]
  refine and_congr_left fun _ => ⟨fun haccepts m' hm' ht' => ?_, fun hall => ?_⟩
  · rw [e.eq_of_type hm' hm (ht'.trans ht.symm), Match.Accepts, ht]
    exact haccepts
  · simpa only [Match.Accepts, ht] using hall m hm ht

/-- The rule matches the frames of the entry only if it is for any source address, and for those in
the VLAN. -/
lemma macRule_translated_iff (e : Entry) (h : e.isEntryForMacTable = true) :
    (∀ f : Frame, (Rule.mac (macRule chip e.toFlowEntry)).Accepts chip f ↔ e.Accepts f) ↔
      e.AnySourceInVlan chip := by
  have hrule : ∀ f, (Rule.mac (macRule chip e.toFlowEntry)).Accepts chip f ↔
      e.AcceptsAt .ethDst f ∧ chip.vid f.port f.tag = e.vid := macRule_accepts_iff e h
  have hentry := FlowEntry.accepts_iff_of_mac h
  have hvlan : ∀ f : Frame, e.AcceptsAt .vlanVid f ↔
      ∀ m ∈ e.matchs, m.type = .vlanVid → m.AcceptsTag f.tag := by
    intro f
    refine forall₃_congr fun m hm ht => ?_
    rw [Match.Accepts, ht]
  obtain ⟨hmatch, -⟩ := FlowEntry.isEntryForMacTable_iff.mp h
  constructor
  · intro hiff
    obtain ⟨tag, htag⟩ := e.exists_forall Match.exists_acceptsTag .vlanVid
    obtain ⟨dst, hdst⟩ := e.exists_forall (fun m => ⟨_, m.tern.accepts_value⟩) .ethDst
    have hdst' : ∀ port src tag, e.AcceptsAt .ethDst ⟨port, dst, src, 0, tag⟩ := by
      intro port src tag m hm ht
      rw [Match.Accepts, ht]
      exact hdst m hm ht
    have hsrc : ∀ m ∈ e.matchs, m.type ≠ .ethSrc := by
      intro m hm ht
      have hmask := e.exact m hm (.inr ht) (hmatch m hm).2
      have hmet : e.Accepts ⟨0, dst, m.tern.value, 0, tag⟩ := by
        refine (hentry _).mpr ⟨hdst' _ _ _, fun m' hm' ht' => ?_, (hvlan _).mpr htag⟩
        rw [e.eq_of_type hm' hm (ht'.trans ht.symm), Match.Accepts, ht]
        exact m.tern.accepts_value
      -- the rule is met with another source address too
      have hother := (hiff ⟨0, dst, m.tern.value + 1, 0, tag⟩).mp
        ((hrule _).mpr ⟨hdst' _ _ _, ((hrule _).mp ((hiff _).mpr hmet)).2⟩) m hm
      rw [Match.Accepts, ht] at hother
      have hvalue : m.tern.value + 1 = m.tern.value := (Tern.accepts_of_mask hmask _).mp hother
      bv_omega
    refine ⟨hsrc, fun port tag => ?_⟩
    -- frames to the address differ in their port and tag only
    have hboth := (hrule ⟨port, dst, 0, 0, tag⟩).symm.trans ((hiff _).trans (hentry _))
    rw [hvlan] at hboth
    constructor
    · intro htags
      exact (hboth.mpr ⟨hdst' _ _ _, fun m hm ht => absurd ht (hsrc m hm), htags⟩).2
    · intro hvid
      exact (hboth.mp ⟨hdst' _ _ _, hvid⟩).2.2
  · rintro ⟨hsrc, htags⟩ f
    rw [hrule, hentry, hvlan, htags f.port f.tag]
    exact and_congr_right fun _ =>
      (and_iff_right fun m hm ht => absurd ht (hsrc m hm)).symm

lemma generateMacEntry_of_not {e : FlowEntry} (h : e.isEntryForMacTable = true)
    (hactions : ¬ ∃ a ∈ e.actions, a.NotForMac) :
    generateMacEntry chip e = some (macRule chip e) := by
  rw [generateMacEntry_eq h]
  exact foldlM_eq_some actionStep_eq_none_iff (fun a ha hnot => hactions ⟨a, ha, hnot⟩) _

lemma generateMacEntry_of_exists {e : FlowEntry} (h : e.isEntryForMacTable = true)
    (hactions : ∃ a ∈ e.actions, a.NotForMac) : generateMacEntry chip e = none := by
  rw [generateMacEntry_eq h]
  exact foldlM_eq_none actionStep_eq_none_iff hactions _

/-! ## The access control list: what is refused -/

/-- A match that makes the loop give up. -/
def Match.Unusable (chip : Chip) (m : Match) : Prop :=
  m.OnPort ∧ chip.usable m.portNo.toNat = false

lemma aclMatchStep_eq_none_iff (s : Ace × Option MatchType) (m : Match) :
    aclMatchStep chip s m = none ↔ m.Unusable chip := by
  rw [aclMatchStep, Match.Unusable, Match.OnPort, addOrUpdateMatchInPort]
  cases m.type <;> simp

lemma aclActionStep_eq_none_iff (action : AceAction) (a : Action) :
    action.step chip a = none ↔ a.NotForAcl := by
  rw [AceAction.step, Action.NotForAcl]
  cases a.type with
  | output =>
      by_cases hcontroller : a.field32 = OF1X_PORT_CONTROLLER
      · simp [hcontroller, OF1X_PORT_CONTROLLER, OF1X_PORT_NORMAL, OF1X_PORT_IN_PORT,
          OF1X_PORT_ALL, OF1X_PORT_FLOOD]
      · simp only [hcontroller, if_false, true_and]
        split_ifs with hnot husable <;> simp [hnot]
  | _ => simp

/-- What the loop over the matches leaves, or the entry without matches. -/
def matchesAce (chip : Chip) (matchs : List Match) : Ace :=
  if matchs = [] then { chip.aceInit .any with portList := fun _ => some true }
  else (matchs.foldl (turn (aclMatchStep chip)) (.uninit, none)).1

/-- The action of the entry. -/
def actionOf (chip : Chip) (action : AceAction) (actions : List Action) : AceAction :=
  actions.foldl (turn (AceAction.step chip)) (action.clearPorts chip)

/-- The entry for the access control list. -/
def aclRule (chip : Chip) (aclId : BitVec 32) (e : FlowEntry) : Ace :=
  { matchesAce chip e.matchs with
    id := some aclId
    action := actionOf chip (matchesAce chip e.matchs).action e.actions }

lemma generateAclEntryMatches_of_not {matchs : List Match} (hid : aclId ≠ chip.aceIdLast)
    (h : ¬ ∃ m ∈ matchs, m.Unusable chip) :
    generateAclEntryMatches chip aclId .uninit matchs = some (matchesAce chip matchs) := by
  have hloop := foldlM_eq_some aclMatchStep_eq_none_iff
    (fun m hm hnot => h ⟨m, hm, hnot⟩) (Ace.uninit, none)
  rw [generateAclEntryMatches, matchesAce, if_neg hid, hloop, Option.map_some]
  split_ifs <;> rfl

lemma generateAclEntryMatches_of_exists {matchs : List Match}
    (h : aclId = chip.aceIdLast ∨ ∃ m ∈ matchs, m.Unusable chip) :
    generateAclEntryMatches chip aclId .uninit matchs = none := by
  rw [generateAclEntryMatches]
  by_cases hid : aclId = chip.aceIdLast
  · rw [if_pos hid]
  · have hex := h.resolve_left hid
    have hne : matchs ≠ [] := by
      rintro rfl
      simp at hex
    rw [if_neg hid, if_neg hne, foldlM_eq_none aclMatchStep_eq_none_iff hex, Option.map_none]

lemma generateAclEntryActions_eq {ace : Ace} {actions : List Action} (h : actions ≠ []) :
    generateAclEntryActions chip ace (some actions) =
      (actions.foldlM (AceAction.step chip) (ace.action.clearPorts chip)).map fun action =>
        { ace with action } := by
  cases actions with
  | nil => exact absurd rfl h
  | cons a actions => rfl

lemma addFlowEntry_of_not {e : FlowEntry} (hany : e.applyActions.any actionsAreOnlyL2 = true)
    (h : ¬ e.AclRefused chip aclId) : addFlowEntry chip aclId e = some (aclRule chip aclId e) := by
  obtain ⟨hactions, hne⟩ := FlowEntry.applyActions_of_any hany
  rw [FlowEntry.AclRefused, not_or, not_or] at h
  have hmatchs := generateAclEntryMatches_of_not h.1 h.2.1
  have hloop : e.actions.foldlM (AceAction.step chip)
      ((matchesAce chip e.matchs).action.clearPorts chip) = _ :=
    foldlM_eq_some aclActionStep_eq_none_iff (fun a ha hnot => h.2.2 ⟨a, ha, hnot⟩) _
  rw [addFlowEntry, hmatchs, Option.bind_eq_bind, Option.bind_some, hactions,
    generateAclEntryActions_eq hne, hloop]
  rfl

lemma addFlowEntry_of_refused {e : FlowEntry} (hany : e.applyActions.any actionsAreOnlyL2 = true)
    (h : e.AclRefused chip aclId) : addFlowEntry chip aclId e = none := by
  obtain ⟨hactions, hne⟩ := FlowEntry.applyActions_of_any hany
  rw [addFlowEntry]
  cases hmatchs : generateAclEntryMatches chip aclId .uninit e.matchs with
  | none => rfl
  | some ace =>
      have hex : ∃ a ∈ e.actions, a.NotForAcl := by
        rcases h with hid | hport | hex
        · exact absurd (hmatchs.symm.trans (generateAclEntryMatches_of_exists (.inl hid))) nofun
        · exact absurd (hmatchs.symm.trans (generateAclEntryMatches_of_exists (.inr hport))) nofun
        · exact hex
      rw [Option.bind_eq_bind, Option.bind_some, hactions, generateAclEntryActions_eq hne,
        foldlM_eq_none aclActionStep_eq_none_iff hex]
      rfl

/-! ## The access control list: ports -/

instance (m : Match) : Decidable m.OnPort := inferInstanceAs (Decidable (_ ∨ _))

lemma turn_of_onPort {m : Match} (h : m.OnPort) (husable : chip.usable m.portNo.toNat = true)
    (s : Ace × Option MatchType) :
    turn (aclMatchStep chip) s m =
      ((anyAce chip s.1 s.2).addPort m.portNo, some m.type) := by
  rcases h with ht | ht <;>
    simp [turn, aclMatchStep, addOrUpdateMatchInPort, ht, husable]

lemma turn_of_ethDst {m : Match} (h : m.type = .ethDst) (s : Ace × Option MatchType) :
    turn (aclMatchStep chip) s m =
      ({ etypeAce chip s.1 s.2 with dmac := some m.tern }, some m.type) := by
  simp [turn, aclMatchStep, addOrUpdateEthDst, h]

lemma turn_of_ethSrc {m : Match} (h : m.type = .ethSrc) (s : Ace × Option MatchType) :
    turn (aclMatchStep chip) s m =
      ({ etypeAce chip s.1 s.2 with smac := some m.tern }, some m.type) := by
  simp [turn, aclMatchStep, addOrUpdateEthSrc, h]

lemma turn_of_ignored {m : Match} (hport : ¬ m.OnPort) (haddress : ¬ m.OnAddress)
    (s : Ace × Option MatchType) : turn (aclMatchStep chip) s m = (s.1, some m.type) := by
  rw [Match.OnPort, not_or] at hport
  rw [Match.OnAddress, not_or] at haddress
  cases ht : m.type <;> simp_all [turn, aclMatchStep]

lemma portList_etypeAce (ace : Ace) {type : Option MatchType} (h : type ≠ none) :
    (etypeAce chip ace type).portList = ace.portList := by
  cases type with
  | none => exact absurd rfl h
  | some t => cases t <;> rfl

/-- After the first match, a port is left as it is by all matches that are not on it. -/
lemma portList_turn {s : Ace × Option MatchType} (hs : s.2 ≠ none) {m : Match} {port : BitVec 8}
    (husable : ¬ m.Unusable chip) (hne : m.OnPort → m.portNo ≠ port) :
    (turn (aclMatchStep chip) s m).2 ≠ none ∧
      (turn (aclMatchStep chip) s m).1.portList port = s.1.portList port := by
  by_cases hport : m.OnPort
  · have husable : chip.usable m.portNo.toNat = true := by
      simpa [Match.Unusable, hport] using husable
    rw [turn_of_onPort hport husable, anyAce, if_neg hs]
    exact ⟨nofun, Function.update_of_ne (hne hport).symm _ _⟩
  by_cases haddress : m.OnAddress
  · rcases haddress with ht | ht
    · rw [turn_of_ethDst ht]
      exact ⟨nofun, congrFun (portList_etypeAce s.1 hs) port⟩
    · rw [turn_of_ethSrc ht]
      exact ⟨nofun, congrFun (portList_etypeAce s.1 hs) port⟩
  · rw [turn_of_ignored hport haddress]
    exact ⟨nofun, rfl⟩

/-- The ports of the matches on one. -/
def portsOf (matchs : List Match) : List (BitVec 8) :=
  (matchs.filter fun m => m.OnPort).map Match.portNo

lemma mem_portsOf {matchs : List Match} {port : BitVec 8} :
    port ∈ portsOf matchs ↔ ∃ m ∈ matchs, m.OnPort ∧ m.portNo = port := by
  simp [portsOf, and_assoc]

/-- What the first match makes of a port that is not matched is left. -/
lemma portList_matchesAce_cons {m : Match} {matchs : List Match} {port : BitVec 8}
    (husable : ∀ m' ∈ m :: matchs, ¬ m'.Unusable chip) (hport : port ∉ portsOf (m :: matchs)) :
    (matchesAce chip (m :: matchs)).portList port =
      (turn (aclMatchStep chip) (.uninit, none) m).1.portList port := by
  have hfirst : (turn (aclMatchStep chip) (.uninit, none) m).2 ≠ none := by
    by_cases hm : m.OnPort
    · have hm' : chip.usable m.portNo.toNat = true := by
        simpa [Match.Unusable, hm] using husable m List.mem_cons_self
      rw [turn_of_onPort hm hm']
      nofun
    by_cases haddress : m.OnAddress
    · rcases haddress with ht | ht
      · rw [turn_of_ethDst ht]
        nofun
      · rw [turn_of_ethSrc ht]
        nofun
    · rw [turn_of_ignored hm haddress]
      nofun
  rw [matchesAce, if_neg (List.cons_ne_nil _ _), List.foldl_cons]
  generalize turn (aclMatchStep chip) (.uninit, none) m = s at hfirst ⊢
  -- no entry is initialised for all ports once there has been a match
  have hloop : (matchs.foldl (turn (aclMatchStep chip)) s).2 ≠ none ∧
      (matchs.foldl (turn (aclMatchStep chip)) s).1.portList port = s.1.portList port := by
    refine List.foldlRecOn
      (motive := fun s' : Ace × Option MatchType =>
        s'.2 ≠ none ∧ s'.1.portList port = s.1.portList port)
      matchs _ ⟨hfirst, rfl⟩ fun s' h m' hm' => ?_
    have hmem : m' ∈ m :: matchs := List.mem_cons_of_mem m hm'
    have hstep := portList_turn h.1 (husable m' hmem) fun honPort heq =>
      hport (mem_portsOf.mpr ⟨m', hmem, honPort, heq⟩)
    exact ⟨hstep.1, hstep.2.trans h.2⟩
  exact hloop.2

/-- There are matches on two ports at most. -/
lemma Entry.exists_notMem_portsOf (e : Entry) : ∃ port, port ∉ portsOf e.matchs := by
  by_contra! hall
  -- their types are different ones of two
  have htypes : ((e.matchs.filter fun m => m.OnPort).map fun m => m.type).length ≤ 2 := by
    have hnodup : ((e.matchs.filter fun m => m.OnPort).map fun m => m.type).Nodup :=
      e.nodup.sublist (List.filter_sublist.map _)
    have hsubset : ((e.matchs.filter fun m => m.OnPort).map fun m => m.type) ⊆
        [.inPort, .inPhyPort] := by
      intro t ht
      obtain ⟨m, hm, rfl⟩ := List.mem_map.mp ht
      have hport : m.OnPort := by simpa using List.of_mem_filter hm
      simpa [Match.OnPort] using hport
    exact (List.subperm_of_subset hnodup hsubset).length_le
  have hthree : 3 ≤ (portsOf e.matchs).length := by
    have hnodup : ([0, 1, 2] : List (BitVec 8)).Nodup := by decide
    exact (List.subperm_of_subset hnodup fun port _ => hall port).length_le
  rw [portsOf, List.length_map] at hthree
  rw [List.length_map] at htypes
  omega

/-- The loop over matches of one kind only, of which the first one initialises the entry. -/
lemma matchesAce_eq_foldl {g : Ace → Match → Ace} {init : Ace} {matchs : List Match}
    (hfirst : ∀ m ∈ matchs, turn (aclMatchStep chip) (.uninit, none) m = (g init m, some m.type))
    (hnext : ∀ ace, ∀ m' ∈ matchs, ∀ m ∈ matchs,
      turn (aclMatchStep chip) (ace, some m'.type) m = (g ace m, some m.type))
    (hne : matchs ≠ []) : matchesAce chip matchs = matchs.foldl g init := by
  -- on what comes after a match of the kind, whatever the entry is by then
  have hrest : ∀ rest : List Match, (∀ m ∈ rest, m ∈ matchs) → ∀ ace, ∀ m' ∈ matchs,
      (rest.foldl (turn (aclMatchStep chip)) (ace, some m'.type)).1 = rest.foldl g ace := by
    intro rest
    induction rest with
    | nil => exact fun _ _ _ _ => rfl
    | cons m rest ih =>
        intro hmem ace m' hm'
        obtain ⟨hm, hmem⟩ := List.forall_mem_cons.mp hmem
        rw [List.foldl_cons, List.foldl_cons, hnext ace m' hm' m hm]
        exact ih hmem _ m hm
  rw [matchesAce, if_neg hne]
  cases matchs with
  | nil => exact absurd rfl hne
  | cons m matchs =>
      rw [List.foldl_cons, List.foldl_cons, hfirst m List.mem_cons_self]
      exact hrest matchs (fun _ => List.mem_cons_of_mem m) _ m List.mem_cons_self

/-! Entries for ports only. -/

lemma matchesAce_of_ports {matchs : List Match} (hport : ∀ m ∈ matchs, m.OnPort)
    (husable : ∀ m ∈ matchs, ¬ m.Unusable chip) (hne : matchs ≠ []) :
    matchesAce chip matchs =
      matchs.foldl (fun ace m => ace.addPort m.portNo) (chip.aceInit .any).notToCpu := by
  have husable' : ∀ m ∈ matchs, chip.usable m.portNo.toNat = true := fun m hm => by
    simpa [Match.Unusable, hport m hm] using husable m hm
  refine matchesAce_eq_foldl (fun m hm => ?_) (fun ace m' hm' m hm => ?_) hne
  · exact turn_of_onPort (hport m hm) (husable' m hm) _
  · exact turn_of_onPort (hport m hm) (husable' m hm) _

lemma Ace.addPort_comm (ace : Ace) (port port' : BitVec 8) :
    (ace.addPort port).addPort port' = (ace.addPort port').addPort port := by
  by_cases h : port = port'
  · rw [h]
  · simp only [Ace.addPort, Function.update_comm h]

/-- Only the list of ports is written. -/
lemma foldl_addPort_eq (matchs : List Match) (ace : Ace) :
    matchs.foldl (fun ace m => ace.addPort m.portNo) ace =
      { ace with
        portList := (matchs.foldl (fun ace m => ace.addPort m.portNo) ace).portList } := by
  induction matchs generalizing ace with
  | nil => rfl
  | cons m matchs ih =>
      rw [List.foldl_cons, ih]
      rfl

lemma portList_foldl_addPort (matchs : List Match) (ace : Ace) (port : BitVec 8) :
    (matchs.foldl (fun ace m => ace.addPort m.portNo) ace).portList port =
      if ∃ m ∈ matchs, m.portNo = port then some true else ace.portList port := by
  induction matchs generalizing ace with
  | nil => simp
  | cons m matchs ih =>
      rw [List.foldl_cons, ih, Ace.addPort]
      by_cases hex : ∃ m' ∈ matchs, m'.portNo = port
      · rw [if_pos hex, if_pos (hex.imp fun m' h => ⟨List.mem_cons_of_mem m h.1, h.2⟩)]
      · by_cases hm : m.portNo = port
        · rw [if_neg hex, if_pos ⟨m, List.mem_cons_self, hm⟩, ← hm]
          exact Function.update_self _ _ _
        · have hnone : ¬ ∃ m' ∈ m :: matchs, m'.portNo = port := by
            simpa [hm] using hex
          rw [if_neg hex, if_neg hnone]
          exact Function.update_of_ne (Ne.symm hm) _ _

/-- The rule is for the ports of all the matches. -/
lemma accepts_of_ports {e : FlowEntry} (hport : ∀ m ∈ e.matchs, m.OnPort)
    (husable : ∀ m ∈ e.matchs, ¬ m.Unusable chip) (hne : e.matchs ≠ []) (f : Frame) :
    (Rule.acl (aclRule chip aclId e)).Accepts chip f ↔ ∃ m ∈ e.matchs, m.portNo = f.port := by
  rw [Rule.Accepts, aclRule, matchesAce_of_ports hport husable hne, foldl_addPort_eq]
  dsimp only [Ace.notToCpu, Ace.AcceptsType]
  rw [portList_foldl_addPort, chip.aceInit_type, chip.aceInit_vid,
    and_iff_left ⟨⟨_, rfl, Tern.accepts_zero _⟩, trivial⟩]
  simp [chip.aceInit_portList]

/-! Entries for addresses only. -/

/-- The address is one that is matched. -/
def Ace.setAddress (ace : Ace) (m : Match) : Ace :=
  match m.type with
  | .ethDst => { ace with dmac := some m.tern }
  | .ethSrc => { ace with smac := some m.tern }
  | _ => ace

/-- The entry for all addresses. -/
def addressAce (chip : Chip) : Ace :=
  { (chip.aceInit .etype).notToCpu with portList := fun _ => some true }

lemma matchesAce_of_addresses {matchs : List Match} (haddress : ∀ m ∈ matchs, m.OnAddress)
    (hne : matchs ≠ []) :
    matchesAce chip matchs = matchs.foldl Ace.setAddress (addressAce chip) := by
  refine matchesAce_eq_foldl (fun m hm => ?_) (fun ace m' hm' m hm => ?_) hne
  · rcases haddress m hm with ht | ht
    · rw [turn_of_ethDst ht, Ace.setAddress, ht]
      rfl
    · rw [turn_of_ethSrc ht, Ace.setAddress, ht]
      rfl
  · have hkeep : etypeAce chip ace (some m'.type) = ace := by
      rcases haddress m' hm' with ht' | ht' <;> rw [ht'] <;> rfl
    rcases haddress m hm with ht | ht
    · rw [turn_of_ethDst ht, Ace.setAddress, ht, hkeep]
    · rw [turn_of_ethSrc ht, Ace.setAddress, ht, hkeep]

lemma Ace.setAddress_comm {m m' : Match} (h : m.type ≠ m'.type) (ace : Ace) :
    (ace.setAddress m).setAddress m' = (ace.setAddress m').setAddress m := by
  cases ht : m.type <;> cases ht' : m'.type <;>
    first
      | exact absurd (ht.trans ht'.symm) h
      | simp [Ace.setAddress, ht, ht']

lemma writesAt_dmac : WritesAt Ace.setAddress (fun m => m.type) (fun ace => ace.dmac) .ethDst
    fun m => some m.tern where
  write_eq ace m h := by simp [Ace.setAddress, h]
  keep ace m h := by cases ht : m.type <;> simp_all [Ace.setAddress]

lemma writesAt_smac : WritesAt Ace.setAddress (fun m => m.type) (fun ace => ace.smac) .ethSrc
    fun m => some m.tern where
  write_eq ace m h := by simp [Ace.setAddress, h]
  keep ace m h := by cases ht : m.type <;> simp_all [Ace.setAddress]

/-- An address is compared as the match on it has it, if there is one. -/
lemma accepts_foldl_iff {part : Ace → Option (Tern 48)} {t : MatchType}
    (h : WritesAt Ace.setAddress (fun m => m.type) part t fun m => some m.tern) (e : Entry)
    {ace : Ace} (hace : part ace = some ⟨0, 0⟩) (field : BitVec 48) :
    (∃ tern ∈ part (e.matchs.foldl Ace.setAddress ace), tern.Accepts field) ↔
      ∀ m ∈ e.matchs, m.type = t → m.tern.Accepts field := by
  by_cases hex : ∃ m ∈ e.matchs, m.type = t
  · obtain ⟨m, hm, ht⟩ := hex
    rw [h.foldl_of_mem e.nodup hm ht ace]
    constructor
    · rintro ⟨tern, htern, haccepts⟩ m' hm' ht'
      rw [e.eq_of_type hm' hm (ht'.trans ht.symm), Option.some.inj htern]
      exact haccepts
    · exact fun hall => ⟨_, rfl, hall m hm ht⟩
  · have hne : ∀ m ∈ e.matchs, m.type ≠ t := fun m hm ht => hex ⟨m, hm, ht⟩
    rw [h.foldl_of_forall_ne hne ace, hace]
    exact iff_of_true ⟨_, rfl, Tern.accepts_zero field⟩ fun m hm ht => absurd ht (hne m hm)

/-- Only the addresses are written. -/
lemma foldl_setAddress_eq (matchs : List Match) (ace : Ace) :
    matchs.foldl Ace.setAddress ace =
      { ace with
        dmac := (matchs.foldl Ace.setAddress ace).dmac
        smac := (matchs.foldl Ace.setAddress ace).smac } := by
  induction matchs generalizing ace with
  | nil => rfl
  | cons m matchs ih =>
      rw [List.foldl_cons, ih, Ace.setAddress]
      split <;> rfl

/-- The rule is for the frames of the entry that have the type of the rule. -/
lemma accepts_of_addresses {e : Entry} (haddress : ∀ m ∈ e.matchs, m.OnAddress)
    (hne : e.matchs ≠ []) (f : Frame) :
    (Rule.acl (aclRule chip aclId e.toFlowEntry)).Accepts chip f ↔
      chip.isEtype f.ethType = true ∧ e.Accepts f := by
  have hdmac : (addressAce chip).dmac = some ⟨0, 0⟩ := chip.aceInit_dmac .etype
  have hsmac : (addressAce chip).smac = some ⟨0, 0⟩ := chip.aceInit_smac .etype
  have hdst := accepts_foldl_iff writesAt_dmac e hdmac f.ethDst
  have hsrc := accepts_foldl_iff writesAt_smac e hsmac f.ethSrc
  have hentry : e.Accepts f ↔ (∀ m ∈ e.matchs, m.type = .ethDst → m.tern.Accepts f.ethDst) ∧
      ∀ m ∈ e.matchs, m.type = .ethSrc → m.tern.Accepts f.ethSrc := by
    constructor
    · intro h
      constructor
      · intro m hm ht
        simpa only [Match.Accepts, ht] using h m hm
      · intro m hm ht
        simpa only [Match.Accepts, ht] using h m hm
    · rintro ⟨hdst, hsrc⟩ m hm
      rcases haddress m hm with ht | ht
      · simpa only [Match.Accepts, ht] using hdst m hm ht
      · simpa only [Match.Accepts, ht] using hsrc m hm ht
  rw [Rule.Accepts, aclRule, matchesAce_of_addresses haddress hne, foldl_setAddress_eq]
  dsimp only [Ace.AcceptsType]
  have htype : (addressAce chip).type = some .etype := chip.aceInit_type .etype
  have hvid : (addressAce chip).vid = some ⟨0, 0⟩ := chip.aceInit_vid .etype
  rw [htype, hvid, hentry, ← hdst, ← hsrc]
  constructor
  · exact fun h => h.2.2
  · exact fun h => ⟨rfl, ⟨_, rfl, Tern.accepts_zero _⟩, h⟩

/-! ## The access control list: what has a value -/

lemma update_ne_none {α β : Type} [DecidableEq α] {f : α → Option β} (h : ∀ a, f a ≠ none)
    (a : α) (b : β) (a' : α) : Function.update f a (some b) a' ≠ none := by
  by_cases heq : a' = a
  · rw [heq, Function.update_self]
    nofun
  · rw [Function.update_of_ne heq]
    exact h a'

lemma AceAction.Initialised.clearPorts {action : AceAction} (h : action.Initialised) :
    (action.clearPorts chip).Initialised := by
  refine { h with portList := ?_ }
  exact List.foldlRecOn
    (motive := fun portList : ℕ → Option Bool => ∀ port, portList port ≠ none)
    _ _ h.portList fun portList hlist port _ => update_ne_none hlist port false

lemma AceAction.Initialised.turn {action : AceAction} (h : action.Initialised) (a : Action) :
    (turn (AceAction.step chip) action a).Initialised := by
  cases ht : a.type with
  | output =>
      simp only [Lib.turn, AceAction.step, ht]
      split_ifs
      · exact { h with learn := Option.some_ne_none _, cpu := Option.some_ne_none _ }
      · exact h
      · exact
          { h with
            learn := Option.some_ne_none _
            portAction := Option.some_ne_none _
            portList := update_ne_none h.portList _ _ }
      · exact h
  | _ => simpa only [Lib.turn, AceAction.step, ht, Option.getD_some] using h

lemma AceAction.Initialised.actionOf {action : AceAction} (h : action.Initialised)
    (actions : List Action) : (actionOf chip action actions).Initialised := by
  have hclear : (action.clearPorts chip).Initialised := h.clearPorts
  exact List.foldlRecOn (motive := fun action : AceAction => action.Initialised) actions _
    hclear fun _ h a _ => h.turn a

lemma Ace.Initialised.aclRule {e : FlowEntry} (h : (matchesAce chip e.matchs).Initialised) :
    (aclRule chip aclId e).Initialised :=
  { h with id := nofun, action := h.action.actionOf e.actions }

lemma Ace.Initialised.notToCpu {ace : Ace} (h : ace.Initialised) : ace.notToCpu.Initialised :=
  { h with action := { h.action with learn := nofun, cpu := nofun, cpuOnce := nofun } }

lemma Ace.Initialised.allPorts {ace : Ace} (h : ace.Initialised) :
    { ace with portList := fun _ => some true }.Initialised :=
  { h with portList := fun _ => nofun }

lemma Ace.Initialised.addPort {ace : Ace} (h : ace.Initialised) (port : BitVec 8) :
    (ace.addPort port).Initialised :=
  { h with portList := update_ne_none h.portList port true }

lemma Ace.Initialised.setAddress {ace : Ace} (h : ace.Initialised) (m : Match) :
    (ace.setAddress m).Initialised := by
  rw [Ace.setAddress]
  split
  · exact { h with dmac := nofun }
  · exact { h with smac := nofun }
  · exact h

/-- An entry that is for ports only, or for addresses only, has been initialised. -/
lemma initialised_matchesAce {matchs : List Match} (husable : ∀ m ∈ matchs, ¬ m.Unusable chip)
    (h : (∀ m ∈ matchs, m.OnPort) ∨ ∀ m ∈ matchs, m.OnAddress) :
    (matchesAce chip matchs).Initialised := by
  by_cases hne : matchs = []
  · rw [matchesAce, if_pos hne]
    exact (chip.aceInit_initialised .any).allPorts
  rcases h with hport | haddress
  · rw [matchesAce_of_ports hport husable hne]
    exact List.foldlRecOn (motive := Ace.Initialised) matchs _
      (chip.aceInit_initialised .any).notToCpu fun _ h m _ => h.addPort m.portNo
  · rw [matchesAce_of_addresses haddress hne]
    exact List.foldlRecOn (motive := Ace.Initialised) matchs _
      (chip.aceInit_initialised .etype).notToCpu.allPorts fun _ h m _ => h.setAddress m

/-- Its matches can be in any order. -/
lemma matchesAce_perm (e : Entry) {matchs : List Match} (hperm : matchs.Perm e.matchs)
    (husable : ∀ m ∈ e.matchs, ¬ m.Unusable chip)
    (h : (∀ m ∈ e.matchs, m.OnPort) ∨ ∀ m ∈ e.matchs, m.OnAddress) :
    matchesAce chip matchs = matchesAce chip e.matchs := by
  by_cases hne : e.matchs = []
  · rw [hne] at hperm ⊢
    rw [List.perm_nil.mp hperm]
  have hne' : matchs ≠ [] := fun hnil => hne (List.nil_perm.mp (hnil ▸ hperm))
  rcases h with hport | haddress
  · have hport' : ∀ m ∈ matchs, m.OnPort := fun m hm => hport m (hperm.mem_iff.mp hm)
    have husable' : ∀ m ∈ matchs, ¬ m.Unusable chip := fun m hm =>
      husable m (hperm.mem_iff.mp hm)
    rw [matchesAce_of_ports hport husable hne, matchesAce_of_ports hport' husable' hne']
    exact hperm.foldl_eq' (fun m _ m' _ ace => ace.addPort_comm _ _) _
  · have haddress' : ∀ m ∈ matchs, m.OnAddress := fun m hm => haddress m (hperm.mem_iff.mp hm)
    rw [matchesAce_of_addresses haddress hne, matchesAce_of_addresses haddress' hne']
    refine hperm.foldl_eq' (fun m hm m' hm' ace => ?_) _
    by_cases ht : m.type = m'.type
    · rw [e.eq_of_type (hperm.mem_iff.mp hm) (hperm.mem_iff.mp hm') ht]
    · exact Ace.setAddress_comm ht ace

/-! ## The translation -/

/-- If the order does not matter for the ports of the rule and all of them have a value, then the
matches are on ports only or on addresses only. -/
lemma Entry.onPort_or_onAddress (e : Entry) (husable : ∀ m ∈ e.matchs, ¬ m.Unusable chip)
    (hinit : ∀ port, (matchesAce chip e.matchs).portList port ≠ none)
    (hperm : ∀ matchs, matchs.Perm e.matchs →
      (matchesAce chip matchs).portList = (matchesAce chip e.matchs).portList) :
    (∀ m ∈ e.matchs, m.OnPort) ∨ ∀ m ∈ e.matchs, m.OnAddress := by
  obtain ⟨port, hport⟩ := e.exists_notMem_portsOf
  -- each of the matches can be the first one
  have hfirst : ∀ m ∈ e.matchs, (matchesAce chip e.matchs).portList port =
      (turn (aclMatchStep chip) (.uninit, none) m).1.portList port := by
    intro m hm
    have hfront := (List.perm_cons_erase hm).symm
    rw [← hperm _ hfront]
    refine portList_matchesAce_cons (fun m' hm' => husable m' (hfront.mem_iff.mp hm')) ?_
    rw [mem_portsOf]
    simp only [hfront.mem_iff]
    exact fun hex => hport (mem_portsOf.mpr hex)
  have hknown : ∀ m ∈ e.matchs, m.OnPort ∨ m.OnAddress := by
    intro m hm
    by_contra hnot
    rw [not_or] at hnot
    have hnone := hfirst m hm
    rw [turn_of_ignored hnot.1 hnot.2] at hnone
    exact hinit port hnone
  by_cases hall : ∀ m ∈ e.matchs, m.OnAddress
  · exact .inr hall
  refine .inl fun m hm => (hknown m hm).resolve_right fun haddress => ?_
  push Not at hall
  obtain ⟨m', hm', hnot⟩ := hall
  have honPort := (hknown m' hm').resolve_right hnot
  have hm'' : chip.usable m'.portNo.toNat = true := by
    simpa [Match.Unusable, honPort] using husable m' hm'
  -- the port is in the list if the address is first, and not if the other port is
  have htrue : (matchesAce chip e.matchs).portList port = some true := by
    rw [hfirst m hm]
    rcases haddress with ht | ht
    · rw [turn_of_ethDst ht]
      rfl
    · rw [turn_of_ethSrc ht]
      rfl
  have hfalse : (matchesAce chip e.matchs).portList port = some false := by
    rw [hfirst m' hm', turn_of_onPort honPort hm'']
    have hne : port ≠ m'.portNo := fun heq => hport (mem_portsOf.mpr ⟨m', hm', honPort, heq.symm⟩)
    exact (Function.update_of_ne hne _ _).trans (chip.aceInit_portList _ _)
  exact absurd (htrue.symm.trans hfalse) (by decide)

lemma aclRefused_perm {e : FlowEntry} {matchs : List Match} (h : matchs.Perm e.matchs) :
    { e with matchs }.AclRefused chip aclId ↔ e.AclRefused chip aclId := by
  simp only [FlowEntry.AclRefused, FlowEntry.actions, h.mem_iff]

lemma addEntryHook_of_acl {e : FlowEntry} (hl2 : e.isL2Entry = true)
    (hmac : e.isEntryForMacTable = false) (h : ¬ e.AclRefused chip aclId) {matchs : List Match}
    (hperm : matchs.Perm e.matchs) :
    addEntryHook chip aclId { e with matchs } =
      some (.acl (aclRule chip aclId { e with matchs })) := by
  have hany := (FlowEntry.isL2Entry_iff.mp hl2).2
  have hadd : addFlowEntry chip aclId { e with matchs } = _ :=
    addFlowEntry_of_not hany (mt (aclRefused_perm hperm).mp h)
  rw [addEntryHook, isL2Entry_perm hperm, isEntryForMacTable_perm hperm, hl2, hmac, hadd]
  rfl

lemma Match.accepts_iff_of_onPort {m : Match} (h : m.OnPort) (f : Frame) :
    m.Accepts f ↔ m.value32 = f.port.setWidth 32 := by
  rcases h with ht | ht <;> rw [Match.Accepts, ht]

lemma Entry.OnePortOrAddresses.accepts_iff {e : Entry} (h : e.OnePortOrAddresses chip)
    (husable : ∀ m ∈ e.matchs, ¬ m.Unusable chip) (f : Frame) :
    (Rule.acl (aclRule chip aclId e.toFlowEntry)).Accepts chip f ↔ e.Accepts f := by
  by_cases hne : e.matchs = []
  · rw [Rule.Accepts, aclRule, matchesAce, if_pos hne]
    dsimp only [Ace.AcceptsType]
    rw [chip.aceInit_type, chip.aceInit_vid, FlowEntry.Accepts, hne]
    exact iff_of_true ⟨rfl, ⟨_, rfl, Tern.accepts_zero _⟩, trivial⟩ nofun
  obtain ⟨m, hm⟩ := List.exists_mem_of_ne_nil _ hne
  rcases h with ⟨port, hport⟩ | haddress
  · rw [accepts_of_ports (fun m hm => (hport m hm).1) husable hne]
    have hportNo : ∀ m ∈ e.matchs, m.portNo = port := by
      intro m hm
      rw [Match.portNo, (hport m hm).2]
      bv_omega
    have haccepts : ∀ m ∈ e.matchs, (m.Accepts f ↔ port = f.port) := by
      intro m hm
      rw [Match.accepts_iff_of_onPort (hport m hm).1, (hport m hm).2]
      constructor <;> intro heq <;> bv_omega
    constructor
    · rintro ⟨m, hm, heq⟩ m' hm'
      exact (haccepts m' hm').mpr ((hportNo m hm).symm.trans heq)
    · intro hall
      exact ⟨m, hm, (hportNo m hm).trans ((haccepts m hm).mp (hall m hm))⟩
  · rw [accepts_of_addresses (fun m hm => (haddress m hm).1) hne]
    exact and_iff_right ((haddress m hm).2 f.ethType)

/-- If the rule matches the frames of the entry, then the ports are the same, and all frames can
have the addresses. -/
lemma Entry.onePortOrAddresses (e : Entry) (husable : ∀ m ∈ e.matchs, ¬ m.Unusable chip)
    (hkind : (∀ m ∈ e.matchs, m.OnPort) ∨ ∀ m ∈ e.matchs, m.OnAddress)
    (hiff : ∀ f, (Rule.acl (aclRule chip aclId e.toFlowEntry)).Accepts chip f ↔ e.Accepts f) :
    e.OnePortOrAddresses chip := by
  by_cases hne : e.matchs = []
  · refine .inl ⟨0, fun m hm => ?_⟩
    rw [hne] at hm
    exact absurd hm List.not_mem_nil
  rcases hkind with hport | haddress
  · obtain ⟨m, hm⟩ := List.exists_mem_of_ne_nil _ hne
    have hmet := (hiff ⟨m.portNo, 0, 0, 0, none⟩).mp
      ((accepts_of_ports hport husable hne _).mpr ⟨m, hm, rfl⟩)
    refine .inl ⟨m.portNo, fun m' hm' => ⟨hport m' hm', ?_⟩⟩
    exact (Match.accepts_iff_of_onPort (hport m' hm') _).mp (hmet m' hm')
  · refine .inr fun m hm => ⟨haddress m hm, fun ethType => ?_⟩
    obtain ⟨dst, hdst⟩ := e.exists_forall (fun m => ⟨_, m.tern.accepts_value⟩) .ethDst
    obtain ⟨src, hsrc⟩ := e.exists_forall (fun m => ⟨_, m.tern.accepts_value⟩) .ethSrc
    have hmet : e.Accepts ⟨0, dst, src, ethType, none⟩ := by
      intro m hm
      rcases haddress m hm with ht | ht
      · simpa only [Match.Accepts, ht] using hdst m hm ht
      · simpa only [Match.Accepts, ht] using hsrc m hm ht
    exact ((accepts_of_addresses haddress hne _).mp ((hiff _).mpr hmet)).1

/-- What is asked of a rule that is made. -/
lemma Entry.translated_iff_of_hook (e : Entry) {rule : Rule}
    (h : addEntryHook chip aclId e.toFlowEntry = some rule) :
    e.Translated chip aclId ↔
      (∀ f : Frame, rule.Accepts chip f ↔ e.Accepts f) ∧ rule.Initialised ∧
        ∀ matchs, matchs.Perm e.matchs →
          addEntryHook chip aclId { e.toFlowEntry with matchs } = some rule := by
  constructor
  · rintro ⟨hiff, hinit, hperm⟩
    exact ⟨hiff rule h, hinit rule h, fun matchs hp => (hperm matchs hp).trans h⟩
  · rintro ⟨hiff, hinit, hperm⟩
    have hunique : ∀ rule', addEntryHook chip aclId e.toFlowEntry = some rule' → rule' = rule :=
      fun rule' heq => Option.some.inj (heq.symm.trans h)
    refine ⟨fun rule' heq => ?_, fun rule' heq => ?_, fun matchs hp => ?_⟩
    · rw [hunique rule' heq]
      exact hiff
    · rw [hunique rule' heq]
      exact hinit
    · exact (hperm matchs hp).trans h.symm

/-- An entry that is refused in each order is translated. -/
lemma Entry.translated_of_none (e : Entry)
    (h : ∀ matchs, matchs.Perm e.matchs →
      addEntryHook chip aclId { e.toFlowEntry with matchs } = none) :
    e.Translated chip aclId := by
  have hself : addEntryHook chip aclId e.toFlowEntry = none := h e.matchs (List.Perm.refl _)
  refine ⟨fun rule heq => ?_, fun rule heq => ?_, fun matchs hp => ?_⟩
  · exact absurd (hself.symm.trans heq) nofun
  · exact absurd (hself.symm.trans heq) nofun
  · exact (h matchs hp).trans hself.symm

lemma Entry.translated_iff_of_acl (e : Entry) (hl2 : e.isL2Entry = true)
    (hmac : e.isEntryForMacTable = false) :
    e.Translated chip aclId ↔ e.AclRefused chip aclId ∨ e.OnePortOrAddresses chip := by
  by_cases h : e.AclRefused chip aclId
  · refine iff_of_true (e.translated_of_none fun matchs hp => ?_) (.inl h)
    have hadd : addFlowEntry chip aclId { e.toFlowEntry with matchs } = none :=
      addFlowEntry_of_refused (FlowEntry.isL2Entry_iff.mp hl2).2 ((aclRefused_perm hp).mpr h)
    rw [addEntryHook, isL2Entry_perm hp, isEntryForMacTable_perm hp, hl2, hmac, hadd]
    rfl
  have hrule : ∀ matchs, matchs.Perm e.matchs →
      addEntryHook chip aclId { e.toFlowEntry with matchs } =
        some (.acl (aclRule chip aclId { e.toFlowEntry with matchs })) :=
    fun matchs hp => addEntryHook_of_acl hl2 hmac h hp
  have husable : ∀ m ∈ e.matchs, ¬ m.Unusable chip := fun m hm hnot =>
    h (.inr (.inl ⟨m, hm, hnot⟩))
  rw [e.translated_iff_of_hook (hrule e.matchs (List.Perm.refl _)), or_iff_right h]
  constructor
  · rintro ⟨hiff, hinit, hperm⟩
    refine e.onePortOrAddresses husable (e.onPort_or_onAddress husable hinit.portList ?_) hiff
    intro matchs hp
    have hsame := (hrule matchs hp).symm.trans (hperm matchs hp)
    have hace := Rule.acl.inj (Option.some.inj hsame)
    exact (congrArg Ace.portList hace :)
  · intro hcond
    have hkind : (∀ m ∈ e.matchs, m.OnPort) ∨ ∀ m ∈ e.matchs, m.OnAddress :=
      hcond.imp (fun ⟨_, hport⟩ m hm => (hport m hm).1) fun haddress m hm => (haddress m hm).1
    refine ⟨hcond.accepts_iff husable, (initialised_matchesAce husable hkind).aclRule, ?_⟩
    intro matchs hp
    rw [hrule matchs hp, aclRule, matchesAce_perm e hp husable hkind]
    rfl

lemma Entry.translated_iff_of_mac (e : Entry) (hl2 : e.isL2Entry = true)
    (hmac : e.isEntryForMacTable = true) :
    e.Translated chip aclId ↔
      (∃ a ∈ e.actions, a.NotForMac) ∨ e.AnySourceInVlan chip := by
  have hhook : ∀ matchs, matchs.Perm e.matchs →
      addEntryHook chip aclId { e.toFlowEntry with matchs } =
        (generateMacEntry chip { e.toFlowEntry with matchs }).map .mac := by
    intro matchs hp
    rw [addEntryHook, isL2Entry_perm hp, isEntryForMacTable_perm hp, hl2, hmac]
    rfl
  have hmac' : ∀ matchs, matchs.Perm e.matchs →
      { e.toFlowEntry with matchs }.isEntryForMacTable = true :=
    fun matchs hp => (isEntryForMacTable_perm hp).trans hmac
  by_cases h : ∃ a ∈ e.actions, a.NotForMac
  · refine iff_of_true (e.translated_of_none fun matchs hp => ?_) (.inl h)
    rw [hhook matchs hp, generateMacEntry_of_exists (hmac' matchs hp) h]
    rfl
  have hrule : ∀ matchs, matchs.Perm e.matchs →
      addEntryHook chip aclId { e.toFlowEntry with matchs } =
        some (.mac (macRule chip e.toFlowEntry)) := by
    intro matchs hp
    rw [hhook matchs hp, generateMacEntry_of_not (hmac' matchs hp) h, macRule_perm e hp]
    rfl
  rw [e.translated_iff_of_hook (hrule e.matchs (List.Perm.refl _)), or_iff_right h,
    ← macRule_translated_iff e hmac]
  exact ⟨fun hall => hall.1, fun hiff => ⟨hiff, trivial, hrule⟩⟩

/-- **What is translated right**: what is refused, a destination address in the table of addresses
if the VLAN is as the entry has it, one port, and addresses if all frames can have them. -/
theorem Entry.ruleTranslated_iff (chip : Chip) (aclId : BitVec 32) (e : Entry) :
    e.Translated chip aclId ↔ e.Expressible chip aclId := by
  rw [Entry.Expressible]
  by_cases hl2 : e.isL2Entry = true
  · rw [imp_iff_right hl2]
    split
    · rename_i hmac
      exact e.translated_iff_of_mac hl2 hmac
    · rename_i hmac
      exact e.translated_iff_of_acl hl2 (Bool.eq_false_of_not_eq_true hmac)
  · refine iff_of_true (e.translated_of_none fun matchs hp => ?_) fun h => absurd h hl2
    rw [addEntryHook, isL2Entry_perm hp, if_neg hl2]

/-- A chip with eight ports for frames and two internal ones, where all frames are in one VLAN. -/
def eightPorts : Chip where
  isValidPort port := port < 10
  isInternalPort port := 8 ≤ port
  portNoStart := 0
  portNoEnd := 10
  aceIdLast := 0
  aceInit t := ⟨some 0, some t, fun _ => some false, some ⟨0, 0⟩, some ⟨0, 0⟩, some ⟨0, 0⟩,
    ⟨some true, some false, some false, some .none, fun _ => some false⟩⟩
  aceInit_initialised _ := ⟨nofun, nofun, fun _ => nofun, nofun, nofun, nofun,
    ⟨nofun, nofun, nofun, nofun, fun _ => nofun⟩⟩
  aceInit_type _ := rfl
  aceInit_portList _ _ := rfl
  aceInit_dmac _ := rfl
  aceInit_smac _ := rfl
  aceInit_vid _ := rfl
  isEtype ethType := 0x0600 ≤ ethType ∧ ethType ≠ 0x0800 ∧ ethType ≠ 0x0806 ∧ ethType ≠ 0x86DD
  vid _ _ := 1

/-- Frames from one address to another go out of a port. -/
def pairEntry : Entry where
  matchs :=
    [{ type := .ethDst, tern := ⟨0x020000000001, BitVec.allOnes 48⟩ },
      { type := .ethSrc, tern := ⟨0x020000000002, BitVec.allOnes 48⟩ }]
  applyActions := some [{ type := .output, field32 := 2 }]
  nodup := by decide
  exact := by decide

/-- The rule sends all frames for the one address there. -/
theorem not_ruleTranslated_pair : ¬ pairEntry.Translated eightPorts 1 := by
  intro h
  have hmac : pairEntry.isEntryForMacTable = true := by decide
  have hactions : ¬ ∃ a ∈ pairEntry.actions, a.NotForMac := by
    simp [pairEntry, FlowEntry.actions, Action.NotForMac, OF1X_PORT_NORMAL, OF1X_PORT_IN_PORT]
  have hhook : addEntryHook eightPorts 1 pairEntry.toFlowEntry =
      some (.mac (macRule eightPorts pairEntry.toFlowEntry)) := by
    rw [addEntryHook, generateMacEntry_of_not hmac hactions]
    rfl
  let frame : Frame := ⟨0, 0x020000000001, 0x020000000003, 0x0800, none⟩
  have hrule : (Rule.mac (macRule eightPorts pairEntry.toFlowEntry)).Accepts eightPorts frame := by
    refine (macRule_accepts_iff pairEntry hmac frame).mpr ⟨?_, rfl⟩
    simp [FlowEntry.AcceptsAt, pairEntry, frame, Match.Accepts, Tern.Accepts]
  have hsrc : (0x020000000003 : BitVec 48) &&& BitVec.allOnes 48 =
      0x020000000002 &&& BitVec.allOnes 48 :=
    (h.accepts_iff _ hhook frame).mp hrule
      { type := .ethSrc, tern := ⟨0x020000000002, BitVec.allOnes 48⟩ } (by decide)
  exact absurd hsrc (by decide)

end Xdpd.Fscale
