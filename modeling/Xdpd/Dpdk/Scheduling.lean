import Mathlib.Data.Finset.Card
import Xdpd.Dpdk.Processing
import Xdpd.Lib.Transition

/-!
# The state of the scheduling is consistent

The list of a core, its length, the references of the ports, the flags on all cores and the counters
all tell which ports are scheduled where.  They agree after every call, in the runs in which a port
is only scheduled if it is not scheduled yet, can be served by a core, has an entry in the arrays of
queues, and gets its queues, and is only taken from a core whose list has a free entry:
`consistent_of_careful`.

Otherwise a call returns with the spinlock held, a port is in two lists, the flags of a port are
written behind the arrays, or the loop that closes the gap in a full list reads behind its end.
-/

namespace Xdpd.Dpdk

open Xdpd.Lib

variable {π : Type}

/-- The port is scheduled, and belongs to the family. -/
def ScheduledIn (P : Platform π) (s : Processing π) (f : Family) (port : π) : Prop :=
  (s.ports port).scheduled = true ∧ (P.type port).family = some f

/-- All that the state says about the scheduled ports agrees, and the spinlock is free. -/
structure Consistent (P : Platform π) (s : Processing π) : Prop where
  back : ∀ port, (s.ports port).scheduled = true → (s.ports port).coreId < P.maxLcore ∧
    (s.ports port).corePortSlot < (s.cores (s.ports port).coreId).numOfRxPorts ∧
    (s.cores (s.ports port).coreId).portList (s.ports port).corePortSlot = some port
  entries : ∀ core < P.maxLcore, ∀ i port, (s.cores core).portList i = some port →
    i < (s.cores core).numOfRxPorts ∧ s.ports port = ⟨true, core, i⟩
  filled : ∀ core < P.maxLcore, ∀ i < (s.cores core).numOfRxPorts,
    (s.cores core).portList i ≠ none
  bound : ∀ core < P.maxLcore, (s.cores core).numOfRxPorts ≤ processingMaxPortsPerCore
  present : ∀ core < P.maxLcore, ∀ f id, ((s.cores core).queues f id).present = true ↔
    ∃ port, ScheduledIn P s f port ∧ P.portId port = id
  coreIds : ∀ core < P.maxLcore, ∀ f port, ScheduledIn P s f port →
    ∃ id : Fin processingMaxPorts, P.portId port = id ∧
      ((s.cores core).queues f id).coreId = (s.ports port).coreId
  total : ∀ f, ∃ scheduled : Finset π, (∀ port, port ∈ scheduled ↔ ScheduledIn P s f port) ∧
    scheduled.card = s.total f
  overread : s.overread = false
  overwritten : s.overwritten = false
  unlocked : s.locked = false

/-- A scheduled port is in exactly one list, and there in exactly one place. -/
lemma Consistent.existsUnique {P : Platform π} {s : Processing π} (h : Consistent P s) {port : π}
    (hport : (s.ports port).scheduled = true) :
    ∃! place : ℕ × ℕ, place.1 < P.maxLcore ∧
      (s.cores place.1).portList place.2 = some port := by
  obtain ⟨hcore, -, hlist⟩ := h.back port hport
  refine ⟨((s.ports port).coreId, (s.ports port).corePortSlot), ⟨hcore, hlist⟩, ?_⟩
  rintro ⟨core, i⟩ ⟨hcore', hlist'⟩
  rw [(h.entries core hcore' i port hlist').2]

/-- A scheduled port has an entry in the arrays of queues. -/
lemma Consistent.portId_lt {P : Platform π} {s : Processing π} (h : Consistent P s) {port : π}
    {f : Family} (hfamily : (P.type port).family = some f)
    (hport : (s.ports port).scheduled = true) : P.portId port < processingMaxPorts := by
  obtain ⟨id, hid, -⟩ := h.coreIds _ (h.back port hport).1 f port ⟨hport, hfamily⟩
  exact hid ▸ id.isLt

variable [DecidableEq π]

/-- A call is careful: a port is scheduled if it is not yet, can be served by a core, has an entry
in the arrays of queues and gets its queues, or if there is no room for it; and a port is taken from
a list that is not full. -/
def Careful (P : Platform π) (s : Processing π) : Call π → Prop
  | .schedulePort port queuesSet =>
      ∃ f ∈ (P.type port).family, s.total f = processingMaxPorts ∨ selectCore P s port = none ∨
        ((s.ports port).scheduled = false ∧ P.portId port < processingMaxPorts ∧
          (P.type port = .physical → queuesSet = true))
  | .deschedulePort port => (P.type port).family ≠ none → (s.ports port).scheduled = true →
      (s.cores (s.ports port).coreId).numOfRxPorts < processingMaxPortsPerCore

instance (P : Platform π) (s : Processing π) (c : Call π) : Decidable (Careful P s c) := by
  cases c <;> unfold Careful <;> infer_instance

/-! ## The selection of a core -/

omit [DecidableEq π] in
/-- The core that is selected is available, and has a free entry. -/
lemma of_selectCore {P : Platform π} {s : Processing π} {port : π} {core : ℕ}
    (h : selectCore P s port = some core) : core < P.maxLcore ∧
      (s.cores core).numOfRxPorts ≠ processingMaxPortsPerCore := by
  have hinv : ∀ (l : List ℕ) (sel : Option ℕ × ℕ),
      (∀ i ∈ sel.1, i < P.maxLcore ∧ (s.cores i).numOfRxPorts ≠ processingMaxPortsPerCore) →
      (∀ i ∈ l, i < P.maxLcore) → ∀ i ∈ (l.foldl (selectStep P s port) sel).1,
        i < P.maxLcore ∧ (s.cores i).numOfRxPorts ≠ processingMaxPortsPerCore := by
    intro l
    induction l with
    | nil =>
        intro sel hsel _
        exact hsel
    | cons i l ih =>
        intro sel hsel hl
        rw [List.foldl_cons]
        refine ih _ ?_ fun i' hi' => hl i' (List.mem_cons_of_mem i hi')
        intro i' hi'
        rw [selectStep] at hi'
        split at hi'
        · next hroom =>
          split at hi'
          · obtain rfl : i = i' := Option.some.inj hi'
            exact ⟨hl i List.mem_cons_self, hroom.2⟩
          · exact hsel i' hi'
        · exact hsel i' hi'
  exact hinv (List.range P.maxLcore) (none, 0xFFFFFFFF) nofun
    (fun i hi => List.mem_range.mp hi) core h

/-! ## The loop that closes the gap -/

section Shift

variable {n i : ℕ} {x : Shifted π}

/-- The entries after the loop. -/
lemma portList_shiftPorts (h : i + n < processingMaxPortsPerCore) (j : ℕ) :
    (shiftPorts n i x).portList j =
      if i ≤ j ∧ j < i + n then x.portList (j + 1) else x.portList j := by
  induction n generalizing i x with
  | zero =>
      rw [shiftPorts, if_neg]
      omega
  | succ n ih =>
      have hi : i + 1 < processingMaxPortsPerCore := by omega
      rw [shiftPorts, ih (by omega)]
      simp only [shiftStep, if_pos hi]
      by_cases hj : j = i
      · subst hj
        rw [if_neg (by omega), if_pos (by omega), Function.update_self]
      · rw [Function.update_of_ne hj]
        by_cases hrange : i + 1 ≤ j ∧ j < i + 1 + n
        · rw [if_pos hrange, if_pos (by omega), Function.update_of_ne (by omega)]
        · rw [if_neg hrange, if_neg (by omega)]

/-- Nothing behind the end of a list that is not full is read. -/
lemma overread_shiftPorts (h : i + n < processingMaxPortsPerCore) :
    (shiftPorts n i x).overread = x.overread := by
  induction n generalizing i x with
  | zero => rfl
  | succ n ih =>
      have hi : i + 1 < processingMaxPortsPerCore := by omega
      rw [shiftPorts, ih (by omega)]
      simp only [shiftStep, decide_eq_true hi, Bool.not_true, Bool.or_false]

/-- A turn of the loop only changes the place of the port that it moves. -/
lemma ports_shiftStep_of_ne {port : π} (h : x.portList (i + 1) ≠ some port) :
    (shiftStep x i).ports port = x.ports port := by
  simp only [shiftStep]
  generalize hnext : (if i + 1 < processingMaxPortsPerCore then x.portList (i + 1) else none) = next
  cases next with
  | none => rfl
  | some moved =>
      refine Function.update_of_ne ?_ _ _
      rintro rfl
      split at hnext
      · exact h hnext
      · exact absurd hnext nofun

/-- A port that is not moved keeps its place. -/
lemma ports_shiftPorts_of_ne {port : π}
    (h : ∀ j, i ≤ j → j < i + n → x.portList (j + 1) ≠ some port) :
    (shiftPorts n i x).ports port = x.ports port := by
  induction n generalizing i x with
  | zero => rfl
  | succ n ih =>
      rw [shiftPorts, ih, ports_shiftStep_of_ne (h i le_rfl (by omega))]
      intro j hj hjn
      simp only [shiftStep]
      rw [Function.update_of_ne (by omega)]
      exact h j (by omega) (by omega)

/-- A port that is moved has the place of the entry before. -/
lemma ports_shiftPorts (hlt : i + n < processingMaxPortsPerCore) {port : π} {j : ℕ} (hj : i ≤ j)
    (hjn : j < i + n) (hport : x.portList (j + 1) = some port)
    (honce : ∀ j', i < j' → x.portList j' = some port → j' = j + 1) :
    (shiftPorts n i x).ports port = { x.ports port with corePortSlot := j } := by
  induction n generalizing i x with
  | zero => omega
  | succ n ih =>
      have hi : i + 1 < processingMaxPortsPerCore := by omega
      rw [shiftPorts]
      by_cases hji : j = i
      · -- this turn moves it, and no later one does
        subst hji
        rw [ports_shiftPorts_of_ne]
        · simp only [shiftStep, if_pos hi, hport, Function.update_self]
        · intro j' hj' hjn' heq
          simp only [shiftStep] at heq
          rw [Function.update_of_ne (by omega)] at heq
          have := honce (j' + 1) (by omega) heq
          omega
      · have hlist : ∀ j', i < j' → (shiftStep x i).portList j' = x.portList j' := by
          intro j' hj'
          simp only [shiftStep]
          exact Function.update_of_ne (by omega) _ _
        have hne : x.portList (i + 1) ≠ some port := by
          intro heq
          have := honce (i + 1) (by omega) heq
          omega
        rw [ih (by omega) (by omega) (by omega), ports_shiftStep_of_ne hne]
        · rw [hlist (j + 1) (by omega), hport]
        · intro j' hj' heq
          rw [hlist j' (by omega)] at heq
          exact honce j' (by omega) heq

end Shift

/-! ## The queues of all cores -/

section Queues

variable {P : Platform π} {cores : ℕ → CoreTasks π} {f : Family} {id : ℕ} {q : PortQueues}

omit [DecidableEq π] in
/-- Marking the queues changes nothing else. -/
lemma markQueues_eq (i : ℕ) : (markQueues P cores f id q i).numOfRxPorts = (cores i).numOfRxPorts ∧
    (markQueues P cores f id q i).portList = (cores i).portList := by
  rw [markQueues]
  split <;> exact ⟨rfl, rfl⟩

omit [DecidableEq π] in
lemma queues_markQueues {i : ℕ} (hi : i < P.maxLcore) (f' : Family)
    (id' : Fin processingMaxPorts) : (markQueues P cores f id q i).queues f' id' =
      if f' = f ∧ id'.val = id then q else (cores i).queues f' id' := by
  rw [markQueues, if_pos hi]

end Queues

/-! ## The calls keep the consistency -/

section Calls

variable {P : Platform π} {s : Processing π}

omit [DecidableEq π] in
/-- A port other than the changed one is scheduled as before. -/
lemma scheduledIn_iff_of_ne {s' : Processing π} {f : Family} {port : π}
    (hother : (s'.ports port).scheduled = (s.ports port).scheduled) :
    ScheduledIn P s' f port ↔ ScheduledIn P s f port := by
  rw [ScheduledIn, ScheduledIn, hother]

omit [DecidableEq π] in
/-- The flags of one port are brought up to date on all cores. -/
lemma Consistent.flags (h : Consistent P s) {s' : Processing π} {port : π} {f : Family}
    {q : PortQueues} (hfamily : (P.type port).family = some f)
    (hid : P.portId port < processingMaxPorts)
    (hqueues : ∀ core < P.maxLcore, ∀ f' id, (s'.cores core).queues f' id =
      if f' = f ∧ id.val = P.portId port then q else (s.cores core).queues f' id)
    (hother : ∀ p, p ≠ port → (s'.ports p).scheduled = (s.ports p).scheduled ∧
      (s'.ports p).coreId = (s.ports p).coreId)
    (hpresent : q.present = (s'.ports port).scheduled)
    (hcoreId : q.present = true → q.coreId = (s'.ports port).coreId) :
    (∀ core < P.maxLcore, ∀ f' id, ((s'.cores core).queues f' id).present = true ↔
      ∃ p, ScheduledIn P s' f' p ∧ P.portId p = id) ∧
    (∀ core < P.maxLcore, ∀ f' p, ScheduledIn P s' f' p →
      ∃ id : Fin processingMaxPorts, P.portId p = id ∧
        ((s'.cores core).queues f' id).coreId = (s'.ports p).coreId) := by
  -- the place in the arrays is that of the port alone
  have heq : ∀ {f' p}, ScheduledIn P s' f' p → f' = f → P.portId p = P.portId port → p = port := by
    rintro f' p ⟨-, hp⟩ rfl hid
    exact P.eq_of_portId p port f' hp hfamily hid
  have hne : ∀ {s'' : Processing π} {f' p}, ScheduledIn P s'' f' p →
      ¬ (f' = f ∧ P.portId p = P.portId port) → p ≠ port := by
    rintro s'' f' p ⟨-, hp⟩ hnot rfl
    exact hnot ⟨Option.some.inj (hp.symm.trans hfamily), rfl⟩
  refine ⟨fun core hcore f' id => ?_, fun core hcore f' p hp => ?_⟩
  · rw [hqueues core hcore]
    by_cases hplace : f' = f ∧ id.val = P.portId port
    · rw [if_pos hplace, hpresent]
      obtain ⟨rfl, hplace⟩ := hplace
      constructor
      · intro hscheduled
        exact ⟨port, ⟨hscheduled, hfamily⟩, hplace.symm⟩
      · rintro ⟨p, hp, hid'⟩
        exact heq hp rfl (hid'.trans hplace) ▸ hp.1
    · rw [if_neg hplace, h.present core hcore]
      constructor
      · rintro ⟨p, hp, hid'⟩
        rw [← hid'] at hplace
        exact ⟨p, (scheduledIn_iff_of_ne (hother p (hne hp hplace)).1).mpr hp, hid'⟩
      · rintro ⟨p, hp, hid'⟩
        rw [← hid'] at hplace
        exact ⟨p, (scheduledIn_iff_of_ne (hother p (hne hp hplace)).1).mp hp, hid'⟩
  · by_cases hplace : f' = f ∧ P.portId p = P.portId port
    · obtain rfl := heq hp hplace.1 hplace.2
      refine ⟨⟨P.portId p, hid⟩, rfl, ?_⟩
      rw [hqueues core hcore, if_pos hplace]
      exact hcoreId (hpresent.trans hp.1)
    · obtain ⟨hscheduled, hcore'⟩ := hother p (hne hp hplace)
      obtain ⟨id, hid', hqueue⟩ := h.coreIds core hcore f' p
        ((scheduledIn_iff_of_ne hscheduled).mp hp)
      refine ⟨id, hid', ?_⟩
      rw [hqueues core hcore, ← hid', if_neg hplace, hcore']
      exact hqueue

/-- One port more is scheduled. -/
lemma Consistent.total_succ (h : Consistent P s) {s' : Processing π} {port : π} {f : Family}
    (hfamily : (P.type port).family = some f) (hport : (s.ports port).scheduled = false)
    (hport' : (s'.ports port).scheduled = true)
    (hother : ∀ p, p ≠ port → (s'.ports p).scheduled = (s.ports p).scheduled)
    (htotal : s'.total = Function.update s.total f (s.total f + 1)) (f' : Family) :
    ∃ S : Finset π, (∀ p, p ∈ S ↔ ScheduledIn P s' f' p) ∧ S.card = s'.total f' := by
  obtain ⟨S, hS, hcard⟩ := h.total f'
  rw [htotal]
  by_cases hf : f' = f
  · subst hf
    have hnotMem : port ∉ S := by
      rw [hS]
      rintro ⟨hscheduled, -⟩
      exact absurd (hport.symm.trans hscheduled) nofun
    refine ⟨insert port S, fun p => ?_, ?_⟩
    · rw [Finset.mem_insert, hS]
      by_cases hp : p = port
      · subst hp
        exact ⟨fun _ => ⟨hport', hfamily⟩, fun _ => .inl rfl⟩
      · rw [scheduledIn_iff_of_ne (hother p hp)]
        exact or_iff_right hp
    · rw [Finset.card_insert_of_notMem hnotMem, Function.update_self, hcard]
  · refine ⟨S, fun p => ?_, by rw [Function.update_of_ne hf, hcard]⟩
    rw [hS]
    by_cases hp : p = port
    · subst hp
      have hno : ∀ {s'' : Processing π}, ¬ ScheduledIn P s'' f' p := fun hp =>
        hf (Option.some.inj (hp.2.symm.trans hfamily))
      exact ⟨fun hp => absurd hp hno, fun hp => absurd hp hno⟩
    · rw [scheduledIn_iff_of_ne (hother p hp)]

/-- One port less is scheduled. -/
lemma Consistent.total_pred (h : Consistent P s) {s' : Processing π} {port : π} {f : Family}
    (hfamily : (P.type port).family = some f) (hport : (s.ports port).scheduled = true)
    (hport' : (s'.ports port).scheduled = false)
    (hother : ∀ p, p ≠ port → (s'.ports p).scheduled = (s.ports p).scheduled)
    (htotal : s'.total = Function.update s.total f (s.total f - 1)) (f' : Family) :
    ∃ S : Finset π, (∀ p, p ∈ S ↔ ScheduledIn P s' f' p) ∧ S.card = s'.total f' := by
  obtain ⟨S, hS, hcard⟩ := h.total f'
  have hno : ∀ {p}, p = port → ¬ ScheduledIn P s' f' p := by
    rintro p rfl ⟨hscheduled, -⟩
    exact absurd (hport'.symm.trans hscheduled) nofun
  rw [htotal]
  by_cases hf : f' = f
  · subst hf
    have hmem : port ∈ S := (hS port).mpr ⟨hport, hfamily⟩
    refine ⟨S.erase port, fun p => ?_, ?_⟩
    · rw [Finset.mem_erase, hS]
      by_cases hp : p = port
      · exact ⟨fun hne => absurd hp hne.1, fun hscheduled => absurd hscheduled (hno hp)⟩
      · rw [scheduledIn_iff_of_ne (hother p hp)]
        exact and_iff_right hp
    · rw [Finset.card_erase_of_mem hmem, Function.update_self, hcard]
  · refine ⟨S, fun p => ?_, by rw [Function.update_of_ne hf, hcard]⟩
    rw [hS]
    by_cases hp : p = port
    · refine ⟨fun hscheduled => ?_, fun hscheduled => absurd hscheduled (hno hp)⟩
      subst hp
      exact absurd (Option.some.inj (hscheduled.2.symm.trans hfamily)) hf
    · rw [scheduledIn_iff_of_ne (hother p hp)]

/-! ### A port is assigned -/

/-- What changes when the port is assigned to a core. -/
structure Assigned (P : Platform π) (s s' : Processing π) (port : π) (f : Family) (core : ℕ) :
    Prop where
  self : s'.ports port = ⟨true, core, (s.cores core).numOfRxPorts⟩
  ports : ∀ p, p ≠ port → s'.ports p = s.ports p
  list : (s'.cores core).portList =
    Function.update (s.cores core).portList (s.cores core).numOfRxPorts (some port)
  num : (s'.cores core).numOfRxPorts = (s.cores core).numOfRxPorts + 1
  cores : ∀ c, c ≠ core → (s'.cores c).portList = (s.cores c).portList ∧
    (s'.cores c).numOfRxPorts = (s.cores c).numOfRxPorts
  queues : ∀ c < P.maxLcore, ∀ f' id, (s'.cores c).queues f' id =
    if f' = f ∧ id.val = P.portId port then ⟨true, core⟩ else (s.cores c).queues f' id
  total : s'.total = Function.update s.total f (s.total f + 1)
  overread : s'.overread = s.overread
  overwritten : s'.overwritten = (s.overwritten || !decide (P.portId port < processingMaxPorts))
  locked : s'.locked = s.locked

lemma assigned_assignPort {port : π} {f : Family} {core : ℕ} :
    Assigned P s (assignPort P s port f core) port f core where
  self := Function.update_self _ _ _
  ports p hp := Function.update_of_ne hp _ _
  list := by
    refine (markQueues_eq core).2.trans ?_
    rw [Function.update_self]
  num := by
    refine (markQueues_eq core).1.trans ?_
    rw [Function.update_self]
  cores c hc := by
    refine ⟨(markQueues_eq c).2.trans ?_, (markQueues_eq c).1.trans ?_⟩ <;>
      rw [Function.update_of_ne hc]
  queues c hc f' id := by
    refine (queues_markQueues hc f' id).trans ?_
    by_cases hceq : c = core
    · rw [hceq, Function.update_self]
    · rw [Function.update_of_ne hceq]
  total := rfl
  overread := rfl
  overwritten := rfl
  locked := rfl

namespace Assigned

variable {s' : Processing π} {port : π} {f : Family} {core : ℕ}

/-- The port has the new entry, and the others keep theirs. -/
lemma back (ha : Assigned P s s' port f core) (h : Consistent P s) (hcore : core < P.maxLcore)
    {p : π} (hp : (s'.ports p).scheduled = true) : (s'.ports p).coreId < P.maxLcore ∧
      (s'.ports p).corePortSlot < (s'.cores (s'.ports p).coreId).numOfRxPorts ∧
      (s'.cores (s'.ports p).coreId).portList (s'.ports p).corePortSlot = some p := by
  by_cases heq : p = port
  · subst heq
    rw [ha.self, ha.num, ha.list, Function.update_self]
    exact ⟨hcore, Nat.lt_succ_self _, rfl⟩
  · rw [ha.ports p heq] at hp ⊢
    obtain ⟨hc, hslot, hentry⟩ := h.back p hp
    refine ⟨hc, ?_⟩
    by_cases hceq : (s.ports p).coreId = core
    · rw [hceq] at hslot hentry ⊢
      rw [ha.num, ha.list, Function.update_of_ne (ne_of_lt hslot)]
      exact ⟨by omega, hentry⟩
    · rw [(ha.cores _ hceq).1, (ha.cores _ hceq).2]
      exact ⟨hslot, hentry⟩

omit [DecidableEq π] in
/-- An entry is the new one, or one from before. -/
lemma entries (ha : Assigned P s s' port f core) (h : Consistent P s)
    (hport : (s.ports port).scheduled = false) {c : ℕ} (hc : c < P.maxLcore) {i : ℕ} {p : π}
    (hp : (s'.cores c).portList i = some p) :
    i < (s'.cores c).numOfRxPorts ∧ s'.ports p = ⟨true, c, i⟩ := by
  have hne : ∀ p, (s.ports p).scheduled = true → p ≠ port := by
    rintro p hp rfl
    exact absurd (hport.symm.trans hp) Bool.false_ne_true
  by_cases hceq : c = core
  · subst hceq
    rw [ha.list] at hp
    rw [ha.num]
    by_cases hi : i = (s.cores c).numOfRxPorts
    · subst hi
      rw [Function.update_self] at hp
      obtain rfl : port = p := Option.some.inj hp
      exact ⟨Nat.lt_succ_self _, ha.self⟩
    · rw [Function.update_of_ne hi] at hp
      obtain ⟨hlt, hstate⟩ := h.entries c hc i p hp
      rw [ha.ports p (hne p (by rw [hstate]))]
      exact ⟨by omega, hstate⟩
  · rw [(ha.cores c hceq).1] at hp
    obtain ⟨hlt, hstate⟩ := h.entries c hc i p hp
    rw [ha.ports p (hne p (by rw [hstate])), (ha.cores c hceq).2]
    exact ⟨hlt, hstate⟩

omit [DecidableEq π] in
lemma filled (ha : Assigned P s s' port f core) (h : Consistent P s) {c : ℕ} (hc : c < P.maxLcore)
    {i : ℕ} (hi : i < (s'.cores c).numOfRxPorts) : (s'.cores c).portList i ≠ none := by
  by_cases hceq : c = core
  · subst hceq
    rw [ha.num] at hi
    rw [ha.list]
    by_cases hi' : i = (s.cores c).numOfRxPorts
    · rw [hi', Function.update_self]
      exact Option.some_ne_none port
    · rw [Function.update_of_ne hi']
      exact h.filled c hc i (by omega)
  · rw [(ha.cores c hceq).2] at hi
    rw [(ha.cores c hceq).1]
    exact h.filled c hc i hi

omit [DecidableEq π] in
lemma bound (ha : Assigned P s s' port f core) (h : Consistent P s)
    (hroom : (s.cores core).numOfRxPorts ≠ processingMaxPortsPerCore) {c : ℕ}
    (hc : c < P.maxLcore) : (s'.cores c).numOfRxPorts ≤ processingMaxPortsPerCore := by
  have hbound := h.bound c hc
  by_cases hceq : c = core
  · subst hceq
    rw [ha.num]
    omega
  · rw [(ha.cores c hceq).2]
    exact hbound

end Assigned

/-- A port that is not scheduled is assigned to a core that has a free entry. -/
lemma Consistent.assignPort (h : Consistent P s) {port : π} {f : Family} {core : ℕ}
    (hfamily : (P.type port).family = some f) (hport : (s.ports port).scheduled = false)
    (hid : P.portId port < processingMaxPorts) (hcore : core < P.maxLcore)
    (hroom : (s.cores core).numOfRxPorts ≠ processingMaxPortsPerCore) :
    Consistent P (assignPort P s port f core) := by
  have ha : Assigned P s (Dpdk.assignPort P s port f core) port f core := assigned_assignPort
  obtain ⟨hpresent, hcoreIds⟩ := h.flags hfamily hid ha.queues
    (fun p hp => by rw [ha.ports p hp]; exact ⟨rfl, rfl⟩) (by rw [ha.self])
    fun _ => by rw [ha.self]
  exact
    { back := fun p hp => ha.back h hcore hp
      entries := fun c hc i p hp => ha.entries h hport hc hp
      filled := fun c hc i hi => ha.filled h hc hi
      bound := fun c hc => ha.bound h hroom hc
      present := hpresent
      coreIds := hcoreIds
      total := h.total_succ hfamily hport (by rw [ha.self]) (fun p hp => by rw [ha.ports p hp])
        ha.total
      overread := ha.overread.trans h.overread
      overwritten := by rw [ha.overwritten, h.overwritten, decide_eq_true hid]; rfl
      unlocked := ha.locked.trans h.unlocked }

/-- `processing_schedule_port` keeps the consistency, if it is called with care. -/
lemma Consistent.schedulePort (h : Consistent P s) {port : π} {queuesSet : Bool}
    (hcareful : Careful P s (.schedulePort port queuesSet)) {r : RoflResult} {s' : Processing π}
    (hcall : processingSchedulePort P s port queuesSet = some (r, s')) : Consistent P s' := by
  obtain ⟨f, hfamily, hcareful⟩ := hcareful
  have hfamily : (P.type port).family = some f := hfamily
  rw [processingSchedulePort, h.unlocked, hfamily] at hcall
  change (if s.total f = processingMaxPorts then _ else _) = _ at hcall
  split at hcall
  · cases hcall
    exact h
  next htotal =>
    cases hselect : selectCore P s port with
    | none =>
        rw [hselect] at hcall
        cases hcall
        exact h
    | some core =>
        obtain ⟨hport, hid, hqueues⟩ := (hcareful.resolve_left htotal).resolve_left
          (by rw [hselect]; exact nofun)
        obtain ⟨hcore, hroom⟩ := of_selectCore hselect
        rw [hselect] at hcall
        change (if _ then _ else if _ then _ else _) = _ at hcall
        split at hcall
        · cases hcall
          exact h
        · split at hcall
          · next hfails =>
            rw [hqueues hfails.1] at hfails
            exact absurd hfails.2 nofun
          · cases hcall
            exact h.assignPort hfamily hport hid hcore hroom

/-- The ports after the loop: those behind the gap in the list are one entry further up. -/
lemma Consistent.ports_shiftPorts (h : Consistent P s) {core slot : ℕ} (hcore : core < P.maxLcore)
    (hlt : slot < (s.cores core).numOfRxPorts)
    (hroom : (s.cores core).numOfRxPorts < processingMaxPortsPerCore) (p : π) :
    (shiftPorts ((s.cores core).numOfRxPorts - slot) slot
        ⟨(s.cores core).portList, s.ports, s.overread⟩).ports p =
      if (s.ports p).scheduled = true ∧ (s.ports p).coreId = core ∧
          slot < (s.ports p).corePortSlot then
        ⟨true, core, (s.ports p).corePortSlot - 1⟩
      else s.ports p := by
  have hsum : slot + ((s.cores core).numOfRxPorts - slot) = (s.cores core).numOfRxPorts := by omega
  split
  · next hmoved =>
    obtain ⟨hscheduled, hcoreId, hslot⟩ := hmoved
    obtain ⟨-, hnum, hentry⟩ := h.back p hscheduled
    rw [hcoreId] at hnum hentry
    have hj : (s.ports p).corePortSlot - 1 + 1 = (s.ports p).corePortSlot := by omega
    rw [Dpdk.ports_shiftPorts (j := (s.ports p).corePortSlot - 1) (by omega) (by omega) (by omega)]
    · rw [← hscheduled, ← hcoreId]
    · rw [hj]
      exact hentry
    · intro j' _ hj'
      rw [hj, (h.entries core hcore j' p hj').2]
  · next hkept =>
    refine ports_shiftPorts_of_ne fun j hj hjn hentry => hkept ?_
    rw [(h.entries core hcore (j + 1) p hentry).2]
    exact ⟨rfl, rfl, Nat.lt_succ_of_le hj⟩

/-! ### A port is taken away -/

/-- What changes when the port is taken from its place in the list of a core. -/
structure Removed (P : Platform π) (s s' : Processing π) (port : π) (f : Family)
    (core slot : ℕ) : Prop where
  lt : slot < (s.cores core).numOfRxPorts
  self : (s'.ports port).scheduled = false
  ports : ∀ p, p ≠ port → s'.ports p =
    if (s.ports p).scheduled = true ∧ (s.ports p).coreId = core ∧
        slot < (s.ports p).corePortSlot then
      ⟨true, core, (s.ports p).corePortSlot - 1⟩
    else s.ports p
  list : ∀ j, (s'.cores core).portList j =
    if slot ≤ j ∧ j < (s.cores core).numOfRxPorts then (s.cores core).portList (j + 1)
    else (s.cores core).portList j
  num : (s'.cores core).numOfRxPorts = (s.cores core).numOfRxPorts - 1
  cores : ∀ c, c ≠ core → (s'.cores c).portList = (s.cores c).portList ∧
    (s'.cores c).numOfRxPorts = (s.cores c).numOfRxPorts
  queues : ∀ c < P.maxLcore, ∀ f' id, (s'.cores c).queues f' id =
    if f' = f ∧ id.val = P.portId port then ⟨false, 0xFFFFFFFF⟩ else (s.cores c).queues f' id
  total : s'.total = Function.update s.total f (s.total f - 1)
  overread : s'.overread = s.overread
  overwritten : s'.overwritten = (s.overwritten || !decide (P.portId port < processingMaxPorts))
  locked : s'.locked = s.locked

lemma removed_removePort (h : Consistent P s) {port : π} {f : Family} {core slot : ℕ}
    (hplace : s.ports port = ⟨true, core, slot⟩)
    (hroom : (s.cores core).numOfRxPorts < processingMaxPortsPerCore) :
    Removed P s (removePort P s port f) port f core slot := by
  have hcoreId : (s.ports port).coreId = core := by rw [hplace]
  have hslotId : (s.ports port).corePortSlot = slot := by rw [hplace]
  obtain ⟨hcore, hslot, -⟩ := h.back port (by rw [hplace])
  rw [hcoreId] at hcore hslot
  rw [hslotId] at hslot
  have hsum : slot + ((s.cores core).numOfRxPorts - slot) = (s.cores core).numOfRxPorts := by omega
  have hlt : slot + ((s.cores core).numOfRxPorts - slot) < processingMaxPortsPerCore := by omega
  exact
    { lt := hslot
      self := by simp only [removePort, Function.update_self]
      ports := fun p hp => by
        refine (Function.update_of_ne hp _ _).trans ?_
        rw [hcoreId, hslotId]
        exact h.ports_shiftPorts hcore hslot hroom p
      list := fun j => by
        have hshift := portList_shiftPorts
          (x := ⟨(s.cores core).portList, s.ports, s.overread⟩) hlt j
        rw [hsum] at hshift
        refine (congrFun (markQueues_eq core).2 j).trans ?_
        rw [hcoreId, hslotId, Function.update_self]
        exact hshift
      num := by
        refine (markQueues_eq core).1.trans ?_
        rw [hcoreId, Function.update_self]
      cores := fun c hc => by
        refine ⟨(markQueues_eq c).2.trans ?_, (markQueues_eq c).1.trans ?_⟩ <;>
          rw [hcoreId, Function.update_of_ne hc]
      queues := fun c hc f' id => by
        refine (queues_markQueues hc f' id).trans ?_
        by_cases hceq : c = core
        · rw [hceq, hcoreId, Function.update_self]
        · rw [hcoreId, Function.update_of_ne hceq]
      total := rfl
      overread := by
        refine overread_shiftPorts ?_
        rw [hcoreId, hslotId]
        exact hlt
      overwritten := rfl
      locked := rfl }

namespace Removed

variable {s' : Processing π} {port : π} {f : Family} {core slot : ℕ}

omit [DecidableEq π] in
/-- A port that moves up in the list stays scheduled, and on its core. -/
lemma same (hr : Removed P s s' port f core slot) {p : π} (hp : p ≠ port) :
    (s'.ports p).scheduled = (s.ports p).scheduled ∧ (s'.ports p).coreId = (s.ports p).coreId := by
  rw [hr.ports p hp]
  split
  · next hmoved => exact ⟨hmoved.1.symm, hmoved.2.1.symm⟩
  · exact ⟨rfl, rfl⟩

omit [DecidableEq π] in
/-- A port that stays scheduled has the entry that its reference tells. -/
lemma back (hr : Removed P s s' port f core slot) (h : Consistent P s)
    (hplace : s.ports port = ⟨true, core, slot⟩) {p : π} (hp : (s'.ports p).scheduled = true) :
    (s'.ports p).coreId < P.maxLcore ∧
      (s'.ports p).corePortSlot < (s'.cores (s'.ports p).coreId).numOfRxPorts ∧
      (s'.cores (s'.ports p).coreId).portList (s'.ports p).corePortSlot = some p := by
  have hne : p ≠ port := by
    rintro rfl
    exact absurd (hr.self.symm.trans hp) Bool.false_ne_true
  have hscheduled : (s.ports p).scheduled = true := (hr.same hne).1.symm.trans hp
  obtain ⟨hc, hlt, hentry⟩ := h.back p hscheduled
  have hslot := hr.lt
  rw [hr.ports p hne]
  split
  · next hmoved =>
    -- behind the gap: one entry further up
    rw [hmoved.2.1] at hc hlt hentry
    dsimp only
    have hsucc : (s.ports p).corePortSlot - 1 + 1 = (s.ports p).corePortSlot := by omega
    rw [hr.num, hr.list, if_pos (by omega), hsucc]
    exact ⟨hc, by omega, hentry⟩
  · next hkept =>
    refine ⟨hc, ?_⟩
    by_cases hceq : (s.ports p).coreId = core
    · rw [hceq] at hlt hentry ⊢
      have hle : ¬ slot < (s.ports p).corePortSlot := fun hbehind =>
        hkept ⟨hscheduled, hceq, hbehind⟩
      have hother : (s.ports p).corePortSlot ≠ slot := by
        intro heq
        obtain ⟨-, -, hport⟩ := h.back port (by rw [hplace])
        rw [hplace] at hport
        rw [heq] at hentry
        exact hne (Option.some.inj (hentry.symm.trans hport))
      rw [hr.num, hr.list, if_neg (by omega)]
      exact ⟨by omega, hentry⟩
    · rw [(hr.cores _ hceq).1, (hr.cores _ hceq).2]
      exact ⟨hlt, hentry⟩

omit [DecidableEq π] in
/-- An entry in front of the gap is one from before, and one behind it was the next one. -/
lemma entries (hr : Removed P s s' port f core slot) (h : Consistent P s)
    (hplace : s.ports port = ⟨true, core, slot⟩) {c : ℕ} (hc : c < P.maxLcore) {i : ℕ} {p : π}
    (hp : (s'.cores c).portList i = some p) :
    i < (s'.cores c).numOfRxPorts ∧ s'.ports p = ⟨true, c, i⟩ := by
  -- an entry from before that is not the one of the port
  have hentry : ∀ {j}, (s.cores c).portList j = some p → ¬ (c = core ∧ j = slot) →
      j < (s.cores c).numOfRxPorts ∧ s.ports p = ⟨true, c, j⟩ ∧ p ≠ port := by
    intro j hj hother
    obtain ⟨hlt, hstate⟩ := h.entries c hc j p hj
    refine ⟨hlt, hstate, ?_⟩
    rintro rfl
    rw [hplace] at hstate
    injection hstate with _ hcoreEq hslotEq
    exact hother ⟨hcoreEq.symm, hslotEq.symm⟩
  by_cases hceq : c = core
  · subst hceq
    have hslot := hr.lt
    rw [hr.list] at hp
    rw [hr.num]
    split at hp
    · next hmoved =>
      obtain ⟨hlt, hstate, hne⟩ := hentry hp (by omega)
      rw [hr.ports p hne, hstate, if_pos ⟨rfl, rfl, Nat.lt_succ_of_le hmoved.1⟩]
      exact ⟨by omega, rfl⟩
    · next hkept =>
      have hlt' := (h.entries c hc i p hp).1
      obtain ⟨hlt, hstate, hne⟩ := hentry hp (by omega)
      have hle : ¬ slot < i := by omega
      rw [hr.ports p hne, hstate, if_neg fun hmoved => hle hmoved.2.2]
      exact ⟨by omega, rfl⟩
  · rw [(hr.cores c hceq).1] at hp
    obtain ⟨hlt, hstate, hne⟩ := hentry hp fun hplace' => hceq hplace'.1
    rw [hr.ports p hne, (hr.cores c hceq).2, hstate, if_neg fun hmoved => hceq hmoved.2.1]
    exact ⟨hlt, rfl⟩

omit [DecidableEq π] in
lemma filled (hr : Removed P s s' port f core slot) (h : Consistent P s) {c : ℕ}
    (hc : c < P.maxLcore) {i : ℕ} (hi : i < (s'.cores c).numOfRxPorts) :
    (s'.cores c).portList i ≠ none := by
  by_cases hceq : c = core
  · subst hceq
    rw [hr.num] at hi
    rw [hr.list]
    split
    · exact h.filled c hc (i + 1) (by omega)
    · exact h.filled c hc i (by omega)
  · rw [(hr.cores c hceq).2] at hi
    rw [(hr.cores c hceq).1]
    exact h.filled c hc i hi

omit [DecidableEq π] in
lemma bound (hr : Removed P s s' port f core slot) (h : Consistent P s) {c : ℕ}
    (hc : c < P.maxLcore) : (s'.cores c).numOfRxPorts ≤ processingMaxPortsPerCore := by
  have hbound := h.bound c hc
  by_cases hceq : c = core
  · subst hceq
    rw [hr.num]
    omega
  · rw [(hr.cores c hceq).2]
    exact hbound

end Removed

/-- A scheduled port is taken from its core, whose list is not full. -/
lemma Consistent.removePort (h : Consistent P s) {port : π} {f : Family}
    (hfamily : (P.type port).family = some f) (hport : (s.ports port).scheduled = true)
    (hroom : (s.cores (s.ports port).coreId).numOfRxPorts < processingMaxPortsPerCore) :
    Consistent P (removePort P s port f) := by
  have hplace : s.ports port = ⟨true, (s.ports port).coreId, (s.ports port).corePortSlot⟩ := by
    rw [← hport]
  have hr := removed_removePort (f := f) h hplace hroom
  have hid := h.portId_lt hfamily hport
  obtain ⟨hpresent, hcoreIds⟩ := h.flags hfamily hid hr.queues (fun p hp => hr.same hp) hr.self.symm
    fun hpresent => absurd hpresent Bool.false_ne_true
  exact
    { back := fun p hp => hr.back h hplace hp
      entries := fun c hc i p hp => hr.entries h hplace hc hp
      filled := fun c hc i hi => hr.filled h hc hi
      bound := fun c hc => hr.bound h hc
      present := hpresent
      coreIds := hcoreIds
      total := h.total_pred hfamily hport hr.self (fun p hp => (hr.same hp).1) hr.total
      overread := hr.overread.trans h.overread
      overwritten := by rw [hr.overwritten, h.overwritten, decide_eq_true hid]; rfl
      unlocked := hr.locked.trans h.unlocked }

/-- `processing_deschedule_port` keeps the consistency, if the list of the core is not full. -/
lemma Consistent.deschedulePort (h : Consistent P s) {port : π}
    (hcareful : Careful P s (.deschedulePort port)) {r : RoflResult} {s' : Processing π}
    (hcall : processingDeschedulePort P s port = some (r, s')) : Consistent P s' := by
  rw [processingDeschedulePort] at hcall
  cases hfamily : (P.type port).family with
  | none =>
      rw [hfamily] at hcall
      cases hcall
      exact h
  | some f =>
      rw [hfamily] at hcall
      change (if _ then _ else if _ then _ else _) = _ at hcall
      split at hcall
      · cases hcall
        exact h
      next hscheduled =>
        rw [Bool.not_eq_true', Bool.not_eq_false] at hscheduled
        split at hcall
        · cases hcall
        · cases hcall
          exact h.removePort hfamily hscheduled (hcareful (by rw [hfamily]; exact nofun) hscheduled)

omit [DecidableEq π] in
/-- Nothing is scheduled at the start. -/
lemma consistent_init (P : Platform π) (available : ℕ → Bool) :
    Consistent P (processingInit available) := by
  refine ⟨nofun, nofun, nofun, fun _ _ => Nat.zero_le _, fun _ _ f id => ?_, ?_, fun f => ?_, rfl,
    rfl, rfl⟩
  · refine ⟨nofun, ?_⟩
    rintro ⟨port, ⟨hport, -⟩, -⟩
    exact absurd hport nofun
  · rintro core hcore f port ⟨hport, -⟩
    exact absurd hport nofun
  · refine ⟨∅, fun port => ?_, rfl⟩
    exact ⟨fun hmem => absurd hmem (Finset.notMem_empty port), fun hport => absurd hport.1 nofun⟩

/-- **Scheduling.**  In every run of careful calls the lists of the cores, their lengths, the
references of the ports, the flags on all cores and the counters agree, nothing behind the end of a
list is read or behind the queues written, and the spinlock is free after each call. -/
theorem consistent_of_careful (P : Platform π) (available : ℕ → Bool) {calls : List (Call π)}
    {s : Processing π} (hrun : Run (call P) (Careful P) (processingInit available) calls s) :
    Consistent P s := by
  refine hrun.invariant ?_ (consistent_init P available)
  intro s c s' hinv hcareful hcall
  cases c with
  | schedulePort port queuesSet =>
      obtain ⟨⟨r, s''⟩, hresult, rfl⟩ := Option.map_eq_some_iff.mp hcall
      exact hinv.schedulePort hcareful hresult
  | deschedulePort port =>
      obtain ⟨⟨r, s''⟩, hresult, rfl⟩ := Option.map_eq_some_iff.mp hcall
      exact hinv.deschedulePort hcareful hresult

end Calls

/-- Two cores, and physical ports that are known by their numbers. -/
def twoCores : Platform ℕ where
  maxLcore := 2
  type _ := .physical
  portId port := port
  eq_of_portId _ _ _ _ _ h := h
  wrongSocket _ _ := false

/-- Three ports are scheduled, and the first one on its core is taken away. -/
def removeFirst : List (Call ℕ) :=
  [.schedulePort 5 true, .schedulePort 6 true, .schedulePort 7 true, .deschedulePort 5]

theorem consistent_removeFirst :
    ∃ s ∈ exec (guarded (call twoCores) (Careful twoCores)) (processingInit fun _ => true)
        removeFirst,
      (s.ports 7).corePortSlot = 0 ∧ Consistent twoCores s := by
  have hexec : ∃ s ∈ exec (guarded (call twoCores) (Careful twoCores))
      (processingInit fun _ => true) removeFirst, (s.ports 7).corePortSlot = 0 := by decide
  obtain ⟨s, hs, hslot⟩ := hexec
  exact ⟨s, hs, hslot, consistent_of_careful twoCores _ (run_of_exec_guarded hs)⟩

/-- A port that is scheduled twice is in the lists of two cores. -/
theorem not_consistent_of_twice : ¬ ∀ (P : Platform ℕ) (available : ℕ → Bool)
    (calls : List (Call ℕ)) (s : Processing ℕ),
    Run (call P) anyStep (processingInit available) calls s → Consistent P s := by
  intro hall
  have hexec : ∃ s ∈ exec (call twoCores) (processingInit fun _ => true)
      [.schedulePort 5 true, .schedulePort 5 true],
      (s.cores 0).portList 0 = some 5 ∧ (s.ports 5).coreId = 1 := by decide
  obtain ⟨s, hs, hlist, hcore⟩ := hexec
  have hport := ((hall _ _ _ s (run_of_exec hs)).entries 0 (by decide) 0 5 hlist).2
  rw [hport] at hcore
  exact absurd hcore nofun

/-- One core, and ports of network functions that are known by their numbers. -/
def nfPorts : Platform ℕ where
  maxLcore := 1
  type _ := .nfShmem
  portId port := port
  eq_of_portId _ _ _ _ _ h := h
  wrongSocket _ _ := false

-- the flags of the port with the number 128 are behind the array
example : ∃ s ∈ exec (call nfPorts) (processingInit fun _ => true) [.schedulePort 128 true],
    s.overwritten = true := by
  decide

end Xdpd.Dpdk
