import Xdpd.Io.PortGroups

/-!
# How the calls of the manager end

`add_port` and `bring_port_up` make their internal calls in a fixed order, and the first of these
that fails decides how they end (`outcome`).  This holds of `add_port` for every port, and of
`bring_port_up` for a port that is in two groups and runs in none.
-/

namespace Xdpd.Io

variable {π : Type*}

/-! ## The first call that fails -/

/-- What can go wrong at a point of a function. -/
inductive Hazard
  /-- then the function ends with `ROFL_FAILURE` -/
  | failure (happens : Bool)
  /-- then it throws, or waits for ever -/
  | stuck (happens : Bool)
  deriving DecidableEq, Repr

/-- How the function ends, where the first thing decides that goes wrong. -/
def outcome : List Hazard → Outcome
  | [] => .success
  | .failure happens :: hazards => if happens then .failure else outcome hazards
  | .stuck happens :: hazards => if happens then .stuck else outcome hazards

@[simp]
lemma outcome_nil : outcome [] = .success := rfl

@[simp]
lemma outcome_failure (happens : Bool) (hazards : List Hazard) :
    outcome (.failure happens :: hazards) = if happens then .failure else outcome hazards := rfl

@[simp]
lemma outcome_stuck (happens : Bool) (hazards : List Hazard) :
    outcome (.stuck happens :: hazards) = if happens then .stuck else outcome hazards := rfl

lemma outcome_append (hazards hazards' : List Hazard) : outcome (hazards ++ hazards') =
    if outcome hazards = .success then outcome hazards' else outcome hazards := by
  induction hazards with
  | nil => rfl
  | cons hazard hazards ih =>
      cases hazard with
      | failure happens => cases happens <;> simp [ih]
      | stuck happens => cases happens <;> simp [ih]

/-! ## Adding a port -/

/-- The numbers that the manager hands out are those of groups of the right type. -/
structure Scheduled (cnt : GroupCounts) (s : ManagerState π) : Prop where
  rx : s.next_rx_sched_grp_id < cnt.num_of_rx_groups
  tx : s.next_tx_sched_grp_id < cnt.num_of_tx_groups

namespace ManagerState

/-- The group for reception that a port is added to next. -/
def nextRx (s : ManagerState π) : ℕ := s.next_rx_sched_grp_id

/-- The group for transmission that a port is added to next. -/
def nextTx (cnt : GroupCounts) (s : ManagerState π) : ℕ :=
  s.next_tx_sched_grp_id + cnt.num_of_rx_groups

/-- The port is in a group of this type. -/
def InType (cnt : GroupCounts) (s : ManagerState π) (port : π) (type : PgType) : Prop :=
  ∃ i < cnt.size, port ∈ (s.portgroups i).ports ∧ cnt.type i = type

instance [DecidableEq π] (cnt : GroupCounts) (s : ManagerState π) (port : π) (type : PgType) :
    Decidable (s.InType cnt port type) :=
  inferInstanceAs (Decidable (∃ i < cnt.size, _))

/-- The port has been added to the next groups. -/
def added (cnt : GroupCounts) (s : ManagerState π) (port : π) : ManagerState π :=
  (((s.rxSched cnt).setGroup s.nextRx ((s.portgroups s.nextRx).insert port)).txSched cnt).setGroup
    (s.nextTx cnt) ((s.portgroups (s.nextTx cnt)).insert port)

end ManagerState

open ManagerState

variable {cnt : GroupCounts} {s : ManagerState π} {port : π} {fails : InternalCall → Bool}

lemma Scheduled.type_nextRx (h : Scheduled cnt s) : cnt.type s.nextRx = .rx :=
  type_eq_rx_iff.2 h.rx

lemma type_nextTx : cnt.type (s.nextTx cnt) = .tx := type_eq_tx_iff.2 (Nat.le_add_left _ _)

lemma Scheduled.nextTx_lt_size (h : Scheduled cnt s) : s.nextTx cnt < cnt.size := by
  have htx := h.tx
  rw [nextTx, GroupCounts.size]
  omega

lemma Scheduled.ne (h : Scheduled cnt s) : s.nextTx cnt ≠ s.nextRx :=
  Nat.ne_of_gt (rx_lt_tx h.type_nextRx type_nextTx)

lemma portgroups_added_rx (h : Scheduled cnt s) :
    (s.added cnt port).portgroups s.nextRx = (s.portgroups s.nextRx).insert port := by
  rw [added, setGroup_of_ne h.ne.symm]
  exact setGroup_self

lemma portgroups_added_tx :
    (s.added cnt port).portgroups (s.nextTx cnt) = (s.portgroups (s.nextTx cnt)).insert port :=
  setGroup_self

lemma portgroups_added_of_ne {g : ℕ} (hrx : g ≠ s.nextRx) (htx : g ≠ s.nextTx cnt) :
    (s.added cnt port).portgroups g = s.portgroups g := by
  rw [added, setGroup_of_ne htx]
  exact setGroup_of_ne hrx

lemma mem_ports_added (h : Scheduled cnt s) {g : ℕ} {q : π} :
    q ∈ ((s.added cnt port).portgroups g).ports ↔
      q ∈ (s.portgroups g).ports ∨ q = port ∧ (g = s.nextRx ∨ g = s.nextTx cnt) := by
  by_cases hrx : g = s.nextRx
  · subst hrx
    rw [portgroups_added_rx h]
    simp [PortgroupPorts.insert]
  · by_cases htx : g = s.nextTx cnt
    · subst htx
      rw [portgroups_added_tx]
      simp [PortgroupPorts.insert]
    · rw [portgroups_added_of_ne hrx htx]
      simp [hrx, htx]

lemma running_ports_added (h : Scheduled cnt s) (g : ℕ) :
    ((s.added cnt port).portgroups g).running_ports = (s.portgroups g).running_ports := by
  by_cases hrx : g = s.nextRx
  · subst hrx
    rw [portgroups_added_rx h]
    rfl
  · by_cases htx : g = s.nextTx cnt
    · subst htx
      rw [portgroups_added_tx]
      rfl
    · rw [portgroups_added_of_ne hrx htx]

lemma scheduled_added : Scheduled cnt (s.added cnt port) where
  rx := Nat.mod_lt _ cnt.rx_pos
  tx := Nat.mod_lt _ cnt.tx_pos

section Operations

variable [DecidableEq π]

/-- What can go wrong in `add_port`. -/
def addHazards (cnt : GroupCounts) (fails : InternalCall → Bool) (port : π) (s : ManagerState π) :
    List Hazard :=
  [.failure (s.InType cnt port .rx), .stuck (fails (.pushPort s.nextRx)),
    .failure (s.InType cnt port .tx), .stuck (fails (.pushPort (s.nextTx cnt)))]

lemma addPortToGroup_of_not {g : ℕ} (h : ¬ s.InType cnt port (cnt.type g)) :
    addPortToGroup cnt fails g port s = if fails (.pushPort g) then (.stuck, s.lock)
      else (.success, s.setGroup g ((s.portgroups g).insert port)) := by
  rw [addPortToGroup]
  exact if_neg h

/-- `add_port` ends as its internal calls say. -/
lemma addPort_spec (h : Scheduled cnt s) :
    (addPort cnt fails port s).1 = outcome (addHazards cnt fails port s) ∧
      ((addPort cnt fails port s).1 = .success →
        (addPort cnt fails port s).2 = s.added cnt port) := by
  by_cases hrx : s.InType cnt port .rx
  · have hfirst : addPort cnt fails port s = (.failure, s.rxSched cnt) := by
      refine addPort_of_ne (if_pos ?_) nofun
      rw [show cnt.type s.next_rx_sched_grp_id = .rx from h.type_nextRx]
      exact hrx
    rw [hfirst]
    simp [addHazards, hrx]
  · have hrx' : ¬ (s.rxSched cnt).InType cnt port (cnt.type s.nextRx) := by
      rw [h.type_nextRx]
      exact hrx
    have hfirst : addPortToGroup cnt fails s.nextRx port (s.rxSched cnt) = _ :=
      addPortToGroup_of_not hrx'
    by_cases hpush : fails (.pushPort s.nextRx) = true
    · rw [if_pos hpush] at hfirst
      rw [addPort_of_ne hfirst nofun]
      simp [addHazards, hrx, hpush]
    · rw [if_neg hpush] at hfirst
      set s₁ := (s.rxSched cnt).setGroup s.nextRx ((s.portgroups s.nextRx).insert port) with hs₁
      have heq : addPort cnt fails port s =
          addPortToGroup cnt fails (s.nextTx cnt) port (s₁.txSched cnt) := addPort_of_success hfirst
      -- the group for reception does not matter here
      have htx : (s₁.txSched cnt).InType cnt port (cnt.type (s.nextTx cnt)) ↔
          s.InType cnt port .tx := by
        rw [type_nextTx]
        refine exists_congr fun i => and_congr_right fun _ => and_congr_left fun htype => ?_
        have hne : i ≠ s.nextRx := by
          rintro rfl
          rw [h.type_nextRx] at htype
          exact absurd htype nofun
        show port ∈ (s₁.portgroups i).ports ↔ _
        rw [hs₁, setGroup_of_ne hne]
        rfl
      by_cases hmem : s.InType cnt port .tx
      · have hsecond : addPort cnt fails port s = (.failure, s₁.txSched cnt) :=
          heq.trans (if_pos (htx.2 hmem))
        rw [hsecond]
        simp [addHazards, hrx, hpush, hmem]
      · rw [heq, addPortToGroup_of_not (htx.not.2 hmem)]
        have hgroup : (s₁.txSched cnt).portgroups (s.nextTx cnt) =
            s.portgroups (s.nextTx cnt) := setGroup_of_ne h.ne
        by_cases hpushTx : fails (.pushPort (s.nextTx cnt)) = true
        · rw [if_pos hpushTx]
          simp [addHazards, hrx, hpush, hmem, hpushTx]
        · rw [if_neg hpushTx, hgroup]
          simp [addHazards, hrx, hpush, hmem, hpushTx, added, hs₁]

/-! ## Bringing a port up -/

/-- What can go wrong in `bring_port_up` for a port of the groups `r` and `t`, which may be idle. -/
def upHazards (fails : InternalCall → Bool) (r t : ℕ) (idleRx idleTx : Bool) : List Hazard :=
  [.failure (fails .portUp), .failure (fails (.pushRunning r)),
    .stuck (idleRx && fails (.createThread r)), .failure (fails (.pushRunning t)),
    .stuck (idleTx && fails (.createThread t))]

/-- No port of the group runs. -/
def ManagerState.isIdle (s : ManagerState π) (g : ℕ) : Bool :=
  (s.portgroups g).running_ports.isEmpty

/-- The port runs in the two groups. -/
def ManagerState.started (s : ManagerState π) (port : π) (r t : ℕ) : ManagerState π :=
  (s.setGroup r ((s.portgroups r).start port)).setGroup t ((s.portgroups t).start port)

/-- The port is in these two groups and in no others, and does not run. -/
structure OnlyIn (cnt : GroupCounts) (s : ManagerState π) (port : π) (r t : ℕ) : Prop
    extends GroupsOf cnt s port r t where
  lt_size : t < cnt.size
  only : ∀ g, port ∈ (s.portgroups g).ports → g = r ∨ g = t
  notRunning : ∀ g, port ∉ (s.portgroups g).running_ports

variable {r t : ℕ}

/-- `bring_port_up` ends as its internal calls say. -/
lemma bringPortUp_spec (h : OnlyIn cnt s port r t) :
    (bringPortUp cnt fails port s).1 = outcome (upHazards fails r t (s.isIdle r) (s.isIdle t)) ∧
      ((bringPortUp cnt fails port s).1 = .success →
        (bringPortUp cnt fails port s).2 = s.started port r t) := by
  have hlt : r < t := rx_lt_tx h.type_rx h.type_tx
  have hsize := h.lt_size
  obtain ⟨d, ht⟩ : ∃ d, t = r + 1 + d := ⟨t - r - 1, by omega⟩
  obtain ⟨e, he⟩ : ∃ e, cnt.size = r + (d + (e + 1) + 1) := ⟨cnt.size - t - 1, by omega⟩
  have hother : ∀ j, j ≠ r → j ≠ t → port ∉ (s.portgroups j).ports := by
    intro j hjr hjt hj
    exact (h.only j hj).elim hjr hjt
  have heq : bringPortUp cnt fails port s =
      bringPortUpLoop cnt fails port (d + (e + 1) + 1) r false false s := by
    rw [bringPortUp, he, bringPortUpLoop_skip r fun j _ hj => hother j (by omega) (by omega),
      Nat.zero_add]
  rw [heq]
  by_cases hthrows : fails .portUp = true ∨ fails (.pushRunning r) = true
  · rw [bringPortUpLoop_rx_throws h.mem_rx (h.notRunning r) hthrows]
    rcases hthrows with hup | hpush
    · simp [upHazards, hup]
    · simp [upHazards, hpush]
  · obtain ⟨hup, hpush⟩ := not_or.1 hthrows
    rw [Bool.not_eq_true] at hup hpush
    by_cases hcreate : (s.portgroups r).running_ports = [] → fails (.createThread r) = false
    · set s₁ := s.setGroup r ((s.portgroups r).start port) with hs₁
      have hnext : s₁.portgroups t = s.portgroups t := setGroup_of_ne (by omega)
      have hskip : ∀ j, r + 1 ≤ j → j < r + 1 + d → port ∉ (s₁.portgroups j).ports := by
        intro j hj hlt
        rw [hs₁, setGroup_of_ne (by omega)]
        exact hother j (by omega) (by omega)
      rw [bringPortUpLoop_rx h.type_rx h.mem_rx (h.notRunning r) hup hpush hcreate,
        bringPortUpLoop_skip d hskip, ← ht, bringPortUpLoop, hnext, if_pos h.mem_tx,
        if_neg (h.notRunning t)]
      have hidle : (s.isIdle r && fails (.createThread r)) = false := by
        simpa [ManagerState.isIdle] using hcreate
      cases hpushTx : fails (.pushRunning t) with
      | true => simp [upHazards, hup, hpush, hidle, hpushTx]
      | false =>
          by_cases hstuck : (s.portgroups t).running_ports = [] ∧ fails (.createThread t) = true
          · simp [upHazards, hup, hpush, hpushTx, hstuck, ManagerState.isIdle]
          · have hidleTx : (s.isIdle t && fails (.createThread t)) = false := by
              simpa [ManagerState.isIdle] using hstuck
            simp [upHazards, hup, hpush, hidle, hpushTx, hidleTx, hstuck, h.type_tx, started, hs₁,
              PortgroupPorts.start]
    · obtain ⟨hnil, hthread⟩ := Classical.not_imp.1 hcreate
      rw [Bool.not_eq_false] at hthread
      rw [bringPortUpLoop, if_pos h.mem_rx, if_neg (h.notRunning r), if_neg (by simp [hup, hpush]),
        if_pos ⟨hnil, hthread⟩]
      simp [upHazards, hup, hpush, ManagerState.isIdle, hnil, hthread]

end Operations

lemma ports_started (s : ManagerState π) (port : π) (r t g : ℕ) :
    ((s.started port r t).portgroups g).ports = (s.portgroups g).ports := by
  by_cases ht : g = t
  · subst ht
    rw [started, setGroup_self]
    rfl
  · rw [started, setGroup_of_ne ht]
    by_cases hr : g = r
    · subst hr
      rw [setGroup_self]
      rfl
    · rw [setGroup_of_ne hr]

lemma running_ports_started (s : ManagerState π) (port : π) (r t g : ℕ) :
    ((s.started port r t).portgroups g).running_ports = (s.portgroups g).running_ports ++
      if g = r ∨ g = t then [port] else [] := by
  by_cases ht : g = t
  · subst ht
    rw [started, setGroup_self, if_pos (.inr rfl)]
    rfl
  · rw [started, setGroup_of_ne ht]
    by_cases hr : g = r
    · subst hr
      rw [setGroup_self, if_pos (.inl rfl)]
      rfl
    · rw [setGroup_of_ne hr, if_neg (not_or.2 ⟨hr, ht⟩), List.append_nil]

lemma isIdle_added (h : Scheduled cnt s) (g : ℕ) : (s.added cnt port).isIdle g = s.isIdle g := by
  rw [ManagerState.isIdle, running_ports_added h, ManagerState.isIdle]

lemma isIdle_started (s : ManagerState π) (port : π) (r t g : ℕ) :
    (s.started port r t).isIdle g = (s.isIdle g && (g ≠ r && g ≠ t)) := by
  rw [ManagerState.isIdle, running_ports_started, ManagerState.isIdle]
  by_cases h : g = r ∨ g = t
  · rcases h with rfl | rfl
    · simp
    · simp
  · rw [if_neg h]
    simp [not_or.1 h]

/-! ## New ports -/

/-- The manager does not know the port. -/
def Unknown (s : ManagerState π) (port : π) : Prop :=
  ∀ g, port ∉ (s.portgroups g).ports ∧ port ∉ (s.portgroups g).running_ports

lemma Unknown.added {q : π} (h : Unknown s port) (hs : Scheduled cnt s) (hne : port ≠ q) :
    Unknown (s.added cnt q) port := by
  intro g
  rw [mem_ports_added hs, running_ports_added hs]
  exact ⟨fun hmem => hmem.elim (h g).1 fun heq => hne heq.1, (h g).2⟩

lemma Unknown.onlyIn (h : Unknown s port) (hs : Scheduled cnt s) :
    OnlyIn cnt (s.added cnt port) port s.nextRx (s.nextTx cnt) where
  type_rx := hs.type_nextRx
  type_tx := type_nextTx
  mem_rx := (mem_ports_added hs).2 (.inr ⟨rfl, .inl rfl⟩)
  mem_tx := (mem_ports_added hs).2 (.inr ⟨rfl, .inr rfl⟩)
  lt_size := hs.nextTx_lt_size
  only g hg := ((mem_ports_added hs).1 hg).elim (fun hmem => absurd hmem (h g).1) And.right
  notRunning g := by
    rw [running_ports_added hs]
    exact (h g).2

variable {r t : ℕ}

lemma OnlyIn.added {q : π} (h : OnlyIn cnt s port r t) (hs : Scheduled cnt s) (hne : port ≠ q) :
    OnlyIn cnt (s.added cnt q) port r t where
  type_rx := h.type_rx
  type_tx := h.type_tx
  mem_rx := (mem_ports_added hs).2 (.inl h.mem_rx)
  mem_tx := (mem_ports_added hs).2 (.inl h.mem_tx)
  lt_size := h.lt_size
  only g hg := ((mem_ports_added hs).1 hg).elim (h.only g) fun heq => absurd heq.1 hne
  notRunning g := by
    rw [running_ports_added hs]
    exact h.notRunning g

lemma OnlyIn.started {q : π} {r' t' : ℕ} (h : OnlyIn cnt s port r t) (hne : port ≠ q) :
    OnlyIn cnt (s.started q r' t') port r t where
  type_rx := h.type_rx
  type_tx := h.type_tx
  mem_rx := by
    rw [ports_started]
    exact h.mem_rx
  mem_tx := by
    rw [ports_started]
    exact h.mem_tx
  lt_size := h.lt_size
  only g hg := by
    rw [ports_started] at hg
    exact h.only g hg
  notRunning g := by
    rw [running_ports_started]
    split_ifs
    · simp [h.notRunning g, hne]
    · simp [h.notRunning g]

variable [DecidableEq π]

/-- A new port is in no group yet. -/
lemma outcome_addHazards (h : Unknown s port) (hazards : List Hazard) :
    outcome (addHazards cnt fails port s ++ hazards) =
      outcome (.stuck (fails (.pushPort s.nextRx)) ::
        .stuck (fails (.pushPort (s.nextTx cnt))) :: hazards) := by
  have hnot : ∀ type, ¬ s.InType cnt port type := by
    rintro type ⟨i, -, hmem, -⟩
    exact (h i).1 hmem
  simp [addHazards, hnot]

end Xdpd.Io
