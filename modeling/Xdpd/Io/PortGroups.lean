import Xdpd.Io.Iomanager

/-!
# The groups of a port

`iomanager::add_port`, `remove_port`, `bring_port_up` and `bring_port_down`, run one after the
other.  Each of them works on two groups, one for reception and one for transmission, and can be
left half way through when a call that it makes fails; which calls fail is an input here.  What the
I/O threads do meanwhile is the subject of `Xdpd.Io.Iomanager`, which takes the groups of the ports
as given.

Neither `add_port` nor `bring_port_up` undoes what it has done when it fails.  That a port runs in
both of its groups or in neither survives this, unless a `bring_port_up` fails after it has made the
port run for reception: `portsPaired_of_run`.
-/

namespace Xdpd.Io

open Xdpd.Lib Xdpd.Util

variable {π : Type*}

/-- The calls that can fail: with an exception, or `pthread_create` with an error. -/
inductive InternalCall
  /-- `pg->ports->push_back(port)`, for the group `g` -/
  | pushPort (g : ℕ)
  /-- `port->up()` -/
  | portUp
  /-- `pg->running_ports->push_back(port)` -/
  | pushRunning (g : ℕ)
  /-- `pthread_create`, after which the caller waits for the thread -/
  | createThread (g : ℕ)
  /-- `port->down()` -/
  | portDown
  deriving DecidableEq, Repr

/-- How a call ends. -/
inductive Outcome
  /-- `ROFL_SUCCESS` -/
  | success
  /-- `ROFL_FAILURE` -/
  | failure
  /-- it throws, or waits for ever; the mutex stays locked in either case -/
  | stuck
  deriving DecidableEq, Repr

/-- The ports of a group. -/
structure PortgroupPorts (π : Type*) where
  ports : List π
  running_ports : List π
  deriving DecidableEq, Repr

/-- The state of the manager. -/
@[ext]
structure ManagerState (π : Type*) where
  portgroups : ℕ → PortgroupPorts π
  next_rx_sched_grp_id : ℕ
  next_tx_sched_grp_id : ℕ
  /-- a call has not given the mutex back -/
  locked : Bool

/-- The numbers of groups that `init` has been called with. -/
structure GroupCounts where
  num_of_rx_groups : ℕ
  num_of_tx_groups : ℕ
  rx_pos : 0 < num_of_rx_groups
  tx_pos : 0 < num_of_tx_groups

/-- `portgroups.size()`. -/
def GroupCounts.size (cnt : GroupCounts) : ℕ :=
  cnt.num_of_rx_groups + cnt.num_of_tx_groups

/-- `pg->type`: `init` creates the groups for reception first. -/
def GroupCounts.type (cnt : GroupCounts) (g : ℕ) : PgType :=
  if g < cnt.num_of_rx_groups then .rx else .tx

/-- The state after `init`. -/
def ManagerState.init : ManagerState π where
  portgroups _ := { ports := [], running_ports := [] }
  next_rx_sched_grp_id := 0
  next_tx_sched_grp_id := 0
  locked := false

/-- The group `g` becomes `pg`. -/
def ManagerState.setGroup (s : ManagerState π) (g : ℕ) (pg : PortgroupPorts π) : ManagerState π :=
  { s with portgroups := Function.update s.portgroups g pg }

/-- A call leaves with the mutex locked. -/
def ManagerState.lock (s : ManagerState π) : ManagerState π :=
  { s with locked := true }

/-- `rx_sched` hands out the groups for reception in turn. -/
def ManagerState.rxSched (cnt : GroupCounts) (s : ManagerState π) : ManagerState π :=
  { s with next_rx_sched_grp_id := (s.next_rx_sched_grp_id + 1) % cnt.num_of_rx_groups }

/-- `tx_sched` -/
def ManagerState.txSched (cnt : GroupCounts) (s : ManagerState π) : ManagerState π :=
  { s with next_tx_sched_grp_id := (s.next_tx_sched_grp_id + 1) % cnt.num_of_tx_groups }

section Operations

variable [DecidableEq π]

/-- `add_port_to_group`. -/
def addPortToGroup (cnt : GroupCounts) (fails : InternalCall → Bool) (grp_id : ℕ) (port : π)
    (s : ManagerState π) : Outcome × ManagerState π :=
  if ∃ i < cnt.size, port ∈ (s.portgroups i).ports ∧ cnt.type i = cnt.type grp_id then
    (.failure, s)
  else if fails (.pushPort grp_id) then (.stuck, s.lock)
  else
    let pg := s.portgroups grp_id
    (.success, s.setGroup grp_id { pg with ports := pg.ports ++ [port] })

/-- `add_port`. -/
def addPort (cnt : GroupCounts) (fails : InternalCall → Bool) (port : π) (s : ManagerState π) :
    Outcome × ManagerState π :=
  let rx := addPortToGroup cnt fails s.next_rx_sched_grp_id port (s.rxSched cnt)
  if rx.1 ≠ .success then rx
  else
    let s := rx.2
    addPortToGroup cnt fails (s.next_tx_sched_grp_id + cnt.num_of_rx_groups) port (s.txSched cnt)

/-- The loop of `bring_port_down` over the groups from `i` on, of which `n` are left. -/
def bringPortDownLoop (cnt : GroupCounts) (fails : InternalCall → Bool) (port : π) :
    ℕ → ℕ → Bool → Bool → ManagerState π → Outcome × ManagerState π
  | 0, _, _, _, s => (.failure, s)
  | n + 1, i, rx, tx, s =>
      let pg := s.portgroups i
      if port ∈ pg.running_ports then
        let s := s.setGroup i
          { pg with running_ports := SafeVector.erase port pg.running_ports }
        let rx := rx || cnt.type i == .rx
        let tx := tx || cnt.type i == .tx
        if rx && tx then (if fails .portDown then .failure else .success, s)
        else bringPortDownLoop cnt fails port n (i + 1) rx tx s
      else bringPortDownLoop cnt fails port n (i + 1) rx tx s

/-- `bring_port_down`. -/
def bringPortDown (cnt : GroupCounts) (fails : InternalCall → Bool) (port : π)
    (s : ManagerState π) : Outcome × ManagerState π :=
  bringPortDownLoop cnt fails port cnt.size 0 false false s

/-- The loop of `bring_port_up`. -/
def bringPortUpLoop (cnt : GroupCounts) (fails : InternalCall → Bool) (port : π) :
    ℕ → ℕ → Bool → Bool → ManagerState π → Outcome × ManagerState π
  | 0, _, _, _, s => (.failure, s)
  | n + 1, i, rx, tx, s =>
      let pg := s.portgroups i
      if port ∈ pg.ports then
        if port ∈ pg.running_ports then (.success, s)
        else if (rx = false ∧ tx = false ∧ fails .portUp = true) ∨
            fails (.pushRunning i) = true then
          (.failure, s)
        else
          let s := s.setGroup i { pg with running_ports := pg.running_ports ++ [port] }
          if pg.running_ports = [] ∧ fails (.createThread i) = true then (.stuck, s.lock)
          else
            let rx := rx || cnt.type i == .rx
            let tx := tx || cnt.type i == .tx
            if rx && tx then (.success, s)
            else bringPortUpLoop cnt fails port n (i + 1) rx tx s
      else bringPortUpLoop cnt fails port n (i + 1) rx tx s

/-- `bring_port_up`. -/
def bringPortUp (cnt : GroupCounts) (fails : InternalCall → Bool) (port : π)
    (s : ManagerState π) : Outcome × ManagerState π :=
  bringPortUpLoop cnt fails port cnt.size 0 false false s

/-- `get_group_id_by_port`. -/
def getGroupIdByPort (cnt : GroupCounts) (port : π) (type : PgType) (s : ManagerState π) :
    Option ℕ :=
  (List.range cnt.size).find? fun i => cnt.type i = type ∧ port ∈ (s.portgroups i).ports

/-- `remove_port_from_group`. -/
def removePortFromGroup (cnt : GroupCounts) (fails : InternalCall → Bool) (grp_id : ℕ) (port : π)
    (s : ManagerState π) : Outcome × ManagerState π :=
  if port ∈ (s.portgroups grp_id).ports then
    let s := (bringPortDown cnt fails port s).2
    let pg := s.portgroups grp_id
    (.success, s.setGroup grp_id { pg with ports := SafeVector.erase port pg.ports })
  else (.failure, s)

/-- `remove_port`. -/
def removePort (cnt : GroupCounts) (fails : InternalCall → Bool) (port : π) (s : ManagerState π) :
    Outcome × ManagerState π :=
  match getGroupIdByPort cnt port .rx s with
  | none => (.failure, s)
  | some rx_id =>
      let rx := removePortFromGroup cnt fails rx_id port s
      if rx.1 ≠ .success then rx
      else
        match getGroupIdByPort cnt port .tx rx.2 with
        | none => (.failure, rx.2)
        | some tx_id => removePortFromGroup cnt fails tx_id port rx.2

/-! ## Runs -/

/-- The four operations. -/
inductive PortOp (π : Type*)
  | addPort (port : π)
  | removePort (port : π)
  | bringPortUp (port : π)
  | bringPortDown (port : π)
  deriving DecidableEq, Repr

/-- A call of an operation, and which of the calls that it makes fail. -/
structure PortCall (π : Type*) where
  op : PortOp π
  fails : InternalCall → Bool

/-- How the call ends, and what it leaves. -/
def PortCall.run (cnt : GroupCounts) (c : PortCall π) (s : ManagerState π) :
    Outcome × ManagerState π :=
  match c.op with
  | .addPort port => Io.addPort cnt c.fails port s
  | .removePort port => Io.removePort cnt c.fails port s
  | .bringPortUp port => Io.bringPortUp cnt c.fails port s
  | .bringPortDown port => Io.bringPortDown cnt c.fails port s

/-- One call, which has to wait for the mutex. -/
def portStep (cnt : GroupCounts) (s : ManagerState π) (c : PortCall π) : Option (ManagerState π) :=
  if s.locked then none else some (c.run cnt s).2

end Operations

/-- Every port is in at most one group of either type, the running ports of a group are ports of it,
and a port runs in a group for reception if and only if it runs in one for transmission. -/
structure PortsPaired (cnt : GroupCounts) (s : ManagerState π) : Prop where
  unique : ∀ g g' port, port ∈ (s.portgroups g).ports → port ∈ (s.portgroups g').ports →
    cnt.type g = cnt.type g' → g = g'
  once : ∀ g, (s.portgroups g).ports.Nodup
  running : ∀ g, (s.portgroups g).running_ports ⊆ (s.portgroups g).ports
  paired : ∀ port, (∃ g, cnt.type g = .rx ∧ port ∈ (s.portgroups g).running_ports) ↔
    ∃ g, cnt.type g = .tx ∧ port ∈ (s.portgroups g).running_ports

/-- When `bring_port_up` makes the port run in its group for reception, no thread fails to start
there, and the `push_back` to the running ports of its group for transmission does not throw. -/
def NotHalfUp (cnt : GroupCounts) (s : ManagerState π) (c : PortCall π) : Prop :=
  match c.op with
  | .bringPortUp port =>
      ∀ r < cnt.size, ∀ t < cnt.size,
        (cnt.type r = .rx ∧ cnt.type t = .tx ∧
          port ∈ (s.portgroups r).ports ∧ port ∈ (s.portgroups t).ports ∧
          port ∉ (s.portgroups r).running_ports ∧
          c.fails .portUp = false ∧ c.fails (.pushRunning r) = false) →
        ((s.portgroups r).running_ports = [] → c.fails (.createThread r) = false) ∧
          c.fails (.pushRunning t) = false
  | _ => True

instance [DecidableEq π] (cnt : GroupCounts) (s : ManagerState π) :
    ∀ c, Decidable (NotHalfUp cnt s c)
  | ⟨.bringPortUp _, _⟩ => @Nat.decidableBallLT _ _ fun _ _ => Nat.decidableBallLT _ _
  | ⟨.addPort _, _⟩ | ⟨.removePort _, _⟩ | ⟨.bringPortDown _, _⟩ =>
      inferInstanceAs (Decidable True)

/-! ## The invariant -/

/-- What holds of a group by itself. -/
structure PortgroupPorts.Ok (pg : PortgroupPorts π) : Prop where
  once : pg.ports.Nodup
  runningOnce : pg.running_ports.Nodup
  running : pg.running_ports ⊆ pg.ports

/-- Between two calls, a port is in a group for reception if and only if it is in one for
transmission. -/
structure PortsInv (cnt : GroupCounts) (s : ManagerState π) : Prop extends PortsPaired cnt s where
  runningOnce : ∀ g, (s.portgroups g).running_ports.Nodup
  bounded : ∀ g port, port ∈ (s.portgroups g).ports → g < cnt.size
  rxSched : s.next_rx_sched_grp_id < cnt.num_of_rx_groups
  txSched : s.next_tx_sched_grp_id < cnt.num_of_tx_groups
  member : s.locked = false → ∀ port, (∃ g, cnt.type g = .rx ∧ port ∈ (s.portgroups g).ports) ↔
    ∃ g, cnt.type g = .tx ∧ port ∈ (s.portgroups g).ports

/-- The groups of a port that is in one of either type. -/
structure GroupsOf (cnt : GroupCounts) (s : ManagerState π) (port : π) (r t : ℕ) : Prop where
  type_rx : cnt.type r = .rx
  type_tx : cnt.type t = .tx
  mem_rx : port ∈ (s.portgroups r).ports
  mem_tx : port ∈ (s.portgroups t).ports

variable {cnt : GroupCounts} {s s' : ManagerState π} {port : π} {fails : InternalCall → Bool}
variable {pg : PortgroupPorts π} {g j r t : ℕ}

lemma portsInv_init (cnt : GroupCounts) : PortsInv cnt (ManagerState.init : ManagerState π) := by
  refine ⟨⟨?_, ?_, ?_, ?_⟩, ?_, ?_, cnt.rx_pos, cnt.tx_pos, ?_⟩
  all_goals simp [ManagerState.init]

lemma type_eq_rx_iff : cnt.type g = .rx ↔ g < cnt.num_of_rx_groups := by
  rw [GroupCounts.type]
  split_ifs with h
  · simp [h]
  · simp [h]

lemma type_eq_tx_iff : cnt.type g = .tx ↔ cnt.num_of_rx_groups ≤ g := by
  rw [GroupCounts.type]
  split_ifs with h
  · simp [h]
  · simpa using h

lemma rx_lt_tx (hr : cnt.type r = .rx) (ht : cnt.type t = .tx) : r < t :=
  Nat.lt_of_lt_of_le (type_eq_rx_iff.1 hr) (type_eq_tx_iff.1 ht)

@[simp]
lemma setGroup_self : (s.setGroup g pg).portgroups g = pg :=
  Function.update_self ..

lemma setGroup_of_ne (h : j ≠ g) : (s.setGroup g pg).portgroups j = s.portgroups j :=
  Function.update_of_ne h ..

lemma PortsInv.ok (h : PortsInv cnt s) (g : ℕ) : (s.portgroups g).Ok :=
  ⟨h.once g, h.runningOnce g, h.running g⟩

/-- A port is in no group, or in one of either type and in no others. -/
lemma PortsInv.groupsOf (h : PortsInv cnt s) (hlocked : s.locked = false) (port : π) :
    (∀ g, port ∉ (s.portgroups g).ports) ∨ ∃ r t, GroupsOf cnt s port r t := by
  by_cases hrx : ∃ r, cnt.type r = .rx ∧ port ∈ (s.portgroups r).ports
  · obtain ⟨t, htype, ht⟩ := (h.member hlocked port).1 hrx
    obtain ⟨r, hrtype, hr⟩ := hrx
    exact .inr ⟨r, t, hrtype, htype, hr, ht⟩
  · left
    intro g hg
    cases htype : cnt.type g with
    | rx => exact hrx ⟨g, htype, hg⟩
    | tx => exact hrx ((h.member hlocked port).2 ⟨g, htype, hg⟩)

lemma GroupsOf.only (hgroups : GroupsOf cnt s port r t) (h : PortsInv cnt s)
    (hg : port ∈ (s.portgroups g).ports) : g = r ∨ g = t := by
  cases htype : cnt.type g with
  | rx => exact .inl (h.unique g r port hg hgroups.mem_rx (htype.trans hgroups.type_rx.symm))
  | tx => exact .inr (h.unique g t port hg hgroups.mem_tx (htype.trans hgroups.type_tx.symm))

/-- A port runs in both of its groups or in neither. -/
lemma GroupsOf.running_iff (hgroups : GroupsOf cnt s port r t) (h : PortsInv cnt s) :
    port ∈ (s.portgroups r).running_ports ↔ port ∈ (s.portgroups t).running_ports := by
  constructor
  · intro hr
    obtain ⟨g, htype, hg⟩ := (h.paired port).1 ⟨r, hgroups.type_rx, hr⟩
    rwa [h.unique t g port hgroups.mem_tx (h.running g hg) (hgroups.type_tx.trans htype.symm)]
  · intro ht
    obtain ⟨g, htype, hg⟩ := (h.paired port).2 ⟨t, hgroups.type_tx, ht⟩
    rwa [h.unique r g port hgroups.mem_rx (h.running g hg) (hgroups.type_rx.trans htype.symm)]

/-- The loops come to the two groups of the port one after the other. -/
lemma GroupsOf.size_eq (hgroups : GroupsOf cnt s port r t) (h : PortsInv cnt s) :
    ∃ d e, t = r + 1 + d ∧ cnt.size = r + (d + (e + 1) + 1) := by
  have hlt : r < t := rx_lt_tx hgroups.type_rx hgroups.type_tx
  have hsize : t < cnt.size := h.bounded t port hgroups.mem_tx
  exact ⟨t - r - 1, cnt.size - t - 1, by omega, by omega⟩

/-- `s'` is `s` but for what the group `r` for reception and the group `t` for transmission say of
one port. -/
structure ChangedAt (cnt : GroupCounts) (s s' : ManagerState π) (port : π) (r t : ℕ) : Prop where
  type_rx : cnt.type r = .rx
  type_tx : cnt.type t = .tx
  lt_size : t < cnt.size
  only : ∀ g, port ∈ (s.portgroups g).ports → g = r ∨ g = t
  frame : ∀ g, g ≠ r → g ≠ t → s'.portgroups g = s.portgroups g
  ports : ∀ g, ∀ q ≠ port, q ∈ (s'.portgroups g).ports ↔ q ∈ (s.portgroups g).ports
  running_ports : ∀ g, ∀ q ≠ port,
    q ∈ (s'.portgroups g).running_ports ↔ q ∈ (s.portgroups g).running_ports

/-- Such a change keeps the invariant when it is the same change in both groups. -/
lemma PortsInv.of_changedAt (h : PortsInv cnt s) (hc : ChangedAt cnt s s' port r t)
    (hok : ∀ g, (s'.portgroups g).Ok)
    (hrun : port ∈ (s'.portgroups r).running_ports ↔ port ∈ (s'.portgroups t).running_ports)
    (hmem : s'.locked = false → s.locked = false ∧
      (port ∈ (s'.portgroups r).ports ↔ port ∈ (s'.portgroups t).ports))
    (hrx : s'.next_rx_sched_grp_id < cnt.num_of_rx_groups)
    (htx : s'.next_tx_sched_grp_id < cnt.num_of_tx_groups) : PortsInv cnt s' := by
  have honly : ∀ g, port ∈ (s'.portgroups g).ports → g = r ∨ g = t := by
    intro g hg
    by_contra hne
    obtain ⟨hgr, hgt⟩ := not_or.1 hne
    rw [hc.frame g hgr hgt] at hg
    exact hne (hc.only g hg)
  have hrt : cnt.type r ≠ cnt.type t := by
    rw [hc.type_rx, hc.type_tx]
    decide
  refine ⟨⟨?unique, fun g => (hok g).once, fun g => (hok g).running, ?paired⟩,
    fun g => (hok g).runningOnce, ?bounded, hrx, htx, ?member⟩
  case unique =>
    intro g g' q hg hg' htype
    by_cases hq : q = port
    · subst hq
      rcases honly g hg with rfl | rfl
      · rcases honly g' hg' with rfl | rfl
        · rfl
        · exact absurd htype hrt
      · rcases honly g' hg' with rfl | rfl
        · exact absurd htype.symm hrt
        · rfl
    · exact h.unique g g' q ((hc.ports g q hq).1 hg) ((hc.ports g' q hq).1 hg') htype
  case paired =>
    intro q
    by_cases hq : q = port
    · subst hq
      constructor
      · rintro ⟨g, htype, hg⟩
        rcases honly g ((hok g).running hg) with rfl | rfl
        · exact ⟨t, hc.type_tx, hrun.1 hg⟩
        · exact absurd (hc.type_rx.trans htype.symm) hrt
      · rintro ⟨g, htype, hg⟩
        rcases honly g ((hok g).running hg) with rfl | rfl
        · exact absurd (htype.trans hc.type_tx.symm) hrt
        · exact ⟨r, hc.type_rx, hrun.2 hg⟩
    · simpa only [hc.running_ports _ q hq] using h.paired q
  case bounded =>
    intro g q hg
    by_cases hq : q = port
    · subst hq
      rcases honly g hg with rfl | rfl
      · exact Nat.lt_trans (rx_lt_tx hc.type_rx hc.type_tx) hc.lt_size
      · exact hc.lt_size
    · exact h.bounded g q ((hc.ports g q hq).1 hg)
  case member =>
    intro hlocked q
    obtain ⟨hlocked, hiff⟩ := hmem hlocked
    by_cases hq : q = port
    · subst hq
      constructor
      · rintro ⟨g, htype, hg⟩
        rcases honly g hg with rfl | rfl
        · exact ⟨t, hc.type_tx, hiff.1 hg⟩
        · exact absurd (hc.type_rx.trans htype.symm) hrt
      · rintro ⟨g, htype, hg⟩
        rcases honly g hg with rfl | rfl
        · exact absurd (htype.trans hc.type_tx.symm) hrt
        · exact ⟨r, hc.type_rx, hiff.2 hg⟩
    · simpa only [hc.ports _ q hq] using h.member hlocked q

/-! ## The operations, for a port that is in its two groups -/

/-- The port runs in the group. -/
def PortgroupPorts.start (port : π) (pg : PortgroupPorts π) : PortgroupPorts π :=
  { pg with running_ports := pg.running_ports ++ [port] }

/-- The port is added to the group. -/
def PortgroupPorts.insert (port : π) (pg : PortgroupPorts π) : PortgroupPorts π :=
  { pg with ports := pg.ports ++ [port] }

lemma PortgroupPorts.Ok.start (h : pg.Ok) (hport : port ∈ pg.ports)
    (hrun : port ∉ pg.running_ports) : (pg.start port).Ok := by
  refine ⟨h.once, ?_, ?_⟩
  · exact h.runningOnce.append (List.nodup_singleton port) (by simpa using hrun)
  · intro q hq
    rcases List.mem_append.1 hq with hq | hq
    · exact h.running hq
    · rwa [List.mem_singleton.1 hq]

lemma PortgroupPorts.Ok.insert (h : pg.Ok) (hport : port ∉ pg.ports) : (pg.insert port).Ok := by
  refine ⟨?_, h.runningOnce, ?_⟩
  · exact h.once.append (List.nodup_singleton port) (by simpa using hport)
  · exact List.Subset.trans h.running (List.subset_append_left _ _)

section Operations

variable [DecidableEq π]

/-- The port does not run in the group any more. -/
def PortgroupPorts.stop (port : π) (pg : PortgroupPorts π) : PortgroupPorts π :=
  { pg with running_ports := SafeVector.erase port pg.running_ports }

/-- The port is erased from the group. -/
def PortgroupPorts.remove (port : π) (pg : PortgroupPorts π) : PortgroupPorts π :=
  { pg with ports := SafeVector.erase port pg.ports }

lemma PortgroupPorts.Ok.stop (h : pg.Ok) : (pg.stop port).Ok := by
  have herase : (pg.stop port).running_ports = pg.running_ports.erase port :=
    SafeVector.erase_eq h.runningOnce
  refine ⟨h.once, ?_, ?_⟩
  · rw [herase]
    exact h.runningOnce.erase port
  · rw [herase]
    exact List.Subset.trans List.erase_subset h.running

lemma PortgroupPorts.Ok.notMem_remove (h : pg.Ok) : port ∉ (pg.remove port).ports := by
  rw [PortgroupPorts.remove, SafeVector.erase_eq h.once]
  exact h.once.not_mem_erase

lemma PortgroupPorts.Ok.remove (h : pg.Ok) (hrun : port ∉ pg.running_ports) :
    (pg.remove port).Ok := by
  have herase : (pg.remove port).ports = pg.ports.erase port := SafeVector.erase_eq h.once
  refine ⟨?_, h.runningOnce, ?_⟩
  · rw [herase]
    exact h.once.erase port
  · intro q hq
    have hne : q ≠ port := by
      rintro rfl
      exact hrun hq
    rw [herase]
    exact (List.mem_erase_of_ne hne).2 (h.running hq)

/-- Groups in which the port does not run are passed over. -/
lemma bringPortDownLoop_skip {n i : ℕ} {rx tx : Bool} (k : ℕ)
    (h : ∀ j, i ≤ j → j < i + k → port ∉ (s.portgroups j).running_ports) :
    bringPortDownLoop cnt fails port (k + n) i rx tx s =
      bringPortDownLoop cnt fails port n (i + k) rx tx s := by
  induction k generalizing i with
  | zero => rw [Nat.zero_add, Nat.add_zero]
  | succ k ih =>
      rw [Nat.add_right_comm, bringPortDownLoop, if_neg (h i (Nat.le_refl i) (by omega)),
        ih fun j hj hlt => h j (by omega) (by omega)]
      congr 1
      omega

/-- Groups that do not have the port are passed over. -/
lemma bringPortUpLoop_skip {n i : ℕ} {rx tx : Bool} (k : ℕ)
    (h : ∀ j, i ≤ j → j < i + k → port ∉ (s.portgroups j).ports) :
    bringPortUpLoop cnt fails port (k + n) i rx tx s =
      bringPortUpLoop cnt fails port n (i + k) rx tx s := by
  induction k generalizing i with
  | zero => rw [Nat.zero_add, Nat.add_zero]
  | succ k ih =>
      rw [Nat.add_right_comm, bringPortUpLoop, if_neg (h i (Nat.le_refl i) (by omega)),
        ih fun j hj hlt => h j (by omega) (by omega)]
      congr 1
      omega

/-- A port that runs nowhere is not brought down. -/
lemma bringPortDown_of_not_running (h : ∀ g, port ∉ (s.portgroups g).running_ports) :
    bringPortDown cnt fails port s = (.failure, s) :=
  bringPortDownLoop_skip (n := 0) cnt.size fun j _ _ => h j

/-- A port that is in no group is not brought up. -/
lemma bringPortUp_of_notMem (h : ∀ g, port ∉ (s.portgroups g).ports) :
    bringPortUp cnt fails port s = (.failure, s) :=
  bringPortUpLoop_skip (n := 0) cnt.size fun j _ _ => h j

lemma bringPortDownLoop_rx {n : ℕ} (htype : cnt.type r = .rx)
    (hrun : port ∈ (s.portgroups r).running_ports) :
    bringPortDownLoop cnt fails port (n + 1) r false false s =
      bringPortDownLoop cnt fails port n (r + 1) true false
        (s.setGroup r ((s.portgroups r).stop port)) := by
  rw [bringPortDownLoop, if_pos hrun]
  simp only [htype]
  rfl

lemma bringPortDownLoop_tx {n : ℕ} (htype : cnt.type t = .tx)
    (hrun : port ∈ (s.portgroups t).running_ports) :
    (bringPortDownLoop cnt fails port (n + 1) t true false s).2 =
      s.setGroup t ((s.portgroups t).stop port) := by
  rw [bringPortDownLoop, if_pos hrun]
  simp only [htype]
  rfl

/-- A port that runs is brought down in both of its groups. -/
lemma bringPortDown_of_running (h : PortsInv cnt s) (hgroups : GroupsOf cnt s port r t)
    (hrun : port ∈ (s.portgroups r).running_ports) :
    (bringPortDown cnt fails port s).2 =
      (s.setGroup r ((s.portgroups r).stop port)).setGroup t ((s.portgroups t).stop port) := by
  obtain ⟨d, e, ht, hsize⟩ := hgroups.size_eq h
  have hother : ∀ j, j ≠ r → j ≠ t → port ∉ (s.portgroups j).running_ports := by
    intro j hjr hjt hj
    rcases hgroups.only h (h.running j hj) with rfl | rfl
    · exact hjr rfl
    · exact hjt rfl
  set s₁ := s.setGroup r ((s.portgroups r).stop port)
  have hnext : s₁.portgroups t = s.portgroups t := setGroup_of_ne (by omega)
  have hrun₁ : port ∈ (s₁.portgroups t).running_ports := by
    rw [hnext]
    exact (hgroups.running_iff h).1 hrun
  have hskip : ∀ j, r + 1 ≤ j → j < r + 1 + d → port ∉ (s₁.portgroups j).running_ports := by
    intro j hj hlt
    rw [setGroup_of_ne (by omega)]
    exact hother j (by omega) (by omega)
  calc (bringPortDown cnt fails port s).2
      = (bringPortDownLoop cnt fails port (d + (e + 1) + 1) r false false s).2 := by
        rw [bringPortDown, hsize, bringPortDownLoop_skip r fun j _ hj => hother j (by omega)
          (by omega), Nat.zero_add]
    _ = (bringPortDownLoop cnt fails port (d + (e + 1)) (r + 1) true false s₁).2 := by
        rw [bringPortDownLoop_rx hgroups.type_rx hrun]
    _ = (bringPortDownLoop cnt fails port (e + 1) t true false s₁).2 := by
        rw [bringPortDownLoop_skip d hskip, ← ht]
    _ = s₁.setGroup t ((s.portgroups t).stop port) := by
        rw [bringPortDownLoop_tx hgroups.type_tx hrun₁, hnext]

/-- What `bring_port_up` does in the group for reception, when something is thrown there. -/
lemma bringPortUpLoop_rx_throws {n : ℕ} (hport : port ∈ (s.portgroups r).ports)
    (hrun : port ∉ (s.portgroups r).running_ports)
    (hthrows : fails .portUp = true ∨ fails (.pushRunning r) = true) :
    bringPortUpLoop cnt fails port (n + 1) r false false s = (.failure, s) := by
  rw [bringPortUpLoop, if_pos hport, if_neg hrun, if_pos]
  rcases hthrows with hup | hpush
  · exact .inl ⟨rfl, rfl, hup⟩
  · exact .inr hpush

/-- What `bring_port_up` does in the group for reception, when it gets through. -/
lemma bringPortUpLoop_rx {n : ℕ} (htype : cnt.type r = .rx) (hport : port ∈ (s.portgroups r).ports)
    (hrun : port ∉ (s.portgroups r).running_ports) (hup : fails .portUp = false)
    (hpush : fails (.pushRunning r) = false)
    (hcreate : (s.portgroups r).running_ports = [] → fails (.createThread r) = false) :
    bringPortUpLoop cnt fails port (n + 1) r false false s =
      bringPortUpLoop cnt fails port n (r + 1) true false
        (s.setGroup r ((s.portgroups r).start port)) := by
  have hstuck : ¬ ((s.portgroups r).running_ports = [] ∧ fails (.createThread r) = true) := by
    rintro ⟨hnil, hfails⟩
    rw [hcreate hnil] at hfails
    exact absurd hfails Bool.false_ne_true
  rw [bringPortUpLoop, if_pos hport, if_neg hrun, if_neg (by simp [hup, hpush]), if_neg hstuck]
  simp only [htype]
  rfl

/-- What `bring_port_up` does in the group for transmission, when nothing is thrown there. -/
lemma bringPortUpLoop_tx {n : ℕ} (htype : cnt.type t = .tx) (hport : port ∈ (s.portgroups t).ports)
    (hrun : port ∉ (s.portgroups t).running_ports) (hpush : fails (.pushRunning t) = false) :
    (bringPortUpLoop cnt fails port (n + 1) t true false s).2 =
        s.setGroup t ((s.portgroups t).start port) ∨
      (bringPortUpLoop cnt fails port (n + 1) t true false s).2 =
        (s.setGroup t ((s.portgroups t).start port)).lock := by
  rw [bringPortUpLoop, if_pos hport, if_neg hrun, if_neg (by simp [hpush])]
  split_ifs with hstuck
  · exact .inr rfl
  · left
    simp only [htype]
    rfl

/-- `bring_port_up` comes to the group for reception first. -/
lemma bringPortUp_eq_rx (fails : InternalCall → Bool) (h : PortsInv cnt s)
    (hgroups : GroupsOf cnt s port r t) :
    ∃ d e, t = r + 1 + d ∧ bringPortUp cnt fails port s =
      bringPortUpLoop cnt fails port (d + (e + 1) + 1) r false false s := by
  obtain ⟨d, e, ht, hsize⟩ := hgroups.size_eq h
  have hskip : ∀ j, 0 ≤ j → j < 0 + r → port ∉ (s.portgroups j).ports := by
    intro j _ hj hmem
    rcases hgroups.only h hmem with rfl | rfl
    · omega
    · omega
  refine ⟨d, e, ht, ?_⟩
  rw [bringPortUp, hsize, bringPortUpLoop_skip r hskip, Nat.zero_add]

/-- It then comes to the group for transmission. -/
lemma bringPortUp_eq_tx (h : PortsInv cnt s) (hgroups : GroupsOf cnt s port r t)
    (hrun : port ∉ (s.portgroups r).running_ports) (hup : fails .portUp = false)
    (hpush : fails (.pushRunning r) = false)
    (hcreate : (s.portgroups r).running_ports = [] → fails (.createThread r) = false) :
    ∃ e, bringPortUp cnt fails port s =
      bringPortUpLoop cnt fails port (e + 1) t true false
        (s.setGroup r ((s.portgroups r).start port)) := by
  obtain ⟨d, e, ht, heq⟩ := bringPortUp_eq_rx fails h hgroups
  have hskip : ∀ j, r + 1 ≤ j → j < r + 1 + d →
      port ∉ ((s.setGroup r ((s.portgroups r).start port)).portgroups j).ports := by
    intro j hj hlt hmem
    rw [setGroup_of_ne (by omega)] at hmem
    rcases hgroups.only h hmem with rfl | rfl
    · omega
    · omega
  refine ⟨e, ?_⟩
  rw [heq, bringPortUpLoop_rx hgroups.type_rx hgroups.mem_rx hrun hup hpush hcreate,
    bringPortUpLoop_skip d hskip, ← ht]

/-- Unless it is left half way, `bring_port_up` makes the port run in both of its groups, or changes
nothing. -/
lemma bringPortUp_of_notHalfUp (h : PortsInv cnt s) (hgroups : GroupsOf cnt s port r t)
    (hup : NotHalfUp cnt s ⟨.bringPortUp port, fails⟩) :
    (bringPortUp cnt fails port s).2 = s ∨
      port ∉ (s.portgroups r).running_ports ∧
        ((bringPortUp cnt fails port s).2 =
            (s.setGroup r ((s.portgroups r).start port)).setGroup t
              ((s.portgroups t).start port) ∨
          (bringPortUp cnt fails port s).2 =
            ((s.setGroup r ((s.portgroups r).start port)).setGroup t
              ((s.portgroups t).start port)).lock) := by
  obtain ⟨d, e, -, heq⟩ := bringPortUp_eq_rx fails h hgroups
  by_cases hrun : port ∈ (s.portgroups r).running_ports
  · left
    rw [heq, bringPortUpLoop, if_pos hgroups.mem_rx, if_pos hrun]
  · by_cases hthrows : fails .portUp = true ∨ fails (.pushRunning r) = true
    · left
      rw [heq, bringPortUpLoop_rx_throws hgroups.mem_rx hrun hthrows]
    · right
      obtain ⟨hportUp, hpushRx⟩ := not_or.1 hthrows
      rw [Bool.not_eq_true] at hportUp hpushRx
      obtain ⟨hcreate, hpushTx⟩ := hup r (h.bounded r port hgroups.mem_rx) t
        (h.bounded t port hgroups.mem_tx) ⟨hgroups.type_rx, hgroups.type_tx, hgroups.mem_rx,
          hgroups.mem_tx, hrun, hportUp, hpushRx⟩
      obtain ⟨e, heq⟩ := bringPortUp_eq_tx h hgroups hrun hportUp hpushRx hcreate
      have hne : t ≠ r := Nat.ne_of_gt (rx_lt_tx hgroups.type_rx hgroups.type_tx)
      have hnext : (s.setGroup r ((s.portgroups r).start port)).portgroups t = s.portgroups t :=
        setGroup_of_ne hne
      have hrunTx : port ∉ (s.portgroups t).running_ports := (hgroups.running_iff h).not.1 hrun
      have hmemTx := hgroups.mem_tx
      rw [← hnext] at hrunTx hmemTx
      refine ⟨hrun, ?_⟩
      rw [heq, ← hnext]
      exact bringPortUpLoop_tx hgroups.type_tx hmemTx hrunTx hpushTx

/-- When it is left half way, the port runs in its group for reception only. -/
lemma not_portsPaired_of_halfUp (h : PortsInv cnt s)
    (hup : ¬ NotHalfUp cnt s ⟨.bringPortUp port, fails⟩) :
    ¬ PortsPaired cnt (bringPortUp cnt fails port s).2 := by
  simp only [NotHalfUp, not_forall] at hup
  obtain ⟨r, -, t, -, ⟨hrx, htx, hrport, htport, hrun, hportUp, hpushRx⟩, hfails⟩ := hup
  have hgroups : GroupsOf cnt s port r t := ⟨hrx, htx, hrport, htport⟩
  have hne : t ≠ r := Nat.ne_of_gt (rx_lt_tx hrx htx)
  have hleft : (bringPortUp cnt fails port s).2.portgroups =
      (s.setGroup r ((s.portgroups r).start port)).portgroups := by
    by_cases hcreate : (s.portgroups r).running_ports = [] → fails (.createThread r) = false
    · have hpushTx : fails (.pushRunning t) = true := by
        rw [← Bool.not_eq_false]
        exact fun hpush => hfails ⟨hcreate, hpush⟩
      obtain ⟨e, heq⟩ := bringPortUp_eq_tx h hgroups hrun hportUp hpushRx hcreate
      have hrunTx : port ∉ (s.portgroups t).running_ports := (hgroups.running_iff h).not.1 hrun
      rw [heq, bringPortUpLoop, setGroup_of_ne hne, if_pos htport, if_neg hrunTx,
        if_pos (.inr hpushTx)]
    · obtain ⟨hnil, hthread⟩ := Classical.not_imp.1 hcreate
      rw [Bool.not_eq_false] at hthread
      obtain ⟨d, e, -, heq⟩ := bringPortUp_eq_rx fails h hgroups
      rw [heq, bringPortUpLoop, if_pos hrport, if_neg hrun, if_neg (by simp [hportUp, hpushRx]),
        if_pos ⟨hnil, hthread⟩]
      rfl
  intro hpaired
  have hrunRx : port ∈ ((bringPortUp cnt fails port s).2.portgroups r).running_ports := by
    rw [hleft, setGroup_self]
    simp [PortgroupPorts.start]
  obtain ⟨g, htype, hg⟩ := (hpaired.paired port).1 ⟨r, hrx, hrunRx⟩
  rw [hleft, setGroup_of_ne (Nat.ne_of_gt (rx_lt_tx hrx htype))] at hg
  obtain rfl : g = t := h.unique g t port (h.running g hg) htport (htype.trans htx.symm)
  exact hrun ((hgroups.running_iff h).2 hg)

/-! ## Every operation keeps the invariant -/

omit [DecidableEq π] in
lemma PortsInv.lock (h : PortsInv cnt s) : PortsInv cnt s.lock :=
  ⟨⟨h.unique, h.once, h.running, h.paired⟩, h.runningOnce, h.bounded, h.rxSched, h.txSched,
    fun hlocked => nomatch hlocked⟩

omit [DecidableEq π] in
/-- An operation on both groups of a port. -/
lemma GroupsOf.changedAt (hgroups : GroupsOf cnt s port r t) (h : PortsInv cnt s)
    {f : PortgroupPorts π → PortgroupPorts π}
    (hports : ∀ pg, pg.Ok → ∀ q ≠ port, q ∈ (f pg).ports ↔ q ∈ pg.ports)
    (hrunning : ∀ pg, pg.Ok → ∀ q ≠ port, q ∈ (f pg).running_ports ↔ q ∈ pg.running_ports) :
    ChangedAt cnt s ((s.setGroup r (f (s.portgroups r))).setGroup t (f (s.portgroups t)))
      port r t := by
  set s' := (s.setGroup r (f (s.portgroups r))).setGroup t (f (s.portgroups t)) with hs'
  have heach : ∀ g, s'.portgroups g = s.portgroups g ∨ s'.portgroups g = f (s.portgroups g) := by
    intro g
    rw [hs']
    by_cases ht : g = t
    · rw [ht, setGroup_self]
      exact .inr rfl
    · rw [setGroup_of_ne ht]
      by_cases hr : g = r
      · rw [hr, setGroup_self]
        exact .inr rfl
      · exact .inl (setGroup_of_ne hr)
  refine ⟨hgroups.type_rx, hgroups.type_tx, h.bounded t port hgroups.mem_tx,
    fun g hg => hgroups.only h hg, ?_, ?_, ?_⟩
  · intro g hr ht
    rw [setGroup_of_ne ht, setGroup_of_ne hr]
  · intro g q hq
    rcases heach g with heq | heq
    · rw [heq]
    · rw [heq, hports _ (h.ok g) q hq]
  · intro g q hq
    rcases heach g with heq | heq
    · rw [heq]
    · rw [heq, hrunning _ (h.ok g) q hq]

omit [DecidableEq π] in
lemma setBoth_of_forall {P : PortgroupPorts π → Prop} {pgr pgt : PortgroupPorts π}
    (h : ∀ g, P (s.portgroups g)) (hr : P pgr) (ht : P pgt) (g : ℕ) :
    P (((s.setGroup r pgr).setGroup t pgt).portgroups g) := by
  by_cases hgt : g = t
  · rw [hgt, setGroup_self]
    exact ht
  · rw [setGroup_of_ne hgt]
    by_cases hgr : g = r
    · rw [hgr, setGroup_self]
      exact hr
    · rw [setGroup_of_ne hgr]
      exact h g

lemma bringPortUp_inv (h : PortsInv cnt s) (hlocked : s.locked = false)
    (hup : NotHalfUp cnt s ⟨.bringPortUp port, fails⟩) :
    PortsInv cnt (bringPortUp cnt fails port s).2 := by
  rcases h.groupsOf hlocked port with hnone | ⟨r, t, hgroups⟩
  · rw [bringPortUp_of_notMem hnone]
    exact h
  · have hne : r ≠ t := Nat.ne_of_lt (rx_lt_tx hgroups.type_rx hgroups.type_tx)
    rcases bringPortUp_of_notHalfUp h hgroups hup with hsame | ⟨hrun, hstarted⟩
    · rw [hsame]
      exact h
    · have hrun' : port ∉ (s.portgroups t).running_ports := (hgroups.running_iff h).not.1 hrun
      have hboth : PortsInv cnt ((s.setGroup r ((s.portgroups r).start port)).setGroup t
          ((s.portgroups t).start port)) := by
        refine h.of_changedAt (hgroups.changedAt h ?_ ?_) ?_ ?_ ?_ h.rxSched h.txSched
        · exact fun pg _ q _ => Iff.rfl
        · intro pg _ q hq
          simp [PortgroupPorts.start, hq]
        · exact setBoth_of_forall h.ok ((h.ok r).start hgroups.mem_rx hrun)
            ((h.ok t).start hgroups.mem_tx hrun')
        · rw [setGroup_self, setGroup_of_ne hne, setGroup_self]
          simp [PortgroupPorts.start]
        · intro _
          refine ⟨hlocked, ?_⟩
          rw [setGroup_self, setGroup_of_ne hne, setGroup_self]
          exact ⟨fun _ => hgroups.mem_tx, fun _ => hgroups.mem_rx⟩
      rcases hstarted with hstarted | hstarted
      · rw [hstarted]
        exact hboth
      · rw [hstarted]
        exact hboth.lock

/-- After `bring_port_down` the port runs nowhere; nothing else has changed. -/
lemma bringPortDown_spec (fails : InternalCall → Bool) (port : π) (h : PortsInv cnt s)
    (hlocked : s.locked = false) :
    PortsInv cnt (bringPortDown cnt fails port s).2 ∧
      (bringPortDown cnt fails port s).2.locked = false ∧
      (∀ g, port ∉ ((bringPortDown cnt fails port s).2.portgroups g).running_ports) ∧
      ∀ g, ((bringPortDown cnt fails port s).2.portgroups g).ports = (s.portgroups g).ports := by
  by_cases hrun : ∀ g, port ∉ (s.portgroups g).running_ports
  · rw [bringPortDown_of_not_running hrun]
    exact ⟨h, hlocked, hrun, fun _ => rfl⟩
  · obtain ⟨g, hg⟩ := not_forall.1 hrun
    replace hg := not_not.1 hg
    rcases h.groupsOf hlocked port with hnone | ⟨r, t, hgroups⟩
    · exact absurd (h.running g hg) (hnone g)
    · have hne : r ≠ t := Nat.ne_of_lt (rx_lt_tx hgroups.type_rx hgroups.type_tx)
      have hrun : port ∈ (s.portgroups r).running_ports := by
        rcases hgroups.only h (h.running g hg) with rfl | rfl
        · exact hg
        · exact (hgroups.running_iff h).2 hg
      have hstopped : ∀ {pg : PortgroupPorts π}, pg.Ok → port ∉ (pg.stop port).running_ports := by
        intro pg hpg
        rw [PortgroupPorts.stop, SafeVector.erase_eq hpg.runningOnce]
        exact hpg.runningOnce.not_mem_erase
      rw [bringPortDown_of_running h hgroups hrun]
      refine ⟨h.of_changedAt (hgroups.changedAt h ?_ ?_) ?_ ?_ ?_ h.rxSched h.txSched, hlocked,
        ?_, ?_⟩
      · exact fun pg _ q _ => Iff.rfl
      · intro pg hpg q hq
        rw [PortgroupPorts.stop, SafeVector.erase_eq hpg.runningOnce]
        exact List.mem_erase_of_ne hq
      · exact setBoth_of_forall h.ok (h.ok r).stop (h.ok t).stop
      · rw [setGroup_self, setGroup_of_ne hne, setGroup_self]
        exact ⟨fun hr => absurd hr (hstopped (h.ok r)), fun ht => absurd ht (hstopped (h.ok t))⟩
      · intro _
        refine ⟨hlocked, ?_⟩
        rw [setGroup_self, setGroup_of_ne hne, setGroup_self]
        exact ⟨fun _ => hgroups.mem_tx, fun _ => hgroups.mem_rx⟩
      · intro g'
        by_cases hg' : g' = r ∨ g' = t
        · rcases hg' with rfl | rfl
          · rw [setGroup_of_ne hne, setGroup_self]
            exact hstopped (h.ok g')
          · rw [setGroup_self]
            exact hstopped (h.ok g')
        · obtain ⟨hr, ht⟩ := not_or.1 hg'
          rw [setGroup_of_ne ht, setGroup_of_ne hr]
          exact fun hmem => hg' (hgroups.only h (h.running g' hmem))
      · intro g'
        by_cases ht : g' = t
        · rw [ht, setGroup_self]
          rfl
        · rw [setGroup_of_ne ht]
          by_cases hr : g' = r
          · rw [hr, setGroup_self]
            rfl
          · rw [setGroup_of_ne hr]

omit [DecidableEq π] in
lemma PortsInv.rxNext (h : PortsInv cnt s) : PortsInv cnt (s.rxSched cnt) :=
  ⟨⟨h.unique, h.once, h.running, h.paired⟩, h.runningOnce, h.bounded, Nat.mod_lt _ cnt.rx_pos,
    h.txSched, h.member⟩

/-- A port that no group of the type has is added, if nothing is thrown. -/
lemma addPortToGroup_of_notMem
    (h : ∀ i, cnt.type i = cnt.type g → port ∉ (s.portgroups i).ports) :
    addPortToGroup cnt fails g port s =
      if fails (.pushPort g) then (.stuck, s.lock)
      else (.success, s.setGroup g ((s.portgroups g).insert port)) := by
  have hnone : ¬ ∃ i < cnt.size, port ∈ (s.portgroups i).ports ∧ cnt.type i = cnt.type g := by
    rintro ⟨i, -, hport, htype⟩
    exact h i htype hport
  rw [addPortToGroup, if_neg hnone]
  rfl

omit [DecidableEq π] in
/-- A port that was in no group is now in the groups `r` and `t`, or the manager is stuck. -/
lemma PortsInv.of_insert (h : PortsInv cnt s) (hr : cnt.type r = .rx) (ht : cnt.type t = .tx)
    (hsize : t < cnt.size) (hnone : ∀ g, port ∉ (s.portgroups g).ports)
    (heach : ∀ g, s'.portgroups g = s.portgroups g ∨
      (g = r ∨ g = t) ∧ s'.portgroups g = (s.portgroups g).insert port)
    (hmem : s'.locked = false → s.locked = false ∧
      (port ∈ (s'.portgroups r).ports ↔ port ∈ (s'.portgroups t).ports))
    (hrx : s'.next_rx_sched_grp_id < cnt.num_of_rx_groups)
    (htx : s'.next_tx_sched_grp_id < cnt.num_of_tx_groups) : PortsInv cnt s' := by
  have hrunning : ∀ g, (s'.portgroups g).running_ports = (s.portgroups g).running_ports := by
    intro g
    rcases heach g with heq | ⟨-, heq⟩
    · rw [heq]
    · rw [heq]
      rfl
  have hidle : ∀ g, port ∉ (s'.portgroups g).running_ports := by
    intro g hg
    rw [hrunning g] at hg
    exact hnone g (h.running g hg)
  refine h.of_changedAt ⟨hr, ht, hsize, fun g hg => absurd hg (hnone g), ?frame, ?ports, ?running⟩
    ?ok ⟨fun hg => absurd hg (hidle r), fun hg => absurd hg (hidle t)⟩ hmem hrx htx
  case frame =>
    intro g hgr hgt
    rcases heach g with heq | ⟨hg | hg, -⟩
    · exact heq
    · exact absurd hg hgr
    · exact absurd hg hgt
  case ports =>
    intro g q hq
    rcases heach g with heq | ⟨-, heq⟩
    · rw [heq]
    · rw [heq]
      simp [PortgroupPorts.insert, hq]
  case running =>
    intro g q _
    rw [hrunning g]
  case ok =>
    intro g
    rcases heach g with heq | ⟨-, heq⟩
    · rw [heq]
      exact h.ok g
    · rw [heq]
      exact (h.ok g).insert (hnone g)

lemma addPort_of_ne {rx : Outcome × ManagerState π}
    (hrx : addPortToGroup cnt fails s.next_rx_sched_grp_id port (s.rxSched cnt) = rx)
    (hne : rx.1 ≠ .success) : addPort cnt fails port s = rx := by
  rw [addPort, hrx, if_pos hne]

lemma addPort_of_success
    (hrx : addPortToGroup cnt fails s.next_rx_sched_grp_id port (s.rxSched cnt) = (.success, s')) :
    addPort cnt fails port s =
      addPortToGroup cnt fails (s'.next_tx_sched_grp_id + cnt.num_of_rx_groups) port
        (s'.txSched cnt) := by
  rw [addPort, hrx]
  rfl

lemma addPort_inv (h : PortsInv cnt s) (hlocked : s.locked = false) :
    PortsInv cnt (addPort cnt fails port s).2 := by
  set rx_id := s.next_rx_sched_grp_id with hrx_id
  set tx_id := s.next_tx_sched_grp_id + cnt.num_of_rx_groups with htx_id
  have hrx : cnt.type rx_id = .rx := type_eq_rx_iff.2 h.rxSched
  have htx : cnt.type tx_id = .tx := type_eq_tx_iff.2 (by omega)
  have htxSize : tx_id < cnt.size := by
    have := h.txSched
    rw [GroupCounts.size]
    omega
  rcases h.groupsOf hlocked port with hnone | ⟨r, t, hgroups⟩
  · have hfirst : addPortToGroup cnt fails rx_id port (s.rxSched cnt) = _ :=
      addPortToGroup_of_notMem fun i _ => hnone i
    by_cases hpush : fails (.pushPort rx_id) = true
    · rw [if_pos hpush] at hfirst
      rw [addPort_of_ne hfirst nofun]
      exact h.rxNext.lock
    · rw [if_neg hpush] at hfirst
      set s₁ := (s.rxSched cnt).setGroup rx_id ((s.portgroups rx_id).insert port)
      have hother : ∀ g, g ≠ rx_id → s₁.portgroups g = s.portgroups g :=
        fun g hg => setGroup_of_ne hg
      have hnone₁ : ∀ i, cnt.type i = cnt.type tx_id → port ∉ (s₁.portgroups i).ports := by
        intro i htype
        have hne : i ≠ rx_id := by
          rintro rfl
          rw [hrx, htx] at htype
          exact absurd htype (by decide)
        rw [hother i hne]
        exact hnone i
      have hsecond : addPortToGroup cnt fails tx_id port (s₁.txSched cnt) = _ :=
        addPortToGroup_of_notMem hnone₁
      rw [(addPort_of_success hfirst).trans hsecond]
      split_ifs with hpush'
      · refine h.of_insert hrx htx htxSize hnone (fun g => ?_) nofun (Nat.mod_lt _ cnt.rx_pos)
          (Nat.mod_lt _ cnt.tx_pos)
        by_cases hg : g = rx_id
        · right
          rw [hg]
          exact ⟨.inl rfl, setGroup_self⟩
        · exact .inl (hother g hg)
      · have hself : ((s₁.txSched cnt).setGroup tx_id
            ((s₁.portgroups tx_id).insert port)).portgroups rx_id =
              (s.portgroups rx_id).insert port :=
          (setGroup_of_ne (Nat.ne_of_lt (rx_lt_tx hrx htx))).trans setGroup_self
        have hself' : s₁.portgroups tx_id = s.portgroups tx_id :=
          hother tx_id (Nat.ne_of_gt (rx_lt_tx hrx htx))
        refine h.of_insert hrx htx htxSize hnone (fun g => ?_) (fun _ => ⟨hlocked, ?_⟩)
          (Nat.mod_lt _ cnt.rx_pos) (Nat.mod_lt _ cnt.tx_pos)
        · by_cases hg : g = tx_id
          · right
            rw [hg, ← hself']
            exact ⟨.inr rfl, setGroup_self⟩
          · by_cases hg' : g = rx_id
            · right
              rw [hg']
              exact ⟨.inl rfl, hself⟩
            · exact .inl ((setGroup_of_ne hg).trans (hother g hg'))
        · have hmem : ∀ pg : PortgroupPorts π, port ∈ (pg.insert port).ports := by
            intro pg
            simp [PortgroupPorts.insert]
          refine iff_of_true ?_ ?_
          · exact hself ▸ hmem _
          · rw [setGroup_self]
            exact hmem _
  · have hmem : ∃ i < cnt.size, port ∈ (s.portgroups i).ports ∧ cnt.type i = cnt.type rx_id :=
      ⟨r, h.bounded r port hgroups.mem_rx, hgroups.mem_rx, hgroups.type_rx.trans hrx.symm⟩
    rw [addPort_of_ne (if_pos hmem) nofun]
    exact h.rxNext

lemma getGroupIdByPort_eq (hsize : g < cnt.size) (hport : port ∈ (s.portgroups g).ports)
    (hunique : ∀ g', port ∈ (s.portgroups g').ports → cnt.type g' = cnt.type g → g' = g) :
    getGroupIdByPort cnt port (cnt.type g) s = some g := by
  cases hfind : getGroupIdByPort cnt port (cnt.type g) s with
  | none =>
      have hnone := List.find?_eq_none.1 hfind g (List.mem_range.2 hsize)
      exact absurd hport (by simpa using hnone)
  | some g' =>
      have hsome := List.find?_some hfind
      obtain ⟨htype, hmem⟩ := of_decide_eq_true hsome
      rw [hunique g' hmem htype]

lemma getGroupIdByPort_of_notMem {type : PgType} (h : ∀ g, port ∉ (s.portgroups g).ports) :
    getGroupIdByPort cnt port type s = none := by
  refine List.find?_eq_none.2 fun g _ => ?_
  simp [h g]

/-- `remove_port` first brings the port down, and so erases a port that does not run. -/
lemma removePort_eq (h : PortsInv cnt s) (hlocked : s.locked = false)
    (hgroups : GroupsOf cnt s port r t) :
    removePort cnt fails port s = (.success,
      ((bringPortDown cnt fails port s).2.setGroup r
        (((bringPortDown cnt fails port s).2.portgroups r).remove port)).setGroup t
          (((bringPortDown cnt fails port s).2.portgroups t).remove port)) := by
  obtain ⟨-, -, hidle, hsame⟩ := bringPortDown_spec fails port h hlocked
  set s₁ := (bringPortDown cnt fails port s).2
  set s₂ := s₁.setGroup r ((s₁.portgroups r).remove port)
  have hne : t ≠ r := Nat.ne_of_gt (rx_lt_tx hgroups.type_rx hgroups.type_tx)
  have hfindRx : getGroupIdByPort cnt port .rx s = some r := by
    rw [← hgroups.type_rx]
    exact getGroupIdByPort_eq (h.bounded r port hgroups.mem_rx) hgroups.mem_rx
      fun g' hg' htype => h.unique g' r port hg' hgroups.mem_rx htype
  have hsameTx (g : ℕ) (hg : cnt.type g = .tx) :
      (s₂.portgroups g).ports = (s.portgroups g).ports := by
    have hgr : g ≠ r := Nat.ne_of_gt (rx_lt_tx hgroups.type_rx hg)
    rw [setGroup_of_ne hgr, hsame g]
  have hmemTx : port ∈ (s₂.portgroups t).ports := by
    rw [hsameTx t hgroups.type_tx]
    exact hgroups.mem_tx
  have hfindTx : getGroupIdByPort cnt port .tx s₂ = some t := by
    rw [← hgroups.type_tx]
    refine getGroupIdByPort_eq (h.bounded t port hgroups.mem_tx) hmemTx fun g' hg' htype => ?_
    rw [hsameTx g' (htype.trans hgroups.type_tx)] at hg'
    exact h.unique g' t port hg' hgroups.mem_tx htype
  have hidle₂ : ∀ g, port ∉ (s₂.portgroups g).running_ports := by
    intro g
    by_cases hg : g = r
    · rw [hg, setGroup_self]
      exact hidle r
    · rw [setGroup_of_ne hg]
      exact hidle g
  have hrx : removePortFromGroup cnt fails r port s = (.success, s₂) := if_pos hgroups.mem_rx
  have htx : removePortFromGroup cnt fails t port s₂ =
      (.success, s₂.setGroup t ((s₂.portgroups t).remove port)) := by
    rw [removePortFromGroup, if_pos hmemTx, bringPortDown_of_not_running hidle₂]
    rfl
  rw [removePort, hfindRx]
  simp only [hrx, hfindTx, htx]
  rw [if_neg (by simp), setGroup_of_ne hne]

lemma removePort_inv (h : PortsInv cnt s) (hlocked : s.locked = false) (fails : InternalCall → Bool)
    (port : π) : PortsInv cnt (removePort cnt fails port s).2 := by
  rcases h.groupsOf hlocked port with hnone | ⟨r, t, hgroups⟩
  · rw [removePort, getGroupIdByPort_of_notMem hnone]
    exact h
  · rw [removePort_eq h hlocked hgroups]
    obtain ⟨h₁, hlocked₁, hidle, hsame⟩ :=
      bringPortDown_spec fails port h hlocked
    set s₁ := (bringPortDown cnt fails port s).2
    have hne : r ≠ t := Nat.ne_of_lt (rx_lt_tx hgroups.type_rx hgroups.type_tx)
    have hgroups₁ : GroupsOf cnt s₁ port r t :=
      ⟨hgroups.type_rx, hgroups.type_tx, hsame r ▸ hgroups.mem_rx, hsame t ▸ hgroups.mem_tx⟩
    refine h₁.of_changedAt (hgroups₁.changedAt h₁ ?_ ?_) ?_ ?_ ?_ h₁.rxSched h₁.txSched
    · intro pg hpg q hq
      rw [PortgroupPorts.remove, SafeVector.erase_eq hpg.once]
      exact List.mem_erase_of_ne hq
    · exact fun pg _ q _ => Iff.rfl
    · exact setBoth_of_forall h₁.ok ((h₁.ok r).remove (hidle r)) ((h₁.ok t).remove (hidle t))
    · rw [setGroup_self, setGroup_of_ne hne, setGroup_self]
      exact ⟨fun hr => absurd hr (hidle r), fun ht => absurd ht (hidle t)⟩
    · intro _
      refine ⟨hlocked₁, ?_⟩
      rw [setGroup_self, setGroup_of_ne hne, setGroup_self]
      exact ⟨fun hr => absurd hr (h₁.ok r).notMem_remove,
        fun ht => absurd ht (h₁.ok t).notMem_remove⟩

/-! ## Whole runs -/

lemma portStep_inv {c : PortCall π} (h : PortsInv cnt s) (hup : NotHalfUp cnt s c)
    (hstep : portStep cnt s c = some s') : PortsInv cnt s' := by
  rw [portStep] at hstep
  split_ifs at hstep with hlocked
  obtain rfl := Option.some.inj hstep
  rw [Bool.not_eq_true] at hlocked
  obtain ⟨op, fails⟩ := c
  cases op with
  | addPort port => exact addPort_inv h hlocked
  | removePort port => exact removePort_inv h hlocked _ port
  | bringPortUp port => exact bringPortUp_inv h hlocked hup
  | bringPortDown port => exact (bringPortDown_spec fails port h hlocked).1

/-- **The groups of the ports.**  As long as no `bring_port_up` is left half way, every port is in
at most one group of either type, the running ports of a group are ports of it, and a port runs in a
group for reception if and only if it runs in one for transmission. -/
theorem portsPaired_of_run (cnt : GroupCounts) {calls : List (PortCall π)} {s : ManagerState π}
    (hrun : Run (portStep cnt) (NotHalfUp cnt) .init calls s) : PortsPaired cnt s := by
  have hinv : PortsInv cnt s :=
    hrun.invariant (fun _ _ _ h hup hstep => portStep_inv h hup hstep) (portsInv_init cnt)
  exact hinv.toPortsPaired

/-- The condition is the exact one for a single `bring_port_up`. -/
theorem bringPortUp_portsPaired_iff (h : PortsInv cnt s) (hlocked : s.locked = false) :
    PortsPaired cnt (bringPortUp cnt fails port s).2 ↔
      NotHalfUp cnt s ⟨.bringPortUp port, fails⟩ :=
  ⟨fun hpaired => not_imp_comm.1 (not_portsPaired_of_halfUp h) (not_not.2 hpaired),
    fun hup => (bringPortUp_inv h hlocked hup).toPortsPaired⟩

end Operations

/-- One group for reception and one for transmission. -/
def oneOfEither : GroupCounts :=
  ⟨1, 1, by decide, by decide⟩

/-- A port is added, brought up, brought down after an attempt of adding it again, and removed. -/
def addedAndRemoved : List (PortCall ℕ) :=
  [⟨.addPort 3, fun _ => false⟩, ⟨.bringPortUp 3, fun _ => false⟩,
    ⟨.addPort 3, fun _ => false⟩, ⟨.bringPortDown 3, (· == .portDown)⟩,
    ⟨.bringPortUp 3, (· == .portUp)⟩, ⟨.removePort 3, fun _ => false⟩]

theorem portsPaired_addedAndRemoved : ∃ s : ManagerState ℕ,
    exec (guarded (portStep oneOfEither) (NotHalfUp oneOfEither)) .init addedAndRemoved = some s ∧
      PortsPaired oneOfEither s :=
  ⟨_, rfl, portsPaired_of_run _
    (run_of_exec_guarded (rfl : exec _ _ addedAndRemoved = some _))⟩

/-- When the second `push_back` of `bring_port_up` throws, the port is left running for reception
only. -/
theorem not_portsPaired_of_throw : ∃ s s' : ManagerState ℕ,
    Run (portStep oneOfEither) anyStep .init [⟨.addPort 3, fun _ => false⟩] s ∧
      (⟨.bringPortUp 3, (· == .pushRunning 1)⟩ : PortCall ℕ).run oneOfEither s = (.failure, s') ∧
      ¬ PortsPaired oneOfEither s' := by
  refine ⟨_, _, run_of_exec rfl, rfl, fun h => ?_⟩
  obtain ⟨g, htype, hg⟩ := (h.paired 3).1 ⟨0, rfl, by decide⟩
  match g with
  | 0 => exact absurd htype (by decide)
  | 1 => exact absurd hg (by decide)
  | g + 2 => exact absurd hg List.not_mem_nil

end Xdpd.Io
