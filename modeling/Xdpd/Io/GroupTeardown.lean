import Xdpd.Io.PortGroups

/-!
# Deleting the groups of the ports

`iomanager::destroy` deletes the groups one after the other, in the order of their ids, and takes
each of them out of the map `portgroups`.  Before it deletes a group it removes the ports of it, and
the removal of a port brings the port down: `bring_port_down` walks over the ids from 0 on, although
the ids of the groups that are gone are not in the map any more.  There `portgroups[i]` inserts a
`NULL`, which is dereferenced.

Every port is in one of the groups for transmission, which are deleted after those for reception.
So `destroy` works when every port has been removed before, and in no other case:
`destroy_tearsDown_iff`.  `dump_state`, which only a debug build has, walks over the map as well and
skips what is `NULL`; the walk of `bring_port_down` comes after it.
-/

namespace Xdpd.Io

open Xdpd.Lib Xdpd.Util

variable {π : Type*}

/-- What keeps a call from returning. -/
inductive TeardownFault
  /-- the `NULL` that the map has for the id is dereferenced -/
  | nullGroup (g : ℕ)
  /-- the mutex is never released -/
  | blocked
  /-- a loop has not ended in the steps that it was given -/
  | outOfFuel
  deriving DecidableEq, Repr

/-- The manager while groups are deleted.  `portgroups g` is the memory of the group `g`; once the
group has been freed, it stays as it was then. -/
structure TeardownState (π : Type*) extends ManagerState π where
  /-- the ids for which the map has a group -/
  ids : List ℕ
  /-- the ids for which the map has a `NULL`, inserted by looking them up -/
  nulls : List ℕ
  num_of_groups : ℕ

/-- No group has been deleted. -/
def ManagerState.intact (cnt : GroupCounts) (s : ManagerState π) : TeardownState π :=
  { s with ids := List.range cnt.size, nulls := [], num_of_groups := cnt.size }

namespace TeardownState

/-- `portgroups.size()`. -/
def size (s : TeardownState π) : ℕ :=
  s.ids.length + s.nulls.length

/-- `portgroups[g]`, which inserts a `NULL` when the map does not have the id. -/
def lookup (g : ℕ) (s : TeardownState π) : Option (PortgroupPorts π) × TeardownState π :=
  if g ∈ s.ids then (some (s.portgroups g), s)
  else (none, { s with nulls := s.nulls.insert g })

/-- The group `g` becomes `pg`. -/
def setGroup (g : ℕ) (pg : PortgroupPorts π) (s : TeardownState π) : TeardownState π :=
  { s with portgroups := Function.update s.portgroups g pg }

/-- The group is taken out of the map and freed. -/
def eraseGroup (g : ℕ) (s : TeardownState π) : TeardownState π :=
  { s with
    ids := s.ids.filter (· ≠ g)
    nulls := s.nulls.filter (· ≠ g)
    num_of_groups := s.num_of_groups - 1 }

end TeardownState

section Operations

variable [DecidableEq π]

/-- The loop of `bring_port_down` over the ids from `i` on, of which `n` are left.  The size of the
map, up to which it runs, only changes with a lookup after which the loop does not go on. -/
def TeardownState.bringPortDownLoop (cnt : GroupCounts) (fails : InternalCall → Bool) (port : π) :
    ℕ → ℕ → Bool → Bool → TeardownState π → Except TeardownFault (Outcome × TeardownState π)
  | 0, _, _, _, s => .ok (.failure, s)
  | n + 1, i, rx, tx, s =>
      match s.lookup i with
      | (none, _) => .error (.nullGroup i)
      | (some pg, s) =>
          if port ∈ pg.running_ports then
            let s := s.setGroup i
              { pg with running_ports := SafeVector.erase port pg.running_ports }
            let rx := rx || cnt.type i == .rx
            let tx := tx || cnt.type i == .tx
            if rx && tx then .ok (if fails .portDown then .failure else .success, s)
            else bringPortDownLoop cnt fails port n (i + 1) rx tx s
          else bringPortDownLoop cnt fails port n (i + 1) rx tx s

/-- `bring_port_down`. -/
def TeardownState.bringPortDown (cnt : GroupCounts) (fails : InternalCall → Bool) (port : π)
    (s : TeardownState π) : Except TeardownFault (Outcome × TeardownState π) :=
  s.bringPortDownLoop cnt fails port s.size 0 false false

/-- `remove_port_from_group`, with the mutex held.  `pg` points to the group, which
`bring_port_down` changes. -/
def TeardownState.removePortFromGroup (cnt : GroupCounts) (fails : InternalCall → Bool)
    (grp_id : ℕ) (port : π) (s : TeardownState π) :
    Except TeardownFault (Outcome × TeardownState π) :=
  match s.lookup grp_id with
  | (none, s) => .ok (.failure, s)
  | (some pg, s) =>
      if port ∈ pg.ports then
        match s.bringPortDown cnt fails port with
        | .error fault => .error fault
        | .ok (_, s) =>
            let pg := s.portgroups grp_id
            .ok (.success, s.setGroup grp_id { pg with ports := SafeVector.erase port pg.ports })
      else .ok (.failure, s)

/-- The loop of `delete_group`, which `(*pg->ports)[0]` leaves with an exception once there are no
more ports. -/
def TeardownState.deletePorts (cnt : GroupCounts) (fails : InternalCall → Bool) (grp_id : ℕ) :
    ℕ → TeardownState π → Except TeardownFault (TeardownState π)
  | 0, _ => .error .outOfFuel
  | fuel + 1, s =>
      match (s.portgroups grp_id).ports with
      | [] => .ok s
      | port :: _ =>
          match s.removePortFromGroup cnt fails grp_id port with
          | .error fault => .error fault
          | .ok (_, s) => s.deletePorts cnt fails grp_id fuel

/-- `delete_group`. -/
def TeardownState.deleteGroup (cnt : GroupCounts) (fails : InternalCall → Bool) (fuel grp_id : ℕ)
    (s : TeardownState π) : Except TeardownFault (Outcome × TeardownState π) :=
  if s.locked then .error .blocked
  else
    match s.lookup grp_id with
    | (none, s) => .ok (.failure, s)
    | (some _, s) =>
        match s.deletePorts cnt fails grp_id fuel with
        | .error fault => .error fault
        | .ok s => .ok (.success, s.eraseGroup grp_id)

/-- The loops of `delete_all_groups`, over the ids they take. -/
def TeardownState.deleteGroups (cnt : GroupCounts) (fails : InternalCall → Bool) (fuel : ℕ) :
    List ℕ → TeardownState π → Except TeardownFault (TeardownState π)
  | [], s => .ok s
  | i :: is, s =>
      match s.lookup i with
      -- `pg->id`
      | (none, _) => .error (.nullGroup i)
      | (some _, s) =>
          match s.deleteGroup cnt fails fuel i with
          | .error fault => .error fault
          | .ok (_, s) => s.deleteGroups cnt fails fuel is

/-- `delete_all_groups`: first the groups for reception, then those for transmission. -/
def TeardownState.deleteAllGroups (cnt : GroupCounts) (fails : InternalCall → Bool) (fuel : ℕ)
    (s : TeardownState π) : Except TeardownFault (TeardownState π) :=
  match s.deleteGroups cnt fails fuel (List.range cnt.num_of_rx_groups) with
  | .error fault => .error fault
  | .ok s =>
      s.deleteGroups cnt fails fuel
        ((List.range cnt.num_of_tx_groups).map (cnt.num_of_rx_groups + ·))

/-- `destroy`. -/
def destroy (cnt : GroupCounts) (fails : InternalCall → Bool) (fuel : ℕ) (s : ManagerState π) :
    Except TeardownFault (TeardownState π) :=
  (s.intact cnt).deleteAllGroups cnt fails fuel

/-- The call returns; no group is left in the map, no lookup has put a `NULL` there, and every group
had been stopped when it was freed. -/
def TearsDown (cnt : GroupCounts) (fails : InternalCall → Bool) (s : ManagerState π) : Prop :=
  ∃ fuel s', destroy cnt fails fuel s = .ok s' ∧ s'.ids = [] ∧ s'.nulls = [] ∧
    s'.num_of_groups = 0 ∧ ∀ g, (s'.portgroups g).running_ports = []

end Operations

variable {cnt : GroupCounts} {fails : InternalCall → Bool} {port : π} {g : ℕ}

/-! ## What holds of the groups after any run

Unlike in `PortsInv`, a port may run for reception only.  With its running ports left out, such a
state is one of `PortsInv` again.
-/

/-- The state with no port running. -/
def ManagerState.idle (s : ManagerState π) : ManagerState π :=
  { s with portgroups := fun g => { ports := (s.portgroups g).ports, running_ports := [] } }

/-- The invariant of all runs. -/
structure GroupsInv (cnt : GroupCounts) (s : ManagerState π) : Prop where
  idle : PortsInv cnt s.idle
  ok : ∀ g, (s.portgroups g).Ok

section Idle

variable {s : ManagerState π} {pg : PortgroupPorts π}

lemma idle_setGroup :
    (s.setGroup g pg).idle = s.idle.setGroup g { pg with running_ports := [] } := by
  refine ManagerState.ext (funext fun j => ?_) rfl rfl rfl
  by_cases hj : j = g
  · subst hj
    rw [setGroup_self]
    simp [ManagerState.idle]
  · rw [setGroup_of_ne hj]
    simp [ManagerState.idle, setGroup_of_ne hj]

/-- The ports of the group stay. -/
lemma idle_setGroup_of_ports (h : pg.ports = (s.portgroups g).ports) :
    (s.setGroup g pg).idle = s.idle := by
  rw [idle_setGroup, h]
  refine ManagerState.ext (funext fun j => ?_) rfl rfl rfl
  by_cases hj : j = g
  · subst hj
    rw [setGroup_self]
    rfl
  · rw [setGroup_of_ne hj]

lemma ok_setGroup (h : ∀ g, (s.portgroups g).Ok) (hpg : pg.Ok) (j : ℕ) :
    ((s.setGroup g pg).portgroups j).Ok := by
  by_cases hj : j = g
  · subst hj
    rwa [setGroup_self]
  · rw [setGroup_of_ne hj]
    exact h j

lemma groupsInv_init (cnt : GroupCounts) : GroupsInv cnt (ManagerState.init : ManagerState π) :=
  ⟨portsInv_init cnt, fun _ => ⟨.nil, .nil, List.Subset.refl []⟩⟩

variable [DecidableEq π]

/-- In a group in which the port runs, the loop stops it, and ends or goes on. -/
lemma bringPortDownLoop_cases {n i : ℕ} {rx tx : Bool}
    (hrun : port ∈ (s.portgroups i).running_ports) :
    ((rx || cnt.type i == .rx) = true ∧ (tx || cnt.type i == .tx) = true ∧
      (bringPortDownLoop cnt fails port (n + 1) i rx tx s).2 =
        s.setGroup i ((s.portgroups i).stop port)) ∨
    bringPortDownLoop cnt fails port (n + 1) i rx tx s =
      bringPortDownLoop cnt fails port n (i + 1) (rx || cnt.type i == .rx)
        (tx || cnt.type i == .tx) (s.setGroup i ((s.portgroups i).stop port)) := by
  by_cases hboth : ((rx || cnt.type i == .rx) && (tx || cnt.type i == .tx)) = true
  · left
    obtain ⟨hrx, htx⟩ := Bool.and_eq_true_iff.1 hboth
    refine ⟨hrx, htx, ?_⟩
    rw [bringPortDownLoop, if_pos hrun]
    simp only [hboth, if_true]
    rfl
  · right
    rw [bringPortDownLoop, if_pos hrun]
    simp only [hboth]
    rfl

lemma bringPortDownLoop_idle {n i : ℕ} {rx tx : Bool} :
    (bringPortDownLoop cnt fails port n i rx tx s).2.idle = s.idle := by
  induction n generalizing i rx tx s with
  | zero => rfl
  | succ n ih =>
      by_cases hrun : port ∈ (s.portgroups i).running_ports
      · have hstop : (s.setGroup i ((s.portgroups i).stop port)).idle = s.idle :=
          idle_setGroup_of_ports rfl
        rcases bringPortDownLoop_cases hrun with ⟨-, -, heq⟩ | heq
        · rw [heq, hstop]
        · rw [heq, ih, hstop]
      · rw [bringPortDownLoop, if_neg hrun, ih]

lemma bringPortDownLoop_ok {n i : ℕ} {rx tx : Bool} (h : ∀ g, (s.portgroups g).Ok) (j : ℕ) :
    ((bringPortDownLoop cnt fails port n i rx tx s).2.portgroups j).Ok := by
  induction n generalizing i rx tx s with
  | zero => exact h j
  | succ n ih =>
      by_cases hrun : port ∈ (s.portgroups i).running_ports
      · have hstop : ∀ g, ((s.setGroup i ((s.portgroups i).stop port)).portgroups g).Ok :=
          ok_setGroup h (h i).stop
        rcases bringPortDownLoop_cases hrun with ⟨-, -, heq⟩ | heq
        · rw [heq]
          exact hstop j
        · rw [heq]
          exact ih hstop
      · rw [bringPortDownLoop, if_neg hrun]
        exact ih h

/-- The port runs in at most one group of either type. -/
def AtMostOnce (cnt : GroupCounts) (port : π) (s : ManagerState π) : Prop :=
  ∀ g g', port ∈ (s.portgroups g).running_ports → port ∈ (s.portgroups g').running_ports →
    cnt.type g = cnt.type g' → g = g'

/-- The loop stops when it has found the port in a group of either type, and there are no more. -/
lemma bringPortDownLoop_notMem {n i : ℕ} {rx tx : Bool} (h : ∀ g, (s.portgroups g).Ok)
    (honce : AtMostOnce cnt port s)
    (hbounded : ∀ g, port ∈ (s.portgroups g).running_ports → i ≤ g ∧ g < i + n)
    (hrx : rx = true → ∀ g, cnt.type g = .rx → port ∉ (s.portgroups g).running_ports)
    (htx : tx = true → ∀ g, cnt.type g = .tx → port ∉ (s.portgroups g).running_ports) :
    port ∉ ((bringPortDownLoop cnt fails port n i rx tx s).2.portgroups g).running_ports := by
  induction n generalizing i rx tx s with
  | zero =>
      intro hg
      obtain ⟨hle, hlt⟩ := hbounded g hg
      omega
  | succ n ih =>
      by_cases hrun : port ∈ (s.portgroups i).running_ports
      · set s₁ := s.setGroup i ((s.portgroups i).stop port) with hs₁
        have hstopped : port ∉ (s₁.portgroups i).running_ports := by
          rw [setGroup_self, PortgroupPorts.stop, SafeVector.erase_eq (h i).runningOnce]
          exact (h i).runningOnce.not_mem_erase
        have hother : ∀ j, port ∈ (s₁.portgroups j).running_ports →
            j ≠ i ∧ port ∈ (s.portgroups j).running_ports := by
          intro j hj
          have hji : j ≠ i := by
            rintro rfl
            exact hstopped hj
          rw [setGroup_of_ne hji] at hj
          exact ⟨hji, hj⟩
        have hflag : ∀ {flag : Bool} {type : PgType},
            (flag = true → ∀ g, cnt.type g = type → port ∉ (s.portgroups g).running_ports) →
            (flag || cnt.type i == type) = true →
            ∀ g, cnt.type g = type → port ∉ (s₁.portgroups g).running_ports := by
          intro flag type hflag htrue j htype hj
          obtain ⟨hji, hj⟩ := hother j hj
          rcases Bool.or_eq_true_iff.1 htrue with hflag' | htype'
          · exact hflag hflag' j htype hj
          · exact hji (honce j i hj hrun (htype.trans (eq_of_beq htype').symm))
        have hrx₁ := hflag hrx
        have htx₁ := hflag htx
        rcases bringPortDownLoop_cases hrun with ⟨hrx', htx', heq⟩ | heq
        · rw [heq]
          cases htype : cnt.type g with
          | rx => exact hrx₁ hrx' g htype
          | tx => exact htx₁ htx' g htype
        · rw [heq]
          refine ih (ok_setGroup h (h i).stop) ?_ ?_ hrx₁ htx₁
          · intro j j' hj hj'
            exact honce j j' (hother j hj).2 (hother j' hj').2
          · intro j hj
            obtain ⟨hji, hj⟩ := hother j hj
            have := hbounded j hj
            omega
      · rw [bringPortDownLoop, if_neg hrun]
        refine ih h honce (fun j hj => ?_) hrx htx
        have hji : j ≠ i := by
          rintro rfl
          exact hrun hj
        have := hbounded j hj
        omega

lemma GroupsInv.notMem_bringPortDown (h : GroupsInv cnt s) :
    port ∉ ((bringPortDown cnt fails port s).2.portgroups g).running_ports := by
  refine bringPortDownLoop_notMem h.ok ?_ ?_ nofun nofun
  · intro j j' hj hj'
    exact h.idle.unique j j' port ((h.ok j).running hj) ((h.ok j').running hj')
  · intro j hj
    have := h.idle.bounded j port ((h.ok j).running hj)
    omega

lemma GroupsInv.bringPortDown (h : GroupsInv cnt s) :
    GroupsInv cnt (bringPortDown cnt fails port s).2 := by
  refine ⟨?_, bringPortDownLoop_ok h.ok⟩
  rw [Io.bringPortDown, bringPortDownLoop_idle]
  exact h.idle

/-- In a group that has the port, the loop ends, or goes on, with the port running there. -/
lemma bringPortUpLoop_cases {n i : ℕ} {rx tx : Bool} (hport : port ∈ (s.portgroups i).ports)
    (hrun : port ∉ (s.portgroups i).running_ports) :
    (bringPortUpLoop cnt fails port (n + 1) i rx tx s).2 ∈
      [s, s.setGroup i ((s.portgroups i).start port),
        (s.setGroup i ((s.portgroups i).start port)).lock] ∨
    ∃ rx' tx', bringPortUpLoop cnt fails port (n + 1) i rx tx s =
      bringPortUpLoop cnt fails port n (i + 1) rx' tx'
        (s.setGroup i ((s.portgroups i).start port)) := by
  rw [bringPortUpLoop, if_pos hport, if_neg hrun]
  split_ifs with hthrows hcreate
  · left
    simp
  · left
    simp [PortgroupPorts.start]
  · by_cases hboth : ((rx || cnt.type i == .rx) && (tx || cnt.type i == .tx)) = true
    · left
      simp [hboth, PortgroupPorts.start]
    · right
      refine ⟨rx || cnt.type i == .rx, tx || cnt.type i == .tx, ?_⟩
      simp only [hboth]
      rfl

lemma bringPortUpLoop_inv {n i : ℕ} {rx tx : Bool} (h : GroupsInv cnt s) :
    GroupsInv cnt (bringPortUpLoop cnt fails port n i rx tx s).2 := by
  induction n generalizing i rx tx s with
  | zero => exact h
  | succ n ih =>
      by_cases hport : port ∈ (s.portgroups i).ports
      · by_cases hrun : port ∈ (s.portgroups i).running_ports
        · rw [bringPortUpLoop, if_pos hport, if_pos hrun]
          exact h
        · have hstart : GroupsInv cnt (s.setGroup i ((s.portgroups i).start port)) := by
            have hidle : (s.setGroup i ((s.portgroups i).start port)).idle = s.idle :=
              idle_setGroup_of_ports rfl
            exact ⟨hidle ▸ h.idle, ok_setGroup h.ok ((h.ok i).start hport hrun)⟩
          rcases bringPortUpLoop_cases hport hrun with hmem | ⟨rx', tx', heq⟩
          · rcases List.mem_cons.1 hmem with heq | hmem
            · rw [heq]
              exact h
            · rcases List.mem_pair.1 hmem with heq | heq
              · rw [heq]
                exact hstart
              · rw [heq]
                exact ⟨hstart.idle.lock, hstart.ok⟩
          · rw [heq]
            exact ih hstart
      · rw [bringPortUpLoop, if_neg hport]
        exact ih h

/-- Whether a port can be added does not depend on the ports that run. -/
lemma addPortToGroup_idle :
    addPortToGroup cnt fails g port s.idle =
      ((addPortToGroup cnt fails g port s).1, (addPortToGroup cnt fails g port s).2.idle) := by
  by_cases hmem : ∃ i < cnt.size, port ∈ (s.portgroups i).ports ∧ cnt.type i = cnt.type g
  · have hidle : ∃ i < cnt.size, port ∈ (s.idle.portgroups i).ports ∧ cnt.type i = cnt.type g :=
      hmem
    rw [addPortToGroup, addPortToGroup, if_pos hmem, if_pos hidle]
  · have hidle : ¬ ∃ i < cnt.size, port ∈ (s.idle.portgroups i).ports ∧ cnt.type i = cnt.type g :=
      hmem
    rw [addPortToGroup, addPortToGroup, if_neg hmem, if_neg hidle]
    have hinsert : (s.setGroup g ((s.portgroups g).insert port)).idle = _ := idle_setGroup
    split_ifs
    · rfl
    · exact congrArg (Prod.mk Outcome.success) hinsert.symm

lemma addPort_idle : (addPort cnt fails port s).2.idle = (addPort cnt fails port s.idle).2 := by
  have hfirst : addPortToGroup cnt fails s.next_rx_sched_grp_id port (s.rxSched cnt).idle = _ :=
    addPortToGroup_idle
  set rx := addPortToGroup cnt fails s.next_rx_sched_grp_id port (s.rxSched cnt) with hrx
  by_cases hne : rx.1 = .success
  · have heq : rx = (.success, rx.2) := Prod.ext hne rfl
    have hidle : addPort cnt fails port s.idle = _ :=
      addPort_of_success (hfirst.trans (Prod.ext hne rfl))
    rw [addPort_of_success (hrx.symm.trans heq), hidle]
    exact (congrArg Prod.snd addPortToGroup_idle).symm
  · have hidle : addPort cnt fails port s.idle = _ := addPort_of_ne hfirst hne
    rw [addPort_of_ne rfl hne, hidle]

/-- Ports are only added, and run where they ran. -/
def ManagerState.Grows (s s' : ManagerState π) : Prop :=
  ∀ j, (s.portgroups j).ports ⊆ (s'.portgroups j).ports ∧
    (s'.portgroups j).running_ports = (s.portgroups j).running_ports

omit [DecidableEq π] in
lemma ManagerState.Grows.trans {s' s'' : ManagerState π} (h : s.Grows s') (h' : s'.Grows s'') :
    s.Grows s'' :=
  fun j => ⟨List.Subset.trans (h j).1 (h' j).1, (h' j).2.trans (h j).2⟩

lemma addPortToGroup_grows : s.Grows (addPortToGroup cnt fails g port s).2 := by
  intro j
  rw [addPortToGroup]
  split_ifs
  · exact ⟨List.Subset.refl _, rfl⟩
  · exact ⟨List.Subset.refl _, rfl⟩
  · by_cases hj : j = g
    · subst hj
      simp
    · simp [setGroup_of_ne hj]

lemma addPort_grows : s.Grows (addPort cnt fails port s).2 := by
  set rx := addPortToGroup cnt fails s.next_rx_sched_grp_id port (s.rxSched cnt) with hrx
  have hfirst : (s.rxSched cnt).Grows rx.2 := addPortToGroup_grows
  by_cases hne : rx.1 = .success
  · rw [addPort_of_success (hrx.symm.trans (Prod.ext hne rfl))]
    have hsecond : (rx.2.txSched cnt).Grows (addPortToGroup cnt fails
        (rx.2.next_tx_sched_grp_id + cnt.num_of_rx_groups) port (rx.2.txSched cnt)).2 :=
      addPortToGroup_grows
    exact hfirst.trans hsecond
  · rw [addPort_of_ne rfl hne]
    exact hfirst

lemma GroupsInv.addPort (h : GroupsInv cnt s) (hlocked : s.locked = false) :
    GroupsInv cnt (addPort cnt fails port s).2 := by
  have hidle : PortsInv cnt (Io.addPort cnt fails port s).2.idle := by
    rw [addPort_idle]
    exact addPort_inv h.idle hlocked
  refine ⟨hidle, fun j => ⟨hidle.once j, ?_, ?_⟩⟩
  · obtain ⟨-, hrunning⟩ := (addPort_grows : s.Grows (Io.addPort cnt fails port s).2) j
    rw [hrunning]
    exact (h.ok j).runningOnce
  · obtain ⟨hports, hrunning⟩ := (addPort_grows : s.Grows (Io.addPort cnt fails port s).2) j
    rw [hrunning]
    exact List.Subset.trans (h.ok j).running hports

/-- The same port is removed from the same group, whatever runs. -/
lemma removePortFromGroup_idle :
    (removePortFromGroup cnt fails g port s.idle).1 = (removePortFromGroup cnt fails g port s).1 ∧
      (removePortFromGroup cnt fails g port s.idle).2 =
        (removePortFromGroup cnt fails g port s).2.idle := by
  by_cases hmem : port ∈ (s.portgroups g).ports
  · have hidle : port ∈ (s.idle.portgroups g).ports := hmem
    have hports : (Io.bringPortDown cnt fails port s).2.idle = s.idle := bringPortDownLoop_idle
    rw [removePortFromGroup, removePortFromGroup, if_pos hmem, if_pos hidle,
      bringPortDown_of_not_running (fun j => List.not_mem_nil)]
    refine ⟨rfl, ?_⟩
    set s₁ := (Io.bringPortDown cnt fails port s).2
    have hremove : (s₁.setGroup g ((s₁.portgroups g).remove port)).idle = _ := idle_setGroup
    have hsame : (s₁.portgroups g).ports = (s.portgroups g).ports := by
      show (s₁.idle.portgroups g).ports = (s.idle.portgroups g).ports
      rw [hports]
    refine Eq.trans ?_ hremove.symm
    rw [hports, PortgroupPorts.remove, hsame]
    rfl
  · have hidle : port ∉ (s.idle.portgroups g).ports := hmem
    rw [removePortFromGroup, removePortFromGroup, if_neg hmem, if_neg hidle]
    exact ⟨rfl, rfl⟩

lemma removePort_idle :
    (removePort cnt fails port s).2.idle = (removePort cnt fails port s.idle).2 := by
  have hfind (s : ManagerState π) (type : PgType) :
      getGroupIdByPort cnt port type s.idle = getGroupIdByPort cnt port type s := rfl
  rw [removePort, removePort, hfind]
  cases getGroupIdByPort cnt port .rx s with
  | none => rfl
  | some rx_id =>
      obtain ⟨hfst, hsnd⟩ :=
        (removePortFromGroup_idle : (removePortFromGroup cnt fails rx_id port s.idle).1 = _ ∧ _)
      simp only [hfst, hsnd, hfind]
      split_ifs with hne
      · exact hsnd.symm
      · cases getGroupIdByPort cnt port .tx (removePortFromGroup cnt fails rx_id port s).2 with
        | none => rfl
        | some tx_id => exact removePortFromGroup_idle.2.symm

/-- The groups stay well formed, and the port runs nowhere, when it is removed from one of them. -/
lemma removePortFromGroup_ok (h : ∀ j, (s.portgroups j).Ok)
    (hdown : ∀ j, port ∉ ((bringPortDown cnt fails port s).2.portgroups j).running_ports)
    (hsuccess : (removePortFromGroup cnt fails g port s).1 = .success) (j : ℕ) :
    ((removePortFromGroup cnt fails g port s).2.portgroups j).Ok ∧
      port ∉ ((removePortFromGroup cnt fails g port s).2.portgroups j).running_ports := by
  by_cases hmem : port ∈ (s.portgroups g).ports
  · rw [removePortFromGroup, if_pos hmem]
    have hok : ∀ j, ((bringPortDown cnt fails port s).2.portgroups j).Ok := bringPortDownLoop_ok h
    set s₁ := (bringPortDown cnt fails port s).2
    refine ⟨ok_setGroup hok ((hok g).remove (hdown g)) j, ?_⟩
    by_cases hj : j = g
    · subst hj
      rw [setGroup_self]
      exact hdown j
    · rw [setGroup_of_ne hj]
      exact hdown j
  · rw [removePortFromGroup, if_neg hmem] at hsuccess
    exact absurd hsuccess (by simp)

lemma removePortFromGroup_of_ne (hne : (removePortFromGroup cnt fails g port s).1 ≠ .success) :
    (removePortFromGroup cnt fails g port s).2 = s := by
  rw [removePortFromGroup] at hne ⊢
  split_ifs at hne ⊢
  · exact absurd rfl hne
  · rfl

lemma GroupsInv.removePort (h : GroupsInv cnt s) (hlocked : s.locked = false) :
    GroupsInv cnt (removePort cnt fails port s).2 := by
  refine ⟨?_, fun j => ?_⟩
  · rw [removePort_idle]
    exact removePort_inv h.idle hlocked fails port
  · rw [Io.removePort]
    cases getGroupIdByPort cnt port .rx s with
    | none => exact h.ok j
    | some rx_id =>
        by_cases hrx : (removePortFromGroup cnt fails rx_id port s).1 = .success
        · have hfirst := removePortFromGroup_ok h.ok (fun j => h.notMem_bringPortDown) hrx
          simp only [hrx]
          set s₁ := (removePortFromGroup cnt fails rx_id port s).2
          have hidle : Io.bringPortDown cnt fails port s₁ = (.failure, s₁) :=
            bringPortDown_of_not_running fun j => (hfirst j).2
          cases getGroupIdByPort cnt port .tx s₁ with
          | none => exact (hfirst j).1
          | some tx_id =>
              by_cases htx : (removePortFromGroup cnt fails tx_id port s₁).1 = .success
              · refine (removePortFromGroup_ok (fun j => (hfirst j).1) (fun j => ?_) htx j).1
                rw [hidle]
                exact (hfirst j).2
              · have hsame := removePortFromGroup_of_ne htx
                simp only [ne_eq, not_true_eq_false, if_false, hsame]
                exact (hfirst j).1
        · simp only [hrx, ne_eq, not_false_eq_true, if_true, removePortFromGroup_of_ne hrx]
          exact h.ok j

lemma GroupsInv.portStep {s' : ManagerState π} {c : PortCall π} (h : GroupsInv cnt s)
    (hstep : portStep cnt s c = some s') : GroupsInv cnt s' := by
  rw [Io.portStep] at hstep
  split_ifs at hstep with hlocked
  obtain rfl := Option.some.inj hstep
  rw [Bool.not_eq_true] at hlocked
  obtain ⟨op, fails⟩ := c
  cases op with
  | addPort port => exact h.addPort hlocked
  | removePort port => exact h.removePort hlocked
  | bringPortUp port => exact bringPortUpLoop_inv h
  | bringPortDown port => exact h.bringPortDown

omit [DecidableEq π] in
/-- Between two calls a port that is in a group is in one for transmission. -/
lemma GroupsInv.exists_tx (h : GroupsInv cnt s) (hlocked : s.locked = false)
    (hport : port ∈ (s.portgroups g).ports) :
    ∃ t, cnt.num_of_rx_groups ≤ t ∧ t < cnt.size ∧ port ∈ (s.portgroups t).ports := by
  obtain ⟨t, htype, ht⟩ : ∃ t, cnt.type t = .tx ∧ port ∈ (s.portgroups t).ports := by
    cases htype : cnt.type g with
    | rx => exact (h.idle.member hlocked port).1 ⟨g, htype, hport⟩
    | tx => exact ⟨g, htype, hport⟩
  exact ⟨t, type_eq_tx_iff.1 htype, h.idle.bounded t port ht, ht⟩

end Idle

/-! ## Deleting one group -/

section Deletion

variable [DecidableEq π] {s s' : TeardownState π} {o : Outcome} {fuel : ℕ}

omit [DecidableEq π] in
lemma lookup_of_mem (h : g ∈ s.ids) : s.lookup g = (some (s.portgroups g), s) :=
  if_pos h

omit [DecidableEq π] in
lemma lookup_of_notMem (h : g ∉ s.ids) :
    s.lookup g = (none, { s with nulls := s.nulls.insert g }) :=
  if_neg h

/-- A group without ports is deleted. -/
lemma deleteGroup_of_empty (hlocked : s.locked = false) (hg : g ∈ s.ids)
    (hempty : (s.portgroups g).ports = []) :
    s.deleteGroup cnt fails (fuel + 1) g = .ok (.success, s.eraseGroup g) := by
  have hports : s.deletePorts cnt fails g (fuel + 1) = .ok s := by
    rw [TeardownState.deletePorts, hempty]
  rw [TeardownState.deleteGroup, hlocked, lookup_of_mem hg]
  simp [hports]

/-- Once the group `0` is gone, every port brings the `NULL` up. -/
lemma removePortFromGroup_of_missing (hzero : 0 ∉ s.ids) (hg : g ∈ s.ids)
    (hport : port ∈ (s.portgroups g).ports) :
    s.removePortFromGroup cnt fails g port = .error (.nullGroup 0) := by
  obtain ⟨n, hn⟩ : ∃ n, s.size = n + 1 := by
    have := List.length_pos_of_mem hg
    exact ⟨s.size - 1, by rw [TeardownState.size]; omega⟩
  have hdown : s.bringPortDown cnt fails port = .error (.nullGroup 0) := by
    rw [TeardownState.bringPortDown, hn, TeardownState.bringPortDownLoop, lookup_of_notMem hzero]
  rw [TeardownState.removePortFromGroup, lookup_of_mem hg]
  simp [hport, hdown]

lemma ports_eq_nil_of_deleteGroup (hzero : 0 ∉ s.ids) (hg : g ∈ s.ids)
    (hdelete : s.deleteGroup cnt fails fuel g = .ok (o, s')) :
    s.locked = false ∧ (s.portgroups g).ports = [] := by
  rw [TeardownState.deleteGroup, lookup_of_mem hg] at hdelete
  cases hlocked : s.locked with
  | true =>
      rw [hlocked] at hdelete
      exact absurd hdelete (by simp)
  | false =>
      refine ⟨rfl, ?_⟩
      cases hports : (s.portgroups g).ports with
      | nil => rfl
      | cons port ports =>
          have hport : port ∈ (s.portgroups g).ports := hports ▸ List.mem_cons_self
          cases fuel with
          | zero => simp [hlocked, TeardownState.deletePorts] at hdelete
          | succ fuel =>
              simp [hlocked, TeardownState.deletePorts, hports,
                removePortFromGroup_of_missing hzero hg hport] at hdelete

/-- The map is as it was, and the ports of the other groups are. -/
structure Frame (g : ℕ) (s s' : TeardownState π) : Prop where
  ids : s'.ids = s.ids
  ports : ∀ j ≠ g, (s'.portgroups j).ports = (s.portgroups j).ports

omit [DecidableEq π] in
lemma Frame.refl (g : ℕ) (s : TeardownState π) : Frame g s s :=
  ⟨rfl, fun _ _ => rfl⟩

omit [DecidableEq π] in
lemma Frame.trans {s'' : TeardownState π} (h : Frame g s s') (h' : Frame g s' s'') :
    Frame g s s'' :=
  ⟨h'.ids.trans h.ids, fun j hj => (h'.ports j hj).trans (h.ports j hj)⟩

omit [DecidableEq π] in
lemma frame_setGroup {i : ℕ} {pg : PortgroupPorts π}
    (h : i = g ∨ pg.ports = (s.portgroups i).ports) : Frame g s (s.setGroup i pg) := by
  refine ⟨rfl, fun j hj => ?_⟩
  by_cases hji : j = i
  · subst hji
    rcases h with rfl | h
    · exact absurd rfl hj
    · simp [TeardownState.setGroup, h]
  · simp [TeardownState.setGroup, hji]

lemma bringPortDownLoop_frame {n i : ℕ} {rx tx : Bool}
    (hdown : s.bringPortDownLoop cnt fails port n i rx tx = .ok (o, s')) : Frame g s s' := by
  induction n generalizing i rx tx s with
  | zero =>
      obtain ⟨-, rfl⟩ := Prod.mk.inj (Except.ok.inj hdown)
      exact .refl g s
  | succ n ih =>
      rw [TeardownState.bringPortDownLoop] at hdown
      by_cases hi : i ∈ s.ids
      · rw [lookup_of_mem hi] at hdown
        have hstop : Frame g s (s.setGroup i ((s.portgroups i).stop port)) :=
          frame_setGroup (.inr rfl)
        simp only at hdown
        split_ifs at hdown
        · obtain ⟨-, rfl⟩ := Prod.mk.inj (Except.ok.inj hdown)
          exact hstop
        · obtain ⟨-, rfl⟩ := Prod.mk.inj (Except.ok.inj hdown)
          exact hstop
        · exact hstop.trans (ih hdown)
        · exact ih hdown
      · rw [lookup_of_notMem hi] at hdown
        exact absurd hdown (by simp)

lemma removePortFromGroup_frame (hg : g ∈ s.ids)
    (hremove : s.removePortFromGroup cnt fails g port = .ok (o, s')) : Frame g s s' := by
  rw [TeardownState.removePortFromGroup, lookup_of_mem hg] at hremove
  simp only at hremove
  split_ifs at hremove
  · cases hdown : s.bringPortDown cnt fails port with
    | error fault => simp [hdown] at hremove
    | ok p =>
        simp only [hdown] at hremove
        obtain ⟨-, rfl⟩ := Prod.mk.inj (Except.ok.inj hremove)
        exact (bringPortDownLoop_frame hdown).trans (frame_setGroup (.inl rfl))
  · obtain ⟨-, rfl⟩ := Prod.mk.inj (Except.ok.inj hremove)
    exact .refl g s

lemma deletePorts_frame (hg : g ∈ s.ids) (hdelete : s.deletePorts cnt fails g fuel = .ok s') :
    Frame g s s' := by
  induction fuel generalizing s with
  | zero => exact absurd hdelete (by simp [TeardownState.deletePorts])
  | succ fuel ih =>
      rw [TeardownState.deletePorts] at hdelete
      cases hports : (s.portgroups g).ports with
      | nil =>
          simp only [hports, Except.ok.injEq] at hdelete
          exact hdelete ▸ .refl g s
      | cons port ports =>
          cases hremove : s.removePortFromGroup cnt fails g port with
          | error fault => simp [hports, hremove] at hdelete
          | ok p =>
              simp only [hports, hremove] at hdelete
              have hframe : Frame g s p.2 := removePortFromGroup_frame hg hremove
              exact hframe.trans (ih (hframe.ids ▸ hg) hdelete)

/-- A group that is deleted is not in the map any more, and the ports of the others are there. -/
lemma deleteGroup_frame (hg : g ∈ s.ids)
    (hdelete : s.deleteGroup cnt fails fuel g = .ok (o, s')) :
    s.locked = false ∧ s'.ids = s.ids.filter (· ≠ g) ∧
      ∀ j ≠ g, (s'.portgroups j).ports = (s.portgroups j).ports := by
  rw [TeardownState.deleteGroup, lookup_of_mem hg] at hdelete
  cases hlocked : s.locked with
  | true => simp [hlocked] at hdelete
  | false =>
      cases hports : s.deletePorts cnt fails g fuel with
      | error fault => simp [hlocked, hports] at hdelete
      | ok s₁ =>
          simp only [hlocked, hports] at hdelete
          obtain ⟨-, rfl⟩ := Prod.mk.inj (Except.ok.inj hdelete)
          have hframe : Frame g s s₁ := deletePorts_frame hg hports
          refine ⟨rfl, ?_, hframe.ports⟩
          rw [TeardownState.eraseGroup, hframe.ids]

/-! ## Deleting all of them -/

/-- Without the group `0`, only groups without ports are deleted. -/
lemma ports_eq_nil_of_deleteGroups {gs : List ℕ} (hzero : 0 ∉ s.ids)
    (hdelete : s.deleteGroups cnt fails fuel gs = .ok s') :
    ∀ g ∈ gs, (s.portgroups g).ports = [] := by
  induction gs generalizing s with
  | nil => simp
  | cons i is ih =>
      rw [TeardownState.deleteGroups] at hdelete
      by_cases hi : i ∈ s.ids
      · cases hfirst : s.deleteGroup cnt fails fuel i with
        | error fault => simp [lookup_of_mem hi, hfirst] at hdelete
        | ok p =>
            simp only [lookup_of_mem hi, hfirst] at hdelete
            obtain ⟨-, hids, hframe⟩ := deleteGroup_frame hi hfirst
            have hempty := (ports_eq_nil_of_deleteGroup hzero hi hfirst).2
            have hrest := ih (by simp [hids, hzero]) hdelete
            intro g hg
            by_cases hgi : g = i
            · rw [hgi, hempty]
            · rw [← hframe g hgi]
              exact hrest g ((List.mem_cons.1 hg).resolve_left hgi)
      · rw [lookup_of_notMem hi] at hdelete
        exact absurd hdelete (by simp)

/-- The groups are erased one after the other. -/
def TeardownState.eraseGroups (gs : List ℕ) (s : TeardownState π) : TeardownState π :=
  gs.foldl (fun s g => s.eraseGroup g) s

omit [DecidableEq π] in
lemma eraseGroups_eq (gs : List ℕ) (s : TeardownState π) :
    (s.eraseGroups gs).ids = s.ids.filter (· ∉ gs) ∧
      (s.eraseGroups gs).nulls = s.nulls.filter (· ∉ gs) ∧
      (s.eraseGroups gs).num_of_groups = s.num_of_groups - gs.length ∧
      (s.eraseGroups gs).portgroups = s.portgroups := by
  induction gs generalizing s with
  | nil => simp [TeardownState.eraseGroups]
  | cons g gs ih =>
      obtain ⟨hids, hnulls, hnum, hgroups⟩ := ih (s.eraseGroup g)
      refine ⟨hids.trans ?_, hnulls.trans ?_, hnum.trans ?_, hgroups⟩
      · rw [TeardownState.eraseGroup, List.filter_filter]
        simp [Bool.and_comm]
      · rw [TeardownState.eraseGroup, List.filter_filter]
        simp [Bool.and_comm]
      · show s.num_of_groups - 1 - gs.length = s.num_of_groups - (gs.length + 1)
        omega

/-- Groups without ports are deleted one after the other. -/
lemma deleteGroups_of_empty {gs : List ℕ} (hnodup : gs.Nodup) (hlocked : s.locked = false)
    (hgs : ∀ g ∈ gs, g ∈ s.ids ∧ (s.portgroups g).ports = []) :
    s.deleteGroups cnt fails (fuel + 1) gs = .ok (s.eraseGroups gs) := by
  induction gs generalizing s with
  | nil => rfl
  | cons i is ih =>
      obtain ⟨hi, hempty⟩ := hgs i List.mem_cons_self
      obtain ⟨hnotMem, hnodup⟩ := List.nodup_cons.1 hnodup
      have hrest : ∀ g ∈ is, g ∈ (s.eraseGroup i).ids ∧
          ((s.eraseGroup i).portgroups g).ports = [] := by
        intro g hg
        obtain ⟨hids, hports⟩ := hgs g (List.mem_cons_of_mem i hg)
        have hne : g ≠ i := by
          rintro rfl
          exact hnotMem hg
        exact ⟨by simp [TeardownState.eraseGroup, hids, hne], hports⟩
      rw [TeardownState.deleteGroups, lookup_of_mem hi]
      simp only [deleteGroup_of_empty hlocked hi hempty]
      exact ih hnodup hlocked hrest

lemma deleteGroups_append (gs hs : List ℕ) :
    s.deleteGroups cnt fails fuel (gs ++ hs) =
      match s.deleteGroups cnt fails fuel gs with
      | .error fault => .error fault
      | .ok s => s.deleteGroups cnt fails fuel hs := by
  induction gs generalizing s with
  | nil => rfl
  | cons i is ih =>
      rw [List.cons_append, TeardownState.deleteGroups, TeardownState.deleteGroups]
      by_cases hi : i ∈ s.ids
      · simp only [lookup_of_mem hi]
        cases s.deleteGroup cnt fails fuel i with
        | error fault => rfl
        | ok p => exact ih
      · simp only [lookup_of_notMem hi]

lemma destroy_eq (s : ManagerState π) :
    destroy cnt fails fuel s =
      (s.intact cnt).deleteGroups cnt fails fuel (List.range cnt.size) := by
  rw [destroy, TeardownState.deleteAllGroups, GroupCounts.size, List.range_add, deleteGroups_append]

/-! ## After any run -/

/-- Without ports, all groups are deleted. -/
lemma tearsDown_of_empty {s : ManagerState π} (h : GroupsInv cnt s) (hlocked : s.locked = false)
    (hempty : ∀ g, (s.portgroups g).ports = []) : TearsDown cnt fails s := by
  have hgs : ∀ g ∈ List.range cnt.size,
      g ∈ (s.intact cnt).ids ∧ ((s.intact cnt).portgroups g).ports = [] :=
    fun g hg => ⟨hg, hempty g⟩
  obtain ⟨hids, hnulls, hnum, hgroups⟩ := eraseGroups_eq (List.range cnt.size) (s.intact cnt)
  refine ⟨1, (s.intact cnt).eraseGroups (List.range cnt.size), ?_, ?_, hnulls, ?_, ?_⟩
  · rw [destroy_eq]
    exact deleteGroups_of_empty List.nodup_range hlocked hgs
  · rw [hids]
    simp [ManagerState.intact]
  · rw [hnum]
    simp [ManagerState.intact]
  · intro g
    rw [hgroups]
    have hrunning := (h.ok g).running
    rw [hempty g] at hrunning
    exact List.subset_nil.1 hrunning

/-- A group for transmission with a port is not deleted: the group `0` goes first. -/
lemma ports_eq_nil_of_destroy {s : ManagerState π} {s' : TeardownState π}
    (hdestroy : destroy cnt fails fuel s = .ok s') :
    s.locked = false ∧
      ∀ g, cnt.num_of_rx_groups ≤ g → g < cnt.size → (s.portgroups g).ports = [] := by
  obtain ⟨n, hn⟩ : ∃ n, cnt.size = n + 1 := by
    have := cnt.rx_pos
    exact ⟨cnt.size - 1, by rw [GroupCounts.size]; omega⟩
  have hzero : 0 ∈ (s.intact cnt).ids := List.mem_range.2 (by omega)
  rw [destroy_eq, hn, List.range_succ_eq_map, TeardownState.deleteGroups,
    lookup_of_mem hzero] at hdestroy
  cases hfirst : (s.intact cnt).deleteGroup cnt fails fuel 0 with
  | error fault => simp [hfirst] at hdestroy
  | ok p =>
      simp only [hfirst] at hdestroy
      obtain ⟨hlocked, hids, hframe⟩ := deleteGroup_frame hzero hfirst
      have hempty := ports_eq_nil_of_deleteGroups (by simp [hids]) hdestroy
      refine ⟨hlocked, fun g hle hlt => ?_⟩
      have hpos : 0 < g := Nat.lt_of_lt_of_le cnt.rx_pos hle
      have hmem : g ∈ (List.range n).map Nat.succ :=
        List.mem_map.2 ⟨g - 1, List.mem_range.2 (by omega), by omega⟩
      have hsame : (p.2.portgroups g).ports = (s.portgroups g).ports := hframe g (by omega)
      rw [← hsame]
      exact hempty g hmem

/-- **Tearing the manager down.**  After any run of the four operations, and whatever fails in them,
`destroy` deletes all groups, stopped, and without a lookup of one that is gone, if and only if no
call has kept the mutex and every port has been removed before. -/
theorem destroy_tearsDown_iff (cnt : GroupCounts) (fails : InternalCall → Bool)
    {calls : List (PortCall π)} {s : ManagerState π}
    (hrun : Run (portStep cnt) anyStep .init calls s) :
    TearsDown cnt fails s ↔ s.locked = false ∧ ∀ g, (s.portgroups g).ports = [] := by
  have hinv : GroupsInv cnt s :=
    hrun.invariant (fun _ _ _ h _ hstep => h.portStep hstep) (groupsInv_init cnt)
  constructor
  · rintro ⟨fuel, s', hdestroy, -⟩
    obtain ⟨hlocked, hempty⟩ := ports_eq_nil_of_destroy hdestroy
    refine ⟨hlocked, fun g => List.eq_nil_iff_forall_not_mem.2 fun port hport => ?_⟩
    obtain ⟨t, hle, hlt, ht⟩ := hinv.exists_tx hlocked hport
    rw [hempty t hle hlt] at ht
    exact absurd ht List.not_mem_nil
  · rintro ⟨hlocked, hempty⟩
    exact tearsDown_of_empty hinv hlocked hempty

end Deletion

/-- Two groups of either type, as in the default configuration. -/
def twoOfEither : GroupCounts :=
  ⟨2, 2, Nat.two_pos, Nat.two_pos⟩

/-- A port is added, brought up and removed. -/
def addedUpRemoved : List (PortCall ℕ) :=
  [⟨.addPort 3, fun _ => false⟩, ⟨.bringPortUp 3, fun _ => false⟩,
    ⟨.removePort 3, fun _ => false⟩]

theorem tearsDown_of_addedUpRemoved : ∃ s : ManagerState ℕ,
    exec (portStep twoOfEither) .init addedUpRemoved = some s ∧
      TearsDown twoOfEither (fun _ => false) s := by
  refine ⟨_, rfl, (destroy_tearsDown_iff twoOfEither _
    (run_of_exec (rfl : exec _ _ addedUpRemoved = some _))).2 ⟨rfl, fun g => ?_⟩⟩
  rcases g with _ | _ | _ | g
  · rfl
  · rfl
  · rfl
  · rfl

/-- With one port left, `destroy` dereferences the `NULL` that its lookup of the first group has put
into the map. -/
theorem not_tearsDown_of_port : ∃ s : ManagerState ℕ,
    Run (portStep twoOfEither) anyStep .init [⟨.addPort 3, fun _ => false⟩] s ∧
      destroy twoOfEither (fun _ => false) 2 s = .error (.nullGroup 0) ∧
      ¬ TearsDown twoOfEither (fun _ => false) s := by
  refine ⟨_, run_of_exec rfl, rfl, ?_⟩
  rintro ⟨fuel, s', hdestroy, -⟩
  obtain ⟨-, hempty⟩ := ports_eq_nil_of_destroy hdestroy
  exact List.cons_ne_nil 3 [] (hempty 2 (Nat.le_refl 2) (by decide))

end Xdpd.Io
