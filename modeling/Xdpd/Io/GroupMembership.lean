import Mathlib.Logic.ExistsUnique
import Xdpd.Io.PortGroups

/-!
# The ports of the groups

For the driver the manager of the groups is a set of ports, those that are in groups: `add_port`
adds one, `remove_port` takes one away, and to bring a port up or down leaves the set as it is.  As
long as the calls succeed, this is all that there is to know, and each port of the set is in one
group for reception and in one for transmission.
-/

namespace Xdpd.Io

open Xdpd.Util

variable {π : Type*}

/-- The port is in some group. -/
def ManagerState.Member (s : ManagerState π) (port : π) : Prop :=
  ∃ g, port ∈ (s.portgroups g).ports

/-- The port is in one group for reception and in one for transmission. -/
def ManagerState.InGroups (cnt : GroupCounts) (s : ManagerState π) (port : π) : Prop :=
  (∃! g, cnt.type g = .rx ∧ port ∈ (s.portgroups g).ports) ∧
    ∃! g, cnt.type g = .tx ∧ port ∈ (s.portgroups g).ports

/-- The manager between two calls, none of which has failed half way. -/
structure Ready (cnt : GroupCounts) (s : ManagerState π) : Prop extends PortsInv cnt s where
  unlocked : s.locked = false

variable {cnt : GroupCounts} {s : ManagerState π} {port : π} {fails : InternalCall → Bool}

lemma ready_init (cnt : GroupCounts) : Ready cnt (ManagerState.init : ManagerState π) :=
  ⟨portsInv_init cnt, rfl⟩

lemma not_member_init : ¬ (ManagerState.init : ManagerState π).Member port :=
  fun ⟨_, hg⟩ => absurd hg List.not_mem_nil

lemma Ready.inGroups_iff (h : Ready cnt s) : s.InGroups cnt port ↔ s.Member port := by
  constructor
  · rintro ⟨⟨g, ⟨-, hg⟩, -⟩, -⟩
    exact ⟨g, hg⟩
  · intro hmem
    rcases h.groupsOf h.unlocked port with hnone | ⟨r, t, hgroups⟩
    · obtain ⟨g, hg⟩ := hmem
      exact absurd hg (hnone g)
    · refine ⟨⟨r, ⟨hgroups.type_rx, hgroups.mem_rx⟩, ?_⟩, t, ⟨hgroups.type_tx, hgroups.mem_tx⟩, ?_⟩
      · rintro g ⟨htype, hg⟩
        exact h.unique g r port hg hgroups.mem_rx (htype.trans hgroups.type_rx.symm)
      · rintro g ⟨htype, hg⟩
        exact h.unique g t port hg hgroups.mem_tx (htype.trans hgroups.type_tx.symm)

section Operations

variable [DecidableEq π]

omit [DecidableEq π] in
lemma member_insert {g : ℕ} {q : π} :
    (s.setGroup g ((s.portgroups g).insert port)).Member q ↔ q = port ∨ s.Member q := by
  have hinsert : q ∈ ((s.portgroups g).insert port).ports ↔
      q ∈ (s.portgroups g).ports ∨ q = port := by
    simp [PortgroupPorts.insert]
  constructor
  · rintro ⟨g', hg'⟩
    by_cases hne : g' = g
    · rw [hne, setGroup_self, hinsert] at hg'
      exact hg'.elim (fun hg => .inr ⟨g, hg⟩) .inl
    · rw [setGroup_of_ne hne] at hg'
      exact .inr ⟨g', hg'⟩
  · rintro (hq | ⟨g', hg'⟩)
    · refine ⟨g, ?_⟩
      rw [setGroup_self, hinsert]
      exact .inr hq
    · refine ⟨g', ?_⟩
      by_cases hne : g' = g
      · rw [hne] at hg' ⊢
        rw [setGroup_self, hinsert]
        exact .inl hg'
      · rwa [setGroup_of_ne hne]

/-- `add_port` succeeds for a port that is in no group. -/
lemma Ready.addPort (h : Ready cnt s) (hs : (addPort cnt fails port s).1 = .success) :
    ¬ s.Member port ∧ Ready cnt (Io.addPort cnt fails port s).2 ∧
      ∀ q, (Io.addPort cnt fails port s).2.Member q ↔ q = port ∨ s.Member q := by
  have hinv : PortsInv cnt (Io.addPort cnt fails port s).2 := addPort_inv h.toPortsInv h.unlocked
  have hrx : cnt.type s.next_rx_sched_grp_id = .rx := type_eq_rx_iff.2 h.rxSched
  have htx : cnt.type (s.next_tx_sched_grp_id + cnt.num_of_rx_groups) = .tx :=
    type_eq_tx_iff.2 (Nat.le_add_left _ _)
  rcases h.groupsOf h.unlocked port with hnone | ⟨r, t, hgroups⟩
  · have hfirst : addPortToGroup cnt fails s.next_rx_sched_grp_id port (s.rxSched cnt) = _ :=
      addPortToGroup_of_notMem fun i _ => hnone i
    split_ifs at hfirst with hpush
    · rw [addPort_of_ne hfirst nofun] at hs
      exact absurd hs nofun
    · set s₁ := (s.rxSched cnt).setGroup s.next_rx_sched_grp_id
        ((s.portgroups s.next_rx_sched_grp_id).insert port)
      have hnone₁ : ∀ i, cnt.type i = cnt.type (s.next_tx_sched_grp_id + cnt.num_of_rx_groups) →
          port ∉ (s₁.portgroups i).ports := by
        intro i htype
        have hne : i ≠ s.next_rx_sched_grp_id := by
          rintro rfl
          rw [hrx, htx] at htype
          exact absurd htype (by decide)
        rw [setGroup_of_ne hne]
        exact hnone i
      have heq := (addPort_of_success hfirst).trans
        (addPortToGroup_of_notMem (s := s₁.txSched cnt) hnone₁)
      rw [heq] at hs hinv ⊢
      split_ifs at hs hinv ⊢
      refine ⟨fun ⟨g, hg⟩ => hnone g hg, ⟨hinv, h.unlocked⟩, fun q => ?_⟩
      have hsecond : s₁.Member q ↔ q = port ∨ s.Member q := member_insert (s := s.rxSched cnt)
      change ManagerState.Member ((s₁.txSched cnt).setGroup _
        (((s₁.txSched cnt).portgroups _).insert port)) q ↔ _
      rw [member_insert]
      change q = port ∨ s₁.Member q ↔ _
      rw [hsecond]
      exact ⟨fun hq => hq.elim .inl id, .inr⟩
  · have hmem : ∃ i < cnt.size, port ∈ (s.portgroups i).ports ∧
        cnt.type i = cnt.type s.next_rx_sched_grp_id :=
      ⟨r, h.bounded r port hgroups.mem_rx, hgroups.mem_rx, hgroups.type_rx.trans hrx.symm⟩
    rw [addPort_of_ne (if_pos hmem) nofun] at hs
    exact absurd hs nofun

/-- To bring a port down leaves it in its groups. -/
lemma Ready.bringPortDown (h : Ready cnt s) (fails : InternalCall → Bool) (port : π) :
    Ready cnt (bringPortDown cnt fails port s).2 ∧
      ∀ q, (Io.bringPortDown cnt fails port s).2.Member q ↔ s.Member q := by
  obtain ⟨hinv, hlocked, -, hports⟩ := bringPortDown_spec fails port h.toPortsInv h.unlocked
  refine ⟨⟨hinv, hlocked⟩, fun q => exists_congr fun g => ?_⟩
  rw [hports g]

lemma member_remove_of_ne {g : ℕ} {q : π} (hok : (s.portgroups g).Ok) (hq : q ≠ port) :
    (s.setGroup g ((s.portgroups g).remove port)).Member q ↔ s.Member q := by
  refine exists_congr fun g' => ?_
  by_cases hne : g' = g
  · rw [hne, setGroup_self, PortgroupPorts.remove, SafeVector.erase_eq hok.once]
    exact List.mem_erase_of_ne hq
  · rw [setGroup_of_ne hne]

/-- `remove_port` takes the port away, and succeeds if the port was there. -/
lemma Ready.removePort (h : Ready cnt s) (fails : InternalCall → Bool) (port : π) :
    ((removePort cnt fails port s).1 = .success ↔ s.Member port) ∧
      Ready cnt (Io.removePort cnt fails port s).2 ∧
        ∀ q, (Io.removePort cnt fails port s).2.Member q ↔ q ≠ port ∧ s.Member q := by
  have hinv := removePort_inv h.toPortsInv h.unlocked fails port
  rcases h.groupsOf h.unlocked port with hnone | ⟨r, t, hgroups⟩
  · have hnot : ¬ s.Member port := not_exists.mpr hnone
    have heq : Io.removePort cnt fails port s = (.failure, s) := by
      rw [Io.removePort, getGroupIdByPort_of_notMem hnone]
    rw [heq]
    refine ⟨iff_of_false (by simp) hnot, h, fun q => ⟨fun hq => ⟨?_, hq⟩, And.right⟩⟩
    rintro rfl
    exact hnot hq
  · obtain ⟨hdown, hsame⟩ := h.bringPortDown fails port
    obtain ⟨-, -, -, hports⟩ := bringPortDown_spec fails port h.toPortsInv h.unlocked
    rw [removePort_eq h.toPortsInv h.unlocked hgroups] at hinv ⊢
    set s₁ := (Io.bringPortDown cnt fails port s).2
    have hne : t ≠ r := Nat.ne_of_gt (rx_lt_tx hgroups.type_rx hgroups.type_tx)
    refine ⟨iff_of_true rfl ⟨r, hgroups.mem_rx⟩, ⟨hinv, hdown.unlocked⟩, fun q => ?_⟩
    set s₂ := s₁.setGroup r ((s₁.portgroups r).remove port)
    have hsecond : s₂.portgroups t = s₁.portgroups t := setGroup_of_ne hne
    by_cases hq : q = port
    · refine iff_of_false ?_ fun hq' => hq'.1 hq
      rintro ⟨g, hg⟩
      rw [hq] at hg
      by_cases hgt : g = t
      · rw [hgt, setGroup_self] at hg
        exact (hdown.ok t).notMem_remove hg
      · rw [setGroup_of_ne hgt] at hg
        by_cases hgr : g = r
        · rw [hgr, setGroup_self] at hg
          exact (hdown.ok r).notMem_remove hg
        · rw [setGroup_of_ne hgr, hports g] at hg
          rcases hgroups.only h.toPortsInv hg with rfl | rfl
          · exact hgr rfl
          · exact hgt rfl
    · have hok : (s₂.portgroups t).Ok := by
        rw [hsecond]
        exact hdown.ok t
      rw [← hsecond, member_remove_of_ne hok hq, member_remove_of_ne (hdown.ok r) hq, hsame]
      exact ⟨fun hmem => ⟨hq, hmem⟩, And.right⟩

/-- A `bring_port_up` that succeeds has not been left half way. -/
lemma Ready.notHalfUp (h : Ready cnt s) (hs : (bringPortUp cnt fails port s).1 = .success) :
    NotHalfUp cnt s ⟨.bringPortUp port, fails⟩ := by
  rintro r - t - ⟨hrx, htx, hrport, htport, hrun, hportUp, hpushRx⟩
  change fails .portUp = false at hportUp
  change fails (.pushRunning r) = false at hpushRx
  have hgroups : GroupsOf cnt s port r t := ⟨hrx, htx, hrport, htport⟩
  have hcreate : (s.portgroups r).running_ports = [] → fails (.createThread r) = false := by
    intro hempty
    by_contra hfails
    rw [Bool.not_eq_false] at hfails
    obtain ⟨d, e, -, heq⟩ := bringPortUp_eq_rx fails h.toPortsInv hgroups
    rw [heq, bringPortUpLoop, if_pos hrport, if_neg hrun, if_neg (by simp [hportUp, hpushRx]),
      if_pos ⟨hempty, hfails⟩] at hs
    cases hs
  refine ⟨hcreate, ?_⟩
  by_contra hpush
  rw [Bool.not_eq_false] at hpush
  obtain ⟨e, heq⟩ := bringPortUp_eq_tx h.toPortsInv hgroups hrun hportUp hpushRx hcreate
  have hnext : (s.setGroup r ((s.portgroups r).start port)).portgroups t = s.portgroups t :=
    setGroup_of_ne (Nat.ne_of_gt (rx_lt_tx hrx htx))
  have hrunTx : port ∉ (s.portgroups t).running_ports :=
    (hgroups.running_iff h.toPortsInv).not.1 hrun
  rw [← hnext] at htport hrunTx
  rw [heq, bringPortUpLoop, if_pos htport, if_neg hrunTx, if_pos (.inr hpush)] at hs
  cases hs

lemma unlocked_and_ports_bringPortUpLoop {n i : ℕ} {rx tx : Bool}
    (hs : (bringPortUpLoop cnt fails port n i rx tx s).1 = .success) :
    (bringPortUpLoop cnt fails port n i rx tx s).2.locked = s.locked ∧
      ∀ g, ((bringPortUpLoop cnt fails port n i rx tx s).2.portgroups g).ports =
        (s.portgroups g).ports := by
  induction n generalizing i rx tx s with
  | zero => exact absurd hs nofun
  | succ n ih =>
      have hstart : ∀ g, (((s.setGroup i ((s.portgroups i).start port)).portgroups g).ports =
          (s.portgroups g).ports) := by
        intro g
        by_cases hne : g = i
        · rw [hne, setGroup_self]
          rfl
        · rw [setGroup_of_ne hne]
      rw [bringPortUpLoop] at hs ⊢
      dsimp only at hs ⊢
      split_ifs at hs ⊢
      · exact ⟨rfl, fun g => rfl⟩
      · exact ⟨rfl, hstart⟩
      · obtain ⟨hlocked, hports⟩ := ih hs
        exact ⟨hlocked, fun g => (hports g).trans (hstart g)⟩
      · exact ih hs

/-- To bring a port up, with success, leaves it in its groups. -/
lemma Ready.bringPortUp (h : Ready cnt s) (hs : (bringPortUp cnt fails port s).1 = .success) :
    Ready cnt (Io.bringPortUp cnt fails port s).2 ∧
      ∀ q, (Io.bringPortUp cnt fails port s).2.Member q ↔ s.Member q := by
  obtain ⟨hlocked, hports⟩ := unlocked_and_ports_bringPortUpLoop hs
  refine ⟨⟨bringPortUp_inv h.toPortsInv h.unlocked (h.notHalfUp hs), hlocked.trans h.unlocked⟩, ?_⟩
  intro q
  refine exists_congr fun g => ?_
  rw [Io.bringPortUp, hports g]

end Operations

end Xdpd.Io
