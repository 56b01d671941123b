import Xdpd.Io.PktinAccounting

/-!
# What a call of `process_packet_ins` takes

A call reads `BUCKETS_PER_LS` times from each queue in each of its rounds, or finds it empty: as
often as a queue has slots.  So whatever other threads do meanwhile, a packet-in that was queued
when the call began is not queued any more when it is over.  Such a packet-in need not have a byte
in the pipe: when it has none the call comes when `epoll_wait` times out.
-/

namespace Xdpd.Io.Pktin

open Xdpd.Lib

variable {π τ : Type}

variable {cfg : Config} {s s' : State π τ} {owed : ℕ → ℕ}

/-- How many of the packet-ins that were queued when the call began are still queued, at the front
of each queue. -/
def Owed.record (s : State π τ) (a : Action π τ) (owed : ℕ → ℕ) : ℕ → ℕ :=
  match a with
  | .run t =>
      match s.pc t with
      | .drainRead r => Function.update owed r (owed r - 1)
      | .remove r => Function.update owed r 0
      | _ => owed
  | .epollWait netlink =>
      if 0 < s.shared.unread ∨ netlink = false then fun r => (s.shared.queue r).length else owed
  | .processPacketIns =>
      match s.shared.point with
      | .take _ r i => if i < BUCKETS_PER_LS then Function.update owed r (owed r - 1) else owed
      | _ => owed
  | _ => owed

/-- How often the call has read from the queue at a place, unless it has found it empty. -/
def Point.turns : Point → ℕ → ℕ
  | wait, _ => BUCKETS_PER_LS * (ITERATIONS_PER_ROUND * ITERATIONS_PER_ROUND)
  | head k r, r' => if r' < r then BUCKETS_PER_LS * (k + 1) else BUCKETS_PER_LS * k
  | take k r i, r' =>
      if r' < r then BUCKETS_PER_LS * (k + 1)
      else if r' = r then BUCKETS_PER_LS * k + i
      else BUCKETS_PER_LS * k
  | empty k r _, r' => if r' ≤ r then BUCKETS_PER_LS * (k + 1) else BUCKETS_PER_LS * k

/-- Either none of the packet-ins is left, or each read has taken one. -/
structure Owing (cfg : Config) (s : Dispatcher π) (owed : ℕ → ℕ) : Prop where
  places : ∀ r, cfg.maxSwitches ≤ r → s.logicalSwitches r = none
  length_lt : ∀ r, (s.queue r).length < LSI_PKT_IN_QUEUE_SLOTS
  owed_le : ∀ r, owed r ≤ (s.queue r).length
  taken : ∀ r, owed r = 0 ∨ owed r + s.point.turns r < LSI_PKT_IN_QUEUE_SLOTS

lemma slots_pos : 0 < LSI_PKT_IN_QUEUE_SLOTS := by decide

namespace Owing

variable {d : Dispatcher π}

/-- The background thread goes on. -/
lemma goto (h : Owing cfg d owed) {point : Point}
    (hturns : ∀ r, owed r = 0 ∨ point.turns r ≤ d.point.turns r) :
    Owing cfg { d with point := point } owed where
  places := h.places
  length_lt := h.length_lt
  owed_le := h.owed_le
  taken r := by
    rcases hturns r with hzero | hle
    · exact .inl hzero
    · refine (h.taken r).imp_right fun hlt => ?_
      dsimp only
      omega

/-- The queue at a place changes, and the packet-ins that are left of those at its front. -/
lemma setSwitch (h : Owing cfg d owed) {r n : ℕ} {sw : Option (List π)} (point : Point)
    (hr : r < cfg.maxSwitches ∨ sw = none) (hlen : (sw.getD []).length < LSI_PKT_IN_QUEUE_SLOTS)
    (hn : n ≤ (sw.getD []).length) (hself : n = 0 ∨ n + point.turns r < LSI_PKT_IN_QUEUE_SLOTS)
    (hother : ∀ r', r' ≠ r → point.turns r' = d.point.turns r') :
    Owing cfg { d.setSwitch r sw with point := point } (Function.update owed r n) := by
  have hqueue : ∀ r', ({ d.setSwitch r sw with point := point } : Dispatcher π).queue r' =
      (d.setSwitch r sw).queue r' := fun _ => rfl
  refine ⟨places_setSwitch h.places hr, fun r' => ?_, fun r' => ?_, fun r' => ?_⟩
  · rw [hqueue]
    by_cases heq : r' = r
    · rw [heq, queue_setSwitch_self]
      exact hlen
    · rw [queue_setSwitch_of_ne d sw heq]
      exact h.length_lt r'
  · rw [hqueue]
    by_cases heq : r' = r
    · rw [heq, queue_setSwitch_self, Function.update_self]
      exact hn
    · rw [queue_setSwitch_of_ne d sw heq, Function.update_of_ne heq]
      exact h.owed_le r'
  · by_cases heq : r' = r
    · rw [heq, Function.update_self]
      exact hself
    · rw [Function.update_of_ne heq]
      dsimp only
      rw [hother r' heq]
      exact h.taken r'

/-- A packet-in is taken out when the switch is destroyed. -/
lemma drainRead (h : Owing cfg d owed) {r : ℕ} {pkt : π} {q : List π}
    (hq : d.queue r = pkt :: q) :
    Owing cfg (d.setSwitch r (some q)) (Function.update owed r (owed r - 1)) := by
  have hlen := h.length_lt r
  have hle := h.owed_le r
  rw [hq, List.length_cons] at hlen hle
  refine h.setSwitch d.point (.inl (lt_of_queue_eq_cons h.places hq))
    (Nat.lt_of_succ_lt hlen) (Nat.sub_le_of_le_add hle) ?_ fun _ _ => rfl
  refine (h.taken r).imp ?_ ?_
  · intro hzero
    rw [hzero]
  · intro hlt
    omega

/-- A place that has nothing queued owes nothing. -/
lemma update_pred (h : Owing cfg d owed) {r : ℕ} (hq : d.queue r = []) :
    Function.update owed r (owed r - 1) = owed ∧ owed r = 0 := by
  have hle := h.owed_le r
  rw [hq] at hle
  have hzero : owed r = 0 := Nat.le_zero.mp hle
  exact ⟨Function.update_eq_self_iff.mpr (by rw [hzero]), hzero⟩

/-- A step of the call. -/
lemma processPacketIns (h : Owing cfg s.shared owed) {sh : Dispatcher π}
    (hs : processPacketIns cfg s.shared = some sh) :
    Owing cfg sh (Owed.record s (.processPacketIns : Action π τ) owed) := by
  unfold Pktin.processPacketIns at hs
  unfold Owed.record
  split at hs
  · exact absurd hs nofun
  · next k r hpoint =>
    simp only [hpoint]
    split at hs
    · split at hs <;> cases hs
      · refine h.goto fun r' => .inr ?_
        rw [hpoint]
        simp only [Point.turns]
        split_ifs <;> omega
      · next hnone =>
        refine h.goto fun r' => ?_
        by_cases heq : r' = r
        · rw [heq]
          exact .inl (h.update_pred (queue_of_none hnone)).2
        · refine .inr ?_
          rw [hpoint]
          simp only [Point.turns]
          split_ifs <;> omega
    · next hend =>
      -- the places from here on do not exist
      have hrest : ∀ r', ¬ r' < r → owed r' = 0 := fun r' hr' =>
        (h.update_pred (queue_of_none (h.places r' (by omega)))).2
      split at hs <;> cases hs
      · refine h.goto fun r' => (em (r' < r)).symm.imp (hrest r') fun hlt => ?_
        rw [hpoint]
        simp only [Point.turns, if_pos hlt, Nat.not_lt_zero, if_false]
        exact le_rfl
      · next hlast =>
        refine h.goto fun r' => (em (r' < r)).symm.imp (hrest r') fun hlt => ?_
        rw [hpoint]
        simp only [Point.turns, if_pos hlt]
        exact Nat.mul_le_mul_left _ (Nat.le_of_not_lt hlast)
  · next k r i hpoint =>
    simp only [hpoint]
    split at hs
    · next hlt =>
      rw [if_pos hlt]
      split at hs <;> cases hs
      · next hq =>
        obtain ⟨hsame, hzero⟩ := h.update_pred hq
        rw [hsame]
        refine h.goto fun r' => ?_
        by_cases heq : r' = r
        · exact .inl (heq ▸ hzero)
        · refine .inr ?_
          rw [hpoint]
          simp only [Point.turns]
          split_ifs <;> omega
      · next pkt q hq =>
        have hlen := h.length_lt r
        have hle := h.owed_le r
        have htaken := h.taken r
        rw [hq, List.length_cons] at hlen hle
        rw [hpoint] at htaken
        refine h.setSwitch (.take k r (i + 1)) (.inl (lt_of_queue_eq_cons h.places hq))
          (Nat.lt_of_succ_lt hlen) (Nat.sub_le_of_le_add hle) ?_ fun r' hne => ?_
        · rcases Nat.eq_zero_or_pos (owed r) with hzero | hpos
          · exact .inl (by rw [hzero])
          · refine .inr ?_
            have hsum := htaken.resolve_left hpos.ne'
            simp only [Point.turns, lt_irrefl, if_false, if_true] at hsum ⊢
            omega
        · rw [hpoint]
          simp only [Point.turns, if_neg hne]
    · next hfull =>
      cases hs
      rw [if_neg hfull]
      refine h.goto fun r' => .inr ?_
      rw [hpoint]
      simp only [Point.turns, Nat.mul_succ]
      split_ifs <;> omega
  · next k r i hpoint =>
    simp only [hpoint]
    cases hs
    have hpoint' : s.shared.point.turns = (Point.head k (r + 1)).turns := by
      rw [hpoint]
      funext r'
      simp only [Point.turns, Nat.lt_succ_iff]
    refine ⟨h.places, h.length_lt, h.owed_le, fun r' => ?_⟩
    have htaken := h.taken r'
    rw [hpoint'] at htaken
    exact htaken

/-- A call begins. -/
lemma epollWait (h : Owing cfg s.shared owed) {netlink : Bool} {sh : Dispatcher π}
    (hs : epollWait netlink s.shared = some sh) :
    Owing cfg sh (Owed.record s (.epollWait netlink : Action π τ) owed) := by
  unfold Pktin.epollWait at hs
  unfold Owed.record
  split at hs
  · dsimp only at hs ⊢
    have hiff : (decide (0 < s.shared.unread) = true ∨
        (decide (0 < s.shared.unread)).toNat + netlink.toNat = 0) ↔
          (0 < s.shared.unread ∨ netlink = false) := by
      cases netlink <;> by_cases hpos : 0 < s.shared.unread <;> simp [hpos]
    rw [if_congr hiff rfl rfl] at hs
    split at hs <;> cases hs
    · next hcall =>
      rw [if_pos hcall]
      refine ⟨h.places, h.length_lt, fun _ => le_rfl, fun r => .inr ?_⟩
      exact h.length_lt r
    · next hcall =>
      rw [if_neg hcall]
      exact h
  · exact absurd hs nofun

/-- The next access of another thread. -/
lemma access (h : Owing cfg s.shared owed) {t : τ} {sh : Dispatcher π} {c : Pc}
    (hs : access cfg t s.shared (s.pc t) = some (sh, c)) :
    Owing cfg sh (Owed.record s (.run t : Action π τ) owed) := by
  unfold Owed.record
  cases hpc : s.pc t with
  | idle =>
      rw [hpc] at hs
      exact absurd hs nofun
  | notify =>
      rw [hpc] at hs
      cases hs
      simp only [hpc, notifyPacketIn]
      split_ifs
      · exact ⟨h.places, h.length_lt, h.owed_le, h.taken⟩
      · exact h
  | drainSize r =>
      rw [hpc] at hs
      simp only [hpc]
      change (if _ then _ else _) = _ at hs
      split at hs <;> cases hs <;> exact h
  | drainRead r =>
      rw [hpc] at hs
      simp only [hpc]
      unfold Pktin.access at hs
      dsimp only at hs
      split at hs <;> cases hs
      · next hq =>
        rw [(h.update_pred hq).1]
        exact h
      · next pkt q hq => exact h.drainRead hq
  | remove r =>
      rw [hpc] at hs
      cases hs
      simp only [hpc]
      exact h.setSwitch s.shared.point (.inr rfl) slots_pos (Nat.zero_le _) (.inl rfl)
        fun _ _ => rfl

variable [DecidableEq τ]

lemma step (h : Owing cfg s.shared owed) {a : Action π τ} (hs : step cfg s a = some s') :
    Owing cfg s'.shared (Owed.record s a owed) := by
  cases a with
  | createSwitch r =>
      change (if _ then _ else _) = _ at hs
      split at hs
      · next hfree =>
        cases hs
        have hzero := (h.update_pred (queue_of_none hfree.2)).2
        have hsame : owed = Function.update owed r 0 :=
          (Function.update_eq_self_iff.mpr hzero.symm).symm
        change Owing cfg _ owed
        rw [hsame]
        exact h.setSwitch s.shared.point (.inl hfree.1) slots_pos (Nat.zero_le _) (.inl rfl)
          fun _ _ => rfl
      · exact absurd hs nofun
  | packetIn t r pkt full =>
      change (if _ then _ else _) = _ at hs
      split at hs
      · next hok =>
        split at hs
        · cases hs
          exact h
        · split at hs
          · next hroom =>
            cases hs
            have hlt : r < cfg.maxSwitches := by
              by_contra hge
              exact hok.2 (h.places r (Nat.le_of_not_lt hge))
            have hlen : (s.shared.queue r ++ [pkt]).length = (s.shared.queue r).length + 1 :=
              List.length_append
            change Owing cfg _ owed
            rw [← Function.update_eq_self r owed]
            refine h.setSwitch s.shared.point (.inl hlt) ?_ ?_ (h.taken r) fun _ _ => rfl
            · exact hlen.trans_lt hroom
            · exact (h.owed_le r).trans (Nat.le_of_lt (hlen ▸ Nat.lt_succ_self _))
          · exact absurd hs nofun
      · exact absurd hs nofun
  | destroySwitch t r =>
      change (if _ then _ else _) = _ at hs
      split at hs
      · cases hs
        exact h
      · exact absurd hs nofun
  | destroyFails t =>
      unfold Pktin.step at hs
      dsimp only at hs
      split at hs
      · cases hs
        exact h
      · exact absurd hs nofun
  | run t =>
      obtain ⟨sh, c, hacc, rfl⟩ := Threads.run_eq_some hs
      exact h.access hacc
  | epollWait netlink =>
      obtain ⟨sh, hsh, rfl⟩ := Option.map_eq_some_iff.mp hs
      exact h.epollWait hsh
  | processPacketIns =>
      obtain ⟨sh, hsh, rfl⟩ := Option.map_eq_some_iff.mp hs
      exact h.processPacketIns hsh

end Owing

variable [DecidableEq τ]

/-- **What a call takes.**  When `process_packet_ins` is over, none of the packet-ins that were
queued when it began is left in a queue, whatever other threads have done meanwhile. -/
theorem taken_of_run {acts : List (Action π τ)}
    (hrun : Run (observe (step cfg) (fun s a owed => Owed.record s a owed)) anyStep
      ((init : State π τ), fun _ => 0) acts (s, owed)) (hwait : s.shared.point = .wait) (r : ℕ) :
    owed r = 0 := by
  have hinit : Owing cfg (init : State π τ).shared fun _ => 0 :=
    ⟨fun _ _ => rfl, fun _ => slots_pos, fun _ => le_rfl, fun _ => .inl rfl⟩
  have hinv : Owing cfg s.shared owed := by
    refine hrun.invariant (fun p a p' (hp : Owing cfg p.1.shared p.2) _ hs => ?_) hinit
    obtain ⟨hs', hrecord⟩ := observe_eq_some hs
    rw [hrecord]
    exact hp.step hs'
  refine (hinv.taken r).resolve_right fun hlt => ?_
  rw [hwait, Point.turns] at hlt
  have hall : LSI_PKT_IN_QUEUE_SLOTS ≤
      BUCKETS_PER_LS * (ITERATIONS_PER_ROUND * ITERATIONS_PER_ROUND) := by decide
  omega

end Xdpd.Io.Pktin
