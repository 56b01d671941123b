import Mathlib.Algebra.BigOperators.Group.Finset.Basic
import Mathlib.Data.Fintype.Card
import Xdpd.Io.PktinDispatcher

/-!
# The accounting of packet-ins and bytes

Every packet-in that is enqueued goes with a byte in the pipe, and every packet-in that is taken by
the background thread with a byte that is read, at once or later.  So in every reachable state the
packet-ins that are queued and the bytes still to be read are as many as there are bytes in the
pipe, but for the threads that are at it and for two kinds that a tally counts: the notifications
that failed because the pipe was full, and the packet-ins that were taken out when a switch was
destroyed.
-/

namespace Xdpd.Io.Pktin

open Xdpd.Lib

variable {π τ : Type}

/-- The notifications that have failed, and the packet-ins that have been taken out of a queue, or
lost with it, when its switch was destroyed. -/
structure Tally where
  lost : ℕ
  drained : ℕ
  deriving DecidableEq, Repr

/-- What a step adds to the tally. -/
def Tally.record (cfg : Config) (s : State π τ) (a : Action π τ) (h : Tally) : Tally :=
  match a with
  | .run t =>
      match s.pc t with
      | .notify =>
          if s.shared.unread < cfg.pipeSize then h else { h with lost := h.lost + 1 }
      | .drainRead r => { h with drained := h.drained + min 1 (s.shared.queue r).length }
      | .remove r => { h with drained := h.drained + (s.shared.queue r).length }
      | _ => h
  | _ => h

/-- The packet-ins in the queues of the switches. -/
def queued (cfg : Config) (s : Dispatcher π) : ℕ :=
  ∑ r ∈ Finset.range cfg.maxSwitches, (s.queue r).length

/-- No thread is inside one of the operations. -/
structure Quiescent (s : State π τ) : Prop where
  background : s.shared.point = .wait
  others : ∀ t, s.pc t = .idle

/-! ## Queues -/

section Queues

variable {cfg : Config} {s : Dispatcher π} {r : ℕ}

@[simp]
lemma queue_setSwitch_self (s : Dispatcher π) (r : ℕ) (sw : Option (List π)) :
    (s.setSwitch r sw).queue r = sw.getD [] := by
  simp [Dispatcher.setSwitch, Dispatcher.queue]

lemma queue_setSwitch_of_ne {r' : ℕ} (s : Dispatcher π) (sw : Option (List π)) (hne : r' ≠ r) :
    (s.setSwitch r sw).queue r' = s.queue r' := by
  simp [Dispatcher.setSwitch, Dispatcher.queue, hne]

/-- There is nothing to read at a place without a switch. -/
lemma queue_of_none (h : s.logicalSwitches r = none) : s.queue r = [] := by
  rw [Dispatcher.queue, h]
  rfl

lemma lt_of_queue_eq_cons (hplaces : ∀ r, cfg.maxSwitches ≤ r → s.logicalSwitches r = none)
    {pkt : π} {q : List π} (h : s.queue r = pkt :: q) : r < cfg.maxSwitches := by
  by_contra hr
  rw [queue_of_none (hplaces r (Nat.le_of_not_lt hr))] at h
  exact absurd h nofun

/-- The sum changes by what the queue of one switch does. -/
lemma queued_setSwitch (cfg : Config) (s : Dispatcher π) (sw : Option (List π))
    (hr : r < cfg.maxSwitches) :
    queued cfg (s.setSwitch r sw) + (s.queue r).length = queued cfg s + (sw.getD []).length := by
  have hmem : r ∈ Finset.range cfg.maxSwitches := Finset.mem_range.mpr hr
  have hrest : ∑ r' ∈ (Finset.range cfg.maxSwitches).erase r, ((s.setSwitch r sw).queue r').length =
      ∑ r' ∈ (Finset.range cfg.maxSwitches).erase r, (s.queue r').length :=
    Finset.sum_congr rfl fun r' hr' => by
      rw [queue_setSwitch_of_ne s sw (Finset.ne_of_mem_erase hr')]
  rw [queued, queued, ← Finset.add_sum_erase _ _ hmem, ← Finset.add_sum_erase _ _ hmem, hrest,
    queue_setSwitch_self]
  omega

/-- The places that the table does not have stay empty. -/
lemma places_setSwitch (hplaces : ∀ r, cfg.maxSwitches ≤ r → s.logicalSwitches r = none)
    {sw : Option (List π)} (hr : r < cfg.maxSwitches ∨ sw = none) :
    ∀ r', cfg.maxSwitches ≤ r' → (s.setSwitch r sw).logicalSwitches r' = none := by
  intro r' hr'
  change Function.update s.logicalSwitches r sw r' = none
  by_cases heq : r' = r
  · rw [heq, Function.update_self]
    exact hr.resolve_left (by omega)
  · rw [Function.update_of_ne heq]
    exact hplaces r' hr'

end Queues

/-! ## The accounting -/

/-- What the background thread has taken out of the queues and not added to `pending_to_read`. -/
def Point.held : Point → ℕ
  | take _ _ i => i
  | empty _ _ i => i
  | _ => 0

section Accounting

variable [Fintype τ]

/-- The threads that have enqueued a packet-in and not notified it. -/
def notifying (pc : τ → Pc) : Finset τ := Finset.univ.filter fun t => pc t = .notify

lemma mem_notifying {pc : τ → Pc} {t : τ} : t ∈ notifying pc ↔ pc t = .notify := by
  simp [notifying]

section Notifying

variable [DecidableEq τ] {pc : τ → Pc} {t : τ} {c : Pc}

lemma card_notifying_of_ne (hpc : pc t ≠ .notify) (hc : c ≠ .notify) :
    (notifying (Function.update pc t c)).card = (notifying pc).card := by
  congr 1
  ext t'
  rw [mem_notifying, mem_notifying]
  by_cases heq : t' = t
  · subst heq
    simp [hpc, hc]
  · rw [Function.update_of_ne heq]

lemma card_notifying_enqueue (hpc : pc t ≠ .notify) :
    (notifying (Function.update pc t .notify)).card = (notifying pc).card + 1 := by
  have hinsert : notifying (Function.update pc t .notify) = insert t (notifying pc) := by
    ext t'
    rw [Finset.mem_insert, mem_notifying, mem_notifying]
    by_cases heq : t' = t
    · subst heq
      simp
    · rw [Function.update_of_ne heq, or_iff_right heq]
  rw [hinsert, Finset.card_insert_of_notMem (mem_notifying.not.mpr hpc)]

lemma card_notifying_notify (hpc : pc t = .notify) (hc : c ≠ .notify) :
    (notifying (Function.update pc t c)).card + 1 = (notifying pc).card := by
  have herase : notifying (Function.update pc t c) = (notifying pc).erase t := by
    ext t'
    rw [Finset.mem_erase, mem_notifying, mem_notifying]
    by_cases heq : t' = t
    · subst heq
      simp [hc]
    · rw [Function.update_of_ne heq, and_iff_right heq]
  rw [herase, Finset.card_erase_add_one (mem_notifying.mpr hpc)]

end Notifying

/-- Every packet-in goes with a byte, apart from those that the tally counts. -/
structure Counts (cfg : Config) (s : State π τ) (h : Tally) : Prop where
  sum : queued cfg s.shared + s.shared.point.held + s.shared.pendingToRead + h.drained =
    s.shared.unread + h.lost + (notifying s.pc).card
  pending_le : s.shared.pendingToRead ≤ h.lost + Fintype.card τ
  held_le : s.shared.point.held ≤ BUCKETS_PER_LS
  places : ∀ r, cfg.maxSwitches ≤ r → s.shared.logicalSwitches r = none

/-- So few notifications have failed that `pending_to_read`, an `unsigned int`, does not overflow:
it grows only with them, and with the threads that notify later. -/
def Tally.Bounded (τ : Type) [Fintype τ] (h : Tally) : Prop :=
  h.lost + Fintype.card τ + BUCKETS_PER_LS < 2 ^ 32

section Steps

variable {cfg : Config} {s s' : State π τ} {h h' : Tally}

lemma Counts.init : Counts cfg (init : State π τ) ⟨0, 0⟩ where
  sum := by
    have hnone : notifying (Pktin.init : State π τ).pc = ∅ := by
      ext t
      simp [mem_notifying, Pktin.init]
    have hqueued : queued cfg (Pktin.init : State π τ).shared = 0 :=
      Finset.sum_eq_zero fun r _ => rfl
    rw [hnone, hqueued]
    rfl
  pending_le := Nat.zero_le _
  held_le := Nat.zero_le _
  places _ _ := rfl

/-- The background thread goes on without taking or reading anything. -/
lemma Counts.goto (hc : Counts cfg s h) {point : Point} (hheld : point.held = s.shared.point.held) :
    Counts cfg ⟨{ s.shared with point := point }, s.pc⟩ h where
  sum := by
    have hsum := hc.sum
    rw [← hheld] at hsum
    exact hsum
  pending_le := hc.pending_le
  held_le := hheld.trans_le hc.held_le
  places := hc.places

/-- A packet is taken out of a queue, by the background thread or when its switch is destroyed. -/
lemma queued_read {pkt : π} {q : List π} {r : ℕ} (hc : Counts cfg s h)
    (hq : s.shared.queue r = pkt :: q) :
    queued cfg (s.shared.setSwitch r (some q)) + 1 = queued cfg s.shared ∧
      ∀ r', cfg.maxSwitches ≤ r' → (s.shared.setSwitch r (some q)).logicalSwitches r' = none := by
  have hr := lt_of_queue_eq_cons hc.places hq
  have hsum := queued_setSwitch cfg s.shared (some q) hr
  rw [hq, List.length_cons, Option.getD_some] at hsum
  exact ⟨by omega, places_setSwitch hc.places (.inl hr)⟩

/-- The pipe is emptied. -/
lemma Counts.emptyPipe (hc : Counts cfg s h) (hh : h.Bounded τ) {k r i : ℕ}
    (hpoint : s.shared.point = .empty k r i) :
    Counts cfg ⟨{ emptyPipe i s.shared with point := .head k (r + 1) }, s.pc⟩ h := by
  have hsum := hc.sum
  have hpending := hc.pending_le
  have hheld := hc.held_le
  rw [hpoint] at hsum hheld
  change _ + i + _ + _ = _ at hsum
  change i ≤ _ at hheld
  rw [Tally.Bounded] at hh
  -- `pending_to_read` does not overflow
  have hmod : (s.shared.pendingToRead + i) % 2 ^ 32 = s.shared.pendingToRead + i :=
    Nat.mod_eq_of_lt (by omega)
  have hcard : (notifying s.pc).card ≤ Fintype.card τ := Finset.card_le_univ _
  have hbuckets : BUCKETS_PER_LS ≤ DUMMY_BUF_SIZE := by decide
  refine ⟨?_, ?_, Nat.zero_le _, hc.places⟩
  · change queued cfg s.shared + 0 + (_ - _) + h.drained =
      (_ - _) + h.lost + (notifying s.pc).card
    rw [hmod]
    split_ifs <;> omega
  · change _ - _ ≤ _
    rw [hmod]
    split_ifs <;> omega

/-- A step of `process_packet_ins`. -/
lemma Counts.processPacketIns (hc : Counts cfg s h) (hh : h.Bounded τ) {sh : Dispatcher π}
    (hs : processPacketIns cfg s.shared = some sh) : Counts cfg ⟨sh, s.pc⟩ h := by
  unfold Pktin.processPacketIns at hs
  split at hs
  · exact absurd hs nofun
  · next k r hpoint =>
    have hzero : s.shared.point.held = 0 := by rw [hpoint]; rfl
    split at hs
    · split at hs <;> cases hs
      · exact hc.goto hzero.symm
      · exact hc.goto hzero.symm
    · split at hs <;> cases hs
      · exact hc.goto hzero.symm
      · exact hc.goto hzero.symm
  · next k r i hpoint =>
    have hi : s.shared.point.held = i := by rw [hpoint]; rfl
    split at hs
    · next hlt =>
      split at hs <;> cases hs
      · exact hc.goto hi.symm
      · next pkt q hq =>
        obtain ⟨hqueued, hplaces⟩ := queued_read hc hq
        have hsum := hc.sum
        rw [hi] at hsum
        refine ⟨?_, hc.pending_le, hlt, hplaces⟩
        change queued cfg (s.shared.setSwitch r (some q)) + (i + 1) +
          s.shared.pendingToRead + h.drained = s.shared.unread + h.lost + (notifying s.pc).card
        omega
    · cases hs
      exact hc.goto hi.symm
  · next k r i hpoint =>
    cases hs
    exact hc.emptyPipe hh hpoint

lemma Counts.epollWait (hc : Counts cfg s h) {netlink : Bool} {sh : Dispatcher π}
    (hs : epollWait netlink s.shared = some sh) : Counts cfg ⟨sh, s.pc⟩ h := by
  unfold Pktin.epollWait at hs
  split at hs
  · next hwait =>
    dsimp only at hs
    split at hs <;> cases hs
    · exact hc.goto (by rw [hwait]; rfl)
    · exact hc
  · exact absurd hs nofun

variable [DecidableEq τ] {t : τ}

/-- A thread goes on without having enqueued or notified anything. -/
lemma Counts.gotoThread (hc : Counts cfg s h) {c : Pc} (hpc : s.pc t ≠ .notify)
    (hnotify : c ≠ .notify) : Counts cfg (s.goto t c) h where
  sum := by
    have hsum := hc.sum
    rw [← card_notifying_of_ne hpc hnotify] at hsum
    exact hsum
  pending_le := hc.pending_le
  held_le := hc.held_le
  places := hc.places

/-- A packet is enqueued. -/
lemma Counts.enqueue (hc : Counts cfg s h) {r : ℕ} {pkt : π} (hpc : s.pc t = .idle)
    (hr : s.shared.logicalSwitches r ≠ none) :
    Counts cfg ⟨s.shared.setSwitch r (some (s.shared.queue r ++ [pkt])),
      Function.update s.pc t .notify⟩ h := by
  have hlt : r < cfg.maxSwitches := by
    by_contra hge
    exact hr (hc.places r (Nat.le_of_not_lt hge))
  have hqueued := queued_setSwitch cfg s.shared (some (s.shared.queue r ++ [pkt])) hlt
  rw [Option.getD_some, List.length_append, List.length_singleton] at hqueued
  have hne : s.pc t ≠ .notify := by rw [hpc]; exact nofun
  have hcard := card_notifying_enqueue hne
  have hsum := hc.sum
  refine ⟨?_, hc.pending_le, hc.held_le, places_setSwitch hc.places (.inl hlt)⟩
  change queued cfg (s.shared.setSwitch r _) + s.shared.point.held + s.shared.pendingToRead +
    h.drained = s.shared.unread + h.lost + (notifying (Function.update s.pc t .notify)).card
  omega

/-- A thread notifies: there is one byte more in the pipe, or one notification more has failed. -/
lemma Counts.notify (hc : Counts cfg s h) (hpc : s.pc t = .notify) :
    Counts cfg ⟨notifyPacketIn cfg s.shared, Function.update s.pc t .idle⟩
      (h.record cfg s (.run t)) := by
  have hcard := card_notifying_notify (c := .idle) hpc nofun
  have hsum := hc.sum
  have hpending := hc.pending_le
  dsimp only [Tally.record]
  rw [hpc, notifyPacketIn]
  dsimp only
  split_ifs with hroom
  · refine ⟨?_, hpending, hc.held_le, hc.places⟩
    change queued cfg s.shared + s.shared.point.held + s.shared.pendingToRead + h.drained =
      s.shared.unread + 1 + h.lost + (notifying (Function.update s.pc t .idle)).card
    omega
  · refine ⟨?_, ?_, hc.held_le, hc.places⟩
    · change queued cfg s.shared + s.shared.point.held + s.shared.pendingToRead + h.drained =
        s.shared.unread + (h.lost + 1) + (notifying (Function.update s.pc t .idle)).card
      omega
    · change s.shared.pendingToRead ≤ h.lost + 1 + Fintype.card τ
      omega

/-- A packet is taken out when its switch is destroyed, if there is still one. -/
lemma Counts.drainRead (hc : Counts cfg s h) {r : ℕ} (hpc : s.pc t = .drainRead r)
    {sh : Dispatcher π} {c : Pc} (hs : access cfg t s.shared (.drainRead r) = some (sh, c)) :
    Counts cfg ⟨sh, Function.update s.pc t c⟩ (h.record cfg s (.run t)) := by
  have hne : s.pc t ≠ .notify := by rw [hpc]; exact nofun
  dsimp only [Tally.record]
  rw [hpc]
  dsimp only
  unfold access at hs
  dsimp only at hs
  split at hs <;> cases hs
  · next hq =>
    rw [hq]
    exact hc.gotoThread hne nofun
  · next pkt q hq =>
    obtain ⟨hqueued, hplaces⟩ := queued_read hc hq
    have hcard := card_notifying_of_ne (c := .drainSize r) hne nofun
    have hsum := hc.sum
    rw [hq, List.length_cons]
    refine ⟨?_, hc.pending_le, hc.held_le, hplaces⟩
    change queued cfg (s.shared.setSwitch r (some q)) + s.shared.point.held +
        s.shared.pendingToRead + (h.drained + min 1 (q.length + 1)) =
      s.shared.unread + h.lost + (notifying (Function.update s.pc t (.drainSize r))).card
    omega

/-- A switch is removed, with what is in its queue. -/
lemma Counts.remove (hc : Counts cfg s h) {r : ℕ} (hpc : s.pc t = .remove r) :
    Counts cfg ⟨s.shared.setSwitch r none, Function.update s.pc t .idle⟩
      (h.record cfg s (.run t)) := by
  have hne : s.pc t ≠ .notify := by rw [hpc]; exact nofun
  dsimp only [Tally.record]
  rw [hpc]
  dsimp only
  have hqueued : queued cfg (s.shared.setSwitch r none) + (s.shared.queue r).length =
      queued cfg s.shared := by
    by_cases hr : r < cfg.maxSwitches
    · exact queued_setSwitch cfg s.shared none hr
    · have hnone := hc.places r (Nat.le_of_not_lt hr)
      have hsame : s.shared.setSwitch r none = s.shared := by
        rw [Dispatcher.setSwitch, ← hnone, Function.update_eq_self]
      rw [hsame, queue_of_none hnone]
      rfl
  have hcard := card_notifying_of_ne (c := .idle) hne nofun
  have hsum := hc.sum
  refine ⟨?_, hc.pending_le, hc.held_le, places_setSwitch hc.places (.inr rfl)⟩
  change queued cfg (s.shared.setSwitch r none) + s.shared.point.held + s.shared.pendingToRead +
      (h.drained + (s.shared.queue r).length) =
    s.shared.unread + h.lost + (notifying (Function.update s.pc t .idle)).card
  omega

/-- The next access of a thread. -/
lemma Counts.access (hc : Counts cfg s h) {sh : Dispatcher π} {c : Pc}
    (hs : access cfg t s.shared (s.pc t) = some (sh, c)) :
    Counts cfg ⟨sh, Function.update s.pc t c⟩ (h.record cfg s (.run t)) := by
  cases hpc : s.pc t with
  | idle =>
      rw [hpc] at hs
      exact absurd hs nofun
  | notify =>
      rw [hpc] at hs
      cases hs
      exact hc.notify hpc
  | drainSize r =>
      have hrecord : h.record cfg s (.run t) = h := by
        dsimp only [Tally.record]
        rw [hpc]
      rw [hpc] at hs
      rw [hrecord]
      change (if _ then _ else _) = _ at hs
      split at hs <;> cases hs <;>
        exact hc.gotoThread (by rw [hpc]; exact nofun) nofun
  | drainRead r =>
      rw [hpc] at hs
      exact hc.drainRead hpc hs
  | remove r =>
      rw [hpc] at hs
      cases hs
      exact hc.remove hpc

omit [Fintype τ] [DecidableEq τ] in
/-- Failed notifications stay failed. -/
lemma lost_le_record (a : Action π τ) : h.lost ≤ (h.record cfg s a).lost := by
  cases a with
  | run t =>
      dsimp only [Tally.record]
      split
      · split
        · exact le_rfl
        · exact Nat.le_succ _
      all_goals exact le_rfl
  | _ => exact le_rfl

/-- **The step** keeps the accounting. -/
lemma Counts.step (hc : Counts cfg s h) (hh : h.Bounded τ) {a : Action π τ}
    (hs : step cfg s a = some s') : Counts cfg s' (h.record cfg s a) := by
  cases a with
  | createSwitch r =>
      change (if _ then _ else _) = _ at hs
      split at hs
      · next hfree =>
        cases hs
        have hqueued := queued_setSwitch cfg s.shared (some []) hfree.1
        rw [queue_of_none hfree.2] at hqueued
        have hsum := hc.sum
        refine ⟨?_, hc.pending_le, hc.held_le, places_setSwitch hc.places (.inl hfree.1)⟩
        change queued cfg (s.shared.setSwitch r (some [])) + s.shared.point.held +
          s.shared.pendingToRead + h.drained = s.shared.unread + h.lost + (notifying s.pc).card
        rw [Nat.add_right_cancel hqueued]
        exact hsum
      · exact absurd hs nofun
  | packetIn t r pkt full =>
      change (if _ then _ else _) = _ at hs
      split at hs
      · next hok =>
        split at hs
        · cases hs
          exact hc
        · split at hs
          · cases hs
            exact hc.enqueue hok.1 hok.2
          · exact absurd hs nofun
      · exact absurd hs nofun
  | destroySwitch t r =>
      change (if _ then _ else _) = _ at hs
      split at hs
      · next hok =>
        cases hs
        exact hc.gotoThread (by rw [hok.1]; exact nofun) nofun
      · exact absurd hs nofun
  | destroyFails t =>
      unfold Pktin.step at hs
      dsimp only at hs
      split at hs
      · next r hpc =>
        cases hs
        exact hc.gotoThread (by rw [hpc]; exact nofun) nofun
      · exact absurd hs nofun
  | run t =>
      obtain ⟨sh, c, hacc, rfl⟩ := Threads.run_eq_some hs
      exact hc.access hacc
  | epollWait netlink =>
      obtain ⟨sh, hsh, rfl⟩ := Option.map_eq_some_iff.mp hs
      exact hc.epollWait hsh
  | processPacketIns =>
      obtain ⟨sh, hsh, rfl⟩ := Option.map_eq_some_iff.mp hs
      exact hc.processPacketIns hh hsh

omit [DecidableEq τ] in
/-- The accounting in a state in which no thread is at it. -/
lemma Counts.quiescent (hc : Counts cfg s h) (hs : Quiescent s) :
    queued cfg s.shared + s.shared.pendingToRead + h.drained = s.shared.unread + h.lost := by
  have hnone : notifying s.pc = ∅ := by
    ext t
    simp [mem_notifying, hs.others t]
  have hsum := hc.sum
  rw [hnone, hs.background] at hsum
  exact hsum

/-- **The accounting over whole runs.** -/
theorem counts_of_run {acts : List (Action π τ)}
    (hrun : Run (observe (step cfg) (fun s a h => Tally.record cfg s a h)) anyStep
      ((init : State π τ), ⟨0, 0⟩) acts (s, h)) (hh : h.Bounded τ) : Counts cfg s h := by
  have hstep : ∀ (p : State π τ × Tally) a p', (p.2.Bounded τ → Counts cfg p.1 p.2) →
      anyStep p a → observe (step cfg) (fun s a h => Tally.record cfg s a h) p a = some p' →
      p'.2.Bounded τ → Counts cfg p'.1 p'.2 := by
    intro p a p' hp _ hs hh'
    obtain ⟨hs', hrecord⟩ := observe_eq_some hs
    have hle : p.2.lost ≤ p'.2.lost := by
      rw [hrecord]
      exact lost_le_record a
    have hbounded : p.2.Bounded τ := by
      rw [Tally.Bounded] at hh' ⊢
      omega
    rw [hrecord]
    exact (hp hbounded).step hbounded hs'
  exact hrun.invariant hstep (fun _ => Counts.init) hh

end Steps

end Accounting

end Xdpd.Io.Pktin
