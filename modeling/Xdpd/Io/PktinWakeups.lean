import Xdpd.Io.PktinCalls

/-!
# The wakeups for packet-ins

When no thread is at it, the packet-ins that are queued, with the bytes still to be read for those
that have been taken, are as many as the bytes in the pipe, but for failed notifications and for the
packet-ins of switches that were destroyed (`Counts.quiescent`).

With packet-ins that were taken out when a switch was destroyed, a byte can be left that is never
read.  Otherwise all is well in the runs in which the pipe takes more bytes than the pool has
buffers, as no notification fails in them (`woken_of_undrained`).  With failed notifications a
packet-in can be left without a byte, for a pipe of any size; the background thread does not wait
for it for ever.
-/

namespace Xdpd.Io.Pktin

open Xdpd.Lib

variable {π τ : Type}

/-- No packet-in is queued without a byte to wake the background thread, but for failed
notifications; and no byte is left that it will not read, but for packet-ins that were taken out of
the queue of a switch that was destroyed. -/
structure WokenBut (cfg : Config) (s : Dispatcher π) (h : Tally) : Prop where
  wakeup : (∃ r, ∃ q ∈ s.logicalSwitches r, q ≠ []) →
    0 < s.unread ∨ queued cfg s + s.pendingToRead ≤ h.lost
  read : h.drained = 0 → s.unread ≤ queued cfg s + s.pendingToRead

/-- **The wakeups in every run.**  When no thread is at it, there is a byte in the pipe if a
packet-in is queued, unless as many notifications have failed as packet-ins are queued or their
bytes not read yet; and there are no more bytes than these, as long as no packet-in has been taken
out of the queue of a switch that was destroyed. -/
theorem wokenBut_of_run [Fintype τ] [DecidableEq τ] {cfg : Config} {acts : List (Action π τ)}
    {s : State π τ} {h : Tally}
    (hrun : Run (observe (step cfg) (fun s a h => Tally.record cfg s a h)) anyStep
      ((init : State π τ), ⟨0, 0⟩) acts (s, h)) (hh : h.Bounded τ) (hs : Quiescent s) :
    WokenBut cfg s.shared h := by
  have hsum := (counts_of_run hrun hh).quiescent hs
  refine ⟨fun _ => ?_, fun hdrained => ?_⟩
  · rcases Nat.eq_zero_or_pos s.shared.unread with hzero | hpos
    · exact .inr (by omega)
    · exact .inl hpos
  · omega

/-- The pipe takes one byte.  The notification of the second packet-in fails, both packet-ins are
taken, and a third one comes. -/
def oneByte : List (Action Unit Bool) :=
  [.createSwitch 0, .packetIn false 0 () false, .run false, .packetIn true 0 () false, .run true,
    .epollWait false] ++ List.replicate 18 .processPacketIns ++
    [.packetIn false 0 () false, .run false]

theorem wokenBut_oneByte :
    ∃ p ∈ exec (observe (step ⟨1, 1⟩) (fun s a h => Tally.record ⟨1, 1⟩ s a h))
        ((init : State Unit Bool), ⟨0, 0⟩) oneByte,
      p.2 = ⟨1, 0⟩ ∧ p.1.shared.queue 0 = [()] ∧ WokenBut ⟨1, 1⟩ p.1.shared p.2 := by
  have hexec : ∃ p ∈ exec (observe (step ⟨1, 1⟩) (fun s a h => Tally.record ⟨1, 1⟩ s a h))
      ((init : State Unit Bool), ⟨0, 0⟩) oneByte,
      p.2 = ⟨1, 0⟩ ∧ p.1.shared.queue 0 = [()] ∧ p.1.shared.point = .wait ∧
        ∀ t, p.1.pc t = .idle := by decide
  obtain ⟨⟨s, h⟩, hp, htally, hqueue, hwait, hidle⟩ := hexec
  refine ⟨(s, h), hp, htally, hqueue, wokenBut_of_run (run_of_exec hp) ?_ ⟨hwait, hidle⟩⟩
  obtain rfl : h = ⟨1, 0⟩ := htally
  change 1 + Fintype.card Bool + BUCKETS_PER_LS < 2 ^ 32
  decide

/-! ## Switches that are destroyed with an empty queue -/

/-- A byte is in the pipe if a packet-in is queued, and none that will not be read. -/
structure Woken (cfg : Config) (s : Dispatcher π) : Prop where
  wakeup : (∃ r, ∃ q ∈ s.logicalSwitches r, q ≠ []) → 0 < s.unread
  read : s.unread ≤ queued cfg s + s.pendingToRead

/-- The packet-ins that are queued are in buffers of the pool, and none is taken out of the queue of
a switch that is destroyed, or lost with the switch. -/
def Undrained (cfg : Config) (buffers : ℕ) (s : State π τ) (a : Action π τ) : Prop :=
  queued cfg s.shared ≤ buffers ∧
    ∀ t r, a = .run t → s.pc t = .drainRead r ∨ s.pc t = .remove r → s.shared.queue r = []

section Undrained

variable [Fintype τ] {cfg : Config} {buffers : ℕ} {s : State π τ}

/-- There is room in the pipe for one more byte. -/
lemma Counts.unread_lt (hc : Counts cfg s ⟨0, 0⟩) (hqueued : queued cfg s.shared ≤ buffers)
    (hpipe : buffers + BUCKETS_PER_LS + Fintype.card τ < cfg.pipeSize) :
    s.shared.unread < cfg.pipeSize := by
  have hsum : _ + _ + _ + 0 = _ + 0 + _ := hc.sum
  have hpending : _ ≤ 0 + _ := hc.pending_le
  have hheld := hc.held_le
  omega

/-- No notification fails, and no packet-in is lost. -/
lemma record_of_undrained (hc : Counts cfg s ⟨0, 0⟩) {a : Action π τ}
    (ha : Undrained cfg buffers s a)
    (hpipe : buffers + BUCKETS_PER_LS + Fintype.card τ < cfg.pipeSize) :
    Tally.record cfg s a ⟨0, 0⟩ = ⟨0, 0⟩ := by
  cases a with
  | run t =>
      dsimp only [Tally.record]
      split
      · rw [if_pos (hc.unread_lt ha.1 hpipe)]
      · next r hpc =>
        rw [ha.2 t r rfl (.inl hpc)]
        rfl
      · next r hpc =>
        rw [ha.2 t r rfl (.inr hpc)]
        rfl
      · rfl
  | _ => rfl

/-- **The wakeups where nothing is drained.**  If the pipe takes more bytes than the pool has
buffers, and the threads need in between, then in every run in which no switch is destroyed with a
packet-in in its queue there is a byte in the pipe for a queued packet-in, and none that will not be
read, when no thread is at it. -/
theorem woken_of_undrained [DecidableEq τ] {acts : List (Action π τ)}
    (hpipe : buffers + BUCKETS_PER_LS + Fintype.card τ < cfg.pipeSize)
    (hthreads : Fintype.card τ + BUCKETS_PER_LS < 2 ^ 32)
    (hrun : Run (step cfg) (Undrained cfg buffers) (init : State π τ) acts s) (hs : Quiescent s) :
    Woken cfg s.shared := by
  have hbounded : Tally.Bounded τ ⟨0, 0⟩ := by
    change 0 + _ + _ < _
    omega
  have hkeep : ∀ (s : State π τ) a s', Counts cfg s ⟨0, 0⟩ → Undrained cfg buffers s a →
      step cfg s a = some s' → Counts cfg s' ⟨0, 0⟩ := by
    intro s a s' hc ha hstep
    have hkept := hc.step hbounded hstep
    rw [record_of_undrained hc ha hpipe] at hkept
    exact hkept
  have hcounts := hrun.invariant hkeep Counts.init
  have hsum : _ + 0 = _ + 0 := hcounts.quiescent hs
  refine ⟨?_, by omega⟩
  rintro ⟨r, q, hq, hne⟩
  have hr : r < cfg.maxSwitches := by
    by_contra hr
    rw [hcounts.places r (Nat.le_of_not_lt hr)] at hq
    exact absurd hq nofun
  -- the queue is a part of the sum
  have hlength : (s.shared.queue r).length ≤ queued cfg s.shared := by
    rw [queued, ← Finset.add_sum_erase _ _ (Finset.mem_range.mpr hr)]
    exact Nat.le_add_right _ _
  have hqueue : s.shared.queue r = q := by
    rw [Dispatcher.queue, hq, Option.getD_some]
  rw [hqueue] at hlength
  have hpos := List.length_pos_of_ne_nil hne
  omega

end Undrained

/-- A switch is destroyed with a packet-in in its queue. -/
def destroyedWithOne : List (Action Unit Unit) :=
  [.createSwitch 0, .packetIn () 0 () false, .run (), .destroySwitch () 0] ++
    List.replicate 4 (.run ())

/-- A byte is left that nobody reads when a switch is destroyed with a packet-in in its queue. -/
theorem not_woken : ¬ ∀ (cfg : Config) (acts : List (Action Unit Unit)) (s : State Unit Unit),
    Run (step cfg) anyStep init acts s → Quiescent s → Woken cfg s.shared := by
  intro h
  have hexec : ∃ s ∈ exec (step ⟨1, 65536⟩) (init : State Unit Unit) destroyedWithOne,
      (s.shared.point = .wait ∧ ∀ t, s.pc t = .idle) ∧
        ¬ s.shared.unread ≤ queued ⟨1, 65536⟩ s.shared + s.shared.pendingToRead := by decide
  obtain ⟨s, hs, ⟨hwait, hidle⟩, hread⟩ := hexec
  exact hread (h _ _ s (run_of_exec hs) ⟨hwait, hidle⟩).read

/-! ## A full pipe

As many packet-ins are queued as the pipe takes bytes, and one more, each on a switch of its own.
The background thread takes all of them and is then one byte behind.  It reads the byte of a further
packet-in for which it comes too late.
-/

section FullPipe

variable {cfg : Config} {q : ℕ → Option (List Unit)} {unread pending k r i : ℕ} {point : Point}

/-- A state with one other thread, which is at `c`. -/
def stateAt (q : ℕ → Option (List Unit)) (unread pending : ℕ) (point : Point) (c : Pc) :
    State Unit Unit :=
  ⟨⟨q, unread, pending, point⟩, fun _ => c⟩

/-- A state leads to another one. -/
def Leads (cfg : Config) : State Unit Unit → State Unit Unit → Prop :=
  Relation.ReflTransGen fun s s' => ∃ a, step cfg s a = some s'

lemma update_const (c c' : Pc) : Function.update (fun _ : Unit => c) () c' = fun _ => c' := by
  ext
  simp

/-- A packet-in is enqueued for a switch, and notified if there is room in the pipe. -/
lemma leads_packetIn {l : List Unit} (hq : q r = some l)
    (hl : l.length + 1 < LSI_PKT_IN_QUEUE_SLOTS) :
    Leads cfg (stateAt q unread pending point .idle)
      (stateAt (Function.update q r (some (l ++ [()])))
        (if unread < cfg.pipeSize then unread + 1 else unread) pending point .idle) := by
  refine .head (b := stateAt (Function.update q r (some (l ++ [()]))) unread pending point .notify)
    ⟨.packetIn () r () false, ?_⟩ (.single ⟨.run (), ?_⟩)
  · simp [step, stateAt, Dispatcher.queue, Dispatcher.setSwitch, update_const, hq, hl]
  · by_cases hroom : unread < cfg.pipeSize <;>
      simp [step, Threads.run, access, notifyPacketIn, stateAt, update_const, hroom]

lemma leads_createSwitch (hq : q r = none) (hr : r < cfg.maxSwitches) :
    Leads cfg (stateAt q unread pending point .idle)
      (stateAt (Function.update q r (some [])) unread pending point .idle) := by
  refine .single ⟨.createSwitch r, ?_⟩
  simp [step, stateAt, Dispatcher.setSwitch, hq, hr]

/-- The background thread looks at a switch with nothing in its queue, up to the reading. -/
lemma leads_take_nil (hq : q r = some []) (hr : r < cfg.maxSwitches) :
    Leads cfg (stateAt q unread pending (.head k r) .idle)
      (stateAt q unread pending (.empty k r 0) .idle) := by
  refine .head (b := stateAt q unread pending (.take k r 0) .idle) ⟨.processPacketIns, ?_⟩
    (.single ⟨.processPacketIns, ?_⟩)
  · simp [step, processPacketIns, stateAt, hq, hr]
  · simp [step, processPacketIns, stateAt, Dispatcher.queue, BUCKETS_PER_LS, hq]

/-- The same with one packet-in in its queue. -/
lemma leads_take_one (hq : q r = some [()]) (hr : r < cfg.maxSwitches) :
    Leads cfg (stateAt q unread pending (.head k r) .idle)
      (stateAt (Function.update q r (some [])) unread pending (.empty k r 1) .idle) := by
  refine .head (b := stateAt q unread pending (.take k r 0) .idle) ⟨.processPacketIns, ?_⟩
    (.head (b := stateAt (Function.update q r (some [])) unread pending (.take k r 1) .idle)
      ⟨.processPacketIns, ?_⟩ (.single ⟨.processPacketIns, ?_⟩))
  · simp [step, processPacketIns, stateAt, hq, hr]
  · simp [step, processPacketIns, stateAt, Dispatcher.queue, Dispatcher.setSwitch, BUCKETS_PER_LS,
      hq]
  · simp [step, processPacketIns, stateAt, Dispatcher.queue, BUCKETS_PER_LS]

/-- The background thread reads, where it has one byte to read. -/
lemma leads_read (hpending : pending + i = 1) :
    Leads cfg (stateAt q unread pending (.empty k r i) .idle)
      (stateAt q (unread - 1) (1 - unread) (.head k (r + 1)) .idle) := by
  refine .single ⟨.processPacketIns, ?_⟩
  have hcount : (if DUMMY_BUF_SIZE < 1 % 2 ^ 32 then DUMMY_BUF_SIZE else 1 % 2 ^ 32) = 1 := by
    decide
  have hunread : unread - min 1 unread = unread - 1 := by omega
  have hrest : 1 % 2 ^ 32 - min 1 unread = 1 - unread := by omega
  simp only [step, processPacketIns, stateAt, emptyPipe, hpending, Option.map_some, hcount, hunread,
    hrest]

/-- The background thread begins the next round, or waits again. -/
lemma leads_round (hr : cfg.maxSwitches ≤ r) : Leads cfg
    (stateAt q unread pending (.head k r) .idle)
    (stateAt q unread pending (if k + 1 < 4 then .head (k + 1) 0 else .wait) .idle) := by
  refine .single ⟨.processPacketIns, ?_⟩
  by_cases hk : k + 1 < 4 <;>
    simp [step, processPacketIns, stateAt, ITERATIONS_PER_ROUND, Nat.not_lt.mpr hr, hk]

variable (n : ℕ)

/-- The first `m` switches have a packet-in each. -/
def filled (m : ℕ) : ℕ → Option (List Unit) := fun r => if r < m then some [()] else none

/-- Of `n + 1` switches with a packet-in each, the first `m` have none any more. -/
def takenFrom (m : ℕ) : ℕ → Option (List Unit) :=
  fun r => if r < m then some [] else filled (n + 1) r

lemma update_filled (m : ℕ) :
    Function.update (Function.update (filled m) m (some [])) m (some [()]) = filled (m + 1) := by
  ext1 r
  by_cases heq : r = m
  · simp [heq, filled]
  · have hiff : r < m + 1 ↔ r < m := by omega
    simp [filled, heq, hiff]

/-- As many packet-ins are enqueued as there are switches. -/
lemma leads_filled {m : ℕ} (hm : m ≤ n + 1) : Leads ⟨n + 1, n⟩ init
    (stateAt (filled m) (min m n) 0 .wait .idle) := by
  induction m with
  | zero =>
      have hnone : filled 0 = fun _ => none := by
        ext1 r
        simp [filled]
      rw [hnone, Nat.zero_min]
      exact .refl
  | succ m ih =>
      have hunread : (if min m n < n then min m n + 1 else min m n) = min (m + 1) n := by
        split_ifs <;> omega
      have hcreate : Leads ⟨n + 1, n⟩ (stateAt (filled m) (min m n) 0 .wait .idle)
          (stateAt (Function.update (filled m) m (some [])) (min m n) 0 .wait .idle) :=
        leads_createSwitch (by simp [filled]) hm
      have henqueue : Leads ⟨n + 1, n⟩
          (stateAt (Function.update (filled m) m (some [])) (min m n) 0 .wait .idle)
          (stateAt (Function.update (Function.update (filled m) m (some [])) m (some [()]))
            (if min m n < n then min m n + 1 else min m n) 0 .wait .idle) :=
        leads_packetIn (Function.update_self m (some []) (filled m)) (by decide)
      rw [update_filled, hunread] at henqueue
      exact (ih (Nat.le_of_succ_le hm)).trans (hcreate.trans henqueue)

/-- The first round takes all of them, and all bytes. -/
lemma leads_takenFrom {m : ℕ} (hm : m ≤ n + 1) :
    Leads ⟨n + 1, n⟩ (stateAt (filled (n + 1)) n 0 (.head 0 0) .idle)
      (stateAt (takenFrom n m) (n - m) (m - n) (.head 0 m) .idle) := by
  induction m with
  | zero =>
      have hsame : takenFrom n 0 = filled (n + 1) := by
        ext1 r
        simp [takenFrom]
      rw [hsame, Nat.sub_zero, Nat.zero_sub]
      exact .refl
  | succ m ih =>
      have hpending : m - n = 0 := by omega
      have hone : takenFrom n m m = some [()] := by simp [takenFrom, filled, Nat.lt_of_succ_le hm]
      have hempty : Function.update (takenFrom n m) m (some []) = takenFrom n (m + 1) := by
        ext1 r
        by_cases heq : r = m
        · simp [heq, takenFrom]
        · have hiff : r < m + 1 ↔ r < m := by omega
          simp [takenFrom, heq, hiff]
      have htake : Leads ⟨n + 1, n⟩
          (stateAt (takenFrom n m) (n - m) (m - n) (.head 0 m) .idle)
          (stateAt (Function.update (takenFrom n m) m (some [])) (n - m) (m - n) (.empty 0 m 1)
            .idle) :=
        leads_take_one hone hm
      have hread : Leads ⟨n + 1, n⟩
          (stateAt (takenFrom n (m + 1)) (n - m) (m - n) (.empty 0 m 1) .idle)
          (stateAt (takenFrom n (m + 1)) (n - m - 1) (1 - (n - m)) (.head 0 (m + 1)) .idle) :=
        leads_read (by rw [hpending])
      have hleft : n - m - 1 = n - (m + 1) ∧ 1 - (n - m) = m + 1 - n := by omega
      rw [hleft.1, hleft.2] at hread
      rw [hempty] at htake
      exact (ih (Nat.le_of_succ_le hm)).trans (htake.trans hread)

/-- The queues of all switches are empty. -/
def drainedQueues : ℕ → Option (List Unit) := takenFrom n (n + 1)

lemma drainedQueues_of_lt {r : ℕ} (hr : r < n + 1) : drainedQueues n r = some [] := if_pos hr

/-- A round that finds nothing leaves the background thread one byte behind. -/
lemma leads_idle_round {k m : ℕ} (hm : m ≤ n + 1) :
    Leads ⟨n + 1, n⟩ (stateAt (drainedQueues n) 0 1 (.head k 0) .idle)
      (stateAt (drainedQueues n) 0 1 (.head k m) .idle) := by
  induction m with
  | zero => exact .refl
  | succ m ih =>
      have htake : Leads ⟨n + 1, n⟩ (stateAt (drainedQueues n) 0 1 (.head k m) .idle)
          (stateAt (drainedQueues n) 0 1 (.empty k m 0) .idle) :=
        leads_take_nil (drainedQueues_of_lt n hm) hm
      exact (ih (Nat.le_of_succ_le hm)).trans (htake.trans (leads_read rfl))

/-- **A packet-in without a wakeup**, for a pipe of any size, where there are more packet-ins than
the pipe takes bytes. -/
theorem exists_unwoken (hn : 0 < n) : ∃ acts s, Run (step ⟨n + 1, n⟩) anyStep
    (init : State Unit Unit) acts s ∧ Quiescent s ∧ s.shared.queue n = [()] ∧
      s.shared.unread = 0 := by
  have hfull : Leads ⟨n + 1, n⟩ init (stateAt (filled (n + 1)) n 0 .wait .idle) := by
    have h := leads_filled n le_rfl
    rwa [Nat.min_eq_right (Nat.le_succ n)] at h
  have hcall : Leads ⟨n + 1, n⟩ (stateAt (filled (n + 1)) n 0 .wait .idle)
      (stateAt (filled (n + 1)) n 0 (.head 0 0) .idle) := by
    refine .single ⟨.epollWait false, ?_⟩
    simp [step, epollWait, stateAt]
  have htaken : Leads ⟨n + 1, n⟩ (stateAt (filled (n + 1)) n 0 (.head 0 0) .idle)
      (stateAt (drainedQueues n) 0 1 (.head 0 (n + 1)) .idle) := by
    have h := leads_takenFrom n le_rfl
    rwa [Nat.sub_eq_zero_of_le (Nat.le_succ n), Nat.add_sub_cancel_left] at h
  -- two more rounds, and the last one up to the last switch
  have hround : ∀ k, Leads ⟨n + 1, n⟩ (stateAt (drainedQueues n) 0 1 (.head k (n + 1)) .idle)
      (stateAt (drainedQueues n) 0 1 (if k + 1 < 4 then .head (k + 1) 0 else .wait) .idle) :=
    fun k => leads_round le_rfl
  have hlast : Leads ⟨n + 1, n⟩ (stateAt (drainedQueues n) 0 1 (.head 0 (n + 1)) .idle)
      (stateAt (drainedQueues n) 0 1 (.head 3 n) .idle) :=
    ((((hround 0).trans (leads_idle_round n le_rfl)).trans (hround 1)).trans
      (leads_idle_round n le_rfl)).trans ((hround 2).trans (leads_idle_round n (Nat.le_succ n)))
  have hlate : Leads ⟨n + 1, n⟩ (stateAt (drainedQueues n) 0 1 (.head 3 n) .idle)
      (stateAt (drainedQueues n) 0 1 (.empty 3 n 0) .idle) :=
    leads_take_nil (drainedQueues_of_lt n (Nat.lt_succ_self n)) (Nat.lt_succ_self n)
  have henqueue : Leads ⟨n + 1, n⟩ (stateAt (drainedQueues n) 0 1 (.empty 3 n 0) .idle)
      (stateAt (Function.update (drainedQueues n) n (some [()])) (if 0 < n then 1 else 0) 1
        (.empty 3 n 0) .idle) :=
    leads_packetIn (drainedQueues_of_lt n (Nat.lt_succ_self n)) (by decide)
  rw [if_pos hn] at henqueue
  have hread : Leads ⟨n + 1, n⟩
      (stateAt (Function.update (drainedQueues n) n (some [()])) 1 1 (.empty 3 n 0) .idle)
      (stateAt (Function.update (drainedQueues n) n (some [()])) 0 0 (.head 3 (n + 1)) .idle) :=
    leads_read rfl
  have hend : Leads ⟨n + 1, n⟩
      (stateAt (Function.update (drainedQueues n) n (some [()])) 0 0 (.head 3 (n + 1)) .idle)
      (stateAt (Function.update (drainedQueues n) n (some [()])) 0 0 .wait .idle) :=
    leads_round le_rfl
  obtain ⟨acts, hrun⟩ := exists_run_of_reflTransGen
    (hfull.trans (hcall.trans (htaken.trans (hlast.trans (hlate.trans
      (henqueue.trans (hread.trans hend)))))))
  refine ⟨acts, _, hrun, ⟨rfl, fun _ => rfl⟩, ?_, rfl⟩
  simp [stateAt, Dispatcher.queue]

end FullPipe

end Xdpd.Io.Pktin
