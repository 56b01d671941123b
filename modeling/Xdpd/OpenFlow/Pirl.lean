import Mathlib.Algebra.Group.Nat.Defs
import Mathlib.Data.Int.Order.Basic
import Mathlib.Data.List.Count
import Mathlib.Tactic.Common
import Xdpd.Lib.Transition

/-!
# The packet-in rate limiter

The limiter has one bucket: the slot of 100 ms in which it was last used, and the tokens that are
left of that slot.  In a new slot the bucket is filled with `max_rate/10` tokens, and a packet-in
that finds none is dropped.

The number of the slot goes through an `int` on its way into the bucket, and a bucket that says
slot 0 is one that was not used yet.  So the limit is kept exactly if no packet-in is filtered in
slot 0, and from slot `2 ^ 31` on no more of them come in a slot than may pass
(`limits_iff_inReach`).
-/

namespace Xdpd.OpenFlow

open Xdpd.Lib

/-! ## The bucket -/

/-- `PIRL_DISABLED`. -/
def PIRL_DISABLED : ℤ := -1

/-- `PIRL_NUMBER_OF_BUCKETS_PER_S`. -/
def PIRL_NUMBER_OF_BUCKETS_PER_S : ℤ := 10

/-- `PIRL_MIN_RATE`. -/
def PIRL_MIN_RATE : ℤ := PIRL_NUMBER_OF_BUCKETS_PER_S

/-- `pirl_bucket_t`. -/
structure PirlBucket where
  lastSeenTs : BitVec 64
  tokens : ℤ
  deriving DecidableEq, Repr

/-- `class pirl`. -/
structure Pirl where
  bucket : PirlBucket
  maxRate : ℤ
  deriving DecidableEq, Repr

/-- The slot of a reading of the clock: `pirl_clock_gettime_ms()/100`. -/
def currTs (now : BitVec 64) : BitVec 64 := now / 100

namespace Pirl

/-- `reconfigure`, without a result where it returns `ROFL_FAILURE`, before anything is set.  The
tokens stay. -/
def reconfigure (p : Pirl) (newMaxRate : ℤ) : Option Pirl :=
  if newMaxRate < PIRL_MIN_RATE ∧ newMaxRate ≠ PIRL_DISABLED then none
  else some { bucket := { p.bucket with lastSeenTs := 0 }, maxRate := newMaxRate }

/-- The constructor, on the memory of the object as it happens to be: only `reconfigure` sets
something.  It has no result where it throws `ePIRLInvalidConf`. -/
def construct (memory : Pirl) (maxRate : ℤ) : Option Pirl := memory.reconfigure maxRate

/-- `reset_bucket`: the parameter is an `int`, which is converted back to `uint64_t`. -/
def resetBucket (p : Pirl) (currTs : BitVec 32) : Pirl :=
  { p with bucket := ⟨currTs.signExtend 64, p.maxRate.tdiv PIRL_NUMBER_OF_BUCKETS_PER_S⟩ }

/-- `pirl_dec`, as it is built: `PIRL_WITH_LOCKING` is not defined. -/
def pirlDec (p : Pirl) : Bool × Pirl :=
  if 0 < p.bucket.tokens then
    (true, { p with bucket := { p.bucket with tokens := p.bucket.tokens - 1 } })
  else (false, p)

/-- `filter_pkt`: whether the packet is dropped. -/
def filterPkt (p : Pirl) (now : BitVec 64) : Bool × Pirl :=
  if p.maxRate ≠ PIRL_DISABLED then
    let p := if p.bucket.lastSeenTs ≠ currTs now then p.resetBucket ((currTs now).setWidth 32)
      else p
    (!p.pirlDec.1, p.pirlDec.2)
  else (false, p)

/-- The number of packets that may pass in a slot. -/
def allowance (maxRate : ℤ) : ℤ := maxRate.tdiv PIRL_NUMBER_OF_BUCKETS_PER_S

/-- What the bucket keeps of a slot: its number, through an `int`. -/
def stamp (slot : BitVec 64) : BitVec 64 := (slot.setWidth 32).signExtend 64

lemma allowance_pos {maxRate : ℤ} (h : PIRL_MIN_RATE ≤ maxRate) : 0 < allowance maxRate := by
  rw [allowance, PIRL_NUMBER_OF_BUCKETS_PER_S, Int.tdiv_eq_ediv_of_nonneg]
  all_goals
    simp only [PIRL_MIN_RATE, PIRL_NUMBER_OF_BUCKETS_PER_S] at h
    omega

lemma toNat_currTs (now : BitVec 64) : (currTs now).toNat = now.toNat / 100 := by
  rw [currTs, BitVec.toNat_udiv]
  rfl

lemma currTs_mono {now now' : BitVec 64} (h : now ≤ now') : currTs now ≤ currTs now' := by
  rw [BitVec.le_def, toNat_currTs, toNat_currTs]
  exact Nat.div_le_div_right (BitVec.le_def.mp h)

lemma currTs_eq_zero_of_le {now now' : BitVec 64} (h : now ≤ now') (hzero : currTs now' = 0) :
    currTs now = 0 := by
  have hle := BitVec.le_def.mp (currTs_mono h)
  apply BitVec.eq_of_toNat_eq
  rw [hzero] at hle
  exact Nat.le_zero.mp hle

lemma toNat_stamp (slot : BitVec 64) :
    (stamp slot).toNat =
      slot.toNat % 2 ^ 32 + if 2 ^ 31 ≤ slot.toNat % 2 ^ 32 then 2 ^ 64 - 2 ^ 32 else 0 := by
  have hmsb : (slot.setWidth 32).msb = decide (2 ^ 31 ≤ slot.toNat % 2 ^ 32) := by
    rw [BitVec.msb_eq_decide, BitVec.toNat_setWidth]
  rw [stamp, BitVec.toNat_signExtend, hmsb, BitVec.toNat_setWidth, BitVec.toNat_setWidth,
    Nat.mod_eq_of_lt (by omega)]
  simp only [decide_eq_true_eq]

/-- A slot that an `int` holds is kept as it is. -/
lemma stamp_of_lt {slot : BitVec 64} (h : slot.toNat < 2 ^ 31) : stamp slot = slot := by
  apply BitVec.eq_of_toNat_eq
  rw [toNat_stamp, Nat.mod_eq_of_lt (by omega), if_neg (by omega), Nat.add_zero]

/-- What was kept of a slot is never taken for a later slot, and for the same slot only if an `int`
holds it. -/
lemma currTs_of_stamp {now now' : BitVec 64} (hle : now ≤ now')
    (h : stamp (currTs now) = currTs now') :
    currTs now = currTs now' ∧ (currTs now').toNat < 2 ^ 31 := by
  have hslot := congrArg BitVec.toNat h
  have hle' := BitVec.le_def.mp (currTs_mono hle)
  have hbound : (currTs now').toNat < 2 ^ 64 - 2 ^ 32 := by
    rw [toNat_currTs]
    have := now'.isLt
    omega
  by_cases hlt : (currTs now).toNat < 2 ^ 31
  · rw [stamp_of_lt hlt] at h
    exact ⟨h, h ▸ hlt⟩
  · rw [toNat_stamp] at hslot
    split at hslot
    · omega
    · omega

/-! ### The outcomes of a call -/

lemma reconfigure_cases (p : Pirl) (newMaxRate : ℤ) :
    (newMaxRate < PIRL_MIN_RATE ∧ newMaxRate ≠ PIRL_DISABLED ∧ p.reconfigure newMaxRate = none) ∨
    ((newMaxRate = PIRL_DISABLED ∨ PIRL_MIN_RATE ≤ newMaxRate) ∧
      p.reconfigure newMaxRate = some ⟨⟨0, p.bucket.tokens⟩, newMaxRate⟩) := by
  by_cases h : newMaxRate < PIRL_MIN_RATE ∧ newMaxRate ≠ PIRL_DISABLED
  · exact .inl ⟨h.1, h.2, if_pos h⟩
  · refine .inr ⟨?_, if_neg h⟩
    rcases not_and_or.mp h with h | h
    · exact .inr (not_lt.mp h)
    · exact .inl (not_not.mp h)

lemma filterPkt_disabled {p : Pirl} (h : p.maxRate = PIRL_DISABLED) (now : BitVec 64) :
    p.filterPkt now = (false, p) := by
  rw [filterPkt, if_neg (not_not.mpr h)]

lemma filterPkt_refill {p : Pirl} {now : BitVec 64} (h : p.maxRate ≠ PIRL_DISABLED)
    (hrate : 0 < allowance p.maxRate) (hts : p.bucket.lastSeenTs ≠ currTs now) :
    p.filterPkt now =
      (false, ⟨⟨stamp (currTs now), allowance p.maxRate - 1⟩, p.maxRate⟩) := by
  have hdec : (p.resetBucket ((currTs now).setWidth 32)).pirlDec =
      (true, ⟨⟨stamp (currTs now), allowance p.maxRate - 1⟩, p.maxRate⟩) := if_pos hrate
  simp [filterPkt, h, hts, hdec]

lemma filterPkt_token {p : Pirl} {now : BitVec 64} (h : p.maxRate ≠ PIRL_DISABLED)
    (hts : p.bucket.lastSeenTs = currTs now) (htokens : 0 < p.bucket.tokens) :
    p.filterPkt now = (false, ⟨⟨currTs now, p.bucket.tokens - 1⟩, p.maxRate⟩) := by
  simp [filterPkt, h, hts, pirlDec, htokens]

lemma filterPkt_empty {p : Pirl} {now : BitVec 64} (h : p.maxRate ≠ PIRL_DISABLED)
    (hts : p.bucket.lastSeenTs = currTs now) (htokens : p.bucket.tokens ≤ 0) :
    p.filterPkt now = (true, p) := by
  simp [filterPkt, h, hts, pirlDec, not_lt.mpr htokens]

end Pirl

/-! ## Runs -/

/-- A call of the limiter.  Every `filter_pkt` reads the clock. -/
inductive PirlCall
  | filterPkt (now : BitVec 64)
  | reconfigure (newMaxRate : ℤ)
  deriving DecidableEq, Repr

/-- The readings of the clock, in order. -/
def readings (calls : List PirlCall) : List (BitVec 64) :=
  calls.filterMap fun
    | .filterPkt now => some now
    | .reconfigure _ => none

/-- The limiter with the slots of the packets that it has let pass since it was last reconfigured.
-/
structure Limiter where
  pirl : Pirl
  passed : List (BitVec 64)
  deriving DecidableEq, Repr

namespace Limiter

/-- One call. -/
def next (s : Limiter) : PirlCall → Limiter
  | .filterPkt now =>
      ⟨(s.pirl.filterPkt now).2,
        if (s.pirl.filterPkt now).1 then s.passed else currTs now :: s.passed⟩
  | .reconfigure newMaxRate =>
      match s.pirl.reconfigure newMaxRate with
      | some p => ⟨p, []⟩
      | none => s

/-- What the limiter is for: no more packets pass in a slot than are allowed, a packet is dropped
only if that many have passed in its slot, and none is dropped by a limiter that is disabled. -/
def Limits (s : Limiter) : PirlCall → Prop
  | .filterPkt now =>
      (s.pirl.maxRate ≠ PIRL_DISABLED →
        (∀ slot,
          ((s.next (.filterPkt now)).passed.count slot : ℤ) ≤ Pirl.allowance s.pirl.maxRate) ∧
        ((s.pirl.filterPkt now).1 = true →
          (s.passed.count (currTs now) : ℤ) = Pirl.allowance s.pirl.maxRate)) ∧
      (s.pirl.maxRate = PIRL_DISABLED → (s.pirl.filterPkt now).1 = false)
  | .reconfigure _ => True

end Limiter

/-- What is asked of a limiter, whatever it answers: its configured rate, the clock as it was last
read, and the slots of the calls since it was last reconfigured, the last one first. -/
structure Load where
  maxRate : ℤ
  clock : BitVec 64
  called : List (BitVec 64)
  deriving DecidableEq, Repr

namespace Load

/-- One call. -/
def next (l : Load) : PirlCall → Load
  | .filterPkt now => { l with clock := now, called := currTs now :: l.called }
  | .reconfigure newMaxRate =>
      if newMaxRate < PIRL_MIN_RATE ∧ newMaxRate ≠ PIRL_DISABLED then l
      else { l with maxRate := newMaxRate, called := [] }

/-- The clock does not run backwards. -/
def NotBefore (l : Load) : PirlCall → Prop
  | .filterPkt now => l.clock ≤ now
  | .reconfigure _ => True

/-- Where a limiter that is not disabled does its work: not in slot 0, and in a slot that an `int`
cannot hold only if no more packets come than may pass. -/
def InReach (l : Load) : PirlCall → Prop
  | .filterPkt now =>
      l.maxRate ≠ PIRL_DISABLED →
        currTs now ≠ 0 ∧
        (2 ^ 31 ≤ (currTs now).toNat →
          (l.called.count (currTs now) : ℤ) < Pirl.allowance l.maxRate)
  | .reconfigure _ => True

end Load

/-! ## The limiter along a run -/

/-- What a limiter is, in terms of what was asked of it. -/
structure Tracks (s : Limiter) (l : Load) : Prop where
  maxRate_eq : s.pirl.maxRate = l.maxRate
  valid : l.maxRate = PIRL_DISABLED ∨ PIRL_MIN_RATE ≤ l.maxRate
  le_clock : ∀ slot ∈ l.called, slot ≤ currTs l.clock
  fresh : l.called = [] → s.pirl.bucket.lastSeenTs = 0 ∧ s.passed = []
  count_le : ∀ slot, s.passed.count slot ≤ l.called.count slot
  /-- In the slots that an `int` cannot hold, all packets pass. -/
  overflown : ∀ slot, 2 ^ 31 ≤ slot.toNat → s.passed.count slot = l.called.count slot
  /-- The bucket is that of the last slot, and a packet has passed for each token it lacks. -/
  seen : l.maxRate ≠ PIRL_DISABLED → l.called ≠ [] →
    s.pirl.bucket.lastSeenTs = Pirl.stamp (currTs l.clock) ∧ currTs l.clock ≠ 0 ∧
      ((currTs l.clock).toNat < 2 ^ 31 → 0 ≤ s.pirl.bucket.tokens ∧
        s.pirl.bucket.tokens + s.passed.count (currTs l.clock) = Pirl.allowance l.maxRate)
  bounded : l.maxRate ≠ PIRL_DISABLED →
    ∀ slot, (s.passed.count slot : ℤ) ≤ Pirl.allowance l.maxRate

namespace Tracks

variable {s : Limiter} {l : Load} {now : BitVec 64}

lemma min_le (h : Tracks s l) (hon : l.maxRate ≠ PIRL_DISABLED) : PIRL_MIN_RATE ≤ l.maxRate :=
  h.valid.resolve_left hon

/-- A limiter that has just been reconfigured. -/
lemma of_reconfigure {memory p : Pirl} {maxRate : ℤ} (h : memory.reconfigure maxRate = some p)
    (clock : BitVec 64) : Tracks ⟨p, []⟩ ⟨maxRate, clock, []⟩ := by
  obtain ⟨_, _, hnone⟩ | ⟨hvalid, hsome⟩ := memory.reconfigure_cases maxRate
  · rw [hnone] at h
    cases h
  · obtain rfl := Option.some.inj (hsome.symm.trans h)
    exact
      { maxRate_eq := rfl
        valid := hvalid
        le_clock := by simp
        fresh := by simp
        count_le := by simp
        overflown := by simp
        seen := by simp
        bounded := by
          intro hon slot
          simpa using le_of_lt (Pirl.allowance_pos (hvalid.resolve_left hon)) }

/-- If the bucket is that of the slot of the call, a packet has passed for each token it lacks. -/
lemma tokens_of_seen (h : Tracks s l) (hon : l.maxRate ≠ PIRL_DISABLED) (hclock : l.clock ≤ now)
    (hzero : currTs now ≠ 0) (hts : s.pirl.bucket.lastSeenTs = currTs now) :
    (currTs now).toNat < 2 ^ 31 ∧ 0 ≤ s.pirl.bucket.tokens ∧
      s.pirl.bucket.tokens + s.passed.count (currTs now) = Pirl.allowance l.maxRate := by
  have hcalled : l.called ≠ [] := by
    intro hnil
    exact hzero (hts.symm.trans (h.fresh hnil).1)
  obtain ⟨hstamp, -, htokens⟩ := h.seen hon hcalled
  obtain ⟨hslot, hlt⟩ := Pirl.currTs_of_stamp hclock (hstamp.symm.trans hts)
  rw [hslot] at htokens
  exact ⟨hlt, htokens hlt⟩

/-- If the bucket is that of another slot, no packet has passed in the slot of the call, as far as
an `int` holds the slot. -/
lemma count_of_unseen (h : Tracks s l) (hon : l.maxRate ≠ PIRL_DISABLED) (hclock : l.clock ≤ now)
    (hlt : (currTs now).toNat < 2 ^ 31) (hts : s.pirl.bucket.lastSeenTs ≠ currTs now) :
    s.passed.count (currTs now) = 0 := by
  have hle := h.count_le (currTs now)
  suffices l.called.count (currTs now) = 0 by omega
  rw [List.count_eq_zero]
  intro hmem
  have hslot : currTs now = currTs l.clock :=
    BitVec.le_antisymm (h.le_clock _ hmem) (Pirl.currTs_mono hclock)
  obtain ⟨hstamp, -, -⟩ := h.seen hon (List.ne_nil_of_mem hmem)
  rw [← hslot, Pirl.stamp_of_lt hlt] at hstamp
  exact hts hstamp

lemma le_clock_next (h : Tracks s l) (hclock : l.clock ≤ now) :
    ∀ slot ∈ currTs now :: l.called, slot ≤ currTs now := by
  intro slot hslot
  obtain rfl | hslot := List.mem_cons.mp hslot
  · exact BitVec.le_refl _
  · exact BitVec.le_trans (h.le_clock slot hslot) (Pirl.currTs_mono hclock)

/-- A packet passes a limiter that is not disabled. -/
lemma pass (h : Tracks s l) (tokens : ℤ) (hclock : l.clock ≤ now) (hzero : currTs now ≠ 0)
    (hle : (s.passed.count (currTs now) + 1 : ℤ) ≤ Pirl.allowance l.maxRate)
    (htokens : (currTs now).toNat < 2 ^ 31 → 0 ≤ tokens ∧
      tokens + (s.passed.count (currTs now) + 1) = Pirl.allowance l.maxRate) :
    Tracks ⟨⟨⟨Pirl.stamp (currTs now), tokens⟩, s.pirl.maxRate⟩, currTs now :: s.passed⟩
      (l.next (.filterPkt now)) where
  maxRate_eq := h.maxRate_eq
  valid := h.valid
  le_clock := h.le_clock_next hclock
  fresh hnil := absurd hnil (List.cons_ne_nil _ _)
  count_le slot := by
    have hslot := h.count_le slot
    simp only [Load.next, List.count_cons]
    omega
  overflown slot hslot := by
    simp only [Load.next, List.count_cons, h.overflown slot hslot]
  seen _ _ := by
    simpa [Load.next] using ⟨hzero, htokens⟩
  bounded hon slot := by
    have hslot := h.bounded hon slot
    by_cases heq : currTs now = slot
    · subst heq
      simpa [Load.next] using hle
    · simpa [Load.next, List.count_cons_of_ne heq] using hslot

/-- A packet is dropped. -/
lemma drop (h : Tracks s l) (hclock : l.clock ≤ now) (hzero : currTs now ≠ 0)
    (hlt : (currTs now).toNat < 2 ^ 31) (hts : s.pirl.bucket.lastSeenTs = currTs now)
    (htokens : 0 ≤ s.pirl.bucket.tokens ∧
      s.pirl.bucket.tokens + s.passed.count (currTs now) = Pirl.allowance l.maxRate) :
    Tracks s (l.next (.filterPkt now)) where
  maxRate_eq := h.maxRate_eq
  valid := h.valid
  le_clock := h.le_clock_next hclock
  fresh hnil := absurd hnil (List.cons_ne_nil _ _)
  count_le slot := by
    have hslot := h.count_le slot
    simp only [Load.next, List.count_cons]
    omega
  overflown slot hslot := by
    have hne : currTs now ≠ slot := by
      rintro rfl
      omega
    simpa [Load.next, List.count_cons_of_ne hne] using h.overflown slot hslot
  seen _ _ := by
    simp only [Load.next]
    exact ⟨hts.trans (Pirl.stamp_of_lt hlt).symm, hzero, fun _ => htokens⟩
  bounded := h.bounded

/-- A packet passes a limiter that is disabled. -/
lemma pass_disabled (h : Tracks s l) (hoff : l.maxRate = PIRL_DISABLED) (hclock : l.clock ≤ now) :
    Tracks ⟨s.pirl, currTs now :: s.passed⟩ (l.next (.filterPkt now)) where
  maxRate_eq := h.maxRate_eq
  valid := h.valid
  le_clock := h.le_clock_next hclock
  fresh hnil := absurd hnil (List.cons_ne_nil _ _)
  count_le slot := by
    have hslot := h.count_le slot
    simp only [Load.next, List.count_cons]
    omega
  overflown slot hslot := by
    simp only [Load.next, List.count_cons, h.overflown slot hslot]
  seen hon _ := absurd hoff hon
  bounded hon := absurd hoff hon

/-! ### One step -/

/-- A call in reach limits what passes, and is tracked. -/
lemma filterPkt (h : Tracks s l) (hclock : l.clock ≤ now) (hin : l.InReach (.filterPkt now)) :
    s.Limits (.filterPkt now) ∧ Tracks (s.next (.filterPkt now)) (l.next (.filterPkt now)) := by
  by_cases hon : l.maxRate = PIRL_DISABLED
  · have hout := Pirl.filterPkt_disabled (h.maxRate_eq.trans hon) now
    rw [Limiter.Limits, Limiter.next, hout]
    refine ⟨⟨fun hne => absurd (h.maxRate_eq.trans hon) hne, fun _ => rfl⟩, ?_⟩
    exact h.pass_disabled hon hclock
  · have hon' : s.pirl.maxRate ≠ PIRL_DISABLED := h.maxRate_eq ▸ hon
    obtain ⟨hzero, hover⟩ := hin hon
    have hrate := Pirl.allowance_pos (h.min_le hon)
    by_cases hts : s.pirl.bucket.lastSeenTs = currTs now
    · obtain ⟨hlt, htokens⟩ := h.tokens_of_seen hon hclock hzero hts
      by_cases hpos : 0 < s.pirl.bucket.tokens
      · have hout := Pirl.filterPkt_token hon' hts hpos
        have hnext := h.pass (s.pirl.bucket.tokens - 1) hclock hzero (by omega)
          (fun _ => by omega)
        rw [Pirl.stamp_of_lt hlt] at hnext
        rw [Limiter.Limits, Limiter.next, hout]
        refine ⟨⟨fun _ => ⟨?_, by simp⟩, fun hoff => absurd hoff hon'⟩, hnext⟩
        rw [h.maxRate_eq]
        exact hnext.bounded hon
      · have hout := Pirl.filterPkt_empty hon' hts (not_lt.mp hpos)
        have hnext := h.drop hclock hzero hlt hts htokens
        rw [Limiter.Limits, Limiter.next, hout]
        refine ⟨⟨fun _ => ⟨?_, fun _ => ?_⟩, fun hoff => absurd hoff hon'⟩, hnext⟩
        · rw [h.maxRate_eq]
          exact h.bounded hon
        · rw [h.maxRate_eq]
          omega
    · have hout := Pirl.filterPkt_refill hon' (h.maxRate_eq ▸ hrate) hts
      have hcount : (s.passed.count (currTs now) + 1 : ℤ) ≤ Pirl.allowance l.maxRate := by
        by_cases hlt : (currTs now).toNat < 2 ^ 31
        · rw [h.count_of_unseen hon hclock hlt hts]
          omega
        · have hload := hover (Nat.le_of_not_lt hlt)
          have hle := h.count_le (currTs now)
          omega
      have hnext := h.pass (Pirl.allowance l.maxRate - 1) hclock hzero hcount
        (fun hlt => by
          rw [h.count_of_unseen hon hclock hlt hts]
          omega)
      rw [← h.maxRate_eq] at hnext
      rw [Limiter.Limits, Limiter.next, hout]
      refine ⟨⟨fun _ => ⟨?_, by simp⟩, fun hoff => absurd hoff hon'⟩, hnext⟩
      rw [h.maxRate_eq]
      exact hnext.bounded hon

lemma reconfigure (h : Tracks s l) (newMaxRate : ℤ) :
    Tracks (s.next (.reconfigure newMaxRate)) (l.next (.reconfigure newMaxRate)) := by
  obtain ⟨hlt, hne, hnone⟩ | ⟨hvalid, hsome⟩ := s.pirl.reconfigure_cases newMaxRate
  · rw [Limiter.next, Load.next, hnone, if_pos ⟨hlt, hne⟩]
    exact h
  · have hneg : ¬(newMaxRate < PIRL_MIN_RATE ∧ newMaxRate ≠ PIRL_DISABLED) := by
      rintro ⟨hlt, hne⟩
      exact hvalid.elim hne (not_le.mpr hlt)
    rw [Limiter.next, Load.next, hsome, if_neg hneg]
    exact of_reconfigure hsome l.clock

/-- One call in reach. -/
lemma step (h : Tracks s l) {a : PirlCall} (hclock : l.NotBefore a) (hin : l.InReach a) :
    s.Limits a ∧ Tracks (s.next a) (l.next a) := by
  cases a with
  | filterPkt now => exact h.filterPkt hclock hin
  | reconfigure newMaxRate => exact ⟨trivial, h.reconfigure newMaxRate⟩

end Tracks

/-- A run in reach is limited, whatever the memory of the limiter held. -/
lemma allSteps_limits {s : Limiter} {l : Load} {calls : List PirlCall} (h : Tracks s l)
    (hclock : AllSteps Load.next Load.NotBefore l calls)
    (hin : AllSteps Load.next Load.InReach l calls) :
    AllSteps Limiter.next Limiter.Limits s calls := by
  induction calls generalizing s l with
  | nil => exact trivial
  | cons a calls ih =>
      obtain ⟨hlimits, hnext⟩ := h.step hclock.1 hin.1
      exact ⟨hlimits, ih hnext hclock.2 hin.2⟩

/-! ### A bucket that was left empty -/

/-- A limiter whose bucket is empty as long as the clock is in slot 0. -/
structure TracksEmpty (s : Limiter) (l : Load) : Prop extends Tracks s l where
  empty : currTs l.clock = 0 → s.pirl.bucket.tokens = 0

namespace TracksEmpty

variable {s : Limiter} {l : Load}

/-- Such a limiter drops the first packet of slot 0, and lets every packet pass in a slot that an
`int` cannot hold. -/
lemma inReach (h : TracksEmpty s l) {a : PirlCall} (hclock : l.NotBefore a) (hlimits : s.Limits a) :
    l.InReach a := by
  cases a with
  | reconfigure _ => exact trivial
  | filterPkt now =>
      intro hon
      have hon' : s.pirl.maxRate ≠ PIRL_DISABLED := h.maxRate_eq ▸ hon
      have hrate := Pirl.allowance_pos (h.min_le hon)
      obtain ⟨hpassed, hdropped⟩ := hlimits.1 hon'
      rw [h.maxRate_eq] at hpassed hdropped
      have hzero : currTs now ≠ 0 := by
        intro hzero
        have hclock0 := Pirl.currTs_eq_zero_of_le hclock hzero
        have hcalled : l.called = [] := by
          by_contra hne
          exact (h.seen hon hne).2.1 hclock0
        obtain ⟨hts, hnone⟩ := h.fresh hcalled
        have hout := Pirl.filterPkt_empty hon' (hts.trans hzero.symm) (le_of_eq (h.empty hclock0))
        have hcount := hdropped (congrArg Prod.fst hout)
        simp only [hnone, List.count_nil] at hcount
        omega
      refine ⟨hzero, fun hover => ?_⟩
      have hts : s.pirl.bucket.lastSeenTs ≠ currTs now := by
        intro hts
        have hlt := (h.tokens_of_seen hon hclock hzero hts).1
        omega
      have hcount := hpassed (currTs now)
      rw [Limiter.next, Pirl.filterPkt_refill hon' (h.maxRate_eq ▸ hrate) hts] at hcount
      simp only [Bool.false_eq_true, if_false, List.count_cons_self,
        h.overflown _ hover] at hcount
      omega

lemma step (h : TracksEmpty s l) {a : PirlCall} (hclock : l.NotBefore a) (hin : l.InReach a) :
    TracksEmpty (s.next a) (l.next a) where
  toTracks := (h.toTracks.step hclock hin).2
  empty hzero := by
    cases a with
    | filterPkt now =>
        have hclock0 := Pirl.currTs_eq_zero_of_le hclock hzero
        have hoff : l.maxRate = PIRL_DISABLED := by
          by_contra hon
          exact (hin hon).1 hzero
        rw [Limiter.next, Pirl.filterPkt_disabled (h.maxRate_eq.trans hoff)]
        exact h.empty hclock0
    | reconfigure newMaxRate =>
        obtain ⟨hlt, hne, hnone⟩ | ⟨hvalid, hsome⟩ := s.pirl.reconfigure_cases newMaxRate
        · rw [Load.next, if_pos ⟨hlt, hne⟩] at hzero
          rw [Limiter.next, hnone]
          exact h.empty hzero
        · rw [Load.next] at hzero
          rw [Limiter.next, hsome]
          apply h.empty
          split at hzero
          · exact hzero
          · exact hzero

end TracksEmpty

lemma allSteps_inReach {s : Limiter} {l : Load} {calls : List PirlCall} (h : TracksEmpty s l)
    (hclock : AllSteps Load.next Load.NotBefore l calls)
    (hlimits : AllSteps Limiter.next Limiter.Limits s calls) :
    AllSteps Load.next Load.InReach l calls := by
  induction calls generalizing s l with
  | nil => exact trivial
  | cons a calls ih =>
      have hin := h.inReach hclock.1 hlimits.1
      exact ⟨hin, ih (h.step hclock.1 hin) hclock.2 hlimits.2⟩

/-! ## The whole run -/

lemma notBefore_of_pairwise {l : Load} {calls : List PirlCall}
    (hclock : (readings calls).Pairwise (· ≤ ·)) (hfirst : ∀ now ∈ readings calls, l.clock ≤ now) :
    AllSteps Load.next Load.NotBefore l calls := by
  induction calls generalizing l with
  | nil => exact trivial
  | cons a calls ih =>
      cases a with
      | filterPkt now =>
          obtain ⟨hnow, hlater⟩ := List.pairwise_cons.mp hclock
          exact ⟨hfirst now List.mem_cons_self, ih hlater hnow⟩
      | reconfigure newMaxRate =>
          refine ⟨trivial, ih hclock ?_⟩
          intro now hmem
          have hnow := hfirst now hmem
          rw [Load.next]
          split
          · exact hnow
          · exact hnow

/-- **The limit on packet-ins.**  Whatever the memory of the limiter held when it was constructed,
it keeps to its limit along a run exactly if the run stays within its reach. -/
theorem limits_iff_inReach (maxRate : ℤ)
    (hrate : PIRL_MIN_RATE ≤ maxRate ∨ maxRate = PIRL_DISABLED) (calls : List PirlCall)
    (hclock : (readings calls).Pairwise (· ≤ ·)) :
    (∀ memory p, Pirl.construct memory maxRate = some p →
      AllSteps Limiter.next Limiter.Limits ⟨p, []⟩ calls) ↔
    AllSteps Load.next Load.InReach ⟨maxRate, 0, []⟩ calls := by
  have hsteps : AllSteps Load.next Load.NotBefore ⟨maxRate, 0, []⟩ calls :=
    notBefore_of_pairwise hclock fun now _ => BitVec.le_def.mpr (Nat.zero_le now.toNat)
  constructor
  · intro h
    obtain ⟨hlt, hne, -⟩ | ⟨-, hp⟩ := Pirl.reconfigure_cases ⟨⟨0, 0⟩, 0⟩ maxRate
    · exact absurd hrate (not_or.mpr ⟨not_le.mpr hlt, hne⟩)
    · exact allSteps_inReach ⟨.of_reconfigure hp 0, fun _ => rfl⟩ hsteps (h _ _ hp)
  · intro hin memory p hp
    exact allSteps_limits (.of_reconfigure hp 0) hsteps hin

/-- One packet in a slot, and two in the next one. -/
theorem limits_of_two_slots :
    (readings [.filterPkt 199, .filterPkt 200, .filterPkt 299]).Pairwise (· ≤ ·) ∧
    ∀ memory p, Pirl.construct memory 20 = some p →
      AllSteps Limiter.next Limiter.Limits ⟨p, []⟩
        [.filterPkt 199, .filterPkt 200, .filterPkt 299] := by
  have hclock : (readings [.filterPkt 199, .filterPkt 200, .filterPkt 299]).Pairwise (· ≤ ·) := by
    decide
  refine ⟨hclock, (limits_iff_inReach 20 (by decide) _ hclock).mpr ?_⟩
  simp only [AllSteps, Load.InReach, Load.next]
  decide

/-- In slot `2 ^ 31`, where one packet may pass, two do: the bucket is filled at every call. -/
theorem limit_exceeded :
    (readings [.filterPkt 214748364800, .filterPkt 214748364899]).Pairwise (· ≤ ·) ∧
    Pirl.construct ⟨⟨0, 0⟩, 0⟩ 10 = some ⟨⟨0, 0⟩, 10⟩ ∧
    ¬AllSteps Limiter.next Limiter.Limits ⟨⟨⟨0, 0⟩, 10⟩, []⟩
      [.filterPkt 214748364800, .filterPkt 214748364899] := by
  refine ⟨by decide, by decide, ?_⟩
  rintro ⟨-, hsecond, -⟩
  have hcount := (hsecond.1 (by decide)).1 (currTs 214748364800)
  exact absurd hcount (by decide)

end Xdpd.OpenFlow
