import Mathlib.Data.Finset.Card
import Mathlib.Data.Fintype.Basic
import Xdpd.Dpdk.PktinDispatcher

/-!
# Draining the packet-ins of a switch

`wait_pktin_draining` asks that no more packets of the switch are enqueued when it is called, and
should then return when there are none left.  The packet-in thread counts the packets with the
semaphore, which is posted after the packet has been put into the ring.

The wait ends with no packet of the switch left, and is never stuck, in the runs in which the
packets of the switch are among those that the semaphore counts, when its value is read, and in
which the packet-in thread only goes on without the semaphore if the ring is empty:
`drained_of_counted`.
-/

namespace Xdpd.Dpdk.Pktin

open Xdpd.Lib

variable {τ : Type}

/-- The thread holds `drain_mutex`. -/
def Pc.inside : Pc → Bool
  | drainSet _ => true
  | drainWait _ => true
  | drainUnlock _ => true
  | _ => false

/-- The switch whose packets a thread waits for. -/
def Pc.waits : Pc → Option ℕ
  | drainWait sw => some sw
  | _ => none

/-- No packet of the switch is in the ring, or being dispatched. -/
structure Gone (s : Dispatcher τ) (sw : ℕ) : Prop where
  ring : ∀ pkt ∈ s.pktIns, pkt.sw ≠ sw
  dispatch : ∀ pkt, s.point = .dispatch pkt → pkt.sw ≠ sw

/-- When the wait is over there are no packets of the switch, and there are no credits left for an
empty ring, unless a core is about to post the semaphore. -/
structure Drained (s : State τ) : Prop where
  gone : ∀ t sw, s.pc t = .drainUnlock sw → Gone s.shared sw
  notStuck : ∀ n, s.shared.drainCredits = some (n + 1) → s.shared.pktIns = [] →
    ∃ t, s.pc t = .enqueuePost

/-- No packet is enqueued for a switch that is being destroyed: "*before* this function is called,
NO more PKT_INs shall be enqueued for that LSI". -/
def Promised (s : State τ) : Action τ → Prop
  | .enqueuePktin _ pkt _ => ∀ t, (s.pc t).destroys ≠ some pkt.sw
  | _ => True

/-- When the packet-in thread reads the value of the semaphore, the packets of the switch that is
being destroyed are among as many as that in the ring; when it looks into the ring after
`sem_timedwait` has failed, the ring is empty. -/
def Counted (s : State τ) : Action τ → Prop
  | .processPacketIns =>
      (s.shared.point = .sample → ∀ t, ∀ sw ∈ (s.pc t).waits,
        ∀ pkt ∈ s.shared.pktIns.drop s.shared.pktinSem, pkt.sw ≠ sw) ∧
      (s.shared.point = .dequeue false → s.shared.pktIns = [])
  | _ => True

instance [Fintype τ] (s : State τ) (a : Action τ) : Decidable (Promised s a) := by
  cases a <;> unfold Promised <;> infer_instance

instance [Fintype τ] (s : State τ) (a : Action τ) : Decidable (Counted s a) := by
  cases a <;> unfold Counted <;> infer_instance

/-! ## The packet-in thread -/

/-- No draining is under way. -/
structure Quiet (s : Dispatcher τ) : Prop where
  destroyingSw : s.destroyingSw = false
  pktinDrained : s.pktinDrained = 0
  drainCredits : s.drainCredits = none
  point : s.point ≠ .sample ∧ s.point ≠ .reset ∧ s.point ≠ .drained

/-- How far the draining for a switch has come. -/
inductive Phase (s : Dispatcher τ) (sw : ℕ) : Prop
  /-- the credits have not been read -/
  | requested (hdestroying : s.destroyingSw = true) (hdrained : s.pktinDrained = 0)
      (hcredits : s.drainCredits = none) (hpoint : s.point ≠ .reset ∧ s.point ≠ .drained)
  /-- the packets of the switch are those that there are credits for -/
  | counting {n : ℕ} (hdestroying : s.destroyingSw = true) (hdrained : s.pktinDrained = 0)
      (hcredits : s.drainCredits = some n) (hdrop : ∀ pkt ∈ s.pktIns.drop n, pkt.sw ≠ sw)
      (hpoint : s.point ≠ .sample ∧ s.point ≠ .drained) (hreset : s.point = .reset → n = 0)
  /-- there are none left, which has to be told -/
  | finished (hdestroying : s.destroyingSw = false) (hdrained : s.pktinDrained = 0)
      (hcredits : s.drainCredits = none) (hpoint : s.point = .drained) (hgone : Gone s sw)
  /-- it has been told -/
  | told (hdestroying : s.destroyingSw = false) (hdrained : s.pktinDrained = 1)
      (hcredits : s.drainCredits = none)
      (hpoint : s.point ≠ .sample ∧ s.point ≠ .reset ∧ s.point ≠ .drained) (hgone : Gone s sw)

section PacketInThread

variable {s s' : Dispatcher τ} {sw : ℕ}

/-- What a step of the packet-in thread can be. -/
inductive Moves (s : Dispatcher τ) : Dispatcher τ → Prop
  | pass (hpoint : s.point = .head)
      (hgo : s.destroyingSw = false ∨ ∃ n, s.drainCredits = some (n + 1)) :
      Moves s { s with point := .wait }
  | goSample (hpoint : s.point = .head) (hdestroying : s.destroyingSw = true)
      (hcredits : s.drainCredits = none) : Moves s { s with point := .sample }
  | goReset (hpoint : s.point = .head) (hdestroying : s.destroyingSw = true)
      (hcredits : s.drainCredits = some 0) : Moves s { s with point := .reset }
  | sample (hpoint : s.point = .sample) :
      Moves s { s with
        drainCredits := some s.pktinSem, point := if s.pktinSem = 0 then .reset else .wait }
  | reset (hpoint : s.point = .reset) :
      Moves s { s with drainCredits := none, destroyingSw := false, point := .drained }
  | tell (hpoint : s.point = .drained) :
      Moves s { s with pktinDrained := s.pktinDrained + 1, point := .wait }
  | take {n : ℕ} (hpoint : s.point = .wait) (hsem : s.pktinSem = n + 1) :
      Moves s { s with pktinSem := n, point := .dequeue true }
  | empty {taken : Bool} (hpoint : s.point = .dequeue taken) (hring : s.pktIns = []) :
      Moves s { s with point := .head }
  | dequeue {taken : Bool} {pkt : Datapacket} {pktIns : List Datapacket}
      (hpoint : s.point = .dequeue taken) (hring : s.pktIns = pkt :: pktIns) :
      Moves s { s with
        pktIns := pktIns, drainCredits := s.drainCredits.map fun n => n - 1,
        point := .dispatch pkt }
  | dispatched {pkt : Datapacket} (hpoint : s.point = .dispatch pkt) :
      Moves s { s with point := .head }

lemma moves_of_process (hs : processPacketIns s = some s') : Moves s s' := by
  unfold processPacketIns at hs
  split at hs
  · next hpoint =>
    split at hs
    · next hdestroying =>
      split at hs <;> cases hs
      · next hcredits => exact .goSample hpoint hdestroying hcredits
      · next hcredits => exact .goReset hpoint hdestroying hcredits
      · next n hcredits => exact .pass hpoint (.inr ⟨n, hcredits⟩)
    · next hdestroying =>
      cases hs
      exact .pass hpoint (.inl (Bool.not_eq_true _ ▸ hdestroying))
  · next hpoint =>
    cases hs
    exact .sample hpoint
  · next hpoint =>
    cases hs
    exact .reset hpoint
  · next hpoint =>
    cases hs
    exact .tell hpoint
  · next hpoint =>
    split at hs <;> cases hs
    · next n hsem => exact .take hpoint hsem
  · next taken hpoint =>
    split at hs <;> cases hs
    · next hring => exact .empty hpoint hring
    · next pkt pktIns hring => exact .dequeue hpoint hring
  · next pkt hpoint =>
    cases hs
    exact .dispatched hpoint

/-- The packets that are left are among those there were. -/
lemma Gone.moves (h : Gone s sw) (hs : Moves s s') : Gone s' sw := by
  cases hs with
  | sample hpoint =>
      refine ⟨h.ring, fun pkt heq => ?_⟩
      dsimp only at heq
      split at heq <;> exact absurd heq nofun
  | @dequeue taken pkt pktIns hpoint hring =>
      have hall := h.ring
      rw [hring, List.forall_mem_cons] at hall
      refine ⟨hall.2, fun pkt' heq => ?_⟩
      cases heq
      exact hall.1
  | _ => exact ⟨h.ring, nofun⟩

lemma Quiet.moves (h : Quiet s) (hs : Moves s s') : Quiet s' := by
  obtain ⟨hdestroying, hdrained, hcredits, hsample, hreset, hpoint⟩ := h
  cases hs with
  | goSample hhead htrue => exact absurd (hdestroying.symm.trans htrue) nofun
  | goReset hhead htrue => exact absurd (hdestroying.symm.trans htrue) nofun
  | sample heq => exact absurd heq hsample
  | reset heq => exact absurd heq hreset
  | tell heq => exact absurd heq hpoint
  | dequeue heq hring =>
      exact ⟨hdestroying, hdrained, by rw [hcredits]; rfl, nofun, nofun, nofun⟩
  | _ => exact ⟨hdestroying, hdrained, hcredits, nofun, nofun, nofun⟩

/-- The draining goes on. -/
lemma Phase.moves (h : Phase s sw) (hs : Moves s s') (hcounted : s.point = .sample →
    ∀ pkt ∈ s.pktIns.drop s.pktinSem, pkt.sw ≠ sw) : Phase s' sw := by
  cases h with
  | requested hdestroying hdrained hcredits hpoint =>
      cases hs with
      | goReset hhead _ hzero => exact absurd (hcredits.symm.trans hzero) nofun
      | sample heq =>
          refine .counting hdestroying hdrained rfl (hcounted heq) ⟨?_, ?_⟩ fun hreset => ?_
          · dsimp only
            split <;> exact nofun
          · dsimp only
            split <;> exact nofun
          · dsimp only at hreset
            split at hreset
            · assumption
            · exact absurd hreset nofun
      | reset heq => exact absurd heq hpoint.1
      | tell heq => exact absurd heq hpoint.2
      | dequeue heq hring =>
          exact .requested hdestroying hdrained (by rw [hcredits]; rfl) ⟨nofun, nofun⟩
      | _ => exact .requested hdestroying hdrained hcredits ⟨nofun, nofun⟩
  | @counting n hdestroying hdrained hcredits hdrop hpoint hreset =>
      cases hs with
      | goSample hhead _ hnone => exact absurd (hnone.symm.trans hcredits) nofun
      | goReset hhead _ hzero =>
          obtain rfl : n = 0 := Option.some.inj (hcredits.symm.trans hzero)
          exact .counting hdestroying hdrained hcredits hdrop ⟨nofun, nofun⟩ fun _ => rfl
      | sample heq => exact absurd heq hpoint.1
      | reset heq =>
          obtain rfl := hreset heq
          exact .finished rfl hdrained rfl rfl ⟨hdrop, nofun⟩
      | tell heq => exact absurd heq hpoint.2
      | @dequeue taken pkt pktIns heq hring =>
          refine .counting (n := n - 1) hdestroying hdrained (by rw [hcredits]; rfl) ?_
            ⟨nofun, nofun⟩ nofun
          -- the packet that is taken out is one of those that are counted
          intro pkt' hpkt'
          refine hdrop pkt' ?_
          rw [hring]
          cases n with
          | zero => exact List.mem_cons_of_mem pkt hpkt'
          | succ n => exact hpkt'
      | _ => exact .counting hdestroying hdrained hcredits hdrop ⟨nofun, nofun⟩ nofun
  | finished hdestroying hdrained hcredits hpoint hgone =>
      have hgone' := hgone.moves hs
      cases hs with
      | tell heq =>
          exact .told hdestroying (by rw [hdrained]) hcredits ⟨nofun, nofun, nofun⟩ hgone'
      | _ heq => exact absurd (hpoint.symm.trans heq) nofun
  | told hdestroying hdrained hcredits hpoint hgone =>
      have hgone' := hgone.moves hs
      obtain ⟨hsample, hreset, htell⟩ := hpoint
      cases hs with
      | goSample hhead htrue => exact absurd (hdestroying.symm.trans htrue) nofun
      | goReset hhead htrue => exact absurd (hdestroying.symm.trans htrue) nofun
      | sample heq => exact absurd heq hsample
      | reset heq => exact absurd heq hreset
      | tell heq => exact absurd heq htell
      | dequeue heq hring =>
          exact .told hdestroying hdrained (by rw [hcredits]; rfl) ⟨nofun, nofun, nofun⟩ hgone'
      | _ => exact .told hdestroying hdrained hcredits ⟨nofun, nofun, nofun⟩ hgone'

/-- `Gone` is about the ring and what is dispatched. -/
lemma Gone.of_others (h : Gone s sw) (hpoint : s'.point = s.point)
    (hring : ∀ pkt ∈ s'.pktIns, pkt ∈ s.pktIns ∨ pkt.sw ≠ sw) : Gone s' sw := by
  refine ⟨fun pkt hpkt => ?_, fun pkt heq => h.dispatch pkt (hpoint.symm.trans heq)⟩
  rcases hring pkt hpkt with hpkt | hne
  · exact h.ring pkt hpkt
  · exact hne

/-- What other threads do to the ring and the semaphore does not disturb the draining. -/
lemma Phase.of_others (h : Phase s sw) (hdestroying' : s'.destroyingSw = s.destroyingSw)
    (hdrained' : s'.pktinDrained = s.pktinDrained) (hcredits' : s'.drainCredits = s.drainCredits)
    (hpoint' : s'.point = s.point)
    (hring : ∀ n, ∀ pkt ∈ s'.pktIns.drop n, pkt ∈ s.pktIns.drop n ∨ pkt.sw ≠ sw) :
    Phase s' sw := by
  cases h with
  | requested hdestroying hdrained hcredits hpoint =>
      rw [← hdestroying'] at hdestroying
      rw [← hdrained'] at hdrained
      rw [← hcredits'] at hcredits
      rw [← hpoint'] at hpoint
      exact .requested hdestroying hdrained hcredits hpoint
  | @counting n hdestroying hdrained hcredits hdrop hpoint hreset =>
      rw [← hdestroying'] at hdestroying
      rw [← hdrained'] at hdrained
      rw [← hcredits'] at hcredits
      rw [← hpoint'] at hpoint hreset
      refine .counting hdestroying hdrained hcredits (fun pkt hpkt => ?_) hpoint hreset
      rcases hring n pkt hpkt with hpkt | hne
      · exact hdrop pkt hpkt
      · exact hne
  | finished hdestroying hdrained hcredits hpoint hgone =>
      exact .finished (hdestroying'.trans hdestroying) (hdrained'.trans hdrained)
        (hcredits'.trans hcredits) (hpoint'.trans hpoint) (hgone.of_others hpoint' (hring 0))
  | told hdestroying hdrained hcredits hpoint hgone =>
      rw [← hpoint'] at hpoint
      exact .told (hdestroying'.trans hdestroying) (hdrained'.trans hdrained)
        (hcredits'.trans hcredits) hpoint (hgone.of_others hpoint' (hring 0))

/-- `sem_timedwait` has failed. -/
lemma Phase.timedwaitFails (h : Phase s sw) (hwait : s.point = .wait) :
    Phase { s with point := .dequeue false } sw := by
  cases h with
  | requested hdestroying hdrained hcredits hpoint =>
      exact .requested hdestroying hdrained hcredits ⟨nofun, nofun⟩
  | counting hdestroying hdrained hcredits hdrop hpoint hreset =>
      exact .counting hdestroying hdrained hcredits hdrop ⟨nofun, nofun⟩ nofun
  | finished hdestroying hdrained hcredits hpoint hgone =>
      exact absurd (hpoint.symm.trans hwait) nofun
  | told hdestroying hdrained hcredits hpoint hgone =>
      exact .told hdestroying hdrained hcredits ⟨nofun, nofun, nofun⟩ ⟨hgone.ring, nofun⟩

/-- The wait ends once it has been told. -/
lemma Phase.woken (h : Phase s sw) {n : ℕ} (hn : s.pktinDrained = n + 1) :
    Gone s sw ∧ Quiet { s with pktinDrained := n } := by
  cases h with
  | told hdestroying hdrained hcredits hpoint hgone =>
      have hzero : n = 0 := Nat.succ.inj (hn.symm.trans hdrained)
      exact ⟨hgone, hdestroying, hzero, hcredits, hpoint⟩
  | _ _ hdrained => exact absurd (hn.symm.trans hdrained) nofun

end PacketInThread

/-! ## Every thread -/

/-- One from the semaphore that the packet-in thread has taken and not yet used. -/
def Point.taken : Point → ℕ
  | dequeue true => 1
  | _ => 0

/-- The semaphore counts the packets in the ring, apart from those of the cores that have still to
post it. -/
structure Paired (s : Dispatcher τ) (pc : τ → Pc) : Prop where
  ring : ∃ posting : Finset τ, (∀ t, t ∈ posting ↔ pc t = .enqueuePost) ∧
    s.pktinSem + posting.card + s.point.taken = s.pktIns.length
  credits : ∀ n, s.drainCredits = some n → n ≤ s.pktIns.length

/-- The invariant of the dispatcher. -/
structure Inv (s : State τ) : Prop where
  mutex : s.shared.drainMutex.Respected Pc.inside s.pc
  paired : Paired s.shared s.pc
  waiting : ∀ t sw, s.pc t = .drainWait sw → Phase s.shared sw
  unlocking : ∀ t sw, s.pc t = .drainUnlock sw → Gone s.shared sw
  quiet : (∀ t sw, s.pc t ≠ .drainWait sw) → Quiet s.shared

lemma Inv.drained {s : State τ} (h : Inv s) : Drained s := by
  refine ⟨h.unlocking, fun n hcredits hring => ?_⟩
  have hle := h.paired.credits (n + 1) hcredits
  rw [hring] at hle
  exact absurd hle (Nat.not_succ_le_zero n)

lemma Inv.init : Inv (init : State τ) := by
  refine ⟨nofun, ⟨⟨∅, fun t => ⟨nofun, nofun⟩, rfl⟩, nofun⟩, nofun, nofun, fun _ => ?_⟩
  exact ⟨rfl, rfl, rfl, nofun, nofun, nofun⟩

section Steps

variable {s s' : State τ} {t : τ}

lemma Paired.moves {d d' : Dispatcher τ} {pc : τ → Pc} (h : Paired d pc) (hs : Moves d d')
    (hcounted : d.point = .dequeue false → d.pktIns = []) : Paired d' pc := by
  obtain ⟨⟨posting, hposting, hsum⟩, hcredits⟩ := h
  cases hs with
  | sample hpoint =>
      rw [hpoint] at hsum
      have htaken : (if d.pktinSem = 0 then Point.reset else Point.wait).taken = 0 := by
        split <;> rfl
      refine ⟨⟨posting, hposting, ?_⟩, fun n hn => ?_⟩
      · rw [htaken]
        exact hsum
      · cases hn
        simp only [Point.taken] at hsum
        dsimp only
        omega
  | reset hpoint =>
      rw [hpoint] at hsum
      exact ⟨⟨posting, hposting, hsum⟩, nofun⟩
  | take hpoint hsem =>
      rw [hpoint, hsem] at hsum
      refine ⟨⟨posting, hposting, ?_⟩, hcredits⟩
      simp only [Point.taken] at hsum ⊢
      omega
  | @empty taken hpoint hring =>
      rw [hpoint, hring] at hsum
      refine ⟨⟨posting, hposting, ?_⟩, hcredits⟩
      rw [hring]
      -- one taken from the semaphore stands for a packet in the ring
      simp only [Point.taken, List.length_nil] at hsum ⊢
      omega
  | @dequeue taken pkt pktIns hpoint hring =>
      have htaken : taken = true := by
        cases taken
        · exact absurd (hring.symm.trans (hcounted hpoint)) nofun
        · rfl
      subst htaken
      rw [hpoint, hring] at hsum
      rw [hring] at hcredits
      simp only [Point.taken, List.length_cons] at hsum hcredits
      refine ⟨⟨posting, hposting, ?_⟩, fun n hn => ?_⟩
      · simp only [Point.taken]
        omega
      · obtain ⟨m, hm, rfl⟩ := Option.map_eq_some_iff.mp hn
        exact Nat.sub_le_of_le_add (hcredits m hm)
  | _ hpoint =>
      rw [hpoint] at hsum
      exact ⟨⟨posting, hposting, hsum⟩, hcredits⟩

/-- Threads that do not post, and go on to where they do not, do not matter. -/
lemma Paired.goto [DecidableEq τ] {d d' : Dispatcher τ} {pc : τ → Pc} {c : Pc} (h : Paired d pc)
    (hsem : d'.pktinSem = d.pktinSem) (hring : d'.pktIns = d.pktIns)
    (hcredits : d'.drainCredits = d.drainCredits) (hpoint : d'.point = d.point)
    (hpc : pc t ≠ .enqueuePost) (hc : c ≠ .enqueuePost) :
    Paired d' (Function.update pc t c) := by
  obtain ⟨⟨posting, hposting, hsum⟩, hle⟩ := h
  rw [← hsem, ← hring, ← hpoint] at hsum
  rw [← hcredits, ← hring] at hle
  refine ⟨⟨posting, ?_, hsum⟩, hle⟩
  refine Threads.forall_update (fun t' c' => t' ∈ posting ↔ c' = Pc.enqueuePost) ?_
    fun t' _ => hposting t'
  exact iff_of_false (fun hmem => hpc ((hposting t).mp hmem)) hc

/-- A packet is put into the ring, for which the semaphore has to be posted. -/
lemma Paired.enqueue [DecidableEq τ] {d : Dispatcher τ} {pc : τ → Pc} {pkt : Datapacket}
    (h : Paired d pc) (hpc : pc t ≠ .enqueuePost) :
    Paired { d with pktIns := d.pktIns ++ [pkt] } (Function.update pc t .enqueuePost) := by
  obtain ⟨⟨posting, hposting, hsum⟩, hcredits⟩ := h
  have hlength : (d.pktIns ++ [pkt]).length = d.pktIns.length + 1 := List.length_append
  have hnot : t ∉ posting := fun hmem => hpc ((hposting t).mp hmem)
  refine ⟨⟨insert t posting, ?_, ?_⟩, fun n hn => ?_⟩
  · refine Threads.forall_update (fun t' c' => t' ∈ insert t posting ↔ c' = Pc.enqueuePost)
      (iff_of_true (Finset.mem_insert_self t posting) rfl) fun t' hne => ?_
    rw [← hposting]
    exact Finset.mem_insert.trans (or_iff_right hne)
  · rw [Finset.card_insert_of_notMem hnot]
    dsimp only
    omega
  · have hle := hcredits n hn
    dsimp only
    omega

/-- The semaphore is posted. -/
lemma Paired.post [DecidableEq τ] {d : Dispatcher τ} {pc : τ → Pc} (h : Paired d pc)
    (hpc : pc t = .enqueuePost) :
    Paired { d with pktinSem := d.pktinSem + 1 } (Function.update pc t .idle) := by
  obtain ⟨⟨posting, hposting, hsum⟩, hcredits⟩ := h
  have hmem : t ∈ posting := (hposting t).mpr hpc
  refine ⟨⟨posting.erase t, ?_, ?_⟩, hcredits⟩
  · refine Threads.forall_update (fun t' c' => t' ∈ posting.erase t ↔ c' = Pc.enqueuePost)
      (iff_of_false (Finset.notMem_erase t posting) nofun) fun t' hne => ?_
    rw [← hposting]
    exact Finset.mem_erase.trans (and_iff_right hne)
  · have hcard := Finset.card_erase_add_one hmem
    dsimp only
    omega

/-- A step of the packet-in thread. -/
lemma Inv.processPacketIns (h : Inv s) {sh : Dispatcher τ} (hcounted : Counted s .processPacketIns)
    (hs : processPacketIns s.shared = some sh) : Inv ⟨sh, s.pc⟩ := by
  have hmoves := moves_of_process hs
  refine ⟨?_, h.paired.moves hmoves hcounted.2, fun t sw hpc => ?_, fun t sw hpc => ?_,
    fun hpc => (h.quiet hpc).moves hmoves⟩
  · have hmutex : sh.drainMutex = s.shared.drainMutex := by
      cases hmoves <;> rfl
    rw [hmutex]
    exact h.mutex
  · refine (h.waiting t sw hpc).moves hmoves fun hpoint => hcounted.1 hpoint t sw ?_
    rw [hpc]
    rfl
  · exact (h.unlocking t sw hpc).moves hmoves

lemma Inv.timedwaitFails (h : Inv s) {sh : Dispatcher τ}
    (hs : timedwaitFails s.shared = some sh) : Inv ⟨sh, s.pc⟩ := by
  rw [Pktin.timedwaitFails] at hs
  split at hs
  · next hwait =>
    cases hs
    obtain ⟨⟨posting, hposting, hsum⟩, hcredits⟩ := h.paired
    rw [hwait] at hsum
    refine ⟨h.mutex, ⟨⟨posting, hposting, hsum⟩, hcredits⟩,
      fun t sw hpc => (h.waiting t sw hpc).timedwaitFails hwait,
      fun t sw hpc => ⟨(h.unlocking t sw hpc).ring, nofun⟩, fun hpc => ?_⟩
    obtain ⟨hdestroying, hdrained, hnone, -⟩ := h.quiet hpc
    exact ⟨hdestroying, hdrained, hnone, nofun, nofun, nofun⟩
  · exact absurd hs nofun

variable [DecidableEq τ]

omit s s' in
/-- If no thread waits after a thread that did not has moved, none did before. -/
lemma not_waiting_of_update {pc : τ → Pc} {c : Pc} (hpc : ∀ sw, pc t ≠ .drainWait sw)
    (h : ∀ t' sw, Function.update pc t c t' ≠ .drainWait sw) : ∀ t' sw, pc t' ≠ .drainWait sw := by
  intro t' sw
  by_cases heq : t' = t
  · exact heq ▸ hpc sw
  · have hne := h t' sw
    rwa [Function.update_of_ne heq] at hne

/-- A core puts a packet into the ring. -/
lemma Inv.enqueuePktin (h : Inv s) {pkt : Datapacket} (hpc : s.pc t = .idle)
    (hpromised : ∀ t, (s.pc t).destroys ≠ some pkt.sw) :
    Inv ⟨{ s.shared with pktIns := s.shared.pktIns ++ [pkt] },
      Function.update s.pc t .enqueuePost⟩ := by
  -- the packet is not for a switch whose packets are waited for
  have hring : ∀ t sw, (s.pc t).destroys = some sw → ∀ n,
      ∀ pkt' ∈ (s.shared.pktIns ++ [pkt]).drop n,
        pkt' ∈ s.shared.pktIns.drop n ∨ pkt'.sw ≠ sw := by
    intro t sw hsw n pkt' hpkt'
    rw [List.drop_append] at hpkt'
    rcases List.mem_append.mp hpkt' with hpkt' | hpkt'
    · exact .inl hpkt'
    · have heq : pkt' = pkt := List.mem_singleton.mp (List.mem_of_mem_drop hpkt')
      subst heq
      exact .inr fun hne => hpromised t (hsw.trans (congrArg some hne.symm))
  refine ⟨h.mutex.goto hpc nofun, h.paired.enqueue (by rw [hpc]; exact nofun), ?_, ?_, ?_⟩
  · refine Threads.forall_update (fun _ c' => ∀ sw, c' = Pc.drainWait sw → Phase _ sw) nofun
      fun t' _ sw hwait => ?_
    exact (h.waiting t' sw hwait).of_others rfl rfl rfl rfl (hring t' sw (by rw [hwait]; rfl))
  · refine Threads.forall_update (fun _ c' => ∀ sw, c' = Pc.drainUnlock sw → Gone _ sw) nofun
      fun t' _ sw hunlock => ?_
    exact (h.unlocking t' sw hunlock).of_others rfl (hring t' sw (by rw [hunlock]; rfl) 0)
  · intro hnone
    obtain ⟨hdestroying, hdrained, hcredits, hpoint⟩ :=
      h.quiet (not_waiting_of_update (by rw [hpc]; exact nofun) hnone)
    exact ⟨hdestroying, hdrained, hcredits, hpoint⟩

/-- A thread goes on without a part in the draining. -/
lemma Inv.goto (h : Inv s) {sh : Dispatcher τ} {c : Pc}
    (hmutex : sh.drainMutex.Respected Pc.inside (Function.update s.pc t c))
    (hpaired : Paired sh (Function.update s.pc t c))
    (hdestroying : sh.destroyingSw = s.shared.destroyingSw)
    (hdrained : sh.pktinDrained = s.shared.pktinDrained)
    (hcredits : sh.drainCredits = s.shared.drainCredits) (hpoint : sh.point = s.shared.point)
    (hring : sh.pktIns = s.shared.pktIns) (hpc : ∀ sw, s.pc t ≠ .drainWait sw)
    (hc : ∀ sw, c ≠ .drainWait sw ∧ c ≠ .drainUnlock sw) :
    Inv ⟨sh, Function.update s.pc t c⟩ := by
  refine ⟨hmutex, hpaired, ?_, ?_, fun hnone => ?_⟩
  · refine Threads.forall_update (fun _ c' => ∀ sw, c' = Pc.drainWait sw → Phase sh sw)
      (fun sw heq => absurd heq (hc sw).1) fun t' _ sw hwait => ?_
    refine (h.waiting t' sw hwait).of_others hdestroying hdrained hcredits hpoint ?_
    intro n pkt hpkt
    exact .inl (hring ▸ hpkt)
  · refine Threads.forall_update (fun _ c' => ∀ sw, c' = Pc.drainUnlock sw → Gone sh sw)
      (fun sw heq => absurd heq (hc sw).2) fun t' _ sw hunlock => ?_
    exact (h.unlocking t' sw hunlock).of_others hpoint fun pkt hpkt => .inl (hring ▸ hpkt)
  · have hquiet := h.quiet (not_waiting_of_update hpc hnone)
    have hpoints := hquiet.point
    rw [← hpoint] at hpoints
    exact ⟨hdestroying.trans hquiet.destroyingSw, hdrained.trans hquiet.pktinDrained,
      hcredits.trans hquiet.drainCredits, hpoints⟩

/-- The draining is asked for. -/
lemma Inv.drainSet (h : Inv s) {sw : ℕ} (hpc : s.pc t = .drainSet sw) :
    Inv ⟨{ s.shared with destroyingSw := true }, Function.update s.pc t (.drainWait sw)⟩ := by
  have hin : (s.pc t).inside = true := by
    rw [hpc]
    rfl
  -- the threads that wait, or have just waited, would hold the mutex
  have hother : ∀ t', t' ≠ t → (s.pc t').inside = false :=
    fun t' hne => h.mutex.outside_of_ne hin hne
  have hquiet : Quiet s.shared := by
    refine h.quiet fun t' sw' hwait => ?_
    by_cases heq : t' = t
    · subst heq
      exact absurd (hpc.symm.trans hwait) nofun
    · have hout := hother t' heq
      rw [hwait] at hout
      exact absurd hout nofun
  refine ⟨h.mutex.goto hpc fun _ => rfl,
    h.paired.goto rfl rfl rfl rfl (by rw [hpc]; exact nofun) nofun, ?_, ?_, fun hnone => ?_⟩
  · refine Threads.forall_update (fun _ c' => ∀ sw', c' = Pc.drainWait sw' → Phase _ sw') ?_
      fun t' hne sw' hwait => ?_
    · intro sw' _
      exact .requested rfl hquiet.pktinDrained hquiet.drainCredits hquiet.point.2
    · have hout := hother t' hne
      rw [hwait] at hout
      exact absurd hout nofun
  · refine Threads.forall_update (fun _ c' => ∀ sw', c' = Pc.drainUnlock sw' → Gone _ sw') nofun
      fun t' hne sw' hunlock => ?_
    have hout := hother t' hne
    rw [hunlock] at hout
    exact absurd hout nofun
  · exact absurd (Function.update_self t (Pc.drainWait sw) s.pc) (hnone t sw)

/-- The wait is over. -/
lemma Inv.drainWait (h : Inv s) {sw n : ℕ} (hpc : s.pc t = .drainWait sw)
    (hn : s.shared.pktinDrained = n + 1) :
    Inv ⟨{ s.shared with pktinDrained := n }, Function.update s.pc t (.drainUnlock sw)⟩ := by
  obtain ⟨hgone, hquiet⟩ := (h.waiting t sw hpc).woken hn
  have hin : (s.pc t).inside = true := by
    rw [hpc]
    rfl
  have hother : ∀ t', t' ≠ t → (s.pc t').inside = false :=
    fun t' hne => h.mutex.outside_of_ne hin hne
  refine ⟨h.mutex.goto hpc fun _ => rfl,
    h.paired.goto rfl rfl rfl rfl (by rw [hpc]; exact nofun) nofun, ?_, ?_, fun _ => hquiet⟩
  · refine Threads.forall_update (fun _ c' => ∀ sw', c' = Pc.drainWait sw' → Phase _ sw') nofun
      fun t' hne sw' hwait => ?_
    have hout := hother t' hne
    rw [hwait] at hout
    exact absurd hout nofun
  · refine Threads.forall_update (fun _ c' => ∀ sw', c' = Pc.drainUnlock sw' → Gone _ sw') ?_
      fun t' _ sw' hunlock => ?_
    · intro sw' heq
      cases heq
      exact ⟨hgone.ring, hgone.dispatch⟩
    · exact ⟨(h.unlocking t' sw' hunlock).ring, (h.unlocking t' sw' hunlock).dispatch⟩

/-- A thread makes its next access. -/
lemma Inv.access (h : Inv s) {sh : Dispatcher τ} {c : Pc}
    (hacc : access t s.shared (s.pc t) = some (sh, c)) :
    Inv ⟨sh, Function.update s.pc t c⟩ := by
  cases hpc : s.pc t with
  | idle =>
      rw [hpc] at hacc
      exact absurd hacc nofun
  | enqueuePost =>
      rw [hpc] at hacc
      cases hacc
      exact h.goto (h.mutex.goto hpc nofun) (h.paired.post hpc) rfl rfl rfl rfl rfl
        (by rw [hpc]; exact nofun) fun _ => ⟨nofun, nofun⟩
  | drainLock sw =>
      rw [hpc] at hacc
      change (if _ then _ else _) = _ at hacc
      split at hacc
      · next hfree =>
        cases hacc
        exact h.goto (h.mutex.lock hfree)
          (h.paired.goto rfl rfl rfl rfl (by rw [hpc]; exact nofun) nofun) rfl rfl rfl rfl rfl
          (by rw [hpc]; exact nofun) fun _ => ⟨nofun, nofun⟩
      · exact absurd hacc nofun
  | drainSet sw =>
      rw [hpc] at hacc
      cases hacc
      exact h.drainSet hpc
  | drainWait sw =>
      rw [hpc] at hacc
      cases hn : s.shared.pktinDrained with
      | zero =>
          simp only [Pktin.access, hn] at hacc
          exact absurd hacc nofun
      | succ n =>
          simp only [Pktin.access, hn] at hacc
          cases hacc
          exact h.drainWait hpc hn
  | drainUnlock sw =>
      rw [hpc] at hacc
      cases hacc
      exact h.goto (h.mutex.unlock hpc rfl rfl)
        (h.paired.goto rfl rfl rfl rfl (by rw [hpc]; exact nofun) nofun) rfl rfl rfl rfl rfl
        (by rw [hpc]; exact nofun) fun _ => ⟨nofun, nofun⟩

lemma Inv.step (h : Inv s) {a : Action τ} (hok : Promised s a ∧ Counted s a)
    (hs : step s a = some s') : Inv s' := by
  cases a with
  | enqueuePktin t pkt full =>
      change (if _ then _ else _) = _ at hs
      split at hs
      · exact absurd hs nofun
      next hidle =>
      split at hs
      · cases hs
        exact h
      · cases hs
        exact h.enqueuePktin (of_not_not hidle) hok.1
  | waitPktinDraining t sw =>
      change (if _ then _ else _) = _ at hs
      split at hs
      · exact absurd hs nofun
      next hidle =>
      cases hs
      have hpc : s.pc t = .idle := of_not_not hidle
      exact h.goto (h.mutex.goto hpc nofun)
        (h.paired.goto rfl rfl rfl rfl (by rw [hpc]; exact nofun) nofun) rfl rfl rfl rfl rfl
        (by rw [hpc]; exact nofun) fun _ => ⟨nofun, nofun⟩
  | run t =>
      obtain ⟨sh, c, hacc, rfl⟩ := Threads.run_eq_some hs
      exact h.access hacc
  | processPacketIns =>
      obtain ⟨sh, hsh, rfl⟩ := Option.map_eq_some_iff.mp hs
      exact h.processPacketIns hok.2 hsh
  | timedwaitFails =>
      obtain ⟨sh, hsh, rfl⟩ := Option.map_eq_some_iff.mp hs
      exact h.timedwaitFails hsh

end Steps

variable [DecidableEq τ]

/-- **Draining.**  In every run in which no packet is enqueued for a switch that is being destroyed,
the packets of that switch are among those counted when the value of the semaphore is read, and the
ring is empty whenever it is looked into after `sem_timedwait` has failed, the wait ends with no
packet of the switch left and is never stuck on credits. -/
theorem drained_of_counted {acts : List (Action τ)} {s : State τ}
    (hrun : Run step (fun s a => Promised s a ∧ Counted s a) init acts s) : Drained s :=
  Inv.drained (hrun.invariant (fun _ _ _ h hok hs => h.step hok hs) .init)

/-- The packet-in thread times out; then a packet is enqueued, and its switch destroyed. -/
def lastPacket : List (Action Bool) :=
  [.processPacketIns, .timedwaitFails, .processPacketIns,
    .enqueuePktin false ⟨0, 7⟩ false, .run false,
    .waitPktinDraining true 7, .run true, .run true] ++
    List.replicate 8 .processPacketIns ++ [.timedwaitFails, .run true]

theorem drained_lastPacket :
    ∃ s ∈ exec (guarded step fun s a => Promised s a ∧ Counted s a) init lastPacket,
      s.pc true = .drainUnlock 7 ∧ Drained s := by
  have hexec : ∃ s ∈ exec (guarded step fun s a => Promised s a ∧ Counted s a) init lastPacket,
      s.pc true = .drainUnlock 7 := by decide
  obtain ⟨s, hs, hpc⟩ := hexec
  exact ⟨s, hs, hpc, drained_of_counted (run_of_exec_guarded hs)⟩

/-- After `sem_timedwait` has failed a packet is taken for which the semaphore is only posted
afterwards.  The next draining counts one packet more than there are. -/
theorem not_drained_of_uncounted : ¬ ∀ (acts : List (Action Bool)) (s : State Bool),
    Run step Promised init acts s → Drained s := by
  intro hall
  have hexec : ∃ s ∈ exec (guarded step Promised) init
      [.processPacketIns, .enqueuePktin false ⟨0, 7⟩ false, .timedwaitFails, .processPacketIns,
        .processPacketIns, .run false, .waitPktinDraining true 7, .run true, .run true,
        .processPacketIns, .processPacketIns],
      s.shared.drainCredits = some 1 ∧ s.shared.pktIns = [] ∧ ∀ t, s.pc t ≠ .enqueuePost := by
    decide
  obtain ⟨s, hs, hcredits, hring, hnone⟩ := hexec
  obtain ⟨t, hpost⟩ := (hall _ s (run_of_exec_guarded hs)).notStuck 0 hcredits hring
  exact hnone t hpost

end Xdpd.Dpdk.Pktin
