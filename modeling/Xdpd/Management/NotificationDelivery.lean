import Xdpd.Management.SwitchManager

/-!
# Delivery of notifications

The history of a run tells for each notification which switch it was handed to, and whether a switch
with its id was there, and not being destroyed, from the call to the return.

No handler runs on a deleted switch: `ManagerInv`.  A notification whose switch is there all the
time is handed to it exactly once if `dpid_under_destruction`, when it is found to be the id of a
notification, really is that of a switch under destruction, and no lookup of a notification overlaps
an insertion into the map: `delivered_of_undisturbed`.  The id is another one at `0x0`, the value
for no switch, and after a destruction that has failed; and nothing keeps lookups and insertions
apart.
-/

namespace Xdpd.Management

open Xdpd.Lib

variable {τ : Type} [DecidableEq τ]

/-! ## History -/

/-- A notification that has returned. -/
structure Notified where
  dpid : Dpid
  /-- the switch, if it was there, and not being destroyed, all the time -/
  whole : Option OpenflowSwitch
  /-- the switches that the notification was handed to -/
  handed : List OpenflowSwitch
  deriving DecidableEq

/-- What the notifications that are under way have seen, and those that have returned. -/
structure History (τ : Type) where
  whole : τ → Option OpenflowSwitch
  handed : τ → List OpenflowSwitch
  log : List Notified

/-- Nothing has happened. -/
def History.init : History τ := ⟨fun _ => none, fun _ => [], []⟩

/-- The thread in the critical section is destroying the switch. -/
def BeingDestroyed (s : State τ) (dpid : Dpid) : Prop :=
  ∃ t ∈ s.shared.mutex, (s.pc t).destroying = some dpid

instance (s : State τ) (dpid : Dpid) : Decidable (BeingDestroyed s dpid) :=
  inferInstanceAs (Decidable (∃ t ∈ s.shared.mutex, (s.pc t).destroying = some dpid))

/-- The switch with an id, if it exists and is not being destroyed. -/
def present (s : State τ) (dpid : Dpid) : Option OpenflowSwitch :=
  if BeingDestroyed s dpid then none else s.shared.switchs.find dpid

/-- What is left of the switch that a notification has seen, in the next state. -/
def stillWhole (s : State τ) (h : History τ) (t : τ) : Option OpenflowSwitch :=
  match (s.pc t).notification with
  | none => none
  | some n => if h.whole t = present s n.dpid then h.whole t else none

/-- The switch whose handler the thread runs next. -/
def handing : Pc → List OpenflowSwitch
  | .notifyHandle _ dp => [dp]
  | _ => []

/-- The notification that returns with the next access of the thread. -/
def returning (s : State τ) (t : τ) : Option Notification :=
  match access t s.shared (s.pc t) with
  | some (_, c) => if c.notification = none then (s.pc t).notification else none
  | none => none

/-- What a step adds to the history. -/
def record (s : State τ) (a : Action τ) (h : History τ) : History τ :=
  match a with
  | .notify t n =>
      ⟨Function.update (stillWhole s h) t (present s n.dpid), Function.update h.handed t [], h.log⟩
  | .run t =>
      ⟨stillWhole s h, Function.update h.handed t (h.handed t ++ handing (s.pc t)),
        match returning s t with
        | none => h.log
        | some n => h.log ++ [⟨n.dpid, stillWhole s h t, h.handed t⟩]⟩
  | _ => { h with whole := stillWhole s h }

/-- The manager with its history. -/
abbrev observed : State τ × History τ → Action τ → Option (State τ × History τ) :=
  observe step record

/-- The thread compares its notification with `dpid_under_destruction` next. -/
def Pc.comparing : Pc → Option Notification
  | notifyRead n => some n
  | notifyRetry n => some n
  | _ => none

/-- When the id of a notification is found in `dpid_under_destruction`, the switch with that id is
being destroyed, or there is none. -/
def Genuine (p : State τ × History τ) : Action τ → Prop
  | .run t => ∀ n ∈ (p.1.pc t).comparing, n.dpid = p.1.shared.dpidUnderDestruction →
      BeingDestroyed p.1 n.dpid ∨ p.1.shared.switchs.find n.dpid = none
  | _ => True

instance (p : State τ × History τ) (a : Action τ) : Decidable (Genuine p a) := by
  cases a <;> unfold Genuine <;> infer_instance

/-- The thread begins to put a switch into the map next. -/
def Pc.beginsInsert : Pc → Bool
  | createStore _ => true
  | _ => false

/-- The thread begins to look something up in the map next. -/
def Pc.beginsLookup : Pc → Bool
  | notifyFind _ => true
  | notifyGet _ => true
  | _ => false

/-- A notification looks its switch up while nobody puts one into the map, and a switch is put into
the map while no notification looks one up. -/
def Unraced (p : State τ × History τ) : Action τ → Prop
  | .run t =>
      ((p.1.pc t).beginsInsert = true →
        ∀ t' ∈ p.1.shared.rwlock.readers, (p.1.pc t').lookingUp = false) ∧
      ((p.1.pc t).beginsLookup = true → ¬ Inserting p.1)
  | _ => True

instance (p : State τ × History τ) (a : Action τ) : Decidable (Unraced p a) := by
  cases a <;> unfold Unraced <;> infer_instance

/-- A notification is dropped for a switch under destruction only, and lookups and insertions do not
overlap. -/
def Undisturbed (p : State τ × History τ) (a : Action τ) : Prop := Genuine p a ∧ Unraced p a

instance (p : State τ × History τ) (a : Action τ) : Decidable (Undisturbed p a) :=
  inferInstanceAs (Decidable (_ ∧ _))

/-- The notification was handed to its switch, at most once, and exactly once if the switch was
there all the time. -/
structure Notified.Correct (c : Notified) : Prop where
  own : ∀ dp ∈ c.handed, dp.dpid = c.dpid
  atMostOnce : c.handed.length ≤ 1
  exactlyOnce : ∀ dp, c.whole = some dp → c.handed = [dp]

/-- No handler runs on a deleted switch, and each notification that has returned was handed to its
switch as often as it should be. -/
structure Delivered (p : State τ × History τ) : Prop where
  safe : ∀ t n dp, p.1.pc t = .notifyHandle n dp → p.1.shared.alive dp.addr = true
  log : ∀ c ∈ p.2.log, c.Correct

/-! ## The locks and the switches -/

/-- The point is in the critical section of the mutex. -/
def Pc.inside : Pc → Bool
  | createCheck .. => true
  | createStore _ => true
  | createStoring _ => true
  | createUnlock => true
  | destroyFind .. => true
  | destroySet .. => true
  | destroyDetach .. => true
  | destroyErase _ => true
  | destroyRwunlock .. => true
  | destroyDelete .. => true
  | destroyReset _ => true
  | destroyUnlock _ => true
  | _ => false

/-- What a thread at the point holds of the lock of the map. -/
def Pc.holds : Pc → Rwlock.Hold
  | destroyErase _ => .writing
  | destroyRwunlock .. => .writing
  | notifyFind _ => .reading
  | notifyFinding _ => .reading
  | notifyGet _ => .reading
  | notifyGetting _ => .reading
  | notifyHandle .. => .reading
  | notifyUnlock .. => .reading
  | writerUnlock => .writing
  | readerUnlock => .reading
  | _ => .nothing

/-- What a thread at the point relies on: the switch that it has constructed is not in the map yet,
the one that it has taken out is not in it any more, and the one that it has found, or hands a
notification to, is. -/
def Pc.Relies (switchs : SortedMap Dpid OpenflowSwitch) (alive : ℕ → Bool) : Pc → Prop
  | createStore dp => alive dp.addr = true ∧ switchs.find dp.dpid = none ∧
      ∀ e ∈ switchs.entries, e.2.addr ≠ dp.addr
  | createStoring dp => alive dp.addr = true ∧ switchs.find dp.dpid = none ∧
      ∀ e ∈ switchs.entries, e.2.addr ≠ dp.addr
  | destroyRwunlock _ dp => ∀ e ∈ switchs.entries, e.2.addr ≠ dp.addr
  | destroyDelete _ dp => ∀ e ∈ switchs.entries, e.2.addr ≠ dp.addr
  | notifyGet n => ∃ dp, switchs.find n.dpid = some dp
  | notifyGetting n => ∃ dp, switchs.find n.dpid = some dp
  | notifyHandle n dp => switchs.find n.dpid = some dp
  | _ => True

/-- The switches in the map are alive, each under its own id and at an address of its own. -/
structure SwitchsInv (switchs : SortedMap Dpid OpenflowSwitch) (alive : ℕ → Bool) (next : ℕ) :
    Prop where
  keyed : ∀ e ∈ switchs.entries, e.2.dpid = e.1
  lives : ∀ e ∈ switchs.entries, alive e.2.addr = true
  below : ∀ a, alive a = true → a < next
  distinct : ∀ e ∈ switchs.entries, ∀ e' ∈ switchs.entries, e.2.addr = e'.2.addr → e = e'

/-- The invariant of all runs. -/
structure ManagerInv (s : State τ) : Prop where
  mutex : s.shared.mutex.Respected Pc.inside s.pc
  rwlock : s.shared.rwlock.Respected Pc.holds s.pc
  switchs : SwitchsInv s.shared.switchs s.shared.alive s.shared.next
  relies : ∀ t, (s.pc t).Relies s.shared.switchs s.shared.alive

namespace SwitchsInv

variable {switchs : SortedMap Dpid OpenflowSwitch} {alive : ℕ → Bool} {next : ℕ}

/-- A new switch is constructed. -/
lemma construct (h : SwitchsInv switchs alive next) :
    SwitchsInv switchs (Function.update alive next true) (next + 1) := by
  refine ⟨h.keyed, fun e he => ?_, fun a ha => ?_, h.distinct⟩
  · rw [Function.update_of_ne (ne_of_lt (h.below _ (h.lives e he)))]
    exact h.lives e he
  · by_cases hnext : a = next
    · omega
    · rw [Function.update_of_ne hnext] at ha
      have hlt := h.below a ha
      omega

/-- No switch in the map has the address of the next one. -/
lemma addr_ne_next (h : SwitchsInv switchs alive next) :
    ∀ e ∈ switchs.entries, e.2.addr ≠ next :=
  fun e he => ne_of_lt (h.below _ (h.lives e he))

/-- A switch is put into the map. -/
lemma store (h : SwitchsInv switchs alive next) {dp : OpenflowSwitch}
    (halive : alive dp.addr = true) (haddr : ∀ e ∈ switchs.entries, e.2.addr ≠ dp.addr) :
    SwitchsInv (switchs.insert dp.dpid dp) alive next := by
  refine ⟨fun e he => ?_, fun e he => ?_, h.below, fun e he e' he' heq => ?_⟩
  · rcases SortedMap.mem_insert.mp he with rfl | ⟨he, -⟩
    · rfl
    · exact h.keyed e he
  · rcases SortedMap.mem_insert.mp he with rfl | ⟨he, -⟩
    · exact halive
    · exact h.lives e he
  · rcases SortedMap.mem_insert.mp he with rfl | ⟨he, -⟩
    · rcases SortedMap.mem_insert.mp he' with rfl | ⟨he', -⟩
      · rfl
      · exact absurd heq.symm (haddr e' he')
    · rcases SortedMap.mem_insert.mp he' with rfl | ⟨he', -⟩
      · exact absurd heq (haddr e he)
      · exact h.distinct e he e' he' heq

/-- A switch is taken out of the map: no other one has its address. -/
lemma erase (h : SwitchsInv switchs alive next) (dpid : Dpid) :
    SwitchsInv (switchs.erase dpid) alive next :=
  ⟨fun e he => h.keyed e (SortedMap.mem_erase.mp he).1,
    fun e he => h.lives e (SortedMap.mem_erase.mp he).1, h.below,
    fun e he e' he' => h.distinct e (SortedMap.mem_erase.mp he).1 e' (SortedMap.mem_erase.mp he').1⟩

lemma addr_ne_of_erase (h : SwitchsInv switchs alive next) {dpid : Dpid} {dp : OpenflowSwitch}
    (hfind : switchs.find dpid = some dp) :
    ∀ e ∈ (switchs.erase dpid).entries, e.2.addr ≠ dp.addr := by
  intro e he haddr
  obtain ⟨hmem, hne⟩ := SortedMap.mem_erase.mp he
  have heq := h.distinct e hmem (dpid, dp) (SortedMap.find_eq_some_iff.mp hfind) haddr
  exact hne (congrArg Prod.fst heq)

/-- A switch that is not in the map is deleted. -/
lemma delete (h : SwitchsInv switchs alive next) {a : ℕ}
    (haddr : ∀ e ∈ switchs.entries, e.2.addr ≠ a) :
    SwitchsInv switchs (Function.update alive a false) next := by
  refine ⟨h.keyed, fun e he => ?_, fun a' ha' => ?_, h.distinct⟩
  · rw [Function.update_of_ne (haddr e he)]
    exact h.lives e he
  · by_cases heq : a' = a
    · rw [heq, Function.update_self] at ha'
      exact absurd ha' nofun
    · rw [Function.update_of_ne heq] at ha'
      exact h.below a' ha'

/-- The switch that a key finds has that id, and is alive. -/
lemma of_find (h : SwitchsInv switchs alive next) {dpid : Dpid} {dp : OpenflowSwitch}
    (hfind : switchs.find dpid = some dp) : dp.dpid = dpid ∧ alive dp.addr = true :=
  ⟨h.keyed _ (SortedMap.find_eq_some_iff.mp hfind),
    h.lives _ (SortedMap.find_eq_some_iff.mp hfind)⟩

end SwitchsInv

/-- What a thread outside the critical section relies on is a switch that it has found while it
reads. -/
lemma Pc.Relies.of_outside {switchs switchs' : SortedMap Dpid OpenflowSwitch}
    {alive alive' : ℕ → Bool} {c : Pc} (h : c.Relies switchs alive) (hc : c.inside = false)
    (hfind : c.holds = .reading → ∀ dpid dp, switchs.find dpid = some dp →
      switchs'.find dpid = some dp) : c.Relies switchs' alive' := by
  cases c with
  | createStore dp => exact absurd hc nofun
  | createStoring dp => exact absurd hc nofun
  | destroyRwunlock dpid dp => exact absurd hc nofun
  | destroyDelete dpid dp => exact absurd hc nofun
  | notifyGet n =>
      obtain ⟨dp, hdp⟩ := h
      exact ⟨dp, hfind rfl _ _ hdp⟩
  | notifyGetting n =>
      obtain ⟨dp, hdp⟩ := h
      exact ⟨dp, hfind rfl _ _ hdp⟩
  | notifyHandle n dp => exact hfind rfl _ _ h
  | _ => trivial

/-- A step out of the critical section, or from one point outside to another. -/
lemma Pc.to_outside {c₀ c : Pc} (hc : c.inside = false) (hin : c.inside = true) :
    c₀.inside = true :=
  absurd (hc.symm.trans hin) Bool.false_ne_true

namespace ManagerInv

variable {s : State τ} {t : τ} {c₀ c : Pc}

omit [DecidableEq τ] in
/-- While a thread is in the critical section no other one is. -/
lemma outside (h : ManagerInv s) (hpc : s.pc t = c₀) (hin : c₀.inside = true) {t' : τ}
    (ht' : t' ≠ t) : (s.pc t').inside = false := by
  by_contra hinside
  rw [Bool.not_eq_false] at hinside
  exact ht' (h.mutex.eq_of_inside hinside (by rw [hpc, hin]))

lemma relies_update (h : ManagerInv s) (hc : c.Relies s.shared.switchs s.shared.alive) :
    ∀ t', (Function.update s.pc t c t').Relies s.shared.switchs s.shared.alive :=
  Threads.forall_update (fun _ (c' : Pc) => c'.Relies s.shared.switchs s.shared.alive) hc
    fun t' _ => h.relies t'

/-- A step that changes neither the locks nor the switches. -/
lemma goto (h : ManagerInv s) (hpc : s.pc t = c₀) (hin : c.inside = true → c₀.inside = true)
    (hholds : c.holds = c₀.holds) (hc : c.Relies s.shared.switchs s.shared.alive) :
    ManagerInv (s.goto t c) :=
  ⟨h.mutex.goto hpc hin, h.rwlock.goto hpc hholds, h.switchs, h.relies_update hc⟩

lemma setUnderDestruction (h : ManagerInv s) (hpc : s.pc t = c₀)
    (hin : c.inside = true → c₀.inside = true) (hholds : c.holds = c₀.holds)
    (hc : c.Relies s.shared.switchs s.shared.alive) (dpid : Dpid) :
    ManagerInv ⟨{ s.shared with dpidUnderDestruction := dpid }, Function.update s.pc t c⟩ :=
  ⟨h.mutex.goto hpc hin, h.rwlock.goto hpc hholds, h.switchs, h.relies_update hc⟩

lemma lock (h : ManagerInv s) (hfree : s.shared.mutex = none) (hpc : s.pc t = c₀)
    (hholds : c.holds = c₀.holds) (hc : c.Relies s.shared.switchs s.shared.alive) :
    ManagerInv ⟨{ s.shared with mutex := some t }, Function.update s.pc t c⟩ :=
  ⟨h.mutex.lock hfree, h.rwlock.goto hpc hholds, h.switchs, h.relies_update hc⟩

lemma unlock (h : ManagerInv s) (hpc : s.pc t = c₀) (hin : c₀.inside = true)
    (hout : c.inside = false) (hholds : c.holds = c₀.holds)
    (hc : c.Relies s.shared.switchs s.shared.alive) :
    ManagerInv ⟨{ s.shared with mutex := none }, Function.update s.pc t c⟩ :=
  ⟨h.mutex.unlock hpc hin hout, h.rwlock.goto hpc hholds, h.switchs, h.relies_update hc⟩

/-- The lock of the map is taken or given back. -/
lemma setRwlock (h : ManagerInv s) {l : Rwlock τ}
    (hl : l.Respected Pc.holds (Function.update s.pc t c)) (hpc : s.pc t = c₀)
    (hin : c.inside = true → c₀.inside = true)
    (hc : c.Relies s.shared.switchs s.shared.alive) :
    ManagerInv ⟨{ s.shared with rwlock := l }, Function.update s.pc t c⟩ :=
  ⟨h.mutex.goto hpc hin, hl, h.switchs, h.relies_update hc⟩

lemma construct (h : ManagerInv s) {dpid : Dpid} {dpname : String} {new : NewSwitch}
    (hpc : s.pc t = .createCheck dpid dpname new) (hfind : s.shared.switchs.find dpid = none) :
    ManagerInv ⟨{ s.shared with
        alive := Function.update s.shared.alive s.shared.next true, next := s.shared.next + 1 },
      Function.update s.pc t (.createStore ⟨s.shared.next, dpid, dpname⟩)⟩ := by
  refine ⟨h.mutex.goto hpc fun _ => rfl, h.rwlock.goto hpc rfl, h.switchs.construct, ?_⟩
  refine Threads.forall_update (fun _ (c' : Pc) => c'.Relies s.shared.switchs
    (Function.update s.shared.alive s.shared.next true)) ?_ fun t' ht' => ?_
  · exact ⟨Function.update_self _ _ _, hfind, h.switchs.addr_ne_next⟩
  · exact (h.relies t').of_outside (h.outside hpc rfl ht') fun _ _ _ hfound => hfound

lemma store (h : ManagerInv s) {dp : OpenflowSwitch} (hpc : s.pc t = .createStoring dp) :
    ManagerInv ⟨{ s.shared with switchs := s.shared.switchs.insert dp.dpid dp },
      Function.update s.pc t .createUnlock⟩ := by
  have hrelies := h.relies t
  rw [hpc] at hrelies
  obtain ⟨halive, hfind, haddr⟩ := hrelies
  refine ⟨h.mutex.goto hpc fun _ => rfl, h.rwlock.goto hpc rfl, h.switchs.store halive haddr, ?_⟩
  refine Threads.forall_update (fun _ (c' : Pc) => c'.Relies (s.shared.switchs.insert dp.dpid dp)
    s.shared.alive) trivial fun t' ht' => ?_
  refine (h.relies t').of_outside (h.outside hpc rfl ht') fun _ dpid dp' hfound => ?_
  -- the new switch does not take the place of the one that is in use
  have hmem := SortedMap.find_eq_some_iff.mp hfound
  exact SortedMap.find_eq_some_iff.mpr
    (SortedMap.mem_insert.mpr (.inr ⟨hmem, SortedMap.find_eq_none_iff.mp hfind _ hmem⟩))

lemma erase (h : ManagerInv s) {dpid : Dpid} {dp : OpenflowSwitch}
    (hpc : s.pc t = .destroyErase dpid) (hfind : s.shared.switchs.find dpid = some dp) :
    ManagerInv ⟨{ s.shared with switchs := s.shared.switchs.erase dpid },
      Function.update s.pc t (.destroyRwunlock dpid dp)⟩ := by
  refine ⟨h.mutex.goto hpc fun _ => rfl, h.rwlock.goto hpc rfl, h.switchs.erase dpid, ?_⟩
  refine Threads.forall_update (fun _ (c' : Pc) => c'.Relies (s.shared.switchs.erase dpid)
    s.shared.alive) (h.switchs.addr_ne_of_erase hfind) fun t' ht' => ?_
  refine (h.relies t').of_outside (h.outside hpc rfl ht') fun hreading => ?_
  -- the map is locked for writing, so that nobody reads
  have hwriting : (s.pc t).holds = .writing := by rw [hpc]; rfl
  exact absurd hreading (h.rwlock.not_reading hwriting)

lemma delete (h : ManagerInv s) {dpid : Dpid} {dp : OpenflowSwitch}
    (hpc : s.pc t = .destroyDelete dpid dp) :
    ManagerInv ⟨{ s.shared with alive := Function.update s.shared.alive dp.addr false },
      Function.update s.pc t (.destroyReset dpid)⟩ := by
  have hrelies := h.relies t
  rw [hpc] at hrelies
  refine ⟨h.mutex.goto hpc fun _ => rfl, h.rwlock.goto hpc rfl, h.switchs.delete hrelies, ?_⟩
  exact Threads.forall_update (fun _ (c' : Pc) => c'.Relies s.shared.switchs
    (Function.update s.shared.alive dp.addr false)) trivial fun t' ht' =>
      (h.relies t').of_outside (h.outside hpc rfl ht') fun _ _ _ hfound => hfound

/-- **The accesses of a thread keep the invariant.** -/
lemma access (h : ManagerInv s) {sh : SwitchManager τ}
    (hacc : access t s.shared (s.pc t) = some (sh, c)) :
    ManagerInv ⟨sh, Function.update s.pc t c⟩ := by
  cases hpc : s.pc t <;> rw [hpc] at hacc
  case idle => cases hacc
  case createLock dpid dpname new =>
    change (if _ then _ else _) = _ at hacc
    split at hacc
    · next hfree =>
      cases hacc
      exact h.lock hfree hpc rfl trivial
    · cases hacc
  case createCheck dpid dpname new =>
    change (if _ then _ else _) = _ at hacc
    split at hacc
    · cases hacc
      exact h.unlock hpc rfl rfl rfl trivial
    next hnew =>
      rw [not_or, not_not] at hnew
      cases new <;> cases hacc
      case unsupportedSocketType => exact h.unlock hpc rfl rfl rfl trivial
      case unsupportedVersion => exact h.unlock hpc rfl rfl rfl trivial
      case constructorThrows => exact h.goto hpc (Pc.to_outside rfl) rfl trivial
      case constructed => exact h.construct hpc hnew.1
  case createStore dp =>
    cases hacc
    have hrelies := h.relies t
    rw [hpc] at hrelies
    exact h.goto hpc (fun _ => rfl) rfl hrelies
  case createStoring dp =>
    cases hacc
    exact h.store hpc
  case createUnlock =>
    cases hacc
    exact h.unlock hpc rfl rfl rfl trivial
  case destroyLock dpid snapshot =>
    change (if _ then _ else _) = _ at hacc
    split at hacc
    · next hfree =>
      cases hacc
      exact h.lock hfree hpc rfl trivial
    · cases hacc
  case destroyFind dpid snapshot =>
    change (if _ then _ else _) = _ at hacc
    split at hacc
    · cases hacc
      exact h.unlock hpc rfl rfl rfl trivial
    · cases snapshot with
      | none =>
          cases hacc
          exact h.unlock hpc rfl rfl rfl trivial
      | some ports =>
          cases hacc
          exact h.goto hpc (fun _ => rfl) rfl trivial
  case destroySet dpid ports =>
    cases hacc
    exact h.setUnderDestruction (c := .destroyDetach dpid ports) hpc (fun _ => rfl) rfl trivial dpid
  case destroyDetach dpid ports =>
    cases ports with
    | cons port ports =>
        cases hacc
        exact h.goto hpc (fun _ => rfl) rfl trivial
    | nil =>
        obtain ⟨l, hl, heq⟩ := Option.map_eq_some_iff.mp hacc
        cases heq
        exact h.setRwlock (h.rwlock.wrlock hl rfl) hpc (fun _ => rfl) trivial
  case destroyErase dpid =>
    obtain ⟨dp, hfind, heq⟩ := Option.map_eq_some_iff.mp hacc
    cases heq
    exact h.erase hpc hfind
  case destroyRwunlock dpid dp =>
    cases hacc
    have hrelies := h.relies t
    rw [hpc] at hrelies
    exact h.setRwlock (h.rwlock.unlock rfl) hpc (fun _ => rfl) hrelies
  case destroyDelete dpid dp =>
    cases hacc
    exact h.delete hpc
  case destroyReset dpid =>
    cases hacc
    exact h.setUnderDestruction (c := .destroyUnlock dpid) hpc (fun _ => rfl) rfl trivial 0
  case destroyUnlock dpid =>
    cases hacc
    exact h.unlock hpc rfl rfl rfl trivial
  case notifyRead n =>
    change (if _ then _ else _) = _ at hacc
    split at hacc
    · cases hacc
      exact h.goto hpc (Pc.to_outside rfl) rfl trivial
    · cases hacc
      exact h.goto hpc (Pc.to_outside rfl) rfl trivial
  case notifyTry n =>
    simp only [Management.access] at hacc
    cases hl : s.shared.rwlock.rdlock t <;> rw [hl] at hacc <;> cases hacc
    case some l => exact h.setRwlock (h.rwlock.rdlock hl rfl) hpc (Pc.to_outside rfl) trivial
    case none => exact h.goto hpc (Pc.to_outside rfl) rfl trivial
  case notifyRetry n =>
    change (if _ then _ else _) = _ at hacc
    split at hacc
    · cases hacc
      exact h.goto hpc (Pc.to_outside rfl) rfl trivial
    · cases hacc
      exact h.goto hpc (Pc.to_outside rfl) rfl trivial
  case notifyFind n =>
    cases hacc
    exact h.goto hpc (Pc.to_outside rfl) rfl trivial
  case notifyFinding n =>
    simp only [Management.access] at hacc
    cases hfind : s.shared.switchs.find n.dpid <;> rw [hfind] at hacc <;> cases hacc
    case some dp => exact h.goto hpc (Pc.to_outside rfl) rfl ⟨dp, hfind⟩
    case none => exact h.goto hpc (Pc.to_outside rfl) rfl trivial
  case notifyGet n =>
    cases hacc
    have hrelies := h.relies t
    rw [hpc] at hrelies
    exact h.goto hpc (Pc.to_outside rfl) rfl hrelies
  case notifyGetting n =>
    obtain ⟨dp, hfind, heq⟩ := Option.map_eq_some_iff.mp hacc
    cases heq
    exact h.goto hpc (Pc.to_outside rfl) rfl hfind
  case notifyHandle n dp =>
    cases hacc
    exact h.goto hpc (Pc.to_outside rfl) rfl trivial
  case notifyUnlock n ret =>
    cases hacc
    exact h.setRwlock (h.rwlock.unlock rfl) hpc (Pc.to_outside rfl) trivial
  case writerLock =>
    obtain ⟨l, hl, heq⟩ := Option.map_eq_some_iff.mp hacc
    cases heq
    exact h.setRwlock (h.rwlock.wrlock hl rfl) hpc (Pc.to_outside rfl) trivial
  case readerLock =>
    obtain ⟨l, hl, heq⟩ := Option.map_eq_some_iff.mp hacc
    cases heq
    exact h.setRwlock (h.rwlock.rdlock hl rfl) hpc (Pc.to_outside rfl) trivial
  case writerUnlock =>
    cases hacc
    exact h.setRwlock (h.rwlock.unlock rfl) hpc (Pc.to_outside rfl) trivial
  case readerUnlock =>
    cases hacc
    exact h.setRwlock (h.rwlock.unlock rfl) hpc (Pc.to_outside rfl) trivial

lemma call (h : ManagerInv s) {s' : State τ} (hcall : call s t c = some s')
    (hin : c.inside = false) (hholds : c.holds = .nothing)
    (hc : c.Relies s.shared.switchs s.shared.alive) : ManagerInv s' := by
  rw [Management.call] at hcall
  split at hcall
  · next ret hpc =>
    cases hcall
    exact h.goto hpc (Pc.to_outside hin) hholds hc
  · exact absurd hcall nofun

lemma detachThrows (h : ManagerInv s) {s' : State τ} (hthrow : detachThrows s t = some s') :
    ManagerInv s' := by
  rw [Management.detachThrows] at hthrow
  split at hthrow
  · next dpid port ports hpc =>
    cases hthrow
    exact h.unlock hpc rfl rfl rfl trivial
  · exact absurd hthrow nofun

lemma findMisses (h : ManagerInv s) {s' : State τ} (hmiss : findMisses s t = some s') :
    ManagerInv s' := by
  rw [Management.findMisses] at hmiss
  split at hmiss
  · next n hpc =>
    split_ifs at hmiss
    cases hmiss
    exact h.goto hpc (Pc.to_outside rfl) rfl trivial
  · exact absurd hmiss nofun

/-- **Every step keeps the invariant.** -/
lemma step (h : ManagerInv s) {a : Action τ} {s' : State τ} (hstep : step s a = some s') :
    ManagerInv s' := by
  cases a with
  | createSwitch t dpid dpname new => exact h.call hstep rfl rfl trivial
  | destroySwitch t dpid snapshot => exact h.call hstep rfl rfl trivial
  | notify t n => exact h.call hstep rfl rfl trivial
  | write t => exact h.call hstep rfl rfl trivial
  | read t => exact h.call hstep rfl rfl trivial
  | run t =>
      obtain ⟨sh, c, hacc, rfl⟩ := Threads.run_eq_some hstep
      exact h.access hacc
  | detachThrows t => exact h.detachThrows hstep
  | findMisses t => exact h.findMisses hstep

omit [DecidableEq τ] in
lemma init : ManagerInv (init : State τ) :=
  ⟨fun _ => nofun, .init rfl, ⟨nofun, nofun, nofun, nofun⟩, fun _ => trivial⟩

omit [DecidableEq τ] in
/-- The switch that a notification is handed to is alive, and its own. -/
lemma of_handling (h : ManagerInv s) {n : Notification} {dp : OpenflowSwitch}
    (hpc : s.pc t = .notifyHandle n dp) :
    dp.dpid = n.dpid ∧ s.shared.alive dp.addr = true := by
  have hrelies := h.relies t
  rw [hpc] at hrelies
  exact h.switchs.of_find hrelies

end ManagerInv

/-! ## Lookups and insertions -/

/-- Nobody looks something up while a thread puts a switch into the map. -/
def LookupsApart (s : State τ) : Prop :=
  ∀ t t', (s.pc t).inserting = true → (s.pc t').lookingUp = false

/-- What an access can be the begin of: a notification does not begin within one. -/
structure Begins (c c' : Pc) : Prop where
  insert : c'.inserting = true → c.beginsInsert = true
  lookup : c'.lookingUp = true → c.beginsLookup = true
  notification : c.notification = none → c'.notification = none

lemma begins_of_access {t : τ} {sh sh' : SwitchManager τ} {c c' : Pc}
    (hacc : access t sh c = some (sh', c')) : Begins c c' := by
  cases c
  case idle => exact absurd hacc nofun
  case createLock | destroyLock =>
    change (if _ then _ else _) = _ at hacc
    split at hacc <;> cases hacc
    exact ⟨nofun, nofun, fun _ => rfl⟩
  case notifyRead | notifyRetry =>
    change (if _ then _ else _) = _ at hacc
    split at hacc <;> cases hacc <;> exact ⟨nofun, nofun, nofun⟩
  case createCheck dpid dpname new =>
    change (if _ then _ else _) = _ at hacc
    split at hacc
    · cases hacc
      exact ⟨nofun, nofun, fun _ => rfl⟩
    · cases new <;> cases hacc <;> exact ⟨nofun, nofun, fun _ => rfl⟩
  case destroyFind dpid snapshot =>
    change (if _ then _ else _) = _ at hacc
    split at hacc
    · cases hacc
      exact ⟨nofun, nofun, fun _ => rfl⟩
    · cases snapshot <;> cases hacc <;> exact ⟨nofun, nofun, fun _ => rfl⟩
  case destroyDetach dpid ports =>
    cases ports with
    | nil =>
        obtain ⟨l, -, heq⟩ := Option.map_eq_some_iff.mp hacc
        cases heq
        exact ⟨nofun, nofun, fun _ => rfl⟩
    | cons port ports =>
        cases hacc
        exact ⟨nofun, nofun, fun _ => rfl⟩
  case destroyErase | writerLock | readerLock | notifyGetting =>
    obtain ⟨x, -, heq⟩ := Option.map_eq_some_iff.mp hacc
    cases heq
    exact ⟨nofun, nofun, fun hc => hc⟩
  case notifyTry n =>
    simp only [access] at hacc
    cases hl : sh.rwlock.rdlock t <;> rw [hl] at hacc <;> cases hacc <;>
      exact ⟨nofun, nofun, fun hc => hc⟩
  case notifyFinding n =>
    simp only [access] at hacc
    cases hfind : sh.switchs.find n.dpid <;> rw [hfind] at hacc <;> cases hacc <;>
      exact ⟨nofun, nofun, fun hc => hc⟩
  case createStore => cases hacc; exact ⟨fun _ => rfl, nofun, fun _ => rfl⟩
  case notifyFind | notifyGet => cases hacc; exact ⟨nofun, fun _ => rfl, fun hc => hc⟩
  case notifyHandle | notifyUnlock => cases hacc; exact ⟨nofun, nofun, nofun⟩
  all_goals
    cases hacc
    exact ⟨nofun, nofun, fun _ => rfl⟩

namespace LookupsApart

variable {s : State τ} {t : τ} {c : Pc}

omit [DecidableEq τ] in
/-- A thread that inserts is the one in the critical section. -/
lemma inserting_of (hs : ManagerInv s) (hin : (s.pc t).inserting = true) : Inserting s := by
  refine ⟨t, hs.mutex t ?_, hin⟩
  cases hpc : s.pc t <;> rw [hpc] at hin <;> first | rfl | exact absurd hin nofun

/-- A thread that looks something up reads. -/
lemma holds_of_lookingUp (hlooking : c.lookingUp = true) : c.holds = .reading := by
  cases c <;> first | rfl | exact absurd hlooking nofun

/-- A thread goes on: when it inserts nobody else looks anything up, and when it looks something up
nobody else inserts. -/
lemma update (hs : LookupsApart s)
    (hinsert : c.inserting = true → ∀ t', (s.pc t').lookingUp = false)
    (hlookup : c.lookingUp = true → ∀ t', (s.pc t').inserting = false) (sh : SwitchManager τ) :
    LookupsApart (⟨sh, Function.update s.pc t c⟩ : State τ) := by
  intro t₁ t₂ hinserting
  change (Function.update s.pc t c t₁).inserting = true at hinserting
  change (Function.update s.pc t c t₂).lookingUp = false
  by_contra hlooking
  rw [Bool.not_eq_false] at hlooking
  by_cases h₁ : t₁ = t
  · subst h₁
    rw [Function.update_self] at hinserting
    by_cases h₂ : t₂ = t₁
    · -- no point is both
      subst h₂
      rw [Function.update_self] at hlooking
      cases c <;> first | (cases hinserting; done) | cases hlooking
    · rw [Function.update_of_ne h₂, hinsert hinserting t₂] at hlooking
      cases hlooking
  · rw [Function.update_of_ne h₁] at hinserting
    by_cases h₂ : t₂ = t
    · subst h₂
      rw [Function.update_self] at hlooking
      rw [hlookup hlooking t₁] at hinserting
      cases hinserting
    · rw [Function.update_of_ne h₂, hs t₁ t₂ hinserting] at hlooking
      cases hlooking

/-- **An access that is not raced keeps lookups and insertions apart.** -/
lemma access (hs : LookupsApart s) (hmanager : ManagerInv s) {h : History τ}
    (hok : Unraced (s, h) (.run t)) {sh : SwitchManager τ}
    (hacc : access t s.shared (s.pc t) = some (sh, c)) :
    LookupsApart (⟨sh, Function.update s.pc t c⟩ : State τ) := by
  obtain ⟨hinsert, hlookup, -⟩ := begins_of_access hacc
  refine hs.update (fun hinserting t' => ?_) (fun hlooking t' => ?_) sh
  · by_contra hlooking
    rw [Bool.not_eq_false] at hlooking
    have hreads : t' ∈ s.shared.rwlock.readers :=
      (hmanager.rwlock.readers t').mpr (holds_of_lookingUp hlooking)
    have hapart := hok.1 (hinsert hinserting) t' hreads
    rw [hlooking] at hapart
    cases hapart
  · by_contra hinserting
    rw [Bool.not_eq_false] at hinserting
    exact hok.2 (hlookup hlooking) (inserting_of hmanager hinserting)

/-- A lookup does not miss while nobody inserts. -/
lemma findMisses_eq_none (hs : LookupsApart s) (t : τ) : findMisses s t = none := by
  rw [findMisses]
  split
  · next n hpc =>
    refine if_neg ?_
    rintro ⟨t', -, hinserting⟩
    have hlooking := hs t' t hinserting
    rw [hpc] at hlooking
    cases hlooking
  · rfl

/-- A thread goes where it neither inserts nor looks up. -/
lemma goto (hs : LookupsApart s) (hinsert : c.inserting = false) (hlook : c.lookingUp = false)
    (sh : SwitchManager τ) : LookupsApart (⟨sh, Function.update s.pc t c⟩ : State τ) :=
  hs.update (fun hinserting => absurd (hinsert.symm.trans hinserting) Bool.false_ne_true)
    (fun hlooking => absurd (hlook.symm.trans hlooking) Bool.false_ne_true) sh

end LookupsApart

/-! ## What notifications are handed to -/

/-- What a thread at the point has handed its notification to. -/
def Pc.Serves (whole : Option OpenflowSwitch) (handed : List OpenflowSwitch) : Pc → Prop
  | notifyHandle _ dp => handed = [] ∧ ∀ dp', whole = some dp' → dp' = dp
  | notifyUnlock n _ => Notified.Correct ⟨n.dpid, whole, handed⟩
  | c => c.notification ≠ none → handed = []

/-- The invariant of the runs that nothing disturbs. -/
structure Inv (p : State τ × History τ) : Prop where
  manager : ManagerInv p.1
  apart : LookupsApart p.1
  serves : ∀ t, (p.1.pc t).Serves (p.2.whole t) (p.2.handed t)
  log : ∀ c ∈ p.2.log, c.Correct

lemma Notified.Correct.mono {dpid : Dpid} {whole whole' : Option OpenflowSwitch}
    {handed : List OpenflowSwitch} (h : Correct ⟨dpid, whole, handed⟩)
    (hwhole : ∀ dp, whole' = some dp → whole = some dp) : Correct ⟨dpid, whole', handed⟩ :=
  ⟨h.own, h.atMostOnce, fun dp hdp => h.exactlyOnce dp (hwhole dp hdp)⟩

/-- A notification that was dropped, and whose switch was not there all the time. -/
lemma Notified.correct_of_dropped {dpid : Dpid} {whole : Option OpenflowSwitch}
    (h : ∀ dp, whole ≠ some dp) : Correct ⟨dpid, whole, []⟩ :=
  ⟨nofun, Nat.zero_le 1, fun dp hdp => absurd hdp (h dp)⟩

namespace Pc.Serves

variable {whole whole' : Option OpenflowSwitch} {handed : List OpenflowSwitch} {c : Pc}

/-- There may be less left of the switch that was there all the time. -/
lemma mono (h : c.Serves whole handed) (hwhole : ∀ dp, whole' = some dp → whole = some dp) :
    c.Serves whole' handed := by
  cases c with
  | notifyHandle n dp => exact ⟨h.1, fun dp' hdp' => h.2 dp' (hwhole dp' hdp')⟩
  | notifyUnlock n ret => exact Notified.Correct.mono h hwhole
  | _ => exact h

lemma of_notification_eq_none (hc : c.notification = none) : c.Serves whole handed := by
  cases c with
  | notifyHandle n dp => exact absurd hc nofun
  | notifyUnlock n ret => exact absurd hc nofun
  | _ => exact fun hne => absurd hc hne

end Pc.Serves

section History

variable {s : State τ} {h : History τ} {t : τ}

omit [DecidableEq τ] in
/-- A switch that is still there is the one that was, and is present now. -/
lemma stillWhole_eq_some {dp : OpenflowSwitch} (hwhole : stillWhole s h t = some dp) :
    h.whole t = some dp ∧ ∀ n, (s.pc t).notification = some n → present s n.dpid = some dp := by
  rw [stillWhole] at hwhole
  split at hwhole
  · exact absurd hwhole nofun
  · next n hn =>
    split at hwhole
    · next heq =>
      refine ⟨hwhole, fun n' hn' => ?_⟩
      obtain rfl := Option.some.inj (hn.symm.trans hn')
      exact heq.symm.trans hwhole
    · exact absurd hwhole nofun

omit [DecidableEq τ] in
/-- A switch that is present is in the map, and not being destroyed. -/
lemma present_eq_some {dpid : Dpid} {dp : OpenflowSwitch} (hpresent : present s dpid = some dp) :
    ¬ BeingDestroyed s dpid ∧ s.shared.switchs.find dpid = some dp := by
  rw [present] at hpresent
  split at hpresent
  · exact absurd hpresent nofun
  · next hdestroyed => exact ⟨hdestroyed, hpresent⟩

omit [DecidableEq τ] in
/-- If a comparison is genuine and succeeds, the switch has not been there all the time. -/
lemma Genuine.stillWhole_ne (hok : Genuine (s, h) (.run t)) {n : Notification}
    (hcomparing : (s.pc t).comparing = some n) (hnotification : (s.pc t).notification = some n)
    (heq : n.dpid = s.shared.dpidUnderDestruction) (dp : OpenflowSwitch) :
    stillWhole s h t ≠ some dp := by
  intro hwhole
  obtain ⟨hnot, hfind⟩ := present_eq_some ((stillWhole_eq_some hwhole).2 n hnotification)
  rcases hok n hcomparing heq with hdestroyed | hnone
  · exact hnot hdestroyed
  · exact absurd (hnone.symm.trans hfind) nofun

/-- What a thread that runs has handed its notification to, and what it returns with. -/
lemma Inv.runs (hinv : Inv (s, h)) (hok : Genuine (s, h) (.run t)) {sh : SwitchManager τ} {c : Pc}
    (hacc : access t s.shared (s.pc t) = some (sh, c)) :
    c.Serves (stillWhole s h t) (h.handed t ++ handing (s.pc t)) ∧
      ∀ n, returning s t = some n →
        Notified.Correct ⟨n.dpid, stillWhole s h t, h.handed t⟩ := by
  have hserves := hinv.serves t
  have hstill : ∀ dp, stillWhole s h t = some dp → h.whole t = some dp :=
    fun dp hdp => (stillWhole_eq_some hdp).1
  have hpresent : ∀ dp, stillWhole s h t = some dp →
      ∀ n, (s.pc t).notification = some n → present s n.dpid = some dp :=
    fun dp hdp => (stillWhole_eq_some hdp).2
  have hdropped := fun n => hok.stillWhole_ne (n := n)
  have hret : returning s t = if c.notification = none then (s.pc t).notification else none := by
    rw [returning, hacc]
  have hstays (hne : c.notification ≠ none) (n' : Notification) : returning s t ≠ some n' := by
    rw [hret, if_neg hne]
    exact (Option.some_ne_none n').symm
  change (s.pc t).Serves (h.whole t) (h.handed t) at hserves
  by_cases hnone : (s.pc t).notification = none
  · refine ⟨.of_notification_eq_none ((begins_of_access hacc).notification hnone), fun n hn => ?_⟩
    rw [hret, hnone, ite_self] at hn
    cases hn
  cases hpc : s.pc t <;> rw [hpc] at hacc hserves hpresent hdropped hret hnone <;>
    try (exact absurd rfl hnone)
  case notifyRead n =>
    have hnil : h.handed t = [] := hserves hnone
    rw [hnil]
    change (if _ then _ else _) = _ at hacc
    split at hacc
    · next heq =>
      cases hacc
      refine ⟨fun _ => rfl, fun n' hn' => ?_⟩
      exact Notified.correct_of_dropped (hdropped n rfl rfl heq)
    · cases hacc
      exact ⟨fun _ => rfl, fun n' hn' => absurd hn' (hstays (Option.some_ne_none n) n')⟩
  case notifyTry n =>
    have hnil : h.handed t = [] := hserves hnone
    rw [hnil]
    simp only [Management.access] at hacc
    cases hl : s.shared.rwlock.rdlock t <;> rw [hl] at hacc <;> cases hacc <;>
      exact ⟨fun _ => rfl, fun n' hn' => absurd hn' (hstays (Option.some_ne_none n) n')⟩
  case notifyRetry n =>
    have hnil : h.handed t = [] := hserves hnone
    rw [hnil]
    change (if _ then _ else _) = _ at hacc
    split at hacc
    · next heq =>
      cases hacc
      refine ⟨fun _ => rfl, fun n' hn' => ?_⟩
      exact Notified.correct_of_dropped (hdropped n rfl rfl heq)
    · cases hacc
      exact ⟨fun _ => rfl, fun n' hn' => absurd hn' (hstays (Option.some_ne_none n) n')⟩
  case notifyFind n | notifyGet n =>
    have hnil : h.handed t = [] := hserves hnone
    rw [hnil]
    cases hacc
    exact ⟨fun _ => rfl, fun n' hn' => absurd hn' (hstays (Option.some_ne_none n) n')⟩
  case notifyFinding n =>
    have hnil : h.handed t = [] := hserves hnone
    rw [hnil]
    simp only [Management.access] at hacc
    cases hfind : s.shared.switchs.find n.dpid <;> rw [hfind] at hacc <;> cases hacc
    case none =>
      refine ⟨Notified.correct_of_dropped fun dp hdp => ?_, fun n' hn' =>
        absurd hn' (hstays (Option.some_ne_none n) n')⟩
      exact absurd (hfind.symm.trans (present_eq_some (hpresent dp hdp n rfl)).2) (by simp)
    case some dp =>
      exact ⟨fun _ => rfl, fun n' hn' => absurd hn' (hstays (Option.some_ne_none n) n')⟩
  case notifyGetting n =>
    have hnil : h.handed t = [] := hserves hnone
    rw [hnil]
    obtain ⟨dp, hfind, heq⟩ := Option.map_eq_some_iff.mp hacc
    cases heq
    refine ⟨⟨rfl, fun dp' hdp' => ?_⟩, fun n' hn' =>
      absurd hn' (hstays (Option.some_ne_none n) n')⟩
    have hfound := hfind.symm.trans (present_eq_some (hpresent dp' hdp' n rfl)).2
    exact (Option.some.inj hfound).symm
  case notifyHandle n dp =>
    obtain ⟨hnil, hdp⟩ := hserves
    rw [hnil]
    cases hacc
    refine ⟨⟨?_, le_rfl, fun dp' hdp' => ?_⟩, fun n' hn' =>
      absurd hn' (hstays (Option.some_ne_none n) n')⟩
    · exact List.forall_mem_singleton.mpr (hinv.manager.of_handling hpc).1
    · rw [hdp dp' (hstill dp' hdp')]
      rfl
  case notifyUnlock n ret =>
    cases hacc
    refine ⟨fun hne => absurd rfl hne, fun n' hn' => ?_⟩
    obtain rfl := Option.some.inj (hret.symm.trans hn')
    exact Notified.Correct.mono hserves hstill

omit [DecidableEq τ] in
/-- The threads that do not run have the same to show. -/
lemma Inv.others (hinv : Inv (s, h)) (t' : τ) :
    (s.pc t').Serves (stillWhole s h t') (h.handed t') :=
  (hinv.serves t').mono fun _ hdp => (stillWhole_eq_some hdp).1

/-- A call of a function other than a notification. -/
lemma Inv.calls (hinv : Inv (s, h)) {s' : State τ} {c : Pc} (hcall : call s t c = some s')
    (hc : c.notification = none) (t' : τ) :
    (s'.pc t').Serves (stillWhole s h t') (h.handed t') := by
  rw [call] at hcall
  split at hcall
  · cases hcall
    exact Threads.forall_update
      (fun t' (c' : Pc) => c'.Serves (stillWhole s h t') (h.handed t'))
      (.of_notification_eq_none hc) (fun t' _ => hinv.others t') t'
  · exact absurd hcall nofun

/-- A call of a notification. -/
lemma Inv.notifies (hinv : Inv (s, h)) {s' : State τ} {n : Notification}
    (hcall : call s t (.notifyRead n) = some s') (t' : τ) :
    (s'.pc t').Serves (Function.update (stillWhole s h) t (present s n.dpid) t')
      (Function.update h.handed t [] t') := by
  rw [call] at hcall
  split at hcall
  · cases hcall
    change (Function.update s.pc t (.notifyRead n) t').Serves _ _
    by_cases heq : t' = t
    · subst heq
      simp only [Function.update_self]
      exact fun _ => rfl
    · simp only [Function.update_of_ne heq]
      exact hinv.others t'
  · exact absurd hcall nofun

/-- A step of a thread. -/
lemma Inv.run (hinv : Inv (s, h)) (hok : Undisturbed (s, h) (.run t)) {s' : State τ}
    (hstep : step s (.run t) = some s') : Inv (s', record s (.run t) h) := by
  have hmanager := hinv.manager.step hstep
  obtain ⟨sh, c, hacc, rfl⟩ := Threads.run_eq_some hstep
  obtain ⟨hserves, hreturning⟩ := hinv.runs hok.1 hacc
  refine ⟨hmanager, hinv.apart.access hinv.manager hok.2 hacc, fun t' => ?_, ?_⟩
  · change (Function.update s.pc t c t').Serves (stillWhole s h t')
      (Function.update h.handed t (h.handed t ++ handing (s.pc t)) t')
    by_cases heq : t' = t
    · rw [heq, Function.update_self, Function.update_self]
      exact hserves
    · rw [Function.update_of_ne heq, Function.update_of_ne heq]
      exact hinv.others t'
  · intro c' hc'
    change c' ∈ (match returning s t with
      | none => h.log
      | some n => h.log ++ [Notified.mk n.dpid (stillWhole s h t) (h.handed t)]) at hc'
    cases hret : returning s t with
    | none =>
        rw [hret] at hc'
        exact hinv.log c' hc'
    | some n =>
        rw [hret] at hc'
        rcases List.mem_append.mp hc' with hc' | hc'
        · exact hinv.log c' hc'
        · rw [List.mem_singleton.mp hc']
          exact hreturning n hret

end History

omit [DecidableEq τ] in
lemma inv_init : Inv ((init, History.init) : State τ × History τ) :=
  ⟨.init, fun _ _ _ => rfl, fun _ hne => absurd rfl hne, nofun⟩

/-- A call, which neither inserts nor looks up yet. -/
lemma LookupsApart.call {s s' : State τ} {t : τ} {c : Pc} (h : LookupsApart s)
    (hcall : call s t c = some s') (hinsert : c.inserting = false) (hlook : c.lookingUp = false) :
    LookupsApart s' := by
  rw [Management.call] at hcall
  split at hcall
  · cases hcall
    exact h.goto hinsert hlook s.shared
  · exact absurd hcall nofun

/-- **Delivery.**  In every run of any number of threads in which the id of a notification is only
found in `dpid_under_destruction` while its switch is being destroyed, or does not exist, and no
notification looks its switch up while another one is put into the map, no handler runs on a deleted
switch, and a notification whose switch is there from the call to the return is handed to it exactly
once. -/
theorem delivered_of_undisturbed {acts : List (Action τ)} {p : State τ × History τ}
    (hrun : Run observed Undisturbed (init, History.init) acts p) : Delivered p := by
  have hinv : Inv p := by
    refine hrun.invariant ?_ inv_init
    rintro ⟨s, h⟩ a ⟨s', h'⟩ hinv hok hstep
    obtain ⟨hs', rfl⟩ := observe_eq_some hstep
    have hmanager := hinv.manager.step hs'
    cases a with
    | createSwitch t dpid dpname new =>
        exact ⟨hmanager, hinv.apart.call hs' rfl rfl, hinv.calls hs' rfl, hinv.log⟩
    | destroySwitch t dpid snapshot =>
        exact ⟨hmanager, hinv.apart.call hs' rfl rfl, hinv.calls hs' rfl, hinv.log⟩
    | notify t n =>
        exact ⟨hmanager, hinv.apart.call hs' rfl rfl, hinv.notifies hs', hinv.log⟩
    | write t =>
        exact ⟨hmanager, hinv.apart.call hs' rfl rfl, hinv.calls hs' rfl, hinv.log⟩
    | read t =>
        exact ⟨hmanager, hinv.apart.call hs' rfl rfl, hinv.calls hs' rfl, hinv.log⟩
    | run t => exact hinv.run hok hs'
    | detachThrows t =>
        change detachThrows s t = some s' at hs'
        rw [detachThrows] at hs'
        split at hs'
        · cases hs'
          refine ⟨hmanager, hinv.apart.goto rfl rfl _, fun t' => ?_, hinv.log⟩
          exact Threads.forall_update
            (fun t' (c' : Pc) => c'.Serves (stillWhole s h t') (h.handed t'))
            (.of_notification_eq_none rfl) (fun t' _ => hinv.others t') t'
        · exact absurd hs' nofun
    | findMisses t => exact absurd (hs'.symm.trans (hinv.apart.findMisses_eq_none t)) nofun
  exact ⟨fun t n dp hpc => (hinv.manager.of_handling hpc).2, hinv.log⟩

/-- A switch is created, notified, and destroyed while another notification waits. -/
def lifeOfASwitch : List (Action Bool) :=
  [.createSwitch false 1 "dp0" .constructed] ++ List.replicate 5 (.run false) ++
    [.notify true ⟨.packetIn, 1⟩] ++ List.replicate 8 (.run true) ++
    [.destroySwitch false 1 (some ["ge0"])] ++ List.replicate 3 (.run false) ++
    [.notify true ⟨.portDetached, 1⟩, .run true] ++ List.replicate 7 (.run false)

theorem delivered_lifeOfASwitch : ∃ p ∈ exec (guarded observed Undisturbed)
      (init, History.init) lifeOfASwitch,
    p.2.log = [⟨1, some ⟨0, 1, "dp0"⟩, [⟨0, 1, "dp0"⟩]⟩, ⟨1, none, []⟩] ∧ Delivered p := by
  have hexec : ∃ p ∈ exec (guarded observed Undisturbed) (init, History.init) lifeOfASwitch,
      p.2.log = [⟨1, some ⟨0, 1, "dp0"⟩, [⟨0, 1, "dp0"⟩]⟩, ⟨1, none, []⟩] := by decide
  obtain ⟨p, hp, hlog⟩ := hexec
  exact ⟨p, hp, hlog, delivered_of_undisturbed (run_of_exec_guarded hp)⟩

/-- A packet for the switch with the id `0x0` is dropped, as if the switch were being destroyed. -/
theorem not_delivered_to_zero : ¬ ∀ (acts : List (Action Bool)) (p : State Bool × History Bool),
    Run observed anyStep (init, History.init) acts p → Delivered p := by
  intro hall
  have hexec : ∃ p ∈ exec observed (init, History.init)
      ([.createSwitch false 0 "dp0" .constructed] ++ List.replicate 5 (.run false) ++
        [.notify true ⟨.packetIn, 0⟩, .run true]),
      p.2.log = [⟨0, some ⟨0, 0, "dp0"⟩, []⟩] := by decide
  obtain ⟨p, hp, hlog⟩ := hexec
  have hcorrect := (hall _ p (run_of_exec hp)).log ⟨0, some ⟨0, 0, "dp0"⟩, []⟩
  rw [hlog] at hcorrect
  exact absurd ((hcorrect (List.mem_singleton_self _)).exactlyOnce _ rfl) nofun

/-- A packet for a switch is dropped while another switch is put into the map. -/
example : ∃ p ∈ exec observed (init, History.init)
    ([.createSwitch false 1 "dp0" .constructed] ++ List.replicate 5 (.run false) ++
      [.createSwitch false 2 "dp1" .constructed] ++ List.replicate 3 (.run false) ++
      [.notify true ⟨.packetIn, 1⟩] ++ List.replicate 3 (.run true) ++
      [.findMisses true, .run true]),
    p.2.log = [⟨1, some ⟨0, 1, "dp0"⟩, []⟩] := by
  decide

end Xdpd.Management
