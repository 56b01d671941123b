import Mathlib.Data.Finset.Basic
import Mathlib.Data.Finset.Insert
import Mathlib.Logic.Function.Basic
import Mathlib.Tactic.Common

/-!
# Threads and the locks that they hold

A program of several threads is given by what they share, `σ`, and by the program point of each of
them, `pc : τ → π`; a thread that runs makes one access to what is shared and goes on to its next
point.

Which points lie between taking a lock and giving it back is a function of the point, and a lock is
respected when it is held by just the threads at such points.  The lemmas tell that taking a lock,
giving it back, and any step that does neither, keep this.  A `Mutex` may also be held by no thread
that is inside: one that has left without unlocking it.
-/

namespace Xdpd.Lib

variable {σ τ π : Type*}

/-- What the threads share, and where they are. -/
structure Threads (σ τ π : Type*) where
  shared : σ
  pc : τ → π

namespace Threads

variable [DecidableEq τ]

/-- A thread goes to another point. -/
def goto (s : Threads σ τ π) (t : τ) (c : π) : Threads σ τ π :=
  ⟨s.shared, Function.update s.pc t c⟩

/-- A thread makes its next access. -/
def run (access : τ → σ → π → Option (σ × π)) (s : Threads σ τ π) (t : τ) :
    Option (Threads σ τ π) :=
  (access t s.shared (s.pc t)).map fun p => ⟨p.1, Function.update s.pc t p.2⟩

/-- What a run of a thread comes to is decided by its access. -/
lemma run_eq_some {access : τ → σ → π → Option (σ × π)} {s s' : Threads σ τ π} {t : τ}
    (h : s.run access t = some s') : ∃ sh c, access t s.shared (s.pc t) = some (sh, c) ∧
      s' = ⟨sh, Function.update s.pc t c⟩ := by
  obtain ⟨⟨sh, c⟩, hacc, rfl⟩ := Option.map_eq_some_iff.mp h
  exact ⟨sh, c, hacc, rfl⟩

/-- What holds of every thread still does, if it is kept for the others and holds for the one that
has moved. -/
lemma forall_update (P : τ → π → Prop) {pc : τ → π} {t : τ} {c : π} (ht : P t c)
    (hother : ∀ t', t' ≠ t → P t' (pc t')) : ∀ t', P t' (Function.update pc t c t') := by
  intro t'
  by_cases heq : t' = t
  · subst heq
    rw [Function.update_self]
    exact ht
  · rw [Function.update_of_ne heq]
    exact hother t' heq

end Threads

/-- A mutex, with the thread that has locked it. -/
abbrev Mutex (τ : Type*) := Option τ

/-- A thread that is at a point `inside` has locked the mutex. -/
def Mutex.Respected (inside : π → Bool) (m : Mutex τ) (pc : τ → π) : Prop :=
  ∀ t, inside (pc t) = true → m = some t

namespace Mutex.Respected

variable {inside : π → Bool} {m : Mutex τ} {pc : τ → π} {t : τ} {c₀ c : π}

/-- **Mutual exclusion.** -/
lemma eq_of_inside (h : Respected inside m pc) {t' : τ} (ht : inside (pc t) = true)
    (ht' : inside (pc t') = true) : t = t' :=
  Option.some.inj ((h t ht).symm.trans (h t' ht'))

/-- The other threads are outside. -/
lemma outside_of_ne (h : Respected inside m pc) {t' : τ} (ht : inside (pc t) = true)
    (hne : t' ≠ t) : inside (pc t') = false := by
  by_contra hin
  exact hne (h.eq_of_inside (Bool.eq_true_of_not_eq_false hin) ht)

variable [DecidableEq τ]

lemma goto (h : Respected inside m pc) (hpc : pc t = c₀)
    (hc : inside c = true → inside c₀ = true) : Respected inside m (Function.update pc t c) :=
  Threads.forall_update (fun t' c' => inside c' = true → m = some t')
    (fun hin => h t (by rw [hpc, hc hin])) fun t' _ => h t'

lemma lock (h : Respected inside m pc) (hm : m = none) :
    Respected inside (some t) (Function.update pc t c) :=
  Threads.forall_update (fun t' c' => inside c' = true → some t = some t') (fun _ => rfl)
    fun t' _ hin => absurd ((h t' hin).symm.trans hm) nofun

lemma unlock (h : Respected inside m pc) (hpc : pc t = c₀) (hin : inside c₀ = true)
    (hc : inside c = false) : Respected inside none (Function.update pc t c) := by
  refine Threads.forall_update (fun t' c' => inside c' = true → none = some t') ?_
    fun t' heq hin' => ?_
  · intro hin'
    rw [hc] at hin'
    exact absurd hin' nofun
  · exact absurd (h.eq_of_inside hin' (by rw [hpc, hin])) heq

end Mutex.Respected

/-- A lock that one writer or any number of readers can hold. -/
structure Rwlock (τ : Type*) where
  writer : Option τ
  readers : Finset τ

namespace Rwlock

/-- Nobody holds the lock. -/
def free : Rwlock τ := ⟨none, ∅⟩

variable [DecidableEq τ]

/-- Takes the lock for writing, unless it has to wait. -/
def wrlock (l : Rwlock τ) (t : τ) : Option (Rwlock τ) :=
  if l.writer = none ∧ l.readers = ∅ then some ⟨some t, ∅⟩ else none

/-- Takes the lock for reading, unless it has to wait. -/
def rdlock (l : Rwlock τ) (t : τ) : Option (Rwlock τ) :=
  if l.writer = none then some ⟨none, insert t l.readers⟩ else none

/-- Gives back what the thread holds. -/
def unlock (l : Rwlock τ) (t : τ) : Rwlock τ :=
  if l.writer = some t then ⟨none, l.readers⟩ else ⟨l.writer, l.readers.erase t⟩

/-- What a thread can hold of the lock. -/
inductive Hold where
  | nothing
  | reading
  | writing
  deriving DecidableEq

/-- The threads hold what their program points say, and not both kinds at once. -/
structure Respected (holds : π → Hold) (l : Rwlock τ) (pc : τ → π) : Prop where
  writer : ∀ t, l.writer = some t ↔ holds (pc t) = .writing
  readers : ∀ t, t ∈ l.readers ↔ holds (pc t) = .reading
  exclusive : ∀ t, l.writer = some t → l.readers = ∅

namespace Respected

variable {holds : π → Hold} {l l' : Rwlock τ} {pc : τ → π} {t : τ} {c₀ c : π}

omit [DecidableEq τ] in
/-- Nobody reads while a thread writes. -/
lemma not_reading (h : Respected holds l pc) {t' : τ} (ht : holds (pc t) = .writing) :
    holds (pc t') ≠ .reading := by
  intro hreading
  have hmem := (h.readers t').mpr hreading
  rw [h.exclusive t ((h.writer t).mpr ht)] at hmem
  exact absurd hmem (Finset.notMem_empty t')

omit [DecidableEq τ] in
lemma init {c : π} (hc : holds c = .nothing) : Respected holds free fun _ : τ => c := by
  refine ⟨fun t => ?_, fun t => ?_, fun t ht => absurd ht nofun⟩
  · rw [hc]
    exact ⟨nofun, nofun⟩
  · rw [hc]
    exact ⟨fun hmem => absurd hmem (Finset.notMem_empty t), nofun⟩

lemma goto (h : Respected holds l pc) (hpc : pc t = c₀) (hc : holds c = holds c₀) :
    Respected holds l (Function.update pc t c) := by
  refine ⟨Threads.forall_update (fun t' c' => l.writer = some t' ↔ holds c' = .writing) ?_
      fun t' _ => h.writer t',
    Threads.forall_update (fun t' c' => t' ∈ l.readers ↔ holds c' = .reading) ?_
      fun t' _ => h.readers t', h.exclusive⟩
  · rw [hc, ← hpc]
    exact h.writer t
  · rw [hc, ← hpc]
    exact h.readers t

lemma wrlock (h : Respected holds l pc) (hl : l.wrlock t = some l') (hc : holds c = .writing) :
    Respected holds l' (Function.update pc t c) := by
  rw [Rwlock.wrlock] at hl
  split at hl
  · next hfree =>
    obtain rfl := Option.some.inj hl
    refine ⟨Threads.forall_update (fun t' c' => some t = some t' ↔ holds c' = .writing) ?_
        fun t' heq => ?_,
      Threads.forall_update (fun t' c' => t' ∈ (∅ : Finset τ) ↔ holds c' = .reading) ?_
        fun t' heq => ?_, fun _ _ => rfl⟩
    · rw [hc]
      exact ⟨fun _ => rfl, fun _ => rfl⟩
    · rw [← h.writer, hfree.1]
      exact ⟨fun hsome => absurd (Option.some.inj hsome).symm heq, nofun⟩
    · rw [hc]
      exact ⟨fun hmem => absurd hmem (Finset.notMem_empty t), nofun⟩
    · rw [← h.readers, hfree.2]
  · exact absurd hl nofun

lemma rdlock (h : Respected holds l pc) (hl : l.rdlock t = some l') (hc : holds c = .reading) :
    Respected holds l' (Function.update pc t c) := by
  rw [Rwlock.rdlock] at hl
  split at hl
  · next hfree =>
    obtain rfl := Option.some.inj hl
    refine ⟨Threads.forall_update (fun t' c' => none = some t' ↔ holds c' = .writing) ?_
        fun t' heq => ?_,
      Threads.forall_update (fun t' c' => t' ∈ insert t l.readers ↔ holds c' = .reading) ?_
        fun t' heq => ?_, fun _ hsome => absurd hsome nofun⟩
    · rw [hc]
      exact ⟨nofun, nofun⟩
    · rw [← h.writer, hfree]
    · rw [hc]
      exact ⟨fun _ => rfl, fun _ => Finset.mem_insert_self t _⟩
    · rw [← h.readers]
      exact Finset.mem_insert.trans (or_iff_right heq)
  · exact absurd hl nofun

lemma unlock (h : Respected holds l pc) (hc : holds c = .nothing) :
    Respected holds (l.unlock t) (Function.update pc t c) := by
  rw [Rwlock.unlock]
  split
  · next hwriter =>
    have hnone := h.exclusive t hwriter
    refine ⟨Threads.forall_update (fun t' c' => none = some t' ↔ holds c' = .writing) ?_
        fun t' heq => ?_,
      Threads.forall_update (fun t' c' => t' ∈ l.readers ↔ holds c' = .reading) ?_
        fun t' _ => h.readers t', fun _ hsome => absurd hsome nofun⟩
    · rw [hc]
      exact ⟨nofun, nofun⟩
    · rw [← h.writer, hwriter]
      exact ⟨nofun, fun hsome => absurd (Option.some.inj hsome).symm heq⟩
    · rw [hc, hnone]
      exact ⟨fun hmem => absurd hmem (Finset.notMem_empty t), nofun⟩
  · next hwriter =>
    refine ⟨Threads.forall_update (fun t' c' => l.writer = some t' ↔ holds c' = .writing) ?_
        fun t' _ => h.writer t',
      Threads.forall_update (fun t' c' => t' ∈ l.readers.erase t ↔ holds c' = .reading) ?_
        fun t' heq => ?_, fun t' hsome => ?_⟩
    · rw [hc]
      exact ⟨fun hsome => absurd hsome hwriter, nofun⟩
    · rw [hc]
      exact ⟨fun hmem => absurd hmem (Finset.notMem_erase t _), nofun⟩
    · rw [← h.readers]
      exact Finset.mem_erase.trans (and_iff_right heq)
    · rw [h.exclusive t' hsome]
      rfl

end Respected

end Rwlock

end Xdpd.Lib
