import Xdpd.Util.CircularQueueThreads

/-!
# The ring is a first-in first-out queue, as long as no index is swapped after being recycled

The positions of the ring are numbered without wrap-around: `r` is the next one to be read, `w` the
next one to be committed, `c` the next one to be claimed.  In every run they satisfy
`r ≤ w ≤ c < r + slots`, each pointer is the slot of its position, the slots of the positions from
`r` up to `w` hold the elements written and not yet read, and every position from `w` up to `c`
belongs to one writer, between its two swaps.

A thread that is about to swap an index knows the position it loaded.  The swap compares slots, not
positions: when the index has gone round the ring meanwhile, it succeeds although the position is
gone.  `NotRecycled` excludes just this, and the invariant is kept by every other step.
-/

namespace Xdpd.Util

open Xdpd.Lib

variable {α τ : Type*}

/-! ## The invariant -/

/-- The queue, with the position `r` to be read, `w` to be committed and `c` to be claimed next. -/
structure Shape [DecidableEq α] (q : CircularQueue α) (r w c : ℕ) (log : List (FifoEvent α)) :
    Prop where
  isPowerOfTwo : q.slots.isPowerOfTwo
  readp_eq : q.readp = r % q.slots
  writep_eq : q.writep = w % q.slots
  _writep_eq : q._writep = c % q.slots
  reads_le : r ≤ w
  commits_le : w ≤ c
  room : c < r + q.slots
  fifo : ∃ l, FifoEvent.replay [] log = some l ∧
    (List.range' r (w - r)).map (fun i => q.elements (i % q.slots)) = l.map some

namespace Pc

/-- The thread has claimed a position and not committed it yet. -/
def Claimed : Pc α → Prop
  | .writeStore _ _ _ | .writeCommit _ _ _ => True
  | _ => False

/-- What a thread that loaded the position `g` knows at each program point. -/
def Ok (q : CircularQueue α) (r w c g : ℕ) : Pc α → Prop
  | .idle _ | .writeTop _ | .readTop => True
  | .writeFull _ write_cpy => write_cpy = g % q.slots ∧ g ≤ c
  | .writeClaim _ write_cpy next =>
      write_cpy = g % q.slots ∧ next = (g + 1) % q.slots ∧ g ≤ c ∧
        (g = c → c + 1 < r + q.slots)
  | .writeStore _ write_cpy next =>
      write_cpy = g % q.slots ∧ next = (g + 1) % q.slots ∧ w ≤ g ∧ g < c
  | .writeCommit elem write_cpy next =>
      write_cpy = g % q.slots ∧ next = (g + 1) % q.slots ∧ w ≤ g ∧ g < c ∧
        q.elements (g % q.slots) = some elem
  | .readEmpty read_cpy => read_cpy = g % q.slots ∧ g ≤ r
  | .readElem read_cpy => read_cpy = g % q.slots ∧ g ≤ r ∧ (g = r → r < w)
  | .readAdvance to_return read_cpy next =>
      read_cpy = g % q.slots ∧ next = (g + 1) % q.slots ∧ g ≤ r ∧
        (g = r → r < w ∧ to_return = q.elements (r % q.slots))

/-- What a thread knows stays true when others move the positions forward, as long as they leave
alone the slot it has claimed and the slot to be read next. -/
lemma Ok.frame {q q' : CircularQueue α} {r r' w w' c c' g : ℕ} {pc : Pc α}
    (h : pc.Ok q r w c g) (hslots : q'.slots = q.slots) (hr : r ≤ r') (hw : w ≤ w') (hc : c ≤ c')
    (hclaimed : pc.Claimed → w ≤ g → g < c → w' ≤ g ∧
      q'.elements (g % q.slots) = q.elements (g % q.slots))
    (hnext : r < w → q'.elements (r % q.slots) = q.elements (r % q.slots)) :
    pc.Ok q' r' w' c' g := by
  cases pc with
  | idle _ => trivial
  | writeTop _ => trivial
  | readTop => trivial
  | writeFull _ i => exact ⟨by rw [h.1, hslots], h.2.trans hc⟩
  | writeClaim _ i next =>
      obtain ⟨hi, hn, hg, hroom⟩ := h
      rw [← hslots] at hi hn hroom
      refine ⟨hi, hn, hg.trans hc, fun hgc => ?_⟩
      have := hroom (by omega)
      omega
  | writeStore _ i next =>
      obtain ⟨hi, hn, hwg, hgc⟩ := h
      obtain ⟨hw', -⟩ := hclaimed trivial hwg hgc
      rw [← hslots] at hi hn
      exact ⟨hi, hn, hw', by omega⟩
  | writeCommit e i next =>
      obtain ⟨hi, hn, hwg, hgc, helem⟩ := h
      obtain ⟨hw', hel⟩ := hclaimed trivial hwg hgc
      rw [← hel] at helem
      rw [← hslots] at hi hn helem
      exact ⟨hi, hn, hw', by omega, helem⟩
  | readEmpty i => exact ⟨by rw [h.1, hslots], h.2.trans hr⟩
  | readElem i =>
      obtain ⟨hi, hg, hlt⟩ := h
      rw [← hslots] at hi
      refine ⟨hi, hg.trans hr, fun hgr => ?_⟩
      have := hlt (by omega)
      omega
  | readAdvance v i next =>
      obtain ⟨hi, hn, hg, hv⟩ := h
      refine ⟨by rw [hi, hslots], by rw [hn, hslots], hg.trans hr, fun hgr => ?_⟩
      obtain rfl : r = r' := by omega
      obtain ⟨hlt, rfl⟩ := hv (by omega)
      exact ⟨by omega, by rw [hslots, hnext hlt]⟩

end Pc

variable [DecidableEq α]

/-- The invariant of the runs in which no recycled index is swapped. -/
structure Inv (p : State α τ × History α τ) : Prop where
  shape : Shape p.1.queue p.2.reads p.2.commits p.2.claims p.2.log
  ok : ∀ t, (p.1.pc t).Ok p.1.queue p.2.reads p.2.commits p.2.claims (p.2.stamp t)
  /-- different writers own different positions -/
  distinct : ∀ t t', (p.1.pc t).Claimed → (p.1.pc t').Claimed → p.2.stamp t = p.2.stamp t' → t = t'

/-! ## What the swaps and the store do to the queue -/

namespace Shape

variable {q : CircularQueue α} {r w c : ℕ} {log : List (FifoEvent α)}

lemma slots_pos (h : Shape q r w c log) : 0 < q.slots :=
  Nat.pos_of_isPowerOfTwo h.isPowerOfTwo

/-- A writer claims the next position. -/
lemma claim (h : Shape q r w c log) (hroom : c + 1 < r + q.slots) :
    Shape { q with _writep := (c + 1) % q.slots } r w (c + 1) log :=
  { h with _writep_eq := rfl, commits_le := h.commits_le.trans (Nat.le_succ c), room := hroom }

/-- A writer stores its element in the slot of a position that is claimed and not committed. -/
lemma store (h : Shape q r w c log) {g : ℕ} (hwg : w ≤ g) (hgc : g < c) (v : Option α) :
    Shape { q with elements := Function.update q.elements (g % q.slots) v } r w c log := by
  have hroom := h.room
  obtain ⟨l, hl, hmap⟩ := h.fifo
  refine { h with fifo := ⟨l, hl, ?_⟩ }
  rw [← hmap]
  refine List.map_congr_left fun i hi => ?_
  have hi' := List.mem_range'_1.mp hi
  have hne : i % q.slots ≠ g % q.slots := mod_ne_mod_of_lt (by omega) (by omega)
  exact Function.update_of_ne hne _ _

/-- A writer commits the next position, whose slot holds its element. -/
lemma commit (h : Shape q r w c log) (hwc : w < c) {e : α}
    (he : q.elements (w % q.slots) = some e) :
    Shape { q with writep := (w + 1) % q.slots } r (w + 1) c (log ++ [.wrote e]) := by
  obtain ⟨l, hl, hmap⟩ := h.fifo
  have hrw := h.reads_le
  refine { h with
    writep_eq := rfl, reads_le := hrw.trans (Nat.le_succ w), commits_le := hwc,
    fifo := ⟨l ++ [e], FifoEvent.replay_snoc_wrote hl e, ?_⟩ }
  have hlen : w + 1 - r = (w - r) + 1 := by omega
  have hlast : r + (w - r) = w := by omega
  rw [hlen, List.range'_1_concat, List.map_append, hmap, hlast, List.map_append]
  simp [he]

/-- A reader moves past the next position and returns what its slot holds. -/
lemma advance (h : Shape q r w c log) (hrw : r < w) :
    Shape { q with readp := (r + 1) % q.slots } (r + 1) w c
      (log ++ [.returned (q.elements (r % q.slots))]) := by
  have hroom := h.room
  obtain ⟨l, hl, hmap⟩ := h.fifo
  have hlen : w - r = (w - (r + 1)) + 1 := by omega
  rw [hlen, List.range'_succ, List.map_cons] at hmap
  cases l with
  | nil => simp at hmap
  | cons x l =>
      simp only [List.map_cons, List.cons.injEq] at hmap
      refine { h with
        readp_eq := rfl, reads_le := hrw, room := by simp only; omega,
        fifo := ⟨l, ?_, hmap.2⟩ }
      rw [hmap.1]
      exact FifoEvent.replay_snoc_returned hl

/-- The check for a full queue lets a writer pass only when the position it has loaded, if it is
still the next one to be claimed, leaves room. -/
lemma room_of_isFull (h : Shape q r w c log) {g : ℕ}
    (hfull : ¬ q.isFull (g % q.slots) q.readp = true) (hgc : g = c) : c + 1 < r + q.slots := by
  have hroom := h.room
  rw [CircularQueue.isFull_eq_true_iff h.isPowerOfTwo, h.readp_eq, Nat.mod_add_mod] at hfull
  by_contra hge
  have hlast : c + 1 = r + q.slots := by omega
  rw [hgc, hlast, Nat.add_mod_right] at hfull
  exact hfull rfl

/-- The check for an empty queue lets a reader pass only when the position it has loaded, if it is
still the next one to be read, has been committed. -/
lemma lt_of_isEmpty (h : Shape q r w c log) {g : ℕ}
    (hempty : ¬ CircularQueue.isEmpty q.writep (g % q.slots) = true) (hgr : g = r) : r < w := by
  rw [CircularQueue.isEmpty_eq_true_iff, h.writep_eq, hgr] at hempty
  exact lt_of_le_of_ne h.reads_le fun hrw => hempty (by rw [hrw])

end Shape

/-! ## The steps keep the invariant -/

variable [DecidableEq τ]

/-- A thread moves to a new program point.  It is enough to see to the queue, to the thread itself
and to what the others know. -/
lemma Inv.move {p p' : State α τ × History α τ} (hinv : Inv p) (t : τ) (pc : Pc α)
    (hpc : p'.1.pc = Function.update p.1.pc t pc)
    (hstamp : ∀ t', t' ≠ t → p'.2.stamp t' = p.2.stamp t')
    (hshape : Shape p'.1.queue p'.2.reads p'.2.commits p'.2.claims p'.2.log)
    (hok : pc.Ok p'.1.queue p'.2.reads p'.2.commits p'.2.claims (p'.2.stamp t))
    (hframe : ∀ t', t' ≠ t →
      (p.1.pc t').Ok p'.1.queue p'.2.reads p'.2.commits p'.2.claims (p.2.stamp t'))
    (hdistinct : pc.Claimed → ∀ t', t' ≠ t → (p.1.pc t').Claimed → p.2.stamp t' ≠ p'.2.stamp t) :
    Inv p' := by
  refine ⟨hshape, fun t' => ?_, fun t₁ t₂ h₁ h₂ heq => ?_⟩
  · by_cases ht : t' = t
    · subst ht
      rw [hpc, Function.update_self]
      exact hok
    · rw [hpc, Function.update_of_ne ht, hstamp t' ht]
      exact hframe t' ht
  · rw [hpc] at h₁ h₂
    by_cases ht₁ : t₁ = t
    · by_cases ht₂ : t₂ = t
      · rw [ht₁, ht₂]
      · rw [ht₁, Function.update_self] at h₁
        rw [Function.update_of_ne ht₂] at h₂
        rw [ht₁, hstamp t₂ ht₂] at heq
        exact absurd heq.symm (hdistinct h₁ t₂ ht₂ h₂)
    · rw [Function.update_of_ne ht₁] at h₁
      rw [hstamp t₁ ht₁] at heq
      by_cases ht₂ : t₂ = t
      · rw [ht₂, Function.update_self] at h₂
        rw [ht₂] at heq
        exact absurd heq (hdistinct h₂ t₁ ht₁ h₁)
      · rw [Function.update_of_ne ht₂] at h₂
        rw [hstamp t₂ ht₂] at heq
        exact hinv.distinct t₁ t₂ h₁ h₂ heq

/-- A thread that only loads, or whose compare-and-swap fails, changes nothing for the others. -/
lemma Inv.local {s s' : State α τ} {h h' : History α τ} (hinv : Inv (s, h)) (t : τ) (pc : Pc α)
    (hs' : s' = s.goto t pc)
    (hh' : h' = { h with stamp := Function.update h.stamp t (h'.stamp t) })
    (hok : pc.Ok s.queue h.reads h.commits h.claims (h'.stamp t))
    (hclaimed : pc.Claimed → (s.pc t).Claimed ∧ h'.stamp t = h.stamp t) :
    Inv (s', h') := by
  subst hs'
  rw [hh']
  refine hinv.move t pc rfl (fun t' ht => Function.update_of_ne ht _ _) hinv.shape ?_
    (fun t' _ => hinv.ok t') fun hc t' ht hc' heq => ?_
  · simpa using hok
  · obtain ⟨hct, hg⟩ := hclaimed hc
    simp only [Function.update_self, hg] at heq
    exact ht (hinv.distinct t' t hc' hct heq)

omit [DecidableEq τ] in
/-- Two threads have not claimed the same position. -/
lemma Inv.stamp_ne {s : State α τ} {h : History α τ} (hinv : Inv (s, h)) {t t' : τ} (ht : t' ≠ t)
    (hclaimed' : (s.pc t').Claimed) (hclaimed : (s.pc t).Claimed) : h.stamp t' ≠ h.stamp t :=
  fun heq => ht (hinv.distinct t' t hclaimed' hclaimed heq)

section Writes

variable {s s' : State α τ} {h : History α τ} {t : τ} {elem : α} {write_cpy next : ℕ}

/-- A writer swaps the index of the positions that are claimed. -/
lemma Inv.writeClaim (hinv : Inv (s, h)) (hc : s.pc t = .writeClaim elem write_cpy next)
    (hok : (s.pc t).NotRecycled s.queue h (h.stamp t)) (hstep : access s t = some s') :
    Inv (s', record s (.run t) h) := by
  have hpc : (s.pc t).Ok s.queue h.reads h.commits h.claims (h.stamp t) := hinv.ok t
  have hshape : Shape s.queue h.reads h.commits h.claims h.log := hinv.shape
  rw [hc] at hpc hok
  obtain ⟨rfl, rfl, hg, hnext⟩ := hpc
  simp only [Util.access, hc] at hstep
  simp only [record, hc]
  split_ifs at hstep ⊢ with hcas
  · -- the swap succeeds, so the position loaded is the one to be claimed
    obtain hgc : h.claims = h.stamp t := hok hcas
    have hroom := hnext hgc.symm
    rw [← hgc] at hstep
    obtain rfl := Option.some.inj hstep
    refine hinv.move t _ rfl (fun _ _ => rfl) (hshape.claim hroom) ?_ ?_ ?_
    · show Pc.Ok _ _ _ _ (h.stamp t) _
      rw [← hgc]
      exact ⟨rfl, rfl, hshape.commits_le, Nat.lt_succ_self _⟩
    · exact fun t' _ => (hinv.ok t').frame rfl le_rfl le_rfl (Nat.le_succ _)
        (fun _ hw _ => ⟨hw, rfl⟩) fun _ => rfl
    · -- the positions of the other writers are all below the new one
      intro _ t' _ hclaimed heq
      have hlt := hinv.ok t'
      simp only at heq hclaimed hlt
      cases hc' : s.pc t' with
      | writeStore e i n => rw [hc'] at hlt; have := hlt.2.2.2; omega
      | writeCommit e i n => rw [hc'] at hlt; have := hlt.2.2.2.1; omega
      | _ => simp [hc', Pc.Claimed] at hclaimed
  · exact hinv.local t _ (Option.some.inj hstep).symm (by simp) trivial (by simp [Pc.Claimed])

/-- A writer stores its element in the slot of the position that it has claimed. -/
lemma Inv.writeStore (hinv : Inv (s, h)) (hc : s.pc t = .writeStore elem write_cpy next)
    (hstep : access s t = some s') : Inv (s', record s (.run t) h) := by
  have hpc : (s.pc t).Ok s.queue h.reads h.commits h.claims (h.stamp t) := hinv.ok t
  have hshape : Shape s.queue h.reads h.commits h.claims h.log := hinv.shape
  have hroom := hshape.room
  have hclaimed : (s.pc t).Claimed := by simp [hc, Pc.Claimed]
  rw [hc] at hpc
  obtain ⟨rfl, rfl, hwg, hgc⟩ := hpc
  simp only [Util.access, hc, Option.some.injEq] at hstep
  simp only [record, hc]
  subst hstep
  refine hinv.move t _ rfl (fun _ _ => rfl) (hshape.store hwg hgc _) ?_ ?_ ?_
  · exact ⟨rfl, rfl, hwg, hgc, by simp⟩
  · intro t' ht
    refine (hinv.ok t').frame rfl le_rfl le_rfl le_rfl (fun hcl hw' hc' => ⟨hw', ?_⟩) ?_
    · -- two claimed positions lie inside one lap of the ring
      have hslot : h.stamp t' % s.queue.slots ≠ h.stamp t % s.queue.slots := fun heq => by
        have hrw := hshape.reads_le
        simp only at hw' hc'
        rcases Nat.lt_or_gt_of_ne (hinv.stamp_ne ht hcl hclaimed) with hlt | hlt
        · exact mod_ne_mod_of_lt hlt (by omega) heq
        · exact mod_ne_mod_of_lt hlt (by omega) heq.symm
      exact Function.update_of_ne hslot _ _
    · intro hrw
      have hslot : h.reads % s.queue.slots ≠ h.stamp t % s.queue.slots :=
        mod_ne_mod_of_lt (by simp only at hrw; omega) (by omega)
      exact Function.update_of_ne hslot _ _
  · exact fun _ t' ht hcl => hinv.stamp_ne ht hcl hclaimed

/-- A writer swaps the index of the positions that are committed. -/
lemma Inv.writeCommit (hinv : Inv (s, h)) (hc : s.pc t = .writeCommit elem write_cpy next)
    (hstep : access s t = some s') : Inv (s', record s (.run t) h) := by
  have hpc : (s.pc t).Ok s.queue h.reads h.commits h.claims (h.stamp t) := hinv.ok t
  have hshape : Shape s.queue h.reads h.commits h.claims h.log := hinv.shape
  have hclaimed : (s.pc t).Claimed := by simp [hc, Pc.Claimed]
  rw [hc] at hpc
  obtain ⟨rfl, rfl, hwg, hgc, helem⟩ := hpc
  simp only [Util.access, hc] at hstep
  simp only [record, hc]
  split_ifs at hstep ⊢ with hcas
  · -- the positions claimed span less than one lap, so this swap cannot be fooled
    have hrw := hshape.reads_le
    have hroom := hshape.room
    have hw : h.commits = h.stamp t := by
      rw [hshape.writep_eq] at hcas
      exact eq_of_mod_eq_of_lt_add hcas hwg (by omega)
    rw [← hw] at helem hstep hgc
    obtain rfl := Option.some.inj hstep
    refine hinv.move t _ rfl (fun _ _ => rfl) (hshape.commit hgc helem) trivial ?_
      (by simp [Pc.Claimed])
    intro t' ht
    refine (hinv.ok t').frame rfl le_rfl (Nat.le_succ _) le_rfl (fun hcl hw' _ => ⟨?_, rfl⟩)
      fun _ => rfl
    have hne := hinv.stamp_ne ht hcl hclaimed
    simp only at hw' ⊢
    omega
  · exact hinv.local t _ (Option.some.inj hstep).symm (by simp)
      ⟨rfl, rfl, hwg, hgc, helem⟩ (by simp [hc, Pc.Claimed])

end Writes

/-- An access of a thread that does not swap a recycled index keeps the invariant. -/
lemma Inv.access {s s' : State α τ} {h : History α τ} {t : τ} (hinv : Inv (s, h))
    (hok : (s.pc t).NotRecycled s.queue h (h.stamp t)) (hstep : access s t = some s') :
    Inv (s', record s (.run t) h) := by
  have hpc : (s.pc t).Ok s.queue h.reads h.commits h.claims (h.stamp t) := hinv.ok t
  have hshape : Shape s.queue h.reads h.commits h.claims h.log := hinv.shape
  cases hc : s.pc t with
  | idle ret => simp [Util.access, hc] at hstep
  | writeTop elem =>
      simp only [Util.access, hc, Option.some.injEq] at hstep
      simp only [record, hc]
      refine hinv.local t _ hstep.symm (by simp) ?_ (by simp [Pc.Claimed])
      simp only [Function.update_self]
      exact ⟨hshape._writep_eq, le_rfl⟩
  | writeFull elem write_cpy =>
      rw [hc] at hpc
      obtain ⟨rfl, hg⟩ := hpc
      simp only [Util.access, hc] at hstep
      simp only [record, hc]
      split_ifs at hstep with hfull
      · exact hinv.local t _ (Option.some.inj hstep).symm (by simp) trivial (by simp [Pc.Claimed])
      · refine hinv.local t _ (Option.some.inj hstep).symm (by simp) ?_ (by simp [Pc.Claimed])
        exact ⟨rfl, CircularQueue.circIncPointer_mod _ hshape.slots_pos _, hg,
          hshape.room_of_isFull hfull⟩
  | writeClaim elem write_cpy next => exact hinv.writeClaim hc hok hstep
  | writeStore elem write_cpy next => exact hinv.writeStore hc hstep
  | writeCommit elem write_cpy next => exact hinv.writeCommit hc hstep
  | readTop =>
      simp only [Util.access, hc, Option.some.injEq] at hstep
      simp only [record, hc]
      refine hinv.local t _ hstep.symm (by simp) ?_ (by simp [Pc.Claimed])
      simp only [Function.update_self]
      exact ⟨hshape.readp_eq, le_rfl⟩
  | readEmpty read_cpy =>
      rw [hc] at hpc
      obtain ⟨rfl, hg⟩ := hpc
      simp only [Util.access, hc] at hstep
      simp only [record, hc]
      split_ifs at hstep with hempty
      · exact hinv.local t _ (Option.some.inj hstep).symm (by simp) trivial (by simp [Pc.Claimed])
      · exact hinv.local t _ (Option.some.inj hstep).symm (by simp)
          ⟨rfl, hg, hshape.lt_of_isEmpty hempty⟩ (by simp [Pc.Claimed])
  | readElem read_cpy =>
      rw [hc] at hpc
      obtain ⟨rfl, hg, hlt⟩ := hpc
      simp only [Util.access, hc, Option.some.injEq] at hstep
      simp only [record, hc]
      refine hinv.local t _ hstep.symm (by simp) ?_ (by simp [Pc.Claimed])
      exact ⟨rfl, CircularQueue.circIncPointer_mod _ hshape.slots_pos _, hg,
        fun hgr => ⟨hlt hgr, by rw [hgr]⟩⟩
  | readAdvance to_return read_cpy next =>
      rw [hc] at hpc hok
      obtain ⟨rfl, rfl, hg, hv⟩ := hpc
      simp only [Util.access, hc] at hstep
      simp only [record, hc]
      split_ifs at hstep ⊢ with hcas
      · -- the swap succeeds, so the position loaded is the one to be read
        obtain hgr : h.reads = h.stamp t := hok hcas
        obtain ⟨hlt, rfl⟩ := hv hgr.symm
        rw [← hgr] at hstep
        obtain rfl := Option.some.inj hstep
        refine hinv.move t _ rfl (fun _ _ => rfl) (hshape.advance hlt) trivial ?_
          (by simp [Pc.Claimed])
        exact fun t' _ => (hinv.ok t').frame rfl (Nat.le_succ _) le_rfl le_rfl
          (fun _ hw _ => ⟨hw, rfl⟩) fun _ => rfl
      · exact hinv.local t _ (Option.some.inj hstep).symm (by simp) trivial (by simp [Pc.Claimed])

/-- Every step that does not swap a recycled index keeps the invariant. -/
lemma Inv.step {p p' : State α τ × History α τ} {a : Action α τ} (hinv : Inv p)
    (hok : NotRecycled p a) (hstep : observed p a = some p') : Inv p' := by
  obtain ⟨s, h⟩ := p
  obtain ⟨s', h'⟩ := p'
  obtain ⟨hs', rfl⟩ := observe_eq_some hstep
  cases a with
  | run t => exact hinv.access hok hs'
  | nonBlockingWrite t elem =>
      simp only [Util.step] at hs'
      cases hc : s.pc t with
      | idle ret =>
          simp only [hc, Option.some.injEq] at hs'
          exact hinv.local t _ hs'.symm (by simp [record]) trivial (by simp [Pc.Claimed])
      | _ => simp [hc] at hs'
  | nonBlockingRead t =>
      simp only [Util.step] at hs'
      cases hc : s.pc t with
      | idle ret =>
          simp only [hc, Option.some.injEq] at hs'
          exact hinv.local t _ hs'.symm (by simp [record]) trivial (by simp [Pc.Claimed])
      | _ => simp [hc] at hs'

omit [DecidableEq τ] in
/-- The invariant holds at the start. -/
lemma inv_start {capacity : ℕ} (hpow : capacity.isPowerOfTwo) :
    Inv (start (CircularQueue.empty α capacity) : State α τ × History α τ) := by
  have hpos : 0 < capacity := Nat.pos_of_isPowerOfTwo hpow
  refine ⟨⟨hpow, ?_, ?_, ?_, le_rfl, le_rfl, ?_, ⟨[], rfl, rfl⟩⟩, fun t => trivial,
    fun t t' ht => ht.elim⟩ <;> simp [start, CircularQueue.empty, hpos]

omit [DecidableEq τ] in
/-- The invariant makes the queue linearisable. -/
lemma Inv.linearised {p : State α τ × History α τ} (hinv : Inv p) : Linearised p := by
  have h := hinv.shape
  have hroom := h.room
  have hcommits := h.commits_le
  obtain ⟨l, hl, hmap⟩ := h.fifo
  refine ⟨l, hl, ?_⟩
  rw [CircularQueue.pending_eq h.readp_eq h.writep_eq h.reads_le (by omega), hmap]

/-! ## Runs -/

/-- **The ring is a queue.**  In every run of any number of threads on a ring of any capacity, in
which no compare-and-swap succeeds on a recycled index, the writes and reads that have taken effect
are those of a first-in first-out queue that holds what lies between `readp` and `writep`. -/
theorem linearised_of_notRecycled {capacity : ℕ} {q : CircularQueue α}
    (hq : CircularQueue.circularQueue α capacity = some q) {acts : List (Action α τ)}
    {p : State α τ × History α τ} (hrun : Run observed NotRecycled (start q) acts p) :
    Linearised p := by
  obtain ⟨rfl, hpow⟩ := CircularQueue.eq_empty_of_circularQueue hq
  exact (hrun.invariant (fun _ _ _ hinv hok hstep => hinv.step hok hstep)
    (inv_start hpow)).linearised

/-- The first `n` actions of a call of `non_blocking_write` in thread `t`. -/
def writeSteps (n : ℕ) (t : τ) (elem : α) : List (Action α τ) :=
  (.nonBlockingWrite t elem :: List.replicate 5 (.run t)).take n

/-- The first `n` actions of a call of `non_blocking_read` in thread `t`. -/
def readSteps (n : ℕ) (t : τ) : List (Action α τ) :=
  (.nonBlockingRead t :: List.replicate 4 (.run t)).take n

/-- One element written by thread `0` and read by thread `1` of a ring of two slots. -/
theorem linearised_write_read :
    ∃ q, CircularQueue.circularQueue ℕ 2 = some q ∧
      ∃ p ∈ exec (guarded observed NotRecycled) (start q)
          (writeSteps 6 (0 : Fin 2) 7 ++ readSteps 5 1),
        p.2.log = [.wrote 7, .returned (some 7)] ∧ Linearised p := by
  refine ⟨CircularQueue.empty ℕ 2, rfl, ?_⟩
  have hexec : ∃ p ∈ exec (guarded observed NotRecycled) (start (CircularQueue.empty ℕ 2))
      (writeSteps 6 (0 : Fin 2) 7 ++ readSteps 5 1),
        p.2.log = [.wrote 7, .returned (some 7)] := by decide
  obtain ⟨p, hp, hlog⟩ := hexec
  have hq : CircularQueue.circularQueue ℕ 2 = some (CircularQueue.empty ℕ 2) := rfl
  exact ⟨p, hp, hlog, linearised_of_notRecycled hq (run_of_exec_guarded hp)⟩

/-- A writer, thread `0`, is stopped between its check for a full queue and its swap of `_writep`,
while one element goes through the ring of two slots and a second one is written.  The index that
the writer loaded is then current again, its swap succeeds, and its commit makes the full queue an
empty one: both elements are lost. -/
theorem not_linearised_of_recycled :
    ¬ ∀ (capacity : ℕ) (q : CircularQueue ℕ), CircularQueue.circularQueue ℕ capacity = some q →
      ∀ (acts : List (Action ℕ (Fin 3))) (p : State ℕ (Fin 3) × History ℕ (Fin 3)),
        Run observed anyStep (start q) acts p → Linearised p := by
  intro hall
  have hexec : ∃ p ∈ exec observed (start (CircularQueue.empty ℕ 2))
      (writeSteps 3 0 10 ++ writeSteps 6 1 20 ++ readSteps 5 2 ++ writeSteps 6 1 30 ++
        List.replicate 3 (.run (0 : Fin 3))), ¬ Linearised p := by decide
  obtain ⟨p, hp, hnot⟩ := hexec
  exact hnot (hall 2 _ rfl _ p (run_of_exec hp))

end Xdpd.Util
