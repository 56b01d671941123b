import Xdpd.Io.Iomanager

/-!
# When a port is down, no I/O thread works on it any more

`bring_port_down` relies on the token that it takes from the semaphore of a group: the thread of
the group posts it after it has taken a new snapshot of the running ports.  This is so if the
semaphore has no token when the port is erased.  Then, as long as the thread has not taken a new
snapshot, the semaphore stays empty (`Pending`), so the wait passes only when the snapshot is that
of the ports that are running now (`Fresh`).

A token that is left from before makes the wait pass at once.  It is left there by a reset of a
port: that increments the hash, the thread takes a snapshot and posts, and nobody waits for it.
-/

namespace Xdpd.Io

open Xdpd.Lib Xdpd.Util

variable {π : Type*}

/-! ## The invariant -/

/-- The snapshot of the thread, if there is one, has only running ports. -/
def Fresh (pg : Portgroup π) : Prop :=
  ∀ t ∈ pg.thread, t.ports ⊆ pg.running_ports

/-- The snapshot has only running ports, or there is no token yet and none is about to be
posted. -/
def Pending (pg : Portgroup π) : Prop :=
  ∀ t ∈ pg.thread, t.ports ⊆ pg.running_ports ∨
    (pg.sync_sem = 0 ∧ t.pc ≠ .hash ∧ t.pc ≠ .post)

lemma Fresh.pending {pg : Portgroup π} (h : Fresh pg) : Pending pg :=
  fun t ht => Or.inl (h t ht)

/-- The port has been erased from the running ports of the group, and the thread of the group has
perhaps not seen it. -/
def Stage.Unsynced : Stage → Prop
  | .loadHash | .storeHash _ | .decide | .wait | .stop | .join => True
  | _ => False

/-- The operation that is running brings a port down, has erased it from the group `g` and waits
for the thread of the group. -/
def State.Unsynced (s : State π) (g : ℕ) : Prop :=
  ∃ c ∈ s.call, c.op = .down ∧ c.i = g ∧ c.stage.Unsynced

/-- What holds of a group, whether or not an operation waits for its thread. -/
structure GroupOk (unsynced : Prop) (pg : Portgroup π) : Prop where
  fresh : ¬ unsynced → Fresh pg
  /-- the thread has been stopped with the last running port -/
  idle : ¬ unsynced → pg.running_ports = [] → pg.thread = none
  pending : unsynced → pg.running_ports ≠ [] → Pending pg

/-- What the operation `c` knows of the group `pg` that it is at, and whose ports are `ports`. -/
def StageOk (ports : List π) (pg : Portgroup π) (c : Call π) : Stage → Prop
  | .scan => True
  | .erase => c.op = .down ∧ c.port ∈ pg.running_ports
  | .pushFirst =>
      c.op = .up ∧ c.port ∈ ports ∧ c.port ∉ pg.running_ports ∧ pg.thread = none
  | .start => c.op = .up ∧ pg.running_ports ≠ [] ∧ pg.thread = none
  | .push => c.op = .up ∧ c.port ∈ ports ∧ c.port ∉ pg.running_ports
  | .loadHash | .storeHash _ | .decide =>
      (c.op = .down → c.port ∈ ports ∧ c.port ∉ pg.running_ports) ∧
        (c.op = .up → pg.running_ports ≠ [])
  | .wait =>
      (c.op = .down → c.port ∈ ports ∧ c.port ∉ pg.running_ports) ∧ pg.running_ports ≠ []
  | .stop | .join =>
      (c.op = .down → c.port ∈ ports ∧ c.port ∉ pg.running_ports) ∧ c.op = .down ∧
        pg.running_ports = []
  | .flags => c.op = .down → c.port ∈ ports ∧ c.port ∉ pg.running_ports
  | .down => c.op = .down ∧ c.rx = true ∧ c.tx = true

/-- What the operation `c` knows.  Its flags say that the port it brings down no longer runs in the
groups of that type. -/
structure CallOk (cfg : Groups π) (groups : ℕ → Portgroup π) (c : Call π) : Prop where
  stage : StageOk (cfg.ports c.i) (groups c.i) c c.stage
  rx : c.op = .down → c.rx = true → ∀ g, cfg.type g = .rx → c.port ∉ (groups g).running_ports
  tx : c.op = .down → c.tx = true → ∀ g, cfg.type g = .tx → c.port ∉ (groups g).running_ports

/-- The invariant of the runs without stale tokens. -/
structure Inv (cfg : Groups π) (s : State π) : Prop where
  sub : ∀ g, (s.groups g).running_ports ⊆ cfg.ports g
  nodup : ∀ g, (s.groups g).running_ports.Nodup
  group : ∀ g, GroupOk (s.Unsynced g) (s.groups g)
  call : ∀ c ∈ s.call, CallOk cfg s.groups c

/-- The state after `init`. -/
lemma inv_init (cfg : Groups π) : Inv cfg (State.init : State π) where
  sub g := by simp [State.init, createGroup]
  nodup g := by simp [State.init, createGroup]
  group g := ⟨fun _ t ht => by simp [State.init, createGroup] at ht, fun _ _ => rfl,
    fun h => by obtain ⟨c, hc, -⟩ := h; cases hc⟩
  call c hc := by cases hc

/-! ## The steps of the threads -/

/-- What an operation knows depends on the running ports, and on whether there is a thread. -/
lemma StageOk.congr {ports : List π} {pg pg' : Portgroup π} {c : Call π} {stage : Stage}
    (h : StageOk ports pg c stage) (hrun : pg'.running_ports = pg.running_ports)
    (hthread : pg.thread = none → pg'.thread = none) : StageOk ports pg' c stage := by
  cases stage with
  | pushFirst => exact ⟨h.1, h.2.1, by rw [hrun]; exact h.2.2.1, hthread h.2.2.2⟩
  | start => exact ⟨h.1, by rw [hrun]; exact h.2.1, hthread h.2.2⟩
  | _ =>
      simp only [StageOk, hrun] at h ⊢
      try exact h

lemma CallOk.congr {cfg : Groups π} {groups groups' : ℕ → Portgroup π} {c : Call π}
    (h : CallOk cfg groups c)
    (hrun : ∀ g, (groups' g).running_ports = (groups g).running_ports)
    (hthread : (groups c.i).thread = none → (groups' c.i).thread = none) :
    CallOk cfg groups' c where
  stage := h.stage.congr (hrun c.i) hthread
  rx hop hrx g hg := by rw [hrun]; exact h.rx hop hrx g hg
  tx hop htx g hg := by rw [hrun]; exact h.tx hop htx g hg

/-- A thread that keeps the running ports, and keeps its snapshot fresh, keeps the invariant. -/
lemma Inv.thread {cfg : Groups π} {s : State π} (hinv : Inv cfg s) {g : ℕ} {pg : Portgroup π}
    {t : IoThread π} (ht : (s.groups g).thread = some t)
    (hrun : pg.running_ports = (s.groups g).running_ports)
    (hfresh : Fresh (s.groups g) → Fresh pg) (hpending : Pending (s.groups g) → Pending pg) :
    Inv cfg (s.setGroup g pg) := by
  have hrun' : ∀ g', ((s.setGroup g pg).groups g').running_ports =
      (s.groups g').running_ports := by
    intro g'
    by_cases hg : g' = g
    · subst hg
      rw [State.setGroup_groups, Function.update_self, hrun]
    · rw [State.setGroup_groups, Function.update_of_ne hg]
  refine ⟨fun g' => ?_, fun g' => ?_, fun g' => ?_, fun c hc => ?_⟩
  · rw [hrun']
    exact hinv.sub g'
  · rw [hrun']
    exact hinv.nodup g'
  · by_cases hg : g' = g
    · subst hg
      have hok := hinv.group g'
      rw [State.setGroup_groups, Function.update_self]
      refine ⟨fun h => hfresh (hok.fresh h), fun h hnil => ?_,
        fun h hne => hpending (hok.pending h ?_)⟩
      · rw [hrun] at hnil
        have hnone := hok.idle h hnil
        rw [ht] at hnone
        cases hnone
      · rwa [hrun] at hne
    · rw [State.setGroup_groups, Function.update_of_ne hg]
      exact hinv.group g'
  · refine (hinv.call c hc).congr hrun' fun hnone => ?_
    by_cases hg : c.i = g
    · rw [hg, ht] at hnone
      cases hnone
    · rw [State.setGroup_groups, Function.update_of_ne hg]
      exact hnone

/-- A thread keeps the running ports, and a fresh snapshot fresh.  It posts only a fresh one. -/
lemma threadStep_spec {pg pg' : Portgroup π} {t : IoThread π} (ht : pg.thread = some t)
    (hstep : threadStep pg t = some pg') :
    pg'.running_ports = pg.running_ports ∧ (Fresh pg → Fresh pg') ∧
      (Pending pg → Pending pg') := by
  unfold threadStep at hstep
  cases hpc : t.pc with
  | exited => simp [hpc] at hstep
  | lock =>
      simp only [hpc, Option.some.injEq] at hstep
      subst hstep
      have hfresh : Fresh
          { pg with thread := some { t with pc := .hash, ports := pg.running_ports } } := by
        rintro t' ht'
        obtain rfl := Option.some.inj ht'
        exact fun p hp => hp
      exact ⟨rfl, fun _ => hfresh, fun _ => hfresh.pending⟩
  | post =>
      simp only [hpc, Option.some.injEq] at hstep
      subst hstep
      refine ⟨rfl, ?_, ?_⟩
      · rintro hfresh t' ht'
        obtain rfl := Option.some.inj ht'
        exact hfresh t ht
      · rintro hpending t' ht'
        obtain rfl := Option.some.inj ht'
        rcases hpending t ht with hsub | ⟨-, -, hne⟩
        · exact .inl hsub
        · exact absurd hpc hne
  | hash =>
      simp only [hpc, Option.some.injEq] at hstep
      subst hstep
      refine ⟨rfl, ?_, ?_⟩
      · rintro hfresh t' ht'
        obtain rfl := Option.some.inj ht'
        exact hfresh t ht
      · rintro hpending t' ht'
        obtain rfl := Option.some.inj ht'
        rcases hpending t ht with hsub | ⟨-, hne, -⟩
        · exact .inl hsub
        · exact absurd hpc hne
  | _ =>
      -- neither the snapshot nor the semaphore changes
      simp only [hpc, Option.some.injEq] at hstep
      subst hstep
      refine ⟨rfl, ?_, ?_⟩
      · rintro hfresh t' ht'
        obtain rfl := Option.some.inj ht'
        exact hfresh t ht
      · rintro hpending t' ht'
        obtain rfl := Option.some.inj ht'
        rcases hpending t ht with hsub | ⟨hsem, -, -⟩
        · exact .inl hsub
        · refine .inr ⟨hsem, ?_, ?_⟩ <;> simp only <;> (try split_ifs) <;> simp

/-! ## The steps of the manager -/

lemma unsynced_iff {s : State π} {c : Call π} (hc : s.call = some c) (g : ℕ) :
    s.Unsynced g ↔ c.op = .down ∧ c.i = g ∧ c.stage.Unsynced := by
  simp [State.Unsynced, hc]

/-- A step of an operation that stays at its group. -/
lemma Inv.stay {cfg : Groups π} {s s' : State π} (hinv : Inv cfg s) {c c' : Call π}
    {pg : Portgroup π} (hc : s.call = some c) (hc' : s'.call = some c') (hi : c'.i = c.i)
    (hgroups : s'.groups = Function.update s.groups c.i pg)
    (hsub : pg.running_ports ⊆ cfg.ports c.i) (hnodup : pg.running_ports.Nodup)
    (hgroup : GroupOk (c'.op = .down ∧ c'.stage.Unsynced) pg)
    (hcall : CallOk cfg s'.groups c') : Inv cfg s' := by
  have hself : s'.groups c.i = pg := by rw [hgroups, Function.update_self]
  have hother : ∀ g, g ≠ c.i → s'.groups g = s.groups g := fun g hg => by
    rw [hgroups, Function.update_of_ne hg]
  refine ⟨fun g => ?_, fun g => ?_, fun g => ?_, fun d hd => ?_⟩
  · by_cases hg : g = c.i
    · rw [hg, hself]
      exact hsub
    · rw [hother g hg]
      exact hinv.sub g
  · by_cases hg : g = c.i
    · rw [hg, hself]
      exact hnodup
    · rw [hother g hg]
      exact hinv.nodup g
  · by_cases hg : g = c.i
    · have hiff : s'.Unsynced g ↔ c'.op = .down ∧ c'.stage.Unsynced := by
        rw [unsynced_iff hc', hi, hg]
        simp
      rw [hg, hself] at *
      rwa [propext hiff]
    · have hiff : s'.Unsynced g ↔ s.Unsynced g := by
        rw [unsynced_iff hc', unsynced_iff hc, hi]
        simp [Ne.symm hg]
      rw [hother g hg, propext hiff]
      exact hinv.group g
  · obtain rfl : c' = d := Option.some.inj (hc'.symm.trans hd)
    exact hcall

/-- A step of an operation that stays at its group and keeps the running ports. -/
lemma Inv.stay_of_running {cfg : Groups π} {s : State π} (hinv : Inv cfg s) {c : Call π}
    (hc : s.call = some c) {pg : Portgroup π} {stage : Stage}
    (hrun : pg.running_ports = (s.groups c.i).running_ports)
    (hgroup : GroupOk (c.op = .down ∧ stage.Unsynced) pg)
    (hstage : StageOk (cfg.ports c.i) pg { c with stage := stage } stage) :
    Inv cfg ((s.setGroup c.i pg).goto { c with stage := stage }) := by
  have hcall := hinv.call c hc
  have hrun' : ∀ g, (Function.update s.groups c.i pg g).running_ports =
      (s.groups g).running_ports := by
    intro g
    by_cases hg : g = c.i
    · rw [hg, Function.update_self, hrun]
    · rw [Function.update_of_ne hg]
  refine hinv.stay hc rfl rfl rfl (hrun ▸ hinv.sub c.i) (hrun ▸ hinv.nodup c.i) hgroup ⟨?_, ?_, ?_⟩
  · simpa using hstage
  · intro hop hrx g hg
    rw [State.goto_groups, State.setGroup_groups, hrun']
    exact hcall.rx hop hrx g hg
  · intro hop htx g hg
    rw [State.goto_groups, State.setGroup_groups, hrun']
    exact hcall.tx hop htx g hg

/-- In the stages in which the thread is waited for, a group stays in order. -/
lemma Inv.groupOk {cfg : Groups π} {s : State π} (hinv : Inv cfg s) {c : Call π}
    (hc : s.call = some c) (hunsynced : c.stage.Unsynced) {stage : Stage}
    (hstage : stage.Unsynced) : GroupOk (c.op = .down ∧ stage.Unsynced) (s.groups c.i) := by
  have hiff : s.Unsynced c.i ↔ c.op = .down ∧ stage.Unsynced := by
    rw [unsynced_iff hc]
    simp [hunsynced, hstage]
  rw [← propext hiff]
  exact hinv.group c.i

/-- A step that only goes on with another one of these stages. -/
lemma Inv.pass {cfg : Groups π} {s : State π} (hinv : Inv cfg s) {c : Call π}
    (hc : s.call = some c) (hunsynced : c.stage.Unsynced) {stage : Stage}
    (hstage : stage.Unsynced)
    (hok : StageOk (cfg.ports c.i) (s.groups c.i) { c with stage := stage } stage) :
    Inv cfg (s.goto { c with stage := stage }) :=
  hinv.stay hc rfl rfl (Function.update_eq_self c.i s.groups).symm (hinv.sub c.i)
    (hinv.nodup c.i) (hinv.groupOk hc hunsynced hstage)
    ⟨hok, (hinv.call c hc).rx, (hinv.call c hc).tx⟩

/-- A step of an operation that changes no group and leaves no thread behind. -/
lemma Inv.leave {cfg : Groups π} {s s' : State π} (hinv : Inv cfg s)
    (hsync : ∀ g, ¬ s.Unsynced g) (hgroups : s'.groups = s.groups)
    (hcall : ∀ c ∈ s'.call, ¬ c.stage.Unsynced ∧ CallOk cfg s.groups c) : Inv cfg s' := by
  refine ⟨fun g => ?_, fun g => ?_, fun g => ?_, fun c hc => ?_⟩
  · rw [hgroups]
    exact hinv.sub g
  · rw [hgroups]
    exact hinv.nodup g
  · have hsync' : ¬ s'.Unsynced g := by
      rintro ⟨c, hc, -, -, hstage⟩
      exact (hcall c hc).1 hstage
    have hok := hinv.group g
    rw [hgroups]
    exact ⟨fun _ => hok.fresh (hsync g), fun _ => hok.idle (hsync g), fun h => absurd h hsync'⟩
  · rw [hgroups]
    exact (hcall c hc).2

/-- Once the port is erased from the group, it runs in no group of that type. -/
lemma Inv.not_mem_of_type {cfg : Groups π} {s : State π} (hinv : Inv cfg s) {port : π} {i g : ℕ}
    (hport : port ∈ cfg.ports i) (hnot : port ∉ (s.groups i).running_ports)
    (htype : cfg.type i = cfg.type g) : port ∉ (s.groups g).running_ports := by
  intro hmem
  obtain rfl : i = g := cfg.unique i g port hport (hinv.sub g hmem) htype
  exact hnot hmem

variable [DecidableEq π]

/-- The step that sets the flags. -/
lemma Inv.flags {cfg : Groups π} {s : State π} (hinv : Inv cfg s) {c : Call π}
    (hc : s.call = some c) (hstage : c.stage = .flags) :
    ∀ s', callStep cfg s c = some s' → Inv cfg s' := by
  intro s' hstep
  have hok := hinv.call c hc
  have herased : c.op = .down → c.port ∈ cfg.ports c.i ∧
      c.port ∉ (s.groups c.i).running_ports := by
    have h := hok.stage
    rwa [hstage] at h
  have hsync : ∀ g, ¬ s.Unsynced g := by
    intro g
    rw [unsynced_iff hc, hstage]
    exact fun h => h.2.2
  have hrx : c.op = .down → (c.rx || cfg.type c.i == .rx) = true → ∀ g, cfg.type g = .rx →
      c.port ∉ (s.groups g).running_ports := by
    intro hop hflag g hg
    rcases Bool.or_eq_true_iff.mp hflag with h | h
    · exact hok.rx hop h g hg
    · obtain ⟨hport, hnot⟩ := herased hop
      exact hinv.not_mem_of_type hport hnot ((beq_iff_eq.mp h).trans hg.symm)
  have htx : c.op = .down → (c.tx || cfg.type c.i == .tx) = true → ∀ g, cfg.type g = .tx →
      c.port ∉ (s.groups g).running_ports := by
    intro hop hflag g hg
    rcases Bool.or_eq_true_iff.mp hflag with h | h
    · exact hok.tx hop h g hg
    · obtain ⟨hport, hnot⟩ := herased hop
      exact hinv.not_mem_of_type hport hnot ((beq_iff_eq.mp h).trans hg.symm)
  simp only [callStep, hstage] at hstep
  by_cases hboth : ((c.rx || cfg.type c.i == .rx) && (c.tx || cfg.type c.i == .tx)) = true
  · rw [if_pos hboth] at hstep
    obtain ⟨hbrx, hbtx⟩ := Bool.and_eq_true_iff.mp hboth
    cases hop : c.op with
    | up =>
        simp only [hop, Option.some.injEq] at hstep
        subst hstep
        exact hinv.leave hsync rfl fun d hd => by simp at hd
    | down =>
        simp only [hop, Option.some.injEq] at hstep
        subst hstep
        refine hinv.leave hsync rfl fun d hd => ?_
        obtain rfl := Option.some.inj hd
        exact ⟨id, ⟨rfl, hbrx, hbtx⟩, fun _ => hrx hop, fun _ => htx hop⟩
  · rw [if_neg hboth, Option.some.injEq] at hstep
    subst hstep
    refine hinv.leave hsync rfl fun d hd => ?_
    obtain rfl := Option.some.inj hd
    exact ⟨id, trivial, fun hop => hrx hop, fun hop => htx hop⟩

/-- The step that erases the port, from a group without a token. -/
lemma Inv.erase {cfg : Groups π} {s : State π} (hinv : Inv cfg s) {c : Call π}
    (hc : s.call = some c) (hstage : c.stage = .erase) (hok : NoStaleToken s .manager) :
    ∀ s', callStep cfg s c = some s' → Inv cfg s' := by
  intro s' hstep
  have hcall := hinv.call c hc
  have herase : c.op = .down ∧ c.port ∈ (s.groups c.i).running_ports := by
    have h := hcall.stage
    rwa [hstage] at h
  have hnodup := hinv.nodup c.i
  have hgroup := hinv.group c.i
  have hsync : ¬ s.Unsynced c.i := by
    rw [unsynced_iff hc, hstage]
    exact fun h => h.2.2
  have htoken := hok c hc hstage
  rw [SafeVector.erase_eq hnodup] at htoken
  simp only [callStep, hstage, SafeVector.erase_eq hnodup] at hstep
  split_ifs at hstep with hlocked
  obtain rfl := Option.some.inj hstep
  have hsubset : (s.groups c.i).running_ports.erase c.port ⊆ (s.groups c.i).running_ports :=
    List.erase_subset
  have hrun : ∀ g, c.port ∉ (s.groups g).running_ports → c.port ∉
      (Function.update s.groups c.i { s.groups c.i with
        running_ports := (s.groups c.i).running_ports.erase c.port } g).running_ports := by
    intro g hnot
    by_cases hg : g = c.i
    · rw [hg, Function.update_self]
      exact hnodup.not_mem_erase
    · rwa [Function.update_of_ne hg]
  refine hinv.stay hc rfl rfl rfl (List.Subset.trans hsubset (hinv.sub c.i)) (hnodup.erase _)
    ⟨?_, ?_, ?_⟩
    ⟨⟨fun _ => ⟨hinv.sub c.i herase.2, ?_⟩, fun hup => ?_⟩, ?_, ?_⟩
  · exact fun h => absurd ⟨herase.1, trivial⟩ h
  · exact fun h => absurd ⟨herase.1, trivial⟩ h
  · -- no token is there, and the lock has kept the thread from being about to post one
    rintro - hne t ht
    refine .inr ⟨htoken hne, fun hpc => hlocked ⟨t, ht, .inl hpc⟩,
      fun hpc => hlocked ⟨t, ht, .inr (.inl hpc)⟩⟩
  · simp only [State.goto_groups, State.setGroup_groups, Function.update_self]
    exact hnodup.not_mem_erase
  · exact absurd (herase.1.symm.trans hup) (by decide)
  · exact fun hop hrx g hg => hrun g (hcall.rx hop hrx g hg)
  · exact fun hop htx g hg => hrun g (hcall.tx hop htx g hg)

/-- The tests at the head of the loop. -/
lemma Inv.scan {cfg : Groups π} {s : State π} (hinv : Inv cfg s) {c : Call π}
    (hc : s.call = some c) (hstage : c.stage = .scan) :
    ∀ s', callStep cfg s c = some s' → Inv cfg s' := by
  intro s' hstep
  have hcall := hinv.call c hc
  have hsync : ∀ g, ¬ s.Unsynced g := by
    intro g
    rw [unsynced_iff hc, hstage]
    exact fun h => h.2.2
  -- every branch returns, or goes on with what it has tested
  have hnext : ∀ c' : Call π, c'.op = c.op → c'.port = c.port → c'.rx = c.rx → c'.tx = c.tx →
      ¬ c'.stage.Unsynced → StageOk (cfg.ports c'.i) (s.groups c'.i) c' c'.stage →
      Inv cfg (s.goto c') := by
    intro c' hop hport hrx htx hstage' hok
    refine hinv.leave hsync rfl fun d hd => ?_
    obtain rfl := Option.some.inj hd
    refine ⟨hstage', hok, ?_, ?_⟩
    · rw [hop, hport, hrx]
      exact hcall.rx
    · rw [hop, hport, htx]
      exact hcall.tx
  have hreturn : Inv cfg s.return := hinv.leave hsync rfl fun d hd => by simp at hd
  cases hop : c.op with
  | down =>
      simp only [callStep, hstage, hop] at hstep
      split_ifs at hstep with hsize hmem
      · exact Option.some.inj hstep ▸ hreturn
      · exact Option.some.inj hstep ▸ hnext _ hop.symm rfl rfl rfl id ⟨rfl, hmem⟩
      · exact Option.some.inj hstep ▸ hnext _ hop.symm rfl rfl rfl id trivial
  | up =>
      simp only [callStep, hstage, hop] at hstep
      split_ifs at hstep with hsize hport hmem hnil
      · exact Option.some.inj hstep ▸ hreturn
      · exact Option.some.inj hstep ▸ hreturn
      · exact Option.some.inj hstep ▸ hnext _ hop.symm rfl rfl rfl id
          ⟨rfl, hport, hmem, (hinv.group c.i).idle (hsync c.i) hnil⟩
      · exact Option.some.inj hstep ▸ hnext _ hop.symm rfl rfl rfl id ⟨rfl, hport, hmem⟩
      · exact Option.some.inj hstep ▸ hnext _ hop.symm rfl rfl rfl id trivial

omit [DecidableEq π] in
/-- Adding a port keeps every snapshot fresh. -/
lemma Fresh.push {pg : Portgroup π} (h : Fresh pg) (port : π) :
    Fresh { pg with running_ports := pg.running_ports ++ [port] } := fun t ht _ hp =>
  List.mem_append_left _ (h t ht hp)

omit [DecidableEq π] in
/-- The steps that add the port, and go on with a stage that waits for no port to be gone. -/
lemma Inv.push {cfg : Groups π} {s : State π} (hinv : Inv cfg s) {c : Call π}
    (hc : s.call = some c) (hsync : ¬ s.Unsynced c.i) (hop : c.op = .up)
    (hport : c.port ∈ cfg.ports c.i) (hnot : c.port ∉ (s.groups c.i).running_ports)
    {stage : Stage}
    (hstage : StageOk (cfg.ports c.i)
      { s.groups c.i with running_ports := (s.groups c.i).running_ports ++ [c.port] } c stage) :
    Inv cfg ((s.setGroup c.i
      { s.groups c.i with running_ports := (s.groups c.i).running_ports ++ [c.port] }).goto
        { c with stage := stage }) := by
  have hup : ¬ c.op = .down := by simp [hop]
  refine hinv.stay hc rfl rfl rfl ?_ ?_ ⟨fun _ => ((hinv.group c.i).fresh hsync).push c.port, ?_,
    fun h => absurd h.1 hup⟩ ⟨?_, fun h => absurd h hup, fun h => absurd h hup⟩
  · intro p hp
    rcases List.mem_append.mp hp with h | h
    · exact hinv.sub c.i h
    · rw [List.mem_singleton.mp h]
      exact hport
  · exact List.nodup_append.mpr ⟨hinv.nodup c.i, List.nodup_singleton _, fun p hp q hq hpq =>
      hnot (List.mem_singleton.mp hq ▸ hpq ▸ hp)⟩
  · simp
  · simpa [StageOk] using hstage

/-- Every step of the manager keeps the invariant. -/
lemma Inv.callStep {cfg : Groups π} {s s' : State π} (hinv : Inv cfg s) {c : Call π}
    (hc : s.call = some c) (hok : NoStaleToken s .manager)
    (hstep : callStep cfg s c = some s') : Inv cfg s' := by
  have hstageOk := (hinv.call c hc).stage
  -- outside the stages in which the thread is waited for, every group is in order
  have hsync : ¬ c.stage.Unsynced → ∀ g, ¬ s.Unsynced g := by
    intro hstage g
    rw [unsynced_iff hc]
    exact fun h => hstage h.2.2
  cases hstage : c.stage with
  | erase => exact hinv.erase hc hstage hok s' hstep
  | flags => exact hinv.flags hc hstage s' hstep
  | scan => exact hinv.scan hc hstage s' hstep
  | pushFirst =>
      rw [hstage] at hstageOk
      obtain ⟨hop, hport, hnot, hnone⟩ := hstageOk
      simp only [Io.callStep, hstage] at hstep
      split_ifs at hstep
      obtain rfl := Option.some.inj hstep
      exact hinv.push hc (hsync (by rw [hstage]; exact id) c.i) hop hport hnot
        ⟨hop, by simp, hnone⟩
  | push =>
      rw [hstage] at hstageOk
      obtain ⟨hop, hport, hnot⟩ := hstageOk
      simp only [Io.callStep, hstage] at hstep
      split_ifs at hstep
      obtain rfl := Option.some.inj hstep
      exact hinv.push hc (hsync (by rw [hstage]; exact id) c.i) hop hport hnot
        ⟨fun h => absurd (hop.symm.trans h) (by decide), fun _ => by simp⟩
  | start =>
      rw [hstage] at hstageOk
      obtain ⟨hop, hne, hnone⟩ := hstageOk
      have hup : ¬ c.op = .down := by simp [hop]
      simp only [Io.callStep, hstage, Option.some.injEq] at hstep
      subst hstep
      refine hinv.stay_of_running hc rfl
        ⟨fun _ t ht => ?_, fun _ h => absurd h hne, fun h => absurd h.1 hup⟩
        ⟨fun h => absurd h hup, hne⟩
      obtain rfl := Option.some.inj ht
      exact List.nil_subset _
  | loadHash =>
      rw [hstage] at hstageOk
      simp only [Io.callStep, hstage, Option.some.injEq] at hstep
      subst hstep
      exact hinv.pass hc (by rw [hstage]; trivial) trivial hstageOk
  | storeHash running_hash =>
      rw [hstage] at hstageOk
      have hkeep : ∀ stage : Stage, stage.Unsynced →
          GroupOk (c.op = .down ∧ stage.Unsynced) (s.groups c.i) :=
        fun stage => hinv.groupOk hc (by rw [hstage]; trivial)
      simp only [Io.callStep, hstage] at hstep
      cases hop : c.op with
      | down =>
          rw [if_pos hop, Option.some.injEq] at hstep
          subst hstep
          have hgroup := hkeep .decide trivial
          exact hinv.stay_of_running hc rfl ⟨hgroup.fresh, hgroup.idle, hgroup.pending⟩ hstageOk
      | up =>
          rw [if_neg (by simp [hop]), Option.some.injEq] at hstep
          subst hstep
          have hgroup := hkeep .wait trivial
          exact hinv.stay_of_running hc rfl ⟨hgroup.fresh, hgroup.idle, hgroup.pending⟩
            ⟨hstageOk.1, hstageOk.2 hop⟩
  | decide =>
      rw [hstage] at hstageOk
      simp only [Io.callStep, hstage] at hstep
      by_cases hnil : (s.groups c.i).running_ports = []
      · rw [if_pos hnil] at hstep
        obtain rfl := Option.some.inj hstep
        have hop : c.op = .down := by
          cases hop : c.op with
          | down => rfl
          | up => exact absurd hnil (hstageOk.2 hop)
        exact hinv.pass hc (by rw [hstage]; trivial) trivial ⟨hstageOk.1, hop, hnil⟩
      · rw [if_neg hnil] at hstep
        obtain rfl := Option.some.inj hstep
        exact hinv.pass hc (by rw [hstage]; trivial) trivial ⟨hstageOk.1, hnil⟩
  | wait =>
      rw [hstage] at hstageOk
      obtain ⟨herased, hne⟩ := hstageOk
      simp only [Io.callStep, hstage] at hstep
      split_ifs at hstep with hsem
      obtain rfl := Option.some.inj hstep
      refine hinv.stay_of_running hc rfl
        ⟨fun _ t ht => ?_, fun _ h => absurd h hne, fun h => h.2.elim⟩ herased
      -- there is a token, so the snapshot has been taken since the port was erased
      by_cases hun : s.Unsynced c.i
      · rcases (hinv.group c.i).pending hun hne t ht with hsub | ⟨hzero, -⟩
        · exact hsub
        · exact absurd hzero hsem
      · exact (hinv.group c.i).fresh hun t ht
  | stop =>
      rw [hstage] at hstageOk
      simp only [Io.callStep, hstage, Option.some.injEq] at hstep
      subst hstep
      have hgroup : GroupOk (c.op = .down ∧ Stage.join.Unsynced) (s.groups c.i) :=
        hinv.groupOk hc (by rw [hstage]; trivial) trivial
      exact hinv.stay_of_running hc rfl ⟨hgroup.fresh, hgroup.idle, hgroup.pending⟩ hstageOk
  | join =>
      rw [hstage] at hstageOk
      simp only [Io.callStep, hstage] at hstep
      split_ifs at hstep
      obtain rfl := Option.some.inj hstep
      exact hinv.stay_of_running hc rfl
        ⟨fun _ t ht => (by cases ht), fun _ _ => rfl, fun h => h.2.elim⟩ hstageOk.1
  | down =>
      simp only [Io.callStep, hstage, Option.some.injEq] at hstep
      subst hstep
      exact hinv.leave (hsync (by rw [hstage]; exact id)) rfl fun d hd => by simp at hd

/-- Every step without a stale token keeps the invariant. -/
lemma Inv.step {cfg : Groups π} {s s' : State π} {a : Action π} (hinv : Inv cfg s)
    (hok : NoStaleToken s a) (hstep : step cfg s a = some s') : Inv cfg s' := by
  cases a with
  | bringPortUp port =>
      simp only [Io.step] at hstep
      split_ifs at hstep with hcall
      obtain rfl := Option.some.inj hstep
      refine hinv.leave (fun g h => ?_) rfl fun d hd => ?_
      · obtain ⟨c, hc, -⟩ := h
        rw [hcall] at hc
        cases hc
      · obtain rfl := Option.some.inj hd
        exact ⟨id, trivial, fun h => Op.noConfusion h, fun h => Op.noConfusion h⟩
  | bringPortDown port =>
      simp only [Io.step] at hstep
      split_ifs at hstep with hcall
      obtain rfl := Option.some.inj hstep
      refine hinv.leave (fun g h => ?_) rfl fun d hd => ?_
      · obtain ⟨c, hc, -⟩ := h
        rw [hcall] at hc
        cases hc
      · obtain rfl := Option.some.inj hd
        exact ⟨id, trivial, fun _ h => Bool.noConfusion h, fun _ h => Bool.noConfusion h⟩
  | manager =>
      obtain ⟨c, hc, hstep'⟩ := Option.bind_eq_some_iff.mp hstep
      exact hinv.callStep hc hok hstep'
  | thread g =>
      obtain ⟨t, ht, hstep'⟩ := Option.bind_eq_some_iff.mp hstep
      obtain ⟨pg, hpg, rfl⟩ := Option.map_eq_some_iff.mp hstep'
      obtain ⟨hrun, hfresh, hpending⟩ := threadStep_spec ht hpg
      exact hinv.thread ht hrun hfresh hpending
  | resetTx g =>
      obtain ⟨t, ht, hstep'⟩ := Option.bind_eq_some_iff.mp hstep
      split_ifs at hstep' with hreset
      obtain rfl := Option.some.inj hstep'
      refine hinv.thread ht rfl ?_ ?_
      · rintro hfresh t' ht'
        obtain rfl := Option.some.inj ht'
        exact hfresh t ht
      · rintro hpending t' ht'
        obtain rfl := Option.some.inj ht'
        rcases hpending t ht with hsub | ⟨hsem, -⟩
        · exact .inl hsub
        · exact .inr ⟨hsem, by simp, by simp⟩
  | initFails g =>
      obtain ⟨t, ht, hstep'⟩ := Option.bind_eq_some_iff.mp hstep
      split_ifs at hstep' with hlock
      obtain rfl := Option.some.inj hstep'
      have hempty : Fresh
          { s.groups g with thread := some { t with pc := .loop, ports := [] } } := by
        rintro t' ht'
        obtain rfl := Option.some.inj ht'
        exact List.nil_subset _
      exact hinv.thread ht rfl (fun _ => hempty) fun _ => hempty.pending

omit [DecidableEq π] in
/-- When the port is about to be brought down, no thread has it in its snapshot. -/
lemma Inv.not_inSnapshot {cfg : Groups π} {s : State π} (hinv : Inv cfg s) {port : π}
    (hdown : CallsDown s port) : ¬ InSnapshot s port := by
  obtain ⟨c, hc, hstage, rfl⟩ := hdown
  rintro ⟨g, t, ht, hmem⟩
  have hcall := hinv.call c hc
  have hflags : c.op = .down ∧ c.rx = true ∧ c.tx = true := by
    have h := hcall.stage
    rwa [hstage] at h
  have hsync : ¬ s.Unsynced g := by
    rw [unsynced_iff hc, hstage]
    exact fun h => h.2.2
  have hrunning : c.port ∈ (s.groups g).running_ports := (hinv.group g).fresh hsync t ht hmem
  cases htype : cfg.type g with
  | rx => exact hcall.rx hflags.1 hflags.2.1 g htype hrunning
  | tx => exact hcall.tx hflags.1 hflags.2.2 g htype hrunning

/-! ## Runs -/

/-- **A port that is brought down is in no snapshot.**  In every run, of the manager and all I/O
threads, in which `bring_port_down` finds no token in the semaphore of a group when it erases the
port there and other ports keep running, no I/O thread has the port in its snapshot when `down()`
is called on it. -/
theorem not_inSnapshot_of_callsDown (cfg : Groups π) {acts : List (Action π)} {s : State π}
    (hrun : Run (step cfg) NoStaleToken State.init acts s) (port : π)
    (hdown : CallsDown s port) : ¬ InSnapshot s port :=
  (hrun.invariant (fun _ _ _ hinv hok hstep => hinv.step hok hstep)
    (inv_init cfg)).not_inSnapshot hdown

/-! ## A stale token -/

/-- Two ports, both in a group for reception and in one for transmission. -/
def twoGroups : Groups (Fin 2) where
  size := 2
  type g := if g = 0 then .rx else .tx
  ports g := if g < 2 then [0, 1] else []
  unique := by
    intro g g' p hg hg' htype
    have hlt : g < 2 := by
      by_contra h
      simp [h] at hg
    have hlt' : g' < 2 := by
      by_contra h
      simp [h] at hg'
    obtain rfl | rfl : g = 0 ∨ g = 1 := by omega
    all_goals obtain rfl | rfl : g' = 0 ∨ g' = 1 := by omega
    all_goals simp_all

/-- The thread of the group `g` goes round its loop once and takes a new snapshot. -/
def refresh (g : ℕ) : List (Action (Fin 2)) :=
  List.replicate 8 (.thread g)

/-- The first port of the group `g` is brought up, and its thread started. -/
def upFirst (g : ℕ) : List (Action (Fin 2)) :=
  List.replicate 3 .manager ++ List.replicate 5 (.thread g) ++ List.replicate 2 .manager

/-- Another port of the group `g` is brought up. -/
def upNext (g : ℕ) : List (Action (Fin 2)) :=
  List.replicate 4 .manager ++ refresh g ++ List.replicate 2 .manager

/-- Both ports are brought up. -/
def bothUp : List (Action (Fin 2)) :=
  .bringPortUp 0 :: (upFirst 0 ++ upFirst 1) ++ .bringPortUp 1 :: (upNext 0 ++ upNext 1)

/-- A port of the group `g` is brought down, up to the setting of the flags. -/
def downNext (g : ℕ) : List (Action (Fin 2)) :=
  List.replicate 5 .manager ++ refresh g ++ List.replicate 2 .manager

instance (s : State (Fin 2)) (port : Fin 2) : Decidable (CallsDown s port) :=
  inferInstanceAs (Decidable (∃ c ∈ s.call, _))

/-- The port `0` is brought down, and its snapshots are gone. -/
theorem not_inSnapshot_bothUp :
    ∃ s ∈ exec (guarded (step twoGroups) NoStaleToken) State.init
        (bothUp ++ .bringPortDown 0 :: (downNext 0 ++ downNext 1)),
      CallsDown s 0 ∧ ¬ InSnapshot s 0 := by
  have hexec : ∃ s ∈ exec (guarded (step twoGroups) NoStaleToken) State.init
      (bothUp ++ .bringPortDown 0 :: (downNext 0 ++ downNext 1)), CallsDown s 0 := by decide +kernel
  obtain ⟨s, hs, hdown⟩ := hexec
  exact ⟨s, hs, hdown, not_inSnapshot_of_callsDown twoGroups (run_of_exec_guarded hs) 0 hdown⟩

/-- A port of the group for transmission is reset: its thread takes a new snapshot and posts a
token that nobody takes.  When the port `0` is brought down next, the wait for that thread passes
at once, and `down()` is called while the thread still works on the port. -/
theorem inSnapshot_of_staleToken :
    ¬ ∀ (cfg : Groups (Fin 2)) (acts : List (Action (Fin 2))) (s : State (Fin 2)),
      Run (step cfg) anyStep State.init acts s → ∀ port, CallsDown s port →
        ¬ InSnapshot s port := by
  intro hall
  have hexec : ∃ s ∈ exec (step twoGroups) State.init
      (bothUp ++ [.thread 1, .resetTx 1] ++ refresh 1 ++
        .bringPortDown 0 :: (downNext 0 ++ List.replicate 7 .manager)),
      CallsDown s 0 ∧ ∃ t ∈ (s.groups 1).thread, 0 ∈ t.ports := by decide +kernel
  obtain ⟨s, hs, hdown, t, ht, hmem⟩ := hexec
  exact hall twoGroups _ s (run_of_exec hs) 0 hdown ⟨1, t, ht, hmem⟩

end Xdpd.Io
