import Xdpd.Hal.Driver

/-!
# Attachment in the pipeline library

The library has it twice which port is attached where: the port points to the switch, and the switch
has the port under a number.  For each operation of the library, what it does to either of them, and
that the two stay consistent as far as the driver uses it.
-/

namespace Xdpd.Hal.PhysicalSwitch

/-- `attached_sw` of the port is the switch. -/
def PointsTo (s : PhysicalSwitch) (name : String) (dpid : Dpid) : Prop :=
  ∃ port, s.ports name = some port ∧ port.attachedSw = some dpid

/-- The switch has the port under the number. -/
def Has (s : PhysicalSwitch) (dpid : Dpid) (num : ℕ) (name : String) : Prop :=
  ∃ slots, s.logicalSwitches dpid = some slots ∧ slots num = some name

/-- A port points to a switch if and only if the switch has it. -/
structure Consistent (maxLogPorts : ℕ) (s : PhysicalSwitch) : Prop where
  pointsTo_iff : ∀ name dpid, s.PointsTo name dpid ↔ ∃ num, s.Has dpid num name
  bounds : ∀ {dpid num name}, s.Has dpid num name → 0 < num ∧ num < maxLogPorts

variable {maxLogPorts : ℕ} {s : PhysicalSwitch} {name : String} {port : SwitchPort} {dpid : Dpid}
variable {slots : ℕ → Option String} {num : ℕ}

lemma pointsTo_of_port (hport : s.ports name = some port) :
    s.PointsTo name dpid ↔ port.attachedSw = some dpid := by
  constructor
  · rintro ⟨port', hport', hsw⟩
    rwa [Option.some.inj (hport.symm.trans hport')]
  · intro hsw
    exact ⟨port, hport, hsw⟩

lemma has_of_slots {dpid : Dpid} (hslots : s.logicalSwitches dpid = some slots) :
    s.Has dpid num name ↔ slots num = some name := by
  constructor
  · rintro ⟨slots', hslots', hslot⟩
    rwa [Option.some.inj (hslots.symm.trans hslots')]
  · intro hslot
    exact ⟨slots, hslots, hslot⟩

lemma pointsTo_congr {s' : PhysicalSwitch} {name' : String}
    (h : s'.ports name' = s.ports name') {dpid' : Dpid} :
    s'.PointsTo name' dpid' ↔ s.PointsTo name' dpid' := by
  rw [PointsTo, PointsTo, h]

lemma has_congr {s' : PhysicalSwitch} {dpid' : Dpid}
    (h : s'.logicalSwitches dpid' = s.logicalSwitches dpid') {num' : ℕ} {name' : String} :
    s'.Has dpid' num' name' ↔ s.Has dpid' num' name' := by
  rw [Has, Has, h]

/-! ## Attaching a port -/

lemma ports_attach_self :
    (s.attach name port dpid slots num).ports name = some { port with attachedSw := some dpid } :=
  Function.update_self _ _ _

lemma ports_attach_of_ne {name' : String} (hne : name' ≠ name) :
    (s.attach name port dpid slots num).ports name' = s.ports name' :=
  Function.update_of_ne hne _ _

lemma Consistent.attach (h : s.Consistent maxLogPorts) (hport : s.ports name = some port)
    (hsw : port.attachedSw = none) (hslots : s.logicalSwitches dpid = some slots)
    (hfree : slots num = none) (hpos : 0 < num) (hlt : num < maxLogPorts) :
    (s.attach name port dpid slots num).Consistent maxLogPorts := by
  have hpoints : ∀ name' dpid', (s.attach name port dpid slots num).PointsTo name' dpid' ↔
      (name' = name ∧ dpid' = dpid) ∨ s.PointsTo name' dpid' := by
    intro name' dpid'
    by_cases hname : name' = name
    · rw [hname, pointsTo_of_port ports_attach_self, pointsTo_of_port hport, hsw,
        Option.some.injEq]
      exact ⟨fun hdpid => .inl ⟨rfl, hdpid.symm⟩, fun hcase =>
        hcase.elim (fun hself => hself.2.symm) fun hold => absurd hold nofun⟩
    · rw [pointsTo_congr (ports_attach_of_ne hname)]
      exact ⟨.inr, fun hcase => hcase.resolve_left fun hself => hname hself.1⟩
  have hhas : ∀ dpid' num' name', (s.attach name port dpid slots num).Has dpid' num' name' ↔
      (dpid' = dpid ∧ num' = num ∧ name' = name) ∨ s.Has dpid' num' name' := by
    intro dpid' num' name'
    by_cases hdpid : dpid' = dpid
    · have hslots' : (s.attach name port dpid slots num).logicalSwitches dpid =
          some (Function.update slots num (some name)) := Function.update_self _ _ _
      rw [hdpid, has_of_slots hslots', has_of_slots hslots]
      by_cases hnum : num' = num
      · rw [hnum, Function.update_self, hfree, Option.some.injEq]
        exact ⟨fun hname => .inl ⟨rfl, rfl, hname.symm⟩, fun hcase =>
          hcase.elim (fun hself => hself.2.2.symm) fun hold => absurd hold nofun⟩
      · rw [Function.update_of_ne hnum]
        exact ⟨.inr, fun hcase => hcase.resolve_left fun hself => hnum hself.2.1⟩
    · rw [has_congr (Function.update_of_ne hdpid _ _)]
      exact ⟨.inr, fun hcase => hcase.resolve_left fun hself => hdpid hself.1⟩
  constructor
  · intro name' dpid'
    rw [hpoints, h.pointsTo_iff]
    constructor
    · rintro (⟨rfl, rfl⟩ | ⟨num', hold⟩)
      · exact ⟨num, (hhas _ _ _).mpr (.inl ⟨rfl, rfl, rfl⟩)⟩
      · exact ⟨num', (hhas _ _ _).mpr (.inr hold)⟩
    · rintro ⟨num', hnew⟩
      rcases (hhas _ _ _).mp hnew with ⟨rfl, -, rfl⟩ | hold
      · exact .inl ⟨rfl, rfl⟩
      · exact .inr ⟨num', hold⟩
  · intro dpid' num' name' hnew
    rcases (hhas _ _ _).mp hnew with ⟨-, rfl, -⟩ | hold
    · exact ⟨hpos, hlt⟩
    · exact h.bounds hold

/-! ## Taking ports off switches -/

/-- The same ports stop pointing to a switch as the switch loses. -/
lemma Consistent.of_gone (h : s.Consistent maxLogPorts) {s' : PhysicalSwitch}
    (gone : String → Dpid → Prop)
    (hpoints : ∀ name dpid, s'.PointsTo name dpid ↔ s.PointsTo name dpid ∧ ¬ gone name dpid)
    (hhas : ∀ dpid num name, s'.Has dpid num name ↔ s.Has dpid num name ∧ ¬ gone name dpid) :
    s'.Consistent maxLogPorts := by
  constructor
  · intro name dpid
    rw [hpoints, h.pointsTo_iff]
    constructor
    · rintro ⟨⟨num, hold⟩, hstays⟩
      exact ⟨num, (hhas _ _ _).mpr ⟨hold, hstays⟩⟩
    · rintro ⟨num, hnew⟩
      obtain ⟨hold, hstays⟩ := (hhas _ _ _).mp hnew
      exact ⟨⟨num, hold⟩, hstays⟩
  · intro dpid num name hnew
    exact h.bounds ((hhas _ _ _).mp hnew).1

/-- Nothing changes that the library says twice. -/
lemma Consistent.of_same (h : s.Consistent maxLogPorts) {s' : PhysicalSwitch}
    (hpoints : ∀ name dpid, s'.PointsTo name dpid ↔ s.PointsTo name dpid)
    (hhas : ∀ dpid num name, s'.Has dpid num name ↔ s.Has dpid num name) :
    s'.Consistent maxLogPorts := by
  refine h.of_gone (fun _ _ => False) (fun name dpid => ?_) fun dpid num name => ?_
  · rw [hpoints, not_false_iff, and_true]
  · rw [hhas, not_false_iff, and_true]

lemma ports_detach_self :
    (s.detach name port dpid slots).ports name = some { port with attachedSw := none } :=
  Function.update_self _ _ _

lemma ports_detach_of_ne {name' : String} (hne : name' ≠ name) :
    (s.detach name port dpid slots).ports name' = s.ports name' :=
  Function.update_of_ne hne _ _

lemma Consistent.detach (h : s.Consistent maxLogPorts) (hport : s.ports name = some port)
    (hsw : port.attachedSw = some dpid) (hslots : s.logicalSwitches dpid = some slots) :
    (s.detach name port dpid slots).Consistent maxLogPorts := by
  refine h.of_gone (fun name' dpid' => name' = name ∧ dpid' = dpid)
    (fun name' dpid' => ?_) fun dpid' num' name' => ?_
  · by_cases hname : name' = name
    · rw [hname, pointsTo_of_port ports_detach_self, pointsTo_of_port hport, hsw,
        Option.some.injEq]
      exact ⟨nofun, fun hold => absurd ⟨rfl, hold.1.symm⟩ hold.2⟩
    · rw [pointsTo_congr (ports_detach_of_ne hname)]
      exact ⟨fun hold => ⟨hold, fun hgone => hname hgone.1⟩, And.left⟩
  · by_cases hdpid : dpid' = dpid
    · have hslots' : (s.detach name port dpid slots).logicalSwitches dpid =
          some fun num => if slots num = some name then none else slots num :=
        Function.update_self _ _ _
      rw [hdpid, has_of_slots hslots', has_of_slots hslots]
      split
      · next hslot =>
        refine ⟨nofun, fun hold => absurd ?_ hold.2⟩
        exact ⟨(Option.some.inj (hslot.symm.trans hold.1)).symm, rfl⟩
      · next hslot =>
        refine ⟨fun hold => ⟨hold, ?_⟩, And.left⟩
        rintro ⟨rfl, -⟩
        exact hslot hold
    · rw [has_congr (Function.update_of_ne hdpid _ _)]
      exact ⟨fun hold => ⟨hold, fun hgone => hdpid hgone.2⟩, And.left⟩

lemma pointsTo_detachAll {name' : String} {dpid' : Dpid} :
    (s.detachAll dpid).PointsTo name' dpid' ↔ s.PointsTo name' dpid' ∧ dpid' ≠ dpid := by
  constructor
  · rintro ⟨port', hport', hsw'⟩
    obtain ⟨port₀, hport₀, rfl⟩ := Option.map_eq_some_iff.mp hport'
    split at hsw'
    · exact absurd hsw' nofun
    · next hother =>
      refine ⟨⟨port₀, hport₀, hsw'⟩, ?_⟩
      rintro rfl
      exact hother hsw'
  · rintro ⟨⟨port₀, hport₀, hsw₀⟩, hne⟩
    refine ⟨port₀, Option.map_eq_some_iff.mpr ⟨port₀, hport₀, if_neg ?_⟩, hsw₀⟩
    rw [hsw₀, Option.some.injEq]
    exact hne

lemma Consistent.detachAll (h : s.Consistent maxLogPorts) (dpid : Dpid) :
    (s.detachAll dpid).Consistent maxLogPorts := by
  refine h.of_gone (fun _ dpid' => dpid' = dpid) (fun _ _ => pointsTo_detachAll)
    fun dpid' num' name' => ?_
  by_cases hdpid : dpid' = dpid
  · have hslots' : (s.detachAll dpid).logicalSwitches dpid = some fun _ => none :=
      Function.update_self _ _ _
    rw [hdpid, has_of_slots hslots']
    exact ⟨nofun, fun hold => absurd rfl hold.2⟩
  · rw [has_congr (Function.update_of_ne hdpid _ _)]
    exact ⟨fun hold => ⟨hold, hdpid⟩, And.left⟩

/-! ## Switches and ports come and go -/

lemma Consistent.addSwitch (h : s.Consistent maxLogPorts) (hnew : s.logicalSwitches dpid = none) :
    Consistent maxLogPorts { s with
      logicalSwitches := Function.update s.logicalSwitches dpid (some fun _ => none) } := by
  refine h.of_same (fun _ _ => Iff.rfl) fun dpid' num' name' => ?_
  by_cases hdpid : dpid' = dpid
  · rw [hdpid, has_of_slots (Function.update_self _ _ _)]
    refine ⟨nofun, ?_⟩
    rintro ⟨slots, hslots, -⟩
    exact absurd (hnew.symm.trans hslots) nofun
  · exact has_congr (Function.update_of_ne hdpid _ _)

lemma Consistent.removeSwitch (h : s.Consistent maxLogPorts)
    (hnone : ∀ name, ¬ s.PointsTo name dpid) : Consistent maxLogPorts { s with
      logicalSwitches := Function.update s.logicalSwitches dpid none } := by
  refine h.of_same (fun _ _ => Iff.rfl) fun dpid' num' name' => ?_
  by_cases hdpid : dpid' = dpid
  · rw [hdpid]
    constructor
    · rintro ⟨slots, hslots, -⟩
      exact absurd ((Function.update_self _ _ _).symm.trans hslots) nofun
    · intro hold
      exact absurd ((h.pointsTo_iff name' dpid).mpr ⟨num', hold⟩) (hnone name')
  · exact has_congr (Function.update_of_ne hdpid _ _)

/-- A port that is not attached is added, or removed. -/
lemma Consistent.updatePort (h : s.Consistent maxLogPorts) (name : String)
    (new : Option SwitchPort)
    (hold : ∀ port, s.ports name = some port → port.attachedSw = none)
    (hnew : ∀ port, new = some port → port.attachedSw = none) :
    Consistent maxLogPorts { s with ports := Function.update s.ports name new } := by
  refine h.of_same (fun name' dpid' => ?_) fun _ _ _ => Iff.rfl
  by_cases hname : name' = name
  · subst hname
    refine iff_of_false ?_ ?_
    · rintro ⟨port', hport', hsw'⟩
      change Function.update s.ports name' new name' = some port' at hport'
      rw [Function.update_self] at hport'
      exact absurd ((hnew port' hport').symm.trans hsw') nofun
    · rintro ⟨port', hport', hsw'⟩
      exact absurd ((hold port' hport').symm.trans hsw') nofun
  · exact pointsTo_congr (Function.update_of_ne hname _ _)

end Xdpd.Hal.PhysicalSwitch
