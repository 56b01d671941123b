import Mathlib.Algebra.BigOperators.Group.Finset.Basic
import Mathlib.Data.String.Basic
import Xdpd.Lib.Loops
import Xdpd.Management.SwitchManager

/-!
# The section of virtual links

The configuration lists the ends of the virtual links: each entry names a link and the logical
switch of one of its ends.  `virtual_ifaces_scope::post_validate` pairs the entries in one pass over
the list, with a map of the links of which it has seen one end and a map of those that it has
connected.  `config::init` calls it in a dry run first, which connects nothing, and then in the run
that connects the switches.
-/

namespace Xdpd.Management.Config

open Xdpd.Lib

/-- What is thrown. -/
inductive Exception where
  | eConfParseError
  | eOfSmDoesNotExist
  | ePmUnknownError
  /-- of libconfig, for a setting of another type -/
  | settingTypeException
  deriving DecidableEq

/-- The value of a setting that is read as a string. -/
inductive Value where
  | string (s : String)
  | other
  deriving DecidableEq

/-- `std::string key = setting` -/
def Value.toString : Value → Except Exception String
  | .string s => .ok s
  | .other => .error .settingTypeException

/-- An entry of the section, with its settings `VIF_LINK` and `VIF_LSI` where they exist. -/
structure VifSetting where
  link : Option Value
  lsi : Option Value
  deriving DecidableEq

/-- One end of a virtual link. -/
structure Vif where
  link : String
  lsi : String
  deriving DecidableEq

/-- The names that an entry gives. -/
def VifSetting.read (setting : VifSetting) : Except Exception Vif :=
  match setting.link, setting.lsi with
  | some link, some lsi => do
      let key ← link.toString
      let value ← lsi.toString
      return ⟨key, value⟩
  | _, _ => .error .eConfParseError

/-! ## The pass -/

/-- What the section uses of the managers. -/
structure Managers where
  /-- `switch_manager::switchs` -/
  switchs : SortedMap Dpid OpenflowSwitch
  /-- what `port_manager::connect_switches` throws, after the calls made before -/
  connectSwitches : List (Dpid × Dpid) → Dpid × Dpid → Option Exception

/-- `switch_manager::get_switch_dpid`, which throws where this is `none`.  Of several switches with
the name it gives the last one. -/
def getSwitchDpid (switchs : SortedMap Dpid OpenflowSwitch) (name : String) : Option Dpid :=
  switchs.values.foldl (fun dpid sw => if sw.dpname = name then some sw.dpid else dpid) none

/-- The local variables of `post_validate`, and the calls of `connect_switches` so far. -/
structure Links where
  /-- the name of a link, and that of the switch at its end -/
  partial_links : SortedMap String String
  provisioned_links : SortedMap String Bool
  calls : List (Dpid × Dpid)

/-- No links. -/
def Links.empty : Links := ⟨.empty, .empty, []⟩

variable (m : Managers)

/-- The part for a completed link that the dry run leaves out. -/
def connect (s : Links) (lsi_name value : String) : Except Exception Unit × Links :=
  match getSwitchDpid m.switchs lsi_name with
  | none => (.error .eConfParseError, s)
  | some dpid1 =>
      match getSwitchDpid m.switchs value with
      | none => (.error .eOfSmDoesNotExist, s)
      | some dpid2 =>
          let called := { s with calls := s.calls ++ [(dpid1, dpid2)] }
          match m.connectSwitches s.calls (dpid1, dpid2) with
          | some e => (.error e, called)
          | none => (.ok (), called)

/-- The turn of an entry, once its names are read. -/
def pair (dry_run : Bool) (s : Links) (vif : Vif) : Except Exception Unit × Links :=
  match s.partial_links.find vif.link with
  | none => (.ok (), { s with partial_links := s.partial_links.insert vif.link vif.lsi })
  | some lsi_name =>
      let s := { s with partial_links := s.partial_links.erase vif.link }
      if s.provisioned_links.find vif.link ≠ none then (.error .eConfParseError, s)
      else if lsi_name = vif.lsi then (.error .eConfParseError, s)
      else
        match if dry_run then (.ok (), s) else connect m s lsi_name vif.lsi with
        | (.error e, s) => (.error e, s)
        | (.ok (), s) =>
            (.ok (), { s with provisioned_links := s.provisioned_links.insert vif.link true })

/-- The loop over the entries. -/
def pairAll (dry_run : Bool) : Links → List VifSetting → Except Exception Unit × Links
  | s, [] => (.ok (), s)
  | s, setting :: settings =>
      match setting.read with
      | .error e => (.error e, s)
      | .ok vif =>
          match pair m dry_run s vif with
          | (.error e, s) => (.error e, s)
          | (.ok (), s) => pairAll dry_run s settings

/-- `virtual_ifaces_scope::post_validate` -/
def postValidate (dry_run : Bool) (settings : List VifSetting) : Except Exception Unit × Links :=
  if settings.length % 2 ≠ 0 then (.error .eConfParseError, .empty)
  else
    match pairAll m dry_run .empty settings with
    | (.error e, s) => (.error e, s)
    | (.ok (), s) =>
        if s.partial_links.entries.length > 0 then (.error .eConfParseError, s) else (.ok (), s)

/-- `config::init`, for this section: the dry run, and the other one unless `is_test_run`. -/
def init (is_test_run : Bool) (settings : List VifSetting) : Except Exception Unit × Links :=
  match postValidate m true settings with
  | (.error e, s) => (.error e, s)
  | (.ok (), s) => if is_test_run then (.ok (), s) else postValidate m false settings

/-! ## The ends of a link -/

/-- The switches at the ends of a link, in the order of the list. -/
def lsis (link : String) (vifs : List Vif) : List String :=
  (vifs.filter fun vif => vif.link = link).map Vif.lsi

/-- Every link of the list has two ends, at different switches. -/
def Paired (vifs : List Vif) : Prop :=
  ∀ vif ∈ vifs, ∃ lsi1 lsi2, lsis vif.link vifs = [lsi1, lsi2] ∧ lsi1 ≠ lsi2

section Lsis

variable {link : String} {vifs vifs' : List Vif} {vif : Vif}

@[simp] lemma lsis_nil : lsis link [] = [] := rfl

@[simp] lemma lsis_append : lsis link (vifs ++ vifs') = lsis link vifs ++ lsis link vifs' := by
  rw [lsis, List.filter_append, List.map_append]
  rfl

@[simp] lemma lsis_cons_self : lsis vif.link (vif :: vifs) = vif.lsi :: lsis vif.link vifs := by
  simp [lsis]

@[simp] lemma lsis_cons_of_ne (h : link ≠ vif.link) : lsis link (vif :: vifs) = lsis link vifs := by
  simp [lsis, Ne.symm h]

lemma lsis_eq_nil_iff : lsis link vifs = [] ↔ ∀ vif ∈ vifs, vif.link ≠ link := by
  simp [lsis]

lemma length_lsis : (lsis link vifs).length = (vifs.map Vif.link).count link := by
  rw [lsis, List.length_map, List.count, List.countP_map, List.countP_eq_length_filter]
  rfl

lemma Paired.lsis_cases (h : Paired vifs) (link : String) :
    lsis link vifs = [] ∨ ∃ lsi1 lsi2, lsis link vifs = [lsi1, lsi2] ∧ lsi1 ≠ lsi2 := by
  by_cases hlink : ∃ vif ∈ vifs, vif.link = link
  · obtain ⟨vif, hvif, rfl⟩ := hlink
    exact .inr (h vif hvif)
  · exact .inl (lsis_eq_nil_iff.mpr fun vif hvif heq => hlink ⟨vif, hvif, heq⟩)

/-- Links with two ends have an even number of ends. -/
lemma Paired.even_length (h : Paired vifs) : vifs.length % 2 = 0 := by
  have hcount : ∀ link ∈ (vifs.map Vif.link).toFinset, (vifs.map Vif.link).count link = 2 := by
    intro link hlink
    obtain ⟨vif, hvif, rfl⟩ := List.mem_map.mp (List.mem_toFinset.mp hlink)
    obtain ⟨lsi1, lsi2, hlsis, -⟩ := h vif hvif
    rw [← length_lsis, hlsis]
    rfl
  have hsum := List.sum_toFinset_count_eq_length (vifs.map Vif.link)
  rw [Finset.sum_const_nat hcount, List.length_map] at hsum
  rw [← hsum, Nat.mul_mod_left]

end Lsis

/-! ## What the maps hold -/

/-- What the maps hold for a link, by the ends of it that the loop has passed.  An entry that comes
after the first two is stored again, as if it were the first. -/
inductive LinkAt : List String → Option String → Option Bool → Prop
  | unseen : LinkAt [] none none
  | stored (lsi : String) : LinkAt [lsi] (some lsi) none
  | provisioned {lsi1 lsi2 : String} (h : lsi1 ≠ lsi2) : LinkAt [lsi1, lsi2] none (some true)
  | storedAgain {lsi1 lsi2 : String} (h : lsi1 ≠ lsi2) (lsi : String) :
      LinkAt [lsi1, lsi2, lsi] (some lsi) (some true)

/-- The maps after the entries of a list. -/
def Tracks (vifs : List Vif) (s : Links) : Prop :=
  ∀ link, LinkAt (lsis link vifs) (s.partial_links.find link) (s.provisioned_links.find link)

/-- A link for each of the calls, with two ends at the switches that the call connects. -/
def Connects (vifs : List Vif) (s : Links) : Prop :=
  ∃ links : List String, links.Nodup ∧
    (∀ link, link ∈ links ↔ s.provisioned_links.find link = some true) ∧
    List.Forall₂ (fun link call => ∃ lsi1 lsi2 rest, lsis link vifs = lsi1 :: lsi2 :: rest ∧
      getSwitchDpid m.switchs lsi1 = some call.1 ∧ getSwitchDpid m.switchs lsi2 = some call.2)
      links s.calls

lemma tracks_nil : Tracks [] .empty :=
  fun _ => .unseen

section Pair

variable {m} {dry_run : Bool} {vifs : List Vif} {s s' : Links} {vif : Vif} {u : Unit}

/-- A call that is made and does not throw. -/
lemma connect_eq_ok {lsi_name value : String} (h : connect m s lsi_name value = (.ok u, s')) :
    ∃ dpid1 dpid2, getSwitchDpid m.switchs lsi_name = some dpid1 ∧
      getSwitchDpid m.switchs value = some dpid2 ∧
      s' = { s with calls := s.calls ++ [(dpid1, dpid2)] } := by
  unfold connect at h
  cases h1 : getSwitchDpid m.switchs lsi_name with
  | none => simp [h1] at h
  | some dpid1 =>
      cases h2 : getSwitchDpid m.switchs value with
      | none => simp [h1, h2] at h
      | some dpid2 =>
          cases hcall : m.connectSwitches s.calls (dpid1, dpid2) with
          | some e => simp [h1, h2, hcall] at h
          | none =>
              simp only [h1, h2, hcall, Prod.mk.injEq] at h
              exact ⟨dpid1, dpid2, rfl, rfl, h.2.symm⟩

/-- The turn of an entry that is not refused: its link is stored, or it is completed. -/
lemma pair_eq_ok (h : pair m dry_run s vif = (.ok u, s')) :
    (s.partial_links.find vif.link = none ∧
      s' = { s with partial_links := s.partial_links.insert vif.link vif.lsi }) ∨
    ∃ lsi calls, s.partial_links.find vif.link = some lsi ∧
      s.provisioned_links.find vif.link = none ∧ lsi ≠ vif.lsi ∧
      (dry_run = true ∧ calls = s.calls ∨ dry_run = false ∧ ∃ dpid1 dpid2,
        getSwitchDpid m.switchs lsi = some dpid1 ∧ getSwitchDpid m.switchs vif.lsi = some dpid2 ∧
        calls = s.calls ++ [(dpid1, dpid2)]) ∧
      s' = ⟨s.partial_links.erase vif.link, s.provisioned_links.insert vif.link true, calls⟩ := by
  cases hfind : s.partial_links.find vif.link with
  | none =>
      simp only [pair, hfind, Prod.mk.injEq] at h
      exact .inl ⟨rfl, h.2.symm⟩
  | some lsi =>
      cases hprov : s.provisioned_links.find vif.link with
      | some b => simp [pair, hfind, hprov] at h
      | none =>
          by_cases hself : lsi = vif.lsi
          · simp [pair, hfind, hprov, hself] at h
          cases dry_run with
          | true =>
              simp only [pair, hfind, hprov, hself, ne_eq, not_true_eq_false, if_false, if_true,
                Prod.mk.injEq] at h
              exact .inr ⟨lsi, s.calls, rfl, rfl, hself, .inl ⟨rfl, rfl⟩, h.2.symm⟩
          | false =>
              cases hconnect : connect m { s with partial_links := s.partial_links.erase vif.link }
                lsi vif.lsi with
              | mk r t =>
                  cases r with
                  | error e => simp [pair, hfind, hprov, hself, hconnect] at h
                  | ok u =>
                      simp only [pair, hfind, hprov, hself, hconnect, ne_eq, not_true_eq_false,
                        if_false, Bool.false_eq_true, Prod.mk.injEq] at h
                      obtain ⟨dpid1, dpid2, h1, h2, rfl⟩ := connect_eq_ok hconnect
                      exact .inr ⟨lsi, _, rfl, rfl, hself, .inr ⟨rfl, dpid1, dpid2, h1, h2, rfl⟩,
                        h.2.symm⟩

/-- The calls made before are kept. -/
lemma calls_pair : s.calls <+: (pair m dry_run s vif).2.calls := by
  cases hfind : s.partial_links.find vif.link with
  | none => simp [pair, hfind]
  | some lsi =>
      by_cases hprov : s.provisioned_links.find vif.link = none
      · by_cases hself : lsi = vif.lsi
        · simp [pair, hfind, hprov, hself]
        cases dry_run with
        | true => simp [pair, hfind, hprov, hself]
        | false =>
            cases h1 : getSwitchDpid m.switchs lsi with
            | none => simp [pair, connect, hfind, hprov, hself, h1]
            | some dpid1 =>
                cases h2 : getSwitchDpid m.switchs vif.lsi with
                | none => simp [pair, connect, hfind, hprov, hself, h1, h2]
                | some dpid2 =>
                    cases hcall : m.connectSwitches s.calls (dpid1, dpid2) <;>
                      simp [pair, connect, hfind, hprov, hself, h1, h2, hcall]
      · simp [pair, hfind, hprov]

lemma LinkAt.store {lsis : List String} {b : Option Bool} (h : LinkAt lsis none b) (lsi : String) :
    LinkAt (lsis ++ [lsi]) (some lsi) b := by
  cases h with
  | unseen => exact .stored lsi
  | provisioned hne => exact .storedAgain hne lsi

lemma LinkAt.of_nil {o : Option String} {b : Option Bool} (h : LinkAt [] o b) :
    o = none ∧ b = none := by
  cases h
  exact ⟨rfl, rfl⟩

lemma LinkAt.of_two {lsi1 lsi2 : String} {o : Option String} {b : Option Bool}
    (h : LinkAt [lsi1, lsi2] o b) : o = none ∧ b = some true := by
  cases h
  exact ⟨rfl, rfl⟩

lemma LinkAt.eq_singleton {lsis : List String} {lsi : String} (h : LinkAt lsis (some lsi) none) :
    lsis = [lsi] := by
  cases h
  rfl

/-- **A turn.**  The maps tell of one entry more. -/
lemma Tracks.pair (hs : Tracks vifs s) (h : pair m dry_run s vif = (.ok u, s')) :
    Tracks (vifs ++ [vif]) s' := by
  intro link
  have hlink := hs link
  rw [lsis_append]
  by_cases heq : link = vif.link
  · subst heq
    rw [lsis_cons_self, lsis_nil]
    rcases pair_eq_ok h with ⟨hfind, rfl⟩ | ⟨lsi, calls, hfind, hprov, hne, -, rfl⟩
    · rw [hfind] at hlink
      simpa only [SortedMap.find_insert_self] using hlink.store vif.lsi
    · rw [hfind, hprov] at hlink
      rw [hlink.eq_singleton, SortedMap.find_erase_self, SortedMap.find_insert_self]
      exact .provisioned hne
  · rw [lsis_cons_of_ne heq, lsis_nil, List.append_nil]
    rcases pair_eq_ok h with ⟨-, rfl⟩ | ⟨lsi, calls, -, -, -, -, rfl⟩
    · simpa only [SortedMap.find_insert_of_ne _ heq] using hlink
    · simpa only [SortedMap.find_insert_of_ne _ heq, SortedMap.find_erase_of_ne heq] using hlink

/-- A turn of the real run calls for the link that it completes. -/
lemma Connects.pair (hs : Tracks vifs s) (hcalls : Connects m vifs s)
    (h : pair m false s vif = (.ok u, s')) : Connects m (vifs ++ [vif]) s' := by
  obtain ⟨links, hnodup, hmem, hforall⟩ := hcalls
  have hgrown : ∀ {link : String} {lsi1 lsi2 : String} {rest : List String},
      lsis link vifs = lsi1 :: lsi2 :: rest →
        lsis link (vifs ++ [vif]) = lsi1 :: lsi2 :: (rest ++ lsis link [vif]) := by
    intro link lsi1 lsi2 rest hlsis
    rw [lsis_append, hlsis, List.cons_append, List.cons_append]
  have hold := hforall.imp fun link call ⟨lsi1, lsi2, rest, hlsis, hdpids⟩ =>
    (⟨lsi1, lsi2, _, hgrown hlsis, hdpids⟩ : ∃ lsi1 lsi2 rest,
      lsis link (vifs ++ [vif]) = lsi1 :: lsi2 :: rest ∧
        getSwitchDpid m.switchs lsi1 = some call.1 ∧ getSwitchDpid m.switchs lsi2 = some call.2)
  rcases pair_eq_ok h with ⟨-, rfl⟩ | ⟨lsi, calls, hfind, hprov, -, hcall, rfl⟩
  · exact ⟨links, hnodup, hmem, hold⟩
  · obtain ⟨hdry, -⟩ | ⟨-, dpid1, dpid2, h1, h2, rfl⟩ := hcall
    · exact absurd hdry Bool.false_ne_true
    have hlink := hs vif.link
    rw [hfind, hprov] at hlink
    have hnew : vif.link ∉ links := by
      rw [hmem, hprov]
      exact nofun
    have hlsis : lsis vif.link (vifs ++ [vif]) = [lsi, vif.lsi] := by
      rw [lsis_append, hlink.eq_singleton, lsis_cons_self]
      rfl
    refine ⟨links ++ [vif.link], ?_, ?_, ?_⟩
    · exact List.nodup_append.mpr ⟨hnodup, List.nodup_singleton _, by
        rintro link hlink _ hvif rfl
        exact hnew (List.mem_singleton.mp hvif ▸ hlink)⟩
    · intro link
      rw [List.mem_append, List.mem_singleton]
      by_cases heq : link = vif.link
      · simp [heq]
      · simp only [heq, or_false, SortedMap.find_insert_of_ne _ heq, hmem]
    · exact List.rel_append hold (.cons ⟨lsi, vif.lsi, [], hlsis, h1, h2⟩ .nil)

/-- An entry for a link of which at most one end has passed, at another switch, is not refused.  In
the real run the switches exist, and the call that the turn makes does not throw. -/
lemma pair_ok (hs : Tracks vifs s)
    (hends : lsis vif.link vifs = [] ∨ ∃ lsi, lsis vif.link vifs = [lsi] ∧ lsi ≠ vif.lsi)
    (hreal : dry_run = false →
      (∀ lsi ∈ vif.lsi :: lsis vif.link vifs, getSwitchDpid m.switchs lsi ≠ none) ∧
        ∀ before call, before ++ [call] <+: (pair m dry_run s vif).2.calls →
          m.connectSwitches before call = none) :
    ∃ s', pair m dry_run s vif = (.ok (), s') := by
  have hlink := hs vif.link
  rcases hends with hends | ⟨lsi, hends, hne⟩
  · rw [hends] at hlink
    cases hfind : s.partial_links.find vif.link with
    | none => simp [Config.pair, hfind]
    | some lsi =>
        rw [hfind] at hlink
        cases hlink
  · rw [hends] at hlink
    have hmaps : s.partial_links.find vif.link = some lsi ∧
        s.provisioned_links.find vif.link = none := by
      generalize s.partial_links.find vif.link = o at hlink
      generalize s.provisioned_links.find vif.link = b at hlink
      cases hlink
      exact ⟨rfl, rfl⟩
    cases dry_run with
    | true => simp [Config.pair, hmaps, hne]
    | false =>
        obtain ⟨hexist, hcalls⟩ := hreal rfl
        obtain ⟨dpid1, h1⟩ := Option.ne_none_iff_exists'.mp (hexist lsi (by simp [hends]))
        obtain ⟨dpid2, h2⟩ := Option.ne_none_iff_exists'.mp (hexist vif.lsi List.mem_cons_self)
        cases hcall : m.connectSwitches s.calls (dpid1, dpid2) with
        | none => simp [Config.pair, connect, hmaps, hne, h1, h2, hcall]
        | some e =>
            have hnone := hcalls s.calls (dpid1, dpid2)
              (by simp [Config.pair, connect, hmaps, hne, h1, h2, hcall])
            rw [hcall] at hnone
            cases hnone

end Pair

/-! ## Whole runs -/

section Run

variable {m} {dry_run : Bool} {vifs vifs' : List Vif} {settings : List VifSetting}
  {s s' : Links} {u : Unit}

/-- The entries of a loop that refuses none of them can all be read, and its maps tell of them. -/
lemma pairAll_eq_ok (hs : Tracks vifs s) (h : pairAll m dry_run s settings = (.ok u, s')) :
    ∃ vifs', settings.mapM VifSetting.read = .ok vifs' ∧ Tracks (vifs ++ vifs') s' := by
  induction settings generalizing vifs s with
  | nil =>
      obtain rfl : s = s' := congrArg Prod.snd h
      exact ⟨[], rfl, by rwa [List.append_nil]⟩
  | cons setting settings ih =>
      cases hread : setting.read with
      | error e => simp [pairAll, hread] at h
      | ok vif =>
          cases hpair : pair m dry_run s vif with
          | mk r t =>
              cases r with
              | error e => simp [pairAll, hread, hpair] at h
              | ok u' =>
                  simp only [pairAll, hread, hpair] at h
                  obtain ⟨vifs', hvifs', htracks⟩ := ih (hs.pair hpair) h
                  rw [List.append_assoc, List.singleton_append] at htracks
                  rw [mapM_eq_ok_iff] at hvifs'
                  exact ⟨vif :: vifs', mapM_eq_ok_iff.mpr (.cons hread hvifs'), htracks⟩

/-- The calls of a real run belong to the links that it has completed. -/
lemma connects_pairAll (hs : Tracks vifs s) (hcalls : Connects m vifs s)
    (hread : settings.mapM VifSetting.read = .ok vifs')
    (h : pairAll m false s settings = (.ok u, s')) : Connects m (vifs ++ vifs') s' := by
  rw [mapM_eq_ok_iff] at hread
  induction hread generalizing vifs s with
  | nil =>
      obtain rfl : s = s' := congrArg Prod.snd h
      rwa [List.append_nil]
  | @cons setting vif settings vifs' hvif hrest ih =>
      cases hpair : pair m false s vif with
      | mk r t =>
          cases r with
          | error e => simp [pairAll, hvif, hpair] at h
          | ok u' =>
              simp only [pairAll, hvif, hpair] at h
              have hall := ih (hs.pair hpair) (hcalls.pair hs hpair) h
              rwa [List.append_assoc, List.singleton_append] at hall

lemma calls_pairAll (m : Managers) (dry_run : Bool) (s : Links) (settings : List VifSetting) :
    s.calls <+: (pairAll m dry_run s settings).2.calls := by
  induction settings generalizing s with
  | nil => exact List.prefix_rfl
  | cons setting settings ih =>
      cases hread : setting.read with
      | error e => simp [pairAll, hread]
      | ok vif =>
          have hturn : s.calls <+: (pair m dry_run s vif).2.calls := calls_pair
          cases hpair : pair m dry_run s vif with
          | mk r t =>
              rw [hpair] at hturn
              cases r with
              | error e => simpa only [pairAll, hread, hpair] using hturn
              | ok u => simpa only [pairAll, hread, hpair] using hturn.trans (ih t)

/-- What the next turn finds where every link has two ends, at different switches. -/
lemma Paired.ends {vif : Vif} (h : Paired (vifs ++ vif :: vifs')) :
    lsis vif.link vifs = [] ∨ ∃ lsi, lsis vif.link vifs = [lsi] ∧ lsi ≠ vif.lsi := by
  obtain ⟨lsi1, lsi2, hlsis, hne⟩ := h vif (List.mem_append_right vifs List.mem_cons_self)
  rw [lsis_append, lsis_cons_self] at hlsis
  rcases hvifs : lsis vif.link vifs with _ | ⟨lsi, rest⟩
  · exact .inl rfl
  · rw [hvifs, List.cons_append, List.cons.injEq] at hlsis
    obtain ⟨rfl, hrest⟩ := hlsis
    rcases rest with _ | ⟨lsi', rest⟩
    · obtain ⟨rfl, -⟩ := List.cons.inj hrest
      exact .inr ⟨lsi, rfl, hne⟩
    · have hlength := congrArg List.length hrest
      simp at hlength

/-- Where every link has two ends, at different switches, the loop refuses no entry. -/
lemma pairAll_ok (hs : Tracks vifs s) (hread : settings.mapM VifSetting.read = .ok vifs')
    (hpaired : Paired (vifs ++ vifs'))
    (hreal : dry_run = false →
      (∀ vif ∈ vifs ++ vifs', getSwitchDpid m.switchs vif.lsi ≠ none) ∧
        ∀ before call, before ++ [call] <+: (pairAll m dry_run s settings).2.calls →
          m.connectSwitches before call = none) :
    ∃ s', pairAll m dry_run s settings = (.ok (), s') := by
  rw [mapM_eq_ok_iff] at hread
  induction hread generalizing vifs s with
  | nil => exact ⟨s, rfl⟩
  | @cons setting vif settings vifs' hvif hrest ih =>
      have hprefix : (pair m dry_run s vif).2.calls <+:
          (pairAll m dry_run s (setting :: settings)).2.calls := by
        cases hpair : pair m dry_run s vif with
        | mk r t =>
            cases r with
            | error e => simp only [pairAll, hvif, hpair, List.prefix_rfl]
            | ok u => simpa only [pairAll, hvif, hpair] using calls_pairAll m dry_run t settings
      obtain ⟨t, hpair⟩ : ∃ t, pair m dry_run s vif = (.ok (), t) := by
        refine pair_ok hs hpaired.ends ?_
        intro hdry
        obtain ⟨hexist, hcalls⟩ := hreal hdry
        refine ⟨?_, fun before call h => hcalls before call (h.trans hprefix)⟩
        intro lsi hlsi
        rcases List.mem_cons.mp hlsi with rfl | hlsi
        · exact hexist vif (List.mem_append_right vifs List.mem_cons_self)
        · obtain ⟨vif', hvif', rfl⟩ := List.mem_map.mp hlsi
          exact hexist vif' (List.mem_append_left _ (List.mem_filter.mp hvif').1)
      have heq : pairAll m dry_run s (setting :: settings) = pairAll m dry_run t settings := by
        simp only [pairAll, hvif, hpair]
      have happend : vifs ++ vif :: vifs' = vifs ++ [vif] ++ vifs' := by simp
      rw [heq, happend] at hreal
      rw [heq]
      exact ih (hs.pair hpair) (happend ▸ hpaired) hreal

/-- No link is left with one end exactly where each has none or two. -/
lemma Tracks.paired_iff (h : Tracks vifs s) : s.partial_links.entries = [] ↔ Paired vifs := by
  rw [SortedMap.entries_eq_nil_iff]
  constructor
  · intro hnone vif hvif
    have hlink := h vif.link
    rw [hnone] at hlink
    generalize hlsis : lsis vif.link vifs = ends at hlink
    generalize s.provisioned_links.find vif.link = b at hlink
    cases hlink with
    | unseen => exact absurd rfl (lsis_eq_nil_iff.mp hlsis vif hvif)
    | provisioned hne => exact ⟨_, _, rfl, hne⟩
  · intro hpaired link
    have hlink := h link
    rcases hpaired.lsis_cases link with hends | ⟨lsi1, lsi2, hends, -⟩
    · rw [hends] at hlink
      exact hlink.of_nil.1
    · rw [hends] at hlink
      exact hlink.of_two.1

/-- At the end, the links of the list are connected. -/
lemma Tracks.provisioned_iff (h : Tracks vifs s) (hpaired : Paired vifs) (link : String) :
    s.provisioned_links.find link = some true ↔ ∃ vif ∈ vifs, vif.link = link := by
  have hlink := h link
  rcases hpaired.lsis_cases link with hends | ⟨lsi1, lsi2, hends, -⟩
  · rw [hends] at hlink
    rw [hlink.of_nil.2]
    refine iff_of_false nofun ?_
    rintro ⟨vif, hvif, heq⟩
    exact lsis_eq_nil_iff.mp hends vif hvif heq
  · rw [hends] at hlink
    refine iff_of_true hlink.of_two.2 ?_
    have hne : lsis link vifs ≠ [] := by simp [hends]
    simpa only [ne_eq, lsis_eq_nil_iff, not_forall, not_not, exists_prop] using hne

/-- The name of a switch in the map has a dpid, and only such a name has. -/
lemma getSwitchDpid_ne_none_iff {switchs : SortedMap Dpid OpenflowSwitch} {name : String} :
    getSwitchDpid switchs name ≠ none ↔ ∃ sw ∈ switchs.values, sw.dpname = name := by
  unfold getSwitchDpid
  generalize switchs.values = sws
  induction sws using List.reverseRecOn with
  | nil => simp
  | append_singleton sws sw ih =>
      rw [List.foldl_append, List.foldl_cons, List.foldl_nil]
      by_cases hname : sw.dpname = name
      · simp [hname]
      · simpa [hname] using ih

end Run

section PostValidate

variable {settings : List VifSetting} {vifs : List Vif}

/-- The dry run accepts the lists in which every link has two ends, at different switches. -/
lemma postValidate_dry_run : (postValidate m true settings).1 = .ok () ↔
    ∃ vifs, settings.mapM VifSetting.read = .ok vifs ∧ Paired vifs := by
  constructor
  · intro h
    by_cases hodd : settings.length % 2 ≠ 0
    · simp [postValidate, hodd] at h
    cases hall : pairAll m true .empty settings with
    | mk r s =>
        cases r with
        | error e => simp [postValidate, hodd, hall] at h
        | ok u =>
            obtain ⟨vifs, hread, htracks⟩ := pairAll_eq_ok tracks_nil hall
            by_cases hpartial : s.partial_links.entries = []
            · exact ⟨vifs, hread, htracks.paired_iff.mp hpartial⟩
            · have hpos := List.length_pos_iff.mpr hpartial
              simp [postValidate, hodd, hall, hpos] at h
  · rintro ⟨vifs, hread, hpaired⟩
    have hlength := (mapM_eq_ok_iff.mp hread).length_eq
    obtain ⟨s, hall⟩ : ∃ s, pairAll m true .empty settings = (.ok (), s) :=
      pairAll_ok tracks_nil hread hpaired nofun
    obtain ⟨vifs', hread', htracks⟩ := pairAll_eq_ok tracks_nil hall
    obtain rfl := Except.ok.inj (hread.symm.trans hread')
    have hpartial := htracks.paired_iff.mpr hpaired
    simp [postValidate, hall, hpartial, hlength, hpaired.even_length]

/-- The run that connects the switches starts anew once the dry run has accepted the list. -/
lemma init_of_dry_run (h : (postValidate m true settings).1 = .ok ()) :
    init m false settings = postValidate m false settings := by
  cases hdry : postValidate m true settings with
  | mk r s =>
      rw [hdry] at h
      cases h
      simp only [init, hdry, Bool.false_eq_true, if_false]

/-- **Virtual links.**  The dry run accepts the lists in which every link has two ends, at different
switches.  If those switches exist and no call throws, then the real run of such a list connects
each link once, and throws nothing. -/
theorem postValidate_spec (settings : List VifSetting) :
    ((postValidate m true settings).1 = .ok () ↔
        ∃ vifs, settings.mapM VifSetting.read = .ok vifs ∧ Paired vifs) ∧
      ∀ vifs, settings.mapM VifSetting.read = .ok vifs →
        (postValidate m true settings).1 = .ok () →
        (∀ vif ∈ vifs, ∃ sw ∈ m.switchs.values, sw.dpname = vif.lsi) →
        (∀ before call, before ++ [call] <+: (postValidate m false settings).2.calls →
          m.connectSwitches before call = none) →
        init m false settings = postValidate m false settings ∧
          (postValidate m false settings).1 = .ok () ∧
          ∃ links : List String, links.Nodup ∧
            (∀ link, link ∈ links ↔ ∃ vif ∈ vifs, vif.link = link) ∧
            List.Forall₂ (fun link call => ∃ lsi1 lsi2, lsis link vifs = [lsi1, lsi2] ∧
              getSwitchDpid m.switchs lsi1 = some call.1 ∧
              getSwitchDpid m.switchs lsi2 = some call.2)
              links (postValidate m false settings).2.calls := by
  refine ⟨postValidate_dry_run m, ?_⟩
  intro vifs hread hdry hexist hcalls
  obtain ⟨vifs', hread', hpaired⟩ := (postValidate_dry_run m).mp hdry
  obtain rfl := Except.ok.inj (hread.symm.trans hread')
  have heven : settings.length % 2 = 0 := by
    rw [(mapM_eq_ok_iff.mp hread).length_eq, hpaired.even_length]
  have hsame : (postValidate m false settings).2 = (pairAll m false .empty settings).2 := by
    cases hall : pairAll m false .empty settings with
    | mk r s =>
        cases r with
        | error e => simp [postValidate, heven, hall]
        | ok u =>
            by_cases hpos : s.partial_links.entries.length > 0 <;>
              simp [postValidate, heven, hall, hpos]
  rw [hsame] at hcalls
  rw [hsame]
  obtain ⟨s, hall⟩ := pairAll_ok tracks_nil hread hpaired
    (fun _ => ⟨fun vif hvif => getSwitchDpid_ne_none_iff.mpr (hexist vif hvif), hcalls⟩)
  obtain ⟨vifs', hread', htracks⟩ := pairAll_eq_ok tracks_nil hall
  obtain rfl := Except.ok.inj (hread.symm.trans hread')
  have hpartial := htracks.paired_iff.mpr hpaired
  refine ⟨init_of_dry_run m hdry, by simp [postValidate, heven, hall, hpartial], ?_⟩
  obtain ⟨links, hnodup, hmem, hforall⟩ := connects_pairAll tracks_nil
    ⟨[], .nil, by simp [Links.empty], .nil⟩ hread hall
  rw [hall]
  refine ⟨links, hnodup, fun link => (hmem link).trans (htracks.provisioned_iff hpaired link),
    hforall.imp ?_⟩
  rintro link call ⟨lsi1, lsi2, rest, hlsis, hdpids⟩
  rw [List.nil_append] at hlsis
  -- A link has no third end.
  rcases hpaired.lsis_cases link with hends | ⟨lsi1', lsi2', hends, -⟩
  · rw [hends] at hlsis
    cases hlsis
  · rw [hends] at hlsis
    cases hlsis
    exact ⟨lsi1, lsi2, hends, hdpids⟩

/-- Two links between two switches, with their ends mixed. -/
theorem postValidate_mixed :
    let m : Managers := ⟨(SortedMap.empty.insert 1 ⟨0, 1, "lsi0"⟩).insert 2 ⟨1, 2, "lsi1"⟩,
      fun _ _ => none⟩
    let settings : List VifSetting :=
      [⟨some (.string "vlink0"), some (.string "lsi0")⟩,
        ⟨some (.string "vlink1"), some (.string "lsi1")⟩,
        ⟨some (.string "vlink0"), some (.string "lsi1")⟩,
        ⟨some (.string "vlink1"), some (.string "lsi0")⟩]
    (postValidate m true settings).1 = .ok () ∧ (postValidate m false settings).1 = .ok () ∧
      (postValidate m false settings).2.calls = [(1, 2), (2, 1)] := by
  intro m settings
  have hspec := (postValidate_spec m settings).2
    [⟨"vlink0", "lsi0"⟩, ⟨"vlink1", "lsi1"⟩, ⟨"vlink0", "lsi1"⟩, ⟨"vlink1", "lsi0"⟩]
    rfl (by decide) (by decide) (fun _ _ _ => rfl)
  exact ⟨by decide, hspec.2.1, by decide⟩

end PostValidate

end Xdpd.Management.Config
