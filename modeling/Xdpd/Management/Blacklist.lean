import Xdpd.Management.PortManager

/-!
# Blacklisting excludes attachment

`blacklist` refuses a port that is attached, and `attach_port_to_switch` one that is blacklisted.
The first one looks within the critical section, the second one in front of it, so that a port which
is blacklisted in between is attached all the same.

No port is both, in every run where `attach_port_to_switch` does not enter the section with a port
that has been blacklisted since the check: `excluded_of_fresh`.
-/

namespace Xdpd.Management.Ports

open Xdpd.Lib

/-! ## The calls -/

/-- A call of `attach_port_to_switch`, with what the switch manager and the driver answer. -/
structure AttachRequest where
  dpid : Dpid
  name : String
  /-- `of_port_num` is not `NULL`, and in range -/
  validNumber : Bool
  switchExists : Bool
  result : AttachResult
  deriving DecidableEq

/-- Where a thread is: its next check or section. -/
inductive Pc where
  | idle (ret : Option Return)
  | blacklistExists (name : String)
  | blacklistCheck (name : String)
  | blacklistEnter (name : String)
  | whitelistExists (name : String)
  | whitelistCheck (name : String)
  | whitelistEnter (name : String)
  | attachCheck (request : AttachRequest)
  | attachEnter (request : AttachRequest)
  | detachEnter (dpid : Dpid) (name : String) (result : DetachResult)
  deriving DecidableEq

/-- The end of a section. -/
def leave (p : Return × PortManager) : PortManager × Pc := (p.2, .idle (some p.1))

/-- The next check or section of a thread.  A section waits for the mutex. -/
def access (s : PortManager) : Pc → Option (PortManager × Pc)
  | .idle _ => none
  | .blacklistExists name =>
      if s.ports name = none then some (s, .idle (some .ePmInvalidPort))
      else some (s, .blacklistCheck name)
  | .blacklistCheck name =>
      if name ∈ s.blacklisted then some (s, .idle (some .done)) else some (s, .blacklistEnter name)
  | .blacklistEnter name => if s.locked then none else some (leave (blacklistSection s name))
  | .whitelistExists name =>
      if s.ports name = none then some (s, .idle (some .ePmInvalidPort))
      else some (s, .whitelistCheck name)
  | .whitelistCheck name =>
      if name ∉ s.blacklisted then some (s, .idle (some .done)) else some (s, .whitelistEnter name)
  | .whitelistEnter name => if s.locked then none else some (leave (whitelistSection s name))
  | .attachCheck request =>
      if !request.validNumber then some (s, .idle (some .ePmInvalidPortNumber))
      else if request.name ∈ s.blacklisted then some (s, .idle (some .ePmBlacklistedPort))
      else some (s, .attachEnter request)
  | .attachEnter request =>
      if s.locked then none
      else some (leave
        (attachSection s request.dpid request.name request.switchExists request.result))
  | .detachEnter dpid name result =>
      if s.locked then none else some (leave (detachSection s dpid name result))

/-- What a thread does. -/
inductive Action (τ : Type) where
  | blacklist (t : τ) (name : String)
  | whitelist (t : τ) (name : String)
  | attachPortToSwitch (t : τ) (request : AttachRequest)
  | detachPortFromSwitch (t : τ) (dpid : Dpid) (name : String) (result : DetachResult)
  | run (t : τ)
  deriving DecidableEq

variable {τ : Type} [DecidableEq τ]

/-- The port manager and its threads. -/
abbrev State (τ : Type) := Threads PortManager τ Pc

/-- The ports that the driver has found, and all threads outside. -/
def init (ports : String → Option SwitchPort) : State τ := ⟨.init ports, fun _ => .idle none⟩

/-- A thread that is outside calls a function. -/
def call (s : State τ) (t : τ) (c : Pc) : Option (State τ) :=
  match s.pc t with
  | .idle _ => some (s.goto t c)
  | _ => none

/-- One step. -/
def step (s : State τ) : Action τ → Option (State τ)
  | .blacklist t name => call s t (.blacklistExists name)
  | .whitelist t name => call s t (.whitelistExists name)
  | .attachPortToSwitch t request => call s t (.attachCheck request)
  | .detachPortFromSwitch t dpid name result => call s t (.detachEnter dpid name result)
  | .run t => s.run (fun _ => access) t

/-- No port is both blacklisted and attached. -/
def Excluded (s : PortManager) : Prop := ∀ name ∈ s.blacklisted, ¬ s.Attached name

/-- The port with which the thread enters the section of `attach_port_to_switch` next. -/
def Pc.attaching : Pc → Option String
  | attachEnter request => some request.name
  | _ => none

/-- A thread that enters the section of `attach_port_to_switch` has a port that is not in the
blacklist. -/
def Fresh (s : State τ) : Action τ → Prop
  | .run t => ∀ name ∈ (s.pc t).attaching, name ∉ s.shared.blacklisted
  | _ => True

instance (s : State τ) (a : Action τ) : Decidable (Fresh s a) := by
  cases a <;> unfold Fresh <;> infer_instance

/-! ## What the sections do -/

section Sections

variable {s : PortManager} {name : String} {port : SwitchPort}

/-- A port is only blacklisted if it is not attached. -/
lemma Excluded.blacklistSection (h : Excluded s) (name : String) :
    Excluded (blacklistSection s name).2 := by
  rw [Ports.blacklistSection]
  split
  · exact h
  · next port hport =>
    split
    · exact h
    · next hattached =>
      intro other hother
      rcases Finset.mem_insert.mp hother with rfl | hother
      · rintro ⟨port', hport', hattached'⟩
        obtain rfl := Option.some.inj (hport.symm.trans hport')
        exact hattached hattached'
      · exact h other hother

lemma Excluded.whitelistSection (h : Excluded s) (name : String) :
    Excluded (whitelistSection s name).2 :=
  fun other hother => h other (Finset.mem_of_mem_erase hother)

lemma Excluded.setAttached (h : Excluded s) (hname : name ∉ s.blacklisted)
    (sw : Option Dpid) : Excluded (s.setAttached name port sw) := by
  intro other hother hattached
  have hne : other ≠ name := by
    rintro rfl
    exact hname hother
  exact h other hother ((attached_setAttached_of_ne hne).mp hattached)

lemma Excluded.attachSection (h : Excluded s) (hname : name ∉ s.blacklisted) (dpid : Dpid)
    (switchExists : Bool) (result : AttachResult) :
    Excluded (attachSection s dpid name switchExists result).2 := by
  rw [Ports.attachSection]
  split
  · exact h
  · split
    · exact h
    · cases result with
      | success => exact h.setAttached hname _
      | failure => exact h
      | failureOfIomanager => exact h.setAttached hname _

/-- What the driver does to detach a port leaves the blacklist, and attaches nothing. -/
lemma halDetach_eq (s : PortManager) (name : String) (port : SwitchPort) (result : DetachResult) :
    (halDetach s name port result).2.blacklisted = s.blacklisted ∧
      ∀ other, (halDetach s name port result).2.Attached other → s.Attached other := by
  rcases halDetach_cases s name port result with heq | heq | ⟨pair, -, -, -, heq⟩
  · rw [heq]
    exact ⟨rfl, fun other => id⟩
  · rw [heq]
    exact ⟨rfl, fun other => attached_of_setAttached_none⟩
  · rw [heq, blacklisted_deleteLink]
    exact ⟨rfl, fun other hother => attached_of_setAttached_none (attached_of_deleteLink hother)⟩

lemma Excluded.detachSection (h : Excluded s) (dpid : Dpid) (name : String)
    (result : DetachResult) : Excluded (detachSection s dpid name result).2 := by
  rw [Ports.detachSection]
  split
  · exact h
  · next port hport =>
    split
    · exact h
    · split
      · exact h
      · obtain ⟨hblacklisted, hattached⟩ := halDetach_eq s name port result
        intro other hother hother'
        rw [hblacklisted] at hother
        exact h other hother (hattached other hother')

end Sections

/-- A check or a section keeps the exclusion, unless it attaches a port of the blacklist. -/
lemma Excluded.access {s : PortManager} (h : Excluded s) {c : Pc}
    (hfresh : ∀ name ∈ c.attaching, name ∉ s.blacklisted)
    {s' : PortManager} {c' : Pc} (hacc : access s c = some (s', c')) : Excluded s' := by
  cases c with
  | idle => exact absurd hacc nofun
  | blacklistExists name | whitelistExists name | blacklistCheck name | whitelistCheck name =>
      change (if _ then _ else _) = _ at hacc
      split at hacc <;> cases hacc <;> exact h
  | attachCheck request =>
      change (if _ then _ else if _ then _ else _) = _ at hacc
      split at hacc
      · cases hacc
        exact h
      · split at hacc <;> cases hacc <;> exact h
  | blacklistEnter name =>
      change (if _ then _ else _) = _ at hacc
      split at hacc <;> cases hacc
      exact h.blacklistSection name
  | whitelistEnter name =>
      change (if _ then _ else _) = _ at hacc
      split at hacc <;> cases hacc
      exact h.whitelistSection name
  | attachEnter request =>
      change (if _ then _ else _) = _ at hacc
      split at hacc <;> cases hacc
      exact h.attachSection (hfresh request.name rfl) _ _ _
  | detachEnter dpid name result =>
      change (if _ then _ else _) = _ at hacc
      split at hacc <;> cases hacc
      exact h.detachSection dpid name result

lemma shared_of_call {s s' : State τ} {t : τ} {c : Pc} (hcall : call s t c = some s') :
    s'.shared = s.shared := by
  rw [call] at hcall
  split at hcall <;> cases hcall
  rfl

/-- **Exclusion.**  In every run of any number of threads in which `attach_port_to_switch` enters
its section with a port that is not blacklisted, no port is both blacklisted and attached. -/
theorem excluded_of_fresh (ports : String → Option SwitchPort) {acts : List (Action τ)}
    {s : State τ} (hrun : Run step Fresh (init ports) acts s) : Excluded s.shared := by
  have hinit : Excluded (init ports : State τ).shared :=
    fun name hname => absurd hname (Finset.notMem_empty name)
  refine hrun.invariant (fun s a s' (hinv : Excluded s.shared) hok hstep => ?_) hinit
  cases a with
  | run t =>
      change s.run (fun _ => access) t = some s' at hstep
      obtain ⟨sh, c, hacc, rfl⟩ := Threads.run_eq_some hstep
      exact hinv.access hok hacc
  | blacklist t name | whitelist t name | attachPortToSwitch t request
  | detachPortFromSwitch t dpid name result =>
      change call _ _ _ = _ at hstep
      rw [shared_of_call hstep]
      exact hinv

/-- One port, that is not attached. -/
def onePort (name : String) : Option SwitchPort :=
  if name = "ge0" then some ⟨.physical, none⟩ else none

/-- A call of `attach_port_to_switch` for that port, which the driver can do. -/
def attachGe0 : AttachRequest := ⟨1, "ge0", true, true, .success⟩

theorem excluded_inTurn : ∃ s ∈ exec (guarded step Fresh) (init onePort : State Bool)
      ([.attachPortToSwitch false attachGe0] ++ List.replicate 2 (.run false) ++
        [.detachPortFromSwitch false 1 "ge0" .success, .run false, .blacklist true "ge0"] ++
        List.replicate 3 (.run true)),
    "ge0" ∈ s.shared.blacklisted ∧ Excluded s.shared := by
  have hexec : ∃ s ∈ exec (guarded step Fresh) (init onePort : State Bool)
      ([.attachPortToSwitch false attachGe0] ++ List.replicate 2 (.run false) ++
        [.detachPortFromSwitch false 1 "ge0" .success, .run false, .blacklist true "ge0"] ++
        List.replicate 3 (.run true)),
      "ge0" ∈ s.shared.blacklisted := by decide
  obtain ⟨s, hs, hmem⟩ := hexec
  exact ⟨s, hs, hmem, excluded_of_fresh onePort (run_of_exec_guarded hs)⟩

/-- The port is blacklisted after the check of `attach_port_to_switch`, and then attached. -/
theorem not_excluded_of_late_check : ¬ ∀ (ports : String → Option SwitchPort)
    (acts : List (Action Bool)) (s : State Bool),
    (∀ name, ¬ (PortManager.init ports).Attached name) → Run step anyStep (init ports) acts s →
      Excluded s.shared := by
  intro hall
  have hexec : ∃ s ∈ exec step (init onePort : State Bool)
      ([.attachPortToSwitch false attachGe0, .run false, .blacklist true "ge0"] ++
        List.replicate 3 (.run true) ++ [.run false]),
      "ge0" ∈ s.shared.blacklisted ∧ s.shared.Attached "ge0" := by decide
  obtain ⟨s, hs, hmem, hattached⟩ := hexec
  refine hall onePort _ s (fun name => ?_) (run_of_exec hs) "ge0" hmem hattached
  rintro ⟨port, hport, hattached'⟩
  change (if name = "ge0" then some (SwitchPort.mk .physical none) else none) = some port at hport
  split at hport <;> cases hport
  exact hattached' rfl

end Xdpd.Management.Ports
