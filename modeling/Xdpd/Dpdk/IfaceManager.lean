import Xdpd.Dpdk.PacketPaths
import Xdpd.Dpdk.Processing
import Xdpd.Lib.Transition

/-!
# Bringing ports up and down

`iface_manager_bring_up` and `iface_manager_bring_down` start and stop the device of a port, and set
`up`.  A virtual port has no device; the two ports of a virtual link have a flag that the link is
down, which both functions set on both ports.

What the devices and the kernel answer is a part of the calls.  The functions are those of a build
with `NDEBUG`.
-/

namespace Xdpd.Dpdk.IfaceManager

open Xdpd.Lib

variable {P : Type*}

/-! ## The functions -/

/-- The ports, with the other end of each virtual link in `platform_port_state`. -/
structure Ports (P : Type*) where
  type : P → Mbufs.PortType
  portPair : P → P
  type_portPair : ∀ p, type p = .virtual → type (portPair p) = .virtual
  portPair_portPair : ∀ p, type p = .virtual → portPair (portPair p) = p
  portPair_ne : ∀ p, type p = .virtual → portPair p ≠ p

/-- The ports as they are, and their devices. -/
structure State (P : Type*) where
  up : P → Bool
  /-- `PORT_STATE_LINK_DOWN` of `state` -/
  linkDown : P → Bool
  /-- the device of the port has been started; for a KNI port, `IFF_UP` of its interface -/
  running : P → Bool
  /-- a device was started that was running -/
  startedTwice : Bool

/-- What is answered during a call. -/
structure Answers where
  /-- `rte_eth_dev_start` succeeds -/
  started : Bool
  /-- there is a socket -/
  socket : Bool
  /-- `SIOCGIFFLAGS` succeeds -/
  flagsRead : Bool
  /-- `SIOCSIFFLAGS` succeeds -/
  flagsSet : Bool

/-- The interface of a KNI port gets the flag `up`, unless it has it: `none` if that fails. -/
def Answers.setFlag (answers : Answers) (up running : Bool) : Option Bool :=
  if answers.socket && answers.flagsRead then
    if running = up then some running
    else if answers.flagsSet then some up
    else none
  else none

variable (ports : Ports P) [DecidableEq P]

/-- `nf_iface_manager_bring_up_port` and `nf_iface_manager_bring_down_port`, as `up` tells.  There
is nothing to be started or stopped for an NF with shared memory. -/
def nfIfaceManagerBring (up : Bool) (answers : Answers) (port : P) (s : State P) :
    RoflResult × State P :=
  match ports.type port with
  | .nfShmem => (.success, { s with running := Function.update s.running port up })
  | .nfExternal =>
      match answers.setFlag up (s.running port) with
      | some running =>
          (.success, { s with running := Function.update s.running port running })
      | none => (.failure, s)
  | _ => (.failure, s)

/-- `rte_eth_dev_start` -/
def rteEthDevStart (answers : Answers) (port : P) (s : State P) : RoflResult × State P :=
  if answers.started then
    (.success,
      { s with
        running := Function.update s.running port true
        startedTwice := s.startedTwice || s.running port })
  else (.failure, s)

/-- `rte_eth_dev_stop` -/
def rteEthDevStop (port : P) (s : State P) : State P :=
  { s with running := Function.update s.running port false }

/-- Both ends of a link have it that it is down, or that it is not. -/
def setLinkDown (port : P) (down : Bool) (s : State P) : State P :=
  { s with
    linkDown := Function.update (Function.update s.linkDown port down) (ports.portPair port) down }

/-- `port->up` is set. -/
def setUp (port : P) (up : Bool) (s : State P) : State P :=
  { s with up := Function.update s.up port up }

/-- `iface_manager_bring_up` -/
def bringUp (answers : Answers) (port : Option P) (s : State P) : RoflResult × State P :=
  match port with
  | none => (.failure, s)
  | some port =>
      let (result, s) : RoflResult × State P :=
        match ports.type port with
        | .virtual => (.success, setLinkDown ports port (!s.up (ports.portPair port)) s)
        | .nfShmem =>
            if s.up port then (.success, s) else nfIfaceManagerBring ports true answers port s
        | .nfExternal =>
            if s.up port then (.success, s) else nfIfaceManagerBring ports true answers port s
        | .physical => if s.up port then (.success, s) else rteEthDevStart answers port s
      match result with
      | .failure => (.failure, s)
      | .success => (.success, setUp port true s)

/-- `iface_manager_bring_down` -/
def bringDown (answers : Answers) (port : Option P) (s : State P) : RoflResult × State P :=
  match port with
  | none => (.failure, s)
  | some port =>
      match ports.type port with
      | .virtual => (.success, setLinkDown ports port true (setUp port false s))
      | .nfShmem | .nfExternal =>
          let (result, s) : RoflResult × State P :=
            if s.up port then nfIfaceManagerBring ports false answers port s else (.success, s)
          match result with
          | .failure => (.failure, s)
          | .success => (.success, setUp port false s)
      | .physical =>
          -- `up` is cleared first, so that the cores leave the port alone
          let s := setUp port false s
          (.success, if s.up port then rteEthDevStop port s else s)

/-- A call, with a port or with `NULL`. -/
inductive Action (P : Type*)
  | bringUp (port : Option P) (answers : Answers)
  | bringDown (port : Option P) (answers : Answers)

/-- The next state. -/
def State.next (s : State P) : Action P → State P
  | .bringUp port answers => (bringUp ports answers port s).2
  | .bringDown port answers => (bringDown ports answers port s).2

/-- The ports as they are created.  The device of a physical port has been started with its queues,
if they were set. -/
def State.init (queuesSet : P → Bool) : State P where
  up p :=
    match ports.type p with
    | .virtual => true
    | .physical => queuesSet p
    | _ => false
  linkDown _ := false
  running p := match ports.type p with
    | .physical => queuesSet p
    | _ => false
  startedTwice := false

/-! ## Ports and devices that agree -/

/-- The devices of the ports that are up are running and no others, none was started twice, and the
links are down unless both ends are up. -/
structure State.Consistent (s : State P) : Prop where
  running_eq : ∀ p, ports.type p ≠ .virtual → s.running p = s.up p
  once : s.startedTwice = false
  linkDown_eq : ∀ p, ports.type p = .virtual → s.linkDown p = s.linkDown (ports.portPair p)
  linkDown_iff : ∀ p, ports.type p = .virtual →
    (s.linkDown p = false ↔ s.up p = true ∧ s.up (ports.portPair p) = true)

/-- The call does not bring down a physical port that is up. -/
def State.LeavesUp (s : State P) : Action P → Prop
  | .bringDown (some port) _ => ports.type port = .physical → s.up port = false
  | _ => True

/-! ## Steps -/

variable {ports} {s s' : State P} {port : P}

/-- Both ends of a link are told whether both are up. -/
lemma State.Consistent.setLink (hs : s.Consistent ports) (hvirtual : ports.type port = .virtual)
    (up : Bool) :
    (setLinkDown ports port (!(up && s.up (ports.portPair port)))
      (setUp port up s)).Consistent ports := by
  have hne := ports.portPair_ne port hvirtual
  have hpair := ports.portPair_portPair port hvirtual
  have hother : ∀ q, ports.type q = .virtual → q ≠ port → q ≠ ports.portPair port →
      ports.portPair q ≠ port ∧ ports.portPair q ≠ ports.portPair port := by
    intro q hq hqport hqpair
    refine ⟨fun heq => hqpair ?_, fun heq => hqport ?_⟩
    · rw [← heq, ports.portPair_portPair q hq]
    · rw [← hpair, ← heq, ports.portPair_portPair q hq]
  refine ⟨fun q hq => ?_, hs.once, fun q hq => ?_, fun q hq => ?_⟩
  · have hqport : q ≠ port := fun heq => hq (heq ▸ hvirtual)
    simpa [setLinkDown, setUp, Function.update_of_ne hqport] using hs.running_eq q hq
  · by_cases hqport : q = port
    · subst hqport
      simp [setLinkDown, setUp, Function.update_of_ne hne.symm]
    by_cases hqpair : q = ports.portPair port
    · subst hqpair
      simp [setLinkDown, setUp, hpair, Function.update_of_ne hne.symm]
    obtain ⟨hport, hpair⟩ := hother q hq hqport hqpair
    simpa [setLinkDown, setUp, Function.update_of_ne hqport, Function.update_of_ne hqpair,
      Function.update_of_ne hport, Function.update_of_ne hpair] using hs.linkDown_eq q hq
  · by_cases hqport : q = port
    · subst hqport
      simp [setLinkDown, setUp, Function.update_of_ne hne, Function.update_of_ne hne.symm]
    by_cases hqpair : q = ports.portPair port
    · subst hqpair
      simp [setLinkDown, setUp, hpair, Function.update_of_ne hne, and_comm]
    obtain ⟨hport, hpair⟩ := hother q hq hqport hqpair
    simpa [setLinkDown, setUp, Function.update_of_ne hqport, Function.update_of_ne hqpair,
      Function.update_of_ne hport, Function.update_of_ne hpair] using hs.linkDown_iff q hq

/-- The device of a port is started or stopped with it. -/
lemma State.Consistent.setDevice (hs : s.Consistent ports) (hdevice : ports.type port ≠ .virtual)
    {up : Bool} (hup : s'.up = Function.update s.up port up)
    (hrunning : s'.running = Function.update s.running port up)
    (hlink : s'.linkDown = s.linkDown) (honce : s'.startedTwice = false) :
    s'.Consistent ports := by
  have hvirtual : ∀ q, ports.type q = .virtual → s'.up q = s.up q := by
    intro q hq
    have hne : q ≠ port := fun heq => hdevice (heq ▸ hq)
    rw [hup, Function.update_of_ne hne]
  refine ⟨fun q hq => ?_, honce, fun q hq => ?_, fun q hq => ?_⟩
  · by_cases hqport : q = port
    · rw [hup, hrunning, hqport, Function.update_self, Function.update_self]
    · rw [hup, hrunning, Function.update_of_ne hqport, Function.update_of_ne hqport]
      exact hs.running_eq q hq
  · rw [hlink]
    exact hs.linkDown_eq q hq
  · rw [hlink, hvirtual q hq, hvirtual _ (ports.type_portPair q hq)]
    exact hs.linkDown_iff q hq

/-- Nothing happens to a port that is as it should be. -/
lemma State.Consistent.setUp_self (hs : s.Consistent ports) {up : Bool} (h : s.up port = up) :
    (setUp port up s).Consistent ports := by
  have hself : setUp port up s = s := by
    rw [setUp, ← h, Function.update_eq_self]
  rw [hself]
  exact hs

lemma setFlag_eq_some {answers : Answers} {up running r : Bool}
    (h : answers.setFlag up running = some r) : r = up := by
  rw [Answers.setFlag] at h
  split at h
  · split at h
    · rename_i heq
      rw [← heq, Option.some_injective _ h]
    · split at h
      · exact (Option.some_injective _ h).symm
      · exact absurd h nofun
  · exact absurd h nofun

/-- What a call does with an NF port: its device is as asked for, or nothing has changed. -/
lemma nfIfaceManagerBring_cases (up : Bool) (answers : Answers) (port : P) (s : State P) :
    nfIfaceManagerBring ports up answers port s = (.failure, s) ∨
      nfIfaceManagerBring ports up answers port s =
        (.success, { s with running := Function.update s.running port up }) := by
  rw [nfIfaceManagerBring]
  split
  · exact .inr rfl
  · cases h : answers.setFlag up (s.running port) with
    | none => exact .inl rfl
    | some running =>
        obtain rfl := setFlag_eq_some h
        exact .inr rfl
  · exact .inl rfl

lemma rteEthDevStart_cases (answers : Answers) (port : P) (s : State P) :
    rteEthDevStart answers port s = (.failure, s) ∨
      rteEthDevStart answers port s =
        (.success,
          { s with
            running := Function.update s.running port true
            startedTwice := s.startedTwice || s.running port }) := by
  rw [rteEthDevStart]
  split
  · exact .inr rfl
  · exact .inl rfl

/-- An NF port is brought up or down. -/
lemma State.Consistent.bringNf (hs : s.Consistent ports) (hdevice : ports.type port ≠ .virtual)
    (up : Bool) (answers : Answers) {r : RoflResult × State P}
    (hr : r = nfIfaceManagerBring ports up answers port s) :
    (match r.1 with
      | .failure => (RoflResult.failure, r.2)
      | .success => (.success, setUp port up r.2)).2.Consistent ports := by
  have hcases : nfIfaceManagerBring ports up answers port s = _ ∨ _ :=
    nfIfaceManagerBring_cases up answers port s
  rcases hcases with h | h
  · rw [hr, h]
    exact hs
  · rw [hr, h]
    exact hs.setDevice hdevice rfl rfl rfl hs.once

lemma State.Consistent.bringUp (hs : s.Consistent ports) (answers : Answers) (port : Option P) :
    (bringUp ports answers port s).2.Consistent ports := by
  cases port with
  | none => exact hs
  | some port =>
      rw [IfaceManager.bringUp]
      cases htype : ports.type port with
      | virtual => exact hs.setLink htype true
      | physical =>
          have hdevice : ports.type port ≠ .virtual := by simp [htype]
          by_cases hup : s.up port = true
          · simpa only [if_pos hup] using hs.setUp_self hup
          · have hstopped : s.running port = false := by
              rw [hs.running_eq port hdevice]
              exact Bool.eq_false_of_not_eq_true hup
            simp only [if_neg hup]
            rcases rteEthDevStart_cases answers port s with h | h
            · rw [h]
              exact hs
            · rw [h]
              exact hs.setDevice hdevice rfl rfl rfl (by simp [setUp, hs.once, hstopped])
      | nfShmem =>
          have hdevice : ports.type port ≠ .virtual := by simp [htype]
          by_cases hup : s.up port = true
          · simpa only [if_pos hup] using hs.setUp_self hup
          · simp only [if_neg hup]
            exact hs.bringNf hdevice true answers rfl
      | nfExternal =>
          have hdevice : ports.type port ≠ .virtual := by simp [htype]
          by_cases hup : s.up port = true
          · simpa only [if_pos hup] using hs.setUp_self hup
          · simp only [if_neg hup]
            exact hs.bringNf hdevice true answers rfl

/-- The device of a physical port that was up goes on. -/
lemma State.Consistent.bringDown_iff (hs : s.Consistent ports) (answers : Answers)
    (port : Option P) :
    (bringDown ports answers port s).2.Consistent ports ↔
      s.LeavesUp ports (.bringDown port answers) := by
  cases port with
  | none => exact iff_of_true hs trivial
  | some port =>
      rw [bringDown, State.LeavesUp]
      cases htype : ports.type port with
      | virtual =>
          exact iff_of_true (hs.setLink htype false) nofun
      | physical =>
          have hdevice : ports.type port ≠ .virtual := by simp [htype]
          simp only [setUp, Function.update_self, Bool.false_eq_true, if_false, forall_const]
          refine ⟨fun h => ?_, fun hdown => hs.setUp_self hdown⟩
          have hrunning := h.running_eq port hdevice
          rw [← hs.running_eq port hdevice]
          simpa using hrunning
      | nfShmem =>
          have hdevice : ports.type port ≠ .virtual := by simp [htype]
          refine iff_of_true ?_ nofun
          by_cases hup : s.up port = true
          · simp only [if_pos hup]
            exact hs.bringNf hdevice false answers rfl
          · simp only [if_neg hup]
            exact hs.setUp_self (Bool.eq_false_of_not_eq_true hup)
      | nfExternal =>
          have hdevice : ports.type port ≠ .virtual := by simp [htype]
          refine iff_of_true ?_ nofun
          by_cases hup : s.up port = true
          · simp only [if_pos hup]
            exact hs.bringNf hdevice false answers rfl
          · simp only [if_neg hup]
            exact hs.setUp_self (Bool.eq_false_of_not_eq_true hup)

/-- **One step.**  Ports and devices go on to agree exactly if no physical port is brought down that
is up. -/
lemma State.Consistent.next_iff (hs : s.Consistent ports) (a : Action P) :
    (s.next ports a).Consistent ports ↔ s.LeavesUp ports a := by
  cases a with
  | bringUp port answers => exact iff_of_true (hs.bringUp answers port) trivial
  | bringDown port answers => exact hs.bringDown_iff answers port

omit [DecidableEq P] in
lemma consistent_init (queuesSet : P → Bool) : (State.init ports queuesSet).Consistent ports where
  running_eq p hp := by
    cases htype : ports.type p with
    | virtual => exact absurd htype hp
    | physical => simp [State.init, htype]
    | nfShmem => simp [State.init, htype]
    | nfExternal => simp [State.init, htype]
  once := rfl
  linkDown_eq _ _ := rfl
  linkDown_iff p hp := by simp [State.init, hp, ports.type_portPair p hp]

variable (ports)

/-- **Ports and devices agree** as long as no physical port is brought down that is up. -/
theorem consistent_iff (queuesSet : P → Bool) (acts : List (Action P)) :
    AllSteps (State.next ports) (fun s a => (s.next ports a).Consistent ports)
        (State.init ports queuesSet) acts ↔
      AllSteps (State.next ports) (State.LeavesUp ports) (State.init ports queuesSet) acts :=
  allSteps_iff (fun _ a hs => hs.next_iff a) (fun _ a hs h => (hs.next_iff a).mpr h)
    (consistent_init queuesSet) acts

/-- One physical port. -/
def onePort : Ports Unit where
  type _ := .physical
  portPair p := p
  type_portPair _ h := h
  portPair_portPair _ _ := rfl
  portPair_ne _ h := absurd h nofun

/-- The port is brought down and up. -/
theorem not_consistent_restart :
    ¬ AllSteps (State.next onePort) (fun s a => (s.next onePort a).Consistent onePort)
      (State.init onePort fun _ => true)
      [.bringDown (some ()) ⟨true, true, true, true⟩,
        .bringUp (some ()) ⟨true, true, true, true⟩] := by
  rintro ⟨hdown, -⟩
  exact absurd (hdown.running_eq () nofun) (by decide)

end Xdpd.Dpdk.IfaceManager
