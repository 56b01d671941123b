import Mathlib.Data.List.Range
import Mathlib.Data.Nat.Bits
import Xdpd.Dpdk.PacketPaths
import Xdpd.Lib.CallStack

/-!
# Packets that go through virtual links

A packet that is sent to a virtual link is processed by the switch at the other end at once, on the
stack of the core: `platform_packet_output`, `output_single_packet`, `tx_pkt_vlink` and the pipeline
call each other.  The other driver puts such a packet into a queue, from which it is processed on
its own.

The pipeline of a switch is any function that tells which packets it sends, and where.  Whether a
packet can be copied for a port that it is flooded to, is answered for each call.
-/

namespace Xdpd.Dpdk.VlinkForwarding

open Xdpd.Lib

variable {P S F : Type}

/-! ## The functions -/

/-- A packet that is processed by a switch, and where this is among all that follows from the packet
that was received: for each switch that it has come through, which packet was sent by the pipeline,
and which port of a flood it was. -/
structure Visit (S F : Type) where
  sw : S
  portIn : ℕ
  frame : F
  path : List (ℕ × ℕ)

/-- The switches and their ports, and what is answered. -/
structure Network (P S F : Type) where
  /-- `LOGICAL_SWITCH_MAX_LOG_PORTS` -/
  maxLogPorts : ℕ
  ports : P → Mbufs.SwitchPort P S
  /-- `logical_ports` of a switch -/
  logicalPorts : S → ℕ → Option P
  /-- what the pipeline sends for a packet from a port -/
  pipeline : S → ℕ → F → List (F × Mbufs.OutputPort P)
  /-- `platform_packet_replicate__` succeeds for the packet sent as the `k`th, and the `i`th port -/
  replicates : Visit S F → ℕ → ℕ → Bool

/-- A call of one of the functions. -/
inductive Call (P S F : Type)
  | ofProcessPacketPipeline (v : Visit S F)
  | platformPacketOutput (v : Visit S F) (k : ℕ) (frame : F) (outputPort : Mbufs.OutputPort P)
  | outputSinglePacket (v : Visit S F) (k i : ℕ) (frame : F) (port : P)
  | txPktVlink (v : Visit S F) (k i : ℕ) (frame : F) (vlink : P)

namespace Network

variable (net : Network P S F)

/-- The loop over the ports of the switch: those that a copy is sent to. -/
def floodFrom (v : Visit S F) (k : ℕ) : List ℕ → List (ℕ × P)
  | [] => []
  | i :: slots =>
      match net.logicalPorts v.sw i with
      | none => floodFrom v k slots
      | some port =>
          if i = v.portIn ∨ (net.ports port).noFlood = true then floodFrom v k slots
          else if net.replicates v k i then (i, port) :: floodFrom v k slots
          else []

/-- The ports that `platform_packet_output` sends a packet to. -/
def sentTo (v : Visit S F) (k : ℕ) : Mbufs.OutputPort P → List (ℕ × P)
  | .null => []
  | .flood | .all => net.floodFrom v k (List.range net.maxLogPorts)
  | .inPort =>
      if net.maxLogPorts ≤ v.portIn then []
      else
        match net.logicalPorts v.sw v.portIn with
        | none => []
        | some port => [(0, port)]
  | .port port => [(0, port)]

/-- The calls that a function makes, one after the other. -/
def calls : Call P S F → List (Call P S F)
  | .ofProcessPacketPipeline v =>
      (net.pipeline v.sw v.portIn v.frame).mapIdx fun k sent =>
        .platformPacketOutput v k sent.1 sent.2
  | .platformPacketOutput v k frame outputPort =>
      (net.sentTo v k outputPort).map fun dst => .outputSinglePacket v k dst.1 frame dst.2
  | .outputSinglePacket v k i frame port =>
      let p := net.ports port
      if p.platformPortState.isSome ∧ p.up = true ∧ p.forwardPackets = true then
        match p.type with
        | .virtual => [.txPktVlink v k i frame port]
        | _ => []
      else []
  | .txPktVlink v k i frame vlink =>
      match (net.ports vlink).platformPortState with
      | none => []
      | some pair =>
          match (net.ports pair).attachedSw with
          | none => []
          | some sw =>
              [.ofProcessPacketPipeline
                ⟨sw, (net.ports pair).ofPortNum, frame, v.path ++ [(k, i)]⟩]

/-! ## From switch to switch -/

/-- The virtual link is up and forwards, and its other end is the port `pair` of the switch `sw`. -/
structure Crosses (vlink pair : P) (sw : S) : Prop where
  type_eq : (net.ports vlink).type = .virtual
  up : (net.ports vlink).up = true
  forwardPackets : (net.ports vlink).forwardPackets = true
  pair_eq : (net.ports vlink).platformPortState = some pair
  attachedSw : (net.ports pair).attachedSw = some sw

/-- The pipeline sends the packet over a virtual link, and to another visit of a switch. -/
def LeadsTo (v w : Visit S F) : Prop :=
  ∃ k frame outputPort i vlink pair,
    (net.pipeline v.sw v.portIn v.frame)[k]? = some (frame, outputPort) ∧
      (i, vlink) ∈ net.sentTo v k outputPort ∧ net.Crosses vlink pair w.sw ∧
        w = ⟨w.sw, (net.ports pair).ofPortNum, frame, v.path ++ [(k, i)]⟩

variable {net} {v w : Visit S F}

lemma crosses_of_txPktVlink {k i : ℕ} {frame : F} {vlink : P} {c c' : Call P S F}
    (hc : c ∈ net.calls (.outputSinglePacket v k i frame vlink)) (hc' : c' ∈ net.calls c) :
    ∃ pair sw, net.Crosses vlink pair sw ∧ c' =
      .ofProcessPacketPipeline ⟨sw, (net.ports pair).ofPortNum, frame, v.path ++ [(k, i)]⟩ := by
  simp only [calls] at hc
  split at hc
  · rename_i hport
    obtain ⟨-, hup, hforward⟩ := hport
    split at hc
    · rename_i htype
      obtain rfl := List.mem_singleton.mp hc
      simp only [calls] at hc'
      split at hc'
      · exact absurd hc' List.not_mem_nil
      · rename_i pair hpair
        split at hc'
        · exact absurd hc' List.not_mem_nil
        · rename_i sw hsw
          exact ⟨pair, sw, ⟨htype, hup, hforward, hpair, hsw⟩, List.mem_singleton.mp hc'⟩
    · exact absurd hc List.not_mem_nil
  · exact absurd hc List.not_mem_nil

lemma txPktVlink_of_crosses {vlink pair : P} {sw : S} (h : net.Crosses vlink pair sw) (k i : ℕ)
    (frame : F) :
    Relation.TransGen (MadeBy net.calls)
      (.ofProcessPacketPipeline ⟨sw, (net.ports pair).ofPortNum, frame, v.path ++ [(k, i)]⟩)
      (.outputSinglePacket v k i frame vlink) := by
  have hvlink : MadeBy net.calls (.txPktVlink v k i frame vlink)
      (.outputSinglePacket v k i frame vlink) := by
    simp [MadeBy, calls, h.pair_eq, h.up, h.forwardPackets, h.type_eq]
  refine .tail (.single ?_) hvlink
  simp [MadeBy, calls, h.pair_eq, h.attachedSw]

/-- Going to another switch takes four calls. -/
lemma transGen_of_leadsTo (h : net.LeadsTo v w) :
    Relation.TransGen (MadeBy net.calls) (.ofProcessPacketPipeline w)
      (.ofProcessPacketPipeline v) := by
  obtain ⟨k, frame, outputPort, i, vlink, pair, hsent, hto, hcrosses, hw⟩ := h
  have houtput : MadeBy net.calls (.platformPacketOutput v k frame outputPort)
      (.ofProcessPacketPipeline v) :=
    List.mem_mapIdx.mpr ⟨k, (List.getElem?_eq_some_iff.mp hsent).1, by
      rw [(List.getElem?_eq_some_iff.mp hsent).2]⟩
  have hsingle : MadeBy net.calls (.outputSinglePacket v k i frame vlink)
      (.platformPacketOutput v k frame outputPort) :=
    List.mem_map.mpr ⟨(i, vlink), hto, rfl⟩
  rw [hw]
  exact ((txPktVlink_of_crosses hcrosses k i frame).tail hsingle).tail houtput

/-- All calls that the pipeline leads to end, if it ends at the switches that the packet goes to. -/
lemma acc_ofProcessPacketPipeline
    (h : ∀ w, net.LeadsTo v w → Acc (MadeBy net.calls) (.ofProcessPacketPipeline w)) :
    Acc (MadeBy net.calls) (.ofProcessPacketPipeline v) := by
  refine .intro _ fun output houtput => .intro _ fun single hsingle => .intro _ fun vlink hvlink =>
    .intro _ fun process hprocess => ?_
  obtain ⟨k, hk, rfl⟩ := List.mem_mapIdx.mp houtput
  obtain ⟨⟨i, port⟩, hto, rfl⟩ := List.mem_map.mp hsingle
  obtain ⟨pair, sw, hcrosses, rfl⟩ := crosses_of_txPktVlink hvlink hprocess
  exact h _ ⟨k, _, _, i, port, pair, List.getElem?_eq_getElem hk, hto, hcrosses, rfl⟩

end Network

/-- **Processing a packet ends** exactly if no packets lead to each other without end. -/
theorem ends_iff (net : Network P S F) (v : Visit S F) :
    Ends net.calls (.ofProcessPacketPipeline v) ↔
      ¬ ∃ f : ℕ → Visit S F, f 0 = v ∧ ∀ n, net.LeadsTo (f n) (f (n + 1)) :=
  ends_iff_of_rounds (fun _ _ => Network.transGen_of_leadsTo)
    (fun _ => Network.acc_ofProcessPacketPipeline) v

/-- Two switches that are connected by a virtual link, and that send back what they get. -/
def backAndForth : Network Bool Bool Unit where
  maxLogPorts := 64
  ports b :=
    { type := .virtual
      platformPortState := some (!b)
      attachedSw := some b
      ofPortNum := 1
      up := true
      forwardPackets := true
      noFlood := false }
  logicalPorts b i := if i = 1 then some b else none
  pipeline _ _ frame := [(frame, .inPort)]
  replicates _ _ _ := true

lemma leadsTo_backAndForth (b : Bool) (path : List (ℕ × ℕ)) :
    backAndForth.LeadsTo ⟨b, 1, (), path⟩ ⟨!b, 1, (), path ++ [(0, 0)]⟩ :=
  ⟨0, (), .inPort, 0, b, !b, rfl, by simp [Network.sentTo, backAndForth],
    ⟨rfl, rfl, rfl, rfl, rfl⟩, rfl⟩

/-- A packet goes back and forth. -/
theorem not_ends_backAndForth :
    ¬ Ends backAndForth.calls (.ofProcessPacketPipeline ⟨false, 1, (), []⟩) := by
  have hchain : ∃ f : ℕ → Visit Bool Unit, f 0 = ⟨false, 1, (), []⟩ ∧
      ∀ n, backAndForth.LeadsTo (f n) (f (n + 1)) := by
    refine ⟨fun n => ⟨n.bodd, 1, (), List.replicate n (0, 0)⟩, rfl, fun n => ?_⟩
    have hnext := leadsTo_backAndForth n.bodd (List.replicate n (0, 0))
    rwa [← Nat.bodd_succ, ← List.replicate_succ'] at hnext
  intro hends
  exact (ends_iff_of_rounds (fun _ _ => Network.transGen_of_leadsTo)
    (fun _ => Network.acc_ofProcessPacketPipeline) _).mp hends hchain

end Xdpd.Dpdk.VlinkForwarding
