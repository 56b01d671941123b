import Xdpd.Io.Datapacketx86

/-!
# Copies of frames

A packet is replicated for flooding, and a packet-out comes with a frame of its own.  In both cases
a buffer is taken from the pool, with whatever its previous packet left in it, and `init` copies the
frame into it.  Neither caller looks at the result of `init`, which refuses a frame that is longer
than `FRAME_SIZE_BYTES`.
-/

namespace Xdpd.Io.Datapacketx86

open Xdpd.Lib

variable {S : Type*}

/-- `clone_pkt_contents`. -/
def clonePktContents (src dst : Datapacketx86 S) : Datapacketx86 S :=
  let dst := (dst.init (some src.getBuffer) src.len src.lsw src.portIn false true).2
  { dst with
    outputQueue := src.outputQueue
    type := src.type
    portIn := src.portIn
    phyPortIn := src.phyPortIn
    calculateChecksumsInSw := src.calculateChecksumsInSw }

/-- `platform_packet_replicate`, for what the pool has to offer. -/
def platformPacketReplicate (pkt : Datapacketx86 S) (free : Option (Datapacketx86 S)) :
    Option (Datapacketx86 S) :=
  free.map (pkt.clonePktContents ·)

/-- The packet that `hal_driver_of1x_process_packet_out` builds from a message that carries its
frame.  The argument `true` of `init` is taken for the port. -/
def packetOutFrame (buffer : ℕ → Byte) (buffer_size : ℕ) (lsw : S) (in_port : BitVec 32)
    (free : Option (Datapacketx86 S)) : Option (Datapacketx86 S) :=
  free.map fun pkt =>
    (pkt.init (some buffer) buffer_size (some lsw) 1 true true).2.classifyPacket in_port 0

/-! ## What `init` copies -/

/-- A frame that is not too long is copied. -/
lemma frame_init (p : Datapacketx86 S) (buf : ℕ → Byte) {buflen : ℕ}
    (hlen : buflen ≤ FRAME_SIZE_BYTES) (sw : Option S) (in_port : BitVec 32) (classifies : Bool) :
    (p.init (some buf) buflen sw in_port classifies true).2.frame =
      (List.range buflen).map buf := by
  have hbytes : ∀ i ∈ List.range buflen,
      copyTo PRE_GUARD_BYTES buflen buf p.userSpaceBuffer (PRE_GUARD_BYTES + i) = buf i :=
    fun i hi => copyTo_add (List.mem_range.1 hi)
  rw [init, if_neg (Nat.not_lt_of_le hlen)]
  cases classifies with
  | false => exact List.map_congr_left hbytes
  | true => exact List.map_congr_left hbytes

/-- A frame that is too long is not. -/
lemma init_of_lt (p : Datapacketx86 S) (buf : Option (ℕ → Byte)) {buflen : ℕ}
    (hlen : FRAME_SIZE_BYTES < buflen) (sw : Option S) (in_port : BitVec 32)
    (classifies copies : Bool) :
    p.init buf buflen sw in_port classifies copies = (.failure, p) := by
  rw [init, if_pos hlen]

/-- The frame of a replica is that of the buffer after `init`. -/
lemma frame_clonePktContents (src dst : Datapacketx86 S) :
    (src.clonePktContents dst).frame =
      (dst.init (some src.getBuffer) src.len src.lsw src.portIn false true).2.frame := rfl

/-- Whatever `init` finds in a buffer, the frame is copied exactly when it is not too long. -/
lemma frame_init_iff (buf : ℕ → Byte) (buflen : ℕ) (sw : Option S) (in_port : BitVec 32)
    (classifies : Bool) :
    (∀ p : Datapacketx86 S, (p.init (some buf) buflen sw in_port classifies true).2.frame =
      (List.range buflen).map buf) ↔ buflen ≤ FRAME_SIZE_BYTES := by
  constructor
  · intro hcopied
    by_contra hlong
    -- a buffer that was never used keeps its empty frame
    have hempty := congrArg List.length (hcopied unused)
    rw [init_of_lt unused _ (Nat.lt_of_not_le hlong), length_frame, List.length_map,
      List.length_range] at hempty
    rw [← hempty] at hlong
    exact hlong (Nat.zero_le _)
  · intro hlen p
    exact frame_init p buf hlen sw in_port classifies

/-- **Copies without stale bytes.**  A replica of a packet has exactly the bytes of the packet, and
a packet-out those of its message, whatever buffer of the pool is taken, exactly when neither is
longer than `FRAME_SIZE_BYTES`. -/
theorem noStaleBytes_iff (src : Datapacketx86 S) (buffer : ℕ → Byte) (buffer_size : ℕ) (lsw : S)
    (in_port : BitVec 32) :
    (∀ free copy, src.platformPacketReplicate free = some copy → copy.frame = src.frame) ∧
      (∀ free pkt, packetOutFrame buffer buffer_size lsw in_port free = some pkt →
        pkt.frame = (List.range buffer_size).map buffer) ↔
    src.len ≤ FRAME_SIZE_BYTES ∧ buffer_size ≤ FRAME_SIZE_BYTES := by
  refine and_congr ?_ ?_
  · rw [← frame_init_iff src.getBuffer src.len src.lsw src.portIn false]
    constructor
    · intro hreplica p
      exact hreplica (some p) (src.clonePktContents p) rfl
    · rintro hinit (_ | p) copy hcopy
      · exact absurd hcopy nofun
      · obtain rfl := Option.some.inj hcopy
        exact hinit p
  · rw [← frame_init_iff buffer buffer_size (some lsw) 1 true]
    constructor
    · intro hpacketOut p
      have hpkt := hpacketOut (some p)
        ((p.init (some buffer) buffer_size (some lsw) 1 true true).2.classifyPacket in_port 0) rfl
      exact hpkt
    · rintro hinit (_ | p) pkt hpkt
      · exact absurd hpkt nofun
      · obtain rfl := Option.some.inj hpkt
        exact hinit p

/-- A packet with the longest frame that `init` accepts. -/
def longest : Datapacketx86 S :=
  (unused.init (some fun _ => 0) FRAME_SIZE_BYTES none 1 true true).2

lemma placedAt_longest : (longest : Datapacketx86 S).PlacedAt PRE_GUARD_BYTES where
  status := rfl
  iovLen := rfl
  fits := by
    change PRE_GUARD_BYTES + FRAME_SIZE_BYTES ≤ bufferSize
    decide

/-- Packets of the longest frame can still be tagged, and are not replicated faithfully then: the
replica has the frame that was last in its buffer. -/
theorem staleBytes_tagged :
    ¬ ∀ tagged : Datapacketx86 Unit, longest.push 14 4 = (.success, tagged) →
      ∀ free copy, tagged.platformPacketReplicate free = some copy →
        copy.frame = tagged.frame := by
  intro hall
  have hpush : (longest : Datapacketx86 Unit).push 14 4 =
      (.success, longest.pushed PRE_GUARD_BYTES 14 4) := by
    rw [push_eq placedAt_longest]
    exact if_pos ⟨by decide, by decide⟩
  have hstale := hall _ hpush (some unused) _ rfl
  have hlong : FRAME_SIZE_BYTES < (longest.pushed PRE_GUARD_BYTES 14 4 : Datapacketx86 Unit).len :=
    Nat.lt_add_of_pos_right (by decide)
  have hlen := congrArg List.length hstale
  rw [frame_clonePktContents, init_of_lt unused _ hlong, length_frame, length_frame] at hlen
  exact absurd (hlen ▸ hlong) (by decide)

end Xdpd.Io.Datapacketx86
