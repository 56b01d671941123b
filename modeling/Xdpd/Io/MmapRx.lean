import Mathlib.Algebra.Group.Nat.Defs
import Xdpd.Io.Datapacketx86

/-!
# Reception from the RX ring

The kernel puts a frame into a slot of the ring: a header, with the length of the frame
(`tp_len`), how much of it is in the slot (`tp_snaplen`) and where in the slot it starts (`tp_mac`).
`ioport_mmap::read` copies it into a packet buffer.  A tag that the kernel has taken out of the
frame is put back in, which divides the copy.

The slot is checked for `tp_snaplen`, and `tp_len` is what is copied.  A read copies nothing but
bytes of the slot, and into the packet buffer only, exactly if the frame that it delivers fits
(`copiesSafely_iff`).
-/

namespace Xdpd.Io

open Xdpd.Lib

/-! ## The ring -/

/-- `IO_IFACE_MMAP_FRAME_SIZE`, the size of a slot of the ring: `tp_frame_size`. -/
def IO_IFACE_MMAP_FRAME_SIZE : ℕ := 2048

/-- `TP_STATUS_KERNEL`. -/
def TP_STATUS_KERNEL : BitVec 32 := 0

/-- `TP_STATUS_COPY`. -/
def TP_STATUS_COPY : BitVec 32 := 2

/-- `TP_STATUS_CSUMNOTREADY`. -/
def TP_STATUS_CSUMNOTREADY : BitVec 32 := 8

/-- `TP_STATUS_VLAN_VALID`. -/
def TP_STATUS_VLAN_VALID : BitVec 32 := 16

/-- `PACKET_OUTGOING`. -/
def PACKET_OUTGOING : Byte := 4

/-- `sizeof(struct fetherframe::eth_hdr_t)`. -/
def sizeofEthHdr : ℕ := 14

/-- `sizeof(struct fvlanframe::vlan_hdr_t)`. -/
def sizeofVlanHdr : ℕ := 4

/-- A slot of the ring: the fields of its `tpacket2_hdr` that are read, `sll_pkttype` of the address
that follows it, and the bytes from the header on.  Beyond the size of a slot they are other memory.
-/
structure RxSlot where
  tpStatus : BitVec 32
  tpLen : BitVec 32
  tpSnaplen : BitVec 32
  tpMac : BitVec 16
  tpVlanTci : BitVec 16
  tpVlanTpid : BitVec 16
  sllPkttype : Byte
  bytes : ℕ → Byte

/-- The bytes from `(uint8_t*)hdr + hdr->tp_mac` on. -/
def RxSlot.frame (hdr : RxSlot) : ℕ → Byte :=
  fun i => hdr.bytes (hdr.tpMac.toNat + i)

/-- The build options of the reading path. -/
structure RxBuild where
  /-- the headers of the kernel define `TP_STATUS_VLAN_VALID` -/
  tpStatusVlanValid : Bool
  /-- `KERNEL_STAG_SUPPORT` -/
  kernelStagSupport : Bool

/-- What the reading path uses of an `ioport_mmap`.  `rx` says whether there is a ring. -/
structure RxPort (S : Type*) where
  up : Bool
  dropReceived : Bool
  rx : Bool
  mac : List Byte
  attachedSw : Option S
  ofPortNum : BitVec 32
  rxPackets : BitVec 64
  rxBytes : BitVec 64
  rxDropped : BitVec 64

/-! ## Copies -/

/-- What the reading path does with memory, in order.  A place in the packet buffer is a position in
`user_space_buffer`; `none` is a place elsewhere. -/
inductive RxAccess
  /-- `n` bytes from the position `src` of the slot on are copied -/
  | copy (src : ℕ) (dst : Option ℕ) (n : ℕ)
  /-- `n` bytes that do not come from the slot are written -/
  | store (dst : Option ℕ) (n : ℕ)
  /-- the length `a - b` is computed -/
  | sub (a b : ℕ)

/-- Every byte of a copy comes from the slot, every byte that is written goes into the packet
buffer, and no length wraps. -/
def RxAccess.Safe : RxAccess → Prop
  | .copy src dst n => ∀ i < n,
      src + i < IO_IFACE_MMAP_FRAME_SIZE ∧ ∃ d, dst = some d ∧ d + i < Datapacketx86.bufferSize
  | .store dst n => ∀ i < n, ∃ d, dst = some d ∧ d + i < Datapacketx86.bufferSize
  | .sub a b => b ≤ a

variable {S : Type*}

/-- Where `get_buffer()` points to in `user_space_buffer`. -/
def Datapacketx86.bufferPos (p : Datapacketx86 S) : Option ℕ :=
  match p.status with
  | .bufferedInNic _ => none
  | .bufferIsEmpty pos | .bufferedInUserSpace pos => some pos

/-- The bytes are written from the position `pos` of a memory on. -/
def writeBytes (pos : ℕ) (bytes : List Byte) : (ℕ → Byte) → ℕ → Byte :=
  copyTo pos bytes.length fun i => bytes.getD i 0

/-! ## The reading path -/

/-- `init(hdr + tp_mac, tp_len, ..)`, whose result is not looked at. -/
def initPkt (port : RxPort S) (hdr : RxSlot) (pkt : Datapacketx86 S) :
    List RxAccess × Datapacketx86 S :=
  let r := pkt.init (some hdr.frame) hdr.tpLen.toNat port.attachedSw port.ofPortNum true true
  match r.1 with
  | .success => ([.copy hdr.tpMac.toNat r.2.bufferPos hdr.tpLen.toNat], r.2)
  | .failure => ([], r.2)

/-- `fill_vlan_pkt`.  The result of `init` is not looked at.  The length of the payload is a
`size_t`. -/
def fillVlanPkt (build : RxBuild) (port : RxPort S) (hdr : RxSlot) (pkt : Datapacketx86 S) :
    List RxAccess × Datapacketx86 S :=
  let mac := hdr.tpMac.toNat
  let pkt :=
    (pkt.init none (hdr.tpLen.toNat + sizeofVlanHdr) port.attachedSw port.ofPortNum false true).2
  let dst (offset : ℕ) := pkt.bufferPos.map (· + offset)
  let payload := (hdr.tpLen.setWidth 64 - BitVec.ofNat 64 sizeofEthHdr).toNat
  -- both branches write the type of an 802.1Q tag
  let dlType : List Byte :=
    if build.kernelStagSupport then
      [(hdr.tpVlanTpid >>> 8).setWidth 8, hdr.tpVlanTpid.setWidth 8]
    else [0x81, 0x00]
  let vlan : List Byte :=
    [(hdr.tpVlanTci >>> 8).setWidth 8, hdr.tpVlanTci.setWidth 8, hdr.frame 12, hdr.frame 13]
  let pkt := pkt.mapBuffer (copyTo 0 sizeofEthHdr hdr.frame)
  let pkt := pkt.mapBuffer (writeBytes 12 dlType)
  let pkt := pkt.mapBuffer (writeBytes sizeofEthHdr vlan)
  let pkt := pkt.mapBuffer
    (copyTo (sizeofEthHdr + sizeofVlanHdr) payload fun i => hdr.frame (sizeofEthHdr + i))
  ([.copy mac (dst 0) sizeofEthHdr, .store (dst 12) 2, .store (dst sizeofEthHdr) 2,
    .copy (mac + 12) (dst (sizeofEthHdr + 2)) 2, .sub hdr.tpLen.toNat sizeofEthHdr,
    .copy (mac + sizeofEthHdr) (dst (sizeofEthHdr + sizeofVlanHdr)) payload],
    pkt.classifyPacket port.ofPortNum 0)

/-- There is a tag to be put back in. -/
def RxSlot.hasVlan (build : RxBuild) (hdr : RxSlot) : Bool :=
  if build.tpStatusVlanValid then hdr.tpStatus &&& TP_STATUS_VLAN_VALID != 0
  else hdr.tpVlanTci != 0

/-- The sanity check: the sum is an `unsigned int`. -/
def RxSlot.Sane (hdr : RxSlot) : Prop :=
  (hdr.tpMac.setWidth 32 + hdr.tpSnaplen).toNat ≤ IO_IFACE_MMAP_FRAME_SIZE

instance (hdr : RxSlot) : Decidable hdr.Sane := inferInstanceAs (Decidable (_ ≤ _))

/-- The source address of the frame is that of the port. -/
def RxSlot.FromOwnMac (port : RxPort S) (hdr : RxSlot) : Prop :=
  (List.range 6).map (fun i => hdr.frame (6 + i)) = port.mac

instance (port : RxPort S) (hdr : RxSlot) : Decidable (hdr.FromOwnMac port) :=
  inferInstanceAs (Decidable (_ = _))

/-- How the search for a frame ends. -/
inductive NextFrame
  /-- there is none -/
  | empty (rest : List RxSlot)
  /-- a slot did not pass the sanity check -/
  | insane (rest : List RxSlot)
  | frame (hdr : RxSlot) (rest : List RxSlot)

/-- The part of `read` up to `get_buffer`, with `read_packet`, on the slots of the ring from `rpos`
on.  A frame that is not wanted is returned to the kernel, and the next one is looked at. -/
def nextFrame (port : RxPort S) : List RxSlot → NextFrame
  | [] => .empty []
  | hdr :: slots =>
      if hdr.tpStatus = TP_STATUS_KERNEL then .empty (hdr :: slots)
      else if hdr.tpStatus &&& (TP_STATUS_COPY ||| TP_STATUS_CSUMNOTREADY) ≠ 0 then
        nextFrame port slots
      else if ¬hdr.Sane then .insane slots
      else if hdr.sllPkttype = PACKET_OUTGOING then nextFrame port slots
      else if hdr.FromOwnMac port then nextFrame port slots
      else .frame hdr slots

/-- What a `read` leaves: the packet that it returns, what was done with memory, the port and the
slots that have not been looked at. -/
structure RxResult (S : Type*) where
  pkt : Option (Datapacketx86 S)
  accesses : List RxAccess
  port : RxPort S
  slots : List RxSlot

/-- `ioport_mmap::read`.  `free` is what `bufferpool::get_buffer` returns, with what the packet held
when it was last used. -/
def mmapRead (build : RxBuild) (port : RxPort S) (slots : List RxSlot)
    (free : Option (Datapacketx86 S)) : RxResult S :=
  if port.up = false ∨ port.dropReceived = true ∨ port.rx = false then ⟨none, [], port, slots⟩
  else
    match nextFrame port slots with
    | .empty rest => ⟨none, [], port, rest⟩
    | .insane rest => ⟨none, [], { port with rxDropped := port.rxDropped + 1 }, rest⟩
    | .frame hdr rest =>
        match free with
        | none => ⟨none, [], { port with rxDropped := port.rxDropped + 1 }, rest⟩
        | some pkt =>
            let r := if hdr.hasVlan build then fillVlanPkt build port hdr pkt
              else initPkt port hdr pkt
            let pkt := r.2.classifyPacket port.ofPortNum 0
            let port' : RxPort S :=
              { port with
                rxPackets := port.rxPackets + 1
                rxBytes := port.rxBytes + BitVec.ofNat 64 pkt.len }
            ⟨some pkt, r.1, port', rest⟩

/-! ## The frames that fit -/

/-- The frame is copied out of its slot and into the packet buffer without a byte too many.  Without
a tag, a frame that is too long for a packet is not copied at all. -/
def RxSlot.Fits (build : RxBuild) (hdr : RxSlot) : Prop :=
  if hdr.hasVlan build then
    sizeofEthHdr ≤ hdr.tpLen.toNat ∧
      hdr.tpMac.toNat + hdr.tpLen.toNat ≤ IO_IFACE_MMAP_FRAME_SIZE
  else
    hdr.tpLen.toNat = 0 ∨ FRAME_SIZE_BYTES < hdr.tpLen.toNat ∨
      hdr.tpMac.toNat + hdr.tpLen.toNat ≤ IO_IFACE_MMAP_FRAME_SIZE

/-- A block of cells ends where its last cell does. -/
lemma forall_add_lt_iff {a n b : ℕ} : (∀ i < n, a + i < b) ↔ n = 0 ∨ a + n ≤ b := by
  constructor
  · intro h
    cases n with
    | zero => exact .inl rfl
    | succ n => exact .inr (h n (Nat.lt_succ_self n))
  · rintro (rfl | h) i hi
    · exact absurd hi (Nat.not_lt_zero i)
    · omega

/-- A copy into the packet buffer. -/
lemma RxAccess.safe_copy_iff {src d n : ℕ} :
    (RxAccess.copy src (some d) n).Safe ↔
      n = 0 ∨ src + n ≤ IO_IFACE_MMAP_FRAME_SIZE ∧ d + n ≤ Datapacketx86.bufferSize := by
  have hbuffer : (RxAccess.copy src (some d) n).Safe ↔
      (∀ i < n, src + i < IO_IFACE_MMAP_FRAME_SIZE) ∧
        ∀ i < n, d + i < Datapacketx86.bufferSize := by
    simp only [RxAccess.Safe, Option.some.injEq, exists_eq_left', forall_and]
  rw [hbuffer, forall_add_lt_iff, forall_add_lt_iff]
  tauto

lemma RxAccess.safe_store_iff {d n : ℕ} :
    (RxAccess.store (some d) n).Safe ↔ n = 0 ∨ d + n ≤ Datapacketx86.bufferSize := by
  simp only [RxAccess.Safe, Option.some.injEq, exists_eq_left', forall_add_lt_iff]

lemma RxAccess.safe_sub_iff {a b : ℕ} : (RxAccess.sub a b).Safe ↔ b ≤ a := Iff.rfl

/-- The source of a copy is inside of the slot. -/
lemma RxAccess.le_of_safe_copy {src n : ℕ} {dst : Option ℕ} (h : (RxAccess.copy src dst n).Safe)
    (hn : n ≠ 0) : src + n ≤ IO_IFACE_MMAP_FRAME_SIZE := by
  have hbytes : ∀ i < n, src + i < IO_IFACE_MMAP_FRAME_SIZE := fun i hi => (h i hi).1
  exact (forall_add_lt_iff.mp hbytes).resolve_left hn

/-- A frame that is not too long is placed at the start of the packet buffer. -/
lemma init_eq_success (pkt : Datapacketx86 S) (buf : Option (ℕ → Byte)) {buflen : ℕ}
    (hlen : buflen ≤ FRAME_SIZE_BYTES) (sw : Option S) (in_port : BitVec 32) (classifies : Bool) :
    (pkt.init buf buflen sw in_port classifies true).1 = .success ∧
      (pkt.init buf buflen sw in_port classifies true).2.bufferPos =
        some Datapacketx86.PRE_GUARD_BYTES := by
  rw [Datapacketx86.init, if_neg (Nat.not_lt_of_le hlen)]
  cases buf <;> cases classifies <;> exact ⟨rfl, rfl⟩

lemma initPkt_safe_iff (port : RxPort S) (hdr : RxSlot) (pkt : Datapacketx86 S) :
    (∀ a ∈ (initPkt port hdr pkt).1, a.Safe) ↔
      hdr.tpLen.toNat = 0 ∨ FRAME_SIZE_BYTES < hdr.tpLen.toNat ∨
        hdr.tpMac.toNat + hdr.tpLen.toNat ≤ IO_IFACE_MMAP_FRAME_SIZE := by
  by_cases hlen : FRAME_SIZE_BYTES < hdr.tpLen.toNat
  · have hfail : pkt.init (some hdr.frame) hdr.tpLen.toNat port.attachedSw port.ofPortNum true
        true = (.failure, pkt) := by
      rw [Datapacketx86.init, if_pos hlen]
    simp [initPkt, hfail, hlen]
  · obtain ⟨hsuccess, hpos⟩ := init_eq_success pkt (some hdr.frame) (Nat.le_of_not_lt hlen)
      port.attachedSw port.ofPortNum true
    have hbuffer : Datapacketx86.PRE_GUARD_BYTES + hdr.tpLen.toNat ≤ Datapacketx86.bufferSize := by
      simp only [Datapacketx86.PRE_GUARD_BYTES, Datapacketx86.bufferSize,
        Datapacketx86.POST_GUARD_BYTES]
      omega
    simp only [initPkt, hsuccess, List.mem_singleton, forall_eq, hpos, RxAccess.safe_copy_iff,
      hbuffer, hlen, and_true, false_or]

lemma toNat_payload {hdr : RxSlot} (h : sizeofEthHdr ≤ hdr.tpLen.toNat) :
    (hdr.tpLen.setWidth 64 - BitVec.ofNat 64 sizeofEthHdr).toNat =
      hdr.tpLen.toNat - sizeofEthHdr := by
  have hlt := hdr.tpLen.isLt
  simp only [sizeofEthHdr] at *
  rw [BitVec.toNat_sub, BitVec.toNat_setWidth, BitVec.toNat_ofNat]
  omega

lemma fillVlanPkt_safe_iff (build : RxBuild) (port : RxPort S) (hdr : RxSlot)
    (pkt : Datapacketx86 S) :
    (∀ a ∈ (fillVlanPkt build port hdr pkt).1, a.Safe) ↔
      sizeofEthHdr ≤ hdr.tpLen.toNat ∧
        hdr.tpMac.toNat + hdr.tpLen.toNat ≤ IO_IFACE_MMAP_FRAME_SIZE := by
  simp only [fillVlanPkt, List.forall_mem_cons, List.not_mem_nil, false_imp_iff, implies_true,
    and_true]
  constructor
  · rintro ⟨hmac, -, -, -, hsub, hpayload⟩
    rw [toNat_payload hsub] at hpayload
    have hheader := RxAccess.le_of_safe_copy hmac (by decide)
    refine ⟨hsub, ?_⟩
    by_cases hlen : hdr.tpLen.toNat - sizeofEthHdr = 0
    · rw [Nat.le_antisymm (Nat.le_of_sub_eq_zero hlen) hsub]
      exact hheader
    · have hle := RxAccess.le_of_safe_copy hpayload hlen
      omega
  · rintro ⟨hsub, hle⟩
    have hlen : hdr.tpLen.toNat + sizeofVlanHdr ≤ FRAME_SIZE_BYTES := by
      simp only [IO_IFACE_MMAP_FRAME_SIZE, sizeofVlanHdr, FRAME_SIZE_BYTES] at *
      omega
    have hpos := (init_eq_success pkt none hlen port.attachedSw port.ofPortNum false).2
    rw [toNat_payload hsub, hpos]
    simp only [Option.map_some, RxAccess.safe_copy_iff, RxAccess.safe_store_iff,
      RxAccess.safe_sub_iff]
    simp only [sizeofEthHdr, sizeofVlanHdr, IO_IFACE_MMAP_FRAME_SIZE,
      Datapacketx86.PRE_GUARD_BYTES, Datapacketx86.bufferSize, Datapacketx86.POST_GUARD_BYTES,
      FRAME_SIZE_BYTES] at *
    omega

/-- What is copied for a frame, with a tag to be put back in or without. -/
lemma fill_safe_iff (build : RxBuild) (port : RxPort S) (hdr : RxSlot) (pkt : Datapacketx86 S) :
    (∀ a ∈ (if hdr.hasVlan build then fillVlanPkt build port hdr pkt
      else initPkt port hdr pkt).1, a.Safe) ↔ hdr.Fits build := by
  by_cases hvlan : hdr.hasVlan build = true
  · rw [if_pos hvlan, RxSlot.Fits, if_pos hvlan]
    exact fillVlanPkt_safe_iff build port hdr pkt
  · rw [if_neg hvlan, RxSlot.Fits, if_neg hvlan]
    exact initPkt_safe_iff port hdr pkt

/-! ## A read -/

/-- The port looks into its ring. -/
def RxPort.Reads (port : RxPort S) : Prop :=
  port.up = true ∧ port.dropReceived = false ∧ port.rx = true

/-- **Copies out of the ring.**  Whatever is in the slots, a read copies bytes of the slot only, and
into the packet buffer only, and no length wraps, exactly if the frame that it comes to fits, or
there is no buffer for it. -/
theorem copiesSafely_iff (build : RxBuild) (port : RxPort S) (slots : List RxSlot)
    (free : Option (Datapacketx86 S)) :
    (∀ a ∈ (mmapRead build port slots free).accesses, a.Safe) ↔
      (port.Reads → free.isSome = true →
        ∀ hdr rest, nextFrame port slots = .frame hdr rest → hdr.Fits build) := by
  rw [mmapRead]
  split
  case isTrue hclosed =>
    have hnot : ¬port.Reads := by
      rintro ⟨hup, hdrop, hrx⟩
      simp [hup, hdrop, hrx] at hclosed
    simp [hnot]
  case isFalse hopen =>
    have hreads : port.Reads := by
      simpa [RxPort.Reads] using hopen
    cases hnext : nextFrame port slots with
    | empty rest => simp
    | insane rest => simp
    | frame hdr rest =>
        cases free with
        | none => simp
        | some pkt =>
            have hfill := fill_safe_iff build port hdr pkt
            simpa [hreads] using hfill

/-- A jumbo frame, of which the slot holds as much as it has room for. -/
def jumboSlot : RxSlot where
  tpStatus := 1
  tpLen := 9000
  tpSnaplen := 1966
  tpMac := 82
  tpVlanTci := 0
  tpVlanTpid := 0
  sllPkttype := 0
  bytes _ := 0

/-- A port that reads. -/
def openPort : RxPort Unit where
  up := true
  dropReceived := false
  rx := true
  mac := [2, 0, 0, 0, 0, 1]
  attachedSw := some ()
  ofPortNum := 1
  rxPackets := 0
  rxBytes := 0
  rxDropped := 0

/-- The jumbo frame passes the sanity check, and its copy goes on beyond the slot. -/
theorem jumbo_overrun :
    jumboSlot.Sane ∧ nextFrame openPort [jumboSlot] = .frame jumboSlot [] ∧
    ¬∀ a ∈ (mmapRead ⟨true, false⟩ openPort [jumboSlot] (some Datapacketx86.unused)).accesses,
      a.Safe := by
  have hnext : nextFrame openPort [jumboSlot] = .frame jumboSlot [] := rfl
  refine ⟨by decide, hnext, ?_⟩
  intro hsafe
  have hfill := (fill_safe_iff ⟨true, false⟩ openPort jumboSlot Datapacketx86.unused).mp hsafe
  obtain hzero | hlong | hfits := hfill
  · exact absurd hzero (by decide)
  · exact absurd hlong (by decide)
  · exact absurd hfits (by decide)

end Xdpd.Io
