import Xdpd.Io.FrameWindow
import Xdpd.Io.PushHeaders

/-!
# The actions that pop headers

The functions `pop_*` look up the type without the header in the table of transitions, take a fixed
number of bytes out of the frame with `pkt_pop`, and then have the packet classified again or set
the ethertype.  What `pkt_pop` returns is not looked at.  `pop_pppoe` takes the bytes out before it
looks up the type.
-/

namespace Xdpd.Io

open Xdpd.Lib Xdpd.Classifier

namespace Datapacketx86

variable {S : Type*}

/-- `parse_ethernet` on the frame of the packet. -/
def parseEthernet (p : Datapacketx86 S) : Datapacketx86 S :=
  { p with type := classify p.getBuffer p.len }

/-- `pop_pbb`. -/
def platformPacketPopPbb (p : Datapacketx86 S) : Datapacketx86 S :=
  match popTransitions p.type .isid with
  | none => p
  | some new => { (p.pop 0 18).2 with type := new }.parseEthernet

/-- `pop_vlan`. -/
def platformPacketPopVlan (p : Datapacketx86 S) : Option (Datapacketx86 S) :=
  match popTransitions p.type .vlan with
  | none => some p
  | some new =>
      (getVlanHdr p.type).bind fun vlan =>
      let ether_type : BitVec 16 := le16 p.getBuffer (vlan + 2)
      some ({ (p.pop 14 4).2 with type := new }.mapBuffer (setEtherType 0 ether_type))

/-- The end of `pop_mpls` and `pop_gtp`. -/
def setEtherTypeAndParse (ether_type : BitVec 16) (p : Datapacketx86 S) : Datapacketx86 S :=
  (p.mapBuffer (setEtherType 0 ether_type)).parseEthernet

/-- `pop_mpls`. -/
def platformPacketPopMpls (ether_type : BitVec 16) (p : Datapacketx86 S) : Datapacketx86 S :=
  match popTransitions p.type .mpls with
  | none => p
  | some new => { (p.pop 14 4).2 with type := new }.setEtherTypeAndParse ether_type

/-- The end of `pop_pppoe`. -/
def setEtherTypeAndClassify (ether_type : BitVec 16) (p : Datapacketx86 S) : Datapacketx86 S :=
  (p.mapBuffer (setEtherType 0 ether_type)).classifyPacket p.portIn p.phyPortIn

/-- `*get_ether_type(ether_header)`, in network order. -/
def currentEtherType (p : Datapacketx86 S) : BitVec 16 :=
  be16 p.getBuffer (etherTypeOffset p.getBuffer)

/-- `pop_pppoe`. -/
def platformPacketPopPppoe (ether_type : BitVec 16) (p : Datapacketx86 S) : Datapacketx86 S :=
  if p.currentEtherType = ETH_TYPE_PPPOE_DISCOVERY then
    let p := (p.pop 14 6).2
    match popTransitions p.type .pppoe with
    | none => p
    | some new => { p with type := new }.setEtherTypeAndClassify ether_type
  else if p.currentEtherType = ETH_TYPE_PPPOE_SESSION then
    let p := (p.pop 14 8).2
    match popTransitions p.type .ppp with
    | none => p
    | some new =>
        match popTransitions new .pppoe with
        | none => { p with type := new }
        | some new => { p with type := new }.setEtherTypeAndClassify ether_type
  else p.setEtherTypeAndClassify ether_type

/-- `pop_gtp`.  The IP header is taken to have no options, and the GTP header no optional fields. -/
def platformPacketPopGtp (ether_type : BitVec 16) (p : Datapacketx86 S) : Datapacketx86 S :=
  match getGtpuHdr p.type with
  | none => p
  | some _ =>
      if p.currentEtherType = ETH_TYPE_IPV4 then
        match popTransitions p.type .gtpu4 with
        | none => p
        | some new => { (p.pop 14 (20 + 8 + 8)).2 with type := new }.setEtherTypeAndParse ether_type
      else if p.currentEtherType = ETH_TYPE_IPV6 then
        match popTransitions p.type .gtpu6 with
        | none => p
        | some new => { (p.pop 14 (40 + 8 + 8)).2 with type := new }.setEtherTypeAndParse ether_type
      else p.setEtherTypeAndParse ether_type

/-- The length of the GRE header at `hdr`, which depends on its flags. -/
def greLen (mem : ℕ → Byte) (hdr : ℕ) : ℕ :=
  4 + (if le16 mem hdr &&& GRE_CSUM_FLAG_MASK ≠ 0 then 4 else 0) +
    (if le16 mem hdr &&& GRE_KEY_FLAG_MASK ≠ 0 then 4 else 0) +
    (if le16 mem hdr &&& GRE_SEQNO_FLAG_MASK ≠ 0 then 4 else 0)

/-- `pop_gre`.  The Ethernet header is taken out as well, and the ethertype is not set. -/
def platformPacketPopGre (_ether_type : BitVec 16) (p : Datapacketx86 S) : Datapacketx86 S :=
  match getGreHdr p.type with
  | none => p
  | some gre_header =>
      if le16 p.getBuffer (gre_header + 2) ≠ GRE_PROT_TYPE_TRANSPARENT_ETHERNET_BRIDGING then p
      else if p.currentEtherType = ETH_TYPE_IPV4 then
        match popTransitions p.type .gre4 with
        | none => p
        | some new =>
            { (p.pop 0 (14 + 20 + greLen p.getBuffer gre_header)).2 with
              type := new }.parseEthernet
      else if p.currentEtherType = ETH_TYPE_IPV6 then
        match popTransitions p.type .gre6 with
        | none => p
        | some new =>
            { (p.pop 0 (14 + 40 + greLen p.getBuffer gre_header)).2 with
              type := new }.parseEthernet
      else p.parseEthernet

/-! ## Frames -/

section Frames

variable {p q : Datapacketx86 S} {offset n : ℕ}

/-- Frames of one length are the same if their bytes are. -/
lemma frame_eq_iff (hlen : q.len = p.len) :
    q.frame = p.frame ↔ ∀ i < p.len, q.getBuffer i = p.getBuffer i := by
  rw [frame, frame, hlen, List.map_inj_left]
  simp only [List.mem_range]

lemma getBuffer_transferToUserSpace (p : Datapacketx86 S) :
    ∀ i < p.len, p.transferToUserSpace.getBuffer i = p.getBuffer i :=
  (frame_eq_iff (len_transferToUserSpace p)).mp (frame_transferToUserSpace p)

lemma frame_parseEthernet (p : Datapacketx86 S) : p.parseEthernet.frame = p.frame := rfl

lemma type_transferToUserSpace (p : Datapacketx86 S) : p.transferToUserSpace.type = p.type := by
  rw [transferToUserSpace]
  split <;> rfl

/-- A pop of a range that is in the frame. -/
lemma pop_of_le (h : p.Placed) (hend : offset + n ≤ p.len) : ∃ pos,
    p.transferToUserSpace.PlacedAt pos ∧
      p.pop offset n = (.success, p.transferToUserSpace.popped pos offset n) := by
  obtain ⟨pos, hpos⟩ := h.transfer
  have hlen : p.len ≤ 9320 := h.len_le
  refine ⟨pos, hpos, ?_⟩
  rw [pop_of_transfer hpos, if_pos]
  rw [Nat.mod_eq_of_lt (by omega)]
  omega

/-- A pop of a range that is not in the frame, and does not wrap. -/
lemma pop_of_gt (h : p.Placed) (hend : p.len < offset + n) (hwrap : offset + n < 2 ^ 32) :
    p.pop offset n = (.failure, p.transferToUserSpace) := by
  obtain ⟨pos, hpos⟩ := h.transfer
  rw [pop_of_transfer hpos, if_neg]
  rw [Nat.mod_eq_of_lt hwrap]
  omega

lemma type_pop (p : Datapacketx86 S) (offset n : ℕ) : (p.pop offset n).2.type = p.type := by
  rw [← type_transferToUserSpace p, pop]
  split
  · rfl
  · split
    · rfl
    · rw [setBase]
      split <;> rfl

lemma greLen_lt (mem : ℕ → Byte) (hdr : ℕ) : greLen mem hdr ≤ 16 := by
  rw [greLen]
  split_ifs <;> decide

end Frames

end Datapacketx86

end Xdpd.Io
