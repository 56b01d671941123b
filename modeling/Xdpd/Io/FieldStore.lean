import Mathlib.Data.List.Pairwise
import Xdpd.Io.PacketFields

/-!
# A packet is a record of its fields

A field is in some bits of a header.  The headers of a packet type do not overlap, and neither do
the fields of a header.  So a run of actions does to the packet what it does to the record of the
fields, and actions on different fields can be put in any order.
-/

namespace Xdpd.Io

open Xdpd.Lib Xdpd.Classifier

/-! ## Headers -/

/-- The headers that have fields. -/
inductive HdrKind
  | ether | vlan | isid | mpls | pppoe | ppp | arpv4 | ipv4 | ipv6 | icmpv4 | icmpv6
  | lladrSource | lladrTarget | tcp | udp | sctp | gtpu | gre
  deriving DecidableEq, Repr

namespace HdrKind

/-- The function that looks the header up. -/
def get : HdrKind → PktType → Option ℕ
  | .ether => getEtherHdr
  | .vlan => getVlanHdr
  | .isid => getPbbIsidHdr
  | .mpls => (getMplsHdr · 0)
  | .pppoe => getPppoeHdr
  | .ppp => getPppHdr
  | .arpv4 => getArpv4Hdr
  | .ipv4 => getIpv4Hdr
  | .ipv6 => getIpv6Hdr
  | .icmpv4 => getIcmpv4Hdr
  | .icmpv6 => getIcmpv6Hdr
  | .lladrSource => getIcmpv6OptLladrSourceHdr
  | .lladrTarget => getIcmpv6OptLladrTargetHdr
  | .tcp => getTcpHdr
  | .udp => getUdpHdr
  | .sctp => getSctpHdr
  | .gtpu => getGtpuHdr
  | .gre => getGreHdr

/-- A header has at least this many bytes. -/
def extent : HdrKind → ℕ
  | .ether => 14
  | .vlan | .isid | .mpls | .icmpv4 | .icmpv6 => 4
  | .pppoe => 6
  | .ppp => 2
  | .arpv4 => 28
  | .ipv4 => 20
  | .ipv6 => 40
  | .lladrSource | .lladrTarget | .udp => 8
  | .tcp => 32
  | .sctp | .gtpu => 12
  | .gre => 16

/-- The header that is found for a protocol. -/
def ofProto : Proto → Option HdrKind
  | .ethernet | .eth8023 => some .ether
  | .vlan => some .vlan
  | .isid => some .isid
  | .mpls => some .mpls
  | .pppoe => some .pppoe
  | .ppp => some .ppp
  | .arpv4 => some .arpv4
  | .ipv4 => some .ipv4
  | .ipv6 => some .ipv6
  | .icmpv4 => some .icmpv4
  | .icmpv6 => some .icmpv6
  | .icmpv6Opts .lladrSrc => some .lladrSource
  | .icmpv6NdpOpts .rtrSol => some .lladrSource
  | .icmpv6NdpOpts .rtrAdv => some .lladrSource
  | .icmpv6NdpOpts .neighSol => some .lladrSource
  | .icmpv6Opts .lladrTgt => some .lladrTarget
  | .icmpv6NdpOpts .neighAdv => some .lladrTarget
  | .tcp => some .tcp
  | .udp => some .udp
  | .sctp => some .sctp
  | .gtpu4 | .gtpu6 => some .gtpu
  | .gre4 | .gre6 => some .gre
  | .icmpv6Ndp _ | .icmpv6Redirect | .icmpv6Opts .prefixInfo => none

lemma extent_le {proto : Proto} {h : HdrKind} (hproto : ofProto proto = some h) :
    h.extent ≤ proto.len := by
  cases proto with
  | icmpv6Ndp message => cases hproto
  | icmpv6NdpOpts message => cases message <;> cases hproto <;> decide
  | icmpv6Opts opts => cases opts <;> cases hproto <;> decide
  | _ => cases hproto <;> decide

variable {h h' : HdrKind} {t : PktType} {hdr hdr' : ℕ}

/-- A header that is found is that of one of its protocols. -/
lemma exists_proto (hget : h.get t = some hdr) :
    ∃ proto, ofProto proto = some h ∧ protocolOffset t proto = some hdr := by
  cases h with
  | ether | gtpu | gre =>
      rcases Option.or_eq_some_iff.1 hget with hget | ⟨-, hget⟩
      · exact ⟨_, rfl, hget⟩
      · exact ⟨_, rfl, hget⟩
  | lladrTarget =>
      rcases Option.or_eq_some_iff.1 hget with hget | ⟨-, hget⟩
      · exact ⟨.icmpv6Opts .lladrTgt, rfl, hget⟩
      · exact ⟨.icmpv6NdpOpts .neighAdv, rfl, hget⟩
  | lladrSource =>
      rcases Option.or_eq_some_iff.1 hget with hget | ⟨-, hget⟩
      · rcases Option.or_eq_some_iff.1 hget with hget | ⟨-, hget⟩
        · rcases Option.or_eq_some_iff.1 hget with hget | ⟨-, hget⟩
          · exact ⟨.icmpv6Opts .lladrSrc, rfl, hget⟩
          · exact ⟨.icmpv6NdpOpts .rtrSol, rfl, hget⟩
        · exact ⟨.icmpv6NdpOpts .rtrAdv, rfl, hget⟩
      · exact ⟨.icmpv6NdpOpts .neighSol, rfl, hget⟩
  | mpls => exact ⟨.mpls, rfl, hget⟩
  | _ => exact ⟨_, rfl, hget⟩

end HdrKind

/-- Two headers in a name do not overlap. -/
lemma offsetIn_disjoint {name : List (Proto × ℕ)} (hlen : ∀ entry ∈ name, entry.1.len ≤ entry.2)
    {proto proto' : Proto} (hne : proto ≠ proto') {start hdr hdr' : ℕ}
    (h : offsetIn proto start name = some hdr) (h' : offsetIn proto' start name = some hdr') :
    hdr + proto.len ≤ hdr' ∨ hdr' + proto'.len ≤ hdr := by
  induction name generalizing start with
  | nil => cases h
  | cons entry name ih =>
      obtain ⟨p, n⟩ := entry
      have hp : p.len ≤ n := hlen (p, n) List.mem_cons_self
      rw [offsetIn] at h h'
      by_cases heq : p = proto
      · have hne' : p ≠ proto' := fun heq' => hne (heq.symm.trans heq')
        rw [if_pos heq, Option.some_inj] at h
        rw [if_neg hne'] at h'
        rw [heq] at hp
        obtain ⟨-, -, hstart, -⟩ := mem_of_offsetIn h'
        exact .inl (by omega)
      · rw [if_neg heq] at h
        by_cases heq' : p = proto'
        · rw [if_pos heq', Option.some_inj] at h'
          rw [heq'] at hp
          obtain ⟨-, -, hstart, -⟩ := mem_of_offsetIn h
          exact .inr (by omega)
        · rw [if_neg heq'] at h'
          exact ih (fun entry hmem => hlen entry (List.mem_cons_of_mem _ hmem)) h h'

/-- The lengths in a name are those of the table, but for the options of IPv4. -/
lemma len_le_of_mem_name (t : PktType) : ∀ entry ∈ t.name, entry.1.len ≤ entry.2 := by
  have hentries (protos : List Proto) :
      ∀ entry ∈ protos.map Proto.entry, entry.1.len ≤ entry.2 := by
    intro entry hmem
    obtain ⟨proto, -, rfl⟩ := List.mem_map.1 hmem
    exact le_refl _
  intro entry hmem
  rcases List.mem_append.1 hmem with hmem | hmem
  · exact (t.l2.len_of_mem_name entry hmem).ge
  · cases hupper : t.upper with
    | ipv4 options payload =>
        rw [hupper, Upper.name] at hmem
        rcases List.mem_cons.1 hmem with rfl | hmem
        · exact Nat.le_add_right _ _
        · exact hentries _ entry hmem
    | ipv6 payload =>
        rw [hupper, Upper.name, ← List.map_cons] at hmem
        exact hentries _ entry hmem
    | none =>
        rw [hupper] at hmem
        cases hmem
    | mpls n =>
        rw [hupper] at hmem
        exact hentries [.mpls] entry hmem
    | pppoe =>
        rw [hupper] at hmem
        exact hentries [.pppoe] entry hmem
    | ppp =>
        rw [hupper] at hmem
        exact hentries [.pppoe, .ppp] entry hmem
    | arpv4 =>
        rw [hupper] at hmem
        exact hentries [.arpv4] entry hmem

/-- **The headers of a packet type do not overlap.** -/
theorem HdrKind.disjoint {h h' : HdrKind} {t : PktType} {hdr hdr' : ℕ} (hne : h ≠ h')
    (hget : h.get t = some hdr) (hget' : h'.get t = some hdr') :
    hdr + h.extent ≤ hdr' ∨ hdr' + h'.extent ≤ hdr := by
  obtain ⟨proto, hproto, hoff⟩ := exists_proto hget
  obtain ⟨proto', hproto', hoff'⟩ := exists_proto hget'
  have hprotos : proto ≠ proto' := by
    rintro rfl
    exact hne (Option.some.inj (hproto.symm.trans hproto'))
  have hextent := extent_le hproto
  have hextent' := extent_le hproto'
  have hdisjoint := offsetIn_disjoint (len_le_of_mem_name t) hprotos hoff hoff'
  omega

/-- A packet does not have both versions of IP. -/
lemma getIpv6Hdr_eq_none {t : PktType} {hdr : ℕ} (hget : getIpv4Hdr t = some hdr) :
    getIpv6Hdr t = none := by
  obtain ⟨l2, upper⟩ := t
  have hip := isIp_of_protocolOffset rfl hget
  cases upper with
  | ipv4 options payload => exact getIpv6Hdr_ipv4
  | ipv6 payload =>
      rw [getIpv4Hdr_ipv6] at hget
      cases hget
  | _ => cases hip

/-! ## Slots -/

/-- Some bits of a byte of a header. -/
structure Slot where
  hdr : HdrKind
  off : ℕ
  mask : Byte
  deriving DecidableEq, Repr

/-- The bits are not the same ones. -/
def Slot.Apart (s s' : Slot) : Prop :=
  s.hdr ≠ s'.hdr ∨ s.off ≠ s'.off ∨ s.mask &&& s'.mask = 0

instance (s s' : Slot) : Decidable (s.Apart s') :=
  inferInstanceAs (Decidable (_ ∨ _ ∨ _))

/-- The slots of a mask. -/
def slotsAt (h : HdrKind) (off : ℕ) (mask : List Byte) : List Slot :=
  mask.mapIdx fun i m => ⟨h, off + i, m⟩

namespace PacketField

/-- The header that has a field, and where in it.  The fields that both versions of IP have are not
at one place. -/
def home : PacketField → Option (HdrKind × ℕ)
  | .ethDst => some (.ether, 0)
  | .ethSrc => some (.ether, 6)
  | .vlanVid | .vlanPcp => some (.vlan, 0)
  | .pbbIsid => some (.isid, 1)
  | .mplsLabel => some (.mpls, 0)
  | .mplsTc | .mplsBos => some (.mpls, 2)
  | .mplsTtl => some (.mpls, 3)
  | .pppoeType => some (.pppoe, 0)
  | .pppoeCode => some (.pppoe, 1)
  | .pppoeSid => some (.pppoe, 2)
  | .pppProto => some (.ppp, 0)
  | .arpOpcode => some (.arpv4, 6)
  | .arpSha => some (.arpv4, 8)
  | .arpSpa => some (.arpv4, 14)
  | .arpTha => some (.arpv4, 18)
  | .arpTpa => some (.arpv4, 24)
  | .ipDscp | .ipEcn | .ipProto | .nwTtl => none
  | .ipv4Src => some (.ipv4, 12)
  | .ipv4Dst => some (.ipv4, 16)
  | .ipv6Src => some (.ipv6, 8)
  | .ipv6Dst => some (.ipv6, 24)
  | .ipv6Flabel => some (.ipv6, 1)
  | .icmpv4Type => some (.icmpv4, 0)
  | .icmpv4Code => some (.icmpv4, 1)
  | .icmpv6Type => some (.icmpv6, 0)
  | .icmpv6Code => some (.icmpv6, 1)
  | .ipv6NdSll => some (.lladrSource, 2)
  | .ipv6NdTll => some (.lladrTarget, 2)
  | .tcpSrc => some (.tcp, 0)
  | .tcpDst => some (.tcp, 2)
  | .udpSrc => some (.udp, 0)
  | .udpDst => some (.udp, 2)
  | .sctpSrc => some (.sctp, 0)
  | .sctpDst => some (.sctp, 2)
  | .gtpMsgType => some (.gtpu, 1)
  | .gtpTeid => some (.gtpu, 4)
  | .greVersion => some (.gre, 0)
  | .greProtType => some (.gre, 2)

/-- The slots of the fields that both versions of IP have. -/
def ipSlots : PacketField → List Slot
  | .ipDscp =>
      [⟨.ipv4, 1, OF1X_6MSBITS_MASK⟩, ⟨.ipv6, 0, OF1X_4LSBITS_MASK⟩, ⟨.ipv6, 1, OF1X_2MSBITS_MASK⟩]
  | .ipEcn => [⟨.ipv4, 1, OF1X_2LSBITS_MASK⟩, ⟨.ipv6, 1, OF1X_BITS_4AND5_MASK⟩]
  | .ipProto => [⟨.ipv4, 9, 0xff⟩, ⟨.ipv6, 6, 0xff⟩]
  | .nwTtl => [⟨.ipv4, 8, 0xff⟩, ⟨.ipv6, 7, 0xff⟩]
  | _ => []

/-- The slots of a field. -/
def slots (f : PacketField) : List Slot :=
  match f.home with
  | some (h, off) => slotsAt h off f.mask
  | none => f.ipSlots

/-- **The fields of a header do not overlap.** -/
lemma slots_apart {f g : PacketField} (hne : f ≠ g) :
    ∀ s ∈ f.slots, ∀ s' ∈ g.slots, s.Apart s' := by
  have hall : ∀ f ∈ PacketField.all, ∀ g ∈ PacketField.all, f ≠ g → ∀ s ∈ f.slots, ∀ s' ∈ g.slots,
      s.Apart s' := by
    decide +kernel
  exact hall f f.mem_all g g.mem_all hne

lemma off_lt_extent (f : PacketField) : ∀ s ∈ f.slots, s.off < s.hdr.extent := by
  have hall : ∀ f ∈ PacketField.all, ∀ s ∈ f.slots, s.off < s.hdr.extent := by
    decide +kernel
  exact hall f f.mem_all

end PacketField

/-! ## Edits -/

namespace Datapacketx86

variable {S : Type*} {p : Datapacketx86 S} {ks ks' : List (MaskedWrite ℕ 8)} {m m' : BitVec 32}

/-- Bits of the frame are written, and checksums are marked. -/
def edit (ks : List (MaskedWrite ℕ 8)) (m : BitVec 32) (p : Datapacketx86 S) : Datapacketx86 S :=
  { p.mapBuffer (MaskedWrite.runAll ks) with
    calculateChecksumsInSw := p.calculateChecksumsInSw ||| m }

@[simp] lemma type_edit : (p.edit ks m).type = p.type :=
  type_mapBuffer _ p

@[simp] lemma len_edit : (p.edit ks m).len = p.len :=
  len_mapBuffer _ p

@[simp] lemma getBuffer_edit : (p.edit ks m).getBuffer = MaskedWrite.runAll ks p.getBuffer :=
  getBuffer_mapBuffer _ p

lemma mapBuffer_id : p.mapBuffer id = p := by
  obtain ⟨lsw, outputQueue, buffer, iovLen, status, type, len, portIn, phyPortIn, sums⟩ := p
  have hself (pos : ℕ) : (fun a => if pos ≤ a then buffer (pos + (a - pos)) else buffer a) =
      buffer := by
    funext a
    by_cases ha : pos ≤ a
    · rw [if_pos ha, Nat.add_sub_cancel' ha]
    · rw [if_neg ha]
  cases status with
  | bufferedInNic buf => rfl
  | bufferIsEmpty pos | bufferedInUserSpace pos =>
      simp only [mapBuffer, getBuffer, id_eq, hself]

lemma mapBuffer_mapBuffer (write write' : (ℕ → Byte) → ℕ → Byte) (p : Datapacketx86 S) :
    (p.mapBuffer write).mapBuffer write' = p.mapBuffer (write' ∘ write) := by
  have hfst := getBuffer_mapBuffer write p
  cases hstatus : p.status with
  | bufferedInNic buf => simp only [mapBuffer, hstatus, Function.comp_apply]
  | bufferIsEmpty pos | bufferedInUserSpace pos =>
      simp only [mapBuffer, hstatus] at hfst ⊢
      rw [hfst]
      congr 1
      funext a
      by_cases ha : pos ≤ a
      · rw [if_pos ha, if_pos ha, Function.comp_apply]
      · rw [if_neg ha, if_neg ha, if_neg ha]

lemma edit_nil : p.edit [] 0#32 = p := by
  have hmap : p.mapBuffer (MaskedWrite.runAll []) = p := mapBuffer_id
  rw [edit, hmap, BitVec.or_zero]

lemma edit_edit : (p.edit ks m).edit ks' m' = p.edit (ks ++ ks') (m ||| m') := by
  have hmap (c : BitVec 32) (q : Datapacketx86 S) (write : (ℕ → Byte) → ℕ → Byte) :
      ({ q with calculateChecksumsInSw := c } : Datapacketx86 S).mapBuffer write =
        { q.mapBuffer write with calculateChecksumsInSw := c } := by
    cases hstatus : q.status <;> simp only [mapBuffer, getBuffer, hstatus]
  have hruns : MaskedWrite.runAll ks' ∘ MaskedWrite.runAll ks = MaskedWrite.runAll (ks ++ ks') := by
    ext1 mem
    rw [MaskedWrite.runAll_append, Function.comp_apply]
  rw [edit, edit, hmap, mapBuffer_mapBuffer, hruns, edit, BitVec.or_assoc]

/-- Edits of bits that are apart commute. -/
lemma edit_comm (h : ∀ k ∈ ks, ∀ k' ∈ ks', k.Apart k') :
    (p.edit ks m).edit ks' m' = (p.edit ks' m').edit ks m := by
  have hruns : MaskedWrite.runAll (ks ++ ks') = MaskedWrite.runAll (ks' ++ ks) := by
    ext1 mem
    rw [MaskedWrite.runAll_append, MaskedWrite.runAll_append, MaskedWrite.runAll_comm h]
  rw [edit_edit, edit_edit, BitVec.or_comm m', edit, edit, hruns]

/-- The bits of some marks. -/
def markBits (marks : List CalculateChecksum) : BitVec 32 :=
  marks.foldl (fun bits type => bits ||| ((1 : BitVec 32) <<< type.val)) 0#32

lemma foldl_mark (marks : List CalculateChecksum) (bits : BitVec 32) (p : Datapacketx86 S) :
    marks.foldl (fun p type => p.setRecalculateChecksum type)
        { p with calculateChecksumsInSw := bits } =
      { p with
        calculateChecksumsInSw :=
          marks.foldl (fun bits type => bits ||| ((1 : BitVec 32) <<< type.val)) bits } := by
  induction marks generalizing bits with
  | nil => rfl
  | cons mark marks ih => exact ih _

lemma foldl_or (marks : List CalculateChecksum) (bits bits' : BitVec 32) :
    marks.foldl (fun bits type => bits ||| ((1 : BitVec 32) <<< type.val)) (bits ||| bits') =
      bits ||| marks.foldl (fun bits type => bits ||| ((1 : BitVec 32) <<< type.val)) bits' := by
  induction marks generalizing bits' with
  | nil => rfl
  | cons mark marks ih => rw [List.foldl_cons, BitVec.or_assoc, ih, List.foldl_cons]

/-- A setter that writes bits of its header is an edit. -/
lemma setHdr_eq_edit {get : PktType → Option ℕ} {set : ℕ → (ℕ → Byte) → ℕ → Byte}
    {ks : ℕ → List (MaskedWrite ℕ 8)} (marks : List CalculateChecksum)
    (hset : ∀ hdr mem, set hdr mem = MaskedWrite.runAll (ks hdr) mem) (p : Datapacketx86 S) :
    setHdr get set marks p =
      p.edit ((get p.type).elim [] ks) ((get p.type).elim 0#32 fun _ => markBits marks) := by
  rw [setHdr]
  cases get p.type with
  | none => exact edit_nil.symm
  | some hdr =>
      have hwrite : set hdr = MaskedWrite.runAll (ks hdr) := funext (hset hdr)
      have hself := foldl_mark marks p.calculateChecksumsInSw
        (p.mapBuffer (MaskedWrite.runAll (ks hdr)))
      have hbits := foldl_or marks p.calculateChecksumsInSw 0#32
      rw [BitVec.or_zero] at hbits
      rw [← calculateChecksumsInSw_mapBuffer (MaskedWrite.runAll (ks hdr)) p] at hself
      show marks.foldl (fun p type => p.setRecalculateChecksum type) (p.mapBuffer (set hdr)) = _
      rw [hwrite]
      refine hself.trans ?_
      rw [calculateChecksumsInSw_mapBuffer, hbits]
      rfl

end Datapacketx86

/-! ## Setters as masked writes -/

section Pokes

variable {mask : List Byte} {vals : ℕ → Byte → Byte} {off hdr i : ℕ} {mem : ℕ → Byte}
  {k : MaskedWrite ℕ 8}

/-- The bits of a mask are written, from a place of a header on. -/
def pokes (off : ℕ) (mask : List Byte) (vals : ℕ → Byte → Byte) (hdr : ℕ) :
    List (MaskedWrite ℕ 8) :=
  mask.mapIdx fun i m => ⟨hdr + off + i, m, vals i⟩

lemma mem_pokes (hi : i < mask.length) :
    ⟨hdr + off + i, mask[i], vals i⟩ ∈ pokes off mask vals hdr :=
  List.mem_mapIdx.2 ⟨i, hi, rfl⟩

lemma exists_of_mem_pokes (hk : k ∈ pokes off mask vals hdr) :
    ∃ (i : ℕ) (hi : i < mask.length), k = ⟨hdr + off + i, mask[i], vals i⟩ := by
  obtain ⟨i, hi, rfl⟩ := List.mem_mapIdx.1 hk
  exact ⟨i, hi, rfl⟩

lemma nodup_pokes (off : ℕ) (mask : List Byte) (vals : ℕ → Byte → Byte) (hdr : ℕ) :
    ((pokes off mask vals hdr).map MaskedWrite.cell).Nodup := by
  rw [List.Nodup, List.pairwise_iff_getElem]
  intro i j hi hj hij
  simp only [pokes, List.getElem_map, List.getElem_mapIdx]
  omega

lemma runAll_pokes (hi : i < mask.length) :
    MaskedWrite.runAll (pokes off mask vals hdr) mem (hdr + off + i) =
      (vals i (mem (hdr + off + i) &&& mask[i]) &&& mask[i]) |||
        (mem (hdr + off + i) &&& ~~~ mask[i]) :=
  MaskedWrite.runAll_of_mem (nodup_pokes off mask vals hdr) (mem_pokes hi) mem

lemma runAll_pokes_of_not_mem (h : i < hdr + off ∨ hdr + off + mask.length ≤ i) :
    MaskedWrite.runAll (pokes off mask vals hdr) mem i = mem i := by
  refine MaskedWrite.runAll_of_not_mem (fun k hk => ?_) mem
  obtain ⟨j, hj, rfl⟩ := exists_of_mem_pokes hk
  show hdr + off + j ≠ i
  omega

/-- The bits that have been written are read. -/
lemma masked_runAll_pokes :
    masked mask (MaskedWrite.runAll (pokes off mask vals hdr) mem) (hdr + off) =
      mask.mapIdx fun i m => vals i (mem (hdr + off + i) &&& m) &&& m := by
  refine List.ext_getElem (by simp [masked]) fun i hi _ => ?_
  have hi' : i < mask.length := by simpa [masked] using hi
  have hapart : (pokes off mask vals hdr).Pairwise MaskedWrite.Apart :=
    (List.pairwise_map.1 (nodup_pokes off mask vals hdr)).imp fun hne => .inl hne
  have hself := MaskedWrite.runAll_and_mask hapart (mem_pokes hi') mem
  simpa only [masked, List.getElem_mapIdx] using hself

/-- The bytes of a mask, and bytes that are not written after them. -/
lemma setBits_eq_runAll {w : ℕ} {word : BitVec w} (hlen : mask.length ≤ w / 8)
    (hmask : ∀ i < w / 8, leBytes word i = mask[i]?.getD 0) (v : BitVec w) (mem : ℕ → Byte) :
    setBits (hdr + off) word v mem =
      MaskedWrite.runAll (pokes off mask (fun i _ => leBytes v i) hdr) mem := by
  funext c
  by_cases hc : hdr + off ≤ c ∧ c < hdr + off + w / 8
  · obtain ⟨i, rfl⟩ := Nat.exists_eq_add_of_le hc.1
    have hi : i < w / 8 := by omega
    rw [setBits, copyTo_add hi, hmask i hi]
    by_cases hin : i < mask.length
    · rw [runAll_pokes hin, List.getElem?_eq_getElem hin, Option.getD_some]
    · have hout : hdr + off + mask.length ≤ hdr + off + i := by omega
      rw [runAll_pokes_of_not_mem (.inr hout), List.getElem?_eq_none (by omega)]
      show (leBytes v i &&& 0#8) ||| (mem (hdr + off + i) &&& ~~~ 0#8) = mem (hdr + off + i)
      rw [BitVec.and_zero, BitVec.zero_or, BitVec.not_zero, BitVec.and_allOnes]
  · have hout : c < hdr + off ∨ hdr + off + w / 8 ≤ c := by omega
    rw [setBits_of_not_mem word v mem hout,
      runAll_pokes_of_not_mem (hout.imp id (Nat.le_trans (by omega)))]

lemma byte_write (b c : Byte) : (b &&& 0xff) ||| (c &&& ~~~ 0xff) = b := by
  show (b &&& BitVec.allOnes 8) ||| (c &&& 0#8) = b
  rw [BitVec.and_allOnes, BitVec.and_zero, BitVec.or_zero]

/-- All bits of the bytes of a word. -/
lemma setWord_eq_runAll {w : ℕ} (hmask : mask = List.replicate (w / 8) 0xff) (v : BitVec w)
    (mem : ℕ → Byte) :
    setWord (hdr + off) v mem =
      MaskedWrite.runAll (pokes off mask (fun i _ => leBytes v i) hdr) mem := by
  funext c
  have hlen : mask.length = w / 8 := by rw [hmask, List.length_replicate]
  by_cases hc : hdr + off ≤ c ∧ c < hdr + off + w / 8
  · obtain ⟨i, rfl⟩ := Nat.exists_eq_add_of_le hc.1
    have hi : i < w / 8 := by omega
    have hin : i < mask.length := by omega
    have hbyte : mask[i] = 0xff := by simp [hmask]
    rw [setWord, copyTo_add hi, runAll_pokes hin, hbyte, byte_write]
  · have hout : c < hdr + off ∨ hdr + off + w / 8 ≤ c := by omega
    rw [setWord_of_not_mem v mem hout, runAll_pokes_of_not_mem (hlen ▸ hout)]

lemma setByte_eq_update (a : ℕ) (v : Byte) (mem : ℕ → Byte) :
    setWord a v mem = Function.update mem a v := by
  funext c
  by_cases hc : c = a
  · subst hc
    rw [Function.update_self]
    exact (copyTo_add (i := 0) (by decide)).trans BitVec.extractLsb'_eq_self
  · rw [Function.update_of_ne hc]
    exact setWord_of_not_mem v mem (by omega)

/-- A byte is decremented. -/
lemma decByte_eq_runAll (mem : ℕ → Byte) :
    setWord (hdr + off) (mem (hdr + off) - 1) mem =
      MaskedWrite.runAll (pokes off [0xff] (fun _ b => b - 1) hdr) mem := by
  show setWord (hdr + off) (mem (hdr + off) - 1) mem = Function.update mem (hdr + off)
    (((mem (hdr + off) &&& 0xff) - 1 &&& 0xff) ||| (mem (hdr + off) &&& ~~~ 0xff))
  rw [setByte_eq_update, byte_write]
  exact congrArg (fun b => Function.update mem (hdr + off) (b - 1)) BitVec.and_allOnes.symm

lemma setIpv6Dscp_eq_runAll (dscp : Byte) (mem : ℕ → Byte) :
    setIpv6Dscp hdr dscp mem =
      MaskedWrite.runAll (pokes 0 [OF1X_4LSBITS_MASK, OF1X_2MSBITS_MASK]
        (fun i _ => if i = 0 then dscp >>> 4 else dscp <<< 4) hdr) mem := by
  have hfst (b : Byte) : (b &&& OF1X_4MSBITS_MASK) ||| ((dscp &&& OF1X_4MSBITS_MASK) >>> 4) =
      (dscp >>> 4 &&& OF1X_4LSBITS_MASK) ||| (b &&& ~~~ OF1X_4LSBITS_MASK) := by
    have hshift : ∀ dscp : Byte,
        (dscp &&& OF1X_4MSBITS_MASK) >>> 4 = dscp >>> 4 &&& OF1X_4LSBITS_MASK := by
      decide +kernel
    rw [hshift, BitVec.or_comm]
    rfl
  have hsnd (b : Byte) : (b &&& OF1X_6LSBITS_MASK) ||| ((dscp &&& OF1X_BITS_2AND3_MASK) <<< 4) =
      (dscp <<< 4 &&& OF1X_2MSBITS_MASK) ||| (b &&& ~~~ OF1X_2MSBITS_MASK) := by
    have hshift : ∀ dscp : Byte,
        (dscp &&& OF1X_BITS_2AND3_MASK) <<< 4 = dscp <<< 4 &&& OF1X_2MSBITS_MASK := by
      decide +kernel
    rw [hshift, BitVec.or_comm]
    rfl
  have hne : hdr + 1 ≠ hdr := by omega
  have hpokes (vals : ℕ → Byte → Byte) :
      pokes 0 [OF1X_4LSBITS_MASK, OF1X_2MSBITS_MASK] vals hdr =
        [⟨hdr, OF1X_4LSBITS_MASK, vals 0⟩, ⟨hdr + 1, OF1X_2MSBITS_MASK, vals 1⟩] := rfl
  rw [setIpv6Dscp, hfst, hsnd, setByte_eq_update, setByte_eq_update, hpokes,
    MaskedWrite.runAll_cons, MaskedWrite.runAll_cons, MaskedWrite.run, MaskedWrite.run]
  show Function.update (Function.update mem hdr _) (hdr + 1) _ =
    Function.update (Function.update mem hdr _) (hdr + 1) _
  rw [Function.update_of_ne hne]
  rfl

end Pokes

/-! ## Reading -/

namespace PacketField

variable {S : Type*} {p q : Datapacketx86 S} {f g : PacketField} {h : HdrKind} {off hdr : ℕ}

/-- The bits of a cell are some of a field, in the packets of a type. -/
def Has (f : PacketField) (t : PktType) (cell : ℕ) (mask : Byte) : Prop :=
  ∃ s ∈ f.slots, ∃ hdr, s.hdr.get t = some hdr ∧ cell = hdr + s.off ∧ mask = s.mask

/-- Some bits of a cell do not belong to a field. -/
def Spares (f : PacketField) (t : PktType) (cell : ℕ) (mask : Byte) : Prop :=
  ∀ c m, f.Has t c m → c ≠ cell ∨ m &&& mask = 0

/-- The bits of two fields are apart. -/
lemma Has.apart {t : PktType} {c c' : ℕ} {mask mask' : Byte} (hne : f ≠ g) (h : f.Has t c mask)
    (h' : g.Has t c' mask') : c ≠ c' ∨ mask &&& mask' = 0 := by
  obtain ⟨s, hs, hdr, hget, rfl, rfl⟩ := h
  obtain ⟨s', hs', hdr', hget', rfl, rfl⟩ := h'
  by_cases hhdr : s.hdr = s'.hdr
  · have heq : hdr = hdr' := by
      rw [hhdr, hget', Option.some_inj] at hget
      exact hget.symm
    subst heq
    rcases slots_apart hne s hs s' hs' with hapart | hapart | hapart
    · exact absurd hhdr hapart
    · exact .inl (by omega)
    · exact .inr hapart
  · have hdisjoint := HdrKind.disjoint hhdr hget hget'
    have hoff := off_lt_extent f s hs
    have hoff' := off_lt_extent g s' hs'
    exact .inl (by omega)

lemma has_of_home {t : PktType} (hhome : f.home = some (h, off)) (hget : h.get t = some hdr)
    {i : ℕ} (hi : i < f.mask.length) : f.Has t (hdr + off + i) f.mask[i] := by
  refine ⟨⟨h, off + i, f.mask[i]⟩, ?_, hdr, hget, Nat.add_assoc hdr off i, rfl⟩
  rw [slots, hhome]
  exact List.mem_mapIdx.2 ⟨i, hi, rfl⟩

lemma read_of_pointer (hpointer : f.pointer p = (h.get p.type).map (· + off))
    (hread : f.read p = (f.pointer p).map (masked f.mask p.getBuffer)) :
    f.read p = (h.get p.type).map fun hdr => masked f.mask p.getBuffer (hdr + off) := by
  rw [hread, hpointer, Option.map_map]
  rfl

/-- A field that is at one place is read there. -/
lemma read_of_home (hhome : f.home = some (h, off)) (p : Datapacketx86 S) :
    f.read p = (h.get p.type).map fun hdr => masked f.mask p.getBuffer (hdr + off) := by
  cases f with
  | ipDscp | ipEcn | ipProto | nwTtl => cases hhome
  | mplsBos =>
      cases hhome
      have hbit : ∀ b : Byte,
          (if decide (b &&& 0x01 ≠ 0) = true then OF1X_BIT0_MASK else 0) =
            b &&& OF1X_BIT0_MASK := by
        decide +kernel
      show (getMplsHdr p.type 0).map (fun _ => _) = (getMplsHdr p.type 0).map fun hdr => _
      cases hget : getMplsHdr p.type 0 with
      | none => rfl
      | some hdr =>
          refine congrArg some ?_
          rw [Datapacketx86.platformPacketGetMplsBos, hget]
          exact congrArg (fun b => [b]) (hbit (p.getBuffer (hdr + 2)))
  | _ =>
      cases hhome
      exact read_of_pointer rfl rfl

/-- Both versions of IP have a field, each at its own place. -/
structure IpField (S : Type*) (f : PacketField) (off4 : ℕ) (mask4 : List Byte) (off6 : ℕ)
    (mask6 : List Byte) (decode : List Byte → List Byte) : Prop where
  home : f.home = Option.none
  slots : f.ipSlots = slotsAt .ipv4 off4 mask4 ++ slotsAt .ipv6 off6 mask6
  ipv4 : ∀ (p : Datapacketx86 S) {hdr : ℕ}, getIpv4Hdr p.type = some hdr →
    f.read p = some (masked mask4 p.getBuffer (hdr + off4))
  ipv6 : ∀ (p : Datapacketx86 S) {hdr : ℕ}, getIpv4Hdr p.type = Option.none →
    getIpv6Hdr p.type = some hdr → f.read p = some (decode (masked mask6 p.getBuffer (hdr + off6)))
  none : ∀ p : Datapacketx86 S, getIpv4Hdr p.type = Option.none →
    getIpv6Hdr p.type = Option.none → f.read p = Option.none

section IpField

variable {off4 off6 : ℕ} {mask4 mask6 : List Byte} {decode : List Byte → List Byte} {t : PktType}

lemma IpField.has {i : ℕ} {mask : List Byte} (hf : f.IpField S off4 mask4 off6 mask6 decode)
    (hin : ∀ s ∈ slotsAt h off mask, s ∈ slotsAt .ipv4 off4 mask4 ++ slotsAt .ipv6 off6 mask6)
    (hget : h.get t = some hdr) (hi : i < mask.length) : f.Has t (hdr + off + i) mask[i] := by
  refine ⟨⟨h, off + i, mask[i]⟩, ?_, hdr, hget, Nat.add_assoc hdr off i, rfl⟩
  rw [PacketField.slots, hf.home, hf.slots]
  exact hin _ (List.mem_mapIdx.2 ⟨i, hi, rfl⟩)

lemma IpField.has_ipv4 {i : ℕ} (hf : f.IpField S off4 mask4 off6 mask6 decode)
    (hget : getIpv4Hdr t = some hdr) (hi : i < mask4.length) :
    f.Has t (hdr + off4 + i) mask4[i] :=
  hf.has (h := .ipv4) (fun _ hs => List.mem_append_left _ hs) hget hi

lemma IpField.has_ipv6 {i : ℕ} (hf : f.IpField S off4 mask4 off6 mask6 decode)
    (hget : getIpv6Hdr t = some hdr) (hi : i < mask6.length) :
    f.Has t (hdr + off6 + i) mask6[i] :=
  hf.has (h := .ipv6) (fun _ hs => List.mem_append_right _ hs) hget hi

end IpField

/-- The value that the two parts of DSCP in an IPv6 header have together. -/
def joinDscp (bytes : List Byte) : List Byte :=
  [((bytes.getD 0 0 <<< 4) ||| (bytes.getD 1 0 >>> 4)) &&& OF1X_6MSBITS_MASK]

/-- The value of ECN in an IPv6 header. -/
def shiftEcn (bytes : List Byte) : List Byte :=
  [(bytes.getD 0 0 >>> 4) &&& OF1X_2LSBITS_MASK]

lemma ipField_dscp (S : Type*) :
    ipDscp.IpField S 1 [OF1X_6MSBITS_MASK] 0 [OF1X_4LSBITS_MASK, OF1X_2MSBITS_MASK] joinDscp where
  home := rfl
  slots := rfl
  ipv4 p hdr hget := by
    rw [read, pointer, Datapacketx86.platformPacketGetIpDscp, hget]
    rfl
  ipv6 p hdr hnone hget := by
    rw [read, pointer, Datapacketx86.platformPacketGetIpDscp, hnone, hget]
    rfl
  none p hnone hnone' := by
    rw [read, pointer, hnone, hnone']
    rfl

lemma ipField_ecn (S : Type*) :
    ipEcn.IpField S 1 [OF1X_2LSBITS_MASK] 1 [OF1X_BITS_4AND5_MASK] shiftEcn where
  home := rfl
  slots := rfl
  ipv4 p hdr hget := by
    rw [read, pointer, Datapacketx86.platformPacketGetIpEcn, hget]
    rfl
  ipv6 p hdr hnone hget := by
    rw [read, pointer, Datapacketx86.platformPacketGetIpEcn, hnone, hget]
    rfl
  none p hnone hnone' := by
    rw [read, pointer, hnone, hnone']
    rfl

lemma ipField_proto (S : Type*) : ipProto.IpField S 9 [0xff] 6 [0xff] id where
  home := rfl
  slots := rfl
  ipv4 p hdr hget := by
    show (PacketField.pointer p .ipProto).map _ = _
    rw [pointer, Datapacketx86.platformPacketGetIpProto, hget]
    rfl
  ipv6 p hdr hnone hget := by
    show (PacketField.pointer p .ipProto).map _ = _
    rw [pointer, Datapacketx86.platformPacketGetIpProto, hnone, hget]
    rfl
  none p hnone hnone' := by
    show (PacketField.pointer p .ipProto).map _ = _
    rw [pointer, Datapacketx86.platformPacketGetIpProto, hnone, hnone']
    rfl

lemma ipField_ttl (S : Type*) : nwTtl.IpField S 8 [0xff] 7 [0xff] id where
  home := rfl
  slots := rfl
  ipv4 p hdr hget := by
    show (PacketField.pointer p .nwTtl).map _ = _
    rw [pointer, hget]
    rfl
  ipv6 p hdr hnone hget := by
    show (PacketField.pointer p .nwTtl).map _ = _
    rw [pointer, hnone, hget]
    rfl
  none p hnone hnone' := by
    show (PacketField.pointer p .nwTtl).map _ = _
    rw [pointer, hnone, hnone']
    rfl

/-- What is read of a field depends on its bits only. -/
lemma read_congr (htype : q.type = p.type)
    (hbits : ∀ cell mask, f.Has p.type cell mask →
      q.getBuffer cell &&& mask = p.getBuffer cell &&& mask) : f.read q = f.read p := by
  have hmasked (mask : List Byte) (a : ℕ)
      (h : ∀ (i : ℕ) (hi : i < mask.length), f.Has p.type (a + i) mask[i]) :
      masked mask q.getBuffer a = masked mask p.getBuffer a := by
    refine List.ext_getElem (by simp [masked]) fun i hi _ => ?_
    have hi' : i < mask.length := by simpa [masked] using hi
    simpa only [masked, List.getElem_mapIdx] using hbits (a + i) mask[i] (h i hi')
  have hip {off4 off6 : ℕ} {mask4 mask6 : List Byte} {decode : List Byte → List Byte}
      (h : f.IpField S off4 mask4 off6 mask6 decode) : f.read q = f.read p := by
    cases hget4 : getIpv4Hdr p.type with
    | some hdr =>
        rw [h.ipv4 p hget4, h.ipv4 q (htype ▸ hget4), hmasked _ _ fun i hi => h.has_ipv4 hget4 hi]
    | none =>
        cases hget6 : getIpv6Hdr p.type with
        | some hdr =>
            rw [h.ipv6 p hget4 hget6, h.ipv6 q (htype ▸ hget4) (htype ▸ hget6),
              hmasked _ _ fun i hi => h.has_ipv6 hget6 hi]
        | none => rw [h.none p hget4 hget6, h.none q (htype ▸ hget4) (htype ▸ hget6)]
  cases hhome : f.home with
  | some place =>
      obtain ⟨h, off⟩ := place
      rw [read_of_home hhome p, read_of_home hhome q, htype]
      cases hget : h.get p.type with
      | none => rfl
      | some hdr => exact congrArg some (hmasked _ _ fun i hi => has_of_home hhome hget hi)
  | none =>
      cases f with
      | ipDscp => exact hip (ipField_dscp S)
      | ipEcn => exact hip (ipField_ecn S)
      | ipProto => exact hip (ipField_proto S)
      | nwTtl => exact hip (ipField_ttl S)
      | _ => cases hhome

end PacketField

/-! ## What an action changes -/

namespace HeaderAction

open Datapacketx86 PacketField

variable {S : Type*} {a b : HeaderAction} {f g : PacketField}
  {change change' : List Byte → List Byte}

lemma exists_of_mem_elim {ks : ℕ → List (MaskedWrite ℕ 8)} {k : MaskedWrite ℕ 8}
    {found : Option ℕ} (hk : k ∈ found.elim [] ks) : ∃ hdr, found = some hdr ∧ k ∈ ks hdr := by
  cases found with
  | none => cases hk
  | some hdr => exact ⟨hdr, rfl, hk⟩

/-- An action writes in the bits of a field, and has its effect on the value of the field. -/
structure Changes (S : Type*) (a : HeaderAction) (f : PacketField)
    (change : List Byte → List Byte) : Prop where
  writes : ∃ (ks : PktType → List (MaskedWrite ℕ 8)) (m : PktType → BitVec 32),
    (∀ p : Datapacketx86 S, a.apply p = p.edit (ks p.type) (m p.type)) ∧
      ∀ t, ∀ k ∈ ks t, f.Has t k.cell k.mask
  read : ∀ p : Datapacketx86 S, f.read (a.apply p) = (f.read p).map change

/-- A setter of a field that is at one place. -/
lemma Changes.of_setHdr {h : HdrKind} {off : ℕ} {set : ℕ → (ℕ → Byte) → ℕ → Byte}
    {marks : List CalculateChecksum} (vals : ℕ → Byte → Byte) (hhome : f.home = some (h, off))
    (happly : ∀ p : Datapacketx86 S, a.apply p = setHdr h.get set marks p)
    (hset : ∀ hdr mem, set hdr mem = MaskedWrite.runAll (pokes off f.mask vals hdr) mem)
    (hchange : ∀ mem hdr, change (masked f.mask mem hdr) =
      f.mask.mapIdx fun i m => vals i (mem (hdr + i) &&& m) &&& m) : a.Changes S f change where
  writes := by
    refine ⟨fun t => (h.get t).elim [] (pokes off f.mask vals),
      fun t => (h.get t).elim 0#32 fun _ => markBits marks, fun p => ?_, fun t k hk => ?_⟩
    · rw [happly, setHdr_eq_edit marks hset]
    · obtain ⟨hdr, hget, hk⟩ := exists_of_mem_elim hk
      obtain ⟨i, hi, rfl⟩ := exists_of_mem_pokes hk
      exact has_of_home hhome hget hi
  read p := by
    rw [read_of_home hhome, read_of_home hhome, happly, setHdr_eq_edit marks hset, type_edit,
      getBuffer_edit]
    cases hget : h.get p.type with
    | none => rfl
    | some hdr => exact congrArg some (masked_runAll_pokes.trans (hchange _ _).symm)

/-- A setter of a field that both versions of IP have. -/
lemma Changes.of_setIpHdr {off4 off6 : ℕ} {mask4 mask6 : List Byte}
    {decode : List Byte → List Byte} {set4 set6 : ℕ → (ℕ → Byte) → ℕ → Byte}
    (vals4 vals6 : ℕ → Byte → Byte) (hf : f.IpField S off4 mask4 off6 mask6 decode)
    (happly : ∀ p : Datapacketx86 S, a.apply p = setIpHdr set4 set6 p)
    (hset4 : ∀ hdr mem, set4 hdr mem = MaskedWrite.runAll (pokes off4 mask4 vals4 hdr) mem)
    (hset6 : ∀ hdr mem, set6 hdr mem = MaskedWrite.runAll (pokes off6 mask6 vals6 hdr) mem)
    (hchange4 : ∀ mem hdr, change (masked mask4 mem hdr) =
      mask4.mapIdx fun i m => vals4 i (mem (hdr + i) &&& m) &&& m)
    (hchange6 : ∀ mem hdr, change (decode (masked mask6 mem hdr)) =
      decode (mask6.mapIdx fun i m => vals6 i (mem (hdr + i) &&& m) &&& m)) :
    a.Changes S f change := by
  let ks (t : PktType) := (getIpv4Hdr t).elim [] (pokes off4 mask4 vals4) ++
    (getIpv6Hdr t).elim [] (pokes off6 mask6 vals6)
  let m (t : PktType) := (getIpv4Hdr t).elim 0#32 (fun _ => markBits [.ipv4]) |||
    (getIpv6Hdr t).elim 0#32 fun _ => markBits []
  have hedit (p : Datapacketx86 S) : a.apply p = p.edit (ks p.type) (m p.type) := by
    rw [happly, setIpHdr, setHdr_eq_edit [.ipv4] hset4, setHdr_eq_edit [] hset6, type_edit,
      edit_edit]
  refine ⟨⟨ks, m, hedit, fun t k hk => ?_⟩, fun p => ?_⟩
  · rcases List.mem_append.1 hk with hk | hk
    · obtain ⟨hdr, hget, hk⟩ := exists_of_mem_elim hk
      obtain ⟨i, hi, rfl⟩ := exists_of_mem_pokes hk
      exact hf.has_ipv4 hget hi
    · obtain ⟨hdr, hget, hk⟩ := exists_of_mem_elim hk
      obtain ⟨i, hi, rfl⟩ := exists_of_mem_pokes hk
      exact hf.has_ipv6 hget hi
  · have htype : (a.apply p).type = p.type := by rw [hedit, type_edit]
    have hbuffer : (a.apply p).getBuffer = MaskedWrite.runAll
        ((getIpv4Hdr p.type).elim [] (pokes off4 mask4 vals4) ++
          (getIpv6Hdr p.type).elim [] (pokes off6 mask6 vals6)) p.getBuffer := by
      rw [hedit, getBuffer_edit]
    cases hget4 : getIpv4Hdr p.type with
    | some hdr =>
        rw [hget4, getIpv6Hdr_eq_none hget4] at hbuffer
        have hread := hf.ipv4 (a.apply p) (htype ▸ hget4)
        rw [hbuffer, Option.elim_some, Option.elim_none, List.append_nil, masked_runAll_pokes]
          at hread
        rw [hread, hf.ipv4 p hget4, Option.map_some, hchange4]
    | none =>
        rw [hget4, Option.elim_none, List.nil_append] at hbuffer
        cases hget6 : getIpv6Hdr p.type with
        | some hdr =>
            have hread := hf.ipv6 (a.apply p) (htype ▸ hget4) (htype ▸ hget6)
            rw [hbuffer, hget6, Option.elim_some, masked_runAll_pokes] at hread
            rw [hread, hf.ipv6 p hget4 hget6, Option.map_some, hchange6]
        | none =>
            rw [hf.none p hget4 hget6, hf.none (a.apply p) (htype ▸ hget4) (htype ▸ hget6)]
            rfl

/-- A setter of a field that is some bits of a word. -/
lemma Changes.of_setBits {h : HdrKind} {off w : ℕ} {word v : BitVec w}
    {marks : List CalculateChecksum} (hhome : f.home = some (h, off))
    (happly : ∀ p : Datapacketx86 S,
      a.apply p = setHdr h.get (fun hdr => setBits (hdr + off) word v) marks p)
    (hlen : f.mask.length ≤ w / 8) (hmask : ∀ i < w / 8, leBytes word i = f.mask[i]?.getD 0) :
    a.Changes S f fun _ => f.ofWord v :=
  .of_setHdr (fun i _ => leBytes v i) hhome happly
    (fun _ mem => setBits_eq_runAll hlen hmask v mem) fun _ _ => rfl

/-- A setter of a field that is a word. -/
lemma Changes.of_setWord {h : HdrKind} {off w : ℕ} {v : BitVec w}
    {marks : List CalculateChecksum} (hhome : f.home = some (h, off))
    (happly : ∀ p : Datapacketx86 S,
      a.apply p = setHdr h.get (fun hdr => setWord (hdr + off) v) marks p)
    (hmask : f.mask = List.replicate (w / 8) 0xff) : a.Changes S f fun _ => f.ofWord v :=
  .of_setHdr (fun i _ => leBytes v i) hhome happly
    (fun _ mem => setWord_eq_runAll hmask v mem) fun _ _ => rfl

lemma leBytes_byte (b : Byte) : leBytes b 0 = b :=
  BitVec.extractLsb'_eq_self

lemma singleton_byte (b : Byte) : [b] = [leBytes b 0 &&& 0xff] := by
  rw [leBytes_byte]
  exact congrArg (fun b => [b]) BitVec.and_allOnes.symm

/-- **What an action does** to its field. -/
lemma changes_of_target (S : Type*) (h : a.target = some (f, change)) : a.Changes S f change := by
  cases a with
  | setEthDst | setEthSrc | setVlanVid | setVlanPcp | setArpSha | setArpTha | setIpv6Flabel
  | setIpv6NdSll | setIpv6NdTll | setMplsLabel | setMplsTc | setPbbIsid | setPppoeType
  | setGreVersion =>
      cases h
      exact .of_setBits rfl (fun _ => rfl) (by decide) (by decide)
  | setMplsTtl | setArpOpcode | setArpSpa | setArpTpa | setIpv4Src | setIpv4Dst | setIpv6Src
  | setIpv6Dst | setIcmpv6Type | setIcmpv6Code | setTcpSrc | setTcpDst | setUdpSrc | setUdpDst
  | setSctpSrc | setSctpDst | setIcmpv4Type | setIcmpv4Code | setPppoeCode | setPppoeSid
  | setPppProto | setGtpMsgType | setGtpTeid | setGreProtType =>
      cases h
      exact .of_setWord rfl (fun _ => rfl) rfl
  | setMplsBos bos =>
      cases h
      have hchange := Changes.of_setBits (S := S) (a := .setMplsBos bos) (f := .mplsBos)
        (v := if bos then OF1X_BIT0_MASK else 0) rfl (fun _ => rfl) (by decide) (by decide)
      cases bos <;> exact hchange
  | decMplsTtl =>
      cases h
      exact .of_setHdr (fun _ b => b - 1) rfl (fun _ => rfl) (fun _ mem => decByte_eq_runAll mem)
        fun mem hdr => congrArg (fun b => [b]) BitVec.and_allOnes.symm
  | decNwTtl =>
      cases h
      exact .of_setIpHdr (fun _ b => b - 1) (fun _ b => b - 1) (ipField_ttl S) (fun _ => rfl)
        (fun _ mem => decByte_eq_runAll mem) (fun _ mem => decByte_eq_runAll mem)
        (fun _ _ => congrArg (fun b => [b]) BitVec.and_allOnes.symm)
        fun _ _ => congrArg (fun b => [b]) BitVec.and_allOnes.symm
  | setNwTtl new_ttl =>
      cases h
      exact .of_setIpHdr (fun i _ => leBytes new_ttl i) (fun i _ => leBytes new_ttl i)
        (ipField_ttl S) (fun _ => rfl) (fun _ mem => setWord_eq_runAll rfl new_ttl mem)
        (fun _ mem => setWord_eq_runAll rfl new_ttl mem) (fun _ _ => singleton_byte new_ttl)
        fun _ _ => singleton_byte new_ttl
  | setIpProto ip_proto =>
      cases h
      exact .of_setIpHdr (fun i _ => leBytes ip_proto i) (fun i _ => leBytes ip_proto i)
        (ipField_proto S) (fun _ => rfl) (fun _ mem => setWord_eq_runAll rfl ip_proto mem)
        (fun _ mem => setWord_eq_runAll rfl ip_proto mem) (fun _ _ => singleton_byte ip_proto)
        fun _ _ => singleton_byte ip_proto
  | setIpDscp ip_dscp =>
      cases h
      have hjoin : ∀ b : Byte, b &&& OF1X_6MSBITS_MASK =
          (((b >>> 4 &&& OF1X_4LSBITS_MASK) <<< 4) ||| ((b <<< 4 &&& OF1X_2MSBITS_MASK) >>> 4)) &&&
            OF1X_6MSBITS_MASK := by
        decide +kernel
      exact .of_setIpHdr (fun i _ => leBytes ip_dscp i)
        (fun i _ => if i = 0 then ip_dscp >>> 4 else ip_dscp <<< 4) (ipField_dscp S) (fun _ => rfl)
        (fun _ mem => setBits_eq_runAll (by decide) (by decide) ip_dscp mem)
        (fun _ mem => setIpv6Dscp_eq_runAll ip_dscp mem)
        (fun _ _ => congrArg (fun b => [b &&& OF1X_6MSBITS_MASK]) (leBytes_byte ip_dscp).symm)
        fun _ _ => congrArg (fun b => [b]) (hjoin ip_dscp)
  | setIpEcn ip_ecn =>
      cases h
      have hshift : ∀ b : Byte, b &&& OF1X_2LSBITS_MASK =
          ((leBytes (b <<< 4) 0 &&& OF1X_BITS_4AND5_MASK) >>> 4) &&& OF1X_2LSBITS_MASK := by
        decide +kernel
      exact .of_setIpHdr (fun i _ => leBytes ip_ecn i) (fun i _ => leBytes (ip_ecn <<< 4) i)
        (ipField_ecn S) (fun _ => rfl)
        (fun _ mem => setBits_eq_runAll (by decide) (by decide) ip_ecn mem)
        (fun _ mem => setBits_eq_runAll (by decide) (by decide) (ip_ecn <<< 4) mem)
        (fun _ _ => congrArg (fun b => [b &&& OF1X_2LSBITS_MASK]) (leBytes_byte ip_ecn).symm)
        fun _ _ => congrArg (fun b => [b]) (hshift ip_ecn)
  | _ => cases h

/-- An action without a field does nothing. -/
lemma apply_of_target (ha : a.Plain) (h : a.target = none) (p : Datapacketx86 S) :
    a.apply p = p := by
  cases a with
  | copyTtlIn | copyTtlOut | setEthType | setIpv6NdTarget | setGreKey => exact ha.elim
  | setTunnelId | setIpv6Exthdr | setCapwapWbid | setCapwapRid | setCapwapFlags | setWlanFc
  | setWlanType | setWlanSubtype | setWlanDirection | setWlanAddress1 | setWlanAddress2
  | setWlanAddress3 => rfl
  | _ => cases h

/-! ## Runs of actions -/

/-- What an action does to some bits that its field does not have. -/
lemma Changes.and_of_spares (h : a.Changes S f change) {p : Datapacketx86 S} {cell : ℕ}
    {mask : Byte} (hspares : f.Spares p.type cell mask) :
    (a.apply p).getBuffer cell &&& mask = p.getBuffer cell &&& mask := by
  obtain ⟨ks, m, hedit, hhas⟩ := h.writes
  rw [hedit, getBuffer_edit]
  exact MaskedWrite.runAll_and (fun k hk => hspares k.cell k.mask (hhas p.type k hk)) _

/-- **One action** on the packet is one on the record of its fields. -/
lemma fields_apply (ha : a.Plain) (p : Datapacketx86 S) :
    (a.apply p).fields = a.update p.fields := by
  cases htarget : a.target with
  | none => rw [apply_of_target ha htarget, update, htarget]
  | some target =>
      obtain ⟨f, change⟩ := target
      have hchanges := changes_of_target S htarget
      have hupdate : a.update p.fields =
          Function.update p.fields f ((p.fields f).map change) := by rw [update, htarget]
      rw [hupdate]
      funext g
      by_cases hg : g = f
      · subst hg
        rw [Function.update_self]
        exact hchanges.read p
      · rw [Function.update_of_ne hg]
        refine PacketField.read_congr (apply_type_len a p).1 fun cell mask hhas => ?_
        exact hchanges.and_of_spares fun c m hf => hf.apart (Ne.symm hg) hhas

/-- **The record of the fields is what a run of actions works on**: it does to the packet what it
does to the record, and to no bits that do not belong to one of the fields. -/
theorem fields_foldl_apply (acts : List HeaderAction) (hplain : ∀ a ∈ acts, a.Plain)
    (p : Datapacketx86 S) :
    let q := acts.foldl (fun q a => a.apply q) p
    q.fields = acts.foldl (fun record a => a.update record) p.fields ∧
      q.type = p.type ∧ q.len = p.len ∧
      ∀ cell mask, (∀ a ∈ acts, ∀ f, a.field = some f → f.Spares p.type cell mask) →
        q.getBuffer cell &&& mask = p.getBuffer cell &&& mask := by
  induction acts generalizing p with
  | nil => exact ⟨rfl, rfl, rfl, fun _ _ _ => rfl⟩
  | cons a acts ih =>
      obtain ⟨ha, hacts⟩ := List.forall_mem_cons.1 hplain
      obtain ⟨hfields, htype, hlen, hspares⟩ := ih hacts (a.apply p)
      obtain ⟨htype', hlen'⟩ := apply_type_len a p
      refine ⟨?_, htype.trans htype', hlen.trans hlen', fun cell mask h => ?_⟩
      · rw [List.foldl_cons, List.foldl_cons, hfields, fields_apply ha]
      · obtain ⟨hfst, hrest⟩ := List.forall_mem_cons.1 h
        rw [htype'] at hspares
        rw [List.foldl_cons, hspares cell mask hrest]
        cases htarget : a.target with
        | none => rw [apply_of_target ha htarget]
        | some target =>
            obtain ⟨f, change⟩ := target
            exact (changes_of_target S htarget).and_of_spares (hfst f (by rw [field, htarget]; rfl))

/-- A datagram with a tag. -/
def taggedPacket : Datapacketx86 Unit :=
  { unused with
    status := .bufferedInNic fun _ => 0x45
    type := ⟨.plain false 1, .ipv4 0 .udp⟩ }

/-- Its time to live is decremented, and its tag and its DSCP are set. -/
theorem fields_foldl_apply_tagged :
    let q := [decNwTtl, setVlanVid 0x0702, setIpDscp 0x28].foldl (fun q a => a.apply q)
      taggedPacket
    [q.fields .nwTtl, q.fields .vlanVid, q.fields .ipDscp, q.fields .ipEcn, q.fields .mplsLabel] =
      [some [0x44], some [0x02, 0x07], some [0x28], some [0x01], none] := by
  intro q
  have hplain : ∀ a ∈ [decNwTtl, setVlanVid 0x0702, setIpDscp 0x28], a.Plain := by
    simp [Plain]
  rw [(fields_foldl_apply _ hplain taggedPacket).1]
  decide

/-- Actions on different fields commute. -/
lemma apply_comm (ha : a.Plain) (hb : b.Plain) (hne : a.field = none ∨ a.field ≠ b.field)
    (p : Datapacketx86 S) : b.apply (a.apply p) = a.apply (b.apply p) := by
  cases htarget : a.target with
  | none => rw [apply_of_target ha htarget, apply_of_target ha htarget]
  | some target =>
      cases htarget' : b.target with
      | none => rw [apply_of_target hb htarget', apply_of_target hb htarget']
      | some target' =>
          obtain ⟨f, change⟩ := target
          obtain ⟨g, change'⟩ := target'
          rw [field, field, htarget, htarget'] at hne
          have hfg : f ≠ g := by
            rintro rfl
            rcases hne with hne | hne
            · cases hne
            · exact hne rfl
          obtain ⟨ks, m, hedit, hhas⟩ := (changes_of_target S htarget).writes
          obtain ⟨ks', m', hedit', hhas'⟩ := (changes_of_target S htarget').writes
          rw [hedit' (a.apply p), hedit p, hedit (b.apply p), hedit' p, type_edit, type_edit]
          exact edit_comm fun k hk k' hk' => (hhas p.type k hk).apart hfg (hhas' p.type k' hk')

/-- **The order of actions on different fields does not matter.** -/
theorem foldl_apply_perm {acts acts' : List HeaderAction} (hperm : acts.Perm acts')
    (hplain : ∀ a ∈ acts, a.Plain)
    (hfields : acts.Pairwise fun a b => a.field = none ∨ a.field ≠ b.field)
    (p : Datapacketx86 S) :
    acts.foldl (fun q a => a.apply q) p = acts'.foldl (fun q a => a.apply q) p := by
  let Commute (a b : HeaderAction) : Prop :=
    ∀ q : Datapacketx86 S, b.apply (a.apply q) = a.apply (b.apply q)
  have hpairwise : acts.Pairwise Commute :=
    hfields.imp_of_mem fun ha hb hne q => apply_comm (hplain _ ha) (hplain _ hb) hne q
  have hcommute : ∀ a ∈ acts, ∀ b ∈ acts, Commute a b :=
    fun a ha b hb => hpairwise.forall_of_forall_of_flip (fun _ _ _ => rfl)
      (hpairwise.imp fun h q => (h q).symm) ha hb
  exact hperm.foldl_eq' (fun a ha b hb q => hcommute a ha b hb q) p

/-- The tag is set before the time to live is decremented, or after it. -/
theorem foldl_apply_perm_tagged :
    [decNwTtl, setVlanVid 0x0702].foldl (fun q a => a.apply q) taggedPacket =
      [setVlanVid 0x0702, decNwTtl].foldl (fun q a => a.apply q) taggedPacket :=
  foldl_apply_perm (.swap _ _ _) (by simp [Plain]) (by decide) taggedPacket

end HeaderAction

end Xdpd.Io
