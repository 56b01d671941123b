import Xdpd.Xmp.Content

/-!
# XMP messages there and back

A message is packed into a buffer of its own length and unpacked from it.  The decoding loops stop
when no more than a header is left, so that an IE without a body is lost at the end of a message;
`pack` cuts the length to sixteen bits without looking at it; and `bakery` makes `NULL` of the types
it has no class for.  Messages that avoid these come back as they were, and no others do:
`roundTrips_iff_fits`.
-/

namespace Xdpd.Xmp

open Xdpd.Lib

/-- The fields of a message's header. -/
structure XmpHeader where
  version : Byte
  type : Byte
  len : ℕ
  xid : BitVec 32
  deriving DecidableEq

namespace Cxmpmsg

/-- The header of a message. -/
def header (msg : Cxmpmsg) : XmpHeader :=
  ⟨msg.getVersion, msg.getType, msg.getLength, msg.getXid⟩

/-- What the IEs of a message say, by their type. -/
def contents (msg : Cxmpmsg) : List (ℕ × IeContent) :=
  msg.xmpies.entries.map fun e => (e.1, e.2.content)

/-- A message as its constructors and setters leave it: it owns its header, and each IE has the
class of its type and owns its memory. -/
structure Proper (msg : Cxmpmsg) : Prop where
  header : xmpHeaderSize ≤ msg.memory.length
  ies : ∀ e ∈ msg.xmpies.entries, e.1 ≠ xmpietNone ∧ e.2.Proper ∧ e.2.HasType e.1

/-- Packing a message into any buffer of its length and unpacking it from there gives its header,
with this length, and its IEs, or `pack` refuses it. -/
def RoundTrips (msg : Cxmpmsg) : Prop :=
  ∀ buf : List Byte, msg.length = .ok buf.length →
    (∃ e : XmpError, e.IsException ∧ msg.pack buf buf.length = .error e) ∨
      ∃ bytes packed decoded, msg.pack buf buf.length = .ok (bytes, packed) ∧
        unpack bytes = .ok decoded ∧ decoded.header = { msg.header with len := buf.length } ∧
        decoded.contents = msg.contents

/-- The message fits its length field (and each IE with it), `bakery` knows all inner IEs, and the
last IE has a body. -/
structure Fits (msg : Cxmpmsg) : Prop where
  size : ∀ n, msg.length = .ok n → n < 65536
  inner : ∀ e ∈ msg.xmpies.entries, e.2.InnerKnown
  last : ∀ e, msg.xmpies.entries.getLast? = some e → e.2.length ≠ .ok ieHeaderSize

/-! ## Packing and unpacking a message -/

/-- The wire form of the IEs of a message. -/
def wireBody (msg : Cxmpmsg) : List Byte := (msg.xmpies.values.map Cxmpie.wire).flatten

variable {msg : Cxmpmsg}

lemma Proper.values (h : msg.Proper) : ∀ ie ∈ msg.xmpies.values, ie.Proper := by
  intro ie hie
  obtain ⟨e, he, rfl⟩ := List.mem_map.mp hie
  exact (h.ies e he).2.1

lemma length_xmpies (h : msg.Proper) : msg.xmpies.length = .ok msg.wireBody.length := by
  rw [Cxmpies.length, Cxmpie.lengthIes_eq (Cxmpie.properIes_map_some.mpr h.values),
    Cxmpie.wireIes_map_some]
  rfl

lemma length_eq (h : msg.Proper) : msg.length = .ok (xmpHeaderSize + msg.wireBody.length) := by
  rw [length, length_xmpies h]
  rfl

lemma length_setLength (h : msg.Proper) (n : ℕ) :
    (msg.setLength n).memory.length = msg.memory.length := by
  have height : xmpHeaderSize = 8 := rfl
  have hhead := h.header
  change (msg.memory.take 2 ++ (htobe16 n ++ msg.memory.drop 4)).length = _
  rw [List.length_append, List.length_append, List.length_take, List.length_drop]
  change _ + (2 + _) = _
  omega

lemma pack_xmpies (h : msg.Proper) {buf : List Byte} (hbuf : buf.length = msg.wireBody.length) :
    ∃ xmpies, msg.xmpies.pack buf msg.wireBody.length = .ok (msg.wireBody, xmpies) := by
  have hwire : Cxmpie.wireIes (msg.xmpies.values.map some) = msg.wireBody :=
    Cxmpie.wireIes_map_some _
  obtain ⟨ies, hies⟩ := Cxmpie.packIes_eq buf
    (Cxmpie.properIes_map_some.mpr h.values) (by rw [hwire, hbuf])
  rw [hwire, List.drop_eq_nil_of_le hbuf.le, List.append_nil] at hies
  refine ⟨msg.xmpies.setValues ies.reduceOption, ?_⟩
  rw [Cxmpies.pack, length_xmpies h]
  change (if msg.wireBody.length < msg.wireBody.length then _ else _) = _
  rw [if_neg (Nat.lt_irrefl _), hies]
  rfl

lemma length_header (h : msg.Proper) (n : ℕ) :
    ((msg.setLength n).memory.take xmpHeaderSize).length = xmpHeaderSize :=
  List.length_take_of_le (by rw [length_setLength h]; exact h.header)

/-- **Packing a message.** -/
lemma pack_eq (h : msg.Proper) {buf : List Byte}
    (hbuf : buf.length = xmpHeaderSize + msg.wireBody.length) :
    ∃ packed : Cxmpmsg, msg.pack buf buf.length =
      .ok ((msg.setLength buf.length).memory.take xmpHeaderSize ++ msg.wireBody, packed) := by
  have hhead := length_header h buf.length
  have hrest : (buf.drop xmpHeaderSize).length = msg.wireBody.length := by
    rw [List.length_drop]
    omega
  obtain ⟨xmpies, hxmpies⟩ := pack_xmpies h hrest
  refine ⟨{ msg.setLength buf.length with xmpies := xmpies }, ?_⟩
  rw [pack, length_eq h, ← hbuf]
  change (if buf.length < buf.length then _ else _) = _
  rw [if_neg (Nat.lt_irrefl _), write_eq (by rw [hhead]; omega), hhead]
  change (msg.xmpies.length >>= fun m =>
    msg.xmpies.pack ((_ ++ buf.drop xmpHeaderSize).drop xmpHeaderSize) m >>= fun p =>
      pure ((_ ++ buf.drop xmpHeaderSize).take xmpHeaderSize ++ p.1,
        ({ msg.setLength buf.length with xmpies := p.2 } : Cxmpmsg))) = _
  rw [length_xmpies h, List.drop_left' hhead, List.take_left' hhead]
  change (msg.xmpies.pack (buf.drop xmpHeaderSize) msg.wireBody.length >>= _) = _
  rw [hxmpies]
  rfl

lemma unpack_append {hd : List Byte} (h : hd.length = xmpHeaderSize) (w : List Byte) :
    unpack (hd ++ w) = (Cxmpies.unpack w).map (Cxmpmsg.mk (hd ++ w)) := by
  rw [unpack_eq (by rw [List.length_append, h]; exact Nat.le_add_right _ _), List.drop_left' h]

lemma header_congr {msg' : Cxmpmsg}
    (h : msg.memory.take xmpHeaderSize = msg'.memory.take xmpHeaderSize) :
    msg.header = msg'.header := by
  have hbyte : ∀ i < xmpHeaderSize, msg.memory.getD i 0 = msg'.memory.getD i 0 := by
    intro i hi
    rw [List.getD_eq_getElem?_getD, List.getD_eq_getElem?_getD, ← List.getElem?_take_of_lt hi, h,
      List.getElem?_take_of_lt hi]
  have hlen : msg.getLength = msg'.getLength := by
    have htwo := congrArg (fun l : List Byte => be16 ((l.drop 2).take 2)) h
    have hmin : min 2 (xmpHeaderSize - 2) = 2 := rfl
    simp only [List.drop_take, List.take_take, hmin, be16_take] at htwo
    exact htwo
  have hxid : msg.getXid = msg'.getXid := by
    refine ofLeBytes_congr fun i hi => ?_
    rw [swapBytes, swapBytes]
    exact hbyte _ (by change 4 + (4 - 1 - i) < 8; omega)
  rw [header, header, hlen, hxid, getVersion, getVersion, getType, getType, hbyte 0 (by decide),
    hbyte 1 (by decide)]

/-- `set_length` changes the length field only, and cuts the length to sixteen bits. -/
lemma header_setLength (h : msg.Proper) (n : ℕ) :
    (msg.setLength n).header = { msg.header with len := n % 65536 } := by
  have hhead := h.header
  have height : xmpHeaderSize = 8 := rfl
  have htake : (msg.memory.take 2).length = 2 := List.length_take_of_le (by omega)
  have hbefore {i : ℕ} (hi : i < 2) :
      (msg.setLength n).memory.getD i 0 = msg.memory.getD i 0 := by
    change (msg.memory.take 2 ++ _).getD i 0 = _
    rw [List.getD_eq_getElem?_getD, List.getElem?_append_left (by omega),
      List.getElem?_take_of_lt hi, List.getD_eq_getElem?_getD]
  have hlen : (msg.setLength n).getLength = n % 65536 := by
    change be16 ((msg.memory.take 2 ++ (htobe16 n ++ msg.memory.drop 4)).drop 2) = _
    rw [List.drop_left' htake, be16_htobe16]
  have hxid : (msg.setLength n).getXid = msg.getXid := by
    refine ofLeBytes_congr fun i _ => ?_
    rw [swapBytes, swapBytes]
    change (msg.memory.take 2 ++ (htobe16 n ++ msg.memory.drop 4)).getD _ 0 = _
    have htwo : (htobe16 n).length = 2 := rfl
    rw [List.getD_eq_getElem?_getD, List.getElem?_append_right (by omega),
      List.getElem?_append_right (by omega), List.getElem?_drop, List.getD_eq_getElem?_getD]
    congr 2
    omega
  rw [header, header, hlen, hxid, getVersion, getVersion, getType, getType, hbefore (by decide),
    hbefore (by decide)]

/-- A message survives exactly when it fits its length field and its IEs are found again. -/
lemma roundTrips_iff_unpack (h : msg.Proper) : msg.RoundTrips ↔
    xmpHeaderSize + msg.wireBody.length < 65536 ∧ ∃ m, Cxmpies.unpack msg.wireBody = .ok m ∧
      (m.entries.map fun e => (e.1, e.2.content)) = msg.contents := by
  have hlength := length_eq h
  -- the header that is decoded is that of the buffer
  have hheader (n : ℕ) (xmpies : Cxmpies) :
      header ⟨(msg.setLength n).memory.take xmpHeaderSize ++ msg.wireBody, xmpies⟩ =
        { msg.header with len := n % 65536 } := by
    rw [← header_setLength h]
    exact header_congr (List.take_left' (length_header h n))
  constructor
  · intro hround
    obtain ⟨buf, hbuf⟩ : ∃ buf : List Byte, buf.length = xmpHeaderSize + msg.wireBody.length :=
      ⟨List.replicate _ 0, List.length_replicate⟩
    obtain ⟨packed, hpacked⟩ := pack_eq h hbuf
    rcases hround buf (by rw [hlength, hbuf]) with
      ⟨e, -, he⟩ | ⟨_, _, decoded, hpack, hun, hhead, hcon⟩
    · rw [hpacked] at he
      exact absurd he nofun
    · rw [hpacked] at hpack
      obtain ⟨rfl, rfl⟩ := Prod.mk.inj (Except.ok.inj hpack)
      rw [unpack_append (length_header h _)] at hun
      obtain ⟨m, hm, rfl⟩ := map_eq_ok_iff.mp hun
      rw [hheader] at hhead
      have hcut : buf.length % 65536 = buf.length := congrArg XmpHeader.len hhead
      exact ⟨by omega, m, hm, hcon⟩
  · rintro ⟨hsize, m, hm, hcon⟩ buf hbuf
    have hlen : buf.length = xmpHeaderSize + msg.wireBody.length :=
      Except.ok.inj (hbuf.symm.trans hlength)
    obtain ⟨packed, hpacked⟩ := pack_eq h hlen
    have hun := unpack_append (length_header h buf.length) msg.wireBody
    rw [hm] at hun
    refine .inr ⟨_, packed, _, hpacked, hun, ?_, hcon⟩
    rw [hheader, Nat.mod_eq_of_lt (by omega)]

/-- What decoded IEs say is bounded. -/
lemma bounded_of_unpack {buf : List Byte} {m : Cxmpies} (h : Cxmpies.unpack buf = .ok m) :
    ∀ e ∈ m.entries, e.2.content.Bounded := by
  intro e he
  rw [Cxmpies.unpack_eq] at h
  rcases (SortedMap.mem_of_foldlM_enter h e).mp he with ⟨r, hlast, -, hr⟩ | ⟨hempty, -⟩
  · exact Cxmpie.bounded_of_topOf (Framing.isRecord_of_mem_records hlast.mem) hr
  · exact absurd hempty List.not_mem_nil

/-- The wire forms of IEs that come back, entered in the order of their types. -/
lemma enter_wires {es : List (ℕ × Cxmpie)} (hsorted : es.Pairwise fun e e' => e.1 < e'.1)
    (hes : ∀ e ∈ es, e.1 ≠ xmpietNone ∧ e.2.Proper ∧ e.2.HasType e.1)
    (hknown : ∀ e ∈ es, e.2.InnerKnown) :
    ∃ m : Cxmpies, (es.map fun e => e.2.wire).foldlM
        (SortedMap.enter Cxmpie.getType Cxmpie.topOf) SortedMap.empty = .ok m ∧
      (m.entries.map fun e => (e.1, e.2.content)) = es.map fun e => (e.1, e.2.content) := by
  obtain ⟨es', hes', hcontents⟩ : ∃ es' : List (ℕ × Cxmpie),
      List.Forall₂ (fun r e => Cxmpie.getType r = e.1 ∧ Cxmpie.topOf r = .ok (some e.2))
        (es.map fun e => e.2.wire) es' ∧
      (es'.map fun e => (e.1, e.2.content)) = es.map fun e => (e.1, e.2.content) := by
    clear hsorted
    induction es with
    | nil => exact ⟨[], .nil, rfl⟩
    | cons e es ih =>
        rw [List.forall_mem_cons] at hes hknown
        obtain ⟨htype, ie', hie', hcontent⟩ :=
          Cxmpie.topOf_wire hes.1.1 hes.1.2.1 hes.1.2.2 hknown.1
        obtain ⟨es', hes', hcontents⟩ := ih hes.2 hknown.2
        refine ⟨(e.1, ie') :: es', .cons ⟨htype, hie'⟩ hes', ?_⟩
        rw [List.map_cons, List.map_cons, hcontents, hcontent]
  have hsorted' : es'.Pairwise fun e e' => e.1 < e'.1 := by
    have hkeys : es'.map Prod.fst = es.map Prod.fst := by
      have hfst := congrArg (List.map Prod.fst) hcontents
      rwa [List.map_map, List.map_map] at hfst
    have hpairs := List.pairwise_map.mpr hsorted
    rw [← hkeys] at hpairs
    exact List.pairwise_map.mp hpairs
  obtain ⟨m, hm, hentries⟩ := SortedMap.foldlM_enter_of_sorted (m := SortedMap.empty) hes' hsorted'
  exact ⟨m, hm, by rw [hentries]; exact hcontents⟩

lemma wireBody_eq :
    msg.wireBody = ((msg.xmpies.entries.map Prod.snd).map Cxmpie.wire).flatten := rfl

/-- An IE is no longer than the message. -/
lemma length_wire_le {e : ℕ × Cxmpie} (he : e ∈ msg.xmpies.entries) :
    e.2.wire.length ≤ msg.wireBody.length := by
  have hmem : e.2.wire ∈ (msg.xmpies.entries.map Prod.snd).map Cxmpie.wire :=
    List.mem_map_of_mem (List.mem_map_of_mem he)
  exact (List.sublist_flatten_of_mem hmem).length_le

/-- An IE without a body at the end of a message is not found. -/
lemma ne_contents_of_last (h : msg.Proper)
    (hfits : ∀ e ∈ msg.xmpies.entries, e.2.wire.length < 65536 ∧ e.2.InnerKnown) {e : ℕ × Cxmpie}
    (hlast : msg.xmpies.entries.getLast? = some e) (hlen : e.2.wire.length = ieHeaderSize)
    {m : Cxmpies} (hm : Cxmpies.unpack msg.wireBody = .ok m) :
    (m.entries.map fun e => (e.1, e.2.content)) ≠ msg.contents := by
  obtain ⟨l, hl⟩ := List.getLast?_eq_some_iff.mp hlast
  have hies := h.ies
  have hsorted := msg.xmpies.sorted
  rw [hl, List.forall_mem_append, List.forall_mem_singleton] at hies hfits
  rw [hl] at hsorted
  have hrecords : ieFraming.records msg.wireBody = l.map fun e => e.2.wire := by
    have hfront : ∀ ie ∈ l.map Prod.snd, ie.Proper ∧ ie.wire.length < 65536 := by
      intro ie hie
      obtain ⟨e', he', rfl⟩ := List.mem_map.mp hie
      exact ⟨(hies.1 e' he').2.1, (hfits.1 e' he').1⟩
    rw [wireBody_eq, hl, List.map_append, List.map_append, List.flatten_append,
      List.map_singleton, List.map_singleton, List.flatten_singleton,
      Cxmpie.records_wires hfront hies.2.2.1,
      Framing.records_of_length_lt (hlen.le.trans_lt (Nat.lt_succ_self _)), List.append_nil,
      List.map_map]
    rfl
  obtain ⟨m', hm', hcon⟩ := enter_wires (List.pairwise_append.mp hsorted).1 hies.1 fun e' he' =>
    (hfits.1 e' he').2
  rw [Cxmpies.unpack_eq, hrecords, hm'] at hm
  obtain rfl := Except.ok.inj hm
  -- one IE fewer
  intro heq
  have hcount := congrArg List.length (hcon.symm.trans heq)
  rw [contents, hl, List.length_map, List.length_map, List.length_append] at hcount
  exact absurd hcount (by simp)

/-- A reply with an empty multipart, as `set_ie_multipart` makes it. -/
def emptyList : Cxmpmsg where
  memory := [1, 2, 0, 8, 0, 0, 0, 7]
  xmpies := ⟨[(xmpietMultipart, .multipart [0, 4, 0, 4] [])], List.pairwise_singleton _ _⟩

lemma proper_emptyList : emptyList.Proper := by
  refine ⟨by decide, ?_⟩
  rintro e he
  obtain rfl := List.mem_singleton.mp he
  exact ⟨by decide, ⟨by decide, trivial⟩, rfl, rfl⟩

/-- The empty multipart is lost. -/
theorem emptyList_lost : emptyList.Proper ∧ ¬ emptyList.RoundTrips := by
  refine ⟨proper_emptyList, ?_⟩
  rw [roundTrips_iff_unpack proper_emptyList]
  rintro ⟨-, m, hm, hcon⟩
  have hfits : ∀ e ∈ emptyList.xmpies.entries, e.2.wire.length < 65536 ∧ e.2.InnerKnown := by
    rintro e he
    obtain rfl := List.mem_singleton.mp he
    exact ⟨by change 4 < 65536; omega, nofun⟩
  exact ne_contents_of_last proper_emptyList hfits rfl rfl hm hcon

/-- **There and back.**  A message comes back exactly when it fits its length field, `bakery` knows
the inner IEs, and the last IE has a body. -/
theorem roundTrips_iff_fits (h : msg.Proper) : msg.RoundTrips ↔ msg.Fits := by
  rw [roundTrips_iff_unpack h]
  have hlengths : ∀ e ∈ msg.xmpies.entries, e.2.length = .ok e.2.wire.length := fun e he =>
    Cxmpie.length_eq (h.ies e he).2.1
  constructor
  · rintro ⟨hsize, m, hm, hcon⟩
    have hfits : ∀ e ∈ msg.xmpies.entries, e.2.wire.length < 65536 ∧ e.2.InnerKnown := by
      intro e he
      have hmem : (e.1, e.2.content) ∈ m.entries.map fun e => (e.1, e.2.content) := by
        rw [hcon]
        exact List.mem_map_of_mem he
      obtain ⟨d, hd, heq⟩ := List.mem_map.mp hmem
      refine Cxmpie.fits_of_bounded (h.ies e he).2.1 ?_
      rw [← (Prod.mk.inj heq).2]
      exact bounded_of_unpack hm d hd
    refine ⟨?_, fun e he => (hfits e he).2, ?_⟩
    · intro n hn
      rw [length_eq h] at hn
      rw [← Except.ok.inj hn]
      exact hsize
    · intro e he hlen
      rw [hlengths e (List.mem_of_getLast? he)] at hlen
      exact ne_contents_of_last h hfits he (Except.ok.inj hlen) hm hcon
  · rintro ⟨hsize, hknown, hlast⟩
    have hsize := hsize _ (length_eq h)
    have hrecords : ieFraming.records msg.wireBody = msg.xmpies.entries.map fun e => e.2.wire := by
      rw [wireBody_eq, Cxmpie.records_wires_of_last, List.map_map]
      · rfl
      · intro ie hie
        obtain ⟨e, he, rfl⟩ := List.mem_map.mp hie
        have hle := length_wire_le he
        exact ⟨(h.ies e he).2.1, by omega⟩
      · intro ie hie
        rw [List.getLast?_map] at hie
        obtain ⟨e, he, rfl⟩ := Option.map_eq_some_iff.mp hie
        have hmem := List.mem_of_getLast? he
        have hne : e.2.wire.length ≠ ieHeaderSize := fun heq =>
          hlast e he ((hlengths e hmem).trans (congrArg Except.ok heq))
        exact Nat.lt_of_le_of_ne (Cxmpie.ieHeaderSize_le_wire (h.ies e hmem).2.1) hne.symm
    obtain ⟨m, hm, hcon⟩ := enter_wires msg.xmpies.sorted h.ies hknown
    refine ⟨hsize, m, ?_, hcon⟩
    rw [Cxmpies.unpack_eq, hrecords, hm]

/-- A reply with the multipart of one port name, which is the name `a`. -/
def oneName : Cxmpmsg where
  memory := [1, 2, 0, 8, 0, 0, 0, 7]
  xmpies := ⟨[(xmpietMultipart,
    .multipart [0, 4, 0, 4] [some (.plain .name ([0, 2, 0, 36, 97] ++ List.replicate 31 0))])],
    List.pairwise_singleton _ _⟩

theorem roundTrips_oneName : oneName.RoundTrips := by
  have hproper : oneName.Proper := by
    refine ⟨by decide, ?_⟩
    rintro e he
    obtain rfl := List.mem_singleton.mp he
    exact ⟨by decide, ⟨by decide, by change 36 ≤ 36; rfl, trivial⟩, rfl, rfl⟩
  refine (roundTrips_iff_fits hproper).mpr ⟨?_, ?_, ?_⟩
  · rintro n hn
    obtain rfl : 48 = n := Except.ok.inj hn
    decide
  · rintro e he
    obtain rfl := List.mem_singleton.mp he
    rintro o ho
    obtain rfl := List.mem_singleton.mp ho
    exact ⟨.name, _, .name, rfl, rfl, rfl⟩
  · rintro e he hn
    obtain rfl : _ = e := Option.some.inj he
    exact absurd (Except.ok.inj hn : 40 = 4) (by decide)

end Cxmpmsg

end Xdpd.Xmp
