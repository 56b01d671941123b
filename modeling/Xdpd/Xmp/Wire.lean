import Xdpd.Lib.Loops
import Xdpd.Lib.RoundTrip
import Xdpd.Xmp.InformationElements

/-!
# What the XMP codec writes and reads

An IE that owns its memory is packed into its `wire` form: a header and a body, which for a
multipart is the wire form of its inner IEs (`pack_eq`).  The loops of `unpack` go over the records
of their buffer in turn (`unpackLoop_eq`), and what each record becomes is `topOf` at the top level
and `innerOf` in a multipart.
-/

namespace Xdpd.Xmp

open Xdpd.Lib

/-! ## Numbers of two bytes -/

lemma be16_lt (bs : List Byte) : be16 bs < 65536 := by
  rcases bs with _ | ⟨a, _ | ⟨b, bs⟩⟩
  · exact Nat.two_pow_pos 16
  · exact Nat.two_pow_pos 16
  · have ha := a.isLt
    have hb := b.isLt
    rw [be16]
    omega

lemma be16_htobe16 (n : ℕ) (bs : List Byte) : be16 (htobe16 n ++ bs) = n % 65536 := by
  change 256 * (BitVec.ofNat 8 (n / 256)).toNat + (BitVec.ofNat 8 n).toNat = _
  rw [BitVec.toNat_ofNat, BitVec.toNat_ofNat]
  omega

/-- Only the first two bytes are looked at. -/
lemma be16_append {bs : List Byte} (h : 2 ≤ bs.length) (bs' : List Byte) :
    be16 (bs ++ bs') = be16 bs := by
  rcases bs with _ | ⟨a, _ | ⟨b, bs⟩⟩
  · exact absurd h (by decide)
  · exact absurd h (by simp)
  · rfl

lemma be16_take (bs : List Byte) : be16 (bs.take 2) = be16 bs := by
  rcases bs with _ | ⟨a, _ | ⟨b, bs⟩⟩ <;> rfl

lemma readAt_eq {buf : List Byte} {i n : ℕ} (h : i + n ≤ buf.length) :
    readAt buf i n = .ok ((buf.drop i).take n) :=
  if_pos h

lemma readBe16_eq {buf : List Byte} {i : ℕ} (h : i + 2 ≤ buf.length) :
    readBe16 buf i = .ok (be16 (buf.drop i)) := by
  rw [readBe16, readAt_eq h, ← be16_take (buf.drop i)]
  rfl

lemma write_eq {buf bytes : List Byte} (h : bytes.length ≤ buf.length) :
    write buf bytes = .ok (bytes ++ buf.drop bytes.length) :=
  if_pos h

namespace Cxmpie

/-! ## The wire form -/

/-- A body behind a header with the type that a memory holds. -/
def encode (mem body : List Byte) : List Byte :=
  mem.take 2 ++ (htobe16 (ieHeaderSize + body.length) ++ body)

/-- What a class without inner IEs packs behind the header. -/
def plainBody (cls : IeClass) (mem : List Byte) : List Byte :=
  (mem.take (plainLength cls mem)).drop ieHeaderSize

mutual

/-- What `pack` writes. -/
def wire : Cxmpie → List Byte
  | plain cls mem => encode mem (plainBody cls mem)
  | multipart mem ies => encode mem (wireIes ies)

/-- What `pack` writes for a queue of IEs. -/
def wireIes : List (Option Cxmpie) → List Byte
  | [] => []
  | none :: ies => wireIes ies
  | some ie :: ies => ie.wire ++ wireIes ies

end

mutual

/-- The IE owns the memory that its class reads and writes, and so do the inner ones, none of which
is missing. -/
def Proper : Cxmpie → Prop
  | plain cls mem => cls.structSize ≤ mem.length
  | multipart mem ies => ieHeaderSize ≤ mem.length ∧ ProperIes ies

/-- All IEs of a queue are there and own their memory. -/
def ProperIes : List (Option Cxmpie) → Prop
  | [] => True
  | none :: _ => False
  | some ie :: ies => ie.Proper ∧ ProperIes ies

end

lemma ieHeaderSize_le_structSize (cls : IeClass) : ieHeaderSize ≤ cls.structSize := by
  cases cls <;> decide

lemma plainLength_of_ne {cls : IeClass} (h : cls ≠ .cxmpie) (mem : List Byte) :
    plainLength cls mem = cls.structSize := by
  cases cls with
  | cxmpie => exact absurd rfl h
  | _ => rfl

lemma ieHeaderSize_le_plainLength {cls : IeClass} {mem : List Byte}
    (h : cls.structSize ≤ mem.length) : ieHeaderSize ≤ plainLength cls mem := by
  by_cases hcls : cls = .cxmpie
  · subst hcls
    exact h
  · rw [plainLength_of_ne hcls]
    exact ieHeaderSize_le_structSize cls

lemma plainLength_le {cls : IeClass} {mem : List Byte} (h : cls.structSize ≤ mem.length) :
    plainLength cls mem ≤ mem.length := by
  by_cases hcls : cls = .cxmpie
  · subst hcls
    exact le_rfl
  · rwa [plainLength_of_ne hcls]

lemma ieHeaderSize_le_memory {ie : Cxmpie} (h : ie.Proper) : ieHeaderSize ≤ ie.memory.length := by
  cases ie with
  | plain cls mem => exact (ieHeaderSize_le_structSize cls).trans h
  | multipart mem ies => exact h.1

lemma length_encode {mem : List Byte} (h : ieHeaderSize ≤ mem.length) (body : List Byte) :
    (encode mem body).length = ieHeaderSize + body.length := by
  have htake : (mem.take 2).length = 2 := List.length_take_of_le (le_trans (by decide) h)
  rw [encode, List.length_append, List.length_append, htake]
  change 2 + (2 + _) = 4 + _
  omega

lemma length_plainBody {cls : IeClass} {mem : List Byte} (h : cls.structSize ≤ mem.length) :
    (plainBody cls mem).length = plainLength cls mem - ieHeaderSize := by
  rw [plainBody, List.length_drop, List.length_take_of_le (plainLength_le h)]

lemma getType_encode {mem : List Byte} (h : ieHeaderSize ≤ mem.length) (body : List Byte) :
    getType (encode mem body) = getType mem := by
  have htake : (mem.take 2).length = 2 := List.length_take_of_le (le_trans (by decide) h)
  rw [getType, encode, be16_append htake.ge, be16_take, getType]

lemma drop_two_encode {mem : List Byte} (h : ieHeaderSize ≤ mem.length) (body : List Byte) :
    (encode mem body).drop 2 = htobe16 (ieHeaderSize + body.length) ++ body := by
  have htake : (mem.take 2).length = 2 := List.length_take_of_le (le_trans (by decide) h)
  rw [encode, List.drop_left' htake]

lemma drop_encode {mem : List Byte} (h : ieHeaderSize ≤ mem.length) (body : List Byte) :
    (encode mem body).drop ieHeaderSize = body := by
  have hfour : ieHeaderSize = 2 + 2 := rfl
  rw [hfour, ← List.drop_drop, drop_two_encode h]
  rfl

/-- Setting the length field and cutting the memory to that length. -/
lemma take_setLength {mem : List Byte} {n : ℕ} (hn : ieHeaderSize ≤ n)
    (h : ieHeaderSize ≤ mem.length) :
    (setLength mem n).take n
      = (mem.take 2 ++ htobe16 n) ++ (mem.take n).drop ieHeaderSize := by
  have htwo : (mem.take 2).length = 2 := List.length_take_of_le (le_trans (by decide) h)
  have hhead : (mem.take 2 ++ htobe16 n).length = ieHeaderSize := by
    rw [List.length_append, htwo]
    rfl
  rw [setLength, ← List.append_assoc, List.take_append, List.take_of_length_le (hhead.le.trans hn),
    hhead, List.drop_take]

/-- The memory of a class without inner IEs, packed. -/
lemma take_setLength_plain {cls : IeClass} {mem : List Byte} (h : cls.structSize ≤ mem.length) :
    (setLength mem (plainLength cls mem)).take (plainLength cls mem)
      = encode mem (plainBody cls mem) := by
  have hle := ieHeaderSize_le_plainLength h
  have hsum : ieHeaderSize + (plainBody cls mem).length = plainLength cls mem := by
    rw [length_plainBody h]
    omega
  rw [take_setLength hle ((ieHeaderSize_le_structSize cls).trans h), encode, hsum,
    List.append_assoc]
  rfl

lemma length_wire_plain {cls : IeClass} {mem : List Byte} (h : (plain cls mem).Proper) :
    (plain cls mem).wire.length = plainLength cls mem := by
  have hle := ieHeaderSize_le_plainLength h
  have hmem : ieHeaderSize ≤ mem.length := ieHeaderSize_le_memory h
  rw [wire, length_encode hmem, length_plainBody h]
  omega

lemma length_wire_multipart {mem : List Byte} {ies : List (Option Cxmpie)}
    (h : (multipart mem ies).Proper) :
    (multipart mem ies).wire.length = ieHeaderSize + (wireIes ies).length := by
  rw [wire, length_encode h.1]

mutual

/-- The virtual `length` is that of the wire form. -/
lemma length_eq : ∀ {ie : Cxmpie}, ie.Proper → ie.length = .ok ie.wire.length
  | plain cls mem, h => by rw [length_wire_plain h, length]
  | multipart mem ies, h => by
      rw [length_wire_multipart h, length, lengthIes_eq h.2]
      rfl

/-- The virtual lengths of a queue sum up to that of its wire form. -/
lemma lengthIes_eq : ∀ {ies : List (Option Cxmpie)}, ProperIes ies →
    lengthIes ies = .ok (wireIes ies).length
  | [], _ => rfl
  | some ie :: ies, h => by
      rw [lengthIes, length_eq h.1, lengthIes_eq h.2, wireIes, List.length_append]
      rfl

end

lemma packMemory_eq {mem buf : List Byte} {n buflen : ℕ} (hbuflen : n ≤ buflen)
    (hbuf : n ≤ buf.length) :
    packMemory mem n buf buflen
      = .ok ((setLength mem n).take n ++ buf.drop ((setLength mem n).take n).length,
          setLength mem n) := by
  have hle : ((setLength mem n).take n).length ≤ buf.length :=
    (List.length_take_le _ _).trans hbuf
  rw [packMemory, if_neg (Nat.not_lt.mpr hbuflen)]
  change (write buf ((setLength mem n).take n) >>= fun buf => pure (buf, setLength mem n)) = _
  rw [write_eq hle]
  rfl

/-- What the header of a multipart leaves of the buffer, whatever else of its memory is copied. -/
lemma pack_multipart_header {mem buf : List Byte} {n : ℕ} (hmem : ieHeaderSize ≤ mem.length)
    (hn : ieHeaderSize ≤ n) (hbuf : n ≤ buf.length) :
    ∃ beyond : List Byte, (setLength mem n).take n ++ buf.drop ((setLength mem n).take n).length
      = (mem.take 2 ++ htobe16 n) ++ beyond ∧ beyond.length = buf.length - ieHeaderSize ∧
      beyond.drop (n - ieHeaderSize) = buf.drop n := by
  have htwo : (mem.take 2).length = 2 := List.length_take_of_le (le_trans (by decide) hmem)
  have hhead : (mem.take 2 ++ htobe16 n).length = ieHeaderSize := by
    rw [List.length_append, htwo]
    rfl
  have hcopied : ((mem.take n).drop ieHeaderSize).length ≤ n - ieHeaderSize := by
    rw [List.length_drop]
    exact Nat.sub_le_sub_right (List.length_take_le n mem) _
  rw [take_setLength hn hmem]
  -- whatever of the memory is copied behind the header
  generalize (mem.take n).drop ieHeaderSize = copied at hcopied ⊢
  refine ⟨copied ++ buf.drop (ieHeaderSize + copied.length), ?_, ?_, ?_⟩
  · rw [List.length_append, hhead, List.append_assoc]
  · rw [List.length_append, List.length_drop]
    omega
  · rw [List.drop_append, List.drop_eq_nil_of_le hcopied, List.nil_append, List.drop_drop]
    congr 1
    omega

mutual

/-- **Packing.**  `pack` writes the wire form of an IE to the front of the buffer. -/
theorem pack_eq : ∀ {ie : Cxmpie} (buf : List Byte) {buflen : ℕ}, ie.Proper →
    ie.wire.length ≤ buflen → ie.wire.length ≤ buf.length →
    ∃ ie', ie.pack buf buflen = .ok (ie.wire ++ buf.drop ie.wire.length, ie')
  | plain cls mem, buf, buflen, h, hbuflen, hbuf => by
      rw [length_wire_plain h] at hbuflen hbuf
      refine ⟨plain cls (setLength mem (plainLength cls mem)), ?_⟩
      rw [pack, if_neg (Nat.not_lt.mpr hbuflen), packMemory_eq le_rfl hbuf, take_setLength_plain h]
      rfl
  | multipart mem ies, buf, buflen, h, hbuflen, hbuf => by
      have hlen := length_wire_multipart h
      have hle : ieHeaderSize ≤ (multipart mem ies).wire.length := by omega
      have hhead :
          (mem.take 2 ++ htobe16 (multipart mem ies).wire.length).length = ieHeaderSize := by
        rw [List.length_append, List.length_take_of_le (le_trans (by decide) h.1)]
        rfl
      obtain ⟨beyond, hover, hoverlen, hoverdrop⟩ := pack_multipart_header h.1 hle hbuf
      obtain ⟨ies', hies'⟩ := packIes_eq beyond h.2 (by omega)
      refine ⟨multipart (setLength mem (multipart mem ies).wire.length) ies', ?_⟩
      rw [pack, length_eq h]
      change (if _ then _ else _) = _
      rw [if_neg (Nat.not_lt.mpr hbuflen), packMemory_eq hbuflen hbuf, hover]
      change (packIes ies (List.drop ieHeaderSize (_ ++ beyond)) >>= fun p =>
        pure (List.take ieHeaderSize (_ ++ beyond) ++ p.1, multipart _ p.2)) = _
      rw [List.drop_left' hhead, List.take_left' hhead, hies']
      change Except.ok _ = Except.ok _
      rw [← hoverdrop, hlen, Nat.add_sub_cancel_left, wire, encode, List.append_assoc,
        List.append_assoc, List.append_assoc]

/-- The loop writes the wire forms of the IEs one after the other. -/
theorem packIes_eq : ∀ {ies : List (Option Cxmpie)} (buf : List Byte), ProperIes ies →
    (wireIes ies).length ≤ buf.length →
    ∃ ies', packIes ies buf = .ok (wireIes ies ++ buf.drop (wireIes ies).length, ies')
  | [], buf, _, _ => ⟨[], rfl⟩
  | some ie :: ies, buf, h, hbuf => by
      have hsum : (wireIes (some ie :: ies)).length = ie.wire.length + (wireIes ies).length := by
        rw [wireIes, List.length_append]
      obtain ⟨ie', hie'⟩ := pack_eq buf h.1 le_rfl (by omega)
      obtain ⟨ies', hies'⟩ := packIes_eq (buf.drop ie.wire.length) h.2 (by
        rw [List.length_drop]
        omega)
      refine ⟨some ie' :: ies', ?_⟩
      rw [packIes, length_eq h.1]
      change (ie.pack buf ie.wire.length >>= fun p => packIes ies (p.1.drop ie.wire.length) >>=
        fun q => pure (p.1.take ie.wire.length ++ q.1, some p.2 :: q.2)) = _
      rw [hie']
      change (packIes ies (List.drop ie.wire.length (_ ++ _)) >>= fun q =>
        pure (List.take ie.wire.length (_ ++ _) ++ q.1, some ie' :: q.2)) = _
      rw [List.drop_left, List.take_left, hies']
      change Except.ok _ = Except.ok _
      rw [hsum, wireIes, List.drop_drop, List.append_assoc]

end

end Cxmpie

/-! ## The records of a buffer -/

/-- How a list of IEs is taken apart: a header of four bytes, the length in its second half.  The
loops stop when no more than a header is left. -/
def ieFraming : Framing Byte where
  header := ieHeaderSize
  header_pos := by decide
  least := ieHeaderSize + 1
  header_le_least := Nat.le_succ _
  lenOf s := be16 (s.drop 2)
  lenOf_append s t h := by
    have hfour : ieHeaderSize = 4 := rfl
    have hdrop : 2 ≤ (s.drop 2).length := by
      rw [List.length_drop]
      omega
    rw [List.drop_append_of_le_length (by omega), be16_append hdrop]

namespace Cxmpie

lemma ofBuf_eq {buf : List Byte} (hhead : ieHeaderSize ≤ be16 (buf.drop 2))
    (hle : be16 (buf.drop 2) ≤ buf.length) :
    ofBuf buf (be16 (buf.drop 2)) = .ok (buf.take (be16 (buf.drop 2))) := by
  have hfour : ieHeaderSize = 4 := rfl
  rw [ofBuf, readAt_eq (by omega)]
  change (if _ then _ else unpackMemory buf _) = _
  rw [if_neg (Nat.not_lt.mpr hhead), unpackMemory, if_neg (Nat.not_lt.mpr hhead),
    readBe16_eq (by omega)]
  change readAt buf 0 (if _ then _ else _) = _
  rw [ite_self, readAt_eq (by omega), List.drop_zero]

end Cxmpie

/-- **The loop over IEs.**  It never reads past the end of the buffer, and hands each record of the
buffer to its body. -/
theorem unpackLoop_eq {σ : Type} (body : σ → List Byte → Except XmpError σ) (s : σ)
    (buf : List Byte) : unpackLoop body s buf = (ieFraming.records buf).foldlM body s := by
  have hfour : ieHeaderSize = 4 := rfl
  induction buf using Framing.cuts_induction (F := ieFraming) generalizing s with
  | hcut buf h ih =>
      obtain ⟨hleast, hhead, hle⟩ := id h
      have hlt : ieHeaderSize < buf.length := hleast
      change ieHeaderSize ≤ be16 (buf.drop 2) at hhead
      change be16 (buf.drop 2) ≤ buf.length at hle
      rw [unpackLoop, dif_pos hlt, readBe16_eq (by omega), Framing.records_of_cuts h,
        List.foldlM_cons]
      change (if _ then _ else _) = _
      rw [if_neg (by omega), Cxmpie.ofBuf_eq hhead hle]
      exact congrArg (fun k => body s (buf.take (be16 (buf.drop 2))) >>= k)
        (funext fun s' => ih s')
  | hstop buf h =>
      rw [Framing.records_of_not_cuts h, List.foldlM_nil, unpackLoop]
      by_cases hlt : ieHeaderSize < buf.length
      · -- the length field is invalid
        have hbad : buf.length < be16 (buf.drop 2) ∨ be16 (buf.drop 2) < ieHeaderSize := by
          by_contra hgood
          rw [not_or, Nat.not_lt, Nat.not_lt] at hgood
          exact h ⟨hlt, hgood.2, hgood.1⟩
        rw [dif_pos hlt, readBe16_eq (by omega)]
        exact if_pos hbad
      · rw [dif_neg hlt]

/-! ## What a record becomes -/

namespace Cxmpie

/-- The class that `bakery` has for a type. -/
def innerClass : ℕ → Option IeClass
  | xmpietCommand => some .command
  | xmpietPortname => some .name
  | xmpietDpid => some .dpid
  | xmpietPortinfo => some .portinfo
  | xmpietLsiname => some .name
  | xmpietLsiinfo => some .lsiinfo
  | xmpietController => some .controller
  | _ => none

/-- The class that `map_and_insert` has for a type other than that of a multipart. -/
def topClass : ℕ → IeClass
  | xmpietLsixlsi => .lsixlsi
  | type => (innerClass type).getD .cxmpie

/-- An IE of a class from a record, which must be long enough. -/
def construct (cls : IeClass) (r : List Byte) : Except XmpError Cxmpie :=
  if r.length < cls.leastSize then .error .eXmpIeInval else .ok (plain cls r)

/-- What `bakery` makes of a record. -/
def innerOf (r : List Byte) : Except XmpError (Option Cxmpie) :=
  match innerClass (getType r) with
  | none => .ok none
  | some cls => (construct cls r).map some

/-- The multipart of a record. -/
def multipartOf (r : List Byte) : Except XmpError Cxmpie :=
  ((ieFraming.records (r.drop ieHeaderSize)).mapM innerOf).map (multipart r)

/-- What `map_and_insert` makes of a record; nothing if its type is `XMPIET_NONE`. -/
def topOf (r : List Byte) : Except XmpError (Option Cxmpie) :=
  if getType r = xmpietNone then .ok none
  else if getType r = xmpietMultipart then (multipartOf r).map some
  else (construct (topClass (getType r)) r).map some

lemma ofCxmpie_eq (cls : IeClass) {r : List Byte} (h : ieHeaderSize ≤ r.length)
    (htakes : cls.takes (getType r) = true) : ofCxmpie cls r = construct cls r := by
  have hfour : ieHeaderSize = 4 := rfl
  rw [ofCxmpie, readBe16_eq (by omega)]
  change (if cls.takes (getType r) = false then _ else _) = _
  rw [if_neg (by rw [htakes]; decide)]
  rfl

/-- `bakery` on the type of a record. -/
lemma bakery_eq {r : List Byte} (h : ieHeaderSize ≤ r.length) : bakery r = innerOf r := by
  have hfour : ieHeaderSize = 4 := rfl
  have htype : readBe16 r 0 = .ok (getType r) := readBe16_eq (by omega)
  have hcls := fun cls => ofCxmpie_eq cls h
  rw [bakery, htype, innerOf]
  generalize getType r = type at hcls
  match type, hcls with
  | 0, _ => rfl
  | 1, hcls => exact congrArg (Except.map some) (hcls .command rfl)
  | 2, hcls => exact congrArg (Except.map some) (hcls .name rfl)
  | 3, hcls => exact congrArg (Except.map some) (hcls .dpid rfl)
  | 4, _ => rfl
  | 5, hcls => exact congrArg (Except.map some) (hcls .portinfo rfl)
  | 6, hcls => exact congrArg (Except.map some) (hcls .name rfl)
  | 7, hcls => exact congrArg (Except.map some) (hcls .lsiinfo rfl)
  | 8, hcls => exact congrArg (Except.map some) (hcls .controller rfl)
  | n + 9, _ => rfl

lemma multipartUnpack_eq (buf : List Byte) :
    multipartUnpack buf = (ieFraming.records (buf.drop ieHeaderSize)).mapM innerOf := by
  have hbody : ∀ ies, ∀ r ∈ ieFraming.records (buf.drop ieHeaderSize),
      (do return ies ++ [← bakery r] : Except XmpError _) = do return ies ++ [← innerOf r] := by
    intro ies r hr
    rw [bakery_eq (Framing.isRecord_of_mem_records hr).1]
  rw [multipartUnpack, unpackLoop_eq, foldlM_congr hbody, foldlM_append]
  cases List.mapM innerOf (ieFraming.records (buf.drop ieHeaderSize)) <;> rfl

lemma multipartOfCxmpie_eq {r : List Byte} (h : ieHeaderSize ≤ r.length)
    (htype : getType r = xmpietMultipart) : multipartOfCxmpie r = multipartOf r := by
  have hfour : ieHeaderSize = 4 := rfl
  rw [multipartOfCxmpie, readBe16_eq (by omega), multipartUnpack_eq]
  change (if getType r ≠ xmpietMultipart then _ else _) = _
  rw [if_neg (not_not.mpr htype), multipartOf]
  rfl

lemma construct_eq_ok {cls : IeClass} {r : List Byte} {ie : Cxmpie}
    (h : construct cls r = .ok ie) : ie = plain cls r ∧ cls.leastSize ≤ r.length := by
  rw [construct] at h
  split at h
  · exact absurd h nofun
  · next hlen => exact ⟨(Except.ok.inj h).symm, Nat.not_lt.mp hlen⟩

/-- What `bakery` may make of a record. -/
lemma innerOf_eq_ok {r : List Byte} {o : Option Cxmpie} (h : innerOf r = .ok o) :
    (o = none ∧ innerClass (getType r) = none) ∨
      ∃ cls, innerClass (getType r) = some cls ∧ o = some (plain cls r) ∧
        cls.leastSize ≤ r.length := by
  rw [innerOf] at h
  cases hcls : innerClass (getType r) with
  | none =>
      rw [hcls] at h
      exact .inl ⟨(Except.ok.inj h).symm, rfl⟩
  | some cls =>
      rw [hcls] at h
      obtain ⟨ie, hie, rfl⟩ := map_eq_ok_iff.mp h
      obtain ⟨rfl, hle⟩ := construct_eq_ok hie
      exact .inr ⟨cls, rfl, rfl, hle⟩

/-- What `map_and_insert` may make of a record. -/
lemma topOf_eq_ok {r : List Byte} {ie : Cxmpie} (h : topOf r = .ok (some ie)) :
    getType r ≠ xmpietNone ∧
      ((getType r = xmpietMultipart ∧ ∃ ies, ie = multipart r ies ∧ List.Forall₂
          (fun r' o => innerOf r' = .ok o) (ieFraming.records (r.drop ieHeaderSize)) ies) ∨
        (getType r ≠ xmpietMultipart ∧ ie = plain (topClass (getType r)) r ∧
          (topClass (getType r)).leastSize ≤ r.length)) := by
  rw [topOf] at h
  split at h
  · exact absurd (Except.ok.inj h) nofun
  next hnone =>
    refine ⟨hnone, ?_⟩
    split at h
    · next hmulti =>
        obtain ⟨ie', hie', heq⟩ := map_eq_ok_iff.mp h
        obtain rfl := Option.some.inj heq
        obtain ⟨ies, hies, rfl⟩ := map_eq_ok_iff.mp hie'
        exact .inl ⟨hmulti, ies, rfl, mapM_eq_ok_iff.mp hies⟩
    · next hmulti =>
        obtain ⟨ie', hie', heq⟩ := map_eq_ok_iff.mp h
        obtain rfl := Option.some.inj heq
        obtain ⟨rfl, hle⟩ := construct_eq_ok hie'
        exact .inr ⟨hmulti, rfl, hle⟩

end Cxmpie

namespace Cxmpies

open Cxmpie

lemma mapAndInsert_eq (m : Cxmpies) {r : List Byte} (h : ieHeaderSize ≤ r.length) :
    mapAndInsert m r = (topOf r).map (m.put (getType r)) := by
  have hfour : ieHeaderSize = 4 := rfl
  have htype : readBe16 r 0 = .ok (getType r) := readBe16_eq (by omega)
  have hput : ∀ (x : Except XmpError Cxmpie) (type : ℕ),
      (do return (m.erase type).insert type (← x)) = (x.map some).map (m.put type) := by
    intro x type
    cases x <;> rfl
  have hcls : ∀ cls : IeClass, cls.takes (getType r) = true →
      (do return (m.erase (getType r)).insert (getType r) (← ofCxmpie cls r))
        = ((construct cls r).map some).map (m.put (getType r)) := by
    intro cls htakes
    rw [ofCxmpie_eq _ h htakes, hput]
  have hmulti : getType r = xmpietMultipart →
      (do return (m.erase (getType r)).insert (getType r) (← multipartOfCxmpie r))
        = ((multipartOf r).map some).map (m.put (getType r)) := by
    intro hmultipart
    rw [multipartOfCxmpie_eq h hmultipart, hput]
  rw [mapAndInsert, htype, topOf]
  generalize getType r = type at hcls hmulti
  match type, hcls, hmulti with
  | 0, _, _ => rfl
  | 1, hcls, _ => exact hcls .command rfl
  | 2, hcls, _ => exact hcls .name rfl
  | 3, hcls, _ => exact hcls .dpid rfl
  | 4, _, hmulti => exact hmulti rfl
  | 5, hcls, _ => exact hcls .portinfo rfl
  | 6, hcls, _ => exact hcls .name rfl
  | 7, hcls, _ => exact hcls .lsiinfo rfl
  | 8, hcls, _ => exact hcls .controller rfl
  | 9, hcls, _ => exact hcls .lsixlsi rfl
  | n + 10, _, _ =>
      have hlong : construct .cxmpie r = .ok (plain .cxmpie r) := if_neg (Nat.not_lt.mpr h)
      change Except.ok _ = ((construct .cxmpie r).map some).map _
      rw [hlong]
      rfl

/-- **Unpacking a list of IEs.**  The records of the buffer are entered into the map in turn. -/
theorem unpack_eq (buf : List Byte) : unpack buf
    = (ieFraming.records buf).foldlM (SortedMap.enter getType topOf) SortedMap.empty := by
  rw [unpack, unpackLoop_eq]
  refine foldlM_congr (fun m r hr => ?_) _
  exact mapAndInsert_eq m (Framing.isRecord_of_mem_records hr).1

end Cxmpies

namespace Cxmpmsg

lemma unpack_eq {buf : List Byte} (h : xmpHeaderSize ≤ buf.length) :
    unpack buf = (Cxmpies.unpack (buf.drop xmpHeaderSize)).map (Cxmpmsg.mk buf) := by
  rw [unpack, if_neg (Nat.not_lt.mpr h)]
  by_cases hlt : xmpHeaderSize < buf.length
  · rw [if_pos hlt]
    rfl
  · rw [if_neg hlt, List.drop_eq_nil_of_le (Nat.not_lt.mp hlt), Cxmpies.unpack_eq,
      Framing.records_nil]
    rfl

end Cxmpmsg

end Xdpd.Xmp
