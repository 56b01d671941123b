import Xdpd.Classifier.Checksum

/-!
# Checksums that verify

A receiver adds up a buffer with the checksum in it: the buffer verifies if nothing but ones is left
of the sum.  What the routines of TCP, UDP, ICMPv6 and GRE store verifies.  Those of IPv4 and ICMPv4
fold the sum only once, and leave out the bytes after the words that they add: what they store
verifies if and only if the carry that is cut off and the bytes that are left out do not count.
-/

namespace Xdpd.Classifier

open Xdpd.Lib

/-- The checksum of the buffer with its checksum field is zero. -/
def Verifies (buf : List Byte) : Prop :=
  ietfRfc1071ChecksumNbo buf = 0

/-! ## The routines that fold once -/

/-- `uint16_t res16 = (sum & 0x0000ffff) + ((sum & 0xffff0000) >> 16)`. -/
def foldOnce (sum : BitVec 32) : BitVec 16 :=
  (foldStep sum).setWidth 16

/-- The first `wnum` words, as the host reads them. -/
def hostWords (mem : ℕ → Byte) (hdr wnum : ℕ) : List (BitVec 16) :=
  (List.range wnum).map fun i => le16 mem (hdr + 2 * i)

/-- The memory after a routine that adds `wnum` words and folds once. -/
def calcChecksumOnce (mem : ℕ → Byte) (hdr off wnum : ℕ) : ℕ → Byte :=
  let mem := setLe16 mem (hdr + off) 0
  setLe16 mem (hdr + off) (~~~ foldOnce ((hostWords mem hdr wnum).foldl addWord 0))

/-- `ipv4_calc_checksum`: the words of a header without options. -/
def ipv4CalcChecksum (mem : ℕ → Byte) (hdr : ℕ) : ℕ → Byte :=
  calcChecksumOnce mem hdr 10 (20 / 2)

/-- `icmpv4_calc_checksum`: a last byte on its own is not added. -/
def icmpv4CalcChecksum (mem : ℕ → Byte) (hdr : ℕ) (length : BitVec 16) : ℕ → Byte :=
  calcChecksumOnce mem hdr 2 (length.toNat / 2)

/-! ## Sums of segments -/

/-- A buffer verifies if the sum of its words leaves nothing but ones. -/
lemma verifies_iff_nboWords {buf : List Byte} (h : (nboWords buf).length ≤ 65537) :
    Verifies buf ↔ AllOnes 65536 (wordSum (nboWords buf)) := by
  have hle := wordSum_le (nboWords buf)
  have hwide := Nat.mul_le_mul_right 65535 h
  have hzero : ((0 : BitVec 32)).toNat = 0 := rfl
  have hfold := isFold_foldSum ((nboWords buf).foldl addWord 0)
  rw [foldl_addWord_toNat 0 (by omega), hzero, Nat.zero_add] at hfold
  have hlt := hfold.lt
  have hself := toNat_not_setWidth hlt
  rw [← hfold.eq_pred_iff (by decide), Verifies, ietfRfc1071ChecksumNbo, ← BitVec.toNat_inj, hself]
  change 65535 - _ = 0 ↔ _
  omega

/-- The same with the words in the order of the host. -/
lemma verifies_iff {buf : List Byte} (h : (nboWords buf).length ≤ 65537) :
    Verifies buf ↔ AllOnes 65536 (wordSum ((nboWords buf).map htonb16)) := by
  have hswap : wordSum ((nboWords buf).map htonb16) =
      (((nboWords buf).map BitVec.toNat).map (swapHalves 256)).sum := by
    rw [wordSum, List.map_map, List.map_map]
    exact congrArg List.sum (List.map_congr_left fun v _ => htonb16_toNat v)
  rw [verifies_iff_nboWords h, hswap, allOnes_map_swapHalves (by decide : 1 < 256), ← wordSum]

lemma segment_congr {mem mem' : ℕ → Byte} {hdr n : ℕ}
    (h : ∀ a, hdr ≤ a → a < hdr + n → mem' a = mem a) :
    segment mem' hdr n = segment mem hdr n := by
  refine List.map_congr_left fun i hi => ?_
  have hlt := List.mem_range.1 hi
  exact h _ (Nat.le_add_right hdr i) (by omega)

lemma segmentWords_congr {mem mem' : ℕ → Byte} {hdr n : ℕ}
    (h : ∀ a, hdr ≤ a → a < hdr + n → mem a = mem' a) :
    segmentWords mem hdr n = segmentWords mem' hdr n := by
  rw [segmentWords_eq, segmentWords_eq, segment_congr h]

lemma length_hostWords (mem : ℕ → Byte) (hdr wnum : ℕ) :
    (hostWords mem hdr wnum).length = wnum := by
  rw [hostWords, List.length_map, List.length_range]

/-- The words of a segment, from those of an even part and of what follows. -/
lemma segmentWords_add (mem : ℕ → Byte) (hdr wnum n : ℕ) :
    segmentWords mem hdr (2 * wnum + n) =
      hostWords mem hdr wnum ++ segmentWords mem (hdr + 2 * wnum) n := by
  induction wnum generalizing hdr with
  | zero =>
      rw [Nat.mul_zero, Nat.zero_add, Nat.add_zero]
      rfl
  | succ wnum ih =>
      have hlen : 2 * (wnum + 1) + n = 2 * wnum + n + 2 := by omega
      have hpos : hdr + 2 + 2 * wnum = hdr + 2 * (wnum + 1) := by omega
      have hwords : hostWords mem hdr (wnum + 1) =
          le16 mem hdr :: hostWords mem (hdr + 2) wnum := by
        rw [hostWords, List.range_succ_eq_map, List.map_cons, List.map_map, hostWords]
        refine congrArg _ (List.map_congr_left fun i _ => congrArg (le16 mem) ?_)
        change hdr + 2 * (i + 1) = hdr + 2 + 2 * i
        omega
      rw [hlen, segmentWords_succ_succ, ih, hpos, hwords, List.cons_append]

lemma le16_setLe16 (mem : ℕ → Byte) (a : ℕ) (v : BitVec 16) : le16 (setLe16 mem a v) a = v := by
  rw [le16_eq, be16_setLe16, htonb16_htonb16]

lemma setLe16_setLe16 (mem : ℕ → Byte) (a : ℕ) (v w : BitVec 16) :
    setLe16 (setLe16 mem a v) a w = setLe16 mem a w := by
  rw [setLe16, setLe16, setLe16, Function.update_comm (by omega), Function.update_idem,
    Function.update_comm (by omega), Function.update_idem]

/-- A word that is written into a segment counts for itself. -/
lemma wordSum_setLe16 (mem : ℕ → Byte) (hdr wnum n : ℕ) (v : BitVec 16) (hn : 2 * wnum + 2 ≤ n) :
    wordSum (segmentWords (setLe16 mem (hdr + 2 * wnum) v) hdr n) =
      wordSum (segmentWords (setLe16 mem (hdr + 2 * wnum) 0) hdr n) + v.toNat := by
  obtain ⟨m, rfl⟩ := Nat.exists_eq_add_of_le hn
  have hlen : 2 * wnum + 2 + m = 2 * wnum + (m + 2) := by omega
  have hsplit (v : BitVec 16) :
      wordSum (segmentWords (setLe16 mem (hdr + 2 * wnum) v) hdr (2 * wnum + (m + 2))) =
        wordSum (hostWords mem hdr wnum) +
          (v.toNat + wordSum (segmentWords mem (hdr + 2 * wnum + 2) m)) := by
    have hbefore : hostWords (setLe16 mem (hdr + 2 * wnum) v) hdr wnum =
        hostWords mem hdr wnum := by
      refine List.map_congr_left fun i hi => ?_
      have hlt := List.mem_range.1 hi
      rw [le16, le16, setLe16_of_ne v (by omega) (by omega), setLe16_of_ne v (by omega) (by omega)]
    have hafter : segmentWords (setLe16 mem (hdr + 2 * wnum) v) (hdr + 2 * wnum + 2) m =
        segmentWords mem (hdr + 2 * wnum + 2) m :=
      segmentWords_congr fun a ha _ => setLe16_of_ne v (by omega) (by omega)
    rw [segmentWords_add, segmentWords_succ_succ, le16_setLe16, hbefore, hafter, wordSum_append,
      wordSum_cons]
  have hzero : ((0 : BitVec 16)).toNat = 0 := rfl
  rw [hlen, hsplit, hsplit, hzero]
  omega

/-! ## What the routines store -/

/-- The words of a pseudo header and of a segment, in the order of the host. -/
lemma wordSum_map_htonb16 {header : List Byte} (heven : header.length % 2 = 0) (mem : ℕ → Byte)
    (hdr n : ℕ) :
    wordSum ((nboWords (header ++ segment mem hdr n)).map htonb16) =
      wordSum ((nboWords header).map htonb16) + wordSum (segmentWords mem hdr n) := by
  rw [nboWords_append heven, List.map_append, wordSum_append, segmentWords_eq]

lemma length_nboWords_segment {header : List Byte} (hheader : header.length ≤ 64) (mem : ℕ → Byte)
    (hdr : ℕ) {n : ℕ} (hn : n < 65536) :
    (nboWords (header ++ segment mem hdr n)).length ≤ 65537 := by
  rw [length_nboWords, List.length_append, segment, List.length_map, List.length_range]
  omega

/-- **What a routine stores verifies.** -/
lemma verifies_calcChecksum (mem : ℕ → Byte) (hdr wnum : ℕ) (length : BitVec 16)
    {pseudo : List (BitVec 16)} {header : List Byte}
    (hsum : wordSum pseudo = wordSum ((nboWords header).map htonb16))
    (heven : header.length % 2 = 0) (hpseudo : pseudo.length ≤ 32) (hheader : header.length ≤ 64)
    (hfield : 2 * wnum + 2 ≤ length.toNat) :
    Verifies (header ++
      segment (calcChecksum mem hdr (2 * wnum) pseudo length) hdr length.toNat) := by
  have hlt : length.toNat < 2 ^ 16 := length.isLt
  have hadded : (addedWords mem hdr (2 * wnum) pseudo length).length ≤ 65537 := by
    rw [addedWords, List.length_append, length_segmentWords]
    omega
  have hle := wordSum_le (addedWords mem hdr (2 * wnum) pseudo length)
  have hwide := Nat.mul_le_mul_right 65535 hadded
  have hzero : ((0 : BitVec 32)).toNat = 0 := rfl
  have hfold := isFold_foldDoWhile ((addedWords mem hdr (2 * wnum) pseudo length).foldl addWord 0)
  rw [foldl_addWord_toNat 0 (by omega), hzero, Nat.zero_add] at hfold
  have hones := hfold.allOnes_add (by decide)
  rw [verifies_iff (length_nboWords_segment hheader _ _ hlt), wordSum_map_htonb16 heven,
    calcChecksum, wordSum_setLe16 _ _ _ _ _ hfield, toNat_not_setWidth hfold.lt, ← hsum]
  rw [setLe16_setLe16, ← Nat.add_assoc, ← wordSum_append, ← addedWords]
  exact hones

lemma foldOnce_toNat (sum : BitVec 32) :
    (~~~ foldOnce sum).toNat = 65535 - endAround 65536 sum.toNat % 65536 := by
  have hlt := Nat.mod_lt (endAround 65536 sum.toNat) (by decide : 0 < 65536)
  rw [BitVec.toNat_not, foldOnce, BitVec.toNat_setWidth, foldStep_toNat]

/-- What is cut off when the sum of words is folded once. -/
def carryCut (words : List (BitVec 16)) : ℕ :=
  endAround 65536 (wordSum words) / 65536

/-- **What a routine that folds once stores** verifies if and only if the carry that is cut off and
the bytes that are left out add up to nothing, modulo `65535`. -/
lemma verifies_calcChecksumOnce (mem : ℕ → Byte) (hdr : ℕ) {field wnum n : ℕ}
    (hfield : field < wnum) (hn : 2 * wnum + n < 65536) :
    Verifies (segment (calcChecksumOnce mem hdr (2 * field) wnum) hdr (2 * wnum + n)) ↔
      65535 ∣ carryCut (hostWords (setLe16 mem (hdr + 2 * field) 0) hdr wnum) +
        wordSum (segmentWords mem (hdr + 2 * wnum) n) := by
  set words := hostWords (setLe16 mem (hdr + 2 * field) 0) hdr wnum
  have hlen : words.length = wnum := length_hostWords _ hdr wnum
  have hle := wordSum_le words
  have hwide : words.length * 65535 ≤ 65536 * 65535 := Nat.mul_le_mul_right _ (by omega)
  have hzero : ((0 : BitVec 32)).toNat = 0 := rfl
  have hsum : (words.foldl addWord 0).toNat = wordSum words := by
    rw [foldl_addWord_toNat 0 (by omega), hzero, Nat.zero_add]
  have hrest : segmentWords (setLe16 mem (hdr + 2 * field) 0) (hdr + 2 * wnum) n =
      segmentWords mem (hdr + 2 * wnum) n :=
    segmentWords_congr fun a ha _ => setLe16_of_ne _ (by omega) (by omega)
  have heven : ([] : List Byte).length % 2 = 0 := rfl
  have hshort : ([] : List Byte).length ≤ 64 := Nat.zero_le 64
  have hbytes := wordSum_map_htonb16 heven (calcChecksumOnce mem hdr (2 * field) wnum) hdr
    (2 * wnum + n)
  rw [List.nil_append] at hbytes
  have hsmall := length_nboWords_segment hshort (calcChecksumOnce mem hdr (2 * field) wnum) hdr hn
  rw [List.nil_append] at hsmall
  rw [verifies_iff hsmall, hbytes, calcChecksumOnce, wordSum_setLe16 _ _ _ _ _ (by omega),
    setLe16_setLe16, segmentWords_add, hrest, wordSum_append, foldOnce_toNat, hsum]
  have hcomm (a b c : ℕ) : 0 + (a + b + c) = a + c + b := by omega
  change AllOnes 65536 (0 + _) ↔ _
  rw [hcomm]
  exact allOnes_add_once (by decide) _ _

end Xdpd.Classifier
