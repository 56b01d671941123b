import Xdpd.Classifier.Verify

/-!
# Segments with something behind them

A routine is handed more bytes than the segment has.  What it stores verifies for the segment alone
if and only if what is behind it, and the difference in the length of the pseudo header, drop out of
the sum: `StoresChecksum.verifies_iff`, and `verifies_calcChecksumOnce_iff` for a routine that folds
once.
-/

namespace Xdpd.Classifier

open Xdpd.Lib

variable {mem mem' : ℕ → Byte} {hdr n m k : ℕ}

/-! ## The words of a buffer in two parts -/

/-- What follows an odd number of bytes starts in the second half of a word. -/
lemma wordSum_nboWords_append (buf buf' : List Byte) :
    wordSum (nboWords (buf ++ buf')) =
      wordSum (nboWords buf) + wordSum (nboWords (List.replicate (buf.length % 2) 0 ++ buf')) := by
  induction buf using nboWords.induct with
  | case1 b0 b1 buf ih =>
      have hmod : (b0 :: b1 :: buf).length % 2 = buf.length % 2 := by
        rw [List.length_cons, List.length_cons]
        omega
      rw [hmod, List.cons_append, List.cons_append, nboWords, nboWords, wordSum_cons, wordSum_cons,
        ih, Nat.add_assoc]
  | case2 b0 =>
      -- the last byte shares its word with the first one that follows
      cases buf' with
      | nil => simp [nboWords]
      | cons b1 buf' =>
          simp [nboWords, toNat_append_byte]
          omega
  | case3 => simp [nboWords]

lemma length_segment (mem : ℕ → Byte) (hdr n : ℕ) : (segment mem hdr n).length = n := by
  simp [segment]

lemma segment_add (mem : ℕ → Byte) (hdr n m : ℕ) :
    segment mem hdr (n + m) = segment mem hdr n ++ segment mem (hdr + n) m := by
  rw [segment, List.range_add, List.map_append, List.map_map, segment, segment]
  simp [Function.comp_def, Nat.add_assoc]

/-- The words behind a segment of `n` bytes, as a routine adds them. -/
def wordsBehind (mem : ℕ → Byte) (hdr n m : ℕ) : List (BitVec 16) :=
  nboWords (List.replicate (n % 2) 0 ++ segment mem (hdr + n) m)

lemma wordsBehind_congr (h : ∀ a, hdr + n ≤ a → mem' a = mem a) :
    wordsBehind mem' hdr n m = wordsBehind mem hdr n m := by
  rw [wordsBehind, wordsBehind, segment_congr fun a ha _ => h a ha]

lemma wordSum_segment_add (mem : ℕ → Byte) (hdr n m : ℕ) :
    wordSum (nboWords (segment mem hdr (n + m))) =
      wordSum (nboWords (segment mem hdr n)) + wordSum (wordsBehind mem hdr n m) := by
  rw [segment_add, wordSum_nboWords_append, length_segment, wordsBehind]

/-- The word at `2 * k` counts for itself. -/
lemma wordSum_segment_word (mem : ℕ → Byte) (hdr : ℕ) (hn : 2 * k + 2 ≤ n) :
    ∃ rest, n = 2 * k + 2 + rest ∧ wordSum (nboWords (segment mem hdr n)) =
      wordSum (nboWords (segment mem hdr (2 * k))) + ((be16 mem (hdr + 2 * k)).toNat +
        wordSum (nboWords (segment mem (hdr + 2 * k + 2) rest))) := by
  obtain ⟨rest, rfl⟩ := Nat.exists_eq_add_of_le hn
  have heven : (segment mem hdr (2 * k)).length % 2 = 0 := by simp [length_segment]
  refine ⟨rest, rfl, ?_⟩
  rw [Nat.add_assoc, Nat.add_comm 2, segment_add, nboWords_append heven, wordSum_append,
    segment_succ_succ, nboWords, wordSum_cons]
  rfl

/-- A word that is written into a segment counts for itself. -/
lemma wordSum_segment_field (hframe : ∀ a, a ≠ hdr + 2 * k → a ≠ hdr + 2 * k + 1 → mem' a = mem a)
    (hn : 2 * k + 2 ≤ n) :
    wordSum (nboWords (segment mem' hdr n)) =
      wordSum (nboWords (segment (setLe16 mem (hdr + 2 * k) 0) hdr n)) +
        (be16 mem' (hdr + 2 * k)).toNat := by
  obtain ⟨rest, rfl, hsum⟩ := wordSum_segment_word mem' hdr hn
  obtain ⟨rest', hrest, hsum'⟩ := wordSum_segment_word (setLe16 mem (hdr + 2 * k) 0) hdr hn
  obtain rfl : rest = rest' := by omega
  have hzero : (htonb16 0).toNat = 0 := by decide
  have hbefore : segment mem' hdr (2 * k) = segment (setLe16 mem (hdr + 2 * k) 0) hdr (2 * k) :=
    segment_congr fun a _ _ => by
      rw [setLe16_of_ne _ (by omega) (by omega), hframe a (by omega) (by omega)]
  have hafter : segment mem' (hdr + 2 * k + 2) rest =
      segment (setLe16 mem (hdr + 2 * k) 0) (hdr + 2 * k + 2) rest :=
    segment_congr fun a _ _ => by
      rw [setLe16_of_ne _ (by omega) (by omega), hframe a (by omega) (by omega)]
  rw [hsum, hsum', hbefore, hafter, be16_setLe16, hzero]
  omega

/-! ## What is stored, for a shorter segment -/

/-- **The checksum of more than the segment.**  What is stored for one pseudo header and length
verifies for another pseudo header and the first `n` bytes if and only if both have the same sum,
modulo `65535`, unless only the second one is zero. -/
lemma StoresChecksum.verifies_iff {pseudo pseudo' : List Byte} {len : ℕ}
    (h : StoresChecksum mem mem' hdr (2 * k) pseudo len) (heven' : pseudo'.length % 2 = 0)
    (hshort : pseudo.length ≤ 64) (hshort' : pseudo'.length ≤ 64) (hn : 2 * k + 2 ≤ n)
    (hlt : n < 65536) (hlen : len < 65536) {sum sum' : ℕ}
    (hsum : wordSum (nboWords (pseudo ++ segment (setLe16 mem (hdr + 2 * k) 0) hdr len)) = sum)
    (hsum' : wordSum (nboWords (pseudo' ++ segment (setLe16 mem (hdr + 2 * k) 0) hdr n)) = sum') :
    Verifies (pseudo' ++ segment mem' hdr n) ↔
      sum' ≡ sum [MOD 65535] ∧ (sum' = 0 → sum = 0) := by
  have hchecksum := h.checksum
  set buf := pseudo ++ segment (setLe16 mem (hdr + 2 * k) 0) hdr len
  have hwords : (nboWords buf).length ≤ 65537 := length_nboWords_segment hshort _ hdr hlen
  have hle := wordSum_le (nboWords buf)
  have hwide := Nat.mul_le_mul_right 65535 hwords
  have hzero : ((0 : BitVec 32)).toNat = 0 := rfl
  have hfold := isFold_foldSum ((nboWords buf).foldl addWord 0)
  rw [foldl_addWord_toNat 0 (by omega), hzero, Nat.zero_add, hsum] at hfold
  -- the field is a summand of its own, and has the complement of the other sum
  rw [verifies_iff_nboWords (length_nboWords_segment hshort' _ hdr hlt), ← hsum',
    nboWords_append heven', nboWords_append heven', wordSum_append, wordSum_append,
    wordSum_segment_field h.frame hn, hchecksum, ietfRfc1071ChecksumNbo,
    toNat_not_setWidth hfold.lt, ← Nat.add_assoc]
  exact hfold.allOnes_add_iff (by decide)

/-- The same for a routine that folds once, and has no pseudo header. -/
lemma verifies_calcChecksumOnce_iff {wnum : ℕ} (hn : 2 * k + 2 ≤ n) (hlt : n < 65536)
    (hwnum : wnum ≤ 32768) :
    let words := hostWords (setLe16 mem (hdr + 2 * k) 0) hdr wnum
    let zeroed := segmentWords (setLe16 mem (hdr + 2 * k) 0) hdr n
    Verifies (segment (calcChecksumOnce mem hdr (2 * k) wnum) hdr n) ↔
      wordSum zeroed + carryCut words ≡ wordSum words [MOD 65535] ∧
        (wordSum zeroed = 0 → endAround 65536 (wordSum words) % 65536 ≠ 65535) := by
  intro words zeroed
  have hle := wordSum_le words
  have hwide : words.length * 65535 ≤ 32768 * 65535 :=
    Nat.mul_le_mul_right _ (by rw [length_hostWords]; exact hwnum)
  have hzero : ((0 : BitVec 32)).toNat = 0 := rfl
  have hsum : (words.foldl addWord 0).toNat = wordSum words := by
    rw [foldl_addWord_toNat 0 (by omega), hzero, Nat.zero_add]
  have hnil : ([] : List Byte).length ≤ 64 := Nat.zero_le 64
  have hshort := length_nboWords_segment hnil (calcChecksumOnce mem hdr (2 * k) wnum) hdr hlt
  rw [List.nil_append] at hshort
  rw [verifies_iff hshort, ← segmentWords_eq, calcChecksumOnce, wordSum_setLe16 _ _ _ _ _ hn,
    setLe16_setLe16, foldOnce_toNat, hsum]
  exact allOnes_add_once_iff (by decide) (wordSum words) (wordSum zeroed)

end Xdpd.Classifier
