import Xdpd.Classifier.Parser
import Xdpd.Lib.OnesComplement

/-!
# The checksum routines

`ietf_rfc1071_checksum_nbo` is the checksum of a buffer, its words read in network order.  The
routines for TCP, UDP, ICMPv6 and GRE add up the words of a pseudo header and of a segment in
memory, as a little-endian host reads them, and write the result as the host writes it.  The
addresses of an IPv4 pseudo header are words of the host whose bytes are in network order.
-/

namespace Xdpd.Classifier

open Xdpd.Lib

/-! ## Words of the host -/

/-- Two bytes as the host reads them. -/
def le16 (mem : ℕ → Byte) (a : ℕ) : BitVec 16 :=
  mem (a + 1) ++ mem a

/-- The memory after the host has written a word. -/
def setLe16 (mem : ℕ → Byte) (a : ℕ) (v : BitVec 16) : ℕ → Byte :=
  Function.update (Function.update mem a (v.setWidth 8)) (a + 1) (v.extractLsb' 8 8)

/-- `HTONB16`. -/
def htonb16 (v : BitVec 16) : BitVec 16 :=
  v.setWidth 8 ++ v.extractLsb' 8 8

/-! ## The sum -/

/-- `sum += word16`. -/
def addWord (sum : BitVec 32) (word16 : BitVec 16) : BitVec 32 :=
  sum + word16.setWidth 32

/-- `sum = (sum & 0xffff) + (sum >> 16)`. -/
def foldStep (sum : BitVec 32) : BitVec 32 :=
  (sum &&& (0xffff : BitVec 32)) + (sum >>> 16)

lemma foldStep_toNat (sum : BitVec 32) : (foldStep sum).toNat = endAround 65536 sum.toNat := by
  have hlow : (sum &&& (0xffff : BitVec 32)).toNat = sum.toNat % 65536 := by
    have hmask : ((0xffff : BitVec 32)).toNat = 2 ^ 16 - 1 := rfl
    rw [BitVec.toNat_and, hmask, Nat.and_two_pow_sub_one_eq_mod]
  have hhigh : (sum >>> 16).toNat = sum.toNat / 65536 := by
    rw [BitVec.toNat_ushiftRight, Nat.shiftRight_eq_div_pow]
  have hlt : sum.toNat < 2 ^ 32 := sum.isLt
  rw [foldStep, BitVec.toNat_add, hlow, hhigh, endAround, Nat.mod_eq_of_lt (by omega)]

/-- `while (sum >> 16)`: the sum is folded until one word is left. -/
def foldSum (sum : BitVec 32) : BitVec 32 :=
  if sum.toNat < 65536 then sum else foldSum (foldStep sum)
termination_by sum.toNat
decreasing_by
  rename_i hlarge
  rw [foldStep_toNat]
  exact endAround_lt (by decide) (Nat.le_of_not_lt hlarge)

/-- `do .. while (sum >> 16)`. -/
def foldDoWhile (sum : BitVec 32) : BitVec 32 :=
  foldSum (foldStep sum)

/-- The words of a buffer in network order.  A left-over byte counts as the first of a word. -/
def nboWords : List Byte → List (BitVec 16)
  | b0 :: b1 :: buf => (b0 ++ b1) :: nboWords buf
  | [b0] => [b0 ++ (0 : Byte)]
  | [] => []

/-- `ietf_rfc1071_checksum_nbo`. -/
def ietfRfc1071ChecksumNbo (buf : List Byte) : BitVec 16 :=
  (~~~ foldSum ((nboWords buf).foldl addWord 0)).setWidth 16

/-- The words of a buffer as the host reads them.  A left-over byte is a word of its own. -/
def hboWords : List Byte → List (BitVec 16)
  | b0 :: b1 :: buf => (b1 ++ b0) :: hboWords buf
  | [b0] => [b0.setWidth 16]
  | [] => []

/-- `ietf_rfc1071_checksum_hbo`. -/
def ietfRfc1071ChecksumHbo (buf : List Byte) : BitVec 16 :=
  htonb16 ((~~~ foldSum ((hboWords buf).foldl addWord 0)).setWidth 16)

/-! ## The routines -/

section Routines

variable (mem : ℕ → Byte) (hdr : ℕ)

/-- The words that are added for a segment: `length / 2` words, and the last byte if the length is
odd. -/
def segmentWords (length : ℕ) : List (BitVec 16) :=
  (List.range (length / 2)).map (fun i => le16 mem (hdr + 2 * i)) ++
    if length % 2 = 1 then [(mem (hdr + (length - 1))).setWidth 16] else []

/-- The words that are added for an IPv4 pseudo header. -/
def pseudoWordsV4 (ip_src ip_dst : BitVec 32) (ip_proto : Byte) (length : BitVec 16) :
    List (BitVec 16) :=
  [le16 (leBytes ip_src) 0, le16 (leBytes ip_src) 2, le16 (leBytes ip_dst) 0,
   le16 (leBytes ip_dst) 2, htonb16 (ip_proto.setWidth 16), htonb16 length]

/-- The words that are added for an IPv6 pseudo header. -/
def pseudoWordsV6 (ip_src ip_dst : ℕ → Byte) (ip_proto : Byte) (length : BitVec 16) :
    List (BitVec 16) :=
  (List.range 8).map (fun i => le16 ip_src (2 * i)) ++
    (List.range 8).map (fun i => le16 ip_dst (2 * i)) ++
      [htonb16 (ip_proto.setWidth 16), htonb16 length]

/-- All words that a routine adds, in their order, after it has set the field at `off` to zero. -/
def addedWords (off : ℕ) (pseudo : List (BitVec 16)) (length : BitVec 16) : List (BitVec 16) :=
  pseudo ++ segmentWords (setLe16 mem (hdr + off) 0) hdr length.toNat

/-- The memory after a routine with its checksum field at `off`. -/
def calcChecksum (off : ℕ) (pseudo : List (BitVec 16)) (length : BitVec 16) : ℕ → Byte :=
  setLe16 (setLe16 mem (hdr + off) 0) (hdr + off)
    ((~~~ foldDoWhile ((addedWords mem hdr off pseudo length).foldl addWord 0)).setWidth 16)

/-- `tcpv4_calc_checksum`. -/
def tcpv4CalcChecksum (ip_src ip_dst : BitVec 32) (ip_proto : Byte) (length : BitVec 16) :
    ℕ → Byte :=
  calcChecksum mem hdr 16 (pseudoWordsV4 ip_src ip_dst ip_proto length) length

/-- `tcpv6_calc_checksum`. -/
def tcpv6CalcChecksum (ip_src ip_dst : ℕ → Byte) (ip_proto : Byte) (length : BitVec 16) :
    ℕ → Byte :=
  calcChecksum mem hdr 16 (pseudoWordsV6 ip_src ip_dst ip_proto length) length

/-- `udpv4_calc_checksum`. -/
def udpv4CalcChecksum (ip_src ip_dst : BitVec 32) (ip_proto : Byte) (length : BitVec 16) :
    ℕ → Byte :=
  calcChecksum mem hdr 6 (pseudoWordsV4 ip_src ip_dst ip_proto length) length

/-- `udpv6_calc_checksum`. -/
def udpv6CalcChecksum (ip_src ip_dst : ℕ → Byte) (ip_proto : Byte) (length : BitVec 16) :
    ℕ → Byte :=
  calcChecksum mem hdr 6 (pseudoWordsV6 ip_src ip_dst ip_proto length) length

/-- `icmpv6_calc_checksum`. -/
def icmpv6CalcChecksum (ip_src ip_dst : ℕ → Byte) (ip_proto : Byte) (length : BitVec 16) :
    ℕ → Byte :=
  calcChecksum mem hdr 2 (pseudoWordsV6 ip_src ip_dst ip_proto length) length

/-- `grev4_calc_checksum`: there is no pseudo header for GRE. -/
def grev4CalcChecksum (_ip_src _ip_dst : BitVec 32) (_ip_proto : Byte) (length : BitVec 16) :
    ℕ → Byte :=
  calcChecksum mem hdr 4 [] length

/-- `grev6_calc_checksum`: there is no pseudo header for GRE. -/
def grev6CalcChecksum (_ip_src _ip_dst : ℕ → Byte) (_ip_proto : Byte) (length : BitVec 16) :
    ℕ → Byte :=
  calcChecksum mem hdr 4 [] length

end Routines

/-! ## What a routine is to store -/

/-- The bytes of an IPv4 pseudo header. -/
def pseudoHeaderV4 (ip_src ip_dst : BitVec 32) (ip_proto : Byte) (length : BitVec 16) : List Byte :=
  (List.range 4).map (leBytes ip_src) ++ (List.range 4).map (leBytes ip_dst) ++
    [0, ip_proto, length.extractLsb' 8 8, length.setWidth 8]

/-- The bytes of an IPv6 pseudo header, whose length has 32 bits and comes before the protocol. -/
def pseudoHeaderV6 (ip_src ip_dst : ℕ → Byte) (ip_proto : Byte) (length : BitVec 16) : List Byte :=
  (List.range 16).map ip_src ++ (List.range 16).map ip_dst ++
    [0, 0, length.extractLsb' 8 8, length.setWidth 8, 0, 0, 0, ip_proto]

/-- The bytes of a segment. -/
def segment (mem : ℕ → Byte) (hdr length : ℕ) : List Byte :=
  (List.range length).map fun i => mem (hdr + i)

/-- No addition of these words, one after the other, overflows 32 bits. -/
def NoOverflow (words : List (BitVec 16)) : Prop :=
  ∀ added word rest, words = added ++ word :: rest →
    (added.foldl addWord 0).toNat + word.toNat < 2 ^ 32

/-- The memory `mem'` is `mem` with the checksum of the pseudo header and of the segment in the
field at `off`, which counts as zero in it. -/
structure StoresChecksum (mem mem' : ℕ → Byte) (hdr off : ℕ) (pseudo : List Byte) (length : ℕ) :
    Prop where
  checksum : be16 mem' (hdr + off) =
    ietfRfc1071ChecksumNbo (pseudo ++ segment (setLe16 mem (hdr + off) 0) hdr length)
  frame : ∀ a, a ≠ hdr + off → a ≠ hdr + off + 1 → mem' a = mem a

/-! ## Bytes and words -/

/-- A word of two bytes. -/
lemma toNat_append_byte (b0 b1 : Byte) : (b0 ++ b1).toNat = b0.toNat * 256 + b1.toNat := by
  rw [BitVec.toNat_append, Nat.shiftLeft_eq, Nat.mul_comm b0.toNat]
  exact (Nat.two_pow_add_eq_or_of_lt b1.isLt b0.toNat).symm

lemma toNat_setWidth_eight (v : BitVec 16) : (v.setWidth 8).toNat = v.toNat % 256 :=
  BitVec.toNat_setWidth ..

lemma toNat_extractLsb'_eight (v : BitVec 16) : (v.extractLsb' 8 8).toNat = v.toNat / 256 := by
  have hlt : v.toNat < 2 ^ 16 := v.isLt
  rw [BitVec.extractLsb'_toNat, Nat.shiftRight_eq_div_pow, Nat.mod_eq_of_lt (by omega)]

/-- Swapping the bytes of a word swaps the halves of its value. -/
lemma htonb16_toNat (v : BitVec 16) : (htonb16 v).toNat = swapHalves 256 v.toNat := by
  rw [htonb16, toNat_append_byte, toNat_setWidth_eight, toNat_extractLsb'_eight, swapHalves]

lemma htonb16_append (b0 b1 : Byte) : htonb16 (b0 ++ b1) = b1 ++ b0 := by
  have hlt : b1.toNat < 2 ^ 8 := b1.isLt
  refine BitVec.eq_of_toNat_eq ?_
  rw [htonb16_toNat, swapHalves, toNat_append_byte, toNat_append_byte]
  omega

lemma htonb16_htonb16 (v : BitVec 16) : htonb16 (htonb16 v) = v := by
  have hlt : v.toNat < 2 ^ 16 := v.isLt
  refine BitVec.eq_of_toNat_eq ?_
  rw [htonb16_toNat, htonb16_toNat, swapHalves, swapHalves]
  omega

/-- A word that the host writes is read back in network order with its bytes swapped. -/
lemma be16_setLe16 (mem : ℕ → Byte) (a : ℕ) (v : BitVec 16) :
    be16 (setLe16 mem a v) a = htonb16 v := by
  rw [be16, setLe16, Function.update_of_ne (Nat.ne_of_lt (Nat.lt_succ_self a)),
    Function.update_self, Function.update_self, htonb16]

lemma setLe16_of_ne {mem : ℕ → Byte} {a i : ℕ} (v : BitVec 16) (h : i ≠ a) (h' : i ≠ a + 1) :
    setLe16 mem a v i = mem i := by
  rw [setLe16, Function.update_of_ne h', Function.update_of_ne h]

lemma setLe16_congr {mem mem' : ℕ → Byte} {a i : ℕ} {v : BitVec 16} (h : mem' i = mem i) :
    setLe16 mem' a v i = setLe16 mem a v i := by
  rw [setLe16, setLe16]
  simp only [Function.update_apply, h]

/-- Two bytes that are the same are the same word. -/
lemma be16_congr {mem mem' : ℕ → Byte} {a : ℕ} (h : mem' a = mem a)
    (h' : mem' (a + 1) = mem (a + 1)) : be16 mem' a = be16 mem a := by
  rw [be16, be16, h, h']

lemma setWidth_sixteen (b : Byte) : b.setWidth 16 = (0 : Byte) ++ b := by
  refine BitVec.eq_of_toNat_eq ?_
  rw [toNat_append_byte, BitVec.toNat_setWidth_of_le (by decide)]
  exact (Nat.zero_add _).symm

lemma le16_eq (mem : ℕ → Byte) (a : ℕ) : le16 mem a = htonb16 (be16 mem a) :=
  (htonb16_append _ _).symm

/-! ## Sums -/

/-- The sum of the words as numbers. -/
def wordSum (words : List (BitVec 16)) : ℕ :=
  (words.map BitVec.toNat).sum

@[simp] lemma wordSum_append (words words' : List (BitVec 16)) :
    wordSum (words ++ words') = wordSum words + wordSum words' := by
  rw [wordSum, List.map_append, List.sum_append, wordSum, wordSum]

@[simp] lemma wordSum_cons (word : BitVec 16) (words : List (BitVec 16)) :
    wordSum (word :: words) = word.toNat + wordSum words := rfl

@[simp] lemma wordSum_nil : wordSum [] = 0 := rfl

lemma wordSum_le (words : List (BitVec 16)) : wordSum words ≤ words.length * 65535 := by
  induction words with
  | nil => exact le_refl 0
  | cons word words ih =>
      have hlt : word.toNat < 2 ^ 16 := word.isLt
      rw [wordSum_cons, List.length_cons, Nat.add_mul]
      omega

/-- As long as their number is below `65537`, the words add up without overflow. -/
lemma foldl_addWord_toNat {words : List (BitVec 16)} (sum : BitVec 32)
    (h : sum.toNat + wordSum words < 2 ^ 32) :
    (words.foldl addWord sum).toNat = sum.toNat + wordSum words := by
  induction words generalizing sum with
  | nil => rfl
  | cons word words ih =>
      rw [wordSum_cons] at h
      have hadd : (addWord sum word).toNat = sum.toNat + word.toNat := by
        rw [addWord, BitVec.toNat_add, BitVec.toNat_setWidth_of_le (by decide),
          Nat.mod_eq_of_lt (by omega)]
      rw [List.foldl_cons, ih _ (by omega), hadd, wordSum_cons, Nat.add_assoc]

lemma noOverflow_of_length {words : List (BitVec 16)} (h : words.length ≤ 65537) :
    NoOverflow words := by
  rintro added word rest rfl
  have hle := wordSum_le (added ++ word :: rest)
  have hlen : (added ++ word :: rest).length * 65535 ≤ 65537 * 65535 := Nat.mul_le_mul_right _ h
  rw [wordSum_append, wordSum_cons] at hle
  have hzero : ((0 : BitVec 32)).toNat = 0 := rfl
  rw [foldl_addWord_toNat 0 (by omega), hzero]
  omega

/-- Folding leaves one word of the sum. -/
lemma isFold_foldSum (sum : BitVec 32) : IsFold 65536 sum.toNat (foldSum sum).toNat := by
  induction sum using foldSum.induct with
  | case1 sum hsmall =>
      rw [foldSum, if_pos hsmall]
      exact .of_lt hsmall
  | case2 sum hlarge ih =>
      rw [foldSum, if_neg hlarge]
      rw [foldStep_toNat] at ih
      exact .of_endAround (by decide) ih

lemma isFold_foldDoWhile (sum : BitVec 32) : IsFold 65536 sum.toNat (foldDoWhile sum).toNat := by
  have hfold := isFold_foldSum (foldStep sum)
  rw [foldStep_toNat] at hfold
  exact .of_endAround (by decide) hfold

/-- The complement of one word, in 16 bits. -/
lemma toNat_not_setWidth {sum : BitVec 32} (h : sum.toNat < 65536) :
    ((~~~ sum).setWidth 16).toNat = 65535 - sum.toNat := by
  rw [BitVec.toNat_setWidth, BitVec.toNat_not]
  omega

/-- What is left of the words of a buffer with their bytes swapped is the complement of the checksum
with its bytes swapped. -/
lemma toNat_htonb16_checksumNbo {buf : List Byte} {f : ℕ} (hbuf : (nboWords buf).length ≤ 65537)
    (hhost : IsFold 65536 (wordSum ((nboWords buf).map htonb16)) f) :
    (htonb16 (ietfRfc1071ChecksumNbo buf)).toNat = 65535 - f := by
  have hle := wordSum_le (nboWords buf)
  have hwide := Nat.mul_le_mul_right 65535 hbuf
  have hzero : ((0 : BitVec 32)).toNat = 0 := rfl
  have hnbo := isFold_foldSum ((nboWords buf).foldl addWord 0)
  rw [foldl_addWord_toNat 0 (by omega), hzero, Nat.zero_add] at hnbo
  have hswap : wordSum ((nboWords buf).map htonb16) =
      (((nboWords buf).map BitVec.toNat).map (swapHalves 256)).sum := by
    rw [wordSum, List.map_map, List.map_map]
    exact congrArg List.sum (List.map_congr_left fun v _ => htonb16_toNat v)
  rw [hswap] at hhost
  have heq := hnbo.map_swapHalves (by decide : 1 < 256) hhost
  rw [heq, htonb16_toNat, ietfRfc1071ChecksumNbo, toNat_not_setWidth hnbo.lt, swapHalves,
    swapHalves]
  have hlt := hnbo.lt
  omega

/-- Words that have the same sum as those of a buffer with their bytes swapped leave the checksum
of the buffer with its bytes swapped. -/
lemma foldDoWhile_eq {words : List (BitVec 16)} {buf : List Byte}
    (hsum : wordSum words = wordSum ((nboWords buf).map htonb16))
    (hwords : words.length ≤ 65537) (hbuf : (nboWords buf).length ≤ 65537) :
    (~~~ foldDoWhile (words.foldl addWord 0)).setWidth 16 =
      htonb16 (ietfRfc1071ChecksumNbo buf) := by
  have hle := wordSum_le words
  have hwide := Nat.mul_le_mul_right 65535 hwords
  have hzero : ((0 : BitVec 32)).toNat = 0 := rfl
  have hhost := isFold_foldDoWhile (words.foldl addWord 0)
  rw [foldl_addWord_toNat 0 (by omega), hzero, Nat.zero_add, hsum] at hhost
  refine BitVec.eq_of_toNat_eq ?_
  rw [toNat_not_setWidth hhost.lt, toNat_htonb16_checksumNbo hbuf hhost]

/-! ## Pseudo headers and segments -/

/-- The words of a buffer of an even length come before those of what follows. -/
lemma nboWords_append {buf : List Byte} (h : buf.length % 2 = 0) (buf' : List Byte) :
    nboWords (buf ++ buf') = nboWords buf ++ nboWords buf' := by
  induction buf using nboWords.induct with
  | case1 b0 b1 buf ih =>
      rw [List.length_cons, List.length_cons] at h
      rw [List.cons_append, List.cons_append, nboWords, nboWords, ih (by omega), List.cons_append]
  | case2 b0 =>
      rw [List.length_singleton] at h
      exact absurd h (by decide)
  | case3 => rfl

lemma length_nboWords (buf : List Byte) : (nboWords buf).length = (buf.length + 1) / 2 := by
  induction buf using nboWords.induct with
  | case1 b0 b1 buf ih =>
      rw [nboWords, List.length_cons, ih, List.length_cons, List.length_cons]
      omega
  | case2 b0 => rw [nboWords, List.length_singleton, List.length_singleton]
  | case3 => rfl

lemma segment_succ_succ (mem : ℕ → Byte) (hdr n : ℕ) :
    segment mem hdr (n + 2) = mem hdr :: mem (hdr + 1) :: segment mem (hdr + 2) n := by
  rw [segment, List.range_succ_eq_map, List.range_succ_eq_map, segment]
  simp only [List.map_cons, List.map_map, Nat.add_zero]
  refine congrArg _ (congrArg _ (List.map_congr_left fun i _ => congrArg mem ?_))
  change hdr + (i + 1 + 1) = hdr + 2 + i
  omega

lemma segmentWords_succ_succ (mem : ℕ → Byte) (hdr n : ℕ) :
    segmentWords mem hdr (n + 2) = le16 mem hdr :: segmentWords mem (hdr + 2) n := by
  have hdiv : (n + 2) / 2 = n / 2 + 1 := by omega
  have hmod : (n + 2) % 2 = n % 2 := by omega
  rw [segmentWords, segmentWords, hdiv, hmod, List.range_succ_eq_map]
  simp only [List.map_cons, List.map_map, Nat.mul_zero, Nat.add_zero, List.cons_append]
  refine congrArg _ (congrArg₂ _ (List.map_congr_left fun i _ => congrArg (le16 mem) ?_) ?_)
  · change hdr + 2 * (i + 1) = hdr + 2 + 2 * i
    omega
  · by_cases hodd : n % 2 = 1
    · have hlast : hdr + (n + 2 - 1) = hdr + 2 + (n - 1) := by omega
      rw [if_pos hodd, if_pos hodd, hlast]
    · rw [if_neg hodd, if_neg hodd]

/-- The words that are added for a segment are those of its bytes, as the host reads them. -/
lemma segmentWords_eq (mem : ℕ → Byte) (hdr length : ℕ) :
    segmentWords mem hdr length = (nboWords (segment mem hdr length)).map htonb16 := by
  induction length using Nat.twoStepInduction generalizing hdr with
  | zero => rfl
  | one =>
      have hword : htonb16 (mem hdr ++ (0 : Byte)) = (mem hdr).setWidth 16 := by
        rw [htonb16_append, setWidth_sixteen]
      exact congrArg (fun w => [w]) hword.symm
  | more n ih _ =>
      rw [segmentWords_succ_succ, segment_succ_succ, nboWords, List.map_cons, ih, le16_eq]
      rfl

lemma length_segmentWords (mem : ℕ → Byte) (hdr length : ℕ) :
    (segmentWords mem hdr length).length = (length + 1) / 2 := by
  rw [segmentWords_eq, List.length_map, length_nboWords, segment, List.length_map,
    List.length_range]

/-- The words of an address. -/
lemma addressWords_eq (addr : ℕ → Byte) (n : ℕ) :
    (List.range n).map (fun i => le16 addr (2 * i)) =
      (nboWords ((List.range (2 * n)).map addr)).map htonb16 := by
  have hdiv : 2 * n / 2 = n := by omega
  have hmod : ¬ 2 * n % 2 = 1 := by omega
  have hwords := segmentWords_eq addr 0 (2 * n)
  rw [segmentWords, segment, hdiv, if_neg hmod, List.append_nil] at hwords
  simpa only [Nat.zero_add] using hwords

/-- The words that are added for an IPv4 pseudo header are those of its bytes. -/
lemma wordSum_pseudoWordsV4 (ip_src ip_dst : BitVec 32) (ip_proto : Byte) (length : BitVec 16) :
    wordSum (pseudoWordsV4 ip_src ip_dst ip_proto length) =
      wordSum ((nboWords (pseudoHeaderV4 ip_src ip_dst ip_proto length)).map htonb16) := by
  have hsrc := addressWords_eq (leBytes ip_src) 2
  have hdst := addressWords_eq (leBytes ip_dst) 2
  rw [pseudoHeaderV4, nboWords_append (by simp), nboWords_append (by simp), List.map_append,
    List.map_append, ← hsrc, ← hdst, pseudoWordsV4, setWidth_sixteen]
  simp only [nboWords, List.map_cons, List.map_nil, htonb16_append]
  rfl

/-- The words that are added for an IPv6 pseudo header are those of its bytes, but for their order
and for words that are zero. -/
lemma wordSum_pseudoWordsV6 (ip_src ip_dst : ℕ → Byte) (ip_proto : Byte) (length : BitVec 16) :
    wordSum (pseudoWordsV6 ip_src ip_dst ip_proto length) =
      wordSum ((nboWords (pseudoHeaderV6 ip_src ip_dst ip_proto length)).map htonb16) := by
  have hzero : ((0 : Byte) ++ (0 : Byte)).toNat = 0 := rfl
  have hsrc := addressWords_eq ip_src 8
  have hdst := addressWords_eq ip_dst 8
  rw [pseudoHeaderV6, nboWords_append (by simp), nboWords_append (by simp), List.map_append,
    List.map_append, ← hsrc, ← hdst, pseudoWordsV6, setWidth_sixteen]
  simp only [nboWords, List.map_cons, List.map_nil, htonb16_append, wordSum_append, wordSum_cons,
    wordSum_nil, hzero]
  have hlength : htonb16 length = length.setWidth 8 ++ length.extractLsb' 8 8 := rfl
  rw [hlength]
  omega

/-! ## The routines store the checksum -/

/-- What a routine stores, whatever its pseudo header. -/
lemma storesChecksum_calcChecksum (mem : ℕ → Byte) (hdr off : ℕ) (length : BitVec 16)
    {pseudo : List (BitVec 16)} {header : List Byte}
    (hsum : wordSum pseudo = wordSum ((nboWords header).map htonb16))
    (heven : header.length % 2 = 0) (hpseudo : pseudo.length ≤ 32) (hheader : header.length ≤ 64) :
    StoresChecksum mem (calcChecksum mem hdr off pseudo length) hdr off header length.toNat ∧
      NoOverflow (addedWords mem hdr off pseudo length) := by
  have hlt : length.toNat < 2 ^ 16 := length.isLt
  have hadded : (addedWords mem hdr off pseudo length).length ≤ 65537 := by
    rw [addedWords, List.length_append, length_segmentWords]
    omega
  have hbuf : (nboWords (header ++ segment (setLe16 mem (hdr + off) 0) hdr length.toNat)).length ≤
      65537 := by
    rw [length_nboWords, List.length_append, segment, List.length_map, List.length_range]
    omega
  have hwords : wordSum (addedWords mem hdr off pseudo length) =
      wordSum ((nboWords (header ++
        segment (setLe16 mem (hdr + off) 0) hdr length.toNat)).map htonb16) := by
    rw [addedWords, segmentWords_eq, nboWords_append heven, List.map_append, wordSum_append,
      wordSum_append, hsum]
  refine ⟨⟨?_, fun a h h' => ?_⟩, noOverflow_of_length hadded⟩
  · rw [calcChecksum, be16_setLe16, foldDoWhile_eq hwords hadded hbuf, htonb16_htonb16]
  · rw [calcChecksum, setLe16_of_ne _ h h', setLe16_of_ne _ h h']

/-- **The checksum routines.**  For every memory, every header in it, all addresses, protocols and
lengths, each routine stores the checksum of its pseudo header and of the segment in the checksum
field, changes no other byte, and adds up its words without overflow.  GRE has no pseudo header. -/
theorem calcChecksum_rfc1071 (mem : ℕ → Byte) (hdr : ℕ) (ip_src ip_dst : BitVec 32)
    (ip6_src ip6_dst : ℕ → Byte) (ip_proto : Byte) (length : BitVec 16) :
    (StoresChecksum mem (tcpv4CalcChecksum mem hdr ip_src ip_dst ip_proto length) hdr 16
        (pseudoHeaderV4 ip_src ip_dst ip_proto length) length.toNat ∧
      NoOverflow (addedWords mem hdr 16 (pseudoWordsV4 ip_src ip_dst ip_proto length) length)) ∧
    (StoresChecksum mem (tcpv6CalcChecksum mem hdr ip6_src ip6_dst ip_proto length) hdr 16
        (pseudoHeaderV6 ip6_src ip6_dst ip_proto length) length.toNat ∧
      NoOverflow (addedWords mem hdr 16 (pseudoWordsV6 ip6_src ip6_dst ip_proto length) length)) ∧
    (StoresChecksum mem (udpv4CalcChecksum mem hdr ip_src ip_dst ip_proto length) hdr 6
        (pseudoHeaderV4 ip_src ip_dst ip_proto length) length.toNat ∧
      NoOverflow (addedWords mem hdr 6 (pseudoWordsV4 ip_src ip_dst ip_proto length) length)) ∧
    (StoresChecksum mem (udpv6CalcChecksum mem hdr ip6_src ip6_dst ip_proto length) hdr 6
        (pseudoHeaderV6 ip6_src ip6_dst ip_proto length) length.toNat ∧
      NoOverflow (addedWords mem hdr 6 (pseudoWordsV6 ip6_src ip6_dst ip_proto length) length)) ∧
    (StoresChecksum mem (icmpv6CalcChecksum mem hdr ip6_src ip6_dst ip_proto length) hdr 2
        (pseudoHeaderV6 ip6_src ip6_dst ip_proto length) length.toNat ∧
      NoOverflow (addedWords mem hdr 2 (pseudoWordsV6 ip6_src ip6_dst ip_proto length) length)) ∧
    (StoresChecksum mem (grev4CalcChecksum mem hdr ip_src ip_dst ip_proto length) hdr 4 []
        length.toNat ∧ NoOverflow (addedWords mem hdr 4 [] length)) ∧
    (StoresChecksum mem (grev6CalcChecksum mem hdr ip6_src ip6_dst ip_proto length) hdr 4 []
        length.toNat ∧ NoOverflow (addedWords mem hdr 4 [] length)) := by
  have hv4 (off : ℕ) := storesChecksum_calcChecksum mem hdr off length
    (wordSum_pseudoWordsV4 ip_src ip_dst ip_proto length) (by simp [pseudoHeaderV4])
    (by simp [pseudoWordsV4]) (by simp [pseudoHeaderV4])
  have hv6 (off : ℕ) := storesChecksum_calcChecksum mem hdr off length
    (wordSum_pseudoWordsV6 ip6_src ip6_dst ip_proto length) (by simp [pseudoHeaderV6])
    (by simp [pseudoWordsV6]) (by simp [pseudoHeaderV6])
  have hgre : StoresChecksum mem (calcChecksum mem hdr 4 [] length) hdr 4 [] length.toNat ∧
      NoOverflow (addedWords mem hdr 4 [] length) :=
    storesChecksum_calcChecksum mem hdr 4 length rfl rfl (Nat.zero_le _) (Nat.zero_le _)
  exact ⟨hv4 16, hv6 16, hv4 6, hv6 6, hv6 2, hgre, hgre⟩

end Xdpd.Classifier
