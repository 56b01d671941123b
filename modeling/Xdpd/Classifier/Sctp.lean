import Xdpd.Classifier.Checksum
import Xdpd.Lib.Crc
import Xdpd.Lib.Memory

/-!
# The checksum of SCTP

`generate_crc32c` takes a byte at a time through a table.  The table is the one of the reflected
code with the polynomial `CRC32C_POLY`, so that what is stored is the CRC32c of the packet.  The
counter of its loop has fewer bits than the length of the buffer: the loop ends if and only if the
buffer has fewer than `2 ^ 32` bytes (`generateCrc32cLoop_iff`).
-/

namespace Xdpd.Classifier

open Xdpd.Lib

/-- `CRC32C_POLY`. -/
def CRC32C_POLY : BitVec 32 := 0x1EDC6F41

/-- `cpc_crc_c`. -/
def cpcCrcC : List (BitVec 32) :=
  [0x00000000, 0xF26B8303, 0xE13B70F7, 0x1350F3F4, 0xC79A971F, 0x35F1141C, 0x26A1E7E8,
   0xD4CA64EB, 0x8AD958CF, 0x78B2DBCC, 0x6BE22838, 0x9989AB3B, 0x4D43CFD0, 0xBF284CD3,
   0xAC78BF27, 0x5E133C24, 0x105EC76F, 0xE235446C, 0xF165B798, 0x030E349B, 0xD7C45070,
   0x25AFD373, 0x36FF2087, 0xC494A384, 0x9A879FA0, 0x68EC1CA3, 0x7BBCEF57, 0x89D76C54,
   0x5D1D08BF, 0xAF768BBC, 0xBC267848, 0x4E4DFB4B, 0x20BD8EDE, 0xD2D60DDD, 0xC186FE29,
   0x33ED7D2A, 0xE72719C1, 0x154C9AC2, 0x061C6936, 0xF477EA35, 0xAA64D611, 0x580F5512,
   0x4B5FA6E6, 0xB93425E5, 0x6DFE410E, 0x9F95C20D, 0x8CC531F9, 0x7EAEB2FA, 0x30E349B1,
   0xC288CAB2, 0xD1D83946, 0x23B3BA45, 0xF779DEAE, 0x05125DAD, 0x1642AE59, 0xE4292D5A,
   0xBA3A117E, 0x4851927D, 0x5B016189, 0xA96AE28A, 0x7DA08661, 0x8FCB0562, 0x9C9BF696,
   0x6EF07595, 0x417B1DBC, 0xB3109EBF, 0xA0406D4B, 0x522BEE48, 0x86E18AA3, 0x748A09A0,
   0x67DAFA54, 0x95B17957, 0xCBA24573, 0x39C9C670, 0x2A993584, 0xD8F2B687, 0x0C38D26C,
   0xFE53516F, 0xED03A29B, 0x1F682198, 0x5125DAD3, 0xA34E59D0, 0xB01EAA24, 0x42752927,
   0x96BF4DCC, 0x64D4CECF, 0x77843D3B, 0x85EFBE38, 0xDBFC821C, 0x2997011F, 0x3AC7F2EB,
   0xC8AC71E8, 0x1C661503, 0xEE0D9600, 0xFD5D65F4, 0x0F36E6F7, 0x61C69362, 0x93AD1061,
   0x80FDE395, 0x72966096, 0xA65C047D, 0x5437877E, 0x4767748A, 0xB50CF789, 0xEB1FCBAD,
   0x197448AE, 0x0A24BB5A, 0xF84F3859, 0x2C855CB2, 0xDEEEDFB1, 0xCDBE2C45, 0x3FD5AF46,
   0x7198540D, 0x83F3D70E, 0x90A324FA, 0x62C8A7F9, 0xB602C312, 0x44694011, 0x5739B3E5,
   0xA55230E6, 0xFB410CC2, 0x092A8FC1, 0x1A7A7C35, 0xE811FF36, 0x3CDB9BDD, 0xCEB018DE,
   0xDDE0EB2A, 0x2F8B6829, 0x82F63B78, 0x709DB87B, 0x63CD4B8F, 0x91A6C88C, 0x456CAC67,
   0xB7072F64, 0xA457DC90, 0x563C5F93, 0x082F63B7, 0xFA44E0B4, 0xE9141340, 0x1B7F9043,
   0xCFB5F4A8, 0x3DDE77AB, 0x2E8E845F, 0xDCE5075C, 0x92A8FC17, 0x60C37F14, 0x73938CE0,
   0x81F80FE3, 0x55326B08, 0xA759E80B, 0xB4091BFF, 0x466298FC, 0x1871A4D8, 0xEA1A27DB,
   0xF94AD42F, 0x0B21572C, 0xDFEB33C7, 0x2D80B0C4, 0x3ED04330, 0xCCBBC033, 0xA24BB5A6,
   0x502036A5, 0x4370C551, 0xB11B4652, 0x65D122B9, 0x97BAA1BA, 0x84EA524E, 0x7681D14D,
   0x2892ED69, 0xDAF96E6A, 0xC9A99D9E, 0x3BC21E9D, 0xEF087A76, 0x1D63F975, 0x0E330A81,
   0xFC588982, 0xB21572C9, 0x407EF1CA, 0x532E023E, 0xA145813D, 0x758FE5D6, 0x87E466D5,
   0x94B49521, 0x66DF1622, 0x38CC2A06, 0xCAA7A905, 0xD9F75AF1, 0x2B9CD9F2, 0xFF56BD19,
   0x0D3D3E1A, 0x1E6DCDEE, 0xEC064EED, 0xC38D26C4, 0x31E6A5C7, 0x22B65633, 0xD0DDD530,
   0x0417B1DB, 0xF67C32D8, 0xE52CC12C, 0x1747422F, 0x49547E0B, 0xBB3FFD08, 0xA86F0EFC,
   0x5A048DFF, 0x8ECEE914, 0x7CA56A17, 0x6FF599E3, 0x9D9E1AE0, 0xD3D3E1AB, 0x21B862A8,
   0x32E8915C, 0xC083125F, 0x144976B4, 0xE622F5B7, 0xF5720643, 0x07198540, 0x590AB964,
   0xAB613A67, 0xB831C993, 0x4A5A4A90, 0x9E902E7B, 0x6CFBAD78, 0x7FAB5E8C, 0x8DC0DD8F,
   0xE330A81A, 0x115B2B19, 0x020BD8ED, 0xF0605BEE, 0x24AA3F05, 0xD6C1BC06, 0xC5914FF2,
   0x37FACCF1, 0x69E9F0D5, 0x9B8273D6, 0x88D28022, 0x7AB90321, 0xAE7367CA, 0x5C18E4C9,
   0x4F48173D, 0xBD23943E, 0xF36E6F75, 0x0105EC76, 0x12551F82, 0xE03E9C81, 0x34F4F86A,
   0xC69F7B69, 0xD5CF889D, 0x27A40B9E, 0x79B737BA, 0x8BDCB4B9, 0x988C474D, 0x6AE7C44E,
   0xBE2DA0A5, 0x4C4623A6, 0x5F16D052, 0xAD7D5351]

/-- `CRC32C(c, d)`. -/
def crc32cStep (c : BitVec 32) (d : Byte) : BitVec 32 :=
  (c >>> 8) ^^^ cpcCrcC.getD ((c ^^^ d.setWidth 32) &&& (0xff : BitVec 32)).toNat 0

/-- `for (i = 0; i < buflen; i++)`, the counter having 32 bits.  `none` is a loop that is still
running when its fuel is used up. -/
def crc32cLoop (buf : List Byte) : ℕ → BitVec 32 → BitVec 32 → Option (BitVec 32)
  | 0, _, _ => none
  | fuel + 1, i, crc32 =>
      if i.toNat < buf.length then
        crc32cLoop buf fuel (i + 1) (crc32cStep crc32 (buf.getD i.toNat 0))
      else some crc32

/-- `generate_crc32c`, as far as the fuel goes.  The bytes of the result come in the opposite
order. -/
def generateCrc32cLoop (fuel : ℕ) (buf : List Byte) : Option (BitVec 32) :=
  (crc32cLoop buf fuel 0 (~~~ 0)).map fun crc32 => ofLeBytes 4 (swapBytes 4 (leBytes (~~~ crc32)))

/-- What `generate_crc32c` returns, for the buffers whose bytes its counter can count. -/
def generateCrc32c (buf : List Byte) : BitVec 32 :=
  let result := ~~~ buf.foldl crc32cStep (~~~ 0)
  ofLeBytes 4 (swapBytes 4 (leBytes result))

/-- `HTONB32`. -/
def htonb32 (v : BitVec 32) : BitVec 32 :=
  ofLeBytes 4 (swapBytes 4 (leBytes v))

/-- `sctp_calc_checksum`. -/
def sctpCalcChecksum (mem : ℕ → Byte) (hdr : ℕ) (length : BitVec 16) : ℕ → Byte :=
  let mem := copyTo (hdr + 8) 4 (leBytes (0 : BitVec 32)) mem
  let crc32 := generateCrc32c (segment mem hdr length.toNat)
  copyTo (hdr + 8) 4 (leBytes (htonb32 crc32)) mem

/-! ## The checksum that is stored -/

/-- The CRC32c of a buffer. -/
def crc32c (buf : List Byte) : BitVec 32 :=
  ~~~ crc CRC32C_POLY.reverse (~~~ 0) buf

/-- The table has what is left of each byte. -/
lemma getD_cpcCrcC : ∀ i < 256,
    cpcCrcC.getD i 0 = crcShifts CRC32C_POLY.reverse 8 (BitVec.ofNat 32 i) := by
  decide +kernel

lemma crc32cStep_eq (c : BitVec 32) (d : Byte) :
    crc32cStep c d = crcByte CRC32C_POLY.reverse c d := by
  set x := c ^^^ d.setWidth 32
  have hmask : ((0xff : BitVec 32)).toNat = 2 ^ 8 - 1 := rfl
  have hindex : (x &&& (0xff : BitVec 32)).toNat = x.toNat % 256 := by
    rw [BitVec.toNat_and, hmask, Nat.and_two_pow_sub_one_eq_mod]
  have hlow : BitVec.ofNat 32 (x.toNat % 256) = crcLow 8 x := by
    refine BitVec.eq_of_toNat_eq ?_
    rw [crcLow, BitVec.toNat_setWidth_of_le (by decide), BitVec.toNat_setWidth, BitVec.toNat_ofNat]
    omega
  rw [crc32cStep, crcByte_eq, hindex, getD_cpcCrcC _ (Nat.mod_lt _ (by decide)), hlow]

lemma generateCrc32c_eq (buf : List Byte) :
    generateCrc32c buf = ofLeBytes 4 (swapBytes 4 (leBytes (crc32c buf))) := by
  have hstep : crc32cStep = crcByte CRC32C_POLY.reverse :=
    funext fun c => funext fun d => crc32cStep_eq c d
  rw [generateCrc32c, hstep]
  rfl

/-- The bytes of the result are put back in their order when it is stored. -/
lemma leBytes_htonb32_generateCrc32c (buf : List Byte) {i : ℕ} (hi : i < 4) :
    leBytes (htonb32 (generateCrc32c buf)) i = leBytes (crc32c buf) i := by
  rw [htonb32, leBytes_ofLeBytes _ hi, swapBytes, generateCrc32c_eq,
    leBytes_ofLeBytes _ (by omega)]
  exact swapBytes_swapBytes (leBytes (crc32c buf)) hi

/-! ## The loop -/

/-- From the byte `n` on, the loop takes what is left of the buffer. -/
lemma crc32cLoop_eq {buf : List Byte} (h : buf.length < 2 ^ 32) {fuel n : ℕ}
    (hn : n + fuel = buf.length) (crc32 : BitVec 32) :
    crc32cLoop buf (fuel + 1) (BitVec.ofNat 32 n) crc32 =
      some ((buf.drop n).foldl crc32cStep crc32) := by
  have htoNat : (BitVec.ofNat 32 n).toNat = n := by
    rw [BitVec.toNat_ofNat, Nat.mod_eq_of_lt (by omega)]
  -- by induction on the bytes that are left
  induction fuel generalizing n crc32 with
  | zero =>
      rw [crc32cLoop, htoNat, if_neg (by omega), List.drop_eq_nil_of_le (by omega), List.foldl_nil]
  | succ fuel ih =>
      have hlt : n < buf.length := by omega
      have hnext : BitVec.ofNat 32 n + 1 = BitVec.ofNat 32 (n + 1) := by
        rw [BitVec.ofNat_add]
        rfl
      have hbyte : buf.getD n 0 = buf[n] := by simp [List.getD, hlt]
      have hsucc : (BitVec.ofNat 32 (n + 1)).toNat = n + 1 := by
        rw [BitVec.toNat_ofNat, Nat.mod_eq_of_lt (by omega)]
      rw [crc32cLoop, htoNat, if_pos hlt, hnext, ih (by omega) _ hsucc,
        List.drop_eq_getElem_cons hlt, List.foldl_cons, hbyte]

/-- A counter of 32 bits does not reach the end of a longer buffer. -/
lemma crc32cLoop_eq_none {buf : List Byte} (h : 2 ^ 32 ≤ buf.length) (fuel : ℕ)
    (i crc32 : BitVec 32) : crc32cLoop buf fuel i crc32 = none := by
  induction fuel generalizing i crc32 with
  | zero => rfl
  | succ fuel ih =>
      have hlt : i.toNat < 2 ^ 32 := i.isLt
      rw [crc32cLoop, if_pos (by omega), ih]

lemma generateCrc32cLoop_eq {buf : List Byte} (h : buf.length < 2 ^ 32) :
    generateCrc32cLoop (buf.length + 1) buf = some (generateCrc32c buf) := by
  have hloop := crc32cLoop_eq h (Nat.zero_add buf.length) (~~~ 0)
  rw [List.drop_zero] at hloop
  rw [generateCrc32cLoop]
  exact congrArg (Option.map _) hloop

/-- The memory `mem'` is `mem` with the CRC32c of the packet in its checksum field, which counts as
zero in it. -/
structure StoresCrc32c (mem mem' : ℕ → Byte) (hdr length : ℕ) : Prop where
  checksum : ∀ i < 4, mem' (hdr + 8 + i) =
    leBytes (crc32c (segment (copyTo (hdr + 8) 4 (leBytes (0 : BitVec 32)) mem) hdr length)) i
  frame : ∀ a, a < hdr + 8 ∨ hdr + 12 ≤ a → mem' a = mem a

lemma storesCrc32c_sctpCalcChecksum (mem : ℕ → Byte) (hdr : ℕ) (length : BitVec 16) :
    StoresCrc32c mem (sctpCalcChecksum mem hdr length) hdr length.toNat where
  checksum i hi := by
    rw [sctpCalcChecksum, copyTo_add hi]
    exact leBytes_htonb32_generateCrc32c _ hi
  frame a ha := by
    rw [sctpCalcChecksum]
    rcases ha with ha | ha
    · rw [copyTo_of_lt ha, copyTo_of_lt ha]
    · rw [copyTo_of_le (by omega), copyTo_of_le (by omega)]

/-- **The CRC32c of SCTP.**  `generate_crc32c` returns the CRC32c of the buffer, its bytes in
network order, if and only if the buffer has fewer than `2 ^ 32` bytes; on a longer one it does not
return.  `sctp_calc_checksum`, whose lengths have 16 bits, stores the CRC32c of every packet and
changes no other byte. -/
theorem generateCrc32cLoop_iff (buf : List Byte) :
    ((∃ fuel, generateCrc32cLoop fuel buf = some (ofBeBytes 4 (leBytes (crc32c buf)))) ↔
      buf.length < 2 ^ 32) ∧
    ∀ (mem : ℕ → Byte) (hdr : ℕ) (length : BitVec 16),
      StoresCrc32c mem (sctpCalcChecksum mem hdr length) hdr length.toNat := by
  refine ⟨⟨?_, fun h => ⟨buf.length + 1, ?_⟩⟩, storesCrc32c_sctpCalcChecksum⟩
  · rintro ⟨fuel, hfuel⟩
    by_contra hlarge
    rw [generateCrc32cLoop, crc32cLoop_eq_none (by omega)] at hfuel
    cases hfuel
  · rw [generateCrc32cLoop_eq h, generateCrc32c_eq]
    rfl

/-- For a buffer of `2 ^ 32` zeros the loop does not end. -/
theorem generateCrc32cLoop_zeros :
    ¬ ∃ fuel, generateCrc32cLoop fuel (List.replicate (2 ^ 32) 0) =
      some (ofBeBytes 4 (leBytes (crc32c (List.replicate (2 ^ 32) 0)))) := by
  rintro ⟨fuel, hfuel⟩
  rw [generateCrc32cLoop, crc32cLoop_eq_none (by rw [List.length_replicate])] at hfuel
  cases hfuel

/-- The check value of the code. -/
example : crc32c [0x31, 0x32, 0x33, 0x34, 0x35, 0x36, 0x37, 0x38, 0x39] = 0xe3069283 := by
  decide +kernel

end Xdpd.Classifier
