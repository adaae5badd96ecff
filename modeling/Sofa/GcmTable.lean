import Sofa.Lib.Gcm

/-! # The multiplication of GHASH from a table

    `gcm.c` of the vendored library multiplies by the hash key with Shoup's method: a table of
    the 16 multiples of the key by four bits, and a reduction table for the four bits that fall
    out of a shift.  The build takes this path on every processor, since it compiles neither the
    large table nor the two accelerators.

    * `genTable`, `gcmMult`: the code, over two 64-bit words;
    * `genTable_multiple`: what the table holds;
    * `gcmMult_mul`: the product is the one of `Gf128`;
    * **`gcmMult_residue`**: it is the product of the residue ring modulo the polynomial of
      GHASH, for every key and every block. -/

namespace SofaGcmTable

open ByteBlock Gf128
open scoped Gcm

/-! ## Words -/

/-- An entry of `H`, or `u64z`: the words `[0]` and `[1]`, as big-endian values of eight bytes
    each, which is how `gcm_gen_table` packs them before it adds any. -/
structure Words where
  hi : UInt64
  lo : UInt64
  deriving DecidableEq

/-- `MBEDTLS_GET_UINT64_BE`. -/
def getUint64Be (b : Block 8) : UInt64 :=
  ((b 0).toUInt64 <<< 56) ||| ((b 1).toUInt64 <<< 48) ||| ((b 2).toUInt64 <<< 40)
    ||| ((b 3).toUInt64 <<< 32) ||| ((b 4).toUInt64 <<< 24) ||| ((b 5).toUInt64 <<< 16)
    ||| ((b 6).toUInt64 <<< 8) ||| (b 7).toUInt64

/-- `MBEDTLS_PUT_UINT64_BE`. -/
def putUint64Be (w : UInt64) : Block 8 := fun i => (w >>> UInt64.ofNat (56 - 8 * i.val)).toUInt8

/-- The words of sixteen bytes. -/
def words (x : Block 16) : Words where
  hi := getUint64Be fun i => x (Fin.castAdd 8 i)
  lo := getUint64Be fun i => x (Fin.natAdd 8 i)

/-- The sixteen bytes of the words. -/
def putWords (w : Words) : Block 16 := Fin.append (putUint64Be w.hi) (putUint64Be w.lo)

/-- `mbedtls_xor_no_simd` on sixteen bytes. -/
def xorNoSimd (a b : Words) : Words := ⟨a.hi ^^^ b.hi, a.lo ^^^ b.lo⟩

/-! ## The code -/

/-- `gcm_gen_table_rightshift`. -/
def rightshift (src : Words) : Words where
  lo := (src.lo >>> 1) ||| ((src.hi &&& 1) <<< 63)
  hi := (src.hi >>> 1) ^^^ (if src.lo &&& 1 ≠ 0 then (0xE1 : UInt64) <<< 56 else (0 : UInt64))

/-- The table `H` of a context. -/
abbrev Table := Fin 16 → Words

/-- `gcm_gen_table` for the encrypted zero block `h`, in a context of zeros. -/
def genTable (h : Block 16) : Table :=
  let table : Table := Function.update (fun _ => ⟨0, 0⟩) 8 (words h)
  let table := Function.update table 0 ⟨0, 0⟩
  let table := [4, 2, 1].foldl (fun table i =>
    Function.update table i (rightshift (table (i * 2)))) table
  [2, 4, 8].foldl (fun table i => (List.range' 1 (i - 1)).foldl (fun table j =>
    Function.update table (Fin.ofNat 16 (i + j))
      (xorNoSimd (table (Fin.ofNat 16 i)) (table (Fin.ofNat 16 j)))) table) table

/-- `last4`: the product of a nibble with X ^ 128. -/
def last4 : List UInt16 :=
  [0x0000, 0x1c20, 0x3840, 0x2460, 0x7080, 0x6ca0, 0x48c0, 0x54e0,
   0xe100, 0xfd20, 0xd940, 0xc560, 0x9180, 0x8da0, 0xa9c0, 0xb5e0]

/-- The four statements that shift `u64z` by a nibble. -/
def shift4 (z : Words) : Words :=
  let rem := z.lo.toUInt8 &&& 0xf
  { lo := (z.hi <<< 60) ||| (z.lo >>> 4)
    hi := (z.hi >>> 4) ^^^ ((last4.getD rem.toNat 0).toUInt64 <<< 48) }

/-- `H[nibble]`. -/
def entry (table : Table) (nibble : UInt8) : Words := table (Fin.ofNat 16 nibble.toNat)

/-- The low and the high nibble of a byte. -/
def lowNibble (x : UInt8) : UInt8 := x &&& 0xf

def highNibble (x : UInt8) : UInt8 := (x >>> 4) &&& 0xf

/-- The loop, with the byte `i - 1` next. -/
def multLoop (x : Block 16) (table : Table) : Nat → Words → Words
  | 0, z => z
  | i + 1, z =>
      let byte := x (Fin.ofNat 16 i)
      let z := xorNoSimd (shift4 z) (entry table (lowNibble byte))
      let z := xorNoSimd (shift4 z) (entry table (highNibble byte))
      multLoop x table i z

/-- `gcm_mult_smalltable`: the first nibble is the first value of `u64z`. -/
def gcmMult (table : Table) (x : Block 16) : Block 16 :=
  let z := entry table (lowNibble (x 15))
  let z := xorNoSimd (shift4 z) (entry table (highNibble (x 15)))
  putWords (multLoop x table 15 z)

/-! ## Bits -/

/-- The element that two words stand for. -/
def Words.elem (w : Words) : Elem := w.hi.toBitVec ++ w.lo.toBitVec

/-- The bits of a word come from its bytes in order. -/
theorem getUint64Be_bit (b : Block 8) (m : Fin 8) {j : Nat} (hj : j < 8) :
    (getUint64Be b).toBitVec.getMsbD (8 * m.val + j) = (b m).toBitVec.getMsbD j := by
  fin_cases m <;> interval_cases j <;> simp [getUint64Be, BitVec.getMsbD]

theorem putUint64Be_bit (w : UInt64) (m : Fin 8) {j : Nat} (hj : j < 8) :
    (putUint64Be w m).toBitVec.getMsbD j = w.toBitVec.getMsbD (8 * m.val + j) := by
  fin_cases m <;> interval_cases j <;> simp [putUint64Be, BitVec.getMsbD]

/-- The first byte of each half is where the halves meet. -/
theorem elem_bit (w : Words) (k : Nat) :
    w.elem.getMsbD k
      = if 64 ≤ k then w.lo.toBitVec.getMsbD (k - 64) else w.hi.toBitVec.getMsbD k :=
  BitVec.getMsbD_append

/-- Two words are told apart by the bytes of each half. -/
theorem elem_eq_of_bytes {w : Words} {v : Elem}
    (hhi : ∀ (m : Fin 8) (j : Nat), j < 8 →
      w.hi.toBitVec.getMsbD (8 * m.val + j) = v.getMsbD (8 * m.val + j))
    (hlo : ∀ (m : Fin 8) (j : Nat), j < 8 →
      w.lo.toBitVec.getMsbD (8 * m.val + j) = v.getMsbD (8 * (8 + m.val) + j)) : w.elem = v := by
  apply Gcm.eq_of_bytes
  intro i j hj
  rw [elem_bit]
  by_cases hi : i.val < 8
  · rw [if_neg (by omega)]
    exact hhi ⟨i.val, hi⟩ j hj
  · have hplace : 8 * i.val + j - 64 = 8 * (i.val - 8) + j := by omega
    have hbyte : 8 + (i.val - 8) = i.val := by omega
    have hat := hlo ⟨i.val - 8, by omega⟩ j hj
    rw [if_pos (by omega), hplace, hat]
    simp only [hbyte]

@[simp] theorem words_elem (x : Block 16) : (words x).elem = Gcm.ofBytes x := by
  apply elem_eq_of_bytes
  · intro m j hj
    rw [words, getUint64Be_bit _ m hj]
    exact (Gcm.ofBytes_bit x (Fin.castAdd 8 m) hj).symm
  · intro m j hj
    rw [words, getUint64Be_bit _ m hj]
    exact (Gcm.ofBytes_bit x (Fin.natAdd 8 m) hj).symm

@[simp] theorem putWords_elem (w : Words) : Gcm.ofBytes (putWords w) = w.elem := by
  symm
  apply elem_eq_of_bytes
  · intro m j hj
    have hbyte : putWords w (Fin.castAdd 8 m) = putUint64Be w.hi m := Fin.append_left _ _ m
    rw [← putUint64Be_bit w.hi m hj, ← hbyte]
    exact (Gcm.ofBytes_bit (putWords w) (Fin.castAdd 8 m) hj).symm
  · intro m j hj
    have hbyte : putWords w (Fin.natAdd 8 m) = putUint64Be w.lo m := Fin.append_right _ _ m
    rw [← putUint64Be_bit w.lo m hj, ← hbyte]
    exact (Gcm.ofBytes_bit (putWords w) (Fin.natAdd 8 m) hj).symm

@[simp] theorem xorNoSimd_elem (a b : Words) : (xorNoSimd a b).elem = a.elem ^^^ b.elem := by
  apply BitVec.eq_of_getMsbD_eq
  intro k _
  rw [BitVec.getMsbD_xor, elem_bit, elem_bit, elem_bit]
  by_cases hk : 64 ≤ k
  · rw [if_pos hk, if_pos hk, if_pos hk]
    exact BitVec.getMsbD_xor
  · rw [if_neg hk, if_neg hk, if_neg hk]
    exact BitVec.getMsbD_xor

@[simp] theorem zero_elem : Words.elem ⟨0, 0⟩ = 0 := by decide

/-! ## Steps -/

/-- A shift of both words, with the bits that cross over. -/
theorem shift_append (hi lo : BitVec 64) {s : Nat} (hs : s ≤ 64) :
    (hi ++ lo) >>> s = (hi >>> s) ++ ((hi <<< (64 - s)) ||| (lo >>> s)) := by
  apply BitVec.eq_of_getLsbD_eq
  intro k hk
  rw [BitVec.getLsbD_ushiftRight, BitVec.getLsbD_append, BitVec.getLsbD_append,
    BitVec.getLsbD_or, BitVec.getLsbD_shiftLeft, BitVec.getLsbD_ushiftRight,
    BitVec.getLsbD_ushiftRight]
  by_cases hlow : s + k < 64
  · rw [if_pos hlow, if_pos (by omega), decide_eq_true (show k < 64 - s by omega)]
    simp
  · rw [if_neg hlow]
    by_cases hword : k < 64
    · rw [if_pos hword, decide_eq_true hword, decide_eq_false (show ¬ k < 64 - s by omega),
        BitVec.getLsbD_of_ge lo _ (by omega)]
      simp only [Bool.not_false, Bool.true_and, Bool.or_false]
      congr 1
      omega
    · rw [if_neg hword]
      congr 1
      omega

theorem xor_append (a b c d : BitVec 64) : (a ++ b) ^^^ (c ++ d) = (a ^^^ c) ++ (b ^^^ d) := by
  apply BitVec.eq_of_getLsbD_eq
  intro k _
  rw [BitVec.getLsbD_xor, BitVec.getLsbD_append, BitVec.getLsbD_append, BitVec.getLsbD_append]
  by_cases hk : k < 64
  · rw [if_pos hk, if_pos hk, if_pos hk, BitVec.getLsbD_xor]
  · rw [if_neg hk, if_neg hk, if_neg hk, BitVec.getLsbD_xor]

/-- **The step of the table** multiplies by X. -/
@[simp] theorem rightshift_elem (src : Words) : (rightshift src).elem = timesX src.elem := by
  have hcross : ∀ v : BitVec 64, (v &&& 1#64) <<< 63 = v <<< 63 := by
    intro v
    apply BitVec.eq_of_getLsbD_eq
    intro k hk
    rw [BitVec.getLsbD_shiftLeft, BitVec.getLsbD_shiftLeft, BitVec.getLsbD_and]
    by_cases hlast : k = 63
    · rw [hlast]
      simp
    · rw [decide_eq_true (show k < 63 by omega)]
      simp
  have hlow : src.elem.getLsbD 0 = src.lo.toBitVec.getLsbD 0 := by
    rw [Words.elem, BitVec.getLsbD_append, if_pos (by decide)]
  have hone : src.lo &&& 1 ≠ 0 ↔ src.lo.toBitVec.getLsbD 0 = true := by
    rw [ne_eq, ← UInt64.toBitVec_inj]
    show ¬ src.lo.toBitVec &&& 1#64 = 0#64 ↔ _
    rw [BitVec.and_one_eq_setWidth_ofBool_getLsbD]
    cases src.lo.toBitVec.getLsbD 0 <;> decide
  have hred : reduction = ((0xE1 : UInt64) <<< 56).toBitVec ++ 0#64 := by decide
  have hlo : (rightshift src).lo.toBitVec
      = (src.hi.toBitVec <<< (64 - 1)) ||| (src.lo.toBitVec >>> 1) := by
    rw [← hcross, BitVec.or_comm]
    rfl
  have hshift : src.elem >>> 1
      = (src.hi.toBitVec >>> 1) ++ ((src.hi.toBitVec <<< (64 - 1)) ||| (src.lo.toBitVec >>> 1)) :=
    shift_append _ _ (by decide)
  rw [timesX, hlow, hshift, Words.elem, hlo, rightshift]
  by_cases hbit : src.lo &&& 1 ≠ 0
  · rw [if_pos hbit, if_pos (hone.mp hbit), hred, xor_append, BitVec.xor_zero]
    rfl
  · rw [if_neg hbit, if_neg (fun h => hbit (hone.mpr h)), UInt64.xor_zero]
    exact BitVec.xor_zero.symm

/-- **The step of the product** multiplies by X ^ 4. -/
@[simp] theorem shift4_elem (z : Words) : (shift4 z).elem = timesX4 z.elem := by
  have hout : ∀ r : Fin 16, timesX4 (BitVec.ofNat 128 r.val)
      = ((last4.getD r.val 0).toUInt64 <<< 48).toBitVec ++ 0#64 := by decide
  have hrem : (z.lo.toUInt8 &&& 0xf).toNat < 16 := by
    rw [UInt8.toNat_and]
    exact Nat.lt_of_le_of_lt Nat.and_le_right (by decide)
  have hmask : z.elem &&& 0xF#128 = BitVec.ofNat 128 (z.lo.toUInt8 &&& 0xf).toNat := by
    have hmod : ∀ k : Nat, k &&& 0xF = k % 16 := fun k => Nat.and_two_pow_sub_one_eq_mod k 4
    have hlt : z.lo.toBitVec.toNat < 2 ^ 64 := z.lo.toBitVec.isLt
    have hlo : z.lo.toNat = z.lo.toBitVec.toNat := rfl
    apply BitVec.eq_of_toNat_eq
    rw [BitVec.toNat_and, BitVec.toNat_ofNat, UInt8.toNat_and, Words.elem, BitVec.toNat_append,
      ← Nat.shiftLeft_add_eq_or_of_lt hlt, Nat.shiftLeft_eq, UInt64.toNat_toUInt8]
    show (_ &&& 0xF) = (_ &&& 0xF) % 2 ^ 128
    rw [hmod, hmod, hlo]
    omega
  have hshift : z.elem >>> 4
      = (z.hi.toBitVec >>> 4) ++ ((z.hi.toBitVec <<< (64 - 4)) ||| (z.lo.toBitVec >>> 4)) :=
    shift_append _ _ (by decide)
  rw [timesX4_shift, hmask, hout ⟨_, hrem⟩, hshift, xor_append, BitVec.xor_zero]
  rfl

/-! ## The table -/

/-- The entries of more than one bit. -/
theorem genTable_sum (h : Block 16) {i j : Fin 16} (hi : i = 2 ∨ i = 4 ∨ i = 8) (hpos : 0 < j)
    (hlt : j < i) : genTable h (i + j) = xorNoSimd (genTable h i) (genTable h j) := by
  rcases hi with rfl | rfl | rfl <;> fin_cases j <;>
    first | rfl | exact absurd hpos (by decide) | exact absurd hlt (by decide)

/-- **The table holds the multiples by four bits.** -/
theorem genTable_multiple (h : Block 16) (n : Fin 16) :
    (genTable h n).elem = multiple (Gcm.ofBytes h) (n.val.testBit 3) (n.val.testBit 2)
      (n.val.testBit 1) (n.val.testBit 0) := by
  have h8 : (genTable h 8).elem = Gcm.ofBytes h := words_elem h
  have h4 : (genTable h 4).elem = timesX (Gcm.ofBytes h) := by
    rw [← h8, ← rightshift_elem]
    rfl
  have h2 : (genTable h 2).elem = timesX (timesX (Gcm.ofBytes h)) := by
    rw [← h4, ← rightshift_elem]
    rfl
  have h1 : (genTable h 1).elem = timesX (timesX (timesX (Gcm.ofBytes h))) := by
    rw [← h2, ← rightshift_elem]
    rfl
  have h0 : (genTable h 0).elem = 0 := zero_elem
  have hsum : ∀ n i j : Fin 16, (i = 2 ∨ i = 4 ∨ i = 8) ∧ 0 < j ∧ j < i ∧ n = i + j →
      (genTable h n).elem = (genTable h i).elem ^^^ (genTable h j).elem := by
    rintro n i j ⟨hi, hpos, hlt, rfl⟩
    rw [genTable_sum h hi hpos hlt, xorNoSimd_elem]
  have h3 := hsum 3 2 1 (by decide)
  have h5 := hsum 5 4 1 (by decide)
  have h6 := hsum 6 4 2 (by decide)
  have h7 := hsum 7 4 3 (by decide)
  have h9 := hsum 9 8 1 (by decide)
  have h10 := hsum 10 8 2 (by decide)
  have h11 := hsum 11 8 3 (by decide)
  have h12 := hsum 12 8 4 (by decide)
  have h13 := hsum 13 8 5 (by decide)
  have h14 := hsum 14 8 6 (by decide)
  have h15 := hsum 15 8 7 (by decide)
  fin_cases n <;> simp +decide [multiple, h0, h1, h2, h3, h4, h5, h6, h7, h8, h9, h10, h11, h12, h13,
    h14, h15, BitVec.xor_assoc]

/-! ## The product -/

/-- The bits of a nibble, the first one first. -/
theorem highNibble_bits (x : UInt8) (k : Nat) (hk : k < 4) :
    (Fin.ofNat 16 (highNibble x).toNat).val.testBit (3 - k) = x.toBitVec.getMsbD k := by
  have hall : ∀ (x : Fin 256) (k : Fin 4),
      (Fin.ofNat 16 (highNibble (UInt8.ofNat x.val)).toNat).val.testBit (3 - k.val)
        = (UInt8.ofNat x.val).toBitVec.getMsbD k.val := by decide +kernel
  have hat := hall ⟨x.toNat, x.toNat_lt⟩ ⟨k, hk⟩
  rw [UInt8.ofNat_toNat] at hat
  exact hat

theorem lowNibble_bits (x : UInt8) (k : Nat) (hk : k < 4) :
    (Fin.ofNat 16 (lowNibble x).toNat).val.testBit (3 - k) = x.toBitVec.getMsbD (4 + k) := by
  have hall : ∀ (x : Fin 256) (k : Fin 4),
      (Fin.ofNat 16 (lowNibble (UInt8.ofNat x.val)).toNat).val.testBit (3 - k.val)
        = (UInt8.ofNat x.val).toBitVec.getMsbD (4 + k.val) := by decide +kernel
  have hat := hall ⟨x.toNat, x.toNat_lt⟩ ⟨k, hk⟩
  rw [UInt8.ofNat_toNat] at hat
  exact hat

/-- A table entry, by the bits of the byte from `k` on. -/
theorem entry_low (h : Block 16) (x : UInt8) :
    (entry (genTable h) (lowNibble x)).elem
      = multiple (Gcm.ofBytes h) (x.toBitVec.getMsbD 4) (x.toBitVec.getMsbD 5)
        (x.toBitVec.getMsbD 6) (x.toBitVec.getMsbD 7) := by
  rw [entry, genTable_multiple, ← lowNibble_bits x 0 (by decide), ← lowNibble_bits x 1 (by decide),
    ← lowNibble_bits x 2 (by decide), ← lowNibble_bits x 3 (by decide)]

theorem entry_high (h : Block 16) (x : UInt8) :
    (entry (genTable h) (highNibble x)).elem
      = multiple (Gcm.ofBytes h) (x.toBitVec.getMsbD 0) (x.toBitVec.getMsbD 1)
        (x.toBitVec.getMsbD 2) (x.toBitVec.getMsbD 3) := by
  rw [entry, genTable_multiple, ← highNibble_bits x 0 (by decide),
    ← highNibble_bits x 1 (by decide), ← highNibble_bits x 2 (by decide),
    ← highNibble_bits x 3 (by decide)]

/-- The two nibbles of the byte `i`, as groups of Horner's rule. -/
theorem nibbles_byte (x : Block 16) (g : Elem) (i : Fin 16) (n : Nat) :
    nibbles (Gcm.ofBytes x).getMsbD g (2 * i.val) (n + 2)
      = multiple g ((x i).toBitVec.getMsbD 0) ((x i).toBitVec.getMsbD 1)
          ((x i).toBitVec.getMsbD 2) ((x i).toBitVec.getMsbD 3)
        ^^^ timesX4 (multiple g ((x i).toBitVec.getMsbD 4) ((x i).toBitVec.getMsbD 5)
          ((x i).toBitVec.getMsbD 6) ((x i).toBitVec.getMsbD 7)
        ^^^ timesX4 (nibbles (Gcm.ofBytes x).getMsbD g (2 * (i.val + 1)) n)) := by
  have hbit : ∀ j, j < 8 → (Gcm.ofBytes x).getMsbD (8 * i.val + j) = (x i).toBitVec.getMsbD j :=
    fun j hj => Gcm.ofBytes_bit x i hj
  rw [nibbles, nibbles, ← hbit 0 (by decide), ← hbit 1 (by decide), ← hbit 2 (by decide),
    ← hbit 3 (by decide), ← hbit 4 (by decide), ← hbit 5 (by decide), ← hbit 6 (by decide),
    ← hbit 7 (by decide)]
  simp only [show 4 * (2 * i.val) = 8 * i.val by omega,
    show 4 * (2 * i.val + 1) = 8 * i.val + 4 by omega,
    show 2 * i.val + 1 + 1 = 2 * (i.val + 1) by omega, Nat.add_assoc, Nat.add_zero]

/-- The loop goes on with Horner's rule from the bytes behind. -/
theorem multLoop_nibbles (x h : Block 16) {i : Nat} (hi : i ≤ 16) {z : Words}
    (hz : z.elem = nibbles (Gcm.ofBytes x).getMsbD (Gcm.ofBytes h) (2 * i) (32 - 2 * i)) :
    (multLoop x (genTable h) i z).elem = mul (Gcm.ofBytes x) (Gcm.ofBytes h) := by
  induction i generalizing z with
  | zero => rw [multLoop, hz, mul_nibbles]
  | succ i ih =>
      rw [multLoop]
      apply ih (by omega)
      have hbyte : (Fin.ofNat 16 i).val = i := Nat.mod_eq_of_lt (by omega)
      have hcount : 32 - 2 * i = 32 - 2 * (i + 1) + 2 := by omega
      have hstep := nibbles_byte x (Gcm.ofBytes h) (Fin.ofNat 16 i) (32 - 2 * (i + 1))
      rw [hbyte] at hstep
      rw [xorNoSimd_elem, shift4_elem, xorNoSimd_elem, shift4_elem, hz, entry_low, entry_high,
        hcount, hstep, BitVec.xor_comm, BitVec.xor_comm (timesX4 _)]

/-- **The product from the table is the one of the field.** -/
theorem gcmMult_mul (h x : Block 16) :
    Gcm.ofBytes (gcmMult (genTable h) x) = mul (Gcm.ofBytes x) (Gcm.ofBytes h) := by
  rw [gcmMult, putWords_elem]
  apply multLoop_nibbles x h (by decide)
  have hstep := nibbles_byte x (Gcm.ofBytes h) 15 0
  have hnone : ∀ v : Elem, v ^^^ timesX4 0 = v := by
    intro v
    rw [show timesX4 0 = 0#128 by decide, BitVec.xor_zero]
  rw [nibbles, hnone] at hstep
  rw [xorNoSimd_elem, shift4_elem, entry_low, entry_high, BitVec.xor_comm]
  exact hstep.symm

/-- The product is the only block that stands for the product of the residues. -/
theorem gcmMult_residue (h x y : Block 16) :
    y = gcmMult (genTable h) x
      ↔ toRing (Gcm.ofBytes y) = toRing (Gcm.ofBytes x) * toRing (Gcm.ofBytes h) := by
  constructor
  · rintro rfl
    rw [gcmMult_mul, toRing_mul]
  · intro heq
    rw [← toRing_mul, ← gcmMult_mul] at heq
    have hword := toRing_injective heq
    rw [← Gcm.toBytes_ofBytes y, hword, Gcm.toBytes_ofBytes]

end SofaGcmTable
