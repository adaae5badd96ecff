import Sofa.Lib.BlockStream
import Sofa.Lib.Gf128

/-! # Galois counter mode

    GCM of NIST SP 800-38D over a block cipher with blocks of 16 bytes, on byte strings.

    * `ghash`, `counter0`, `gctr`, `tag`: the parts, with the standard's own case for an
      initialisation vector of 96 bits;
    * `encrypt` and `decrypt`, and **`decrypt_encrypt`**. -/

namespace Gcm

open ByteBlock BlockStream Gf128

/-- The places of a block have literals. -/
scoped instance blockSize_ne_zero : NeZero 16 := ⟨by decide⟩

/-! ## Bytes -/

/-- The element of sixteen bytes, the first bit of the first byte first. -/
def ofBytes (x : Block 16) : Elem :=
  BitVec.ofFnLE fun k : Fin 128 => (x ⟨15 - k.val / 8, by omega⟩).toBitVec.getLsbD (k.val % 8)

/-- The bytes of an element. -/
def toBytes (v : Elem) : Block 16 := fun i => ⟨v.extractLsb' (8 * (15 - i.val)) 8⟩

theorem ofBytes_bit (x : Block 16) (i : Fin 16) {j : Nat} (hj : j < 8) :
    (ofBytes x).getMsbD (8 * i.val + j) = (x i).toBitVec.getMsbD j := by
  have hpos : 128 - 1 - (8 * i.val + j) < 128 := by omega
  have hbyte : 15 - (128 - 1 - (8 * i.val + j)) / 8 = i.val := by omega
  have hbit : (128 - 1 - (8 * i.val + j)) % 8 = 8 - 1 - j := by omega
  rw [BitVec.getMsbD_eq_getLsbD, decide_eq_true (by omega), Bool.true_and, ofBytes,
    BitVec.getLsbD_ofFnLE, dif_pos hpos, BitVec.getMsbD_eq_getLsbD, decide_eq_true hj,
    Bool.true_and]
  simp only [hbyte, hbit]

theorem toBytes_bit (v : Elem) (i : Fin 16) {j : Nat} (hj : j < 8) :
    (toBytes v i).toBitVec.getMsbD j = v.getMsbD (8 * i.val + j) := by
  show (v.extractLsb' (8 * (15 - i.val)) 8).getMsbD j = _
  rw [BitVec.getMsbD_extractLsb', decide_eq_true hj, Bool.true_and, decide_eq_true (by omega),
    Bool.true_and]
  congr 1
  omega

/-- Words that agree byte by byte are the same. -/
theorem eq_of_bytes {v w : Elem}
    (h : ∀ (i : Fin 16) (j : Nat), j < 8 → v.getMsbD (8 * i.val + j) = w.getMsbD (8 * i.val + j)) :
    v = w := by
  apply BitVec.eq_of_getMsbD_eq
  intro k hk
  have hsplit : 8 * (k / 8) + k % 8 = k := Nat.div_add_mod k 8
  have hat := h ⟨k / 8, by omega⟩ (k % 8) (Nat.mod_lt _ (by decide))
  rw [hsplit] at hat
  exact hat

@[simp] theorem ofBytes_toBytes (v : Elem) : ofBytes (toBytes v) = v := by
  apply eq_of_bytes
  intro i j hj
  rw [ofBytes_bit _ i hj, toBytes_bit v i hj]

@[simp] theorem toBytes_ofBytes (x : Block 16) : toBytes (ofBytes x) = x := by
  funext i
  apply UInt8.toBitVec_inj.mp
  apply BitVec.eq_of_getMsbD_eq
  intro j hj
  rw [toBytes_bit _ i hj, ofBytes_bit x i hj]

theorem ofBytes_xor (x y : Block 16) : ofBytes (ByteBlock.xor x y) = ofBytes x ^^^ ofBytes y := by
  apply eq_of_bytes
  intro i j hj
  rw [BitVec.getMsbD_xor, ofBytes_bit _ i hj, ofBytes_bit x i hj, ofBytes_bit y i hj]
  exact BitVec.getMsbD_xor

@[simp] theorem ofBytes_zero : ofBytes (zero 16) = 0 := by
  apply eq_of_bytes
  intro i j hj
  rw [ofBytes_bit _ i hj]
  exact BitVec.getMsbD_zero.trans BitVec.getMsbD_zero.symm

/-! ## The mode -/

variable (cipher : Block 16 → Block 16)

/-- The hash of blocks with the key `h`, from the value `y`. -/
def ghash (h y : Elem) (bs : List (Block 16)) : Elem :=
  bs.foldl (fun y b => mul (y ^^^ ofBytes b) h) y

/-- The bytes of a 64-bit number, most significant first. -/
def be64 (c : Nat) : Block 8 := Fin.append (be32 (c / 2 ^ 32)) (be32 c)

/-- The block of the two lengths, in bits. -/
def lengths (a c : Nat) : Block 16 := Fin.append (be64 (8 * a)) (be64 (8 * c))

/-- The hash key. -/
def hashKey : Elem := ofBytes (cipher (zero 16))

/-- The last four bytes counted up. -/
def inc32 (b : Block 16) : Block 16 :=
  let low := (b 12).toNat * 2 ^ 24 + (b 13).toNat * 2 ^ 16 + (b 14).toNat * 2 ^ 8 + (b 15).toNat
  Fin.append (fun i : Fin 12 => b (Fin.castAdd 4 i)) (be32 (low + 1))

/-- The counter block before the first one of the text. -/
def counter0 (iv : List UInt8) : Block 16 :=
  if iv.length = 12 then Fin.append (slice 12 0 iv) (be32 1)
  else toBytes (ghash (hashKey cipher) 0 (blocks 16 iv ++ [lengths 0 iv.length]))

/-- The text in counter mode. -/
def gctr (iv text : List UInt8) : List UInt8 := masked cipher inc32 (counter0 cipher iv) 0 text

/-- The tag of the additional data `a` and the ciphertext `c`. -/
def tag (iv a c : List UInt8) : Block 16 :=
  ByteBlock.xor (cipher (counter0 cipher iv)) (toBytes (ghash (hashKey cipher) 0
    (blocks 16 a ++ blocks 16 c ++ [lengths a.length c.length])))

/-- Authenticated encryption, with a tag of `t` bytes. -/
def encrypt (t : Nat) (iv a p : List UInt8) : List UInt8 × List UInt8 :=
  let c := gctr cipher iv p
  (c, (toList (tag cipher iv a c)).take t)

/-- Authenticated decryption. -/
def decrypt (iv a c mac : List UInt8) : Option (List UInt8) :=
  if (toList (tag cipher iv a c)).take mac.length = mac then some (gctr cipher iv c) else none

/-- **Decryption inverts encryption.** -/
theorem decrypt_encrypt {t : Nat} (ht : t ≤ 16) (iv a p : List UInt8) :
    decrypt cipher iv a (encrypt cipher t iv a p).1 (encrypt cipher t iv a p).2 = some p := by
  have hlen : ((toList (tag cipher iv a (gctr cipher iv p))).take t).length = t := by
    rw [List.length_take, length_toList]
    omega
  rw [encrypt, decrypt, hlen, if_pos rfl]
  simp only [gctr, masked_masked]

end Gcm
