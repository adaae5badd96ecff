import Sofa.Lib.Block

/-! # HMAC and HKDF

    HMAC and the key derivation of RFC 5869 over a hash with digests of `h` bytes and an
    internal block of `b` bytes.

    * `take_expanded`: the output is a prefix of the concatenation of the blocks `T(i)`, of
      however many there are;
    * **`hkdf_prefix`**: a shorter output is a prefix of a longer one. -/

namespace Rfc5869

open ByteBlock

variable {h b : Nat}

/-! ## HMAC -/

/-- The key as a block: a key that is longer than a block is hashed first. -/
def hmacKey (b : Nat) (hash : List UInt8 → Block h) (key : List UInt8) : Block b :=
  slice b 0 (if key.length > b then toList (hash key) else key)

/-- HMAC. -/
def hmac (b : Nat) (hash : List UInt8 → Block h) (key msg : List UInt8) : Block h :=
  let inner := hash (toList (xor (fun _ => 0x36) (hmacKey b hash key)) ++ msg)
  hash (toList (xor (fun _ => 0x5C) (hmacKey b hash key)) ++ toList inner)

/-! ## HKDF -/

variable (mac : List UInt8 → List UInt8 → Block h)

/-- HKDF-Extract: no salt is a salt of `h` zero bytes. -/
def extract (salt ikm : List UInt8) : Block h :=
  mac (if salt = [] then toList (zero h) else salt) ikm

/-- The block `T(i)`, and the empty string for `T(0)`. -/
def blockT (prk : Block h) (info : List UInt8) : Nat → List UInt8
  | 0 => []
  | i + 1 => toList (mac (toList prk) (blockT prk info i ++ info ++ [UInt8.ofNat (i + 1)]))

/-- `T(1)` to `T(n)`, concatenated. -/
def expanded (prk : Block h) (info : List UInt8) : Nat → List UInt8
  | 0 => []
  | n + 1 => expanded prk info n ++ blockT mac prk info (n + 1)

/-- HKDF-Expand: the first `len` bytes of `⌈len / h⌉` blocks. -/
def expand (prk : Block h) (info : List UInt8) (len : Nat) : List UInt8 :=
  (expanded mac prk info ((len + h - 1) / h)).take len

/-- HKDF. -/
def hkdf (salt ikm info : List UInt8) (len : Nat) : List UInt8 :=
  expand mac (extract mac salt ikm) info len

variable {mac} {prk : Block h} {info : List UInt8}

theorem length_expanded (n : Nat) : (expanded mac prk info n).length = n * h := by
  induction n with
  | zero => simp [expanded]
  | succ n ih => rw [expanded, List.length_append, ih, blockT, length_toList, Nat.succ_mul]

theorem expanded_prefix {m n : Nat} (hmn : m ≤ n) :
    expanded mac prk info m <+: expanded mac prk info n := by
  induction n, hmn using Nat.le_induction with
  | base => exact List.prefix_refl _
  | succ n _ ih => exact ih.trans (List.prefix_append _ _)

/-- **Any number of blocks that reaches the length** gives the output. -/
theorem take_expanded {n len : Nat} (hh : 0 < h) (hlen : len ≤ n * h) :
    (expanded mac prk info n).take len = expand mac prk info len := by
  have hceil : len ≤ (len + h - 1) / h * h := by
    have hdiv := Nat.div_add_mod (len + h - 1) h
    have hmod := Nat.mod_lt (len + h - 1) hh
    rw [Nat.mul_comm] at hdiv
    omega
  rcases Nat.le_total n ((len + h - 1) / h) with hle | hle
  · obtain ⟨rest, hrest⟩ := expanded_prefix  hle
    rw [expand, ← hrest, List.take_append_of_le_length (by rw [length_expanded]; exact hlen)]
  · obtain ⟨rest, hrest⟩ := expanded_prefix  hle
    rw [expand, ← hrest, List.take_append_of_le_length (by rw [length_expanded]; exact hceil)]

/-- An output that fits one block is cut from `T(1)`. -/
theorem hkdf_one {salt ikm : List UInt8} {len : Nat} (hh : 0 < h) (hlen : len ≤ h) :
    hkdf mac salt ikm info len
      = (toList (mac (toList (extract mac salt ikm)) (info ++ [1]))).take len := by
  have hone : (expanded mac (extract mac salt ikm) info 1).take len
      = expand mac (extract mac salt ikm) info len := take_expanded hh (by omega)
  rw [hkdf, ← hone]
  rfl

theorem expand_prefix {m n : Nat} (hh : 0 < h) (hmn : m ≤ n) :
    expand mac prk info m <+: expand mac prk info n := by
  have hreach : n ≤ n * h := Nat.le_mul_of_pos_right n hh
  rw [← take_expanded hh (hmn.trans hreach), ← take_expanded hh hreach]
  exact List.take_prefix_take_left hmn

/-- **A shorter output** is a prefix of a longer one. -/
theorem hkdf_prefix {salt ikm info : List UInt8} {m n : Nat} (hh : 0 < h) (hmn : m ≤ n) :
    hkdf mac salt ikm info m <+: hkdf mac salt ikm info n :=
  expand_prefix hh hmn

end Rfc5869
