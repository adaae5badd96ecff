import Mathlib

/-! # Fixed-size byte blocks

    A byte buffer of known size is a function `Fin n → UInt8`.  The file gives
    the three things a wire protocol does with such buffers:

    * XOR, as a commutative operation in which every block is its own inverse;
    * `slice`, which reads a block out of a byte string, and its laws over
      append (a block written at an offset is read back unchanged);
    * `mask32`, the block that is zero except for a 32-bit big-endian number in
      its last four bytes, which is injective below `2 ^ 32`. -/

namespace ByteBlock

/-- A buffer of exactly `n` bytes. -/
abbrev Block (n : Nat) := Fin n → UInt8

variable {n : Nat}

/-- The bytes of a block, first byte first. -/
def toList (b : Block n) : List UInt8 := List.ofFn b

/-- Bytewise XOR. -/
def xor (a b : Block n) : Block n := fun i => a i ^^^ b i

/-- The all-zero block. -/
def zero (n : Nat) : Block n := fun _ => 0

/-- The `n` bytes of `l` that start at `off`; bytes past the end read as 0. -/
def slice (n off : Nat) (l : List UInt8) : Block n := fun i => l.getD (off + i.val) 0

@[simp] theorem length_toList (b : Block n) : (toList b).length = n := List.length_ofFn

theorem toList_injective : Function.Injective (toList (n := n)) := List.ofFn_injective

@[simp] theorem toList_inj {a b : Block n} : toList a = toList b ↔ a = b :=
  toList_injective.eq_iff

/-! ## XOR -/

theorem xor_comm (a b : Block n) : xor a b = xor b a := by
  funext i
  exact UInt8.xor_comm (a i) (b i)

theorem xor_assoc (a b c : Block n) : xor (xor a b) c = xor a (xor b c) := by
  funext i
  exact UInt8.xor_assoc (a i) (b i) (c i)

@[simp] theorem xor_self (a : Block n) : xor a a = zero n := by
  funext i
  exact UInt8.xor_self

@[simp] theorem xor_zero (a : Block n) : xor a (zero n) = a := by
  funext i
  exact UInt8.xor_zero

@[simp] theorem zero_xor (a : Block n) : xor (zero n) a = a := by
  rw [xor_comm, xor_zero]

/-- XOR by a fixed block is injective: it is its own inverse. -/
theorem xor_right_injective (a : Block n) : Function.Injective (xor a) := by
  intro b c h
  have h' : xor a (xor a b) = xor a (xor a c) := congrArg (xor a) h
  simpa [← xor_assoc] using h'

@[simp] theorem xor_right_inj {a b c : Block n} : xor a b = xor a c ↔ b = c :=
  (xor_right_injective a).eq_iff

@[simp] theorem xor_left_inj {a b c : Block n} : xor b a = xor c a ↔ b = c := by
  rw [xor_comm b a, xor_comm c a, xor_right_inj]

/-! ## Reading blocks back -/

/-- A block written at the front of a byte string is what `slice` reads there. -/
@[simp] theorem slice_toList_append (b : Block n) (l : List UInt8) :
    slice n 0 (toList b ++ l) = b := by
  funext i
  simp [slice, toList, List.getD_eq_getElem?_getD, List.getElem?_append_left]

@[simp] theorem slice_toList (b : Block n) : slice n 0 (toList b) = b := by
  simpa using slice_toList_append b []

/-- Skipping a prefix of known length. -/
theorem slice_append_right (n : Nat) (p l : List UInt8) (k : Nat) :
    slice n (p.length + k) (p ++ l) = slice n k l := by
  funext i
  have h : p.length ≤ p.length + k + i.val := by omega
  simp only [slice, List.getD_eq_getElem?_getD, List.getElem?_append_right h]
  congr 2
  omega

/-- Skipping one byte. -/
@[simp] theorem slice_cons_succ (n k : Nat) (x : UInt8) (l : List UInt8) :
    slice n (k + 1) (x :: l) = slice n k l := by
  simpa [Nat.add_comm] using slice_append_right n [x] l k

/-- A slice that lies inside the string determines those bytes of it. -/
theorem toList_slice (n off : Nat) (l : List UInt8) (h : off + n ≤ l.length) :
    toList (slice n off l) = (l.drop off).take n := by
  apply List.ext_getElem
  · simp; omega
  · intro i h₁ h₂
    have hi : i < n := by simpa using h₁
    have hl : off + i < l.length := by omega
    simp [toList, slice, hl]

/-! ## Big-endian 32-bit masks -/

/-- The four bytes of a 32-bit number, most significant first. -/
def be32 (c : Nat) : Block 4
  | 0 => UInt8.ofNat (c / 2 ^ 24)
  | 1 => UInt8.ofNat (c / 2 ^ 16)
  | 2 => UInt8.ofNat (c / 2 ^ 8)
  | 3 => UInt8.ofNat c

theorem be32_injective {c d : Nat} (hc : c < 2 ^ 32) (hd : d < 2 ^ 32)
    (h : be32 c = be32 d) : c = d := by
  have h0 := congrArg UInt8.toNat (congrFun h 0)
  have h1 := congrArg UInt8.toNat (congrFun h 1)
  have h2 := congrArg UInt8.toNat (congrFun h 2)
  have h3 := congrArg UInt8.toNat (congrFun h 3)
  simp only [be32, UInt8.toNat_ofNat'] at h0 h1 h2 h3
  omega

/-- Zero everywhere but in the last four bytes, which hold `c` big-endian. -/
def mask32 (n : Nat) (c : Nat) : Block (n + 4) := Fin.append (zero n) (be32 c)

theorem mask32_injective {c d : Nat} (hc : c < 2 ^ 32) (hd : d < 2 ^ 32)
    (h : mask32 n c = mask32 n d) : c = d := by
  refine be32_injective hc hd ?_
  funext i
  have hi := congrFun h (Fin.natAdd n i)
  simpa [mask32] using hi

theorem mask32_zero (n : Nat) : mask32 n 0 = zero (n + 4) := by
  funext i
  refine Fin.addCases (fun j => ?_) (fun j => ?_) i
  · simp [mask32, zero]
  · fin_cases j <;> simp [mask32, zero, be32]

end ByteBlock
