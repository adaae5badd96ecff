import Mathlib.Data.List.OfFn
import Sofa.Lib.Block

/-! # SHA-256

    The hash of FIPS 180-4 on byte strings, executable.  It stands for the hash of a
    cryptographic library wherever a parameter is to be instantiated by the real function.
    `absorb_add` and `absorb_append` are its blocks one after the other. -/

namespace Sha256

open ByteBlock

/-- Rotation to the right. -/
def rotr (x n : UInt32) : UInt32 := (x >>> n) ||| (x <<< (32 - n))

def ch (x y z : UInt32) : UInt32 := (x &&& y) ^^^ (~~~x &&& z)

def maj (x y z : UInt32) : UInt32 := (x &&& y) ^^^ (x &&& z) ^^^ (y &&& z)

def bigSigma0 (x : UInt32) : UInt32 := rotr x 2 ^^^ rotr x 13 ^^^ rotr x 22

def bigSigma1 (x : UInt32) : UInt32 := rotr x 6 ^^^ rotr x 11 ^^^ rotr x 25

def smallSigma0 (x : UInt32) : UInt32 := rotr x 7 ^^^ rotr x 18 ^^^ (x >>> 3)

def smallSigma1 (x : UInt32) : UInt32 := rotr x 17 ^^^ rotr x 19 ^^^ (x >>> 10)

/-- The constants of the 64 rounds. -/
def roundConstants : List UInt32 :=
  [0x428a2f98, 0x71374491, 0xb5c0fbcf, 0xe9b5dba5, 0x3956c25b, 0x59f111f1, 0x923f82a4, 0xab1c5ed5,
   0xd807aa98, 0x12835b01, 0x243185be, 0x550c7dc3, 0x72be5d74, 0x80deb1fe, 0x9bdc06a7, 0xc19bf174,
   0xe49b69c1, 0xefbe4786, 0x0fc19dc6, 0x240ca1cc, 0x2de92c6f, 0x4a7484aa, 0x5cb0a9dc, 0x76f988da,
   0x983e5152, 0xa831c66d, 0xb00327c8, 0xbf597fc7, 0xc6e00bf3, 0xd5a79147, 0x06ca6351, 0x14292967,
   0x27b70a85, 0x2e1b2138, 0x4d2c6dfc, 0x53380d13, 0x650a7354, 0x766a0abb, 0x81c2c92e, 0x92722c85,
   0xa2bfe8a1, 0xa81a664b, 0xc24b8b70, 0xc76c51a3, 0xd192e819, 0xd6990624, 0xf40e3585, 0x106aa070,
   0x19a4c116, 0x1e376c08, 0x2748774c, 0x34b0bcb5, 0x391c0cb3, 0x4ed8aa4a, 0x5b9cca4f, 0x682e6ff3,
   0x748f82ee, 0x78a5636f, 0x84c87814, 0x8cc70208, 0x90befffa, 0xa4506ceb, 0xbef9a3f7, 0xc67178f2]

/-- The eight working variables, which are also the chaining value. -/
structure Work where
  a : UInt32
  b : UInt32
  c : UInt32
  d : UInt32
  e : UInt32
  f : UInt32
  g : UInt32
  h : UInt32

/-- The initial chaining value. -/
def initial : Work :=
  ⟨0x6a09e667, 0xbb67ae85, 0x3c6ef372, 0xa54ff53a, 0x510e527f, 0x9b05688c, 0x1f83d9ab, 0x5be0cd19⟩

/-- One round with the constant `k` and the schedule word `w`. -/
def round (v : Work) (k w : UInt32) : Work :=
  let t1 := v.h + bigSigma1 v.e + ch v.e v.f v.g + k + w
  let t2 := bigSigma0 v.a + maj v.a v.b v.c
  ⟨t1 + t2, v.a, v.b, v.c, v.d + t1, v.e, v.f, v.g⟩

/-- The rounds, with the window of sixteen schedule words that starts at the current one. -/
def rounds : List UInt32 → List UInt32 → Work → Work
  | k :: ks, window, v =>
      let w := window.getD 0 0
      let next := smallSigma1 (window.getD 14 0) + window.getD 9 0
        + smallSigma0 (window.getD 1 0) + w
      rounds ks (window.tail ++ [next]) (round v k w)
  | [], _, v => v

/-- Four bytes, most significant first, make a word. -/
def words : List UInt8 → List UInt32
  | a :: b :: c :: d :: rest =>
      ((a.toUInt32 <<< 24) ||| (b.toUInt32 <<< 16) ||| (c.toUInt32 <<< 8) ||| d.toUInt32)
        :: words rest
  | _ => []

/-- The compression of one block of 64 bytes. -/
def compress (v : Work) (block : List UInt8) : Work :=
  let r := rounds roundConstants (words block) v
  ⟨v.a + r.a, v.b + r.b, v.c + r.c, v.d + r.d, v.e + r.e, v.f + r.f, v.g + r.g, v.h + r.h⟩

/-- The bytes of a 64-bit length, most significant first. -/
def be64 (n : Nat) : List UInt8 := (List.range 8).map fun i => UInt8.ofNat (n / 2 ^ (56 - 8 * i))

/-- The padded message. -/
def pad (msg : List UInt8) : List UInt8 :=
  msg ++ [0x80] ++ List.replicate ((119 - msg.length % 64) % 64) 0 ++ be64 (8 * msg.length)

/-- The compression of the first `n` blocks. -/
def absorb : Nat → List UInt8 → Work → Work
  | 0, _, v => v
  | n + 1, msg, v => absorb n (msg.drop 64) (compress v (msg.take 64))

/-- The first block. -/
theorem absorb_next (n : Nat) (msg : List UInt8) (v : Work) :
    absorb (n + 1) msg v = absorb n (msg.drop 64) (compress v (msg.take 64)) := by
  conv_lhs => unfold absorb

/-- The first blocks do not see what follows them. -/
theorem absorb_append {n : Nat} {msg : List UInt8} (h : 64 * n ≤ msg.length) (more : List UInt8)
    (v : Work) : absorb n (msg ++ more) v = absorb n msg v := by
  induction n generalizing msg v with
  | zero => rfl
  | succ n ih =>
      have hdrop : (msg ++ more).drop 64 = msg.drop 64 ++ more :=
        List.drop_append_of_le_length (by omega)
      have htake : (msg ++ more).take 64 = msg.take 64 :=
        List.take_append_of_le_length (by omega)
      have hrest : 64 * n ≤ (msg.drop 64).length := by
        rw [List.length_drop]
        omega
      calc absorb (n + 1) (msg ++ more) v
          = absorb n ((msg ++ more).drop 64) (compress v ((msg ++ more).take 64)) :=
            absorb_next n (msg ++ more) v
        _ = absorb n (msg.drop 64) (compress v (msg.take 64)) := by rw [hdrop, htake, ih hrest]
        _ = absorb (n + 1) msg v := (absorb_next n msg v).symm

/-- Some blocks, and then the blocks behind them. -/
theorem absorb_add (m n : Nat) (msg : List UInt8) (v : Work) :
    absorb (m + n) msg v = absorb n (msg.drop (64 * m)) (absorb m msg v) := by
  induction m generalizing msg v with
  | zero =>
      rw [Nat.zero_add, Nat.mul_zero, List.drop_zero]
      rfl
  | succ m ih =>
      have hplace : (msg.drop 64).drop (64 * m) = msg.drop (64 * (m + 1)) := by
        rw [List.drop_drop, Nat.mul_succ, Nat.add_comm]
      have hcount : m + 1 + n = m + n + 1 := Nat.add_right_comm m 1 n
      calc absorb (m + 1 + n) msg v
          = absorb (m + n) (msg.drop 64) (compress v (msg.take 64)) := by
            rw [hcount]
            exact absorb_next (m + n) msg v
        _ = absorb n ((msg.drop 64).drop (64 * m))
              (absorb m (msg.drop 64) (compress v (msg.take 64))) := ih _ _
        _ = absorb n (msg.drop (64 * (m + 1))) (absorb (m + 1) msg v) := by
            rw [hplace, absorb_next m msg v]

/-- One block more. -/
theorem absorb_succ (n : Nat) (msg : List UInt8) (v : Work) :
    absorb (n + 1) msg v = compress (absorb n msg v) ((msg.drop (64 * n)).take 64) := by
  have hone := absorb_next 0 (msg.drop (64 * n)) (absorb n msg v)
  exact (absorb_add n 1 msg v).trans hone

/-- The bytes of a chaining value. -/
def digest (v : Work) : Block 32 := slice 32 0 <|
  [v.a, v.b, v.c, v.d, v.e, v.f, v.g, v.h].flatMap fun w : UInt32 =>
    [(w >>> 24).toUInt8, (w >>> 16).toUInt8, (w >>> 8).toUInt8, w.toUInt8]

/-- **SHA-256.** -/
def sha256 (msg : List UInt8) : Block 32 :=
  let padded := pad msg
  digest (absorb (padded.length / 64) padded initial)

/-- The hash of the three letters `abc`. -/
example : toList (sha256 [0x61, 0x62, 0x63]) =
    [0xba, 0x78, 0x16, 0xbf, 0x8f, 0x01, 0xcf, 0xea, 0x41, 0x41, 0x40, 0xde, 0x5d, 0xae, 0x22, 0x23,
     0xb0, 0x03, 0x61, 0xa3, 0x96, 0x17, 0x7a, 0x9c, 0xb4, 0x10, 0xff, 0x61, 0xf2, 0x00, 0x15, 0xad] := by
  decide +kernel

end Sha256
