import Sofa.Lib.Block

/-! # Byte streams over blocks

    What a block mode does to a stream that comes in pieces of any length, byte by byte, so that
    pieces compose as lists do.

    * `Absorber`: a block that the bytes are XORed into, with a map applied whenever it is full;
      `absorb_within` and `absorb_full` are a piece inside one block, and **`flush_absorb`** is
      the whole stream, cut into blocks and padded with zeros;
    * `masked`: the stream XORed with the blocks of a counter, by the place of each byte;
      `masked_within` is a piece inside one block, **`masked_append`** a stream in two pieces. -/

namespace BlockStream

open ByteBlock

variable {n : Nat}

/-! ## Places -/

/-- A place further on in the same block. -/
theorem place_add {c k : Nat} (h : c % n + k < n) : (c + k) % n = c % n + k := by
  rw [Nat.add_mod, Nat.mod_eq_of_lt (show k < n by omega), Nat.mod_eq_of_lt h]

/-- The first place of the next block. -/
theorem place_full {c k : Nat} (h : c % n + k = n) : (c + k) % n = 0 := by
  have hc := Nat.div_add_mod c n
  have hsum : c + k = n * (c / n + 1) := by
    rw [Nat.mul_add, Nat.mul_one]
    omega
  rw [hsum, Nat.mul_mod_right]

/-! ## XOR into a block -/

/-- The bytes `p` XORed into the block from place `off` on. -/
def pour (b : Block n) (off : Nat) (p : List UInt8) : Block n :=
  fun i => b i ^^^ (if off ≤ i.val then p.getD (i.val - off) 0 else 0)

@[simp] theorem pour_nil (b : Block n) (off : Nat) : pour b off [] = b := by
  funext i
  simp [pour]

theorem pour_cons (b : Block n) (off : Nat) (x : UInt8) (p : List UInt8) :
    pour b off (x :: p) = pour (pour b off [x]) (off + 1) p := by
  funext i
  simp only [pour]
  by_cases hlow : off ≤ i.val
  · by_cases heq : off = i.val
    · rw [if_pos hlow, if_pos hlow, if_neg (by omega), heq, Nat.sub_self, UInt8.xor_zero]
      rfl
    · obtain ⟨k, hk⟩ : ∃ k, i.val - off = k + 1 := ⟨i.val - off - 1, by omega⟩
      have hk' : i.val - (off + 1) = k := by omega
      rw [if_pos hlow, if_pos hlow, if_pos (by omega), hk, hk', List.getD_cons_succ,
        List.getD_cons_succ, List.getD_nil, UInt8.xor_zero]
  · rw [if_neg hlow, if_neg hlow, if_neg (by omega), UInt8.xor_zero, UInt8.xor_zero]

/-- From the first place on, the bytes are those of a block padded with zeros. -/
theorem pour_zero (b : Block n) (p : List UInt8) : pour b 0 p = ByteBlock.xor b (slice n 0 p) := by
  funext i
  simp [pour, ByteBlock.xor, slice]

theorem pour_append (b : Block n) (off : Nat) (p q : List UInt8) :
    pour b off (p ++ q) = pour (pour b off p) (off + p.length) q := by
  induction p generalizing b off with
  | nil => rw [List.nil_append, pour_nil]; rfl
  | cons x p ih =>
      rw [List.cons_append, pour_cons, ih, pour_cons b off x p, List.length_cons,
        Nat.add_assoc, Nat.add_comm 1]

/-- Two blocks XORed byte by byte, for as many bytes as are wanted. -/
theorem zipWith_take (x y : Block n) (k : Nat) :
    List.zipWith (· ^^^ ·) ((toList x).take k) (toList y) = (toList (ByteBlock.xor x y)).take k := by
  apply List.ext_getElem
  · simp
  · intro i _ _
    simp [toList, ByteBlock.xor]

/-! ## Absorbing -/

/-- A block that takes bytes, and how many it has taken. -/
structure Absorber (n : Nat) where
  buf : Block n
  count : Nat

namespace Absorber

variable (f : Block n → Block n)

/-- One byte: XORed in at its place, and `f` when that was the last place. -/
def byte (s : Absorber n) (x : UInt8) : Absorber n where
  buf := if (s.count + 1) % n = 0 then f (pour s.buf (s.count % n) [x])
    else pour s.buf (s.count % n) [x]
  count := s.count + 1

/-- The bytes of a piece, one after the other. -/
def absorb (s : Absorber n) (p : List UInt8) : Absorber n := p.foldl (byte f) s

/-- What the stream comes to if it ends here: a block that is not full is padded. -/
def flush (s : Absorber n) : Block n := if s.count % n = 0 then s.buf else f s.buf

@[simp] theorem absorb_nil (s : Absorber n) : s.absorb f [] = s := rfl

@[simp] theorem absorb_append (s : Absorber n) (p q : List UInt8) :
    s.absorb f (p ++ q) = (s.absorb f p).absorb f q := List.foldl_append

@[simp] theorem absorb_count (s : Absorber n) (p : List UInt8) :
    (s.absorb f p).count = s.count + p.length := by
  induction p generalizing s with
  | nil => rfl
  | cons x p ih =>
      rw [absorb, List.foldl_cons, ← absorb, ih, List.length_cons]
      show s.count + 1 + p.length = s.count + (p.length + 1)
      omega

/-- A piece that leaves room in the block. -/
theorem absorb_within {s : Absorber n} {p : List UInt8} (h : s.count % n + p.length < n) :
    s.absorb f p = ⟨pour s.buf (s.count % n) p, s.count + p.length⟩ := by
  induction p generalizing s with
  | nil => rw [absorb_nil, pour_nil]; rfl
  | cons x p ih =>
      rw [List.length_cons] at h
      have hplace : (s.count + 1) % n = s.count % n + 1 := place_add (by omega)
      have hnext : (s.byte f x).count % n = s.count % n + 1 := hplace
      have hbuf : (s.byte f x).buf = pour s.buf (s.count % n) [x] := if_neg (by omega)
      have hcount : (s.byte f x).count = s.count + 1 := rfl
      rw [absorb, List.foldl_cons, ← absorb, ih (by omega), hnext, hbuf, hcount, ← pour_cons,
        List.length_cons, Nat.add_assoc, Nat.add_comm 1]

/-- A piece that fills the block. -/
theorem absorb_full {s : Absorber n} {p : List UInt8} (hp : p ≠ [])
    (h : s.count % n + p.length = n) :
    s.absorb f p = ⟨f (pour s.buf (s.count % n) p), s.count + p.length⟩ := by
  obtain ⟨q, x, rfl⟩ : ∃ q x, p = q ++ [x] :=
    ⟨p.dropLast, p.getLast hp, (List.dropLast_append_getLast hp).symm⟩
  rw [List.length_append, List.length_singleton] at h ⊢
  have hplace : (s.count + q.length) % n = s.count % n + q.length := place_add (by omega)
  have hlast : (s.count + q.length + 1) % n = 0 := place_full (by omega)
  have hwithin : s.absorb f q = ⟨pour s.buf (s.count % n) q, s.count + q.length⟩ :=
    absorb_within f (by omega)
  rw [absorb_append, hwithin, absorb, List.foldl_cons, List.foldl_nil, byte]
  simp only [hplace, if_pos hlast, ← pour_append]
  rfl

end Absorber

/-! ## Blocks -/

section Blocks

variable (f : Block n → Block n)

/-- The stream cut into blocks, the last one padded with zeros. -/
def blocks (n : Nat) (p : List UInt8) : List (Block n) :=
  (List.range ((p.length + n - 1) / n)).map fun k => slice n (k * n) p

/-- The blocks one after the other. -/
def hash (y : Block n) (bs : List (Block n)) : Block n :=
  bs.foldl (fun y b => f (ByteBlock.xor y b)) y

@[simp] theorem hash_nil (y : Block n) : hash f y [] = y := rfl

theorem hash_append (y : Block n) (bs cs : List (Block n)) :
    hash f y (bs ++ cs) = hash f (hash f y bs) cs := List.foldl_append

theorem hash_cons (y b : Block n) (bs : List (Block n)) :
    hash f y (b :: bs) = hash f (f (ByteBlock.xor y b)) bs := rfl

theorem blocks_nil (hn : 0 < n) : blocks n [] = [] := by
  have hnone : (0 + n - 1) / n = 0 := Nat.div_eq_of_lt (by omega)
  rw [blocks, List.length_nil, hnone]
  rfl

theorem blocks_some (hn : 0 < n) {p : List UInt8} (hp : p ≠ []) :
    blocks n p = slice n 0 p :: blocks n (p.drop n) := by
  have hpos : 0 < p.length := List.length_pos_iff.mpr hp
  have hcount : (p.length + n - 1) / n = ((p.drop n).length + n - 1) / n + 1 := by
    rw [List.length_drop, ← Nat.add_div_right _ hn]
    by_cases hshort : p.length < n
    · have hone : p.length + n - 1 = (p.length - 1) + n := by omega
      have hzero : p.length - n + n - 1 + n = (n - 1) + n := by omega
      rw [hone, hzero, Nat.add_div_right _ hn, Nat.add_div_right _ hn,
        Nat.div_eq_of_lt (by omega), Nat.div_eq_of_lt (by omega)]
    · congr 1
      omega
  rw [blocks, hcount, List.range_succ_eq_map, List.map_cons, Nat.zero_mul, List.map_map, blocks]
  congr 1
  apply List.map_congr_left
  intro k _
  funext i
  simp only [Function.comp_apply, slice, List.getD_eq_getElem?_getD, List.getElem?_drop]
  congr 2
  rw [Nat.succ_mul]
  omega

/-- **A stream that starts at a block is absorbed block by block.** -/
theorem Absorber.flush_absorb (hn : 0 < n) {s : Absorber n} (hs : s.count % n = 0) (p : List UInt8) :
    (s.absorb f p).flush f = hash f s.buf (blocks n p) := by
  induction hlen : p.length using Nat.strong_induction_on generalizing s p with
  | _ len ih =>
      by_cases hp : p = []
      · rw [hp, absorb_nil, blocks_nil hn, flush, if_pos hs]
        rfl
      · have hpos : 0 < p.length := List.length_pos_iff.mpr hp
        rw [blocks_some hn hp, hash_cons]
        by_cases hshort : p.length < n
        · have hrest : p.drop n = [] := List.drop_eq_nil_of_le (by omega)
          have hplace : (s.count + p.length) % n ≠ 0 := by
            rw [place_add (by omega)]
            omega
          rw [absorb_within f (by omega), flush, if_neg hplace, hs, pour_zero, hrest,
            blocks_nil hn]
          rfl
        · have hsplit : p = p.take n ++ p.drop n := (List.take_append_drop n p).symm
          have htake : (p.take n).length = n := by
            rw [List.length_take]
            omega
          have hslice : slice n 0 (p.take n) = slice n 0 p := by
            funext i
            simp [slice, i.isLt]
          have hfull : s.absorb f (p.take n)
              = ⟨f (ByteBlock.xor s.buf (slice n 0 p)), s.count + n⟩ := by
            rw [absorb_full f (List.ne_nil_of_length_pos (by omega)) (by omega), hs, pour_zero,
              hslice, htake]
          have hnext : (s.count + n) % n = 0 := by rw [Nat.add_mod_right, hs]
          conv_lhs => rw [hsplit, absorb_append, hfull]
          exact ih (p.drop n).length (by rw [List.length_drop]; omega) hnext (p.drop n) rfl

end Blocks

/-! ## Masking -/

section Mask

variable (cipher next : Block n → Block n) (j : Block n)

/-- The byte for place `i`: the counter goes one on before each block. -/
def keystream (i : Nat) : UInt8 := (toList (cipher (next^[i / n + 1] j))).getD (i % n) 0

/-- The stream `d`, of which the first byte has place `k`. -/
def masked (k : Nat) (d : List UInt8) : List UInt8 :=
  d.mapIdx fun i x => keystream cipher next j (k + i) ^^^ x

@[simp] theorem length_masked (k : Nat) (d : List UInt8) :
    (masked cipher next j k d).length = d.length := List.length_mapIdx

@[simp] theorem masked_nil (k : Nat) : masked cipher next j k [] = [] := rfl

/-- **Two pieces.** -/
theorem masked_append (k : Nat) (d e : List UInt8) :
    masked cipher next j k (d ++ e)
      = masked cipher next j k d ++ masked cipher next j (k + d.length) e := by
  rw [masked, List.mapIdx_append, masked, masked]
  congr 1
  apply List.mapIdx_eq_mapIdx_iff.mpr
  intro i _
  rw [Nat.add_assoc, Nat.add_comm d.length]

/-- Masking twice gives the stream back. -/
@[simp] theorem masked_masked (k : Nat) (d : List UInt8) :
    masked cipher next j k (masked cipher next j k d) = d := by
  apply List.ext_getElem
  · rw [length_masked, length_masked]
  · intro i _ _
    simp only [masked, List.getElem_mapIdx]
    rw [← UInt8.xor_assoc, UInt8.xor_self, UInt8.zero_xor]

/-- A piece inside one block takes the bytes of that block's mask. -/
theorem masked_within {k : Nat} {d : List UInt8} (h : k % n + d.length ≤ n) :
    masked cipher next j k d
      = List.zipWith (· ^^^ ·) ((toList (cipher (next^[k / n + 1] j))).drop (k % n)) d := by
  apply List.ext_getElem
  · rw [length_masked, List.length_zipWith, List.length_drop, length_toList]
    omega
  · intro i hi _
    rw [length_masked] at hi
    have hplace : (k + i) % n = k % n + i := place_add (by omega)
    have hblock : (k + i) / n = k / n := by
      have hk := Nat.div_add_mod k n
      have hki := Nat.div_add_mod (k + i) n
      rw [hplace] at hki
      have hmul : n * ((k + i) / n) = n * (k / n) := by omega
      exact Nat.eq_of_mul_eq_mul_left (by omega) hmul
    have hlen : k % n + i < (toList (cipher (next^[k / n + 1] j))).length := by
      rw [length_toList]
      omega
    simp only [masked, List.getElem_mapIdx, List.getElem_zipWith, List.getElem_drop, keystream]
    rw [hplace, hblock, List.getD_eq_getElem _ _ hlen]

end Mask

end BlockStream
