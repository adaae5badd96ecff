import Mathlib

/-! # The field of GHASH

    The elements of GF(2 ^ 128) as 128-bit words, the first bit the coefficient of 1 and the last
    one that of X ^ 127, modulo X ^ 128 + X ^ 7 + X ^ 2 + X + 1.

    * `timesX`: a shift and a reduction; `mul`: the product bit by bit;
    * **`toRing_mul`**: `mul` is the product of the residue ring, and `toRing_injective`: a
      word is read back from its residue;
    * **`mul_nibbles`**: the same product four bits at a time, from a table of 16 multiples. -/

namespace Gf128

/-- An element. -/
abbrev Elem := BitVec 128

/-- The word of X ^ 128, reduced. -/
def reduction : Elem := 0xE1#128 <<< 120

/-- The product with X. -/
def timesX (v : Elem) : Elem := (v >>> 1) ^^^ (if v.getLsbD 0 then reduction else 0)

/-- The product, bit by bit from the first: `z` is what is summed up, `v` the next multiple. -/
def mul (x h : Elem) : Elem :=
  ((List.range 128).foldl (fun zv i =>
    (if x.getMsbD i then zv.1 ^^^ zv.2 else zv.1, timesX zv.2)) (0, h)).1

/-- `timesX` is linear. -/
theorem timesX_xor (a b : Elem) : timesX (a ^^^ b) = timesX a ^^^ timesX b := by
  unfold timesX
  rw [BitVec.ushiftRight_xor_distrib, BitVec.getLsbD_xor]
  cases a.getLsbD 0 <;> cases b.getLsbD 0 <;>
    simp only [Bool.xor_false, Bool.xor_true, Bool.false_eq_true, Bool.not_true, Bool.not_false,
      if_true, if_false, BitVec.ofNat_eq_ofNat, BitVec.xor_zero]
  · exact (BitVec.xor_assoc _ _ _)
  · rw [BitVec.xor_assoc, BitVec.xor_comm (b >>> 1), ← BitVec.xor_assoc]
  · rw [BitVec.xor_assoc, BitVec.xor_comm reduction, BitVec.xor_assoc, BitVec.xor_self,
      BitVec.xor_zero]

@[simp] theorem timesX_zero : timesX 0 = 0 := by decide

/-! ## Horner's rule -/

/-- The sum of the `n` multiples of `h` whose bits start at `k`, by Horner's rule. -/
def horner (bit : Nat → Bool) (h : Elem) : Nat → Nat → Elem
  | _, 0 => 0
  | k, n + 1 => (if bit k then h else 0) ^^^ timesX (horner bit h (k + 1) n)

theorem horner_timesX (bit : Nat → Bool) (h : Elem) (k n : Nat) :
    horner bit (timesX h) k n = timesX (horner bit h k n) := by
  induction n generalizing k with
  | zero => exact timesX_zero.symm
  | succ n ih =>
      rw [horner, horner, ih, timesX_xor]
      cases bit k
      · rw [if_neg Bool.false_ne_true, if_neg Bool.false_ne_true, timesX_zero]
      · rfl

theorem foldl_horner (bit : Nat → Bool) (z v : Elem) (k n : Nat) :
    ((List.range' k n).foldl (fun zv i =>
      (if bit i then zv.1 ^^^ zv.2 else zv.1, timesX zv.2)) (z, v)).1
      = z ^^^ horner bit v k n := by
  induction n generalizing z v k with
  | zero =>
      rw [List.range'_zero, List.foldl_nil, horner]
      exact BitVec.xor_zero.symm
  | succ n ih =>
      rw [List.range'_succ, List.foldl_cons, ih, horner_timesX, horner, ← BitVec.xor_assoc]
      cases bit k
      · rw [if_neg Bool.false_ne_true, if_neg Bool.false_ne_true]
        congr 1
        exact BitVec.xor_zero.symm
      · rfl

/-- **The product by Horner's rule.** -/
theorem mul_horner (x h : Elem) : mul x h = horner x.getMsbD h 0 128 := by
  rw [mul, List.range_eq_range', foldl_horner]
  exact BitVec.zero_xor

@[simp] theorem zero_mul (h : Elem) : mul 0 h = 0 := by
  have hnone : ∀ k n, horner (0 : Elem).getMsbD h k n = 0 := by
    intro k n
    induction n generalizing k with
    | zero => rfl
    | succ n ih =>
        rw [horner, ih, timesX_zero, if_neg]
        · rfl
        · simp
  rw [mul_horner, hnone]

/-! ## Four bits at a time -/

/-- Four steps. -/
def timesX4 (v : Elem) : Elem := timesX (timesX (timesX (timesX v)))

theorem timesX4_xor (a b : Elem) : timesX4 (a ^^^ b) = timesX4 a ^^^ timesX4 b := by
  simp only [timesX4, timesX_xor]

/-- The multiple of `h` for four bits, the first bit for `h` itself. -/
def multiple (h : Elem) (b₀ b₁ b₂ b₃ : Bool) : Elem :=
  (if b₀ then h else 0) ^^^ (if b₁ then timesX h else 0)
    ^^^ (if b₂ then timesX (timesX h) else 0) ^^^ (if b₃ then timesX (timesX (timesX h)) else 0)

/-- Horner's rule over groups of four bits. -/
def nibbles (bit : Nat → Bool) (h : Elem) : Nat → Nat → Elem
  | _, 0 => 0
  | k, n + 1 =>
      multiple h (bit (4 * k)) (bit (4 * k + 1)) (bit (4 * k + 2)) (bit (4 * k + 3))
        ^^^ timesX4 (nibbles bit h (k + 1) n)

theorem timesX_ite (c : Bool) (v : Elem) :
    timesX (if c then v else 0) = if c then timesX v else 0 := by
  cases c
  · exact timesX_zero
  · rfl

theorem horner_nibbles (bit : Nat → Bool) (h : Elem) (k n : Nat) :
    horner bit h (4 * k) (4 * n) = nibbles bit h k n := by
  induction n generalizing k with
  | zero => rfl
  | succ n ih =>
      rw [nibbles, ← ih]
      show horner bit h (4 * k) (4 * n + 1 + 1 + 1 + 1) = _
      rw [horner, horner, horner, horner]
      simp only [timesX_xor, timesX_ite, multiple, timesX4, BitVec.xor_assoc]
      rfl

/-- **The product, four bits at a time.** -/
theorem mul_nibbles (x h : Elem) : mul x h = nibbles x.getMsbD h 0 32 := by
  rw [mul_horner]
  exact horner_nibbles x.getMsbD h 0 32

/-- Four steps are a shift by four, and what falls out comes back reduced. -/
theorem timesX4_shift (v : Elem) : timesX4 v = (v >>> 4) ^^^ timesX4 (v &&& 0xF#128) := by
  have hsplit : v = (v &&& ~~~0xF#128) ^^^ (v &&& 0xF#128) := by
    ext i hi
    simp only [BitVec.getElem_xor, BitVec.getElem_and, BitVec.getElem_not]
    cases v[i] <;> cases (0xF#128)[i] <;> rfl
  have hlow : ∀ w : Elem, w.getLsbD 0 = false → timesX w = w >>> 1 := by
    intro w hw
    rw [timesX, hw, if_neg Bool.false_ne_true]
    exact BitVec.xor_zero
  have hhigh : timesX4 (v &&& ~~~0xF#128) = v >>> 4 := by
    have hbit : ∀ i, i < 4 → (v &&& ~~~0xF#128).getLsbD i = false := by
      intro i hi
      have hmask : ∀ j : Fin 4, (~~~0xF#128).getLsbD j = false := by decide
      rw [BitVec.getLsbD_and, hmask ⟨i, hi⟩, Bool.and_false]
    -- none of the four steps has a bit to reduce
    have hone : ∀ k, k < 4 → ((v &&& ~~~0xF#128) >>> k).getLsbD 0 = false := by
      intro k hk
      rw [BitVec.getLsbD_ushiftRight]
      exact hbit k hk
    have hstep : ∀ k, k < 4 →
        timesX ((v &&& ~~~0xF#128) >>> k) = (v &&& ~~~0xF#128) >>> (k + 1) := by
      intro k hk
      rw [hlow _ (hone k hk), BitVec.shiftRight_add]
    have hzero : v &&& ~~~0xF#128 = (v &&& ~~~0xF#128) >>> 0 := (BitVec.ushiftRight_zero _).symm
    rw [timesX4, hzero, hstep 0 (by decide), hstep 1 (by decide), hstep 2 (by decide),
      hstep 3 (by decide)]
    ext i hi
    have hmask : ∀ j : Fin 128, 4 ≤ j.val → (~~~0xF#128).getLsbD j = true := by decide
    rw [BitVec.getElem_ushiftRight, BitVec.getElem_ushiftRight, BitVec.getLsbD_and]
    by_cases hj : 4 + i < 128
    · rw [hmask ⟨4 + i, hj⟩ (Nat.le_add_right 4 i), Bool.and_true]
    · rw [BitVec.getLsbD_of_ge v (4 + i) (by omega), Bool.false_and]
  conv_lhs => rw [hsplit]
  rw [timesX4_xor, hhigh]

/-! ## The residue ring -/

section Residues

open Polynomial

/-- The modulus. -/
noncomputable def modulus : (ZMod 2)[X] := X ^ 128 + X ^ 7 + X ^ 2 + X + 1

/-- A bit as a coefficient. -/
def coefficient (b : Bool) : ZMod 2 := if b then 1 else 0

/-- The polynomial a word stands for. -/
noncomputable def toPoly (v : Elem) : (ZMod 2)[X] :=
  ∑ i ∈ Finset.range 128, C (coefficient (v.getMsbD i)) * X ^ i

/-- The residue a word stands for. -/
noncomputable def toRing (v : Elem) : AdjoinRoot modulus := AdjoinRoot.mk modulus (toPoly v)

theorem coefficient_xor (a b : Bool) :
    coefficient (a ^^ b) = coefficient a + coefficient b := by
  revert a b
  decide

theorem coeff_toPoly (v : Elem) (k : Nat) : (toPoly v).coeff k = coefficient (v.getMsbD k) := by
  rw [toPoly, finsetSum_coeff]
  simp only [coeff_C_mul_X_pow]
  by_cases hk : k < 128
  · rw [Finset.sum_eq_single k]
    · rw [if_pos rfl]
    · intro i _ hne
      exact if_neg (Ne.symm hne)
    · intro hout
      exact absurd (Finset.mem_range.mpr hk) hout
  · rw [BitVec.getMsbD_of_ge v k (by omega), Finset.sum_eq_zero]
    · rfl
    · intro i hi
      have := Finset.mem_range.mp hi
      exact if_neg (by omega)

theorem toPoly_xor (a b : Elem) : toPoly (a ^^^ b) = toPoly a + toPoly b := by
  ext k
  rw [coeff_add, coeff_toPoly, coeff_toPoly, coeff_toPoly, BitVec.getMsbD_xor, coefficient_xor]

/-- Below X ^ 128 the coefficients are the bits of the reduction. -/
theorem coeff_modulus (k : Nat) :
    modulus.coeff k = if k = 128 then 1 else coefficient (reduction.getMsbD k) := by
  have hlow : ∀ k : Fin 128, 0 + (if k.val = 7 then 1 else 0) + (if k.val = 2 then 1 else 0)
      + (if 1 = k.val then 1 else 0) + (if k.val = 0 then 1 else 0)
        = coefficient (reduction.getMsbD k.val) := by
    decide +kernel
  unfold modulus
  rw [coeff_add, coeff_add, coeff_add, coeff_add, coeff_X_pow, coeff_X_pow, coeff_X_pow, coeff_X,
    coeff_one]
  by_cases hk : k < 128
  · have hne : k ≠ 128 := by omega
    rw [if_neg hne, if_neg hne, ← hlow ⟨k, hk⟩]
  · by_cases heq : k = 128
    · rw [heq]
      decide
    · rw [if_neg heq, if_neg (by omega), if_neg (by omega), if_neg (by omega), if_neg (by omega),
        if_neg heq, BitVec.getMsbD_of_ge _ k (by omega)]
      decide

/-- What falls out comes in again at the first bit. -/
theorem timesX_first (v : Elem) : (timesX v).getMsbD 0 = v.getLsbD 0 := by
  have hshift : (v >>> 1).getMsbD 0 = false := by
    rw [BitVec.getMsbD_ushiftRight, decide_eq_true Nat.zero_lt_one, Bool.not_true,
      Bool.false_and, Bool.and_false]
  have hone : reduction.getMsbD 0 = true := by decide
  rw [timesX, BitVec.getMsbD_xor, hshift, Bool.false_xor]
  cases v.getLsbD 0
  · rw [if_neg Bool.false_ne_true]
    exact BitVec.getMsbD_zero
  · rw [if_pos rfl, hone]

/-- The other bits move on by one, with the reduction over them. -/
theorem timesX_next (v : Elem) {k : Nat} (hk : k + 1 < 128) :
    (timesX v).getMsbD (k + 1)
      = (v.getMsbD k ^^ (v.getLsbD 0 && reduction.getMsbD (k + 1))) := by
  rw [timesX, BitVec.getMsbD_xor, BitVec.getMsbD_ushiftRight, decide_eq_true hk,
    decide_eq_false (Nat.not_lt.mpr (Nat.le_add_left 1 k))]
  cases v.getLsbD 0
  · rw [if_neg Bool.false_ne_true, Bool.false_and]
    congr 1
    exact BitVec.getMsbD_zero
  · rfl

/-- A step multiplies by X, and a bit that falls out takes the modulus with it. -/
theorem toPoly_timesX (v : Elem) :
    X * toPoly v = toPoly (timesX v) + C (coefficient (v.getLsbD 0)) * modulus := by
  have hfall : v.getMsbD 127 = v.getLsbD 0 := by
    rw [BitVec.getLsbD_eq_getMsbD]
    rfl
  ext k
  rw [coeff_add, coeff_C_mul, coeff_modulus, coeff_toPoly]
  cases k with
  | zero =>
      have hone : reduction.getMsbD 0 = true := by decide
      have htwice : ∀ b, coefficient b + coefficient b * coefficient true = 0 := by decide
      rw [coeff_X_mul_zero, if_neg (by decide), timesX_first, hone, htwice]
  | succ k =>
      rw [coeff_X_mul, coeff_toPoly]
      by_cases hk : k + 1 < 128
      · have hcancel : ∀ a b c, coefficient (a ^^ (b && c)) + coefficient b * coefficient c
            = coefficient a := by decide
        rw [if_neg (by omega), timesX_next v hk, hcancel]
      · rw [BitVec.getMsbD_of_ge (timesX v) _ (by omega),
          BitVec.getMsbD_of_ge reduction _ (by omega)]
        by_cases hlast : k = 127
        · have hlow : ∀ b, coefficient b = coefficient false + coefficient b * 1 := by decide
          rw [if_pos (by omega), hlast, hfall]
          exact hlow _
        · have hnone : ∀ b, coefficient false = coefficient false + coefficient b * coefficient false := by
            decide
          rw [if_neg (by omega), BitVec.getMsbD_of_ge v _ (by omega)]
          exact hnone _

theorem degree_modulus : modulus.degree = 128 := by
  unfold modulus
  compute_degree!

theorem degree_toPoly_lt (v : Elem) : (toPoly v).degree < modulus.degree := by
  rw [degree_modulus]
  apply (degree_lt_iff_coeff_zero _ 128).mpr
  intro k hk
  rw [coeff_toPoly, BitVec.getMsbD_of_ge v k hk]
  rfl

-- the coefficients are all that is asked of the two polynomials from here on
attribute [irreducible] modulus toPoly

/-- The residue of X. -/
noncomputable def root : AdjoinRoot modulus := AdjoinRoot.mk modulus X

@[simp] theorem toRing_xor (a b : Elem) : toRing (a ^^^ b) = toRing a + toRing b := by
  rw [toRing, toPoly_xor, map_add]
  rfl

theorem toRing_timesX (v : Elem) : toRing (timesX v) = root * toRing v := by
  rw [toRing, toRing, root, ← map_mul, toPoly_timesX, map_add, map_mul, AdjoinRoot.mk_self,
    mul_zero, add_zero]

@[simp] theorem toRing_zero : toRing 0 = 0 := by
  have hpoly : toPoly 0 = 0 := by
    ext k
    rw [coeff_toPoly, coeff_zero]
    simp [coefficient]
  rw [toRing, hpoly, map_zero]

/-- Horner's rule in the ring. -/
theorem toRing_horner (bit : Nat → Bool) (h : Elem) (k n : Nat) :
    toRing (horner bit h k n)
      = (∑ i ∈ Finset.range n, AdjoinRoot.mk modulus (C (coefficient (bit (k + i)))) * root ^ i)
        * toRing h := by
  induction n generalizing k with
  | zero => rw [horner, toRing_zero, Finset.sum_range_zero, MulZeroClass.zero_mul]
  | succ n ih =>
      rw [horner, toRing_xor, toRing_timesX, ih, Finset.sum_range_succ', add_mul, add_comm]
      have hlater : root * ((∑ i ∈ Finset.range n,
            AdjoinRoot.mk modulus (C (coefficient (bit (k + 1 + i)))) * root ^ i) * toRing h)
          = (∑ i ∈ Finset.range n,
            AdjoinRoot.mk modulus (C (coefficient (bit (k + (i + 1))))) * root ^ (i + 1))
            * toRing h := by
        rw [← mul_assoc, Finset.mul_sum]
        congr 1
        apply Finset.sum_congr rfl
        intro i _
        rw [pow_succ, Nat.add_assoc, Nat.add_comm 1 i]
        ring
      have hfirst : toRing (if bit k then h else 0)
          = AdjoinRoot.mk modulus (C (coefficient (bit (k + 0)))) * root ^ 0 * toRing h := by
        rw [Nat.add_zero, pow_zero, mul_one]
        cases bit k
        · rw [if_neg Bool.false_ne_true, toRing_zero, coefficient, if_neg Bool.false_ne_true,
            map_zero, map_zero, MulZeroClass.zero_mul]
        · rw [if_pos rfl, coefficient, if_pos rfl, map_one, map_one, one_mul]
      rw [hlater, hfirst]

/-- **The product is the one of the residue ring.** -/
theorem toRing_mul (x h : Elem) : toRing (mul x h) = toRing x * toRing h := by
  have hx : toRing x = ∑ i ∈ Finset.range 128,
      AdjoinRoot.mk modulus (C (coefficient (x.getMsbD (0 + i)))) * root ^ i := by
    rw [toRing]
    unfold toPoly
    rw [map_sum]
    apply Finset.sum_congr rfl
    intro i _
    rw [map_mul, map_pow, Nat.zero_add]
    rfl
  rw [mul_horner, toRing_horner, hx]

/-- **A word is read back from its residue.** -/
theorem toRing_injective : Function.Injective toRing := by
  intro a b h
  rw [toRing, toRing, AdjoinRoot.mk_eq_mk] at h
  have hsmall : (toPoly a - toPoly b).degree < modulus.degree :=
    lt_of_le_of_lt (degree_sub_le _ _) (max_lt (degree_toPoly_lt a) (degree_toPoly_lt b))
  have hzero : toPoly a - toPoly b = 0 := eq_zero_of_dvd_of_degree_lt h hsmall
  have heq : toPoly a = toPoly b := sub_eq_zero.mp hzero
  apply BitVec.eq_of_getMsbD_eq
  intro k _
  have hk : (toPoly a).coeff k = (toPoly b).coeff k := by rw [heq]
  rw [coeff_toPoly, coeff_toPoly] at hk
  have hinj : ∀ b c, coefficient b = coefficient c → b = c := by decide
  exact hinj _ _ hk

end Residues

end Gf128
