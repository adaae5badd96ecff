import Mathlib.Data.List.OfFn

/-! # A fixed buffer that is filled from the front

    A buffer of `n` cells is a function on `Fin n`.  `store` writes a list at an offset,
    `load` reads cells out as a list.

    * `store_append`: adjoining writes are one;
    * **`load_store`**: what was stored behind a filled front extends it. -/

namespace FixedBuffer

variable {α : Type*} {n : Nat}

/-- Write `data` from the offset on; the other cells stay. -/
def store (buf : Fin n → α) (off : Nat) (data : List α) : Fin n → α := fun i =>
  if off ≤ i.val then (data[i.val - off]?).getD (buf i) else buf i

/-- Read `len` cells from the offset on. -/
def load (buf : Fin n → α) (off len : Nat) : List α := ((List.ofFn buf).drop off).take len

@[simp] theorem load_zero (buf : Fin n → α) (off : Nat) : load buf off 0 = [] := List.take_zero

theorem length_load (buf : Fin n → α) {off len : Nat} (h : off + len ≤ n) :
    (load buf off len).length = len := by
  rw [load, List.length_take, List.length_drop, List.length_ofFn]
  omega

/-- The cells of a window. -/
theorem getElem?_load (buf : Fin n → α) {off len : Nat} (h : off + len ≤ n) (i : Nat) :
    (load buf off len)[i]? = if hi : i < len then some (buf ⟨off + i, by omega⟩) else none := by
  rw [load, List.getElem?_take, List.getElem?_drop]
  by_cases hi : i < len
  · rw [if_pos hi, dif_pos hi, List.getElem?_ofFn, dif_pos (by omega)]
  · rw [if_neg hi, dif_neg hi]

/-- **A stored list extends the front**: the first `off` cells stay, and the list follows. -/
theorem load_store (buf : Fin n → α) {off : Nat} {data : List α} (h : off + data.length ≤ n) :
    load (store buf off data) 0 (off + data.length) = load buf 0 off ++ data := by
  apply List.ext_getElem?
  intro i
  rw [getElem?_load _ (by omega), List.getElem?_append, length_load buf (by omega),
    getElem?_load buf (by omega)]
  by_cases hi : i < off
  · rw [if_pos hi, dif_pos hi, dif_pos (by omega)]
    have hno : ¬ off ≤ 0 + i := by omega
    simp only [store, if_neg hno]
  · rw [if_neg hi]
    by_cases hd : i < off + data.length
    · have hin : off ≤ i := by omega
      have hshort : i - off < data.length := by omega
      have hget : data[i - off]? = some data[i - off] := List.getElem?_eq_getElem hshort
      simp only [dif_pos hd, store, Nat.zero_add, if_pos hin, hget, Option.getD_some]
    · rw [dif_neg hd, List.getElem?_eq_none (by omega)]

theorem store_nil (buf : Fin n → α) (off : Nat) : store buf off [] = buf := by
  funext i
  simp [store]

/-- Past the end nothing is written. -/
theorem store_past (buf : Fin n → α) {off : Nat} (h : n ≤ off) (data : List α) :
    store buf off data = buf := by
  funext i
  have hbefore : ¬ off ≤ i.val := by omega
  rw [store, if_neg hbefore]

/-- A cell that is written. -/
theorem store_apply (buf : Fin n → α) {off : Nat} {data : List α} {i : Fin n} (h : off ≤ i.val)
    (hd : i.val - off < data.length) : store buf off data i = data[i.val - off] := by
  have hget : data[i.val - off]? = some data[i.val - off] := List.getElem?_eq_getElem hd
  rw [store, if_pos h, hget, Option.getD_some]

/-- **Adjoining writes** are one. -/
theorem store_append (buf : Fin n → α) (off : Nat) (a b : List α) :
    store (store buf off a) (off + a.length) b = store buf off (a ++ b) := by
  funext i
  simp only [store]
  by_cases hbelow : off ≤ i.val
  · rw [if_pos hbelow]
    by_cases hright : off + a.length ≤ i.val
    · have hpast : a.length ≤ i.val - off := by omega
      have hshift : i.val - (off + a.length) = i.val - off - a.length := by omega
      rw [if_pos hright, if_pos hbelow, List.getElem?_append_right hpast,
        List.getElem?_eq_none hpast, hshift, Option.getD_none]
    · have hin : i.val - off < a.length := by omega
      rw [if_neg hright, if_pos hbelow, List.getElem?_append_left hin]
  · rw [if_neg hbelow, if_neg (by omega), if_neg hbelow]

/-- The front of a stored list. -/
theorem load_store_take (buf : Fin n → α) {data : List α} {k : Nat} (hk : k ≤ data.length)
    (h : k ≤ n) : load (store buf 0 data) 0 k = data.take k := by
  apply List.ext_getElem?
  intro i
  rw [getElem?_load _ (by omega), List.getElem?_take]
  by_cases hi : i < k
  · have hin : i < data.length := by omega
    rw [dif_pos hi, if_pos hi, store_apply _ (Nat.zero_le _) (by simpa using hin),
      List.getElem?_eq_getElem hin]
    simp only [Nat.zero_add, Nat.sub_zero]
  · rw [dif_neg hi, if_neg hi]

/-- A whole list stored at the front is read back. -/
theorem load_store_zero (buf : Fin n → α) {data : List α} (h : data.length ≤ n) :
    load (store buf 0 data) 0 data.length = data := by
  rw [load_store_take buf (Nat.le_refl _) h, List.take_length]

/-- A window reads nothing outside of it. -/
theorem load_congr {a b : Fin n → α} {off len : Nat}
    (h : ∀ (i : Nat) (hi : i < n), off ≤ i → i < off + len → a ⟨i, hi⟩ = b ⟨i, hi⟩) :
    load a off len = load b off len := by
  apply List.ext_getElem?
  intro i
  rw [load, load, List.getElem?_take, List.getElem?_take, List.getElem?_drop, List.getElem?_drop,
    List.getElem?_ofFn, List.getElem?_ofFn]
  by_cases hi : i < len
  · rw [if_pos hi, if_pos hi]
    by_cases hn : off + i < n
    · rw [dif_pos hn, dif_pos hn, h (off + i) hn (by omega) (by omega)]
    · rw [dif_neg hn, dif_neg hn]
  · rw [if_neg hi, if_neg hi]

/-- A window of a front that is filled. -/
theorem load_of_front (buf : Fin n → α) {front : List α} {total off len : Nat}
    (h : load buf 0 total = front) (htotal : total ≤ n) (hwin : off + len ≤ total) :
    load buf off len = (front.drop off).take len := by
  subst h
  apply List.ext_getElem?
  intro i
  rw [getElem?_load _ (by omega), List.getElem?_take, List.getElem?_drop,
    getElem?_load _ (by omega)]
  by_cases hi : i < len
  · rw [if_pos hi, dif_pos hi, dif_pos (by omega)]
    simp only [Nat.zero_add]
  · rw [if_neg hi, dif_neg hi]

end FixedBuffer
