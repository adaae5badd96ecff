import Mathlib
import Sofa.Lib.Buffer
import Sofa.Lib.Sha256

/-! # The vendored SHA-256

    `sha256.c` of the vendored library.  The block function runs eight rounds a turn and renames
    the registers instead of moving them; the schedule is written in place, an entry before its
    round.  Around it, a context takes the message in pieces and keeps what is no whole block
    yet.

    * `macroP`, `processC`, `update`, `finish`: the code;
    * `macroP_round`: a macro with renamed arguments is a round;
    * **`processC_compress`**: the block function is the compression function of FIPS 180-4;
    * `Absorbed`: what a context holds of a message, and `update_absorbed`: one piece more;
    * **`pieces_standard`**: however the message is cut, the digest is the one of the standard. -/

namespace SofaMbedtlsSha256

open ByteBlock Sha256 FixedBuffer

/-! ## The block function -/

/-- `state` of a context, and `local.A`. -/
abbrev Registers := Fin 8 → UInt32

/-- The registers have literals. -/
local instance registers_ne_zero : NeZero 8 := ⟨by decide⟩

/-- `local.W`, of which 64 entries are used. -/
abbrev Entries := Nat → UInt32

/-- `SHR`. -/
def shr (x n : UInt32) : UInt32 := (x &&& 0xFFFFFFFF) >>> n

/-- `ROTR`. -/
def rotate (x n : UInt32) : UInt32 := shr x n ||| (x <<< (32 - n))

/-- `S0`, `S1`, `S2` and `S3`. -/
def s0 (x : UInt32) : UInt32 := rotate x 7 ^^^ rotate x 18 ^^^ shr x 3

def s1 (x : UInt32) : UInt32 := rotate x 17 ^^^ rotate x 19 ^^^ shr x 10

def s2 (x : UInt32) : UInt32 := rotate x 2 ^^^ rotate x 13 ^^^ rotate x 22

def s3 (x : UInt32) : UInt32 := rotate x 6 ^^^ rotate x 11 ^^^ rotate x 25

/-- `F0` and `F1`. -/
def f0 (x y z : UInt32) : UInt32 := (x &&& y) ||| (z &&& (x ||| y))

def f1 (x y z : UInt32) : UInt32 := z ^^^ (x &&& (y ^^^ z))

/-- `K[t]`. -/
def k (t : Nat) : UInt32 := roundConstants.getD t 0

/-- `R(t)`: the entry `t` of the schedule. -/
def macroR (w : Entries) (t : Nat) : Entries :=
  Function.update w t (s1 (w (t - 2)) + w (t - 7) + s0 (w (t - 15)) + w (t - 16))

/-- `P` with `A[r]` as its first argument; the others follow around. -/
def macroP (a : Registers) (r : Fin 8) (x c : UInt32) : Registers :=
  let temp1 := a (r + 7) + s3 (a (r + 4)) + f1 (a (r + 4)) (a (r + 5)) (a (r + 6)) + c + x
  let temp2 := s2 (a r) + f0 (a r) (a (r + 1)) (a (r + 2))
  let a := Function.update a (r + 3) (a (r + 3) + temp1)
  Function.update a (r + 7) (temp1 + temp2)

/-- `MBEDTLS_GET_UINT32_BE` in a block. -/
def getUint32Be (data : List UInt8) (off : Nat) : UInt32 :=
  ((data.getD off 0).toUInt32 <<< 24) ||| ((data.getD (off + 1) 0).toUInt32 <<< 16)
    ||| ((data.getD (off + 2) 0).toUInt32 <<< 8) ||| (data.getD (off + 3) 0).toUInt32

/-- The loop over the first entries. -/
def loadEntries (data : List UInt8) : Entries :=
  (List.range 16).foldl (fun w i => Function.update w i (getUint32Be data (4 * i))) fun _ => 0

/-- Eight rounds from the round `i` on, over entries that are there. -/
def turnLoaded (w : Entries) (a : Registers) (i : Nat) : Registers :=
  (List.range 8).foldl (fun a j => macroP a (-Fin.ofNat 8 j) (w (i + j)) (k (i + j))) a

/-- Eight rounds from the round `i` on, each with its entry first. -/
def turnFilled (s : Registers × Entries) (i : Nat) : Registers × Entries :=
  (List.range 8).foldl (fun s j =>
    let w := macroR s.2 (i + j)
    (macroP s.1 (-Fin.ofNat 8 j) (w (i + j)) (k (i + j)), w)) s

/-- `mbedtls_internal_sha256_process_c`: the new state. -/
def processC (state : Registers) (data : List UInt8) : Registers :=
  let w := loadEntries data
  let a := (List.range' 0 2 8).foldl (turnLoaded w) state
  let s := (List.range' 16 6 8).foldl turnFilled (a, w)
  fun i => state i + s.1 i

/-! ## The functions -/

theorem rotate_rotr (x n : UInt32) : rotate x n = rotr x n := by
  have hall : x &&& 0xFFFFFFFF = x := UInt32.and_neg_one
  rw [rotate, shr, hall, rotr]

theorem shr_shift (x n : UInt32) : shr x n = x >>> n := by
  have hall : x &&& 0xFFFFFFFF = x := UInt32.and_neg_one
  rw [shr, hall]

theorem s0_smallSigma0 (x : UInt32) : s0 x = smallSigma0 x := by
  simp only [s0, smallSigma0, rotate_rotr, shr_shift]

theorem s1_smallSigma1 (x : UInt32) : s1 x = smallSigma1 x := by
  simp only [s1, smallSigma1, rotate_rotr, shr_shift]

theorem s2_bigSigma0 (x : UInt32) : s2 x = bigSigma0 x := by
  simp only [s2, bigSigma0, rotate_rotr]

theorem s3_bigSigma1 (x : UInt32) : s3 x = bigSigma1 x := by
  simp only [s3, bigSigma1, rotate_rotr]

theorem f0_maj (x y z : UInt32) : f0 x y z = maj x y z := by
  apply UInt32.toBitVec_inj.mp
  ext i hi
  simp only [f0, maj, UInt32.toBitVec_or, UInt32.toBitVec_and, UInt32.toBitVec_xor,
    BitVec.getElem_or, BitVec.getElem_and, BitVec.getElem_xor]
  cases x.toBitVec[i] <;> cases y.toBitVec[i] <;> cases z.toBitVec[i] <;> rfl

theorem f1_ch (x y z : UInt32) : f1 x y z = ch x y z := by
  apply UInt32.toBitVec_inj.mp
  ext i hi
  simp only [f1, ch, UInt32.toBitVec_and, UInt32.toBitVec_xor, UInt32.toBitVec_not,
    BitVec.getElem_and, BitVec.getElem_xor, BitVec.getElem_not]
  cases x.toBitVec[i] <;> cases y.toBitVec[i] <;> cases z.toBitVec[i] <;> rfl

/-! ## Rounds -/

/-- The working variables when `A[r]` is the first one. -/
def work (a : Registers) (r : Fin 8) : Work :=
  ⟨a r, a (r + 1), a (r + 2), a (r + 3), a (r + 4), a (r + 5), a (r + 6), a (r + 7)⟩

/-- **A macro with renamed arguments is a round**: the last register becomes the first one. -/
theorem macroP_round (a : Registers) (r : Fin 8) (x c : UInt32) :
    work (macroP a r x c) (r - 1) = Sha256.round (work a r) c x := by
  simp only [macroP, s2_bigSigma0, s3_bigSigma1, f0_maj, f1_ch, Sha256.round]
  fin_cases r <;> rfl

/-- The rounds `ts` over the entries `w`. -/
def runRounds (w : Entries) (v : Work) (ts : List Nat) : Work :=
  ts.foldl (fun v t => Sha256.round v (k t) (w t)) v

theorem runRounds_append (w : Entries) (v : Work) (ss ts : List Nat) :
    runRounds w v (ss ++ ts) = runRounds w (runRounds w v ss) ts := List.foldl_append

theorem runRounds_cons (w : Entries) (v : Work) (t : Nat) (ts : List Nat) :
    runRounds w v (t :: ts) = runRounds w (Sha256.round v (k t) (w t)) ts := rfl

/-- The register that comes first in the round `j` of a turn. -/
theorem first_next (j : Nat) : (-Fin.ofNat 8 j : Fin 8) - 1 = -Fin.ofNat 8 (j + 1) := by
  have hadd : Fin.ofNat 8 (j + 1) = Fin.ofNat 8 j + 1 := by
    apply Fin.ext
    simp [Fin.ofNat, Fin.val_add]
  rw [hadd, neg_add, sub_eq_add_neg]

/-- The rounds `j` to `j + n` of a turn over entries that are there. -/
theorem loaded_rounds (w : Entries) (a : Registers) (i j n : Nat) :
    work ((List.range' j n).foldl (fun a j => macroP a (-Fin.ofNat 8 j) (w (i + j)) (k (i + j))) a)
        (-Fin.ofNat 8 (j + n))
      = runRounds w (work a (-Fin.ofNat 8 j)) (List.range' (i + j) n) := by
  induction n generalizing a j with
  | zero => rfl
  | succ n ih =>
      have hnext : j + (n + 1) = j + 1 + n := by omega
      rw [List.range'_succ, List.range'_succ, List.foldl_cons, runRounds_cons, hnext, ih,
        ← first_next, macroP_round]
      rfl

/-- A turn over entries that are there. -/
theorem turnLoaded_rounds (w : Entries) (a : Registers) (i : Nat) :
    work (turnLoaded w a i) 0 = runRounds w (work a 0) (List.range' i 8) := by
  have hturn := loaded_rounds w a i 0 8
  rw [turnLoaded, List.range_eq_range']
  exact hturn

/-! ## The schedule -/

/-- The schedule of the standard over sixteen words. -/
def schedule (m : List UInt32) (t : Nat) : UInt32 :=
  if _ : t < 16 then m.getD t 0
  else smallSigma1 (schedule m (t - 2)) + schedule m (t - 7) + smallSigma0 (schedule m (t - 15))
    + schedule m (t - 16)

/-- The entries below `t` are those of the schedule. -/
def Filled (m : List UInt32) (w : Entries) (t : Nat) : Prop := ∀ i, i < t → w i = schedule m i

/-- The next entry. -/
theorem macroR_filled {m : List UInt32} {w : Entries} {t : Nat} (ht : 16 ≤ t)
    (hw : Filled m w t) : Filled m (macroR w t) (t + 1) := by
  intro i hi
  rw [macroR]
  by_cases heq : i = t
  · subst heq
    rw [Function.update_self, schedule, dif_neg (by omega), hw _ (by omega), hw _ (by omega),
      hw _ (by omega), hw _ (by omega), s1_smallSigma1, s0_smallSigma0]
  · rw [Function.update_of_ne heq, hw i (by omega)]

/-- The rounds read the schedule, whatever the later entries are. -/
theorem runRounds_congr {w w' : Entries} (ts : List Nat) (h : ∀ t ∈ ts, w t = w' t) (v : Work) :
    runRounds w v ts = runRounds w' v ts := by
  induction ts generalizing v with
  | nil => rfl
  | cons t ts ih =>
      rw [runRounds_cons, runRounds_cons, h t List.mem_cons_self,
        ih fun s hs => h s (List.mem_cons_of_mem t hs)]

/-- The rounds `j` to `j + n` of a turn that fills its entries. -/
theorem filled_rounds {m : List UInt32} (i j n : Nat) (hi : 16 ≤ i + j) (s : Registers × Entries)
    (hw : Filled m s.2 (i + j)) :
    ∃ s', (List.range' j n).foldl (fun s j =>
        let w := macroR s.2 (i + j)
        (macroP s.1 (-Fin.ofNat 8 j) (w (i + j)) (k (i + j)), w)) s = s'
      ∧ work s'.1 (-Fin.ofNat 8 (j + n))
        = runRounds (schedule m) (work s.1 (-Fin.ofNat 8 j)) (List.range' (i + j) n)
      ∧ Filled m s'.2 (i + j + n) := by
  induction n generalizing s j with
  | zero => exact ⟨s, rfl, rfl, hw⟩
  | succ n ih =>
      have hnext := macroR_filled hi hw
      obtain ⟨s', hfold, hwork, hfilled⟩ := ih (j + 1) (by omega)
        (macroP s.1 (-Fin.ofNat 8 j) (macroR s.2 (i + j) (i + j)) (k (i + j)), macroR s.2 (i + j))
        hnext
      refine ⟨s', ?_, ?_, ?_⟩
      · rw [List.range'_succ, List.foldl_cons]
        exact hfold
      · have hcount : j + (n + 1) = j + 1 + n := by omega
        rw [hcount, hwork, List.range'_succ, runRounds_cons, ← first_next, macroP_round,
          hnext _ (by omega)]
        rfl
      · have hcount : i + j + (n + 1) = i + (j + 1) + n := by omega
        rw [hcount]
        exact hfilled

/-- A turn that fills its entries. -/
theorem turnFilled_rounds {m : List UInt32} {s : Registers × Entries} {i : Nat} (hi : 16 ≤ i)
    (hw : Filled m s.2 i) :
    work (turnFilled s i).1 0 = runRounds (schedule m) (work s.1 0) (List.range' i 8)
      ∧ Filled m (turnFilled s i).2 (i + 8) := by
  obtain ⟨s', hfold, hwork, hfilled⟩ := filled_rounds i 0 8 hi s hw
  rw [turnFilled, List.range_eq_range', hfold]
  exact ⟨hwork, hfilled⟩

/-- The turns over entries that are there. -/
theorem turnsLoaded_rounds (w : Entries) (a : Registers) (i n : Nat) :
    work ((List.range' i n 8).foldl (turnLoaded w) a) 0
      = runRounds w (work a 0) (List.range' i (8 * n)) := by
  induction n generalizing a i with
  | zero => rfl
  | succ n ih =>
      have hsplit : List.range' i (8 * (n + 1)) = List.range' i 8 ++ List.range' (i + 8) (8 * n) := by
        rw [Nat.mul_succ, Nat.add_comm, ← List.range'_append_1]
      rw [List.range'_succ, List.foldl_cons, ih, turnLoaded_rounds, hsplit, runRounds_append]

/-- The turns that fill their entries. -/
theorem turnsFilled_rounds {m : List UInt32} (n : Nat) {s : Registers × Entries} {i : Nat}
    (hi : 16 ≤ i) (hw : Filled m s.2 i) :
    work ((List.range' i n 8).foldl turnFilled s).1 0
      = runRounds (schedule m) (work s.1 0) (List.range' i (8 * n)) := by
  induction n generalizing s i with
  | zero => rfl
  | succ n ih =>
      obtain ⟨hwork, hfilled⟩ := turnFilled_rounds hi hw
      have hsplit : List.range' i (8 * (n + 1)) = List.range' i 8 ++ List.range' (i + 8) (8 * n) := by
        rw [Nat.mul_succ, Nat.add_comm, ← List.range'_append_1]
      rw [List.range'_succ, List.foldl_cons, ih (by omega) hfilled, hwork, hsplit, runRounds_append]

/-! ## The compression function -/

/-- The rounds of the standard keep a window of sixteen entries. -/
theorem rounds_schedule (m : List UInt32) {t n : Nat} (h : t + n = 64) (v : Work) :
    rounds (roundConstants.drop t) ((List.range' t 16).map (schedule m)) v
      = runRounds (schedule m) v (List.range' t n) := by
  induction n generalizing t v with
  | zero =>
      have hnone : roundConstants.drop t = [] := List.drop_eq_nil_of_le (by
        show 64 ≤ t
        omega)
      rw [hnone]
      rfl
  | succ n ih =>
      have hlt : t < roundConstants.length := by
        show t < 64
        omega
      have hconst : roundConstants[t] = k t := (List.getD_eq_getElem _ _ hlt).symm
      have hnext : schedule m (t + 16) = smallSigma1 (schedule m (t + 14)) + schedule m (t + 9)
          + smallSigma0 (schedule m (t + 1)) + schedule m t := by
        rw [schedule, dif_neg (by omega)]
        rfl
      -- the window moves on by one entry
      have hfirst : List.range' t 16 = t :: List.range' (t + 1) 15 := List.range'_succ
      have hlast : List.range' (t + 1) 16 = List.range' (t + 1) 15 ++ [t + 1 + 15] :=
        List.range'_1_concat
      have hwindow : ((List.range' t 16).map (schedule m)).tail ++ [schedule m (t + 16)]
          = (List.range' (t + 1) 16).map (schedule m) := by
        rw [hfirst, hlast, List.map_append, List.map_cons, List.tail_cons]
        rfl
      have hread : ∀ i, i < 16 →
          ((List.range' t 16).map (schedule m)).getD i 0 = schedule m (t + i) := by
        intro i hi
        rw [List.getD_eq_getElem _ _ (by rw [List.length_map, List.length_range']; exact hi),
          List.getElem_map, List.getElem_range', Nat.one_mul]
      have hcurrent : ((List.range' t 16).map (schedule m)).getD 0 0 = schedule m t :=
        hread 0 (by decide)
      have hrange : List.range' t (n + 1) = t :: List.range' (t + 1) n := List.range'_succ
      rw [List.drop_eq_getElem_cons hlt, rounds, hconst, hcurrent, hread 14 (by decide),
        hread 9 (by decide), hread 1 (by decide), ← hnext, hwindow, ih (by omega), hrange,
        runRounds_cons]

/-- A list of four bytes and more. -/
theorem front_four {l : List UInt8} (h : 4 ≤ l.length) :
    ∃ a b c d rest, l = a :: b :: c :: d :: rest := by
  rcases l with _ | ⟨a, _ | ⟨b, _ | ⟨c, _ | ⟨d, rest⟩⟩⟩⟩
  · simp at h
  · simp at h
  · simp at h
  · simp at h
  · exact ⟨a, b, c, d, rest, rfl⟩

/-- The words of a block are what the code reads. -/
theorem words_getD (l : List UInt8) (i : Nat) (h : 4 * i + 4 ≤ l.length) :
    (words l).getD i 0 = getUint32Be l (4 * i) := by
  induction i generalizing l with
  | zero =>
      obtain ⟨a, b, c, d, rest, rfl⟩ := front_four (by omega : 4 ≤ l.length)
      rfl
  | succ i ih =>
      obtain ⟨a, b, c, d, rest, rfl⟩ := front_four (by omega : 4 ≤ l.length)
      have hrest : 4 * i + 4 ≤ rest.length := by
        simp only [List.length_cons] at h
        omega
      calc (words (a :: b :: c :: d :: rest)).getD (i + 1) 0
          = (words rest).getD i 0 := rfl
        _ = getUint32Be rest (4 * i) := ih rest hrest
        _ = getUint32Be (a :: b :: c :: d :: rest) (4 * (i + 1)) := by
            rw [Nat.mul_succ]
            rfl

theorem length_words (n : Nat) {l : List UInt8} (h : l.length = 4 * n) :
    (words l).length = n := by
  induction n generalizing l with
  | zero =>
      have hnil : l = [] := List.eq_nil_of_length_eq_zero h
      rw [hnil]
      rfl
  | succ n ih =>
      obtain ⟨a, b, c, d, rest, rfl⟩ := front_four (by omega : 4 ≤ l.length)
      have hrest : rest.length = 4 * n := by
        simp only [List.length_cons] at h
        omega
      rw [words, List.length_cons, ih hrest]

/-- The entries that are loaded: the code reads no byte beyond the block. -/
theorem loadEntries_filled {data : List UInt8} (h : 64 ≤ data.length) :
    Filled (words (data.take 64)) (loadEntries data) 16 := by
  have hload : ∀ i, i < 16 → loadEntries data i = getUint32Be data (4 * i) := by
    intro i hi
    interval_cases i <;> rfl
  have hblock : ∀ off, off < 64 → (data.take 64).getD off 0 = data.getD off 0 := by
    intro off hoff
    rw [List.getD_eq_getElem?_getD, List.getElem?_take, if_pos hoff, List.getD_eq_getElem?_getD]
  intro i hi
  rw [hload i hi, schedule, dif_pos hi, words_getD _ i (by rw [List.length_take]; omega),
    getUint32Be, getUint32Be, hblock _ (by omega), hblock _ (by omega), hblock _ (by omega),
    hblock _ (by omega)]

/-- **The block function is the compression function.** -/
theorem processC_compress (state : Registers) {data : List UInt8} (h : 64 ≤ data.length) :
    work (processC state data) 0 = compress (work state 0) (data.take 64) := by
  have hfilled := loadEntries_filled h
  generalize hm : words (data.take 64) = m at hfilled
  have hlen : m.length = 16 := by
    rw [← hm]
    exact length_words 16 (by rw [List.length_take]; omega)
  have hwords : (List.range' 0 16).map (schedule m) = m := by
    apply List.ext_getElem
    · rw [List.length_map, List.length_range', hlen]
    · intro i hi hi'
      have hlt : i < 16 := by omega
      rw [List.getElem_map, List.getElem_range', Nat.zero_add, Nat.one_mul, schedule,
        dif_pos hlt]
      exact List.getD_eq_getElem _ _ hi'
  have hrounds : rounds roundConstants m (work state 0)
      = runRounds (schedule m) (work state 0) (List.range' 0 64) := by
    have hall := rounds_schedule m (t := 0) (n := 64) rfl (work state 0)
    rw [hwords] at hall
    exact hall
  -- the rounds of the code: two turns over the loaded entries, and six that fill theirs
  have hloaded := turnsLoaded_rounds (loadEntries data) state 0 2
  have hturns := turnsFilled_rounds 6 (le_refl 16)
    (s := ((List.range' 0 2 8).foldl (turnLoaded (loadEntries data)) state, loadEntries data))
    hfilled
  have hcongr := runRounds_congr (List.range' 0 16) (fun t ht => hfilled t (by
    have hrange := List.mem_range'_1.mp ht
    omega)) (work state 0)
  have hsplit : List.range' 0 64 = List.range' 0 16 ++ List.range' 16 48 := by decide
  have hafter : work ((List.range' 16 6 8).foldl turnFilled
      ((List.range' 0 2 8).foldl (turnLoaded (loadEntries data)) state, loadEntries data)).1 0
      = rounds roundConstants m (work state 0) := by
    rw [hrounds, hsplit, runRounds_append, ← hcongr, ← hloaded]
    exact hturns
  rw [compress, hm, ← hafter]
  rfl

/-! ## The context -/

/-- `mbedtls_sha256_context`, in a build without SHA-224. -/
structure ShaContext where
  buffer : Block 64
  total0 : UInt32
  total1 : UInt32
  state : Registers

/-- `MBEDTLS_ERR_SHA256_BAD_INPUT_DATA` and `MBEDTLS_ERR_ERROR_GENERIC_ERROR`. -/
abbrev errBadInput : Int := -0x0074

abbrev errGeneric : Int := -0x0001

/-- The initial state of SHA-256. -/
def initialState : Registers := fun i =>
  [0x6A09E667, 0xBB67AE85, 0x3C6EF372, 0xA54FF53A, 0x510E527F, 0x9B05688C, 0x1F83D9AB,
    0x5BE0CD19].getD i.val 0

/-- `mbedtls_sha256_starts`: the configuration defines `MBEDTLS_SHA256_C` only. -/
def starts (ctx : ShaContext) (is224 : Int) : Except Int ShaContext :=
  if is224 ≠ 0 then .error errBadInput
  else .ok { ctx with total0 := 0, total1 := 0, state := initialState }

/-- `mbedtls_internal_sha256_process_many_c`: the new state, and how much is processed. -/
def processMany (state : Registers) (data : List UInt8) : Registers × Nat :=
  if h : 64 ≤ data.length then
    let r := processMany (processC state data) (data.drop 64)
    (r.1, 64 + r.2)
  else (state, 0)
termination_by data.length
decreasing_by
  rw [List.length_drop]
  omega

/-- The loop of `mbedtls_sha256_update` over whole blocks: the state, and the input behind
    them. -/
def updateBlocks (state : Registers) (input : List UInt8) :
    Except Int (Registers × List UInt8) :=
  if _ : 64 ≤ input.length then
    if _ : (processMany state input).2 < 64 then .error errGeneric
    else updateBlocks (processMany state input).1 (input.drop (processMany state input).2)
  else .ok (state, input)
termination_by input.length
decreasing_by
  rw [List.length_drop]
  omega

/-- `total` after `ilen` bytes more. -/
def ShaContext.counted (ctx : ShaContext) (ilen : Nat) : ShaContext :=
  let total0 := (ctx.total0 + UInt32.ofNat ilen) &&& 0xFFFFFFFF
  { ctx with
    total0
    total1 := if total0 < UInt32.ofNat ilen then ctx.total1 + 1 else ctx.total1 }

/-- The rest of `mbedtls_sha256_update`: whole blocks, and what is left goes into the buffer. -/
def updateRest (ctx : ShaContext) (left : Nat) (input : List UInt8) : Except Int ShaContext := do
  let r ← updateBlocks ctx.state input
  return { ctx with
    state := r.1
    buffer := if 0 < r.2.length then store ctx.buffer left r.2 else ctx.buffer }

/-- `mbedtls_sha256_update`. -/
def update (ctx : ShaContext) (input : List UInt8) : Except Int ShaContext :=
  if input = [] then .ok ctx
  else
    let left := (ctx.total0 &&& 0x3F).toNat
    let fill := 64 - left
    let ctx := ctx.counted input.length
    if left ≠ 0 ∧ fill ≤ input.length then
      let buffer := store ctx.buffer left (input.take fill)
      updateRest { ctx with buffer, state := processC ctx.state (toList buffer) } 0
        (input.drop fill)
    else updateRest ctx left input

/-- `MBEDTLS_PUT_UINT32_BE`: the bytes that are put. -/
def putUint32Be (n : UInt32) : List UInt8 :=
  [(n >>> 24).toUInt8, (n >>> 16).toUInt8, (n >>> 8).toUInt8, n.toUInt8]

/-- The padding of `mbedtls_sha256_finish`, up to the place of the length. -/
def ShaContext.padded (ctx : ShaContext) : ShaContext :=
  let used := (ctx.total0 &&& 0x3F).toNat
  let buffer := store ctx.buffer used [0x80]
  let used := used + 1
  if used ≤ 56 then { ctx with buffer := store buffer used (List.replicate (56 - used) 0) }
  else
    let buffer := store buffer used (List.replicate (64 - used) 0)
    { ctx with
      state := processC ctx.state (toList buffer)
      buffer := store buffer 0 (List.replicate 56 0) }

/-- `mbedtls_sha256_finish`: the bytes of the output. -/
def finish (ctx : ShaContext) : List UInt8 :=
  let high := (ctx.total0 >>> 29) ||| (ctx.total1 <<< 3)
  let low := ctx.total0 <<< 3
  let ctx := ctx.padded
  let buffer := store (store ctx.buffer 56 (putUint32Be high)) 60 (putUint32Be low)
  let state := processC ctx.state (toList buffer)
  (List.range 8).flatMap fun i => putUint32Be (state (Fin.ofNat 8 i))

/-- A message in pieces. -/
def pieces (ctx : ShaContext) (ps : List (List UInt8)) : Except Int (List UInt8) := do
  let ctx ← starts ctx 0
  let ctx ← ps.foldlM update ctx
  return finish ctx

/-! ## Whole blocks -/

theorem processMany_eq (state : Registers) (data : List UInt8) :
    (processMany state data).2 = 64 * (data.length / 64)
      ∧ work (processMany state data).1 0
        = absorb (data.length / 64) data (work state 0) := by
  induction hlen : data.length using Nat.strong_induction_on generalizing state data with
  | _ len ih =>
      subst hlen
      rw [processMany]
      by_cases hfull : 64 ≤ data.length
      · obtain ⟨hcount, hstate⟩ := ih (data.drop 64).length (by rw [List.length_drop]; omega)
          (processC state data) (data.drop 64) rfl
        have hblocks : data.length / 64 = (data.drop 64).length / 64 + 1 := by
          rw [List.length_drop]
          omega
        rw [dif_pos hfull]
        refine ⟨?_, ?_⟩
        · show 64 + (processMany (processC state data) (data.drop 64)).2 = _
          rw [hcount, hblocks]
          omega
        · show work (processMany (processC state data) (data.drop 64)).1 0 = _
          rw [hstate, processC_compress state hfull, hblocks, absorb_next]
      · have hnone : data.length / 64 = 0 := by omega
        rw [dif_neg hfull, hnone]
        exact ⟨rfl, rfl⟩

theorem updateBlocks_eq (state : Registers) (input : List UInt8) :
    updateBlocks state input
      = .ok ((processMany state input).1, input.drop (64 * (input.length / 64))) := by
  have hcount := (processMany_eq state input).1
  rw [updateBlocks]
  by_cases hfull : 64 ≤ input.length
  · have hsome : ¬ (processMany state input).2 < 64 := by omega
    have hrest : ¬ 64 ≤ (input.drop (processMany state input).2).length := by
      rw [List.length_drop]
      omega
    rw [dif_pos hfull, dif_neg hsome, updateBlocks, dif_neg hrest, hcount]
  · have hnone : input.length / 64 = 0 := by omega
    rw [dif_neg hfull, processMany, dif_neg hfull, hnone]
    rfl

/-! ## What a context holds -/

/-- The front of the buffer. -/
def Front (buf : Block 64) (l : List UInt8) : Prop := load buf 0 l.length = l

theorem Front.put {buf : Block 64} {l : List UInt8} (h : Front buf l) {off : Nat}
    (hoff : off = l.length) (data : List UInt8) (hfit : l.length + data.length ≤ 64) :
    Front (store buf off data) (l ++ data) := by
  subst hoff
  rw [Front, List.length_append, load_store buf hfit, h]

theorem Front.nil (buf : Block 64) : Front buf [] := rfl

/-- A buffer that is full. -/
theorem Front.full {buf : Block 64} {l : List UInt8} (h : Front buf l) (hfull : l.length = 64) :
    toList buf = l := by
  rw [Front, hfull, load, List.drop_zero, List.take_of_length_le (by rw [List.length_ofFn])] at h
  exact h

/-- A buffer that is full goes into the state. -/
theorem Front.process {buf : Block 64} {l : List UInt8} (h : Front buf l)
    (hfull : l.length = 64) (state : Registers) :
    work (processC state (toList buf)) 0 = compress (work state 0) l := by
  rw [processC_compress _ (by rw [length_toList]), h.full hfull, List.take_of_length_le hfull.le]

/-- What is behind the whole blocks of a message. -/
theorem length_rest (msg : List UInt8) :
    (msg.drop (64 * (msg.length / 64))).length = msg.length % 64 := by
  rw [List.length_drop]
  omega

/-- What a context holds of a message: its whole blocks in the state, the rest in the buffer, and
    its length. -/
structure Absorbed (ctx : ShaContext) (msg : List UInt8) : Prop where
  state : work ctx.state 0 = absorb (msg.length / 64) msg initial
  buffer : Front ctx.buffer (msg.drop (64 * (msg.length / 64)))
  total : ctx.total1.toNat * 2 ^ 32 + ctx.total0.toNat = msg.length % 2 ^ 64

/-- The place in the buffer. -/
theorem Absorbed.left {ctx : ShaContext} {msg : List UInt8} (h : Absorbed ctx msg) :
    (ctx.total0 &&& 0x3F).toNat = msg.length % 64 := by
  have htotal := h.total
  have hlow : (ctx.total0 &&& 0x3F).toNat = ctx.total0.toNat % 64 := by
    rw [UInt32.toNat_and]
    exact Nat.and_two_pow_sub_one_eq_mod ctx.total0.toNat 6
  rw [hlow]
  omega

/-- A count in two words, with the carry. -/
theorem carried {high low n len : Nat} (hlow : low < 2 ^ 32) (hhigh : high < 2 ^ 32)
    (hn : n < 2 ^ 32) (h : high * 2 ^ 32 + low = len % 2 ^ 64) :
    (if (low + n) % 2 ^ 32 < n then (high + 1) % 2 ^ 32 else high) * 2 ^ 32
      + (low + n) % 2 ^ 32 = (len + n) % 2 ^ 64 := by
  rw [← Nat.mod_add_mod len, ← h, Nat.add_assoc]
  by_cases hfits : low + n < 2 ^ 32
  · have hsum : (low + n) % 2 ^ 32 = low + n := Nat.mod_eq_of_lt hfits
    rw [hsum, if_neg (by omega), Nat.mod_eq_of_lt (by omega)]
  · obtain ⟨rest, hrest⟩ := Nat.exists_eq_add_of_le (Nat.le_of_not_lt hfits)
    have hsum : (low + n) % 2 ^ 32 = rest := by
      rw [hrest, Nat.add_mod_left, Nat.mod_eq_of_lt (by omega)]
    have htotal : high * 2 ^ 32 + (low + n) = (high + 1) * 2 ^ 32 + rest := by
      rw [hrest, Nat.add_mul, Nat.one_mul, Nat.add_assoc]
    rw [hsum, htotal, if_pos (by omega)]
    by_cases hlast : high + 1 < 2 ^ 32
    · rw [Nat.mod_eq_of_lt hlast, Nat.mod_eq_of_lt (by omega)]
    · have htop : high + 1 = 2 ^ 32 := by omega
      rw [htop, Nat.mod_self, Nat.zero_mul, Nat.zero_add, ← Nat.pow_add, Nat.add_mod_left,
        Nat.mod_eq_of_lt (by omega)]

/-- The count of a piece that a 32-bit length can tell. -/
theorem counted_total {ctx : ShaContext} {len n : Nat} (hn : n < 2 ^ 32)
    (h : ctx.total1.toNat * 2 ^ 32 + ctx.total0.toNat = len % 2 ^ 64) :
    (ctx.counted n).total1.toNat * 2 ^ 32 + (ctx.counted n).total0.toNat
      = (len + n) % 2 ^ 64 := by
  have hall : (ctx.total0 + UInt32.ofNat n) &&& 0xFFFFFFFF = ctx.total0 + UInt32.ofNat n :=
    UInt32.and_neg_one
  have hpiece : (UInt32.ofNat n).toNat = n := UInt32.toNat_ofNat_of_lt' hn
  have hsum : (ctx.total0 + UInt32.ofNat n).toNat = (ctx.total0.toNat + n) % 2 ^ 32 := by
    rw [UInt32.toNat_add, hpiece]
  have hlow := ctx.total0.toNat_lt
  have hhigh := ctx.total1.toNat_lt
  have hnext : (ctx.total1 + 1).toNat = (ctx.total1.toNat + 1) % 2 ^ 32 := UInt32.toNat_add _ _
  simp only [ShaContext.counted, hall, UInt32.lt_iff_toNat_lt, hsum, hpiece]
  rw [apply_ite UInt32.toNat, hnext]
  exact carried hlow hhigh hn h

/-! ## Pieces -/

/-- The input from a block border on, when all before it is in the state. -/
theorem updateRest_absorbed (ctx : ShaContext) (whole : List UInt8) (n : Nat)
    (hn : 64 * n ≤ whole.length) (hstate : work ctx.state 0 = absorb n whole initial)
    (htotal : ctx.total1.toNat * 2 ^ 32 + ctx.total0.toNat = whole.length % 2 ^ 64) :
    ∃ ctx', updateRest ctx 0 (whole.drop (64 * n)) = .ok ctx' ∧ Absorbed ctx' whole := by
  have hlen : (whole.drop (64 * n)).length = whole.length - 64 * n := List.length_drop
  have hblocks : n + (whole.drop (64 * n)).length / 64 = whole.length / 64 := by omega
  have hplace : 64 * n + 64 * ((whole.drop (64 * n)).length / 64)
      = 64 * (whole.length / 64) := by omega
  have hrest : (whole.drop (64 * n)).drop (64 * ((whole.drop (64 * n)).length / 64))
      = whole.drop (64 * (whole.length / 64)) := by
    rw [List.drop_drop, hplace]
  have hshort : (whole.drop (64 * (whole.length / 64))).length ≤ 64 := by
    rw [List.length_drop]
    omega
  rw [updateRest, updateBlocks_eq, hrest]
  refine ⟨_, rfl, ⟨?_, ?_, htotal⟩⟩
  · show work (processMany ctx.state (whole.drop (64 * n))).1 0 = _
    rw [(processMany_eq _ _).2, hstate, ← absorb_add, hblocks]
  · show Front (if 0 < (whole.drop (64 * (whole.length / 64))).length then
      store ctx.buffer 0 (whole.drop (64 * (whole.length / 64))) else ctx.buffer) _
    split
    · exact (Front.nil ctx.buffer).put rfl _ (by rw [List.length_nil, Nat.zero_add]; exact hshort)
    · next hnone =>
        have hnil : whole.drop (64 * (whole.length / 64)) = [] :=
          List.eq_nil_of_length_eq_zero (Nat.eq_zero_of_not_pos hnone)
        rw [hnil]
        exact Front.nil ctx.buffer

/-- **One piece more.** -/
theorem update_absorbed {ctx : ShaContext} {msg input : List UInt8} (h : Absorbed ctx msg)
    (hsize : input.length < 2 ^ 32) :
    ∃ ctx', update ctx input = .ok ctx' ∧ Absorbed ctx' (msg ++ input) := by
  have hlen : (msg ++ input).length = msg.length + input.length := List.length_append
  have htotal := counted_total hsize h.total
  rw [← hlen] at htotal
  have hbehind : ∀ d, (msg ++ input).drop (msg.length + d) = input.drop d := by
    intro d
    rw [← List.drop_drop, List.drop_left]
  have hinside : ∀ d, d ≤ msg.length → (msg ++ input).drop d = msg.drop d ++ input :=
    fun d hd => List.drop_append_of_le_length hd
  have hbefore : absorb (msg.length / 64) (msg ++ input) initial
      = absorb (msg.length / 64) msg initial := absorb_append (by omega) input initial
  rw [update]
  by_cases hnil : input = []
  · rw [if_pos hnil, hnil, List.append_nil]
    exact ⟨ctx, rfl, h⟩
  rw [if_neg hnil, h.left]
  by_cases hfill : msg.length % 64 ≠ 0 ∧ 64 - msg.length % 64 ≤ input.length
  · -- the buffer becomes full and is processed
    rw [if_pos hfill]
    have htake : (input.take (64 - msg.length % 64)).length = 64 - msg.length % 64 := by
      rw [List.length_take]
      omega
    have hkept := length_rest msg
    have hbuffer := h.buffer.put hkept.symm (input.take (64 - msg.length % 64)) (by omega)
    have hfull : (msg.drop (64 * (msg.length / 64))
        ++ input.take (64 - msg.length % 64)).length = 64 := by
      rw [List.length_append]
      omega
    have hblock : ((msg ++ input).drop (64 * (msg.length / 64))).take 64
        = msg.drop (64 * (msg.length / 64)) ++ input.take (64 - msg.length % 64) := by
      rw [hinside _ (by omega), List.take_append, hkept,
        List.take_of_length_le (by rw [hkept]; omega)]
    have hnext : (msg ++ input).drop (64 * (msg.length / 64 + 1))
        = input.drop (64 - msg.length % 64) := by
      rw [← hbehind]
      congr 1
      omega
    rw [← hnext]
    refine updateRest_absorbed _ _ _ (by omega) ?_ htotal
    show work (processC ctx.state (toList (store ctx.buffer (msg.length % 64)
      (input.take (64 - msg.length % 64))))) 0 = _
    rw [hbuffer.process hfull, ← hblock, h.state, ← hbefore, absorb_succ]
  rw [if_neg hfill]
  by_cases hborder : msg.length % 64 = 0
  · -- the buffer is empty
    have hinput : (msg ++ input).drop (64 * (msg.length / 64)) = input := by
      have hall : 64 * (msg.length / 64) = msg.length + 0 := by omega
      rw [hall, hbehind, List.drop_zero]
    have hrest := updateRest_absorbed (ctx.counted input.length) (msg ++ input) (msg.length / 64)
      (by omega) (h.state.trans hbefore.symm) htotal
    rw [hinput] at hrest
    rw [hborder]
    exact hrest
  · -- the piece does not fill the buffer
    have hsame : (msg ++ input).length / 64 = msg.length / 64 := by omega
    have hnone : input.length / 64 = 0 := by omega
    have hkept := length_rest msg
    have hpos : 0 < input.length := List.length_pos_iff.mpr hnil
    rw [updateRest, updateBlocks_eq, hnone]
    refine ⟨_, rfl, ⟨?_, ?_, htotal⟩⟩
    · show work (processMany ctx.state input).1 0 = _
      rw [(processMany_eq _ _).2, hnone, hsame, hbefore]
      exact h.state
    · rw [hsame, hinside _ (by omega)]
      show Front (if 0 < input.length then store ctx.buffer (msg.length % 64) input
        else ctx.buffer) _
      rw [if_pos hpos]
      exact h.buffer.put hkept.symm input (by omega)

/-- Pieces one after the other. -/
theorem updates_absorbed {ps : List (List UInt8)} (hsize : ∀ p ∈ ps, p.length < 2 ^ 32)
    {ctx : ShaContext} {msg : List UInt8} (h : Absorbed ctx msg) :
    ∃ ctx', ps.foldlM update ctx = .ok ctx' ∧ Absorbed ctx' (msg ++ ps.flatten) := by
  induction ps generalizing ctx msg with
  | nil =>
      refine ⟨ctx, rfl, ?_⟩
      rw [List.flatten_nil, List.append_nil]
      exact h
  | cons p ps ih =>
      obtain ⟨ctx₁, hupdate, habs⟩ := update_absorbed h (hsize p List.mem_cons_self)
      obtain ⟨ctx', hrest, hall⟩ := ih (fun q hq => hsize q (List.mem_cons_of_mem p hq)) habs
      refine ⟨ctx', ?_, ?_⟩
      · rw [List.foldlM_cons, hupdate]
        exact hrest
      · rw [List.flatten_cons, ← List.append_assoc]
        exact hall

/-- A context that has started. -/
theorem starts_absorbed (ctx : ShaContext) :
    ∃ ctx', starts ctx 0 = .ok ctx' ∧ Absorbed ctx' [] := by
  have hzero : (0 : UInt32).toNat * 2 ^ 32 + (0 : UInt32).toNat = 0 % 2 ^ 64 := by decide
  exact ⟨_, if_neg (by decide), ⟨rfl, rfl, hzero⟩⟩

/-! ## The end -/

/-- The two words of the length are its eight bytes. -/
theorem length_words_be64 {ctx : ShaContext} {len : Nat}
    (h : ctx.total1.toNat * 2 ^ 32 + ctx.total0.toNat = len % 2 ^ 64) :
    putUint32Be ((ctx.total0 >>> 29) ||| (ctx.total1 <<< 3)) ++ putUint32Be (ctx.total0 <<< 3)
      = be64 (8 * len) := by
  have hlow := ctx.total0.toNat_lt
  have hhigh := ctx.total1.toNat_lt
  have hlowWord : (ctx.total0 <<< 3).toNat = (8 * len) % 2 ^ 32 := by
    rw [UInt32.toNat_shiftLeft]
    show ctx.total0.toNat <<< 3 % 2 ^ 32 = _
    rw [Nat.shiftLeft_eq]
    omega
  have hhighWord : ((ctx.total0 >>> 29) ||| (ctx.total1 <<< 3)).toNat
      = (8 * len) / 2 ^ 32 % 2 ^ 32 := by
    rw [UInt32.toNat_or, UInt32.toNat_shiftRight, UInt32.toNat_shiftLeft]
    show ctx.total0.toNat >>> 29 ||| ctx.total1.toNat <<< 3 % 2 ^ 32 = _
    have hshift : ctx.total1.toNat <<< 3 % 2 ^ 32 = 2 ^ 3 * (ctx.total1.toNat % 2 ^ 29) := by
      rw [Nat.shiftLeft_eq]
      omega
    have hthree : ctx.total0.toNat >>> 29 < 2 ^ 3 := by
      rw [Nat.shiftRight_eq_div_pow]
      omega
    rw [hshift, Nat.or_comm, ← Nat.two_pow_add_eq_or_of_lt hthree, Nat.shiftRight_eq_div_pow]
    omega
  have hbyte : ∀ (w : UInt32) (n : Nat), w.toNat = n →
      putUint32Be w = [UInt8.ofNat (n / 2 ^ 24), UInt8.ofNat (n / 2 ^ 16), UInt8.ofNat (n / 2 ^ 8),
        UInt8.ofNat n] := by
    intro w n hw
    subst hw
    have hpart : ∀ s : UInt32, s.toNat < 32 →
        (w >>> s).toUInt8 = UInt8.ofNat (w.toNat / 2 ^ s.toNat) := by
      intro s hs
      apply UInt8.toNat_inj.mp
      rw [UInt32.toNat_toUInt8, UInt32.toNat_shiftRight, Nat.mod_eq_of_lt hs,
        Nat.shiftRight_eq_div_pow, UInt8.toNat_ofNat']
    rw [putUint32Be, hpart 24 (by decide), hpart 16 (by decide), hpart 8 (by decide)]
    rfl
  rw [hbyte _ _ hhighWord, hbyte _ _ hlowWord]
  have hcut : ∀ a b : Nat, a % 256 = b % 256 → UInt8.ofNat a = UInt8.ofNat b := by
    intro a b hab
    apply UInt8.toNat_inj.mp
    rw [UInt8.toNat_ofNat', UInt8.toNat_ofNat']
    exact hab
  show _ = [UInt8.ofNat (8 * len / 2 ^ 56), UInt8.ofNat (8 * len / 2 ^ 48),
    UInt8.ofNat (8 * len / 2 ^ 40), UInt8.ofNat (8 * len / 2 ^ 32),
    UInt8.ofNat (8 * len / 2 ^ 24), UInt8.ofNat (8 * len / 2 ^ 16),
    UInt8.ofNat (8 * len / 2 ^ 8), UInt8.ofNat (8 * len / 2 ^ 0)]
  simp only [List.cons_append, List.nil_append, List.cons.injEq, and_true]
  refine ⟨hcut _ _ ?_, hcut _ _ ?_, hcut _ _ ?_, hcut _ _ ?_, hcut _ _ ?_, hcut _ _ ?_,
    hcut _ _ ?_, hcut _ _ ?_⟩ <;> omega

/-- The bytes of a chaining value. -/
theorem digest_bytes (state : Registers) :
    (List.range 8).flatMap (fun i => putUint32Be (state (Fin.ofNat 8 i)))
      = toList (digest (work state 0)) := by
  rw [digest, toList_slice _ _ _ (Nat.le_of_eq rfl), List.drop_zero]
  rfl

/-- The message with its padding, up to the place of the length. -/
def padBody (msg : List UInt8) : List UInt8 :=
  msg ++ [0x80] ++ List.replicate ((119 - msg.length % 64) % 64) 0

/-- **The padding**: it fills 56 bytes of the last block, behind one more block if need be. -/
theorem padded_absorbed {ctx : ShaContext} {msg : List UInt8} (h : Absorbed ctx msg) :
    ∃ n, (padBody msg).length = 64 * n + 56 ∧
      work ctx.padded.state 0 = absorb n (padBody msg) initial ∧
      Front ctx.padded.buffer ((padBody msg).drop (64 * n)) := by
  have hkept := length_rest msg
  have hbody : padBody msg
      = msg ++ ([0x80] ++ List.replicate ((119 - msg.length % 64) % 64) 0) := by
    rw [padBody, List.append_assoc]
  have hlen : (padBody msg).length = msg.length + (1 + (119 - msg.length % 64) % 64) := by
    rw [hbody, List.length_append, List.length_append, List.length_singleton,
      List.length_replicate]
  have hdrop : (padBody msg).drop (64 * (msg.length / 64))
      = msg.drop (64 * (msg.length / 64)) ++ [0x80]
        ++ List.replicate ((119 - msg.length % 64) % 64) 0 := by
    rw [hbody, List.drop_append_of_le_length (by omega), List.append_assoc]
  have hstate : work ctx.state 0 = absorb (msg.length / 64) (padBody msg) initial := by
    rw [hbody, absorb_append (by omega)]
    exact h.state
  have hone : Front (store ctx.buffer (msg.length % 64) [0x80])
      (msg.drop (64 * (msg.length / 64)) ++ [0x80]) :=
    h.buffer.put hkept.symm [0x80] (by rw [hkept, List.length_singleton]; omega)
  have hused : (msg.drop (64 * (msg.length / 64)) ++ [0x80]).length = msg.length % 64 + 1 := by
    rw [List.length_append, hkept, List.length_singleton]
  by_cases hroom : msg.length % 64 + 1 ≤ 56
  · have hpadded : ctx.padded = { ctx with
        buffer := store (store ctx.buffer (msg.length % 64) [0x80]) (msg.length % 64 + 1)
          (List.replicate (56 - (msg.length % 64 + 1)) 0) } := by
      rw [← h.left] at hroom ⊢
      exact if_pos hroom
    have hzeros : (119 - msg.length % 64) % 64 = 56 - (msg.length % 64 + 1) := by omega
    rw [hpadded]
    refine ⟨msg.length / 64, by omega, hstate, ?_⟩
    rw [hdrop, hzeros]
    exact hone.put hused.symm _ (by rw [hused, List.length_replicate]; omega)
  · -- no room for the length: the block ends here
    have hpadded : ctx.padded = { ctx with
        state := processC ctx.state (toList (store (store ctx.buffer (msg.length % 64) [0x80])
          (msg.length % 64 + 1) (List.replicate (64 - (msg.length % 64 + 1)) 0)))
        buffer := store (store (store ctx.buffer (msg.length % 64) [0x80])
          (msg.length % 64 + 1) (List.replicate (64 - (msg.length % 64 + 1)) 0)) 0
          (List.replicate 56 0) } := by
      rw [← h.left] at hroom ⊢
      exact if_neg hroom
    have hzeros : (119 - msg.length % 64) % 64 = (64 - (msg.length % 64 + 1)) + 56 := by omega
    have hfirst := hone.put hused.symm (List.replicate (64 - (msg.length % 64 + 1)) 0)
      (by rw [hused, List.length_replicate]; omega)
    have hfull : (msg.drop (64 * (msg.length / 64)) ++ [0x80]
        ++ List.replicate (64 - (msg.length % 64 + 1)) (0 : UInt8)).length = 64 := by
      rw [List.length_append, hused, List.length_replicate]
      omega
    have hblocks : (padBody msg).drop (64 * (msg.length / 64))
        = (msg.drop (64 * (msg.length / 64)) ++ [0x80]
          ++ List.replicate (64 - (msg.length % 64 + 1)) 0) ++ List.replicate 56 0 := by
      rw [hdrop, hzeros, List.replicate_add, ← List.append_assoc]
    have hnext : (padBody msg).drop (64 * (msg.length / 64 + 1)) = List.replicate 56 0 := by
      rw [Nat.mul_succ, ← List.drop_drop, hblocks, List.drop_left' hfull]
    rw [hpadded]
    refine ⟨msg.length / 64 + 1, by omega, ?_, ?_⟩
    · show work (processC ctx.state _) 0 = _
      rw [hfirst.process hfull, hstate, absorb_succ, hblocks, List.take_left' hfull]
    · rw [hnext]
      exact (Front.nil _).put rfl _ (by rw [List.length_replicate]; decide)

theorem length_be64 (n : Nat) : (be64 n).length = 8 := by
  rw [be64, List.length_map, List.length_range]

/-- **The digest** of a context is that of its message. -/
theorem finish_standard {ctx : ShaContext} {msg : List UInt8} (h : Absorbed ctx msg) :
    finish ctx = toList (sha256 msg) := by
  obtain ⟨n, hlen, hstate, hbuffer⟩ := padded_absorbed h
  have hlast : ((padBody msg).drop (64 * n)).length = 56 := by
    rw [List.length_drop]
    omega
  have hword : ∀ w, (putUint32Be w).length = 4 := fun _ => rfl
  have hhigh := hbuffer.put hlast.symm
    (putUint32Be ((ctx.total0 >>> 29) ||| (ctx.total1 <<< 3))) (by rw [hlast, hword]; decide)
  have hplace : 60 = ((padBody msg).drop (64 * n)
      ++ putUint32Be ((ctx.total0 >>> 29) ||| (ctx.total1 <<< 3))).length := by
    rw [List.length_append, hlast, hword]
  have hlow := hhigh.put hplace (putUint32Be (ctx.total0 <<< 3)) (by rw [← hplace, hword])
  have hblock : ((padBody msg).drop (64 * n)
      ++ putUint32Be ((ctx.total0 >>> 29) ||| (ctx.total1 <<< 3))
      ++ putUint32Be (ctx.total0 <<< 3)).length = 64 := by
    rw [List.length_append, ← hplace, hword]
  have hpad : pad msg = padBody msg ++ be64 (8 * msg.length) := rfl
  have hbytes : (padBody msg).drop (64 * n)
      ++ putUint32Be ((ctx.total0 >>> 29) ||| (ctx.total1 <<< 3)) ++ putUint32Be (ctx.total0 <<< 3)
      = (pad msg).drop (64 * n) := by
    rw [List.append_assoc, length_words_be64 h.total, hpad,
      List.drop_append_of_le_length (by omega)]
  have hcount : (pad msg).length = 64 * (n + 1) := by
    rw [hpad, List.length_append, hlen, length_be64]
    omega
  have hbefore : absorb n (padBody msg) initial = absorb n (pad msg) initial := by
    rw [hpad, absorb_append (by omega)]
  have hall : work (processC ctx.padded.state (toList (store (store ctx.padded.buffer 56
      (putUint32Be ((ctx.total0 >>> 29) ||| (ctx.total1 <<< 3)))) 60
      (putUint32Be (ctx.total0 <<< 3))))) 0 = absorb (n + 1) (pad msg) initial := by
    have hlength : ((pad msg).drop (64 * n)).length ≤ 64 := by
      rw [List.length_drop, hcount]
      omega
    rw [hlow.process hblock, hbytes, hstate, hbefore, absorb_succ, List.take_of_length_le hlength]
  show (List.range 8).flatMap (fun i => putUint32Be
    (processC ctx.padded.state (toList (store (store ctx.padded.buffer 56
      (putUint32Be ((ctx.total0 >>> 29) ||| (ctx.total1 <<< 3)))) 60
      (putUint32Be (ctx.total0 <<< 3)))) (Fin.ofNat 8 i))) = _
  rw [digest_bytes, hall, sha256, hcount, Nat.mul_div_cancel_left _ (by decide)]

/-- **A message in pieces has the digest of the standard**, whatever the context held before,
    when a 32-bit length can tell each piece. -/
theorem pieces_standard (ctx : ShaContext) (ps : List (List UInt8))
    (hsize : ∀ p ∈ ps, p.length < 2 ^ 32) :
    pieces ctx ps = .ok (toList (sha256 ps.flatten)) := by
  obtain ⟨ctx₁, hstart, habs⟩ := starts_absorbed ctx
  obtain ⟨ctx₂, hps, hall⟩ := updates_absorbed hsize habs
  rw [List.nil_append] at hall
  rw [pieces, hstart]
  show (ps.foldlM update ctx₁ >>= _) = _
  rw [hps]
  exact congrArg Except.ok (finish_standard hall)

/-- Sixty bytes, none, and seventy more, which fill one block, the next, and begin a third. -/
def samplePieces : List (List UInt8) :=
  [List.replicate 60 0x61, [], List.replicate 70 0x62]

/-- `pieces_standard` for them, on a context that was used before. -/
theorem sampleMessage_pieces :
    pieces ⟨zero 64, 77, 1, fun _ => 5⟩ samplePieces
      = .ok (toList (sha256 (List.replicate 60 0x61 ++ List.replicate 70 0x62))) :=
  pieces_standard ⟨zero 64, 77, 1, fun _ => 5⟩ samplePieces (by decide)

end SofaMbedtlsSha256
