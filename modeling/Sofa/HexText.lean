import Sofa.Lib.Block
import Sofa.Lib.Buffer

/-! # Hex text

    Three copies of one character loop read keys and vouchers from text: the server's, the
    command line's and the client key store's.  A pending nibble is the state of the loop, and
    a byte is written as soon as it is complete.

    * **`hexLoop_buf`**: what the loop leaves in the buffer, also when it fails: the bytes of
      the hex digits up to the first character that is none;
    * **`hexLoop_ok`**: when it succeeds;
    * **`hexLoop_count`**: and how many bytes it has then written. -/

namespace SofaHexText

open ByteBlock FixedBuffer

/-- The characters of a C string, without the one that ends it. -/
abbrev CString := List UInt8

/-! ## The loop -/

/-- Space, tab, `:`, `-`, `,`, CR and LF. -/
def isSeparator (c : UInt8) : Bool :=
  c == 0x20 || c == 0x09 || c == 0x3A || c == 0x2D || c == 0x2C || c == 0x0D || c == 0x0A

/-- The value of a hex digit. -/
def nibble (c : UInt8) : Option UInt8 :=
  if 0x30 ≤ c ∧ c ≤ 0x39 then some (c - 0x30)
  else if 0x61 ≤ c ∧ c ≤ 0x66 then some (c - 0x61 + 10)
  else if 0x41 ≤ c ∧ c ≤ 0x46 then some (c - 0x41 + 10)
  else none

/-- The variables of the loop: the buffer, the bytes written, the pending nibble. -/
structure HexState (cap : Nat) where
  buf : Block cap
  n : Nat := 0
  hi : Option UInt8 := none

/-- The byte of two nibbles. -/
def nibblePair (hi lo : UInt8) : UInt8 := (hi <<< 4) ||| lo

variable {cap : Nat}

/-- The loop, and whether it ends without an error. -/
def hexLoop : CString → HexState cap → Bool × HexState cap
  | [], st => (st.hi.isNone, st)
  | c :: s, st =>
      if isSeparator c then hexLoop s st
      else
        match nibble c with
        | none => (false, st)
        | some nib =>
            match st.hi with
            | none => hexLoop s { st with hi := some nib }
            | some hi =>
                if st.n ≥ cap then (false, st)
                else hexLoop s ⟨store st.buf st.n [nibblePair hi nib], st.n + 1, none⟩

/-- `fbsec_server_parse_hex_strict`: the bytes written, or 0 for an error. -/
def serverParseHexStrict (s : CString) (buf : Block cap) : Nat × Block cap :=
  let out := hexLoop s ⟨buf, 0, none⟩
  (if out.1 then out.2.n else 0, out.2.buf)

/-- The result of the client's parsers: the return code, the buffer and the length. -/
structure HexResult (cap : Nat) where
  rc : Int
  buf : Block cap
  len : Nat

/-- The loop with the client's convention: the length is stored on success only. -/
def hexResult (s : CString) (buf : Block cap) (len : Nat) : HexResult cap :=
  let out := hexLoop s ⟨buf, 0, none⟩
  if out.1 then ⟨0, out.2.buf, out.2.n⟩ else ⟨-1, out.2.buf, len⟩

/-- `fbsec_client_cli_parse_hex`; `len` is what `*len_out` holds before. -/
def clientCliParseHex (s : CString) (buf : Block cap) (len : Nat) : HexResult cap :=
  hexResult s buf len

/-- `parse_hex_to_buf` of the key store. -/
def parseHexToBuf (s : CString) (buf : Block cap) (len : Nat) : HexResult cap :=
  hexResult s buf len

/-! ## The grammar -/

/-- The characters that are not separators. -/
def digits (s : CString) : List UInt8 := s.filter fun c => !isSeparator c

/-- An even number of hex digits, for at most `cap` bytes. -/
structure HexText (cap : Nat) (s : CString) : Prop where
  hex : ∀ c ∈ digits s, (nibble c).isSome
  even : Even (digits s).length
  fits : (digits s).length ≤ 2 * cap

instance (cap : Nat) (s : CString) : Decidable (HexText cap s) :=
  decidable_of_iff ((∀ c ∈ digits s, (nibble c).isSome) ∧ Even (digits s).length ∧
    (digits s).length ≤ 2 * cap)
    ⟨fun h => ⟨h.1, h.2.1, h.2.2⟩, fun h => ⟨h.hex, h.even, h.fits⟩⟩

/-- The values of the hex digits, up to the first character that is neither digit nor
    separator. -/
def nibbles : CString → List UInt8
  | [] => []
  | c :: s =>
      if isSeparator c then nibbles s
      else
        match nibble c with
        | none => []
        | some nib => nib :: nibbles s

/-- Nibbles, two and two. -/
def pairs : List UInt8 → List UInt8
  | [] => []
  | [_] => []
  | hi :: lo :: rest => nibblePair hi lo :: pairs rest

/-- The bytes that a text spells, up to the first character that is no digit. -/
def hexBytes (s : CString) : List UInt8 := pairs (nibbles s)

theorem length_pairs (l : List UInt8) : (pairs l).length = l.length / 2 := by
  induction l using pairs.induct with
  | case1 => rfl
  | case2 nib => simp [pairs]
  | case3 hi lo rest ih =>
      rw [pairs, List.length_cons, ih, List.length_cons, List.length_cons]
      omega

/-- Of a text of hex digits all are read. -/
theorem length_nibbles {s : CString} (h : ∀ c ∈ digits s, (nibble c).isSome) :
    (nibbles s).length = (digits s).length := by
  induction s with
  | nil => rfl
  | cons c s ih =>
      by_cases hsep : isSeparator c = true
      · have hdigits : digits (c :: s) = digits s := by simp [digits, hsep]
        rw [hdigits] at h ⊢
        rw [nibbles, if_pos hsep]
        exact ih h
      · have hdigits : digits (c :: s) = c :: digits s := by simp [digits, hsep]
        rw [hdigits] at h ⊢
        obtain ⟨nib, hnib⟩ := Option.isSome_iff_exists.mp (h c (by simp))
        rw [nibbles, if_neg hsep, hnib, List.length_cons, List.length_cons,
          ih fun d hd => h d (by simp [hd])]

/-! ## What the loop does -/

section Loop

variable {s : CString} {st : HexState cap}

theorem hexLoop_separator {c : UInt8} (h : isSeparator c = true) :
    hexLoop (c :: s) st = hexLoop s st := if_pos h

theorem hexLoop_stray {c : UInt8} (h : ¬ isSeparator c = true) (hnib : nibble c = none) :
    hexLoop (c :: s) st = (false, st) := by
  rw [hexLoop, if_neg h, hnib]

theorem hexLoop_first {c nib : UInt8} (h : ¬ isSeparator c = true) (hnib : nibble c = some nib)
    (hhi : st.hi = none) : hexLoop (c :: s) st = hexLoop s { st with hi := some nib } := by
  rw [hexLoop, if_neg h, hnib]
  dsimp only
  rw [hhi]

theorem hexLoop_second {c nib hi : UInt8} (h : ¬ isSeparator c = true)
    (hnib : nibble c = some nib) (hhi : st.hi = some hi) :
    hexLoop (c :: s) st = if st.n ≥ cap then (false, st)
      else hexLoop s ⟨store st.buf st.n [nibblePair hi nib], st.n + 1, none⟩ := by
  rw [hexLoop, if_neg h, hnib]
  dsimp only
  rw [hhi]

/-- **The buffer**: behind what was written before, the bytes that the pending nibble and the
    text spell. -/
theorem hexLoop_buf (s : CString) (st : HexState cap) :
    (hexLoop s st).2.buf = store st.buf st.n (pairs (st.hi.toList ++ nibbles s)) := by
  induction s generalizing st with
  | nil =>
      rw [hexLoop, nibbles, List.append_nil]
      cases hhi : st.hi with
      | none => exact (store_nil _ _).symm
      | some hi => exact (store_nil _ _).symm
  | cons c s ih =>
      by_cases hsep : isSeparator c = true
      · rw [hexLoop_separator hsep, nibbles, if_pos hsep]
        exact ih st
      · rw [nibbles, if_neg hsep]
        cases hnib : nibble c with
        | none =>
            rw [hexLoop_stray hsep hnib]
            cases hhi : st.hi with
            | none => exact (store_nil _ _).symm
            | some hi => exact (store_nil _ _).symm
        | some nib =>
            cases hhi : st.hi with
            | none =>
                rw [hexLoop_first hsep hnib hhi]
                exact ih _
            | some hi =>
                rw [hexLoop_second hsep hnib hhi]
                by_cases hfull : st.n ≥ cap
                · rw [if_pos hfull, store_past _ hfull]
                · rw [if_neg hfull, ih]
                  exact store_append _ _ [_] _

/-- **Success**: hex digits only, an even number of them together with the pending one, and
    room for their bytes. -/
theorem hexLoop_ok (s : CString) (st : HexState cap) :
    (hexLoop s st).1 = true ↔ (∀ c ∈ digits s, (nibble c).isSome) ∧
      Even (st.hi.toList.length + (digits s).length) ∧
      ((digits s).length = 0 ∨ st.hi.toList.length + (digits s).length ≤ 2 * (cap - st.n)) := by
  induction s generalizing st with
  | nil =>
      rw [hexLoop]
      cases hhi : st.hi with
      | none => simp [digits]
      | some hi => simp [digits]
  | cons c s ih =>
      by_cases hsep : isSeparator c = true
      · have hdigits : digits (c :: s) = digits s := by simp [digits, hsep]
        rw [hexLoop_separator hsep, hdigits]
        exact ih st
      · have hdigits : digits (c :: s) = c :: digits s := by simp [digits, hsep]
        rw [hdigits, List.forall_mem_cons, List.length_cons]
        cases hnib : nibble c with
        | none =>
            rw [hexLoop_stray hsep hnib]
            simp
        | some nib =>
            cases hhi : st.hi with
            | none =>
                -- the digit waits for its partner, which needs a cell
                rw [hexLoop_first hsep hnib hhi, ih]
                simp only [Option.isSome_some, true_and, Option.toList_some, Option.toList_none,
                  List.length_singleton, List.length_nil, Nat.even_iff]
                refine and_congr_right fun _ => ?_
                omega
            | some hi =>
                rw [hexLoop_second hsep hnib hhi]
                by_cases hfull : st.n ≥ cap
                · rw [if_pos hfull]
                  simp only [Bool.false_eq_true, false_iff, Option.isSome_some, true_and,
                    Option.toList_some, List.length_singleton, not_and]
                  intro _ _
                  omega
                · rw [if_neg hfull, ih]
                  simp only [Option.isSome_some, true_and, Option.toList_some, Option.toList_none,
                    List.length_singleton, List.length_nil, Nat.even_iff]
                  refine and_congr_right fun _ => ?_
                  omega

/-- **The count**, on success. -/
theorem hexLoop_count (s : CString) (st : HexState cap) (h : (hexLoop s st).1 = true) :
    (hexLoop s st).2.n = st.n + (st.hi.toList.length + (digits s).length) / 2 := by
  induction s generalizing st with
  | nil =>
      rw [hexLoop] at h ⊢
      have hnone : st.hi = none := Option.isNone_iff_eq_none.mp h
      simp [hnone, digits]
  | cons c s ih =>
      by_cases hsep : isSeparator c = true
      · have hdigits : digits (c :: s) = digits s := by simp [digits, hsep]
        rw [hexLoop_separator hsep] at h ⊢
        rw [hdigits]
        exact ih st h
      · have hdigits : digits (c :: s) = c :: digits s := by simp [digits, hsep]
        rw [hdigits, List.length_cons]
        cases hnib : nibble c with
        | none =>
            rw [hexLoop_stray hsep hnib] at h
            cases h
        | some nib =>
            cases hhi : st.hi with
            | none =>
                rw [hexLoop_first hsep hnib hhi] at h ⊢
                rw [ih _ h]
                simp only [Option.toList_some, Option.toList_none, List.length_singleton,
                  List.length_nil]
                omega
            | some hi =>
                rw [hexLoop_second hsep hnib hhi] at h ⊢
                by_cases hfull : st.n ≥ cap
                · rw [if_pos hfull] at h
                  cases h
                · rw [if_neg hfull] at h ⊢
                  rw [ih _ h]
                  simp only [Option.toList_some, Option.toList_none, List.length_singleton,
                    List.length_nil]
                  omega

end Loop

/-! ## The parsers -/

section Parsers

variable {s : CString} {buf : Block cap}

/-- From the start, the loop succeeds on the texts of the grammar. -/
theorem hexLoop_start : (hexLoop s ⟨buf, 0, none⟩).1 = true ↔ HexText cap s := by
  rw [hexLoop_ok]
  simp only [Option.toList_none, List.length_nil, Nat.zero_add, Nat.sub_zero]
  constructor
  · rintro ⟨hhex, heven, hfits⟩
    exact ⟨hhex, heven, by omega⟩
  · rintro ⟨hhex, heven, hfits⟩
    exact ⟨hhex, heven, .inr hfits⟩

theorem hexLoop_start_buf : (hexLoop s ⟨buf, 0, none⟩).2.buf = store buf 0 (hexBytes s) := by
  rw [hexLoop_buf]
  rfl

theorem hexLoop_start_count (h : HexText cap s) :
    (hexLoop s ⟨buf, 0, none⟩).2.n = (hexBytes s).length := by
  rw [hexLoop_count s _ (hexLoop_start.mpr h), hexBytes, length_pairs, length_nibbles h.hex]
  simp

/-- The bytes of a text of the grammar are half as many as its digits, and fit the buffer. -/
theorem length_hexBytes (h : HexText cap s) :
    2 * (hexBytes s).length = (digits s).length ∧ (hexBytes s).length ≤ cap := by
  have heven := Nat.even_iff.mp h.even
  have hfits := h.fits
  rw [hexBytes, length_pairs, length_nibbles h.hex]
  omega

/-- A whole buffer stored leaves nothing of what was there. -/
theorem store_full (buf : Block cap) {bytes : List UInt8} (h : bytes.length = cap) :
    store buf 0 bytes = slice cap 0 bytes := by
  funext i
  have hi : i.val < bytes.length := by
    rw [h]
    exact i.isLt
  simp [store, slice, hi]

theorem hexResult_accepted (h : HexText cap s) (len : Nat) :
    hexResult s buf len = ⟨0, store buf 0 (hexBytes s), (hexBytes s).length⟩ := by
  rw [hexResult, if_pos (hexLoop_start.mpr h), hexLoop_start_buf, hexLoop_start_count h]

theorem hexResult_rejected (h : ¬ HexText cap s) (len : Nat) :
    hexResult s buf len = ⟨-1, store buf 0 (hexBytes s), len⟩ := by
  rw [hexResult, if_neg fun hok => h (hexLoop_start.mp hok), hexLoop_start_buf]

theorem serverParse_accepted (h : HexText cap s) :
    serverParseHexStrict s buf = ((hexBytes s).length, store buf 0 (hexBytes s)) := by
  rw [serverParseHexStrict, if_pos (hexLoop_start.mpr h), hexLoop_start_buf,
    hexLoop_start_count h]

theorem serverParse_rejected (h : ¬ HexText cap s) :
    serverParseHexStrict s buf = (0, store buf 0 (hexBytes s)) := by
  rw [serverParseHexStrict, if_neg fun hok => h (hexLoop_start.mp hok), hexLoop_start_buf]

end Parsers

end SofaHexText
