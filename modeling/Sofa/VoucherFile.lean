import Sofa.Handover
import Sofa.HexText
import Sofa.Lib.CText

/-! # The voucher file

    The commissioning tool writes an ownership voucher to a text file, with two comment lines
    before the hex, and reads one back.

    * `slurpLoop_comment`, `slurpLoop_rows`: what is left of the comments and of the hex;
    * **`loadVoucherFile_emit`**: what was written is loaded back;
    * **`hex_parsers`**: the three parsers against the grammar, and the file. -/

namespace SofaVoucherFile

open ByteBlock FixedBuffer SofaAsym SofaHandover SofaHexText CText

/-! ## The text -/

/-- A digit of `%X`. -/
def hexDigit (d : UInt8) : UInt8 := if d < 10 then 0x30 + d else 0x41 + (d - 10)

/-- `%02X`. -/
def hexByte (b : UInt8) : CString := [hexDigit (b >>> 4), hexDigit (b &&& 0x0F)]

/-- The bytes in rows of sixteen, from byte number `i` on. -/
def voucherRows : List UInt8 → Nat → List UInt8
  | [], _ => []
  | b :: rest, i =>
      hexByte b ++ (if (i + 1) % 16 = 0 then 0x0A else 0x20) :: voucherRows rest (i + 1)

/-- The first comment line, without the `#` and the line feed. -/
def voucherTitle : CString := ascii " SOFA demo ownership voucher (offline MASA artifact)."

/-- The second one, for a voucher of `n` bytes. -/
def voucherLayout (n : Nat) : CString :=
  ascii (" serial || integrator_pub || epoch(LE) || SIG_mfg; " ++ toString n ++ " bytes hex.")

/-- The text of a voucher. -/
def voucherText (voucher : List UInt8) : List UInt8 :=
  0x23 :: voucherTitle ++ 0x0A ::
    (0x23 :: voucherLayout voucher.length ++ 0x0A :: (voucherRows voucher 0 ++ [0x0A]))

/-- `fbsec_commission_emit_voucher_file`: the return code, and the file that is written.
    `opened` says whether the file can be created. -/
def emitVoucherFile (ed : Ed25519) (opened : Bool) : Nat × Option (List UInt8) :=
  match buildVoucherEpoch ed demoVoucherEpoch with
  | none => (6, none)
  | some voucher => if !opened then (10, none) else (0, some (voucherText voucher))

/-! ## Loading -/

/-- The loop of `slurp_hex_text`: comments and line feeds are dropped; `none` is a text that does
    not fit the buffer. -/
def slurpLoop (outSize : Nat) : List UInt8 → Bool → CString → Option CString
  | [], _, out => some out
  | c :: file, inComment, out =>
      if c == 0x23 then slurpLoop outSize file true out
      else if c == 0x0A then slurpLoop outSize file false out
      else if inComment then slurpLoop outSize file inComment out
      else if out.length < outSize - 1 then slurpLoop outSize file inComment (out ++ [c])
      else none

/-- The loaded voucher. -/
structure VoucherStore where
  voucher : Block 108 := zero 108
  loaded : Bool := false

/-- `fbsec_commission_load_voucher_file`, for the contents of the file; `none` is one that cannot
    be opened.  `stack` is what the local buffer holds on entry. -/
def loadVoucherFile (stack : Block 108) (file : Option (List UInt8)) (st : VoucherStore) :
    Nat × VoucherStore :=
  match file.bind fun text => slurpLoop 512 text false [] with
  | none => (1, st)
  | some text =>
      let out := clientCliParseHex (upToNul text) stack 0
      if out.rc != 0 then (2, st)
      else if out.len != hoVoucherLen then (3, st)
      else (0, ⟨out.buf, true⟩)

/-! ## The round trip -/

section RoundTrip

variable {outSize : Nat} {rest : List UInt8} {out : CString}

/-- A comment line leaves nothing. -/
theorem slurpLoop_comment {line : CString} (h : 0x0A ∉ line) :
    slurpLoop outSize (0x23 :: line ++ 0x0A :: rest) false out
      = slurpLoop outSize rest false out := by
  have htail : slurpLoop outSize (line ++ 0x0A :: rest) true out
      = slurpLoop outSize rest false out := by
    induction line with
    | nil => rfl
    | cons c line ih =>
        obtain ⟨hc, hline⟩ := not_or.mp (List.mem_cons.not.mp h)
        have hfeed : (c == 0x0A) = false := beq_eq_false_iff_ne.mpr (Ne.symm hc)
        rw [List.cons_append, slurpLoop, hfeed]
        by_cases hhash : (c == 0x23) = true
        · rw [if_pos hhash]
          exact ih hline
        · rw [if_neg hhash]
          exact ih hline
  exact htail

/-- A character of the hex is kept, while there is room. -/
theorem slurpLoop_kept {c : UInt8} (hhash : c ≠ 0x23) (hfeed : c ≠ 0x0A)
    (hroom : out.length < outSize - 1) :
    slurpLoop outSize (c :: rest) false out = slurpLoop outSize rest false (out ++ [c]) := by
  rw [slurpLoop, beq_eq_false_iff_ne.mpr hhash, beq_eq_false_iff_ne.mpr hfeed, if_neg (by decide),
    if_neg (by decide), if_neg (by decide), if_pos hroom]

/-- The hex of the rows, without the line feeds. -/
def rowHex : List UInt8 → Nat → CString
  | [], _ => []
  | b :: rest, i => hexByte b ++ (if (i + 1) % 16 = 0 then [] else [0x20]) ++ rowHex rest (i + 1)

theorem hexDigit_char : ∀ d : UInt8, d < 16 →
    hexDigit d ≠ 0 ∧ hexDigit d ≠ 0x23 ∧ hexDigit d ≠ 0x0A ∧ isSeparator (hexDigit d) = false ∧
      nibble (hexDigit d) = some d := by decide +kernel

theorem nibbles_lt : ∀ b : UInt8, b >>> 4 < 16 ∧ b &&& 0x0F < 16 := by decide +kernel

theorem nibblePair_split : ∀ b : UInt8, nibblePair (b >>> 4) (b &&& 0x0F) = b := by
  decide +kernel

/-- **The rows** leave their hex. -/
theorem slurpLoop_rows (voucher : List UInt8) (i : Nat)
    (hroom : out.length + 3 * voucher.length ≤ outSize - 1) :
    slurpLoop outSize (voucherRows voucher i ++ [0x0A]) false out
      = some (out ++ rowHex voucher i) := by
  induction voucher generalizing i out with
  | nil =>
      rw [rowHex, List.append_nil]
      rfl
  | cons b rest ih =>
      rw [List.length_cons] at hroom
      obtain ⟨hhi, hlo⟩ := nibbles_lt b
      obtain ⟨-, hhiHash, hhiFeed, -, -⟩ := hexDigit_char _ hhi
      obtain ⟨-, hloHash, hloFeed, -, -⟩ := hexDigit_char _ hlo
      rw [voucherRows, hexByte, rowHex, hexByte]
      simp only [List.cons_append, List.nil_append]
      rw [slurpLoop_kept hhiHash hhiFeed (by omega),
        slurpLoop_kept hloHash hloFeed (by rw [List.length_append, List.length_singleton]; omega)]
      by_cases hrow : (i + 1) % 16 = 0
      · -- the end of a row leaves nothing
        rw [if_pos hrow, if_pos hrow, slurpLoop, if_neg (by decide), if_pos (by decide),
          ih (i + 1) (by simp only [List.length_append, List.length_singleton]; omega)]
        simp
      · rw [if_neg hrow, if_neg hrow, slurpLoop_kept (by decide) (by decide)
            (by simp only [List.length_append, List.length_singleton]; omega),
          ih (i + 1) (by simp only [List.length_append, List.length_singleton]; omega)]
        simp

/-! ### The hex of the rows is text of the grammar -/

theorem digits_append (a b : CString) : digits (a ++ b) = digits a ++ digits b :=
  List.filter_append ..

theorem digits_rowHex (voucher : List UInt8) (i : Nat) :
    digits (rowHex voucher i) = voucher.flatMap hexByte := by
  induction voucher generalizing i with
  | nil => rfl
  | cons b rest ih =>
      obtain ⟨hhi, hlo⟩ := nibbles_lt b
      have hbyte : digits (hexByte b) = hexByte b := by
        simp [digits, hexByte, (hexDigit_char _ hhi).2.2.2.1, (hexDigit_char _ hlo).2.2.2.1]
      have hgap : digits (if (i + 1) % 16 = 0 then [] else [0x20]) = [] := by
        split <;> rfl
      rw [rowHex, digits_append, digits_append, hbyte, hgap, ih, List.append_nil,
        List.flatMap_cons]

theorem length_flatMap_hexByte (voucher : List UInt8) :
    (voucher.flatMap hexByte).length = 2 * voucher.length := by
  induction voucher with
  | nil => rfl
  | cons b rest ih =>
      rw [List.flatMap_cons, List.length_append, ih, List.length_cons, hexByte, List.length_cons,
        List.length_singleton]
      omega

theorem hexText_rowHex (voucher : List UInt8) (i : Nat) :
    HexText voucher.length (rowHex voucher i) := by
  refine ⟨fun c hc => ?_, ?_, ?_⟩
  · rw [digits_rowHex] at hc
    obtain ⟨b, -, hb⟩ := List.mem_flatMap.mp hc
    obtain ⟨hhi, hlo⟩ := nibbles_lt b
    rw [hexByte, List.mem_cons, List.mem_singleton] at hb
    rcases hb with rfl | rfl
    · rw [(hexDigit_char _ hhi).2.2.2.2]
      rfl
    · rw [(hexDigit_char _ hlo).2.2.2.2]
      rfl
  · rw [digits_rowHex, length_flatMap_hexByte]
    exact even_two_mul _
  · rw [digits_rowHex, length_flatMap_hexByte]

/-- **And spells the voucher.** -/
theorem hexBytes_rowHex (voucher : List UInt8) (i : Nat) :
    hexBytes (rowHex voucher i) = voucher := by
  induction voucher generalizing i with
  | nil => rfl
  | cons b rest ih =>
      obtain ⟨hhi, hlo⟩ := nibbles_lt b
      have hgap : nibbles ((if (i + 1) % 16 = 0 then [] else [0x20]) ++ rowHex rest (i + 1))
          = nibbles (rowHex rest (i + 1)) := by
        split
        · rfl
        · rfl
      have hbytes : nibbles (rowHex (b :: rest) i)
          = (b >>> 4) :: (b &&& 0x0F) :: nibbles (rowHex rest (i + 1)) := by
        rw [rowHex, hexByte, List.append_assoc, List.cons_append, List.cons_append,
          List.nil_append, nibbles, (hexDigit_char _ hhi).2.2.2.1, (hexDigit_char _ hhi).2.2.2.2,
          if_neg (by decide)]
        dsimp only
        rw [nibbles, (hexDigit_char _ hlo).2.2.2.1, (hexDigit_char _ hlo).2.2.2.2,
          if_neg (by decide)]
        dsimp only
        rw [hgap]
      have hrest := ih (i + 1)
      rw [hexBytes] at hrest
      rw [hexBytes, hbytes, pairs, nibblePair_split, hrest]

theorem upToNul_rowHex (voucher : List UInt8) (i : Nat) :
    upToNul (rowHex voucher i) = rowHex voucher i := by
  have hnonzero : ∀ c ∈ rowHex voucher i, (c != 0) = true := by
    induction voucher generalizing i with
    | nil => simp [rowHex]
    | cons b rest ih =>
        obtain ⟨hhi, hlo⟩ := nibbles_lt b
        intro c hc
        rw [rowHex, List.mem_append, List.mem_append, hexByte, List.mem_cons,
          List.mem_singleton] at hc
        rw [bne_iff_ne]
        rcases hc with (((rfl | rfl) | hgap) | hrest)
        · exact (hexDigit_char _ hhi).1
        · exact (hexDigit_char _ hlo).1
        · split at hgap
          · cases hgap
          · rw [List.mem_singleton.mp hgap]
            decide
        · exact bne_iff_ne.mp (ih (i + 1) c hrest)
  exact List.takeWhile_eq_self_iff.mpr hnonzero

/-- **What was written is loaded back.** -/
theorem loadVoucherFile_text (stack : Block 108) {voucher : List UInt8}
    (hlen : voucher.length = hoVoucherLen) (st : VoucherStore) :
    loadVoucherFile stack (some (voucherText voucher)) st = (0, ⟨slice 108 0 voucher, true⟩) := by
  have htext : slurpLoop 512 (voucherText voucher) false [] = some (rowHex voucher 0) := by
    have hroom : ([] : CString).length + 3 * voucher.length ≤ 512 - 1 := by
      rw [hlen]
      decide
    have hlayout : 0x0A ∉ voucherLayout voucher.length := by
      rw [hlen]
      decide
    rw [voucherText, slurpLoop_comment (by decide), slurpLoop_comment hlayout,
      slurpLoop_rows voucher 0 hroom, List.nil_append]
  have hgrammar : HexText 108 (rowHex voucher 0) := by
    have h := hexText_rowHex voucher 0
    rwa [hlen] at h
  rw [loadVoucherFile, Option.bind_some, htext]
  dsimp only
  rw [clientCliParseHex, upToNul_rowHex, hexResult_accepted hgrammar, hexBytes_rowHex, hlen, store_full stack hlen]
  rfl

end RoundTrip

/-! ## The parsers and the file -/

/-- The three parsers of one text into one buffer: all accept the grammar and nothing else, with
    the same bytes and count. -/
structure ParsersAgree {cap : Nat} (s : CString) (buf : Block cap) (len : Nat) : Prop where
  cliAccepts : (clientCliParseHex s buf len).rc = 0 ↔ HexText cap s
  storeAccepts : (parseHexToBuf s buf len).rc = 0 ↔ HexText cap s
  serverAccepts : (serverParseHexStrict s buf).1 ≠ 0 ↔ HexText cap s ∧ digits s ≠ []
  cliBytes : HexText cap s →
    clientCliParseHex s buf len = ⟨0, store buf 0 (hexBytes s), (hexBytes s).length⟩
  storeBytes : HexText cap s →
    parseHexToBuf s buf len = ⟨0, store buf 0 (hexBytes s), (hexBytes s).length⟩
  serverBytes : HexText cap s →
    serverParseHexStrict s buf = ((hexBytes s).length, store buf 0 (hexBytes s))
  count : HexText cap s → 2 * (hexBytes s).length = (digits s).length

theorem hexResult_rc {cap : Nat} (s : CString) (buf : Block cap) (len : Nat) :
    (hexResult s buf len).rc = 0 ↔ HexText cap s := by
  by_cases h : HexText cap s
  · rw [hexResult_accepted h]
    exact iff_of_true rfl h
  · have herror : (-1 : Int) ≠ 0 := by decide
    rw [hexResult_rejected h]
    exact iff_of_false herror h

theorem parsersAgree {cap : Nat} (s : CString) (buf : Block cap) (len : Nat) :
    ParsersAgree s buf len where
  cliAccepts := hexResult_rc s buf len
  storeAccepts := hexResult_rc s buf len
  serverAccepts := by
    by_cases h : HexText cap s
    · have hcount := (length_hexBytes h).1
      rw [serverParse_accepted h, ← List.length_pos_iff]
      constructor
      · intro hne
        exact ⟨h, by omega⟩
      · rintro ⟨-, hpos⟩
        show (hexBytes s).length ≠ 0
        omega
    · rw [serverParse_rejected h]
      exact iff_of_false (not_not.mpr rfl) fun hno => h hno.1
  cliBytes h := hexResult_accepted h len
  storeBytes h := hexResult_accepted h len
  serverBytes h := serverParse_accepted h
  count h := (length_hexBytes h).1

/-- **The hex parsers**: they agree on every text and every buffer, and so the voucher that the
    tool writes is the one that it loads. -/
theorem hex_parsers :
    (∀ (cap : Nat) (s : CString) (buf : Block cap) (len : Nat), ParsersAgree s buf len) ∧
    ∀ (ed : Ed25519), ∃ voucher file, buildVoucherEpoch ed demoVoucherEpoch = some voucher ∧
      voucher.length = hoVoucherLen ∧ emitVoucherFile ed true = (0, some file) ∧
      ∀ (stack : Block 108) (st : VoucherStore), ∃ st',
        loadVoucherFile stack (some file) st = (0, st') ∧ st'.loaded = true ∧
          toList st'.voucher = voucher := by
  refine ⟨fun cap s buf len => parsersAgree s buf len, fun ed => ?_⟩
  have hbuild := buildVoucherEpoch_eq ed demoVoucherEpoch
  have hlen := mintedVoucher_length ed demoVoucherEpoch
  refine ⟨_, voucherText (mintedVoucher ed demoVoucherEpoch), hbuild, hlen, ?_, ?_⟩
  · rw [emitVoucherFile, hbuild]
    rfl
  · intro stack st
    refine ⟨_, loadVoucherFile_text stack hlen st, rfl, ?_⟩
    show toList (slice 108 0 (mintedVoucher ed demoVoucherEpoch)) = _
    rw [toList_slice _ _ _ (by rw [hlen]; decide), List.drop_zero,
      List.take_of_length_le (by rw [hlen]; decide)]

end SofaVoucherFile
