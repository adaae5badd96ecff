import Mathlib

/-! # Reading text the way C does

    Files are byte strings, read a line at a time into a buffer of fixed size; a line is cut at
    its first comment character and split into tokens; a token is read as a number.

    * `flatten_reads`: the reads of a text, in order, are the text;
    * **`reads_eq`**: the reads of a text are those of its lines, one line after the other;
    * **`fileRows_eq_iff`**: the reads give the rows of the lines exactly when every line is
      `Whole`: after a read of it with a token or a comment only blank ones follow. -/

namespace CText

abbrev Text := List UInt8

/-- The characters of a literal. -/
def ascii (s : String) : Text := s.toList.map fun c => UInt8.ofNat c.toNat

/-- `'\n'`. -/
abbrev feed : UInt8 := 0x0A

/-! ## Lines and reads -/

/-- `fgets` with room for so many characters: what is read, and what is left. -/
def fgets : Nat → Text → Text × Text
  | 0, text => ([], text)
  | _ + 1, [] => ([], [])
  | room + 1, c :: text =>
      if c = feed then ([c], text)
      else (c :: (fgets room text).1, (fgets room text).2)

/-- The reads of a text by `while (fgets(...))`, at most `fuel` of them. -/
def readsUpTo (room : Nat) : Nat → Text → List Text
  | 0, _ => []
  | _ + 1, [] => []
  | fuel + 1, c :: text =>
      (fgets room (c :: text)).1 :: readsUpTo room fuel (fgets room (c :: text)).2

/-- All the reads of a text. -/
def reads (room : Nat) (text : Text) : List Text := readsUpTo room text.length text

/-- The lines of a text, each with its line feed. -/
def lines : Text → List Text
  | [] => []
  | c :: text =>
      if c = feed then [c] :: lines text
      else
        match lines text with
        | [] => [[c]]
        | line :: rest => (c :: line) :: rest

section Reads

variable {room : Nat}

theorem fgets_append (room : Nat) (text : Text) : (fgets room text).1 ++ (fgets room text).2 = text := by
  induction room generalizing text with
  | zero => rfl
  | succ room ih =>
      cases text with
      | nil => rfl
      | cons c text =>
          rw [fgets]
          by_cases hfeed : c = feed
          · rw [if_pos hfeed]
            rfl
          · rw [if_neg hfeed]
            exact congrArg (c :: ·) (ih text)

/-- A read with room makes the text shorter. -/
theorem length_fgets_lt (hroom : 0 < room) (c : UInt8) (text : Text) :
    (fgets room (c :: text)).2.length < (c :: text).length := by
  obtain ⟨r, rfl⟩ := Nat.exists_eq_succ_of_ne_zero hroom.ne'
  rw [fgets]
  by_cases hfeed : c = feed
  · rw [if_pos hfeed]
    exact Nat.lt_succ_self _
  · have hlen := congrArg List.length (fgets_append r text)
    rw [List.length_append] at hlen
    rw [if_neg hfeed, List.length_cons]
    show (fgets r text).2.length < text.length + 1
    omega

/-- More fuel than characters reads no more. -/
theorem readsUpTo_eq (hroom : 0 < room) {fuel : Nat} {text : Text} (h : text.length ≤ fuel) :
    readsUpTo room fuel text = reads room text := by
  suffices hall : ∀ n fuel (text : Text), text.length ≤ n → text.length ≤ fuel →
      ∀ fuel', text.length ≤ fuel' → readsUpTo room fuel text = readsUpTo room fuel' text from
    hall _ _ _ le_rfl h _ le_rfl
  intro n
  induction n with
  | zero =>
      intro fuel text hn hfuel fuel' hfuel'
      have hnil : text = [] := List.length_eq_zero_iff.mp (Nat.le_zero.mp hn)
      subst hnil
      cases fuel <;> cases fuel' <;> rfl
  | succ n ih =>
      intro fuel text hn hfuel fuel' hfuel'
      cases text with
      | nil => cases fuel <;> cases fuel' <;> rfl
      | cons c text =>
          rw [List.length_cons] at hfuel hfuel'
          obtain ⟨f, rfl⟩ := Nat.exists_eq_add_of_le' (show 1 ≤ fuel by omega)
          obtain ⟨f', rfl⟩ := Nat.exists_eq_add_of_le' (show 1 ≤ fuel' by omega)
          have hlt := length_fgets_lt hroom c text
          rw [List.length_cons] at hlt hn
          exact congrArg _ (ih f _ (by omega) (by omega) f' (by omega))

/-- The reads, one by one. -/
theorem reads_cons (hroom : 0 < room) (c : UInt8) (text : Text) :
    reads room (c :: text)
      = (fgets room (c :: text)).1 :: reads room (fgets room (c :: text)).2 := by
  have hlt := length_fgets_lt hroom c text
  rw [List.length_cons] at hlt
  rw [← readsUpTo_eq hroom (show (fgets room (c :: text)).2.length ≤ text.length by omega)]
  rfl

theorem flatten_reads (hroom : 0 < room) (text : Text) : (reads room text).flatten = text := by
  induction hlen : text.length using Nat.strong_induction_on generalizing text with
  | _ n ih =>
      cases text with
      | nil => rfl
      | cons c text =>
          have hlt := length_fgets_lt hroom c text
          rw [reads_cons hroom, List.flatten_cons, ih _ (by omega) _ rfl]
          exact fgets_append _ _

/-! ### One line -/

/-- A text that ends in its only line feed. -/
def Terminated (line : Text) : Prop := ∃ front, feed ∉ front ∧ line = front ++ [feed]

theorem Terminated.ne_nil {line : Text} (h : Terminated line) : line ≠ [] := by
  obtain ⟨front, -, rfl⟩ := h
  simp

/-- A read takes a terminated line whole, or a front of it, whatever follows the line. -/
theorem fgets_terminated (hroom : 0 < room) {line : Text} (h : Terminated line) (rest : Text) :
    (fgets room line = (line, []) ∧ fgets room (line ++ rest) = (line, rest)) ∨
      ∃ front back, Terminated back ∧ back.length < line.length ∧
        fgets room line = (front, back) ∧ fgets room (line ++ rest) = (front, back ++ rest) := by
  obtain ⟨front, hfront, rfl⟩ := h
  induction front generalizing room with
  | nil =>
      obtain ⟨r, rfl⟩ := Nat.exists_eq_succ_of_ne_zero hroom.ne'
      exact .inl ⟨rfl, rfl⟩
  | cons c front ih =>
      obtain ⟨hc, hfront⟩ := not_or.mp (List.mem_cons.not.mp hfront)
      obtain ⟨r, rfl⟩ := Nat.exists_eq_succ_of_ne_zero hroom.ne'
      simp only [List.cons_append, fgets, if_neg (Ne.symm hc)]
      rcases Nat.eq_zero_or_pos r with rfl | hr
      · -- the buffer is full before the line feed
        refine .inr ⟨[c], front ++ [feed], ⟨front, hfront, rfl⟩, ?_, rfl, rfl⟩
        simp
      · rcases ih hr hfront with ⟨hline, hall⟩ | ⟨f, back, hback, hlen, hline, hall⟩
        · rw [hline, hall]
          exact .inl ⟨rfl, rfl⟩
        · rw [hline, hall]
          refine .inr ⟨c :: f, back, hback, ?_, rfl, rfl⟩
          rw [List.length_cons]
          omega

/-- The reads of a line and of what follows it. -/
theorem reads_terminated_append (hroom : 0 < room) {line : Text} (h : Terminated line)
    (rest : Text) : reads room (line ++ rest) = reads room line ++ reads room rest := by
  induction hlen : line.length using Nat.strong_induction_on generalizing line with
  | _ n ih =>
      obtain ⟨c, tail, rfl⟩ := List.exists_cons_of_ne_nil h.ne_nil
      rw [List.cons_append, reads_cons hroom, reads_cons hroom, ← List.cons_append]
      rcases fgets_terminated hroom h rest with ⟨hline, hall⟩ | ⟨front, back, hback, hlt, hline, hall⟩
      · rw [hline, hall]
        rfl
      · rw [hline, hall]
        exact congrArg (front :: ·) (ih _ (hlen ▸ hlt) hback rfl)

theorem lines_terminated {front : Text} (h : feed ∉ front) (rest : Text) :
    lines (front ++ feed :: rest) = (front ++ [feed]) :: lines rest := by
  induction front with
  | nil => rfl
  | cons c front ih =>
      obtain ⟨hc, hfront⟩ := not_or.mp (List.mem_cons.not.mp h)
      rw [List.cons_append, lines, if_neg (Ne.symm hc), ih hfront]
      rfl

theorem lines_unterminated {c : UInt8} {text : Text} (h : feed ∉ c :: text) :
    lines (c :: text) = [c :: text] := by
  induction text generalizing c with
  | nil =>
      obtain ⟨hc, -⟩ := not_or.mp (List.mem_cons.not.mp h)
      rw [lines, if_neg (Ne.symm hc)]
      rfl
  | cons d text ih =>
      obtain ⟨hc, htext⟩ := not_or.mp (List.mem_cons.not.mp h)
      rw [lines, if_neg (Ne.symm hc), ih htext]

/-- **The reads of a text** are those of its lines. -/
theorem reads_eq (hroom : 0 < room) (text : Text) :
    reads room text = (lines text).flatMap (reads room) := by
  induction hlen : text.length using Nat.strong_induction_on generalizing text with
  | _ n ih =>
      cases text with
      | nil => rfl
      | cons c text =>
          by_cases hfeed : feed ∈ c :: text
          · obtain ⟨front, rest, htext, hfront⟩ := List.eq_append_cons_of_mem hfeed
            have hshort : rest.length < n := by
              rw [← hlen, htext, List.length_append, List.length_cons]
              omega
            have hsplit : c :: text = (front ++ [feed]) ++ rest := by simp [htext]
            rw [hsplit, reads_terminated_append hroom ⟨front, hfront, rfl⟩, ih _ hshort _ rfl,
              List.append_assoc, List.singleton_append, lines_terminated hfront,
              List.flatMap_cons]
          · rw [lines_unterminated hfeed, List.flatMap_cons, List.flatMap_nil, List.append_nil]

theorem flatten_lines (text : Text) : (lines text).flatten = text := by
  induction text with
  | nil => rfl
  | cons c text ih =>
      rw [lines]
      by_cases hfeed : c = feed
      · rw [if_pos hfeed, List.flatten_cons, ih]
        rfl
      · rw [if_neg hfeed]
        cases hlines : lines text with
        | nil =>
            rw [hlines] at ih
            rw [← ih]
            rfl
        | cons line rest =>
            rw [hlines] at ih
            rw [← ih]
            rfl

end Reads

/-! ## Tokens -/

/-- The characters that separate tokens: space, tab, CR and LF. -/
def isBlank (c : UInt8) : Bool := c == 0x20 || c == 0x09 || c == 0x0D || c == 0x0A

/-- The tokens of a text that continues the token `cur`. -/
def tokensFrom : Text → Text → List Text
  | cur, [] => if cur = [] then [] else [cur]
  | cur, c :: text =>
      if isBlank c then
        if cur = [] then tokensFrom [] text else cur :: tokensFrom [] text
      else tokensFrom (cur ++ [c]) text

/-- What `strtok` returns, call after call. -/
def tokens (text : Text) : List Text := tokensFrom [] text

section Tokens

variable {blank text : Text}

theorem tokensFrom_ne_nil {cur : Text} (h : cur ≠ []) (text : Text) : tokensFrom cur text ≠ [] := by
  induction text generalizing cur with
  | nil =>
      rw [tokensFrom, if_neg h]
      exact List.cons_ne_nil _ _
  | cons c text ih =>
      rw [tokensFrom]
      by_cases hblank : isBlank c = true
      · rw [if_pos hblank, if_neg h]
        exact List.cons_ne_nil _ _
      · rw [if_neg hblank]
        exact ih (by simp)

theorem tokens_cons_blank {c : UInt8} (h : isBlank c = true) : tokens (c :: text) = tokens text := by
  rw [tokens, tokensFrom, if_pos h, if_pos rfl]
  rfl

/-- There is no token exactly in a blank text. -/
theorem tokens_eq_nil_iff (text : Text) : tokens text = [] ↔ ∀ c ∈ text, isBlank c = true := by
  induction text with
  | nil => simp [tokens, tokensFrom]
  | cons c text ih =>
      by_cases hblank : isBlank c = true
      · rw [tokens_cons_blank hblank, ih, List.forall_mem_cons]
        exact ⟨fun h => ⟨hblank, h⟩, fun h => h.2⟩
      · rw [tokens, tokensFrom, if_neg hblank]
        refine iff_of_false (tokensFrom_ne_nil (by simp) text) fun h => ?_
        exact hblank (h c (by simp))

theorem tokens_blank_append (h : ∀ c ∈ blank, isBlank c = true) :
    tokens (blank ++ text) = tokens text := by
  induction blank with
  | nil => rfl
  | cons c blank ih =>
      obtain ⟨hc, hrest⟩ := List.forall_mem_cons.mp h
      rw [List.cons_append, tokens_cons_blank hc, ih hrest]

theorem tokens_append_blank (h : ∀ c ∈ blank, isBlank c = true) :
    tokens (text ++ blank) = tokens text := by
  suffices hall : ∀ cur, tokensFrom cur (text ++ blank) = tokensFrom cur text from hall []
  induction text with
  | nil =>
      intro cur
      rw [List.nil_append]
      have hnone : tokensFrom [] blank = [] := (tokens_eq_nil_iff blank).mpr h
      cases blank with
      | nil => rfl
      | cons c blank =>
          obtain ⟨hc, hrest⟩ := List.forall_mem_cons.mp h
          have hnone' : tokensFrom [] blank = [] := (tokens_eq_nil_iff blank).mpr hrest
          have hstep : tokensFrom cur (c :: blank)
              = if cur = [] then tokensFrom [] blank else cur :: tokensFrom [] blank := if_pos hc
          rw [hstep, hnone']
          rfl
  | cons c text ih =>
      intro cur
      rw [List.cons_append, tokensFrom, tokensFrom]
      by_cases hblank : isBlank c = true
      · rw [if_pos hblank, if_pos hblank, ih]
      · rw [if_neg hblank, if_neg hblank, ih]

end Tokens

/-! ## Rows -/

/-- The part of a line before its first `#`. -/
def beforeComment (line : Text) : Text := line.takeWhile fun c => c != 0x23

/-- The characters of a buffer up to the NUL that ends it. -/
def upToNul (buf : Text) : Text := buf.takeWhile fun c => c != 0

/-- The tokens of a line: those of a C string, up to its first `#`. -/
def row (line : Text) : List Text := tokens (beforeComment (upToNul line))

/-- The rows of several reads; a read without a token is none. -/
def rowsOf (parts : List Text) : List (List Text) := (parts.map row).filter fun r => r != []

/-- The rows of a file that is read into a buffer with the given room. -/
def fileRows (room : Nat) (text : Text) : List (List Text) := rowsOf (reads room text)

/-- The rows of its lines. -/
def realRows (text : Text) : List (List Text) := rowsOf (lines text)

/-- Nothing but white space before the first `#`. -/
def Blank (part : Text) : Prop := ∀ c ∈ beforeComment part, isBlank c = true

/-- The reads of a line are as good as the line: after a read with anything but white space, a
    comment included, only blank reads follow. -/
def Whole (parts : List Text) : Prop :=
  parts.Pairwise fun p q => (Blank p ∧ 0x23 ∉ p) ∨ Blank q

instance (part : Text) : Decidable (Blank part) :=
  inferInstanceAs (Decidable (∀ c ∈ beforeComment part, isBlank c = true))

instance (parts : List Text) : Decidable (Whole parts) :=
  inferInstanceAs (Decidable (parts.Pairwise fun p q => (Blank p ∧ 0x23 ∉ p) ∨ Blank q))

section Rows

variable {p : Text} {parts : List Text}

theorem upToNul_eq (h : 0 ∉ p) : upToNul p = p :=
  List.takeWhile_eq_self_iff.mpr fun _ hc => bne_iff_ne.mpr fun hzero => h (hzero ▸ hc)

theorem rowsOf_cons (p : Text) (parts : List Text) :
    rowsOf (p :: parts) = (if row p = [] then [] else [row p]) ++ rowsOf parts := by
  rw [rowsOf, List.map_cons, List.filter_cons]
  by_cases hblank : row p = []
  · rw [if_pos hblank, if_neg (by simp [hblank])]
    rfl
  · rw [if_neg hblank, if_pos (by simp [hblank])]
    rfl

theorem rowsOf_append (a b : List Text) : rowsOf (a ++ b) = rowsOf a ++ rowsOf b := by
  rw [rowsOf, List.map_append, List.filter_append]
  rfl

/-- A file has no row in reads that are all blank. -/
theorem rowsOf_eq_nil_iff : rowsOf parts = [] ↔ ∀ q ∈ parts, row q = [] := by
  induction parts with
  | nil => simp [rowsOf]
  | cons p parts ih =>
      rw [rowsOf_cons, List.append_eq_nil_iff, ih, List.forall_mem_cons]
      refine and_congr_left fun _ => ?_
      by_cases hblank : row p = []
      · simp [hblank]
      · simp [hblank]

/-- What follows a comment in a line is not read. -/
theorem row_append_of_comment (hnul : 0 ∉ p) {rest : Text} (hrest : 0 ∉ rest) (h : 0x23 ∈ p) :
    row (p ++ rest) = row p := by
  have hall : 0 ∉ p ++ rest := fun hmem => (List.mem_append.mp hmem).elim hnul hrest
  rw [row, row, upToNul_eq hall, upToNul_eq hnul, beforeComment, beforeComment,
    List.takeWhile_append, if_neg]
  intro hlen
  have hself := List.takeWhile_eq_self_iff.mp
    ((List.takeWhile_prefix fun c : UInt8 => c != 0x23).eq_of_length hlen)
  exact absurd (hself _ h) (by decide)

/-- Without a comment, the line goes on. -/
theorem row_append (hnul : 0 ∉ p) {rest : Text} (hrest : 0 ∉ rest) (h : 0x23 ∉ p) :
    row (p ++ rest) = tokens (p ++ beforeComment rest) ∧ row p = tokens p ∧
      row rest = tokens (beforeComment rest) := by
  have hall : 0 ∉ p ++ rest := fun hmem => (List.mem_append.mp hmem).elim hnul hrest
  have hself : beforeComment p = p :=
    List.takeWhile_eq_self_iff.mpr fun _ hc => bne_iff_ne.mpr fun heq => h (heq ▸ hc)
  refine ⟨?_, by rw [row, upToNul_eq hnul, hself], by rw [row, upToNul_eq hrest]⟩
  rw [row, upToNul_eq hall, beforeComment, List.takeWhile_append]
  rw [beforeComment] at hself
  rw [hself, if_pos rfl]
  rfl

/-- Blank reads make a blank line. -/
theorem row_flatten_blank (hnul : 0 ∉ parts.flatten) (h : ∀ q ∈ parts, row q = []) :
    row parts.flatten = [] := by
  induction parts with
  | nil => rfl
  | cons p parts ih =>
      obtain ⟨hp, hparts⟩ := List.forall_mem_cons.mp h
      rw [List.flatten_cons] at hnul ⊢
      obtain ⟨hnulp, hnulrest⟩ := not_or.mp (List.mem_append.not.mp hnul)
      by_cases hcomment : 0x23 ∈ p
      · rw [row_append_of_comment hnulp hnulrest hcomment]
        exact hp
      · obtain ⟨happend, hrow, hrest⟩ := row_append hnulp hnulrest hcomment
        rw [hrow] at hp
        rw [happend, tokens_blank_append ((tokens_eq_nil_iff p).mp hp), ← hrest]
        exact ih hnulrest hparts

theorem row_eq_nil_iff (hnul : 0 ∉ p) : row p = [] ↔ Blank p := by
  rw [row, upToNul_eq hnul, tokens_eq_nil_iff, Blank]

theorem rowsOf_singleton (line : Text) :
    rowsOf [line] = if row line = [] then [] else [row line] := by
  rw [rowsOf_cons]
  exact List.append_nil _

/-- **One line**: its reads give its row exactly when they are `Whole`. -/
theorem rowsOf_eq_iff (hnul : 0 ∉ parts.flatten) :
    rowsOf parts = rowsOf [parts.flatten] ↔ Whole parts := by
  induction parts with
  | nil => exact iff_of_true rfl List.Pairwise.nil
  | cons p parts ih =>
      rw [List.flatten_cons] at hnul ⊢
      obtain ⟨hnulp, hnulrest⟩ := not_or.mp (List.mem_append.not.mp hnul)
      have hrows : (∀ q ∈ parts, row q = []) ↔ ∀ q ∈ parts, Blank q :=
        forall₂_congr fun q hq =>
          row_eq_nil_iff fun hzero => hnulrest (List.mem_flatten.mpr ⟨q, hq, hzero⟩)
      rw [rowsOf_singleton, rowsOf_cons, Whole, List.pairwise_cons]
      by_cases hquiet : Blank p ∧ 0x23 ∉ p
      · -- the read adds nothing, and the line goes on
        obtain ⟨hblank, hcomment⟩ := hquiet
        obtain ⟨happend, hrow, hrest⟩ := row_append hnulp hnulrest hcomment
        have hnone : row p = [] := (row_eq_nil_iff hnulp).mpr hblank
        have hline : row (p ++ parts.flatten) = row parts.flatten := by
          rw [happend, hrest]
          exact tokens_blank_append ((tokens_eq_nil_iff p).mp (hrow ▸ hnone))
        rw [hline, if_pos hnone, List.nil_append, ← rowsOf_singleton, ih hnulrest]
        exact ⟨fun h => ⟨fun _ _ => .inl ⟨hblank, hcomment⟩, h⟩, fun h => h.2⟩
      · -- the row of the line is this read's, and every later read has to be blank
        have hwhole : ((∀ q ∈ parts, (Blank p ∧ 0x23 ∉ p) ∨ Blank q) ∧
            parts.Pairwise fun p q => (Blank p ∧ 0x23 ∉ p) ∨ Blank q) ↔ ∀ q ∈ parts, Blank q := by
          constructor
          · exact fun h q hq => (h.1 q hq).resolve_left hquiet
          · exact fun h => ⟨fun q hq => .inr (h q hq),
              List.pairwise_of_forall_mem_list fun _ _ q hq => .inr (h q hq)⟩
        rw [hwhole, ← hrows, ← rowsOf_eq_nil_iff]
        by_cases hcomment : 0x23 ∈ p
        · rw [row_append_of_comment hnulp hnulrest hcomment, List.append_right_eq_self]
        · obtain ⟨happend, hrow, hrest⟩ := row_append hnulp hnulrest hcomment
          have hsome : row p ≠ [] := fun hnone =>
            hquiet ⟨(row_eq_nil_iff hnulp).mp hnone, hcomment⟩
          have hline : row (p ++ parts.flatten) ≠ [] := by
            intro hnone
            rw [happend] at hnone
            rw [hrow] at hsome
            exact hsome ((tokens_eq_nil_iff p).mpr fun c hc =>
              (tokens_eq_nil_iff _).mp hnone c (List.mem_append_left _ hc))
          rw [if_neg hsome, if_neg hline]
          constructor
          · intro heq
            exact (List.cons.inj heq).2
          · intro hnone
            have hblanks := rowsOf_eq_nil_iff.mp hnone
            have htail : ∀ c ∈ beforeComment parts.flatten, isBlank c = true := by
              rw [← tokens_eq_nil_iff, ← hrest]
              exact row_flatten_blank hnulrest hblanks
            rw [hnone, happend, tokens_append_blank htail, hrow]
            rfl

/-- The reads of a line have at least its rows. -/
theorem length_rowsOf_line (hnul : 0 ∉ parts.flatten) :
    (rowsOf [parts.flatten]).length ≤ (rowsOf parts).length := by
  rw [rowsOf_singleton]
  by_cases hblank : row parts.flatten = []
  · rw [if_pos hblank]
    exact Nat.zero_le _
  · rw [if_neg hblank]
    have hsome : rowsOf parts ≠ [] := fun hnone =>
      hblank (row_flatten_blank hnul (rowsOf_eq_nil_iff.mp hnone))
    exact List.length_pos_iff.mpr hsome

/-! ### A whole file -/

theorem rowsOf_flatMap (f : Text → List Text) (l : List Text) :
    rowsOf (l.flatMap f) = l.flatMap fun line => rowsOf (f line) := by
  induction l with
  | nil => rfl
  | cons line l ih => rw [List.flatMap_cons, rowsOf_append, ih, List.flatMap_cons]

theorem rowsOf_eq_flatMap (l : List Text) : rowsOf l = l.flatMap fun line => rowsOf [line] := by
  induction l with
  | nil => rfl
  | cons line l ih => rw [List.flatMap_cons, ← ih, ← rowsOf_append, List.singleton_append]

/-- Two concatenations whose parts are never shorter in the first are equal part by part. -/
theorem flatMap_eq_iff {α β : Type*} {f g : α → List β} {l : List α}
    (h : ∀ a ∈ l, (g a).length ≤ (f a).length) :
    l.flatMap f = l.flatMap g ↔ ∀ a ∈ l, f a = g a := by
  have hshorter : ∀ l : List α, (∀ a ∈ l, (g a).length ≤ (f a).length) →
      (l.flatMap g).length ≤ (l.flatMap f).length := by
    intro l hl
    induction l with
    | nil => exact le_rfl
    | cons a l ih =>
        obtain ⟨ha, hrest⟩ := List.forall_mem_cons.mp hl
        rw [List.flatMap_cons, List.flatMap_cons, List.length_append, List.length_append]
        exact Nat.add_le_add ha (ih hrest)
  induction l with
  | nil => simp
  | cons a l ih =>
      obtain ⟨ha, hrest⟩ := List.forall_mem_cons.mp h
      rw [List.flatMap_cons, List.flatMap_cons, List.forall_mem_cons]
      constructor
      · intro heq
        have hlen := congrArg List.length heq
        rw [List.length_append, List.length_append] at hlen
        have htail := hshorter l hrest
        obtain ⟨hfirst, hothers⟩ := List.append_inj heq (by omega)
        exact ⟨hfirst, (ih hrest).mp hothers⟩
      · rintro ⟨hfirst, hothers⟩
        rw [hfirst, (ih hrest).mpr hothers]

theorem not_mem_line {text line : Text} {c : UInt8} (h : c ∉ text) (hline : line ∈ lines text) :
    c ∉ line := fun hc =>
  h (flatten_lines text ▸ List.mem_flatten.mpr ⟨line, hline, hc⟩)

/-- **The rows of a file** are those of its lines exactly when the reads of each line are
    `Whole`. -/
theorem fileRows_eq_iff {room : Nat} (hroom : 0 < room) {text : Text} (hnul : 0 ∉ text) :
    fileRows room text = realRows text ↔ ∀ line ∈ lines text, Whole (reads room line) := by
  have hline : ∀ line ∈ lines text, 0 ∉ (reads room line).flatten := fun line hmem => by
    rw [flatten_reads hroom]
    exact not_mem_line hnul hmem
  rw [fileRows, realRows, reads_eq hroom, rowsOf_flatMap, rowsOf_eq_flatMap (lines text),
    flatMap_eq_iff]
  · refine forall₂_congr fun line hmem => ?_
    have hiff := rowsOf_eq_iff (hline line hmem)
    rwa [flatten_reads hroom] at hiff
  · intro line hmem
    have hle := length_rowsOf_line (hline line hmem)
    rwa [flatten_reads hroom] at hle

/-- A line is terminated, or it is the last one. -/
theorem mem_lines {text line : Text} (h : line ∈ lines text) : Terminated line ∨ feed ∉ line := by
  induction hlen : text.length using Nat.strong_induction_on generalizing text with
  | _ n ih =>
      cases text with
      | nil => cases h
      | cons c text =>
          by_cases hfeed : feed ∈ c :: text
          · obtain ⟨front, rest, htext, hfront⟩ := List.eq_append_cons_of_mem hfeed
            have hshort : rest.length < n := by
              rw [← hlen, htext, List.length_append, List.length_cons]
              omega
            rw [htext, lines_terminated hfront, List.mem_cons] at h
            rcases h with rfl | h
            · exact .inl ⟨front, hfront, rfl⟩
            · exact ih _ hshort h rfl
          · rw [lines_unterminated hfeed, List.mem_singleton] at h
            exact .inr (h ▸ hfeed)

/-- A line that fits the buffer is one read. -/
theorem fgets_fits {room : Nat} {line : Text} (h : Terminated line ∨ feed ∉ line)
    (hfits : line.length ≤ room) : fgets room line = (line, []) := by
  induction line generalizing room with
  | nil =>
      cases room with
      | zero => rfl
      | succ room => rfl
  | cons c line ih =>
      obtain ⟨r, rfl⟩ := Nat.exists_eq_succ_of_ne_zero (show room ≠ 0 by
        rw [List.length_cons] at hfits
        omega)
      rw [List.length_cons] at hfits
      rw [fgets]
      by_cases hc : c = feed
      · rw [if_pos hc]
        rcases h with ⟨front, hfront, heq⟩ | hno
        · cases front with
          | nil =>
              cases heq
              rfl
          | cons d front =>
              cases heq
              exact absurd (hc ▸ List.mem_cons_self) hfront
        · exact absurd (hc ▸ List.mem_cons_self) hno
      · have hrest : Terminated line ∨ feed ∉ line := by
          rcases h with ⟨front, hfront, heq⟩ | hno
          · cases front with
            | nil =>
                cases heq
                exact absurd rfl hc
            | cons d front =>
                cases heq
                exact .inl ⟨front, fun hmem => hfront (List.mem_cons_of_mem _ hmem), rfl⟩
          · exact .inr fun hmem => hno (List.mem_cons_of_mem _ hmem)
        rw [if_neg hc, ih hrest (by omega)]

/-- **Short lines**: a file whose lines fit the buffer has the rows of its lines. -/
theorem fileRows_short {room : Nat} (hroom : 0 < room) {text : Text} (hnul : 0 ∉ text)
    (hfits : ∀ line ∈ lines text, line.length ≤ room) : fileRows room text = realRows text := by
  rw [fileRows_eq_iff hroom hnul]
  intro line hmem
  cases line with
  | nil => exact List.Pairwise.nil
  | cons c line =>
      rw [reads_cons hroom, fgets_fits (mem_lines hmem) (hfits _ hmem)]
      exact List.pairwise_singleton _ _

end Rows

/-! ## A loop over the rows of a file -/

section Loop

variable {S : Type*} (body : S → List Text → Option S)

/-- `while (fgets(...))` with a body for the lines that have a token; `none` is the body that
    gives up. -/
def readLoop (room : Nat) : Nat → Text → S → Option S
  | 0, _, st => some st
  | _ + 1, [], st => some st
  | fuel + 1, c :: text, st =>
      let line := fgets room (c :: text)
      if row line.1 = [] then readLoop room fuel line.2 st
      else (body st (row line.1)).bind (readLoop room fuel line.2)

/-- **The loop** runs its body on the rows of the file. -/
theorem readLoop_eq (room fuel : Nat) (text : Text) (st : S) :
    readLoop body room fuel text st = (rowsOf (readsUpTo room fuel text)).foldlM body st := by
  induction fuel generalizing text st with
  | zero => rfl
  | succ fuel ih =>
      cases text with
      | nil => rfl
      | cons c text =>
          rw [readLoop, readsUpTo, rowsOf_cons]
          by_cases hblank : row (fgets room (c :: text)).1 = []
          · rw [if_pos hblank, if_pos hblank, ih]
            rfl
          · rw [if_neg hblank, if_neg hblank, List.singleton_append, List.foldlM_cons]
            exact congrArg _ (funext fun st' => ih _ _)

end Loop

/-! ## Numbers -/

/-- `isspace`. -/
def isSpace (c : UInt8) : Bool := c == 0x20 || (0x09 ≤ c && c ≤ 0x0D)

/-- The value of a digit in a base. -/
def digitOf (base : Nat) (c : UInt8) : Option Nat :=
  if 0x30 ≤ c ∧ c ≤ 0x39 then some (c.toNat - 0x30) |>.filter (· < base)
  else if 0x61 ≤ c ∧ c ≤ 0x7A then some (c.toNat - 0x61 + 10) |>.filter (· < base)
  else if 0x41 ≤ c ∧ c ≤ 0x5A then some (c.toNat - 0x41 + 10) |>.filter (· < base)
  else none

/-- The digits at the front, after the value `v`, and what follows them. -/
def readDigits (base : Nat) : Text → Nat → Nat × Text
  | [], v => (v, [])
  | c :: text, v =>
      match digitOf base c with
      | none => (v, c :: text)
      | some d => readDigits base text (v * base + d)

/-- The sign, and what follows it. -/
def readSign : Text → Bool × Text
  | 0x2D :: text => (true, text)
  | 0x2B :: text => (false, text)
  | text => (false, text)

/-- What follows `0x`, when that is a hex digit. -/
def afterHexPrefix : Text → Option Text
  | 0x30 :: x :: d :: text =>
      if (x = 0x78 ∨ x = 0x58) ∧ (digitOf 16 d).isSome then some (d :: text) else none
  | _ => none

/-- The base that the prefix of a number gives, for a call with base 0 or 16, and the digits. -/
def readBase (base : Nat) (text : Text) : Nat × Text :=
  if base = 0 ∨ base = 16 then
    match afterHexPrefix text with
    | some digits => (16, digits)
    | none => (if base = 16 then 16 else if text.head? = some 0x30 then 8 else 10, text)
  else (base, text)

/-- `strtoul`, for a largest `unsigned long`: the value and the rest of the text; `none` is a
    text without a number at its front. -/
def strtoul (ulongMax : Nat) (text : Text) (base : Nat) : Option (Nat × Text) :=
  let signed := readSign (text.dropWhile isSpace)
  let based := readBase base signed.2
  if (based.2.head?.bind (digitOf based.1)).isNone then none
  else
    let number := readDigits based.1 based.2 0
    some (if number.1 > ulongMax then ulongMax
      else if signed.1 then (ulongMax + 1 - number.1) % (ulongMax + 1) else number.1, number.2)

/-- A token that is a number from end to end. -/
def wholeNumber (ulongMax : Nat) (token : Text) (base : Nat) : Option Nat :=
  match strtoul ulongMax token base with
  | some (v, []) => some v
  | _ => none

end CText
