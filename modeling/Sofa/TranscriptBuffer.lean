import Sofa.Asym
import Sofa.Lib.Buffer

/-! # The transcript in its buffer

    `fbsec_asym_transcript` writes through a pointer and returns a length of 16 bits.  The
    length is computed before it is compared with the capacity, and the sum wraps.

    * `read_transcriptInto`: the bytes below the returned length are those of
      `asymTranscript`, which the rest of the development signs and verifies;
    * **`transcript_law_iff`**: all or nothing, exactly when the sum does not wrap, or wraps to
      more than the capacity.

    `transcript_overrun` is a call that reports one byte and writes 65537. -/

namespace SofaTranscriptBuffer

open SofaAsym FixedBuffer

/-! ## The call -/

/-- The bytes of a transcript: domain, zero, algorithm, role, body. -/
def transcriptBytes (role : UInt8) (body : List UInt8) : List UInt8 :=
  asymDomain ++ [0x00] ++ [asymSigAlg] ++ [role] ++ body

theorem length_transcriptBytes (role : UInt8) (body : List UInt8) :
    (transcriptBytes role body).length = asymTranscriptOverhead + body.length := by
  rw [transcriptBytes, List.length_append]
  rfl

/-- `fbsec_asym_transcript`: the returned length, and the memory from `out` on, of which `n`
    bytes are looked at.  They need not end where the caller's buffer ends. -/
def transcriptInto {n : Nat} (role : UInt8) (body : List UInt8) (outMax : UInt16)
    (out : Fin n → UInt8) : UInt16 × (Fin n → UInt8) :=
  let total := UInt16.ofNat (asymTranscriptOverhead + body.length)
  if outMax < total then (0, out)
  else
    let out := store out 0 asymDomain
    let out := store out 12 [0x00]
    let out := store out 13 [asymSigAlg]
    let out := store out 14 [role]
    let out := if body.length ≠ 0 then store out 15 body else out
    (total, out)

/-- Past the check everything is written, whatever was checked. -/
theorem transcriptInto_eq {n : Nat} (role : UInt8) (body : List UInt8) (outMax : UInt16)
    (out : Fin n → UInt8) : transcriptInto role body outMax out =
      if outMax.toNat < (asymTranscriptOverhead + body.length) % 2 ^ 16 then (0, out)
      else (UInt16.ofNat (asymTranscriptOverhead + body.length),
        store out 0 (transcriptBytes role body)) := by
  have hbody : ∀ mem : Fin n → UInt8, (if body.length ≠ 0 then store mem 15 body else mem)
      = store mem 15 body := by
    intro mem
    by_cases h : body.length ≠ 0
    · rw [if_pos h]
    · rw [if_neg h, List.length_eq_zero_iff.mp (not_not.mp h), store_nil]
  have hwrites : store (store (store (store (store out 0 asymDomain) 12 [0x00]) 13
      [asymSigAlg]) 14 [role]) 15 body = store out 0 (transcriptBytes role body) := by
    have h12 := store_append out 0 asymDomain [0x00]
    have h13 := store_append out 0 (asymDomain ++ [0x00]) [asymSigAlg]
    have h14 := store_append out 0 (asymDomain ++ [0x00] ++ [asymSigAlg]) [role]
    have h15 := store_append out 0 (asymDomain ++ [0x00] ++ [asymSigAlg] ++ [role]) body
    rw [transcriptBytes, ← h15, ← h14, ← h13, ← h12]
    rfl
  have hcheck : outMax < UInt16.ofNat (asymTranscriptOverhead + body.length) ↔
      outMax.toNat < (asymTranscriptOverhead + body.length) % 2 ^ 16 := by
    rw [UInt16.lt_iff_toNat_lt, UInt16.toNat_ofNat']
  show (if outMax < UInt16.ofNat (asymTranscriptOverhead + body.length) then (0, out)
    else (_, if body.length ≠ 0 then store _ 15 body else _)) = _
  rw [hbody, hwrites]
  simp only [hcheck]

/-- Where a byte of the body is stored. -/
theorem store_body {n : Nat} (mem : Fin n → UInt8) (role : UInt8) {body : List UInt8} {k : Nat}
    (h : k < body.length) (hn : asymTranscriptOverhead + k < n) :
    store mem 0 (transcriptBytes role body) ⟨asymTranscriptOverhead + k, hn⟩ = body[k] := by
  have hhead : (asymDomain ++ [0x00] ++ [asymSigAlg] ++ [role]).length
      = asymTranscriptOverhead := rfl
  have hin : asymTranscriptOverhead + k < (transcriptBytes role body).length := by
    rw [length_transcriptBytes]
    omega
  rw [store_apply mem (Nat.zero_le _) (by simpa using hin)]
  simp only [Nat.sub_zero, transcriptBytes]
  rw [List.getElem_append_right (by rw [hhead]; omega)]
  simp only [hhead, Nat.add_sub_cancel_left]

/-- **What a caller signs**: the bytes below the returned length. -/
theorem read_transcriptInto {n : Nat} (role : UInt8) (body : List UInt8) (outMax : UInt16)
    (out : Fin n → UInt8) (hn : (transcriptInto role body outMax out).1.toNat ≤ n) :
    load (transcriptInto role body outMax out).2 0 (transcriptInto role body outMax out).1.toNat
      = asymTranscript role body outMax.toNat := by
  revert hn
  rw [transcriptInto_eq, asymTranscript]
  split
  · exact fun _ => rfl
  · intro hn
    have hlen : (asymTranscriptOverhead + body.length) % 2 ^ 16
        ≤ (transcriptBytes role body).length := by
      rw [length_transcriptBytes]
      exact Nat.mod_le _ _
    have hbytes : transcriptBytes role body = asymDomain ++ [0x00, asymSigAlg, role] ++ body := by
      simp [transcriptBytes]
    dsimp only at hn ⊢
    rw [UInt16.toNat_ofNat'] at hn ⊢
    rw [load_store_take _ hlen hn, hbytes]

/-! ## The law -/

/-- All or nothing: nothing, when the capacity is smaller than the transcript, and the
    transcript with its length otherwise. -/
structure TranscriptLaw (role : UInt8) (body : List UInt8) (outMax : UInt16) : Prop where
  refused : outMax.toNat < asymTranscriptOverhead + body.length →
    ∀ (n : Nat) (out : Fin n → UInt8), transcriptInto role body outMax out = (0, out)
  built : asymTranscriptOverhead + body.length ≤ outMax.toNat →
    ∀ (n : Nat) (out : Fin n → UInt8),
      (transcriptInto role body outMax out).1.toNat = asymTranscriptOverhead + body.length ∧
        (transcriptInto role body outMax out).2 = store out 0 (transcriptBytes role body)

/-- **The law holds, exactly** when the length does not wrap, or the capacity is smaller than
    what it wraps to. -/
theorem transcript_law_iff (role : UInt8) (body : List UInt8) (hbody : body.length < 2 ^ 16)
    (outMax : UInt16) : TranscriptLaw role body outMax ↔
      body.length ≤ 65520 ∨ outMax.toNat < asymTranscriptOverhead + body.length - 2 ^ 16 := by
  have hmax : outMax.toNat < 2 ^ 16 := outMax.toNat_lt
  have hover : asymTranscriptOverhead = 15 := rfl
  constructor
  · intro hlaw
    by_contra hno
    rw [not_or, not_le, not_lt] at hno
    -- the check passes on the wrapped length, and the first byte is written
    have hwrap : (asymTranscriptOverhead + body.length) % 2 ^ 16
        = asymTranscriptOverhead + body.length - 2 ^ 16 := by omega
    have hrun := hlaw.refused (by omega) 1 fun _ => 0
    rw [transcriptInto_eq, if_neg (by rw [hwrap]; omega)] at hrun
    have hfirst : store (fun _ : Fin 1 => (0 : UInt8)) 0 (transcriptBytes role body) 0 = 0 :=
      congrFun (congrArg Prod.snd hrun) 0
    have hlen : 0 < (transcriptBytes role body).length := by
      rw [length_transcriptBytes]
      omega
    have hbyte : store (fun _ : Fin 1 => (0 : UInt8)) 0 (transcriptBytes role body) 0
        = asymDomain.getD 0 0 := store_apply _ (Nat.zero_le _) hlen
    rw [hbyte] at hfirst
    exact absurd hfirst (by decide)
  · intro hcond
    refine ⟨fun hsmall n out => ?_, fun hfits n out => ?_⟩
    · rw [transcriptInto_eq, if_pos]
      rcases hcond with hshort | hwrapped <;> omega
    · have hnowrap : (asymTranscriptOverhead + body.length) % 2 ^ 16
          = asymTranscriptOverhead + body.length := by omega
      rw [transcriptInto_eq, if_neg (by omega)]
      exact ⟨by rw [UInt16.toNat_ofNat', hnowrap], rfl⟩

/-! ## Worked runs -/

/-- `transcript_law_iff` for a body that fits its buffer. -/
theorem sampleTranscript_law : TranscriptLaw roleVoucher [1, 2, 3, 4] 32 :=
  (transcript_law_iff roleVoucher [1, 2, 3, 4] (by decide) 32).mpr (.inl (by decide))

/-- Past the last body length that fits 16 bits together with the overhead, the length that is
    reported is what is left after the wrap. -/
theorem wrapped_run {n : Nat} (role : UInt8) {body : List UInt8} {left : UInt16}
    {outMax : UInt16} (hlen : asymTranscriptOverhead + body.length = 2 ^ 16 + left.toNat)
    (hmax : left ≤ outMax) (out : Fin n → UInt8) : transcriptInto role body outMax out
      = (left, store out 0 (transcriptBytes role body)) := by
  have hleft : (2 ^ 16 + left.toNat) % 2 ^ 16 = left.toNat := by
    rw [Nat.add_mod_left]
    exact Nat.mod_eq_of_lt left.toNat_lt
  have hreported : UInt16.ofNat (asymTranscriptOverhead + body.length) = left := by
    rw [← UInt16.toNat_inj, UInt16.toNat_ofNat', hlen, hleft]
  have hmax' := UInt16.le_iff_toNat_le.mp hmax
  rw [transcriptInto_eq, hreported, hlen, hleft, if_neg (by omega)]

/-- A body of 65522 bytes. -/
def sampleLongBody : List UInt8 := List.replicate 65522 0xAA

theorem length_sampleLongBody : sampleLongBody.length = 65522 := List.length_replicate

theorem getElem_sampleLongBody {k : Nat} (hk : k < sampleLongBody.length) :
    sampleLongBody[k] = 0xAA := List.getElem_replicate _

/-- **An overrun**: for 65522 bytes of body and a buffer of 64, the call returns 1, and has
    written past the buffer. -/
theorem transcript_overrun :
    (∀ (n : Nat) (out : Fin n → UInt8) (hn : 64 < n),
      (transcriptInto roleVoucher sampleLongBody 64 out).1 = 1 ∧
        (transcriptInto roleVoucher sampleLongBody 64 out).2 ⟨64, hn⟩ = 0xAA) ∧
      ¬ TranscriptLaw roleVoucher sampleLongBody 64 := by
  have hrun : ∀ {n : Nat} (out : Fin n → UInt8), transcriptInto roleVoucher sampleLongBody 64 out
      = (1, store out 0 (transcriptBytes roleVoucher sampleLongBody)) :=
    wrapped_run roleVoucher (by rw [length_sampleLongBody]; rfl) (by decide)
  refine ⟨fun n out hn => ⟨by rw [hrun], ?_⟩, fun hlaw => ?_⟩
  · -- byte 49 of the body is the first one past the buffer
    have hshort : 49 < sampleLongBody.length := by
      rw [length_sampleLongBody]
      decide
    rw [hrun]
    exact (store_body out roleVoucher hshort hn).trans (getElem_sampleLongBody hshort)
  · have hrefused := hlaw.refused (by rw [length_sampleLongBody]; decide) 0 fun _ => 0
    rw [hrun] at hrefused
    exact absurd (congrArg Prod.fst hrefused) (by decide)

end SofaTranscriptBuffer
