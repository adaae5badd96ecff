import Sofa.Framing

/-! # The decoder on a frame in memory

    A receiver decodes into the frame that it has on its stack, of which only the received
    bytes were written.  The decoder reads the payload at fixed places and points into it.

    * `decode_toFrame`: on the received bytes it is the decoder of the rest of the development;
    * **`decode_within`**: it looks at nothing else. -/

namespace SofaUsdoRaw

open SofaConfig SofaDevice SofaUsdo SofaFraming FixedBuffer

/-! ## The decoder -/

/-- A byte of the payload array. -/
def byteAt (f : RawFrame) (i : Nat) : UInt8 := if h : i < 64 then f.payload ⟨i, h⟩ else 0

/-- `fbsec_co_fd_usdo_pdu_t`; the data is where it begins in the payload of the frame, if there is
    any. -/
structure RawPdu where
  srcNode : UInt8
  dstNode : UInt8
  cmd : UInt8
  session : UInt8
  index : UInt16 := 0
  subindex : UInt8 := 0
  muxValid : Bool := false
  counter : UInt8 := 0
  totalSize : UInt32 := 0
  dataType : UInt8 := 0
  abortCode : Abort := abortNone
  dataLen : Nat := 0
  data : Option Nat := none
  deriving DecidableEq

/-- The result, `none` for `OK`, and the PDU as far as it was filled. -/
abbrev Decoded := Option DecodeError × RawPdu

/-- The data block of a frame with a multiplexor. -/
def decodeDataBlock (f : RawFrame) (pdu : RawPdu) : Decoded :=
  if f.len.toNat < usdoHeaderSize + usdoDataPrefixSize then (some .frameTooShort, pdu)
  else
    let pdu := { pdu with dataType := byteAt f 6, dataLen := (byteAt f 7).toNat }
    if pdu.dataLen > usdoDataMax then (some .badCmd, pdu)
    else if f.len.toNat < usdoHeaderSize + usdoDataPrefixSize + pdu.dataLen then
      (some .frameTooShort, pdu)
    else (none, { pdu with data := if pdu.dataLen > 0 then some 8 else none })

/-- The initiate frames. -/
def decodeInitBlock (f : RawFrame) (pdu : RawPdu) : Decoded :=
  if f.len.toNat < usdoInitSize then (some .frameTooShort, pdu)
  else
    let pdu := { pdu with
      dataType := byteAt f 6
      totalSize := getU32le (byteAt f 8) (byteAt f 9) (byteAt f 10) (byteAt f 11) }
    if pdu.totalSize == 0 || pdu.totalSize.toNat > usdoSegBodyMax then (some .badSegment, pdu)
    else (none, pdu)

/-- The frames with a multiplexor. -/
def decodeRawMux (f : RawFrame) (pdu : RawPdu) : Decoded :=
  if f.len.toNat < usdoHeaderSize then (some .frameTooShort, pdu)
  else
    let pdu := { pdu with
      subindex := byteAt f 3
      index := getU16le (byteAt f 4) (byteAt f 5)
      muxValid := true }
    if pdu.index < 0x1000 then (some .badIndex, pdu)
    else if pdu.cmd == cmdDownloadInitReq || pdu.cmd == cmdUploadInitResp then
      decodeInitBlock f pdu
    else if pdu.cmd == cmdDownloadInitResp then (none, pdu)
    else if cmdMustHaveData pdu.cmd
        || (pdu.cmd == cmdDownloadResp && f.len.toNat > usdoHeaderSize) then
      decodeDataBlock f pdu
    else (none, pdu)

/-- A segment that is not the last one. -/
def decodeRawSegment (f : RawFrame) (pdu : RawPdu) : Decoded :=
  if f.len.toNat < payloadMax then (some .badSegment, pdu)
  else (none, { pdu with
    counter := byteAt f 3, dataLen := usdoSegDataMax, data := some usdoSegHeaderSize })

/-- The last segment: byte 3 is the length. -/
def decodeRawEnd (f : RawFrame) (pdu : RawPdu) : Decoded :=
  if f.len.toNat < usdoSegHeaderSize then (some .frameTooShort, pdu)
  else
    let pdu := { pdu with counter := byteAt f 3, dataLen := (byteAt f 3).toNat }
    if pdu.dataLen > usdoSegDataMax then (some .badSegment, pdu)
    else if f.len.toNat < usdoSegHeaderSize + pdu.dataLen then (some .frameTooShort, pdu)
    else (none, { pdu with data := if pdu.dataLen > 0 then some usdoSegHeaderSize else none })

/-- The acknowledgement of a segment, and the request of one. -/
def decodeRawCounter (f : RawFrame) (pdu : RawPdu) : Decoded :=
  if f.len.toNat < usdoSegHeaderSize then (some .frameTooShort, pdu)
  else (none, { pdu with counter := byteAt f 3 })

/-- An abort. -/
def decodeRawAbort (f : RawFrame) (pdu : RawPdu) : Decoded :=
  if f.len.toNat < usdoAbortSize then (some .badAbortLen, pdu)
  else (none, { pdu with
    subindex := byteAt f 3
    index := getU16le (byteAt f 4) (byteAt f 5)
    muxValid := true
    abortCode := byteAt f usdoAbortAcOffset })

/-- The switch over the command specifier. -/
def decodeRawBody (f : RawFrame) (pdu : RawPdu) : Decoded :=
  if pdu.cmd == cmdDownloadSegReq || pdu.cmd == cmdUploadSegResp then decodeRawSegment f pdu
  else if pdu.cmd == cmdDownloadEndReq || pdu.cmd == cmdUploadEndResp then decodeRawEnd f pdu
  else if pdu.cmd == cmdDownloadSegResp || pdu.cmd == cmdUploadSegReq then decodeRawCounter f pdu
  else if pdu.cmd == cmdDownloadEndResp then (none, pdu)
  else if pdu.cmd == cmdAbort then decodeRawAbort f pdu
  else decodeRawMux f pdu

/-- `fbsec_co_fd_usdo_decode` into a PDU. -/
def decodeRaw (f : RawFrame) (pdu : RawPdu) : Decoded :=
  let split := canIdSplit (f.canId &&& canIdValue)
  if split.2 = .none then (some .notUsdo, pdu)
  else if f.len.toNat < usdoEndRespSize then (some .frameTooShort, pdu)
  else if !validNode (byteAt f 0) then (some .reservedNode, pdu)
  else if !cmdIsKnown (byteAt f 1) then (some .badCmd, pdu)
  else decodeRawBody f
    { srcNode := split.1, dstNode := byteAt f 0, cmd := byteAt f 1, session := byteAt f 2 }

/-- The data bytes of a PDU. -/
def dataBytes (f : RawFrame) (pdu : RawPdu) : List UInt8 :=
  match pdu.data with
  | none => []
  | some off => load f.payload off pdu.dataLen

/-! ## The bytes that are read -/

section Within

variable {f g : RawFrame} {pdu : RawPdu}

/-- Two frames with the same id, the same length and the same bytes below it. -/
structure Agree (f g : RawFrame) : Prop where
  canId : f.canId = g.canId
  len : f.len = g.len
  bytes : ∀ i : Fin 64, i.val < f.len.toNat → f.payload i = g.payload i

theorem Agree.byteAt (h : Agree f g) {i : Nat} (hi : i < f.len.toNat) : byteAt f i = byteAt g i := by
  rw [SofaUsdoRaw.byteAt, SofaUsdoRaw.byteAt]
  by_cases h64 : i < 64
  · rw [dif_pos h64, dif_pos h64]
    exact h.bytes ⟨i, h64⟩ hi
  · rw [dif_neg h64, dif_neg h64]

/-- A branch that is taken below a length reads the same in both frames. -/
theorem guarded {k : Nat} {short : Decoded} {a b : Decoded} (h : Agree f g)
    (hab : k ≤ f.len.toNat → a = b) :
    (if f.len.toNat < k then short else a) = if g.len.toNat < k then short else b := by
  rw [← h.len]
  exact ite_congr rfl (fun _ => rfl) fun hlong => hab (Nat.le_of_not_lt hlong)

theorem decodeDataBlock_agree (h : Agree f g) (pdu : RawPdu) :
    decodeDataBlock f pdu = decodeDataBlock g pdu := by
  refine guarded h fun hlen => ?_
  have hlong : 8 ≤ f.len.toNat := hlen
  rw [h.byteAt (show 6 < f.len.toNat by omega), h.byteAt (show 7 < f.len.toNat by omega), h.len]

theorem decodeInitBlock_agree (h : Agree f g) (pdu : RawPdu) :
    decodeInitBlock f pdu = decodeInitBlock g pdu := by
  refine guarded h fun hlen => ?_
  have hlong : 12 ≤ f.len.toNat := hlen
  rw [h.byteAt (show 6 < f.len.toNat by omega), h.byteAt (show 8 < f.len.toNat by omega),
    h.byteAt (show 9 < f.len.toNat by omega), h.byteAt (show 10 < f.len.toNat by omega),
    h.byteAt (show 11 < f.len.toNat by omega)]

theorem decodeRawMux_agree (h : Agree f g) (pdu : RawPdu) :
    decodeRawMux f pdu = decodeRawMux g pdu := by
  refine guarded h fun hlen => ?_
  have hlong : 6 ≤ f.len.toNat := hlen
  rw [h.byteAt (show 3 < f.len.toNat by omega), h.byteAt (show 4 < f.len.toNat by omega),
    h.byteAt (show 5 < f.len.toNat by omega)]
  simp only [h.len, decodeDataBlock_agree h, decodeInitBlock_agree h]

theorem decodeRawBody_agree (h : Agree f g) (pdu : RawPdu) :
    decodeRawBody f pdu = decodeRawBody g pdu := by
  have hsegment : decodeRawSegment f pdu = decodeRawSegment g pdu := by
    refine guarded h fun hlen => ?_
    have hlong : 64 ≤ f.len.toNat := hlen
    rw [h.byteAt (show 3 < f.len.toNat by omega)]
  have hend : decodeRawEnd f pdu = decodeRawEnd g pdu := by
    refine guarded h fun hlen => ?_
    have hlong : 4 ≤ f.len.toNat := hlen
    rw [h.byteAt (show 3 < f.len.toNat by omega), h.len]
  have hcounter : decodeRawCounter f pdu = decodeRawCounter g pdu := by
    refine guarded h fun hlen => ?_
    have hlong : 4 ≤ f.len.toNat := hlen
    rw [h.byteAt (show 3 < f.len.toNat by omega)]
  have habort : decodeRawAbort f pdu = decodeRawAbort g pdu := by
    refine guarded h fun hlen => ?_
    have hlong : 7 ≤ f.len.toNat := hlen
    rw [h.byteAt (show 3 < f.len.toNat by omega), h.byteAt (show 4 < f.len.toNat by omega),
      h.byteAt (show 5 < f.len.toNat by omega), h.byteAt (show 6 < f.len.toNat by omega)]
  rw [decodeRawBody, decodeRawBody, hsegment, hend, hcounter, habort, decodeRawMux_agree h]

/-- **Nothing else is read**: two such frames are decoded alike, into the same PDU. -/
theorem decodeRaw_agree (h : Agree f g) (pdu : RawPdu) : decodeRaw f pdu = decodeRaw g pdu := by
  rw [decodeRaw, decodeRaw, h.canId]
  refine ite_congr rfl (fun _ => rfl) fun _ => guarded h fun hlen => ?_
  have hlong : 3 ≤ f.len.toNat := hlen
  rw [h.byteAt (show 0 < f.len.toNat by omega), h.byteAt (show 1 < f.len.toNat by omega),
    h.byteAt (show 2 < f.len.toNat by omega), decodeRawBody_agree h]

/-! ### The data -/

/-- A result whose data, if it is `OK`, is among the bytes that count. -/
def Inside (f : RawFrame) (out : Decoded) : Prop :=
  out.1 = none → ∀ off, out.2.data = some off → off + out.2.dataLen ≤ f.len.toNat

theorem inside_error (e : DecodeError) (p : RawPdu) : Inside f (some e, p) := fun h => nomatch h

theorem inside_none {p : RawPdu} (h : p.data = none) : Inside f (none, p) := by
  intro _ off hoff
  rw [h] at hoff
  cases hoff

theorem inside_some {p : RawPdu} {o : Nat} (hdata : p.data = none ∨ p.data = some o)
    (h : o + p.dataLen ≤ f.len.toNat) : Inside f (none, p) := by
  intro _ off hoff
  rcases hdata with hnone | hsome
  · rw [hnone] at hoff
    cases hoff
  · rw [hsome] at hoff
    cases hoff
    exact h

theorem decodeDataBlock_inside (f : RawFrame) (pdu : RawPdu) : Inside f (decodeDataBlock f pdu) := by
  unfold decodeDataBlock
  dsimp only
  split
  · exact inside_error _ _
  · split
    · exact inside_error _ _
    · split
      · exact inside_error _ _
      · rename_i hlong
        refine inside_some (o := 8) ?_ (Nat.le_of_not_lt hlong)
        dsimp only
        split
        · exact .inr rfl
        · exact .inl rfl

theorem decodeRawEnd_inside (f : RawFrame) (pdu : RawPdu) : Inside f (decodeRawEnd f pdu) := by
  unfold decodeRawEnd
  dsimp only
  split
  · exact inside_error _ _
  · split
    · exact inside_error _ _
    · split
      · exact inside_error _ _
      · rename_i hlong
        refine inside_some (o := usdoSegHeaderSize) ?_ (Nat.le_of_not_lt hlong)
        dsimp only
        split
        · exact .inr rfl
        · exact .inl rfl

theorem decodeRawMux_inside (f : RawFrame) {pdu : RawPdu} (h : pdu.data = none) :
    Inside f (decodeRawMux f pdu) := by
  unfold decodeRawMux decodeInitBlock
  dsimp only
  repeat' split
  all_goals first
    | exact inside_error _ _
    | exact inside_none h
    | exact decodeDataBlock_inside _ _

/-- **The data of a PDU** that is decoded is among the bytes that count. -/
theorem decodeRaw_inside (f : RawFrame) (pdu : RawPdu) : Inside f (decodeRaw f pdu) := by
  have hbody : ∀ p : RawPdu, p.data = none → Inside f (decodeRawBody f p) := by
    intro p hp
    unfold decodeRawBody
    split
    · unfold decodeRawSegment
      split
      · exact inside_error _ _
      · rename_i hlong
        exact inside_some (.inr rfl) (Nat.le_of_not_lt hlong)
    · split
      · exact decodeRawEnd_inside f p
      · unfold decodeRawCounter decodeRawAbort
        repeat' split
        all_goals first
          | exact inside_error _ _
          | exact inside_none hp
          | exact decodeRawMux_inside f hp
  unfold decodeRaw
  dsimp only
  repeat' split
  all_goals first
    | exact inside_error _ _
    | exact hbody _ rfl

/-- **Decoding stays within the received bytes**: frames that agree on them give the same result,
    the same PDU and the same data, and the data of a decoded PDU lies among them. -/
theorem decode_within (f g : RawFrame) (pdu : RawPdu) (h : Agree f g) :
    decodeRaw f pdu = decodeRaw g pdu ∧
    ((decodeRaw f pdu).1 = none →
      dataBytes f (decodeRaw f pdu).2 = dataBytes g (decodeRaw g pdu).2) ∧
    ((decodeRaw f pdu).1 = none → ∀ off, (decodeRaw f pdu).2.data = some off →
      off + (decodeRaw f pdu).2.dataLen ≤ f.len.toNat) := by
  refine ⟨decodeRaw_agree h pdu, fun hok => ?_, decodeRaw_inside f pdu⟩
  rw [← decodeRaw_agree h pdu, dataBytes, dataBytes]
  cases hdata : (decodeRaw f pdu).2.data with
  | none => rfl
  | some off =>
      have hin := decodeRaw_inside f pdu hok off hdata
      exact load_congr fun i hi hlow hhigh => h.bytes ⟨i, hi⟩ (by dsimp only; omega)

/-- A download request of two data bytes, in a frame that holds `stale` behind them. -/
def sampleRequest (stale : UInt8) : RawFrame where
  canId := 0x601
  flags := flagBrs
  len := 10
  payload i := [0x02, cmdDownloadReq, 0x07, 0x00, 0x19, 0xC0, typeDomain, 0x02, 0xAA, 0xBB].getD i
    stale

/-- `decode_within` for two frames that hold different bytes behind the request. -/
theorem sampleRequest_within :
    decodeRaw (sampleRequest 0x00) ⟨0, 0, 0, 0, 0, 0, false, 0, 0, 0, 0, 0, none⟩
      = decodeRaw (sampleRequest 0xFF) ⟨0, 0, 0, 0, 0, 0, false, 0, 0, 0, 0, 0, none⟩ := by
  have hagree : Agree (sampleRequest 0x00) (sampleRequest 0xFF) :=
    ⟨rfl, rfl, by decide +kernel⟩
  exact (decode_within _ _ _ hagree).1

/-- And what both are decoded to. -/
example : dataBytes (sampleRequest 0xFF)
    (decodeRaw (sampleRequest 0xFF) ⟨0, 0, 0, 0, 0, 0, false, 0, 0, 0, 0, 0, none⟩).2
    = [0xAA, 0xBB] := by decide +kernel

end Within

/-! ## The decoder of the other modules -/

section Refines

variable {f : RawFrame}

/-- The frame of the received bytes. -/
def toFrame (f : RawFrame) : Frame := ⟨f.canId, f.flags, f.data⟩

/-- The PDU with its data bytes. -/
def toPdu (f : RawFrame) (p : RawPdu) : Pdu where
  srcNode := p.srcNode
  dstNode := p.dstNode
  cmd := p.cmd
  session := p.session
  index := p.index
  subindex := p.subindex
  muxValid := p.muxValid
  counter := p.counter
  totalSize := p.totalSize
  dataType := p.dataType
  abortCode := p.abortCode
  data := dataBytes f p

/-- The result with the data bytes. -/
def toResult (f : RawFrame) (out : Decoded) : Except DecodeError Pdu :=
  match out.1 with
  | some e => .error e
  | none => .ok (toPdu f out.2)

theorem byte_toFrame (hlen : f.len.toNat ≤ 64) {i : Nat} (hi : i < f.len.toNat) :
    (toFrame f).byte i = byteAt f i := by
  rw [Frame.byte, toFrame, RawFrame.data, List.getD_eq_getElem?_getD, getElem?_load _ (by omega),
    dif_pos hi, byteAt, dif_pos (by omega)]
  simp

theorem length_toFrame (hlen : f.len.toNat ≤ 64) : (toFrame f).payload.length = f.len.toNat :=
  length_load f.payload (by omega)

/-- A window of the received bytes. -/
theorem window_toFrame (hlen : f.len.toNat ≤ 64) {off n : Nat} (h : off + n ≤ f.len.toNat) :
    ((toFrame f).payload.drop off).take n = load f.payload off n :=
  (load_of_front f.payload rfl hlen h).symm

/-- An error behind a length check. -/
theorem toResult_short {n k : Nat} {e : DecodeError} {p : RawPdu} {out : Decoded}
    {r : Except DecodeError Pdu} (h : k ≤ n → r = toResult f out) :
    (if n < k then .error e else r) = toResult f (if n < k then (some e, p) else out) := by
  by_cases hshort : n < k
  · rw [if_pos hshort, if_pos hshort]
    rfl
  · rw [if_neg hshort, if_neg hshort]
    exact h (Nat.le_of_not_lt hshort)

/-- Two branches that correspond. -/
theorem toResult_ite {c : Prop} [Decidable c] {a b : Decoded} {r t : Except DecodeError Pdu}
    (ha : c → r = toResult f a) (hb : ¬ c → t = toResult f b) :
    (if c then r else t) = toResult f (if c then a else b) := by
  by_cases h : c
  · rw [if_pos h, if_pos h]
    exact ha h
  · rw [if_neg h, if_neg h]
    exact hb h

theorem decodeMux_toFrame (hlen : f.len.toNat ≤ 64) (p : RawPdu) :
    decodeMux (toFrame f) (toPdu f p) = toResult f (decodeRawMux f p) := by
  rw [decodeMux, decodeRawMux, length_toFrame hlen]
  refine toResult_short fun hlong => ?_
  have h6 : 6 ≤ f.len.toNat := hlong
  rw [byte_toFrame hlen (show 3 < _ by omega), byte_toFrame hlen (show 4 < _ by omega),
    byte_toFrame hlen (show 5 < _ by omega)]
  refine toResult_ite (fun _ => rfl) fun _ => toResult_ite (fun _ => ?_) fun _ =>
    toResult_ite (fun _ => ?_) fun _ => toResult_ite (fun _ => ?_) fun _ => ?_
  · rw [decodeInitBlock]
    refine toResult_short fun hinit => ?_
    have h12 : 12 ≤ f.len.toNat := hinit
    rw [byte_toFrame hlen (show 6 < _ by omega), byte_toFrame hlen (show 8 < _ by omega),
      byte_toFrame hlen (show 9 < _ by omega), byte_toFrame hlen (show 10 < _ by omega),
      byte_toFrame hlen (show 11 < _ by omega)]
    exact toResult_ite (fun _ => rfl) fun _ => rfl
  · rfl
  · rw [decodeDataBlock]
    refine toResult_short fun hblock => ?_
    have h8 : 8 ≤ f.len.toNat := hblock
    rw [byte_toFrame hlen (show 6 < _ by omega), byte_toFrame hlen (show 7 < _ by omega)]
    refine toResult_ite (fun _ => rfl) fun _ => toResult_short fun hdata => ?_
    have hwin : 8 + (byteAt f 7).toNat ≤ f.len.toNat := hdata
    rw [window_toFrame hlen hwin]
    -- a block of no bytes has no place
    by_cases hsome : (byteAt f 7).toNat > 0
    · simp only [if_pos hsome]
      rfl
    · have hzero : (byteAt f 7).toNat = 0 := Nat.eq_zero_of_not_pos hsome
      simp only [hzero, load_zero]
      rfl
  · rfl

theorem decodeBody_toFrame (hlen : f.len.toNat ≤ 64) (p : RawPdu) :
    decodeBody (toFrame f) (toPdu f p) = toResult f (decodeRawBody f p) := by
  rw [decodeBody, decodeRawBody, length_toFrame hlen]
  refine toResult_ite (fun _ => ?_) fun _ => toResult_ite (fun _ => ?_) fun _ =>
    toResult_ite (fun _ => ?_) fun _ => toResult_ite (fun _ => rfl) fun _ =>
    toResult_ite (fun _ => ?_) fun _ => decodeMux_toFrame hlen p
  · rw [decodeRawSegment]
    refine toResult_short fun hlong => ?_
    have h64 : 64 ≤ f.len.toNat := hlong
    rw [byte_toFrame hlen (show 3 < _ by omega), window_toFrame hlen
      (show usdoSegHeaderSize + usdoSegDataMax ≤ _ from hlong)]
    rfl
  · rw [decodeRawEnd]
    refine toResult_short fun hlong => ?_
    have h4 : 4 ≤ f.len.toNat := hlong
    rw [byte_toFrame hlen (show 3 < _ by omega)]
    refine toResult_ite (fun _ => rfl) fun _ => toResult_short fun hdata => ?_
    have hwin : usdoSegHeaderSize + (byteAt f 3).toNat ≤ f.len.toNat := hdata
    rw [window_toFrame hlen hwin]
    by_cases hsome : (byteAt f 3).toNat > 0
    · simp only [if_pos hsome]
      rfl
    · have hzero : (byteAt f 3).toNat = 0 := Nat.eq_zero_of_not_pos hsome
      simp only [hzero, load_zero]
      rfl
  · rw [decodeRawCounter]
    refine toResult_short fun hlong => ?_
    have h4 : 4 ≤ f.len.toNat := hlong
    rw [byte_toFrame hlen (show 3 < _ by omega)]
    rfl
  · rw [decodeRawAbort]
    refine toResult_short fun hlong => ?_
    have h7 : 7 ≤ f.len.toNat := hlong
    rw [byte_toFrame hlen (show 3 < _ by omega), byte_toFrame hlen (show 4 < _ by omega),
      byte_toFrame hlen (show 5 < _ by omega), byte_toFrame hlen (show usdoAbortAcOffset < _ by
        show 6 < _
        omega)]
    rfl

/-- **One decoder**: on the received bytes it is the one that the exchanges are modelled with. -/
theorem decode_toFrame (hlen : f.len.toNat ≤ 64) (pdu : RawPdu) :
    decode (toFrame f) = toResult f (decodeRaw f pdu) := by
  rw [decode, decodeRaw, length_toFrame hlen]
  refine toResult_ite (fun _ => rfl) fun _ => toResult_short fun hlong => ?_
  have h3 : 3 ≤ f.len.toNat := hlong
  rw [byte_toFrame hlen (show 0 < _ by omega), byte_toFrame hlen (show 1 < _ by omega),
    byte_toFrame hlen (show 2 < _ by omega)]
  refine toResult_ite (fun _ => rfl) fun _ => toResult_ite (fun _ => rfl) fun _ => ?_
  exact decodeBody_toFrame hlen { srcNode := (canIdSplit (f.canId &&& canIdValue)).1,
                                  dstNode := byteAt f 0, cmd := byteAt f 1, session := byteAt f 2 }

end Refines

end SofaUsdoRaw
