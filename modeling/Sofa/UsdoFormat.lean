import Sofa.Framing

/-! # The USDO format: what the encoders make and what the decoder takes

    Fifteen frame shapes share one identifier space and reuse byte 3 and the tail.  A
    `Message` is one of them with the arguments of its encoder, and a frame may arrive longer
    than it was sent, since CAN FD has no length between 8 and 12, 12 and 16 and so on.

    * `decode_append`: what the decoder accepted it accepts with bytes behind it, and reads
      the same, a download response without data apart;
    * **`decode_encode`**: every encoder is inverted by the decoder, padded or not;
    * `Canonical`, **`accepted_iff`**: the frames the decoder accepts that some encoder could
      have sent, byte by byte. -/

namespace SofaUsdoFormat

open SofaConfig SofaDevice SofaUsdo SofaFraming ByteBlock

/-! ## Messages -/

/-- A call of one of the encoders, without the node ids and the session.  A full segment is
    exactly one segment of data. -/
inductive Message where
  | downloadReq (index : UInt16) (subindex : UInt8) (data : List UInt8)
  | downloadResp (index : UInt16) (subindex : UInt8) (data : List UInt8)
  | uploadReq (index : UInt16) (subindex : UInt8)
  | uploadResp (index : UInt16) (subindex : UInt8) (data : List UInt8)
  | downloadInitReq (index : UInt16) (subindex : UInt8) (totalSize : UInt32)
  | downloadInitResp (index : UInt16) (subindex : UInt8)
  | downloadSegReq (counter : UInt8) (data : Block usdoSegDataMax)
  | downloadSegResp (counter : UInt8)
  | downloadEndReq (data : List UInt8)
  | downloadEndResp
  | uploadInitResp (index : UInt16) (subindex : UInt8) (totalSize : UInt32)
  | uploadSegReq (counter : UInt8)
  | uploadSegResp (counter : UInt8) (data : Block usdoSegDataMax)
  | uploadEndResp (data : List UInt8)
  | abort (index : UInt16) (subindex : UInt8) (code : Abort)

/-- The encoder of the message, called. -/
def Message.encode (src dst session : UInt8) : Message → Option Frame
  | .downloadReq index subindex data => encodeDownloadReq src dst session index subindex data
  | .downloadResp index subindex data => encodeDownloadResp src dst session index subindex data
  | .uploadReq index subindex => encodeUploadReq src dst session index subindex
  | .uploadResp index subindex data => encodeUploadResp src dst session index subindex data
  | .downloadInitReq index subindex totalSize =>
      encodeDownloadInitReq src dst session index subindex totalSize
  | .downloadInitResp index subindex => encodeDownloadInitResp src dst session index subindex
  | .downloadSegReq counter data => encodeDownloadSegReq src dst session counter (toList data)
  | .downloadSegResp counter => encodeDownloadSegResp src dst session counter
  | .downloadEndReq data => encodeDownloadEndReq src dst session data
  | .downloadEndResp => encodeDownloadEndResp src dst session
  | .uploadInitResp index subindex totalSize =>
      encodeUploadInitResp src dst session index subindex totalSize
  | .uploadSegReq counter => encodeUploadSegReq src dst session counter
  | .uploadSegResp counter data => encodeUploadSegResp src dst session counter (toList data)
  | .uploadEndResp data => encodeUploadEndResp src dst session data
  | .abort index subindex code => encodeAbort src dst session index subindex code

/-- The command specifier of the message. -/
def Message.cmd : Message → UInt8
  | .downloadReq .. => cmdDownloadReq
  | .downloadResp .. => cmdDownloadResp
  | .uploadReq .. => cmdUploadReq
  | .uploadResp .. => cmdUploadResp
  | .downloadInitReq .. => cmdDownloadInitReq
  | .downloadInitResp .. => cmdDownloadInitResp
  | .downloadSegReq .. => cmdDownloadSegReq
  | .downloadSegResp .. => cmdDownloadSegResp
  | .downloadEndReq .. => cmdDownloadEndReq
  | .downloadEndResp => cmdDownloadEndResp
  | .uploadInitResp .. => cmdUploadInitResp
  | .uploadSegReq .. => cmdUploadSegReq
  | .uploadSegResp .. => cmdUploadSegResp
  | .uploadEndResp .. => cmdUploadEndResp
  | .abort .. => cmdAbort

/-- What the message says, in the fields of a decoded PDU.  A field the shape has no place
    for reads as zero; the data type goes with a data block or an announced size. -/
def Message.pdu (src dst session : UInt8) (m : Message) : Pdu :=
  let head : Pdu := { srcNode := src, dstNode := dst, cmd := m.cmd, session := session }
  match m with
  | .downloadReq index subindex data | .uploadResp index subindex data => { head with
      index := index, subindex := subindex, muxValid := true, dataType := typeDomain, data := data }
  | .downloadResp index subindex data => { head with
      index := index, subindex := subindex, muxValid := true,
      dataType := if data = [] then 0 else typeDomain, data := data }
  | .uploadReq index subindex | .downloadInitResp index subindex => { head with
      index := index, subindex := subindex, muxValid := true }
  | .downloadInitReq index subindex totalSize | .uploadInitResp index subindex totalSize =>
      { head with
        index := index, subindex := subindex, muxValid := true, dataType := typeDomain,
        totalSize := totalSize }
  | .downloadSegReq counter data | .uploadSegResp counter data => { head with
      counter := counter, data := toList data }
  | .downloadSegResp counter | .uploadSegReq counter => { head with counter := counter }
  | .downloadEndReq data | .uploadEndResp data => { head with
      counter := UInt8.ofNat data.length, data := data }
  | .downloadEndResp => head
  | .abort index subindex code => { head with
      index := index, subindex := subindex, muxValid := true, abortCode := code }

/-- What the encoder of the message checks, the node ids and the session apart. -/
def Message.Fits : Message → Prop
  | .downloadReq index _ data | .downloadResp index _ data | .uploadResp index _ data =>
      0x1000 ≤ index ∧ data.length ≤ usdoDataMax
  | .uploadReq index _ | .downloadInitResp index _ | .abort index _ _ => 0x1000 ≤ index
  | .downloadInitReq index _ totalSize | .uploadInitResp index _ totalSize =>
      0x1000 ≤ index ∧ totalSize ≠ 0 ∧ totalSize.toNat ≤ usdoSegBodyMax
  | .downloadEndReq data => data ≠ [] ∧ data.length ≤ usdoSegDataMax
  | .uploadEndResp data => data.length ≤ usdoSegDataMax
  | .downloadSegReq .. | .downloadSegResp _ | .downloadEndResp | .uploadSegReq _
  | .uploadSegResp .. => True

/-! ## The encoders' checks -/

theorem encodeSegCommon_some {src dst cmd session : UInt8} {rest : List UInt8} {f : Frame}
    (h : encodeSegCommon src dst cmd session rest = some f) :
    validNode src = true ∧ validNode dst = true ∧ session ≠ 0 := by
  simp only [encodeSegCommon, Option.ite_none_left_eq_some, Bool.or_eq_true, not_or,
    Bool.not_eq_true', Bool.not_eq_false, beq_iff_eq] at h
  exact ⟨h.1.1.1, h.1.1.2, h.1.2⟩

theorem encodeCommon_some {src dst cmd session subindex dataType : UInt8} {index : UInt16}
    {data : List UInt8} {f : Frame}
    (h : encodeCommon src dst cmd session index subindex dataType data = some f) :
    (validNode src = true ∧ validNode dst = true ∧ session ≠ 0) ∧
      0x1000 ≤ index ∧ data.length ≤ usdoDataMax := by
  simp only [encodeCommon, Option.ite_none_left_eq_some, Bool.or_eq_true, not_or,
    Bool.not_eq_true', Bool.not_eq_false, beq_iff_eq, decide_eq_true_eq, UInt16.not_lt,
    Nat.not_lt] at h
  exact ⟨⟨h.1.1.1.1.1, h.1.1.1.1.2, h.1.1.1.2⟩, h.1.1.2, h.1.2⟩

theorem encodeInitCommon_some {src dst cmd session subindex : UInt8} {index : UInt16}
    {totalSize : UInt32} {f : Frame}
    (h : encodeInitCommon src dst cmd session index subindex totalSize = some f) :
    (validNode src = true ∧ validNode dst = true ∧ session ≠ 0) ∧
      0x1000 ≤ index ∧ totalSize ≠ 0 ∧ totalSize.toNat ≤ usdoSegBodyMax := by
  simp only [encodeInitCommon, Option.ite_none_left_eq_some, Bool.or_eq_true, not_or,
    beq_iff_eq, decide_eq_true_eq, UInt16.not_lt, Nat.not_lt] at h
  exact ⟨encodeSegCommon_some h.2, h.1.2, h.1.1.1, h.1.1.2⟩

/-- **An encoder that succeeds checked its arguments.** -/
theorem Message.encode_some {src dst session : UInt8} {m : Message} {f : Frame}
    (h : m.encode src dst session = some f) :
    (validNode src = true ∧ validNode dst = true ∧ session ≠ 0) ∧ m.Fits := by
  cases m with
  | downloadReq index subindex data => exact encodeCommon_some h
  | downloadResp index subindex data => exact encodeCommon_some h
  | uploadReq index subindex =>
      have hargs := encodeCommon_some h
      exact ⟨hargs.1, hargs.2.1⟩
  | uploadResp index subindex data => exact encodeCommon_some h
  | downloadInitReq index subindex totalSize => exact encodeInitCommon_some h
  | downloadInitResp index subindex =>
      simp only [Message.encode, encodeDownloadInitResp, Option.ite_none_left_eq_some,
        UInt16.not_lt] at h
      exact ⟨encodeSegCommon_some h.2, h.1⟩
  | downloadSegReq counter data => exact ⟨encodeSegCommon_some h, trivial⟩
  | downloadSegResp counter => exact ⟨encodeSegCommon_some h, trivial⟩
  | downloadEndReq data =>
      simp only [Message.encode, encodeDownloadEndReq, encodeSegEnd,
        Option.ite_none_left_eq_some, beq_iff_eq, List.length_eq_zero_iff, Nat.not_lt] at h
      exact ⟨encodeSegCommon_some h.2.2, h.1, h.2.1⟩
  | downloadEndResp => exact ⟨encodeSegCommon_some h, trivial⟩
  | uploadInitResp index subindex totalSize => exact encodeInitCommon_some h
  | uploadSegReq counter => exact ⟨encodeSegCommon_some h, trivial⟩
  | uploadSegResp counter data => exact ⟨encodeSegCommon_some h, trivial⟩
  | uploadEndResp data =>
      simp only [Message.encode, encodeUploadEndResp, encodeSegEnd,
        Option.ite_none_left_eq_some, Nat.not_lt] at h
      exact ⟨encodeSegCommon_some h.2, h.1⟩
  | abort index subindex code =>
      simp only [Message.encode, encodeAbort, Option.ite_none_left_eq_some, UInt16.not_lt] at h
      exact ⟨encodeSegCommon_some h.2, h.1⟩

/-- **As encoded**: an encoder whose checks pass makes a frame, and the decoder reads the
    message back. -/
theorem Message.carried {src dst session : UInt8} (hsrc : validNode src = true)
    (hdst : validNode dst = true) (hsession : session ≠ 0) {m : Message} (hfits : m.Fits) :
    ∃ f, m.encode src dst session = some f ∧
      Carries f (kindOf (cmdIsRequest m.cmd)) (m.pdu src dst session) := by
  have htake (data : Block usdoSegDataMax) :
      (toList data).take usdoSegDataMax = toList data :=
    List.take_of_length_le (length_toList data).le
  cases m with
  | downloadReq index subindex data =>
      exact decode_expedited subindex hsrc hdst hsession hfits.1 hfits.2 (.inl rfl)
  | downloadResp index subindex data =>
      have henc : encodeDownloadResp src dst session index subindex data = _ :=
        encodeCommon_eq hsrc hdst hsession hfits.1 hfits.2
      refine ⟨_, henc, ?_⟩
      cases data with
      | nil => exact carries_usdoFrame hsrc hdst rfl ((decodeBody_mux (by simp)).trans
          (decodeMux_bare (.inr (.inl rfl)) hfits.1 ⟨_, _, _, rfl⟩))
      | cons b data => exact carries_usdoFrame hsrc hdst rfl ((decodeBody_mux (by simp)).trans
          (decodeMux_data (.inr (.inr rfl)) hfits.1 hfits.2 ⟨_, _, _, rfl⟩))
  | uploadReq index subindex => exact decode_uploadReq subindex hsrc hdst hsession hfits
  | uploadResp index subindex data =>
      exact decode_expedited subindex hsrc hdst hsession hfits.1 hfits.2 (.inr rfl)
  | downloadInitReq index subindex totalSize =>
      exact decode_init subindex hsrc hdst hsession hfits.1 hfits.2.1 hfits.2.2 (.inl rfl)
  | downloadInitResp index subindex => exact decode_initResp subindex hsrc hdst hsession hfits
  | downloadSegReq counter data =>
      have h := decode_segment counter hsrc hdst hsession (.inl rfl) (length_toList data).ge
      rwa [htake] at h
  | downloadSegResp counter => exact decode_counter counter hsrc hdst hsession (.inl rfl)
  | downloadEndReq data =>
      obtain ⟨f, henc, hcarries⟩ := decode_end hsrc hdst hsession (.inl rfl) hfits.2
      refine ⟨f, ?_, hcarries⟩
      rw [← henc]
      exact if_neg (by simp [hfits.1])
  | downloadEndResp => exact decode_endResp hsrc hdst hsession
  | uploadInitResp index subindex totalSize =>
      exact decode_init subindex hsrc hdst hsession hfits.1 hfits.2.1 hfits.2.2 (.inr rfl)
  | uploadSegReq counter => exact decode_counter counter hsrc hdst hsession (.inr rfl)
  | uploadSegResp counter data =>
      have h := decode_segment counter hsrc hdst hsession (.inr rfl) (length_toList data).ge
      rwa [htake] at h
  | uploadEndResp data => exact decode_end hsrc hdst hsession (.inr rfl) hfits
  | abort index subindex code => exact decode_abort subindex code hsrc hdst hsession hfits

/-- An encoder succeeds exactly when its checks pass. -/
theorem Message.encode_isSome {src dst session : UInt8} {m : Message} :
    (m.encode src dst session).isSome = true ↔
      (validNode src = true ∧ validNode dst = true ∧ session ≠ 0) ∧ m.Fits := by
  constructor
  · intro h
    obtain ⟨f, henc⟩ := Option.isSome_iff_exists.mp h
    exact Message.encode_some henc
  · rintro ⟨⟨hsrc, hdst, hsession⟩, hfits⟩
    obtain ⟨f, henc, -⟩ := Message.carried hsrc hdst hsession hfits
    rw [henc]
    rfl

/-! ## Bytes behind a frame -/

/-- The frame with bytes behind its payload. -/
def append (f : Frame) (pad : List UInt8) : Frame := { f with payload := f.payload ++ pad }

theorem length_append (f : Frame) (pad : List UInt8) :
    (append f pad).payload.length = f.payload.length + pad.length := List.length_append

theorem byte_append {f : Frame} {i : Nat} (h : i < f.payload.length) (pad : List UInt8) :
    (append f pad).byte i = f.byte i := by
  simp only [Frame.byte, append, List.getD_eq_getElem?_getD, List.getElem?_append_left h]

theorem block_append {f : Frame} {k n : Nat} (h : k + n ≤ f.payload.length) (pad : List UInt8) :
    ((append f pad).payload.drop k).take n = (f.payload.drop k).take n := by
  have hdrop : k ≤ f.payload.length := by omega
  have htake : n ≤ (f.payload.drop k).length := by
    rw [List.length_drop]
    omega
  rw [append, List.drop_append_of_le_length hdrop, List.take_append_of_le_length htake]

/-- The decoder of the multiplexor-carrying frames asks for enough bytes, and for no exact
    length except of a download response. -/
theorem decodeMux_append {f : Frame} {base pdu : Pdu} (pad : List UInt8)
    (h : decodeMux f base = .ok pdu)
    (hack : base.cmd = cmdDownloadResp → usdoHeaderSize < f.payload.length) :
    decodeMux (append f pad) base = .ok pdu := by
  have hlen := length_append f pad
  unfold decodeMux at h
  split at h
  · exact nomatch h
  rename_i hhead
  have hhead' : 6 ≤ f.payload.length := Nat.not_lt.mp hhead
  have h3 : (append f pad).byte 3 = f.byte 3 := byte_append (by omega) pad
  have h4 : (append f pad).byte 4 = f.byte 4 := byte_append (by omega) pad
  have h5 : (append f pad).byte 5 = f.byte 5 := byte_append (by omega) pad
  have hnothead : ¬ (append f pad).payload.length < usdoHeaderSize := by
    show ¬ (append f pad).payload.length < 6
    omega
  unfold decodeMux
  rw [if_neg hnothead]
  simp only [h3, h4, h5]
  simp only at h
  split at h
  · exact nomatch h
  rename_i hindex
  rw [if_neg hindex]
  split at h
  · rename_i hinit
    rw [if_pos hinit]
    split at h
    · exact nomatch h
    rename_i hfull
    have hfull' : 12 ≤ f.payload.length := Nat.not_lt.mp hfull
    have hnotfull : ¬ (append f pad).payload.length < usdoInitSize := by
      show ¬ (append f pad).payload.length < 12
      omega
    rw [if_neg hnotfull, byte_append (show 6 < f.payload.length by omega),
      byte_append (show 8 < f.payload.length by omega),
      byte_append (show 9 < f.payload.length by omega),
      byte_append (show 10 < f.payload.length by omega),
      byte_append (show 11 < f.payload.length by omega)]
    exact h
  rename_i hinit
  rw [if_neg hinit]
  split at h
  · rename_i hresp
    rw [if_pos hresp]
    exact h
  rename_i hresp
  rw [if_neg hresp]
  split at h
  · rename_i hblock
    split at h
    · exact nomatch h
    rename_i hprefix
    have hprefix' : 8 ≤ f.payload.length := Nat.not_lt.mp hprefix
    split at h
    · exact nomatch h
    rename_i hmax
    split at h
    · exact nomatch h
    rename_i hbody
    have hbody' : 8 + (f.byte 7).toNat ≤ f.payload.length := Nat.not_lt.mp hbody
    have hblock' : (cmdMustHaveData base.cmd || (base.cmd == cmdDownloadResp
        && decide ((append f pad).payload.length > usdoHeaderSize))) = true := by
      have hlong : (append f pad).payload.length > usdoHeaderSize := by
        show 6 < (append f pad).payload.length
        omega
      rw [decide_eq_true hlong]
      simp only [Bool.or_eq_true, Bool.and_eq_true] at hblock ⊢
      exact hblock.imp_right fun hresp => ⟨hresp.1, trivial⟩
    have hnotprefix : ¬ (append f pad).payload.length < usdoHeaderSize + usdoDataPrefixSize := by
      show ¬ (append f pad).payload.length < 8
      omega
    rw [if_pos hblock', if_neg hnotprefix, byte_append (show 7 < f.payload.length by omega),
      if_neg hmax]
    have hnotbody : ¬ (append f pad).payload.length
        < usdoHeaderSize + usdoDataPrefixSize + (f.byte 7).toNat := by
      show ¬ (append f pad).payload.length < 8 + (f.byte 7).toNat
      omega
    rw [if_neg hnotbody, byte_append (show 6 < f.payload.length by omega), block_append hbody']
    exact h
  · rename_i hblock
    have hblock' : ¬ (cmdMustHaveData base.cmd || (base.cmd == cmdDownloadResp
        && decide ((append f pad).payload.length > usdoHeaderSize))) = true := by
      intro hyes
      apply hblock
      simp only [Bool.or_eq_true, Bool.and_eq_true, beq_iff_eq, decide_eq_true_eq] at hyes ⊢
      exact hyes.imp_right fun hresp => ⟨hresp.1, hack hresp.1⟩
    rw [if_neg hblock']
    exact h

/-- The decoder past the shared checks. -/
theorem decodeBody_append {f : Frame} {base pdu : Pdu} (pad : List UInt8)
    (h : decodeBody f base = .ok pdu)
    (hack : base.cmd = cmdDownloadResp → usdoHeaderSize < f.payload.length) :
    decodeBody (append f pad) base = .ok pdu := by
  have hlen := length_append f pad
  unfold decodeBody at h ⊢
  split at h
  · -- a full segment
    rename_i hcmd
    rw [if_pos hcmd]
    split at h
    · exact nomatch h
    rename_i hfull
    have hfull' : 64 ≤ f.payload.length := Nat.not_lt.mp hfull
    have hnot : ¬ (append f pad).payload.length < payloadMax := by
      show ¬ (append f pad).payload.length < 64
      omega
    rw [if_neg hnot, byte_append (by omega), block_append hfull']
    exact h
  rename_i hseg
  rw [if_neg hseg]
  split at h
  · -- a last segment
    rename_i hcmd
    rw [if_pos hcmd]
    simp only at h
    split at h
    · exact nomatch h
    rename_i hhead
    have hhead' : 4 ≤ f.payload.length := Nat.not_lt.mp hhead
    split at h
    · exact nomatch h
    rename_i hmax
    split at h
    · exact nomatch h
    rename_i hbody
    have hbody' : 4 + (f.byte 3).toNat ≤ f.payload.length := Nat.not_lt.mp hbody
    have hnothead : ¬ (append f pad).payload.length < usdoSegHeaderSize := by
      show ¬ (append f pad).payload.length < 4
      omega
    have hnotbody : ¬ (append f pad).payload.length < usdoSegHeaderSize + (f.byte 3).toNat := by
      show ¬ (append f pad).payload.length < 4 + (f.byte 3).toNat
      omega
    simp only [byte_append (show 3 < f.payload.length by omega)]
    rw [if_neg hnothead, if_neg hmax, if_neg hnotbody, block_append hbody']
    exact h
  rename_i hend
  rw [if_neg hend]
  split at h
  · -- a counter
    rename_i hcmd
    rw [if_pos hcmd]
    split at h
    · exact nomatch h
    rename_i hhead
    have hhead' : 4 ≤ f.payload.length := Nat.not_lt.mp hhead
    have hnothead : ¬ (append f pad).payload.length < usdoSegHeaderSize := by
      show ¬ (append f pad).payload.length < 4
      omega
    rw [if_neg hnothead, byte_append (by omega)]
    exact h
  rename_i hcounter
  rw [if_neg hcounter]
  split at h
  · rename_i hcmd
    rw [if_pos hcmd]
    exact h
  rename_i hendResp
  rw [if_neg hendResp]
  split at h
  · -- an abort
    rename_i hcmd
    rw [if_pos hcmd]
    split at h
    · exact nomatch h
    rename_i hhead
    have hhead' : 7 ≤ f.payload.length := Nat.not_lt.mp hhead
    have hnothead : ¬ (append f pad).payload.length < usdoAbortSize := by
      show ¬ (append f pad).payload.length < 7
      omega
    rw [if_neg hnothead, byte_append (show 3 < f.payload.length by omega),
      byte_append (show 4 < f.payload.length by omega),
      byte_append (show 5 < f.payload.length by omega),
      byte_append (show 6 < f.payload.length by omega)]
    exact h
  rename_i habort
  rw [if_neg habort]
  exact decodeMux_append pad h hack

/-- **Padding.**  What the decoder reads from a frame it reads from the frame with bytes
    behind it.  A download response is the exception: its data block is recognised by the
    frame's length, so nothing may follow one without data. -/
theorem decode_append {f : Frame} {pdu : Pdu} (pad : List UInt8) (h : decode f = .ok pdu)
    (hack : pdu.cmd = cmdDownloadResp → usdoHeaderSize < f.payload.length) :
    decode (append f pad) = .ok pdu := by
  have hcmd : pdu.cmd = f.byte 1 := decode_cmd h
  have hlen := length_append f pad
  have hid : (append f pad).idValue = f.idValue := rfl
  unfold decode at h ⊢
  simp only at h ⊢
  rw [hid]
  split at h
  · exact nomatch h
  rename_i hkind
  split at h
  · exact nomatch h
  rename_i hshort
  have hshort' : 3 ≤ f.payload.length := Nat.not_lt.mp hshort
  have hnotshort : ¬ (append f pad).payload.length < usdoEndRespSize := by
    show ¬ (append f pad).payload.length < 3
    omega
  rw [if_neg hkind, if_neg hnotshort, byte_append (show 0 < f.payload.length by omega),
    byte_append (show 1 < f.payload.length by omega),
    byte_append (show 2 < f.payload.length by omega)]
  split at h
  · exact nomatch h
  rename_i hdst
  split at h
  · exact nomatch h
  rename_i hknown
  rw [if_neg hdst, if_neg hknown]
  exact decodeBody_append pad h fun hresp => hack (hcmd.trans hresp)

/-! ## The lengths of CAN FD -/

/-- `len_to_dlc`: the length on the bus, and its code. -/
def lenToDlc (len : Nat) : Nat × UInt8 :=
  if len ≤ 8 then (len, UInt8.ofNat len)
  else if len ≤ 12 then (12, 9)
  else if len ≤ 16 then (16, 10)
  else if len ≤ 20 then (20, 11)
  else if len ≤ 24 then (24, 12)
  else if len ≤ 32 then (32, 13)
  else if len ≤ 48 then (48, 14)
  else (64, 15)

/-- The payload `fbsec_pcan_write_fd` puts on the bus: zeros up to the length. -/
def padded (f : Frame) : Frame :=
  append f (List.replicate ((lenToDlc f.payload.length).1 - f.payload.length) 0)

/-- Up to eight bytes nothing is padded. -/
theorem padded_short {f : Frame} (h : f.payload.length ≤ 8) : padded f = f := by
  rw [padded, lenToDlc, if_pos h, Nat.sub_self]
  exact congrArg (Frame.mk f.canId f.flags) (List.append_nil _)

/-- **The decoder inverts every encoder**, on the frame as encoded and on the frame padded to
    the next length of CAN FD: source, destination, command and session, and of the rest what
    the shape carries. -/
theorem decode_encode {src dst session : UInt8} {m : Message} {f : Frame}
    (h : m.encode src dst session = some f) :
    decode f = .ok (m.pdu src dst session) ∧ decode (padded f) = .ok (m.pdu src dst session) := by
  obtain ⟨⟨hsrc, hdst, hsession⟩, hfits⟩ := Message.encode_some h
  obtain ⟨f', henc, hcarries⟩ := Message.carried hsrc hdst hsession hfits
  cases h.symm.trans henc
  refine ⟨hcarries.decoded, ?_⟩
  by_cases hlen : f.payload.length ≤ 8
  · rw [padded_short hlen]
    exact hcarries.decoded
  · refine decode_append _ hcarries.decoded fun _ => ?_
    show 6 < f.payload.length
    omega

/-- Thirteen bytes in a download request: 21 bytes of frame, padded to 24. -/
theorem decode_encode_padded :
    ∃ f, Message.encode 20 5 1 (.downloadReq 0x2010 0 (List.replicate 13 7)) = some f ∧
      (padded f).payload.length = 24 ∧
      decode (padded f) = .ok (Message.pdu 20 5 1 (.downloadReq 0x2010 0 (List.replicate 13 7))) := by
  have henc : Message.encode 20 5 1 (.downloadReq 0x2010 0 (List.replicate 13 7)) = some
      (usdoFrame 20 true ([5, 0x01, 1, 0, 0x10, 0x20, 0x0F, 13] ++ List.replicate 13 7)) := by
    decide +kernel
  exact ⟨_, henc, rfl, (decode_encode henc).2⟩

/-! ## Frames that some encoder could have sent -/

/-- `fbsec_co_fd_frame_validate` finds nothing wrong. -/
def frameValid (f : Frame) : Bool := validateFields f.canId f.flags f.payload.length = .ok

/-- The encoder call that has the fields of a PDU. -/
def message (pdu : Pdu) : Option Message :=
  if pdu.cmd = cmdDownloadReq then some (.downloadReq pdu.index pdu.subindex pdu.data)
  else if pdu.cmd = cmdDownloadResp then some (.downloadResp pdu.index pdu.subindex pdu.data)
  else if pdu.cmd = cmdUploadReq then some (.uploadReq pdu.index pdu.subindex)
  else if pdu.cmd = cmdUploadResp then some (.uploadResp pdu.index pdu.subindex pdu.data)
  else if pdu.cmd = cmdDownloadInitReq then
    some (.downloadInitReq pdu.index pdu.subindex pdu.totalSize)
  else if pdu.cmd = cmdDownloadInitResp then some (.downloadInitResp pdu.index pdu.subindex)
  else if pdu.cmd = cmdDownloadSegReq then
    some (.downloadSegReq pdu.counter (slice usdoSegDataMax 0 pdu.data))
  else if pdu.cmd = cmdDownloadSegResp then some (.downloadSegResp pdu.counter)
  else if pdu.cmd = cmdDownloadEndReq then some (.downloadEndReq pdu.data)
  else if pdu.cmd = cmdDownloadEndResp then some .downloadEndResp
  else if pdu.cmd = cmdUploadInitResp then
    some (.uploadInitResp pdu.index pdu.subindex pdu.totalSize)
  else if pdu.cmd = cmdUploadSegReq then some (.uploadSegReq pdu.counter)
  else if pdu.cmd = cmdUploadSegResp then
    some (.uploadSegResp pdu.counter (slice usdoSegDataMax 0 pdu.data))
  else if pdu.cmd = cmdUploadEndResp then some (.uploadEndResp pdu.data)
  else if pdu.cmd = cmdAbort then some (.abort pdu.index pdu.subindex pdu.abortCode)
  else none

/-- The decoded fields, encoded again. -/
def reencode (pdu : Pdu) : Option Frame :=
  (message pdu).bind fun m => m.encode pdu.srcNode pdu.dstNode pdu.session

/-- Some encoder could have sent this frame: a standard identifier of the command's direction,
    a session, an index where there is one, and encoding again what was decoded gives a frame
    that says the same. -/
structure Sendable (f : Frame) (pdu : Pdu) : Prop where
  identifier : validNode pdu.srcNode = true ∧
    f.canId = (if cmdIsRequest pdu.cmd then usdoReqBase else usdoRspBase) + pdu.srcNode.toUInt32
  session : pdu.session ≠ 0
  index : pdu.muxValid = true → 0x1000 ≤ pdu.index
  again : ∃ f', reencode pdu = some f' ∧ decode f' = .ok pdu

/-- The bytes of such a frame: no extended identifier, the base of its command, a session
    above 0, an index from 1000h on in an abort too, at least one byte in the last segment of
    a download, and the data type of the encoders wherever a frame has one. -/
structure Canonical (f : Frame) : Prop where
  standard : f.canId &&& canIdFlagIde = 0
  base : f.idValue &&& usdoBaseMask = if cmdIsRequest (f.byte 1) then usdoReqBase else usdoRspBase
  session : f.byte 2 ≠ 0
  abort : f.byte 1 = cmdAbort → 0x1000 ≤ getU16le (f.byte 4) (f.byte 5)
  last : f.byte 1 = cmdDownloadEndReq → f.byte 3 ≠ 0
  typed : f.byte 1 ∈ [cmdDownloadReq, cmdUploadResp, cmdDownloadInitReq, cmdUploadInitResp] →
    f.byte 6 = typeDomain
  acked : f.byte 1 = cmdDownloadResp → usdoHeaderSize < f.payload.length →
    f.byte 6 = if f.byte 7 = 0 then 0 else typeDomain

/-! ### What the decoder checked -/

/-- The fields every frame has. -/
def headPdu (f : Frame) : Pdu :=
  { srcNode := (canIdSplit f.idValue).1, dstNode := f.byte 0, cmd := f.byte 1, session := f.byte 2 }

/-- The shared checks, passed. -/
theorem decode_head {f : Frame} {pdu : Pdu} (h : decode f = .ok pdu) :
    (canIdSplit f.idValue).2 ≠ .none ∧ validNode (f.byte 0) = true ∧
      cmdIsKnown (f.byte 1) = true ∧ decodeBody f (headPdu f) = .ok pdu := by
  unfold decode at h
  simp only at h
  split at h
  · exact nomatch h
  rename_i hkind
  split at h
  · exact nomatch h
  split at h
  · exact nomatch h
  rename_i hdst
  split at h
  · exact nomatch h
  rename_i hknown
  exact ⟨hkind, by simpa using hdst, by simpa using hknown, h⟩

/-- A USDO identifier: the sender is a node, and the base is one of the two. -/
theorem canIdSplit_kind {id : UInt32} (h : (canIdSplit id).2 ≠ .none) :
    validNode (canIdSplit id).1 = true ∧ (canIdSplit id).1 = (id &&& usdoNidMask).toUInt8 ∧
      (id &&& usdoBaseMask = usdoReqBase ∨ id &&& usdoBaseMask = usdoRspBase) := by
  unfold canIdSplit at h ⊢
  simp only at h ⊢
  split at h
  · exact absurd rfl h
  rename_i hnode
  have hnode' : validNode (id &&& usdoNidMask).toUInt8 = true := by simpa using hnode
  rw [if_neg hnode]
  split at h
  · rename_i hreq
    rw [if_pos hreq]
    exact ⟨hnode', rfl, .inl hreq⟩
  split at h
  · rename_i hreq hrsp
    rw [if_neg hreq, if_pos hrsp]
    exact ⟨hnode', rfl, .inr hrsp⟩
  · exact absurd rfl h

/-- An identifier without flags. -/
theorem idValue_eq {canId : UInt32} (hide : canId &&& canIdFlagIde = 0)
    (hrtr : canId &&& canIdFlagRtr = 0) (herr : canId &&& canIdFlagErr = 0) :
    canId &&& canIdValue = canId := by
  have hmasks : canId &&& canIdValue ||| canId &&& canIdFlagIde ||| canId &&& canIdFlagRtr
      ||| canId &&& canIdFlagErr = canId := by
    apply UInt32.toBitVec_inj.mp
    simp only [UInt32.toBitVec_or, UInt32.toBitVec_and, ← BitVec.and_or_distrib_left]
    exact BitVec.and_allOnes
  rwa [hide, hrtr, herr, UInt32.or_zero, UInt32.or_zero, UInt32.or_zero] at hmasks

/-- Eleven bits are a base and a node. -/
theorem id_split {id : UInt32} (h : id ≤ stdIdMax) :
    id = (id &&& usdoBaseMask) + (id &&& usdoNidMask).toUInt8.toUInt32 ∧
      id &&& canIdFlagIde = 0 := by
  have hall : ∀ n : Fin 2048, UInt32.ofNat n.val =
      (UInt32.ofNat n.val &&& usdoBaseMask) + (UInt32.ofNat n.val &&& usdoNidMask).toUInt8.toUInt32
      ∧ UInt32.ofNat n.val &&& canIdFlagIde = 0 := by
    decide +kernel
  have hle : id.toNat ≤ 2047 := h
  have hid := hall ⟨id.toNat, by omega⟩
  simpa only [UInt32.ofNat_toNat] using hid

/-- A base and a node are eleven bits. -/
theorem id_join {node : UInt8} (h : validNode node = true) {base : UInt32}
    (hbase : base = usdoReqBase ∨ base = usdoRspBase) :
    base + node.toUInt32 ≤ stdIdMax ∧ (base + node.toUInt32) &&& usdoBaseMask = base := by
  have hall : ∀ n : Fin 256, validNode (UInt8.ofNat n.val) = true →
      (usdoReqBase + (UInt8.ofNat n.val).toUInt32 ≤ stdIdMax ∧
        (usdoReqBase + (UInt8.ofNat n.val).toUInt32) &&& usdoBaseMask = usdoReqBase) ∧
      (usdoRspBase + (UInt8.ofNat n.val).toUInt32 ≤ stdIdMax ∧
        (usdoRspBase + (UInt8.ofNat n.val).toUInt32) &&& usdoBaseMask = usdoRspBase) := by
    decide +kernel
  have hnode := hall ⟨node.toNat, UInt8.toNat_lt node⟩
  simp only [UInt8.ofNat_toNat] at hnode
  obtain rfl | rfl := hbase
  · exact (hnode h).1
  · exact (hnode h).2

/-- **The identifier** of an accepted frame is that of its command exactly when it is not
    extended and has the command's base. -/
theorem identifier_iff {f : Frame} (hvalid : frameValid f = true)
    (hkind : (canIdSplit f.idValue).2 ≠ .none) (cmd : UInt8) :
    f.canId = (if cmdIsRequest cmd then usdoReqBase else usdoRspBase)
        + (canIdSplit f.idValue).1.toUInt32 ↔
      f.canId &&& canIdFlagIde = 0 ∧
        f.idValue &&& usdoBaseMask = if cmdIsRequest cmd then usdoReqBase else usdoRspBase := by
  obtain ⟨hnode, hsender, -⟩ := canIdSplit_kind hkind
  rw [frameValid, decide_eq_true_eq, validateFields_iff] at hvalid
  obtain ⟨hrtr, herr, hstd, -, -⟩ := hvalid
  have hbase : (if cmdIsRequest cmd then usdoReqBase else usdoRspBase) = usdoReqBase ∨
      (if cmdIsRequest cmd then usdoReqBase else usdoRspBase) = usdoRspBase := by
    cases cmdIsRequest cmd
    · exact .inr rfl
    · exact .inl rfl
  constructor
  · intro hid
    have hjoin := id_join hnode hbase
    rw [← hid] at hjoin
    have hide := (id_split hjoin.1).2
    refine ⟨hide, ?_⟩
    rw [Frame.idValue, idValue_eq hide hrtr herr]
    exact hjoin.2
  · rintro ⟨hide, hcmd⟩
    have hid : f.idValue = f.canId := idValue_eq hide hrtr herr
    have hle : f.canId ≤ stdIdMax := by
      rw [← hid]
      exact hstd hide
    rw [hsender, ← hcmd, hid]
    exact (id_split hle).1

/-! ### What the decoder read -/

variable {f : Frame} {pdu : Pdu}

/-- A full segment. -/
theorem body_segment (hcmd : f.byte 1 = cmdDownloadSegReq ∨ f.byte 1 = cmdUploadSegResp)
    (h : decodeBody f (headPdu f) = .ok pdu) :
    64 ≤ f.payload.length ∧
      pdu = { headPdu f with
        counter := f.byte 3, data := (f.payload.drop usdoSegHeaderSize).take usdoSegDataMax } := by
  have hyes : ((headPdu f).cmd == cmdDownloadSegReq || (headPdu f).cmd == cmdUploadSegResp)
      = true := by
    show (f.byte 1 == _ || f.byte 1 == _) = true
    obtain hcmd | hcmd := hcmd <;> rw [hcmd] <;> rfl
  unfold decodeBody at h
  rw [if_pos hyes] at h
  split at h
  · exact nomatch h
  · rename_i hfull
    exact ⟨Nat.not_lt.mp hfull, (Except.ok.inj h).symm⟩

/-- A last segment. -/
theorem body_end (hcmd : f.byte 1 = cmdDownloadEndReq ∨ f.byte 1 = cmdUploadEndResp)
    (h : decodeBody f (headPdu f) = .ok pdu) :
    (f.byte 3).toNat ≤ usdoSegDataMax ∧ 4 + (f.byte 3).toNat ≤ f.payload.length ∧
      pdu = { headPdu f with
        counter := f.byte 3,
        data := (f.payload.drop usdoSegHeaderSize).take (f.byte 3).toNat } := by
  have hno : ¬ ((headPdu f).cmd == cmdDownloadSegReq || (headPdu f).cmd == cmdUploadSegResp)
      = true := by
    show ¬ (f.byte 1 == _ || f.byte 1 == _) = true
    obtain hcmd | hcmd := hcmd <;> rw [hcmd] <;> decide
  have hyes : ((headPdu f).cmd == cmdDownloadEndReq || (headPdu f).cmd == cmdUploadEndResp)
      = true := by
    show (f.byte 1 == _ || f.byte 1 == _) = true
    obtain hcmd | hcmd := hcmd <;> rw [hcmd] <;> rfl
  unfold decodeBody at h
  rw [if_neg hno, if_pos hyes] at h
  simp only at h
  split at h
  · exact nomatch h
  split at h
  · exact nomatch h
  rename_i hmax
  split at h
  · exact nomatch h
  rename_i hbody
  exact ⟨Nat.not_lt.mp hmax, Nat.not_lt.mp hbody, (Except.ok.inj h).symm⟩

/-- A counter. -/
theorem body_counter (hcmd : f.byte 1 = cmdDownloadSegResp ∨ f.byte 1 = cmdUploadSegReq)
    (h : decodeBody f (headPdu f) = .ok pdu) : pdu = { headPdu f with counter := f.byte 3 } := by
  have hcmds : (headPdu f).cmd = cmdDownloadSegResp ∨ (headPdu f).cmd = cmdUploadSegReq := hcmd
  unfold decodeBody at h
  rw [if_neg (by obtain hcmd | hcmd := hcmds <;> rw [hcmd] <;> decide),
    if_neg (by obtain hcmd | hcmd := hcmds <;> rw [hcmd] <;> decide),
    if_pos (by obtain hcmd | hcmd := hcmds <;> rw [hcmd] <;> rfl)] at h
  split at h
  · exact nomatch h
  · exact (Except.ok.inj h).symm

/-- A download-end response. -/
theorem body_endResp (hcmd : f.byte 1 = cmdDownloadEndResp)
    (h : decodeBody f (headPdu f) = .ok pdu) : pdu = headPdu f := by
  have hcmd' : (headPdu f).cmd = cmdDownloadEndResp := hcmd
  unfold decodeBody at h
  rw [if_neg (by rw [hcmd']; decide), if_neg (by rw [hcmd']; decide),
    if_neg (by rw [hcmd']; decide), if_pos (by rw [hcmd']; rfl)] at h
  exact (Except.ok.inj h).symm

/-- The multiplexor of a frame, in its PDU. -/
def muxPdu (f : Frame) : Pdu :=
  { headPdu f with
    subindex := f.byte 3, index := getU16le (f.byte 4) (f.byte 5), muxValid := true }

/-- An abort. -/
theorem body_abort (hcmd : f.byte 1 = cmdAbort) (h : decodeBody f (headPdu f) = .ok pdu) :
    pdu = { muxPdu f with abortCode := f.byte 6 } := by
  have hcmd' : (headPdu f).cmd = cmdAbort := hcmd
  unfold decodeBody at h
  rw [if_neg (by rw [hcmd']; decide), if_neg (by rw [hcmd']; decide),
    if_neg (by rw [hcmd']; decide), if_neg (by rw [hcmd']; decide),
    if_pos (by rw [hcmd']; rfl)] at h
  split at h
  · exact nomatch h
  · exact (Except.ok.inj h).symm

/-- The index of any other multiplexor. -/
theorem mux_index (h : decodeMux f (headPdu f) = .ok pdu) :
    0x1000 ≤ getU16le (f.byte 4) (f.byte 5) := by
  unfold decodeMux at h
  split at h
  · exact nomatch h
  simp only at h
  split at h
  · exact nomatch h
  rename_i hindex
  exact UInt16.not_lt.mp hindex

/-- An initiate frame. -/
theorem mux_init (hcmd : f.byte 1 = cmdDownloadInitReq ∨ f.byte 1 = cmdUploadInitResp)
    (h : decodeMux f (headPdu f) = .ok pdu) :
    ∃ totalSize, totalSize ≠ 0 ∧ totalSize.toNat ≤ usdoSegBodyMax ∧
      pdu = { muxPdu f with dataType := f.byte 6, totalSize := totalSize } := by
  have hyes : ((headPdu f).cmd == cmdDownloadInitReq || (headPdu f).cmd == cmdUploadInitResp)
      = true := by
    show (f.byte 1 == _ || f.byte 1 == _) = true
    obtain hcmd | hcmd := hcmd <;> rw [hcmd] <;> rfl
  unfold decodeMux at h
  simp only at h
  rw [if_pos hyes] at h
  split at h
  · exact nomatch h
  split at h
  · exact nomatch h
  split at h
  · exact nomatch h
  split at h
  · exact nomatch h
  rename_i hsize
  simp only [Bool.or_eq_true, beq_iff_eq, decide_eq_true_eq, not_or, Nat.not_lt] at hsize
  exact ⟨_, hsize.1, hsize.2, (Except.ok.inj h).symm⟩

/-- A frame that ends with the multiplexor. -/
theorem mux_bare (hcmd : f.byte 1 = cmdUploadReq ∨ f.byte 1 = cmdDownloadInitResp ∨
      (f.byte 1 = cmdDownloadResp ∧ ¬ usdoHeaderSize < f.payload.length))
    (h : decodeMux f (headPdu f) = .ok pdu) : pdu = muxPdu f := by
  have hno : ¬ ((headPdu f).cmd == cmdDownloadInitReq || (headPdu f).cmd == cmdUploadInitResp)
      = true := by
    show ¬ (f.byte 1 == _ || f.byte 1 == _) = true
    obtain hcmd | hcmd | ⟨hcmd, -⟩ := hcmd <;> rw [hcmd] <;> decide
  have hblock : ¬ (cmdMustHaveData (headPdu f).cmd || ((headPdu f).cmd == cmdDownloadResp
      && decide (f.payload.length > usdoHeaderSize))) = true := by
    show ¬ (cmdMustHaveData (f.byte 1) || (f.byte 1 == cmdDownloadResp
      && decide (usdoHeaderSize < f.payload.length))) = true
    obtain hcmd | hcmd | ⟨hcmd, hshort⟩ := hcmd
    · rw [hcmd]
      cases decide (usdoHeaderSize < f.payload.length) <;> decide
    · rw [hcmd]
      cases decide (usdoHeaderSize < f.payload.length) <;> decide
    · rw [hcmd, decide_eq_false hshort]
      decide
  unfold decodeMux at h
  simp only at h
  rw [if_neg hno, if_neg hblock] at h
  split at h
  · exact nomatch h
  split at h
  · exact nomatch h
  split at h
  · exact (Except.ok.inj h).symm
  · exact (Except.ok.inj h).symm

/-- A frame with a data block. -/
theorem mux_data (hcmd : f.byte 1 = cmdDownloadReq ∨ f.byte 1 = cmdUploadResp ∨
      (f.byte 1 = cmdDownloadResp ∧ usdoHeaderSize < f.payload.length))
    (h : decodeMux f (headPdu f) = .ok pdu) :
    (f.byte 7).toNat ≤ usdoDataMax ∧ 8 + (f.byte 7).toNat ≤ f.payload.length ∧
      pdu = { muxPdu f with
        dataType := f.byte 6, data := (f.payload.drop 8).take (f.byte 7).toNat } := by
  have hno : ¬ ((headPdu f).cmd == cmdDownloadInitReq || (headPdu f).cmd == cmdUploadInitResp)
      = true := by
    show ¬ (f.byte 1 == _ || f.byte 1 == _) = true
    obtain hcmd | hcmd | ⟨hcmd, -⟩ := hcmd <;> rw [hcmd] <;> decide
  have hno' : ¬ ((headPdu f).cmd == cmdDownloadInitResp) = true := by
    show ¬ (f.byte 1 == _) = true
    obtain hcmd | hcmd | ⟨hcmd, -⟩ := hcmd <;> rw [hcmd] <;> decide
  have hblock : (cmdMustHaveData (headPdu f).cmd || ((headPdu f).cmd == cmdDownloadResp
      && decide (f.payload.length > usdoHeaderSize))) = true := by
    show (cmdMustHaveData (f.byte 1) || (f.byte 1 == cmdDownloadResp
      && decide (usdoHeaderSize < f.payload.length))) = true
    obtain hcmd | hcmd | ⟨hcmd, hlong⟩ := hcmd
    · rw [hcmd]
      rfl
    · rw [hcmd]
      rfl
    · rw [hcmd, decide_eq_true hlong]
      rfl
  unfold decodeMux at h
  simp only at h
  rw [if_neg hno, if_neg hno', if_pos hblock] at h
  split at h
  · exact nomatch h
  split at h
  · exact nomatch h
  split at h
  · exact nomatch h
  split at h
  · exact nomatch h
  rename_i hmax
  split at h
  · exact nomatch h
  rename_i hbody
  exact ⟨Nat.not_lt.mp hmax, Nat.not_lt.mp hbody, (Except.ok.inj h).symm⟩

/-! ### Encoding it again -/

/-- What was decoded encodes again to a frame that says the same when its message fits, names
    a session, and says all the PDU holds. -/
theorem again_iff {m : Message} (hm : message pdu = some m) (hsrc : validNode pdu.srcNode = true)
    (hdst : validNode pdu.dstNode = true) :
    (∃ f', reencode pdu = some f' ∧ decode f' = .ok pdu) ↔
      pdu.session ≠ 0 ∧ m.Fits ∧ m.pdu pdu.srcNode pdu.dstNode pdu.session = pdu := by
  have hre : reencode pdu = m.encode pdu.srcNode pdu.dstNode pdu.session := by
    rw [reencode, hm]
    rfl
  rw [hre]
  constructor
  · rintro ⟨f', henc, hdec⟩
    obtain ⟨⟨-, -, hsession⟩, hfits⟩ := Message.encode_some henc
    exact ⟨hsession, hfits, Except.ok.inj ((decode_encode henc).1.symm.trans hdec)⟩
  · rintro ⟨hsession, hfits, hsame⟩
    obtain ⟨f', henc, hcarries⟩ := Message.carried hsrc hdst hsession hfits
    refine ⟨f', henc, ?_⟩
    rw [hcarries.decoded, hsame]

/-- The part of `Canonical` that is about the bytes from byte 3 on. -/
def CanonicalTail (f : Frame) : Prop :=
  (f.byte 1 = cmdAbort → 0x1000 ≤ getU16le (f.byte 4) (f.byte 5)) ∧
  (f.byte 1 = cmdDownloadEndReq → f.byte 3 ≠ 0) ∧
  (f.byte 1 ∈ [cmdDownloadReq, cmdUploadResp, cmdDownloadInitReq, cmdUploadInitResp] →
    f.byte 6 = typeDomain) ∧
  (f.byte 1 = cmdDownloadResp → usdoHeaderSize < f.payload.length →
    f.byte 6 = if f.byte 7 = 0 then 0 else typeDomain)

/-- Length, byte for byte, of a block that is long enough. -/
theorem length_block {k n : Nat} (h : k + n ≤ f.payload.length) :
    ((f.payload.drop k).take n).length = n := by
  rw [List.length_take, List.length_drop]
  omega

/-- The message of an accepted PDU fits and says all of it when the tail is canonical. -/
def Faithful (f : Frame) (pdu : Pdu) : Prop :=
  ∃ m, message pdu = some m ∧ pdu.cmd = f.byte 1 ∧ pdu.srcNode = (canIdSplit f.idValue).1 ∧
    pdu.dstNode = f.byte 0 ∧ pdu.session = f.byte 2 ∧
    (CanonicalTail f → pdu.muxValid = true → 0x1000 ≤ pdu.index) ∧
    (m.Fits ∧ m.pdu pdu.srcNode pdu.dstNode pdu.session = pdu ↔ CanonicalTail f)

/-- A frame with a data block. -/
theorem faithful_data (hcmd : f.byte 1 = cmdDownloadReq ∨ f.byte 1 = cmdUploadResp)
    (h : decodeMux f (headPdu f) = .ok pdu) : Faithful f pdu := by
  have hindex := mux_index h
  obtain ⟨hmax, -, rfl⟩ := mux_data (hcmd.imp_right Or.inl) h
  obtain hc | hc := hcmd
  · refine ⟨.downloadReq (getU16le (f.byte 4) (f.byte 5)) (f.byte 3)
      ((f.payload.drop 8).take (f.byte 7).toNat), ?_, rfl, rfl, rfl, rfl, fun _ _ => hindex, ?_⟩
    · simp +decide [message, muxPdu, headPdu, hc]
    · simp +decide [Message.Fits, Message.pdu, Message.cmd, CanonicalTail, muxPdu, headPdu, hc,
        hindex, hmax, eq_comm]
  · refine ⟨.uploadResp (getU16le (f.byte 4) (f.byte 5)) (f.byte 3)
      ((f.payload.drop 8).take (f.byte 7).toNat), ?_, rfl, rfl, rfl, rfl, fun _ _ => hindex, ?_⟩
    · simp +decide [message, muxPdu, headPdu, hc]
    · simp +decide [Message.Fits, Message.pdu, Message.cmd, CanonicalTail, muxPdu, headPdu, hc,
        hindex, hmax, eq_comm]

/-- A download response: with a data block behind the multiplexor, or without. -/
theorem faithful_downloadResp (hc : f.byte 1 = cmdDownloadResp)
    (h : decodeMux f (headPdu f) = .ok pdu) : Faithful f pdu := by
  have hindex := mux_index h
  by_cases hlong : usdoHeaderSize < f.payload.length
  · obtain ⟨hmax, hbody, rfl⟩ := mux_data (.inr (.inr ⟨hc, hlong⟩)) h
    have hlen := length_block hbody
    have hempty : (f.payload.drop 8).take (f.byte 7).toNat = [] ↔ f.byte 7 = 0 := by
      rw [← List.length_eq_zero_iff, hlen, ← UInt8.toNat_inj]
      rfl
    refine ⟨.downloadResp (getU16le (f.byte 4) (f.byte 5)) (f.byte 3)
      ((f.payload.drop 8).take (f.byte 7).toNat), ?_, rfl, rfl, rfl, rfl, fun _ _ => hindex, ?_⟩
    · simp +decide [message, muxPdu, headPdu, hc]
    · generalize (f.payload.drop 8).take (f.byte 7).toNat = data at hlen hempty ⊢
      simp +decide [Message.Fits, Message.pdu, Message.cmd, CanonicalTail, muxPdu, headPdu, hc,
        hindex, hlen, hmax, hempty, hlong, eq_comm]
  · obtain rfl := mux_bare (.inr (.inr ⟨hc, hlong⟩)) h
    refine ⟨.downloadResp (getU16le (f.byte 4) (f.byte 5)) (f.byte 3) [], ?_, rfl, rfl, rfl, rfl,
      fun _ _ => hindex, ?_⟩
    · simp +decide [message, muxPdu, headPdu, hc]
    · simp +decide [Message.Fits, Message.pdu, Message.cmd, CanonicalTail, muxPdu, headPdu, hc,
        hindex, hlong]

/-- A frame that ends with the multiplexor. -/
theorem faithful_bare (hcmd : f.byte 1 = cmdUploadReq ∨ f.byte 1 = cmdDownloadInitResp)
    (h : decodeMux f (headPdu f) = .ok pdu) : Faithful f pdu := by
  have hindex := mux_index h
  obtain rfl := mux_bare (hcmd.imp_right Or.inl) h
  obtain hc | hc := hcmd
  · refine ⟨.uploadReq (getU16le (f.byte 4) (f.byte 5)) (f.byte 3), ?_, rfl, rfl, rfl, rfl,
      fun _ _ => hindex, ?_⟩
    · simp +decide [message, muxPdu, headPdu, hc]
    · simp +decide [Message.Fits, Message.pdu, Message.cmd, CanonicalTail, muxPdu, headPdu, hc,
        hindex]
  · refine ⟨.downloadInitResp (getU16le (f.byte 4) (f.byte 5)) (f.byte 3), ?_, rfl, rfl, rfl, rfl,
      fun _ _ => hindex, ?_⟩
    · simp +decide [message, muxPdu, headPdu, hc]
    · simp +decide [Message.Fits, Message.pdu, Message.cmd, CanonicalTail, muxPdu, headPdu, hc,
        hindex]

/-- An initiate frame. -/
theorem faithful_init (hcmd : f.byte 1 = cmdDownloadInitReq ∨ f.byte 1 = cmdUploadInitResp)
    (h : decodeMux f (headPdu f) = .ok pdu) : Faithful f pdu := by
  have hindex := mux_index h
  obtain ⟨totalSize, hpos, hmax, rfl⟩ := mux_init hcmd h
  obtain hc | hc := hcmd
  · refine ⟨.downloadInitReq (getU16le (f.byte 4) (f.byte 5)) (f.byte 3) totalSize, ?_, rfl, rfl,
      rfl, rfl, fun _ _ => hindex, ?_⟩
    · simp +decide [message, muxPdu, headPdu, hc]
    · simp +decide [Message.Fits, Message.pdu, Message.cmd, CanonicalTail, muxPdu, headPdu, hc,
        hindex, hpos, hmax, eq_comm]
  · refine ⟨.uploadInitResp (getU16le (f.byte 4) (f.byte 5)) (f.byte 3) totalSize, ?_, rfl, rfl,
      rfl, rfl, fun _ _ => hindex, ?_⟩
    · simp +decide [message, muxPdu, headPdu, hc]
    · simp +decide [Message.Fits, Message.pdu, Message.cmd, CanonicalTail, muxPdu, headPdu, hc,
        hindex, hpos, hmax, eq_comm]

/-- A full segment: its sixty bytes are the block of the message. -/
theorem faithful_segment (hcmd : f.byte 1 = cmdDownloadSegReq ∨ f.byte 1 = cmdUploadSegResp)
    (h : decodeBody f (headPdu f) = .ok pdu) : Faithful f pdu := by
  obtain ⟨hfull, rfl⟩ := body_segment hcmd h
  have hblock : toList (slice usdoSegDataMax 0 ((f.payload.drop usdoSegHeaderSize).take
      usdoSegDataMax)) = (f.payload.drop usdoSegHeaderSize).take usdoSegDataMax := by
    have hlen := length_block (show usdoSegHeaderSize + usdoSegDataMax ≤ f.payload.length from hfull)
    rw [toList_slice _ _ _ (by omega), List.drop_zero, List.take_of_length_le hlen.le]
  obtain hc | hc := hcmd
  · refine ⟨.downloadSegReq (f.byte 3) (slice usdoSegDataMax 0
      ((f.payload.drop usdoSegHeaderSize).take usdoSegDataMax)), ?_, rfl, rfl, rfl, rfl,
      fun _ hmux => (nomatch hmux), ?_⟩
    · simp +decide [message, headPdu, hc]
    · simp +decide [Message.Fits, Message.pdu, Message.cmd, CanonicalTail, headPdu, hc, hblock]
  · refine ⟨.uploadSegResp (f.byte 3) (slice usdoSegDataMax 0
      ((f.payload.drop usdoSegHeaderSize).take usdoSegDataMax)), ?_, rfl, rfl, rfl, rfl,
      fun _ hmux => (nomatch hmux), ?_⟩
    · simp +decide [message, headPdu, hc]
    · simp +decide [Message.Fits, Message.pdu, Message.cmd, CanonicalTail, headPdu, hc, hblock]

/-- A last segment: byte 3 counts its data. -/
theorem faithful_end (hcmd : f.byte 1 = cmdDownloadEndReq ∨ f.byte 1 = cmdUploadEndResp)
    (h : decodeBody f (headPdu f) = .ok pdu) : Faithful f pdu := by
  obtain ⟨hmax, hbody, rfl⟩ := body_end hcmd h
  have hlen := length_block hbody
  have hempty : (f.payload.drop 4).take (f.byte 3).toNat = [] ↔ f.byte 3 = 0 := by
    rw [← List.length_eq_zero_iff, hlen, ← UInt8.toNat_inj]
    rfl
  obtain hc | hc := hcmd
  · refine ⟨.downloadEndReq ((f.payload.drop usdoSegHeaderSize).take (f.byte 3).toNat), ?_, rfl,
      rfl, rfl, rfl, fun _ hmux => (nomatch hmux), ?_⟩
    · simp +decide [message, headPdu, hc]
    · simp +decide [Message.Fits, Message.pdu, Message.cmd, CanonicalTail, headPdu, hc, hlen, hmax,
        hempty]
  · refine ⟨.uploadEndResp ((f.payload.drop usdoSegHeaderSize).take (f.byte 3).toNat), ?_, rfl,
      rfl, rfl, rfl, fun _ hmux => (nomatch hmux), ?_⟩
    · simp +decide [message, headPdu, hc]
    · simp +decide [Message.Fits, Message.pdu, Message.cmd, CanonicalTail, headPdu, hc, hlen, hmax]

/-- The frames without data. -/
theorem faithful_counter (hcmd : f.byte 1 = cmdDownloadSegResp ∨ f.byte 1 = cmdUploadSegReq)
    (h : decodeBody f (headPdu f) = .ok pdu) : Faithful f pdu := by
  obtain rfl := body_counter hcmd h
  obtain hc | hc := hcmd
  · refine ⟨.downloadSegResp (f.byte 3), ?_, rfl, rfl, rfl, rfl, fun _ hmux => (nomatch hmux), ?_⟩
    · simp +decide [message, headPdu, hc]
    · simp +decide [Message.Fits, Message.pdu, Message.cmd, CanonicalTail, headPdu, hc]
  · refine ⟨.uploadSegReq (f.byte 3), ?_, rfl, rfl, rfl, rfl, fun _ hmux => (nomatch hmux), ?_⟩
    · simp +decide [message, headPdu, hc]
    · simp +decide [Message.Fits, Message.pdu, Message.cmd, CanonicalTail, headPdu, hc]

theorem faithful_endResp (hc : f.byte 1 = cmdDownloadEndResp)
    (h : decodeBody f (headPdu f) = .ok pdu) : Faithful f pdu := by
  obtain rfl := body_endResp hc h
  refine ⟨.downloadEndResp, ?_, rfl, rfl, rfl, rfl, fun _ hmux => (nomatch hmux), ?_⟩
  · simp +decide [message, headPdu, hc]
  · simp +decide [Message.Fits, Message.pdu, Message.cmd, CanonicalTail, headPdu, hc]

/-- An abort: the one multiplexor whose index is not checked. -/
theorem faithful_abort (hc : f.byte 1 = cmdAbort) (h : decodeBody f (headPdu f) = .ok pdu) :
    Faithful f pdu := by
  obtain rfl := body_abort hc h
  refine ⟨.abort (getU16le (f.byte 4) (f.byte 5)) (f.byte 3) (f.byte 6), ?_, rfl, rfl, rfl, rfl,
    fun htail _ => htail.1 hc, ?_⟩
  · simp +decide [message, muxPdu, headPdu, hc]
  · simp +decide [Message.Fits, Message.pdu, Message.cmd, CanonicalTail, muxPdu, headPdu, hc]

/-- **One case for each command.** -/
theorem faithful (hknown : cmdIsKnown (f.byte 1) = true)
    (h : decodeBody f (headPdu f) = .ok pdu) : Faithful f pdu := by
  have hmux (hcmd : (headPdu f).cmd ∈ [cmdDownloadReq, cmdDownloadResp, cmdUploadReq,
      cmdUploadResp, cmdDownloadInitReq, cmdDownloadInitResp, cmdUploadInitResp]) :
      decodeMux f (headPdu f) = .ok pdu := (decodeBody_mux hcmd).symm.trans h
  simp only [cmdIsKnown, List.contains_eq_mem, decide_eq_true_eq, List.mem_cons,
    List.not_mem_nil, or_false] at hknown
  have hin {cmd : UInt8} (hc : f.byte 1 = cmd) (hmem : cmd ∈ [cmdDownloadReq, cmdDownloadResp,
      cmdUploadReq, cmdUploadResp, cmdDownloadInitReq, cmdDownloadInitResp, cmdUploadInitResp]) :
      (headPdu f).cmd ∈ [cmdDownloadReq, cmdDownloadResp, cmdUploadReq, cmdUploadResp,
        cmdDownloadInitReq, cmdDownloadInitResp, cmdUploadInitResp] := by
    rwa [show (headPdu f).cmd = cmd from hc]
  rcases hknown with hc | hc | hc | hc | hc | hc | hc | hc | hc | hc | hc | hc | hc | hc | hc
  · exact faithful_data (.inl hc) (hmux (hin hc (by decide)))
  · exact faithful_downloadResp hc (hmux (hin hc (by decide)))
  · exact faithful_bare (.inl hc) (hmux (hin hc (by decide)))
  · exact faithful_data (.inr hc) (hmux (hin hc (by decide)))
  · exact faithful_abort hc h
  · exact faithful_init (.inl hc) (hmux (hin hc (by decide)))
  · exact faithful_segment (.inl hc) h
  · exact faithful_end (.inl hc) h
  · exact faithful_counter (.inr hc) h
  · exact faithful_bare (.inr hc) (hmux (hin hc (by decide)))
  · exact faithful_counter (.inl hc) h
  · exact faithful_endResp hc h
  · exact faithful_init (.inr hc) (hmux (hin hc (by decide)))
  · exact faithful_segment (.inr hc) h
  · exact faithful_end (.inr hc) h

/-- **The frames of the grammar.**  A valid CAN FD frame that the decoder accepts is one that
    some encoder could have sent exactly when its bytes are canonical. -/
theorem accepted_iff (hvalid : frameValid f = true) (h : decode f = .ok pdu) :
    Sendable f pdu ↔ Canonical f := by
  obtain ⟨hkind, hdst, hknown, hbody⟩ := decode_head h
  obtain ⟨hnode, -, -⟩ := canIdSplit_kind hkind
  obtain ⟨m, hm, hcmd, hsrc, hdst', hsession, hindex, htail⟩ := faithful hknown hbody
  have hagain := again_iff hm (by rw [hsrc]; exact hnode) (by rw [hdst']; exact hdst)
  have hid := identifier_iff hvalid hkind (f.byte 1)
  constructor
  · intro hsend
    obtain ⟨hses, hfits⟩ := hagain.mp hsend.again
    obtain ⟨habort, hlast, htyped, hacked⟩ := htail.mp hfits
    have hident := hsend.identifier.2
    rw [hcmd, hsrc] at hident
    obtain ⟨hstd, hbase⟩ := hid.mp hident
    exact ⟨hstd, hbase, by rwa [← hsession], habort, hlast, htyped, hacked⟩
  · intro hcanon
    have htail' : CanonicalTail f := ⟨hcanon.abort, hcanon.last, hcanon.typed, hcanon.acked⟩
    have hses : pdu.session ≠ 0 := by
      rw [hsession]
      exact hcanon.session
    refine ⟨⟨by rw [hsrc]; exact hnode, ?_⟩, hses, hindex htail',
      hagain.mpr ⟨hses, htail.mpr htail'⟩⟩
    rw [hcmd, hsrc]
    exact hid.mpr ⟨hcanon.standard, hcanon.base⟩

/-! ## Worked frames -/

/-- A download request of node 20 to node 5 for 2010h, without data. -/
def sampleRequest (session : UInt8) : Frame :=
  ⟨0x614, flagBrs, [5, cmdDownloadReq, session, 0, 0x10, 0x20, typeDomain, 0]⟩

/-- In session 1 it is a frame of the encoders. -/
theorem sampleRequest_sendable :
    ∃ pdu, decode (sampleRequest 1) = .ok pdu ∧ Sendable (sampleRequest 1) pdu := by
  have hdec : decode (sampleRequest 1) = .ok
      (Message.pdu 20 5 1 (.downloadReq 0x2010 0 [])) := by decide +kernel
  have hcanon : Canonical (sampleRequest 1) :=
    ⟨by decide, by decide +kernel, by decide, fun h => absurd h (by decide),
      fun h => absurd h (by decide), fun _ => rfl, fun h => absurd h (by decide)⟩
  exact ⟨_, hdec, (accepted_iff (by decide +kernel) hdec).mpr hcanon⟩

/-- In session 0 it is accepted too, and no answer to it can be encoded. -/
theorem session_zero_accepted :
    ¬ ∀ (f : Frame) (pdu : Pdu), frameValid f = true → decode f = .ok pdu → Sendable f pdu := by
  intro h
  have hdec : decode (sampleRequest 0) = .ok
      (Message.pdu 20 5 0 (.downloadReq 0x2010 0 [])) := by decide +kernel
  exact (h _ _ (by decide +kernel) hdec).session rfl

end SofaUsdoFormat
