import Sofa.Device

/-! # Frames of the CANopen FD carrier

    `fbsec_co_fd_usdo.c`: the USDO frames that a request, its segments and its answers
    travel in, with their encoders and the decoder.  An encoder refuses arguments no frame
    can carry; the decoder refuses frames that no encoder makes.

    The headlines are the round trips, **`decode_expedited`**, **`decode_init`**,
    **`decode_segment`**, **`decode_end`**, **`decode_abort`** and their answers: what an
    encoder was given is what the decoder reads. -/

namespace SofaUsdo

open SofaConfig SofaDevice

/-! ## Frames -/

abbrev payloadMax : Nat := 64
/-- `FBSEC_CO_FD_USDO_HEADER_SIZE`, and the bytes of a data prefix. -/
abbrev usdoHeaderSize : Nat := 6
abbrev usdoDataPrefixSize : Nat := 2
/-- `FBSEC_CO_FD_USDO_DATA_MAX`. -/
abbrev usdoDataMax : Nat := payloadMax - usdoHeaderSize - usdoDataPrefixSize
abbrev nodeIdMax : UInt8 := 127
abbrev usdoSegHeaderSize : Nat := 4
/-- `FBSEC_CO_FD_USDO_SEG_DATA_MAX`. -/
abbrev usdoSegDataMax : Nat := payloadMax - usdoSegHeaderSize
abbrev usdoInitSize : Nat := 12
abbrev usdoEndRespSize : Nat := 3
abbrev usdoAbortSize : Nat := 7
abbrev usdoAbortAcOffset : Nat := 6
abbrev usdoSegBodyMax : Nat := 256

abbrev usdoReqBase : UInt32 := 0x600
abbrev usdoRspBase : UInt32 := 0x580
abbrev usdoBaseMask : UInt32 := 0x780
abbrev usdoNidMask : UInt32 := 0x07F
abbrev canIdValue : UInt32 := 0x1FFFFFFF
/-- `FBSEC_CO_FD_FLAG_BRS`. -/
abbrev flagBrs : UInt8 := 0x01

abbrev cmdDownloadReq : UInt8 := 0x01
abbrev cmdDownloadResp : UInt8 := 0x21
abbrev cmdUploadReq : UInt8 := 0x11
abbrev cmdUploadResp : UInt8 := 0x31
abbrev cmdAbort : UInt8 := 0x7F
abbrev cmdDownloadInitReq : UInt8 := 0x02
abbrev cmdDownloadSegReq : UInt8 := 0x03
abbrev cmdDownloadEndReq : UInt8 := 0x04
abbrev cmdUploadSegReq : UInt8 := 0x13
abbrev cmdDownloadInitResp : UInt8 := 0x22
abbrev cmdDownloadSegResp : UInt8 := 0x23
abbrev cmdDownloadEndResp : UInt8 := 0x24
abbrev cmdUploadInitResp : UInt8 := 0x32
abbrev cmdUploadSegResp : UInt8 := 0x33
abbrev cmdUploadEndResp : UInt8 := 0x34
/-- `FBSEC_CO_FD_USDO_TYPE_DOMAIN`. -/
abbrev typeDomain : UInt8 := 0x0F

/-- `fbsec_co_fd_frame_t`; the length is that of the payload. -/
structure Frame where
  canId : UInt32
  flags : UInt8
  payload : List UInt8
  deriving DecidableEq

/-- A byte of the payload; the decoder checks the length before it reads one. -/
def Frame.byte (f : Frame) (i : Nat) : UInt8 := f.payload.getD i 0

/-- `fbsec_co_fd_frame_id_value`. -/
def Frame.idValue (f : Frame) : UInt32 := f.canId &&& canIdValue

/-! ## CAN ids and command specifiers -/

/-- A node id that CANopen gives out. -/
def validNode (node : UInt8) : Bool := node != 0 && node ≤ nodeIdMax

/-- `fbsec_co_fd_usdo_can_id`; 0 for a sender that has none. -/
def usdoCanId (sender : UInt8) (toServer : Bool) : UInt32 :=
  if !validNode sender then 0
  else (if toServer then usdoReqBase else usdoRspBase) ||| sender.toUInt32

/-- `fbsec_co_fd_usdo_kind_t`, of which a CAN id decides these. -/
inductive UsdoKind where
  | none
  | request
  | response
  deriving DecidableEq

/-- `fbsec_co_fd_usdo_can_id_split`. -/
def canIdSplit (canId : UInt32) : UInt8 × UsdoKind :=
  let sender := (canId &&& usdoNidMask).toUInt8
  if !validNode sender then (sender, .none)
  else if canId &&& usdoBaseMask = usdoReqBase then (sender, .request)
  else if canId &&& usdoBaseMask = usdoRspBase then (sender, .response)
  else (sender, .none)

/-- `cmd_is_known`. -/
def cmdIsKnown (cmd : UInt8) : Bool :=
  [cmdDownloadReq, cmdDownloadResp, cmdUploadReq, cmdUploadResp, cmdAbort, cmdDownloadInitReq,
    cmdDownloadSegReq, cmdDownloadEndReq, cmdUploadSegReq, cmdDownloadInitResp,
    cmdDownloadSegResp, cmdDownloadEndResp, cmdUploadInitResp, cmdUploadSegResp,
    cmdUploadEndResp].contains cmd

/-- `cmd_is_request`. -/
def cmdIsRequest (cmd : UInt8) : Bool :=
  [cmdDownloadReq, cmdUploadReq, cmdDownloadInitReq, cmdDownloadSegReq, cmdDownloadEndReq,
    cmdUploadSegReq].contains cmd

/-- `cmd_must_have_data`. -/
def cmdMustHaveData (cmd : UInt8) : Bool := cmd == cmdDownloadReq || cmd == cmdUploadResp

/-- `cmd_emits_data`. -/
def cmdEmitsData (cmd : UInt8) (dataLen : Nat) : Bool :=
  cmdMustHaveData cmd || (cmd == cmdDownloadResp && dataLen > 0)

/-! ## Encoders -/

/-- A frame of the encoders: a standard id, bit-rate switch, a payload. -/
def usdoFrame (src : UInt8) (toServer : Bool) (payload : List UInt8) : Frame where
  canId := usdoCanId src toServer &&& canIdValue
  flags := flagBrs
  payload := payload

/-- The little-endian index of a multiplexor. -/
def indexBytes (index : UInt16) : List UInt8 := [index.toUInt8, (index >>> 8).toUInt8]

/-- `encode_common`; `none` is a refusal. -/
def encodeCommon (src dst cmd session : UInt8) (index : UInt16) (subindex dataType : UInt8)
    (data : List UInt8) : Option Frame :=
  if !validNode src || !validNode dst || session == 0 || index < 0x1000
      || data.length > usdoDataMax then none
  else some (usdoFrame src (cmdIsRequest cmd)
    ([dst, cmd, session, subindex] ++ indexBytes index
      ++ if cmdEmitsData cmd data.length then dataType :: UInt8.ofNat data.length :: data else []))

/-- `fbsec_co_fd_usdo_encode_download_req` and its siblings. -/
def encodeDownloadReq (src dst session : UInt8) (index : UInt16) (subindex : UInt8)
    (data : List UInt8) : Option Frame :=
  encodeCommon src dst cmdDownloadReq session index subindex typeDomain data

def encodeDownloadResp (src dst session : UInt8) (index : UInt16) (subindex : UInt8)
    (data : List UInt8) : Option Frame :=
  encodeCommon src dst cmdDownloadResp session index subindex typeDomain data

/-- An upload request carries no data. -/
def encodeUploadReq (src dst session : UInt8) (index : UInt16) (subindex : UInt8) :
    Option Frame :=
  encodeCommon src dst cmdUploadReq session index subindex 0 []

def encodeUploadResp (src dst session : UInt8) (index : UInt16) (subindex : UInt8)
    (data : List UInt8) : Option Frame :=
  encodeCommon src dst cmdUploadResp session index subindex typeDomain data

/-- `encode_seg_common`, with the bytes from byte 3 on, which are the caller's. -/
def encodeSegCommon (src dst cmd session : UInt8) (rest : List UInt8) : Option Frame :=
  if !validNode src || !validNode dst || session == 0 then none
  else some (usdoFrame src (cmdIsRequest cmd) ([dst, cmd, session] ++ rest))

/-- `encode_init_common`. -/
def encodeInitCommon (src dst cmd session : UInt8) (index : UInt16) (subindex : UInt8)
    (totalSize : UInt32) : Option Frame :=
  if totalSize == 0 || totalSize.toNat > usdoSegBodyMax || index < 0x1000 then none
  else encodeSegCommon src dst cmd session
    ([subindex] ++ indexBytes index ++ [typeDomain, 0x00] ++ putU32le totalSize)

/-- `encode_seg_data`: a counter and exactly one segment of data. -/
def encodeSegData (src dst cmd session counter : UInt8) (data : List UInt8) : Option Frame :=
  encodeSegCommon src dst cmd session (counter :: data.take usdoSegDataMax)

/-- `encode_seg_end`: byte 3 is the length. -/
def encodeSegEnd (src dst cmd session : UInt8) (data : List UInt8) : Option Frame :=
  if data.length > usdoSegDataMax then none
  else encodeSegCommon src dst cmd session (UInt8.ofNat data.length :: data)

def encodeDownloadInitReq (src dst session : UInt8) (index : UInt16) (subindex : UInt8)
    (totalSize : UInt32) : Option Frame :=
  encodeInitCommon src dst cmdDownloadInitReq session index subindex totalSize

def encodeDownloadInitResp (src dst session : UInt8) (index : UInt16) (subindex : UInt8) :
    Option Frame :=
  if index < 0x1000 then none
  else encodeSegCommon src dst cmdDownloadInitResp session ([subindex] ++ indexBytes index)

def encodeDownloadSegReq (src dst session counter : UInt8) (data : List UInt8) : Option Frame :=
  encodeSegData src dst cmdDownloadSegReq session counter data

def encodeDownloadSegResp (src dst session counter : UInt8) : Option Frame :=
  encodeSegCommon src dst cmdDownloadSegResp session [counter]

/-- A download always ends with payload. -/
def encodeDownloadEndReq (src dst session : UInt8) (data : List UInt8) : Option Frame :=
  if data.length == 0 then none else encodeSegEnd src dst cmdDownloadEndReq session data

def encodeDownloadEndResp (src dst session : UInt8) : Option Frame :=
  encodeSegCommon src dst cmdDownloadEndResp session []

def encodeUploadInitResp (src dst session : UInt8) (index : UInt16) (subindex : UInt8)
    (totalSize : UInt32) : Option Frame :=
  encodeInitCommon src dst cmdUploadInitResp session index subindex totalSize

def encodeUploadSegReq (src dst session counter : UInt8) : Option Frame :=
  encodeSegCommon src dst cmdUploadSegReq session [counter]

def encodeUploadSegResp (src dst session counter : UInt8) (data : List UInt8) : Option Frame :=
  encodeSegData src dst cmdUploadSegResp session counter data

def encodeUploadEndResp (src dst session : UInt8) (data : List UInt8) : Option Frame :=
  encodeSegEnd src dst cmdUploadEndResp session data

def encodeAbort (src dst session : UInt8) (index : UInt16) (subindex : UInt8)
    (abortCode : Abort) : Option Frame :=
  if index < 0x1000 then none
  else encodeSegCommon src dst cmdAbort session ([subindex] ++ indexBytes index ++ [abortCode])

/-! ## The decoder -/

/-- `fbsec_co_fd_usdo_pdu_t`; the data length is that of the data. -/
structure Pdu where
  srcNode : UInt8
  dstNode : UInt8
  cmd : UInt8
  session : UInt8
  index : UInt16 := 0
  subindex : UInt8 := 0
  muxValid : Bool := false
  counter : UInt8 := 0
  totalSize : UInt32 := 0
  dataType : UInt8 := 0
  abortCode : Abort := abortNone
  data : List UInt8 := []
  deriving DecidableEq

/-- `fbsec_co_fd_usdo_decode_t` without `OK`. -/
inductive DecodeError where
  | frameTooShort
  | reservedNode
  | badCmd
  | badIndex
  | badAbortLen
  | notUsdo
  | badSegment
  deriving DecidableEq

/-- A little-endian pair. -/
def getU16le (lo hi : UInt8) : UInt16 := lo.toUInt16 ||| (hi.toUInt16 <<< 8)

/-- Four bytes, least significant first. -/
def getU32le (b0 b1 b2 b3 : UInt8) : UInt32 :=
  b0.toUInt32 ||| (b1.toUInt32 <<< 8) ||| (b2.toUInt32 <<< 16) ||| (b3.toUInt32 <<< 24)

/-- The multiplexor-carrying frames of `fbsec_co_fd_usdo_decode`. -/
def decodeMux (f : Frame) (base : Pdu) : Except DecodeError Pdu :=
  if f.payload.length < usdoHeaderSize then .error .frameTooShort
  else
    let pdu := { base with
      subindex := f.byte 3
      index := getU16le (f.byte 4) (f.byte 5)
      muxValid := true }
    if pdu.index < 0x1000 then .error .badIndex
    else if pdu.cmd == cmdDownloadInitReq || pdu.cmd == cmdUploadInitResp then
      let totalSize := getU32le (f.byte 8) (f.byte 9) (f.byte 10) (f.byte 11)
      if f.payload.length < usdoInitSize then .error .frameTooShort
      else if totalSize == 0 || totalSize.toNat > usdoSegBodyMax then .error .badSegment
      else .ok { pdu with dataType := f.byte 6, totalSize := totalSize }
    else if pdu.cmd == cmdDownloadInitResp then .ok pdu
    else if cmdMustHaveData pdu.cmd
        || (pdu.cmd == cmdDownloadResp && f.payload.length > usdoHeaderSize) then
      let dataLen := (f.byte 7).toNat
      if f.payload.length < usdoHeaderSize + usdoDataPrefixSize then .error .frameTooShort
      else if dataLen > usdoDataMax then .error .badCmd
      else if f.payload.length < usdoHeaderSize + usdoDataPrefixSize + dataLen then
        .error .frameTooShort
      else .ok { pdu with dataType := f.byte 6, data := (f.payload.drop 8).take dataLen }
    else .ok pdu

/-- `fbsec_co_fd_usdo_decode` past the checks that all frames share. -/
def decodeBody (f : Frame) (pdu : Pdu) : Except DecodeError Pdu :=
  if pdu.cmd == cmdDownloadSegReq || pdu.cmd == cmdUploadSegResp then
    if f.payload.length < payloadMax then .error .badSegment
    else .ok { pdu with
      counter := f.byte 3, data := (f.payload.drop usdoSegHeaderSize).take usdoSegDataMax }
  else if pdu.cmd == cmdDownloadEndReq || pdu.cmd == cmdUploadEndResp then
    let dataLen := (f.byte 3).toNat
    if f.payload.length < usdoSegHeaderSize then .error .frameTooShort
    else if dataLen > usdoSegDataMax then .error .badSegment
    else if f.payload.length < usdoSegHeaderSize + dataLen then .error .frameTooShort
    else .ok { pdu with
      counter := f.byte 3, data := (f.payload.drop usdoSegHeaderSize).take dataLen }
  else if pdu.cmd == cmdDownloadSegResp || pdu.cmd == cmdUploadSegReq then
    if f.payload.length < usdoSegHeaderSize then .error .frameTooShort
    else .ok { pdu with counter := f.byte 3 }
  else if pdu.cmd == cmdDownloadEndResp then .ok pdu
  else if pdu.cmd == cmdAbort then
    if f.payload.length < usdoAbortSize then .error .badAbortLen
    else .ok { pdu with
      subindex := f.byte 3
      index := getU16le (f.byte 4) (f.byte 5)
      muxValid := true
      abortCode := f.byte usdoAbortAcOffset }
  else decodeMux f pdu

/-- `fbsec_co_fd_usdo_decode`. -/
def decode (f : Frame) : Except DecodeError Pdu :=
  let split := canIdSplit f.idValue
  if split.2 = .none then .error .notUsdo
  else if f.payload.length < usdoEndRespSize then .error .frameTooShort
  else if !validNode (f.byte 0) then .error .reservedNode
  else if !cmdIsKnown (f.byte 1) then .error .badCmd
  else decodeBody f
    { srcNode := split.1, dstNode := f.byte 0, cmd := f.byte 1, session := f.byte 2 }

/-! ## Numbers on the wire -/

/-- The low `k` bits of a number and the byte above them. -/
theorem byte_above (n k : Nat) :
    n % 2 ^ k ||| (n >>> k % 2 ^ 8) <<< k = n % 2 ^ (k + 8) := by
  apply Nat.eq_of_testBit_eq
  intro i
  rw [Nat.testBit_lor, Nat.testBit_mod_two_pow, Nat.testBit_shiftLeft, Nat.testBit_mod_two_pow,
    Nat.testBit_shiftRight, Nat.testBit_mod_two_pow]
  by_cases hi : i < k
  · have hk : ¬ k ≤ i := by omega
    have hk8 : i < k + 8 := by omega
    simp [hi, hk, hk8]
  · have hk : k ≤ i := by omega
    have hsum : k + (i - k) = i := by omega
    have hiff : i - k < 8 ↔ i < k + 8 := by omega
    simp [hi, hk, hsum, hiff]

/-- A byte shifted into place stays below the word. -/
theorem byte_shift_lt (n : Nat) {k w : Nat} (h : k + 8 ≤ w) : (n % 2 ^ 8) <<< k < 2 ^ w := by
  have hbyte : n % 2 ^ 8 < 2 ^ 8 := Nat.mod_lt _ (by decide)
  calc (n % 2 ^ 8) <<< k = n % 2 ^ 8 * 2 ^ k := Nat.shiftLeft_eq _ _
    _ < 2 ^ 8 * 2 ^ k := Nat.mul_lt_mul_of_pos_right hbyte (Nat.two_pow_pos k)
    _ = 2 ^ (k + 8) := by rw [← Nat.pow_add, Nat.add_comm]
    _ ≤ 2 ^ w := Nat.pow_le_pow_right (by decide) h

/-- An index is read as it was written. -/
theorem getU16le_split (v : UInt16) : getU16le v.toUInt8 (v >>> 8).toUInt8 = v := by
  apply UInt16.toNat_inj.mp
  have hv : v.toNat % 2 ^ 16 = v.toNat := Nat.mod_eq_of_lt (UInt16.toNat_lt v)
  show v.toNat % 2 ^ 8 ||| ((v.toNat >>> 8 % 2 ^ 8) <<< 8) % 2 ^ 16 = v.toNat
  rw [Nat.mod_eq_of_lt (byte_shift_lt _ (by decide)), byte_above, hv]

/-- A length is read as it was written. -/
theorem getU32le_split (v : UInt32) : getU32le v.toUInt8 (v >>> 8).toUInt8 (v >>> 16).toUInt8
    (v >>> 24).toUInt8 = v := by
  apply UInt32.toNat_inj.mp
  have hv : v.toNat % 2 ^ 32 = v.toNat := Nat.mod_eq_of_lt (UInt32.toNat_lt v)
  show v.toNat % 2 ^ 8 ||| ((v.toNat >>> 8 % 2 ^ 8) <<< 8) % 2 ^ 32
    ||| ((v.toNat >>> 16 % 2 ^ 8) <<< 16) % 2 ^ 32
    ||| ((v.toNat >>> 24 % 2 ^ 8) <<< 24) % 2 ^ 32 = v.toNat
  rw [Nat.mod_eq_of_lt (byte_shift_lt _ (by decide)), Nat.mod_eq_of_lt (byte_shift_lt _ (by decide)),
    Nat.mod_eq_of_lt (byte_shift_lt _ (by decide)), byte_above, byte_above, byte_above, hv]

/-- A byte length is read as it was written. -/
theorem toNat_length {n : Nat} (h : n < 256) : (UInt8.ofNat n).toNat = n := by
  rw [UInt8.toNat_ofNat']
  exact Nat.mod_eq_of_lt h

/-! ## Frames that are decoded -/

/-- The decoder keeps the command. -/
theorem decodeMux_cmd {f : Frame} {base pdu : Pdu} (h : decodeMux f base = .ok pdu) :
    pdu.cmd = base.cmd := by
  unfold decodeMux at h
  grind

theorem decodeBody_cmd {f : Frame} {base pdu : Pdu} (h : decodeBody f base = .ok pdu) :
    pdu.cmd = base.cmd := by
  have hmux := @decodeMux_cmd f base pdu
  unfold decodeBody at h
  grind

/-- The command stands in the second byte. -/
theorem decode_cmd {f : Frame} {pdu : Pdu} (h : decode f = .ok pdu) : pdu.cmd = f.byte 1 := by
  unfold decode at h
  simp only at h
  split at h
  · exact nomatch h
  split at h
  · exact nomatch h
  split at h
  · exact nomatch h
  split at h
  · exact nomatch h
  exact decodeBody_cmd h

/-- The frame is of the kind, and the decoder reads these fields from it. -/
structure Carries (f : Frame) (kind : UsdoKind) (pdu : Pdu) : Prop where
  decoded : decode f = .ok pdu
  kind : (canIdSplit f.idValue).2 = kind

/-- The kind of a frame that rides one of the two bases. -/
def kindOf (toServer : Bool) : UsdoKind := if toServer then .request else .response

/-- The sender and the direction stand in the CAN id. -/
theorem canIdSplit_usdoFrame {src : UInt8} (h : validNode src = true) (toServer : Bool)
    (payload : List UInt8) :
    canIdSplit (usdoFrame src toServer payload).idValue = (src, kindOf toServer) := by
  have hall : ∀ (n : Fin 256) (b : Bool), validNode (UInt8.ofNat n) = true →
      canIdSplit (usdoCanId (UInt8.ofNat n) b &&& canIdValue &&& canIdValue)
        = (UInt8.ofNat n, kindOf b) := by decide +kernel
  have hsrc := hall ⟨src.toNat, UInt8.toNat_lt src⟩ toServer
  simp only [UInt8.ofNat_toNat] at hsrc
  exact hsrc h

section Roundtrips

variable {src dst cmd session : UInt8} {toServer : Bool} {rest : List UInt8}

/-- The checks that all frames share. -/
theorem carries_usdoFrame {pdu : Pdu} (hsrc : validNode src = true) (hdst : validNode dst = true)
    (hcmd : cmdIsKnown cmd = true)
    (hbody : decodeBody (usdoFrame src toServer (dst :: cmd :: session :: rest))
      { srcNode := src, dstNode := dst, cmd := cmd, session := session } = .ok pdu) :
    Carries (usdoFrame src toServer (dst :: cmd :: session :: rest)) (kindOf toServer) pdu := by
  have hsplit := canIdSplit_usdoFrame hsrc toServer (dst :: cmd :: session :: rest)
  refine ⟨?_, congrArg Prod.snd hsplit⟩
  have hkind : kindOf toServer ≠ .none := by
    cases toServer <;> decide
  have hlen : ¬ (usdoFrame src toServer (dst :: cmd :: session :: rest)).payload.length
      < usdoEndRespSize := by
    show ¬ (dst :: cmd :: session :: rest).length < 3
    simp
  have hdst' : (!validNode ((usdoFrame src toServer (dst :: cmd :: session :: rest)).byte 0))
      = false := by
    rw [Bool.not_eq_false']
    exact hdst
  have hcmd' : (!cmdIsKnown ((usdoFrame src toServer (dst :: cmd :: session :: rest)).byte 1))
      = false := by
    rw [Bool.not_eq_false']
    exact hcmd
  unfold decode
  simp only [hsplit]
  rw [if_neg hkind, if_neg hlen, if_neg (by simp [hdst']), if_neg (by simp [hcmd'])]
  exact hbody

/-- The frames without a multiplexor and without data: acknowledgements and requests for a
    segment. -/
theorem decode_counter (counter : UInt8) (hsrc : validNode src = true)
    (hdst : validNode dst = true) (hsession : session ≠ 0)
    (hcmd : cmd = cmdDownloadSegResp ∨ cmd = cmdUploadSegReq) :
    ∃ f, encodeSegCommon src dst cmd session [counter] = some f ∧
      Carries f (kindOf (cmdIsRequest cmd))
        { srcNode := src, dstNode := dst, cmd := cmd, session := session, counter := counter } := by
  refine ⟨_, if_neg (by simp [hsrc, hdst, hsession]), ?_⟩
  obtain rfl | rfl := hcmd
  · exact carries_usdoFrame hsrc hdst rfl rfl
  · exact carries_usdoFrame hsrc hdst rfl rfl

/-- The download-end response. -/
theorem decode_endResp (hsrc : validNode src = true) (hdst : validNode dst = true)
    (hsession : session ≠ 0) :
    ∃ f, encodeDownloadEndResp src dst session = some f ∧
      Carries f .response
        { srcNode := src, dstNode := dst, cmd := cmdDownloadEndResp, session := session } :=
  ⟨_, if_neg (by simp [hsrc, hdst, hsession]), carries_usdoFrame hsrc hdst rfl rfl⟩

/-- A full segment. -/
theorem decode_segment (counter : UInt8) {data : List UInt8} (hsrc : validNode src = true)
    (hdst : validNode dst = true) (hsession : session ≠ 0)
    (hcmd : cmd = cmdDownloadSegReq ∨ cmd = cmdUploadSegResp)
    (hdata : usdoSegDataMax ≤ data.length) :
    ∃ f, encodeSegData src dst cmd session counter data = some f ∧
      Carries f (kindOf (cmdIsRequest cmd))
        { srcNode := src, dstNode := dst, cmd := cmd, session := session, counter := counter,
          data := data.take usdoSegDataMax } := by
  have hlen : (data.take usdoSegDataMax).length = usdoSegDataMax := List.length_take_of_le hdata
  have hfull : ¬ (dst :: cmd :: session :: counter :: data.take usdoSegDataMax).length
      < payloadMax := by
    simp only [List.length_cons, hlen]
    decide
  refine ⟨_, if_neg (by simp [hsrc, hdst, hsession]), carries_usdoFrame hsrc hdst ?_ ?_⟩
  · obtain rfl | rfl := hcmd <;> rfl
  · unfold decodeBody
    rw [if_pos (by obtain rfl | rfl := hcmd <;> rfl)]
    refine (if_neg hfull).trans ?_
    have hall : (data.take usdoSegDataMax).take usdoSegDataMax = data.take usdoSegDataMax := by
      rw [List.take_take, min_self]
    exact congrArg (fun d => Except.ok (Pdu.mk src dst cmd session 0 0 false counter 0 0 abortNone d))
      hall

/-- The decoder on a last segment. -/
theorem decodeBody_end {f : Frame} {pdu : Pdu} {data : List UInt8}
    (hcmd : pdu.cmd = cmdDownloadEndReq ∨ pdu.cmd = cmdUploadEndResp)
    (hdata : data.length ≤ usdoSegDataMax)
    (hf : ∃ dst cmd session, f.payload = dst :: cmd :: session :: UInt8.ofNat data.length :: data) :
    decodeBody f pdu = .ok { pdu with counter := UInt8.ofNat data.length, data := data } := by
  obtain ⟨dst, cmd, session, hf⟩ := hf
  have hmax : data.length ≤ 60 := hdata
  have hbyte : f.byte 3 = UInt8.ofNat data.length := by
    rw [Frame.byte, hf]
    rfl
  have hnat : (UInt8.ofNat data.length).toNat = data.length := toNat_length (by omega)
  have hlen : f.payload.length = 4 + data.length := by
    rw [hf]
    simp only [List.length_cons]
    omega
  have hrest : (f.payload.drop 4).take data.length = data := by
    rw [hf]
    exact List.take_length
  have hno : ¬ (pdu.cmd == cmdDownloadSegReq || pdu.cmd == cmdUploadSegResp) = true := by
    obtain h | h := hcmd <;> rw [h] <;> decide
  have hyes : (pdu.cmd == cmdDownloadEndReq || pdu.cmd == cmdUploadEndResp) = true := by
    obtain h | h := hcmd <;> rw [h] <;> rfl
  have hshort : ¬ f.payload.length < usdoSegHeaderSize := by
    show ¬ f.payload.length < 4
    omega
  have hexact : ¬ f.payload.length < usdoSegHeaderSize + data.length := by
    show ¬ f.payload.length < 4 + data.length
    omega
  unfold decodeBody
  rw [if_neg hno, if_pos hyes]
  simp only [hbyte, hnat, hrest]
  rw [if_neg hshort, if_neg (Nat.not_lt.mpr hdata), if_neg hexact]

/-- The last segment. -/
theorem decode_end {data : List UInt8} (hsrc : validNode src = true) (hdst : validNode dst = true)
    (hsession : session ≠ 0) (hcmd : cmd = cmdDownloadEndReq ∨ cmd = cmdUploadEndResp)
    (hdata : data.length ≤ usdoSegDataMax) :
    ∃ f, encodeSegEnd src dst cmd session data = some f ∧
      Carries f (kindOf (cmdIsRequest cmd))
        { srcNode := src, dstNode := dst, cmd := cmd, session := session,
          counter := UInt8.ofNat data.length, data := data } := by
  have henc : encodeSegEnd src dst cmd session data = some (usdoFrame src (cmdIsRequest cmd)
      (dst :: cmd :: session :: UInt8.ofNat data.length :: data)) := by
    rw [encodeSegEnd, if_neg (Nat.not_lt.mpr hdata)]
    exact if_neg (by simp [hsrc, hdst, hsession])
  have hknown : cmdIsKnown cmd = true := by
    obtain rfl | rfl := hcmd <;> rfl
  exact ⟨_, henc, carries_usdoFrame hsrc hdst hknown (decodeBody_end hcmd hdata ⟨_, _, _, rfl⟩)⟩

/-- The frames with a multiplexor reach its decoder. -/
theorem decodeBody_mux {f : Frame} {pdu : Pdu}
    (hcmd : pdu.cmd ∈ [cmdDownloadReq, cmdDownloadResp, cmdUploadReq, cmdUploadResp,
      cmdDownloadInitReq, cmdDownloadInitResp, cmdUploadInitResp]) :
    decodeBody f pdu = decodeMux f pdu := by
  obtain ⟨src, dst, cmd, session, index, subindex, muxValid, counter, totalSize, dataType,
    abortCode, data⟩ := pdu
  simp only [List.mem_cons, List.not_mem_nil, or_false] at hcmd
  rcases hcmd with rfl | rfl | rfl | rfl | rfl | rfl | rfl <;> rfl

/-- The fields of a multiplexor. -/
theorem decodeMux_head {f : Frame} {subindex : UInt8} {index : UInt16}
    {rest : List UInt8} (hindex : 0x1000 ≤ index)
    (hf : ∃ dst cmd session, f.payload
      = [dst, cmd, session, subindex] ++ indexBytes index ++ rest) :
    ¬ f.payload.length < usdoHeaderSize ∧ f.byte 3 = subindex ∧
      getU16le (f.byte 4) (f.byte 5) = index ∧ ¬ index < 0x1000 ∧
      f.payload.length = 6 + rest.length ∧ f.payload.drop 6 = rest := by
  obtain ⟨dst, cmd, session, hf⟩ := hf
  have hlen : f.payload.length = 6 + rest.length := by
    rw [hf]
    simp [indexBytes]
    omega
  refine ⟨?_, ?_, ?_, UInt16.not_lt.mpr hindex, hlen, ?_⟩
  · show ¬ f.payload.length < 6
    omega
  · rw [Frame.byte, hf]
    rfl
  · rw [Frame.byte, Frame.byte, hf]
    exact getU16le_split index
  · rw [hf]
    rfl

/-- The decoder on an expedited frame that always has a data block. -/
theorem decodeMux_data {f : Frame} {base : Pdu} {subindex : UInt8} {index : UInt16}
    {data : List UInt8} (hcmd : base.cmd = cmdDownloadReq ∨ base.cmd = cmdUploadResp ∨
      base.cmd = cmdDownloadResp) (hindex : 0x1000 ≤ index) (hdata : data.length ≤ usdoDataMax)
    (hf : ∃ dst cmd session, f.payload = [dst, cmd, session, subindex] ++ indexBytes index
      ++ (typeDomain :: UInt8.ofNat data.length :: data)) :
    decodeMux f base = .ok { base with
      subindex := subindex, index := index, muxValid := true, dataType := typeDomain,
      data := data } := by
  obtain ⟨hhead, hsub, hidx, hlow, hlen, hdrop⟩ := decodeMux_head hindex hf
  have hmax : data.length ≤ 56 := hdata
  have htype : f.byte 6 = typeDomain := by
    obtain ⟨dst, cmd, session, hf⟩ := hf
    rw [Frame.byte, hf]
    rfl
  have hnat : (f.byte 7).toNat = data.length := by
    obtain ⟨dst, cmd, session, hf⟩ := hf
    have hbyte : f.byte 7 = UInt8.ofNat data.length := by
      rw [Frame.byte, hf]
      rfl
    rw [hbyte, toNat_length (by omega)]
  have hrest : (f.payload.drop 8).take data.length = data := by
    have hdrop8 : f.payload.drop 8 = (f.payload.drop 6).drop 2 := by rw [List.drop_drop]
    rw [hdrop8, hdrop]
    exact List.take_length
  have htotal : f.payload.length = 8 + data.length := by
    rw [hlen]
    simp only [List.length_cons]
    omega
  have hno : ¬ (base.cmd == cmdDownloadInitReq || base.cmd == cmdUploadInitResp) = true := by
    obtain h | h | h := hcmd <;> rw [h] <;> decide
  have hno' : ¬ (base.cmd == cmdDownloadInitResp) = true := by
    obtain h | h | h := hcmd <;> rw [h] <;> decide
  have hyes : (cmdMustHaveData base.cmd
      || (base.cmd == cmdDownloadResp && decide (f.payload.length > usdoHeaderSize))) = true := by
    have hlong : f.payload.length > usdoHeaderSize := by
      show 6 < f.payload.length
      omega
    rw [decide_eq_true hlong]
    obtain h | h | h := hcmd <;> rw [h] <;> rfl
  have hprefix : ¬ f.payload.length < usdoHeaderSize + usdoDataPrefixSize := by
    show ¬ f.payload.length < 8
    omega
  have hexact : ¬ f.payload.length < usdoHeaderSize + usdoDataPrefixSize + data.length := by
    show ¬ f.payload.length < 8 + data.length
    omega
  unfold decodeMux
  rw [if_neg hhead]
  simp only [hsub, hidx, htype, hnat, hrest]
  rw [if_neg hlow, if_neg hno, if_neg hno', if_pos hyes, if_neg hprefix,
    if_neg (Nat.not_lt.mpr hdata), if_neg hexact]

/-- The decoder on a frame that ends with the multiplexor. -/
theorem decodeMux_bare {f : Frame} {base : Pdu} {subindex : UInt8} {index : UInt16}
    (hcmd : base.cmd = cmdUploadReq ∨ base.cmd = cmdDownloadResp ∨
      base.cmd = cmdDownloadInitResp) (hindex : 0x1000 ≤ index)
    (hf : ∃ dst cmd session, f.payload = [dst, cmd, session, subindex] ++ indexBytes index ++ []) :
    decodeMux f base = .ok { base with
      subindex := subindex, index := index, muxValid := true } := by
  obtain ⟨hhead, hsub, hidx, hlow, hlen, -⟩ := decodeMux_head hindex hf
  have hno : ¬ (base.cmd == cmdDownloadInitReq || base.cmd == cmdUploadInitResp) = true := by
    obtain h | h | h := hcmd <;> rw [h] <;> decide
  have hdata : ¬ (cmdMustHaveData base.cmd
      || (base.cmd == cmdDownloadResp && decide (f.payload.length > usdoHeaderSize))) = true := by
    have hshort : ¬ f.payload.length > usdoHeaderSize := by
      show ¬ 6 < f.payload.length
      rw [hlen]
      simp
    rw [decide_eq_false hshort]
    obtain h | h | h := hcmd <;> rw [h] <;> decide
  unfold decodeMux
  rw [if_neg hhead]
  simp only [hsub, hidx]
  rw [if_neg hlow, if_neg hno]
  by_cases hinit : (base.cmd == cmdDownloadInitResp) = true
  · rw [if_pos hinit]
  · rw [if_neg hinit, if_neg hdata]

/-- The decoder on an initiate frame. -/
theorem decodeMux_init {f : Frame} {base : Pdu} {subindex : UInt8} {index : UInt16}
    {totalSize : UInt32} (hcmd : base.cmd = cmdDownloadInitReq ∨ base.cmd = cmdUploadInitResp)
    (hindex : 0x1000 ≤ index) (hpos : totalSize ≠ 0) (hmax : totalSize.toNat ≤ usdoSegBodyMax)
    (hf : ∃ dst cmd session, f.payload = [dst, cmd, session, subindex] ++ indexBytes index
      ++ ([typeDomain, 0x00] ++ putU32le totalSize)) :
    decodeMux f base = .ok { base with
      subindex := subindex, index := index, muxValid := true, dataType := typeDomain,
      totalSize := totalSize } := by
  obtain ⟨hhead, hsub, hidx, hlow, hlen, -⟩ := decodeMux_head hindex hf
  have htype : f.byte 6 = typeDomain := by
    obtain ⟨dst, cmd, session, hf⟩ := hf
    rw [Frame.byte, hf]
    rfl
  have hsize : getU32le (f.byte 8) (f.byte 9) (f.byte 10) (f.byte 11) = totalSize := by
    obtain ⟨dst, cmd, session, hf⟩ := hf
    simp only [Frame.byte, hf]
    exact getU32le_split totalSize
  have hyes : (base.cmd == cmdDownloadInitReq || base.cmd == cmdUploadInitResp) = true := by
    obtain h | h := hcmd <;> rw [h] <;> rfl
  have hfull : ¬ f.payload.length < usdoInitSize := by
    rw [hlen]
    show ¬ 6 + 6 < 12
    omega
  have hgood : ¬ (totalSize == 0 || decide (totalSize.toNat > usdoSegBodyMax)) = true := by
    simp [hpos, hmax]
  unfold decodeMux
  rw [if_neg hhead]
  simp only [hsub, hidx, htype, hsize]
  rw [if_neg hlow, if_pos hyes, if_neg hfull, if_neg hgood]

/-- The arguments an expedited encoder takes. -/
theorem encodeCommon_eq {index : UInt16} {subindex dataType : UInt8} {data : List UInt8}
    (hsrc : validNode src = true) (hdst : validNode dst = true) (hsession : session ≠ 0)
    (hindex : 0x1000 ≤ index) (hdata : data.length ≤ usdoDataMax) :
    encodeCommon src dst cmd session index subindex dataType data
      = some (usdoFrame src (cmdIsRequest cmd) ([dst, cmd, session, subindex] ++ indexBytes index
        ++ if cmdEmitsData cmd data.length then dataType :: UInt8.ofNat data.length :: data
          else [])) := by
  have hlow : ¬ index < 0x1000 := UInt16.not_lt.mpr hindex
  have hmax : ¬ data.length > usdoDataMax := Nat.not_lt.mpr hdata
  exact if_neg (by simp [hsrc, hdst, hsession, hlow, hmax])

/-- **An expedited frame with data**: a download request, or an upload response. -/
theorem decode_expedited {index : UInt16} (subindex : UInt8) {data : List UInt8}
    (hsrc : validNode src = true) (hdst : validNode dst = true) (hsession : session ≠ 0)
    (hindex : 0x1000 ≤ index) (hdata : data.length ≤ usdoDataMax)
    (hcmd : cmd = cmdDownloadReq ∨ cmd = cmdUploadResp) :
    ∃ f, encodeCommon src dst cmd session index subindex typeDomain data = some f ∧
      Carries f (kindOf (cmdIsRequest cmd))
        { srcNode := src, dstNode := dst, cmd := cmd, session := session, index := index,
          subindex := subindex, muxValid := true, dataType := typeDomain, data := data } := by
  have hemits : cmdEmitsData cmd data.length = true := by
    obtain rfl | rfl := hcmd <;> rfl
  have hknown : cmdIsKnown cmd = true := by
    obtain rfl | rfl := hcmd <;> rfl
  refine ⟨_, encodeCommon_eq hsrc hdst hsession hindex hdata,
    carries_usdoFrame hsrc hdst hknown ?_⟩
  rw [if_pos hemits, decodeBody_mux (by obtain rfl | rfl := hcmd <;> simp)]
  refine decodeMux_data ?_ hindex hdata ⟨_, _, _, rfl⟩
  exact hcmd.imp_right Or.inl

/-- **A download response**, with or without data. -/
theorem decode_downloadResp {index : UInt16} (subindex : UInt8) {data : List UInt8}
    (hsrc : validNode src = true) (hdst : validNode dst = true) (hsession : session ≠ 0)
    (hindex : 0x1000 ≤ index) (hdata : data.length ≤ usdoDataMax) :
    ∃ f pdu, encodeDownloadResp src dst session index subindex data = some f ∧
      Carries f .response pdu ∧ pdu.srcNode = src ∧ pdu.dstNode = dst ∧
      pdu.cmd = cmdDownloadResp ∧ pdu.session = session ∧ pdu.index = index ∧
      pdu.subindex = subindex ∧ pdu.data = data := by
  have henc : encodeDownloadResp src dst session index subindex data = _ :=
    encodeCommon_eq hsrc hdst hsession hindex hdata
  cases data with
  | nil =>
      refine ⟨_, _, henc, carries_usdoFrame hsrc hdst rfl ((decodeBody_mux (by simp)).trans
        (decodeMux_bare (.inr (.inl rfl)) hindex ⟨_, _, _, rfl⟩)), ?_⟩
      exact ⟨rfl, rfl, rfl, rfl, rfl, rfl, rfl⟩
  | cons b data =>
      refine ⟨_, _, henc, carries_usdoFrame hsrc hdst rfl ((decodeBody_mux (by simp)).trans
        (decodeMux_data (.inr (.inr rfl)) hindex hdata ⟨_, _, _, rfl⟩)), ?_⟩
      exact ⟨rfl, rfl, rfl, rfl, rfl, rfl, rfl⟩

/-- An upload request. -/
theorem decode_uploadReq {index : UInt16} (subindex : UInt8)
    (hsrc : validNode src = true) (hdst : validNode dst = true) (hsession : session ≠ 0)
    (hindex : 0x1000 ≤ index) :
    ∃ f, encodeUploadReq src dst session index subindex = some f ∧
      Carries f .request
        { srcNode := src, dstNode := dst, cmd := cmdUploadReq, session := session, index := index,
          subindex := subindex, muxValid := true } :=
  ⟨_, encodeCommon_eq hsrc hdst hsession hindex (Nat.zero_le _),
    carries_usdoFrame hsrc hdst rfl ((decodeBody_mux (by simp)).trans
      (decodeMux_bare (.inl rfl) hindex ⟨_, _, _, rfl⟩))⟩

/-- The response to a download initiate. -/
theorem decode_initResp {index : UInt16} (subindex : UInt8)
    (hsrc : validNode src = true) (hdst : validNode dst = true) (hsession : session ≠ 0)
    (hindex : 0x1000 ≤ index) :
    ∃ f, encodeDownloadInitResp src dst session index subindex = some f ∧
      Carries f .response
        { srcNode := src, dstNode := dst, cmd := cmdDownloadInitResp, session := session,
          index := index, subindex := subindex, muxValid := true } := by
  refine ⟨usdoFrame src false ([dst, cmdDownloadInitResp, session, subindex] ++ indexBytes index),
    ?_, carries_usdoFrame hsrc hdst rfl ((decodeBody_mux (by simp)).trans
      (decodeMux_bare (.inr (.inr rfl)) hindex ⟨_, _, _, rfl⟩))⟩
  rw [encodeDownloadInitResp, if_neg (UInt16.not_lt.mpr hindex)]
  exact if_neg (by simp [hsrc, hdst, hsession])

/-- **An initiate frame**: a download request, or an upload response. -/
theorem decode_init {index : UInt16} (subindex : UInt8) {totalSize : UInt32}
    (hsrc : validNode src = true) (hdst : validNode dst = true) (hsession : session ≠ 0)
    (hindex : 0x1000 ≤ index) (hpos : totalSize ≠ 0) (hmax : totalSize.toNat ≤ usdoSegBodyMax)
    (hcmd : cmd = cmdDownloadInitReq ∨ cmd = cmdUploadInitResp) :
    ∃ f, encodeInitCommon src dst cmd session index subindex totalSize = some f ∧
      Carries f (kindOf (cmdIsRequest cmd))
        { srcNode := src, dstNode := dst, cmd := cmd, session := session, index := index,
          subindex := subindex, muxValid := true, dataType := typeDomain,
          totalSize := totalSize } := by
  have hlow : ¬ index < 0x1000 := UInt16.not_lt.mpr hindex
  have hknown : cmdIsKnown cmd = true := by
    obtain rfl | rfl := hcmd <;> rfl
  refine ⟨usdoFrame src (cmdIsRequest cmd) ([dst, cmd, session, subindex] ++ indexBytes index
    ++ ([typeDomain, 0x00] ++ putU32le totalSize)), ?_, carries_usdoFrame hsrc hdst hknown ?_⟩
  · rw [encodeInitCommon, if_neg (by simp [hpos, hmax, hlow])]
    exact if_neg (by simp [hsrc, hdst, hsession])
  · rw [decodeBody_mux (by obtain rfl | rfl := hcmd <;> simp)]
    exact decodeMux_init hcmd hindex hpos hmax ⟨_, _, _, rfl⟩

/-- **An abort.** -/
theorem decode_abort {index : UInt16} (subindex : UInt8) (code : Abort)
    (hsrc : validNode src = true) (hdst : validNode dst = true) (hsession : session ≠ 0)
    (hindex : 0x1000 ≤ index) :
    ∃ f, encodeAbort src dst session index subindex code = some f ∧
      Carries f .response
        { srcNode := src, dstNode := dst, cmd := cmdAbort, session := session, index := index,
          subindex := subindex, muxValid := true, abortCode := code } := by
  refine ⟨usdoFrame src false ([dst, cmdAbort, session, subindex] ++ indexBytes index ++ [code]),
    ?_, carries_usdoFrame hsrc hdst rfl ?_⟩
  · rw [encodeAbort, if_neg (UInt16.not_lt.mpr hindex)]
    exact if_neg (by simp [hsrc, hdst, hsession])
  · exact congrArg (fun i => Except.ok (Pdu.mk src dst cmdAbort session i subindex true 0 0 0 code []))
      (getU16le_split index)

end Roundtrips

end SofaUsdo
