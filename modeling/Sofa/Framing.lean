import Sofa.Usdo
import Sofa.Lib.Block
import Sofa.Lib.Buffer

/-! # Frames in a byte stream

    The simulated bus carries frames over TCP: six header bytes and the announced number of
    payload bytes, one frame after the other.  A sender checks a frame before it serializes it;
    a receiver checks the header before it believes the length in it, with code of its own.

    * `validateFields_iff`: what the check asks for;
    * `recvExact_run`: however the stream is cut into segments, the next `n` bytes are read;
    * **`parseHeader_iff`**: the receiver's check is the sender's;
    * **`stream_framing`**: what is sent is received, frame by frame. -/

namespace SofaFraming

open ByteBlock FixedBuffer SofaDevice SofaUsdo

/-! ## Frames -/

abbrev headerSize : Nat := 6
/-- `FBSEC_CO_FD_WIRE_MAX`. -/
abbrev wireMax : Nat := headerSize + payloadMax
abbrev canIdFlagIde : UInt32 := 0x80000000
abbrev canIdFlagRtr : UInt32 := 0x40000000
abbrev canIdFlagErr : UInt32 := 0x20000000
abbrev stdIdMax : UInt32 := 0x000007FF
/-- `FBSEC_CO_FD_FLAG_ALL`. -/
abbrev flagAll : UInt8 := 0x03

/-- `fbsec_co_fd_frame_t`, with its payload array. -/
structure RawFrame where
  canId : UInt32
  flags : UInt8
  len : UInt8
  payload : Block 64

/-- The bytes of the payload that count. -/
def RawFrame.data (f : RawFrame) : List UInt8 := load f.payload 0 f.len.toNat

/-- `fbsec_co_fd_validity_t`. -/
inductive Validity where
  | ok
  | reservedCanid
  | reservedFlags
  | lenTooBig
  deriving DecidableEq

/-- `fbsec_co_fd_frame_validate`, on the fields that it looks at. -/
def validateFields (canId : UInt32) (flags : UInt8) (len : Nat) : Validity :=
  if canId &&& canIdFlagRtr != 0 then .reservedCanid
  else if canId &&& canIdFlagErr != 0 then .reservedCanid
  else if canId &&& canIdFlagIde == 0 && canId &&& canIdValue > stdIdMax then .reservedCanid
  else if flags &&& ~~~flagAll != 0 then .reservedFlags
  else if len > payloadMax then .lenTooBig
  else .ok

/-- `fbsec_co_fd_frame_validate`. -/
def frameValidate (f : RawFrame) : Validity := validateFields f.canId f.flags f.len.toNat

/-- `fbsec_co_fd_frame_serialize`: the bytes, unless they do not fit. -/
def frameSerialize (f : RawFrame) (bufSize : Nat) : Option (List UInt8) :=
  if bufSize < headerSize + f.len.toNat then none
  else some (putU32le f.canId ++ [f.flags, f.len] ++ f.data)

/-- `fbsec_co_fd_parse_t`. -/
inductive Parse where
  | ok
  | needMore
  | reservedCanid
  | reservedFlags
  | lenTooBig
  deriving DecidableEq

/-- The fields that six header bytes describe, in a frame with the payload of `f`. -/
def described (header : List UInt8) (f : RawFrame) : RawFrame where
  canId := getU32le (header.getD 0 0) (header.getD 1 0) (header.getD 2 0) (header.getD 3 0)
  flags := header.getD 4 0
  len := header.getD 5 0
  payload := f.payload

/-- `fbsec_co_fd_frame_parse_header`: the result, the frame and the payload bytes to expect. -/
def frameParseHeader (buf : List UInt8) (f : RawFrame) (expected : Nat) :
    Parse × RawFrame × Nat :=
  if buf.length < headerSize then (.needMore, f, expected)
  else
    let canId := getU32le (buf.getD 0 0) (buf.getD 1 0) (buf.getD 2 0) (buf.getD 3 0)
    let flags := buf.getD 4 0
    let len := buf.getD 5 0
    if canId &&& canIdFlagRtr != 0 || canId &&& canIdFlagErr != 0 then
      (.reservedCanid, f, expected)
    else if canId &&& canIdFlagIde == 0 && canId &&& canIdValue > stdIdMax then
      (.reservedCanid, f, expected)
    else if flags &&& ~~~flagAll != 0 then (.reservedFlags, f, expected)
    else if len.toNat > payloadMax then (.lenTooBig, f, expected)
    else (.ok, { f with canId, flags, len }, len.toNat)

/-! ## The stream -/

/-- What is still to come on a connection, in the segments in which it arrives; the peer closes
    after the last one. -/
abbrev Socket := List (List UInt8)

/-- `recv` with room for `n` bytes: some of the next segment; `none` is the end. -/
def recv (n : Nat) : Socket → Option (List UInt8 × Socket)
  | [] => none
  | [] :: s => recv n s
  | (b :: segment) :: s => some ((b :: segment).take n, (b :: segment).drop n :: s)

/-- The loop of `recv_exact_with_deadline` and of `fbsec_bus_recv_exact`, before the deadline:
    whether `n` bytes came, the bytes that did, and the rest of the stream. -/
def recvExactLoop (n : Nat) : Nat → List UInt8 → Socket → Bool × List UInt8 × Socket
  | 0, got, s => (false, got, s)
  | fuel + 1, got, s =>
      if got.length < n then
        match recv (n - got.length) s with
        | none => (false, got, s)
        | some (chunk, s) => recvExactLoop n fuel (got ++ chunk) s
      else (true, got, s)

def recvExact (n : Nat) (s : Socket) : Bool × List UInt8 × Socket := recvExactLoop n (n + 1) [] s

/-! ## Sending and receiving -/

/-- `fbsec_co_fd_carrier_send`: the bytes that go out; `none` is a frame that is refused. -/
def carrierSend (f : RawFrame) : Option (List UInt8) :=
  if frameValidate f ≠ .ok then none else frameSerialize f wireMax

/-- `fbsec_co_fd_carrier_status_t`. -/
inductive CarrierStatus where
  | ok
  | closed
  | frame
  deriving DecidableEq

/-- `fbsec_co_fd_carrier_recv` into the frame `f`. -/
def carrierRecv (f : RawFrame) (s : Socket) : CarrierStatus × RawFrame × Socket :=
  let header := recvExact headerSize s
  if !header.1 then (.closed, f, header.2.2)
  else
    let parsed := frameParseHeader header.2.1 f 0
    if parsed.1 ≠ .ok then (.frame, parsed.2.1, header.2.2)
    else if parsed.2.2 > 0 then
      let body := recvExact parsed.2.2 header.2.2
      let filled := { parsed.2.1 with payload := store parsed.2.1.payload 0 body.2.1 }
      (if body.1 then .ok else .closed, filled, body.2.2)
    else (.ok, parsed.2.1, header.2.2)

/-- The carrier error that the bus announces for a header. -/
def busError (p : Parse) : UInt8 :=
  match p with
  | .lenTooBig => 0x03
  | .reservedCanid => 0x01
  | .reservedFlags => 0x02
  | _ => 0x04

/-- `FBSEC_CO_FD_SIM_ERR_SHORT_READ`. -/
abbrev simErrShortRead : UInt8 := 0x04

/-- `read_one_frame` of the bus: 1, 0 for the end, -1 for an error, the frame, the rest of the
    stream, and the carrier error that is emitted. -/
def readOneFrame (f : RawFrame) (s : Socket) : Int × RawFrame × Socket × Option UInt8 :=
  let header := recvExact headerSize s
  if !header.1 then (if header.2.1 = [] then 0 else -1, f, header.2.2, none)
  else
    let parsed := frameParseHeader header.2.1 f 0
    if parsed.1 ≠ .ok then (-1, parsed.2.1, header.2.2, some (busError parsed.1))
    else if parsed.2.2 > 0 then
      let body := recvExact parsed.2.2 header.2.2
      let filled := { parsed.2.1 with payload := store parsed.2.1.payload 0 body.2.1 }
      if body.1 then (1, filled, body.2.2, none)
      else if body.2.1 = [] then (0, filled, body.2.2, none)
      else (-1, filled, body.2.2, some simErrShortRead)
    else (1, parsed.2.1, header.2.2, none)

/-- The next frames, one into each of the given frames; `none` if one is not received. -/
def receiveAll (read : RawFrame → Socket → Option (RawFrame × Socket)) :
    List RawFrame → Socket → Option (List RawFrame × Socket)
  | [], s => some ([], s)
  | f :: frames, s => do
      let (g, s) ← read f s
      let (rest, s) ← receiveAll read frames s
      return (g :: rest, s)

/-- A frame from the carrier. -/
def carrierTake (f : RawFrame) (s : Socket) : Option (RawFrame × Socket) :=
  let out := carrierRecv f s
  if out.1 = .ok then some out.2 else none

/-- A frame from a peer of the bus. -/
def busTake (f : RawFrame) (s : Socket) : Option (RawFrame × Socket) :=
  let out := readOneFrame f s
  if out.1 = 1 then some (out.2.1, out.2.2.1) else none

/-! ## The header -/

section Header

variable {header : List UInt8} {f : RawFrame} {e : Nat}

/-- **What the check asks for.** -/
theorem validateFields_iff {canId : UInt32} {flags : UInt8} {len : Nat} :
    validateFields canId flags len = .ok ↔
      canId &&& canIdFlagRtr = 0 ∧ canId &&& canIdFlagErr = 0 ∧
        (canId &&& canIdFlagIde = 0 → canId &&& canIdValue ≤ stdIdMax) ∧
        flags &&& ~~~flagAll = 0 ∧ len ≤ payloadMax := by
  rw [validateFields]
  -- one goal for each check that fails, and the last for none
  split_ifs with hrtr herr hstd hflags hlen <;> simp_all

/-- The result of the parser for a frame that fails the check. -/
def parseOf : Validity → Parse
  | .ok => .ok
  | .reservedCanid => .reservedCanid
  | .reservedFlags => .reservedFlags
  | .lenTooBig => .lenTooBig

/-- **The receiver's check is the sender's**: a header that passes is stored and its length
    expected, and any other one changes nothing. -/
theorem parseHeader_eq (h : header.length = headerSize) :
    frameParseHeader header f e =
      if frameValidate (described header f) = .ok then
        (.ok, described header f, (described header f).len.toNat)
      else (parseOf (frameValidate (described header f)), f, e) := by
  rw [frameParseHeader, if_neg (by omega), frameValidate, validateFields, described]
  dsimp only
  -- the receiver asks for the two reserved bits of the id in one condition
  by_cases hrtr : (getU32le (header.getD 0 0) (header.getD 1 0) (header.getD 2 0)
      (header.getD 3 0) &&& canIdFlagRtr != 0) = true
  · rw [if_pos (by rw [hrtr]; rfl), if_pos hrtr]
    rfl
  · rw [if_neg hrtr, Bool.eq_false_of_not_eq_true hrtr, Bool.false_or]
    by_cases herr : (getU32le (header.getD 0 0) (header.getD 1 0) (header.getD 2 0)
        (header.getD 3 0) &&& canIdFlagErr != 0) = true
    · rw [if_pos herr, if_pos herr]
      rfl
    · rw [if_neg herr, if_neg herr]
      split
      · rfl
      · split
        · rfl
        · split
          · rfl
          · rfl

theorem parseOf_eq_ok {v : Validity} : parseOf v = .ok ↔ v = .ok := by
  cases v <;> simp [parseOf]

theorem parseHeader_iff (h : header.length = headerSize) :
    ((frameParseHeader header f e).1 = .ok ↔ frameValidate (described header f) = .ok) ∧
      ((frameParseHeader header f e).1 ≠ .ok → (frameParseHeader header f e).2 = (f, e)) := by
  rw [parseHeader_eq h]
  by_cases hvalid : frameValidate (described header f) = .ok
  · rw [if_pos hvalid]
    exact ⟨iff_of_true rfl hvalid, fun hno => absurd rfl hno⟩
  · rw [if_neg hvalid]
    exact ⟨parseOf_eq_ok, fun _ => rfl⟩

/-- The header of a frame describes the frame. -/
theorem described_header (f stale : RawFrame) :
    described (putU32le f.canId ++ [f.flags, f.len]) stale
      = { f with payload := stale.payload } := by
  have hid := getU32le_split f.canId
  rw [described]
  exact congrArg (fun id => RawFrame.mk id f.flags f.len stale.payload) hid

/-- The check does not look at the payload. -/
theorem frameValidate_payload (f : RawFrame) (payload : Block 64) :
    frameValidate { f with payload := payload } = frameValidate f := rfl

theorem len_le_of_valid (h : frameValidate f = .ok) : f.len.toNat ≤ payloadMax :=
  (validateFields_iff.mp h).2.2.2.2

end Header

/-! ## The stream -/

section Streams

/-- `recv` takes something from a stream that is not at its end, and no more than it may. -/
theorem recv_some {n : Nat} (hn : 0 < n) {s : Socket} (h : s.flatten ≠ []) :
    ∃ chunk s', recv n s = some (chunk, s') ∧ chunk ≠ [] ∧ chunk.length ≤ n ∧
      chunk ++ s'.flatten = s.flatten := by
  induction s with
  | nil => exact absurd rfl h
  | cons segment s ih =>
      cases segment with
      | nil => exact ih h
      | cons b segment =>
          refine ⟨(b :: segment).take n, (b :: segment).drop n :: s, rfl, ?_, ?_, ?_⟩
          · intro hnil
            rcases List.take_eq_nil_iff.mp hnil with hzero | hempty
            · omega
            · cases hempty
          · exact List.length_take_le _ _
          · rw [List.flatten_cons, List.flatten_cons, ← List.append_assoc, List.take_append_drop]

/-- The loop reads on until it has its bytes. -/
theorem recvExactLoop_run (n fuel : Nat) (got : List UInt8) (s : Socket)
    (hgot : got.length ≤ n) (havail : n ≤ got.length + s.flatten.length)
    (hfuel : n < got.length + fuel) : ∃ s',
    recvExactLoop n fuel got s = (true, got ++ s.flatten.take (n - got.length), s') ∧
      s'.flatten = s.flatten.drop (n - got.length) := by
  induction fuel generalizing got s with
  | zero => omega
  | succ fuel ih =>
      rw [recvExactLoop]
      by_cases hmore : got.length < n
      · have hsome : s.flatten ≠ [] := List.ne_nil_of_length_pos (by omega)
        obtain ⟨chunk, s₁, hrecv, hne, hle, happend⟩ :=
          recv_some (Nat.sub_pos_of_lt hmore) hsome
        have hpos := List.length_pos_iff.mpr hne
        have hlen := congrArg List.length happend
        rw [List.length_append] at hlen
        rw [if_pos hmore, hrecv]
        obtain ⟨s', hloop, hrest⟩ := ih (got ++ chunk) s₁
          (by rw [List.length_append]; omega) (by rw [List.length_append]; omega)
          (by rw [List.length_append]; omega)
        have hsub : n - (got ++ chunk).length = n - got.length - chunk.length := by
          rw [List.length_append]
          omega
        refine ⟨s', hloop.trans ?_, hrest.trans ?_⟩
        · rw [← happend, List.take_append, List.take_of_length_le hle, hsub, List.append_assoc]
        · rw [← happend, List.drop_append, List.drop_of_length_le hle, hsub, List.nil_append]
      · have hdone : n - got.length = 0 := by omega
        rw [if_neg hmore, hdone, List.take_zero, List.append_nil, List.drop_zero]
        exact ⟨s, rfl, rfl⟩

/-- **The next bytes**, however they arrive. -/
theorem recvExact_run {bytes rest : List UInt8} {s : Socket} (h : s.flatten = bytes ++ rest) :
    ∃ s', recvExact bytes.length s = (true, bytes, s') ∧ s'.flatten = rest := by
  obtain ⟨s', hloop, hrest⟩ := recvExactLoop_run bytes.length (bytes.length + 1) [] s (Nat.zero_le _)
    (by rw [h, List.length_append, List.length_nil]; omega) (by rw [List.length_nil]; omega)
  refine ⟨s', hloop.trans ?_, hrest.trans ?_⟩
  · rw [h, List.length_nil, Nat.sub_zero, List.take_left, List.nil_append]
  · rw [h, List.length_nil, Nat.sub_zero, List.drop_left]

end Streams

/-! ## A frame, and many -/

section Frames

variable {f g : RawFrame} {s : Socket} {rest : List UInt8}

/-- Two frames that are the same on the wire: the bytes behind the length do not count. -/
structure Same (g f : RawFrame) : Prop where
  canId : g.canId = f.canId
  flags : g.flags = f.flags
  len : g.len = f.len
  data : g.data = f.data

theorem length_data (h : frameValidate f = .ok) :
    f.data.length = f.len.toNat ∧ f.len.toNat ≤ 64 := by
  have hle : f.len.toNat ≤ 64 := len_le_of_valid h
  exact ⟨length_load f.payload (by omega), hle⟩

/-- The bytes of a frame. -/
def wireBytes (f : RawFrame) : List UInt8 := putU32le f.canId ++ [f.flags, f.len] ++ f.data

theorem carrierSend_eq (h : frameValidate f = .ok) : carrierSend f = some (wireBytes f) := by
  obtain ⟨-, hle⟩ := length_data h
  rw [carrierSend, if_neg (not_not.mpr h), frameSerialize, if_neg]
  · rfl
  · show ¬ 70 < 6 + f.len.toNat
    omega

/-- **One frame**: the header is read, passes, and announces the bytes that follow it. -/
theorem frame_arrives (stale : RawFrame) (h : frameValidate f = .ok) (hs : s.flatten = wireBytes f ++ rest) :
    ∃ s₁ s₂, recvExact headerSize s = (true, putU32le f.canId ++ [f.flags, f.len], s₁) ∧
      frameParseHeader (putU32le f.canId ++ [f.flags, f.len]) stale 0
        = (.ok, { f with payload := stale.payload }, f.len.toNat) ∧
      s₁.flatten = f.data ++ rest ∧
      recvExact f.len.toNat s₁ = (true, f.data, s₂) ∧ s₂.flatten = rest := by
  obtain ⟨hdata, -⟩ := length_data h
  rw [wireBytes, List.append_assoc] at hs
  obtain ⟨s₁, hheader, hs₁⟩ := recvExact_run hs
  obtain ⟨s₂, hbody, hs₂⟩ := recvExact_run hs₁
  rw [hdata] at hbody
  have hparse : frameParseHeader (putU32le f.canId ++ [f.flags, f.len]) stale 0
      = (.ok, { f with payload := stale.payload }, f.len.toNat) := by
    rw [parseHeader_eq rfl, described_header, frameValidate_payload, if_pos h]
  exact ⟨s₁, s₂, hheader, hparse, hs₁, hbody, hs₂⟩

/-- The frame that a receiver ends up with. -/
theorem same_filled (stale : RawFrame) (h : frameValidate f = .ok) :
    Same { f with payload := store stale.payload 0 f.data } f := by
  obtain ⟨hlen, hle⟩ := length_data h
  refine ⟨rfl, rfl, rfl, ?_⟩
  show load (store stale.payload 0 f.data) 0 f.len.toNat = f.data
  rw [← hlen]
  exact load_store_zero stale.payload (by omega)

/-- A frame without a payload. -/
theorem same_empty (stale : RawFrame) (h : f.len.toNat = 0) : Same { f with payload := stale.payload } f := by
  refine ⟨rfl, rfl, rfl, ?_⟩
  show load stale.payload 0 f.len.toNat = load f.payload 0 f.len.toNat
  rw [h, load_zero, load_zero]

/-- What a receiver makes of the bytes of a frame. -/
def Receives (read : RawFrame → Socket → Option (RawFrame × Socket)) : Prop :=
  ∀ f, frameValidate f = .ok → ∀ stale s rest, s.flatten = wireBytes f ++ rest →
    ∃ g s', read stale s = some (g, s') ∧ Same g f ∧ s'.flatten = rest

theorem carrierTake_receives : Receives carrierTake := by
  intro f h stale s rest hs
  obtain ⟨s₁, s₂, hheader, hparse, hs₁, hbody, hs₂⟩ := frame_arrives stale h hs
  by_cases hlen : f.len.toNat > 0
  · refine ⟨_, s₂, ?_, same_filled stale h, hs₂⟩
    simp only [carrierTake, carrierRecv, hheader, hparse, hbody, if_pos hlen]
    rfl
  · have hzero : f.len.toNat = 0 := by omega
    have hnone : f.data = [] := by rw [RawFrame.data, hzero, load_zero]
    refine ⟨_, s₁, ?_, same_empty stale hzero, by rw [hs₁, hnone, List.nil_append]⟩
    simp only [carrierTake, carrierRecv, hheader, hparse, if_neg hlen]
    rfl

theorem busTake_receives : Receives busTake := by
  intro f h stale s rest hs
  obtain ⟨s₁, s₂, hheader, hparse, hs₁, hbody, hs₂⟩ := frame_arrives stale h hs
  by_cases hlen : f.len.toNat > 0
  · refine ⟨_, s₂, ?_, same_filled stale h, hs₂⟩
    simp only [busTake, readOneFrame, hheader, hparse, hbody, if_pos hlen]
    rfl
  · have hzero : f.len.toNat = 0 := by omega
    have hnone : f.data = [] := by rw [RawFrame.data, hzero, load_zero]
    refine ⟨_, s₁, ?_, same_empty stale hzero, by rw [hs₁, hnone, List.nil_append]⟩
    simp only [busTake, readOneFrame, hheader, hparse, if_neg hlen]
    rfl

/-- **Frame by frame**: the frames of a stream are received, and what follows them is left. -/
theorem receiveAll_run {read : RawFrame → Socket → Option (RawFrame × Socket)} (hread : Receives read)
    {frames stales : List RawFrame} (hvalid : ∀ f ∈ frames, frameValidate f = .ok)
    (hlen : stales.length = frames.length) (hs : s.flatten = frames.flatMap wireBytes ++ rest) :
    ∃ got s', receiveAll read stales s = some (got, s') ∧ List.Forall₂ Same got frames ∧
      s'.flatten = rest := by
  induction frames generalizing stales s with
  | nil =>
      rw [List.length_eq_zero_iff.mp hlen]
      exact ⟨[], s, rfl, .nil, hs⟩
  | cons f frames ih =>
      obtain ⟨hf, hframes⟩ := List.forall_mem_cons.mp hvalid
      obtain ⟨stale, more, rfl⟩ := List.exists_cons_of_length_eq_add_one hlen
      rw [List.flatMap_cons, List.append_assoc] at hs
      obtain ⟨g, s₁, hg, hsame, hs₁⟩ := hread f hf stale s _ hs
      obtain ⟨got, s', hgot, hall, hrest⟩ := ih hframes (Nat.succ.inj hlen) hs₁
      refine ⟨g :: got, s', ?_, .cons hsame hall, hrest⟩
      rw [receiveAll, hg, Option.bind_eq_bind, Option.bind_some]
      dsimp only
      rw [hgot]
      rfl

/-- **Framing a stream**: frames that pass the check are sent, and received from the concatenation
    of their bytes one by one, by the carrier and by the bus, however the stream arrives and
    whatever the receiver's frames held; and a header is accepted exactly when the frame that it
    describes passes the check, and otherwise leaves the frame alone. -/
theorem stream_framing :
    (∀ frames : List RawFrame, (∀ f ∈ frames, frameValidate f = .ok) →
      ∃ wires, frames.mapM carrierSend = some wires ∧
      ∀ read, read = carrierTake ∨ read = busTake →
      ∀ (stales : List RawFrame) (s : Socket) (rest : List UInt8),
        stales.length = frames.length → s.flatten = wires.flatten ++ rest →
        ∃ got s', receiveAll read stales s = some (got, s') ∧ List.Forall₂ Same got frames ∧
          s'.flatten = rest) ∧
    ∀ (header : List UInt8) (f : RawFrame) (e : Nat), header.length = headerSize →
      ((frameParseHeader header f e).1 = .ok ↔ frameValidate (described header f) = .ok) ∧
      ((frameParseHeader header f e).1 ≠ .ok → (frameParseHeader header f e).2 = (f, e)) := by
  refine ⟨fun frames hvalid => ?_, fun header f e h => parseHeader_iff h⟩
  have hsend : frames.mapM carrierSend = some (frames.map wireBytes) := by
    induction frames with
    | nil => rfl
    | cons f frames ih =>
        obtain ⟨hf, hframes⟩ := List.forall_mem_cons.mp hvalid
        rw [List.mapM_cons, carrierSend_eq hf, ih hframes]
        rfl
  refine ⟨frames.map wireBytes, hsend, fun read hread stales s rest hlen hs => ?_⟩
  have hreceives : Receives read := by
    rcases hread with rfl | rfl
    · exact carrierTake_receives
    · exact busTake_receives
  rw [← List.flatMap_def] at hs
  exact receiveAll_run hreceives hvalid hlen hs

/-! ### A worked run -/

/-- A frame with two bytes of payload, and one without any. -/
def sampleFrames : List RawFrame :=
  [⟨0x601, flagBrs, 2, fun i => UInt8.ofNat i⟩, ⟨0x80001234, 0, 0, fun _ => 0xFF⟩]

/-- `stream_framing` for the two frames, which arrive byte by byte at the bus. -/
theorem sampleFrames_received : ∃ wires, sampleFrames.mapM carrierSend = some wires ∧
    ∃ got s', receiveAll busTake (sampleFrames.map fun _ => ⟨0, 0, 0, zero 64⟩)
      (wires.flatten.map fun b => [b]) = some (got, s') ∧ List.Forall₂ Same got sampleFrames ∧
      s'.flatten = [] := by
  obtain ⟨wires, hsend, hreceive⟩ := stream_framing.1 sampleFrames (by decide +kernel)
  refine ⟨wires, hsend, hreceive busTake (.inr rfl) _ _ [] (List.length_map _) ?_⟩
  rw [List.append_nil, ← List.flatMap_def, List.flatMap_singleton']

end Frames

end SofaFraming
