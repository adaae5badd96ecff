import Sofa.UsdoServer
import Sofa.Client

/-! # The CANopen FD client

    The transport of `fbsec_co_fd_client.c`: one request and its response, a large body that
    is pushed in segments, a large reply that is pulled in segments.  The channel is
    lossless and in order, with this client alone on it: a frame that is sent is handled
    by the server, and what the server sends waits in the inbox. -/

namespace SofaUsdoClient

open SofaConfig SofaDevice SofaUsdo SofaUsdoServer SofaClient

/-! ## The client and its channel -/

/-- The server at the other end, the frames that wait, the static session counter, and what
    happened so far: the requests the server dispatched and the frames it sent. -/
structure Link (D : Type) where
  server : UsdoServer D
  inbox : List Frame := []
  usdoSession : UInt8 := 0
  calls : List UsdoCall := []
  sent : List Frame := []

variable {D : Type}

abbrev LinkM (D : Type) := StateM (Link D)

/-- The session after this one; 0 is never one. -/
def sessionAfter (session : UInt8) : UInt8 := if session == 0xFF then 1 else session + 1

/-- `next_session`. -/
def nextSession : LinkM D UInt8 := fun l =>
  (sessionAfter l.usdoSession, { l with usdoSession := sessionAfter l.usdoSession })

/-- `fbsec_co_fd_carrier_send`: the server handles the frame. -/
def carrierSend (disp : Dispatcher D) (f : Frame) : LinkM D Unit := fun l =>
  let w := (handleFrame disp f { server := l.server }).2
  ((), { l with
    server := w.server, inbox := l.inbox ++ w.sent, calls := l.calls ++ w.calls
    sent := l.sent ++ w.sent })

/-! ## One request and its response -/

/-- What `round_trip` waits for: a command, or another (0 for none), from this node in this
    session, on this object when the frame names one, with at most so much data. -/
structure Expected where
  cmd : UInt8
  alt : UInt8
  node : UInt8
  session : UInt8
  mux : Option (UInt16 × UInt8)
  cap : Nat

/-- The filter on the multiplexor. -/
def Expected.muxMatches (e : Expected) (pdu : Pdu) : Bool :=
  match e.mux with
  | none => true
  | some (index, sub) => !pdu.muxValid || (pdu.index == index && pdu.subindex == sub)

/-- The response in a frame, unless the client skips it. -/
def responsePdu (nodeId : UInt8) (e : Expected) (f : Frame) : Option Pdu :=
  match decode f with
  | .error _ => none
  | .ok pdu =>
      if (canIdSplit f.idValue).2 = .response ∧ pdu.srcNode = e.node ∧ pdu.dstNode = nodeId
          ∧ pdu.session = e.session ∧ e.muxMatches pdu then some pdu
      else none

/-- What a response means. -/
def answer (e : Expected) (pdu : Pdu) : Except SecpError Pdu :=
  if pdu.cmd == cmdAbort then .error (.abort pdu.abortCode)
  else if pdu.cmd != e.cmd && (e.alt == 0 || pdu.cmd != e.alt) then .error .protocol
  else if pdu.data.length > e.cap then .error .bufsize
  else .ok pdu

/-- The receive loop of `round_trip`; an inbox that runs empty is a timeout. -/
def receive (nodeId : UInt8) (e : Expected) : List Frame → Except SecpError Pdu × List Frame
  | [] => (.error .timeout, [])
  | f :: rest =>
      match responsePdu nodeId e f with
      | none => receive nodeId e rest
      | some pdu => (answer e pdu, rest)

def carrierRecv (nodeId : UInt8) (e : Expected) : LinkM D (Except SecpError Pdu) := fun l =>
  ((receive nodeId e l.inbox).1, { l with inbox := (receive nodeId e l.inbox).2 })

/-- `round_trip`. -/
def roundTrip (disp : Dispatcher D) (nodeId : UInt8) (f : Frame) (e : Expected) :
    LinkM D (Except SecpError Pdu) := do
  carrierSend disp f
  carrierRecv nodeId e

/-! ## Segmented transfers -/

/-- What `seg_upload_pull` waits for. -/
def pullExpected (target session : UInt8) : Expected where
  cmd := cmdUploadSegResp
  alt := cmdUploadEndResp
  node := target
  session := session
  mux := none
  cap := payloadMax

/-- The loop of `seg_upload_pull`; `got` is what was copied so far. -/
def pullSegments (disp : Dispatcher D) (nodeId target session : UInt8) (total : Nat)
    (counter : UInt8) (got : List UInt8) : LinkM D (Except SecpError (List UInt8)) :=
  match encodeUploadSegReq nodeId target session counter with
  | none => pure (.error .protocol)
  | some f => do
      match ← roundTrip disp nodeId f (pullExpected target session) with
      | .error e => pure (.error e)
      | .ok res =>
          if res.cmd == cmdUploadSegResp && res.counter != counter then
            pure (.error .protocol)
          else if got.length + res.data.length > total then
            pure (.error .protocol)
          else if res.cmd == cmdUploadEndResp then
            if got.length + res.data.length != total then pure (.error .protocol)
            else pure (.ok (got ++ res.data))
          else if _hlast : counter = 0xFF then pure (.error .protocol)
          else pullSegments disp nodeId target session total (counter + 1) (got ++ res.data)
termination_by 255 - counter.toNat
decreasing_by
  have hne : counter.toNat ≠ 255 := fun h => _hlast (UInt8.toNat_inj.mp h)
  have hlt : counter.toNat < 256 := UInt8.toNat_lt counter
  have hnext : (counter + 1).toNat = counter.toNat + 1 := by
    rw [UInt8.toNat_add]
    exact Nat.mod_eq_of_lt (by show counter.toNat + 1 < 256; omega)
  omega

/-- `seg_upload_pull`. -/
def segUploadPull (disp : Dispatcher D) (nodeId target session : UInt8) (total cap : Nat) :
    LinkM D (Except SecpError (List UInt8)) :=
  if total > cap then pure (.error .bufsize)
  else pullSegments disp nodeId target session total 0 []

/-- What a request on an object waits for. -/
def muxExpected (cmd alt target session : UInt8) (index : UInt16) (sub : UInt8) (cap : Nat) :
    Expected where
  cmd := cmd
  alt := alt
  node := target
  session := session
  mux := some (index, sub)
  cap := cap

/-- And a segment of a download. -/
def pushExpected (cmd target session : UInt8) : Expected where
  cmd := cmd
  alt := 0
  node := target
  session := session
  mux := none
  cap := payloadMax

/-- The loop of `transport_write` over what is left of the body, and its end segment. -/
def pushSegments (disp : Dispatcher D) (nodeId target session : UInt8) (counter : UInt8)
    (rest : List UInt8) : LinkM D (Except SecpError Unit) :=
  if _hmore : rest.length > usdoSegDataMax then
    match encodeDownloadSegReq nodeId target session counter rest with
    | none => pure (.error .protocol)
    | some f => do
        match ← roundTrip disp nodeId f (pushExpected cmdDownloadSegResp target session) with
        | .error e => pure (.error e)
        | .ok res =>
            if res.counter != counter then pure (.error .protocol)
            else pushSegments disp nodeId target session (counter + 1) (rest.drop usdoSegDataMax)
  else
    match encodeDownloadEndReq nodeId target session rest with
    | none => pure (.error .protocol)
    | some f => do
        match ← roundTrip disp nodeId f (pushExpected cmdDownloadEndResp target session) with
        | .error e => pure (.error e)
        | .ok _ => pure (.ok ())
termination_by rest.length
decreasing_by
  have hmore : rest.length > 60 := _hmore
  rw [List.length_drop]
  show rest.length - 60 < rest.length
  omega

/-! ## The transport -/

/-- The object a data id addresses. -/
def wantIndex (dataId : UInt32) : UInt16 := (dataId >>> 16).toUInt16

def wantSub (dataId : UInt32) : UInt8 := (dataId >>> 8).toUInt8

/-- `transport_read`. -/
def transportRead (disp : Dispatcher D) (nodeId : UInt8) (deviceId : UInt16) (dataId : UInt32)
    (body : List UInt8) (cap : Nat) : LinkM D (Except SecpError (List UInt8)) := do
  let target := deviceId.toUInt8
  let index := wantIndex dataId
  let sub := wantSub dataId
  if !validNode target then
    return .error .protocol
  let session ← nextSession
  let req := if body.length > 0 then encodeDownloadReq nodeId target session index sub body
    else encodeUploadReq nodeId target session index sub
  let cmd := if body.length > 0 then cmdDownloadResp else cmdUploadResp
  match req with
  | none => return .error .protocol
  | some f =>
      match ← roundTrip disp nodeId f
          (muxExpected cmd cmdUploadInitResp target session index sub cap) with
      | .error e => return .error e
      | .ok res =>
          if res.cmd == cmdUploadInitResp then
            segUploadPull disp nodeId target session res.totalSize.toNat cap
          else
            return .ok res.data

/-- `transport_write`. -/
def transportWrite (disp : Dispatcher D) (nodeId : UInt8) (deviceId : UInt16) (dataId : UInt32)
    (body : List UInt8) : LinkM D (Except SecpError Unit) := do
  let target := deviceId.toUInt8
  let index := wantIndex dataId
  let sub := wantSub dataId
  if !validNode target then
    return .error .protocol
  if body.length ≤ usdoDataMax then
    let session ← nextSession
    match encodeDownloadReq nodeId target session index sub body with
    | none => return .error .protocol
    | some f =>
        match ← roundTrip disp nodeId f
            (muxExpected cmdDownloadResp 0 target session index sub payloadMax) with
        | .error e => return .error e
        | .ok _ => return .ok ()
  else if body.length > usdoSegBodyMax then
    return .error .bufsize
  else
    let session ← nextSession
    match encodeDownloadInitReq nodeId target session index sub (UInt32.ofNat body.length) with
    | none => return .error .protocol
    | some f =>
        match ← roundTrip disp nodeId f
            (muxExpected cmdDownloadInitResp 0 target session index sub payloadMax) with
        | .error e => return .error e
        | .ok _ => pushSegments disp nodeId target session 0 body

end SofaUsdoClient
