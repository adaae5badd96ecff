import Sofa.Usdo
import Sofa.Node
import Sofa.Lib.Buffer

/-! # The CANopen FD server

    `fbsec_co_fd_server.c`: frames come in from all peers, a segmented download is put
    together in one slot, a large reply is parked in another, and a request that is complete
    goes to `fbsec_server_dispatch_request`, whose reply is turned into frames.

    **`handlePdu_cases`** lists everything that one decoded request can do to the two slots,
    to the device behind them, and the one call it can make. -/

namespace SofaUsdoServer

open SofaConfig SofaDevice SofaUsdo SofaServer SofaAead SofaAsym SofaTurn SofaNode FixedBuffer StateWp

/-! ## State -/

/-- `g_segdl`: the one segmented download; `received` is its `have`. -/
structure SegDownload where
  active : Bool := false
  src : UInt8 := 0
  session : UInt8 := 0
  sub : UInt8 := 0
  index : UInt16 := 0
  counter : UInt8 := 0
  total : Nat := 0
  received : Nat := 0
  buf : Fin usdoSegBodyMax → UInt8 := fun _ => 0

/-- `g_segul`: the one parked upload. -/
structure SegUpload where
  active : Bool := false
  dst : UInt8 := 0
  session : UInt8 := 0
  total : Nat := 0
  sent : Nat := 0
  counter : UInt8 := 0
  buf : Fin usdoSegBodyMax → UInt8 := fun _ => 0

/-- `fbsec_server_dispatch_request` over the state `D` behind it: it calls `send_reply` once
    for every request. -/
structure Dispatcher (D : Type) where
  serve : D → UInt16 → UInt32 → List UInt8 → List Reply × D
  one : ∀ d client dataId body, ∃ status reply,
    (serve d client dataId body).1 = [⟨client, dataId, status, reply⟩]

/-- Every turn has exactly one reply. -/
theorem turn_sent {E : Type} {gcm : Gcm} {ed : Ed25519} {plat : DevicePlatform E}
    {deviceId client : UInt16} {dataId : UInt32} {req : List UInt8} {d d' : Device E}
    {sent : List Reply} {calls : List Call}
    (h : Turn gcm ed plat deviceId client dataId req d sent calls d') :
    ∃ status reply, sent = [⟨client, dataId, status, reply⟩] := by
  cases h <;> exact ⟨_, _, rfl⟩

/-- The reference server behind the frames. -/
def deviceDispatcher {E : Type} (gcm : Gcm) (ed : Ed25519) (plat : DevicePlatform E)
    (deviceId : UInt16) : Dispatcher (Device E) where
  serve := fun d client dataId body =>
    let w := serveRequest gcm ed plat deviceId d client dataId body
    (w.sent, w.device)
  one := by
    intro d client dataId body
    have hturn : Turn gcm ed plat deviceId client dataId body d _ _ _ := dispatchRequest_turn
    exact turn_sent hturn

/-- The statics of the server program. -/
structure UsdoServer (D : Type) where
  nodeId : UInt8
  segdl : SegDownload := {}
  segul : SegUpload := {}
  device : D

/-- One call of `fbsec_server_dispatch_request`: the peer and its session, whether the body
    came in segments, the data id and the body. -/
structure UsdoCall where
  src : UInt8
  session : UInt8
  segmented : Bool
  dataId : UInt32
  body : List UInt8
  deriving DecidableEq

/-- The server, the frames it sent and the calls it made. -/
structure UsdoWorld (D : Type) where
  server : UsdoServer D
  sent : List Frame := []
  calls : List UsdoCall := []

variable {D : Type}

abbrev UsdoM (D : Type) := StateM (UsdoWorld D)

def getServer : UsdoM D (UsdoServer D) := fun w => (w.server, w)

def setServer (s : UsdoServer D) : UsdoM D Unit := fun w => ((), { w with server := s })

/-- `fbsec_co_fd_carrier_send` of a frame that could be encoded. -/
def sendFrame (f : Option Frame) : UsdoM D Unit := fun w =>
  ((), { w with sent := w.sent ++ f.toList })

/-- `fbsec_co_fd_data_id_from_index_sub`. -/
def dataIdFromIndexSub (index : UInt16) (subindex : UInt8) : UInt32 :=
  (index.toUInt32 <<< 16) ||| (subindex.toUInt32 <<< 8)

/-! ## Segmented transfers -/

/-- `SERVER_SEG_ABORT_INDEX`. -/
abbrev segAbortIndex : UInt16 := 0x1000
abbrev abortBadCmd : Abort := 0x13
abbrev abortSegCounter : Abort := 0x14
abbrev abortDataSize : Abort := 0x15
abbrev abortSessionId : Abort := 0x21

/-- Both contexts dropped. -/
def UsdoServer.dropped (s : UsdoServer D) : UsdoServer D :=
  { s with segdl := { s.segdl with active := false }, segul := { s.segul with active := false } }

/-- `server_seg_abort`. -/
def serverSegAbort (peer session : UInt8) (index : UInt16) (subindex : UInt8) (code : Abort) :
    UsdoM D Unit := do
  let s ← getServer
  setServer s.dropped
  sendFrame (encodeAbort s.nodeId peer session index subindex code)

/-- The slot opened by an initiate request. -/
def SegDownload.opened (slot : SegDownload) (pdu : Pdu) : SegDownload :=
  { slot with
    active := true
    src := pdu.srcNode
    session := pdu.session
    index := pdu.index
    sub := pdu.subindex
    counter := 0
    total := pdu.totalSize.toNat
    received := 0 }

/-- `server_seg_download_init`. -/
def serverSegDownloadInit (pdu : Pdu) : UsdoM D Unit := do
  let s ← getServer
  if pdu.totalSize.toNat > usdoSegBodyMax then
    serverSegAbort pdu.srcNode pdu.session pdu.index pdu.subindex abortLenTooHigh
  else
    setServer { s with segdl := s.segdl.opened pdu }
    sendFrame (encodeDownloadInitResp s.nodeId pdu.srcNode pdu.session pdu.index pdu.subindex)

/-- `server_seg_download_matches`. -/
def SegDownload.matches (slot : SegDownload) (pdu : Pdu) : Bool :=
  slot.active && pdu.srcNode == slot.src && pdu.session == slot.session

/-- The slot with the data of a segment appended. -/
def SegDownload.fed (slot : SegDownload) (pdu : Pdu) : SegDownload :=
  { slot with
    buf := store slot.buf slot.received pdu.data
    received := slot.received + pdu.data.length }

/-- `server_seg_download_feed`: whether the body is complete. -/
def serverSegDownloadFeed (pdu : Pdu) : UsdoM D Bool := do
  let s ← getServer
  let slot := s.segdl
  let last := pdu.cmd == cmdDownloadEndReq
  if !slot.matches pdu then
    serverSegAbort pdu.srcNode pdu.session segAbortIndex 0 abortSessionId
    return false
  if !last && pdu.counter != slot.counter then
    serverSegAbort pdu.srcNode pdu.session slot.index slot.sub abortSegCounter
    return false
  if slot.received + pdu.data.length > slot.total then
    serverSegAbort pdu.srcNode pdu.session slot.index slot.sub abortDataSize
    return false
  if !last then
    setServer { s with segdl := { slot.fed pdu with counter := slot.counter + 1 } }
    sendFrame (encodeDownloadSegResp s.nodeId pdu.srcNode pdu.session slot.counter)
    return false
  setServer { s with segdl := slot.fed pdu }
  if (slot.fed pdu).received != slot.total then
    serverSegAbort pdu.srcNode pdu.session slot.index slot.sub abortDataSize
    return false
  return true

/-- `server_seg_upload_serve`. -/
def serverSegUploadServe (pdu : Pdu) : UsdoM D Unit := do
  let s ← getServer
  let slot := s.segul
  if !slot.active || pdu.srcNode != slot.dst || pdu.session != slot.session then
    serverSegAbort pdu.srcNode pdu.session segAbortIndex 0 abortSessionId
  else if pdu.counter != slot.counter then
    serverSegAbort pdu.srcNode pdu.session segAbortIndex 0 abortSegCounter
  else
    let remaining := slot.total - slot.sent
    if remaining > usdoSegDataMax then
      sendFrame (encodeUploadSegResp s.nodeId slot.dst slot.session slot.counter
        (load slot.buf slot.sent usdoSegDataMax))
      setServer { s with segul := { slot with
        sent := slot.sent + usdoSegDataMax, counter := slot.counter + 1 } }
    else
      sendFrame (encodeUploadEndResp s.nodeId slot.dst slot.session
        (load slot.buf slot.sent remaining))
      setServer { s with segul := { slot with active := false } }

/-! ## Replies -/

/-- `request_ctx_t`: where a reply goes, and what it answers. -/
structure RequestCtx where
  srcNode : UInt8
  reqCmd : UInt8
  session : UInt8
  index : UInt16
  subindex : UInt8

/-- The slot with a reply parked in it. -/
def SegUpload.parked (slot : SegUpload) (ctx : RequestCtx) (data : List UInt8) : SegUpload :=
  { slot with
    active := true
    dst := ctx.srcNode
    session := ctx.session
    total := data.length
    sent := 0
    counter := 0
    buf := store slot.buf 0 data }

/-- The one frame that answers a request. -/
def replyFrame (nodeId : UInt8) (ctx : RequestCtx) (status : Abort) (data : List UInt8) :
    Option Frame :=
  if status != abortNone then
    encodeAbort nodeId ctx.srcNode ctx.session ctx.index ctx.subindex status
  else if ctx.reqCmd == cmdDownloadReq then
    encodeDownloadResp nodeId ctx.srcNode ctx.session ctx.index ctx.subindex data
  else if ctx.reqCmd == cmdDownloadEndReq then
    encodeDownloadEndResp nodeId ctx.srcNode ctx.session
  else if ctx.reqCmd == cmdUploadReq then
    encodeUploadResp nodeId ctx.srcNode ctx.session ctx.index ctx.subindex data
  else
    encodeAbort nodeId ctx.srcNode ctx.session ctx.index ctx.subindex abortBadCmd

/-- `send_reply_cb`.  A reply too large for the buffer is reported and dropped. -/
def sendReplyCb (ctx : RequestCtx) (status : Abort) (data : List UInt8) : UsdoM D Unit := do
  let s ← getServer
  if status == abortNone && data.length > usdoDataMax then
    if data.length > usdoSegBodyMax then
      pure ()
    else
      setServer { s with segul := s.segul.parked ctx data }
      sendFrame (encodeUploadInitResp s.nodeId ctx.srcNode ctx.session ctx.index ctx.subindex
        (UInt32.ofNat data.length))
  else
    sendFrame (replyFrame s.nodeId ctx status data)

/-- `send_reply_cb` for each call of `send_reply`. -/
def sendReplies (ctx : RequestCtx) : List Reply → UsdoM D Unit
  | [] => pure ()
  | r :: rs => do
      sendReplyCb ctx r.status r.body
      sendReplies ctx rs

/-- A request that is complete, dispatched. -/
def dispatch (disp : Dispatcher D) (ctx : RequestCtx) (segmented : Bool) (body : List UInt8) :
    UsdoM D Unit := fun w =>
  let dataId := dataIdFromIndexSub ctx.index ctx.subindex
  let out := disp.serve w.server.device ctx.srcNode.toUInt16 dataId body
  sendReplies ctx out.1
    { w with
      server := { w.server with device := out.2 }
      calls := w.calls ++ [⟨ctx.srcNode, ctx.session, segmented, dataId, body⟩] }

/-! ## The loop -/

/-- The context of a request of one frame. -/
def Pdu.ctx (pdu : Pdu) : RequestCtx :=
  ⟨pdu.srcNode, pdu.cmd, pdu.session, pdu.index, pdu.subindex⟩

/-- And of a segmented download. -/
def SegDownload.ctx (slot : SegDownload) : RequestCtx :=
  ⟨slot.src, cmdDownloadEndReq, slot.session, slot.index, slot.sub⟩

/-- A body that is complete, dispatched; the slot is free after. -/
def dispatchSegmented (disp : Dispatcher D) : UsdoM D Unit := do
  let slot := (← getServer).segdl
  dispatch disp slot.ctx true (load slot.buf 0 slot.total)
  let s ← getServer
  setServer { s with segdl := { s.segdl with active := false } }

/-- `run_dispatch_loop`, from the decoded request on. -/
def handlePdu (disp : Dispatcher D) (pdu : Pdu) : UsdoM D Unit := do
  if pdu.cmd == cmdDownloadInitReq then
    serverSegDownloadInit pdu
  else if pdu.cmd == cmdDownloadSegReq || pdu.cmd == cmdDownloadEndReq then
    let complete ← serverSegDownloadFeed pdu
    if complete then
      dispatchSegmented disp
    else
      pure ()
  else if pdu.cmd == cmdUploadSegReq then
    serverSegUploadServe pdu
  else
    dispatch disp (Pdu.ctx pdu) false pdu.data

/-- The request in a frame: it decodes, rides the request base, and is for this node. -/
def requestPdu (nodeId : UInt8) (f : Frame) : Option Pdu :=
  match decode f with
  | .error _ => none
  | .ok pdu =>
      if (canIdSplit f.idValue).2 = .request ∧ pdu.dstNode = nodeId then some pdu else none

/-- One frame of `run_dispatch_loop`. -/
def handleFrame (disp : Dispatcher D) (f : Frame) : UsdoM D Unit := do
  let s ← getServer
  match requestPdu s.nodeId f with
  | none => pure ()
  | some pdu => handlePdu disp pdu

/-! ## What one request can do -/

theorem wp_getServer {Q : UsdoServer D → UsdoWorld D → Prop} {w : UsdoWorld D} :
    wp getServer Q w ↔ Q w.server w := Iff.rfl

theorem wp_setServer {Q : Unit → UsdoWorld D → Prop} {w : UsdoWorld D} {s : UsdoServer D} :
    wp (setServer s) Q w ↔ Q () { w with server := s } := Iff.rfl

/-- What `server_seg_download_feed` leaves. -/
inductive Feed (pdu : Pdu) (s : UsdoServer D) : Bool → UsdoServer D → Prop where
  /-- A segment or an end that does not continue the transfer ends both transfers. -/
  | dropped (slot : SegDownload) : Feed pdu s false ({ s with segdl := slot } : UsdoServer D).dropped
  /-- The next segment is appended. -/
  | segment (cmd : pdu.cmd ≠ cmdDownloadEndReq) (owner : s.segdl.matches pdu = true)
      (counter : pdu.counter = s.segdl.counter)
      (room : s.segdl.received + pdu.data.length ≤ s.segdl.total) :
      Feed pdu s false
        { s with segdl := { s.segdl.fed pdu with counter := s.segdl.counter + 1 } }
  /-- The end segment fills the body. -/
  | complete (cmd : pdu.cmd = cmdDownloadEndReq) (owner : s.segdl.matches pdu = true)
      (full : s.segdl.received + pdu.data.length = s.segdl.total) :
      Feed pdu s true { s with segdl := s.segdl.fed pdu }

theorem serverSegDownloadFeed_feed {pdu : Pdu} {w : UsdoWorld D} :
    wp (serverSegDownloadFeed pdu)
      (fun complete w' => w'.calls = w.calls ∧ Feed pdu w.server complete w'.server) w := by
  rw [serverSegDownloadFeed, wp_bind, wp_getServer]
  dsimp only
  by_cases howner : w.server.segdl.matches pdu = true
  · rw [if_neg (by simp [howner])]
    by_cases hcounter : (pdu.cmd == cmdDownloadEndReq) = true ∨ pdu.counter = w.server.segdl.counter
    · rw [if_neg (by obtain h | h := hcounter <;> simp [h])]
      by_cases hroom : w.server.segdl.received + pdu.data.length ≤ w.server.segdl.total
      · rw [if_neg (Nat.not_lt.mpr hroom)]
        by_cases hlast : (pdu.cmd == cmdDownloadEndReq) = true
        · rw [if_neg (by simp [hlast])]
          by_cases hfull : w.server.segdl.received + pdu.data.length = w.server.segdl.total
          · rw [wp_bind, wp_setServer]
            rw [if_neg (by simpa [SegDownload.fed] using hfull)]
            exact ⟨rfl, .complete (by simpa using hlast) howner hfull⟩
          · rw [wp_bind, wp_setServer]
            rw [if_pos (by simpa [SegDownload.fed] using hfull)]
            exact ⟨rfl, .dropped _⟩
        · rw [if_pos (by simp [hlast])]
          have hcmd : pdu.cmd ≠ cmdDownloadEndReq := by simpa using hlast
          exact ⟨rfl, .segment hcmd howner (hcounter.resolve_left hlast) hroom⟩
      · rw [if_pos (Nat.lt_of_not_le hroom)]
        exact ⟨rfl, .dropped w.server.segdl⟩
    · rw [if_pos (by simpa using hcounter)]
      exact ⟨rfl, .dropped w.server.segdl⟩
  · rw [if_pos (by simpa using howner)]
    exact ⟨rfl, .dropped w.server.segdl⟩

/-- What `server_seg_upload_serve` leaves. -/
inductive Served (s : UsdoServer D) : UsdoServer D → Prop where
  | dropped : Served s s.dropped
  /-- A full segment went out. -/
  | segment (more : s.segul.total - s.segul.sent > usdoSegDataMax) :
      Served s { s with segul := { s.segul with
        sent := s.segul.sent + usdoSegDataMax, counter := s.segul.counter + 1 } }
  /-- The last segment went out. -/
  | last : Served s { s with segul := { s.segul with active := false } }

theorem serverSegUploadServe_served {pdu : Pdu} {w : UsdoWorld D} :
    wp (serverSegUploadServe pdu)
      (fun _ w' => w'.calls = w.calls ∧ Served w.server w'.server) w := by
  rw [serverSegUploadServe, wp_bind, wp_getServer]
  dsimp only
  by_cases howner : (!w.server.segul.active || pdu.srcNode != w.server.segul.dst
      || pdu.session != w.server.segul.session) = true
  · rw [if_pos howner]
    exact ⟨rfl, .dropped⟩
  · rw [if_neg howner]
    by_cases hcounter : (pdu.counter != w.server.segul.counter) = true
    · rw [if_pos hcounter]
      exact ⟨rfl, .dropped⟩
    · rw [if_neg hcounter]
      by_cases hmore : w.server.segul.total - w.server.segul.sent > usdoSegDataMax
      · rw [if_pos hmore]
        exact ⟨rfl, .segment hmore⟩
      · rw [if_neg hmore]
        exact ⟨rfl, .last⟩

/-- What a reply does to the parked upload. -/
inductive Parked (slot : SegUpload) : SegUpload → Prop where
  | kept : Parked slot slot
  | parked {ctx : RequestCtx} {data : List UInt8} (fits : data.length ≤ usdoSegBodyMax) :
      Parked slot (slot.parked ctx data)

/-- A reply that fits in one frame, or an abort. -/
theorem sendReplyCb_frame {ctx : RequestCtx} {status : Abort} {data : List UInt8}
    {w : UsdoWorld D} (h : status = abortNone → data.length ≤ usdoDataMax) :
    sendReplyCb ctx status data w = sendFrame (replyFrame w.server.nodeId ctx status data) w := by
  have hsmall : ¬ (status == abortNone && decide (data.length > usdoDataMax)) = true := by
    rw [Bool.and_eq_true, beq_iff_eq, decide_eq_true_iff]
    exact fun hlarge => absurd (h hlarge.1) (Nat.not_le.mpr hlarge.2)
  show (ite _ _ _ : UsdoM D Unit) w = _
  rw [if_neg hsmall]

/-- A larger one is parked and announced. -/
theorem sendReplyCb_large {ctx : RequestCtx} {data : List UInt8} {w : UsdoWorld D}
    (hlarge : usdoDataMax < data.length) (hmax : data.length ≤ usdoSegBodyMax) :
    sendReplyCb ctx abortNone data w
      = ((), { w with
          server := { w.server with segul := w.server.segul.parked ctx data }
          sent := w.sent ++ (encodeUploadInitResp w.server.nodeId ctx.srcNode ctx.session ctx.index
            ctx.subindex (UInt32.ofNat data.length)).toList }) := by
  have hyes : ((abortNone : Abort) == abortNone && decide (data.length > usdoDataMax)) = true := by
    rw [decide_eq_true hlarge]
    rfl
  show (ite _ _ _ : UsdoM D Unit) w = _
  rw [if_pos hyes, if_neg (Nat.not_lt.mpr hmax)]
  rfl

theorem sendReplyCb_parked (ctx : RequestCtx) (status : Abort) (data : List UInt8)
    (w : UsdoWorld D) :
    wp (sendReplyCb ctx status data)
      (fun _ w' => w'.calls = w.calls ∧
        ∃ slot, Parked w.server.segul slot ∧ w'.server = { w.server with segul := slot }) w := by
  rw [sendReplyCb, wp_bind, wp_getServer]
  by_cases hlarge : (status == abortNone && decide (data.length > usdoDataMax)) = true
  · rw [if_pos hlarge]
    by_cases hmax : data.length > usdoSegBodyMax
    · rw [if_pos hmax]
      exact ⟨rfl, _, .kept, rfl⟩
    · rw [if_neg hmax]
      exact ⟨rfl, _, .parked (Nat.not_lt.mp hmax), rfl⟩
  · rw [if_neg hlarge]
    exact ⟨rfl, _, .kept, rfl⟩

/-- A request dispatched is one call, whose one reply is sent. -/
theorem dispatch_eq {disp : Dispatcher D} {ctx : RequestCtx} {segmented : Bool}
    {body : List UInt8} {w : UsdoWorld D} {status : Abort} {reply : List UInt8} {d : D}
    (h : disp.serve w.server.device ctx.srcNode.toUInt16
        (dataIdFromIndexSub ctx.index ctx.subindex) body
      = ([⟨ctx.srcNode.toUInt16, dataIdFromIndexSub ctx.index ctx.subindex, status, reply⟩], d)) :
    dispatch disp ctx segmented body w = sendReplyCb ctx status reply
      { w with
        server := { w.server with device := d }
        calls := w.calls ++ [⟨ctx.srcNode, ctx.session, segmented,
          dataIdFromIndexSub ctx.index ctx.subindex, body⟩] } := by
  unfold dispatch
  dsimp only
  rw [h]
  rfl

theorem dispatch_parked (disp : Dispatcher D) (ctx : RequestCtx) (segmented : Bool)
    (body : List UInt8) (w : UsdoWorld D) :
    wp (dispatch disp ctx segmented body)
      (fun _ w' => w'.calls = w.calls ++ [⟨ctx.srcNode, ctx.session, segmented,
          dataIdFromIndexSub ctx.index ctx.subindex, body⟩] ∧
        ∃ slot, Parked w.server.segul slot ∧
          w'.server = { w.server with
            segul := slot
            device := (disp.serve w.server.device ctx.srcNode.toUInt16
              (dataIdFromIndexSub ctx.index ctx.subindex) body).2 }) w := by
  obtain ⟨status, reply, hone⟩ := disp.one w.server.device ctx.srcNode.toUInt16
    (dataIdFromIndexSub ctx.index ctx.subindex) body
  have hserve : dispatch disp ctx segmented body w = _ := dispatch_eq (Prod.ext hone rfl)
  rw [wp, hserve]
  obtain ⟨hcalls, slot, hparked, hserver⟩ := sendReplyCb_parked ctx status reply _
  exact ⟨hcalls, slot, hparked, hserver⟩

/-- **Everything one request can do**: to the two slots, to the device, and the call it makes. -/
inductive Handled (pdu : Pdu) (s : UsdoServer D) : UsdoServer D → List UsdoCall → Prop where
  /-- A transfer was refused or ended: both slots are free. -/
  | dropped (slot : SegDownload) :
      Handled pdu s ({ s with segdl := slot } : UsdoServer D).dropped []
  /-- An initiate took the download slot. -/
  | opened (cmd : pdu.cmd = cmdDownloadInitReq) (fits : pdu.totalSize.toNat ≤ usdoSegBodyMax) :
      Handled pdu s { s with segdl := s.segdl.opened pdu } []
  /-- The next segment was appended. -/
  | segment (cmd : pdu.cmd = cmdDownloadSegReq) (owner : s.segdl.matches pdu = true)
      (counter : pdu.counter = s.segdl.counter)
      (room : s.segdl.received + pdu.data.length ≤ s.segdl.total) :
      Handled pdu s { s with segdl := { s.segdl.fed pdu with counter := s.segdl.counter + 1 } } []
  /-- The end segment filled the body, which was dispatched. -/
  | complete {slot : SegUpload} {device : D} (cmd : pdu.cmd = cmdDownloadEndReq)
      (owner : s.segdl.matches pdu = true)
      (full : s.segdl.received + pdu.data.length = s.segdl.total)
      (reply : Parked s.segul slot) :
      Handled pdu s
        { s with segdl := { s.segdl.fed pdu with active := false }, segul := slot,
                 device := device }
        [⟨s.segdl.src, s.segdl.session, true, dataIdFromIndexSub s.segdl.index s.segdl.sub,
          load (s.segdl.fed pdu).buf 0 s.segdl.total⟩]
  /-- A segment of the parked upload was served. -/
  | upload {s' : UsdoServer D} (cmd : pdu.cmd = cmdUploadSegReq) (served : Served s s') :
      Handled pdu s s' []
  /-- A request of one frame was dispatched. -/
  | single {slot : SegUpload} {device : D} (init : pdu.cmd ≠ cmdDownloadInitReq)
      (seg : pdu.cmd ≠ cmdDownloadSegReq) (end' : pdu.cmd ≠ cmdDownloadEndReq)
      (reply : Parked s.segul slot) :
      Handled pdu s { s with segul := slot, device := device }
        [⟨pdu.srcNode, pdu.session, false, dataIdFromIndexSub pdu.index pdu.subindex, pdu.data⟩]

theorem handlePdu_cases (disp : Dispatcher D) (pdu : Pdu) (w : UsdoWorld D) :
    wp (handlePdu disp pdu)
      (fun _ w' => ∃ calls, w'.calls = w.calls ++ calls ∧ Handled pdu w.server w'.server calls)
      w := by
  rw [handlePdu]
  by_cases hinit : (pdu.cmd == cmdDownloadInitReq) = true
  · rw [if_pos hinit, serverSegDownloadInit, wp_bind, wp_getServer]
    by_cases hmax : pdu.totalSize.toNat > usdoSegBodyMax
    · rw [if_pos hmax]
      exact ⟨[], (List.append_nil _).symm, .dropped w.server.segdl⟩
    · rw [if_neg hmax]
      exact ⟨[], (List.append_nil _).symm, .opened (by simpa using hinit) (Nat.not_lt.mp hmax)⟩
  · rw [if_neg hinit]
    by_cases hseg : (pdu.cmd == cmdDownloadSegReq || pdu.cmd == cmdDownloadEndReq) = true
    · rw [if_pos hseg, wp_bind]
      refine wp_mono serverSegDownloadFeed_feed ?_
      rintro complete ⟨s', sent, calls⟩ ⟨hcalls, hfeed⟩
      have hnone : calls = w.calls ++ [] := by rw [List.append_nil, ← hcalls]
      cases hfeed with
      | dropped slot => exact ⟨[], hnone, .dropped slot⟩
      | segment cmd owner counter room =>
          have hcmd : pdu.cmd = cmdDownloadSegReq := by simpa [cmd] using hseg
          exact ⟨[], hnone, .segment hcmd owner counter room⟩
      | complete cmd owner full =>
          rw [if_pos rfl, dispatchSegmented, wp_bind, wp_getServer, wp_bind]
          refine wp_mono (dispatch_parked ..) ?_
          rintro - w' ⟨hcalls', slot, hparked, hserver⟩
          rw [wp_bind, wp_getServer, wp_setServer, hserver]
          refine ⟨_, ?_, .complete cmd owner full hparked⟩
          rw [hcalls']
          exact congrArg (· ++ _) hcalls
    · rw [if_neg hseg]
      by_cases hup : (pdu.cmd == cmdUploadSegReq) = true
      · rw [if_pos hup]
        refine wp_mono serverSegUploadServe_served ?_
        rintro - w' ⟨hcalls, hserved⟩
        exact ⟨[], by rw [hcalls, List.append_nil], .upload (by simpa using hup) hserved⟩
      · rw [if_neg hup]
        refine wp_mono (dispatch_parked ..) ?_
        rintro - w' ⟨hcalls, slot, hparked, hserver⟩
        rw [hserver]
        simp only [Bool.or_eq_true, beq_iff_eq, not_or] at hinit hseg
        exact ⟨_, hcalls, .single hinit hseg.1 hseg.2 hparked⟩

/-- A segment or an end: what follows depends on whether the body is complete. -/
theorem handlePdu_feed {disp : Dispatcher D} {pdu : Pdu} {w w' : UsdoWorld D} {complete : Bool}
    (hcmd : pdu.cmd = cmdDownloadSegReq ∨ pdu.cmd = cmdDownloadEndReq)
    (hfeed : serverSegDownloadFeed pdu w = (complete, w')) :
    handlePdu disp pdu w = if complete then dispatchSegmented disp w' else ((), w') := by
  have hinit : ¬ (pdu.cmd == cmdDownloadInitReq) = true := by
    obtain h | h := hcmd <;> rw [h] <;> decide
  have hseg : (pdu.cmd == cmdDownloadSegReq || pdu.cmd == cmdDownloadEndReq) = true := by
    obtain h | h := hcmd <;> rw [h] <;> rfl
  rw [handlePdu, if_neg hinit, if_pos hseg]
  show (fun r : Bool × UsdoWorld D =>
    (if r.1 then dispatchSegmented disp else pure () : UsdoM D Unit) r.2)
      (serverSegDownloadFeed pdu w) = _
  rw [hfeed]
  cases complete <;> rfl

/-- What a node takes as a request: a frame that decodes, of the request kind, for this node. -/
theorem requestPdu_iff {nodeId : UInt8} {f : Frame} {pdu : Pdu} :
    requestPdu nodeId f = some pdu ↔
      decode f = .ok pdu ∧ (canIdSplit f.idValue).2 = .request ∧ pdu.dstNode = nodeId := by
  rw [requestPdu]
  cases hdec : decode f with
  | error err => simp
  | ok pdu' =>
      simp only [Option.ite_none_right_eq_some, Option.some.injEq, Except.ok.injEq]
      constructor
      · rintro ⟨⟨hkind, hdst⟩, rfl⟩
        exact ⟨rfl, hkind, hdst⟩
      · rintro ⟨rfl, hkind, hdst⟩
        exact ⟨⟨hkind, hdst⟩, rfl⟩

/-- A frame that is no request for this node does nothing. -/
theorem handleFrame_none {disp : Dispatcher D} {f : Frame} {w : UsdoWorld D}
    (h : requestPdu w.server.nodeId f = none) : handleFrame disp f w = ((), w) := by
  show ((match requestPdu w.server.nodeId f with
    | none => (pure () : UsdoM D Unit)
    | some pdu => handlePdu disp pdu) w) = _
  rw [h]
  rfl

/-- And one that is, is handled. -/
theorem handleFrame_some {disp : Dispatcher D} {f : Frame} {w : UsdoWorld D} {pdu : Pdu}
    (h : requestPdu w.server.nodeId f = some pdu) :
    handleFrame disp f w = handlePdu disp pdu w := by
  show ((match requestPdu w.server.nodeId f with
    | none => (pure () : UsdoM D Unit)
    | some pdu => handlePdu disp pdu) w) = _
  rw [h]

end SofaUsdoServer
