import Sofa.UsdoClient
import Sofa.Epochs

/-! # Transfers over CANopen FD

    The client's transport against the server, for every length.  A body of up to 56 bytes
    goes in one frame; a larger one is announced, sent in segments of 60 bytes that the
    server acknowledges one by one, and dispatched when the end segment lands.  A large
    reply is parked on the server and pulled the same way.

    Each exchange of two frames has a lemma; the two loops are inductions over what is left
    to send (`pushSegments_run`, `pullSegments_run`).  The headlines are
    **`download_end_to_end`** and **`upload_end_to_end`**. -/

namespace SofaTransfers

open SofaConfig SofaAead SofaDevice SofaNode SofaEpochs SofaUsdo SofaUsdoServer SofaUsdoClient
  SofaServer FixedBuffer
open SofaClient (SecpError)
open StateWp

variable {D : Type} {disp : Dispatcher D}

/-! ## One exchange -/

/-- A response to the request of this peer and session, on its object when it names one. -/
structure Responds (nodeId : UInt8) (ctx : RequestCtx) (res : Pdu) : Prop where
  src : res.srcNode = nodeId
  dst : res.dstNode = ctx.srcNode
  session : res.session = ctx.session
  mux : res.muxValid = true → res.index = ctx.index ∧ res.subindex = ctx.subindex

/-- The server takes a request, becomes `s'`, makes these calls and sends one frame. -/
structure Answers (disp : Dispatcher D) (s : UsdoServer D) (pdu : Pdu) (s' : UsdoServer D)
    (calls : List UsdoCall) (res : Pdu) : Prop where
  runs : ∃ g, (handlePdu disp pdu { server := s }).2 = ⟨s', [g], calls⟩ ∧ Carries g .response res

/-- What happened on the channel between two quiet moments: the server became `s'`, made
    these calls, and sent frames with these commands. -/
structure Exchanged (l : Link D) (s' : UsdoServer D) (calls : List UsdoCall)
    (cmds : List UInt8) (l' : Link D) : Prop where
  server : l'.server = s'
  quiet : l'.inbox = []
  calls : l'.calls = l.calls ++ calls
  sent : ∃ frames, l'.sent = l.sent ++ frames ∧ frames.map (fun f => f.byte 1) = cmds

theorem Exchanged.trans {l l₁ l₂ : Link D} {s₁ s₂ : UsdoServer D} {calls₁ calls₂ : List UsdoCall}
    {cmds₁ cmds₂ : List UInt8} (h₁ : Exchanged l s₁ calls₁ cmds₁ l₁)
    (h₂ : Exchanged l₁ s₂ calls₂ cmds₂ l₂) :
    Exchanged l s₂ (calls₁ ++ calls₂) (cmds₁ ++ cmds₂) l₂ := by
  obtain ⟨frames₁, hsent₁, hcmds₁⟩ := h₁.sent
  obtain ⟨frames₂, hsent₂, hcmds₂⟩ := h₂.sent
  refine ⟨h₂.server, h₂.quiet, ?_, frames₁ ++ frames₂, ?_, ?_⟩
  · rw [h₂.calls, h₁.calls, List.append_assoc]
  · rw [hsent₂, hsent₁, List.append_assoc]
  · rw [List.map_append, hcmds₁, hcmds₂]

/-- The server handles a request, whatever the client makes of the response. -/
theorem roundTrip_handled (disp : Dispatcher D) {l : Link D} (client : UInt8) {f : Frame}
    (e : Expected) {pdu : Pdu} (hreq : Carries f .request pdu) (hnode : pdu.dstNode = l.server.nodeId) :
    (roundTrip disp client f e l).2.server = (handlePdu disp pdu { server := l.server }).2.server ∧
      (roundTrip disp client f e l).2.calls
        = l.calls ++ (handlePdu disp pdu { server := l.server }).2.calls := by
  have hpdu : requestPdu l.server.nodeId f = some pdu :=
    requestPdu_iff.mpr ⟨hreq.decoded, hreq.kind, hnode⟩
  rw [← handleFrame_some (w := { server := l.server }) hpdu]
  exact ⟨rfl, rfl⟩

/-- A request that the server answers is answered to the client. -/
theorem roundTrip_exchanged (disp : Dispatcher D) {l : Link D} {client : UInt8} {f : Frame} {e : Expected} {pdu res : Pdu}
    {s' : UsdoServer D} {calls : List UsdoCall} (hquiet : l.inbox = [])
    (hreq : Carries f .request pdu) (hnode : pdu.dstNode = l.server.nodeId)
    (hruns : Answers disp l.server pdu s' calls res) (hsrc : res.srcNode = e.node)
    (hdst : res.dstNode = client) (hsession : res.session = e.session)
    (hmux : e.muxMatches res = true) :
    ∃ l', roundTrip disp client f e l = (answer e res, l') ∧
      Exchanged l s' calls [res.cmd] l' := by
  obtain ⟨g, hrun, hcarries⟩ := hruns
  have hpdu : requestPdu l.server.nodeId f = some pdu :=
    requestPdu_iff.mpr ⟨hreq.decoded, hreq.kind, hnode⟩
  have hres : responsePdu client e g = some res := by
    rw [responsePdu, hcarries.decoded]
    exact if_pos ⟨hcarries.kind, hsrc, hdst, hsession, hmux⟩
  have hframe : (handleFrame disp f { server := l.server }).2 = ⟨s', [g], calls⟩ := by
    rw [handleFrame_some (w := { server := l.server }) hpdu, hrun]
  have hrecv : receive client e (l.inbox ++ [g]) = (answer e res, []) := by
    rw [hquiet, List.nil_append, receive, hres]
  have hcmd : g.byte 1 = res.cmd := (decode_cmd hcarries.decoded).symm
  have hrt : ∀ w, (handleFrame disp f { server := l.server }).2 = w →
      roundTrip disp client f e l = ((receive client e (l.inbox ++ w.sent)).1,
        { l with
          server := w.server, inbox := (receive client e (l.inbox ++ w.sent)).2
          calls := l.calls ++ w.calls, sent := l.sent ++ w.sent }) := by
    rintro w rfl
    rfl
  have hout := hrt _ hframe
  rw [hrecv] at hout
  exact ⟨_, hout, rfl, rfl, rfl, [g], rfl, by rw [List.map_singleton, hcmd]⟩

/-! ## Replies -/

/-- The command that answers a request, when the reply fits in one frame. -/
def respCmd (reqCmd : UInt8) : UInt8 :=
  if reqCmd == cmdDownloadReq then cmdDownloadResp
  else if reqCmd == cmdDownloadEndReq then cmdDownloadEndResp
  else cmdUploadResp

/-- The response in one frame: an abort, or the reply; an end response carries none of it. -/
structure Delivered (ctx : RequestCtx) (status : Abort) (reply : List UInt8) (res : Pdu) :
    Prop where
  abort : status ≠ abortNone → res.cmd = cmdAbort ∧ res.abortCode = status
  success : status = abortNone → res.cmd = respCmd ctx.reqCmd ∧
    res.data = if ctx.reqCmd = cmdDownloadEndReq then [] else reply

/-- A request context the server can answer. -/
structure Answerable (nodeId : UInt8) (ctx : RequestCtx) : Prop where
  node : validNode nodeId = true
  src : validNode ctx.srcNode = true
  session : ctx.session ≠ 0
  index : 0x1000 ≤ ctx.index
  cmd : ctx.reqCmd = cmdDownloadReq ∨ ctx.reqCmd = cmdDownloadEndReq ∨ ctx.reqCmd = cmdUploadReq

/-- The frame of a reply that fits in one. -/
theorem replyFrame_carries {nodeId : UInt8} {ctx : RequestCtx} {status : Abort}
    {reply : List UInt8} (h : Answerable nodeId ctx)
    (hreply : status = abortNone → reply.length ≤ usdoDataMax) :
    ∃ g res, replyFrame nodeId ctx status reply = some g ∧ Carries g .response res ∧
      Responds nodeId ctx res ∧ Delivered ctx status reply res := by
  obtain ⟨hnode, hsrc, hsession, hindex, hcmd⟩ := h
  unfold replyFrame
  by_cases hstatus : status = abortNone
  · rw [if_neg (by simp [hstatus])]
    have hmax := hreply hstatus
    obtain hc | hc | hc := hcmd
    · rw [if_pos (by rw [hc]; rfl)]
      obtain ⟨g, res, henc, hcarries, h1, h2, h3, h4, h5, h6, h7⟩ :=
        decode_downloadResp ctx.subindex hnode hsrc hsession hindex hmax
      refine ⟨g, res, henc, hcarries, ⟨h1, h2, h4, fun _ => ⟨h5, h6⟩⟩, ?_⟩
      refine ⟨fun h => absurd hstatus h, fun _ => ⟨?_, ?_⟩⟩
      · rw [h3, hc]
        rfl
      · rw [h7, hc]
        rfl
    · rw [if_neg (by rw [hc]; decide), if_pos (by rw [hc]; rfl)]
      obtain ⟨g, henc, hcarries⟩ := decode_endResp hnode hsrc hsession
      refine ⟨g, _, henc, hcarries, ⟨rfl, rfl, rfl, nofun⟩, ?_⟩
      refine ⟨fun h => absurd hstatus h, fun _ => ⟨?_, ?_⟩⟩
      · rw [hc]
        rfl
      · rw [if_pos hc]
    · rw [if_neg (by rw [hc]; decide), if_neg (by rw [hc]; decide), if_pos (by rw [hc]; rfl)]
      obtain ⟨g, henc, hcarries⟩ := decode_expedited ctx.subindex hnode hsrc hsession hindex hmax
        (.inr rfl)
      refine ⟨g, _, henc, hcarries, ⟨rfl, rfl, rfl, fun _ => ⟨rfl, rfl⟩⟩, ?_⟩
      refine ⟨fun h => absurd hstatus h, fun _ => ⟨?_, ?_⟩⟩
      · rw [hc]
        rfl
      · rw [hc]
        rfl
  · rw [if_pos (by simpa using hstatus)]
    obtain ⟨g, henc, hcarries⟩ := decode_abort ctx.subindex status hnode hsrc hsession hindex
    exact ⟨g, _, henc, hcarries, ⟨rfl, rfl, rfl, fun _ => ⟨rfl, rfl⟩⟩,
      ⟨fun _ => ⟨rfl, rfl⟩, fun h => absurd h hstatus⟩⟩

/-- The reply that `fbsec_server_dispatch_request` gives to this request. -/
def Serves (disp : Dispatcher D) (d : D) (client : UInt8) (dataId : UInt32) (body : List UInt8)
    (status : Abort) (reply : List UInt8) (d' : D) : Prop :=
  disp.serve d client.toUInt16 dataId body = ([⟨client.toUInt16, dataId, status, reply⟩], d')

/-- Every request has one. -/
theorem serves (disp : Dispatcher D) (d : D) (client : UInt8) (dataId : UInt32)
    (body : List UInt8) : ∃ status reply d', Serves disp d client dataId body status reply d' := by
  obtain ⟨status, reply, hone⟩ := disp.one d client.toUInt16 dataId body
  exact ⟨status, reply, _, Prod.ext hone rfl⟩

/-- A request that is dispatched, and answered in one frame. -/
theorem dispatch_expedited {s : UsdoServer D} {ctx : RequestCtx} (segmented : Bool)
    {body reply : List UInt8} {status : Abort} {d' : D} (h : Answerable s.nodeId ctx)
    (hserve : Serves disp s.device ctx.srcNode (dataIdFromIndexSub ctx.index ctx.subindex) body
      status reply d')
    (hreply : status = abortNone → reply.length ≤ usdoDataMax) :
    ∃ g res, (dispatch disp ctx segmented body { server := s }).2
        = ⟨{ s with device := d' }, [g], [⟨ctx.srcNode, ctx.session, segmented,
            dataIdFromIndexSub ctx.index ctx.subindex, body⟩]⟩ ∧
      Carries g .response res ∧ Responds s.nodeId ctx res ∧ Delivered ctx status reply res := by
  obtain ⟨g, res, hframe, hcarries, hresponds, hdelivered⟩ := replyFrame_carries h hreply
  refine ⟨g, res, ?_, hcarries, hresponds, hdelivered⟩
  have hserve' : disp.serve s.device ctx.srcNode.toUInt16
      (dataIdFromIndexSub ctx.index ctx.subindex) body = _ := hserve
  rw [dispatch_eq (w := { server := s }) hserve', sendReplyCb_frame hreply, hframe]
  rfl

/-- What the client makes of it. -/
theorem answer_delivered {ctx : RequestCtx} {status : Abort} {reply : List UInt8} {res : Pdu}
    {e : Expected} (h : Delivered ctx status reply res) (hcmd : e.cmd = respCmd ctx.reqCmd)
    (hcap : status = abortNone → reply.length ≤ e.cap) :
    answer e res = if status = abortNone then .ok res else .error (.abort status) := by
  unfold answer
  by_cases hstatus : status = abortNone
  · obtain ⟨hres, hdata⟩ := h.success hstatus
    have hne : ∀ c, respCmd c ≠ cmdAbort := by
      intro c
      unfold respCmd
      split
      · decide
      · split <;> decide
    have hno : ¬ (res.cmd == cmdAbort) = true := by
      rw [hres, beq_iff_eq]
      exact hne _
    have hexpected : ¬ (res.cmd != e.cmd && (e.alt == 0 || res.cmd != e.alt)) = true := by
      rw [hres, hcmd]
      simp
    have hfits : ¬ res.data.length > e.cap := by
      rw [hdata]
      split
      · exact Nat.not_lt_zero _
      · exact Nat.not_lt.mpr (hcap hstatus)
    rw [if_neg hno, if_neg hexpected, if_neg hfits, if_pos hstatus]
  · obtain ⟨hres, hcode⟩ := h.abort hstatus
    rw [if_pos (by rw [hres]; rfl), if_neg hstatus, hcode]

/-! ## The exchanges of a download -/

/-- A request of one frame. -/
theorem handlePdu_single {pdu : Pdu} (h : pdu.cmd = cmdDownloadReq ∨ pdu.cmd = cmdUploadReq) :
    handlePdu disp pdu = dispatch disp (Pdu.ctx pdu) false pdu.data := by
  unfold handlePdu
  obtain hc | hc := h
  · rw [if_neg (by rw [hc]; decide), if_neg (by rw [hc]; decide), if_neg (by rw [hc]; decide)]
  · rw [if_neg (by rw [hc]; decide), if_neg (by rw [hc]; decide), if_neg (by rw [hc]; decide)]

/-- It is dispatched, once. -/
theorem single_handled {l : Link D} (client : UInt8) {f : Frame} (e : Expected) {pdu : Pdu}
    {status : Abort} {reply : List UInt8} {d' : D}
    (hcmd : pdu.cmd = cmdDownloadReq ∨ pdu.cmd = cmdUploadReq) (hreq : Carries f .request pdu)
    (hnode : pdu.dstNode = l.server.nodeId)
    (hserve : Serves disp l.server.device pdu.srcNode (dataIdFromIndexSub pdu.index pdu.subindex)
      pdu.data status reply d') :
    (roundTrip disp client f e l).2.calls
        = l.calls ++ [⟨pdu.srcNode, pdu.session, false, dataIdFromIndexSub pdu.index pdu.subindex,
            pdu.data⟩] ∧
      (roundTrip disp client f e l).2.server.device = d' := by
  obtain ⟨hserver, hcalls⟩ := roundTrip_handled disp client e hreq hnode
  obtain ⟨hcall, slot, -, hafter⟩ := dispatch_parked disp (Pdu.ctx pdu) false pdu.data
    { server := l.server }
  rw [hserver, hcalls, handlePdu_single hcmd, hcall, hafter]
  exact ⟨rfl, congrArg Prod.snd hserve⟩

/-- And answered, when the reply fits in one frame. -/
theorem single_answered {l : Link D} {client : UInt8} {f : Frame} {e : Expected} {pdu : Pdu}
    {status : Abort} {reply : List UInt8} {d' : D} (hquiet : l.inbox = [])
    (hcmd : pdu.cmd = cmdDownloadReq ∨ pdu.cmd = cmdUploadReq) (hreq : Carries f .request pdu)
    (hnode : pdu.dstNode = l.server.nodeId) (h : Answerable l.server.nodeId (Pdu.ctx pdu))
    (hserve : Serves disp l.server.device pdu.srcNode (dataIdFromIndexSub pdu.index pdu.subindex)
      pdu.data status reply d')
    (hreply : status = abortNone → reply.length ≤ usdoDataMax)
    (hclient : client = pdu.srcNode) (htarget : e.node = l.server.nodeId)
    (hsession : e.session = pdu.session) (hmux : e.mux = some (pdu.index, pdu.subindex))
    (hexpect : e.cmd = respCmd pdu.cmd)
    (hcap : status = abortNone → reply.length ≤ e.cap) :
    ∃ res l', roundTrip disp client f e l
        = (if status = abortNone then .ok res else .error (.abort status), l') ∧
      Delivered (Pdu.ctx pdu) status reply res ∧
      Exchanged l { l.server with device := d' }
        [⟨pdu.srcNode, pdu.session, false, dataIdFromIndexSub pdu.index pdu.subindex, pdu.data⟩]
        [res.cmd] l' := by
  obtain ⟨g, res, hrun, hcarries, hresponds, hdelivered⟩ :=
    dispatch_expedited false h hserve hreply
  rw [← handlePdu_single hcmd] at hrun
  have hmatches : e.muxMatches res = true := by
    rw [Expected.muxMatches, hmux]
    by_cases hvalid : res.muxValid = true
    · obtain ⟨hindex, hsub⟩ := hresponds.mux hvalid
      simp [hindex, hsub, Pdu.ctx]
    · simp [hvalid]
  obtain ⟨l', hrt, hex⟩ := roundTrip_exchanged disp hquiet hreq hnode ⟨g, hrun, hcarries⟩
    (hresponds.src.trans htarget.symm) (hresponds.dst.trans hclient.symm)
    (hresponds.session.trans hsession.symm) hmatches
  exact ⟨res, l', by rw [hrt, answer_delivered hdelivered hexpect hcap], hdelivered, hex⟩

/-- An initiate is acknowledged. -/
theorem answers_init {s : UsdoServer D} {pdu : Pdu} (hcmd : pdu.cmd = cmdDownloadInitReq)
    (hmax : pdu.totalSize.toNat ≤ usdoSegBodyMax) (hnode : validNode s.nodeId = true)
    (hsrc : validNode pdu.srcNode = true) (hsession : pdu.session ≠ 0)
    (hindex : 0x1000 ≤ pdu.index) :
    Answers disp s pdu { s with segdl := s.segdl.opened pdu } []
      { srcNode := s.nodeId, dstNode := pdu.srcNode, cmd := cmdDownloadInitResp,
        session := pdu.session, index := pdu.index, subindex := pdu.subindex,
        muxValid := true } := by
  obtain ⟨g, henc, hcarries⟩ := decode_initResp pdu.subindex hnode hsrc hsession hindex
  refine ⟨g, ?_, hcarries⟩
  have hrun : handlePdu disp pdu { server := s } = serverSegDownloadInit pdu { server := s } := by
    rw [handlePdu, if_pos (by rw [hcmd]; rfl)]
  have hinit : serverSegDownloadInit pdu { server := s }
      = sendFrame (encodeDownloadInitResp s.nodeId pdu.srcNode pdu.session pdu.index pdu.subindex)
          { server := { s with segdl := s.segdl.opened pdu } } := by
    show (ite _ _ _ : UsdoM D Unit) { server := s } = _
    rw [if_neg (Nat.not_lt.mpr hmax)]
    rfl
  rw [hrun, hinit, henc]
  rfl

/-- The next segment is acknowledged. -/
theorem answers_segment {s : UsdoServer D} {pdu : Pdu} (hcmd : pdu.cmd = cmdDownloadSegReq)
    (howner : s.segdl.matches pdu = true) (hcounter : pdu.counter = s.segdl.counter)
    (hroom : s.segdl.received + pdu.data.length ≤ s.segdl.total)
    (hnode : validNode s.nodeId = true) (hsrc : validNode pdu.srcNode = true)
    (hsession : pdu.session ≠ 0) :
    Answers disp s pdu
      { s with segdl := { s.segdl.fed pdu with counter := s.segdl.counter + 1 } } []
      { srcNode := s.nodeId, dstNode := pdu.srcNode, cmd := cmdDownloadSegResp,
        session := pdu.session, counter := s.segdl.counter } := by
  obtain ⟨g, henc, hcarries⟩ := decode_counter s.segdl.counter hnode hsrc hsession (.inl rfl)
  refine ⟨g, ?_, hcarries⟩
  have hfeed : serverSegDownloadFeed pdu { server := s }
      = (false, { server := { s with segdl := { s.segdl.fed pdu with counter := s.segdl.counter + 1 } },
                  sent := [g] }) := by
    show (ite _ _ _ : UsdoM D Bool) { server := s } = _
    rw [if_neg (by simp [howner]), if_neg (by simp [hcounter]), if_neg (Nat.not_lt.mpr hroom),
      if_pos (by rw [hcmd]; rfl), encodeDownloadSegResp, henc]
    rfl
  rw [handlePdu_feed (.inl hcmd) hfeed]
  rfl

/-- The end segment that fills the body completes it. -/
theorem handlePdu_end {s : UsdoServer D} {pdu : Pdu} (hcmd : pdu.cmd = cmdDownloadEndReq)
    (howner : s.segdl.matches pdu = true)
    (hfull : s.segdl.received + pdu.data.length = s.segdl.total) :
    handlePdu disp pdu { server := s }
      = dispatchSegmented disp { server := { s with segdl := s.segdl.fed pdu } } := by
  have hfeed : serverSegDownloadFeed pdu { server := s }
      = (true, { server := { s with segdl := s.segdl.fed pdu } }) := by
    show (ite _ _ _ : UsdoM D Bool) { server := s } = _
    rw [if_neg (by simp [howner]), if_neg (by simp [hcmd]),
      if_neg (Nat.not_lt.mpr (Nat.le_of_eq hfull)), if_neg (by rw [hcmd]; decide)]
    show (ite _ _ _ : UsdoM D Bool) _ = _
    rw [if_neg (by simpa [SegDownload.fed] using hfull)]
    rfl
  rw [handlePdu_feed (.inr hcmd) hfeed, if_pos rfl]

/-- The body of the slot is dispatched, once. -/
theorem dispatchSegmented_calls {s : UsdoServer D} {body reply : List UInt8} {status : Abort}
    {d' : D} (hbody : load s.segdl.buf 0 s.segdl.total = body)
    (hserve : Serves disp s.device s.segdl.src (dataIdFromIndexSub s.segdl.index s.segdl.sub) body
      status reply d') :
    (dispatchSegmented disp { server := s }).2.calls
        = [⟨s.segdl.src, s.segdl.session, true, dataIdFromIndexSub s.segdl.index s.segdl.sub, body⟩] ∧
      (dispatchSegmented disp { server := s }).2.server.device = d' := by
  subst hbody
  obtain ⟨hcalls, slot, -, hserver⟩ := dispatch_parked disp s.segdl.ctx true
    (load s.segdl.buf 0 s.segdl.total) { server := s }
  refine ⟨hcalls, ?_⟩
  have hdevice : (dispatchSegmented disp { server := s }).2.server.device
      = (dispatch disp s.segdl.ctx true (load s.segdl.buf 0 s.segdl.total)
          { server := s }).2.server.device := rfl
  rw [hdevice, hserver]
  exact congrArg Prod.snd hserve

/-- And answered in one frame, when the reply fits. -/
theorem dispatchSegmented_answers {s : UsdoServer D} {body reply : List UInt8} {status : Abort}
    {d' : D} (hbody : load s.segdl.buf 0 s.segdl.total = body)
    (h : Answerable s.nodeId s.segdl.ctx)
    (hserve : Serves disp s.device s.segdl.src (dataIdFromIndexSub s.segdl.index s.segdl.sub) body
      status reply d')
    (hreply : status = abortNone → reply.length ≤ usdoDataMax) :
    ∃ g res, (dispatchSegmented disp { server := s }).2
        = ⟨{ s with segdl := { s.segdl with active := false }, device := d' }, [g],
            [⟨s.segdl.src, s.segdl.session, true, dataIdFromIndexSub s.segdl.index s.segdl.sub,
              body⟩]⟩ ∧
      Carries g .response res ∧ Responds s.nodeId s.segdl.ctx res ∧
      Delivered s.segdl.ctx status reply res := by
  subst hbody
  obtain ⟨g, res, hrun, hcarries, hresponds, hdelivered⟩ :=
    dispatch_expedited true h hserve hreply
  refine ⟨g, res, ?_, hcarries, hresponds, hdelivered⟩
  have hcomplete : ∀ w, (dispatch disp s.segdl.ctx true (load s.segdl.buf 0 s.segdl.total)
        { server := s }).2 = w →
      (dispatchSegmented disp { server := s }).2
        = { w with server := { w.server with segdl := { w.server.segdl with active := false } } } := by
    rintro w rfl
    rfl
  exact hcomplete _ hrun

/-! ## Pushing a body -/

/-- The open slot belongs to this client and session, holds `front` and waits for `rest`. -/
structure Receiving (slot : SegDownload) (client session counter : UInt8) (index : UInt16)
    (sub : UInt8) (front rest : List UInt8) : Prop where
  active : slot.active = true
  src : slot.src = client
  session : slot.session = session
  counter : slot.counter = counter
  index : slot.index = index
  sub : slot.sub = sub
  received : slot.received = front.length
  total : slot.total = front.length + rest.length
  fits : slot.total ≤ usdoSegBodyMax
  held : load slot.buf 0 front.length = front

/-- The slot takes what comes next from its owner. -/
theorem Receiving.matches {slot : SegDownload} {client session counter : UInt8} {index : UInt16}
    {sub : UInt8} {front rest : List UInt8} {pdu : Pdu}
    (h : Receiving slot client session counter index sub front rest)
    (hsrc : pdu.srcNode = client) (hsession : pdu.session = session) :
    slot.matches pdu = true := by
  simp [SegDownload.matches, h.active, h.src, h.session, hsrc, hsession]

/-- And holds it behind the front. -/
theorem Receiving.fed {slot : SegDownload} {client session counter : UInt8} {index : UInt16}
    {sub : UInt8} {front data rest : List UInt8} {pdu : Pdu}
    (h : Receiving slot client session counter index sub front (data ++ rest))
    (hdata : pdu.data = data) :
    Receiving { slot.fed pdu with counter := slot.counter + 1 } client session (counter + 1)
      index sub (front ++ data) rest := by
  have htotal : slot.total = front.length + (data.length + rest.length) := by
    rw [h.total, List.length_append]
  refine ⟨h.active, h.src, h.session, congrArg (· + 1) h.counter, h.index, h.sub, ?_, ?_, h.fits, ?_⟩
  · show slot.received + pdu.data.length = (front ++ data).length
    rw [h.received, hdata, List.length_append]
  · show slot.total = (front ++ data).length + rest.length
    rw [htotal, List.length_append, Nat.add_assoc]
  · show load (store slot.buf slot.received pdu.data) 0 (front ++ data).length = front ++ data
    have hroom : front.length + data.length ≤ usdoSegBodyMax :=
      Nat.le_trans (by omega) h.fits
    rw [List.length_append, h.received, hdata, load_store _ hroom, h.held]

/-- The result of a write. -/
def written (status : Abort) : Except SecpError Unit :=
  if status = abortNone then .ok () else .error (.abort status)

section Push

variable {client session sub : UInt8} {index : UInt16} {status : Abort} {reply : List UInt8}
  {d' : D}

/-- A segment is pushed and acknowledged. -/
theorem push_segment (disp : Dispatcher D) {l : Link D} {counter : UInt8} {front rest : List UInt8}
    (hclient : validNode client = true) (hnode : validNode l.server.nodeId = true)
    (hsession : session ≠ 0) (hquiet : l.inbox = [])
    (h : Receiving l.server.segdl client session counter index sub front rest)
    (hmore : usdoSegDataMax < rest.length) :
    ∃ f l₁ res, encodeDownloadSegReq client l.server.nodeId session counter rest = some f ∧
      roundTrip disp client f (pushExpected cmdDownloadSegResp l.server.nodeId session) l
        = (.ok res, l₁) ∧ res.counter = counter ∧
      Exchanged l l₁.server [] [cmdDownloadSegResp] l₁ ∧
      l₁.server.nodeId = l.server.nodeId ∧ l₁.server.device = l.server.device ∧
      Receiving l₁.server.segdl client session (counter + 1) index sub
        (front ++ rest.take usdoSegDataMax) (rest.drop usdoSegDataMax) := by
  obtain ⟨f, henc, hcarries⟩ := decode_segment counter hclient hnode hsession
    (.inl rfl) (Nat.le_of_lt hmore)
  have hsplit : rest = rest.take usdoSegDataMax ++ rest.drop usdoSegDataMax :=
    (List.take_append_drop _ _).symm
  have hroom : l.server.segdl.received + (rest.take usdoSegDataMax).length
      ≤ l.server.segdl.total := by
    rw [h.received, h.total, List.length_take]
    omega
  rw [hsplit] at h
  obtain ⟨l₁, hrt, hex⟩ := roundTrip_exchanged disp
    (e := pushExpected cmdDownloadSegResp l.server.nodeId session) hquiet hcarries rfl
    (answers_segment rfl (h.matches rfl rfl) h.counter.symm hroom hnode hclient hsession)
    rfl rfl rfl rfl
  have hserver := hex.server
  refine ⟨f, l₁, _, henc, hrt, h.counter, ⟨rfl, hex.quiet, hex.calls, hex.sent⟩, ?_⟩
  rw [hserver]
  exact ⟨rfl, rfl, h.fed rfl⟩

/-- The end segment, as the server decodes it. -/
def endSegment (src dst session : UInt8) (data : List UInt8) : Pdu where
  srcNode := src
  dstNode := dst
  cmd := cmdDownloadEndReq
  session := session
  counter := UInt8.ofNat data.length
  data := data

/-- The end segment is pushed: the body is dispatched once, and the client is told when the
    reply fits. -/
theorem push_end {l : Link D} {counter : UInt8} {front rest : List UInt8}
    (hclient : validNode client = true) (hnode : validNode l.server.nodeId = true)
    (hsession : session ≠ 0) (hindex : 0x1000 ≤ index) (hquiet : l.inbox = [])
    (h : Receiving l.server.segdl client session counter index sub front rest)
    (hpos : rest ≠ []) (hlast : rest.length ≤ usdoSegDataMax)
    (hserve : Serves disp l.server.device client (dataIdFromIndexSub index sub) (front ++ rest)
      status reply d') :
    ∃ f result l', encodeDownloadEndReq client l.server.nodeId session rest = some f ∧
      roundTrip disp client f (pushExpected cmdDownloadEndResp l.server.nodeId session) l
        = (result, l') ∧
      l'.calls = l.calls ++ [⟨client, session, true, dataIdFromIndexSub index sub, front ++ rest⟩] ∧
      l'.server.device = d' ∧
      ((status = abortNone → reply.length ≤ usdoDataMax) → l'.inbox = [] ∧
        ∃ res, result = if status = abortNone then .ok res else .error (.abort status)) := by
  obtain ⟨f, henc, hcarries⟩ := decode_end hclient hnode hsession (.inl rfl) hlast
  have henc' : encodeDownloadEndReq client l.server.nodeId session rest = some f := by
    rw [encodeDownloadEndReq, if_neg (by simpa using hpos)]
    exact henc
  have hfull : l.server.segdl.received + rest.length = l.server.segdl.total := by
    rw [h.received, h.total]
  have hctx : l.server.segdl.ctx = ⟨client, cmdDownloadEndReq, session, index, sub⟩ := by
    rw [SegDownload.ctx, h.src, h.session, h.index, h.sub]
  have hbody : load (store l.server.segdl.buf l.server.segdl.received rest) 0 l.server.segdl.total
      = front ++ rest := by
    have hroom : front.length + rest.length ≤ usdoSegBodyMax := h.total ▸ h.fits
    rw [h.received, h.total, load_store _ hroom, h.held]
  have hserve' : Serves disp l.server.device l.server.segdl.src
      (dataIdFromIndexSub l.server.segdl.index l.server.segdl.sub) (front ++ rest) status reply
      d' := by
    rw [h.src, h.index, h.sub]
    exact hserve
  have hcarries' : Carries f .request (endSegment client l.server.nodeId session rest) := hcarries
  have hrun : handlePdu disp (endSegment client l.server.nodeId session rest) { server := l.server }
      = dispatchSegmented disp { server := { l.server with
          segdl := l.server.segdl.fed (endSegment client l.server.nodeId session rest) } } :=
    handlePdu_end rfl (h.matches rfl rfl) hfull
  obtain ⟨hserver, hcalls⟩ := roundTrip_handled disp client
    (pushExpected cmdDownloadEndResp l.server.nodeId session) hcarries' rfl
  rw [hrun] at hserver hcalls
  obtain ⟨hcall, hdevice⟩ := dispatchSegmented_calls (s := { l.server with
    segdl := l.server.segdl.fed (endSegment client l.server.nodeId session rest) }) hbody hserve'
  refine ⟨f, (roundTrip disp client f (pushExpected cmdDownloadEndResp l.server.nodeId session) l).1,
    (roundTrip disp client f (pushExpected cmdDownloadEndResp l.server.nodeId session) l).2,
    henc', rfl, ?_, ?_, fun hreply => ?_⟩
  · rw [hcalls, hcall]
    show l.calls ++ [⟨l.server.segdl.src, l.server.segdl.session, true, _, _⟩] = _
    rw [h.src, h.session]
    show l.calls ++ [⟨client, session, true,
      dataIdFromIndexSub l.server.segdl.index l.server.segdl.sub, _⟩] = _
    rw [h.index, h.sub]
  · rw [hserver, hdevice]
  · have hanswerable : Answerable l.server.nodeId l.server.segdl.ctx := by
      rw [hctx]
      exact ⟨hnode, hclient, hsession, hindex, .inr (.inl rfl)⟩
    obtain ⟨g, res, hanswer, hcarried, hresponds, hdelivered⟩ :=
      dispatchSegmented_answers (s := { l.server with
        segdl := l.server.segdl.fed (endSegment client l.server.nodeId session rest) })
        hbody hanswerable hserve' hreply
    rw [← hrun] at hanswer
    have hresponds' : Responds l.server.nodeId l.server.segdl.ctx res := hresponds
    have hdelivered' : Delivered l.server.segdl.ctx status reply res := hdelivered
    rw [hctx] at hresponds' hdelivered'
    obtain ⟨l', hrt, hex⟩ := roundTrip_exchanged disp
      (e := pushExpected cmdDownloadEndResp l.server.nodeId session) hquiet hcarries' rfl
      ⟨g, hanswer, hcarried⟩ hresponds'.src hresponds'.dst hresponds'.session rfl
    rw [hrt]
    refine ⟨hex.quiet, res, ?_⟩
    have hcap : usdoDataMax ≤ payloadMax := by decide
    exact answer_delivered hdelivered' rfl fun hok => Nat.le_trans (hreply hok) hcap

/-- **The push loop**: what is left goes in segments, and the whole body is dispatched. -/
theorem pushSegments_run (hclient : validNode client = true) (hsession : session ≠ 0)
    (hindex : 0x1000 ≤ index) (n : Nat) :
    ∀ {l : Link D} {counter : UInt8} {front rest : List UInt8}, rest.length ≤ n →
      validNode l.server.nodeId = true → l.inbox = [] →
      Receiving l.server.segdl client session counter index sub front rest → rest ≠ [] →
      Serves disp l.server.device client (dataIdFromIndexSub index sub) (front ++ rest) status
        reply d' →
      ∃ result l', pushSegments disp client l.server.nodeId session counter rest l
          = (result, l') ∧
        l'.calls
          = l.calls ++ [⟨client, session, true, dataIdFromIndexSub index sub, front ++ rest⟩] ∧
        l'.server.device = d' ∧
        ((status = abortNone → reply.length ≤ usdoDataMax) →
          l'.inbox = [] ∧ result = written status) := by
  induction n with
  | zero =>
      intro l counter front rest hn _ _ _ hpos _
      exact absurd (List.length_eq_zero_iff.mp (Nat.le_zero.mp hn)) hpos
  | succ n ih =>
      intro l counter front rest hn hnode hquiet h hpos hserve
      rw [pushSegments]
      by_cases hmore : rest.length > usdoSegDataMax
      · rw [dif_pos hmore]
        obtain ⟨f, l₁, res, henc, hrt, hcounter, hex, hnode₁, hdevice, h₁⟩ :=
          push_segment disp hclient hnode hsession hquiet h hmore
        have hlong : rest.length > 60 := hmore
        have hleft : (rest.drop usdoSegDataMax).length = rest.length - 60 := List.length_drop
        have hne : rest.drop usdoSegDataMax ≠ [] := by
          rw [ne_eq, ← List.length_eq_zero_iff, hleft]
          omega
        have hbody : front ++ rest
            = (front ++ rest.take usdoSegDataMax) ++ rest.drop usdoSegDataMax := by
          rw [List.append_assoc, List.take_append_drop]
        rw [hbody, ← hdevice] at hserve
        obtain ⟨result, l', hrun, hcalls, hdevice', hresult⟩ :=
          ih (by omega) (hnode₁ ▸ hnode) hex.quiet h₁ hne hserve
        rw [hnode₁] at hrun
        refine ⟨result, l', ?_, ?_, hdevice', hresult⟩
        · rw [henc]
          refine (bind_run hrt).trans ?_
          show (ite _ _ _ : LinkM D (Except SecpError Unit)) l₁ = _
          rw [if_neg (by simp [hcounter]), hrun]
        · rw [hcalls, hex.calls, List.append_nil, hbody]
      · rw [dif_neg hmore]
        obtain ⟨f, result, l', henc, hrt, hcalls, hdevice, hresult⟩ :=
          push_end hclient hnode hsession hindex hquiet h hpos (Nat.not_lt.mp hmore) hserve
        rw [henc]
        refine ⟨result.map fun _ => (), l', ?_, hcalls, hdevice, fun hreply => ?_⟩
        · refine (bind_run hrt).trans ?_
          cases result <;> rfl
        · obtain ⟨hquiet', res, rfl⟩ := hresult hreply
          refine ⟨hquiet', ?_⟩
          rw [written]
          by_cases hstatus : status = abortNone
          · rw [if_pos hstatus, if_pos hstatus]
            rfl
          · rw [if_neg hstatus, if_neg hstatus]
            rfl

end Push

/-! ## A write, end to end -/

/-- `next_session` never gives 0. -/
theorem sessionAfter_ne_zero (session : UInt8) : sessionAfter session ≠ 0 := by
  intro h
  unfold sessionAfter at h
  split at h
  · exact absurd h (by decide)
  · rename_i hne
    have hsum : (session.toNat + 1) % 2 ^ 8 = 0 := by
      have hnat := congrArg UInt8.toNat h
      rwa [UInt8.toNat_add] at hnat
    have hlt : session.toNat < 256 := UInt8.toNat_lt session
    have hmax : session.toNat ≠ 255 := by
      intro hs
      exact hne (beq_iff_eq.mpr (UInt8.toNat_inj.mp hs))
    omega

/-- The object that the frames of a data id address. -/
def addressed (dataId : UInt32) : UInt32 := dataIdFromIndexSub (wantIndex dataId) (wantSub dataId)

/-- It is that data id, whose low byte is 0. -/
theorem addressed_eq {d : UInt32} (h : d &&& 0xFF = 0) : addressed d = d := by
  apply UInt32.toNat_inj.mp
  have hd : d.toNat < 2 ^ 32 := UInt32.toNat_lt d
  have hlow : d.toNat % 2 ^ 8 = 0 := by
    have hnat := congrArg UInt32.toNat h
    rw [UInt32.toNat_and] at hnat
    exact (Nat.and_two_pow_sub_one_eq_mod _ 8).symm.trans hnat
  show ((d.toNat >>> 16 % 2 ^ 16) <<< 16) % 2 ^ 32 ||| ((d.toNat >>> 8 % 2 ^ 8) <<< 8) % 2 ^ 32
    = d.toNat
  have hhigh : (d.toNat >>> 16 % 2 ^ 16) <<< 16 < 2 ^ 32 := by
    rw [Nat.shiftLeft_eq]
    omega
  have hmid : (d.toNat >>> 8 % 2 ^ 8) <<< 8 = d.toNat % 2 ^ 16 := by
    have habove := byte_above d.toNat 8
    rwa [hlow, Nat.zero_or] at habove
  have hlt : d.toNat % 2 ^ 16 < 2 ^ 16 := Nat.mod_lt _ (by decide)
  rw [Nat.mod_eq_of_lt hhigh, Nat.mod_eq_of_lt (byte_shift_lt _ (by decide)), hmid,
    Nat.shiftLeft_eq, Nat.shiftRight_eq_div_pow, Nat.mul_comm, ← Nat.two_pow_add_eq_or_of_lt hlt]
  omega

section Write

variable {l : Link D} {client : UInt8} {deviceId : UInt16} {dataId : UInt32} {body : List UInt8}

theorem nextSession_run (l : Link D) : nextSession l
    = (sessionAfter l.usdoSession, { l with usdoSession := sessionAfter l.usdoSession }) := rfl

/-- A body of one frame. -/
theorem transportWrite_short {f : Frame} (htarget : validNode deviceId.toUInt8 = true)
    (hlen : body.length ≤ usdoDataMax)
    (henc : encodeDownloadReq client deviceId.toUInt8 (sessionAfter l.usdoSession)
      (wantIndex dataId) (wantSub dataId) body = some f) :
    transportWrite disp client deviceId dataId body l
      = ((roundTrip disp client f (muxExpected cmdDownloadResp 0 deviceId.toUInt8
            (sessionAfter l.usdoSession) (wantIndex dataId) (wantSub dataId) payloadMax)
            { l with usdoSession := sessionAfter l.usdoSession }).1.map fun _ => (),
         (roundTrip disp client f (muxExpected cmdDownloadResp 0 deviceId.toUInt8
            (sessionAfter l.usdoSession) (wantIndex dataId) (wantSub dataId) payloadMax)
            { l with usdoSession := sessionAfter l.usdoSession }).2) := by
  rw [transportWrite, if_neg (by simp [htarget]), if_pos hlen]
  rw [bind_run (nextSession_run l), henc]
  show (roundTrip disp client f _ >>= _) _ = _
  generalize hrt : roundTrip disp client f _ { l with usdoSession := sessionAfter l.usdoSession } = r
  obtain ⟨result, l'⟩ := r
  rw [bind_run hrt]
  cases result <;> rfl

/-- A body that is announced first. -/
theorem transportWrite_long {f : Frame} {res : Pdu} {l₁ : Link D}
    (htarget : validNode deviceId.toUInt8 = true) (hlen : usdoDataMax < body.length)
    (hmax : body.length ≤ usdoSegBodyMax)
    (henc : encodeDownloadInitReq client deviceId.toUInt8 (sessionAfter l.usdoSession)
      (wantIndex dataId) (wantSub dataId) (UInt32.ofNat body.length) = some f)
    (hrt : roundTrip disp client f (muxExpected cmdDownloadInitResp 0 deviceId.toUInt8
      (sessionAfter l.usdoSession) (wantIndex dataId) (wantSub dataId) payloadMax)
      { l with usdoSession := sessionAfter l.usdoSession } = (.ok res, l₁)) :
    transportWrite disp client deviceId dataId body l
      = pushSegments disp client deviceId.toUInt8 (sessionAfter l.usdoSession) 0 body l₁ := by
  rw [transportWrite, if_neg (by simp [htarget]), if_neg (Nat.not_le.mpr hlen),
    if_neg (Nat.not_lt.mpr hmax)]
  rw [bind_run (nextSession_run l), henc]
  exact bind_run hrt

/-- The announcement opens the slot. -/
theorem push_init (disp : Dispatcher D) {client session : UInt8} {index : UInt16} (sub : UInt8) {l : Link D}
    (hclient : validNode client = true) (hnode : validNode l.server.nodeId = true)
    (hsession : session ≠ 0) (hindex : 0x1000 ≤ index) (hquiet : l.inbox = [])
    (hpos : body ≠ []) (hmax : body.length ≤ usdoSegBodyMax) :
    ∃ f l₁ res, encodeDownloadInitReq client l.server.nodeId session index sub
        (UInt32.ofNat body.length) = some f ∧
      roundTrip disp client f
          (muxExpected cmdDownloadInitResp 0 l.server.nodeId session index sub payloadMax) l
        = (.ok res, l₁) ∧
      l₁.inbox = [] ∧ l₁.calls = l.calls ∧ l₁.server.nodeId = l.server.nodeId ∧
      l₁.server.device = l.server.device ∧
      Receiving l₁.server.segdl client session 0 index sub [] body := by
  have hbytes : body.length ≤ 256 := hmax
  have hlen : (UInt32.ofNat body.length).toNat = body.length := by
    rw [UInt32.toNat_ofNat']
    exact Nat.mod_eq_of_lt (by omega)
  have hsize : UInt32.ofNat body.length ≠ 0 := by
    intro hzero
    have hnat := congrArg UInt32.toNat hzero
    rw [hlen] at hnat
    exact hpos (List.length_eq_zero_iff.mp hnat)
  obtain ⟨f, henc, hcarries⟩ := decode_init sub hclient hnode hsession hindex hsize
    (by rw [hlen]; exact hmax) (.inl rfl)
  obtain ⟨l₁, hrt, hex⟩ := roundTrip_exchanged disp
    (e := muxExpected cmdDownloadInitResp 0 l.server.nodeId session index sub payloadMax) hquiet
    hcarries rfl (answers_init rfl (by rw [hlen]; exact hmax) hnode hclient hsession hindex)
    rfl rfl rfl (by simp [Expected.muxMatches, muxExpected])
  have hserver := hex.server
  refine ⟨f, l₁, _, henc, hrt, hex.quiet, by rw [hex.calls, List.append_nil], ?_⟩
  rw [hserver]
  refine ⟨rfl, rfl, rfl, rfl, rfl, rfl, rfl, rfl, rfl, ?_, ?_, load_zero _ _⟩
  · show (UInt32.ofNat body.length).toNat = ([] : List UInt8).length + body.length
    rw [hlen, List.length_nil, Nat.zero_add]
  · show (UInt32.ofNat body.length).toNat ≤ usdoSegBodyMax
    rw [hlen]
    exact hmax

/-- **DOWNLOAD TRANSFERS**: whatever the length, the server dispatches the body once, for the
    object addressed; and when a success reply fits in one frame, the client's result is the
    server's answer. -/
theorem download_end_to_end (hclient : validNode client = true)
    (htarget : validNode deviceId.toUInt8 = true) (hnode : l.server.nodeId = deviceId.toUInt8)
    (hquiet : l.inbox = []) (hindex : 0x1000 ≤ wantIndex dataId) (hpos : 1 ≤ body.length)
    (hmax : body.length ≤ usdoSegBodyMax) :
    ∃ status reply d' result l', Serves disp l.server.device client (addressed dataId) body status
        reply d' ∧ (dataId &&& 0xFF = 0 → addressed dataId = dataId) ∧
      transportWrite disp client deviceId dataId body l = (result, l') ∧
      l'.calls = l.calls ++ [⟨client, sessionAfter l.usdoSession,
        decide (usdoDataMax < body.length), addressed dataId, body⟩] ∧
      l'.server.device = d' ∧
      ((status = abortNone → reply.length ≤ usdoDataMax) →
        (result = .ok () ↔ status = abortNone) ∧
        (status ≠ abortNone → result = .error (.abort status)) ∧ l'.inbox = []) := by
  obtain ⟨status, reply, d', hserve⟩ := serves disp l.server.device client (addressed dataId) body
  have hsession : sessionAfter l.usdoSession ≠ 0 := sessionAfter_ne_zero _
  have hne : body ≠ [] := by
    rintro rfl
    exact absurd hpos (by decide)
  have hresult : ∀ result : Except SecpError Unit, result = written status →
      (result = .ok () ↔ status = abortNone) ∧
        (status ≠ abortNone → result = .error (.abort status)) := by
    rintro _ rfl
    unfold written
    by_cases hstatus : status = abortNone <;> simp [hstatus]
  by_cases hlen : body.length ≤ usdoDataMax
  · -- one frame there, one frame back
    obtain ⟨f, henc, hcarries⟩ := decode_expedited (wantSub dataId) hclient htarget hsession hindex
      hlen (.inl rfl)
    have hrun := @transportWrite_short _ disp _ _ _ _ _ _ htarget hlen henc
    obtain ⟨hcalls, hdevice⟩ := single_handled client (muxExpected cmdDownloadResp 0
      deviceId.toUInt8 (sessionAfter l.usdoSession) (wantIndex dataId) (wantSub dataId) payloadMax)
      (l := { l with usdoSession := sessionAfter l.usdoSession }) (.inl rfl) hcarries hnode.symm
      hserve
    refine ⟨status, reply, d', _, _, hserve, addressed_eq, hrun, ?_, hdevice, fun hreply => ?_⟩
    · rw [hcalls, decide_eq_false (Nat.not_lt.mpr hlen)]
      rfl
    · have hcap : usdoDataMax ≤ payloadMax := by decide
      obtain ⟨res, l', hrt, -, hex⟩ := @single_answered _ _
        { l with usdoSession := sessionAfter l.usdoSession } client _
        (muxExpected cmdDownloadResp 0 deviceId.toUInt8 (sessionAfter l.usdoSession)
          (wantIndex dataId) (wantSub dataId) payloadMax) _ _ _ _ hquiet (.inl rfl) hcarries
        hnode.symm ⟨hnode ▸ htarget, hclient, hsession, hindex, .inl rfl⟩ hserve hreply rfl
        hnode.symm rfl rfl rfl (fun hok => Nat.le_trans (hreply hok) hcap)
      rw [hrt]
      have hwritten := hresult (Except.map (fun _ => ())
        (if status = abortNone then .ok res else .error (.abort status))) (by
          unfold written
          by_cases hstatus : status = abortNone <;> simp [hstatus, Except.map])
      exact ⟨hwritten.1, hwritten.2, hex.quiet⟩
  · have hlong := Nat.lt_of_not_le hlen
    have hnode' : validNode l.server.nodeId = true := hnode ▸ htarget
    obtain ⟨f, l₁, res, henc, hrt, hquiet₁, hcalls₁, hnode₁, hdevice₁, hopen⟩ :=
      push_init disp (l := { l with usdoSession := sessionAfter l.usdoSession })
        (wantSub dataId) hclient hnode' hsession hindex hquiet hne hmax
    have htarget₁ : l₁.server.nodeId = deviceId.toUInt8 := hnode₁.trans hnode
    obtain ⟨result, l', hrun, hcalls, hdevice, hsmall⟩ := pushSegments_run hclient hsession hindex
      body.length (Nat.le_refl _) (htarget₁ ▸ htarget) hquiet₁ hopen hne
      (show Serves disp l₁.server.device client (addressed dataId) ([] ++ body) status reply d' by
        rw [hdevice₁]
        exact hserve)
    have hwhole : transportWrite disp client deviceId dataId body l = (result, l') := by
      rw [transportWrite_long htarget hlong hmax (hnode ▸ henc) (hnode ▸ hrt), ← htarget₁, hrun]
    refine ⟨status, reply, d', result, l', hserve, addressed_eq, hwhole, ?_, hdevice, ?_⟩
    · rw [hcalls, hcalls₁, decide_eq_true hlong]
      rfl
    · intro hreply
      obtain ⟨hquiet', hout⟩ := hsmall hreply
      exact ⟨(hresult _ hout).1, (hresult _ hout).2, hquiet'⟩

end Write

/-! ## A worked write -/

/-- The reference server, just started, on a quiet channel. -/
def sampleLink : Link (Device SampleEnv) where
  server := { nodeId := 5, device := sampleBare }

/-- The reference server behind the frames of worked runs. -/
def sampleDispatcher : Dispatcher (Device SampleEnv) :=
  deviceDispatcher sampleGcm sampleEd samplePlatform sampleNodeId

/-- `download_end_to_end` on a voucher: 116 bytes, so two segments. -/
theorem sampleVoucher_download :
    ∃ status reply d' result l', Serves sampleDispatcher sampleBare 20 (addressed hoVoucherId)
        (sampleVoucher 5) status reply d' ∧
      (hoVoucherId &&& 0xFF = 0 → addressed hoVoucherId = hoVoucherId) ∧
      transportWrite sampleDispatcher 20 sampleNodeId hoVoucherId (sampleVoucher 5) sampleLink
        = (result, l') ∧
      l'.calls = [] ++ [⟨20, 1, decide (56 < (sampleVoucher 5).length), addressed hoVoucherId,
        sampleVoucher 5⟩] ∧
      l'.server.device = d' ∧
      ((status = abortNone → reply.length ≤ 56) → (result = .ok () ↔ status = abortNone) ∧
        (status ≠ abortNone → result = .error (.abort status)) ∧ l'.inbox = []) :=
  @download_end_to_end _ sampleDispatcher sampleLink 20 sampleNodeId hoVoucherId (sampleVoucher 5)
    (by decide) (by decide) (by decide) rfl (by decide) (by decide +kernel) (by decide +kernel)

/-! ## Pulling a reply -/

/-- The parked slot belongs to this client and session, has sent `front` and keeps `rest`. -/
structure Sending (slot : SegUpload) (client session counter : UInt8)
    (front rest : List UInt8) : Prop where
  segments : front.length = usdoSegDataMax * counter.toNat
  active : slot.active = true
  dst : slot.dst = client
  session : slot.session = session
  counter : slot.counter = counter
  total : slot.total = front.length + rest.length
  fits : slot.total ≤ usdoSegBodyMax
  sent : slot.sent = front.length
  held : load slot.buf 0 slot.total = front ++ rest

/-- What a window of the slot reads. -/
theorem Sending.window {slot : SegUpload} {client session counter : UInt8}
    {front rest : List UInt8} (h : Sending slot client session counter front rest) {len : Nat}
    (hlen : len ≤ rest.length) : load slot.buf slot.sent len = rest.take len := by
  have hwin : slot.sent + len ≤ slot.total := by
    rw [h.sent, h.total]
    omega
  rw [load_of_front slot.buf h.held h.fits hwin, h.sent, List.drop_left]

/-- A request for a segment, as the server decodes it. -/
def segRequest (src dst session counter : UInt8) : Pdu where
  srcNode := src
  dstNode := dst
  cmd := cmdUploadSegReq
  session := session
  counter := counter

section Pull

variable {client session counter : UInt8} {front rest : List UInt8}

/-- It is served from the parked slot. -/
theorem handlePdu_segRequest (disp : Dispatcher D) (src dst session counter : UInt8) :
    handlePdu disp (segRequest src dst session counter)
      = serverSegUploadServe (segRequest src dst session counter) := by
  have hinit : ¬ (cmdUploadSegReq == cmdDownloadInitReq) = true := by decide
  have hseg : ¬ (cmdUploadSegReq == cmdDownloadSegReq || cmdUploadSegReq == cmdDownloadEndReq)
      = true := by decide
  unfold handlePdu
  exact (if_neg hinit).trans ((if_neg hseg).trans (if_pos rfl))

/-- A full segment is served while more than one is left. -/
theorem answers_uploadSegment {s : UsdoServer D}
    (h : Sending s.segul client session counter front rest)
    (hclient : validNode client = true) (hnode : validNode s.nodeId = true) (hsession : session ≠ 0)
    (hmore : usdoSegDataMax < rest.length) :
    Answers disp s (segRequest client s.nodeId session counter)
      { s with segul := { s.segul with
          sent := s.segul.sent + usdoSegDataMax, counter := s.segul.counter + 1 } } []
      { srcNode := s.nodeId, dstNode := client, cmd := cmdUploadSegResp, session := session,
        counter := counter, data := rest.take usdoSegDataMax } := by
  have hwindow := h.window (Nat.le_of_lt hmore)
  have hlen : (rest.take usdoSegDataMax).length = usdoSegDataMax :=
    List.length_take_of_le (Nat.le_of_lt hmore)
  obtain ⟨g, henc, hcarries⟩ := decode_segment counter hnode hclient hsession (.inr rfl)
    (Nat.le_of_eq hlen.symm)
  rw [List.take_take, min_self] at hcarries
  refine ⟨g, ?_, hcarries⟩
  have hleft : s.segul.total - s.segul.sent > usdoSegDataMax := by
    rw [h.total, h.sent]
    omega
  have hsend : encodeUploadSegResp s.nodeId s.segul.dst s.segul.session s.segul.counter
      (load s.segul.buf s.segul.sent usdoSegDataMax) = some g := by
    rw [hwindow, h.dst, h.session, h.counter]
    exact henc
  rw [handlePdu_segRequest]
  show ((ite _ _ _ : UsdoM D Unit) { server := s }).2 = _
  rw [if_neg (by simp [segRequest, h.active, h.dst, h.session]),
    if_neg (by simp [segRequest, h.counter]), if_pos hleft, hsend]
  rfl

/-- And the end segment, with what is left. -/
theorem answers_uploadEnd {s : UsdoServer D}
    (h : Sending s.segul client session counter front rest)
    (hclient : validNode client = true) (hnode : validNode s.nodeId = true) (hsession : session ≠ 0)
    (hlast : rest.length ≤ usdoSegDataMax) :
    Answers disp s (segRequest client s.nodeId session counter)
      { s with segul := { s.segul with active := false } } []
      { srcNode := s.nodeId, dstNode := client, cmd := cmdUploadEndResp, session := session,
        counter := UInt8.ofNat rest.length, data := rest } := by
  have hwindow : load s.segul.buf s.segul.sent rest.length = rest := by
    rw [h.window (Nat.le_refl _), List.take_length]
  obtain ⟨g, henc, hcarries⟩ := decode_end hnode hclient hsession (.inr rfl) hlast
  refine ⟨g, ?_, hcarries⟩
  have hremaining : s.segul.total - s.segul.sent = rest.length := by
    rw [h.total, h.sent]
    omega
  have hsend : encodeUploadEndResp s.nodeId s.segul.dst s.segul.session
      (load s.segul.buf s.segul.sent rest.length) = some g := by
    rw [hwindow, h.dst, h.session]
    exact henc
  rw [handlePdu_segRequest]
  show ((ite _ _ _ : UsdoM D Unit) { server := s }).2 = _
  rw [if_neg (by simp [segRequest, h.active, h.dst, h.session]),
    if_neg (by simp [segRequest, h.counter]), hremaining, if_neg (Nat.not_lt.mpr hlast), hsend]
  rfl

/-- The commands of a segmented upload: full segments, and the end. -/
def pullCmds (len : Nat) : List UInt8 :=
  List.replicate ((len - 1) / usdoSegDataMax) cmdUploadSegResp ++ [cmdUploadEndResp]

theorem pullCmds_last {len : Nat} (h : len ≤ usdoSegDataMax) : pullCmds len = [cmdUploadEndResp] := by
  have hlen : len ≤ 60 := h
  have hzero : (len - 1) / usdoSegDataMax = 0 := by
    show (len - 1) / 60 = 0
    omega
  rw [pullCmds, hzero]
  rfl

theorem pullCmds_more {len : Nat} (h : usdoSegDataMax < len) :
    pullCmds len = cmdUploadSegResp :: pullCmds (len - usdoSegDataMax) := by
  have hlen : 60 < len := h
  have hsucc : (len - 1) / usdoSegDataMax = (len - usdoSegDataMax - 1) / usdoSegDataMax + 1 := by
    show (len - 1) / 60 = (len - 60 - 1) / 60 + 1
    omega
  rw [pullCmds, hsucc, List.replicate_succ]
  rfl

/-- A full segment leaves the slot one segment further. -/
theorem Sending.next {slot : SegUpload} (h : Sending slot client session counter front rest)
    (hmore : usdoSegDataMax < rest.length) :
    counter ≠ 0xFF ∧
      Sending { slot with sent := slot.sent + usdoSegDataMax, counter := slot.counter + 1 }
        client session (counter + 1) (front ++ rest.take usdoSegDataMax)
        (rest.drop usdoSegDataMax) := by
  have hlong : 60 < rest.length := hmore
  have hfits : front.length + rest.length ≤ 256 := by
    have hslot : slot.total ≤ 256 := h.fits
    rw [h.total] at hslot
    exact hslot
  have hsegments : front.length = 60 * counter.toNat := h.segments
  have htake : (rest.take usdoSegDataMax).length = 60 := List.length_take_of_le (Nat.le_of_lt hmore)
  have hdrop : (rest.drop usdoSegDataMax).length = rest.length - 60 := List.length_drop
  have hnext : (counter + 1).toNat = counter.toNat + 1 := by
    rw [UInt8.toNat_add]
    exact Nat.mod_eq_of_lt (by show counter.toNat + 1 < 256; omega)
  refine ⟨?_, ⟨?_, h.active, h.dst, h.session, congrArg (· + 1) h.counter, ?_, h.fits, ?_, ?_⟩⟩
  · rintro rfl
    have hcount : (0xFF : UInt8).toNat = 255 := rfl
    omega
  · show _ = 60 * (counter + 1).toNat
    rw [List.length_append, htake, hnext]
    omega
  · show slot.total = _
    rw [h.total, List.length_append, htake, hdrop]
    omega
  · show slot.sent + 60 = _
    rw [h.sent, List.length_append, htake]
  · show load slot.buf 0 slot.total = _
    rw [h.held, List.append_assoc, List.take_append_drop]

/-- The client accepts a segment and an end segment. -/
theorem answer_pull {node : UInt8} {res : Pdu}
    (hcmd : res.cmd = cmdUploadSegResp ∨ res.cmd = cmdUploadEndResp)
    (hlen : res.data.length ≤ usdoSegDataMax) : answer (pullExpected node session) res = .ok res := by
  have hmax : res.data.length ≤ 60 := hlen
  have hcap : ¬ res.data.length > (pullExpected node session).cap := by
    show ¬ res.data.length > 64
    omega
  have hexpected : ¬ (res.cmd != cmdUploadSegResp
      && (cmdUploadEndResp == 0 || res.cmd != cmdUploadEndResp)) = true := by
    obtain hc | hc := hcmd <;> rw [hc] <;> decide
  have habort : ¬ (res.cmd == cmdAbort) = true := by
    obtain hc | hc := hcmd <;> rw [hc] <;> decide
  unfold answer
  rw [if_neg habort]
  exact (if_neg hexpected).trans (if_neg hcap)

/-- One round of `seg_upload_pull`, from what came back. -/
theorem pullSegments_round {node : UInt8} {total : Nat} {got : List UInt8} {f : Frame} {res : Pdu}
    {l l₁ : Link D} (henc : encodeUploadSegReq client node session counter = some f)
    (hrt : roundTrip disp client f (pullExpected node session) l = (.ok res, l₁)) :
    pullSegments disp client node session total counter got l
      = (if res.cmd == cmdUploadSegResp && res.counter != counter then pure (.error .protocol)
          else if got.length + res.data.length > total then pure (.error .protocol)
          else if res.cmd == cmdUploadEndResp then
            if got.length + res.data.length != total then pure (.error .protocol)
            else pure (.ok (got ++ res.data))
          else if counter = 0xFF then pure (.error .protocol)
          else pullSegments disp client node session total (counter + 1) (got ++ res.data)) l₁ := by
  rw [pullSegments, henc]
  exact bind_run hrt

/-- The last round. -/
theorem pull_last (disp : Dispatcher D) {l : Link D} (hclient : validNode client = true)
    (hsession : session ≠ 0) (hnode : validNode l.server.nodeId = true) (hquiet : l.inbox = [])
    (h : Sending l.server.segul client session counter front rest)
    (hlast : rest.length ≤ usdoSegDataMax) :
    ∃ l', pullSegments disp client l.server.nodeId session (front.length + rest.length) counter
        front l = (.ok (front ++ rest), l') ∧
      Exchanged l l'.server [] (pullCmds rest.length) l' ∧
      l'.server.nodeId = l.server.nodeId ∧ l'.server.device = l.server.device := by
  obtain ⟨f, henc, hcarries⟩ := decode_counter counter hclient hnode hsession (.inr rfl)
  have hcarries' : Carries f .request (segRequest client l.server.nodeId session counter) :=
    hcarries
  obtain ⟨l', hrt, hex⟩ := roundTrip_exchanged disp (e := pullExpected l.server.nodeId session)
    hquiet hcarries' rfl (answers_uploadEnd h hclient hnode hsession hlast) rfl rfl rfl rfl
  rw [answer_pull (.inr rfl) hlast] at hrt
  have hserver := hex.server
  refine ⟨l', ?_, ⟨rfl, hex.quiet, hex.calls, ?_⟩, by rw [hserver], by rw [hserver]⟩
  · have hresp : ¬ (cmdUploadEndResp == cmdUploadSegResp && UInt8.ofNat rest.length != counter)
        = true := by
      rw [Bool.and_eq_true]
      exact fun hno => absurd hno.1 (by decide)
    have hend : (cmdUploadEndResp == cmdUploadEndResp) = true := rfl
    rw [pullSegments_round henc hrt, if_neg hresp, if_neg (Nat.lt_irrefl _), if_pos hend,
      if_neg (by simp)]
    rfl
  · rw [pullCmds_last hlast]
    exact hex.sent

/-- **The pull loop**: what is left comes in segments. -/
theorem pullSegments_run (disp : Dispatcher D) (hclient : validNode client = true)
    (hsession : session ≠ 0) (n : Nat) :
    ∀ {l : Link D} {counter : UInt8} {front rest : List UInt8}, rest.length ≤ n →
      validNode l.server.nodeId = true → l.inbox = [] →
      Sending l.server.segul client session counter front rest →
      ∃ l', pullSegments disp client l.server.nodeId session (front.length + rest.length) counter
          front l = (.ok (front ++ rest), l') ∧
        Exchanged l l'.server [] (pullCmds rest.length) l' ∧
        l'.server.nodeId = l.server.nodeId ∧ l'.server.device = l.server.device := by
  induction n with
  | zero =>
      intro l counter front rest hn hnode hquiet h
      exact pull_last disp hclient hsession hnode hquiet h
        (Nat.le_trans hn (Nat.zero_le _))
  | succ n ih =>
      intro l counter front rest hn hnode hquiet h
      by_cases hmore : usdoSegDataMax < rest.length
      · obtain ⟨f, henc, hcarries⟩ := decode_counter counter hclient hnode hsession (.inr rfl)
        have hcarries' : Carries f .request (segRequest client l.server.nodeId session counter) :=
          hcarries
        obtain ⟨l₁, hrt, hex⟩ := roundTrip_exchanged disp
          (e := pullExpected l.server.nodeId session) hquiet hcarries' rfl
          (answers_uploadSegment h hclient hnode hsession hmore) rfl rfl rfl rfl
        obtain ⟨hcounter, hnext⟩ := h.next hmore
        have hserver := hex.server
        have hlong : 60 < rest.length := hmore
        have htake : (rest.take usdoSegDataMax).length = 60 :=
          List.length_take_of_le (Nat.le_of_lt hmore)
        have hdrop : (rest.drop usdoSegDataMax).length = rest.length - 60 := List.length_drop
        have hwhole : (front ++ rest.take usdoSegDataMax) ++ rest.drop usdoSegDataMax
            = front ++ rest := by
          rw [List.append_assoc, List.take_append_drop]
        have htotal : (front ++ rest.take usdoSegDataMax).length
            + (rest.drop usdoSegDataMax).length = front.length + rest.length := by
          rw [List.length_append, htake, hdrop]
          omega
        have hless : (rest.drop usdoSegDataMax).length ≤ n := by omega
        obtain ⟨l', hrun, hex', hnode', hdevice'⟩ := ih hless (by rw [hserver]; exact hnode)
          hex.quiet (by rw [hserver]; exact hnext)
        rw [hwhole, htotal] at hrun
        rw [hserver] at hrun hnode' hdevice'
        rw [answer_pull (.inl rfl) (Nat.le_of_eq htake)] at hrt
        refine ⟨l', ?_, ?_, hnode', hdevice'⟩
        · have hroom : ¬ front.length + (rest.take usdoSegDataMax).length
              > front.length + rest.length := by
            rw [htake]
            omega
          have hend : ¬ (cmdUploadSegResp == cmdUploadEndResp) = true := by decide
          rw [pullSegments_round henc hrt, if_neg (by simp), if_neg hroom, if_neg hend,
            if_neg hcounter, hrun]
        · rw [pullCmds_more hmore]
          have hall := hex.trans hex'
          rw [hdrop] at hall
          exact hall
      · exact pull_last disp hclient hsession hnode hquiet h (Nat.not_lt.mp hmore)

end Pull

/-! ## A read, end to end -/

/-- The command that asks for a reply: with a body, or without. -/
def readCmd (body : List UInt8) : UInt8 := if body.length > 0 then cmdDownloadReq else cmdUploadReq

theorem readCmd_single (body : List UInt8) :
    readCmd body = cmdDownloadReq ∨ readCmd body = cmdUploadReq := by
  unfold readCmd
  split
  · exact .inl rfl
  · exact .inr rfl

section Read

variable {l : Link D} {client : UInt8} {deviceId : UInt16} {dataId : UInt32} {body : List UInt8}
  {cap : Nat}

/-- The request of a read. -/
theorem read_request {target session : UInt8} {index : UInt16} (sub : UInt8)
    (hclient : validNode client = true) (htarget : validNode target = true)
    (hsession : session ≠ 0) (hindex : 0x1000 ≤ index) (hlen : body.length ≤ usdoDataMax) :
    ∃ f pdu, (if body.length > 0 then encodeDownloadReq client target session index sub body
        else encodeUploadReq client target session index sub) = some f ∧
      Carries f .request pdu ∧ pdu.srcNode = client ∧ pdu.dstNode = target ∧
      pdu.cmd = readCmd body ∧ pdu.session = session ∧ pdu.index = index ∧
      pdu.subindex = sub ∧ pdu.data = body := by
  unfold readCmd
  by_cases hpos : body.length > 0
  · rw [if_pos hpos, if_pos hpos]
    obtain ⟨f, henc, hcarries⟩ :=
      decode_expedited sub hclient htarget hsession hindex hlen (.inl rfl)
    exact ⟨f, _, henc, hcarries, rfl, rfl, rfl, rfl, rfl, rfl, rfl⟩
  · rw [if_neg hpos, if_neg hpos]
    obtain ⟨f, henc, hcarries⟩ := decode_uploadReq sub hclient htarget hsession hindex
    have hnil : body = [] := List.length_eq_zero_iff.mp (Nat.le_zero.mp (Nat.not_lt.mp hpos))
    exact ⟨f, _, henc, hcarries, rfl, rfl, rfl, rfl, rfl, rfl, hnil.symm⟩

/-- `transport_read`, from what came back. -/
theorem transportRead_eq {f : Frame} {res : Pdu} {l₁ : Link D}
    (htarget : validNode deviceId.toUInt8 = true)
    (henc : (if body.length > 0 then encodeDownloadReq client deviceId.toUInt8
        (sessionAfter l.usdoSession) (wantIndex dataId) (wantSub dataId) body
      else encodeUploadReq client deviceId.toUInt8 (sessionAfter l.usdoSession) (wantIndex dataId)
        (wantSub dataId)) = some f)
    (hrt : roundTrip disp client f (muxExpected (if body.length > 0 then cmdDownloadResp
        else cmdUploadResp) cmdUploadInitResp deviceId.toUInt8 (sessionAfter l.usdoSession)
        (wantIndex dataId) (wantSub dataId) cap)
      { l with usdoSession := sessionAfter l.usdoSession } = (.ok res, l₁)) :
    transportRead disp client deviceId dataId body cap l
      = (if res.cmd == cmdUploadInitResp then segUploadPull disp client deviceId.toUInt8
            (sessionAfter l.usdoSession) res.totalSize.toNat cap
          else pure (.ok res.data)) l₁ := by
  rw [transportRead, if_neg (by simp [htarget])]
  rw [bind_run (nextSession_run l), henc]
  exact bind_run hrt

/-- The announcement of a parked reply, as the client decodes it. -/
def announcement (nodeId : UInt8) (pdu : Pdu) (total : Nat) : Pdu where
  srcNode := nodeId
  dstNode := pdu.srcNode
  cmd := cmdUploadInitResp
  session := pdu.session
  index := pdu.index
  subindex := pdu.subindex
  muxValid := true
  dataType := typeDomain
  totalSize := UInt32.ofNat total

/-- The client of a read accepts it. -/
theorem answer_announcement {cmd target session nodeId : UInt8} {index : UInt16} {sub : UInt8}
    {pdu : Pdu} {total : Nat} :
    answer (muxExpected cmd cmdUploadInitResp target session index sub cap)
      (announcement nodeId pdu total) = .ok (announcement nodeId pdu total) := by
  have habort : ¬ (cmdUploadInitResp == cmdAbort) = true := by decide
  have hexpected : ¬ (cmdUploadInitResp != cmd
      && (cmdUploadInitResp == 0 || cmdUploadInitResp != cmdUploadInitResp)) = true := by
    have hother : (cmdUploadInitResp == 0 || cmdUploadInitResp != cmdUploadInitResp) = false := rfl
    rw [hother, Bool.and_false]
    exact Bool.false_ne_true
  exact (if_neg habort).trans ((if_neg hexpected).trans (if_neg (Nat.not_lt_zero _)))

/-- A reply too large for one frame is parked and announced. -/
theorem single_parked {s : UsdoServer D} {pdu : Pdu} {reply : List UInt8} {d' : D}
    (hcmd : pdu.cmd = cmdDownloadReq ∨ pdu.cmd = cmdUploadReq)
    (h : Answerable s.nodeId (Pdu.ctx pdu))
    (hserve : Serves disp s.device pdu.srcNode (dataIdFromIndexSub pdu.index pdu.subindex)
      pdu.data abortNone reply d')
    (hlarge : usdoDataMax < reply.length) (hmax : reply.length ≤ usdoSegBodyMax) :
    Answers disp s pdu { s with device := d', segul := s.segul.parked (Pdu.ctx pdu) reply }
      [⟨pdu.srcNode, pdu.session, false, dataIdFromIndexSub pdu.index pdu.subindex, pdu.data⟩]
      (announcement s.nodeId pdu reply.length) := by
  have hbytes : reply.length ≤ 256 := hmax
  have hpos : 56 < reply.length := hlarge
  have hlen : (UInt32.ofNat reply.length).toNat = reply.length := by
    rw [UInt32.toNat_ofNat']
    exact Nat.mod_eq_of_lt (by omega)
  have hsize : UInt32.ofNat reply.length ≠ 0 := by
    intro hzero
    have hnat : reply.length = 0 := hlen.symm.trans (congrArg UInt32.toNat hzero)
    omega
  obtain ⟨g, henc, hcarries⟩ := decode_init (Pdu.ctx pdu).subindex h.node h.src h.session h.index
    hsize (by rw [hlen]; exact hmax) (.inr rfl)
  refine ⟨g, ?_, hcarries⟩
  have hserve' : disp.serve s.device (Pdu.ctx pdu).srcNode.toUInt16
      (dataIdFromIndexSub (Pdu.ctx pdu).index (Pdu.ctx pdu).subindex) pdu.data = _ := hserve
  have hsend : encodeUploadInitResp s.nodeId (Pdu.ctx pdu).srcNode (Pdu.ctx pdu).session
      (Pdu.ctx pdu).index (Pdu.ctx pdu).subindex (UInt32.ofNat reply.length) = some g := henc
  rw [handlePdu_single hcmd, dispatch_eq (w := { server := s }) hserve',
    sendReplyCb_large hlarge hmax, hsend]
  rfl

/-- The parked slot before anything is pulled. -/
theorem sending_parked (slot : SegUpload) {ctx : RequestCtx} {reply : List UInt8}
    (hmax : reply.length ≤ usdoSegBodyMax) :
    Sending (slot.parked ctx reply) ctx.srcNode ctx.session 0 [] reply := by
  refine ⟨rfl, rfl, rfl, rfl, rfl, (Nat.zero_add _).symm, hmax, rfl, ?_⟩
  exact load_store_zero _ hmax

/-- The commands that answer a read. -/
def answerCmds (body reply : List UInt8) : List UInt8 :=
  if reply.length ≤ usdoDataMax then [respCmd (readCmd body)]
  else cmdUploadInitResp :: pullCmds reply.length

/-- **UPLOAD TRANSFERS**: the client returns exactly the reply, in one frame when it fits, and
    in segments behind an announcement when it does not. -/
theorem upload_end_to_end {reply : List UInt8} {d' : D} (hclient : validNode client = true)
    (htarget : validNode deviceId.toUInt8 = true) (hnode : l.server.nodeId = deviceId.toUInt8)
    (hquiet : l.inbox = []) (hindex : 0x1000 ≤ wantIndex dataId)
    (hlen : body.length ≤ usdoDataMax)
    (hserve : Serves disp l.server.device client (addressed dataId) body abortNone reply d')
    (hmax : reply.length ≤ usdoSegBodyMax) (hcap : reply.length ≤ cap) :
    ∃ l', transportRead disp client deviceId dataId body cap l = (.ok reply, l') ∧
      l'.calls = l.calls ++ [⟨client, sessionAfter l.usdoSession, false, addressed dataId, body⟩] ∧
      l'.server.device = d' ∧ l'.inbox = [] ∧
      ∃ frames, l'.sent = l.sent ++ frames ∧
        frames.map (fun f => f.byte 1) = answerCmds body reply := by
  have hsession : sessionAfter l.usdoSession ≠ 0 := sessionAfter_ne_zero _
  obtain ⟨f, pdu, henc, hcarries, hsrc, hdst, hcmd, hses, hidx, hsub, hdata⟩ :=
    read_request (wantSub dataId) hclient htarget hsession hindex hlen
  have hsingle : pdu.cmd = cmdDownloadReq ∨ pdu.cmd = cmdUploadReq := by
    rw [hcmd]
    exact readCmd_single body
  have hserve' : Serves disp l.server.device pdu.srcNode
      (dataIdFromIndexSub pdu.index pdu.subindex) pdu.data abortNone reply d' := by
    rw [hsrc, hidx, hsub, hdata]
    exact hserve
  have hcall : (⟨pdu.srcNode, pdu.session, false, dataIdFromIndexSub pdu.index pdu.subindex,
      pdu.data⟩ : UsdoCall) = ⟨client, sessionAfter l.usdoSession, false, addressed dataId, body⟩ := by
    rw [hsrc, hses, hidx, hsub, hdata]
    rfl
  have hanswerable : Answerable l.server.nodeId (Pdu.ctx pdu) := by
    refine ⟨hnode ▸ htarget, ?_, ?_, ?_, ?_⟩
    · show validNode pdu.srcNode = true
      rw [hsrc]
      exact hclient
    · show pdu.session ≠ 0
      rw [hses]
      exact hsession
    · show 0x1000 ≤ pdu.index
      rw [hidx]
      exact hindex
    · exact hsingle.imp_right .inr
  have hresp : (if body.length > 0 then cmdDownloadResp else cmdUploadResp) = respCmd pdu.cmd := by
    rw [hcmd, readCmd]
    split <;> rfl
  by_cases hsmall : reply.length ≤ usdoDataMax
  · -- one frame back
    obtain ⟨res, l', hrt, hdelivered, hex⟩ := single_answered
      (e := muxExpected (if body.length > 0 then cmdDownloadResp else cmdUploadResp)
        cmdUploadInitResp deviceId.toUInt8 (sessionAfter l.usdoSession) (wantIndex dataId)
        (wantSub dataId) cap)
      (l := { l with usdoSession := sessionAfter l.usdoSession }) hquiet hsingle hcarries
      (hdst.trans hnode.symm) hanswerable hserve' (fun _ => hsmall) hsrc.symm hnode.symm hses.symm
      (by rw [hidx, hsub]; rfl) hresp (fun _ => hcap)
    rw [if_pos rfl] at hrt
    obtain ⟨hrescmd, hresdata⟩ := hdelivered.success rfl
    have hctx : (Pdu.ctx pdu).reqCmd = readCmd body := hcmd
    rw [hctx] at hrescmd hresdata
    have hsegmented : readCmd body ≠ cmdDownloadEndReq := by
      obtain h | h := readCmd_single body <;> rw [h] <;> decide
    have hexpedited : ¬ (res.cmd == cmdUploadInitResp) = true := by
      rw [hrescmd]
      obtain h | h := readCmd_single body <;> rw [h] <;> decide
    rw [if_neg hsegmented] at hresdata
    refine ⟨l', ?_, by rw [hex.calls, hcall], by rw [hex.server], hex.quiet, ?_⟩
    · rw [transportRead_eq htarget henc hrt, if_neg hexpedited, hresdata]
      rfl
    · rw [answerCmds, if_pos hsmall, ← hrescmd]
      exact hex.sent
  · -- an announcement back, then the segments
    have hlarge := Nat.lt_of_not_le hsmall
    obtain ⟨l₁, hrt, hex⟩ := roundTrip_exchanged disp
      (e := muxExpected (if body.length > 0 then cmdDownloadResp else cmdUploadResp)
        cmdUploadInitResp deviceId.toUInt8 (sessionAfter l.usdoSession) (wantIndex dataId)
        (wantSub dataId) cap)
      (l := { l with usdoSession := sessionAfter l.usdoSession }) hquiet hcarries
      (hdst.trans hnode.symm) (single_parked hsingle hanswerable hserve' hlarge hmax) hnode hsrc hses
      (by simp [Expected.muxMatches, muxExpected, announcement, hidx, hsub])
    have hserver := hex.server
    have hsending := @sending_parked l.server.segul (Pdu.ctx pdu) _ hmax
    have hparked : Sending l₁.server.segul client (sessionAfter l.usdoSession) 0 [] reply := by
      rw [hserver, ← hsrc, ← hses]
      exact hsending
    have hnode₁ : l₁.server.nodeId = deviceId.toUInt8 := by
      rw [hserver]
      exact hnode
    obtain ⟨l', hrun, hex', -, hdevice'⟩ := pullSegments_run disp hclient hsession reply.length
      (Nat.le_refl _) (hnode₁ ▸ htarget) hex.quiet hparked
    have htotal : (UInt32.ofNat reply.length).toNat = reply.length := by
      have hbytes : reply.length ≤ 256 := hmax
      rw [UInt32.toNat_ofNat']
      exact Nat.mod_eq_of_lt (by omega)
    have hpull : segUploadPull disp client deviceId.toUInt8 (sessionAfter l.usdoSession) reply.length
        cap l₁ = (.ok reply, l') := by
      rw [segUploadPull, if_neg (Nat.not_lt.mpr hcap), ← hnode₁]
      have hzero : ([] : List UInt8).length + reply.length = reply.length := Nat.zero_add _
      rw [hzero] at hrun
      exact hrun
    have hall := hex.trans hex'
    refine ⟨l', ?_, ?_, by rw [hdevice', hserver], hex'.quiet, ?_⟩
    · rw [answer_announcement] at hrt
      have hinit : (cmdUploadInitResp == cmdUploadInitResp) = true := rfl
      rw [transportRead_eq htarget henc hrt]
      show (if cmdUploadInitResp == cmdUploadInitResp then segUploadPull disp client
        deviceId.toUInt8 _ (UInt32.ofNat reply.length).toNat cap else _ : LinkM D _) l₁ = _
      rw [if_pos hinit, htotal, hpull]
    · rw [hall.calls, List.append_nil, hcall]
    · rw [answerCmds, if_neg hsmall]
      exact hall.sent

end Read

/-! ## A worked read -/

/-- The challenge of a worked identity read. -/
def sampleChallenge : List UInt8 := List.replicate 16 1

/-- What the server answers to it. -/
def sampleIdentity : List UInt8 :=
  match (sampleDispatcher.serve sampleBare 20 hoIdentityId sampleChallenge).1 with
  | r :: _ => r.body
  | [] => []

/-- `upload_end_to_end` on the identity, whose 176 bytes come in three segments. -/
theorem sampleIdentity_upload :
    ∃ l', transportRead sampleDispatcher 20 sampleNodeId hoIdentityId sampleChallenge 256 sampleLink
        = (.ok sampleIdentity, l') ∧
      l'.calls = [] ++ [⟨20, 1, false, addressed hoIdentityId, sampleChallenge⟩] ∧
      l'.server.device = (sampleDispatcher.serve sampleBare 20 hoIdentityId sampleChallenge).2 ∧
      l'.inbox = [] ∧ ∃ frames, l'.sent = [] ++ frames ∧
        frames.map (fun f => f.byte 1) = answerCmds sampleChallenge sampleIdentity := by
  have hobject : addressed hoIdentityId = hoIdentityId := by decide
  have hserve : Serves sampleDispatcher sampleBare 20 (addressed hoIdentityId) sampleChallenge
      abortNone sampleIdentity
      (sampleDispatcher.serve sampleBare 20 hoIdentityId sampleChallenge).2 := by
    rw [hobject]
    exact Prod.ext (by decide +kernel) rfl
  exact @upload_end_to_end _ sampleDispatcher sampleLink 20 sampleNodeId hoIdentityId
    sampleChallenge 256 _ _ (by decide) (by decide) (by decide) rfl (by decide) (by decide) hserve
    (by decide +kernel) (by decide +kernel)

example : answerCmds sampleChallenge sampleIdentity
    = [cmdUploadInitResp, cmdUploadSegResp, cmdUploadSegResp, cmdUploadEndResp] := by
  decide +kernel

end SofaTransfers
