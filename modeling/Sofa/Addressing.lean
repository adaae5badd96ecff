import Sofa.UsdoFormat
import Sofa.Reassembly

/-! # Who a frame is from, whom it is for, and in which session

    The sender and the direction of a frame stand in its CAN id, the receiver and the session
    in its payload.  Every encoder puts them where the decoder looks (`Between.decoded`), and
    **`handled_replied`** says what the server does with them: one frame that comes in is
    answered by at most one, which goes from this node back to the peer in the peer's own
    session, whatever the frame was and whatever the two slots held. -/

namespace SofaAddressing

open SofaConfig SofaDevice SofaServer SofaUsdo SofaUsdoServer SofaUsdoFormat SofaReassembly
  StateWp

/-! ## The head of a frame -/

/-- A frame from one node to another, in this session and direction. -/
structure Between (src dst session : UInt8) (toServer : Bool) (f : Frame) : Prop where
  source : validNode src = true
  frame : ∃ cmd rest, f = usdoFrame src toServer (dst :: cmd :: session :: rest)

theorem decodeMux_head_kept {f : Frame} {base pdu : Pdu} (h : decodeMux f base = .ok pdu) :
    pdu.srcNode = base.srcNode ∧ pdu.dstNode = base.dstNode ∧ pdu.session = base.session := by
  unfold decodeMux at h
  grind

theorem decodeBody_head_kept {f : Frame} {base pdu : Pdu} (h : decodeBody f base = .ok pdu) :
    pdu.srcNode = base.srcNode ∧ pdu.dstNode = base.dstNode ∧ pdu.session = base.session := by
  have hmux := @decodeMux_head_kept f base pdu
  unfold decodeBody at h
  grind

/-- The sender, the receiver and the session of a frame that decodes. -/
theorem decode_address {f : Frame} {pdu : Pdu} (h : decode f = .ok pdu) :
    pdu.srcNode = (canIdSplit f.idValue).1 ∧ pdu.dstNode = f.byte 0 ∧ pdu.session = f.byte 2 :=
  decodeBody_head_kept (decode_head h).2.2.2

section Frames

variable {src dst session cmd : UInt8} {toServer : Bool} {f : Frame}

theorem Between.split (h : Between src dst session toServer f) :
    canIdSplit f.idValue = (src, kindOf toServer) := by
  obtain ⟨hsrc, cmd, rest, rfl⟩ := h
  exact canIdSplit_usdoFrame hsrc toServer _

theorem Between.receiver (h : Between src dst session toServer f) : f.byte 0 = dst := by
  obtain ⟨-, cmd, rest, rfl⟩ := h
  rfl

/-- **What the decoder reads** of the head of a frame. -/
theorem Between.decoded {pdu : Pdu} (h : Between src dst session toServer f)
    (hdec : decode f = .ok pdu) :
    pdu.srcNode = src ∧ pdu.dstNode = dst ∧ pdu.session = session := by
  have haddr := decode_address hdec
  rw [h.split] at haddr
  obtain ⟨-, cmd, rest, rfl⟩ := h
  exact haddr

theorem encodeSegCommon_between {rest : List UInt8}
    (h : encodeSegCommon src dst cmd session rest = some f) :
    Between src dst session (cmdIsRequest cmd) f := by
  have hargs := encodeSegCommon_some h
  rw [encodeSegCommon, if_neg (by simp [hargs])] at h
  exact ⟨hargs.1, cmd, rest, (Option.some.inj h).symm⟩

theorem encodeCommon_between {index : UInt16} {subindex dataType : UInt8} {data : List UInt8}
    (h : encodeCommon src dst cmd session index subindex dataType data = some f) :
    Between src dst session (cmdIsRequest cmd) f := by
  obtain ⟨⟨hsrc, hdst, hsession⟩, hindex, hdata⟩ := encodeCommon_some h
  rw [encodeCommon_eq hsrc hdst hsession hindex hdata] at h
  exact ⟨hsrc, cmd, _, (Option.some.inj h).symm⟩

theorem encodeInitCommon_between {index : UInt16} {subindex : UInt8} {totalSize : UInt32}
    (h : encodeInitCommon src dst cmd session index subindex totalSize = some f) :
    Between src dst session (cmdIsRequest cmd) f := by
  simp only [encodeInitCommon, Option.ite_none_left_eq_some] at h
  exact encodeSegCommon_between h.2

theorem encodeInitResp_between {index : UInt16} {subindex : UInt8}
    (h : encodeDownloadInitResp src dst session index subindex = some f) :
    Between src dst session false f := by
  simp only [encodeDownloadInitResp, Option.ite_none_left_eq_some] at h
  exact encodeSegCommon_between h.2

theorem encodeSegEnd_between {data : List UInt8}
    (h : encodeSegEnd src dst cmd session data = some f) :
    Between src dst session (cmdIsRequest cmd) f := by
  simp only [encodeSegEnd, Option.ite_none_left_eq_some] at h
  exact encodeSegCommon_between h.2

theorem encodeEndReq_between {data : List UInt8}
    (h : encodeDownloadEndReq src dst session data = some f) : Between src dst session true f := by
  simp only [encodeDownloadEndReq, Option.ite_none_left_eq_some] at h
  exact encodeSegEnd_between h.2

theorem encodeAbort_between {index : UInt16} {subindex : UInt8} {code : Abort}
    (h : encodeAbort src dst session index subindex code = some f) :
    Between src dst session false f := by
  simp only [encodeAbort, Option.ite_none_left_eq_some] at h
  exact encodeSegCommon_between h.2

end Frames

/-! ## What the server sends for one frame -/

variable {D : Type}

/-- Since `w` at most one frame was sent, to this peer in this session; the node id stays. -/
structure Replied (peer session : UInt8) (w w' : UsdoWorld D) : Prop where
  node : w'.server.nodeId = w.server.nodeId
  sent : ∃ g : Option Frame, w'.sent = w.sent ++ g.toList ∧
    ∀ f, g = some f → Between w.server.nodeId peer session false f

theorem replied_none {peer session : UInt8} {w w' : UsdoWorld D}
    (hnode : w'.server.nodeId = w.server.nodeId) (hsent : w'.sent = w.sent) :
    Replied peer session w w' :=
  ⟨hnode, none, by rw [hsent, Option.toList_none, List.append_nil], nofun⟩

theorem replied_abort {peer session : UInt8} {index : UInt16} {subindex : UInt8} {code : Abort}
    {w : UsdoWorld D} :
    wp (serverSegAbort peer session index subindex code)
      (fun _ w' => Replied peer session w w') w :=
  ⟨rfl, _, rfl, fun _ => encodeAbort_between⟩

theorem replyFrame_between {nodeId : UInt8} {ctx : RequestCtx} {status : Abort}
    {data : List UInt8} {f : Frame} (h : replyFrame nodeId ctx status data = some f) :
    Between nodeId ctx.srcNode ctx.session false f := by
  rw [replyFrame] at h
  split at h
  · exact encodeAbort_between h
  split at h
  · exact encodeCommon_between h
  split at h
  · exact encodeSegCommon_between h
  split at h
  · exact encodeCommon_between h
  · exact encodeAbort_between h

theorem sendReplyCb_replied {ctx : RequestCtx} {status : Abort} {data : List UInt8}
    {w : UsdoWorld D} :
    wp (sendReplyCb ctx status data) (fun _ w' => Replied ctx.srcNode ctx.session w w') w := by
  rw [sendReplyCb, wp_bind, wp_getServer, wp_ite]
  refine ⟨fun _ => ?_, fun _ => ⟨rfl, _, rfl, fun _ => replyFrame_between⟩⟩
  rw [wp_ite]
  exact ⟨fun _ => replied_none rfl rfl, fun _ => ⟨rfl, _, rfl, fun _ => encodeInitCommon_between⟩⟩

theorem dispatch_replied (disp : Dispatcher D) {ctx : RequestCtx} {segmented : Bool}
    {body : List UInt8} {w : UsdoWorld D} :
    wp (dispatch disp ctx segmented body)
      (fun _ w' => Replied ctx.srcNode ctx.session w w') w := by
  obtain ⟨status, reply, hone⟩ := disp.one w.server.device ctx.srcNode.toUInt16
    (dataIdFromIndexSub ctx.index ctx.subindex) body
  have hserve : dispatch disp ctx segmented body w = _ := dispatch_eq (Prod.ext hone rfl)
  rw [wp, hserve]
  obtain ⟨hnode, hsent⟩ := @sendReplyCb_replied D ctx status reply _
  exact ⟨hnode, hsent⟩

/-- What a segment leaves: an answer, or the whole body of its own sender's transfer. -/
structure Fed (pdu : Pdu) (w : UsdoWorld D) (complete : Bool) (w' : UsdoWorld D) : Prop where
  answered : complete = false → Replied pdu.srcNode pdu.session w w'
  whole : complete = true → w'.server.nodeId = w.server.nodeId ∧ w'.sent = w.sent ∧
    w'.server.segdl.src = pdu.srcNode ∧ w'.server.segdl.session = pdu.session

theorem fed_abort {pdu : Pdu} {w v : UsdoWorld D} {index : UInt16} {subindex : UInt8}
    {code : Abort} (hnode : v.server.nodeId = w.server.nodeId) (hsent : v.sent = w.sent) :
    wp (do serverSegAbort pdu.srcNode pdu.session index subindex code; return false)
      (Fed pdu w) v := by
  obtain ⟨hn, g, hg, hbetween⟩ := @replied_abort D pdu.srcNode pdu.session index subindex code v
  rw [hnode] at hbetween
  exact ⟨fun _ => ⟨hn.trans hnode, g, hg.trans (by rw [hsent]), hbetween⟩, nofun⟩

theorem serverSegDownloadFeed_fed {pdu : Pdu} {w : UsdoWorld D} :
    wp (serverSegDownloadFeed pdu) (Fed pdu w) w := by
  rw [serverSegDownloadFeed, wp_bind, wp_getServer]
  dsimp only
  rw [wp_ite]
  refine ⟨fun _ => fed_abort rfl rfl, fun howner => ?_⟩
  rw [wp_ite]
  refine ⟨fun _ => fed_abort rfl rfl, fun _ => ?_⟩
  rw [wp_ite]
  refine ⟨fun _ => fed_abort rfl rfl, fun _ => ?_⟩
  rw [wp_ite]
  refine ⟨fun _ => ?_, fun _ => ?_⟩
  · exact ⟨fun _ => ⟨rfl, _, rfl, fun _ => encodeSegCommon_between⟩, Bool.noConfusion⟩
  · rw [wp_bind, wp_setServer, wp_ite]
    refine ⟨fun _ => fed_abort rfl rfl, fun _ => ⟨Bool.noConfusion, fun _ => ?_⟩⟩
    -- the slot took the segment, so its owner is the sender
    have hmatch : w.server.segdl.matches pdu = true := by simpa using howner
    simp only [SegDownload.matches, Bool.and_eq_true, beq_iff_eq] at hmatch
    exact ⟨rfl, rfl, hmatch.1.2.symm, hmatch.2.symm⟩

/-- A segment of the parked upload goes to the peer it was parked for, who asked. -/
theorem serverSegUploadServe_replied {pdu : Pdu} {w : UsdoWorld D} :
    wp (serverSegUploadServe pdu)
      (fun _ w' => Replied pdu.srcNode pdu.session w w') w := by
  rw [serverSegUploadServe, wp_bind, wp_getServer]
  dsimp only
  rw [wp_ite]
  refine ⟨fun _ => replied_abort, fun howner => ?_⟩
  rw [wp_ite]
  refine ⟨fun _ => replied_abort, fun _ => ?_⟩
  simp only [Bool.or_eq_true, Bool.not_eq_true', bne_iff_ne, ne_eq, not_or, not_not] at howner
  obtain ⟨⟨-, hdst⟩, hsession⟩ := howner
  rw [wp_ite]
  refine ⟨fun _ => ?_, fun _ => ?_⟩
  · refine ⟨rfl, _, rfl, fun f hf => ?_⟩
    rw [hdst, hsession]
    exact encodeSegCommon_between hf
  · refine ⟨rfl, _, rfl, fun f hf => ?_⟩
    rw [hdst, hsession]
    exact encodeSegEnd_between hf

theorem dispatchSegmented_replied (disp : Dispatcher D) {w : UsdoWorld D} :
    wp (dispatchSegmented disp)
      (fun _ w' => Replied w.server.segdl.src w.server.segdl.session w w') w := by
  rw [dispatchSegmented, wp_bind, wp_getServer, wp_bind]
  refine wp_mono (dispatch_replied disp) fun _ w' h => ?_
  exact ⟨h.node, h.sent⟩

theorem handlePdu_replied (disp : Dispatcher D) {pdu : Pdu} {w : UsdoWorld D} :
    wp (handlePdu disp pdu) (fun _ w' => Replied pdu.srcNode pdu.session w w') w := by
  rw [handlePdu, wp_ite]
  refine ⟨fun _ => ?_, fun _ => ?_⟩
  · rw [serverSegDownloadInit, wp_bind, wp_getServer, wp_ite]
    exact ⟨fun _ => replied_abort, fun _ => ⟨rfl, _, rfl, fun _ => encodeInitResp_between⟩⟩
  rw [wp_ite]
  refine ⟨fun _ => ?_, fun _ => ?_⟩
  · rw [wp_bind]
    refine wp_mono serverSegDownloadFeed_fed fun complete v hfed => ?_
    cases complete with
    | false => exact hfed.answered rfl
    | true =>
        obtain ⟨hnode, hsent, hsrc, hsession⟩ := hfed.whole rfl
        rw [if_pos rfl]
        refine wp_mono (dispatchSegmented_replied disp) fun _ w' h => ?_
        rw [hsrc, hsession] at h
        exact ⟨h.node.trans hnode, by simpa only [hsent, hnode] using h.sent⟩
  rw [wp_ite]
  exact ⟨fun _ => serverSegUploadServe_replied, fun _ => dispatch_replied disp⟩

/-- **One frame in, at most one frame out**: from this node, to the sender of the frame, in
    the session of the frame. -/
theorem handled_replied (disp : Dispatcher D) (s : UsdoServer D) (f : Frame) :
    (handled disp s f).server.nodeId = s.nodeId ∧
      (handled disp s f).sent.length ≤ 1 ∧
      ∀ g ∈ (handled disp s f).sent, ∃ pdu, requestPdu s.nodeId f = some pdu ∧
        Between s.nodeId pdu.srcNode pdu.session false g := by
  cases hreq : requestPdu s.nodeId f with
  | none =>
      have hnone : handled disp s f = { server := s } :=
        congrArg Prod.snd (handleFrame_none (w := { server := s }) hreq)
      rw [hnone]
      exact ⟨rfl, Nat.zero_le _, nofun⟩
  | some pdu =>
      have hrun : handleFrame disp f { server := s } = handlePdu disp pdu { server := s } :=
        handleFrame_some hreq
      obtain ⟨hnode, g, hsent, hbetween⟩ :=
        @handlePdu_replied D disp pdu { server := s }
      rw [handled, hrun]
      refine ⟨hnode, ?_, fun f' hf' => ⟨pdu, rfl, ?_⟩⟩
      · rw [hsent]
        cases g <;> simp
      · rw [hsent, List.nil_append, Option.mem_toList] at hf'
        exact hbetween f' hf'

end SofaAddressing
