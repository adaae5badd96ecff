import Sofa.UsdoClient
import Sofa.Addressing

/-! # The client's transfers over any carrier

    `transport_read` and `transport_write` use two things of what carries them: the next
    session number, and one request with its response.  Here they are written over these two,
    and **`transportRead_link`** and **`transportWrite_link`** say that over the channel of one
    server they are the transport of the CANopen FD client.

    The rule for a transfer is **`transportRead_rule`** with `transportWrite_rule`: a condition
    on the state and on the error so far that one request of the session keeps, and that a
    refusal of the client's own keeps, holds when the call returns. -/

namespace SofaCarrier

open SofaConfig SofaDevice SofaUsdo SofaUsdoServer SofaUsdoClient SofaAddressing StateWp
open SofaClient (SecpError)

/-! ## The transfers -/

/-- `next_session` and `round_trip` over the state `N`. -/
structure Carrier (N : Type) where
  session : StateM N UInt8
  roundTrip : Frame → Expected → StateM N (Except SecpError Pdu)

variable {N : Type}

/-- The loop of `seg_upload_pull`. -/
def Carrier.pullSegments (c : Carrier N) (nodeId target session : UInt8) (total : Nat)
    (counter : UInt8) (got : List UInt8) : StateM N (Except SecpError (List UInt8)) :=
  match encodeUploadSegReq nodeId target session counter with
  | none => pure (.error .protocol)
  | some f => do
      match ← c.roundTrip f (pullExpected target session) with
      | .error e => pure (.error e)
      | .ok res =>
          if res.cmd == cmdUploadSegResp && res.counter != counter then
            pure (.error .protocol)
          else if got.length + res.data.length > total then
            pure (.error .protocol)
          else if res.cmd == cmdUploadEndResp then
            if got.length + res.data.length != total then pure (.error .protocol)
            else pure (.ok (got ++ res.data))
          else if _hlast : counter = 0xFF then pure (.error .protocol)
          else
            Carrier.pullSegments c nodeId target session total (counter + 1) (got ++ res.data)
termination_by 255 - counter.toNat
decreasing_by
  have hne : counter.toNat ≠ 255 := fun h => _hlast (UInt8.toNat_inj.mp h)
  have hlt : counter.toNat < 256 := UInt8.toNat_lt counter
  have hnext : (counter + 1).toNat = counter.toNat + 1 := by
    rw [UInt8.toNat_add]
    exact Nat.mod_eq_of_lt (by show counter.toNat + 1 < 256; omega)
  omega

/-- `seg_upload_pull`. -/
def Carrier.segUploadPull (c : Carrier N) (nodeId target session : UInt8) (total cap : Nat) :
    StateM N (Except SecpError (List UInt8)) :=
  if total > cap then pure (.error .bufsize)
  else c.pullSegments nodeId target session total 0 []

/-- The loop of `transport_write`. -/
def Carrier.pushSegments (c : Carrier N) (nodeId target session : UInt8) (counter : UInt8)
    (rest : List UInt8) : StateM N (Except SecpError Unit) :=
  if _hmore : rest.length > usdoSegDataMax then
    match encodeDownloadSegReq nodeId target session counter rest with
    | none => pure (.error .protocol)
    | some f => do
        match ← c.roundTrip f (pushExpected cmdDownloadSegResp target session) with
        | .error e => pure (.error e)
        | .ok res =>
            if res.counter != counter then pure (.error .protocol)
            else Carrier.pushSegments c nodeId target session (counter + 1) (rest.drop usdoSegDataMax)
  else
    match encodeDownloadEndReq nodeId target session rest with
    | none => pure (.error .protocol)
    | some f => do
        match ← c.roundTrip f (pushExpected cmdDownloadEndResp target session) with
        | .error e => pure (.error e)
        | .ok _ => pure (.ok ())
termination_by rest.length
decreasing_by
  have hmore : rest.length > 60 := _hmore
  rw [List.length_drop]
  show rest.length - 60 < rest.length
  omega

/-- `transport_read`. -/
def Carrier.transportRead (c : Carrier N) (nodeId : UInt8) (deviceId : UInt16) (dataId : UInt32)
    (body : List UInt8) (cap : Nat) : StateM N (Except SecpError (List UInt8)) := do
  let target := deviceId.toUInt8
  let index := wantIndex dataId
  let sub := wantSub dataId
  if !validNode target then
    return .error .protocol
  let session ← c.session
  let req := if body.length > 0 then encodeDownloadReq nodeId target session index sub body
    else encodeUploadReq nodeId target session index sub
  let cmd := if body.length > 0 then cmdDownloadResp else cmdUploadResp
  match req with
  | none => return .error .protocol
  | some f =>
      match ← c.roundTrip f
          (muxExpected cmd cmdUploadInitResp target session index sub cap) with
      | .error e => return .error e
      | .ok res =>
          if res.cmd == cmdUploadInitResp then
            c.segUploadPull nodeId target session res.totalSize.toNat cap
          else
            return .ok res.data

/-- `transport_write`. -/
def Carrier.transportWrite (c : Carrier N) (nodeId : UInt8) (deviceId : UInt16) (dataId : UInt32)
    (body : List UInt8) : StateM N (Except SecpError Unit) := do
  let target := deviceId.toUInt8
  let index := wantIndex dataId
  let sub := wantSub dataId
  if !validNode target then
    return .error .protocol
  if body.length ≤ usdoDataMax then
    let session ← c.session
    match encodeDownloadReq nodeId target session index sub body with
    | none => return .error .protocol
    | some f =>
        match ← c.roundTrip f
            (muxExpected cmdDownloadResp 0 target session index sub payloadMax) with
        | .error e => return .error e
        | .ok _ => return .ok ()
  else if body.length > usdoSegBodyMax then
    return .error .bufsize
  else
    let session ← c.session
    match encodeDownloadInitReq nodeId target session index sub (UInt32.ofNat body.length) with
    | none => return .error .protocol
    | some f =>
        match ← c.roundTrip f
            (muxExpected cmdDownloadInitResp 0 target session index sub payloadMax) with
        | .error e => return .error e
        | .ok _ => c.pushSegments nodeId target session 0 body

/-! ## The channel of one server -/

section Channel

variable {D : Type} (disp : Dispatcher D) (nodeId : UInt8)

/-- The channel with this client alone on it. -/
def linkCarrier : Carrier (Link D) := ⟨nextSession, roundTrip disp nodeId⟩

theorem pullSegments_link (target session : UInt8) (total : Nat) (counter : UInt8)
    (got : List UInt8) :
    (linkCarrier disp nodeId).pullSegments nodeId target session total counter got
      = pullSegments disp nodeId target session total counter got := by
  induction counter, got using pullSegments.induct nodeId target session total with
  | case1 counter got henc => rw [Carrier.pullSegments, pullSegments, henc]
  | case2 counter got f henc ih =>
      rw [Carrier.pullSegments, pullSegments, henc]
      refine bind_congr fun r => ?_
      cases r with
      | error e => rfl
      | ok res =>
          by_cases hlast : counter = 0xFF
          · simp only [hlast, dite_true]
          · simp only [hlast, dite_false, ih res hlast]

theorem pushSegments_link (target session counter : UInt8) (rest : List UInt8) :
    (linkCarrier disp nodeId).pushSegments nodeId target session counter rest
      = pushSegments disp nodeId target session counter rest := by
  induction counter, rest using pushSegments.induct nodeId target session with
  | case1 counter rest hmore henc =>
      rw [Carrier.pushSegments, pushSegments, dif_pos hmore, dif_pos hmore, henc]
  | case2 counter rest hmore f henc ih =>
      rw [Carrier.pushSegments, pushSegments, dif_pos hmore, dif_pos hmore, henc]
      refine bind_congr fun r => ?_
      cases r with
      | error e => rfl
      | ok res => simp only [ih]
  | case3 counter rest hlast henc =>
      rw [Carrier.pushSegments, pushSegments, dif_neg hlast, dif_neg hlast, henc]
  | case4 counter rest hlast f henc =>
      rw [Carrier.pushSegments, pushSegments, dif_neg hlast, dif_neg hlast, henc]
      rfl

/-- **Over the channel of one server** the read is that of the CANopen FD client. -/
theorem transportRead_link (deviceId : UInt16) (dataId : UInt32) (body : List UInt8) (cap : Nat) :
    (linkCarrier disp nodeId).transportRead nodeId deviceId dataId body cap
      = transportRead disp nodeId deviceId dataId body cap := by
  have hpull : ∀ target session total,
      (linkCarrier disp nodeId).segUploadPull nodeId target session total cap
        = segUploadPull disp nodeId target session total cap := by
    intro target session total
    rw [Carrier.segUploadPull, segUploadPull, pullSegments_link]
  simp only [Carrier.transportRead, transportRead, hpull]
  rfl

/-- **And so is the write.** -/
theorem transportWrite_link (deviceId : UInt16) (dataId : UInt32) (body : List UInt8) :
    (linkCarrier disp nodeId).transportWrite nodeId deviceId dataId body
      = transportWrite disp nodeId deviceId dataId body := by
  simp only [Carrier.transportWrite, transportWrite, pushSegments_link]
  rfl

end Channel

/-! ## The rule for a transfer -/

/-- A request of the session to the target, and the client waits for its response. -/
structure Asks (nodeId target session : UInt8) (f : Frame) (e : Expected) : Prop where
  frame : Between nodeId target session true f
  node : e.node = target
  session : e.session = session

/-- How a result failed, if it did. -/
def failure {α : Type} : Except SecpError α → Option SecpError
  | .ok _ => none
  | .error e => some e

/-- What a session keeps: each of its requests does, and so does a refusal of the client. -/
structure Kept (c : Carrier N) (nodeId target session : UInt8)
    (J : Option SecpError → N → Prop) : Prop where
  roundTrip : ∀ f e n, Asks nodeId target session f e → J none n →
    wp (c.roundTrip f e) (fun r n' => J (failure r) n') n
  refused : ∀ e n, e = .protocol ∨ e = .bufsize → J none n → J (some e) n

section Rule

variable {c : Carrier N} {nodeId target session : UInt8} {J : Option SecpError → N → Prop} {n : N}

theorem pullSegments_rule (hkept : Kept c nodeId target session J) (total : Nat)
    (counter : UInt8) (got : List UInt8) (hn : J none n) :
    wp (c.pullSegments nodeId target session total counter got)
      (fun r n' => J (failure r) n') n := by
  induction counter, got using pullSegments.induct nodeId target session total generalizing n with
  | case1 counter got henc =>
      rw [Carrier.pullSegments, henc]
      exact hkept.refused _ _ (.inl rfl) hn
  | case2 counter got f henc ih =>
      rw [Carrier.pullSegments, henc, wp_bind]
      have hasks : Asks nodeId target session f (pullExpected target session) :=
        ⟨encodeSegCommon_between henc, rfl, rfl⟩
      refine wp_mono (hkept.roundTrip _ _ _ hasks hn) fun r m hm => ?_
      have hrefused : ∀ e, r = .ok e → J (some .protocol) m := by
        rintro e rfl
        exact hkept.refused _ _ (.inl rfl) hm
      cases r with
      | error e => exact hm
      | ok res =>
          have hstop := hrefused res rfl
          show wp (if _ then _ else _) _ m
          rw [wp_ite]
          refine ⟨fun _ => hstop, fun _ => ?_⟩
          rw [wp_ite]
          refine ⟨fun _ => hstop, fun _ => ?_⟩
          rw [wp_ite]
          refine ⟨fun _ => ?_, fun _ => ?_⟩
          · rw [wp_ite]
            exact ⟨fun _ => hstop, fun _ => hm⟩
          · by_cases hlast : counter = 0xFF
            · rw [dif_pos hlast]
              exact hstop
            · rw [dif_neg hlast]
              exact ih res hlast hm

theorem segUploadPull_rule (hkept : Kept c nodeId target session J) (total cap : Nat)
    (hn : J none n) :
    wp (c.segUploadPull nodeId target session total cap) (fun r n' => J (failure r) n') n := by
  rw [Carrier.segUploadPull, wp_ite]
  exact ⟨fun _ => hkept.refused _ _ (.inr rfl) hn, fun _ => pullSegments_rule hkept _ _ _ hn⟩

theorem pushSegments_rule (hkept : Kept c nodeId target session J) (counter : UInt8)
    (rest : List UInt8) (hn : J none n) :
    wp (c.pushSegments nodeId target session counter rest) (fun r n' => J (failure r) n') n := by
  induction counter, rest using pushSegments.induct nodeId target session generalizing n with
  | case1 counter rest hmore henc =>
      rw [Carrier.pushSegments, dif_pos hmore, henc]
      exact hkept.refused _ _ (.inl rfl) hn
  | case2 counter rest hmore f henc ih =>
      rw [Carrier.pushSegments, dif_pos hmore, henc, wp_bind]
      have hasks : Asks nodeId target session f
          (pushExpected cmdDownloadSegResp target session) :=
        ⟨encodeSegCommon_between henc, rfl, rfl⟩
      refine wp_mono (hkept.roundTrip _ _ _ hasks hn) fun r m hm => ?_
      cases r with
      | error e => exact hm
      | ok res =>
          show wp (if _ then _ else _) _ m
          rw [wp_ite]
          exact ⟨fun _ => hkept.refused _ _ (.inl rfl) hm, fun _ => ih hm⟩
  | case3 counter rest hlast henc =>
      rw [Carrier.pushSegments, dif_neg hlast, henc]
      exact hkept.refused _ _ (.inl rfl) hn
  | case4 counter rest hlast f henc =>
      rw [Carrier.pushSegments, dif_neg hlast, henc, wp_bind]
      have hasks : Asks nodeId target session f
          (pushExpected cmdDownloadEndResp target session) :=
        ⟨encodeEndReq_between henc, rfl, rfl⟩
      refine wp_mono (hkept.roundTrip _ _ _ hasks hn) fun r m hm => ?_
      cases r <;> exact hm

/-- A call begins with a session number: from there on something is kept that gives `J`. -/
def Begins (c : Carrier N) (nodeId target : UInt8) (J : Option SecpError → N → Prop) (n : N) :
    Prop :=
  wp c.session (fun session m => ∃ J', Kept c nodeId target session J' ∧ J' none m ∧
    ∀ e m', J' e m' → J e m') n

/-- **The rule for a read.** -/
theorem transportRead_rule {deviceId : UInt16} (dataId : UInt32) (body : List UInt8) (cap : Nat)
    (hrefused : J (some .protocol) n) (hbegins : Begins c nodeId deviceId.toUInt8 J n) :
    wp (c.transportRead nodeId deviceId dataId body cap) (fun r n' => J (failure r) n') n := by
  rw [Carrier.transportRead]
  dsimp only
  rw [wp_ite]
  refine ⟨fun _ => hrefused, fun _ => ?_⟩
  rw [wp_bind]
  refine wp_mono hbegins fun session m => ?_
  rintro ⟨J', hkept, hm, himp⟩
  refine wp_mono ?_ fun r m' h => himp _ _ h
  have hbetween : ∀ f, (if body.length > 0 then
      encodeDownloadReq nodeId deviceId.toUInt8 session (wantIndex dataId) (wantSub dataId) body
      else encodeUploadReq nodeId deviceId.toUInt8 session (wantIndex dataId) (wantSub dataId))
        = some f → Between nodeId deviceId.toUInt8 session true f := by
    intro f hf
    split at hf
    · exact encodeCommon_between hf
    · exact encodeCommon_between hf
  split
  · exact hkept.refused _ _ (.inl rfl) hm
  · rename_i f hreq
    rw [wp_bind]
    refine wp_mono (hkept.roundTrip f _ m ⟨hbetween f hreq, rfl, rfl⟩ hm) fun r m' hm' => ?_
    cases r with
    | error e => exact hm'
    | ok res =>
        show wp (if _ then _ else _) _ m'
        rw [wp_ite]
        exact ⟨fun _ => segUploadPull_rule hkept _ _ hm', fun _ => hm'⟩

/-- **The rule for a write.** -/
theorem transportWrite_rule {deviceId : UInt16} (dataId : UInt32) (body : List UInt8)
    (hrefused : ∀ e, e = .protocol ∨ e = .bufsize → J (some e) n)
    (hbegins : Begins c nodeId deviceId.toUInt8 J n) :
    wp (c.transportWrite nodeId deviceId dataId body) (fun r n' => J (failure r) n') n := by
  rw [Carrier.transportWrite, wp_ite]
  refine ⟨fun _ => hrefused _ (.inl rfl), fun _ => ?_⟩
  rw [wp_ite]
  refine ⟨fun _ => ?_, fun _ => ?_⟩
  · rw [wp_bind]
    refine wp_mono hbegins fun session m => ?_
    rintro ⟨J', hkept, hm, himp⟩
    refine wp_mono ?_ fun r m' h => himp _ _ h
    split
    · exact hkept.refused _ _ (.inl rfl) hm
    · rename_i f hreq
      rw [wp_bind]
      refine wp_mono (hkept.roundTrip f _ m ⟨encodeCommon_between hreq, rfl, rfl⟩ hm)
        fun r m' hm' => ?_
      cases r <;> exact hm'
  · rw [wp_ite]
    refine ⟨fun _ => hrefused _ (.inr rfl), fun _ => ?_⟩
    rw [wp_bind]
    refine wp_mono hbegins fun session m => ?_
    rintro ⟨J', hkept, hm, himp⟩
    refine wp_mono ?_ fun r m' h => himp _ _ h
    split
    · exact hkept.refused _ _ (.inl rfl) hm
    · rename_i f hreq
      rw [wp_bind]
      refine wp_mono (hkept.roundTrip f _ m ⟨encodeInitCommon_between hreq, rfl, rfl⟩ hm)
        fun r m' hm' => ?_
      cases r with
      | error e => exact hm'
      | ok res => exact pushSegments_rule hkept _ _ hm'

end Rule

end SofaCarrier
