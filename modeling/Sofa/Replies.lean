import Sofa.Epochs

/-! # One reply to every request

    A request falls through six tiers, and a tier that takes it also answers it.  The
    headline, **`one_reply`**: from every start configuration, after every run, the next
    request of any client is answered by exactly one call of `send_reply`, to that client
    and for that data id, with a body of at most 256 bytes on success and without a body
    on an abort. -/

namespace SofaReplies

open ByteBlock SofaConfig SofaAead SofaOd SofaServer SofaDemo SofaAsym SofaDevice SofaTurn SofaNode
  SofaEpochs StateWp Machine

variable {E : Type} {gcm : Gcm} {ed : Ed25519} {plat : DevicePlatform E} {deviceId : UInt16}

/-! ## The replies of the secure OD -/

section SecureOd

variable {H : Type} {P : Ports H} {idx : Fin sodMaxEntries} {entry : SodEntry} {client : UInt16}
  {req : List UInt8} {replyMax : Nat}

/-- A reply fits the buffer the dispatcher was given. -/
def Fits (replyMax : Nat) : SodResult → Prop
  | .ok reply => reply.length ≤ replyMax
  | _ => True

theorem armReadResponse_fits :
    Returns (Fits replyMax) (armReadResponse gcm P idx entry client req) := by
  unfold armReadResponse
  refine returns_ite (fun _ => returns_pure trivial) fun _ => ?_
  refine returns_ite (fun _ => returns_pure trivial) fun _ => ?_
  refine returns_seq fun key => ?_
  cases key with
  | none => exact returns_pure trivial
  | some key =>
      refine returns_seq fun ok => returns_ite (fun _ => returns_pure trivial) fun _ => ?_
      refine returns_seq fun ok => returns_ite (fun _ => returns_pure trivial) fun _ => ?_
      refine returns_seq fun slot => returns_seq fun held =>
        returns_ite (fun _ => returns_pure trivial) fun _ => ?_
      refine returns_seq fun ⟨rc, plain⟩ => ?_
      refine returns_ite (fun _ => returns_pure trivial) fun _ => ?_
      refine returns_ite (fun _ => returns_pure trivial) fun _ => ?_
      refine returns_seq fun random => ?_
      cases random with
      | none => exact returns_pure trivial
      | some random =>
          refine returns_seq fun _ => returns_seq fun out => ?_
          cases out with
          | none => exact returns_pure trivial
          | some out =>
              exact returns_seq fun _ => returns_seq fun _ => returns_pure trivial

/-- A prepared reply is only delivered when it fits. -/
theorem fetchReadResponse_fits :
    Returns (fun r => ∀ result, r = some result → Fits replyMax result)
      (fetchReadResponse P idx entry replyMax) := by
  unfold fetchReadResponse
  refine returns_seq fun slot => ?_
  -- what is left once the slot is found armed
  have hdeliver : ∀ armed : Bool, Returns (fun r => ∀ result, r = some result → Fits replyMax result)
      (if armed then do
        if slot.prepared.length > replyMax then
          setReadSlot idx { slot with inUse := false }
          return some (.abort abortInternal)
        if slot.cyclic then
          let now ← portTime P
          setReadSlot idx { slot with prepared := [], armedAt := now }
        else
          setReadSlot idx { slot with inUse := false }
        return some (.ok slot.prepared)
      else do
        if !entry.hasWo then
          return some (.abort abortNoSession)
        return none : SodM H (Option SodResult)) := by
    intro armed
    refine returns_ite (fun _ => returns_ite (fun _ => ?_) fun hfits => ?_) fun _ => ?_
    · exact returns_seq fun _ => returns_pure (by rintro _ ⟨⟩; trivial)
    · have hdone : Returns (fun r => ∀ result, r = some result → Fits replyMax result)
          (pure (some (.ok slot.prepared)) : SodM H (Option SodResult)) :=
        returns_pure (by rintro _ ⟨⟩; exact Nat.le_of_not_lt hfits)
      exact returns_ite (fun _ => returns_seq fun _ => returns_seq fun _ => hdone)
        fun _ => returns_seq fun _ => hdone
    · exact returns_ite (fun _ => returns_pure (by rintro _ ⟨⟩; trivial))
        fun _ => returns_pure (by rintro _ ⟨⟩)
  exact returns_ite (fun _ => returns_seq fun fresh => hdeliver fresh) fun _ => hdeliver _

/-- A challenge is only handed out when it fits. -/
theorem grantWrite_fits {wire : Option UInt8} :
    Returns (Fits replyMax) (grantWrite P idx client wire replyMax) := by
  unfold grantWrite
  refine returns_ite (fun _ => returns_pure trivial) fun hfits => ?_
  refine returns_seq fun random => ?_
  cases random with
  | none => exact returns_pure trivial
  | some random =>
      refine returns_seq fun slot => returns_seq fun held =>
        returns_ite (fun _ => returns_pure trivial) fun _ => ?_
      refine returns_seq fun now => returns_seq fun _ => returns_pure ?_
      show (toList random).length ≤ replyMax
      rw [length_toList]
      exact Nat.le_of_not_lt hfits

theorem armWriteChallenge_fits {wire : Option UInt8} :
    Returns (Fits replyMax) (armWriteChallenge P idx entry client wire replyMax) := by
  unfold armWriteChallenge
  refine returns_seq fun ok => returns_ite (fun _ => returns_pure trivial) fun _ => ?_
  cases wire with
  | none => exact grantWrite_fits
  | some kid =>
      refine returns_ite (fun _ => returns_pure trivial) fun _ => ?_
      refine returns_ite (fun _ => returns_pure trivial) fun _ => ?_
      refine returns_ite (fun _ => returns_pure trivial) fun _ => ?_
      refine returns_seq fun key => returns_ite (fun _ => returns_pure trivial) fun _ => ?_
      exact returns_seq fun role => returns_ite (fun _ => returns_pure trivial)
        fun _ => grantWrite_fits

/-- A Pass-2 frame is acknowledged without a body. -/
theorem verifyAndApplyWrite_fits :
    Returns (Fits replyMax) (verifyAndApplyWrite gcm P idx entry req) := by
  unfold verifyAndApplyWrite
  refine returns_seq fun slot => returns_ite (fun _ => returns_pure trivial) fun _ => ?_
  refine returns_seq fun fresh => returns_ite
    (fun _ => returns_seq fun _ => returns_pure trivial) fun _ => ?_
  refine returns_ite (fun _ => returns_seq fun _ => returns_pure trivial) fun _ => ?_
  refine returns_ite (fun _ => returns_seq fun _ => returns_pure trivial) fun _ => ?_
  refine returns_ite (fun _ => returns_seq fun _ => returns_pure trivial) fun _ => ?_
  refine returns_seq fun key => ?_
  cases key with
  | none => exact returns_seq fun _ => returns_pure trivial
  | some key =>
      refine returns_seq fun role => returns_ite
        (fun _ => returns_seq fun _ => returns_pure trivial) fun _ => ?_
      refine returns_seq fun out => ?_
      cases out with
      | none => exact returns_seq fun _ => returns_pure trivial
      | some plain =>
          refine returns_seq fun _ => returns_seq fun rc => returns_ite
            (fun _ => returns_seq fun _ => returns_pure trivial) fun _ => ?_
          refine returns_ite (fun _ => returns_seq fun _ => returns_seq fun _ =>
            returns_pure (Nat.zero_le _)) fun _ => ?_
          exact returns_seq fun _ => returns_pure (Nat.zero_le _)

/-- What `callSeal` puts out is as long as what went in. -/
theorem callSeal_length (c : AeadCall) (plain : List UInt8) :
    Returns (fun out => ∀ cipher tag, out = some (cipher, tag) → cipher.length = plain.length)
      (callSeal gcm c plain : SodM H (Option (List UInt8 × Tag))) :=
  fun _ _ _ hout => length_aeadSeal hout

/-- A poll is only answered when the reply of its entry fits. -/
theorem handleReadPoll_fits :
    Returns (Fits replyMax) (handleReadPoll gcm P idx entry client req replyMax) := by
  unfold handleReadPoll
  refine returns_seq fun slot => returns_ite (fun _ => returns_pure trivial) fun _ => ?_
  refine returns_ite (fun _ => returns_pure trivial) fun _ => ?_
  refine returns_seq fun fresh => returns_ite
    (fun _ => returns_seq fun _ => returns_pure trivial) fun _ => ?_
  refine returns_ite (fun _ => returns_pure trivial) fun _ => ?_
  refine returns_ite (fun _ => returns_pure trivial) fun hfits => ?_
  cases pollCheckCounter slot.counter (req.getD 0 0) with
  | error code =>
      exact returns_ite (fun _ => returns_seq fun _ => returns_pure trivial)
        fun _ => returns_pure trivial
  | ok expected =>
      refine returns_seq fun ok => returns_ite (fun _ => returns_pure trivial) fun _ => ?_
      refine returns_seq fun ok => returns_ite (fun _ => returns_pure trivial) fun _ => ?_
      refine returns_seq fun ⟨rc, plain⟩ => returns_ite (fun _ => returns_pure trivial) fun _ => ?_
      refine returns_ite (fun _ => returns_pure trivial) fun hfull => ?_
      refine returns_seq fun key => ?_
      cases key with
      | none => exact returns_pure trivial
      | some key =>
          refine returns_bind (callSeal_length _ _) fun out hout => ?_
          cases out with
          | none => exact returns_pure trivial
          | some out =>
              obtain ⟨cipher, tag⟩ := out
              refine returns_seq fun now => returns_seq fun _ => returns_pure ?_
              have hcipher := hout cipher tag rfl
              simp only [bne_iff_ne, ne_eq, not_not] at hfull
              rw [pollLen_eq] at hfits
              simp only [Fits, List.length_cons, List.length_append, length_toList]
              omega

theorem handleWritePoll_fits :
    Returns (Fits replyMax) (handleWritePoll gcm P idx entry client req) := by
  unfold handleWritePoll
  refine returns_seq fun slot => returns_ite (fun _ => returns_pure trivial) fun _ => ?_
  refine returns_ite (fun _ => returns_pure trivial) fun _ => ?_
  refine returns_seq fun fresh => returns_ite
    (fun _ => returns_seq fun _ => returns_pure trivial) fun _ => ?_
  refine returns_ite (fun _ => returns_pure trivial) fun _ => ?_
  cases pollCheckCounter slot.counter (req.getD 0 0) with
  | error code =>
      exact returns_ite (fun _ => returns_seq fun _ => returns_pure trivial)
        fun _ => returns_pure trivial
  | ok expected =>
      refine returns_seq fun ok => returns_ite (fun _ => returns_pure trivial) fun _ => ?_
      refine returns_seq fun key => ?_
      cases key with
      | none => exact returns_pure trivial
      | some key =>
          refine returns_seq fun out => ?_
          cases out with
          | none => exact returns_pure trivial
          | some plain =>
              refine returns_seq fun rc => returns_ite (fun _ => returns_pure trivial) fun _ => ?_
              exact returns_seq fun _ => returns_seq fun _ => returns_pure (Nat.zero_le _)

theorem dispatchWrite_fits :
    Returns (Fits replyMax) (dispatchWrite gcm P idx entry client req replyMax) := by
  unfold dispatchWrite
  refine returns_ite (fun _ => ?_) fun _ => returns_pure trivial
  exact returns_ite (fun _ => armWriteChallenge_fits) fun _ =>
    returns_ite (fun _ => armWriteChallenge_fits) fun _ => verifyAndApplyWrite_fits

theorem dispatchRead_fits :
    Returns (Fits replyMax) (dispatchRead gcm P idx entry client req replyMax) := by
  unfold dispatchRead
  refine returns_ite (fun _ => ?_) fun _ => dispatchWrite_fits
  refine returns_ite (fun _ => ?_) fun _ => ?_
  · exact returns_bind armReadResponse_fits fun r hr => returns_pure hr
  · refine returns_ite (fun _ => ?_) fun _ => ?_
    · refine returns_bind fetchReadResponse_fits fun r hr => ?_
      cases r with
      | none => exact dispatchWrite_fits
      | some result => exact returns_pure (hr result rfl)
    · exact returns_ite (fun _ => returns_pure trivial) fun _ => dispatchWrite_fits

/-- **A reply of the secure OD fits the buffer it is given.** -/
theorem sodDispatch_fits (gcm : Gcm) (P : Ports H) (client : UInt16) (d : UInt32)
    (req : List UInt8) (replyMax : Nat) :
    Returns (Fits replyMax) (sodDispatch gcm P client d req replyMax) := by
  intro w
  unfold sodDispatch
  split
  · trivial
  · simp only
    split
    · exact handleReadPoll_fits w
    · split
      · exact handleWritePoll_fits w
      · exact dispatchRead_fits w

end SecureOd

/-! ## The reply of a tier -/

/-- The most bytes a reply body may have: what the transport below can park. -/
abbrev replyBodyMax : Nat := 256

/-- A success carries at most `replyBodyMax` bytes, an abort none. -/
structure Sized (status : Abort) (body : List UInt8) : Prop where
  success : status = abortNone → body.length ≤ replyBodyMax
  abort : status ≠ abortNone → body = []

theorem sized_empty (status : Abort) : Sized status [] := ⟨fun _ => Nat.zero_le _, fun _ => rfl⟩

theorem sized_ok {body : List UInt8} (h : body.length ≤ replyBodyMax) : Sized abortNone body :=
  ⟨fun _ => h, fun hne => absurd rfl hne⟩

/-- A tier either passes the request on untouched, or sends one sized reply for it. -/
def Replied (client : UInt16) (dataId : UInt32) (w : DevWorld E) (handled : Bool)
    (w' : DevWorld E) : Prop :=
  if handled then ∃ status body, w'.sent = w.sent ++ [⟨client, dataId, status, body⟩] ∧
    Sized status body
  else w' = w

section Tiers

variable {client : UInt16} {dataId : UInt32} {req : List UInt8} {w : DevWorld E}

theorem replied_passed : Replied client dataId w false w := rfl

theorem replied_sent {w' : DevWorld E} {status : Abort} {body : List UInt8}
    (hsent : w'.sent = w.sent ++ [⟨client, dataId, status, body⟩]) (h : Sized status body) :
    Replied client dataId w true w' := ⟨status, body, hsent, h⟩

theorem replied_empty {w' : DevWorld E} {status : Abort}
    (hsent : w'.sent = w.sent ++ [⟨client, dataId, status, []⟩]) :
    Replied client dataId w true w' := replied_sent hsent (sized_empty status)

theorem replied_ok {w' : DevWorld E} {body : List UInt8}
    (hsent : w'.sent = w.sent ++ [⟨client, dataId, abortNone, body⟩])
    (h : body.length ≤ replyBodyMax) : Replied client dataId w true w' :=
  replied_sent hsent (sized_ok h)

/-- No sub-entry of the descriptors is longer than four bytes. -/
theorem length_descriptor_le (d : Device E) (sub : UInt8) :
    (statusSub d sub).length ≤ 4 ∧ (capsSub d sub).length ≤ 4 := by
  constructor
  · unfold statusSub
    split <;> simp [putU32le]
  · unfold capsSub
    split <;> simp [putU32le, putU16le]

theorem tryServeDescriptor_replied :
    wp (tryServeDescriptor client dataId req) (Replied client dataId w) w := by
  unfold tryServeDescriptor
  simp only [wp_ite, wp_bind, wp_pure, wp_getDevice, wp_emit]
  refine ⟨fun _ => replied_passed, fun _ => ⟨fun _ => replied_ok rfl ?_, fun _ =>
    replied_empty rfl⟩⟩
  have hdesc : ∀ b : Bool, (if b = true then statusSub w.device (dataIdSub dataId)
      else capsSub w.device (dataIdSub dataId)).length ≤ 4 := fun b => by
    cases b with
    | true => exact (length_descriptor_le w.device (dataIdSub dataId)).1
    | false => exact (length_descriptor_le w.device (dataIdSub dataId)).2
  have hread : ∀ (b : Bool) (l : List UInt8), l.length ≤ 4 →
      (if b = true then l else []).length ≤ replyBodyMax := fun b l hl => by
    cases b with
    | true => exact Nat.le_trans hl (by decide)
    | false => exact Nat.zero_le _
  exact hread _ _ (hdesc _)

/-- The constant entries loaded at boot are short. -/
def ConstShort (d : Device E) : Prop := ∀ e ∈ d.constOd, e.data.length ≤ constOdMaxData

theorem tryServeConstOd_replied (hshort : ConstShort w.device) :
    wp (tryServeConstOd client dataId req) (Replied client dataId w) w := by
  unfold tryServeConstOd
  simp only [wp_ite, wp_bind, wp_pure, wp_getDevice]
  refine ⟨fun _ => replied_passed, fun _ => ?_⟩
  cases hget : constOdGet w.device.constOd (dataIdIndex dataId) (dataIdSub dataId) with
  | none => exact replied_passed
  | some value =>
      simp only [wp_ite, wp_emit]
      refine ⟨fun _ => replied_empty rfl, fun _ => replied_ok rfl ?_⟩
      obtain ⟨entry, hfind, rfl⟩ := Option.map_eq_some_iff.mp hget
      exact Nat.le_trans (hshort entry (List.mem_of_find?_eq_some hfind)) (by decide)

theorem securityTry_replied :
    wp (securityTry client dataId req) (Replied client dataId w) w := by
  unfold securityTry serveKeyIds serveSessionSalt
  simp only [wp_ite, wp_bind, wp_pure, wp_getDevice, wp_emit]
  refine ⟨fun _ => replied_passed, fun _ => ⟨fun _ => ⟨fun _ => replied_empty rfl, fun _ =>
    ⟨fun _ => replied_ok rfl (by simp), fun _ => ⟨fun _ => replied_ok rfl (by simp [putU32le, replyBodyMax]),
      fun _ => replied_empty rfl⟩⟩⟩, fun _ => ⟨fun _ => ⟨fun _ => ⟨fun _ => replied_empty rfl,
      fun _ => replied_ok rfl (by simp)⟩, fun _ => ⟨fun _ => ⟨fun _ => replied_empty rfl,
      fun _ => replied_ok rfl (by simp [replyBodyMax])⟩, fun _ => replied_empty rfl⟩⟩,
      fun _ => replied_passed⟩⟩⟩

theorem handoverTry_replied :
    wp (handoverTry ed client dataId req) (Replied client dataId w) w := by
  unfold handoverTry
  simp only [wp_ite, beq_iff_eq]
  refine ⟨?identity, fun _ => ⟨?ldevid, fun _ => ⟨?provision, fun _ => ⟨?voucher, fun _ =>
    ⟨?epoch, fun _ => replied_passed⟩⟩⟩⟩⟩
  case identity =>
    rintro rfl
    unfold handleIdentity
    simp only [wp_ite, wp_bind, wp_getDevice, wp_emit]
    refine ⟨fun _ => replied_empty rfl, fun hlen => ?_⟩
    have hreq : req.length = 16 := by simpa using hlen
    rw [wp_signIdevid (by simp [identityBlob, hreq])]
    exact ⟨_, replied_ok rfl (by simp [identityBlob, replyBodyMax]), rfl⟩
  case ldevid =>
    rintro rfl
    unfold handleLdevid
    simp only [wp_ite, wp_bind, wp_getDevice, wp_emit]
    refine ⟨fun _ => replied_empty rfl, fun _ => ?_⟩
    cases w.device.asym.generateLdevid ed with
    | none => exact replied_empty rfl
    | some generated =>
        simp only [wp_bind, wp_setDevice]
        rw [wp_signIdevid (by simp)]
        exact ⟨_, replied_ok rfl (by simp [replyBodyMax]), rfl⟩
  case provision =>
    rintro rfl
    unfold handleProvision
    simp only [wp_bind, wp_getDevice]
    cases w.device.asym.installProvisioning ed req with
    | none => exact replied_empty rfl
    | some asym => exact replied_empty rfl
  case voucher =>
    rintro rfl
    unfold handleVoucher
    simp only [wp_bind, wp_getDevice]
    cases w.device.asym.claim ed req with
    | none => exact replied_empty rfl
    | some asym => exact replied_empty rfl
  case epoch =>
    rintro rfl
    exact replied_ok rfl (by simp [putU32le, replyBodyMax])

/-! ## Signed accesses -/

theorem armChallenge_replied :
    wp (armChallenge plat client dataId) (Replied client dataId w) w := by
  unfold armChallenge
  simp only [wp_bind, wp_portNonce]
  rintro (_ | nonce) env -
  · exact replied_empty rfl
  · exact replied_ok rfl (by simp [replyBodyMax])

/-- `verify_signed` sends nothing. -/
theorem verifySigned_silent {challengeId bindId : UInt32} {role : UInt8}
    {clientNonce value : List UInt8} {sig : Signature} :
    wp (verifySigned ed deviceId client challengeId bindId role clientNonce value sig)
      (fun _ w' => w'.sent = w.sent) w := by
  unfold verifySigned
  simp only [wp_ite, wp_bind, wp_pure, wp_getDevice]
  refine ⟨fun _ => trivial, fun _ => ?_⟩
  cases w.device.asym.getPeer rpkWritePeerSlot with
  | none => rfl
  | some peer =>
      simp only [wp_ite, wp_bind, wp_pure, wp_disarm, wp_record]
      exact ⟨fun _ => trivial, fun _ => ⟨fun _ => trivial, fun _ => trivial⟩⟩

theorem handleGenericRead_replied :
    wp (handleGenericRead ed plat deviceId client req)
      (Replied client rpkGenericReadId w) w := by
  unfold handleGenericRead
  simp only [wp_ite, wp_bind, wp_getDevice, wp_emit, wp_hookReadBefore, wp_disarm, wp_record]
  refine ⟨fun _ => armChallenge_replied, fun _ => ⟨fun _ => replied_empty rfl, fun _ =>
    ⟨fun _ => replied_empty rfl, fun _ => ?_⟩⟩⟩
  intro rc val host _
  refine ⟨fun _ => replied_empty rfl, fun _ => ⟨fun _ => replied_empty rfl, fun hval =>
    ⟨fun _ => replied_empty rfl, fun _ => replied_ok rfl ?_⟩⟩⟩
  have hlen : val.length ≤ 16 := Nat.le_of_not_lt hval
  simp only [List.length_append, length_toList]
  exact Nat.le_trans (Nat.add_le_add_right hlen _) (by decide)

theorem handleGenericWrite_replied :
    wp (handleGenericWrite ed plat deviceId client req)
      (Replied client rpkGenericWriteId w) w := by
  unfold handleGenericWrite
  simp only [wp_ite, wp_bind, wp_emit]
  refine ⟨fun _ => armChallenge_replied, fun _ => ⟨fun _ => replied_empty rfl, fun _ =>
    ⟨fun _ => replied_empty rfl, fun _ => ?_⟩⟩⟩
  refine wp_mono verifySigned_silent ?_
  intro st w' hsilent
  simp only [wp_ite, wp_bind, wp_emit, wp_hookWriteAfter]
  exact ⟨fun _ => replied_empty (by rw [← hsilent]), fun _ rc keys host _ =>
    replied_empty (by rw [← hsilent])⟩

theorem handleCommand_replied :
    wp (handleCommand ed plat deviceId client req) (Replied client rpkFunccmdId w) w := by
  unfold handleCommand
  simp only [wp_ite, wp_bind, wp_emit]
  refine ⟨fun _ => armChallenge_replied, fun _ => ⟨fun _ => replied_empty rfl, fun _ => ?_⟩⟩
  refine wp_mono verifySigned_silent ?_
  intro st w' hsilent
  simp only [wp_ite, wp_bind, wp_emit, wp_record, wp_getDevice, wp_setDevice]
  exact ⟨fun _ => replied_empty (by rw [← hsilent]), fun _ =>
    ⟨fun _ => replied_empty (by rw [← hsilent]), fun _ => replied_empty (by rw [← hsilent])⟩⟩

theorem rpkTry_replied :
    wp (rpkTry ed plat deviceId client dataId req) (Replied client dataId w) w := by
  unfold rpkTry handlePubkeys handlePktypes
  simp only [wp_ite, wp_bind, wp_pure, wp_getDevice, wp_emit, beq_iff_eq]
  refine ⟨fun _ => ⟨fun _ => replied_empty rfl, fun _ => ⟨fun _ => replied_ok rfl (by simp [replyBodyMax]),
    fun _ => ⟨fun _ => replied_ok rfl (by simp [replyBodyMax]), fun _ =>
    ⟨fun _ => replied_ok rfl (by simp [replyBodyMax]), fun _ => replied_empty rfl⟩⟩⟩⟩, fun _ =>
    ⟨fun _ => ⟨fun _ => replied_empty rfl, fun _ => ⟨fun _ => replied_ok rfl (by simp [replyBodyMax]),
    fun _ => ⟨fun _ => replied_ok rfl (by simp [putU32le, replyBodyMax]), fun _ =>
    replied_empty rfl⟩⟩⟩, fun _ => ⟨?read, fun _ => ⟨?write, fun _ => ⟨?command, fun _ =>
    replied_passed⟩⟩⟩⟩⟩
  case read => rintro rfl; exact handleGenericRead_replied
  case write => rintro rfl; exact handleGenericWrite_replied
  case command => rintro rfl; exact handleCommand_replied

/-- The last two: the secure OD answers what it knows, and the dispatcher the rest. -/
theorem sodTier_replied :
    wp (sodTier gcm plat deviceId client dataId req)
      (fun handled w' => if handled then ∃ status body,
          w'.sent = w.sent ++ [⟨client, dataId, status, body⟩] ∧ Sized status body
        else w'.sent = w.sent) w := by
  have hfits := sodDispatch_fits gcm (demoPorts deviceId plat.toPlatform) client dataId req
    dispatchReplyMax ⟨w.device.server.sod, w.device.server.host, []⟩
  unfold sodTier
  simp only [wp_bind, wp_getDevice, wp_setDevice]
  have hresult : (exchange gcm (demoPorts deviceId plat.toPlatform) w.device.server client dataId
      req dispatchReplyMax).result = (sodDispatch gcm (demoPorts deviceId plat.toPlatform) client
      dataId req dispatchReplyMax ⟨w.device.server.sod, w.device.server.host, []⟩).1 := rfl
  rw [hresult]
  generalize (sodDispatch gcm (demoPorts deviceId plat.toPlatform) client dataId req
    dispatchReplyMax ⟨w.device.server.sod, w.device.server.host, []⟩).1 = r at hfits
  cases r with
  | ok reply => exact ⟨_, _, rfl, sized_ok (Nat.le_trans hfits (by decide))⟩
  | defer => exact ⟨_, _, rfl, sized_empty _⟩
  | abort code => exact ⟨_, _, rfl, sized_empty _⟩
  | notHandled => rfl

/-- A tier that passes leaves the rest to the next; one that replies ends the request. -/
theorem replied_then {m : DevM E Bool} {rest : DevM E Unit}
    (hm : wp m (Replied client dataId w) w)
    (hrest : wp rest (fun _ w' => ∃ status body,
      w'.sent = w.sent ++ [⟨client, dataId, status, body⟩] ∧ Sized status body) w) :
    wp (m >>= fun handled => if handled then pure () else rest) (fun _ w' => ∃ status body,
      w'.sent = w.sent ++ [⟨client, dataId, status, body⟩] ∧ Sized status body) w := by
  simp only [wp_bind]
  refine wp_mono hm ?_
  intro handled w' hreplied
  cases handled with
  | true => exact hreplied
  | false =>
      obtain rfl : w' = w := hreplied
      exact hrest

/-- **One dispatch, one sized reply.** -/
theorem dispatchRequest_replied (hshort : ConstShort w.device) :
    wp (dispatchRequest gcm ed plat deviceId client dataId req) (fun _ w' => ∃ status body,
      w'.sent = w.sent ++ [⟨client, dataId, status, body⟩] ∧ Sized status body) w := by
  unfold dispatchRequest
  refine replied_then tryServeDescriptor_replied ?_
  refine replied_then (tryServeConstOd_replied hshort) ?_
  refine replied_then securityTry_replied ?_
  refine replied_then handoverTry_replied ?_
  refine replied_then rpkTry_replied ?_
  simp only [wp_bind]
  refine wp_mono sodTier_replied ?_
  intro handled w' h
  cases handled with
  | true => exact h
  | false =>
      have hsent : w'.sent = w.sent := h
      exact ⟨abortNoObject, [], by rw [← hsent]; rfl, sized_empty _⟩

end Tiers

/-! ## Runs -/

/-- The constant entries a device boots with are short. -/
theorem boot_constShort {cfg : BootConfig} {env : E} {d : Device E}
    (hstart : odInit ed cfg env = some d) : ConstShort d := by
  obtain ⟨constOd, registry, keys, hload, -, -, rfl⟩ := odInit_cases hstart
  intro e he
  unfold loadOdFile at hload
  split at hload
  · cases hload
  · rename_i hlong
    split at hload
    · cases hload
    · cases hload
      simp only [List.any_eq_true, decide_eq_true_eq, not_exists, not_and, Nat.not_lt] at hlong
      exact hlong e he

/-- No turn touches the constant entries. -/
theorem turn_constOd {client : UInt16} {dataId : UInt32} {req : List UInt8} {d d' : Device E}
    {sent : List Reply} {calls : List Call}
    (h : Turn gcm ed plat deviceId client dataId req d sent calls d') : d'.constOd = d.constOd := by
  cases h <;> rfl

theorem constShort_run {cfg : BootConfig} {env : E} {d : Device E}
    (hstart : odInit ed cfg env = some d) (inputs : List (NodeInput E)) :
    ConstShort (nodeAfter gcm ed plat deviceId d inputs).device := by
  have hboot : ConstShort d := boot_constShort hstart
  refine run_induction (P := fun _ _ => True) (I := fun n : Node E => ConstShort n.device)
    (node_invariant (C := fun _ _ => True) ?_ ?_) hboot
    (along_of_forall (fun _ _ => trivial) _ _)
  · intro n client dataId req sent calls device h _ hturn
    show ∀ e ∈ device.constOd, e.data.length ≤ constOdMaxData
    rw [turn_constOd hturn]
    exact h
  · intro n env h
    exact h

/-! ## The headline -/

/-- **One reply to every request**, in every state a device can reach from its boot. -/
theorem one_reply (gcm : Gcm) (ed : Ed25519) (plat : DevicePlatform E) (deviceId : UInt16)
    (cfg : BootConfig) (env : E) (d : Device E) (hstart : odInit ed cfg env = some d)
    (inputs : List (NodeInput E)) (client : UInt16) (dataId : UInt32) (req : List UInt8) :
    ∃ status body, (serveRequest gcm ed plat deviceId
        (nodeAfter gcm ed plat deviceId d inputs).device client dataId req).sent
          = [⟨client, dataId, status, body⟩] ∧
      (status = abortNone → body.length ≤ replyBodyMax) ∧ (status ≠ abortNone → body = []) := by
  have hshort : ConstShort (nodeAfter gcm ed plat deviceId d inputs).device :=
    constShort_run hstart inputs
  have hreplied : wp (dispatchRequest gcm ed plat deviceId client dataId req) _
      ⟨(nodeAfter gcm ed plat deviceId d inputs).device, [], []⟩ := dispatchRequest_replied hshort
  obtain ⟨status, body, hsent, hsized⟩ := hreplied
  exact ⟨status, body, hsent, hsized.success, hsized.abort⟩

/-! ## A worked run -/

/-- `one_reply` for an object no tier knows, on the bare demo device after a claim: one
    abort. -/
theorem sampleUnknown_replied :
    ∃ status body, (serveRequest sampleGcm sampleEd samplePlatform sampleNodeId
        (nodeAfter sampleGcm sampleEd samplePlatform sampleNodeId sampleBare
          [.request 20 hoVoucherId (sampleVoucher 5)]).device 20 0x21000000 [1]).sent
          = [⟨20, 0x21000000, status, body⟩] ∧
      (status = abortNone → body.length ≤ replyBodyMax) ∧ (status ≠ abortNone → body = []) :=
  one_reply sampleGcm sampleEd samplePlatform sampleNodeId {} { nonces := [sampleNonce 1] }
    sampleBare (Option.some_get _).symm [.request 20 hoVoucherId (sampleVoucher 5)] 20
    0x21000000 [1]

end SofaReplies
