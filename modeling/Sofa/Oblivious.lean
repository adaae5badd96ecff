import Sofa.Node
import Sofa.Lib.Twin

/-! # What the values behind the entries do not influence

    The hooks keep the values of the demo entries in three buffers.  Here the tiers in front
    of the secure object dictionary are run twice, once with other values in the buffers:
    they end alike, except for a signed access whose target is one of the entries.

    * **`front_oblivious`**: a request does not see the values, or the secure object
      dictionary answers it. -/

namespace SofaOblivious

open ByteBlock SofaConfig SofaAead SofaOd SofaServer SofaDemo SofaAsym SofaDevice SofaTurn SofaNode
  TwoRuns

variable {E : Type} {gcm : Gcm} {ed : Ed25519} {plat : DevicePlatform E} {deviceId : UInt16}

/-! ## The values -/

/-- The buffers behind 2020h and 2010h, C018h, and 2016h. -/
structure Values where
  value : Block 4
  secureRo : Block 16
  secureWo : Block 16

/-- Those of a host. -/
def valuesOf (h : DemoHost E) : Values := ⟨h.value, h.secureRo, h.secureWo⟩

/-- Other values in their place. -/
def onHost (μ : Values → Values) (h : DemoHost E) : DemoHost E :=
  { h with
    value := (μ (valuesOf h)).value
    secureRo := (μ (valuesOf h)).secureRo
    secureWo := (μ (valuesOf h)).secureWo }

def onDevice (μ : Values → Values) (d : Device E) : Device E :=
  d.setHost (onHost μ d.server.host)

def onWorld (μ : Values → Values) (w : DevWorld E) : DevWorld E :=
  { w with device := onDevice μ w.device }

variable {μ : Values → Values}

@[simp] theorem onDevice_asym (d : Device E) : (onDevice μ d).asym = d.asym := rfl
@[simp] theorem onDevice_challenge (d : Device E) : (onDevice μ d).challenge = d.challenge := rfl
@[simp] theorem onDevice_constOd (d : Device E) : (onDevice μ d).constOd = d.constOd := rfl
@[simp] theorem onDevice_sod (d : Device E) : (onDevice μ d).server.sod = d.server.sod := rfl
@[simp] theorem onDevice_stage (d : Device E) :
    (onDevice μ d).server.host.stage = d.server.host.stage := rfl
@[simp] theorem onDevice_env (d : Device E) :
    (onDevice μ d).server.host.env = d.server.host.env := rfl

/-! ## The primitives, run twice -/

section Primitives

variable {w : DevWorld E} {β : Type}

/-- The two runs read a device and its image. -/
theorem twin_getDevice {f f' : Device E → DevM E β}
    (h : Twin (onWorld μ) (f w.device) (f' (onDevice μ w.device)) w) :
    Twin (onWorld μ) (getDevice >>= f) (getDevice >>= f') w := h

theorem twin_setDevice {d d' : Device E} (h : d' = onDevice μ d) :
    Twin (onWorld μ) (setDevice d) (setDevice d') w := by
  subst h
  rfl

theorem twin_record {c : Call} : Twin (onWorld μ) (record c) (record c) w := rfl

theorem twin_emit {client : UInt16} {dataId : UInt32} {status : Abort} {body : List UInt8} :
    Twin (onWorld μ) (emit client dataId status body) (emit client dataId status body) w := rfl

theorem twin_disarm : Twin (onWorld μ) disarm disarm w := rfl

theorem twin_setChallenge {c : Challenge} :
    Twin (onWorld μ) (setChallenge c) (setChallenge c) w := rfl

theorem twin_portNonce : Twin (onWorld μ) (portNonce plat) (portNonce plat) w := rfl

end Primitives

/-! ## The tiers that only answer -/

section Tiers

variable {w : DevWorld E} {client : UInt16} {dataId : UInt32} {req : List UInt8}

theorem tryServeDescriptor_twin :
    Twin (onWorld μ) (tryServeDescriptor client dataId req) (tryServeDescriptor client dataId req)
      w := by
  unfold tryServeDescriptor
  refine twin_ite (fun _ => twin_pure _) fun _ => twin_getDevice ?_
  exact twin_ite (fun _ => twin_emit) fun _ => twin_emit

theorem tryServeConstOd_twin :
    Twin (onWorld μ) (tryServeConstOd client dataId req) (tryServeConstOd client dataId req)
      w := by
  unfold tryServeConstOd
  refine twin_ite (fun _ => twin_pure _) fun _ => twin_getDevice ?_
  simp only [onDevice_constOd]
  cases constOdGet w.device.constOd (dataIdIndex dataId) (dataIdSub dataId) with
  | none => exact twin_pure _
  | some value => exact twin_ite (fun _ => twin_emit) fun _ => twin_emit

theorem securityTry_twin :
    Twin (onWorld μ) (securityTry client dataId req) (securityTry client dataId req) w := by
  unfold securityTry serveKeyIds serveSessionSalt
  refine twin_ite (fun _ => twin_pure _) fun _ => ?_
  refine twin_ite (fun _ => twin_getDevice ?_) fun _ => ?_
  · refine twin_ite (fun _ => twin_emit) fun _ => twin_ite (fun _ => twin_emit) fun _ => ?_
    exact twin_ite (fun _ => twin_emit) fun _ => twin_emit
  · refine twin_ite (fun _ => ?_) fun _ => twin_pure _
    refine twin_ite (fun _ => twin_ite (fun _ => twin_emit) fun _ => twin_emit) fun _ => ?_
    refine twin_ite (fun _ => ?_) fun _ => twin_emit
    exact twin_ite (fun _ => twin_emit) fun _ => twin_emit

/-! ## Handover -/

theorem signIdevid_twin {role : UInt8} {body : List UInt8} :
    Twin (onWorld μ) (signIdevid ed role body) (signIdevid ed role body) w := by
  unfold signIdevid
  refine twin_getDevice (twin_ite (fun _ => twin_pure _) fun _ => ?_)
  exact twin_bind twin_record (twin_pure _)

theorem handleIdentity_twin :
    Twin (onWorld μ) (handleIdentity ed client req) (handleIdentity ed client req) w := by
  unfold handleIdentity
  refine twin_ite (fun _ => twin_emit) fun _ => twin_getDevice ?_
  refine twin_bind signIdevid_twin ?_
  split
  · exact twin_emit
  · exact twin_emit

theorem handleLdevid_twin :
    Twin (onWorld μ) (handleLdevid ed client req) (handleLdevid ed client req) w := by
  unfold handleLdevid
  refine twin_ite (fun _ => twin_emit) fun _ => twin_getDevice ?_
  simp only [onDevice_asym]
  cases w.device.asym.generateLdevid ed with
  | none => exact twin_emit
  | some generated =>
      refine twin_bind (twin_setDevice rfl) (twin_bind signIdevid_twin ?_)
      split
      · exact twin_emit
      · exact twin_emit

theorem handleProvision_twin :
    Twin (onWorld μ) (handleProvision ed client req) (handleProvision ed client req) w := by
  unfold handleProvision
  refine twin_getDevice ?_
  simp only [onDevice_asym]
  cases w.device.asym.installProvisioning ed req with
  | none => exact twin_emit
  | some asym => exact twin_bind (twin_setDevice rfl) twin_emit

theorem handleVoucher_twin :
    Twin (onWorld μ) (handleVoucher ed client req) (handleVoucher ed client req) w := by
  unfold handleVoucher
  refine twin_getDevice ?_
  simp only [onDevice_asym]
  cases w.device.asym.claim ed req with
  | none => exact twin_bind twin_record twin_emit
  | some asym => exact twin_bind twin_record (twin_bind (twin_setDevice rfl) twin_emit)

theorem handoverTry_twin :
    Twin (onWorld μ) (handoverTry ed client dataId req) (handoverTry ed client dataId req) w := by
  unfold handoverTry
  refine twin_ite (fun _ => handleIdentity_twin) fun _ => ?_
  refine twin_ite (fun _ => handleLdevid_twin) fun _ => ?_
  refine twin_ite (fun _ => handleProvision_twin) fun _ => ?_
  refine twin_ite (fun _ => handleVoucher_twin) fun _ => ?_
  exact twin_ite (fun _ => twin_getDevice twin_emit) fun _ => twin_pure _

/-! ## Signed accesses -/

theorem armChallenge_twin {object : UInt32} :
    Twin (onWorld μ) (armChallenge plat client object) (armChallenge plat client object) w := by
  unfold armChallenge
  refine twin_bind twin_portNonce ?_
  split
  · exact twin_bind twin_setChallenge (twin_bind twin_record twin_emit)
  · exact twin_emit

/-- A read of a target whose value is not among those changed. -/
theorem hookReadBefore_twin {target : UInt32} (hrd : target ≠ rdDataId)
    (hsrd : target = srdDataId → (μ (valuesOf w.device.server.host)).secureRo
      = w.device.server.host.secureRo) :
    Twin (onWorld μ) (hookReadBefore target) (hookReadBefore target) w := by
  have hhook : demoReadBefore target (onHost μ w.device.server.host)
      = ((demoReadBefore target w.device.server.host).1,
        onHost μ (demoReadBefore target w.device.server.host).2) := by
    unfold demoReadBefore
    by_cases hs : target = srdDataId
    · rw [if_pos hs, if_pos hs]
      show ((abortNone, toList (μ (valuesOf w.device.server.host)).secureRo), _) = _
      rw [hsrd hs]
    · rw [if_neg hs, if_neg hs, if_neg hrd, if_neg hrd]
      split <;> rfl
  have hrun : ∀ d, hookReadBefore target (⟨d, w.sent, w.calls⟩ : DevWorld E)
      = ((demoReadBefore target d.server.host).1, ⟨d.setHost (demoReadBefore target
          d.server.host).2, w.sent, w.calls ++ [.readBefore target (demoReadBefore target
          d.server.host).1.1 (demoReadBefore target d.server.host).1.2]⟩) := fun _ => rfl
  have himage : (onDevice μ w.device).server.host = onHost μ w.device.server.host := rfl
  show hookReadBefore target ⟨onDevice μ w.device, w.sent, w.calls⟩ = _
  rw [hrun, himage, hhook]
  rfl

/-- A write that none of the changed buffers takes. -/
theorem hookWriteAfter_twin {target : UInt32} {value : List UInt8}
    (hswr : target = swrDataId → value.length ≠ entrySecureLen)
    (hwr : target = wrDataId → value.length ≠ entryValueLen) :
    Twin (onWorld μ) (hookWriteAfter target value) (hookWriteAfter target value) w := by
  have hhook : ∀ kid keys, demoWriteAfter target value kid keys (onHost μ w.device.server.host)
      = ((demoWriteAfter target value kid keys w.device.server.host).1,
        (demoWriteAfter target value kid keys w.device.server.host).2.1,
        onHost μ (demoWriteAfter target value kid keys w.device.server.host).2.2) := by
    intro kid keys
    unfold demoWriteAfter
    by_cases hs : target = swrDataId
    · rw [if_pos hs, if_pos hs, if_pos (hswr hs), if_pos (hswr hs)]
    · rw [if_neg hs, if_neg hs]
      by_cases hw : target = wrDataId
      · rw [if_pos hw, if_pos hw, if_pos (hwr hw), if_pos (hwr hw)]
      · rw [if_neg hw, if_neg hw]
        by_cases hk : target = keySetDataId
        · rw [if_pos hk, if_pos hk]
          rfl
        · rw [if_neg hk, if_neg hk]
          split
          · split <;> rfl
          · rfl
  have hrun : ∀ d, hookWriteAfter target value (⟨d, w.sent, w.calls⟩ : DevWorld E)
      = ((demoWriteAfter target value d.server.sod.lastWriteKid d.server.sod.keys
          d.server.host).1, ⟨(d.setKeys (demoWriteAfter target value d.server.sod.lastWriteKid
          d.server.sod.keys d.server.host).2.1).setHost (demoWriteAfter target value
          d.server.sod.lastWriteKid d.server.sod.keys d.server.host).2.2, w.sent,
          w.calls ++ [.writeAfter target value (demoWriteAfter target value
          d.server.sod.lastWriteKid d.server.sod.keys d.server.host).1]⟩) := fun _ => rfl
  have himage : (onDevice μ w.device).server.host = onHost μ w.device.server.host := rfl
  show hookWriteAfter target value ⟨onDevice μ w.device, w.sent, w.calls⟩ = _
  rw [hrun, himage, onDevice_sod, hhook]
  rfl

/-- What a signed read must not reach. -/
def ReadAvoids (μ : Values → Values) (d : Device E) (client : UInt16) (req : List UInt8) : Prop :=
  HeldBy d.challenge client rpkGenericReadId → req.length = 3 + rpkNonceLen →
    targetId req ≠ rdDataId ∧ (targetId req = srdDataId →
      (μ (valuesOf d.server.host)).secureRo = d.server.host.secureRo)

/-- And a signed write. -/
def WriteAvoids (ed : Ed25519) (deviceId : UInt16) (d : Device E) (client : UInt16)
    (req : List UInt8) : Prop :=
  ∀ peer, Attempt d client rpkGenericWriteId req peer →
    ed.verify peer (verifyTranscript d deviceId client rpkGenericWriteId req)
      (accessOf rpkGenericWriteId req).sig = true →
    (targetId req = swrDataId → (writeAccess req).value.length ≠ entrySecureLen) ∧
    (targetId req = wrDataId → (writeAccess req).value.length ≠ entryValueLen)

theorem handleGenericRead_twin (havoids : ReadAvoids μ w.device client req) :
    Twin (onWorld μ) (handleGenericRead ed plat deviceId client req)
      (handleGenericRead ed plat deviceId client req) w := by
  unfold handleGenericRead
  refine twin_ite (fun _ => armChallenge_twin) fun _ => ?_
  refine twin_ite (fun _ => twin_emit) fun hlen => twin_getDevice ?_
  simp only [onDevice_challenge, onDevice_asym]
  refine twin_ite (fun _ => twin_emit) fun h => ?_
  have held : HeldBy w.device.challenge client rpkGenericReadId := by
    simp only [Bool.or_eq_true, Bool.not_eq_true', bne_iff_ne, ne_eq, not_or, not_not,
      Bool.not_eq_false] at h
    exact ⟨h.1.1, h.1.2, h.2⟩
  obtain ⟨hrd, hsrd⟩ := havoids held (by simpa using hlen)
  refine twin_bind (hookReadBefore_twin hrd hsrd) ?_
  refine twin_ite (fun _ => twin_bind twin_disarm twin_emit) fun _ => ?_
  refine twin_ite (fun _ => twin_bind twin_disarm twin_emit) fun _ => ?_
  refine twin_bind twin_disarm (twin_ite (fun _ => twin_emit) fun _ => ?_)
  exact twin_bind twin_record twin_emit

theorem verifySigned_twin {object bind : UInt32} {role : UInt8} {clientNonce value : List UInt8}
    {sig : Signature} :
    Twin (onWorld μ) (verifySigned ed deviceId client object bind role clientNonce value sig)
      (verifySigned ed deviceId client object bind role clientNonce value sig) w := by
  unfold verifySigned
  refine twin_getDevice ?_
  simp only [onDevice_challenge, onDevice_asym]
  refine twin_ite (fun _ => twin_pure _) fun _ => ?_
  cases w.device.asym.getPeer rpkWritePeerSlot with
  | none => exact twin_bind twin_disarm (twin_pure _)
  | some peer =>
      refine twin_bind twin_disarm (twin_ite (fun _ => twin_pure _) fun _ => ?_)
      exact twin_bind twin_record (twin_ite (fun _ => twin_pure _) fun _ => twin_pure _)

theorem handleGenericWrite_twin (havoids : WriteAvoids ed deviceId w.device client req) :
    Twin (onWorld μ) (handleGenericWrite ed plat deviceId client req)
      (handleGenericWrite ed plat deviceId client req) w := by
  unfold handleGenericWrite
  refine twin_ite (fun _ => armChallenge_twin) fun _ => ?_
  refine twin_ite (fun _ => twin_emit) fun hmin => twin_ite (fun _ => twin_emit) fun hmax => ?_
  have body : Pass2Body rpkGenericWriteId req := .inl ⟨rfl, not_lt.mp hmin, not_lt.mp hmax⟩
  -- only a signature that verifies leads to the hook
  have hverified : StateWp.wp (verifySigned ed deviceId client rpkGenericWriteId
      (accessOf rpkGenericWriteId req).bind (accessOf rpkGenericWriteId req).role
      (accessOf rpkGenericWriteId req).clientNonce (accessOf rpkGenericWriteId req).value
      (accessOf rpkGenericWriteId req).sig)
      (fun st _ => st = abortNone →
        (targetId req = swrDataId → (writeAccess req).value.length ≠ entrySecureLen) ∧
        (targetId req = wrDataId → (writeAccess req).value.length ≠ entryValueLen)) w := by
    refine wp_verifySigned body (fun _ h => absurd h (by decide))
      (fun _ _ h => absurd h (by decide)) fun peer attempt hgood => ?_
    refine havoids peer attempt (by_contra fun hbad => ?_)
    rw [if_neg hbad] at hgood
    exact absurd hgood (by decide)
  refine twin_bind verifySigned_twin (twin_ite (fun _ => twin_emit) fun hst => ?_)
  obtain ⟨hswr, hwr⟩ := hverified (not_not.mp fun h => hst (bne_iff_ne.mpr h))
  exact twin_bind (hookWriteAfter_twin hswr hwr) twin_emit

theorem handleCommand_twin :
    Twin (onWorld μ) (handleCommand ed plat deviceId client req)
      (handleCommand ed plat deviceId client req) w := by
  unfold handleCommand
  refine twin_ite (fun _ => armChallenge_twin) fun _ => twin_ite (fun _ => twin_emit) fun _ => ?_
  refine twin_bind verifySigned_twin (twin_ite (fun _ => twin_emit) fun _ => ?_)
  refine twin_bind twin_record (twin_ite (fun _ => twin_getDevice ?_) fun _ => twin_emit)
  exact twin_bind (twin_setDevice rfl) (twin_bind twin_record twin_emit)

theorem rpkTry_twin (hread : dataId = rpkGenericReadId → ReadAvoids μ w.device client req)
    (hwrite : dataId = rpkGenericWriteId → WriteAvoids ed deviceId w.device client req) :
    Twin (onWorld μ) (rpkTry ed plat deviceId client dataId req)
      (rpkTry ed plat deviceId client dataId req) w := by
  unfold rpkTry handlePubkeys handlePktypes
  refine twin_ite (fun _ => twin_getDevice ?_) fun _ => twin_ite (fun _ => ?_) fun _ => ?_
  · simp only [onDevice_asym]
    refine twin_ite (fun _ => twin_emit) fun _ => twin_ite (fun _ => twin_emit) fun _ => ?_
    refine twin_ite (fun _ => twin_emit) fun _ => twin_ite (fun _ => twin_emit) fun _ => twin_emit
  · refine twin_ite (fun _ => twin_emit) fun _ => twin_ite (fun _ => twin_emit) fun _ => ?_
    exact twin_ite (fun _ => twin_emit) fun _ => twin_emit
  · refine twin_ite (fun h => handleGenericRead_twin (hread (beq_iff_eq.mp h))) fun _ => ?_
    refine twin_ite (fun h => handleGenericWrite_twin (hwrite (beq_iff_eq.mp h))) fun _ => ?_
    exact twin_ite (fun _ => handleCommand_twin) fun _ => twin_pure _

end Tiers

/-! ## The dispatcher -/

section Dispatch

variable {w : DevWorld E} {d : Device E} {client : UInt16} {dataId : UInt32} {req : List UInt8}

/-- What is left of the dispatcher behind the tiers in front: the secure OD, or nobody. -/
def dispatchTail (gcm : Gcm) (plat : DevicePlatform E) (deviceId client : UInt16)
    (dataId : UInt32) (payload : List UInt8) : DevM E Unit := do
  if ← sodTier gcm plat deviceId client dataId payload then
    return
  let _ ← emit client dataId abortNoObject []

/-- A tier in front of the rest: the request ends in a run that is its own twin, or it is
    left to the tail. -/
theorem twin_front (gcm : Gcm) (ed : Ed25519) (plat : DevicePlatform E) (deviceId : UInt16)
    {among : (Values → Values) → Prop} {known : Prop} {tier : DevM E Bool}
    {rest tail : DevM E Unit} (htier : ∀ μ, among μ → Twin (onWorld μ) tier tier w)
    (hturn : StateWp.wp tier (TierTurn gcm ed plat deviceId client dataId req w) w)
    (hrest : (tier w).1 = false →
      (∀ μ, among μ → Twin (onWorld μ) rest rest w) ∨ known ∧ rest w = tail w) :
    (∀ μ, among μ → Twin (onWorld μ) (tier >>= fun handled => if handled then pure () else rest)
        (tier >>= fun handled => if handled then pure () else rest) w) ∨
      known ∧ (tier >>= fun handled => if handled then pure () else rest) w = tail w := by
  cases hhandled : (tier w).1 with
  | true =>
      refine .inl fun μ hμ => twin_bind (htier μ hμ) ?_
      rw [hhandled, if_pos rfl]
      exact twin_pure _
  | false =>
      have hpassed : (tier w).2 = w := by
        rw [StateWp.wp, hhandled] at hturn
        exact hturn
      rcases hrest hhandled with htwin | ⟨hknown, htail⟩
      · refine .inl fun μ hμ => twin_bind (htier μ hμ) ?_
        rw [hhandled, hpassed]
        exact htwin μ hμ
      · refine .inr ⟨hknown, ?_⟩
        show (if (tier w).1 = true then pure () else rest) (tier w).2 = tail w
        rw [hhandled, hpassed]
        exact htail

/-- The values may be changed: a value that no registered entry stands for stays. -/
def Behind (d : Device E) (μ : Values → Values) : Prop :=
  d.server.sod.registry.find srdDataId = none →
    (μ (valuesOf d.server.host)).secureRo = d.server.host.secureRo

/-- The reply that the outcome of the secure OD is sent on as. -/
def secureReply (client : UInt16) (dataId : UInt32) : SodResult → Reply
  | .ok reply => ⟨client, dataId, abortNone, reply⟩
  | .defer => ⟨client, dataId, abortNone, []⟩
  | .abort code => ⟨client, dataId, code, []⟩
  | .notHandled => ⟨client, dataId, abortNoObject, []⟩

theorem dispatchTail_run :
    dispatchTail gcm plat deviceId client dataId req w
      = ((), ⟨secureStep gcm plat deviceId client dataId req w.device,
          w.sent ++ [secureReply client dataId (exchange gcm (demoPorts deviceId plat.toPlatform)
            w.device.server client dataId req dispatchReplyMax).result], w.calls⟩) := by
  have hpost : StateWp.wp (dispatchTail gcm plat deviceId client dataId req)
      (fun _ w' => w' = ⟨secureStep gcm plat deviceId client dataId req w.device,
          w.sent ++ [secureReply client dataId (exchange gcm (demoPorts deviceId plat.toPlatform)
            w.device.server client dataId req dispatchReplyMax).result], w.calls⟩) w := by
    unfold dispatchTail sodTier
    simp only [StateWp.wp_bind, wp_getDevice, wp_setDevice]
    cases (exchange gcm (demoPorts deviceId plat.toPlatform) w.device.server client dataId req
      dispatchReplyMax).result <;> rfl
  exact Prod.ext rfl hpost

/-- An id that is not registered is refused, whatever the values. -/
theorem dispatchTail_twin (hnone : w.device.server.sod.registry.find dataId = none) :
    Twin (onWorld μ) (dispatchTail gcm plat deviceId client dataId req)
      (dispatchTail gcm plat deviceId client dataId req) w := by
  have hserve : ∀ s : Server (DemoHost E), s.sod.registry.find dataId = none →
      exchange gcm (demoPorts deviceId plat.toPlatform) s client dataId req dispatchReplyMax
          = ⟨client, dataId, req, .notHandled, []⟩ ∧
        step gcm (demoPorts deviceId plat.toPlatform) s (.request client dataId req
          dispatchReplyMax)
          = { s with history := s.history ++ [⟨client, dataId, req, .notHandled, []⟩] } := by
    intro s hs
    rcases request_cases gcm (demoPorts deviceId plat.toPlatform) s client dataId req
      dispatchReplyMax with ⟨-, hx, hstep⟩ | ⟨idx, entry, log, r, s', host, hf, -⟩
    · exact ⟨hx, hstep⟩
    · rw [hs] at hf
      cases hf
  have himage : (onWorld μ w).device.server.sod.registry.find dataId = none := hnone
  show dispatchTail gcm plat deviceId client dataId req (onWorld μ w) = _
  rw [dispatchTail_run, dispatchTail_run, (hserve _ hnone).1, (hserve _ himage).1, secureStep,
    secureStep, (hserve _ hnone).2, (hserve _ himage).2]
  rfl

/-- The request is for an access object that no constant entry hides. -/
def ForAccess (d : Device E) (object dataId : UInt32) : Prop :=
  dataId = object ∧ constOdGet d.constOd (dataIdIndex dataId) (dataIdSub dataId) = none

/-- What the constant entries pass on, they have no entry for. -/
theorem tryServeConstOd_passed (hlow : dataIdLow dataId = 0)
    (hpassed : (tryServeConstOd client dataId req w).1 = false) :
    constOdGet w.device.constOd (dataIdIndex dataId) (dataIdSub dataId) = none := by
  cases hconst : constOdGet w.device.constOd (dataIdIndex dataId) (dataIdSub dataId) with
  | none => rfl
  | some value =>
      have htaken : StateWp.wp (tryServeConstOd client dataId req) (fun handled _ => handled = true)
          w := by
        unfold tryServeConstOd
        simp only [StateWp.wp_bind, StateWp.wp_ite, StateWp.wp_pure, wp_getDevice, hconst, wp_emit]
        exact ⟨fun h => absurd hlow (bne_iff_ne.mp h), fun _ => ⟨fun _ => trivial, fun _ => trivial⟩⟩
      exact absurd (hpassed.symm.trans htaken) (by decide)

/-- **One request, whatever the values**: a signed access that avoids the entries ends in a
    run that is its own twin, or in an answer of the secure OD for a registered entry. -/
theorem front_oblivious (gcm : Gcm) (plat : DevicePlatform E)
    (hread : ForAccess d rpkGenericReadId dataId → ∀ μ, Behind d μ → ReadAvoids μ d client req)
    (hwrite : ForAccess d rpkGenericWriteId dataId → WriteAvoids ed deviceId d client req) :
    (∀ μ, Behind d μ → serveRequest gcm ed plat deviceId (onDevice μ d) client dataId req
        = onWorld μ (serveRequest gcm ed plat deviceId d client dataId req)) ∨
      (d.server.sod.registry.find dataId ≠ none ∧
        serveRequest gcm ed plat deviceId d client dataId req
          = ⟨secureStep gcm plat deviceId client dataId req d,
            [secureReply client dataId (exchange gcm (demoPorts deviceId plat.toPlatform)
              d.server client dataId req dispatchReplyMax).result], []⟩) := by
  have hchain : (∀ μ, Behind d μ → Twin (onWorld μ)
        (dispatchRequest gcm ed plat deviceId client dataId req)
        (dispatchRequest gcm ed plat deviceId client dataId req) ⟨d, [], []⟩) ∨
      d.server.sod.registry.find dataId ≠ none ∧
        dispatchRequest gcm ed plat deviceId client dataId req ⟨d, [], []⟩
          = dispatchTail gcm plat deviceId client dataId req ⟨d, [], []⟩ := by
    unfold dispatchRequest
    refine twin_front gcm ed plat deviceId (fun _ _ => tryServeDescriptor_twin)
      tryServeDescriptor_turn fun _ => ?_
    refine twin_front gcm ed plat deviceId (fun _ _ => tryServeConstOd_twin)
      tryServeConstOd_turn fun hconst => ?_
    refine twin_front gcm ed plat deviceId (fun _ _ => securityTry_twin) securityTry_turn
      fun _ => ?_
    refine twin_front gcm ed plat deviceId (fun _ _ => handoverTry_twin) handoverTry_turn
      fun _ => ?_
    refine twin_front gcm ed plat deviceId (fun μ hμ => rpkTry_twin ?read ?write) rpkTry_turn
      fun _ => ?_
    case read =>
      rintro rfl
      exact hread ⟨rfl, tryServeConstOd_passed rfl hconst⟩ μ hμ
    case write =>
      rintro rfl
      exact hwrite ⟨rfl, tryServeConstOd_passed rfl hconst⟩
    by_cases hfind : d.server.sod.registry.find dataId = none
    · exact .inl fun μ _ => dispatchTail_twin hfind
    · exact .inr ⟨hfind, rfl⟩
  rcases hchain with htwin | ⟨hfind, htail⟩
  · exact .inl fun μ hμ => (twin_run (htwin μ hμ)).2
  · refine .inr ⟨hfind, (congrArg Prod.snd htail).trans ?_⟩
    rw [dispatchTail_run]
    rfl

end Dispatch

end SofaOblivious
