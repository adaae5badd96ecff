import Sofa.Provisioning
import Sofa.Challenges
import Sofa.Handover

/-! # Which signatures are fresh

    A signature is fresh when it covers a nonce that its verifier drew for the exchange.  The
    signed accesses and the identity read are built so; a voucher, a C02Fh install and an
    LDevID export are signed over what they carry, and nothing else.

    The headline, **`signatures_fresh_iff`**: on the device and in the tool, every accepted
    signature is fresh and no signed message is accepted twice, exactly when no voucher, no
    install and no export is accepted.  `install_replays` says what this means for an
    install: once accepted, it is accepted whenever the same owner holds the device. -/

namespace SofaFreshness

open ByteBlock SofaConfig SofaAead SofaOd SofaServer SofaDemo SofaClient SofaAsym SofaDevice
  SofaTurn SofaNode SofaEpochs SofaChallenges SofaLifecycle SofaProvisioning SofaHandover OneTime
  StateWp Machine

variable {E N : Type} {gcm : Gcm} {ed : Ed25519} {plat : DevicePlatform E} {deviceId : UInt16}

/-! ## The device's law -/

/-- A signed access that verified. -/
def verifiedOver : Call → Option (List UInt8)
  | .verified transcript _ true => some transcript
  | _ => none

/-- The visit brought a voucher that was accepted. -/
def Visit.claims (v : Visit) : Bool := v.calls.contains (.claim v.req true)

/-- The visit brought an install that was acknowledged. -/
def Visit.installs (v : Visit) : Bool :=
  v.dataId == hoProvisionId && v.req.length == hoProvisionLen
    && v.sent.any fun r => r.status == abortNone

/-- What the signatures accepted in a visit were made over. -/
def acceptedOver (v : Visit) : List (List UInt8) :=
  v.calls.filterMap verifiedOver
    ++ (if Visit.claims v then [voucherTranscript v.req] else [])
    ++ (if Visit.installs v then [provisionTranscript v.req] else [])

/-- Every signature accepted in the visit covers the nonce outstanding for it. -/
def Covered (pre : List Visit) (v : Visit) : Prop :=
  ∀ transcript ∈ acceptedOver v, ∃ nonce,
    (challengeDesk pre).outstanding = some ⟨v.client, v.dataId, nonce⟩ ∧
      toList nonce <:+: transcript

/-- The law of a step of the device. -/
def StepCovered (gcm : Gcm) (ed : Ed25519) (plat : DevicePlatform E) (deviceId : UInt16)
    (n : Node E) : NodeInput E → Prop
  | .request client dataId req =>
      Covered n.history (visit gcm ed plat deviceId n.device client dataId req)
  | .platform _ => True

/-- The visits in which a signature was accepted. -/
def acceptances (history : List Visit) : List Visit :=
  history.filter fun v => !(acceptedOver v).isEmpty

/-- **The law of the device**: every accepted signature is fresh, and no signed message is
    accepted twice. -/
structure DeviceFresh (gcm : Gcm) (ed : Ed25519) (plat : DevicePlatform E) (deviceId : UInt16)
    (d : Device E) (inputs : List (NodeInput E)) : Prop where
  covered : Along (nodeStep gcm ed plat deviceId) (StepCovered gcm ed plat deviceId) ⟨d, []⟩ inputs
  once : ((acceptances (nodeAfter gcm ed plat deviceId d inputs).history).map (·.req)).Nodup

/-- The request is a voucher or an install that is accepted: its object is not shadowed by a
    constant entry, and the identity store takes it. -/
inductive Blind (ed : Ed25519) (d : Device E) : UInt32 → List UInt8 → Prop
  | voucher {req : List UInt8} (reached : Unshadowed d hoVoucherId)
      (claimable : Claimable ed d.asym req) : Blind ed d hoVoucherId req
  | install {req : List UInt8} (reached : Unshadowed d hoProvisionId)
      (installable : Installable ed d.asym req) : Blind ed d hoProvisionId req

theorem Blind.object {d : Device E} {dataId : UInt32} {req : List UInt8}
    (h : Blind ed d dataId req) : dataId ∈ [hoVoucherId, hoProvisionId] := by
  cases h with
  | voucher reached claimable => exact List.mem_cons_self
  | install reached installable => exact List.mem_cons_of_mem _ (List.mem_singleton_self _)

/-- The condition on a step of the device. -/
def NoBlind (ed : Ed25519) (n : Node E) : NodeInput E → Prop
  | .request _ dataId req => ¬ Blind ed n.device dataId req
  | .platform _ => True

/-! ## The tool's law -/

/-- One step taken by the tool: its events, and whether it accepted a signed message. -/
structure Exchange where
  step : HandoverStep
  events : List HandoverEvent
  accepted : Bool

/-- What is behind the transport, and the exchanges so far. -/
structure Tool (N : Type) where
  net : N
  exchanges : List Exchange

/-- A step of the tool, with whether it accepted a signed message.  Voucher and install are
    answered by a bare status. -/
def takeStep (ed : Ed25519) (T : HandoverTransport N) (target : UInt16) :
    HandoverStep → HandoverM N Bool
  | .genuineness => do return (← verifyGenuineness ed T target) == 0
  | .voucher => do
      let _ ← presentVoucher ed T target none
      return false
  | .provisioning => do
      let _ ← installProvisioning ed T target
      return false
  | .ldevid => do return (← generateLdevid ed T target).isOk

/-- The tool takes its steps in any order, on any targets. -/
def toolStep (ed : Ed25519) (T : HandoverTransport N) (t : Tool N) (op : UInt16 × HandoverStep) :
    Tool N :=
  let out := takeStep ed T op.1 op.2 ⟨t.net, []⟩
  ⟨out.2.net, t.exchanges ++ [⟨op.2, out.2.log, out.1⟩]⟩

/-- The tool after its steps. -/
abbrev toolAfter (ed : Ed25519) (T : HandoverTransport N) (net : N)
    (ops : List (UInt16 × HandoverStep)) : Tool N := run (toolStep ed T) ⟨net, []⟩ ops

/-- The exchange of a step. -/
def exchangeOf (ed : Ed25519) (T : HandoverTransport N) (t : Tool N)
    (op : UInt16 × HandoverStep) : Exchange :=
  let out := takeStep ed T op.1 op.2 ⟨t.net, []⟩
  ⟨op.2, out.2.log, out.1⟩

/-- The reply an exchange accepted, with the transcript of its signature. -/
def Exchange.message (x : Exchange) : Option (List UInt8 × List UInt8) :=
  match x.accepted, x.step, x.events with
  | true, .genuineness, [.drawn (some rt), .read _ _ _ (.ok reply)] =>
      some (reply, identityTranscript rt reply)
  | true, .ldevid, [.read _ _ _ (.ok reply)] => some (reply, exportTranscript reply)
  | _, _, _ => none

/-- The signature an exchange accepted covers a nonce drawn in it. -/
def Exchange.Fresh (x : Exchange) : Prop :=
  ∀ reply transcript, x.message = some (reply, transcript) →
    ∃ rt, .drawn (some rt) ∈ x.events ∧ toList rt <:+: transcript

/-- **The law of the tool**: every accepted signature is fresh, and no signed message is
    accepted twice. -/
structure ToolFresh (ed : Ed25519) (T : HandoverTransport N) (net : N)
    (ops : List (UInt16 × HandoverStep)) : Prop where
  covered : Along (toolStep ed T) (fun t op => (exchangeOf ed T t op).Fresh) ⟨net, []⟩ ops
  once : (((toolAfter ed T net ops).exchanges.filterMap Exchange.message).map (·.1)).Nodup

/-- The condition on a step of the tool: an export request is not answered with an export
    that verifies. -/
def NoExport (ed : Ed25519) (T : HandoverTransport N) (t : Tool N) (op : UInt16 × HandoverStep) :
    Prop :=
  op.2 = .ldevid → ∀ reply, (T.read op.1 hoLdevidId [0x01] hoLdevidReplyLen t.net).1 = .ok reply →
    ¬ ExportReply ed reply

/-! ## The assumptions on the tool's side -/

/-- The nonce an exchange drew. -/
def drawnNonce : HandoverEvent → Option RpkNonce
  | .drawn rt => rt
  | _ => none

/-- The nonces drawn never repeat. -/
def FreshDraws (exchanges : List Exchange) : Prop :=
  (exchanges.flatMap fun x => x.events.filterMap drawnNonce).Nodup

/-- The identity signatures that were accepted were made over their transcripts. -/
def OnlyMade (madeOver : Signature → Option (List UInt8)) (exchanges : List Exchange) : Prop :=
  ∀ x ∈ exchanges, x.step = .genuineness →
    ∀ m ∈ x.message, madeOver (identitySig m.1) = some m.2

/-! ## What a turn of the device accepts -/

section Device

variable {d d' : Device E} {client : UInt16} {dataId : UInt32} {req : List UInt8}
  {sent : List Reply} {calls : List Call}

/-- The server nonce stands inside the transcript of a signed access. -/
theorem nonce_infix {role : UInt8} {bind : UInt32} {clientNonce value : List UInt8}
    {serverNonce : RpkNonce} : toList serverNonce <:+:
      signedTranscript deviceId client role bind clientNonce serverNonce value :=
  ⟨asymDomain ++ [0x00, asymSigAlg, role] ++ (putU16le deviceId ++ putU16le client
    ++ putU32le bind ++ putU16le (UInt16.ofNat value.length) ++ clientNonce), value, by
      simp [signedTranscript, buildSignedBody]⟩

/-- A signed access that verified was checked over the nonce outstanding, and took effect. -/
theorem verified_turn (hturn : Turn gcm ed plat deviceId client dataId req d sent calls d')
    {transcript : List UInt8} (hmem : transcript ∈ calls.filterMap verifiedOver) :
    HeldBy d.challenge client dataId ∧ toList d.challenge.serverNonce <:+: transcript ∧
      calls.any isEffect = true := by
  have hover : ∀ {peer : Pubkey}, Attempt d client dataId req peer →
      toList d.challenge.serverNonce <:+: verifyTranscript d deviceId client dataId req := by
    intro peer attempt
    rw [verifyTranscript_eq attempt.body]
    exact nonce_infix
  cases hturn with
  | written object attempt good hook =>
      obtain rfl : transcript = _ := by simpa [verifiedOver] using hmem
      exact ⟨attempt.held, hover attempt, rfl⟩
  | commanded object attempt good code =>
      obtain rfl : transcript = _ := by simpa [verifiedOver] using hmem
      exact ⟨attempt.held, hover attempt, rfl⟩
  | decommissioned object attempt good code =>
      obtain rfl : transcript = _ := by simpa [verifiedOver] using hmem
      exact ⟨attempt.held, hover attempt, rfl⟩
  | _ => simp [verifiedOver] at hmem

/-- Only a request for the voucher object claims. -/
theorem claims_turn (hturn : Turn gcm ed plat deviceId client dataId req d sent calls d')
    (hclaims : Call.claim req true ∈ calls) : dataId = hoVoucherId := by
  cases hturn with
  | claimed object accepted => exact object
  | _ => simp at hclaims

/-- Challenges are armed for the access objects. -/
theorem armings_turn (hturn : Turn gcm ed plat deviceId client dataId req d sent calls d') :
    ∀ t ∈ armings calls, t.object ∈ accessObjects := by
  intro t ht
  rw [mem_armings] at ht
  cases hturn with
  | armed object drawn =>
      simp only [List.mem_singleton, Call.armed.injEq] at ht
      rw [ht.2.1]
      exact object
  | _ => simp at ht

/-! ## The three outcomes of a handover request -/

/-- A voucher that is not claimable leaves the device. -/
theorem serve_unclaimable (hconst : Unshadowed d hoVoucherId) (hno : ¬ Claimable ed d.asym req) :
    serveRequest gcm ed plat deviceId d client hoVoucherId req =
      ⟨d, [⟨client, hoVoucherId, abortVoucher, []⟩], [.claim req false]⟩ := by
  have hrefused : d.asym.claim ed req = none := by
    rw [Option.eq_none_iff_forall_not_mem]
    intro asym hsome
    exact hno (claim_iff.mp hsome).1
  refine serve_handover (by decide) hconst ?_
  show handleVoucher ed client req ⟨d, [], []⟩ = _
  simp only [handleVoucher, getDevice, bind, StateT.bind, hrefused]
  rfl

/-- **A blind request is accepted.** -/
theorem accepted_of_blind (h : Blind ed d dataId req) :
    dataId ∉ accessObjects ∧
      acceptedOver (visit gcm ed plat deviceId d client dataId req) ≠ [] := by
  cases h with
  | voucher reached claimable =>
      refine ⟨by decide, ?_⟩
      rw [visit, serve_voucher reached (claim_iff.mpr ⟨claimable, rfl⟩)]
      simp [acceptedOver, Visit.claims]
  | install reached installable =>
      refine ⟨by decide, ?_⟩
      have hlen := installable.len
      rw [visit, serve_install reached installable]
      simp [acceptedOver, Visit.installs, hlen]

/-- **And no other voucher or install is.** -/
theorem accepted_of_not_blind (h : ¬ Blind ed d dataId req) :
    acceptedOver (visit gcm ed plat deviceId d client dataId req) =
      (visit gcm ed plat deviceId d client dataId req).calls.filterMap verifiedOver := by
  suffices hno : Visit.claims (visit gcm ed plat deviceId d client dataId req) = false ∧
      Visit.installs (visit gcm ed plat deviceId d client dataId req) = false by
    simp [acceptedOver, hno]
  by_cases hobj : dataId ∈ [hoVoucherId, hoProvisionId]
  · by_cases hconst : Unshadowed d dataId
    · simp only [List.mem_cons, List.not_mem_nil, or_false] at hobj
      obtain rfl | rfl := hobj
      · have hno : ¬ Claimable ed d.asym req := fun hc => h (.voucher hconst hc)
        have hne : abortVoucher ≠ abortNone := by decide
        rw [visit, serve_unclaimable hconst hno]
        exact ⟨by simp [Visit.claims], by simp [Visit.installs, hne]⟩
      · have hno : ¬ Installable ed d.asym req := fun hi => h (.install hconst hi)
        have hne : abortSigVerify ≠ abortNone := by decide
        rw [visit, serve_refused hconst hno]
        exact ⟨by simp [Visit.claims], by simp [Visit.installs, hne]⟩
    · obtain ⟨value, hvalue⟩ := Option.ne_none_iff_exists'.mp hconst
      have hne : abortReadOnly ≠ abortNone := by decide
      rw [visit, serve_constant (List.mem_append_left [hoEpochId] hobj) hvalue]
      refine ⟨by simp [Visit.claims], ?_⟩
      -- a constant entry acknowledges nothing but an empty request
      cases req with
      | nil => simp [Visit.installs]
      | cons b req => simp [Visit.installs, hne]
  · simp only [List.mem_cons, List.not_mem_nil, or_false, not_or] at hobj
    refine ⟨?_, by simp [Visit.installs, visit, hobj.2]⟩
    by_contra hclaims
    rw [Bool.not_eq_false, Visit.claims, List.contains_iff_mem] at hclaims
    have hturn : Turn gcm ed plat deviceId client dataId req d _ _ _ := dispatchRequest_turn
    exact hobj.1 (claims_turn hturn hclaims)

end Device

/-! ## The device's invariant -/

/-- Challenges have been armed for access objects only. -/
def ArmedForAccess (n : Node E) : Prop := ∀ t ∈ issued n.history, t.object ∈ accessObjects

/-- One step arms for access objects. -/
theorem armedForAccess_step (n : Node E) (a : NodeInput E) (h : ArmedForAccess n) :
    ArmedForAccess (nodeStep gcm ed plat deviceId n a) := by
  cases a with
  | platform env => exact h
  | request client dataId req =>
      have hturn : Turn gcm ed plat deviceId client dataId req n.device _ _ _ :=
        dispatchRequest_turn
      intro t ht
      have ht : t ∈ issued (n.history ++ [visit gcm ed plat deviceId n.device client dataId req])
        := ht
      rw [issued_append, List.mem_append] at ht
      exact ht.elim (h t) (armings_turn hturn t)

/-- The nonce outstanding is for an access object. -/
theorem outstanding_object {n : Node E} (h : ArmedForAccess n)
    (hdesk : (challengeDesk n.history).issued = issued n.history) {t : Ticket}
    (hout : (challengeDesk n.history).outstanding = some t) : t.object ∈ accessObjects := by
  have hmem : t ∈ (challengeDesk n.history).issued := (desk_accounted _).outstanding t hout
  rw [hdesk] at hmem
  exact h t hmem

/-- **A step is covered exactly when it is not blind.** -/
theorem stepCovered_iff {n : Node E} (hdesk : DeskInv deviceId n) (hobjects : ArmedForAccess n)
    (a : NodeInput E) :
    StepCovered gcm ed plat deviceId n a ↔ NoBlind ed n a := by
  cases a with
  | platform env => exact Iff.rfl
  | request client dataId req =>
      show Covered n.history _ ↔ ¬ Blind ed n.device dataId req
      constructor
      · intro hcovered hblind
        obtain ⟨hobj, hne⟩ : dataId ∉ accessObjects ∧
            acceptedOver (visit gcm ed plat deviceId n.device client dataId req) ≠ [] :=
          accepted_of_blind hblind
        obtain ⟨transcript, hmem⟩ := List.exists_mem_of_ne_nil _ hne
        obtain ⟨nonce, hout, -⟩ := hcovered transcript hmem
        exact hobj (outstanding_object hobjects hdesk.tickets hout)
      · intro hblind transcript hmem
        rw [accepted_of_not_blind hblind] at hmem
        have hturn : Turn gcm ed plat deviceId client dataId req n.device _ _ _ :=
          dispatchRequest_turn
        obtain ⟨hheld, hinfix, -⟩ := verified_turn hturn hmem
        refine ⟨n.device.challenge.serverNonce, ?_, hinfix⟩
        rw [hdesk.held hheld.armed, hheld.client, hheld.object]
        rfl

/-- What the visits accepted, they accepted for signed accesses. -/
def AcceptsAccesses (n : Node E) : Prop :=
  ∀ v ∈ n.history, acceptedOver v ≠ [] → Visit.effective v = true

/-- One step keeps that, when it is not blind. -/
theorem acceptsAccesses_step (n : Node E) (a : NodeInput E) (h : AcceptsAccesses n)
    (hblind : NoBlind ed n a) : AcceptsAccesses (nodeStep gcm ed plat deviceId n a) := by
  cases a with
  | platform env => exact h
  | request client dataId req =>
      have hturn : Turn gcm ed plat deviceId client dataId req n.device _ _ _ :=
        dispatchRequest_turn
      intro v hv hne
      rcases List.mem_append.mp hv with hv | hv
      · exact h v hv hne
      · obtain rfl := List.mem_singleton.mp hv
        rw [show (⟨client, dataId, req, _, _⟩ : Visit)
          = visit gcm ed plat deviceId n.device client dataId req from rfl,
          accepted_of_not_blind hblind] at hne
        obtain ⟨transcript, hmem⟩ := List.exists_mem_of_ne_nil _ hne
        exact (verified_turn hturn hmem).2.2

/-- The acceptances are then effects. -/
theorem acceptances_sublist {n : Node E} (h : AcceptsAccesses n) :
    (acceptances n.history).Sublist (effects n.history) := by
  have hboth : acceptances n.history
      = (effects n.history).filter fun v => !(acceptedOver v).isEmpty := by
    rw [acceptances, effects, List.filter_filter]
    refine List.filter_congr fun v hv => ?_
    cases haccepted : acceptedOver v with
    | nil => simp
    | cons t ts => simp [h v hv (by simp [haccepted])]
  rw [hboth]
  exact List.filter_sublist

/-- **The device**: its law holds exactly when no voucher and no install is accepted. -/
theorem deviceFresh_iff {cfg : BootConfig} {env : E} {d : Device E}
    (hstart : odInit ed cfg env = some d) {inputs : List (NodeInput E)}
    {madeOver : Signature → Option (List UInt8)}
    (hfresh : FreshNonces (nodeAfter gcm ed plat deviceId d inputs).history)
    (hsigned : OnlySigned madeOver (nodeAfter gcm ed plat deviceId d inputs).history) :
    DeviceFresh gcm ed plat deviceId d inputs ↔
      Along (nodeStep gcm ed plat deviceId) (NoBlind ed) ⟨d, []⟩ inputs := by
  have hidle : d.challenge.armed = false := by
    obtain ⟨constOd, registry, keys, -, -, -, rfl⟩ := odInit_cases hstart
    rfl
  have hcovered : Along (nodeStep gcm ed plat deviceId) (StepCovered gcm ed plat deviceId)
      ⟨d, []⟩ inputs ↔ Along (nodeStep gcm ed plat deviceId) (NoBlind ed) ⟨d, []⟩ inputs := by
    refine along_congr_invariant (I := fun n : Node E => DeskInv deviceId n ∧ ArmedForAccess n)
      ?_ ?_ ⟨deskInv_start hidle, by simp [ArmedForAccess, issued]⟩
    · rintro n a ⟨hdesk, hobjects⟩
      exact ⟨deskInv_step n a hdesk trivial, armedForAccess_step n a hobjects⟩
    · rintro n a ⟨hdesk, hobjects⟩
      exact stepCovered_iff hdesk hobjects a
  refine ⟨fun h => hcovered.mp h.covered, fun hblind => ⟨hcovered.mpr hblind, ?_⟩⟩
  have haccepts : AcceptsAccesses (nodeAfter gcm ed plat deviceId d inputs) :=
    run_induction (I := fun n : Node E => AcceptsAccesses n) acceptsAccesses_step
      (by simp [AcceptsAccesses]) hblind
  have honce := (challenges_once gcm ed plat deviceId cfg env d hstart inputs madeOver hfresh
    hsigned).2.replay
  exact honce.sublist ((acceptances_sublist haccepts).map _)

/-! ## What a step of the tool accepts -/

section Tool

variable {T : HandoverTransport N} {target : UInt16} {step : HandoverStep} {net : N}

/-- What an exchange is made of. -/
inductive ToolEffect (ed : Ed25519) (T : HandoverTransport N) (target : UInt16) (net : N) :
    Exchange → Prop
  /-- Nothing signed was accepted. -/
  | refused {x : Exchange} (nothing : x.message = none)
      (no : x.step = .ldevid → ∀ reply,
        (T.read target hoLdevidId [0x01] hoLdevidReplyLen net).1 = .ok reply →
          ¬ ExportReply ed reply) : ToolEffect ed T target net x
  /-- An identity reply. -/
  | identity {rt : RpkNonce} {reply : List UInt8} (genuine : GenuineReply ed rt reply) :
      ToolEffect ed T target net ⟨.genuineness,
        [.drawn (some rt), .read target hoIdentityId (toList rt) (.ok reply)], true⟩
  /-- An export. -/
  | exported {reply : List UInt8} (verifies : ExportReply ed reply)
      (answer : (T.read target hoLdevidId [0x01] hoLdevidReplyLen net).1 = .ok reply) :
      ToolEffect ed T target net ⟨.ldevid,
        [.read target hoLdevidId [0x01] (.ok reply)], true⟩

/-- **Every step of the tool has one of the effects.** -/
theorem takeStep_effect (ed : Ed25519) (T : HandoverTransport N) (target : UInt16)
    (step : HandoverStep) (net : N) :
    wp (takeStep ed T target step)
      (fun accepted w => ToolEffect ed T target net ⟨step, w.log, accepted⟩) ⟨net, []⟩ := by
  cases step with
  | genuineness =>
      unfold takeStep
      rw [wp_bind]
      refine wp_mono (verifyGenuineness_spec ed T target ⟨net, []⟩) ?_
      rintro rc w ⟨-, hevents, -⟩
      show ToolEffect ed T target net ⟨.genuineness, w.log, rc == 0⟩
      by_cases hrc : rc = 0
      · obtain ⟨rt, reply, hgenuine, hlog⟩ := hevents hrc
        subst hrc
        rw [hlog]
        exact .identity hgenuine
      · rw [beq_eq_false_iff_ne.mpr hrc]
        exact .refused rfl (fun h => by cases h)
  | voucher => exact .refused rfl (fun h => by cases h)
  | provisioning => exact .refused rfl (fun h => by cases h)
  | ldevid =>
      unfold takeStep
      rw [wp_bind]
      refine wp_mono (generateLdevid_spec ed T target ⟨net, []⟩) ?_
      rintro r w ⟨answer, hanswer, hlog, hok⟩
      show ToolEffect ed T target net ⟨.ldevid, w.log, r.isOk⟩
      cases r with
      | ok pub =>
          obtain ⟨reply, rfl, hexport, -⟩ := (hok pub).mp rfl
          rw [hlog]
          exact .exported hexport hanswer.symm
      | error rc =>
          refine .refused rfl fun _ reply hreply hexport => ?_
          rw [← hanswer] at hreply
          cases (hok _).mpr ⟨reply, hreply, hexport, rfl⟩

theorem exchangeOf_effect (t : Tool N) (op : UInt16 × HandoverStep) :
    ToolEffect ed T op.1 t.net (exchangeOf ed T t op) := takeStep_effect ed T op.1 op.2 t.net

/-- The nonce of an identity reply stands at the end of its transcript. -/
theorem identity_infix {rt : RpkNonce} {reply : List UInt8}
    (h : reply.length = hoIdentityReplyLen) : toList rt <:+: identityTranscript rt reply := by
  rw [identityTranscript_eq h]
  exact ⟨_, [], by rw [List.append_nil, ← List.append_assoc]⟩

/-- Equal identity replies with equal transcripts answer one nonce. -/
theorem identity_nonce {rt rt' : RpkNonce} {reply : List UInt8}
    (h : reply.length = hoIdentityReplyLen)
    (heq : identityTranscript rt reply = identityTranscript rt' reply) : rt = rt' := by
  rw [identityTranscript_eq h, identityTranscript_eq h] at heq
  have htail := List.append_cancel_left (List.append_cancel_left heq)
  exact toList_injective htail

/-- A step is fresh exactly when it accepts no export. -/
theorem fresh_iff {x : Exchange} (h : ToolEffect ed T target net x) :
    x.Fresh ↔ (x.step = .ldevid → ∀ reply,
      (T.read target hoLdevidId [0x01] hoLdevidReplyLen net).1 = .ok reply →
        ¬ ExportReply ed reply) := by
  cases h with
  | refused nothing no =>
      refine iff_of_true ?_ no
      intro reply transcript hmsg
      rw [nothing] at hmsg
      cases hmsg
  | identity genuine =>
      refine iff_of_true ?_ (fun h => by cases h)
      intro reply' transcript hmsg
      cases hmsg
      exact ⟨_, List.mem_cons_self, identity_infix genuine.len⟩
  | exported verifies answer =>
      refine iff_of_false ?_ (fun h => h rfl _ answer verifies)
      intro hfresh
      obtain ⟨rt, hdrawn, -⟩ := hfresh _ _ rfl
      simp at hdrawn

/-- An exchange that accepted nothing, or an identity reply to the nonce it drew. -/
def ByIdentity (x : Exchange) : Prop :=
  ∀ reply transcript, x.message = some (reply, transcript) → x.step = .genuineness ∧
    ∃ rt, rt ∈ x.events.filterMap drawnNonce ∧ reply.length = hoIdentityReplyLen ∧
      transcript = identityTranscript rt reply

/-- Without exports, every exchange is of that kind. -/
theorem byIdentity_of {x : Exchange} (h : ToolEffect ed T target net x) (hfresh : x.Fresh) :
    ByIdentity x := by
  cases h with
  | refused nothing no =>
      intro reply transcript hmsg
      rw [nothing] at hmsg
      cases hmsg
  | identity genuine =>
      intro reply' transcript hmsg
      cases hmsg
      exact ⟨rfl, _, List.mem_cons_self, genuine.len, rfl⟩
  | exported verifies answer =>
      obtain ⟨rt, hdrawn, -⟩ := hfresh _ _ rfl
      simp at hdrawn

/-- Replies to different nonces differ. -/
theorem replies_differ {exchanges : List Exchange} {madeOver : Signature → Option (List UInt8)}
    (hid : ∀ x ∈ exchanges, ByIdentity x) (hfresh : FreshDraws exchanges)
    (hmade : OnlyMade madeOver exchanges) :
    ((exchanges.filterMap Exchange.message).map (·.1)).Nodup := by
  have hapart := (List.nodup_flatMap.mp hfresh).2
  rw [List.nodup_iff_pairwise_ne, List.pairwise_map, List.pairwise_filterMap]
  refine hapart.imp_of_mem ?_
  rintro x y hx hy hdisjoint ⟨reply, transcript⟩ hmsg ⟨reply', transcript'⟩ hmsg' heq
  obtain rfl : reply = reply' := heq
  obtain ⟨hstep, rt, hrt, hlen, rfl⟩ := hid x hx _ _ hmsg
  obtain ⟨hstep', rt', hrt', -, rfl⟩ := hid y hy _ _ hmsg'
  have hone := hmade x hx hstep _ hmsg
  rw [hmade y hy hstep' _ hmsg'] at hone
  obtain rfl := identity_nonce hlen (Option.some.inj hone)
  exact hdisjoint hrt hrt'

/-- **The tool**: its law holds exactly when no export is accepted. -/
theorem toolFresh_iff {ops : List (UInt16 × HandoverStep)} {n : N}
    {madeOver : Signature → Option (List UInt8)}
    (hfresh : FreshDraws (toolAfter ed T n ops).exchanges)
    (hmade : OnlyMade madeOver (toolAfter ed T n ops).exchanges) :
    ToolFresh ed T n ops ↔ Along (toolStep ed T) (NoExport ed T) ⟨n, []⟩ ops := by
  have hcovered : Along (toolStep ed T) (fun t op => (exchangeOf ed T t op).Fresh) ⟨n, []⟩ ops ↔
      Along (toolStep ed T) (NoExport ed T) ⟨n, []⟩ ops :=
    along_congr fun t op => fresh_iff (exchangeOf_effect t op)
  refine ⟨fun h => hcovered.mp h.covered, fun h => ⟨hcovered.mpr h, ?_⟩⟩
  refine replies_differ ?_ hfresh hmade
  refine run_induction (P := fun t op => (exchangeOf ed T t op).Fresh)
    (I := fun t : Tool N => ∀ x ∈ t.exchanges, ByIdentity x) ?_ (by simp) (hcovered.mpr h)
  intro t op hall hop x hx
  rcases List.mem_append.mp hx with hx | hx
  · exact hall x hx
  · obtain rfl := List.mem_singleton.mp hx
    exact byIdentity_of (exchangeOf_effect t op) hop

end Tool

/-! ## The headlines -/

/-- **Signatures are fresh, exactly** while no voucher, no install and no export is accepted:
    in every run of the device from every start configuration, and in every run of the tool
    against any transport. -/
theorem signatures_fresh_iff (gcm : Gcm) (ed : Ed25519) (plat : DevicePlatform E)
    (deviceId : UInt16) (cfg : BootConfig) (env : E) (d : Device E)
    (hstart : odInit ed cfg env = some d) (inputs : List (NodeInput E))
    (T : HandoverTransport N) (net : N) (ops : List (UInt16 × HandoverStep))
    (madeOver : Signature → Option (List UInt8))
    (hfresh : FreshNonces (nodeAfter gcm ed plat deviceId d inputs).history)
    (hsigned : OnlySigned madeOver (nodeAfter gcm ed plat deviceId d inputs).history)
    (hdraws : FreshDraws (toolAfter ed T net ops).exchanges)
    (hmade : OnlyMade madeOver (toolAfter ed T net ops).exchanges) :
    (DeviceFresh gcm ed plat deviceId d inputs ∧ ToolFresh ed T net ops) ↔
      (Along (nodeStep gcm ed plat deviceId) (NoBlind ed) ⟨d, []⟩ inputs ∧
        Along (toolStep ed T) (NoExport ed T) ⟨net, []⟩ ops) :=
  and_congr (deviceFresh_iff hstart hfresh hsigned) (toolFresh_iff hdraws hmade)

/-- **An install replays**: accepted under an owner, it is accepted in every state in which
    the same owner holds the device. -/
theorem install_replays {st st' : AsymStore} {req : List UInt8} (h : Installable ed st req)
    (hready : st'.ready = true) (howner : st'.installedOwner = st.installedOwner) :
    Installable ed st' req := by
  have hheld : st.installedOwner = some st.owner := by
    rw [AsymStore.installedOwner, if_pos h.owned]
  rw [hheld] at howner
  unfold AsymStore.installedOwner at howner
  split at howner
  · rename_i howned
    obtain hsame := Option.some.inj howner
    exact ⟨h.len, hready, howned, by rw [hsame]; exact h.signed⟩
  · cases howner

/-! ## Worked runs -/

/-- A recorded install is offered in two ownership periods of one owner. -/
def sampleReinstalled : List (NodeInput SampleEnv) :=
  [.request 20 hoVoucherId (sampleVoucher 5), .request 20 hoProvisionId (sampleInstall sampleKey),
    .request 20 rpkFunccmdId [],
    .request 20 rpkFunccmdId (sampleCommand 20 (sampleNonce 1) cmdFactoryRestore),
    .request 20 hoVoucherId (sampleVoucher 9), .request 20 hoProvisionId (sampleInstall sampleKey)]

/-- An export of the demo device. -/
def sampleExport : List UInt8 :=
  let pub := (sampleEd.keygen ldevidSeed).pub
  toList pub ++ toList (sampleEd.sign (sampleEd.keygen idevidSeed)
    (asymTranscript roleLdevidExport (toList pub) (asymTranscriptOverhead + asymPubkeySize)))

/-- A transport that answers an identity read in the name of the demo device, and replays one
    export.  It counts its draws. -/
def sampleTransport : HandoverTransport UInt8 where
  clientId := 20
  random := fun n => (some (zero 12), n)
  challenge := fun n => (some (sampleNonce n), n + 1)
  read := fun _ dataId body cap n =>
    if dataId = hoIdentityId then
      let blob := identityBlob demoSerial (sampleEd.keygen idevidSeed).pub
      let sig := sampleEd.sign (sampleEd.keygen idevidSeed)
        (asymTranscript roleIdentityRead (blob ++ body) 71)
      (.ok ((blob ++ toList (asymInit sampleEd).idevidCert ++ toList sig).take cap), n)
    else (.ok (sampleExport.take cap), n)
  write := fun _ _ _ n => (.ok (), n)
  fits := by
    intro device dataId body cap n reply h
    split at h
    · cases h
      exact List.length_take_le _ _
    · cases h
      exact List.length_take_le _ _

/-- The signatures of such a run that were accepted, with their transcripts. -/
def sampleMadeBy (sig : Signature) : Option (List UInt8) :=
  let blob := identityBlob demoSerial (sampleEd.keygen idevidSeed).pub
  let transcripts := [1, 2].map fun n =>
    asymTranscript roleIdentityRead (blob ++ toList (sampleNonce n)) 71
  match sampleMadeOver sig with
  | some transcript => some transcript
  | none => transcripts.find? fun t =>
      toList sig == toList (sampleEd.sign (sampleEd.keygen idevidSeed) t)

/-- `signatures_fresh_iff` where a command is signed and the device is checked twice. -/
theorem sampleReplayed_fresh :
    DeviceFresh sampleGcm sampleEd samplePlatform sampleNodeId sampleTwice sampleReplayed ∧
      ToolFresh sampleEd sampleTransport 1 [(5, .genuineness), (5, .genuineness)] := by
  refine (signatures_fresh_iff _ _ _ _ {} { nonces := [sampleNonce 1, sampleNonce 2] } sampleTwice
    (Option.some_get _).symm sampleReplayed sampleTransport 1 _ sampleMadeBy
    (by unfold FreshNonces; decide +kernel) (by unfold OnlySigned; decide +kernel)
    (by unfold FreshDraws; decide +kernel) (by unfold OnlyMade; decide +kernel)).mpr ⟨?_, ?_⟩
  · refine along_of_mem (fun a ha n => ?_) _
    simp only [sampleReplayed, List.mem_cons, List.not_mem_nil, or_false] at ha
    have hobj : rpkFunccmdId ∉ [hoVoucherId, hoProvisionId] := by decide
    rcases ha with rfl | rfl | rfl | rfl <;> exact fun h => hobj h.object
  · have hcheck : ∀ t : Tool UInt8, NoExport sampleEd sampleTransport t (5, .genuineness) :=
      fun t h => nomatch h
    exact ⟨hcheck _, hcheck _, trivial⟩

/-- **Replayed handover messages.**  The same install is acknowledged in both ownership
    periods, and the tool accepts the same export twice. -/
theorem replayed_install :
    ((nodeAfter sampleGcm sampleEd samplePlatform sampleNodeId sampleBare
        sampleReinstalled).history.map Visit.installs
      = [false, true, false, false, false, true]) ∧
      ¬ DeviceFresh sampleGcm sampleEd samplePlatform sampleNodeId sampleBare sampleReinstalled ∧
      ¬ ToolFresh sampleEd sampleTransport 1 [(5, .ldevid), (5, .ldevid)] := by
  refine ⟨by decide +kernel, ?_, ?_⟩
  · rintro ⟨-, honce⟩
    exact absurd honce (by decide +kernel)
  · rintro ⟨-, honce⟩
    exact absurd honce (by decide +kernel)

end SofaFreshness
