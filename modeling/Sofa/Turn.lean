import Sofa.Device

/-! # What one request can do to the device

    `Turn` lists every outcome of one request: the replies it sent, the calls it made and
    the device it leaves.  **`dispatchRequest_turn`** proves the list complete, tier by tier;
    the invariants of the reference server are derived from it. -/

namespace SofaTurn

open ByteBlock SofaConfig SofaAead SofaOd SofaServer SofaDemo SofaAsym SofaDevice StateWp

variable {E : Type} {gcm : Gcm} {ed : Ed25519} {plat : DevicePlatform E} {deviceId : UInt16}

/-! ## Primitives, executed -/

section Primitives

variable {w : DevWorld E}

theorem wp_getDevice {Q : Device E → DevWorld E → Prop} :
    wp getDevice Q w ↔ Q w.device w := Iff.rfl

theorem wp_setDevice {Q : Unit → DevWorld E → Prop} {d : Device E} :
    wp (setDevice d) Q w ↔ Q () { w with device := d } := Iff.rfl

theorem wp_record {Q : Unit → DevWorld E → Prop} {c : Call} :
    wp (record c) Q w ↔ Q () { w with calls := w.calls ++ [c] } := Iff.rfl

theorem wp_emit {Q : Bool → DevWorld E → Prop} {client : UInt16} {dataId : UInt32}
    {status : Abort} {body : List UInt8} :
    wp (emit client dataId status body) Q w ↔
      Q true { w with sent := w.sent ++ [⟨client, dataId, status, body⟩] } := Iff.rfl

theorem wp_setChallenge {Q : Unit → DevWorld E → Prop} {c : Challenge} :
    wp (setChallenge c) Q w ↔ Q () { w with device := { w.device with challenge := c } } :=
  Iff.rfl

theorem wp_disarm {Q : Unit → DevWorld E → Prop} :
    wp disarm Q w ↔ Q () { w with device := { w.device with
      challenge := { w.device.challenge with armed := false } } } := Iff.rfl

theorem wp_portNonce {Q : Option RpkNonce → DevWorld E → Prop} :
    wp (portNonce plat) Q w ↔ ∀ nonce env, plat.nonce w.device.server.host.env = (nonce, env) →
      Q nonce { w with device := w.device.setHost { w.device.server.host with env := env } } := by
  simp [wp, portNonce, Prod.ext_iff]

theorem wp_hookReadBefore {Q : Abort × List UInt8 → DevWorld E → Prop} {target : UInt32} :
    wp (hookReadBefore target) Q w ↔ ∀ rc val host,
      demoReadBefore target w.device.server.host = ((rc, val), host) →
      Q (rc, val) { w with
        device := w.device.setHost host
        calls := w.calls ++ [.readBefore target rc val] } := by
  simp [wp, hookReadBefore, Prod.ext_iff]

theorem wp_hookWriteAfter {Q : Abort → DevWorld E → Prop} {target : UInt32}
    {value : List UInt8} :
    wp (hookWriteAfter target value) Q w ↔ ∀ rc keys host,
      demoWriteAfter target value w.device.server.sod.lastWriteKid w.device.server.sod.keys
        w.device.server.host = (rc, keys, host) →
      Q rc { w with
        device := (w.device.setKeys keys).setHost host
        calls := w.calls ++ [.writeAfter target value rc] } := by
  simp [wp, hookWriteAfter, Prod.ext_iff]

end Primitives

/-! ## Turns -/

/-- The challenge is outstanding, for this client and this access object. -/
structure HeldBy (c : Challenge) (client : UInt16) (object : UInt32) : Prop where
  armed : c.armed = true
  client : c.clientDev = client
  object : c.dataId = object

/-- The challenge spent. -/
def disarmed (d : Device E) : Device E :=
  { d with challenge := { d.challenge with armed := false } }

/-- The transcript of a signed access under the outstanding challenge. -/
def accessTranscript (d : Device E) (deviceId client : UInt16) (role : UInt8) (bind : UInt32)
    (clientNonce value : List UInt8) : List UInt8 :=
  asymTranscript role
    (buildSignedBody deviceId client bind clientNonce d.challenge.serverNonce value)
    rpkTranscriptMax

/-- The fields of a signed access request: what the Pass-2 body carries, and the object its
    transcript binds. -/
structure Access where
  role : UInt8
  bind : UInt32
  clientNonce : List UInt8
  value : List UInt8
  sig : Signature

/-- `handle_generic_write` reads these from its Pass-2 body. -/
def writeAccess (req : List UInt8) : Access where
  role := roleGenericWrite
  bind := targetId req
  clientNonce := (req.drop 3).take rpkNonceLen
  value := (req.drop rpkWriteHdrLen).take (req.length - (rpkWriteHdrLen + asymSigSize))
  sig := slice 64 (rpkWriteHdrLen + (req.length - (rpkWriteHdrLen + asymSigSize))) req

/-- And `handle_command` these. -/
def commandAccess (req : List UInt8) : Access where
  role := roleFunctionCmd
  bind := rpkFunccmdId
  clientNonce := req.take rpkNonceLen
  value := (req.drop rpkNonceLen).take rpkCmdLen
  sig := slice 64 (rpkNonceLen + rpkCmdLen) req

/-- The signed access of a request, by the access object it goes to. -/
def accessOf (dataId : UInt32) (req : List UInt8) : Access :=
  if dataId = rpkFunccmdId then commandAccess req else writeAccess req

/-- A Pass-2 body of a signed write or command, of a length its handler takes. -/
def Pass2Body (dataId : UInt32) (req : List UInt8) : Prop :=
  (dataId = rpkGenericWriteId ∧ rpkWriteHdrLen + asymSigSize ≤ req.length ∧
      req.length - (rpkWriteHdrLen + asymSigSize) ≤ rpkValueMax) ∨
    (dataId = rpkFunccmdId ∧ req.length = rpkNonceLen + rpkCmdLen + asymSigSize)

/-- The transcript `verify_signed` builds for a request. -/
def verifyTranscript (d : Device E) (deviceId client : UInt16) (dataId : UInt32)
    (req : List UInt8) : List UInt8 :=
  accessTranscript d deviceId client (accessOf dataId req).role (accessOf dataId req).bind
    (accessOf dataId req).clientNonce (accessOf dataId req).value

/-- The facts that hold when `verify_signed` calls the primitive. -/
structure Attempt (d : Device E) (client : UInt16) (dataId : UInt32) (req : List UInt8)
    (peer : Pubkey) : Prop where
  held : HeldBy d.challenge client dataId
  body : Pass2Body dataId req
  peer : d.asym.getPeer rpkWritePeerSlot = some peer

/-- The device after `fbsec_sod_dispatch`. -/
def secureStep (gcm : Gcm) (plat : DevicePlatform E) (deviceId client : UInt16)
    (dataId : UInt32) (req : List UInt8) (d : Device E) : Device E :=
  let P := demoPorts deviceId plat.toPlatform
  { d with server := step gcm P d.server (.request client dataId req dispatchReplyMax) }

/-- **One request**: the replies it sent, the calls it made, and the device after it. -/
inductive Turn (gcm : Gcm) (ed : Ed25519) (plat : DevicePlatform E) (deviceId client : UInt16)
    (dataId : UInt32) (req : List UInt8) (d : Device E) :
    List Reply → List Call → Device E → Prop where
  /-- Answered or refused, with no effect. -/
  | answered {status : Abort} {body : List UInt8} :
      Turn gcm ed plat deviceId client dataId req d [⟨client, dataId, status, body⟩] [] d
  /-- The signed identity read. -/
  | identity {transcript body : List UInt8} (object : dataId = hoIdentityId) :
      Turn gcm ed plat deviceId client dataId req d [⟨client, dataId, abortNone, body⟩]
        [.signed roleIdentityRead transcript] d
  /-- The LDevID was generated and exported. -/
  | exported {asym : AsymStore} {pub : Pubkey} {transcript body : List UInt8}
      (object : dataId = hoLdevidId) (generated : d.asym.generateLdevid ed = some (asym, pub)) :
      Turn gcm ed plat deviceId client dataId req d [⟨client, dataId, abortNone, body⟩]
        [.signed roleLdevidExport transcript] { d with asym := asym }
  /-- A Provisioning key was installed. -/
  | provisioned {asym : AsymStore} (object : dataId = hoProvisionId)
      (installed : d.asym.installProvisioning ed req = some asym) :
      Turn gcm ed plat deviceId client dataId req d [⟨client, dataId, abortNone, []⟩] []
        (({ d with asym := asym }.setKeys (match asym.installedProvisioningKey with
          | some pk => installKey d.server.sod.keys keyidProvisioning pk keyidValueProvisioning
          | none => d.server.sod.keys)).setStage .owned)
  /-- A voucher was refused. -/
  | claimRefused (object : dataId = hoVoucherId) (refused : d.asym.claim ed req = none) :
      Turn gcm ed plat deviceId client dataId req d [⟨client, dataId, abortVoucher, []⟩]
        [.claim req false] d
  /-- A voucher was accepted. -/
  | claimed {asym : AsymStore} (object : dataId = hoVoucherId)
      (accepted : d.asym.claim ed req = some asym) :
      Turn gcm ed plat deviceId client dataId req d [⟨client, dataId, abortNone, []⟩]
        [.claim req true] ({ d with asym := asym }.setStage .owned)
  /-- A challenge was handed out. -/
  | armed {nonce : RpkNonce} {env : E} (object : dataId ∈
        [rpkGenericReadId, rpkGenericWriteId, rpkFunccmdId])
      (drawn : plat.nonce d.server.host.env = (some nonce, env)) :
      Turn gcm ed plat deviceId client dataId req d
        [⟨client, dataId, abortNone, toList nonce⟩] [.armed client dataId nonce]
        { d.setHost { d.server.host with env := env } with
          challenge := ⟨true, client, dataId, nonce⟩ }
  /-- The random source failed: the challenge that was outstanding stays. -/
  | armFailed {env : E} :
      Turn gcm ed plat deviceId client dataId req d [⟨client, dataId, abortInternal, []⟩] []
        (d.setHost { d.server.host with env := env })
  /-- A signed read was refused after its challenge was taken. -/
  | readRefused {rc status : Abort} {val : List UInt8} {host : DemoHost E}
      (object : dataId = rpkGenericReadId) (held : HeldBy d.challenge client dataId)
      (hook : demoReadBefore (targetId req) d.server.host = ((rc, val), host)) :
      Turn gcm ed plat deviceId client dataId req d [⟨client, dataId, status, []⟩]
        [.readBefore (targetId req) rc val] (disarmed (d.setHost host))
  /-- A signed read was answered. -/
  | readSigned {val body : List UInt8} {host : DemoHost E}
      (object : dataId = rpkGenericReadId) (held : HeldBy d.challenge client dataId)
      (len : req.length = 3 + rpkNonceLen) (short : val.length ≤ rpkValueMax)
      (hook : demoReadBefore (targetId req) d.server.host = ((abortNone, val), host)) :
      Turn gcm ed plat deviceId client dataId req d [⟨client, dataId, abortNone, body⟩]
        [.readBefore (targetId req) abortNone val,
          .signed roleGenericRead (accessTranscript d deviceId client roleGenericRead
            (targetId req) (req.drop 3) val)]
        (disarmed (d.setHost host))
  /-- No authorizing key is installed: the challenge is spent. -/
  | noPeer (held : HeldBy d.challenge client dataId)
      (peer : d.asym.getPeer rpkWritePeerSlot = none) :
      Turn gcm ed plat deviceId client dataId req d [⟨client, dataId, abortSigVerify, []⟩] []
        (disarmed d)
  /-- The signature did not verify. -/
  | forged {peer : Pubkey} (attempt : Attempt d client dataId req peer)
      (bad : ed.verify peer (verifyTranscript d deviceId client dataId req)
        (accessOf dataId req).sig = false) :
      Turn gcm ed plat deviceId client dataId req d [⟨client, dataId, abortSigVerify, []⟩]
        [.verified (verifyTranscript d deviceId client dataId req) (accessOf dataId req).sig
          false]
        (disarmed d)
  /-- A signed write reached `write_after`. -/
  | written {peer : Pubkey} {rc : Abort} {keys : KeyStore} {host : DemoHost E}
      (object : dataId = rpkGenericWriteId) (attempt : Attempt d client dataId req peer)
      (good : ed.verify peer (verifyTranscript d deviceId client dataId req)
        (accessOf dataId req).sig = true)
      (hook : demoWriteAfter (targetId req) (writeAccess req).value d.server.sod.lastWriteKid
        d.server.sod.keys d.server.host = (rc, keys, host)) :
      Turn gcm ed plat deviceId client dataId req d [⟨client, dataId, rc, []⟩]
        [.verified (verifyTranscript d deviceId client dataId req) (accessOf dataId req).sig true,
          .writeAfter (targetId req) (writeAccess req).value rc]
        (((disarmed d).setKeys keys).setHost host)
  /-- A signed command was executed. -/
  | commanded {peer : Pubkey}
      (object : dataId = rpkFunccmdId) (attempt : Attempt d client dataId req peer)
      (good : ed.verify peer (verifyTranscript d deviceId client dataId req)
        (accessOf dataId req).sig = true)
      (code : commandCode (commandAccess req).value ≠ cmdFactoryRestore) :
      Turn gcm ed plat deviceId client dataId req d [⟨client, dataId, abortNone, []⟩]
        [.verified (verifyTranscript d deviceId client dataId req) (accessOf dataId req).sig true,
          .command (commandCode (commandAccess req).value)]
        (disarmed d)
  /-- A signed command decommissioned the device. -/
  | decommissioned {peer : Pubkey}
      (object : dataId = rpkFunccmdId) (attempt : Attempt d client dataId req peer)
      (good : ed.verify peer (verifyTranscript d deviceId client dataId req)
        (accessOf dataId req).sig = true)
      (code : commandCode (commandAccess req).value = cmdFactoryRestore) :
      Turn gcm ed plat deviceId client dataId req d [⟨client, dataId, abortNone, []⟩]
        [.verified (verifyTranscript d deviceId client dataId req) (accessOf dataId req).sig true,
          .command (commandCode (commandAccess req).value), .decommission]
        (disarmed d).decommission
  /-- The secure object dictionary took the request, or no tier did. -/
  | secured {status : Abort} {body : List UInt8} :
      Turn gcm ed plat deviceId client dataId req d [⟨client, dataId, status, body⟩] []
        (secureStep gcm plat deviceId client dataId req d)

/-- A tier either leaves the world and passes the request on, or it took a turn. -/
def TierTurn (gcm : Gcm) (ed : Ed25519) (plat : DevicePlatform E) (deviceId client : UInt16)
    (dataId : UInt32) (req : List UInt8) (w : DevWorld E) (handled : Bool) (w' : DevWorld E) :
    Prop :=
  if handled then ∃ sent calls, w'.sent = w.sent ++ sent ∧ w'.calls = w.calls ++ calls ∧
    Turn gcm ed plat deviceId client dataId req w.device sent calls w'.device
  else w' = w

section Tiers

variable {client : UInt16} {dataId : UInt32} {req : List UInt8} {w : DevWorld E}

theorem tier_passed : TierTurn gcm ed plat deviceId client dataId req w false w := rfl

theorem tier_taken {w' : DevWorld E} {sent : List Reply} {calls : List Call}
    (h : Turn gcm ed plat deviceId client dataId req w.device sent calls w'.device)
    (hsent : w'.sent = w.sent ++ sent) (hcalls : w'.calls = w.calls ++ calls) :
    TierTurn gcm ed plat deviceId client dataId req w true w' :=
  ⟨sent, calls, hsent, hcalls, h⟩

theorem tier_answered {status : Abort} {body : List UInt8} :
    TierTurn gcm ed plat deviceId client dataId req w true
      { w with sent := w.sent ++ [⟨client, dataId, status, body⟩] } :=
  tier_taken .answered rfl (List.append_nil _).symm

/-! ## The tiers that only answer -/

theorem tryServeDescriptor_turn :
    wp (tryServeDescriptor client dataId req)
      (TierTurn gcm ed plat deviceId client dataId req w) w := by
  unfold tryServeDescriptor
  simp only [wp_ite, wp_bind, wp_pure, wp_getDevice, wp_emit]
  exact ⟨fun _ => tier_passed, fun _ => ⟨fun _ => tier_answered, fun _ => tier_answered⟩⟩

theorem tryServeConstOd_turn :
    wp (tryServeConstOd client dataId req)
      (TierTurn gcm ed plat deviceId client dataId req w) w := by
  unfold tryServeConstOd
  simp only [wp_ite, wp_bind, wp_pure, wp_getDevice]
  refine ⟨fun _ => tier_passed, fun _ => ?_⟩
  cases constOdGet w.device.constOd (dataIdIndex dataId) (dataIdSub dataId) with
  | none => exact tier_passed
  | some value =>
      simp only [wp_ite, wp_emit]
      exact ⟨fun _ => tier_answered, fun _ => tier_answered⟩

theorem securityTry_turn :
    wp (securityTry client dataId req)
      (TierTurn gcm ed plat deviceId client dataId req w) w := by
  unfold securityTry serveKeyIds serveSessionSalt
  simp only [wp_ite, wp_bind, wp_pure, wp_getDevice, wp_emit]
  simp only [tier_answered, tier_passed, implies_true, and_self]

/-! ## Handover -/

/-- A body of at most 168 bytes is signed, never refused. -/
theorem wp_signIdevid {role : UInt8} {body : List UInt8} (h : body.length ≤ 168)
    {Q : Option Signature → DevWorld E → Prop} :
    wp (signIdevid ed role body) Q w ↔ ∃ transcript,
      Q (some (ed.sign w.device.asym.idevid transcript))
        { w with calls := w.calls ++ [.signed role transcript] } ∧
      transcript = asymTranscript role body (asymTranscriptOverhead + 168) := by
  have hlen : ((asymTranscript role body (asymTranscriptOverhead + 168)).length == 0) = false := by
    rw [asymTranscript_of_fits (by omega) (by decide)]
    simp [asymDomain]
  unfold signIdevid
  simp only [wp_ite, wp_bind, wp_pure, wp_getDevice, wp_record, hlen, exists_eq_right]
  simp

theorem handleIdentity_turn :
    wp (handleIdentity ed client req)
      (TierTurn gcm ed plat deviceId client hoIdentityId req w) w := by
  unfold handleIdentity
  simp only [wp_ite, wp_bind, wp_getDevice, wp_emit]
  refine ⟨fun _ => tier_answered, fun hlen => ?_⟩
  have hfits : (identityBlob w.device.asym.serial w.device.asym.idevid.pub ++ req).length
      ≤ 168 := by
    have hreq : req.length = 16 := by simpa using hlen
    simp [identityBlob, toList, hreq]
  rw [wp_signIdevid hfits]
  exact ⟨_, tier_taken (.identity rfl) rfl rfl, rfl⟩

theorem handleLdevid_turn :
    wp (handleLdevid ed client req)
      (TierTurn gcm ed plat deviceId client hoLdevidId req w) w := by
  unfold handleLdevid
  simp only [wp_ite, wp_bind, wp_getDevice, wp_emit]
  refine ⟨fun _ => tier_answered, fun _ => ?_⟩
  cases hgen : w.device.asym.generateLdevid ed with
  | none => exact tier_answered
  | some generated =>
      obtain ⟨asym, pub⟩ := generated
      simp only [wp_bind, wp_setDevice]
      rw [wp_signIdevid (by simp [toList])]
      exact ⟨_, tier_taken (.exported rfl hgen) rfl rfl, rfl⟩

theorem handleProvision_turn :
    wp (handleProvision ed client req)
      (TierTurn gcm ed plat deviceId client hoProvisionId req w) w := by
  unfold handleProvision
  simp only [wp_bind, wp_getDevice]
  cases hins : w.device.asym.installProvisioning ed req with
  | none => exact tier_answered
  | some asym =>
      simp only [wp_bind, wp_setDevice, wp_emit]
      exact tier_taken (.provisioned rfl hins) rfl (List.append_nil _).symm

theorem handleVoucher_turn :
    wp (handleVoucher ed client req)
      (TierTurn gcm ed plat deviceId client hoVoucherId req w) w := by
  unfold handleVoucher
  simp only [wp_bind, wp_getDevice]
  cases hclaim : w.device.asym.claim ed req with
  | none =>
      simp only [wp_bind, wp_record, wp_emit]
      exact tier_taken (.claimRefused rfl hclaim) rfl rfl
  | some asym =>
      simp only [wp_bind, wp_record, wp_setDevice, wp_emit]
      exact tier_taken (.claimed rfl hclaim) rfl rfl

theorem handoverTry_turn :
    wp (handoverTry ed client dataId req)
      (TierTurn gcm ed plat deviceId client dataId req w) w := by
  unfold handoverTry
  simp only [wp_ite, beq_iff_eq]
  refine ⟨?identity, fun _ => ⟨?ldevid, fun _ => ⟨?provision, fun _ => ⟨?voucher, fun _ =>
    ⟨?epoch, fun _ => tier_passed⟩⟩⟩⟩⟩
  case identity => rintro rfl; exact handleIdentity_turn
  case ldevid => rintro rfl; exact handleLdevid_turn
  case provision => rintro rfl; exact handleProvision_turn
  case voucher => rintro rfl; exact handleVoucher_turn
  case epoch => rintro rfl; exact tier_answered

/-! ## Signed accesses -/

theorem armChallenge_turn
    (object : dataId ∈ [rpkGenericReadId, rpkGenericWriteId, rpkFunccmdId]) :
    wp (armChallenge plat client dataId)
      (TierTurn gcm ed plat deviceId client dataId req w) w := by
  unfold armChallenge
  simp only [wp_bind, wp_portNonce]
  rintro (_ | nonce) env hdraw
  · exact tier_taken .armFailed rfl (List.append_nil _).symm
  · simp only [wp_bind, wp_setChallenge, wp_record, wp_emit]
    exact tier_taken (.armed object hdraw) rfl rfl

/-- The body of a signed access with a value of at most 16 bytes makes a transcript. -/
theorem accessTranscript_of_fits {d : Device E} {role : UInt8} {bind : UInt32}
    {clientNonce value : List UInt8} (hnonce : clientNonce.length = rpkNonceLen)
    (hvalue : value.length ≤ rpkValueMax) :
    accessTranscript d deviceId client role bind clientNonce value
      = asymDomain ++ [0x00, asymSigAlg, role]
        ++ buildSignedBody deviceId client bind clientNonce d.challenge.serverNonce value := by
  refine asymTranscript_of_fits ?_ (by decide)
  have hnonce' : clientNonce.length = 16 := hnonce
  have hvalue' : value.length ≤ 16 := hvalue
  have hlen : (buildSignedBody deviceId client bind clientNonce d.challenge.serverNonce
      value).length = 42 + value.length := by
    simp only [buildSignedBody, putU16le, putU32le, List.length_append, List.length_cons,
      List.length_nil, toList, List.length_ofFn, hnonce']
  show 15 + _ ≤ 64 + 15
  omega

/-- A Pass-2 body carries a full client nonce and a value that fits. -/
theorem pass2_lengths (body : Pass2Body dataId req) :
    (accessOf dataId req).clientNonce.length = rpkNonceLen ∧
      (accessOf dataId req).value.length ≤ rpkValueMax := by
  obtain ⟨rfl, hmin, hmax⟩ | ⟨rfl, hlen⟩ := body
  · have hmin' : 83 ≤ req.length := hmin
    have hmax' : req.length - 83 ≤ 16 := hmax
    rw [accessOf, if_neg (by decide)]
    constructor
    · show ((req.drop 3).take 16).length = 16
      rw [List.length_take, List.length_drop]
      omega
    · show ((req.drop 19).take (req.length - 83)).length ≤ 16
      rw [List.length_take]
      omega
  · have hlen' : req.length = 84 := hlen
    rw [accessOf, if_pos rfl]
    constructor
    · show (req.take 16).length = 16
      rw [List.length_take]
      omega
    · show ((req.drop 16).take 4).length ≤ 16
      rw [List.length_take]
      omega

/-- `verify_signed` refuses before the primitive is called, or reports what it said. -/
theorem wp_verifySigned {Q : Abort → DevWorld E → Prop} (body : Pass2Body dataId req)
    (unarmed : ¬ HeldBy w.device.challenge client dataId → Q abortNoSession w)
    (noPeer : HeldBy w.device.challenge client dataId →
      w.device.asym.getPeer rpkWritePeerSlot = none →
      Q abortSigVerify { w with device := disarmed w.device })
    (attempted : ∀ peer, Attempt w.device client dataId req peer →
      Q (if ed.verify peer (verifyTranscript w.device deviceId client dataId req)
          (accessOf dataId req).sig then abortNone else abortSigVerify)
        { w with
          device := disarmed w.device
          calls := w.calls ++ [.verified (verifyTranscript w.device deviceId client dataId req)
            (accessOf dataId req).sig
            (ed.verify peer (verifyTranscript w.device deviceId client dataId req)
              (accessOf dataId req).sig)] }) :
    wp (verifySigned ed deviceId client dataId (accessOf dataId req).bind
      (accessOf dataId req).role (accessOf dataId req).clientNonce (accessOf dataId req).value
      (accessOf dataId req).sig) Q w := by
  obtain ⟨hnonce, hvalue⟩ := pass2_lengths body
  have hbuilt : ((verifyTranscript w.device deviceId client dataId req).length == 0) = false := by
    rw [verifyTranscript, accessTranscript_of_fits hnonce hvalue]
    simp [asymDomain]
  unfold verifySigned
  simp only [wp_ite, wp_bind, wp_pure, wp_getDevice]
  refine ⟨fun h => unarmed ?_, fun h => ?_⟩
  · rintro ⟨h1, h2, h3⟩
    simp [h1, h2, h3] at h
  have held : HeldBy w.device.challenge client dataId := by
    simp only [Bool.or_eq_true, Bool.not_eq_true', bne_iff_ne, ne_eq, not_or, not_not,
      Bool.not_eq_false] at h
    exact ⟨h.1.1, h.1.2, h.2⟩
  cases hpeer : w.device.asym.getPeer rpkWritePeerSlot with
  | none => exact noPeer held hpeer
  | some peer =>
      have hrun := attempted peer ⟨held, body, hpeer⟩
      simp only [wp_ite, wp_bind, wp_pure, wp_disarm, wp_record]
      refine ⟨fun hempty => ?_, fun _ => ⟨fun hbad => ?_, fun hgood => ?_⟩⟩
      · exact absurd (hbuilt.symm.trans hempty) (by decide)
      · have hbad' : ed.verify peer (verifyTranscript w.device deviceId client dataId req)
            (accessOf dataId req).sig = false := (Bool.not_eq_true' _).mp hbad
        rw [if_neg (ne_true_of_eq_false hbad')] at hrun
        exact hrun
      · have hgood' : ed.verify peer (verifyTranscript w.device deviceId client dataId req)
            (accessOf dataId req).sig = true :=
          (Bool.not_eq_false _).mp fun h => hgood ((Bool.not_eq_true' _).mpr h)
        rw [if_pos hgood'] at hrun
        exact hrun

theorem handleGenericRead_turn :
    wp (handleGenericRead ed plat deviceId client req)
      (TierTurn gcm ed plat deviceId client rpkGenericReadId req w) w := by
  unfold handleGenericRead
  simp only [wp_ite, wp_bind, wp_getDevice, wp_emit, wp_hookReadBefore, wp_disarm, wp_record]
  refine ⟨fun _ => armChallenge_turn (by decide), fun _ => ⟨fun _ => tier_answered, fun hlen =>
    ⟨fun _ => tier_answered, fun h => ?_⟩⟩⟩
  have held : HeldBy w.device.challenge client rpkGenericReadId := by
    simp only [Bool.or_eq_true, Bool.not_eq_true', bne_iff_ne, ne_eq, not_or, not_not,
      Bool.not_eq_false] at h
    exact ⟨h.1.1, h.1.2, h.2⟩
  have hreq : req.length = 3 + rpkNonceLen := by simpa using hlen
  rintro rc val host hook
  refine ⟨fun _ => tier_taken (.readRefused rfl held hook) rfl rfl, fun hrc =>
    ⟨fun _ => tier_taken (.readRefused rfl held hook) rfl rfl, fun hval => ⟨fun hempty => ?_,
      fun _ => ?_⟩⟩⟩
  · exact tier_taken (.readRefused rfl held hook) rfl rfl
  · have hrc' : rc = abortNone := by simpa using hrc
    subst hrc'
    refine tier_taken (.readSigned rfl held hreq (not_lt.mp hval) hook) rfl ?_
    simp [accessTranscript]

theorem handleGenericWrite_turn :
    wp (handleGenericWrite ed plat deviceId client req)
      (TierTurn gcm ed plat deviceId client rpkGenericWriteId req w) w := by
  unfold handleGenericWrite
  simp only [wp_ite, wp_bind, wp_emit]
  refine ⟨fun _ => armChallenge_turn (by decide), fun _ => ⟨fun _ => tier_answered, fun hmin =>
    ⟨fun _ => tier_answered, fun hmax => ?_⟩⟩⟩
  have body : Pass2Body rpkGenericWriteId req := .inl ⟨rfl, not_lt.mp hmin, not_lt.mp hmax⟩
  refine wp_verifySigned body (fun _ => ?unarmed) (fun held hpeer => ?noPeer)
    (fun peer attempt => ?attempted) <;>
    simp only [wp_ite, wp_bind, wp_emit, wp_hookWriteAfter]
  case unarmed => exact ⟨fun _ => tier_answered, fun h => absurd h (by decide)⟩
  case noPeer =>
    exact ⟨fun _ => tier_taken (.noPeer held hpeer) rfl (List.append_nil _).symm,
      fun h => absurd h (by decide)⟩
  case attempted =>
    cases hgood : ed.verify peer (verifyTranscript w.device deviceId client rpkGenericWriteId req)
        (accessOf rpkGenericWriteId req).sig with
    | false =>
        exact ⟨fun _ => tier_taken (.forged attempt hgood) rfl rfl,
          fun h => absurd h (by decide)⟩
    | true =>
        refine ⟨fun h => absurd h (by decide), fun _ rc keys host hook => ?_⟩
        refine tier_taken (.written rfl attempt hgood hook) rfl ?_
        rw [List.append_assoc]
        rfl

theorem handleCommand_turn :
    wp (handleCommand ed plat deviceId client req)
      (TierTurn gcm ed plat deviceId client rpkFunccmdId req w) w := by
  unfold handleCommand
  simp only [wp_ite, wp_bind, wp_emit]
  refine ⟨fun _ => armChallenge_turn (by decide), fun _ => ⟨fun _ => tier_answered, fun hlen => ?_⟩⟩
  have body : Pass2Body rpkFunccmdId req := .inr ⟨rfl, by simpa using hlen⟩
  refine wp_verifySigned body (fun _ => ?unarmed) (fun held hpeer => ?noPeer)
    (fun peer attempt => ?attempted) <;>
    simp only [wp_ite, wp_bind, wp_emit, wp_record, wp_getDevice, wp_setDevice]
  case unarmed => exact ⟨fun _ => tier_answered, fun h => absurd h (by decide)⟩
  case noPeer =>
    exact ⟨fun _ => tier_taken (.noPeer held hpeer) rfl (List.append_nil _).symm,
      fun h => absurd h (by decide)⟩
  case attempted =>
    cases hgood : ed.verify peer (verifyTranscript w.device deviceId client rpkFunccmdId req)
        (accessOf rpkFunccmdId req).sig with
    | false =>
        exact ⟨fun _ => tier_taken (.forged attempt hgood) rfl rfl,
          fun h => absurd h (by decide)⟩
    | true =>
        refine ⟨fun h => absurd h (by decide), fun _ => ⟨fun hcode => ?_, fun hcode => ?_⟩⟩
        · refine tier_taken (.decommissioned rfl attempt hgood (beq_iff_eq.mp hcode)) rfl ?_
          rw [List.append_assoc, List.append_assoc]
          rfl
        · refine tier_taken (.commanded rfl attempt hgood (fun h => hcode (beq_iff_eq.mpr h))) rfl ?_
          rw [List.append_assoc]
          rfl

theorem rpkTry_turn :
    wp (rpkTry ed plat deviceId client dataId req)
      (TierTurn gcm ed plat deviceId client dataId req w) w := by
  unfold rpkTry handlePubkeys handlePktypes
  simp only [wp_ite, wp_bind, wp_getDevice, wp_emit, beq_iff_eq]
  refine ⟨fun _ => ?pubkeys, fun _ => ⟨fun _ => ?pktypes, fun _ => ⟨?read, fun _ => ⟨?write,
    fun _ => ⟨?command, fun _ => tier_passed⟩⟩⟩⟩⟩
  case pubkeys => simp only [tier_answered, implies_true, and_self]
  case pktypes => simp only [tier_answered, implies_true, and_self]
  case read => rintro rfl; exact handleGenericRead_turn
  case write => rintro rfl; exact handleGenericWrite_turn
  case command => rintro rfl; exact handleCommand_turn

/-! ## The dispatcher -/

/-- A tier in front of the rest of the chain: if it passes, the rest sees the same world. -/
theorem wp_tier {tier : DevM E Bool} {rest : DevM E Unit} {Q : Unit → DevWorld E → Prop}
    (htier : wp tier (TierTurn gcm ed plat deviceId client dataId req w) w)
    (taken : ∀ w', TierTurn gcm ed plat deviceId client dataId req w true w' → Q () w')
    (passed : wp rest Q w) :
    wp (tier >>= fun handled => if handled then pure () else rest) Q w := by
  rw [wp_bind]
  refine wp_mono htier ?_
  rintro (_ | _) w' h
  · obtain rfl : w' = w := h
    exact passed
  · exact taken w' h

/-- A tier that passes a request on. -/
theorem wp_passed {tier : DevM E Bool} {rest : DevM E Unit} {Q : Unit → DevWorld E → Prop}
    (h : tier w = (false, w)) :
    wp (tier >>= fun handled => if handled then pure () else rest) Q w ↔ wp rest Q w := by
  rw [wp_bind, wp, h]
  rfl

/-- And one that takes it. -/
theorem wp_served {tier : DevM E Bool} {rest : DevM E Unit} {Q : Unit → DevWorld E → Prop}
    (h : (tier w).1 = true) :
    wp (tier >>= fun handled => if handled then pure () else rest) Q w ↔ Q () (tier w).2 := by
  rw [wp_bind, wp, h]
  rfl

/-- An id without a constant entry passes the constant entries. -/
theorem tryServeConstOd_passes
    (hconst : constOdGet w.device.constOd (dataIdIndex dataId) (dataIdSub dataId) = none) :
    tryServeConstOd client dataId req w = (false, w) := by
  have h : wp (tryServeConstOd client dataId req) (fun handled w' => handled = false ∧ w' = w)
      w := by
    unfold tryServeConstOd
    simp only [wp_bind, wp_ite, wp_pure, wp_getDevice, hconst]
    exact ⟨fun _ => ⟨trivial, trivial⟩, fun _ => ⟨trivial, trivial⟩⟩
  exact Prod.ext h.1 h.2

/-- **Every request takes one turn.** -/
theorem dispatchRequest_turn {device : Device E} :
    wp (dispatchRequest gcm ed plat deviceId client dataId req)
      (fun _ w' => Turn gcm ed plat deviceId client dataId req device w'.sent w'.calls w'.device)
      ⟨device, [], []⟩ := by
  have taken : ∀ w', TierTurn gcm ed plat deviceId client dataId req ⟨device, [], []⟩ true w' →
      Turn gcm ed plat deviceId client dataId req device w'.sent w'.calls w'.device := by
    rintro w' ⟨sent, calls, hsent, hcalls, h⟩
    rwa [hsent, hcalls, List.nil_append, List.nil_append]
  unfold dispatchRequest
  refine wp_tier tryServeDescriptor_turn taken ?_
  refine wp_tier tryServeConstOd_turn taken ?_
  refine wp_tier securityTry_turn taken ?_
  refine wp_tier handoverTry_turn taken ?_
  refine wp_tier rpkTry_turn taken ?_
  unfold sodTier
  simp only [wp_bind, wp_getDevice, wp_setDevice]
  cases (exchange gcm (demoPorts deviceId plat.toPlatform) device.server client dataId req
    dispatchReplyMax).result with
  | ok reply => exact .secured
  | defer => exact .secured
  | abort code => exact .secured
  | notHandled => exact .secured

end Tiers

end SofaTurn
