import Sofa.Asym
import Sofa.DemoServer
import Sofa.Lib.StateWp

/-! # The reference server, tier by tier

    `fbsec_server_dispatch_request` offers a request to one tier after the other: the
    capability and status descriptors, the constant entries, the security objects, the
    handover objects, the signed accesses, and at last the secure object dictionary.  Each
    tier says whether the request was its own.

    The state is threaded through a state monad.  Next to the device it holds the replies
    handed to the transport, and a log of the calls that signatures, hooks and ownership
    turn on; the code reads neither. -/

namespace SofaDevice

open ByteBlock SofaConfig SofaAead SofaOd SofaServer SofaDemo SofaAsym

/-! ## Identifiers -/

abbrev abortReadOnly : Abort := 0x32
abbrev abortNoSubindex : Abort := 0x34
abbrev abortSigVerify : Abort := 0xC1
abbrev abortVoucher : Abort := 0xC2
abbrev abortNotImplemented : Abort := 0xC9

/-- A data id is an index, a sub-index and a reserved low byte. -/
def dataIdIndex (dataId : UInt32) : UInt16 := (dataId >>> 16).toUInt16
def dataIdSub (dataId : UInt32) : UInt8 := (dataId >>> 8).toUInt8
def dataIdLow (dataId : UInt32) : UInt8 := dataId.toUInt8

abbrev descCapIndex : UInt16 := 0xC000
abbrev descStatIndex : UInt16 := 0xC001
abbrev secIndexSessionSalt : UInt16 := 0xC010
abbrev secIndexKeyIds : UInt16 := 0xC011
abbrev rpkPubkeysIndex : UInt16 := 0xC021
abbrev rpkPktypesIndex : UInt16 := 0xC022
abbrev hoIdentityId : UInt32 := 0xC0280000
abbrev hoEpochId : UInt32 := 0xC0200100
abbrev hoVoucherId : UInt32 := 0xC0200200
abbrev hoLdevidId : UInt32 := 0xC0200300
abbrev hoProvisionId : UInt32 := 0xC02F0000
abbrev rpkGenericReadId : UInt32 := 0xC0420100
abbrev rpkGenericWriteId : UInt32 := 0xC0420200
abbrev rpkFunccmdId : UInt32 := 0xC0490000

/-- The objects of the signed accesses. -/
def accessObjects : List UInt32 := [rpkGenericReadId, rpkGenericWriteId, rpkFunccmdId]

abbrev hoRtLen : Nat := 16
abbrev rpkNonceLen : Nat := 16
abbrev rpkValueMax : Nat := 16
abbrev rpkCmdLen : Nat := 4
/-- `FBSEC_RPK_WRITE_HDR_LEN`: target index, sub-index and client nonce. -/
abbrev rpkWriteHdrLen : Nat := 3 + rpkNonceLen
/-- `FBSEC_HO_CMD_FACTORY_RESTORE`. -/
abbrev cmdFactoryRestore : UInt32 := 0x10
/-- `RPK_WRITE_PEER_SLOT`. -/
abbrev rpkWritePeerSlot : UInt8 := 1
/-- `RPK_TRANSCRIPT_MAX`. -/
abbrev rpkTranscriptMax : Nat := 64 + asymTranscriptOverhead
/-- `FBSEC_SERVER_DISPATCH_REPLY_MAX`. -/
abbrev dispatchReplyMax : Nat := 64

/-- Little-endian stores. -/
def putU16le (v : UInt16) : List UInt8 := [v.toUInt8, (v >>> 8).toUInt8]
def putU32le (v : UInt32) : List UInt8 :=
  [v.toUInt8, (v >>> 8).toUInt8, (v >>> 16).toUInt8, (v >>> 24).toUInt8]

/-! ## State -/

abbrev RpkNonce := Block 16

/-- `g_challenge`: the one outstanding signed-access challenge. -/
structure Challenge where
  armed : Bool := false
  clientDev : UInt16 := 0
  dataId : UInt32 := 0
  serverNonce : RpkNonce := zero 16

/-- `const_od_entry_t`: a constant entry of the od-file. -/
structure ConstEntry where
  index : UInt16
  sub : UInt8
  data : List UInt8

/-- The platform, with the draws of its random source that fill an RPK nonce. -/
structure DevicePlatform (E : Type) extends Platform E where
  nonce : E → Option RpkNonce × E

/-- The statics of the reference server: the secure OD and the hooks, the identity store,
    the challenge and the constant entries. -/
structure Device (E : Type) where
  server : Server (DemoHost E)
  asym : AsymStore
  challenge : Challenge
  constOd : List ConstEntry

/-- One call of `send_reply`. -/
structure Reply where
  client : UInt16
  dataId : UInt32
  status : Abort
  body : List UInt8
  deriving DecidableEq

/-- The calls the log records, each with its outcome. -/
inductive Call where
  /-- `arm_challenge` handed out a nonce for an access object. -/
  | armed (client : UInt16) (object : UInt32) (nonce : RpkNonce)
  /-- `fbsec_asym_sign` with the IDevID, in one of the roles. -/
  | signed (role : UInt8) (transcript : List UInt8)
  /-- `fbsec_asym_verify` of a signed access. -/
  | verified (transcript : List UInt8) (sig : Signature) (ok : Bool)
  | readBefore (target : UInt32) (rc : Abort) (value : List UInt8)
  | writeAfter (target : UInt32) (value : List UInt8) (rc : Abort)
  /-- A function command was executed. -/
  | command (code : UInt32)
  /-- `fbsec_server_asym_claim`. -/
  | claim (voucher : List UInt8) (ok : Bool)
  | decommission
  deriving DecidableEq

/-- The device, the replies of one request and the calls made for it. -/
structure DevWorld (E : Type) where
  device : Device E
  sent : List Reply
  calls : List Call

abbrev DevM (E : Type) := StateM (DevWorld E)

variable {E : Type}

def getDevice : DevM E (Device E) := fun w => (w.device, w)

def setDevice (d : Device E) : DevM E Unit := fun w => ((), { w with device := d })

def record (c : Call) : DevM E Unit := fun w => ((), { w with calls := w.calls ++ [c] })

/-- `emit`, and the other ways to call `send_reply`: the request was handled. -/
def emit (client : UInt16) (dataId : UInt32) (status : Abort) (body : List UInt8) :
    DevM E Bool := fun w =>
  (true, { w with sent := w.sent ++ [⟨client, dataId, status, body⟩] })

/-! ## Updates -/

/-- The hooks' host replaced. -/
def Device.setHost (d : Device E) (host : DemoHost E) : Device E :=
  { d with server := { d.server with host := host } }

/-- `fbsec_server_lifecycle_set`. -/
def Device.setStage (d : Device E) (stage : Stage) : Device E :=
  d.setHost { d.server.host with stage := stage }

/-- The key store replaced. -/
def Device.setKeys (d : Device E) (keys : KeyStore) : Device E :=
  { d with server := { d.server with sod := { d.server.sod with keys := keys } } }

/-- `fbsec_sod_set_key_ex` with its result discarded. -/
def installKey (keys : KeyStore) (keyId : UInt8) (key : Key) (idVal : UInt32) : KeyStore :=
  (keys.setKeyEx keyId key idVal).getD keys

/-- `FBSEC_DEMO_CLAIM_TOKEN`, its first 16 bytes. -/
def claimToken : Key :=
  ![0x01, 0x23, 0x45, 0x67, 0x89, 0xAB, 0xCD, 0xEF, 0xFE, 0xDC, 0xBA, 0x98, 0x76, 0x54, 0x32, 0x10]

abbrev keyidValueProvisioning : UInt32 := 0x1001
abbrev keyidValueIntegrator : UInt32 := 0x1002
abbrev keyidValueOperator : UInt32 := 0x1003
abbrev keyidValueClaimToken : UInt32 := 0x1000

/-- `fbsec_server_install_claim_token`. -/
def installClaimToken (keys : KeyStore) : KeyStore :=
  if keys.hasKey keyidClaimToken then keys
  else installKey keys keyidClaimToken claimToken keyidValueClaimToken

/-- `fbsec_server_handover_decommission`. -/
def Device.decommission (d : Device E) : Device E :=
  let wiped := d.setKeys (installClaimToken .clear)
  { wiped with asym := wiped.asym.decommission }.setStage .uncommissioned

/-! ## C000h and C001h: the descriptors -/

/-- `fbsec_server_lifecycle_commissioning`: 1 for a commissioned device. -/
def commissioningByte : Stage → UInt8
  | .owned | .operational => 0x01
  | .factory | .uncommissioned | .decommissioned => 0x00

/-- Identity flags: IDevID, LDevID. -/
def identityFlags (asym : AsymStore) : UInt8 :=
  (if asym.ready then 0x01 else 0x00) ||| (if asym.ldevidPresent then 0x02 else 0x00)

/-- Installed session keys: Provisioning, Integrator, Operator. -/
def keyFlags (keys : KeyStore) : UInt8 :=
  (if keys.hasKey keyidProvisioning then 0x01 else 0x00)
    ||| (if keys.hasKey keyidIntegrator then 0x02 else 0x00)
    ||| (if keys.hasKey keyidOperator then 0x04 else 0x00)

/-- The AEAD bitmap (AES-128-GCM) with the tag length in byte 1. -/
abbrev aeadAndTag : UInt32 := 0x1001

/-- `fbsec_status_serialize_sub` of the record `fbsec_descriptor_build_status` makes. -/
def statusSub (d : Device E) (sub : UInt8) : List UInt8 :=
  match sub with
  | 0x00 => [0x05]
  | 0x01 => [commissioningByte d.server.host.stage]
  | 0x02 => [0x04]
  | 0x03 => [keyFlags d.server.sod.keys]
  | 0x04 => putU32le aeadAndTag
  | 0x05 => [identityFlags d.asym]
  | _ => []

/-- `fbsec_caps_serialize_sub` of the record `fbsec_descriptor_build_caps` makes. -/
def capsSub (d : Device E) (sub : UInt8) : List UInt8 :=
  match sub with
  | 0x00 => [0x08]
  | 0x01 => putU32le 0
  | 0x02 => putU32le aeadAndTag
  | 0x03 => putU16le 0x0001
  | 0x04 => putU16le 0x0001
  | 0x05 => [0x07]
  | 0x06 => [identityFlags d.asym]
  | 0x07 => [0x07]
  | 0x08 => putU16le 0x0003
  | _ => []

/-- `try_serve_descriptor`. -/
def tryServeDescriptor (client : UInt16) (dataId : UInt32) (payload : List UInt8) :
    DevM E Bool := do
  let index := dataIdIndex dataId
  let sub := dataIdSub dataId
  if index != descCapIndex && index != descStatIndex then
    return false
  let d ← getDevice
  let isStatus := index == descStatIndex
  let highest : UInt8 := if isStatus then 0x05 else 0x08
  let subExists := dataIdLow dataId == 0 && sub ≤ highest
  let value :=
    if subExists && payload.length == 0 then
      if isStatus then statusSub d sub else capsSub d sub
    else []
  if value.length != 0 then
    emit client dataId abortNone value
  else
    emit client dataId (if subExists then abortReadOnly else abortNoSubindex) []

/-! ## Constant entries -/

/-- `fbsec_const_od_get`. -/
def constOdGet (table : List ConstEntry) (index : UInt16) (sub : UInt8) : Option (List UInt8) :=
  (table.find? fun e => e.index == index && e.sub == sub).map (·.data)

/-- `try_serve_const_od`. -/
def tryServeConstOd (client : UInt16) (dataId : UInt32) (payload : List UInt8) :
    DevM E Bool := do
  if dataIdLow dataId != 0 then
    return false
  let d ← getDevice
  let some value := constOdGet d.constOd (dataIdIndex dataId) (dataIdSub dataId) | return false
  if payload.length != 0 then
    emit client dataId abortReadOnly []
  else
    emit client dataId abortNone value

/-! ## C010h and C011h: session salt and key ids -/

/-- `fbsec_sod_get_key_id_value`. -/
def keyIdValue (keys : KeyStore) (keyId : UInt8) : UInt32 :=
  if keySlotInRange keyId then ((keys.slot keyId).map (·.idVal)).getD 0 else 0

/-- `serve_key_ids`. -/
def serveKeyIds (client : UInt16) (dataId : UInt32) (sub : UInt8) (payload : List UInt8) :
    DevM E Bool := do
  let d ← getDevice
  if payload.length != 0 then
    emit client dataId abortReadOnly []
  else if sub == 0x00 then
    emit client dataId abortNone [sodKeySlots]
  else if sub ≤ sodKeySlots then
    emit client dataId abortNone (putU32le (keyIdValue d.server.sod.keys sub))
  else
    emit client dataId abortNoSubindex []

/-- `serve_session_salt`. -/
def serveSessionSalt (client : UInt16) (dataId : UInt32) (sub : UInt8) (payload : List UInt8) :
    DevM E Bool := do
  if sub == 0x00 then
    if payload.length != 0 then
      emit client dataId abortReadOnly []
    else
      emit client dataId abortNone [0x01]
  else if sub == 0x01 then
    if payload.length != 0 then
      emit client dataId abortNotImplemented []
    else
      emit client dataId abortNone (toList (zero 16))
  else
    emit client dataId abortNoSubindex []

/-- `fbsec_server_security_try`. -/
def securityTry (client : UInt16) (dataId : UInt32) (payload : List UInt8) : DevM E Bool := do
  if dataIdLow dataId != 0 then
    return false
  if dataIdIndex dataId == secIndexKeyIds then
    serveKeyIds client dataId (dataIdSub dataId) payload
  else if dataIdIndex dataId == secIndexSessionSalt then
    serveSessionSalt client dataId (dataIdSub dataId) payload
  else
    return false

/-! ## C020h, C028h and C02Fh: handover -/

/-- `sign_idevid`; `none` is a transcript that does not fit. -/
def signIdevid (ed : Ed25519) (role : UInt8) (body : List UInt8) : DevM E (Option Signature) := do
  let d ← getDevice
  let transcript := asymTranscript role body (asymTranscriptOverhead + 168)
  if transcript.length == 0 then
    return none
  record (.signed role transcript)
  return some (ed.sign d.asym.idevid transcript)

/-- `handle_identity`. -/
def handleIdentity (ed : Ed25519) (client : UInt16) (req : List UInt8) : DevM E Bool := do
  if req.length != hoRtLen then
    emit client hoIdentityId (if req.length > hoRtLen then abortLenTooHigh else abortLenTooLow) []
  else
    let d ← getDevice
    let blob := identityBlob d.asym.serial d.asym.idevid.pub
    let some sig ← signIdevid ed roleIdentityRead (blob ++ req)
      | emit client hoIdentityId abortInternal []
    emit client hoIdentityId abortNone (blob ++ toList d.asym.idevidCert ++ toList sig)

/-- `handle_ldevid`. -/
def handleLdevid (ed : Ed25519) (client : UInt16) (req : List UInt8) : DevM E Bool := do
  if req.length < 1 then
    emit client hoLdevidId abortLenTooLow []
  else
    let d ← getDevice
    let some (asym, pub) := d.asym.generateLdevid ed | emit client hoLdevidId abortInternal []
    setDevice { d with asym := asym }
    let some sig ← signIdevid ed roleLdevidExport (toList pub)
      | emit client hoLdevidId abortInternal []
    emit client hoLdevidId abortNone (toList pub ++ toList sig)

/-- `handle_provision`. -/
def handleProvision (ed : Ed25519) (client : UInt16) (req : List UInt8) : DevM E Bool := do
  let d ← getDevice
  match d.asym.installProvisioning ed req with
  | none => emit client hoProvisionId abortSigVerify []
  | some asym =>
      let keys := match asym.installedProvisioningKey with
        | some pk => installKey d.server.sod.keys keyidProvisioning pk keyidValueProvisioning
        | none => d.server.sod.keys
      setDevice (({ d with asym := asym }.setKeys keys).setStage .owned)
      emit client hoProvisionId abortNone []

/-- `handle_voucher`. -/
def handleVoucher (ed : Ed25519) (client : UInt16) (req : List UInt8) : DevM E Bool := do
  let d ← getDevice
  match d.asym.claim ed req with
  | none =>
      record (.claim req false)
      emit client hoVoucherId abortVoucher []
  | some asym =>
      record (.claim req true)
      setDevice ({ d with asym := asym }.setStage .owned)
      emit client hoVoucherId abortNone []

/-- `handle_epoch`. -/
def handleEpoch (client : UInt16) : DevM E Bool := do
  let d ← getDevice
  emit client hoEpochId abortNone (putU32le d.asym.ownerEpoch)

/-- `fbsec_server_handover_try`. -/
def handoverTry (ed : Ed25519) (client : UInt16) (dataId : UInt32) (payload : List UInt8) :
    DevM E Bool := do
  if dataId == hoIdentityId then
    handleIdentity ed client payload
  else if dataId == hoLdevidId then
    handleLdevid ed client payload
  else if dataId == hoProvisionId then
    handleProvision ed client payload
  else if dataId == hoVoucherId then
    handleVoucher ed client payload
  else if dataId == hoEpochId then
    handleEpoch client
  else
    return false

/-! ## C021h and C022h: public keys -/

/-- `handle_pubkeys`. -/
def handlePubkeys (client : UInt16) (dataId : UInt32) (sub : UInt8) (req : List UInt8) :
    DevM E Bool := do
  let d ← getDevice
  if req.length != 0 then
    emit client dataId abortReadOnly []
  else if sub == 0x00 then
    emit client dataId abortNone [0x02]
  else if sub == 0x01 then
    emit client dataId abortNone (toList d.asym.anchor)
  else if sub == 0x02 then
    emit client dataId abortNone (toList (d.asym.installedOwner.getD (zero 32)))
  else
    emit client dataId abortNoSubindex []

/-- `handle_pktypes`. -/
def handlePktypes (client : UInt16) (dataId : UInt32) (sub : UInt8) (req : List UInt8) :
    DevM E Bool := do
  if req.length != 0 then
    emit client dataId abortReadOnly []
  else if sub == 0x00 then
    emit client dataId abortNone [0x02]
  else if sub == 0x01 || sub == 0x02 then
    emit client dataId abortNone (putU32le 0x2001)
  else
    emit client dataId abortNoSubindex []

/-! ## C042h and C049h: signed accesses -/

/-- `build_signed_body`: responder, requester, object, length, both nonces, value. -/
def buildSignedBody (serverId clientId : UInt16) (objMux : UInt32) (clientNonce : List UInt8)
    (serverNonce : RpkNonce) (value : List UInt8) : List UInt8 :=
  putU16le serverId ++ putU16le clientId ++ putU32le objMux
    ++ putU16le (UInt16.ofNat value.length) ++ clientNonce ++ toList serverNonce ++ value

/-- The target of a C042h request: index, then sub-index. -/
def targetId (req : List UInt8) : UInt32 :=
  let index := (req.getD 0 0).toUInt16 ||| ((req.getD 1 0).toUInt16 <<< 8)
  (index.toUInt32 <<< 16) ||| ((req.getD 2 0).toUInt32 <<< 8)

/-- The challenge replaced. -/
def setChallenge (c : Challenge) : DevM E Unit := fun w =>
  ((), { w with device := { w.device with challenge := c } })

/-- `g_challenge.armed = false`. -/
def disarm : DevM E Unit := fun w =>
  ((), { w with device := { w.device with
    challenge := { w.device.challenge with armed := false } } })

/-- `fbsec_sod_port_random` for an RPK nonce. -/
def portNonce (plat : DevicePlatform E) : DevM E (Option RpkNonce) := fun w =>
  let r := plat.nonce w.device.server.host.env
  (r.1, { w with device := w.device.setHost { w.device.server.host with env := r.2 } })

/-- `fbsec_sod_port_read_before` outside the secure OD. -/
def hookReadBefore (target : UInt32) : DevM E (Abort × List UInt8) := fun w =>
  let r := demoReadBefore target w.device.server.host
  (r.1, { w with
    device := w.device.setHost r.2
    calls := w.calls ++ [.readBefore target r.1.1 r.1.2] })

/-- `fbsec_sod_port_write_after` outside the secure OD. -/
def hookWriteAfter (target : UInt32) (value : List UInt8) : DevM E Abort := fun w =>
  let r := demoWriteAfter target value w.device.server.sod.lastWriteKid
    w.device.server.sod.keys w.device.server.host
  (r.1, { w with
    device := (w.device.setKeys r.2.1).setHost r.2.2
    calls := w.calls ++ [.writeAfter target value r.1] })

/-- `arm_challenge`. -/
def armChallenge (plat : DevicePlatform E) (client : UInt16) (dataId : UInt32) :
    DevM E Bool := do
  let some nonce ← portNonce plat | emit client dataId abortInternal []
  setChallenge ⟨true, client, dataId, nonce⟩
  record (.armed client dataId nonce)
  emit client dataId abortNone (toList nonce)

/-- `verify_signed`. -/
def verifySigned (ed : Ed25519) (deviceId client : UInt16) (challengeId bindId : UInt32)
    (role : UInt8) (clientNonce value : List UInt8) (sig : Signature) : DevM E Abort := do
  let d ← getDevice
  if !d.challenge.armed || d.challenge.clientDev != client
      || d.challenge.dataId != challengeId then
    return abortNoSession
  let some peer := d.asym.getPeer rpkWritePeerSlot
    | disarm
      return abortSigVerify
  let body := buildSignedBody deviceId client bindId clientNonce d.challenge.serverNonce value
  let transcript := asymTranscript role body rpkTranscriptMax
  disarm
  if transcript.length == 0 then
    return abortSigVerify
  record (.verified transcript sig (ed.verify peer transcript sig))
  if !ed.verify peer transcript sig then
    return abortSigVerify
  return abortNone

/-- `handle_generic_read`. -/
def handleGenericRead (ed : Ed25519) (plat : DevicePlatform E) (deviceId client : UInt16)
    (req : List UInt8) : DevM E Bool := do
  let hdrLen := 3
  let p2Len := hdrLen + rpkNonceLen
  if req.length == hdrLen then
    return ← armChallenge plat client rpkGenericReadId
  if req.length != p2Len then
    return ← emit client rpkGenericReadId
      (if req.length > p2Len then abortLenTooHigh else abortLenTooLow) []
  let d ← getDevice
  if !d.challenge.armed || d.challenge.clientDev != client
      || d.challenge.dataId != rpkGenericReadId then
    return ← emit client rpkGenericReadId abortNoSession []
  let (rd, val) ← hookReadBefore (targetId req)
  if rd != abortNone then
    disarm
    return ← emit client rpkGenericReadId rd []
  if val.length > rpkValueMax then
    disarm
    return ← emit client rpkGenericReadId abortInternal []
  let body := buildSignedBody deviceId client (targetId req) (req.drop hdrLen)
    d.challenge.serverNonce val
  let transcript := asymTranscript roleGenericRead body rpkTranscriptMax
  disarm
  if transcript.length == 0 then
    return ← emit client rpkGenericReadId abortInternal []
  record (.signed roleGenericRead transcript)
  emit client rpkGenericReadId abortNone (val ++ toList (ed.sign d.asym.idevid transcript))

/-- `handle_generic_write`. -/
def handleGenericWrite (ed : Ed25519) (plat : DevicePlatform E) (deviceId client : UInt16)
    (req : List UInt8) : DevM E Bool := do
  let minP2 := rpkWriteHdrLen + asymSigSize
  if req.length == rpkWriteHdrLen - rpkNonceLen then
    return ← armChallenge plat client rpkGenericWriteId
  if req.length < minP2 then
    return ← emit client rpkGenericWriteId abortLenTooLow []
  let valueLen := req.length - minP2
  if valueLen > rpkValueMax then
    return ← emit client rpkGenericWriteId abortLenTooHigh []
  let clientNonce := (req.drop 3).take rpkNonceLen
  let value := (req.drop rpkWriteHdrLen).take valueLen
  let sig : Signature := slice 64 (rpkWriteHdrLen + valueLen) req
  let st ← verifySigned ed deviceId client rpkGenericWriteId (targetId req) roleGenericWrite
    clientNonce value sig
  if st != abortNone then
    return ← emit client rpkGenericWriteId st []
  let rc ← hookWriteAfter (targetId req) value
  emit client rpkGenericWriteId rc []

/-- The code of a function command, least significant byte first. -/
def commandCode (code : List UInt8) : UInt32 :=
  (code.getD 0 0).toUInt32 ||| ((code.getD 1 0).toUInt32 <<< 8)
    ||| ((code.getD 2 0).toUInt32 <<< 16) ||| ((code.getD 3 0).toUInt32 <<< 24)

/-- `handle_command`. -/
def handleCommand (ed : Ed25519) (plat : DevicePlatform E) (deviceId client : UInt16)
    (req : List UInt8) : DevM E Bool := do
  let p2Len := rpkNonceLen + rpkCmdLen + asymSigSize
  if req.length == 0 then
    return ← armChallenge plat client rpkFunccmdId
  if req.length != p2Len then
    return ← emit client rpkFunccmdId
      (if req.length < p2Len then abortLenTooLow else abortLenTooHigh) []
  let clientNonce := req.take rpkNonceLen
  let code := (req.drop rpkNonceLen).take rpkCmdLen
  let sig : Signature := slice 64 (rpkNonceLen + rpkCmdLen) req
  let st ← verifySigned ed deviceId client rpkFunccmdId rpkFunccmdId roleFunctionCmd
    clientNonce code sig
  if st != abortNone then
    return ← emit client rpkFunccmdId st []
  record (.command (commandCode code))
  if commandCode code == cmdFactoryRestore then
    let d ← getDevice
    setDevice d.decommission
    record .decommission
  emit client rpkFunccmdId abortNone []

/-- `fbsec_server_rpk_try`. -/
def rpkTry (ed : Ed25519) (plat : DevicePlatform E) (deviceId client : UInt16)
    (dataId : UInt32) (payload : List UInt8) : DevM E Bool := do
  if dataIdIndex dataId == rpkPubkeysIndex then
    handlePubkeys client dataId (dataIdSub dataId) payload
  else if dataIdIndex dataId == rpkPktypesIndex then
    handlePktypes client dataId (dataIdSub dataId) payload
  else if dataId == rpkGenericReadId then
    handleGenericRead ed plat deviceId client payload
  else if dataId == rpkGenericWriteId then
    handleGenericWrite ed plat deviceId client payload
  else if dataId == rpkFunccmdId then
    handleCommand ed plat deviceId client payload
  else
    return false

/-! ## The dispatcher -/

/-- `fbsec_sod_dispatch` as a tier: the secure OD serves the request, and its outcome is
    sent on.  `false` is a data id that is not registered. -/
def sodTier (gcm : Gcm) (plat : DevicePlatform E) (deviceId client : UInt16) (dataId : UInt32)
    (payload : List UInt8) : DevM E Bool := do
  let P := demoPorts deviceId plat.toPlatform
  let d ← getDevice
  setDevice { d with
    server := step gcm P d.server (.request client dataId payload dispatchReplyMax) }
  match (exchange gcm P d.server client dataId payload dispatchReplyMax).result with
  | .ok reply => emit client dataId abortNone reply
  | .defer => emit client dataId abortNone []
  | .abort code => emit client dataId code []
  | .notHandled => return false

/-- `fbsec_server_dispatch_request`. -/
def dispatchRequest (gcm : Gcm) (ed : Ed25519) (plat : DevicePlatform E) (deviceId : UInt16)
    (client : UInt16) (dataId : UInt32) (payload : List UInt8) : DevM E Unit := do
  if ← tryServeDescriptor client dataId payload then
    return
  if ← tryServeConstOd client dataId payload then
    return
  if ← securityTry client dataId payload then
    return
  if ← handoverTry ed client dataId payload then
    return
  if ← rpkTry ed plat deviceId client dataId payload then
    return
  if ← sodTier gcm plat deviceId client dataId payload then
    return
  let _ ← emit client dataId abortNoObject []

end SofaDevice
