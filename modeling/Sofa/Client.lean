import Sofa.Aead

/-! # The client's secure protocol

    `fbsec_secure_proto.c`: the single-shot read and write, the two calls that arm
    a cyclic session, and the polls of one.  Each is two round trips, or one for a
    poll, through a transport the host supplies.

    As on the server, the state pairs what is behind the host's functions with the
    log of the calls made.  The timeout is handed to the transport and read by
    nothing here, so it is part of the transport's own state. -/

namespace SofaClient

open ByteBlock SofaConfig SofaAead

/-! ## Status codes, transport, session -/

/-- `fbsec_secure_status_t` without `FBSEC_SECP_OK`, which is the `ok` of the
    results below; an abort carries the server's code. -/
inductive SecpError where
  | timeout
  | tx
  | protocol
  | bufsize
  | abort (code : Abort)
  | tag
  | random
  deriving DecidableEq

/-- `fbsec_secure_transport_t` and the two port hooks of the client, over the state
    `N` behind them.  A reply never exceeds the capacity it was read with. -/
structure Transport (N : Type) where
  clientId : UInt16
  random : N → Option Rand × N
  read : (device : UInt16) → (dataId : UInt32) → (body : List UInt8) → (cap : Nat) → N →
    Except SecpError (List UInt8) × N
  write : (device : UInt16) → (dataId : UInt32) → (frame : List UInt8) → N →
    Except SecpError Unit × N
  fits : ∀ device dataId body cap n reply,
    (read device dataId body cap n).1 = .ok reply → reply.length ≤ cap

/-- `fbsec_secure_session_t`.  The counter never passes `keyUseLimit`, so the 32
    bits of the source never wrap. -/
structure Session where
  inUse : Bool := false
  dataId : UInt32 := 0
  keyId : UInt8 := 0
  nonceBase : Nonce := zero 12
  counter : Nat := 0
  deriving DecidableEq

/-- One call of the client with its answer. -/
inductive ClientEvent where
  | random (r : Option Rand)
  | read (device : UInt16) (dataId : UInt32) (body : List UInt8) (cap : Nat)
      (result : Except SecpError (List UInt8))
  | write (device : UInt16) (dataId : UInt32) (frame : List UInt8)
      (result : Except SecpError Unit)
  | aeadSeal (call : AeadCall) (plain : List UInt8) (out : Option (List UInt8 × Tag))
  | aeadOpen (call : AeadCall) (cipher : List UInt8) (tag : Tag) (out : Option (List UInt8))
  deriving DecidableEq

/-- What is behind the transport, and the calls made so far. -/
structure ClientWorld (N : Type) where
  net : N
  log : List ClientEvent

variable {N : Type}

abbrev SecpM (N : Type) := StateM (ClientWorld N)

/-! ## Calls -/

def drawRandom (T : Transport N) : SecpM N (Option Rand) := fun w =>
  let r := T.random w.net
  (r.1, ⟨r.2, w.log ++ [.random r.1]⟩)

def transportRead (T : Transport N) (device : UInt16) (dataId : UInt32) (body : List UInt8)
    (cap : Nat) : SecpM N (Except SecpError (List UInt8)) := fun w =>
  let r := T.read device dataId body cap w.net
  (r.1, ⟨r.2, w.log ++ [.read device dataId body cap r.1]⟩)

def transportWrite (T : Transport N) (device : UInt16) (dataId : UInt32) (frame : List UInt8) :
    SecpM N (Except SecpError Unit) := fun w =>
  let r := T.write device dataId frame w.net
  (r.1, ⟨r.2, w.log ++ [.write device dataId frame r.1]⟩)

def clientSeal (gcm : Gcm) (c : AeadCall) (plain : List UInt8) :
    SecpM N (Option (List UInt8 × Tag)) := fun w =>
  let out := aeadSeal gcm c plain
  (out, { w with log := w.log ++ [.aeadSeal c plain out] })

def clientOpen (gcm : Gcm) (c : AeadCall) (cipher : List UInt8) (tag : Tag) :
    SecpM N (Option (List UInt8)) := fun w =>
  let out := aeadOpen gcm c cipher tag
  (out, { w with log := w.log ++ [.aeadOpen c cipher tag out] })

/-- The arguments of the client's AEAD calls: the addressed device, this client. -/
def clientCall (T : Transport N) (device : UInt16) (key : Key) (nonce : Nonce)
    (direction keyId : UInt8) (dataId : UInt32) (randoms : Option (Rand × Rand)) : AeadCall where
  key := key
  nonce := nonce
  direction := direction
  keyId := keyId
  serverDev := device
  clientDev := T.clientId
  dataId := dataId
  randoms := randoms

/-! ## Sizes and checks -/

/-- `RESPONSE_BUF_LEN`: server random, data, tag. -/
abbrev responseBufLen : Nat := aeadRandSize + aeadMaxProtected + aeadTagSize
/-- The reply buffer of a read poll: counter, data, tag. -/
abbrev pollReplyLen : Nat := 1 + aeadMaxProtected + aeadTagSize

/-- The key id bytes every flow refuses: a reserved bit set, or no base key. -/
def keyidRefused (keyId : UInt8) : Bool :=
  keyidReserved keyId != 0 || keyidBase keyId == 0 || keyidBase keyId > keyidMax

/-- `key_id | 0x40`: ask the server to keep a session. -/
def armKid (keyId : UInt8) : UInt8 := keyId ||| 0x40

/-- `session_build_nonce`. -/
def sessionBuildNonce (sess : Session) (counter : Nat) : Nonce := fun i =>
  match i with
  | 8 => sess.nonceBase 8 ^^^ UInt8.ofNat (counter >>> 24)
  | 9 => sess.nonceBase 9 ^^^ UInt8.ofNat (counter >>> 16)
  | 10 => sess.nonceBase 10 ^^^ UInt8.ofNat (counter >>> 8)
  | 11 => sess.nonceBase 11 ^^^ UInt8.ofNat counter
  | i => sess.nonceBase i

/-! ## The two flows

    The single-shot calls and the arming calls differ only in the key id byte they
    put on the wire, and in what they keep when they succeed: the flows return the
    XOR of the two randoms along with the data. -/

/-- Challenge, response, and verification of a read. -/
def readFlow (gcm : Gcm) (T : Transport N) (device : UInt16) (dataId : UInt32) (key : Key)
    (wireKid : UInt8) (bufSize : Nat) : SecpM N (Except SecpError (List UInt8 × Nonce)) := do
  let some clientRandom ← drawRandom T | return .error .random
  match ← transportWrite T device dataId (wireKid :: toList clientRandom) with
  | .error e => return .error e
  | .ok () =>
      match ← transportRead T device dataId [] responseBufLen with
      | .error e => return .error e
      | .ok response =>
          if response.length < aeadRandSize + aeadTagSize then
            return .error .protocol
          let serverRandom : Rand := slice 12 0 response
          let dataLen := response.length - aeadRandSize - aeadTagSize
          if dataLen > aeadMaxProtected then
            return .error .protocol
          if dataLen > bufSize then
            return .error .bufsize
          let nonce := aeadXorNonce clientRandom serverRandom
          let some plain ← clientOpen gcm (clientCall T device key nonce dirReadResponse wireKid
              dataId (some (clientRandom, serverRandom)))
              ((response.drop aeadRandSize).take dataLen) (slice 16 (aeadRandSize + dataLen) response)
            | return .error .tag
          return .ok (plain, nonce)

/-- Challenge, seal, and delivery of a write. -/
def writeFlow (gcm : Gcm) (T : Transport N) (device : UInt16) (dataId : UInt32) (key : Key)
    (wireKid : UInt8) (plain : List UInt8) : SecpM N (Except SecpError Nonce) := do
  match ← transportRead T device dataId [] aeadRandSize with
  | .error e => return .error e
  | .ok challenge =>
      if challenge.length != aeadRandSize then
        return .error .protocol
      let serverRandom : Rand := slice 12 0 challenge
      let some clientRandom ← drawRandom T | return .error .random
      let nonce := aeadXorNonce clientRandom serverRandom
      let some (cipher, tag) ← clientSeal gcm (clientCall T device key nonce dirWriteRequest wireKid
          dataId (some (clientRandom, serverRandom))) plain | return .error .tag
      match ← transportWrite T device dataId
          (wireKid :: toList clientRandom ++ cipher ++ toList tag) with
      | .error e => return .error e
      | .ok () => return .ok nonce

/-! ## Single-shot calls -/

/-- `fbsec_secure_read`. -/
def secureRead (gcm : Gcm) (T : Transport N) (device : UInt16) (dataId : UInt32) (key : Key)
    (keyId : UInt8) (bufSize : Nat) : SecpM N (Except SecpError (List UInt8)) := do
  if keyidRefused keyId then
    return .error .protocol
  match ← readFlow gcm T device dataId key keyId bufSize with
  | .error e => return .error e
  | .ok (plain, _) => return .ok plain

/-- `fbsec_secure_write`. -/
def secureWrite (gcm : Gcm) (T : Transport N) (device : UInt16) (dataId : UInt32) (key : Key)
    (keyId : UInt8) (plain : List UInt8) : SecpM N (Except SecpError Unit) := do
  if keyidRefused keyId then
    return .error .protocol
  if plain.length == 0 || plain.length > aeadMaxProtected then
    return .error .bufsize
  match ← writeFlow gcm T device dataId key keyId plain with
  | .error e => return .error e
  | .ok _ => return .ok ()

/-! ## Arming calls -/

/-- The session an arming call hands to its caller. -/
def armedSession (dataId : UInt32) (keyId : UInt8) (nonce : Nonce) : Session where
  inUse := true
  dataId := dataId
  keyId := armKid keyId
  nonceBase := nonce
  counter := 0

/-- `fbsec_secure_read_armed`. -/
def secureReadArmed (gcm : Gcm) (T : Transport N) (device : UInt16) (dataId : UInt32) (key : Key)
    (keyId : UInt8) (bufSize : Nat) : SecpM N (Except SecpError (List UInt8 × Session)) := do
  if keyidRefused keyId then
    return .error .protocol
  match ← readFlow gcm T device dataId key (armKid keyId) bufSize with
  | .error e => return .error e
  | .ok (plain, nonce) => return .ok (plain, armedSession dataId keyId nonce)

/-- `fbsec_secure_write_armed`. -/
def secureWriteArmed (gcm : Gcm) (T : Transport N) (device : UInt16) (dataId : UInt32) (key : Key)
    (keyId : UInt8) (plain : List UInt8) : SecpM N (Except SecpError Session) := do
  if keyidRefused keyId then
    return .error .protocol
  if plain.length == 0 || plain.length > aeadMaxProtected then
    return .error .bufsize
  match ← writeFlow gcm T device dataId key (armKid keyId) plain with
  | .error e => return .error e
  | .ok nonce => return .ok (armedSession dataId keyId nonce)

/-! ## Polls

    A poll returns the session along with its result: only a poll that succeeds
    advances the counter. -/

/-- `fbsec_secure_poll_read`; on success the data and the tag of the reply. -/
def securePollRead (gcm : Gcm) (T : Transport N) (device : UInt16) (key : Key) (sess : Session)
    (plainMax : Nat) : SecpM N (Except SecpError (List UInt8 × Tag) × Session) := do
  if !sess.inUse then
    return (.error .protocol, sess)
  if sess.counter ≥ keyUseLimit then
    return (.error .protocol, sess)
  let next := sess.counter + 1
  match ← transportRead T device sess.dataId [UInt8.ofNat next] pollReplyLen with
  | .error e => return (.error e, sess)
  | .ok reply =>
      if reply.length < 1 + aeadTagSize then
        return (.error .protocol, sess)
      if reply.getD 0 0 != UInt8.ofNat next then
        return (.error .protocol, sess)
      let cipherLen := reply.length - 1 - aeadTagSize
      if cipherLen > aeadMaxProtected then
        return (.error .protocol, sess)
      if cipherLen > plainMax then
        return (.error .bufsize, sess)
      let tag : Tag := slice 16 (1 + cipherLen) reply
      let some plain ← clientOpen gcm (clientCall T device key (sessionBuildNonce sess next)
          dirReadPollResponse sess.keyId sess.dataId none) ((reply.drop 1).take cipherLen) tag
        | return (.error .tag, sess)
      return (.ok (plain, tag), { sess with counter := next })

/-- `fbsec_secure_poll_write`; on success the tag that was sent. -/
def securePollWrite (gcm : Gcm) (T : Transport N) (device : UInt16) (key : Key) (sess : Session)
    (plain : List UInt8) : SecpM N (Except SecpError Tag × Session) := do
  if !sess.inUse then
    return (.error .protocol, sess)
  if plain.length == 0 || plain.length > aeadMaxProtected then
    return (.error .bufsize, sess)
  if sess.counter ≥ keyUseLimit then
    return (.error .protocol, sess)
  let next := sess.counter + 1
  let some (cipher, tag) ← clientSeal gcm (clientCall T device key (sessionBuildNonce sess next)
      dirWritePollRequest sess.keyId sess.dataId none) plain | return (.error .tag, sess)
  match ← transportWrite T device sess.dataId (UInt8.ofNat next :: cipher ++ toList tag) with
  | .error e => return (.error e, sess)
  | .ok () => return (.ok tag, { sess with counter := next })

end SofaClient
