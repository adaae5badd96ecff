import Sofa.Aead

/-! # The server's secure object dictionary

    `fbsec_secure_od.c`: the entry registry, one armed read slot and one armed
    write slot per entry, the session-key store, and the dispatcher that fields
    the single-shot and the cyclic flows.

    The state is threaded through a state monad.  `World` pairs the module's
    statics (`Sod`) with the host behind the port hooks and with the log of
    port and AEAD calls, in call order; nothing in the code reads the log. -/

namespace SofaOd

open ByteBlock SofaConfig SofaAead

/-! ## Entries and the registry -/

/-- `fbsec_sod_op_t`. -/
inductive Op where
  | read
  | write
  deriving DecidableEq

/-- `fbsec_sod_entry_t`, less the value type only the trace reads. -/
structure SodEntry where
  dataId : UInt32
  keyId : UInt8
  accessFlags : UInt8
  dataLen : Nat
  deriving DecidableEq

/-- `FBSEC_SOD_ACCESS_SECURE_RO`. -/
def SodEntry.hasRo (e : SodEntry) : Bool := e.accessFlags &&& 0x01 != 0
/-- `FBSEC_SOD_ACCESS_SECURE_WO`. -/
def SodEntry.hasWo (e : SodEntry) : Bool := e.accessFlags &&& 0x02 != 0
/-- `FBSEC_SOD_ACCESS_CONFIDENTIAL`. -/
def SodEntry.confidential (e : SodEntry) : Bool := e.accessFlags &&& 0x04 != 0
/-- `FBSEC_SOD_KEY_NONE`, or the bound key is the one presented. -/
def SodEntry.acceptsKey (e : SodEntry) (base : UInt8) : Bool := e.keyId == 0 || base == e.keyId

/-- `g_registry`: at most 8 entries, none larger than one protected transfer. -/
structure Registry where
  entries : List SodEntry
  size_le : entries.length ≤ sodMaxEntries
  protected_le : ∀ e ∈ entries, e.dataLen ≤ aeadMaxProtected

/-- The registry after `fbsec_sod_init`. -/
def Registry.empty : Registry := ⟨[], by simp, by simp⟩

/-- `find_index`, with the entry found. -/
def Registry.find (r : Registry) (dataId : UInt32) : Option (Fin sodMaxEntries × SodEntry) :=
  match r.entries.findFinIdx? (fun e => e.dataId == dataId) with
  | none => none
  | some i => some (i.castLE r.size_le, r.entries[i])

/-- `fbsec_sod_register_entry`; `none` is a refused registration. -/
def sodRegisterEntry (r : Registry) (e : SodEntry) : Option Registry :=
  if hlen : e.dataLen > aeadMaxProtected then none
  else if !aeadEncryption && e.confidential then none
  else
    match r.entries.findFinIdx? (fun f => f.dataId == e.dataId) with
    | some i => some
        { entries := r.entries.set i e
          size_le := by simpa using r.size_le
          protected_le := by
            intro f hf
            rcases List.mem_or_eq_of_mem_set hf with hf | rfl
            · exact r.protected_le f hf
            · omega }
    | none =>
        if hsize : r.entries.length ≥ sodMaxEntries then none
        else some
          { entries := r.entries ++ [e]
            size_le := by simp at hsize ⊢; omega
            protected_le := by
              intro f hf
              rcases List.mem_append.mp hf with hf | hf
              · exact r.protected_le f hf
              · obtain rfl : f = e := by simpa using hf
                omega }

/-! ## Slots -/

/-- `read_state_t`.  `prepared` holds the first `prepared_len` bytes, the only
    ones the code delivers. -/
structure ReadSlot where
  inUse : Bool := false
  cyclic : Bool := false
  clientDev : UInt16 := 0
  armedAt : UInt16 := 0
  prepared : List UInt8 := []
  keyId : UInt8 := 0
  nonceBase : Nonce := zero 12
  counter : Nat := 0
  deriving DecidableEq

/-- `write_state_t`.  The counter never passes `keyUseLimit`, so the 32 bits
    of the source never wrap. -/
structure WriteSlot where
  inUse : Bool := false
  cyclic : Bool := false
  clientDev : UInt16 := 0
  armedAt : UInt16 := 0
  keyId : UInt8 := 0
  serverRandom : Rand := zero 12
  nonceBase : Nonce := zero 12
  counter : Nat := 0
  deriving DecidableEq

/-! ## Key store -/

/-- One populated slot: the key and its non-secret id (C011h). -/
structure KeySlot where
  key : Key
  idVal : UInt32

/-- `g_keys`, `g_key_present` and `g_key_id_val`. -/
structure KeyStore where
  slot : UInt8 → Option KeySlot := fun _ => none

/-- `key_id` is one of the slots 1..`FBSEC_SOD_KEY_SLOTS`. -/
def keySlotInRange (keyId : UInt8) : Bool := 1 ≤ keyId && keyId ≤ sodKeySlots

/-- `get_key`. -/
def KeyStore.getKey (ks : KeyStore) (keyId : UInt8) : Option Key :=
  if keySlotInRange keyId then (ks.slot keyId).map (·.key) else none

/-- `fbsec_sod_has_key`. -/
def KeyStore.hasKey (ks : KeyStore) (keyId : UInt8) : Bool := (ks.getKey keyId).isSome

/-- `fbsec_sod_set_key_ex`: write-once; `none` is a refused install. -/
def KeyStore.setKeyEx (ks : KeyStore) (keyId : UInt8) (key : Key) (idVal : UInt32) :
    Option KeyStore :=
  if !keySlotInRange keyId then none
  else if ks.hasKey keyId then none
  else some { slot := Function.update ks.slot keyId (some ⟨key, idVal⟩) }

/-- `fbsec_sod_clear_keys`. -/
def KeyStore.clear : KeyStore := {}

/-! ## Module state, port hooks, call log -/

/-- The module's statics. -/
structure Sod where
  registry : Registry
  readSlot : Fin sodMaxEntries → ReadSlot
  writeSlot : Fin sodMaxEntries → WriteSlot
  keys : KeyStore
  lastWriteKid : UInt8

/-- One read slot replaced. -/
def Sod.setRead (s : Sod) (idx : Fin sodMaxEntries) (slot : ReadSlot) : Sod :=
  { s with readSlot := Function.update s.readSlot idx slot }

/-- One write slot replaced. -/
def Sod.setWrite (s : Sod) (idx : Fin sodMaxEntries) (slot : WriteSlot) : Sod :=
  { s with writeSlot := Function.update s.writeSlot idx slot }

section Slots

variable (s : Sod) (idx : Fin sodMaxEntries)

@[simp] theorem Sod.readSlot_setRead (a : ReadSlot) : (s.setRead idx a).readSlot idx = a := by
  simp [Sod.setRead]

@[simp] theorem Sod.writeSlot_setWrite (a : WriteSlot) :
    (s.setWrite idx a).writeSlot idx = a := by
  simp [Sod.setWrite]

@[simp] theorem Sod.writeSlot_setRead (a : ReadSlot) :
    (s.setRead idx a).writeSlot = s.writeSlot := rfl

@[simp] theorem Sod.readSlot_setWrite (a : WriteSlot) :
    (s.setWrite idx a).readSlot = s.readSlot := rfl

theorem Sod.setRead_setRead (a b : ReadSlot) :
    (s.setRead idx a).setRead idx b = s.setRead idx b := by
  simp [Sod.setRead]

end Slots

/-- `fbsec_sod_init`. -/
def sodInit : Sod where
  registry := .empty
  readSlot := fun _ => {}
  writeSlot := fun _ => {}
  keys := {}
  lastWriteKid := 0

/-- The `fbsec_sod_port_*` hooks over a host state.  `write_after` may read the
    last write key id and install keys, as the C01Fh hook does; `read_before`
    returns its code and the bytes it put in the buffer. -/
structure Ports (H : Type) where
  deviceId : UInt16
  timeMs : H → UInt16 × H
  random : H → Option Rand × H
  accessAllowed : Op → UInt32 → H → Bool × H
  roleAllowed : Op → UInt8 → UInt32 → H → Bool × H
  readBefore : UInt32 → H → (Abort × List UInt8) × H
  writeAfter : UInt32 → List UInt8 → UInt8 → KeyStore → H → Abort × KeyStore × H

/-- One port or AEAD call with its answer.  `writeAfter` also records what
    `fbsec_sod_last_write_key_id()` would have returned during the call. -/
inductive Event where
  | time (now : UInt16)
  | random (r : Option Rand)
  | accessAllowed (op : Op) (dataId : UInt32) (ok : Bool)
  | roleAllowed (op : Op) (base : UInt8) (dataId : UInt32) (ok : Bool)
  | readBefore (dataId : UInt32) (rc : Abort) (bytes : List UInt8)
  | writeAfter (dataId : UInt32) (src : List UInt8) (lastKid : UInt8) (rc : Abort)
  | aeadSeal (call : AeadCall) (plain : List UInt8) (out : Option (List UInt8 × Tag))
  | aeadOpen (call : AeadCall) (cipher : List UInt8) (tag : Tag) (out : Option (List UInt8))
  deriving DecidableEq

/-- The module state, the host behind the hooks, and the calls made so far. -/
structure World (H : Type) where
  sod : Sod
  host : H
  log : List Event

/-- `fbsec_sod_status_t` with its out parameters. -/
inductive SodResult where
  | ok (reply : List UInt8)
  | notHandled
  | abort (code : Abort)
  | defer
  deriving DecidableEq

variable {H : Type}

abbrev SodM (H : Type) := StateM (World H)

/-! ## Port and AEAD calls -/

def portTime (P : Ports H) : SodM H UInt16 := fun w =>
  let r := P.timeMs w.host
  (r.1, { w with host := r.2, log := w.log ++ [.time r.1] })

def portRandom (P : Ports H) : SodM H (Option Rand) := fun w =>
  let r := P.random w.host
  (r.1, { w with host := r.2, log := w.log ++ [.random r.1] })

def portAccessAllowed (P : Ports H) (op : Op) (dataId : UInt32) : SodM H Bool := fun w =>
  let r := P.accessAllowed op dataId w.host
  (r.1, { w with host := r.2, log := w.log ++ [.accessAllowed op dataId r.1] })

def portRoleAllowed (P : Ports H) (op : Op) (base : UInt8) (dataId : UInt32) : SodM H Bool :=
  fun w =>
    let r := P.roleAllowed op base dataId w.host
    (r.1, { w with host := r.2, log := w.log ++ [.roleAllowed op base dataId r.1] })

def portReadBefore (P : Ports H) (dataId : UInt32) : SodM H (Abort × List UInt8) := fun w =>
  let r := P.readBefore dataId w.host
  (r.1, { w with host := r.2, log := w.log ++ [.readBefore dataId r.1.1 r.1.2] })

def portWriteAfter (P : Ports H) (dataId : UInt32) (src : List UInt8) : SodM H Abort := fun w =>
  let r := P.writeAfter dataId src w.sod.lastWriteKid w.sod.keys w.host
  (r.1,
    { sod := { w.sod with keys := r.2.1 }
      host := r.2.2
      log := w.log ++ [.writeAfter dataId src w.sod.lastWriteKid r.1] })

def callSeal (gcm : Gcm) (c : AeadCall) (plain : List UInt8) :
    SodM H (Option (List UInt8 × Tag)) := fun w =>
  let out := aeadSeal gcm c plain
  (out, { w with log := w.log ++ [.aeadSeal c plain out] })

def callOpen (gcm : Gcm) (c : AeadCall) (cipher : List UInt8) (tag : Tag) :
    SodM H (Option (List UInt8)) := fun w =>
  let out := aeadOpen gcm c cipher tag
  (out, { w with log := w.log ++ [.aeadOpen c cipher tag out] })

/-! ## State access -/

def getReadSlot (idx : Fin sodMaxEntries) : SodM H ReadSlot := fun w => (w.sod.readSlot idx, w)

def getWriteSlot (idx : Fin sodMaxEntries) : SodM H WriteSlot := fun w => (w.sod.writeSlot idx, w)

def setReadSlot (idx : Fin sodMaxEntries) (slot : ReadSlot) : SodM H Unit := fun w =>
  ((), { w with sod := w.sod.setRead idx slot })

def setWriteSlot (idx : Fin sodMaxEntries) (slot : WriteSlot) : SodM H Unit := fun w =>
  ((), { w with sod := w.sod.setWrite idx slot })

def setLastWriteKid (base : UInt8) : SodM H Unit := fun w =>
  ((), { w with sod := { w.sod with lastWriteKid := base } })

def getKey (base : UInt8) : SodM H (Option Key) := fun w => (w.sod.keys.getKey base, w)

/-! ## Freshness -/

/-- The age test of `slot_is_fresh_for`: 16-bit subtraction. -/
def ageWithin (now armedAt timeoutMs : UInt16) : Bool := now - armedAt ≤ timeoutMs

/-- `slot_is_fresh`. -/
def slotIsFresh (P : Ports H) (armedAt : UInt16) : SodM H Bool := do
  let now ← portTime P
  return ageWithin now armedAt challengeTimeoutMs

/-- `session_is_fresh`. -/
def sessionIsFresh (P : Ports H) (armedAt : UInt16) : SodM H Bool := do
  let now ← portTime P
  return ageWithin now armedAt sessionIdleTimeoutMs

/-- `length_abort`. -/
def lengthAbort (got want : Nat) : Abort :=
  if got > want then abortLenTooHigh
  else if got < want then abortLenTooLow
  else abortTypeMismatch

/-- `slot_held_by_other`. -/
def slotHeldByOther (P : Ports H) (inUse cyclic : Bool) (ownerDev armedAt reqDev : UInt16) :
    SodM H Bool := do
  if !inUse || ownerDev == reqDev then
    return false
  if cyclic then
    sessionIsFresh P armedAt
  else
    slotIsFresh P armedAt

/-- `build_session_nonce`: the base with the counter XORed into its last four
    bytes, most significant byte first. -/
def buildSessionNonce (nonceBase : Nonce) (counter : Nat) : Nonce := fun i =>
  match i with
  | 8 => nonceBase 8 ^^^ UInt8.ofNat (counter >>> 24)
  | 9 => nonceBase 9 ^^^ UInt8.ofNat (counter >>> 16)
  | 10 => nonceBase 10 ^^^ UInt8.ofNat (counter >>> 8)
  | 11 => nonceBase 11 ^^^ UInt8.ofNat counter
  | i => nonceBase i

/-- The session nonce, as one XOR. -/
theorem buildSessionNonce_eq (nonceBase : Nonce) (counter : Nat) :
    buildSessionNonce nonceBase counter = xor nonceBase (mask32 8 counter) := by
  funext i
  fin_cases i <;>
    simp [buildSessionNonce, ByteBlock.xor, mask32, zero, be32, Fin.append, Fin.addCases,
      Nat.shiftRight_eq_div_pow]

/-- Within the key budget a session never builds one nonce for two counters. -/
theorem buildSessionNonce_inj (nonceBase : Nonce) (c d : Nat) (hc : c ≤ keyUseLimit)
    (hd : d ≤ keyUseLimit) (h : buildSessionNonce nonceBase c = buildSessionNonce nonceBase d) :
    c = d := by
  have hlimit : keyUseLimit < 2 ^ 32 := by decide
  rw [buildSessionNonce_eq, buildSessionNonce_eq] at h
  exact mask32_injective (by omega) (by omega) (xor_right_inj.mp h)

@[simp] theorem buildSessionNonce_zero (nonceBase : Nonce) :
    buildSessionNonce nonceBase 0 = nonceBase := by
  rw [buildSessionNonce_eq, mask32_zero, xor_zero]

/-! ## Frame shapes -/

/-- `READ_CHALLENGE_LEN`: key id and client random. -/
abbrev readChallengeLen : Nat := 1 + aeadRandSize
/-- `WRITE_CHALLENGE_LEN`: the server random. -/
abbrev writeChallengeLen : Nat := aeadRandSize
/-- A write poll, and a read-poll reply: counter, ciphertext, tag. -/
def pollLen (entry : SodEntry) : Nat := 1 + entry.dataLen + aeadTagSize
/-- A write Pass-2 frame: key id, client random, ciphertext, tag. -/
def pass2Len (entry : SodEntry) : Nat := 1 + aeadRandSize + entry.dataLen + aeadTagSize

theorem pollLen_eq (entry : SodEntry) : pollLen entry = entry.dataLen + 17 := by
  simp only [pollLen, aeadTagSize]
  omega

theorem pass2Len_eq (entry : SodEntry) : pass2Len entry = entry.dataLen + 29 := by
  simp only [pass2Len, aeadRandSize, aeadTagSize]
  omega

/-! ## Read flow -/

/-- The arguments of the server's AEAD calls: this device, the given peer. -/
def serverCall (P : Ports H) (key : Key) (nonce : Nonce) (direction keyId : UInt8)
    (clientDev : UInt16) (dataId : UInt32) (randoms : Option (Rand × Rand)) : AeadCall where
  key := key
  nonce := nonce
  direction := direction
  keyId := keyId
  serverDev := P.deviceId
  clientDev := clientDev
  dataId := dataId
  randoms := randoms

/-- `arm_read_response`: read Pass 1.  The reply is sealed here and held in the
    slot for the fetch. -/
def armReadResponse (gcm : Gcm) (P : Ports H) (idx : Fin sodMaxEntries) (entry : SodEntry)
    (clientDev : UInt16) (challenge : List UInt8) : SodM H SodResult := do
  let keyId := challenge.getD 0 0
  let clientRandom : Rand := slice 12 1 challenge
  let kidBase := keyidBase keyId
  let isCyclic := keyidIsCyclic keyId
  if keyidReserved keyId != 0 then
    return .abort abortKeyId
  if !entry.acceptsKey kidBase then
    return .abort abortKeyId
  let some key ← getKey kidBase | return .abort abortKeyId
  if !(← portAccessAllowed P .read entry.dataId) then
    return .abort abortDeviceState
  if !(← portRoleAllowed P .read kidBase entry.dataId) then
    return .abort abortRoleDenied
  let slot ← getReadSlot idx
  if ← slotHeldByOther P slot.inUse slot.cyclic slot.clientDev slot.armedAt clientDev then
    return .abort abortDeviceState
  let (hookRc, plaintext) ← portReadBefore P entry.dataId
  if hookRc != abortNone then
    return .abort hookRc
  if plaintext.length != entry.dataLen then
    return .abort abortInternal
  let some serverRandom ← portRandom P | return .abort abortInternal
  let nonce := aeadXorNonce clientRandom serverRandom
  setReadSlot idx {}
  let some (cipher, tag) ← callSeal gcm (serverCall P key nonce dirReadResponse keyId clientDev
      entry.dataId (some (clientRandom, serverRandom))) plaintext | return .abort abortInternal
  let now ← portTime P
  setReadSlot idx
    { inUse := true
      cyclic := isCyclic
      clientDev := clientDev
      armedAt := now
      prepared := toList serverRandom ++ cipher ++ toList tag
      keyId := if isCyclic then keyId else 0
      nonceBase := if isCyclic then aeadXorNonce clientRandom serverRandom else zero 12
      counter := 0 }
  return .defer

/-- The `req_len == 0` block of the SECURE_RO branch: read Pass 2.  `none` is
    the fall-through to the SECURE_WO branch. -/
def fetchReadResponse (P : Ports H) (idx : Fin sodMaxEntries) (entry : SodEntry)
    (replyMax : Nat) : SodM H (Option SodResult) := do
  let slot ← getReadSlot idx
  let mut armed := slot.inUse && slot.prepared.length > 0
  if armed then
    armed ← slotIsFresh P slot.armedAt
  if armed then
    if slot.prepared.length > replyMax then
      setReadSlot idx { slot with inUse := false }
      return some (.abort abortInternal)
    if slot.cyclic then
      -- the session stays live for polls; the prepared bytes are spent
      let now ← portTime P
      setReadSlot idx { slot with prepared := [], armedAt := now }
    else
      setReadSlot idx { slot with inUse := false }
    return some (.ok slot.prepared)
  if !entry.hasWo then
    return some (.abort abortNoSession)
  return none

/-! ## Write flow -/

/-- The second half of `arm_write_challenge`: the challenge, unless another client holds the
    slot. -/
def grantWrite (P : Ports H) (idx : Fin sodMaxEntries) (clientDev : UInt16)
    (wireKeyId : Option UInt8) (replyMax : Nat) : SodM H SodResult := do
  if replyMax < writeChallengeLen then
    return .abort abortInternal
  let some random ← portRandom P | return .abort abortInternal
  let slot ← getWriteSlot idx
  if ← slotHeldByOther P slot.inUse slot.cyclic slot.clientDev slot.armedAt clientDev then
    return .abort abortDeviceState
  let now ← portTime P
  setWriteSlot idx
    { inUse := true
      cyclic := wireKeyId.isSome
      clientDev := clientDev
      armedAt := now
      keyId := wireKeyId.getD 0
      serverRandom := random }
  return .ok (toList random)

/-- `arm_write_challenge`: write Pass 1.  `wireKeyId` is the one-byte body of a
    cyclic arm, `none` on the empty single-shot request. -/
def armWriteChallenge (P : Ports H) (idx : Fin sodMaxEntries) (entry : SodEntry)
    (clientDev : UInt16) (wireKeyId : Option UInt8) (replyMax : Nat) : SodM H SodResult := do
  if !(← portAccessAllowed P .write entry.dataId) then
    return .abort abortDeviceState
  if let some kid := wireKeyId then
    if keyidReserved kid != 0 then
      return .abort abortKeyId
    if !keyidIsCyclic kid then
      return .abort abortKeyId
    if !entry.acceptsKey (keyidBase kid) then
      return .abort abortKeyId
    if (← getKey (keyidBase kid)).isNone then
      return .abort abortKeyId
    if !(← portRoleAllowed P .write (keyidBase kid) entry.dataId) then
      return .abort abortRoleDenied
  grantWrite P idx clientDev wireKeyId replyMax

/-- `verify_and_apply_write`: write Pass 2. -/
def verifyAndApplyWrite (gcm : Gcm) (P : Ports H) (idx : Fin sodMaxEntries) (entry : SodEntry)
    (req : List UInt8) : SodM H SodResult := do
  let slot ← getWriteSlot idx
  if !slot.inUse then
    return .abort abortNoSession
  if !(← slotIsFresh P slot.armedAt) then
    setWriteSlot idx { slot with inUse := false }
    return .abort abortNoSession
  if req.length != pass2Len entry then
    setWriteSlot idx { slot with inUse := false }
    return .abort (lengthAbort req.length (pass2Len entry))
  let wireKeyId := req.getD 0 0
  if keyidReserved wireKeyId != 0 then
    setWriteSlot idx { slot with inUse := false }
    return .abort abortKeyId
  let kidBase := keyidBase wireKeyId
  if !entry.acceptsKey kidBase then
    setWriteSlot idx { slot with inUse := false }
    return .abort abortKeyId
  let clientRandom : Rand := slice 12 1 req
  let cipher := (req.drop (1 + aeadRandSize)).take entry.dataLen
  let tag : Tag := slice 16 (1 + aeadRandSize + entry.dataLen) req
  let some key ← getKey kidBase
    | setWriteSlot idx { slot with inUse := false }
      return .abort abortKeyId
  if !(← portRoleAllowed P .write kidBase entry.dataId) then
    setWriteSlot idx { slot with inUse := false }
    return .abort abortRoleDenied
  let slot := { slot with keyId := wireKeyId }
  let nonce := aeadXorNonce clientRandom slot.serverRandom
  let some plaintext ← callOpen gcm (serverCall P key nonce dirWriteRequest wireKeyId
      slot.clientDev entry.dataId (some (clientRandom, slot.serverRandom))) cipher tag
    | setWriteSlot idx { slot with inUse := false }
      return .abort abortTagVerify
  setLastWriteKid kidBase
  let hookRc ← portWriteAfter P entry.dataId plaintext
  if hookRc != abortNone then
    setWriteSlot idx { slot with inUse := false }
    return .abort hookRc
  if keyidIsCyclic wireKeyId then
    let now ← portTime P
    setWriteSlot idx
      { slot with
        cyclic := true
        nonceBase := aeadXorNonce clientRandom slot.serverRandom
        counter := 0
        armedAt := now }
    return .ok []
  setWriteSlot idx { slot with inUse := false }
  return .ok []

/-! ## Cyclic polls -/

/-- `poll_check_counter`: the full counter of the next frame. -/
def pollCheckCounter (current : Nat) (wireCounterLow : UInt8) : Except Abort Nat :=
  if current ≥ keyUseLimit then .error abortKeyBudget
  else if UInt8.ofNat (current + 1) != wireCounterLow then .error abortPollCounter
  else .ok (current + 1)

/-- `handle_read_poll`. -/
def handleReadPoll (gcm : Gcm) (P : Ports H) (idx : Fin sodMaxEntries) (entry : SodEntry)
    (clientDev : UInt16) (req : List UInt8) (replyMax : Nat) : SodM H SodResult := do
  let slot ← getReadSlot idx
  if !slot.inUse || !slot.cyclic then
    return .abort abortNoSession
  if slot.clientDev != clientDev then
    return .abort abortNoSession
  if !(← sessionIsFresh P slot.armedAt) then
    setReadSlot idx { slot with inUse := false }
    return .abort abortNoSession
  if req.length != 1 then
    return .abort (lengthAbort req.length 1)
  if replyMax < pollLen entry then
    return .abort abortInternal
  match pollCheckCounter slot.counter (req.getD 0 0) with
  | .error code =>
      if code == abortKeyBudget then
        setReadSlot idx { slot with inUse := false }
      return .abort code
  | .ok expected =>
      if !(← portAccessAllowed P .read entry.dataId) then
        return .abort abortDeviceState
      if !(← portRoleAllowed P .read (keyidBase slot.keyId) entry.dataId) then
        return .abort abortRoleDenied
      let (hookRc, plaintext) ← portReadBefore P entry.dataId
      if hookRc != abortNone then
        return .abort hookRc
      if plaintext.length != entry.dataLen then
        return .abort abortInternal
      let some key ← getKey (keyidBase slot.keyId) | return .abort abortKeyId
      let nonce := buildSessionNonce slot.nonceBase expected
      let some (cipher, tag) ← callSeal gcm (serverCall P key nonce dirReadPollResponse
          slot.keyId slot.clientDev entry.dataId none) plaintext | return .abort abortInternal
      let now ← portTime P
      setReadSlot idx { slot with counter := expected, armedAt := now }
      return .ok (UInt8.ofNat expected :: cipher ++ toList tag)

/-- `handle_write_poll`. -/
def handleWritePoll (gcm : Gcm) (P : Ports H) (idx : Fin sodMaxEntries) (entry : SodEntry)
    (clientDev : UInt16) (req : List UInt8) : SodM H SodResult := do
  let slot ← getWriteSlot idx
  if !slot.inUse || !slot.cyclic then
    return .abort abortNoSession
  if slot.clientDev != clientDev then
    return .abort abortNoSession
  if !(← sessionIsFresh P slot.armedAt) then
    setWriteSlot idx { slot with inUse := false }
    return .abort abortNoSession
  if req.length != pollLen entry then
    return .abort (lengthAbort req.length (pollLen entry))
  match pollCheckCounter slot.counter (req.getD 0 0) with
  | .error code =>
      if code == abortKeyBudget then
        setWriteSlot idx { slot with inUse := false }
      return .abort code
  | .ok expected =>
      if !(← portRoleAllowed P .write (keyidBase slot.keyId) entry.dataId) then
        return .abort abortRoleDenied
      let cipher := (req.drop 1).take entry.dataLen
      let tag : Tag := slice 16 (1 + entry.dataLen) req
      let some key ← getKey (keyidBase slot.keyId) | return .abort abortKeyId
      let nonce := buildSessionNonce slot.nonceBase expected
      -- a bad tag neither advances the counter nor tears the session down
      let some plaintext ← callOpen gcm (serverCall P key nonce dirWritePollRequest slot.keyId
          slot.clientDev entry.dataId none) cipher tag | return .abort abortTagVerify
      let hookRc ← portWriteAfter P entry.dataId plaintext
      if hookRc != abortNone then
        return .abort hookRc
      let now ← portTime P
      setWriteSlot idx { slot with counter := expected, armedAt := now }
      return .ok []

/-! ## Dispatch -/

/-- The SECURE_WO branch of `fbsec_sod_dispatch`, reached directly or by
    fall-through from a read-write entry. -/
def dispatchWrite (gcm : Gcm) (P : Ports H) (idx : Fin sodMaxEntries) (entry : SodEntry)
    (clientDev : UInt16) (req : List UInt8) (replyMax : Nat) : SodM H SodResult := do
  if entry.hasWo then
    if req.length == 0 then
      armWriteChallenge P idx entry clientDev none replyMax
    else if req.length == 1 then
      armWriteChallenge P idx entry clientDev (some (req.getD 0 0)) replyMax
    else
      verifyAndApplyWrite gcm P idx entry req
  else
    return .abort abortNotBuilt

/-- The SECURE_RO branch of `fbsec_sod_dispatch`, with its fall-through. -/
def dispatchRead (gcm : Gcm) (P : Ports H) (idx : Fin sodMaxEntries) (entry : SodEntry)
    (clientDev : UInt16) (req : List UInt8) (replyMax : Nat) : SodM H SodResult := do
  if entry.hasRo then
    if req.length == readChallengeLen then
      return ← armReadResponse gcm P idx entry clientDev req
    if req.length == 0 then
      if let some result ← fetchReadResponse P idx entry replyMax then
        return result
    else if !entry.hasWo then
      return .abort abortTypeMismatch
  dispatchWrite gcm P idx entry clientDev req replyMax

/-- `fbsec_sod_dispatch`. -/
def sodDispatch (gcm : Gcm) (P : Ports H) (clientDev : UInt16) (dataId : UInt32)
    (req : List UInt8) (replyMax : Nat) : SodM H SodResult := fun w =>
  match w.sod.registry.find dataId with
  | none => (.notHandled, w)
  | some (idx, entry) =>
      let rslot := w.sod.readSlot idx
      let wslot := w.sod.writeSlot idx
      if entry.hasRo && req.length == 1 && rslot.inUse && rslot.cyclic then
        handleReadPoll gcm P idx entry clientDev req replyMax w
      else if entry.hasWo && req.length == pollLen entry && wslot.inUse && wslot.cyclic then
        handleWritePoll gcm P idx entry clientDev req w
      else
        dispatchRead gcm P idx entry clientDev req replyMax w

end SofaOd
