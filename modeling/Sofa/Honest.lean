import Sofa.Channel
import Sofa.Device
import Sofa.Exec

/-! # Honest single-shot transfers

    The client of `fbsec_secure_proto.c` and the server of `fbsec_secure_od.c` were written
    apart.  Here they meet: with the same key on both sides, hooks that grant the access and
    a channel that loses nothing, what one side puts on the wire is what the other side
    reads there, for every length of the data, both modes and all randoms.

    * `read_exchanges`, `write_exchanges`: the two requests of a transfer, as the server
      serves them;
    * **`single_shot_agreement`**: the read returns the bytes `read_before` produced, the
      write is one `write_after` with the bytes written, and the slot is free again. -/

namespace SofaHonest

open ByteBlock SofaConfig SofaAead SofaOd SofaMoves SofaServer SofaWrites SofaWriteFrames SofaExec
  SofaClient SofaClientMoves SofaChannel SofaDevice StateWp

variable {H : Type} {gcm : Gcm} {P : Ports H} {s : Sod} {host : H} {idx : Fin sodMaxEntries}
  {entry : SodEntry} {dataId : UInt32} {key : Key} {keyId : UInt8} {plain cipher : List UInt8}
  {tag : Tag} {cr sr : Rand}

/-! ## What both transfers need -/

/-- The entry is registered and idle, and the key of the key id byte is installed and
    allowed.  The byte asks for a single transfer. -/
structure Ready (s : Sod) (dataId : UInt32) (idx : Fin sodMaxEntries) (entry : SodEntry)
    (key : Key) (keyId : UInt8) : Prop where
  found : s.registry.find dataId = some (idx, entry)
  readIdle : (s.readSlot idx).inUse = false
  writeIdle : (s.writeSlot idx).inUse = false
  reserved : keyidReserved keyId = 0
  single : keyidIsCyclic keyId = false
  installed : s.keys.getKey (keyidBase keyId) = some key
  binding : entry.acceptsKey (keyidBase keyId) = true

/-- The entry is one protected transfer long at most. -/
theorem Ready.short (h : Ready s dataId idx entry key keyId) : entry.dataLen ≤ aeadMaxProtected :=
  s.registry.protected_le _ (find_mem h.found)

/-- An installed key has a base id, so the client does not refuse the byte. -/
theorem Ready.accepted (h : Ready s dataId idx entry key keyId) : keyidRefused keyId = false := by
  have hrange : keySlotInRange (keyidBase keyId) = true := by
    have hkey := h.installed
    unfold KeyStore.getKey at hkey
    split at hkey
    · assumption
    · cases hkey
  simp only [keySlotInRange, Bool.and_eq_true, decide_eq_true_eq] at hrange
  have hzero : keyidBase keyId ≠ 0 := by
    intro h0
    rw [h0] at hrange
    exact absurd hrange.1 (by decide)
  have hmax : ¬ keyidBase keyId > keyidMax :=
    UInt8.not_lt.mpr (UInt8.le_trans hrange.2 (by decide))
  simp [keyidRefused, h.reserved, hzero, hmax]

/-- The hooks let the read of one entry through: the policies grant it, `read_before`
    produces `plain`, the random source `sr`, and the fetch is in time. -/
def ReadHooks (P : Ports H) (entry : SodEntry) (base : UInt8) (host : H) (plain : List UInt8)
    (sr : Rand) : Prop :=
  ∃ h₁ h₂, ReadGranted P entry base host plain h₁ ∧ plain.length = entry.dataLen ∧
    P.random h₁ = (some sr, h₂) ∧
    ageWithin (P.timeMs (P.timeMs h₂).2).1 (P.timeMs h₂).1 challengeTimeoutMs = true

/-- The hooks let the write of `plain` through, and leave `keys` and `host'`. -/
def WriteHooks (P : Ports H) (entry : SodEntry) (base : UInt8) (before : KeyStore) (host : H)
    (plain : List UInt8) (sr : Rand) (keys : KeyStore) (host' : H) : Prop :=
  ∃ h₁ h₂, P.accessAllowed .write entry.dataId host = (true, h₁) ∧
    P.random h₁ = (some sr, h₂) ∧
    ageWithin (P.timeMs (P.timeMs h₂).2).1 (P.timeMs h₂).1 challengeTimeoutMs = true ∧
    (P.roleAllowed .write base entry.dataId (P.timeMs (P.timeMs h₂).2).2).1 = true ∧
    P.writeAfter entry.dataId plain base before
      (hostAtWrite P base entry.dataId (P.timeMs h₂).2) = (abortNone, keys, host')

/-! ## The frames, taken apart -/

theorem length_challenge : (keyId :: toList cr).length = readChallengeLen := by
  rw [List.length_cons, length_toList]
  rfl

theorem random_challenge : reqRandom (keyId :: toList cr) = cr := by
  unfold reqRandom
  rw [show (1 : Nat) = 0 + 1 from rfl, slice_cons_succ, slice_toList]

theorem random_request : reqRandom (requestFrame keyId cr cipher tag) = cr := by
  unfold reqRandom requestFrame
  rw [show (1 : Nat) = 0 + 1 from rfl, List.append_assoc, List.cons_append, slice_cons_succ,
    slice_toList_append]

theorem length_request (hlen : cipher.length = entry.dataLen) :
    (requestFrame keyId cr cipher tag).length = pass2Len entry := by
  rw [pass2Len_eq]
  simp only [requestFrame, List.length_append, List.length_cons, length_toList, hlen]
  omega

theorem cipher_request (hlen : cipher.length = entry.dataLen) :
    pass2Cipher entry (requestFrame keyId cr cipher tag) = cipher := by
  have hhead : (keyId :: toList cr).length = 1 + aeadRandSize := by
    rw [List.length_cons, length_toList, Nat.add_comm]
  unfold pass2Cipher requestFrame
  rw [List.append_assoc, List.drop_left' hhead, ← hlen, List.take_left]

theorem tag_request (hlen : cipher.length = entry.dataLen) :
    pass2Tag entry (requestFrame keyId cr cipher tag) = tag := by
  have hfront : (keyId :: toList cr ++ cipher).length = 1 + aeadRandSize + entry.dataLen := by
    rw [List.length_append, List.length_cons, length_toList, hlen, Nat.add_comm 12 1]
  have hslice := slice_append_right 16 (keyId :: toList cr ++ cipher) (toList tag) 0
  rw [hfront, Nat.add_zero] at hslice
  rw [pass2Tag, requestFrame, hslice, slice_toList]

/-! ## The exchanges of a read -/

/-- **The two requests of a read**: a challenge that is taken, and a fetch that delivers a
    response the call of the challenge opens. -/
theorem read_exchanges (client : UInt16) (cr : Rand) (hg : gcm.Correct)
    (ready : Ready s dataId idx entry key keyId)
    (hro : entry.hasRo = true) (hooks : ReadHooks P entry (keyidBase keyId) host plain sr) :
    ∃ (w₁ w₂ : World H) (cipher : List UInt8) (tag : Tag),
      sodDispatch gcm P client dataId (keyId :: toList cr) dispatchReplyMax ⟨s, host, []⟩
        = (.defer, w₁) ∧
      sodDispatch gcm P client dataId [] dispatchReplyMax ⟨w₁.sod, w₁.host, []⟩
        = (.ok (responseFrame sr cipher tag), w₂) ∧
      cipher.length = entry.dataLen ∧
      aeadOpen gcm (readArmCall P client entry (keyId :: toList cr) key sr) cipher tag
        = some plain ∧
      (w₂.sod.readSlot idx).inUse = false := by
  obtain ⟨h₁, h₂, granted, full, random, fresh⟩ := hooks
  have hshort : plain.length ≤ aeadMaxProtected := by
    rw [full]
    exact ready.short
  obtain ⟨cipher, tag, sealed⟩ := aeadSeal_isSome hg
    (readArmCall P client entry (keyId :: toList cr) key sr) hshort
  have hcipher : cipher.length = entry.dataLen := (length_aeadSeal sealed).trans full
  -- the first request: the reply is sealed and held in the slot
  have hchallenge : sodDispatch gcm P client dataId (keyId :: toList cr) dispatchReplyMax
      ⟨s, host, []⟩ = (.defer, _) :=
    (dispatch_readChallenge ready.found hro length_challenge).trans
      (armRead_exec ready.reserved ready.binding ready.installed ready.readIdle full granted random
        sealed)
  -- the second: it is delivered, and the slot is free
  let slot := armedReadSlot client (keyId :: toList cr) sr cipher tag (P.timeMs h₂).1
  have hslot : (s.setRead idx slot).readSlot idx = slot := Sod.readSlot_setRead s idx slot
  have hsingle : slot.cyclic = false := ready.single
  have hready : slot.prepared = responseFrame sr cipher tag := rfl
  have hfits : slot.prepared.length ≤ dispatchReplyMax := by
    have hdata : entry.dataLen ≤ 32 := ready.short
    show slot.prepared.length ≤ 64
    rw [hready, length_responseFrame, hcipher]
    omega
  have hfetchable : Fetchable P ((s.setRead idx slot).readSlot idx) (P.timeMs h₂).2
      dispatchReplyMax := by
    rw [hslot]
    refine ⟨rfl, ?_, fresh, hfits⟩
    rw [hready, ← List.length_pos_iff, length_responseFrame]
    omega
  have hfetch : sodDispatch gcm P client dataId [] dispatchReplyMax
      ⟨s.setRead idx slot, (P.timeMs h₂).2, []⟩ = (.ok ((s.setRead idx slot).readSlot idx).prepared, _) :=
    dispatch_fetch ready.found hro (fetch_exec hfetchable (by rw [hslot]; exact hsingle))
  rw [hslot] at hfetch
  exact ⟨_, _, cipher, tag, hchallenge, hfetch, hcipher, aeadOpen_aeadSeal hg sealed, by simp⟩

/-! ## The exchanges of a write -/

/-- The module state after a write: the slot is free, the key id byte is remembered, and
    the keys are those the hook left. -/
def written (s : Sod) (idx : Fin sodMaxEntries) (client : UInt16) (keyId : UInt8) (sr : Rand)
    (armedAt : UInt16) (keys : KeyStore) : Sod :=
  Sod.setWrite (wrote s (keyidBase keyId) keys) idx
    { armedWriteSlot client none sr armedAt with
      keyId := keyId
      inUse := false }

/-- The data of the `write_after` calls of a log, with their outcomes. -/
def writeAfters (calls : List Event) : List (UInt32 × List UInt8 × Abort) :=
  calls.filterMap fun
    | .writeAfter d src _ rc => some (d, src, rc)
    | _ => none

/-- The AEAD call of a write Pass 2, on either side. -/
def writeCall (P : Ports H) (client : UInt16) (dataId : UInt32) (key : Key) (keyId : UInt8)
    (cr sr : Rand) : AeadCall :=
  serverCall P key (aeadXorNonce cr sr) dirWriteRequest keyId client dataId (some (cr, sr))

/-- What a write needs of the module: no other client holds the slot. -/
structure Writable (s : Sod) (client : UInt16) (dataId : UInt32) (idx : Fin sodMaxEntries)
    (entry : SodEntry) (key : Key) (keyId : UInt8) : Prop where
  found : s.registry.find dataId = some (idx, entry)
  readIdle : entry.hasRo = true → (s.readSlot idx).inUse = false
  own : (s.writeSlot idx).inUse = true → (s.writeSlot idx).clientDev = client
  reserved : keyidReserved keyId = 0
  single : keyidIsCyclic keyId = false
  installed : s.keys.getKey (keyidBase keyId) = some key
  binding : entry.acceptsKey (keyidBase keyId) = true

theorem Ready.writable (h : Ready s dataId idx entry key keyId) (client : UInt16) :
    Writable s client dataId idx entry key keyId where
  found := h.found
  readIdle := fun _ => h.readIdle
  own := fun hused => absurd (h.writeIdle.symm.trans hused) (by decide)
  reserved := h.reserved
  single := h.single
  installed := h.installed
  binding := h.binding

/-- **The second request of a write**: on an armed slot, the frame of the client verifies under
    the call it was sealed with, and is applied. -/
theorem frame_applied (client : UInt16) (cr : Rand) (hg : gcm.Correct)
    (ready : Writable s client dataId idx entry key keyId) (hwo : entry.hasWo = true)
    (full : plain.length = entry.dataLen) {keys : KeyStore} {host' : H} {armedAt : UInt16}
    (fresh : ageWithin (P.timeMs host).1 armedAt challengeTimeoutMs = true)
    (role : (P.roleAllowed .write (keyidBase keyId) entry.dataId (P.timeMs host).2).1 = true)
    (hook : P.writeAfter entry.dataId plain (keyidBase keyId) s.keys
      (hostAtWrite P (keyidBase keyId) entry.dataId host) = (abortNone, keys, host'))
    (sealed : aeadSeal gcm (writeCall P client dataId key keyId cr sr) plain = some (cipher, tag)) :
    ∃ f : SofaWrites.Frame, sodDispatch gcm P client dataId (requestFrame keyId cr cipher tag)
        dispatchReplyMax ⟨s.setWrite idx (armedWriteSlot client none sr armedAt), host, []⟩
      = (.ok [], ⟨written s idx client keyId sr armedAt keys, host',
          writeLog (P.timeMs host).1 f dataId plain (keyidBase keyId) abortNone⟩) := by
  have hdata : entry.dataId = dataId := find_dataId ready.found
  have hcipher : cipher.length = entry.dataLen := (length_aeadSeal sealed).trans full
  let armed := s.setWrite idx (armedWriteSlot client none sr armedAt)
  let frame := requestFrame keyId cr cipher tag
  have hslot : armed.writeSlot idx = armedWriteSlot client none sr armedAt :=
    Sod.writeSlot_setWrite s idx _
  have hcall : pass2Call P (armed.writeSlot idx) entry frame key =
      writeCall P client dataId key keyId cr sr := by
    rw [hslot, pass2Call, random_request, hdata]
    rfl
  have hopen : aeadOpen gcm (pass2Call P (armed.writeSlot idx) entry frame key)
      (pass2Cipher entry frame) (pass2Tag entry frame) = some plain := by
    rw [hcall, cipher_request hcipher, tag_request hcipher]
    exact aeadOpen_aeadSeal hg sealed
  have hverifies : Pass2Verifies gcm P armed host idx entry frame key :=
    { wo := hwo
      inUse := by rw [hslot]; rfl
      fresh := by rw [hslot]; exact fresh
      len := length_request hcipher
      reserved := ready.reserved
      binding := ready.binding
      installed := ready.installed
      allowed := role
      opened := fun hnone => by cases hopen.symm.trans hnone }
  have hsingle : keyidIsCyclic (reqHead frame) = false := ready.single
  have happly : verifyAndApplyWrite gcm P idx entry frame ⟨armed, host, []⟩ =
      (.ok [], ⟨written s idx client keyId sr armedAt keys, host',
        writeLog (P.timeMs host).1 (pass2Frame P (armed.writeSlot idx) entry frame key)
          entry.dataId plain (keyidBase keyId) abortNone⟩) := by
    have hsod : (wrote armed (keyidBase keyId) keys).setWrite idx
        { armed.writeSlot idx with keyId := keyId, inUse := false } =
          written s idx client keyId sr armedAt keys := by
      rw [hslot]
      simp only [written, wrote, armed, Sod.setWrite, Function.update_idem]
    apply run_of_wp
    refine pass2_exec hverifies hopen hook (fun h => absurd rfl h) (fun _ _ => ⟨rfl, ?_⟩)
      (fun _ hcyc => by rw [hsingle] at hcyc; cases hcyc)
    rw [← hsod]
    rfl
  refine ⟨pass2Frame P (armed.writeSlot idx) entry frame key, ?_⟩
  rw [← hdata]
  exact (dispatch_pass2 (hdata.symm ▸ ready.found) hwo (length_request hcipher)).trans happly

/-- **The two requests of a write**: a challenge, and a Pass-2 frame that is applied. -/
theorem write_exchanges (client : UInt16) (cr : Rand) (hg : gcm.Correct)
    (ready : Writable s client dataId idx entry key keyId)
    (hwo : entry.hasWo = true) (full : plain.length = entry.dataLen) {keys : KeyStore} {host' : H}
    (hooks : WriteHooks P entry (keyidBase keyId) s.keys host plain sr keys host') :
    ∃ (w₁ w₂ : World H) (cipher : List UInt8) (tag : Tag) (armedAt : UInt16),
      sodDispatch gcm P client dataId [] dispatchReplyMax ⟨s, host, []⟩ = (.ok (toList sr), w₁) ∧
      aeadSeal gcm (writeCall P client dataId key keyId cr sr) plain = some (cipher, tag) ∧
      sodDispatch gcm P client dataId (requestFrame keyId cr cipher tag) dispatchReplyMax
        ⟨w₁.sod, w₁.host, []⟩ = (.ok [], w₂) ∧
      w₂.sod = written s idx client keyId sr armedAt keys ∧ w₂.host = host' ∧
      writeAfters (w₁.log ++ w₂.log) = [(dataId, plain, abortNone)] := by
  obtain ⟨h₁, h₂, access, random, fresh, role, hook⟩ := hooks
  have hshort : plain.length ≤ aeadMaxProtected := by
    rw [full]
    exact s.registry.protected_le _ (find_mem ready.found)
  obtain ⟨cipher, tag, sealed⟩ := aeadSeal_isSome hg (writeCall P client dataId key keyId cr sr)
    hshort
  -- the first request arms the slot, which no other client holds
  have hchallenge : sodDispatch gcm P client dataId [] dispatchReplyMax ⟨s, host, []⟩ =
      (.ok (toList sr), _) :=
    (dispatch_writeChallenge ready.found hwo ready.readIdle).trans
      (armWrite_granted access random (heldCheck_own ready.own) (by decide))
  obtain ⟨f, hframe⟩ := frame_applied client cr hg ready hwo full fresh role hook sealed
  exact ⟨_, _, cipher, tag, _, hchallenge, sealed, hframe, rfl, rfl, rfl⟩

/-! ## The agreement -/

/-- What goes back to the requester: an abort travels as its code, a request that nobody
    handles is no object, and a deferred one is acknowledged. -/
def answer : SodResult → Except Abort (List UInt8)
  | .ok reply => .ok reply
  | .defer => .ok []
  | .abort code => .error code
  | .notHandled => .error abortNoObject

/-- The secure object dictionary behind the channel. -/
def sodService (gcm : Gcm) (P : Ports H) : Service (Server H) := fun client dataId body s =>
  (answer (serve gcm P s client dataId body dispatchReplyMax).1,
    step gcm P s (.request client dataId body dispatchReplyMax))

/-- One request, from the run of the dispatcher. -/
theorem sodService_of (srv : Server H) {client : UInt16} {body : List UInt8} {r : SodResult}
    {w : World H}
    (h : sodDispatch gcm P client dataId body dispatchReplyMax ⟨srv.sod, srv.host, []⟩ = (r, w)) :
    sodService gcm P client dataId body srv =
      (answer r, ⟨w.sod, w.host, srv.history ++ [⟨client, dataId, body, r, w.log⟩]⟩) := by
  have hserve : serve gcm P srv client dataId body dispatchReplyMax = (r, w) := h
  simp only [sodService, step, exchange, hserve]

/-- The read of a client, with its outcome and the channel after it. -/
def readOver (gcm : Gcm) (P : Ports H) {C : Type} (client : UInt16)
    (random : C → Option Rand × C) (dataId : UInt32) (key : Key) (keyId : UInt8) (bufSize : Nat)
    (w : ClientWorld (Channel C (Server H))) :
    Except SecpError (List UInt8) × ClientWorld (Channel C (Server H)) :=
  secureRead gcm (channelTransport (sodService gcm P) client random) P.deviceId dataId key keyId
    bufSize w

/-- The write of a client, with its outcome and the channel after it. -/
def writeOver (gcm : Gcm) (P : Ports H) {C : Type} (client : UInt16)
    (random : C → Option Rand × C) (dataId : UInt32) (key : Key) (keyId : UInt8)
    (plain : List UInt8) (w : ClientWorld (Channel C (Server H))) :
    Except SecpError Unit × ClientWorld (Channel C (Server H)) :=
  secureWrite gcm (channelTransport (sodService gcm P) client random) P.deviceId dataId key keyId
    plain w

section Agreement

variable {C : Type} {client : UInt16} {random : C → Option Rand × C} {c : C}
  {ch : Channel C (Server H)} {log : List ClientEvent}

/-- **A read over the channel.** -/
theorem read_agrees (hg : gcm.Correct) (lossless : ch.Lossless)
    (ready : Ready ch.server.sod dataId idx entry key keyId) (hro : entry.hasRo = true)
    (hooks : ReadHooks P entry (keyidBase keyId) ch.server.host plain sr)
    (draw : random ch.client = (some cr, c)) {bufSize : Nat} (fits : entry.dataLen ≤ bufSize) :
    (readOver gcm P client random dataId key keyId bufSize ⟨ch, log⟩).1 = .ok plain ∧
      ((readOver gcm P client random dataId key keyId bufSize
        ⟨ch, log⟩).2.net.server.sod.readSlot idx).inUse = false := by
  obtain ⟨w₁, w₂, cipher, tag, hchallenge, hfetch, hcipher, hopen, hfree⟩ :=
    read_exchanges client cr hg ready hro hooks
  have hdata : entry.dataId = dataId := find_dataId ready.found
  rw [readArmCall, random_challenge, hdata] at hopen
  have hshort : cipher.length ≤ aeadMaxProtected := by
    rw [hcipher]
    exact ready.short
  have hfits : cipher.length ≤ bufSize := by
    rw [hcipher]
    exact fits
  let taken : Server H := ⟨w₁.sod, w₁.host,
    ch.server.history ++ [⟨client, dataId, keyId :: toList cr, .defer, w₁.log⟩]⟩
  have hserved := sodService_of ch.server hchallenge
  have hfetched := sodService_of taken hfetch
  obtain ⟨hok, hnet⟩ := channel_read log lossless ready.accepted draw hserved hfetched hshort
    hfits hopen
  refine ⟨hok, ?_⟩
  unfold readOver
  rw [hnet]
  exact hfree

/-- **A write over the channel.** -/
theorem write_agrees (hg : gcm.Correct) (lossless : ch.Lossless)
    (ready : Ready ch.server.sod dataId idx entry key keyId) (hwo : entry.hasWo = true)
    (some_data : 1 ≤ entry.dataLen) (full : plain.length = entry.dataLen) {keys : KeyStore}
    {host' : H}
    (hooks : WriteHooks P entry (keyidBase keyId) ch.server.sod.keys ch.server.host plain sr keys
      host')
    (draw : random ch.client = (some cr, c)) :
    (writeOver gcm P client random dataId key keyId plain ⟨ch, log⟩).1 = .ok () ∧
      ((writeOver gcm P client random dataId key keyId plain
        ⟨ch, log⟩).2.net.server.sod.writeSlot idx).inUse = false ∧
      ∃ served, (writeOver gcm P client random dataId key keyId plain
          ⟨ch, log⟩).2.net.server.history = ch.server.history ++ served ∧
        writeAfters (served.flatMap (·.calls)) = [(dataId, plain, abortNone)] := by
  obtain ⟨w₁, w₂, cipher, tag, armedAt, hchallenge, sealed, hframe, hsod, -, hcalls⟩ :=
    write_exchanges client cr hg (ready.writable client) hwo full hooks
  let challenged : Server H := ⟨w₁.sod, w₁.host,
    ch.server.history ++ [⟨client, dataId, [], .ok (toList sr), w₁.log⟩]⟩
  have hserved := sodService_of ch.server hchallenge
  have htaken := sodService_of challenged hframe
  obtain ⟨hok, hnet⟩ := channel_write log lossless ready.accepted (by rw [full]; exact some_data)
    (by rw [full]; exact ready.short) draw hserved sealed htaken
  refine ⟨hok, ?_, [⟨client, dataId, [], .ok (toList sr), w₁.log⟩,
    ⟨client, dataId, requestFrame keyId cr cipher tag, .ok [], w₂.log⟩], ?_, ?_⟩
  · unfold writeOver
    rw [hnet, hsod]
    simp [written]
  · unfold writeOver
    rw [hnet]
    simp [challenged]
  · simpa using hcalls

/-- **Agreement.**  With the key on both sides, allowed by the entry, both slots idle, a
    channel that loses nothing and hooks that grant the access in time, in either mode and for
    all randoms: a read of a readable entry returns what `read_before` produced, a write of a
    writable one is taken, after exactly one `write_after`, with the bytes written; and the slot
    used is free again. -/
theorem single_shot_agreement (hg : gcm.Correct) (lossless : ch.Lossless)
    (ready : Ready ch.server.sod dataId idx entry key keyId)
    (draw : random ch.client = (some cr, c)) :
    (∀ (plain : List UInt8) (sr : Rand) (bufSize : Nat), entry.hasRo = true →
      ReadHooks P entry (keyidBase keyId) ch.server.host plain sr → entry.dataLen ≤ bufSize →
      let run := readOver gcm P client random dataId key keyId bufSize ⟨ch, log⟩
      run.1 = .ok plain ∧ (run.2.net.server.sod.readSlot idx).inUse = false) ∧
    (∀ (plain : List UInt8) (sr : Rand) (keys : KeyStore) (host' : H), entry.hasWo = true →
      1 ≤ entry.dataLen → plain.length = entry.dataLen →
      WriteHooks P entry (keyidBase keyId) ch.server.sod.keys ch.server.host plain sr keys host' →
      let run := writeOver gcm P client random dataId key keyId plain ⟨ch, log⟩
      run.1 = .ok () ∧ (run.2.net.server.sod.writeSlot idx).inUse = false ∧
        ∃ served, run.2.net.server.history = ch.server.history ++ served ∧
          writeAfters (served.flatMap (·.calls)) = [(dataId, plain, abortNone)]) := by
  constructor
  · intro plain sr bufSize hro hooks fits
    exact read_agrees hg lossless ready hro hooks draw fits
  · intro plain sr keys host' hwo some_data full hooks
    exact write_agrees hg lossless ready hwo some_data full hooks draw

end Agreement

/-! ## A worked pair of transfers -/

/-- A readable and writable entry of four bytes. -/
def sampleReadWrite : SodEntry := ⟨0x20100000, 0, 0x03, 4⟩

/-- The entry registered and the key installed. -/
def sampleHonest : Server (List Rand) :=
  after sampleGcm sampleReader [sampleRand 5, sampleRand 6]
    [.registerEntry sampleReadWrite, .setKeyEx 1 sampleKey 1]

/-- The server at one end, a client with one random at the other. -/
def sampleChannel : Channel (List Rand) (Server (List Rand)) := ⟨[sampleRand 9], sampleHonest, []⟩

/-- The randoms of the client, one after the other. -/
def sampleDraw (randoms : List Rand) : Option Rand × List Rand := (randoms.head?, randoms.tail)

/-- An encrypted read, and an encrypted write. -/
theorem sampleChannel_agrees :
    (readOver sampleGcm sampleReader 20 sampleDraw 0x20100000 sampleKey 0x81 32
        ⟨sampleChannel, []⟩).1 = .ok [1, 2, 3, 4] ∧
      (writeOver sampleGcm sampleReader 20 sampleDraw 0x20100000 sampleKey 0x81
        [5, 6, 7, 8] ⟨sampleChannel, []⟩).1 = .ok () := by
  have ready : Ready sampleChannel.server.sod 0x20100000 0 sampleReadWrite sampleKey 0x81 :=
    ⟨by decide +kernel, by decide +kernel, by decide +kernel, by decide, by decide,
      by decide +kernel, by decide⟩
  have hread : ReadHooks sampleReader sampleReadWrite (keyidBase 0x81) sampleChannel.server.host
      [1, 2, 3, 4] (sampleRand 5) :=
    ⟨_, _, ⟨_, _, rfl, rfl, rfl⟩, rfl, rfl, by decide⟩
  have hwrite : WriteHooks sampleReader sampleReadWrite (keyidBase 0x81)
      sampleChannel.server.sod.keys sampleChannel.server.host [5, 6, 7, 8] (sampleRand 5)
      sampleChannel.server.sod.keys [sampleRand 6] :=
    ⟨_, _, rfl, rfl, by decide, rfl, rfl⟩
  obtain ⟨reads, writes⟩ := @single_shot_agreement _ sampleGcm sampleReader 0 sampleReadWrite
    0x20100000 sampleKey 0x81 (sampleRand 9) _ 20 sampleDraw [] sampleChannel [] sampleGcm_correct
    (fun f hf => by cases hf) ready rfl
  exact ⟨(reads _ _ 32 (by decide) hread (by decide)).1,
    (writes _ _ _ _ (by decide) (by decide) rfl hwrite).1⟩

end SofaHonest
