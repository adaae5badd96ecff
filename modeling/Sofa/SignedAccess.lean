import Sofa.DeviceLink
import Sofa.RpkClient
import Sofa.Challenges

/-! # Signed accesses, end to end

    The tool's signed accesses against the device's, each of which builds the messages and
    takes them apart on its own.

    * `serve_armed`, `serve_read`, `serve_write` and `serve_command`: the device's side of an
      exchange, run to the end on the bodies the tool builds;
    * **`signed_accesses`**: what a success means over any transport, and that the accesses
      succeed, and take effect once, over one that loses nothing. -/

namespace SofaSignedAccess

open ByteBlock SofaConfig SofaAead SofaOd SofaClient SofaAsym SofaDemo SofaDevice SofaTurn SofaNode
  SofaEpochs SofaChallenges SofaServer SofaLifecycle SofaHandover SofaTranscripts SofaChannel SofaLink SofaRpkClient
  StateWp Machine

variable {E C : Type} {gcm : Gcm} {ed : Ed25519} {plat : DevicePlatform E} {deviceId : UInt16}

/-! ## The bodies, taken apart -/

section Bodies

variable {index : UInt16} {sub : UInt8} {clientNonce : RpkNonce} {value rest : List UInt8}
  {sig : Signature} {code : UInt32}

theorem targetId_header : targetId (accessHeader index sub ++ rest) = accessId index sub := by
  show ((index.toUInt8.toUInt16 ||| ((index >>> 8).toUInt8.toUInt16 <<< 8)).toUInt32 <<< 16)
    ||| (sub.toUInt32 <<< 8) = _
  rw [putU16le_load]
  rfl

theorem length_header : (accessHeader index sub).length = 3 := rfl

theorem length_readRequest : (readRequest index sub clientNonce).length = 19 := by
  simp [readRequest, length_header]

theorem length_writePayload :
    (writePayload index sub clientNonce value sig).length = 83 + value.length := by
  simp only [writePayload, List.length_append, length_header, length_toList]
  omega

theorem length_commandPayload : (commandPayload clientNonce code sig).length = 84 := by
  simp [commandPayload, putU32le]

/-- The device reads the fields that the tool wrote. -/
theorem writeAccess_payload : writeAccess (writePayload index sub clientNonce value sig)
    = ⟨roleGenericWrite, accessId index sub, toList clientNonce, value, sig⟩ := by
  have hlen : (writePayload index sub clientNonce value sig).length
      - (rpkWriteHdrLen + asymSigSize) = value.length := by
    rw [length_writePayload]
    show 83 + value.length - 83 = value.length
    omega
  have htarget : targetId (writePayload index sub clientNonce value sig) = accessId index sub := by
    simp only [writePayload, List.append_assoc]
    exact targetId_header
  have hnonce : ((writePayload index sub clientNonce value sig).drop 3).take rpkNonceLen
      = toList clientNonce := by
    simp only [writePayload, List.append_assoc]
    rw [List.drop_left' length_header, List.take_left' (length_toList _)]
  have hfront : (accessHeader index sub ++ toList clientNonce).length = rpkWriteHdrLen := by
    rw [List.length_append, length_header, length_toList]
  have hvalue : ((writePayload index sub clientNonce value sig).drop rpkWriteHdrLen).take
      value.length = value := by
    rw [writePayload, List.append_assoc, List.drop_left' hfront, List.take_left]
  have hsig : slice 64 (rpkWriteHdrLen + value.length)
      (writePayload index sub clientNonce value sig) = sig := by
    have hslice := slice_append_right 64 (accessHeader index sub ++ toList clientNonce ++ value)
      (toList sig) 0
    rw [List.length_append, hfront, Nat.add_zero, slice_toList] at hslice
    exact hslice
  unfold writeAccess
  rw [hlen, htarget, hnonce, hvalue, hsig]

theorem commandAccess_payload : commandAccess (commandPayload clientNonce code sig)
    = ⟨roleFunctionCmd, rpkFunccmdId, toList clientNonce, putU32le code, sig⟩ := by
  have hnonce : (commandPayload clientNonce code sig).take rpkNonceLen = toList clientNonce := by
    rw [commandPayload, List.append_assoc, List.take_left' (length_toList _)]
  have hcode : ((commandPayload clientNonce code sig).drop rpkNonceLen).take rpkCmdLen
      = putU32le code := by
    rw [commandPayload, List.append_assoc, List.drop_left' (length_toList _)]
    rfl
  have hsig : slice 64 (rpkNonceLen + rpkCmdLen) (commandPayload clientNonce code sig) = sig := by
    have hslice := slice_append_right 64 (toList clientNonce ++ putU32le code) (toList sig) 0
    have hfront : (toList clientNonce ++ putU32le code).length = rpkNonceLen + rpkCmdLen := by
      rw [List.length_append, length_toList]
      rfl
    rw [hfront, Nat.add_zero, slice_toList] at hslice
    exact hslice
  unfold commandAccess
  rw [hnonce, hcode, hsig]

/-- A command code comes back from its four bytes. -/
theorem commandCode_put : commandCode (putU32le code) = code := putU32le_inj (putU32le_le _ _ _ _)

end Bodies

/-! ## The device's side -/

section Serve

variable {d : Device E} {client : UInt16} {index : UInt16} {sub : UInt8} {clientNonce : RpkNonce}
  {value : List UInt8} {sig : Signature} {code : UInt32}

/-- The device after it handed out a challenge. -/
def armedWith (d : Device E) (env : E) (client : UInt16) (object : UInt32) (nonce : RpkNonce) :
    Device E :=
  { d.setHost { d.server.host with env := env } with challenge := ⟨true, client, object, nonce⟩ }

/-- The bodies that ask for a challenge. -/
def Arming (object : UInt32) (req : List UInt8) : Prop :=
  req.length = if object = rpkFunccmdId then 0 else 3

theorem armChallenge_exec {object : UInt32} {nonce : RpkNonce} {env : E}
    (hdraw : plat.nonce d.server.host.env = (some nonce, env)) :
    armChallenge plat client object ⟨d, [], []⟩
      = (true, ⟨armedWith d env client object nonce, [⟨client, object, abortNone, toList nonce⟩],
        [.armed client object nonce]⟩) := by
  apply run_of_wp
  unfold armChallenge
  rw [wp_bind, wp_portNonce]
  intro r env' hr
  obtain ⟨rfl, rfl⟩ : some nonce = r ∧ env = env' := Prod.mk.inj (hdraw.symm.trans hr)
  exact ⟨rfl, rfl⟩

/-- **Pass 1**: the device hands out a challenge. -/
theorem serve_armed {object : UInt32} {req : List UInt8} {nonce : RpkNonce} {env : E}
    (hobj : object ∈ accessObjects) (hconst : Unshadowed d object) (harm : Arming object req)
    (hdraw : plat.nonce d.server.host.env = (some nonce, env)) :
    serveRequest gcm ed plat deviceId d client object req
      = ⟨armedWith d env client object nonce, [⟨client, object, abortNone, toList nonce⟩],
        [.armed client object nonce]⟩ := by
  refine serve_access hobj hconst ((?_ : _ = _).trans (armChallenge_exec hdraw))
  simp only [accessObjects, List.mem_cons, List.not_mem_nil, or_false] at hobj
  unfold Arming at harm
  obtain rfl | rfl | rfl := hobj
  · rw [if_neg (by decide)] at harm
    unfold rpkTry handleGenericRead
    rw [if_neg (by decide), if_neg (by decide), if_pos (by decide), if_pos (by simp [harm])]
  · rw [if_neg (by decide)] at harm
    unfold rpkTry handleGenericWrite
    rw [if_neg (by decide), if_neg (by decide), if_neg (by decide), if_pos (by decide),
      if_pos (by rw [harm]; decide)]
  · rw [if_pos rfl] at harm
    unfold rpkTry handleCommand
    rw [if_neg (by decide), if_neg (by decide), if_neg (by decide), if_neg (by decide),
      if_pos (by decide), if_pos (by simp [harm])]

/-- **A signed read**: the device answers with the value and the signature over it. -/
theorem serve_read {host : DemoHost E} (hconst : Unshadowed d rpkGenericReadId)
    (held : HeldBy d.challenge client rpkGenericReadId) (short : value.length ≤ rpkValueMax)
    (hook : demoReadBefore (accessId index sub) d.server.host = ((abortNone, value), host)) :
    let transcript := toolTranscript roleGenericRead deviceId client (accessId index sub)
      clientNonce d.challenge.serverNonce value
    serveRequest gcm ed plat deviceId d client rpkGenericReadId (readRequest index sub clientNonce)
      = ⟨disarmed (d.setHost host), [⟨client, rpkGenericReadId, abortNone,
          value ++ toList (ed.sign d.asym.idevid transcript)⟩],
        [.readBefore (accessId index sub) abortNone value, .signed roleGenericRead transcript]⟩ := by
  intro transcript
  have hlen := @length_readRequest index sub clientNonce
  have htarget : targetId (readRequest index sub clientNonce) = accessId index sub :=
    targetId_header
  have hnonce : (readRequest index sub clientNonce).drop 3 = toList clientNonce :=
    List.drop_left' length_header
  refine serve_access (by decide) hconst (run_of_wp ?_)
  unfold rpkTry handleGenericRead
  rw [if_neg (by decide), if_neg (by decide), if_pos (by decide), if_neg (by simp [hlen]),
    if_neg (by rw [hlen]; decide), wp_bind, wp_getDevice,
    if_neg (by simp [held.armed, held.client, held.object]), wp_bind, wp_hookReadBefore]
  intro rc val host' hhook
  rw [htarget, hook] at hhook
  obtain ⟨hval, rfl⟩ := Prod.mk.inj hhook
  obtain ⟨rfl, rfl⟩ := Prod.mk.inj hval
  have hmade : ((asymTranscript roleGenericRead (buildSignedBody deviceId client (targetId
      (readRequest index sub clientNonce)) ((readRequest index sub clientNonce).drop 3)
      d.challenge.serverNonce value) rpkTranscriptMax).length == 0) = false := by
    rw [htarget, hnonce]
    exact toolTranscript_ne short
  dsimp only
  rw [if_neg (by decide), if_neg (Nat.not_lt.mpr short)]
  simp only [wp_bind, wp_ite, wp_disarm, wp_record, wp_emit]
  refine ⟨fun h => absurd (hmade.symm.trans h) (by decide), fun _ => ⟨trivial, ?_⟩⟩
  rw [htarget, hnonce]
  rfl

/-- **A signed write**: the value reaches the hook. -/
theorem serve_write {peer : Pubkey} {keys : KeyStore} {host : DemoHost E}
    (hconst : Unshadowed d rpkGenericWriteId) (held : HeldBy d.challenge client rpkGenericWriteId)
    (hpeer : d.asym.getPeer rpkWritePeerSlot = some peer) (short : value.length ≤ rpkValueMax)
    (good : ed.verify peer (toolTranscript roleGenericWrite deviceId client (accessId index sub)
      clientNonce d.challenge.serverNonce value) sig = true)
    (hook : demoWriteAfter (accessId index sub) value d.server.sod.lastWriteKid
      d.server.sod.keys d.server.host = (abortNone, keys, host)) :
    serveRequest gcm ed plat deviceId d client rpkGenericWriteId
        (writePayload index sub clientNonce value sig)
      = ⟨((disarmed d).setKeys keys).setHost host, [⟨client, rpkGenericWriteId, abortNone, []⟩],
        [.verified (toolTranscript roleGenericWrite deviceId client (accessId index sub)
            clientNonce d.challenge.serverNonce value) sig true,
          .writeAfter (accessId index sub) value abortNone]⟩ := by
  have hlen := @length_writePayload index sub clientNonce value sig
  have hshort : value.length ≤ 16 := short
  have haccess := @writeAccess_payload index sub clientNonce value sig
  generalize hreq : writePayload index sub clientNonce value sig = req at hlen haccess ⊢
  have hmin : rpkWriteHdrLen + asymSigSize ≤ req.length := by
    show 83 ≤ req.length
    omega
  have hmax : req.length - (rpkWriteHdrLen + asymSigSize) ≤ rpkValueMax := by
    show req.length - 83 ≤ 16
    omega
  have harm : ¬ (req.length == rpkWriteHdrLen - rpkNonceLen) = true := by
    show ¬ (req.length == 3) = true
    simp only [beq_iff_eq]
    omega
  have hverify : verifyTranscript d deviceId client rpkGenericWriteId req = toolTranscript
      roleGenericWrite deviceId client (accessId index sub) clientNonce d.challenge.serverNonce
      value := by
    unfold verifyTranscript accessOf
    rw [if_neg (by decide), haccess]
    rfl
  have hsig : (accessOf rpkGenericWriteId req).sig = sig := by
    unfold accessOf
    rw [if_neg (by decide), haccess]
  have hbind : targetId req = accessId index sub := congrArg Access.bind haccess
  have hvalue : (req.drop rpkWriteHdrLen).take (req.length - (rpkWriteHdrLen + asymSigSize))
      = value := congrArg Access.value haccess
  have body : Pass2Body rpkGenericWriteId req := .inl ⟨rfl, hmin, hmax⟩
  refine serve_access (by decide) hconst (run_of_wp ?_)
  unfold rpkTry handleGenericWrite
  rw [if_neg (by decide), if_neg (by decide), if_neg (by decide), if_pos (by decide), if_neg harm,
    if_neg (Nat.not_lt.mpr hmin), if_neg (Nat.not_lt.mpr hmax), wp_bind]
  refine wp_verifySigned body (fun hnot => absurd held hnot) (fun _ hnone => ?_)
    fun peer' attempt => ?_
  · rw [hpeer] at hnone
    exact nomatch hnone
  · obtain rfl : peer = peer' := Option.some.inj (hpeer.symm.trans attempt.peer)
    rw [hverify, hsig, good]
    simp only [if_true, wp_ite, wp_bind, wp_emit, wp_hookWriteAfter]
    refine ⟨fun h => absurd h (by decide), fun _ rc keys' host' hhook => ?_⟩
    rw [hbind, hvalue] at hhook
    obtain ⟨rfl, hstate⟩ := Prod.mk.inj (hhook.symm.trans hook)
    obtain ⟨rfl, rfl⟩ := Prod.mk.inj hstate
    rw [hbind, hvalue]
    exact ⟨trivial, rfl⟩

/-- What a function command leaves. -/
def commandDone (d : Device E) (code : UInt32) : Device E :=
  if code = cmdFactoryRestore then (disarmed d).decommission else disarmed d

/-- The calls of a function command that verifies. -/
def commandCalls (transcript : List UInt8) (sig : Signature) (code : UInt32) : List Call :=
  [.verified transcript sig true, .command code]
    ++ if code = cmdFactoryRestore then [.decommission] else []

/-- **A function command** is executed. -/
theorem serve_command {peer : Pubkey} (hconst : Unshadowed d rpkFunccmdId)
    (held : HeldBy d.challenge client rpkFunccmdId)
    (hpeer : d.asym.getPeer rpkWritePeerSlot = some peer)
    (good : ed.verify peer (toolTranscript roleFunctionCmd deviceId client rpkFunccmdId
      clientNonce d.challenge.serverNonce (putU32le code)) sig = true) :
    serveRequest gcm ed plat deviceId d client rpkFunccmdId (commandPayload clientNonce code sig)
      = ⟨commandDone d code, [⟨client, rpkFunccmdId, abortNone, []⟩],
        commandCalls (toolTranscript roleFunctionCmd deviceId client rpkFunccmdId clientNonce
          d.challenge.serverNonce (putU32le code)) sig code⟩ := by
  have hlen := @length_commandPayload clientNonce sig code
  have haccess := @commandAccess_payload clientNonce sig code
  generalize hreq : commandPayload clientNonce code sig = req at hlen haccess ⊢
  have hverify : verifyTranscript d deviceId client rpkFunccmdId req = toolTranscript
      roleFunctionCmd deviceId client rpkFunccmdId clientNonce d.challenge.serverNonce
      (putU32le code) := by
    unfold verifyTranscript accessOf
    rw [if_pos rfl, haccess]
    rfl
  have hsig : (accessOf rpkFunccmdId req).sig = sig := by
    unfold accessOf
    rw [if_pos rfl, haccess]
  have hcode : commandCode ((req.drop rpkNonceLen).take rpkCmdLen) = code := by
    rw [show (req.drop rpkNonceLen).take rpkCmdLen = putU32le code from
      congrArg Access.value haccess, commandCode_put]
  have body : Pass2Body rpkFunccmdId req := .inr ⟨rfl, hlen⟩
  refine serve_access (by decide) hconst (run_of_wp ?_)
  unfold rpkTry handleCommand
  rw [if_neg (by decide), if_neg (by decide), if_neg (by decide), if_neg (by decide),
    if_pos (by decide), if_neg (by simp [hlen]), if_neg (by rw [hlen]; decide), wp_bind]
  refine wp_verifySigned body (fun hnot => absurd held hnot) (fun _ hnone => ?_)
    fun peer' attempt => ?_
  · rw [hpeer] at hnone
    exact nomatch hnone
  · obtain rfl : peer = peer' := Option.some.inj (hpeer.symm.trans attempt.peer)
    rw [hverify, hsig, good, hcode]
    unfold commandDone commandCalls
    simp only [if_true, wp_ite, wp_bind, wp_emit, wp_record, wp_getDevice, wp_setDevice, beq_iff_eq]
    refine ⟨fun h => absurd h (by decide), fun _ => ⟨fun hreset => ?_, fun hother => ?_⟩⟩
    · rw [if_pos hreset, if_pos hreset]
      exact ⟨trivial, rfl⟩
    · rw [if_neg hother, if_neg hother]
      exact ⟨trivial, rfl⟩

end Serve

/-! ## End to end -/

/-- The tool's transport to a server that keeps its history. -/
abbrev nodeTransport (gcm : Gcm) (ed : Ed25519) (plat : DevicePlatform E)
    (deviceId clientId : UInt16) (random : C → Option Rand × C)
    (challenge : C → Option RpkNonce × C) : HandoverTransport (Channel C (Node E)) :=
  linkTransport (nodeService gcm ed plat deviceId) clientId random challenge

/-- The effects of the signed accesses of these visits, in order. -/
def deeds (visits : List Visit) : List Call := visits.flatMap fun v => v.calls.filter isEffect

/-- The reference server after a run, at the end of a channel that loses nothing, with no
    constant entry at this access object; both ends have a nonce to draw. -/
structure Bench (gcm : Gcm) (ed : Ed25519) (plat : DevicePlatform E) (deviceId : UInt16)
    (challenge : C → Option RpkNonce × C) (object : UInt32) (ch : Channel C (Node E))
    (clientNonce serverNonce : RpkNonce) (env : E) : Prop where
  ran : ∃ cfg start d inputs, odInit ed cfg start = some d ∧ Unshadowed d object ∧
    ch.server = nodeAfter gcm ed plat deviceId d inputs
  lossless : ch.Lossless
  served : plat.nonce ch.server.device.server.host.env = (some serverNonce, env)
  drawn : (challenge ch.client).1 = some clientNonce

section Accesses

variable {challenge : C → Option RpkNonce × C} {random : C → Option Rand × C} {clientId : UInt16}
  {object : UInt32} {ch : Channel C (Node E)} {clientNonce serverNonce : RpkNonce} {env : E}
  {index : UInt16} {sub : UInt8} {value : List UInt8} {host : DemoHost E}

/-- The server after Pass 1. -/
def afterArming (n : Node E) (env : E) (clientId : UInt16) (object : UInt32) (req : List UInt8)
    (nonce : RpkNonce) : Node E :=
  ⟨armedWith n.device env clientId object nonce, n.history ++ [⟨clientId, object, req,
    [⟨clientId, object, abortNone, toList nonce⟩], [.armed clientId object nonce]⟩]⟩

theorem Bench.enrolled (h : Bench gcm ed plat deviceId challenge object ch clientNonce serverNonce
    env) : Enrolled ed ch.server.device.asym := by
  obtain ⟨cfg, start, d, inputs, hstart, -, hserver⟩ := h.ran
  rw [hserver]
  exact enrolled_run hstart inputs

theorem Bench.unshadowed (h : Bench gcm ed plat deviceId challenge object ch clientNonce
    serverNonce env) : Unshadowed ch.server.device object := by
  obtain ⟨cfg, start, d, inputs, -, hconst, hserver⟩ := h.ran
  rw [hserver]
  exact unshadowed_run hconst inputs

/-- Pass 1 over the channel. -/
theorem Bench.armed (h : Bench gcm ed plat deviceId challenge object ch clientNonce serverNonce env)
    (hobj : object ∈ accessObjects) {req : List UInt8} (harm : Arming object req) :
    (nodeTransport gcm ed plat deviceId clientId random challenge).read deviceId object req
        rpkNonceLen ch
      = (.ok (toList serverNonce), ⟨ch.client,
          afterArming ch.server env clientId object req serverNonce, ch.fates.tail⟩) :=
  read_delivered (Channel.fate_lossless h.lossless)
    (nodeService_ok (serve_armed hobj h.unshadowed harm h.served)) (length_toList _).le

/-- What Pass 2 finds: the channel and the challenge. -/
theorem Bench.held {req : List UInt8} {n : Node E} :
    HeldBy (afterArming n env clientId object req serverNonce).device.challenge clientId object :=
  ⟨rfl, rfl, rfl⟩

/-- The draw in between. -/
theorem Bench.draw (h : Bench gcm ed plat deviceId challenge object ch clientNonce serverNonce env)
    {n : Node E} {fates : List Fate} :
    (nodeTransport gcm ed plat deviceId clientId random challenge).challenge ⟨ch.client, n, fates⟩
      = (some clientNonce, ⟨(challenge ch.client).2, n, fates⟩) := by
  show ((challenge ch.client).1, _) = _
  rw [h.drawn]

/-- **A signed read** returns what the hook serves. -/
theorem read_end_to_end (correct : Ed25519Correct ed)
    (h : Bench gcm ed plat deviceId challenge rpkGenericReadId ch clientNonce serverNonce env)
    (hook : demoReadBefore (accessId index sub) { ch.server.device.server.host with env := env }
      = ((abortNone, value), host))
    (short : value.length ≤ rpkValueMax) {bufSize : Nat} (room : value.length ≤ bufSize)
    (log : List HandoverEvent) :
    let out := signedRead ed (nodeTransport gcm ed plat deviceId clientId random challenge)
      deviceId index sub bufSize ⟨ch, log⟩
    out.1 = .ok value ∧ ∃ visits, out.2.net.server.history = ch.server.history ++ visits ∧
      deeds visits = [] ∧ out.2.net.server.device.server.host = host := by
  intro out
  -- the device in front of Pass 2
  let n := afterArming ch.server env clientId rpkGenericReadId (accessHeader index sub) serverNonce
  let transcript := toolTranscript roleGenericRead deviceId clientId (accessId index sub)
    clientNonce serverNonce value
  let sig := ed.sign ch.server.device.asym.idevid transcript
  have hserve := @serve_read E gcm ed plat deviceId n.device clientId index sub clientNonce value
    host h.unshadowed Bench.held short hook
  have hfits : (value ++ toList sig).length ≤ rpkReplyMax := by
    rw [List.length_append, length_toList]
    exact Nat.add_le_add_right short 64
  have hanswer := @read_delivered C (Node E) (nodeService gcm ed plat deviceId) clientId
    rpkGenericReadId (readRequest index sub clientNonce)
    ⟨(challenge ch.client).2, n, ch.fates.tail⟩ random deviceId (value ++ toList sig) _ rpkReplyMax
    (Channel.fate_lossless (Channel.lossless_tail h.lossless)) (nodeService_ok hserve) hfits
  have hverified : ed.verify (clientServerIdevid ed) transcript sig = true := by
    show ed.verify _ transcript (ed.sign ch.server.device.asym.idevid transcript) = true
    rw [h.enrolled.idevid]
    exact correct idevidSeed transcript
  have harmed : (nodeTransport gcm ed plat deviceId clientId random challenge).read deviceId
      rpkGenericReadId (accessHeader index sub) rpkNonceLen ch = _ := h.armed (by decide) rfl
  have hrun : out.1 = .ok value ∧ out.2.net = _ :=
    signedRead_exec log harmed h.draw hanswer short room hverified
  refine ⟨hrun.1, ?_⟩
  rw [hrun.2]
  exact ⟨[_, _], List.append_assoc _ _ _, rfl, rfl⟩

/-- **A signed write** reaches the hook once, with the value that was sent. -/
theorem write_end_to_end (correct : Ed25519Correct ed)
    (h : Bench gcm ed plat deviceId challenge rpkGenericWriteId ch clientNonce serverNonce env)
    {keys : KeyStore}
    (hook : demoWriteAfter (accessId index sub) value ch.server.device.server.sod.lastWriteKid
      ch.server.device.server.sod.keys { ch.server.device.server.host with env := env }
      = (abortNone, keys, host))
    (short : value.length ≤ rpkValueMax) (log : List HandoverEvent) :
    let out := signedWrite ed (nodeTransport gcm ed plat deviceId clientId random challenge)
      deviceId index sub value ⟨ch, log⟩
    out.1 = 0 ∧ ∃ visits, out.2.net.server.history = ch.server.history ++ visits ∧
      deeds visits = [.writeAfter (accessId index sub) value abortNone] ∧
      out.2.net.server.device.server.host = host ∧
      out.2.net.server.device.server.sod.keys = keys := by
  intro out
  let n := afterArming ch.server env clientId rpkGenericWriteId (accessHeader index sub) serverNonce
  let transcript := toolTranscript roleGenericWrite deviceId clientId (accessId index sub)
    clientNonce serverNonce value
  let sig := ed.sign (clientIntegrator ed) transcript
  have hserve := @serve_write E gcm ed plat deviceId n.device clientId index sub clientNonce value
    sig (clientIntegrator ed).pub keys host h.unshadowed Bench.held h.enrolled.peer short
    (correct integratorSeed transcript) hook
  have htaken := @write_delivered C (Node E) (nodeService gcm ed plat deviceId) clientId
    rpkGenericWriteId (writePayload index sub clientNonce value sig)
    ⟨(challenge ch.client).2, n, ch.fates.tail⟩ random deviceId [] _
    (Channel.fate_lossless (Channel.lossless_tail h.lossless)) (nodeService_ok hserve)
  have harmed : (nodeTransport gcm ed plat deviceId clientId random challenge).read deviceId
      rpkGenericWriteId (accessHeader index sub) rpkNonceLen ch = _ := h.armed (by decide) rfl
  have hrun : out.1 = 0 ∧ out.2.net = _ := signedWrite_exec log harmed h.draw short htaken
  refine ⟨hrun.1, ?_⟩
  rw [hrun.2]
  exact ⟨[_, _], List.append_assoc _ _ _, rfl, rfl, rfl⟩

/-- **A function command** is executed once, with the code that was sent. -/
theorem command_end_to_end (correct : Ed25519Correct ed)
    (h : Bench gcm ed plat deviceId challenge rpkFunccmdId ch clientNonce serverNonce env)
    (code : UInt32) (log : List HandoverEvent) :
    let out := command ed (nodeTransport gcm ed plat deviceId clientId random challenge)
      deviceId code ⟨ch, log⟩
    out.1 = 0 ∧ ∃ visits, out.2.net.server.history = ch.server.history ++ visits ∧
      deeds visits = [.command code] ∧
      (code = cmdFactoryRestore → Uncommissioned out.2.net.server.device) := by
  intro out
  let n := afterArming ch.server env clientId rpkFunccmdId [] serverNonce
  let transcript := toolTranscript roleFunctionCmd deviceId clientId rpkFunccmdId clientNonce
    serverNonce (putU32le code)
  let sig := ed.sign (clientIntegrator ed) transcript
  have hserve := @serve_command E gcm ed plat deviceId n.device clientId clientNonce sig code
    (clientIntegrator ed).pub h.unshadowed Bench.held h.enrolled.peer
    (correct integratorSeed transcript)
  have htaken := @write_delivered C (Node E) (nodeService gcm ed plat deviceId) clientId
    rpkFunccmdId (commandPayload clientNonce code sig)
    ⟨(challenge ch.client).2, n, ch.fates.tail⟩ random deviceId [] _
    (Channel.fate_lossless (Channel.lossless_tail h.lossless)) (nodeService_ok hserve)
  have harmed : (nodeTransport gcm ed plat deviceId clientId random challenge).read deviceId
      rpkFunccmdId [] rpkNonceLen ch = _ := h.armed (by decide) rfl
  have hrun : out.1 = 0 ∧ out.2.net = _ := command_exec log harmed h.draw htaken
  refine ⟨hrun.1, ?_⟩
  rw [hrun.2]
  refine ⟨[_, _], List.append_assoc _ _ _, ?_, fun hreset => .inr ?_⟩
  · unfold commandCalls
    split <;> rfl
  · show (commandDone n.device code).asym.uncommissioned = true
    unfold commandDone
    rw [if_pos hreset]
    rfl

end Accesses

/-! ## What a success means -/

section Sound

variable {Signed : Pubkey → List UInt8 → Prop}

/-- A signed read succeeds only on a value that the IDevID signed for this target, this
    client, this object and a nonce that this call drew. -/
def ReadSound (ed : Ed25519) (Signed : Pubkey → List UInt8 → Prop) : Prop :=
  ∀ (N : Type) (T : HandoverTransport N) (target index : UInt16) (sub : UInt8) (bufSize : Nat)
    (w : HandoverWorld N) (value : List UInt8),
    (signedRead ed T target index sub bufSize w).1 = .ok value →
    ∃ clientNonce serverNonce events short,
      (signedRead ed T target index sub bufSize w).2.log = w.log ++ events ∧
      .drawn (some clientNonce) ∈ events ∧
      Signed (clientServerIdevid ed) (SignedMessage.genericRead (accessMade target T.clientId
        (accessId index sub) clientNonce serverNonce value short)).transcript

/-- The genuineness check succeeds only on a reply whose blob the manufacturer certified, and
    whose key signed the blob with the nonce that this call drew. -/
def GenuinenessSound (ed : Ed25519) (Signed : Pubkey → List UInt8 → Prop) : Prop :=
  ∀ (N : Type) (T : HandoverTransport N) (target : UInt16) (w : HandoverWorld N),
    (verifyGenuineness ed T target w).1 = 0 →
    ∃ rt reply serial key, (verifyGenuineness ed T target w).2.log = w.log
        ++ [.drawn (some rt), .read target hoIdentityId (toList rt) (.ok reply)] ∧
      reply.take asymIdentityBlobLen = identityBlob serial key ∧
      Signed (clientManufacturer ed).pub (SignedMessage.idevidCert serial key).transcript ∧
      Signed key (SignedMessage.identityRead serial key rt).transcript

theorem read_sound (hsigned : ∀ key transcript sig, ed.verify key transcript sig = true →
    Signed key transcript) : ReadSound ed Signed := by
  intro N T target index sub bufSize w value h
  have hspec : wp (signedRead ed T target index sub bufSize) _ w :=
    signedRead_spec ed T target index sub bufSize w
  obtain ⟨clientNonce, serverNonce, events, hlog, hdrawn, hreply⟩ := hspec value h
  obtain ⟨sig, hverified⟩ := hreply.verified
  refine ⟨clientNonce, serverNonce, events, hreply.short, hlog, hdrawn, ?_⟩
  rw [← toolTranscript_read hreply.short]
  exact hsigned _ _ sig hverified

theorem genuineness_sound (hsigned : ∀ key transcript sig, ed.verify key transcript sig = true →
    Signed key transcript) : GenuinenessSound ed Signed := by
  intro N T target w h
  have hspec : wp (verifyGenuineness ed T target) _ w := verifyGenuineness_spec ed T target w
  obtain ⟨rt, reply, hgenuine, hlog⟩ := hspec.2.1 h
  have hlen : reply.length = 168 := hgenuine.len
  have hserial : toList (slice 8 0 reply) = (reply.drop 0).take 8 := toList_slice 8 0 reply (by omega)
  have hkey : toList (identityKey reply) = (reply.drop 8).take 32 := toList_slice 32 8 reply (by omega)
  have hblob : reply.take asymIdentityBlobLen = identityBlob (slice 8 0 reply) (identityKey reply) := by
    unfold identityBlob
    rw [hserial, hkey, List.drop_zero, ← List.take_add]
  have hcert : certTranscript reply
      = (SignedMessage.idevidCert (slice 8 0 reply) (identityKey reply)).transcript := by
    unfold certTranscript
    rw [hblob]
    rfl
  have hidentity : identityTranscript rt reply
      = (SignedMessage.identityRead (slice 8 0 reply) (identityKey reply) rt).transcript := by
    rw [identityTranscript_eq hgenuine.len, SignedMessage.transcript_eq, hblob]
    rfl
  refine ⟨rt, reply, _, _, hlog, hblob, ?_, ?_⟩
  · rw [← hcert]
    exact hsigned _ _ _ hgenuine.certified
  · rw [← hidentity]
    exact hsigned _ _ _ hgenuine.signed

end Sound

/-! ## The headline -/

/-- The accesses against the reference server succeed: a read returns the value the hook
    serves, and a write or a command takes effect once, with the value or code that was
    sent. -/
structure Complete (gcm : Gcm) (ed : Ed25519) (plat : DevicePlatform E) (deviceId : UInt16)
    (clientId : UInt16) (random : C → Option Rand × C) (challenge : C → Option RpkNonce × C)
    (ch : Channel C (Node E)) (clientNonce serverNonce : RpkNonce) (env : E)
    (log : List HandoverEvent) : Prop where
  read : Bench gcm ed plat deviceId challenge rpkGenericReadId ch clientNonce serverNonce env →
    ∀ index sub value host bufSize,
      demoReadBefore (accessId index sub) { ch.server.device.server.host with env := env }
        = ((abortNone, value), host) →
      value.length ≤ rpkValueMax → value.length ≤ bufSize →
      let out := signedRead ed (nodeTransport gcm ed plat deviceId clientId random challenge)
        deviceId index sub bufSize ⟨ch, log⟩
      out.1 = .ok value ∧ ∃ visits, out.2.net.server.history = ch.server.history ++ visits ∧
        deeds visits = [] ∧ out.2.net.server.device.server.host = host
  write : Bench gcm ed plat deviceId challenge rpkGenericWriteId ch clientNonce serverNonce env →
    ∀ index sub value keys host,
      demoWriteAfter (accessId index sub) value ch.server.device.server.sod.lastWriteKid
        ch.server.device.server.sod.keys { ch.server.device.server.host with env := env }
        = (abortNone, keys, host) →
      value.length ≤ rpkValueMax →
      let out := signedWrite ed (nodeTransport gcm ed plat deviceId clientId random challenge)
        deviceId index sub value ⟨ch, log⟩
      out.1 = 0 ∧ ∃ visits, out.2.net.server.history = ch.server.history ++ visits ∧
        deeds visits = [.writeAfter (accessId index sub) value abortNone] ∧
        out.2.net.server.device.server.host = host ∧
        out.2.net.server.device.server.sod.keys = keys
  command : Bench gcm ed plat deviceId challenge rpkFunccmdId ch clientNonce serverNonce env →
    ∀ code,
      let out := command ed (nodeTransport gcm ed plat deviceId clientId random challenge)
        deviceId code ⟨ch, log⟩
      out.1 = 0 ∧ ∃ visits, out.2.net.server.history = ch.server.history ++ visits ∧
        deeds visits = [.command code] ∧
        (code = cmdFactoryRestore → Uncommissioned out.2.net.server.device)

/-- **Signed accesses and the identity read, end to end.**  Over every transport a signed
    read and a genuineness check succeed only on what was signed for this call; and against
    the reference server after every run, with no constant entry at the access object, over a
    channel that loses nothing, the accesses succeed and take effect once. -/
theorem signed_accesses (ed : Ed25519) (Signed : Pubkey → List UInt8 → Prop)
    (hsigned : ∀ key transcript sig, ed.verify key transcript sig = true → Signed key transcript)
    (correct : Ed25519Correct ed) :
    ReadSound ed Signed ∧ GenuinenessSound ed Signed ∧
      ∀ (E C : Type) (gcm : Gcm) (plat : DevicePlatform E) (deviceId clientId : UInt16)
        (random : C → Option Rand × C) (challenge : C → Option RpkNonce × C)
        (ch : Channel C (Node E)) (clientNonce serverNonce : RpkNonce) (env : E)
        (log : List HandoverEvent),
        Complete gcm ed plat deviceId clientId random challenge ch clientNonce serverNonce env
          log := by
  refine ⟨read_sound hsigned, genuineness_sound hsigned, ?_⟩
  intro E C gcm plat deviceId clientId random challenge ch clientNonce serverNonce env log
  constructor
  · intro h index sub value host bufSize hook short room
    exact read_end_to_end correct h hook short room log
  · intro h index sub value keys host hook short
    exact write_end_to_end correct h hook short log
  · intro h code
    exact command_end_to_end correct h code log

/-! ## Worked runs -/

/-- The bare demo device, as it booted. -/
def sampleNode (d : Device SampleEnv) : Channel Unit (Node SampleEnv) := ⟨(), ⟨d, []⟩, []⟩

/-- The tool draws this nonce. -/
def sampleDraw (c : Unit) : Option RpkNonce × Unit := (some (sampleNonce 0x40), c)

/-- The line between them. -/
def sampleWire : HandoverTransport (Channel Unit (Node SampleEnv)) :=
  nodeTransport sampleGcm sampleEd samplePlatform sampleNodeId 20 (fun c => (none, c)) sampleDraw

theorem sampleBench_write : Bench sampleGcm sampleEd samplePlatform sampleNodeId sampleDraw
    rpkGenericWriteId (sampleNode sampleBare) (sampleNonce 0x40) (sampleNonce 1)
    (samplePlatform.nonce sampleBare.server.host.env).2 := by
  refine ⟨⟨{}, { nonces := [sampleNonce 1] }, sampleBare, [], (Option.some_get _).symm, ?_, rfl⟩,
    fun f hf => (nomatch hf), ?_, rfl⟩
  · unfold Unshadowed
    decide +kernel
  · have hdrawn : (samplePlatform.nonce sampleBare.server.host.env).1 = some (sampleNonce 1) := by
      decide +kernel
    exact Prod.ext hdrawn rfl

/-- The hook takes four bytes for 2010h. -/
theorem sampleHook {E : Type} (kid : UInt8) (keys : KeyStore) (h : DemoHost E) :
    demoWriteAfter (accessId 0x2010 0x00) [1, 2, 3, 4] kid keys h
      = (abortNone, keys, { h with value := slice 4 0 [1, 2, 3, 4] }) := by
  unfold demoWriteAfter
  rw [if_neg (by decide), if_pos (by decide), if_neg (by decide)]

/-- `signed_accesses` on a write of four bytes to 2010h. -/
theorem sampleWrite_effects :
    ∃ visits, (signedWrite sampleEd sampleWire sampleNodeId 0x2010 0x00 [1, 2, 3, 4]
        ⟨sampleNode sampleBare, []⟩).2.net.server.history = [] ++ visits ∧
      deeds visits = [.writeAfter (accessId 0x2010 0x00) [1, 2, 3, 4] abortNone] := by
  have hcomplete := (signed_accesses sampleEd (fun key t => ∃ sig, sampleEd.verify key t sig = true)
    (fun _ _ sig h => ⟨sig, h⟩) sampleEd_correct).2.2 SampleEnv Unit sampleGcm samplePlatform
    sampleNodeId 20 (fun c => (none, c)) sampleDraw (sampleNode sampleBare) (sampleNonce 0x40)
    (sampleNonce 1) (samplePlatform.nonce sampleBare.server.host.env).2 []
  obtain ⟨-, visits, hhistory, hdeeds, -⟩ := hcomplete.write sampleBench_write 0x2010 0x00
    [1, 2, 3, 4] _ _ (sampleHook _ _ _) (show 4 ≤ 16 by decide)
  exact ⟨visits, hhistory, hdeeds⟩

/-- The demo device with a constant entry at C042h:01h. -/
def sampleHidden : Device SampleEnv :=
  (odInit sampleEd { odFile := some [⟨0xC042, 0x01, [0]⟩] } { nonces := [sampleNonce 1] }).get
    (by decide +kernel)

/-- The demo device with nothing to draw. -/
def sampleDry : Device SampleEnv := (odInit sampleEd {} {}).get (by decide +kernel)

/-- **Reads that fail** of an object that the hook serves: behind a constant entry, without a
    nonce on the device, and into a buffer that is too small. -/
theorem failed_reads :
    (demoReadBefore (accessId 0x2020 0x00) sampleHidden.server.host).1.1 = abortNone ∧
      (signedRead sampleEd sampleWire sampleNodeId 0x2020 0x00 16 ⟨sampleNode sampleHidden, []⟩).1
        = .error 2 ∧
      (signedRead sampleEd sampleWire sampleNodeId 0x2020 0x00 16 ⟨sampleNode sampleDry, []⟩).1
        = .error 2 ∧
      (signedRead sampleEd sampleWire sampleNodeId 0x2020 0x00 3 ⟨sampleNode sampleBare, []⟩).1
        = .error 3 := by
  decide +kernel

end SofaSignedAccess
