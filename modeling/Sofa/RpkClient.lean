import Sofa.Transcripts

/-! # The tool's signed accesses

    `client_common_rpk.c`: a signed read, a signed write and a function command.  Each
    fetches a challenge of the device first, and then sends, or reads back, what is signed
    over it.

    The state is that of the commissioning tool: what is behind the transport, with the log
    of the draws and the transfers.

    * `readReply_signed`: what an accepted reply says of its bytes;
    * **`signedRead_spec`**: a read succeeds only on a reply that the IDevID signed for this
      call;
    * `fetchChallenge_exec`, `signedRead_exec`, `signedWrite_exec` and `command_exec`: the
      calls, run to the end on the answers they ask for. -/

namespace SofaRpkClient

open ByteBlock SofaConfig SofaAead SofaClient SofaAsym SofaDevice SofaHandover SofaTranscripts StateWp

variable {N : Type}

/-! ## Requests -/

/-- The target of a signed access: index, then sub-index. -/
def accessHeader (index : UInt16) (sub : UInt8) : List UInt8 := putU16le index ++ [sub]

/-- The data id of the target. -/
def accessId (index : UInt16) (sub : UInt8) : UInt32 :=
  (index.toUInt32 <<< 16) ||| (sub.toUInt32 <<< 8)

/-- The reply buffer of a signed read: value and signature. -/
abbrev rpkReplyMax : Nat := rpkValueMax + asymSigSize

/-- What the tool signs, or verifies, in one of the roles. -/
def toolTranscript (role : UInt8) (target clientId : UInt16) (object : UInt32)
    (clientNonce serverNonce : RpkNonce) (value : List UInt8) : List UInt8 :=
  asymTranscript role (clientSignedBody target clientId object clientNonce serverNonce value)
    rpkTranscriptMax

/-- The Pass-2 body of a signed read. -/
def readRequest (index : UInt16) (sub : UInt8) (clientNonce : RpkNonce) : List UInt8 :=
  accessHeader index sub ++ toList clientNonce

/-- And of a signed write. -/
def writePayload (index : UInt16) (sub : UInt8) (clientNonce : RpkNonce) (value : List UInt8)
    (sig : Signature) : List UInt8 :=
  accessHeader index sub ++ toList clientNonce ++ value ++ toList sig

/-- And of a function command. -/
def commandPayload (clientNonce : RpkNonce) (code : UInt32) (sig : Signature) : List UInt8 :=
  toList clientNonce ++ putU32le code ++ toList sig

/-! ## The calls -/

/-- `fetch_challenge`: the device's nonce, or the return code. -/
def fetchChallenge (T : HandoverTransport N) (target : UInt16) (dataId : UInt32)
    (req : List UInt8) : HandoverM N (Except Nat RpkNonce) := do
  match ← handoverRead T target dataId req rpkNonceLen with
  | .error _ => return .error 2
  | .ok reply =>
      if reply.length != rpkNonceLen then
        return .error 3
      return .ok (slice 16 0 reply)

/-- `fbsec_rpk_signed_read`: the value, or the return code. -/
def signedRead (ed : Ed25519) (T : HandoverTransport N) (target : UInt16) (index : UInt16)
    (sub : UInt8) (bufSize : Nat) : HandoverM N (Except Nat (List UInt8)) := do
  match ← fetchChallenge T target rpkGenericReadId (accessHeader index sub) with
  | .error rc => return .error rc
  | .ok serverNonce =>
      let some clientNonce ← drawChallenge T | return .error 1
      match ← handoverRead T target rpkGenericReadId (readRequest index sub clientNonce)
          rpkReplyMax with
      | .error _ => return .error 2
      | .ok reply =>
          if reply.length < asymSigSize then
            return .error 3
          let vlen := reply.length - asymSigSize
          if vlen > rpkValueMax || vlen > bufSize then
            return .error 3
          let transcript := toolTranscript roleGenericRead target T.clientId (accessId index sub)
            clientNonce serverNonce (reply.take vlen)
          if transcript.length == 0
              || !ed.verify (clientServerIdevid ed) transcript (slice 64 vlen reply) then
            return .error 5
          return .ok (reply.take vlen)

/-- `fbsec_rpk_signed_write`. -/
def signedWrite (ed : Ed25519) (T : HandoverTransport N) (target : UInt16) (index : UInt16)
    (sub : UInt8) (value : List UInt8) : HandoverM N Nat := do
  if value.length > rpkValueMax then
    return 1
  match ← fetchChallenge T target rpkGenericWriteId (accessHeader index sub) with
  | .error rc => return rc
  | .ok serverNonce =>
      let some clientNonce ← drawChallenge T | return 1
      let transcript := toolTranscript roleGenericWrite target T.clientId (accessId index sub)
        clientNonce serverNonce value
      if transcript.length == 0 then
        return 6
      match ← handoverWrite T target rpkGenericWriteId (writePayload index sub clientNonce value
          (ed.sign (clientIntegrator ed) transcript)) with
      | .error _ => return 2
      | .ok () => return 0

/-- `fbsec_rpk_command`. -/
def command (ed : Ed25519) (T : HandoverTransport N) (target : UInt16) (code : UInt32) :
    HandoverM N Nat := do
  match ← fetchChallenge T target rpkFunccmdId [] with
  | .error rc => return rc
  | .ok serverNonce =>
      let some clientNonce ← drawChallenge T | return 1
      let transcript := toolTranscript roleFunctionCmd target T.clientId rpkFunccmdId clientNonce
        serverNonce (putU32le code)
      if transcript.length == 0 then
        return 6
      match ← handoverWrite T target rpkFunccmdId (commandPayload clientNonce code
          (ed.sign (clientIntegrator ed) transcript)) with
      | .error _ => return 2
      | .ok () => return 0

/-! ## What is signed -/

/-- The access of a call, with a value that fits. -/
def accessMade (target clientId : UInt16) (object : UInt32) (clientNonce serverNonce : RpkNonce)
    (value : List UInt8) (short : value.length ≤ rpkValueMax) : SignedAccess :=
  ⟨target, clientId, object, clientNonce, serverNonce, value, short⟩

section Transcript

variable {role : UInt8} {target clientId : UInt16} {object : UInt32}
  {clientNonce serverNonce : RpkNonce} {value : List UInt8}

/-- The tool's transcript is that of its access. -/
theorem toolTranscript_eq (short : value.length ≤ rpkValueMax) :
    toolTranscript role target clientId object clientNonce serverNonce value
      = asymDomain ++ [0x00, asymSigAlg, role]
        ++ (accessMade target clientId object clientNonce serverNonce value short).body :=
  (accessMade target clientId object clientNonce serverNonce value short).transcript_eq role

theorem toolTranscript_ne (short : value.length ≤ rpkValueMax) :
    ((toolTranscript role target clientId object clientNonce serverNonce value).length == 0)
      = false := by
  rw [toolTranscript_eq short]
  rfl

/-- And the one that the message of a signed read stands for. -/
theorem toolTranscript_read (short : value.length ≤ rpkValueMax) :
    toolTranscript roleGenericRead target clientId object clientNonce serverNonce value
      = (SignedMessage.genericRead
          (accessMade target clientId object clientNonce serverNonce value short)).transcript := by
  rw [toolTranscript_eq short, SignedMessage.transcript_eq]
  rfl

end Transcript

/-! ## Soundness -/

section Sound

variable {ed : Ed25519} {T : HandoverTransport N} {target : UInt16} {w : HandoverWorld N}

theorem wp_fetchChallenge {dataId : UInt32} {req : List UInt8}
    {Q : Except Nat RpkNonce → HandoverWorld N → Prop}
    (hreply : ∀ reply n', T.read target dataId req rpkNonceLen w.net = (.ok reply, n') →
      reply.length = rpkNonceLen →
      Q (.ok (slice 16 0 reply)) ⟨n', w.log ++ [.read target dataId req (.ok reply)]⟩)
    (hfail : ∀ rc answer n', Q (.error rc) ⟨n', w.log ++ [.read target dataId req answer]⟩) :
    wp (fetchChallenge T target dataId req) Q w := by
  unfold fetchChallenge
  rw [wp_bind, wp_handoverRead]
  rcases hread : T.read target dataId req rpkNonceLen w.net with ⟨answer | reply, n'⟩
  · exact hfail 2 (.error answer) n'
  · simp only [wp_ite, wp_pure]
    exact ⟨fun _ => hfail 3 (.ok reply) n', fun hlen => hreply reply n' hread (by simpa using hlen)⟩

/-- A reply to a signed read that verifies: the value it carries, and what is signed. -/
structure ReadReply (ed : Ed25519) (target clientId : UInt16) (object : UInt32)
    (clientNonce serverNonce : RpkNonce) (bufSize : Nat) (value : List UInt8) : Prop where
  short : value.length ≤ rpkValueMax
  room : value.length ≤ bufSize
  verified : ∃ sig, ed.verify (clientServerIdevid ed) (toolTranscript roleGenericRead target
    clientId object clientNonce serverNonce value) sig = true

/-- **A signed read that succeeds** drew a nonce, and got a value that verifies for it. -/
theorem signedRead_spec (ed : Ed25519) (T : HandoverTransport N) (target : UInt16)
    (index : UInt16) (sub : UInt8) (bufSize : Nat) (w : HandoverWorld N) :
    wp (signedRead ed T target index sub bufSize) (fun r w' => ∀ value, r = .ok value →
      ∃ clientNonce serverNonce events, w'.log = w.log ++ events ∧
        .drawn (some clientNonce) ∈ events ∧ ReadReply ed target T.clientId (accessId index sub)
          clientNonce serverNonce bufSize value) w := by
  unfold signedRead
  rw [wp_bind]
  refine wp_fetchChallenge (fun nonceReply n₁ _ _ => ?_) fun rc answer n' => ?_
  swap
  · exact fun value h => nomatch h
  simp only [wp_bind, wp_drawChallenge]
  rcases T.challenge n₁ with ⟨_ | clientNonce, n₂⟩
  · exact fun value h => nomatch h
  simp only [wp_bind, wp_handoverRead]
  rcases T.read target rpkGenericReadId (readRequest index sub clientNonce) rpkReplyMax n₂
    with ⟨answer | reply, n₃⟩
  · exact fun value h => nomatch h
  simp only [wp_ite, wp_pure]
  refine ⟨fun _ value h => (nomatch h), fun _ => ⟨fun _ value h => (nomatch h), fun hlen =>
    ⟨fun _ value h => (nomatch h), fun hsig value h => ?_⟩⟩⟩
  obtain rfl := Except.ok.inj h
  simp only [Bool.or_eq_true, decide_eq_true_eq, not_or, not_lt] at hlen
  have hvalue : (reply.take (reply.length - asymSigSize)).length = reply.length - asymSigSize :=
    List.length_take_of_le (Nat.sub_le _ _)
  refine ⟨clientNonce, slice 16 0 nonceReply, [.read target rpkGenericReadId
    (accessHeader index sub) (.ok nonceReply), .drawn (some clientNonce), .read target
    rpkGenericReadId (readRequest index sub clientNonce) (.ok reply)], ?_, by simp, ?_⟩
  · simp only [List.append_assoc, List.cons_append, List.nil_append]
  · refine ⟨hvalue.trans_le hlen.1, hvalue.trans_le hlen.2, slice 64 (reply.length - asymSigSize)
      reply, ?_⟩
    rw [Bool.or_eq_true, not_or] at hsig
    simpa using hsig.2

end Sound

/-! ## Calls that are answered -/

section Answered

variable {ed : Ed25519} {T : HandoverTransport N} {target : UInt16} {index : UInt16} {sub : UInt8}
  {n n₁ n₂ n₃ : N} {clientNonce serverNonce : RpkNonce} {value : List UInt8}

/-- A call whose run is known, and what comes after it. -/
theorem wp_ran {α β : Type} {m : HandoverM N α} {f : α → HandoverM N β} {w w' : HandoverWorld N}
    {a : α} {Q : β → HandoverWorld N → Prop} (h : m w = (a, w')) :
    wp (m >>= f) Q w ↔ wp (f a) Q w' := by
  rw [wp_bind, wp, h]

/-- A challenge that is answered. -/
theorem fetchChallenge_exec {dataId : UInt32} {req : List UInt8} (log : List HandoverEvent)
    (answered : T.read target dataId req rpkNonceLen n = (.ok (toList serverNonce), n₁)) :
    fetchChallenge T target dataId req ⟨n, log⟩ = (.ok serverNonce,
      ⟨n₁, log ++ [.read target dataId req (.ok (toList serverNonce))]⟩) := by
  apply run_of_wp
  unfold fetchChallenge
  rw [wp_bind, wp_handoverRead, answered]
  simp only [wp_ite, wp_pure, slice_toList]
  exact ⟨fun h => absurd h (by simp), fun _ => ⟨trivial, trivial⟩⟩

/-- **A signed read that is answered.** -/
theorem signedRead_exec (log : List HandoverEvent) {bufSize : Nat} {sig : Signature}
    (challenge : T.read target rpkGenericReadId (accessHeader index sub) rpkNonceLen n
      = (.ok (toList serverNonce), n₁))
    (draw : T.challenge n₁ = (some clientNonce, n₂))
    (answered : T.read target rpkGenericReadId (readRequest index sub clientNonce) rpkReplyMax n₂
      = (.ok (value ++ toList sig), n₃))
    (short : value.length ≤ rpkValueMax) (room : value.length ≤ bufSize)
    (verified : ed.verify (clientServerIdevid ed) (toolTranscript roleGenericRead target T.clientId
      (accessId index sub) clientNonce serverNonce value) sig = true) :
    (signedRead ed T target index sub bufSize ⟨n, log⟩).1 = .ok value ∧
      (signedRead ed T target index sub bufSize ⟨n, log⟩).2.net = n₃ := by
  have hlen : (value ++ toList sig).length - asymSigSize = value.length := by
    show (value ++ toList sig).length - 64 = value.length
    rw [List.length_append, length_toList]
    omega
  have hsig : slice 64 value.length (value ++ toList sig) = sig := by
    have hslice := slice_append_right 64 value (toList sig) 0
    rwa [Nat.add_zero, slice_toList] at hslice
  show wp (signedRead ed T target index sub bufSize)
    (fun r w' => r = .ok value ∧ w'.net = n₃) ⟨n, log⟩
  unfold signedRead
  rw [wp_ran (fetchChallenge_exec log challenge)]
  simp only [wp_bind, wp_drawChallenge, draw]
  simp only [wp_handoverRead, answered, wp_ite, wp_pure, hlen, List.take_left, hsig,
    verified, toolTranscript_ne short]
  refine ⟨fun h => ?_, fun _ => ⟨fun h => ?_, fun _ => ⟨fun h => ?_, fun _ => ⟨trivial, trivial⟩⟩⟩⟩
  · exact absurd h (by simp)
  · simp only [Bool.or_eq_true, decide_eq_true_eq] at h
    omega
  · exact absurd h (by simp)

/-- **A signed write that is taken.** -/
theorem signedWrite_exec (log : List HandoverEvent)
    (challenge : T.read target rpkGenericWriteId (accessHeader index sub) rpkNonceLen n
      = (.ok (toList serverNonce), n₁))
    (draw : T.challenge n₁ = (some clientNonce, n₂)) (short : value.length ≤ rpkValueMax)
    (taken : T.write target rpkGenericWriteId (writePayload index sub clientNonce value
      (ed.sign (clientIntegrator ed) (toolTranscript roleGenericWrite target T.clientId
        (accessId index sub) clientNonce serverNonce value))) n₂ = (.ok (), n₃)) :
    (signedWrite ed T target index sub value ⟨n, log⟩).1 = 0 ∧
      (signedWrite ed T target index sub value ⟨n, log⟩).2.net = n₃ := by
  show wp (signedWrite ed T target index sub value) (fun r w' => r = 0 ∧ w'.net = n₃) ⟨n, log⟩
  unfold signedWrite
  rw [if_neg (Nat.not_lt.mpr short), wp_ran (fetchChallenge_exec log challenge)]
  simp only [wp_bind, wp_drawChallenge, draw]
  simp only [wp_bind, wp_ite, wp_pure, wp_handoverWrite, toolTranscript_ne short, taken]
  exact ⟨fun h => absurd h (by simp), fun _ => ⟨trivial, trivial⟩⟩

/-- **A command that is taken.** -/
theorem command_exec (log : List HandoverEvent) {code : UInt32}
    (challenge : T.read target rpkFunccmdId [] rpkNonceLen n = (.ok (toList serverNonce), n₁))
    (draw : T.challenge n₁ = (some clientNonce, n₂))
    (taken : T.write target rpkFunccmdId (commandPayload clientNonce code
      (ed.sign (clientIntegrator ed) (toolTranscript roleFunctionCmd target T.clientId rpkFunccmdId
        clientNonce serverNonce (putU32le code)))) n₂ = (.ok (), n₃)) :
    (command ed T target code ⟨n, log⟩).1 = 0 ∧
      (command ed T target code ⟨n, log⟩).2.net = n₃ := by
  have short : (putU32le code).length ≤ rpkValueMax := by
    show 4 ≤ 16
    decide
  show wp (command ed T target code) (fun r w' => r = 0 ∧ w'.net = n₃) ⟨n, log⟩
  unfold command
  rw [wp_ran (fetchChallenge_exec log challenge)]
  simp only [wp_bind, wp_drawChallenge, draw]
  simp only [wp_bind, wp_ite, wp_pure, wp_handoverWrite, toolTranscript_ne short, taken]
  exact ⟨fun h => absurd h (by simp), fun _ => ⟨trivial, trivial⟩⟩

end Answered

end SofaRpkClient
