import Sofa.Client
import Sofa.Lib.StateWp

/-! # What one client call can do

    The outcomes of the two flows and the two polls: the calls they make, what they
    return, and the session they leave.  Everything proved about the client is
    derived from the four lemmas `readFlow_outcome`, `writeFlow_outcome`,
    `pollRead_outcome` and `pollWrite_outcome`. -/

namespace SofaClientMoves

open ByteBlock SofaConfig SofaAead SofaClient StateWp

variable {N : Type} {gcm : Gcm} {T : Transport N}

/-! ## Calls, executed -/

section Calls

variable {w : ClientWorld N}

theorem wp_drawRandom {Q : Option Rand → ClientWorld N → Prop} :
    wp (drawRandom T) Q w ↔ ∀ r net, T.random w.net = (r, net) →
      Q r ⟨net, w.log ++ [.random r]⟩ := by
  simp [wp, drawRandom, Prod.ext_iff]

theorem wp_transportRead {Q : Except SecpError (List UInt8) → ClientWorld N → Prop}
    {device : UInt16} {dataId : UInt32} {body : List UInt8} {cap : Nat} :
    wp (transportRead T device dataId body cap) Q w ↔
      ∀ r net, T.read device dataId body cap w.net = (r, net) →
        Q r ⟨net, w.log ++ [.read device dataId body cap r]⟩ := by
  simp [wp, transportRead, Prod.ext_iff]

theorem wp_transportWrite {Q : Except SecpError Unit → ClientWorld N → Prop} {device : UInt16}
    {dataId : UInt32} {frame : List UInt8} :
    wp (transportWrite T device dataId frame) Q w ↔
      ∀ r net, T.write device dataId frame w.net = (r, net) →
        Q r ⟨net, w.log ++ [.write device dataId frame r]⟩ := by
  simp [wp, transportWrite, Prod.ext_iff]

theorem wp_clientSeal {Q : Option (List UInt8 × Tag) → ClientWorld N → Prop} {c : AeadCall}
    {p : List UInt8} :
    wp (clientSeal gcm c p) Q w ↔ ∀ out, aeadSeal gcm c p = out →
      Q out ⟨w.net, w.log ++ [.aeadSeal c p out]⟩ := by
  simp [wp, clientSeal]

theorem wp_clientOpen {Q : Option (List UInt8) → ClientWorld N → Prop} {c : AeadCall}
    {ct : List UInt8} {t : Tag} :
    wp (clientOpen gcm c ct t) Q w ↔ ∀ out, aeadOpen gcm c ct t = out →
      Q out ⟨w.net, w.log ++ [.aeadOpen c ct t out]⟩ := by
  simp [wp, clientOpen]

end Calls

/-! ## The AEAD calls of the client -/

/-- The call that opens the response to a read. -/
def responseCall (T : Transport N) (device : UInt16) (dataId : UInt32) (key : Key) (kid : UInt8)
    (cr sr : Rand) : AeadCall :=
  clientCall T device key (aeadXorNonce cr sr) dirReadResponse kid dataId (some (cr, sr))

/-- The call that seals a write. -/
def requestCall (T : Transport N) (device : UInt16) (dataId : UInt32) (key : Key) (kid : UInt8)
    (cr sr : Rand) : AeadCall :=
  clientCall T device key (aeadXorNonce cr sr) dirWriteRequest kid dataId (some (cr, sr))

/-- The call that opens the reply to the next read poll. -/
def nextReadCall (T : Transport N) (device : UInt16) (key : Key) (sess : Session) : AeadCall :=
  clientCall T device key (sessionBuildNonce sess (sess.counter + 1)) dirReadPollResponse
    sess.keyId sess.dataId none

/-- The call that seals the next write poll. -/
def nextWriteCall (T : Transport N) (device : UInt16) (key : Key) (sess : Session) : AeadCall :=
  clientCall T device key (sessionBuildNonce sess (sess.counter + 1)) dirWritePollRequest
    sess.keyId sess.dataId none

/-! ## Quiet logs -/

/-- No seal, and no open that succeeded. -/
def EventIdle : ClientEvent → Prop
  | .aeadSeal .. => False
  | .aeadOpen _ _ _ out => out = none
  | _ => True

/-- No event of the log seals, and none opens with success. -/
def Idle (log : List ClientEvent) : Prop := ∀ e ∈ log, EventIdle e

@[simp] theorem idle_nil : Idle [] := by simp [Idle]

@[simp] theorem idle_cons {e : ClientEvent} {l : List ClientEvent} :
    Idle (e :: l) ↔ EventIdle e ∧ Idle l := by simp [Idle]

/-! ## Reading -/

/-- The pieces of a read response: server random, ciphertext, tag. -/
def responseRandom (response : List UInt8) : Rand := slice 12 0 response

def responseCipher (response : List UInt8) : List UInt8 :=
  (response.drop aeadRandSize).take (response.length - aeadRandSize - aeadTagSize)

def responseTag (response : List UInt8) : Tag :=
  slice 16 (aeadRandSize + (response.length - aeadRandSize - aeadTagSize)) response

/-- The outcomes of a read: refused on the way, or verified. -/
inductive ReadOutcome (gcm : Gcm) (T : Transport N) (device : UInt16) (dataId : UInt32)
    (key : Key) (kid : UInt8) (net : N) :
    List ClientEvent → Except SecpError (List UInt8 × Nonce) → N → Prop where
  | failed {log : List ClientEvent} {e : SecpError} {net' : N} (idle : Idle log) :
      ReadOutcome gcm T device dataId key kid net log (.error e) net'
  | verified {cr : Rand} {net₁ net₂ net' : N} {response plain : List UInt8}
      (draw : T.random net = (some cr, net₁))
      (sent : T.write device dataId (kid :: toList cr) net₁ = (.ok (), net₂))
      (got : T.read device dataId [] responseBufLen net₂ = (.ok response, net'))
      (long : aeadRandSize + aeadTagSize ≤ response.length)
      (opened : aeadOpen gcm (responseCall T device dataId key kid cr (responseRandom response))
        (responseCipher response) (responseTag response) = some plain) :
      ReadOutcome gcm T device dataId key kid net
        [.random (some cr), .write device dataId (kid :: toList cr) (.ok ()),
          .read device dataId [] responseBufLen (.ok response),
          .aeadOpen (responseCall T device dataId key kid cr (responseRandom response))
            (responseCipher response) (responseTag response) (some plain)]
        (.ok (plain, aeadXorNonce cr (responseRandom response))) net'

/-- **A read has one of its outcomes.** -/
theorem readFlow_outcome {device : UInt16} {dataId : UInt32} {key : Key} {kid : UInt8}
    {bufSize : Nat} (w : ClientWorld N) :
    wp (readFlow gcm T device dataId key kid bufSize)
      (fun r w' => ∃ log, w'.log = w.log ++ log ∧
        ReadOutcome gcm T device dataId key kid w.net log r w'.net) w := by
  unfold readFlow
  simp only [wp_bind, wp_drawRandom]
  intro cr net₁ hdraw
  cases cr with
  | none => exact ⟨_, rfl, .failed (by simp [EventIdle])⟩
  | some cr =>
      simp only [wp_bind, wp_transportWrite, List.append_assoc, List.cons_append, List.nil_append]
      intro sent net₂ hsent
      cases sent with
      | error e => exact ⟨_, rfl, .failed (by simp [EventIdle])⟩
      | ok u =>
          simp only [wp_bind, wp_transportRead, List.append_assoc, List.cons_append,
            List.nil_append]
          intro got net₃ hgot
          cases got with
          | error e => exact ⟨_, rfl, .failed (by simp [EventIdle])⟩
          | ok response =>
              simp only [wp_ite, wp_pure, wp_bind, wp_clientOpen, List.append_assoc,
                List.cons_append, List.nil_append]
              refine ⟨fun _ => ⟨_, rfl, .failed (by simp [EventIdle])⟩, fun hlong => ?_⟩
              refine ⟨fun _ => ⟨_, rfl, .failed (by simp [EventIdle])⟩, fun _ => ?_⟩
              refine ⟨fun _ => ⟨_, rfl, .failed (by simp [EventIdle])⟩, fun _ => ?_⟩
              intro out hopen
              cases out with
              | none => exact ⟨_, rfl, .failed (by simp [EventIdle])⟩
              | some plain =>
                  exact ⟨_, rfl, .verified hdraw hsent hgot (Nat.le_of_not_lt hlong) hopen⟩

/-! ## Writing -/

/-- The frame of a write Pass 2. -/
def requestFrame (kid : UInt8) (cr : Rand) (cipher : List UInt8) (tag : Tag) : List UInt8 :=
  kid :: toList cr ++ cipher ++ toList tag

/-- The outcomes of a write: refused before the seal, sealed and not delivered, or
    acknowledged. -/
inductive WriteOutcome (gcm : Gcm) (T : Transport N) (device : UInt16) (dataId : UInt32)
    (key : Key) (kid : UInt8) (plain : List UInt8) (net : N) :
    List ClientEvent → Except SecpError Nonce → N → Prop where
  | failed {log : List ClientEvent} {e : SecpError} {net' : N} (idle : Idle log) :
      WriteOutcome gcm T device dataId key kid plain net log (.error e) net'
  | unsealed {cr : Rand} {net₁ net' : N} {challenge : List UInt8}
      (got : T.read device dataId [] aeadRandSize net = (.ok challenge, net₁))
      (draw : T.random net₁ = (some cr, net'))
      (sealed : aeadSeal gcm (requestCall T device dataId key kid cr (slice 12 0 challenge)) plain
        = none) :
      WriteOutcome gcm T device dataId key kid plain net
        [.read device dataId [] aeadRandSize (.ok challenge), .random (some cr),
          .aeadSeal (requestCall T device dataId key kid cr (slice 12 0 challenge)) plain none]
        (.error .tag) net'
  | undelivered {cr : Rand} {net₁ net₂ net' : N} {challenge cipher : List UInt8} {tag : Tag}
      {e : SecpError}
      (got : T.read device dataId [] aeadRandSize net = (.ok challenge, net₁))
      (draw : T.random net₁ = (some cr, net₂))
      (sealed : aeadSeal gcm (requestCall T device dataId key kid cr (slice 12 0 challenge)) plain
        = some (cipher, tag))
      (sent : T.write device dataId (requestFrame kid cr cipher tag) net₂ = (.error e, net')) :
      WriteOutcome gcm T device dataId key kid plain net
        [.read device dataId [] aeadRandSize (.ok challenge), .random (some cr),
          .aeadSeal (requestCall T device dataId key kid cr (slice 12 0 challenge)) plain
            (some (cipher, tag)),
          .write device dataId (requestFrame kid cr cipher tag) (.error e)]
        (.error e) net'
  | acknowledged {cr : Rand} {net₁ net₂ net' : N} {challenge cipher : List UInt8} {tag : Tag}
      (got : T.read device dataId [] aeadRandSize net = (.ok challenge, net₁))
      (size : challenge.length = aeadRandSize)
      (draw : T.random net₁ = (some cr, net₂))
      (sealed : aeadSeal gcm (requestCall T device dataId key kid cr (slice 12 0 challenge)) plain
        = some (cipher, tag))
      (sent : T.write device dataId (requestFrame kid cr cipher tag) net₂ = (.ok (), net')) :
      WriteOutcome gcm T device dataId key kid plain net
        [.read device dataId [] aeadRandSize (.ok challenge), .random (some cr),
          .aeadSeal (requestCall T device dataId key kid cr (slice 12 0 challenge)) plain
            (some (cipher, tag)),
          .write device dataId (requestFrame kid cr cipher tag) (.ok ())]
        (.ok (aeadXorNonce cr (slice 12 0 challenge))) net'

/-- **A write has one of its outcomes.** -/
theorem writeFlow_outcome {device : UInt16} {dataId : UInt32} {key : Key} {kid : UInt8}
    {plain : List UInt8} (w : ClientWorld N) :
    wp (writeFlow gcm T device dataId key kid plain)
      (fun r w' => ∃ log, w'.log = w.log ++ log ∧
        WriteOutcome gcm T device dataId key kid plain w.net log r w'.net) w := by
  unfold writeFlow
  simp only [wp_bind, wp_transportRead]
  intro got net₁ hgot
  cases got with
  | error e => exact ⟨_, rfl, .failed (by simp [EventIdle])⟩
  | ok challenge =>
      simp only [wp_ite, wp_pure, wp_bind, wp_drawRandom, List.append_assoc, List.cons_append,
        List.nil_append]
      refine ⟨fun _ => ⟨_, rfl, .failed (by simp [EventIdle])⟩, fun hsize => ?_⟩
      simp only [bne_iff_ne, ne_eq, not_not] at hsize
      intro cr net₂ hdraw
      cases cr with
      | none => exact ⟨_, rfl, .failed (by simp [EventIdle])⟩
      | some cr =>
          simp only [wp_bind, wp_clientSeal, List.append_assoc, List.cons_append, List.nil_append]
          intro out hseal
          cases out with
          | none => exact ⟨_, rfl, .unsealed hgot hdraw hseal⟩
          | some sealed =>
              obtain ⟨cipher, tag⟩ := sealed
              simp only [wp_bind, wp_transportWrite, List.append_assoc, List.cons_append,
                List.nil_append]
              intro sent net₃ hsent
              have hframe : kid :: (toList cr ++ (cipher ++ toList tag)) =
                  requestFrame kid cr cipher tag := by
                simp [requestFrame]
              rw [hframe] at hsent ⊢
              cases sent with
              | error e => exact ⟨_, rfl, .undelivered hgot hdraw hseal hsent⟩
              | ok u => exact ⟨_, rfl, .acknowledged hgot hsize hdraw hseal hsent⟩

/-! ## Read polls -/

/-- The pieces of the reply to a read poll: ciphertext, tag. -/
def replyCipher (reply : List UInt8) : List UInt8 :=
  (reply.drop 1).take (reply.length - 1 - aeadTagSize)

def replyTag (reply : List UInt8) : Tag := slice 16 (1 + (reply.length - 1 - aeadTagSize)) reply

/-- The outcomes of a read poll: the session stays as it was, or the reply verified
    and the counter advances. -/
inductive PollReadOutcome (gcm : Gcm) (T : Transport N) (device : UInt16) (key : Key)
    (sess : Session) (net : N) :
    List ClientEvent → Except SecpError (List UInt8 × Tag) → Session → N → Prop where
  /-- Refused before the transport was used. -/
  | refused {e : SecpError} : PollReadOutcome gcm T device key sess net [] (.error e) sess net
  | failed {log : List ClientEvent} {e : SecpError} {r : Except SecpError (List UInt8)} {net' : N}
      (inUse : sess.inUse = true) (budget : sess.counter < keyUseLimit)
      (got : T.read device sess.dataId [UInt8.ofNat (sess.counter + 1)] pollReplyLen net =
        (r, net')) (idle : Idle log) :
      PollReadOutcome gcm T device key sess net log (.error e) sess net'
  | verified {net' : N} {reply plain : List UInt8}
      (inUse : sess.inUse = true) (budget : sess.counter < keyUseLimit)
      (got : T.read device sess.dataId [UInt8.ofNat (sess.counter + 1)] pollReplyLen net =
        (.ok reply, net'))
      (long : 1 + aeadTagSize ≤ reply.length)
      (head : reply.getD 0 0 = UInt8.ofNat (sess.counter + 1))
      (opened : aeadOpen gcm (nextReadCall T device key sess) (replyCipher reply) (replyTag reply)
        = some plain) :
      PollReadOutcome gcm T device key sess net
        [.read device sess.dataId [UInt8.ofNat (sess.counter + 1)] pollReplyLen (.ok reply),
          .aeadOpen (nextReadCall T device key sess) (replyCipher reply) (replyTag reply)
            (some plain)]
        (.ok (plain, replyTag reply)) { sess with counter := sess.counter + 1 } net'

/-- **A read poll has one of its outcomes.** -/
theorem pollRead_outcome {device : UInt16} {key : Key} {sess : Session} {plainMax : Nat}
    (w : ClientWorld N) :
    wp (securePollRead gcm T device key sess plainMax)
      (fun r w' => ∃ log, w'.log = w.log ++ log ∧
        PollReadOutcome gcm T device key sess w.net log r.1 r.2 w'.net) w := by
  unfold securePollRead
  simp only [wp_ite, wp_pure, wp_bind, wp_transportRead]
  refine ⟨fun _ => ⟨[], by simp, .refused⟩, fun huse => ?_⟩
  refine ⟨fun _ => ⟨[], by simp, .refused⟩, fun hlim => ?_⟩
  have hinUse : sess.inUse = true := by simpa using huse
  have hbudget : sess.counter < keyUseLimit := Nat.lt_of_not_le hlim
  intro got net' hgot
  cases got with
  | error e => exact ⟨_, rfl, .failed hinUse hbudget hgot (by simp [EventIdle])⟩
  | ok reply =>
      simp only [wp_ite, wp_pure, wp_bind, wp_clientOpen, List.append_assoc, List.cons_append,
        List.nil_append]
      refine ⟨fun _ => ⟨_, rfl, .failed hinUse hbudget hgot (by simp [EventIdle])⟩,
        fun hlong => ?_⟩
      refine ⟨fun _ => ⟨_, rfl, .failed hinUse hbudget hgot (by simp [EventIdle])⟩,
        fun hhead => ?_⟩
      refine ⟨fun _ => ⟨_, rfl, .failed hinUse hbudget hgot (by simp [EventIdle])⟩,
        fun _ => ?_⟩
      refine ⟨fun _ => ⟨_, rfl, .failed hinUse hbudget hgot (by simp [EventIdle])⟩,
        fun _ => ?_⟩
      intro out hopen
      cases out with
      | none => exact ⟨_, rfl, .failed hinUse hbudget hgot (by simp [EventIdle])⟩
      | some plain =>
          exact ⟨_, rfl, .verified hinUse hbudget hgot (Nat.le_of_not_lt hlong)
            (by simpa using hhead) hopen⟩

/-! ## Write polls -/

/-- The frame of a write poll. -/
def pollFrame (counter : Nat) (cipher : List UInt8) (tag : Tag) : List UInt8 :=
  UInt8.ofNat counter :: cipher ++ toList tag

/-- A write poll of this size, on this session, reaches the seal. -/
def reachesSeal (sess : Session) (plain : List UInt8) : Bool :=
  sess.inUse && decide (1 ≤ plain.length) && decide (plain.length ≤ aeadMaxProtected) &&
    decide (sess.counter < keyUseLimit)

/-- The outcomes of a write poll: refused before the seal, sealed and not delivered,
    or acknowledged.  Only the last advances the counter. -/
inductive PollWriteOutcome (gcm : Gcm) (T : Transport N) (device : UInt16) (key : Key)
    (sess : Session) (plain : List UInt8) (net : N) :
    List ClientEvent → Except SecpError Tag → Session → N → Prop where
  | refused {e : SecpError} (refused : reachesSeal sess plain = false) :
      PollWriteOutcome gcm T device key sess plain net [] (.error e) sess net
  | unsealed (reached : reachesSeal sess plain = true)
      (sealed : aeadSeal gcm (nextWriteCall T device key sess) plain = none) :
      PollWriteOutcome gcm T device key sess plain net
        [.aeadSeal (nextWriteCall T device key sess) plain none] (.error .tag) sess net
  | undelivered {cipher : List UInt8} {tag : Tag} {e : SecpError} {net' : N}
      (reached : reachesSeal sess plain = true)
      (sealed : aeadSeal gcm (nextWriteCall T device key sess) plain = some (cipher, tag))
      (sent : T.write device sess.dataId (pollFrame (sess.counter + 1) cipher tag) net =
        (.error e, net')) :
      PollWriteOutcome gcm T device key sess plain net
        [.aeadSeal (nextWriteCall T device key sess) plain (some (cipher, tag)),
          .write device sess.dataId (pollFrame (sess.counter + 1) cipher tag) (.error e)]
        (.error e) sess net'
  | acknowledged {cipher : List UInt8} {tag : Tag} {net' : N}
      (reached : reachesSeal sess plain = true)
      (sealed : aeadSeal gcm (nextWriteCall T device key sess) plain = some (cipher, tag))
      (sent : T.write device sess.dataId (pollFrame (sess.counter + 1) cipher tag) net =
        (.ok (), net')) :
      PollWriteOutcome gcm T device key sess plain net
        [.aeadSeal (nextWriteCall T device key sess) plain (some (cipher, tag)),
          .write device sess.dataId (pollFrame (sess.counter + 1) cipher tag) (.ok ())]
        (.ok tag) { sess with counter := sess.counter + 1 } net'

/-- **A write poll has one of its outcomes.** -/
theorem pollWrite_outcome (gcm : Gcm) (T : Transport N) (device : UInt16) (key : Key)
    (sess : Session) (plain : List UInt8) (w : ClientWorld N) :
    wp (securePollWrite gcm T device key sess plain)
      (fun r w' => ∃ log, w'.log = w.log ++ log ∧
        PollWriteOutcome gcm T device key sess plain w.net log r.1 r.2 w'.net) w := by
  unfold securePollWrite
  simp only [wp_ite, wp_pure, wp_bind, wp_clientSeal]
  refine ⟨fun huse => ⟨[], by simp, .refused (by simp_all [reachesSeal])⟩, fun huse => ?_⟩
  refine ⟨fun hsize => ⟨[], by simp, .refused ?_⟩, fun hsize => ?_⟩
  · simp only [Bool.or_eq_true, beq_iff_eq, decide_eq_true_eq] at hsize
    simp only [reachesSeal, Bool.and_eq_false_iff, decide_eq_false_iff_not]
    omega
  refine ⟨fun hlim => ⟨[], by simp, .refused ?_⟩, fun hlim => ?_⟩
  · simp only [reachesSeal, Bool.and_eq_false_iff, decide_eq_false_iff_not]
    omega
  have hreached : reachesSeal sess plain = true := by
    simp only [Bool.or_eq_true, beq_iff_eq, decide_eq_true_eq, Bool.not_eq_true',
      Bool.not_eq_false] at hsize huse
    simp only [reachesSeal, Bool.and_eq_true, decide_eq_true_eq, huse, true_and]
    omega
  intro out hseal
  cases out with
  | none => exact ⟨_, rfl, .unsealed hreached hseal⟩
  | some sealed =>
      obtain ⟨cipher, tag⟩ := sealed
      simp only [wp_bind, wp_transportWrite, List.append_assoc, List.cons_append, List.nil_append]
      intro sent net' hsent
      have hframe : UInt8.ofNat (sess.counter + 1) :: (cipher ++ toList tag) =
          pollFrame (sess.counter + 1) cipher tag := by
        simp [pollFrame]
      rw [hframe] at hsent ⊢
      cases sent with
      | error e => exact ⟨_, rfl, .undelivered hreached hseal hsent⟩
      | ok u => exact ⟨_, rfl, .acknowledged hreached hseal hsent⟩

end SofaClientMoves
