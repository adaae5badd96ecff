import Sofa.Replies
import Sofa.Oblivious
import Sofa.UsdoServer
import Sofa.UsdoFormat
import Sofa.Exec

/-! # Commands the CANopen FD server refuses

    The loop takes every frame on the request base that is addressed to this node, and hands
    all but the segmented commands to the dispatcher; the command is looked at again only when
    the reply is built.  So a frame with the command of a response is served, and then refused.

    `dispatch_never_badCmd`: the dispatcher itself never answers that code, so only such
    frames are answered with it.  **`refused_unchanged_iff`**: exactly the frames that
    `Acts` describes are refused and can still change the device. -/

namespace SofaRefused

open ByteBlock SofaConfig SofaAead SofaOd SofaServer SofaDemo SofaAsym SofaDevice SofaTurn SofaNode
  SofaEpochs SofaReplies SofaOblivious SofaMoves SofaExec SofaUsdo SofaUsdoServer SofaUsdoFormat
  StateWp

variable {E : Type} {gcm : Gcm} {ed : Ed25519} {plat : DevicePlatform E} {deviceId : UInt16}

/-! ## The codes of the secure OD -/

/-- A result is not the code for an unknown command. -/
def Apart (r : SodResult) : Prop := r ≠ .abort abortBadCmd

/-- The hooks do not return the code for an unknown command. -/
structure QuietHooks {H : Type} (P : Ports H) : Prop where
  readBefore : ∀ d h, (P.readBefore d h).1.1 ≠ abortBadCmd
  writeAfter : ∀ d src kid keys h, (P.writeAfter d src kid keys h).1 ≠ abortBadCmd

section SecureOd

variable {H : Type} {P : Ports H} {idx : Fin sodMaxEntries} {entry : SodEntry} {client : UInt16}
  {req : List UInt8} {replyMax : Nat}

theorem apart_ok (reply : List UInt8) : Apart (.ok reply) := SodResult.noConfusion

theorem apart_defer : Apart .defer := SodResult.noConfusion

theorem apart_code {code : Abort} (h : code ≠ abortBadCmd) : Apart (.abort code) := by
  intro heq
  exact h (SodResult.abort.inj heq)

theorem apart_lengthAbort (got want : Nat) : Apart (.abort (lengthAbort got want)) := by
  refine apart_code ?_
  unfold lengthAbort
  split
  · decide
  · split <;> decide

/-- The two verdicts on a wire counter. -/
theorem pollCheckCounter_code {current : Nat} {low : UInt8} {code : Abort}
    (h : pollCheckCounter current low = .error code) : code ≠ abortBadCmd := by
  unfold pollCheckCounter at h
  split at h
  · obtain rfl := Except.error.inj h
    decide
  · split at h
    · obtain rfl := Except.error.inj h
      decide
    · exact nomatch h

theorem armReadResponse_apart (hP : QuietHooks P) :
    Returns Apart (armReadResponse gcm P idx entry client req) := by
  unfold armReadResponse
  refine returns_ite (fun _ => returns_pure (apart_code (by decide))) fun _ => ?_
  refine returns_ite (fun _ => returns_pure (apart_code (by decide))) fun _ => ?_
  refine returns_seq fun key => ?_
  cases key with
  | none => exact returns_pure (apart_code (by decide))
  | some key =>
      refine returns_seq fun ok => returns_ite (fun _ => returns_pure (apart_code (by decide)))
        fun _ => ?_
      refine returns_seq fun ok => returns_ite (fun _ => returns_pure (apart_code (by decide)))
        fun _ => ?_
      refine returns_seq fun slot => returns_seq fun held =>
        returns_ite (fun _ => returns_pure (apart_code (by decide))) fun _ => ?_
      have hhook : Returns (fun r : Abort × List UInt8 => r.1 ≠ abortBadCmd)
          (portReadBefore P entry.dataId) := fun w => hP.readBefore _ _
      refine returns_bind hhook fun ⟨rc, plain⟩ hrc => ?_
      refine returns_ite (fun _ => returns_pure (apart_code hrc)) fun _ => ?_
      refine returns_ite (fun _ => returns_pure (apart_code (by decide))) fun _ => ?_
      refine returns_seq fun random => ?_
      cases random with
      | none => exact returns_pure (apart_code (by decide))
      | some random =>
          refine returns_seq fun _ => returns_seq fun out => ?_
          cases out with
          | none => exact returns_pure (apart_code (by decide))
          | some out =>
              exact returns_seq fun _ => returns_seq fun _ => returns_pure apart_defer

theorem fetchReadResponse_apart :
    Returns (fun r => ∀ result, r = some result → Apart result)
      (fetchReadResponse P idx entry replyMax) := by
  unfold fetchReadResponse
  refine returns_seq fun slot => ?_
  have hcode : ∀ {code : Abort}, code ≠ abortBadCmd →
      ∀ result, some (SodResult.abort code) = some result → Apart result := by
    rintro code hcode _ ⟨⟩
    exact apart_code hcode
  have hok : ∀ reply result, some (SodResult.ok reply) = some result → Apart result := by
    rintro reply _ ⟨⟩
    exact apart_ok reply
  -- what is left once the age of the slot is known
  have hdeliver : ∀ armed : Bool, Returns (fun r => ∀ result, r = some result → Apart result)
      (if armed then do
        if slot.prepared.length > replyMax then
          setReadSlot idx { slot with inUse := false }
          return some (.abort abortInternal)
        if slot.cyclic then
          let now ← portTime P
          setReadSlot idx { slot with prepared := [], armedAt := now }
        else
          setReadSlot idx { slot with inUse := false }
        return some (.ok slot.prepared)
      else do
        if !entry.hasWo then
          return some (.abort abortNoSession)
        return none : SodM H (Option SodResult)) := by
    intro armed
    refine returns_ite (fun _ => returns_ite (fun _ => ?_) fun _ => ?_) fun _ => ?_
    · exact returns_seq fun _ => returns_pure (hcode (by decide))
    · exact returns_ite
        (fun _ => returns_seq fun _ => returns_seq fun _ => returns_pure (hok _))
        fun _ => returns_seq fun _ => returns_pure (hok _)
    · exact returns_ite (fun _ => returns_pure (hcode (by decide)))
        fun _ => returns_pure (by rintro _ ⟨⟩)
  exact returns_ite (fun _ => returns_seq fun fresh => hdeliver fresh) fun _ => hdeliver _

theorem grantWrite_apart {wire : Option UInt8} :
    Returns Apart (grantWrite P idx client wire replyMax) := by
  unfold grantWrite
  refine returns_ite (fun _ => returns_pure (apart_code (by decide))) fun _ => ?_
  refine returns_seq fun random => ?_
  cases random with
  | none => exact returns_pure (apart_code (by decide))
  | some random =>
      refine returns_seq fun slot => returns_seq fun held =>
        returns_ite (fun _ => returns_pure (apart_code (by decide))) fun _ => ?_
      exact returns_seq fun now => returns_seq fun _ => returns_pure (apart_ok _)

theorem armWriteChallenge_apart {wire : Option UInt8} :
    Returns Apart (armWriteChallenge P idx entry client wire replyMax) := by
  unfold armWriteChallenge
  refine returns_seq fun ok => returns_ite (fun _ => returns_pure (apart_code (by decide)))
    fun _ => ?_
  cases wire with
  | none => exact grantWrite_apart
  | some kid =>
      refine returns_ite (fun _ => returns_pure (apart_code (by decide))) fun _ => ?_
      refine returns_ite (fun _ => returns_pure (apart_code (by decide))) fun _ => ?_
      refine returns_ite (fun _ => returns_pure (apart_code (by decide))) fun _ => ?_
      refine returns_seq fun key => returns_ite (fun _ => returns_pure (apart_code (by decide)))
        fun _ => ?_
      exact returns_seq fun role => returns_ite (fun _ => returns_pure (apart_code (by decide)))
        fun _ => grantWrite_apart

/-- A `write_after` that the hooks answer. -/
theorem portWriteAfter_code (hP : QuietHooks P) (d : UInt32) (src : List UInt8) :
    Returns (· ≠ abortBadCmd) (portWriteAfter P d src) := fun _ => hP.writeAfter _ _ _ _ _

theorem verifyAndApplyWrite_apart (hP : QuietHooks P) :
    Returns Apart (verifyAndApplyWrite gcm P idx entry req) := by
  have hcode : ∀ {code : Abort} {m : SodM H Unit}, code ≠ abortBadCmd →
      Returns Apart (m >>= fun _ => pure (.abort code)) := fun h =>
    returns_seq fun _ => returns_pure (apart_code h)
  unfold verifyAndApplyWrite
  refine returns_seq fun slot => returns_ite (fun _ => returns_pure (apart_code (by decide)))
    fun _ => ?_
  refine returns_seq fun fresh => returns_ite (fun _ => hcode (by decide)) fun _ => ?_
  refine returns_ite (fun _ => returns_seq fun _ => returns_pure (apart_lengthAbort _ _))
    fun _ => ?_
  refine returns_ite (fun _ => hcode (by decide)) fun _ => ?_
  refine returns_ite (fun _ => hcode (by decide)) fun _ => ?_
  refine returns_seq fun key => ?_
  cases key with
  | none => exact hcode (by decide)
  | some key =>
      refine returns_seq fun role => returns_ite (fun _ => hcode (by decide)) fun _ => ?_
      refine returns_seq fun out => ?_
      cases out with
      | none => exact hcode (by decide)
      | some plain =>
          refine returns_seq fun _ => returns_bind (portWriteAfter_code hP _ _) fun rc hrc => ?_
          refine returns_ite (fun _ => hcode hrc) fun _ => ?_
          refine returns_ite (fun _ => returns_seq fun _ => returns_seq fun _ =>
            returns_pure (apart_ok _)) fun _ => ?_
          exact returns_seq fun _ => returns_pure (apart_ok _)

theorem handleReadPoll_apart (hP : QuietHooks P) :
    Returns Apart (handleReadPoll gcm P idx entry client req replyMax) := by
  unfold handleReadPoll
  refine returns_seq fun slot => returns_ite (fun _ => returns_pure (apart_code (by decide)))
    fun _ => ?_
  refine returns_ite (fun _ => returns_pure (apart_code (by decide))) fun _ => ?_
  refine returns_seq fun fresh => returns_ite
    (fun _ => returns_seq fun _ => returns_pure (apart_code (by decide))) fun _ => ?_
  refine returns_ite (fun _ => returns_pure (apart_lengthAbort _ _)) fun _ => ?_
  refine returns_ite (fun _ => returns_pure (apart_code (by decide))) fun _ => ?_
  cases hcounter : pollCheckCounter slot.counter (req.getD 0 0) with
  | error code =>
      have hcode := pollCheckCounter_code hcounter
      exact returns_ite (fun _ => returns_seq fun _ => returns_pure (apart_code hcode))
        fun _ => returns_pure (apart_code hcode)
  | ok expected =>
      refine returns_seq fun ok => returns_ite (fun _ => returns_pure (apart_code (by decide)))
        fun _ => ?_
      refine returns_seq fun ok => returns_ite (fun _ => returns_pure (apart_code (by decide)))
        fun _ => ?_
      have hhook : Returns (fun r : Abort × List UInt8 => r.1 ≠ abortBadCmd)
          (portReadBefore P entry.dataId) := fun w => hP.readBefore _ _
      refine returns_bind hhook fun ⟨rc, plain⟩ hrc => ?_
      refine returns_ite (fun _ => returns_pure (apart_code hrc)) fun _ => ?_
      refine returns_ite (fun _ => returns_pure (apart_code (by decide))) fun _ => ?_
      refine returns_seq fun key => ?_
      cases key with
      | none => exact returns_pure (apart_code (by decide))
      | some key =>
          refine returns_seq fun out => ?_
          cases out with
          | none => exact returns_pure (apart_code (by decide))
          | some out => exact returns_seq fun now => returns_seq fun _ => returns_pure (apart_ok _)

theorem handleWritePoll_apart (hP : QuietHooks P) :
    Returns Apart (handleWritePoll gcm P idx entry client req) := by
  unfold handleWritePoll
  refine returns_seq fun slot => returns_ite (fun _ => returns_pure (apart_code (by decide)))
    fun _ => ?_
  refine returns_ite (fun _ => returns_pure (apart_code (by decide))) fun _ => ?_
  refine returns_seq fun fresh => returns_ite
    (fun _ => returns_seq fun _ => returns_pure (apart_code (by decide))) fun _ => ?_
  refine returns_ite (fun _ => returns_pure (apart_lengthAbort _ _)) fun _ => ?_
  cases hcounter : pollCheckCounter slot.counter (req.getD 0 0) with
  | error code =>
      have hcode := pollCheckCounter_code hcounter
      exact returns_ite (fun _ => returns_seq fun _ => returns_pure (apart_code hcode))
        fun _ => returns_pure (apart_code hcode)
  | ok expected =>
      refine returns_seq fun ok => returns_ite (fun _ => returns_pure (apart_code (by decide)))
        fun _ => ?_
      refine returns_seq fun key => ?_
      cases key with
      | none => exact returns_pure (apart_code (by decide))
      | some key =>
          refine returns_seq fun out => ?_
          cases out with
          | none => exact returns_pure (apart_code (by decide))
          | some plain =>
              refine returns_bind (portWriteAfter_code hP _ _) fun rc hrc => ?_
              refine returns_ite (fun _ => returns_pure (apart_code hrc)) fun _ => ?_
              exact returns_seq fun _ => returns_seq fun _ => returns_pure (apart_ok _)

theorem dispatchWrite_apart (hP : QuietHooks P) :
    Returns Apart (dispatchWrite gcm P idx entry client req replyMax) := by
  unfold dispatchWrite
  refine returns_ite (fun _ => ?_) fun _ => returns_pure (apart_code (by decide))
  exact returns_ite (fun _ => armWriteChallenge_apart) fun _ =>
    returns_ite (fun _ => armWriteChallenge_apart) fun _ => verifyAndApplyWrite_apart hP

theorem dispatchRead_apart (hP : QuietHooks P) :
    Returns Apart (dispatchRead gcm P idx entry client req replyMax) := by
  unfold dispatchRead
  refine returns_ite (fun _ => ?_) fun _ => dispatchWrite_apart hP
  refine returns_ite (fun _ => returns_bind (armReadResponse_apart hP) fun r hr =>
    returns_pure hr) fun _ => ?_
  refine returns_ite (fun _ => returns_bind fetchReadResponse_apart fun r hr => ?_) fun _ => ?_
  · cases r with
    | none => exact dispatchWrite_apart hP
    | some result => exact returns_pure (hr result rfl)
  · exact returns_ite (fun _ => returns_pure (apart_code (by decide)))
      fun _ => dispatchWrite_apart hP

/-- **The secure OD never answers the code for an unknown command**, unless a hook does. -/
theorem sodDispatch_apart (hP : QuietHooks P) (d : UInt32) :
    Returns Apart (sodDispatch gcm P client d req replyMax) := by
  intro w
  unfold sodDispatch
  split
  · exact SodResult.noConfusion
  · simp only
    split
    · exact handleReadPoll_apart hP w
    · split
      · exact handleWritePoll_apart hP w
      · exact dispatchRead_apart hP w

end SecureOd

/-! ## The codes of the other tiers -/

/-- No reply so far has the code for an unknown command. -/
def Unsaid (w : DevWorld E) : Prop := ∀ r ∈ w.sent, r.status ≠ abortBadCmd

section Tiers

variable {client : UInt16} {dataId : UInt32} {req : List UInt8}

theorem keeps_emit {status : Abort} {body : List UInt8} (h : status ≠ abortBadCmd) :
    Keeps (Unsaid (E := E)) (emit client dataId status body) := by
  intro w hw r hr
  obtain hr | hr := List.mem_append.mp hr
  · exact hw r hr
  · rw [List.mem_singleton.mp hr]
    exact h

/-- What sends nothing keeps what was sent. -/
theorem keeps_silent {α : Type} {m : DevM E α} (h : ∀ w, (m w).2.sent = w.sent) :
    Keeps (Unsaid (E := E)) m := by
  intro w hw r hr
  rw [h] at hr
  exact hw r hr

/-- What the first part returns may be relied on. -/
theorem keeps_bind_of {α β : Type} {I : DevWorld E → Prop} {S : α → Prop} {m : DevM E α}
    {f : α → DevM E β} (hm : Keeps I m) (hr : Returns S m) (hf : ∀ a, S a → Keeps I (f a)) :
    Keeps I (m >>= f) := fun w h => hf _ (hr w) _ (hm w h)

theorem demoReadBefore_code (target : UInt32) (h : DemoHost E) :
    (demoReadBefore target h).1.1 ≠ abortBadCmd := by
  unfold demoReadBefore
  split
  · simp only; decide
  · split
    · simp only; decide
    · split <;> (simp only; decide)

theorem applyKeySet_code (lastKid : UInt8) (keys : KeyStore) (stage : Stage) (body : List UInt8) :
    (applyKeySet lastKid keys stage body).1 ≠ abortBadCmd := by
  unfold applyKeySet
  split
  · simp only; decide
  · simp only
    repeat' split
    all_goals simp only; decide

theorem demoWriteAfter_code (target : UInt32) (src : List UInt8) (kid : UInt8) (keys : KeyStore)
    (h : DemoHost E) : (demoWriteAfter target src kid keys h).1 ≠ abortBadCmd := by
  unfold demoWriteAfter
  split
  · split <;> (simp only; decide)
  · split
    · split <;> (simp only; decide)
    · split
      · exact applyKeySet_code _ _ _ _
      · split
        · split <;> (simp only; decide)
        · simp only; decide

/-- The hooks of the reference server. -/
theorem demoPorts_quiet : QuietHooks (demoPorts deviceId plat.toPlatform) where
  readBefore := demoReadBefore_code
  writeAfter := demoWriteAfter_code

theorem hookReadBefore_code (target : UInt32) :
    Returns (fun r => r.1 ≠ abortBadCmd) (hookReadBefore (E := E) target) :=
  fun _ => demoReadBefore_code _ _

theorem hookWriteAfter_code (target : UInt32) (value : List UInt8) :
    Returns (· ≠ abortBadCmd) (hookWriteAfter (E := E) target value) :=
  fun _ => demoWriteAfter_code _ _ _ _ _

theorem tryServeDescriptor_unsaid :
    Keeps (Unsaid (E := E)) (tryServeDescriptor client dataId req) := by
  unfold tryServeDescriptor
  refine keeps_ite (fun _ => keeps_pure _ _) fun _ => keeps_bind (keeps_silent fun _ => rfl)
    fun d => ?_
  have hcode : ∀ b : Bool, (if b then abortReadOnly else abortNoSubindex) ≠ abortBadCmd := by
    decide
  exact keeps_ite (fun _ => keeps_emit (by decide)) fun _ => keeps_emit (hcode _)

theorem tryServeConstOd_unsaid :
    Keeps (Unsaid (E := E)) (tryServeConstOd client dataId req) := by
  unfold tryServeConstOd
  refine keeps_ite (fun _ => keeps_pure _ _) fun _ => keeps_bind (keeps_silent fun _ => rfl)
    fun d => ?_
  split
  · exact keeps_ite (fun _ => keeps_emit (by decide)) fun _ => keeps_emit (by decide)
  · exact keeps_pure _ _

theorem securityTry_unsaid : Keeps (Unsaid (E := E)) (securityTry client dataId req) := by
  unfold securityTry serveKeyIds serveSessionSalt
  refine keeps_ite (fun _ => keeps_pure _ _) fun _ => keeps_ite (fun _ => ?_) fun _ =>
    keeps_ite (fun _ => ?_) fun _ => keeps_pure _ _
  · refine keeps_bind (keeps_silent fun _ => rfl) fun d => ?_
    refine keeps_ite (fun _ => keeps_emit (by decide)) fun _ => ?_
    refine keeps_ite (fun _ => keeps_emit (by decide)) fun _ => ?_
    exact keeps_ite (fun _ => keeps_emit (by decide)) fun _ => keeps_emit (by decide)
  · refine keeps_ite (fun _ => keeps_ite (fun _ => keeps_emit (by decide)) fun _ =>
      keeps_emit (by decide)) fun _ => ?_
    refine keeps_ite (fun _ => keeps_ite (fun _ => keeps_emit (by decide)) fun _ =>
      keeps_emit (by decide)) fun _ => keeps_emit (by decide)

theorem signIdevid_silent {role : UInt8} {body : List UInt8} (w : DevWorld E) :
    (signIdevid ed role body w).2.sent = w.sent := by
  have h : wp (signIdevid ed role body) (fun _ w' => w'.sent = w.sent) w := by
    unfold signIdevid
    simp only [wp_bind, wp_getDevice, wp_ite, wp_pure, wp_record]
    exact ⟨fun _ => trivial, fun _ => trivial⟩
  exact h

theorem handoverTry_unsaid : Keeps (Unsaid (E := E)) (handoverTry ed client dataId req) := by
  unfold handoverTry handleIdentity handleLdevid handleProvision handleVoucher handleEpoch
  refine keeps_ite (fun _ => ?_) fun _ => keeps_ite (fun _ => ?_) fun _ =>
    keeps_ite (fun _ => ?_) fun _ => keeps_ite (fun _ => ?_) fun _ =>
    keeps_ite (fun _ => ?_) fun _ => keeps_pure _ _
  · refine keeps_ite (fun _ => keeps_emit ?_) fun _ => ?_
    · split <;> decide
    · refine keeps_bind (keeps_silent fun _ => rfl) fun d => ?_
      refine keeps_bind (keeps_silent signIdevid_silent) fun sig => ?_
      split <;> exact keeps_emit (by decide)
  · refine keeps_ite (fun _ => keeps_emit (by decide)) fun _ => ?_
    refine keeps_bind (keeps_silent fun _ => rfl) fun d => ?_
    split
    · refine keeps_bind (keeps_silent fun _ => rfl) fun _ => ?_
      refine keeps_bind (keeps_silent signIdevid_silent) fun sig => ?_
      split <;> exact keeps_emit (by decide)
    · exact keeps_emit (by decide)
  · refine keeps_bind (keeps_silent fun _ => rfl) fun d => ?_
    split
    · exact keeps_emit (by decide)
    · exact keeps_bind (keeps_silent fun _ => rfl) fun _ => keeps_emit (by decide)
  · refine keeps_bind (keeps_silent fun _ => rfl) fun d => ?_
    split
    · exact keeps_bind (keeps_silent fun _ => rfl) fun _ => keeps_emit (by decide)
    · refine keeps_bind (keeps_silent fun _ => rfl) fun _ => ?_
      exact keeps_bind (keeps_silent fun _ => rfl) fun _ => keeps_emit (by decide)
  · exact keeps_bind (keeps_silent fun _ => rfl) fun d => keeps_emit (by decide)

theorem armChallenge_unsaid : Keeps (Unsaid (E := E)) (armChallenge plat client dataId) := by
  unfold armChallenge
  refine keeps_bind (keeps_silent fun _ => rfl) fun nonce => ?_
  split
  · refine keeps_bind (keeps_silent fun _ => rfl) fun _ => ?_
    exact keeps_bind (keeps_silent fun _ => rfl) fun _ => keeps_emit (by decide)
  · exact keeps_emit (by decide)

theorem verifySigned_code {challengeId bindId : UInt32} {role : UInt8}
    {clientNonce value : List UInt8} {sig : Signature} :
    Returns (· ≠ abortBadCmd) (verifySigned (E := E) ed deviceId client challengeId bindId role
      clientNonce value sig) := by
  unfold verifySigned
  refine returns_seq fun d => returns_ite (fun _ => returns_pure (by decide)) fun _ => ?_
  split
  · refine returns_seq fun _ => returns_ite (fun _ => returns_pure (by decide)) fun _ => ?_
    refine returns_seq fun _ => returns_ite (fun _ => returns_pure (by decide)) fun _ => ?_
    exact returns_pure (by decide)
  · exact returns_seq fun _ => returns_pure (by decide)

theorem rpkTry_unsaid : Keeps (Unsaid (E := E)) (rpkTry ed plat deviceId client dataId req) := by
  unfold rpkTry
  refine keeps_ite (fun _ => ?pubkeys) fun _ => keeps_ite (fun _ => ?pktypes) fun _ =>
    keeps_ite (fun _ => ?read) fun _ => keeps_ite (fun _ => ?write) fun _ =>
    keeps_ite (fun _ => ?command) fun _ => keeps_pure _ _
  case pubkeys =>
    unfold handlePubkeys
    refine keeps_bind (keeps_silent fun _ => rfl) fun d => ?_
    refine keeps_ite (fun _ => keeps_emit (by decide)) fun _ => ?_
    refine keeps_ite (fun _ => keeps_emit (by decide)) fun _ => ?_
    refine keeps_ite (fun _ => keeps_emit (by decide)) fun _ => ?_
    exact keeps_ite (fun _ => keeps_emit (by decide)) fun _ => keeps_emit (by decide)
  case pktypes =>
    unfold handlePktypes
    refine keeps_ite (fun _ => keeps_emit (by decide)) fun _ => ?_
    refine keeps_ite (fun _ => keeps_emit (by decide)) fun _ => ?_
    exact keeps_ite (fun _ => keeps_emit (by decide)) fun _ => keeps_emit (by decide)
  case read =>
    unfold handleGenericRead
    refine keeps_ite (fun _ => armChallenge_unsaid) fun _ => keeps_ite (fun _ => ?_) fun _ => ?_
    · refine keeps_emit ?_
      split <;> decide
    · refine keeps_bind (keeps_silent fun _ => rfl) fun d => ?_
      refine keeps_ite (fun _ => keeps_emit (by decide)) fun _ => ?_
      refine keeps_bind_of (keeps_silent fun _ => rfl) (hookReadBefore_code _)
        fun ⟨rd, val⟩ hrd => ?_
      refine keeps_ite (fun _ => keeps_bind (keeps_silent fun _ => rfl) fun _ =>
        keeps_emit hrd) fun _ => ?_
      refine keeps_ite (fun _ => keeps_bind (keeps_silent fun _ => rfl) fun _ =>
        keeps_emit (by decide)) fun _ => keeps_bind (keeps_silent fun _ => rfl) fun _ => ?_
      refine keeps_ite (fun _ => keeps_emit (by decide)) fun _ => ?_
      exact keeps_bind (keeps_silent fun _ => rfl) fun _ => keeps_emit (by decide)
  case write =>
    unfold handleGenericWrite
    refine keeps_ite (fun _ => armChallenge_unsaid) fun _ => ?_
    refine keeps_ite (fun _ => keeps_emit (by decide)) fun _ => ?_
    refine keeps_ite (fun _ => keeps_emit (by decide)) fun _ => ?_
    refine keeps_bind_of (keeps_silent fun _ => verifySigned_silent) verifySigned_code
      fun st hst => ?_
    refine keeps_ite (fun _ => keeps_emit hst) fun _ => ?_
    exact keeps_bind_of (keeps_silent fun _ => rfl) (hookWriteAfter_code _ _)
      fun rc hrc => keeps_emit hrc
  case command =>
    unfold handleCommand
    refine keeps_ite (fun _ => armChallenge_unsaid) fun _ => keeps_ite (fun _ => ?_) fun _ => ?_
    · refine keeps_emit ?_
      split <;> decide
    · refine keeps_bind_of (keeps_silent fun _ => verifySigned_silent) verifySigned_code
        fun st hst => ?_
      refine keeps_ite (fun _ => keeps_emit hst) fun _ => ?_
      refine keeps_bind (keeps_silent fun _ => rfl) fun _ => keeps_ite (fun _ => ?_) fun _ =>
        keeps_emit (by decide)
      refine keeps_bind (keeps_silent fun _ => rfl) fun d => ?_
      refine keeps_bind (keeps_silent fun _ => rfl) fun _ => ?_
      exact keeps_bind (keeps_silent fun _ => rfl) fun _ => keeps_emit (by decide)

theorem sodTier_unsaid :
    Keeps (Unsaid (E := E)) (sodTier gcm plat deviceId client dataId req) := by
  intro w hw
  have happart : Returns Apart (sodDispatch gcm (demoPorts deviceId plat.toPlatform) client dataId
      req dispatchReplyMax) := sodDispatch_apart demoPorts_quiet dataId
  have hresult : Apart (exchange gcm (demoPorts deviceId plat.toPlatform) w.device.server client
      dataId req dispatchReplyMax).result := happart _
  have hend : wp (sodTier gcm plat deviceId client dataId req) (fun _ w' => Unsaid w') w := by
    unfold sodTier
    simp only [wp_bind, wp_getDevice, wp_setDevice]
    cases hr : (exchange gcm (demoPorts deviceId plat.toPlatform) w.device.server client dataId
        req dispatchReplyMax).result with
    | ok reply => exact keeps_emit (by decide) _ hw
    | defer => exact keeps_emit (by decide) _ hw
    | abort code =>
        rw [hr] at hresult
        exact keeps_emit (fun hcode => hresult (congrArg SodResult.abort hcode)) _ hw
    | notHandled => exact hw
  exact hend

/-- **The dispatcher never answers the code for an unknown command.** -/
theorem dispatch_never_badCmd (d : Device E) :
    ∀ r ∈ (serveRequest gcm ed plat deviceId d client dataId req).sent,
      r.status ≠ abortBadCmd := by
  have hkeeps : Keeps (Unsaid (E := E)) (dispatchRequest gcm ed plat deviceId client dataId req) := by
    unfold dispatchRequest
    refine keeps_bind tryServeDescriptor_unsaid fun _ => keeps_ite (fun _ => keeps_pure _ _)
      fun _ => ?_
    refine keeps_bind tryServeConstOd_unsaid fun _ => keeps_ite (fun _ => keeps_pure _ _)
      fun _ => ?_
    refine keeps_bind securityTry_unsaid fun _ => keeps_ite (fun _ => keeps_pure _ _) fun _ => ?_
    refine keeps_bind handoverTry_unsaid fun _ => keeps_ite (fun _ => keeps_pure _ _) fun _ => ?_
    refine keeps_bind rpkTry_unsaid fun _ => keeps_ite (fun _ => keeps_pure _ _) fun _ => ?_
    refine keeps_bind sodTier_unsaid fun _ => keeps_ite (fun _ => keeps_pure _ _) fun _ => ?_
    exact keeps_bind (keeps_emit (by decide)) fun _ => keeps_pure _ _
  exact hkeeps ⟨d, [], []⟩ (by intro r hr; cases hr)

end Tiers

/-! ## The answers to requests -/

/-- The abort frame for an unknown command. -/
def badCmdAbort (g : Frame) : Prop := g.byte 1 = cmdAbort ∧ g.byte usdoAbortAcOffset = abortBadCmd

instance (g : Frame) : Decidable (badCmdAbort g) := by
  unfold badCmdAbort
  infer_instance

section Answers

variable {D : Type} {src dst cmd session counter subindex : UInt8} {index : UInt16}
  {data rest : List UInt8} {g : Frame} {size : UInt32}

/-- No frame sent so far is that abort. -/
def NoRefusal (w : UsdoWorld D) : Prop := ∀ g ∈ w.sent, ¬ badCmdAbort g

/-- The command of an encoded frame. -/
theorem encodeSegCommon_cmd (h : encodeSegCommon src dst cmd session rest = some g) :
    g.byte 1 = cmd ∧ g.byte usdoAbortAcOffset = ([dst, cmd, session] ++ rest).getD 6 0 := by
  unfold encodeSegCommon at h
  split at h
  · exact nomatch h
  · obtain rfl := Option.some.inj h
    exact ⟨rfl, rfl⟩

theorem encodeCommon_cmd {dataType : UInt8}
    (h : encodeCommon src dst cmd session index subindex dataType data = some g) :
    g.byte 1 = cmd := by
  unfold encodeCommon at h
  split at h
  · exact nomatch h
  · obtain rfl := Option.some.inj h
    rfl

theorem encodeInitCommon_cmd
    (h : encodeInitCommon src dst cmd session index subindex size = some g) : g.byte 1 = cmd := by
  unfold encodeInitCommon at h
  split at h
  · exact nomatch h
  · exact (encodeSegCommon_cmd h).1

/-- An abort frame carries the code it was made for. -/
theorem encodeAbort_code {code : Abort}
    (h : encodeAbort src dst session index subindex code = some g) :
    g.byte usdoAbortAcOffset = code := by
  unfold encodeAbort at h
  split at h
  · exact nomatch h
  · rw [(encodeSegCommon_cmd h).2]
    rfl

theorem keeps_send {f : Option Frame} (h : ∀ g, f = some g → ¬ badCmdAbort g) :
    Keeps (NoRefusal (D := D)) (sendFrame f) := by
  intro w hw g hg
  obtain hg | hg := List.mem_append.mp hg
  · exact hw g hg
  · exact h g (Option.mem_toList.mp hg)

/-- A frame with another command is no abort. -/
theorem keeps_send_cmd {f : Option Frame} (hcmd : ∀ g, f = some g → g.byte 1 = cmd)
    (h : cmd ≠ cmdAbort) : Keeps (NoRefusal (D := D)) (sendFrame f) :=
  keeps_send fun g hg hbad => h ((hcmd g hg).symm.trans hbad.1)

theorem keeps_send_abort {code : Abort} (h : code ≠ abortBadCmd) :
    Keeps (NoRefusal (D := D)) (sendFrame (encodeAbort src dst session index subindex code)) :=
  keeps_send fun _ hg hbad => h ((encodeAbort_code hg).symm.trans hbad.2)

theorem serverSegAbort_answer {peer : UInt8} {code : Abort} (h : code ≠ abortBadCmd) :
    Keeps (NoRefusal (D := D)) (serverSegAbort peer session index subindex code) := by
  unfold serverSegAbort
  refine keeps_bind (fun _ hw => hw) fun s => keeps_bind (fun _ hw => hw) fun _ => ?_
  exact keeps_send_abort h

theorem serverSegDownloadInit_answer {pdu : Pdu} :
    Keeps (NoRefusal (D := D)) (serverSegDownloadInit pdu) := by
  unfold serverSegDownloadInit
  refine keeps_bind (fun _ hw => hw) fun s => keeps_ite
    (fun _ => serverSegAbort_answer (by decide)) fun _ => ?_
  have hcmd : ∀ g, encodeDownloadInitResp s.nodeId pdu.srcNode pdu.session pdu.index
      pdu.subindex = some g → g.byte 1 = cmdDownloadInitResp := by
    intro g hg
    unfold encodeDownloadInitResp at hg
    split at hg
    · exact nomatch hg
    · exact (encodeSegCommon_cmd hg).1
  exact keeps_bind (fun _ hw => hw) fun _ => keeps_send_cmd hcmd (by decide)

theorem serverSegDownloadFeed_answer {pdu : Pdu} :
    Keeps (NoRefusal (D := D)) (serverSegDownloadFeed pdu) := by
  have hrefuse : ∀ {peer session subindex : UInt8} {index : UInt16} {code : Abort},
      code ≠ abortBadCmd → Keeps (NoRefusal (D := D))
        (serverSegAbort peer session index subindex code >>= fun _ => pure false) :=
    fun h => keeps_bind (serverSegAbort_answer h) fun _ => keeps_pure _ _
  unfold serverSegDownloadFeed
  refine keeps_bind (fun _ hw => hw) fun s => keeps_ite (fun _ => hrefuse (by decide)) fun _ => ?_
  refine keeps_ite (fun _ => hrefuse (by decide)) fun _ => ?_
  refine keeps_ite (fun _ => hrefuse (by decide)) fun _ => keeps_ite (fun _ => ?_) fun _ => ?_
  · refine keeps_bind (fun _ hw => hw) fun _ => keeps_bind ?_ fun _ => keeps_pure _ _
    exact keeps_send_cmd (fun _ hg => (encodeSegCommon_cmd hg).1) (by decide)
  · refine keeps_bind (fun _ hw => hw) fun _ => ?_
    exact keeps_ite (fun _ => hrefuse (by decide)) fun _ => keeps_pure _ _

theorem serverSegUploadServe_answer {pdu : Pdu} :
    Keeps (NoRefusal (D := D)) (serverSegUploadServe pdu) := by
  unfold serverSegUploadServe
  refine keeps_bind (fun _ hw => hw) fun s => keeps_ite
    (fun _ => serverSegAbort_answer (by decide)) fun _ => ?_
  refine keeps_ite (fun _ => serverSegAbort_answer (by decide)) fun _ => keeps_ite
    (fun _ => ?_) fun _ => ?_
  · refine keeps_bind ?_ fun _ => fun _ hw => hw
    exact keeps_send_cmd (fun _ hg => (encodeSegCommon_cmd hg).1) (by decide)
  · have hcmd : ∀ {data : List UInt8} {g : Frame}, encodeUploadEndResp s.nodeId s.segul.dst
        s.segul.session data = some g → g.byte 1 = cmdUploadEndResp := by
      intro data g hg
      unfold encodeUploadEndResp encodeSegEnd at hg
      split at hg
      · exact nomatch hg
      · exact (encodeSegCommon_cmd hg).1
    exact keeps_bind (keeps_send_cmd (fun _ hg => hcmd hg) (by decide)) fun _ => fun _ hw => hw

/-- The reply to a request. -/
theorem sendReplyCb_answer {ctx : RequestCtx} {status : Abort} (hstatus : status ≠ abortBadCmd)
    (hcmd : ctx.reqCmd = cmdDownloadReq ∨ ctx.reqCmd = cmdDownloadEndReq ∨
      ctx.reqCmd = cmdUploadReq) :
    Keeps (NoRefusal (D := D)) (sendReplyCb ctx status data) := by
  unfold sendReplyCb
  refine keeps_bind (fun _ hw => hw) fun s => keeps_ite (fun _ => keeps_ite
    (fun _ => keeps_pure _ _) fun _ => ?_) fun _ => ?_
  · refine keeps_bind (fun _ hw => hw) fun _ => ?_
    exact keeps_send_cmd (fun _ hg => encodeInitCommon_cmd hg) (by decide)
  · unfold replyFrame
    by_cases hok : (status != abortNone) = true
    · rw [if_pos hok]
      exact keeps_send_abort hstatus
    · rw [if_neg hok]
      obtain h | h | h := hcmd
      · rw [if_pos (by simp [h])]
        exact keeps_send_cmd (fun _ hg => encodeCommon_cmd hg) (by decide)
      · rw [if_neg (by rw [h]; decide), if_pos (by simp [h])]
        exact keeps_send_cmd (fun _ hg => (encodeSegCommon_cmd hg).1) (by decide)
      · rw [if_neg (by rw [h]; decide), if_neg (by rw [h]; decide), if_pos (by simp [h])]
        exact keeps_send_cmd (fun _ hg => encodeCommon_cmd hg) (by decide)

/-- The dispatcher behind the frames never answers that code itself. -/
def QuietDispatcher (disp : Dispatcher D) : Prop :=
  ∀ d client dataId body, ∀ r ∈ (disp.serve d client dataId body).1, r.status ≠ abortBadCmd

theorem sendReplies_answer {ctx : RequestCtx} {rs : List Reply}
    (hstatus : ∀ r ∈ rs, r.status ≠ abortBadCmd)
    (hcmd : ctx.reqCmd = cmdDownloadReq ∨ ctx.reqCmd = cmdDownloadEndReq ∨
      ctx.reqCmd = cmdUploadReq) :
    Keeps (NoRefusal (D := D)) (sendReplies ctx rs) := by
  induction rs with
  | nil => exact keeps_pure _ _
  | cons r rs ih =>
      exact keeps_bind (sendReplyCb_answer (hstatus r (by simp)) hcmd)
        fun _ => ih fun r hr => hstatus r (List.mem_cons_of_mem _ hr)

theorem dispatch_answer {disp : Dispatcher D} (hdisp : QuietDispatcher disp) {ctx : RequestCtx}
    {segmented : Bool} {body : List UInt8}
    (hcmd : ctx.reqCmd = cmdDownloadReq ∨ ctx.reqCmd = cmdDownloadEndReq ∨
      ctx.reqCmd = cmdUploadReq) :
    Keeps (NoRefusal (D := D)) (dispatch disp ctx segmented body) := fun _ hw =>
  sendReplies_answer (hdisp _ _ _ _) hcmd _ hw

/-- **A request command is never answered as an unknown one.** -/
theorem handlePdu_answer {disp : Dispatcher D} (hdisp : QuietDispatcher disp) {pdu : Pdu}
    (hreq : cmdIsRequest pdu.cmd = true) : Keeps (NoRefusal (D := D)) (handlePdu disp pdu) := by
  unfold handlePdu
  refine keeps_ite (fun _ => serverSegDownloadInit_answer) fun hinit => keeps_ite (fun _ => ?_)
    fun hseg => keeps_ite (fun _ => serverSegUploadServe_answer) fun hup => ?_
  · refine keeps_bind serverSegDownloadFeed_answer fun complete => keeps_ite (fun _ => ?_)
      fun _ => keeps_pure _ _
    unfold dispatchSegmented
    refine keeps_bind (fun _ hw => hw) fun s => keeps_bind ?_ fun _ =>
      keeps_bind (fun _ hw => hw) fun _ => fun _ hw => hw
    exact dispatch_answer hdisp (.inr (.inl rfl))
  · refine dispatch_answer hdisp ?_
    show pdu.cmd = cmdDownloadReq ∨ pdu.cmd = cmdDownloadEndReq ∨ pdu.cmd = cmdUploadReq
    simp only [cmdIsRequest, List.contains_eq_mem, List.mem_cons, List.not_mem_nil, or_false,
      decide_eq_true_eq] at hreq
    simp only [Bool.or_eq_true, beq_iff_eq, not_or] at hinit hseg hup
    obtain h | h | h | h | h | h := hreq
    · exact .inl h
    · exact .inr (.inr h)
    · exact absurd h hinit
    · exact absurd h hseg.1
    · exact absurd h hseg.2
    · exact absurd h hup

end Answers

/-! ## What a body can do -/

/-- What the host keeps for the application. -/
def applicationValues (h : DemoHost E) : Block 4 × Block 16 × Block 16 × Block 4 × Block 16 :=
  (h.value, h.secureRo, h.secureWo, h.rpkRo, h.rpkWo)

/-- Slots, keys, identity, stage, challenge and values are as they were. -/
structure Unchanged (d d' : Device E) : Prop where
  readSlot : d'.server.sod.readSlot = d.server.sod.readSlot
  writeSlot : d'.server.sod.writeSlot = d.server.sod.writeSlot
  keys : d'.server.sod.keys = d.server.sod.keys
  asym : d'.asym = d.asym
  stage : d'.server.host.stage = d.server.host.stage
  challenge : d'.challenge = d.challenge
  values : applicationValues d'.server.host = applicationValues d.server.host

theorem unchanged_refl (d : Device E) : Unchanged d d := ⟨rfl, rfl, rfl, rfl, rfl, rfl, rfl⟩

/-- The handover objects that only answer, given a body of one frame: two report, and a
    voucher or a provisioning body is longer. -/
def quietHandover : List UInt32 := [hoIdentityId, hoProvisionId, hoVoucherId, hoEpochId]

/-- The indices of the descriptors and of the security and public-key objects. -/
def reportIndices : List UInt16 :=
  [descCapIndex, descStatIndex, secIndexKeyIds, secIndexSessionSalt, rpkPubkeysIndex,
    rpkPktypesIndex]

/-- The data ids and lengths of a body of one frame on which some state acts. -/
def Touches (dataId : UInt32) (len : Nat) : Prop :=
  if dataId = hoLdevidId then 1 ≤ len
  else if dataId = rpkGenericReadId then len = 3 ∨ len = 3 + rpkNonceLen
  else if dataId = rpkGenericWriteId then len = 3
  else if dataId = rpkFunccmdId then len = 0
  else dataIdIndex dataId ∉ reportIndices ∧ dataId ∉ quietHandover

instance (dataId : UInt32) (len : Nat) : Decidable (Touches dataId len) := by
  unfold Touches
  infer_instance

section Quiet

variable {w : DevWorld E} {client : UInt16} {dataId : UInt32} {req : List UInt8}

/-- A tier that leaves the device, and passes on the world it found. -/
def Calm (w : DevWorld E) (handled : Bool) (w' : DevWorld E) : Prop :=
  w'.device = w.device ∧ (handled = false → w' = w)

theorem calm_pass : Calm w false w := ⟨rfl, fun _ => rfl⟩

theorem calm_answer {w' : DevWorld E} (h : w'.device = w.device) : Calm w true w' :=
  ⟨h, fun hne => absurd hne.symm Bool.false_ne_true⟩

/-- A calm tier, and what comes after it. -/
theorem calm_then {m : DevM E Bool} {rest : DevM E Unit} (hm : wp m (Calm w) w)
    (hrest : wp rest (fun _ w' => w'.device = w.device) w) :
    wp (m >>= fun handled => if handled then pure () else rest)
      (fun _ w' => w'.device = w.device) w := by
  rw [wp_bind]
  refine wp_mono hm ?_
  rintro handled w' ⟨hdevice, hpass⟩
  cases handled with
  | true => exact hdevice
  | false =>
      rw [hpass rfl]
      exact hrest

/-- A tier that answers, and is calm. -/
theorem calm_last {m : DevM E Bool} {rest : DevM E Unit}
    (hm : wp m (fun handled w' => handled = true ∧ w'.device = w.device) w) :
    wp (m >>= fun handled => if handled then pure () else rest)
      (fun _ w' => w'.device = w.device) w := by
  rw [wp_bind]
  refine wp_mono hm ?_
  rintro handled w' ⟨rfl, hdevice⟩
  exact hdevice

theorem descriptor_calm : wp (tryServeDescriptor client dataId req) (Calm w) w := by
  unfold tryServeDescriptor
  simp only [wp_ite, wp_bind, wp_pure, wp_getDevice, wp_emit]
  exact ⟨fun _ => calm_pass, fun _ => ⟨fun _ => calm_answer rfl, fun _ => calm_answer rfl⟩⟩

theorem constOd_calm : wp (tryServeConstOd client dataId req) (Calm w) w := by
  unfold tryServeConstOd
  simp only [wp_ite, wp_bind, wp_pure, wp_getDevice]
  refine ⟨fun _ => calm_pass, fun _ => ?_⟩
  cases constOdGet w.device.constOd (dataIdIndex dataId) (dataIdSub dataId) with
  | none => exact calm_pass
  | some value =>
      simp only [wp_ite, wp_emit]
      exact ⟨fun _ => calm_answer rfl, fun _ => calm_answer rfl⟩

theorem security_calm : wp (securityTry client dataId req) (Calm w) w := by
  unfold securityTry serveKeyIds serveSessionSalt
  simp only [wp_ite, wp_bind, wp_pure, wp_getDevice, wp_emit]
  exact ⟨fun _ => calm_pass, fun _ => ⟨fun _ => ⟨fun _ => calm_answer rfl, fun _ =>
    ⟨fun _ => calm_answer rfl, fun _ => ⟨fun _ => calm_answer rfl, fun _ => calm_answer rfl⟩⟩⟩,
    fun _ => ⟨fun _ => ⟨fun _ => ⟨fun _ => calm_answer rfl, fun _ => calm_answer rfl⟩, fun _ =>
      ⟨fun _ => ⟨fun _ => calm_answer rfl, fun _ => calm_answer rfl⟩, fun _ =>
        calm_answer rfl⟩⟩, fun _ => calm_pass⟩⟩⟩

/-- The handover objects, without an LDevID request and with a body of one frame. -/
theorem handover_calm (hldevid : dataId = hoLdevidId → req.length = 0)
    (hshort : req.length ≤ usdoSegDataMax) : wp (handoverTry ed client dataId req) (Calm w) w := by
  have hsixty : req.length ≤ 60 := hshort
  unfold handoverTry
  simp only [wp_ite, beq_iff_eq]
  refine ⟨fun _ => ?identity, fun _ => ⟨fun hid => ?ldevid, fun _ => ⟨fun _ => ?provision, fun _ =>
    ⟨fun _ => ?voucher, fun _ => ⟨fun _ => ?epoch, fun _ => calm_pass⟩⟩⟩⟩⟩
  case identity =>
    unfold handleIdentity
    simp only [wp_ite, wp_bind, wp_getDevice, wp_emit]
    refine ⟨fun _ => calm_answer rfl, fun hlen => ?_⟩
    have hreq : req.length = 16 := by simpa using hlen
    rw [wp_signIdevid (by simp [identityBlob, hreq])]
    exact ⟨_, calm_answer rfl, rfl⟩
  case ldevid =>
    unfold handleLdevid
    rw [if_pos (by rw [hldevid hid]; decide)]
    exact calm_answer rfl
  case provision =>
    have hnone : w.device.asym.installProvisioning ed req = none := by
      unfold AsymStore.installProvisioning
      rw [if_pos (.inl (by show req.length ≠ 80; omega))]
    unfold handleProvision
    rw [wp_bind, wp_getDevice, hnone]
    exact calm_answer rfl
  case voucher =>
    have hnone : w.device.asym.claim ed req = none := by
      unfold AsymStore.claim
      rw [if_pos (.inl (by show req.length ≠ 108; omega))]
    unfold handleVoucher
    rw [wp_bind, wp_getDevice, hnone]
    exact calm_answer rfl
  case epoch =>
    unfold handleEpoch
    exact calm_answer rfl

/-- The signed accesses, with a body that neither arms nor spends a challenge. -/
theorem rpk_calm (hread : dataId = rpkGenericReadId → req.length ≠ 3 ∧ req.length ≠ 3 + rpkNonceLen)
    (hwrite : dataId = rpkGenericWriteId → req.length ≠ 3)
    (hcommand : dataId = rpkFunccmdId → req.length ≠ 0) (hshort : req.length ≤ usdoSegDataMax) :
    wp (rpkTry ed plat deviceId client dataId req) (Calm w) w := by
  have hsixty : req.length ≤ 60 := hshort
  unfold rpkTry handlePubkeys handlePktypes
  simp only [wp_ite, wp_bind, wp_pure, wp_getDevice, wp_emit, beq_iff_eq]
  refine ⟨fun _ => ⟨fun _ => calm_answer rfl, fun _ => ⟨fun _ => calm_answer rfl, fun _ =>
    ⟨fun _ => calm_answer rfl, fun _ => ⟨fun _ => calm_answer rfl, fun _ => calm_answer rfl⟩⟩⟩⟩,
    fun _ => ⟨fun _ => ⟨fun _ => calm_answer rfl, fun _ => ⟨fun _ => calm_answer rfl, fun _ =>
    ⟨fun _ => calm_answer rfl, fun _ => calm_answer rfl⟩⟩⟩, fun _ => ⟨fun hid => ?read, fun _ =>
    ⟨fun hid => ?write, fun _ => ⟨fun hid => ?command, fun _ => calm_pass⟩⟩⟩⟩⟩
  case read =>
    obtain ⟨harm, hspend⟩ := hread hid
    unfold handleGenericRead
    rw [if_neg (by simpa using harm), if_pos (by simpa using hspend)]
    exact calm_answer rfl
  case write =>
    have harm : ¬ (req.length == rpkWriteHdrLen - rpkNonceLen) = true := by
      rw [beq_iff_eq]
      exact hwrite hid
    unfold handleGenericWrite
    rw [if_neg harm, if_pos (by show req.length < 83; omega)]
    exact calm_answer rfl
  case command =>
    have hlen : (req.length != rpkNonceLen + rpkCmdLen + asymSigSize) = true := by
      rw [bne_iff_ne]
      show req.length ≠ 84
      omega
    unfold handleCommand
    rw [if_neg (by simpa using hcommand hid), if_pos hlen]
    exact calm_answer rfl

/-- A calm tier whose result is known. -/
theorem calm_handled {m : DevM E Bool} (hcalm : wp m (Calm w) w) (htrue : (m w).1 = true) :
    wp m (fun handled w' => handled = true ∧ w'.device = w.device) w := ⟨htrue, hcalm.1⟩

theorem descriptor_handled
    (h : dataIdIndex dataId = descCapIndex ∨ dataIdIndex dataId = descStatIndex) :
    (tryServeDescriptor client dataId req w).1 = true := by
  have hmine : ¬ (dataIdIndex dataId != descCapIndex && dataIdIndex dataId != descStatIndex)
      = true := by
    obtain h | h := h <;> rw [h] <;> decide
  have hend : wp (tryServeDescriptor client dataId req) (fun handled _ => handled = true) w := by
    unfold tryServeDescriptor
    rw [if_neg hmine]
    simp only [wp_bind, wp_ite, wp_getDevice, wp_emit]
    exact ⟨fun _ => trivial, fun _ => trivial⟩
  exact hend

theorem security_handled (hlow : dataIdLow dataId = 0)
    (h : dataIdIndex dataId = secIndexKeyIds ∨ dataIdIndex dataId = secIndexSessionSalt) :
    (securityTry client dataId req w).1 = true := by
  have hend : wp (securityTry client dataId req) (fun handled _ => handled = true) w := by
    unfold securityTry serveKeyIds serveSessionSalt
    rw [if_neg (by rw [hlow]; decide)]
    simp only [wp_bind, wp_ite, wp_getDevice, wp_emit, wp_pure, beq_iff_eq]
    obtain h | h := h
    · simp [h]
    · simp [h]
  exact hend

theorem handover_handled (h : dataId = hoLdevidId ∨ dataId ∈ quietHandover) :
    Returns (· = true) (handoverTry (E := E) ed client dataId req) := by
  have hemit : ∀ {status : Abort} {body : List UInt8} {id : UInt32},
      Returns (· = true) (emit (E := E) client id status body) := fun _ => rfl
  unfold handoverTry handleIdentity handleLdevid handleProvision handleVoucher handleEpoch
  refine returns_ite (fun _ => ?_) fun hid => returns_ite (fun _ => ?_) fun hld =>
    returns_ite (fun _ => ?_) fun hprov => returns_ite (fun _ => ?_) fun hvou =>
    returns_ite (fun _ => ?_) fun hep => ?_
  · refine returns_ite (fun _ => hemit) fun _ => returns_seq fun d => returns_seq fun sig => ?_
    split <;> exact hemit
  · refine returns_ite (fun _ => hemit) fun _ => returns_seq fun d => ?_
    split
    · refine returns_seq fun _ => returns_seq fun sig => ?_
      split <;> exact hemit
    · exact hemit
  · refine returns_seq fun d => ?_
    split
    · exact hemit
    · exact returns_seq fun _ => hemit
  · refine returns_seq fun d => ?_
    split
    · exact returns_seq fun _ => hemit
    · exact returns_seq fun _ => returns_seq fun _ => hemit
  · exact returns_seq fun d => hemit
  · simp only [beq_iff_eq] at hid hld hprov hvou hep
    simp only [quietHandover, List.mem_cons, List.not_mem_nil, or_false] at h
    obtain h | h | h | h | h := h
    · exact absurd h hld
    · exact absurd h hid
    · exact absurd h hprov
    · exact absurd h hvou
    · exact absurd h hep

theorem arm_answers {object : UInt32} :
    Returns (· = true) (armChallenge plat client object) := by
  unfold armChallenge
  refine returns_seq fun nonce => ?_
  split
  · exact returns_seq fun _ => returns_seq fun _ => fun _ => rfl
  · exact fun _ => rfl

theorem rpk_handled (h : dataIdIndex dataId = rpkPubkeysIndex ∨
      dataIdIndex dataId = rpkPktypesIndex ∨ dataId = rpkGenericReadId ∨
      dataId = rpkGenericWriteId ∨ dataId = rpkFunccmdId) :
    Returns (· = true) (rpkTry ed plat deviceId client dataId req) := by
  have hemit : ∀ {status : Abort} {body : List UInt8} {id : UInt32},
      Returns (· = true) (emit (E := E) client id status body) := fun _ => rfl
  unfold rpkTry handlePubkeys handlePktypes handleGenericRead handleGenericWrite handleCommand
  refine returns_ite (fun _ => ?_) fun hpub => returns_ite (fun _ => ?_) fun htypes =>
    returns_ite (fun _ => ?_) fun hread => returns_ite (fun _ => ?_) fun hwrite =>
    returns_ite (fun _ => ?_) fun hcmd => ?_
  · refine returns_seq fun d => returns_ite (fun _ => hemit) fun _ => ?_
    refine returns_ite (fun _ => hemit) fun _ => returns_ite (fun _ => hemit) fun _ => ?_
    exact returns_ite (fun _ => hemit) fun _ => hemit
  · refine returns_ite (fun _ => hemit) fun _ => returns_ite (fun _ => hemit) fun _ => ?_
    exact returns_ite (fun _ => hemit) fun _ => hemit
  · refine returns_ite (fun _ => arm_answers) fun _ => returns_ite (fun _ => hemit) fun _ => ?_
    refine returns_seq fun d => returns_ite (fun _ => hemit) fun _ => returns_seq fun r => ?_
    refine returns_ite (fun _ => returns_seq fun _ => hemit) fun _ => ?_
    refine returns_ite (fun _ => returns_seq fun _ => hemit) fun _ => returns_seq fun _ => ?_
    exact returns_ite (fun _ => hemit) fun _ => returns_seq fun _ => hemit
  · refine returns_ite (fun _ => arm_answers) fun _ => returns_ite (fun _ => hemit) fun _ => ?_
    refine returns_ite (fun _ => hemit) fun _ => returns_seq fun st => ?_
    exact returns_ite (fun _ => hemit) fun _ => returns_seq fun _ => hemit
  · refine returns_ite (fun _ => arm_answers) fun _ => returns_ite (fun _ => hemit) fun _ => ?_
    refine returns_seq fun st => returns_ite (fun _ => hemit) fun _ => returns_seq fun _ => ?_
    refine returns_ite (fun _ => returns_seq fun d => returns_seq fun _ => returns_seq fun _ =>
      hemit) fun _ => hemit
  · simp only [beq_iff_eq] at hpub htypes hread hwrite hcmd
    obtain h | h | h | h | h := h
    · exact absurd h hpub
    · exact absurd h htypes
    · exact absurd h hread
    · exact absurd h hwrite
    · exact absurd h hcmd

/-- Where a body on which no state acts is answered. -/
theorem quiet_place {len : Nat} (h : ¬ Touches dataId len) :
    (dataId = hoLdevidId ∧ len = 0 ∨ dataIdIndex dataId ∈ reportIndices ∨
      dataId ∈ quietHandover ∨ dataId = rpkGenericReadId ∨ dataId = rpkGenericWriteId ∨
      dataId = rpkFunccmdId) ∧
    (dataId = hoLdevidId → len = 0) ∧
    (dataId = rpkGenericReadId → len ≠ 3 ∧ len ≠ 3 + rpkNonceLen) ∧
    (dataId = rpkGenericWriteId → len ≠ 3) ∧ (dataId = rpkFunccmdId → len ≠ 0) := by
  unfold Touches at h
  by_cases hld : dataId = hoLdevidId
  · rw [if_pos hld] at h
    have hlen : len = 0 := by omega
    refine ⟨.inl ⟨hld, hlen⟩, fun _ => hlen, ?_, ?_, ?_⟩ <;>
      (intro hid; rw [hld] at hid; exact absurd hid (by decide))
  rw [if_neg hld] at h
  by_cases hread : dataId = rpkGenericReadId
  · rw [if_pos hread, not_or] at h
    refine ⟨.inr (.inr (.inr (.inl hread))), fun hid => absurd hid hld, fun _ => h, ?_, ?_⟩ <;>
      (intro hid; rw [hread] at hid; exact absurd hid (by decide))
  rw [if_neg hread] at h
  by_cases hwrite : dataId = rpkGenericWriteId
  · rw [if_pos hwrite] at h
    refine ⟨.inr (.inr (.inr (.inr (.inl hwrite)))), fun hid => absurd hid hld,
      fun hid => absurd hid hread, fun _ => h, ?_⟩
    intro hid
    rw [hwrite] at hid
    exact absurd hid (by decide)
  rw [if_neg hwrite] at h
  by_cases hcmd : dataId = rpkFunccmdId
  · rw [if_pos hcmd] at h
    exact ⟨.inr (.inr (.inr (.inr (.inr hcmd)))), fun hid => absurd hid hld,
      fun hid => absurd hid hread, fun hid => absurd hid hwrite, fun _ => h⟩
  rw [if_neg hcmd] at h
  refine ⟨?_, fun hid => absurd hid hld, fun hid => absurd hid hread,
    fun hid => absurd hid hwrite, fun hid => absurd hid hcmd⟩
  by_cases hindex : dataIdIndex dataId ∈ reportIndices
  · exact .inr (.inl hindex)
  · exact .inr (.inr (.inl (not_not.mp fun hquiet => h ⟨hindex, hquiet⟩)))

/-- **Bodies on which no state acts.** -/
theorem quiet_dispatch (hlow : dataIdLow dataId = 0) (hshort : req.length ≤ usdoSegDataMax)
    (h : ¬ Touches dataId req.length) (d : Device E) :
    (serveRequest gcm ed plat deviceId d client dataId req).device = d := by
  obtain ⟨hplace, hldevid, hread, hwrite, hcmd⟩ := quiet_place h
  have hend : wp (dispatchRequest gcm ed plat deviceId client dataId req)
      (fun _ w' => w'.device = d) ⟨d, [], []⟩ := by
    unfold dispatchRequest
    by_cases hdesc : dataIdIndex dataId = descCapIndex ∨ dataIdIndex dataId = descStatIndex
    · exact calm_last (calm_handled descriptor_calm (descriptor_handled hdesc))
    refine calm_then descriptor_calm (calm_then constOd_calm ?_)
    by_cases hsec : dataIdIndex dataId = secIndexKeyIds ∨ dataIdIndex dataId = secIndexSessionSalt
    · exact calm_last (calm_handled security_calm (security_handled hlow hsec))
    refine calm_then security_calm ?_
    by_cases hho : dataId = hoLdevidId ∨ dataId ∈ quietHandover
    · exact calm_last (calm_handled (handover_calm hldevid hshort) (handover_handled hho _))
    refine calm_then (handover_calm hldevid hshort) ?_
    refine calm_last (calm_handled (rpk_calm hread hwrite hcmd hshort) (rpk_handled ?_ _))
    obtain ⟨hld, -⟩ | hindex | hquiet | h | h | h := hplace
    · exact absurd (.inl hld) hho
    · simp only [reportIndices, List.mem_cons, List.not_mem_nil, or_false] at hindex
      tauto
    · exact absurd (.inr hquiet) hho
    · exact .inr (.inr (.inl h))
    · exact .inr (.inr (.inr (.inl h)))
    · exact .inr (.inr (.inr (.inr h)))
  exact hend

end Quiet

/-! ## States on which a body acts -/

section Touched

variable {w : DevWorld E} {client : UInt16} {dataId : UInt32} {req : List UInt8}

/-- A tier that passes the request on. -/
theorem pass_then {m : DevM E Bool} {rest : DevM E Unit} (h : m w = (false, w)) :
    (m >>= fun handled => if handled then pure () else rest) w = rest w := by
  show (if (m w).1 then pure () else rest : DevM E Unit) (m w).2 = rest w
  rw [h]
  rfl

/-- A tier that takes the request, whatever comes after it. -/
theorem take_then {m : DevM E Bool} {rest : DevM E Unit} (h : (m w).1 = true) :
    ((m >>= fun handled => if handled then pure () else rest) w).2 = (m w).2 := by
  show ((if (m w).1 then pure () else rest : DevM E Unit) (m w).2).2 = (m w).2
  rw [h]
  rfl

/-- Outside the reporting indices, and with no constant entries, the handover objects and the
    signed accesses are asked first. -/
theorem front_passed (hindex : dataIdIndex dataId ∉ reportIndices) (hconst : w.device.constOd = []) :
    dispatchRequest gcm ed plat deviceId client dataId req w
      = (do
          if ← handoverTry ed client dataId req then
            return
          if ← rpkTry ed plat deviceId client dataId req then
            return
          if ← sodTier gcm plat deviceId client dataId req then
            return
          let _ ← emit client dataId abortNoObject []) w := by
  simp only [reportIndices, List.mem_cons, List.not_mem_nil, or_false, not_or] at hindex
  obtain ⟨hcap, hstat, hkeys, hsalt, -, -⟩ := hindex
  have hdesc : tryServeDescriptor client dataId req w = (false, w) := by
    unfold tryServeDescriptor
    rw [if_pos (by simp [hcap, hstat])]
    rfl
  have hconstOd : tryServeConstOd client dataId req w = (false, w) := by
    apply run_of_wp
    unfold tryServeConstOd
    simp only [wp_ite, wp_pure, wp_bind, wp_getDevice, hconst, constOdGet]
    exact ⟨fun _ => ⟨trivial, trivial⟩, fun _ => ⟨rfl, rfl⟩⟩
  have hsec : securityTry client dataId req w = (false, w) := by
    apply run_of_wp
    unfold securityTry
    simp only [wp_ite, wp_pure, beq_iff_eq]
    exact ⟨fun _ => ⟨trivial, trivial⟩, fun _ => ⟨fun h => absurd h hkeys,
      fun _ => ⟨fun h => absurd h hsalt, fun _ => ⟨trivial, trivial⟩⟩⟩⟩
  unfold dispatchRequest
  rw [pass_then hdesc, pass_then hconstOd, pass_then hsec]

/-- Outside its objects, the handover tier passes. -/
theorem handover_passed (hho : dataId ∉ quietHandover) (hld : dataId ≠ hoLdevidId) :
    handoverTry ed client dataId req w = (false, w) := by
  simp only [quietHandover, List.mem_cons, List.not_mem_nil, or_false, not_or] at hho
  unfold handoverTry
  rw [if_neg (by simpa using hho.1), if_neg (by simpa using hld), if_neg (by simpa using hho.2.1),
    if_neg (by simpa using hho.2.2.1), if_neg (by simpa using hho.2.2.2)]
  rfl

/-- What the signed accesses take is theirs. -/
theorem rpk_taken (hindex : dataIdIndex dataId ∉ reportIndices) (hconst : w.device.constOd = [])
    (hho : dataId ∉ quietHandover) (hld : dataId ≠ hoLdevidId)
    (hmine : dataId = rpkGenericReadId ∨ dataId = rpkGenericWriteId ∨ dataId = rpkFunccmdId) :
    (dispatchRequest gcm ed plat deviceId client dataId req w).2
      = (rpkTry ed plat deviceId client dataId req w).2 := by
  rw [front_passed hindex hconst, pass_then (handover_passed hho hld),
    take_then (rpk_handled (.inr (.inr hmine)) w)]

/-- Outside the objects of both, the secure OD is asked. -/
theorem middle_passed (hindex : dataIdIndex dataId ∉ reportIndices) (hconst : w.device.constOd = [])
    (hho : dataId ∉ quietHandover) (hld : dataId ≠ hoLdevidId) (hread : dataId ≠ rpkGenericReadId)
    (hwrite : dataId ≠ rpkGenericWriteId) (hcmd : dataId ≠ rpkFunccmdId) :
    (dispatchRequest gcm ed plat deviceId client dataId req w).2.device
      = secureStep gcm plat deviceId client dataId req w.device := by
  have hrpk : rpkTry ed plat deviceId client dataId req w = (false, w) := by
    simp only [reportIndices, List.mem_cons, List.not_mem_nil, or_false, not_or] at hindex
    unfold rpkTry
    rw [if_neg (by simpa using hindex.2.2.2.2.1), if_neg (by simpa using hindex.2.2.2.2.2),
      if_neg (by simpa using hread), if_neg (by simpa using hwrite), if_neg (by simpa using hcmd)]
    rfl
  rw [front_passed hindex hconst, pass_then (handover_passed hho hld), pass_then hrpk]
  have hend : wp (do
      if ← sodTier gcm plat deviceId client dataId req then
        return
      let _ ← emit client dataId abortNoObject [])
      (fun _ w' => w'.device = secureStep gcm plat deviceId client dataId req w.device) w := by
    unfold sodTier
    simp only [wp_bind, wp_getDevice, wp_setDevice]
    cases (exchange gcm (demoPorts deviceId plat.toPlatform) w.device.server client dataId req
      dispatchReplyMax).result with
    | ok reply => rfl
    | defer => rfl
    | abort code => rfl
    | notHandled => rfl
  exact hend

end Touched

/-- The bare demo device without constant entries, with nonces to draw. -/
def sampleQuiet : Device SampleEnv :=
  { (sampleBare.setHost { sampleBare.server.host with env := { nonces := [sampleNonce 1] } }) with
    constOd := []
    challenge := {} }

/-- One entry of four bytes under any key, with the given access. -/
def sampleEntry (dataId : UInt32) (flags : UInt8) : SodEntry := ⟨dataId, 0, flags, 4⟩

/-- A device with that one entry, and the slots and the clock given. -/
def sampleSecured (dataId : UInt32) (flags : UInt8) (reads : ReadSlot) (writes : WriteSlot)
    (now : UInt16) : Device SampleEnv :=
  { sampleQuiet with
    server :=
      { sod :=
          { sampleQuiet.server.sod with
            registry := ⟨[sampleEntry dataId flags], by simp [sodMaxEntries],
              by simp [sampleEntry, aeadMaxProtected]⟩
            readSlot := fun _ => reads
            writeSlot := fun _ => writes }
        host := { sampleQuiet.server.host with env := { now := now } }
        history := [] } }

section Acting

variable {client : UInt16} {dataId : UInt32} {req : List UInt8} {flags : UInt8}
  {reads : ReadSlot} {writes : WriteSlot} {now : UInt16}

theorem sampleSecured_find :
    (sampleSecured dataId flags reads writes now).server.sod.registry.find dataId
      = some (0, sampleEntry dataId flags) := by
  rw [find_eq_some]
  exact ⟨rfl, rfl, fun j hj => absurd hj (Nat.not_lt_zero j)⟩

theorem sampleSecured_reads :
    (sampleSecured dataId flags reads writes now).server.sod.readSlot 0 = reads := rfl

theorem sampleSecured_writes :
    (sampleSecured dataId flags reads writes now).server.sod.writeSlot 0 = writes := rfl

theorem sampleSecured_clock : ((demoPorts 5 samplePlatform.toPlatform).timeMs
    (sampleSecured dataId flags reads writes now).server.host).1 = now := rfl

/-- The slots after the secure OD took the request. -/
theorem secureStep_sod {d : Device SampleEnv} :
    (secureStep sampleGcm samplePlatform 5 client dataId req d).server.sod
      = (sodDispatch sampleGcm (demoPorts 5 samplePlatform.toPlatform) client dataId req
          dispatchReplyMax ⟨d.server.sod, d.server.host, []⟩).2.sod := rfl

/-- The fetch of a fresh single-shot reply frees the slot. -/
theorem dispatch_waiting {H : Type} {P : Ports H} {idx : Fin sodMaxEntries} {entry : SodEntry}
    {replyMax : Nat} {s : Sod} {host : H} (hfind : s.registry.find dataId = some (idx, entry))
    (hro : entry.hasRo = true) (live : (s.readSlot idx).inUse = true)
    (ready : (s.readSlot idx).prepared ≠ [])
    (fresh : ageWithin (P.timeMs host).1 (s.readSlot idx).armedAt challengeTimeoutMs = true)
    (fits : (s.readSlot idx).prepared.length ≤ replyMax)
    (single : (s.readSlot idx).cyclic = false) :
    (sodDispatch gcm P client dataId [] replyMax ⟨s, host, []⟩).2.sod
      = s.setRead idx { s.readSlot idx with inUse := false } := by
  rw [dispatch_fetch hfind hro (fetch_exec ⟨live, ready, fresh, fits⟩ single)]

/-- A poll of a session that went stale tears it down. -/
theorem readPoll_stale {H : Type} {P : Ports H} {idx : Fin sodMaxEntries} {entry : SodEntry}
    {replyMax : Nat} {w : World H} (live : (w.sod.readSlot idx).inUse = true)
    (cyclic : (w.sod.readSlot idx).cyclic = true)
    (owner : (w.sod.readSlot idx).clientDev = client)
    (stale : ageWithin (P.timeMs w.host).1 (w.sod.readSlot idx).armedAt sessionIdleTimeoutMs
      = false) :
    (handleReadPoll gcm P idx entry client req replyMax w).2.sod
      = w.sod.setRead idx { w.sod.readSlot idx with inUse := false } := by
  have hend : wp (handleReadPoll gcm P idx entry client req replyMax) (fun _ w' => w'.sod
      = w.sod.setRead idx { w.sod.readSlot idx with inUse := false }) w := by
    unfold handleReadPoll
    rw [wp_bind, wp_getReadSlot, if_neg (by simp [live, cyclic]), if_neg (by simp [owner]), wp_bind,
      wp_sessionIsFresh_of, stale]
    rfl
  exact hend

/-- A Pass-2 frame for a challenge that went stale tears it down. -/
theorem verify_stale {H : Type} {P : Ports H} {idx : Fin sodMaxEntries} {entry : SodEntry}
    {w : World H} (live : (w.sod.writeSlot idx).inUse = true)
    (stale : ageWithin (P.timeMs w.host).1 (w.sod.writeSlot idx).armedAt challengeTimeoutMs
      = false) :
    (verifyAndApplyWrite gcm P idx entry req w).2.sod
      = w.sod.setWrite idx { w.sod.writeSlot idx with inUse := false } := by
  have hend : wp (verifyAndApplyWrite gcm P idx entry req) (fun _ w' => w'.sod
      = w.sod.setWrite idx { w.sod.writeSlot idx with inUse := false }) w := by
    unfold verifyAndApplyWrite
    rw [wp_bind, wp_getWriteSlot, if_neg (by simp [live]), wp_bind, wp_slotIsFresh_of, stale]
    rfl
  exact hend

/-- On an entry for writes only, a frame that neither arms nor polls is taken for Pass 2. -/
theorem dispatch_stale {H : Type} {P : Ports H} {idx : Fin sodMaxEntries} {entry : SodEntry}
    {w : World H} {replyMax : Nat} (hfind : w.sod.registry.find dataId = some (idx, entry))
    (hro : entry.hasRo = false) (hwo : entry.hasWo = true) (hzero : req.length ≠ 0)
    (hone : req.length ≠ 1) (single : (w.sod.writeSlot idx).cyclic = false) :
    sodDispatch gcm P client dataId req replyMax w
      = verifyAndApplyWrite gcm P idx entry req w := by
  simp only [sodDispatch, hfind]
  rw [if_neg (by simp [hro]), if_neg (by simp [single])]
  unfold dispatchRead dispatchWrite
  rw [if_neg (by simp [hro]), if_pos hwo, if_neg (by simpa using hzero),
    if_neg (by simpa using hone)]

/-- **The secure OD acts on a body of any length**: it delivers a reply that waits, tears down
    a session that went stale, or a challenge that did. -/
theorem secured_acts (client : UInt16) (dataId : UInt32) (req : List UInt8) :
    ∃ d : Device SampleEnv, d.constOd = [] ∧
      ¬ Unchanged d (secureStep sampleGcm samplePlatform 5 client dataId req d) := by
  have hro : (sampleEntry dataId 0x01).hasRo = true := by
    show ((0x01 : UInt8) &&& 0x01 != 0) = true
    decide
  have hwo : (sampleEntry dataId 0x02).hasWo = true := by
    show ((0x02 : UInt8) &&& 0x02 != 0) = true
    decide
  have hno : (sampleEntry dataId 0x02).hasRo = false := by
    show ((0x02 : UInt8) &&& 0x01 != 0) = false
    decide
  have hold : ∀ timeout : UInt16, timeout < 65535 → ageWithin 65535 0 timeout = false := by
    intro timeout htimeout
    simp only [ageWithin, UInt16.sub_zero, decide_eq_false_iff_not, UInt16.not_le]
    exact htimeout
  by_cases hzero : req.length = 0
  · refine ⟨sampleSecured dataId 0x01 { inUse := true, prepared := [0] } {} 0, rfl, fun h => ?_⟩
    have hslot := congrArg ReadSlot.inUse (congrFun h.readSlot 0)
    obtain rfl : req = [] := List.length_eq_zero_iff.mp hzero
    rw [secureStep_sod, dispatch_waiting
      (@sampleSecured_find dataId 0x01 { inUse := true, prepared := [0] } {} 0) hro (by rw [sampleSecured_reads])
      (by simp [sampleSecured_reads]) (by rw [sampleSecured_clock, sampleSecured_reads]; decide)
      (by simp [sampleSecured_reads]) (by rw [sampleSecured_reads]), Sod.readSlot_setRead,
      sampleSecured_reads] at hslot
    exact Bool.noConfusion hslot
  by_cases hone : req.length = 1
  · refine ⟨sampleSecured dataId 0x01 { inUse := true, cyclic := true, clientDev := client } {}
      65535, rfl, fun h => ?_⟩
    have hslot := congrArg ReadSlot.inUse (congrFun h.readSlot 0)
    rw [secureStep_sod, dispatch_readPoll (@sampleSecured_find dataId 0x01
      { inUse := true, cyclic := true, clientDev := client } {} 65535) hro hone
      (by rw [sampleSecured_reads]) (by rw [sampleSecured_reads]), readPoll_stale (by rw [sampleSecured_reads])
      (by rw [sampleSecured_reads]) (by rw [sampleSecured_reads])
      (by rw [sampleSecured_clock, sampleSecured_reads]; exact hold _ (by decide)),
      Sod.readSlot_setRead, sampleSecured_reads] at hslot
    exact Bool.noConfusion hslot
  · refine ⟨sampleSecured dataId 0x02 {} { inUse := true } 65535, rfl, fun h => ?_⟩
    have hslot := congrArg WriteSlot.inUse (congrFun h.writeSlot 0)
    rw [secureStep_sod, dispatch_stale
      (@sampleSecured_find dataId 0x02 {} { inUse := true } 65535) hno hwo hzero hone
      (by rw [sampleSecured_writes]), verify_stale (by rw [sampleSecured_writes])
      (by rw [sampleSecured_clock, sampleSecured_writes]; exact hold _ (by decide)),
      Sod.writeSlot_setWrite, sampleSecured_writes] at hslot
    exact Bool.noConfusion hslot

/-- An arming request, on a device with a nonce to draw and no challenge outstanding. -/
theorem arm_acts {object : UInt32} : ¬ Unchanged sampleQuiet
    (armChallenge samplePlatform client object ⟨sampleQuiet, [], []⟩).2.device := by
  have hend : wp (armChallenge samplePlatform client object)
      (fun _ w' => w'.device.challenge.armed = true) ⟨sampleQuiet, [], []⟩ := by
    unfold armChallenge
    rw [wp_bind, wp_portNonce]
    rintro nonce env hnonce
    obtain rfl : some (sampleNonce 1) = nonce := congrArg Prod.fst hnonce
    rfl
  intro h
  have harmed : (armChallenge samplePlatform client object
    ⟨sampleQuiet, [], []⟩).2.device.challenge.armed = true := hend
  rw [h.challenge] at harmed
  exact Bool.noConfusion harmed

/-- A fetch of a signed read spends the challenge that is outstanding, whatever comes of it. -/
theorem fetch_spends (hlen : req.length = 3 + rpkNonceLen) {d : Device SampleEnv}
    (held : HeldBy d.challenge client rpkGenericReadId) :
    (handleGenericRead sampleEd samplePlatform 5 client req
      ⟨d, [], []⟩).2.device.challenge.armed = false := by
  have hend : wp (handleGenericRead sampleEd samplePlatform 5 client req)
      (fun _ w' => w'.device.challenge.armed = false) ⟨d, [], []⟩ := by
    have harm : ¬ (req.length == 3) = true := by
      rw [hlen]
      decide
    unfold handleGenericRead
    rw [if_neg harm, if_neg (by simp [hlen]), wp_bind, wp_getDevice,
      if_neg (by simp [held.armed, held.client, held.object])]
    simp only [wp_bind, wp_ite, wp_hookReadBefore, wp_disarm, wp_emit, wp_record]
    exact fun rc val host _ => ⟨fun _ => trivial, fun _ => ⟨fun _ => trivial, fun _ =>
      ⟨fun _ => trivial, fun _ => trivial⟩⟩⟩
  exact hend

/-- An LDevID request, on a device that has none. -/
theorem ldevid_acts (hlen : 1 ≤ req.length) {d : Device SampleEnv} (ready : d.asym.ready = true) :
    (handoverTry sampleEd client hoLdevidId req ⟨d, [], []⟩).2.device.asym.ldevidPresent = true := by
  have hgenerated : d.asym.generateLdevid sampleEd = some ({ d.asym with
      ldevid := sampleEd.keygen ldevidSeed, ldevidPresent := true },
      (sampleEd.keygen ldevidSeed).pub) := by
    unfold AsymStore.generateLdevid
    rw [if_neg (by simp [ready])]
  have hend : wp (handoverTry sampleEd client hoLdevidId req)
      (fun _ w' => w'.device.asym.ldevidPresent = true) ⟨d, [], []⟩ := by
    unfold handoverTry
    rw [if_neg (by decide), if_pos (by decide)]
    unfold handleLdevid
    rw [if_neg (by omega), wp_bind, wp_getDevice, hgenerated]
    simp only [wp_bind, wp_setDevice]
    rw [wp_signIdevid (by simp)]
    exact ⟨_, rfl, rfl⟩
  exact hend

/-- **Every such body acts**, on some device. -/
theorem touched_acts (client : UInt16) (h : Touches dataId req.length) :
    ∃ d : Device SampleEnv, ¬ Unchanged d
      (serveRequest sampleGcm sampleEd samplePlatform 5 d client dataId req).device := by
  unfold Touches at h
  by_cases hld : dataId = hoLdevidId
  · subst hld
    rw [if_pos rfl] at h
    let d : Device SampleEnv :=
      { sampleQuiet with asym := { sampleQuiet.asym with ready := true, ldevidPresent := false } }
    refine ⟨d, fun hsame => ?_⟩
    have hpresent : (serveRequest sampleGcm sampleEd samplePlatform 5 d client hoLdevidId
        req).device.asym.ldevidPresent = true := by
      unfold serveRequest
      rw [front_passed (by decide) rfl, take_then (handover_handled (.inl rfl) _)]
      exact ldevid_acts h rfl
    rw [hsame.asym] at hpresent
    exact Bool.noConfusion hpresent
  rw [if_neg hld] at h
  by_cases hread : dataId = rpkGenericReadId
  · subst hread
    rw [if_pos rfl] at h
    obtain hlen | hlen := h
    · refine ⟨sampleQuiet, ?_⟩
      unfold serveRequest
      rw [rpk_taken (by decide) rfl (by decide) hld (.inl rfl)]
      unfold rpkTry handleGenericRead
      rw [if_neg (by decide), if_neg (by decide), if_pos (by decide), if_pos (by simp [hlen])]
      exact arm_acts
    · let d : Device SampleEnv :=
        { sampleQuiet with challenge := ⟨true, client, rpkGenericReadId, sampleNonce 1⟩ }
      refine ⟨d, fun hsame => ?_⟩
      have hspent : (serveRequest sampleGcm sampleEd samplePlatform 5 d client rpkGenericReadId
          req).device.challenge.armed = false := by
        unfold serveRequest
        rw [rpk_taken (by decide) rfl (by decide) hld (.inl rfl)]
        unfold rpkTry
        rw [if_neg (by decide), if_neg (by decide), if_pos (by decide)]
        exact fetch_spends hlen ⟨rfl, rfl, rfl⟩
      rw [hsame.challenge] at hspent
      exact Bool.noConfusion hspent
  rw [if_neg hread] at h
  by_cases hwrite : dataId = rpkGenericWriteId
  · subst hwrite
    rw [if_pos rfl] at h
    refine ⟨sampleQuiet, ?_⟩
    unfold serveRequest
    rw [rpk_taken (by decide) rfl (by decide) hld (.inr (.inl rfl))]
    unfold rpkTry handleGenericWrite
    rw [if_neg (by decide), if_neg (by decide), if_neg (by decide), if_pos (by decide),
      if_pos (by rw [h]; decide)]
    exact arm_acts
  rw [if_neg hwrite] at h
  by_cases hcmd : dataId = rpkFunccmdId
  · subst hcmd
    rw [if_pos rfl] at h
    refine ⟨sampleQuiet, ?_⟩
    unfold serveRequest
    rw [rpk_taken (by decide) rfl (by decide) hld (.inr (.inr rfl))]
    unfold rpkTry handleCommand
    rw [if_neg (by decide), if_neg (by decide), if_neg (by decide), if_neg (by decide),
      if_pos (by decide), if_pos (by rw [h]; decide)]
    exact arm_acts
  rw [if_neg hcmd] at h
  obtain ⟨d, hconst, hacts⟩ := secured_acts client dataId req
  refine ⟨d, ?_⟩
  unfold serveRequest
  rw [middle_passed h.1 hconst h.2 hld hread hwrite hcmd]
  exact hacts

end Acting



/-! ## The frames -/

/-- A segment has room for so many bytes, and so has every other frame. -/
theorem decodeMux_short {f : Frame} {base pdu : Pdu} (hbase : base.data = [])
    (h : decodeMux f base = .ok pdu) : pdu.cmd = base.cmd ∧ pdu.data.length ≤ usdoSegDataMax := by
  have hnil : base.data.length ≤ usdoSegDataMax := by simp [hbase]
  unfold decodeMux at h
  simp only at h
  split at h
  · exact nomatch h
  split at h
  · exact nomatch h
  split at h
  · split at h
    · exact nomatch h
    · split at h
      · exact nomatch h
      · obtain rfl := Except.ok.inj h
        exact ⟨rfl, hnil⟩
  · split at h
    · obtain rfl := Except.ok.inj h
      exact ⟨rfl, hnil⟩
    · split at h
      · split at h
        · exact nomatch h
        · split at h
          · exact nomatch h
          · rename_i hmax
            split at h
            · exact nomatch h
            · obtain rfl := Except.ok.inj h
              have hlen : (f.byte 7).toNat ≤ 56 := Nat.not_lt.mp hmax
              refine ⟨rfl, ?_⟩
              show ((f.payload.drop 8).take (f.byte 7).toNat).length ≤ 60
              rw [List.length_take]
              omega
      · obtain rfl := Except.ok.inj h
        exact ⟨rfl, hnil⟩

theorem decodeBody_short {f : Frame} {base pdu : Pdu} (hbase : base.data = [])
    (h : decodeBody f base = .ok pdu) : pdu.cmd = base.cmd ∧ pdu.data.length ≤ usdoSegDataMax := by
  have hnil : base.data.length ≤ usdoSegDataMax := by simp [hbase]
  unfold decodeBody at h
  simp only at h
  split at h
  · split at h
    · exact nomatch h
    · obtain rfl := Except.ok.inj h
      exact ⟨rfl, List.length_take_le _ _⟩
  · split at h
    · split at h
      · exact nomatch h
      · split at h
        · exact nomatch h
        · rename_i hmax
          split at h
          · exact nomatch h
          · obtain rfl := Except.ok.inj h
            exact ⟨rfl, (List.length_take_le _ _).trans (Nat.not_lt.mp hmax)⟩
    · split at h
      · split at h
        · exact nomatch h
        · obtain rfl := Except.ok.inj h
          exact ⟨rfl, hnil⟩
      · split at h
        · obtain rfl := Except.ok.inj h
          exact ⟨rfl, hnil⟩
        · split at h
          · split at h
            · exact nomatch h
            · obtain rfl := Except.ok.inj h
              exact ⟨rfl, hnil⟩
          · exact decodeMux_short hbase h

/-- The command of a decoded frame, and the length of its body. -/
theorem decode_short {f : Frame} {pdu : Pdu} (h : decode f = .ok pdu) :
    pdu.cmd = f.byte 1 ∧ pdu.data.length ≤ usdoSegDataMax := by
  obtain ⟨-, -, -, hbody⟩ := decode_head h
  exact decodeBody_short rfl hbody

/-- A data id of a frame has no low byte. -/
theorem dataIdLow_frame (index : UInt16) (subindex : UInt8) :
    dataIdLow (dataIdFromIndexSub index subindex) = 0 := by
  unfold dataIdLow dataIdFromIndexSub
  apply UInt8.toNat_inj.mp
  rw [UInt32.toNat_toUInt8, UInt32.toNat_or, Nat.or_mod_two_pow]
  simp only [UInt32.toNat_shiftLeft]
  simp [Nat.shiftLeft_eq]
  omega

/-- A frame that reaches the dispatcher, with a command that is not a request's, and a body
    on which some state acts. -/
def Acts (f : Frame) : Prop :=
  ∃ pdu, decode f = .ok pdu ∧ (canIdSplit f.idValue).2 = .request ∧
    cmdIsRequest pdu.cmd = false ∧
    Touches (dataIdFromIndexSub pdu.index pdu.subindex) pdu.data.length

/-- Refused: the command is not a request's, or the answer says so. -/
def Refused (f : Frame) (sent : List Frame) : Prop :=
  cmdIsRequest (f.byte 1) = false ∨ ∃ g ∈ sent, badCmdAbort g

/-- A refused frame changes nothing, whatever the platform and the state of the server. -/
def RefusedUnchanged (f : Frame) : Prop :=
  ∀ (E : Type) (gcm : Gcm) (ed : Ed25519) (plat : DevicePlatform E) (deviceId : UInt16)
    (s : UsdoServer (Device E)),
    let w := (handleFrame (deviceDispatcher gcm ed plat deviceId) f ⟨s, [], []⟩).2
    Refused f w.sent → Unchanged s.device w.server.device

/-- The dispatcher of the reference server. -/
theorem deviceDispatcher_quiet : QuietDispatcher (deviceDispatcher gcm ed plat deviceId) :=
  fun d _ _ _ => dispatch_never_badCmd d

/-- What is not a request goes to the dispatcher all the same. -/
theorem handlePdu_other {D : Type} {disp : Dispatcher D} {pdu : Pdu}
    (h : cmdIsRequest pdu.cmd = false) :
    handlePdu disp pdu = dispatch disp (Pdu.ctx pdu) false pdu.data := by
  simp only [cmdIsRequest, List.contains_eq_mem, List.mem_cons, List.not_mem_nil, or_false,
    decide_eq_false_iff_not, not_or] at h
  obtain ⟨-, -, hinit, hseg, hend, hup⟩ := h
  unfold handlePdu
  rw [if_neg (by simpa using hinit), if_neg (by simp [hseg, hend]), if_neg (by simpa using hup)]

/-- **A frame that does not act is harmless**, if it is refused. -/
theorem harmless {f : Frame} (h : ¬ Acts f) : RefusedUnchanged f := by
  intro E gcm ed plat deviceId s w hrefused
  cases hpdu : requestPdu s.nodeId f with
  | none =>
      have hw : w = ⟨s, [], []⟩ := by
        show (handleFrame _ f _).2 = _
        rw [handleFrame_none hpdu]
      rw [hw]
      exact unchanged_refl _
  | some pdu =>
      obtain ⟨hdecode, hkind, -⟩ := requestPdu_iff.mp hpdu
      obtain ⟨hcmd, hshort⟩ := decode_short hdecode
      have hw : w = (handlePdu (deviceDispatcher gcm ed plat deviceId) pdu ⟨s, [], []⟩).2 := by
        show (handleFrame _ f _).2 = _
        rw [handleFrame_some hpdu]
      cases hreq : cmdIsRequest pdu.cmd with
      | true =>
          -- a request is refused only by its answer, which it never gets
          exfalso
          obtain hnot | ⟨g, hg, hbad⟩ := hrefused
          · rw [← hcmd, hreq] at hnot
            exact Bool.noConfusion hnot
          · rw [hw] at hg
            exact handlePdu_answer deviceDispatcher_quiet hreq ⟨s, [], []⟩
              (by intro g hg; cases hg) g hg hbad
      | false =>
          have hquiet : ¬ Touches (dataIdFromIndexSub pdu.index pdu.subindex) pdu.data.length :=
            fun htouch => h ⟨pdu, hdecode, hkind, hreq, htouch⟩
          have hdevice : w.server.device = s.device := by
            rw [hw, handlePdu_other hreq]
            obtain ⟨-, slot, -, hserver⟩ := dispatch_parked (deviceDispatcher gcm ed plat deviceId)
              (Pdu.ctx pdu) false pdu.data ⟨s, [], []⟩
            rw [hserver]
            exact quiet_dispatch (dataIdLow_frame _ _) hshort hquiet _
          rw [hdevice]
          exact unchanged_refl _

/-- And one that acts is not. -/
theorem acting {f : Frame} (h : Acts f) : ¬ RefusedUnchanged f := by
  obtain ⟨pdu, hdecode, hkind, hreq, htouch⟩ := h
  intro hunchanged
  obtain ⟨d, hacts⟩ := touched_acts pdu.srcNode.toUInt16 htouch
  have hpdu : requestPdu pdu.dstNode f = some pdu := requestPdu_iff.mpr ⟨hdecode, hkind, rfl⟩
  have hrefused := hunchanged SampleEnv sampleGcm sampleEd samplePlatform 5
    { nodeId := pdu.dstNode, device := d } (.inl ((decode_short hdecode).1 ▸ hreq))
  rw [handleFrame_some hpdu, handlePdu_other hreq] at hrefused
  obtain ⟨-, slot, -, hserver⟩ := dispatch_parked
    (deviceDispatcher sampleGcm sampleEd samplePlatform 5) (Pdu.ctx pdu) false pdu.data
    ⟨{ nodeId := pdu.dstNode, device := d }, [], []⟩
  rw [hserver] at hrefused
  exact hacts hrefused

/-- **Refused commands.**  A frame that the server refuses, for its command or by its answer,
    leaves slots, keys, identity, stage, challenge and values alone on every platform and in
    every state, exactly when it is not a frame on the request base with the command of a
    response or an abort, and a body on which some state acts. -/
theorem refused_unchanged_iff (f : Frame) : RefusedUnchanged f ↔ ¬ Acts f :=
  ⟨fun h hacts => acting hacts h, harmless⟩

/-! ## A worked run -/

/-- A download response, sent on the request base by node 20 to node 5, for C049h. -/
def sampleStray : Frame :=
  ⟨0x600 + 20, flagBrs, [5, cmdDownloadResp, 1, 0x00, 0x49, 0xC0]⟩

/-- The bare demo device behind node 5 arms a challenge for that response, and then refuses
    it. -/
theorem stray_response_arms :
    let w := (handleFrame (deviceDispatcher sampleGcm sampleEd samplePlatform sampleNodeId)
      sampleStray ⟨{ nodeId := 5, device := sampleBare }, [], []⟩).2
    cmdIsRequest (sampleStray.byte 1) = false ∧ (∃ g ∈ w.sent, badCmdAbort g) ∧
      sampleBare.challenge.armed = false ∧ w.server.device.challenge.armed = true := by
  decide +kernel

end SofaRefused
