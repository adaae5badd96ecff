import Sofa.Client
import Sofa.Device

/-! # The commissioning tool

    `client_common_commission.c`: the steps a client takes to make a device its own.  It
    checks that the device is genuine, presents a voucher, installs a Provisioning key and
    has the device make an LDevID; `run_descriptor_command` takes the four in a row.

    The state is what is behind the transport, with a log of the draws, the transfers and
    the results printed.

    * `verifyGenuineness_spec`, `presentVoucher_spec`, `installProvisioning_spec` and
      `generateLdevid_spec` say what each step transmits and when it succeeds;
    * **`commissionCommand_log`**: the transmissions of the whole command. -/

namespace SofaHandover

open ByteBlock SofaConfig SofaAead SofaClient SofaAsym SofaDevice StateWp

/-! ## The world of the tool -/

/-- The transport, with the draws of the client's random source that fill a challenge. -/
structure HandoverTransport (N : Type) extends Transport N where
  challenge : N → Option RpkNonce × N

/-- The steps of the command, in order. -/
inductive HandoverStep where
  | genuineness
  | voucher
  | provisioning
  | ldevid
  deriving DecidableEq

/-- What the log records. -/
inductive HandoverEvent where
  | drawn (rt : Option RpkNonce)
  | read (device : UInt16) (dataId : UInt32) (body : List UInt8)
      (result : Except SecpError (List UInt8))
  | write (device : UInt16) (dataId : UInt32) (frame : List UInt8)
      (result : Except SecpError Unit)
  /-- The result of a step, as the command prints it. -/
  | reported (step : HandoverStep) (rc : Nat)
  deriving DecidableEq

/-- What is behind the transport, and the events so far. -/
structure HandoverWorld (N : Type) where
  net : N
  log : List HandoverEvent

variable {N : Type}

abbrev HandoverM (N : Type) := StateM (HandoverWorld N)

def drawChallenge (T : HandoverTransport N) : HandoverM N (Option RpkNonce) := fun w =>
  let r := T.challenge w.net
  (r.1, ⟨r.2, w.log ++ [.drawn r.1]⟩)

def handoverRead (T : HandoverTransport N) (device : UInt16) (dataId : UInt32)
    (body : List UInt8) (cap : Nat) : HandoverM N (Except SecpError (List UInt8)) := fun w =>
  let r := T.read device dataId body cap w.net
  (r.1, ⟨r.2, w.log ++ [.read device dataId body r.1]⟩)

def handoverWrite (T : HandoverTransport N) (device : UInt16) (dataId : UInt32)
    (frame : List UInt8) : HandoverM N (Except SecpError Unit) := fun w =>
  let r := T.write device dataId frame w.net
  (r.1, ⟨r.2, w.log ++ [.write device dataId frame r.1]⟩)

def report (step : HandoverStep) (rc : Nat) : HandoverM N Unit := fun w =>
  ((), { w with log := w.log ++ [.reported step rc] })

section Calls

variable {T : HandoverTransport N} {w : HandoverWorld N}

theorem wp_drawChallenge {Q : Option RpkNonce → HandoverWorld N → Prop} :
    wp (drawChallenge T) Q w ↔
      Q (T.challenge w.net).1 ⟨(T.challenge w.net).2, w.log ++ [.drawn (T.challenge w.net).1]⟩ :=
  Iff.rfl

theorem wp_handoverRead {device : UInt16} {dataId : UInt32} {body : List UInt8} {cap : Nat}
    {Q : Except SecpError (List UInt8) → HandoverWorld N → Prop} :
    wp (handoverRead T device dataId body cap) Q w ↔
      Q (T.read device dataId body cap w.net).1 ⟨(T.read device dataId body cap w.net).2,
        w.log ++ [.read device dataId body (T.read device dataId body cap w.net).1]⟩ := Iff.rfl

theorem wp_handoverWrite {device : UInt16} {dataId : UInt32} {frame : List UInt8}
    {Q : Except SecpError Unit → HandoverWorld N → Prop} :
    wp (handoverWrite T device dataId frame) Q w ↔
      Q (T.write device dataId frame w.net).1 ⟨(T.write device dataId frame w.net).2,
        w.log ++ [.write device dataId frame (T.write device dataId frame w.net).1]⟩ := Iff.rfl

end Calls

/-! ## Identities and sizes -/

/-- `fbsec_client_asym_manufacturer`, `_integrator` and `_server_idevid`. -/
def clientManufacturer (ed : Ed25519) : Keypair := ed.keygen mfgSeed
def clientIntegrator (ed : Ed25519) : Keypair := ed.keygen integratorSeed
def clientServerIdevid (ed : Ed25519) : Pubkey := (ed.keygen idevidSeed).pub

/-- `FBSEC_HO_IDENTITY_REPLY_LEN`: blob, certificate, signature. -/
abbrev hoIdentityReplyLen : Nat := asymIdentityBlobLen + asymSigSize + asymSigSize
/-- `FBSEC_HO_LDEVID_REPLY_LEN`: public key and signature. -/
abbrev hoLdevidReplyLen : Nat := asymPubkeySize + asymSigSize
/-- `DEMO_VOUCHER_EPOCH`. -/
abbrev demoVoucherEpoch : UInt32 := 2

/-- `DEMO_PROVISIONING_KEY`. -/
def demoProvisioningKey : Key :=
  ![0x00, 0x11, 0x22, 0x33, 0x44, 0x55, 0x66, 0x77, 0x88, 0x99, 0xAA, 0xBB, 0xCC, 0xDD, 0xEE, 0xFF]

/-! ## Genuineness -/

/-- The fields of an identity reply. -/
def identityCert (reply : List UInt8) : Signature := slice 64 asymIdentityBlobLen reply
def identitySig (reply : List UInt8) : Signature :=
  slice 64 (asymIdentityBlobLen + asymSigSize) reply
def identityKey (reply : List UInt8) : Pubkey := slice 32 asymSerialLen reply

/-- What the manufacturer certifies: the blob. -/
def certTranscript (reply : List UInt8) : List UInt8 :=
  asymTranscript roleIdevidCert (reply.take asymIdentityBlobLen)
    (asymTranscriptOverhead + asymIdentityBlobLen)

/-- What the device signs: the blob and the challenge. -/
def identityTranscript (rt : RpkNonce) (reply : List UInt8) : List UInt8 :=
  asymTranscript roleIdentityRead (reply.take asymIdentityBlobLen ++ toList rt)
    (asymTranscriptOverhead + asymIdentityBlobLen + hoRtLen)

/-- `fbsec_commission_verify_genuineness`. -/
def verifyGenuineness (ed : Ed25519) (T : HandoverTransport N) (target : UInt16) :
    HandoverM N Nat := do
  let some rt ← drawChallenge T | return 1
  match ← handoverRead T target hoIdentityId (toList rt) hoIdentityReplyLen with
  | .error _ => return 2
  | .ok reply =>
      if reply.length != hoIdentityReplyLen then
        return 3
      if (certTranscript reply).length == 0
          || !ed.verify (clientManufacturer ed).pub (certTranscript reply)
            (identityCert reply) then
        return 4
      if (identityTranscript rt reply).length == 0
          || !ed.verify (identityKey reply) (identityTranscript rt reply)
            (identitySig reply) then
        return 5
      return 0

/-- A reply that proves the device genuine. -/
structure GenuineReply (ed : Ed25519) (rt : RpkNonce) (reply : List UInt8) : Prop where
  len : reply.length = hoIdentityReplyLen
  certified : ed.verify (clientManufacturer ed).pub (certTranscript reply)
    (identityCert reply) = true
  signed : ed.verify (identityKey reply) (identityTranscript rt reply) (identitySig reply) = true

/-! ## The voucher -/

/-- `build_voucher_epoch`; `none` is a transcript that does not fit. -/
def buildVoucherEpoch (ed : Ed25519) (epoch : UInt32) : Option (List UInt8) :=
  let body := toList demoSerial ++ toList (clientIntegrator ed).pub ++ putU32le epoch
  let transcript := asymTranscript roleVoucher body
    (asymTranscriptOverhead + (asymSerialLen + asymPubkeySize + 4))
  if transcript.length == 0 then none
  else some (body ++ toList (ed.sign (clientManufacturer ed) transcript))

/-- An epoch as the device answers it, least significant byte first. -/
def answeredEpoch (buf : List UInt8) : UInt32 :=
  (buf.getD 0 0).toUInt32 ||| ((buf.getD 1 0).toUInt32 <<< 8)
    ||| ((buf.getD 2 0).toUInt32 <<< 16) ||| ((buf.getD 3 0).toUInt32 <<< 24)

/-- `read_owner_epoch`; `none` is an epoch that cannot be read. -/
def readOwnerEpoch (T : HandoverTransport N) (target : UInt16) : HandoverM N (Option UInt32) := do
  match ← handoverRead T target hoEpochId [] 4 with
  | .error _ => return none
  | .ok buf =>
      if buf.length != 4 then
        return none
      return some (answeredEpoch buf)

/-- `fbsec_commission_present_voucher_bytes`. -/
def presentVoucherBytes (T : HandoverTransport N) (target : UInt16) (voucher : List UInt8) :
    HandoverM N Nat := do
  if voucher.length != hoVoucherLen then
    return 7
  match ← handoverWrite T target hoVoucherId voucher with
  | .error _ => return 2
  | .ok () => return 0

/-- The epoch after the one that was read, or the demo's. -/
def nextEpoch : Option UInt32 → UInt32
  | some epoch => epoch + 1
  | none => demoVoucherEpoch

/-- `fbsec_commission_present_voucher`; `loaded` is the voucher of a file, if any. -/
def presentVoucher (ed : Ed25519) (T : HandoverTransport N) (target : UInt16)
    (loaded : Option (List UInt8)) : HandoverM N Nat := do
  match loaded with
  | some voucher => presentVoucherBytes T target voucher
  | none =>
      let epoch ← readOwnerEpoch T target
      match buildVoucherEpoch ed (nextEpoch epoch) with
      | none => return 6
      | some voucher => presentVoucherBytes T target voucher

/-! ## The Provisioning key and the LDevID -/

/-- The payload of the install: the demo key and the integrator's signature. -/
def provisioningPayload (ed : Ed25519) : List UInt8 :=
  toList demoProvisioningKey ++ toList (ed.sign (clientIntegrator ed)
    (asymTranscript rolePkinstallAck (toList demoProvisioningKey)
      (asymTranscriptOverhead + aeadKeySize)))

/-- `fbsec_commission_install_provisioning`. -/
def installProvisioning (ed : Ed25519) (T : HandoverTransport N) (target : UInt16) :
    HandoverM N Nat := do
  if (asymTranscript rolePkinstallAck (toList demoProvisioningKey)
      (asymTranscriptOverhead + aeadKeySize)).length == 0 then
    return 6
  match ← handoverWrite T target hoProvisionId (provisioningPayload ed) with
  | .error _ => return 2
  | .ok () => return 0

/-- What the device signs in an export: the public key alone. -/
def exportTranscript (reply : List UInt8) : List UInt8 :=
  asymTranscript roleLdevidExport (reply.take asymPubkeySize)
    (asymTranscriptOverhead + asymPubkeySize)

/-- The fields of an export reply. -/
def exportKey (reply : List UInt8) : Pubkey := slice 32 0 reply
def exportSig (reply : List UInt8) : Signature := slice 64 asymPubkeySize reply

/-- `fbsec_commission_generate_ldevid`: the public key, or the return code. -/
def generateLdevid (ed : Ed25519) (T : HandoverTransport N) (target : UInt16) :
    HandoverM N (Except Nat Pubkey) := do
  match ← handoverRead T target hoLdevidId [0x01] hoLdevidReplyLen with
  | .error _ => return .error 2
  | .ok reply =>
      if reply.length != hoLdevidReplyLen then
        return .error 3
      if (exportTranscript reply).length == 0
          || !ed.verify (clientServerIdevid ed) (exportTranscript reply) (exportSig reply) then
        return .error 5
      return .ok (exportKey reply)

/-- An export reply that is accepted. -/
structure ExportReply (ed : Ed25519) (reply : List UInt8) : Prop where
  len : reply.length = hoLdevidReplyLen
  signed : ed.verify (clientServerIdevid ed) (exportTranscript reply) (exportSig reply) = true

/-! ## The command -/

/-- The return code of `fbsec_commission_generate_ldevid`. -/
def ldevidCode : Except Nat Pubkey → Nat
  | .ok _ => 0
  | .error rc => rc

/-- A step with its result printed. -/
def reporting (step : HandoverStep) (m : HandoverM N Nat) : HandoverM N Nat := do
  let rc ← m
  report step rc
  return rc

/-- Step 2, which only a build of the authorized model has; no voucher file is loaded. -/
def claimStep (authorized : Bool) (ed : Ed25519) (T : HandoverTransport N) (target : UInt16) :
    HandoverM N Nat :=
  if authorized then reporting .voucher (presentVoucher ed T target none) else pure 0

/-- The `commission` branch of `run_descriptor_command`. -/
def commissionCommand (authorized : Bool) (ed : Ed25519) (T : HandoverTransport N)
    (target : UInt16) : HandoverM N Nat := do
  let r1 ← reporting .genuineness (verifyGenuineness ed T target)
  let r2 ← claimStep authorized ed T target
  let r3 ← reporting .provisioning (installProvisioning ed T target)
  let r4 ← reporting .ldevid (do return ldevidCode (← generateLdevid ed T target))
  return if r1 != 0 || r2 != 0 || r3 != 0 || r4 != 0 then 1 else 0

/-! ## What a step transmits -/

/-- A draw or a read. -/
def HandoverEvent.quiet : HandoverEvent → Bool
  | .drawn _ | .read .. => true
  | .write .. | .reported .. => false

/-- A run that only drew and read. -/
def Quietly (w w' : HandoverWorld N) : Prop :=
  ∃ events, w'.log = w.log ++ events ∧ ∀ e ∈ events, HandoverEvent.quiet e = true

/-- The answers of the transport that prove the device genuine, and what is behind the
    transport then. -/
def AnswersGenuine (ed : Ed25519) (T : HandoverTransport N) (target : UInt16) (n n' : N) : Prop :=
  ∃ rt drawn reply, T.challenge n = (some rt, drawn) ∧
    T.read target hoIdentityId (toList rt) hoIdentityReplyLen drawn = (.ok reply, n') ∧
    GenuineReply ed rt reply

theorem certTranscript_ne {reply : List UInt8} (h : reply.length = hoIdentityReplyLen) :
    ((certTranscript reply).length == 0) = false := by
  have hlen : (reply.take asymIdentityBlobLen).length = asymIdentityBlobLen := by
    rw [List.length_take, h]
    rfl
  rw [certTranscript, asymTranscript_of_fits (by rw [hlen]) (by decide)]
  rfl

theorem identityTranscript_eq {rt : RpkNonce} {reply : List UInt8}
    (h : reply.length = hoIdentityReplyLen) :
    identityTranscript rt reply = asymDomain ++ [0x00, asymSigAlg, roleIdentityRead]
      ++ (reply.take asymIdentityBlobLen ++ toList rt) := by
  have hlen : (reply.take asymIdentityBlobLen).length = asymIdentityBlobLen := by
    rw [List.length_take, h]
    rfl
  have hfits : asymTranscriptOverhead + (reply.take asymIdentityBlobLen ++ toList rt).length
      ≤ asymTranscriptOverhead + asymIdentityBlobLen + hoRtLen := by
    rw [List.length_append, hlen, length_toList]
    decide
  rw [identityTranscript, asymTranscript_of_fits hfits (by decide)]

theorem exportTranscript_ne {reply : List UInt8} (h : reply.length = hoLdevidReplyLen) :
    ((exportTranscript reply).length == 0) = false := by
  have hlen : (reply.take asymPubkeySize).length = asymPubkeySize := by
    rw [List.length_take, h]
    rfl
  rw [exportTranscript, asymTranscript_of_fits (by rw [hlen]) (by decide)]
  rfl

/-- The checks of a read reply, from the reply on. -/
theorem genuineReply_iff {ed : Ed25519} {rt : RpkNonce} {reply : List UInt8} :
    GenuineReply ed rt reply ↔ reply.length = hoIdentityReplyLen ∧
      ((certTranscript reply).length == 0 || !ed.verify (clientManufacturer ed).pub
        (certTranscript reply) (identityCert reply)) = false ∧
      ((identityTranscript rt reply).length == 0 || !ed.verify (identityKey reply)
        (identityTranscript rt reply) (identitySig reply)) = false := by
  constructor
  · intro h
    refine ⟨h.len, ?_, ?_⟩
    · rw [certTranscript_ne h.len, h.certified]
      rfl
    · rw [h.signed, identityTranscript_eq h.len]
      rfl
  · rintro ⟨hlen, hcert, hsig⟩
    rw [Bool.or_eq_false_iff, Bool.not_eq_false'] at hcert hsig
    exact ⟨hlen, hcert.2, hsig.2⟩

/-- The events of a check that found the device genuine. -/
def GenuineEvents (ed : Ed25519) (target : UInt16) (w w' : HandoverWorld N) : Prop :=
  ∃ rt reply, GenuineReply ed rt reply ∧ w'.log = w.log
    ++ [.drawn (some rt), .read target hoIdentityId (toList rt) (.ok reply)]

/-- **Genuineness**: the step draws and reads, and returns 0 exactly on the answers that
    prove the device genuine. -/
theorem verifyGenuineness_spec (ed : Ed25519) (T : HandoverTransport N) (target : UInt16)
    (w : HandoverWorld N) :
    wp (verifyGenuineness ed T target)
      (fun rc w' => Quietly w w' ∧ (rc = 0 → GenuineEvents ed target w w') ∧
        ∀ x, AnswersGenuine ed T target w.net x ↔ rc = 0 ∧ x = w'.net) w := by
  unfold verifyGenuineness
  rw [wp_bind, wp_drawChallenge]
  rcases hdraw : T.challenge w.net with ⟨rt | rt, drawn⟩
  · refine ⟨⟨[.drawn none], rfl, by simp [HandoverEvent.quiet]⟩,
      fun h => absurd h (show (1 : Nat) ≠ 0 by decide), fun x => ?_⟩
    refine iff_of_false ?_ fun h => absurd h.1 (show (1 : Nat) ≠ 0 by decide)
    rintro ⟨rt, drawn', reply, h, -⟩
    rw [hdraw] at h
    cases h
  simp only [wp_bind, wp_handoverRead]
  rcases hread : T.read target hoIdentityId (toList rt) hoIdentityReplyLen drawn with ⟨answer, n'⟩
  have hquiet : Quietly w (⟨n', w.log ++ [.drawn (some rt)]
      ++ [.read target hoIdentityId (toList rt) answer]⟩ : HandoverWorld N) :=
    ⟨[.drawn (some rt), .read target hoIdentityId (toList rt) answer], by simp,
      by simp [HandoverEvent.quiet]⟩
  -- the answer decides
  have hanswers : ∀ x, AnswersGenuine ed T target w.net x ↔
      ∃ reply, answer = .ok reply ∧ x = n' ∧ GenuineReply ed rt reply := by
    intro x
    constructor
    · rintro ⟨rt', drawn', reply, h, h', hgenuine⟩
      rw [hdraw] at h
      cases h
      rw [hread] at h'
      cases h'
      exact ⟨reply, rfl, rfl, hgenuine⟩
    · rintro ⟨reply, rfl, rfl, hgenuine⟩
      exact ⟨rt, drawn, reply, hdraw, hread, hgenuine⟩
  cases answer with
  | error e =>
      have hne : (2 : Nat) ≠ 0 := by decide
      refine ⟨hquiet, fun h => absurd h hne, fun x => iff_of_false ?_ fun h => absurd h.1 hne⟩
      rw [hanswers]
      rintro ⟨reply, h, -⟩
      cases h
  | ok reply =>
      have hiff : ∀ x, AnswersGenuine ed T target w.net x ↔ x = n' ∧ GenuineReply ed rt reply := by
        intro x
        rw [hanswers]
        constructor
        · rintro ⟨reply', h, rfl, hgenuine⟩
          cases h
          exact ⟨rfl, hgenuine⟩
        · rintro ⟨rfl, hgenuine⟩
          exact ⟨reply, rfl, rfl, hgenuine⟩
      simp only [wp_ite, wp_pure, hiff, genuineReply_iff, bne_iff_ne, ne_eq, not_not,
        Bool.not_eq_true]
      refine ⟨fun h => ⟨hquiet, fun h => absurd h (by decide), fun x => ?_⟩, fun hlen =>
        ⟨fun h => ⟨hquiet, fun h => absurd h (by decide), fun x => ?_⟩, fun hcert =>
        ⟨fun h => ⟨hquiet, fun h => absurd h (by decide), fun x => ?_⟩, fun hsig =>
        ⟨hquiet, fun _ => ⟨rt, reply, ?_, List.append_assoc _ _ _⟩, fun x => ?_⟩⟩⟩⟩
      · exact iff_of_false (fun h' => h h'.2.1) fun h' => by cases h'.1
      · refine iff_of_false (fun h' => ?_) fun h' => by cases h'.1
        rw [h] at h'
        cases h'.2.2.1
      · refine iff_of_false (fun h' => ?_) fun h' => by cases h'.1
        rw [h] at h'
        cases h'.2.2.2
      · exact genuineReply_iff.mpr ⟨hlen, hcert, hsig⟩
      · exact ⟨fun h => ⟨trivial, h.1⟩, fun h => ⟨h.2, hlen, hcert, hsig⟩⟩

/-- The voucher that is minted for an epoch. -/
def mintedVoucher (ed : Ed25519) (epoch : UInt32) : List UInt8 :=
  let body := toList demoSerial ++ toList (clientIntegrator ed).pub ++ putU32le epoch
  body ++ toList (ed.sign (clientManufacturer ed)
    (asymDomain ++ [0x00, asymSigAlg, roleVoucher] ++ body))

theorem buildVoucherEpoch_eq (ed : Ed25519) (epoch : UInt32) :
    buildVoucherEpoch ed epoch = some (mintedVoucher ed epoch) := by
  have hlen : (toList demoSerial ++ toList (clientIntegrator ed).pub ++ putU32le epoch).length
      = asymSerialLen + asymPubkeySize + 4 := by
    rw [List.length_append, List.length_append, length_toList, length_toList]
    rfl
  unfold buildVoucherEpoch mintedVoucher
  simp only [asymTranscript_of_fits (Nat.le_of_eq (congrArg (asymTranscriptOverhead + ·) hlen))
    (by decide)]
  rfl

theorem mintedVoucher_length (ed : Ed25519) (epoch : UInt32) :
    (mintedVoucher ed epoch).length = hoVoucherLen := by
  simp only [mintedVoucher, List.length_append, length_toList]
  rfl

/-- The epoch in the answer to an epoch read. -/
def epochAnswer : Except SecpError (List UInt8) → Option UInt32
  | .error _ => none
  | .ok buf => if buf.length = 4 then some (answeredEpoch buf) else none

/-- The transport takes the voucher that is minted for the epoch it answers. -/
def TakesVoucher (ed : Ed25519) (T : HandoverTransport N) (target : UInt16) (n : N) : Prop :=
  let answer := T.read target hoEpochId [] 4 n
  (T.write target hoVoucherId (mintedVoucher ed (nextEpoch (epochAnswer answer.1))) answer.2).1
    = .ok ()

theorem wp_readOwnerEpoch {T : HandoverTransport N} {target : UInt16} {w : HandoverWorld N}
    {Q : Option UInt32 → HandoverWorld N → Prop} :
    wp (readOwnerEpoch T target) Q w ↔
      Q (epochAnswer (T.read target hoEpochId [] 4 w.net).1) ⟨(T.read target hoEpochId [] 4 w.net).2,
        w.log ++ [.read target hoEpochId [] (T.read target hoEpochId [] 4 w.net).1]⟩ := by
  unfold readOwnerEpoch
  rw [wp_bind, wp_handoverRead]
  rcases T.read target hoEpochId [] 4 w.net with ⟨answer | buf, n'⟩
  · rfl
  · by_cases hlen : buf.length = 4
    · simp [wp_pure, epochAnswer, hlen]
    · simp [wp_pure, epochAnswer, hlen]

/-- A voucher of the right length is written, and the answer decides. -/
theorem wp_presentVoucherBytes {T : HandoverTransport N} {target : UInt16}
    {w : HandoverWorld N} {voucher : List UInt8} (hlen : voucher.length = hoVoucherLen)
    {Q : Nat → HandoverWorld N → Prop} :
    wp (presentVoucherBytes T target voucher) Q w ↔
      Q (match (T.write target hoVoucherId voucher w.net).1 with | .ok () => 0 | .error _ => 2)
        ⟨(T.write target hoVoucherId voucher w.net).2, w.log
          ++ [.write target hoVoucherId voucher (T.write target hoVoucherId voucher w.net).1]⟩ := by
  unfold presentVoucherBytes
  rw [if_neg (by simp [hlen]), wp_bind, wp_handoverWrite]
  rcases T.write target hoVoucherId voucher w.net with ⟨answer | answer, n'⟩ <;> rfl

/-- **The voucher**: the step reads the epoch and writes a voucher, and returns 0 exactly
    when the transport takes it. -/
theorem presentVoucher_spec (ed : Ed25519) (T : HandoverTransport N) (target : UInt16)
    (w : HandoverWorld N) :
    wp (presentVoucher ed T target none)
      (fun rc w' => ∃ answer frame result, w'.log = w.log
          ++ [.read target hoEpochId [] answer, .write target hoVoucherId frame result] ∧
        (rc = 0 ↔ result = .ok ()) ∧ (rc = 0 ↔ TakesVoucher ed T target w.net)) w := by
  unfold presentVoucher TakesVoucher
  simp only [wp_bind, wp_readOwnerEpoch, buildVoucherEpoch_eq]
  rw [wp_presentVoucherBytes (mintedVoucher_length _ _)]
  refine ⟨_, _, _, List.append_assoc _ _ _, ?_⟩
  simp only [and_self]
  generalize (T.write target hoVoucherId _ _).1 = result
  cases result with
  | ok => exact iff_of_true rfl rfl
  | error e =>
      have hne : (2 : Nat) ≠ 0 := by decide
      exact iff_of_false hne fun h => nomatch h

/-- **The install**: the step writes the payload, whatever came before. -/
theorem installProvisioning_spec (ed : Ed25519) (T : HandoverTransport N) (target : UInt16)
    (w : HandoverWorld N) :
    wp (installProvisioning ed T target)
      (fun _ w' => ∃ result, w'.log = w.log
        ++ [.write target hoProvisionId (provisioningPayload ed) result]) w := by
  unfold installProvisioning
  have hbuilt : asymTranscript rolePkinstallAck (toList demoProvisioningKey)
      (asymTranscriptOverhead + aeadKeySize)
      = asymDomain ++ [0x00, asymSigAlg, rolePkinstallAck] ++ toList demoProvisioningKey :=
    asymTranscript_of_fits (by rw [length_toList]) (by decide)
  rw [if_neg (by rw [hbuilt]; decide), wp_bind, wp_handoverWrite]
  rcases T.write target hoProvisionId (provisioningPayload ed) w.net with ⟨answer | answer, n'⟩
  · exact ⟨.error answer, rfl⟩
  · exact ⟨.ok answer, rfl⟩

/-- **The export**: the step reads, and accepts exactly a reply signed by the IDevID. -/
theorem generateLdevid_spec (ed : Ed25519) (T : HandoverTransport N) (target : UInt16)
    (w : HandoverWorld N) :
    wp (generateLdevid ed T target)
      (fun r w' => ∃ answer, answer = (T.read target hoLdevidId [0x01] hoLdevidReplyLen w.net).1 ∧
        w'.log = w.log ++ [.read target hoLdevidId [0x01] answer] ∧
        ∀ pub, r = .ok pub ↔
          ∃ reply, answer = .ok reply ∧ ExportReply ed reply ∧ pub = exportKey reply) w := by
  unfold generateLdevid
  rw [wp_bind, wp_handoverRead]
  generalize T.read target hoLdevidId [0x01] hoLdevidReplyLen w.net = out
  obtain ⟨answer, n'⟩ := out
  cases answer with
  | error e =>
      refine ⟨_, rfl, rfl, fun pub => iff_of_false (fun h => by cases h) ?_⟩
      rintro ⟨reply, h, -⟩
      cases h
  | ok reply =>
      simp only [wp_ite, wp_pure, bne_iff_ne, ne_eq, not_not, Bool.not_eq_true]
      refine ⟨fun hlen => ⟨_, rfl, rfl, fun pub => iff_of_false (fun h => by cases h) ?_⟩,
        fun hlen => ⟨fun hbad => ⟨_, rfl, rfl, fun pub => iff_of_false (fun h => by cases h) ?_⟩,
          fun hgood => ⟨_, rfl, rfl, fun pub => ?_⟩⟩⟩
      · rintro ⟨reply', h, hexport, -⟩
        cases h
        exact hlen hexport.len
      · rintro ⟨reply', h, hexport, -⟩
        cases h
        rw [exportTranscript_ne hlen, hexport.signed] at hbad
        cases hbad
      · rw [Bool.or_eq_false_iff, Bool.not_eq_false'] at hgood
        constructor
        · intro h
          cases h
          exact ⟨reply, rfl, ⟨hlen, hgood.2⟩, rfl⟩
        · rintro ⟨reply', h, -, rfl⟩
          cases h
          rfl

/-! ## The whole command -/

/-- The log of the command, cut at the results printed. -/
structure CommandRun where
  checks : List HandoverEvent
  r1 : Nat
  claim : List HandoverEvent
  payload : List UInt8
  installed : Except SecpError Unit
  r3 : Nat
  exports : List HandoverEvent
  r4 : Nat

/-- Its events in order. -/
def CommandRun.log (target : UInt16) (run : CommandRun) : List HandoverEvent :=
  run.checks ++ [.reported .genuineness run.r1] ++ run.claim
    ++ [.write target hoProvisionId run.payload run.installed, .reported .provisioning run.r3]
    ++ run.exports ++ [.reported .ldevid run.r4]

/-- What the second step adds to the log. -/
inductive ClaimEvents (ed : Ed25519) (T : HandoverTransport N) (target : UInt16) (n : N) :
    Bool → List HandoverEvent → Prop
  | basic : ClaimEvents ed T target n false []
  | authorized {answer : Except SecpError (List UInt8)} {frame : List UInt8}
      {result : Except SecpError Unit} {rc : Nat} (taken : rc = 0 ↔ result = .ok ())
      (takes : rc = 0 ↔ TakesVoucher ed T target n) :
      ClaimEvents ed T target n true
        [.read target hoEpochId [] answer, .write target hoVoucherId frame result,
          .reported .voucher rc]

/-- A run of the command: draws and reads around the two writes; `n'` is what is behind the
    transport after the first step. -/
structure CommandRun.Of (authorized : Bool) (ed : Ed25519) (T : HandoverTransport N)
    (target : UInt16) (n n' : N) (run : CommandRun) : Prop where
  checks : ∀ e ∈ run.checks, HandoverEvent.quiet e = true
  genuine : ∀ x, AnswersGenuine ed T target n x ↔ run.r1 = 0 ∧ x = n'
  claim : ClaimEvents ed T target n' authorized run.claim
  exports : ∀ e ∈ run.exports, HandoverEvent.quiet e = true

theorem wp_reporting {step : HandoverStep} {m : HandoverM N Nat} {w : HandoverWorld N}
    {Q : Nat → HandoverWorld N → Prop} :
    wp (reporting step m) Q w ↔
      wp m (fun rc w' => Q rc ⟨w'.net, w'.log ++ [.reported step rc]⟩) w := Iff.rfl

/-- The second step, in either model. -/
theorem claim_spec (authorized : Bool) (ed : Ed25519) (T : HandoverTransport N) (target : UInt16)
    (w : HandoverWorld N) :
    wp (claimStep authorized ed T target)
      (fun _ w' => ∃ events, w'.log = w.log ++ events ∧
        ClaimEvents ed T target w.net authorized events) w := by
  cases authorized with
  | false => exact ⟨[], (List.append_nil _).symm, .basic⟩
  | true =>
      unfold claimStep
      rw [if_pos rfl, wp_reporting]
      refine wp_mono (presentVoucher_spec ed T target w) ?_
      rintro rc w' ⟨answer, frame, result, hlog, htaken, htakes⟩
      refine ⟨[.read target hoEpochId [] answer, .write target hoVoucherId frame result,
        .reported .voucher rc], ?_, .authorized htaken htakes⟩
      rw [hlog, List.append_assoc]
      rfl

/-- **The transmissions of the command**: each step is taken, whatever the steps before it
    returned. -/
theorem commissionCommand_log (authorized : Bool) (ed : Ed25519) (T : HandoverTransport N)
    (target : UInt16) (n : N) :
    wp (commissionCommand authorized ed T target)
      (fun _ w' => ∃ (run : CommandRun) (n' : N), run.Of authorized ed T target n n' ∧
        w'.log = run.log target) ⟨n, []⟩ := by
  unfold commissionCommand
  simp only [wp_bind, wp_reporting]
  refine wp_mono (verifyGenuineness_spec ed T target ⟨n, []⟩) ?_
  rintro r1 ⟨n', log⟩ ⟨⟨checks, hchecks, hquiet⟩, -, hgenuine⟩
  obtain rfl : log = checks := hchecks
  refine wp_mono (claim_spec authorized ed T target _) ?_
  rintro r2 w2 ⟨claim, hclaim, hevents⟩
  rw [wp_bind, wp_reporting]
  refine wp_mono (installProvisioning_spec ed T target w2) ?_
  rintro r3 w3 ⟨installed, hinstalled⟩
  rw [wp_bind, wp_reporting, wp_bind]
  refine wp_mono (generateLdevid_spec ed T target _) ?_
  rintro r4 w4 ⟨answer, -, hexport, -⟩
  refine ⟨⟨log, r1, claim, provisioningPayload ed, installed, r3,
    [.read target hoLdevidId [0x01] answer], ldevidCode r4⟩, n',
    ⟨hquiet, hgenuine, hevents, by simp [HandoverEvent.quiet]⟩, ?_⟩
  show w4.log ++ [.reported .ldevid (ldevidCode r4)] = _
  rw [hexport, hinstalled, hclaim]
  simp [CommandRun.log]

end SofaHandover
