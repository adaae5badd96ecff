import Sofa.DeviceLink
import Sofa.ClientKeys

/-! # The key ladder

    The commissioning tool moves the selected key id about: `install_key_rung` selects a slot to
    take the key that is to be installed from it, and then the slot whose key authorizes the
    write.

    * `wp_installKeyRung`: a rung with both keys loaded is one secure write;
    * **`installKeyRung_keeps`**, **`installLadder_keeps`**: what the requests for C01Fh keep
      of the network, a rung and the ladder keep. -/

namespace SofaKeyLadder

open ByteBlock SofaConfig SofaAead SofaClient SofaClientMoves SofaAsym SofaDemo SofaDevice
  SofaHandover SofaClientKeys StateWp

/-! ## The tool -/

/-- The key store, and what is behind the transport. -/
structure Tool (N : Type) where
  keys : ClientKeys
  net : N

abbrev ToolM (N : Type) := StateM (Tool N)

variable {N : Type}

def getKeys : ToolM N ClientKeys := fun t => (t.keys, t)

def setKeys (keys : ClientKeys) : ToolM N Unit := fun t => ((), { t with keys := keys })

def setKeyid (keyId : UInt8) : ToolM N Unit := fun t =>
  ((), { t with keys := t.keys.setKeyid keyId })

/-- A step of `client_common_commission.c` that does not look at the key store. -/
def handover (m : HandoverM N Nat) : ToolM N Nat := fun t =>
  let out := m ⟨t.net, []⟩
  (out.1, { t with net := out.2.net })

/-- The exit code of a verb. -/
def exitCode {α : Type} : Except SecpError α → Nat
  | .ok _ => 0
  | .error (.abort _) => 2
  | .error .tag => 3
  | .error _ => 1

/-- `fbsec_client_run_secure_write`. -/
def runSecureWrite (gcm : Gcm) (T : Transport N) (target : UInt16) (dataId : UInt32)
    (payload : List UInt8) : ToolM N Nat := fun t =>
  let out := secureWrite gcm T target dataId t.keys.session t.keys.effectiveKeyid payload
    ⟨t.net, []⟩
  (exitCode out.1, { t with net := out.2.net })

/-- The id of a rung's key on the device: 0x1000 + slot. -/
def rungIdVal (slot : UInt8) : UInt32 := 0x1000 + slot.toUInt32

/-- The body of a rung: selector, key id value, key. -/
def rungBody (slot : UInt8) (key : Key) : List UInt8 :=
  slot :: putU32le (rungIdVal slot) ++ toList key

/-- `install_key_rung`. -/
def installKeyRung (gcm : Gcm) (T : Transport N) (target : UInt16) (targetSlot authSlot : UInt8) :
    ToolM N Nat := do
  setKeyid targetSlot
  let keys ← getKeys
  if !keys.sessionSet then
    return 20
  let body := rungBody targetSlot keys.session
  setKeyid authSlot
  if !(← getKeys).sessionSet then
    return 21
  runSecureWrite gcm T target keySetDataId body

/-- `fbsec_commission_install_provisioning_by_token`; `token` is what
    `fbsec_commission_claim_token` returns. -/
def installProvisioningByToken (gcm : Gcm) (T : Transport N) (target : UInt16) (token : Key) :
    ToolM N Nat := do
  let saved := (← getKeys).keyId
  setKeyid keyidClaimToken
  match (← getKeys).setSession token with
  | none =>
      setKeyid saved
      return 22
  | some keys =>
      setKeys keys
      let rc ← installKeyRung gcm T target keyidProvisioning keyidClaimToken
      setKeyid saved
      return rc

/-- The second rung of the ladder, after the first returned `rc`. -/
def operatorRung (gcm : Gcm) (T : Transport N) (target : UInt16) (rc : Nat) : ToolM N Nat :=
  if rc == 0 then installKeyRung gcm T target keyidOperator keyidIntegrator else pure rc

/-- `fbsec_commission_install_ladder`. -/
def installLadder (gcm : Gcm) (T : Transport N) (target : UInt16) : ToolM N Nat := do
  let saved := (← getKeys).keyId
  let rc ← installKeyRung gcm T target keyidIntegrator keyidProvisioning
  let rc ← operatorRung gcm T target rc
  setKeyid saved
  return rc

/-! ## The two flows -/

/-- The steps one after the other, up to the first that fails, with their return codes. -/
def inOrder : List (ToolM N Nat) → ToolM N (List Nat)
  | [] => pure []
  | step :: rest => do
      let rc ← step
      if rc != 0 then
        return [rc]
      return rc :: (← inOrder rest)

/-- The calls of `lifecycle_do_action` for `LC_ACT_VOUCHER`, with no voucher file loaded. -/
def voucherFlow (gcm : Gcm) (ed : Ed25519) (T : HandoverTransport N) (target : UInt16) :
    ToolM N (List Nat) :=
  inOrder [handover (presentVoucher ed T target none), handover (installProvisioning ed T target),
    installLadder gcm T.toTransport target]

/-- Its calls for `LC_ACT_TOKEN`. -/
def tokenFlow (gcm : Gcm) (T : Transport N) (target : UInt16) (token : Key) :
    ToolM N (List Nat) :=
  inOrder [installProvisioningByToken gcm T target token, installLadder gcm T target]

/-! ## Steps, executed -/

section Steps

variable {gcm : Gcm} {T : Transport N} {target : UInt16} {targetSlot authSlot : UInt8} {t : Tool N}

theorem wp_getKeys {Q : ClientKeys → Tool N → Prop} : wp getKeys Q t ↔ Q t.keys t := Iff.rfl

theorem wp_setKeys {Q : Unit → Tool N → Prop} {keys : ClientKeys} :
    wp (setKeys keys) Q t ↔ Q () { t with keys := keys } := Iff.rfl

theorem wp_setKeyid {Q : Unit → Tool N → Prop} {keyId : UInt8} :
    wp (setKeyid keyId) Q t ↔ Q () { t with keys := t.keys.setKeyid keyId } := Iff.rfl

/-- **A rung with both keys loaded** is one secure write, under the lower key. -/
theorem wp_installKeyRung {Q : Nat → Tool N → Prop} (htarget : Slot targetSlot)
    (hauth : Slot authSlot) (hload : t.keys.sessionKeyLoaded targetSlot = true)
    (hloadAuth : t.keys.sessionKeyLoaded authSlot = true) :
    wp (installKeyRung gcm T target targetSlot authSlot) Q t ↔
      let out := secureWrite gcm T target keySetDataId (t.keys.sessionKeys authSlot)
        (t.keys.setKeyid authSlot).effectiveKeyid (rungBody targetSlot (t.keys.sessionKeys targetSlot))
        ⟨t.net, []⟩
      Q (exitCode out.1) ⟨t.keys.setKeyid authSlot, out.2.net⟩ := by
  unfold installKeyRung
  rw [wp_bind, wp_setKeyid, wp_bind, wp_getKeys]
  dsimp only
  rw [sessionSet_setKeyid _ htarget, hload, if_neg (by decide), wp_bind, wp_setKeyid, wp_bind,
    wp_getKeys]
  dsimp only
  rw [setKeyid_setKeyid, sessionSet_setKeyid _ hauth, hloadAuth, if_neg (by decide),
    session_setKeyid _ htarget, ← session_setKeyid t.keys hauth]
  exact Iff.rfl

end Steps

/-! ## What is kept -/

section Keeps

variable {gcm : Gcm} {T : Transport N} {target : UInt16} {dataId : UInt32} {I : N → Prop}

/-- The condition on the network that the requests for an object keep, and the client's own
    randoms. -/
structure NetKeeps (T : Transport N) (target : UInt16) (dataId : UInt32) (I : N → Prop) : Prop where
  random : ∀ n, I n → I (T.random n).2
  read : ∀ body cap n, I n → I (T.read target dataId body cap n).2
  write : ∀ frame n, I n → I (T.write target dataId frame n).2

theorem writeFlow_keeps (h : NetKeeps T target dataId I) (key : Key) (kid : UInt8)
    (plain : List UInt8) : Keeps (fun w => I w.net) (writeFlow gcm T target dataId key kid plain) := by
  refine keeps_bind (fun w => h.read _ _ _) fun got => ?_
  cases got with
  | error e => exact keeps_pure _ _
  | ok challenge =>
      refine keeps_ite (fun _ => keeps_pure _ _) fun _ => ?_
      refine keeps_bind (fun w => h.random _) fun cr => ?_
      cases cr with
      | none => exact keeps_pure _ _
      | some cr =>
          refine keeps_bind (fun w hw => hw) fun out => ?_
          cases out with
          | none => exact keeps_pure _ _
          | some sealed =>
              refine keeps_bind (fun w => h.write _ _) fun sent => ?_
              cases sent <;> exact keeps_pure _ _

theorem secureWrite_keeps (h : NetKeeps T target dataId I) (key : Key) (kid : UInt8)
    (plain : List UInt8) :
    Keeps (fun w => I w.net) (secureWrite gcm T target dataId key kid plain) := by
  refine keeps_ite (fun _ => keeps_pure _ _) fun _ => ?_
  refine keeps_ite (fun _ => keeps_pure _ _) fun _ => ?_
  refine keeps_bind (writeFlow_keeps h key kid plain) fun r => ?_
  cases r <;> exact keeps_pure _ _

/-- **A rung keeps** what the requests for C01Fh keep. -/
theorem installKeyRung_keeps (h : NetKeeps T target keySetDataId I) (targetSlot authSlot : UInt8) :
    Keeps (fun t => I t.net) (installKeyRung gcm T target targetSlot authSlot) := by
  refine keeps_bind (fun t ht => ht) fun _ => ?_
  refine keeps_bind (fun t ht => ht) fun keys => ?_
  refine keeps_ite (fun _ => keeps_pure _ _) fun _ => ?_
  refine keeps_bind (fun t ht => ht) fun _ => ?_
  refine keeps_bind (fun t ht => ht) fun _ => ?_
  refine keeps_ite (fun _ => keeps_pure _ _) fun _ => ?_
  exact fun t ht => secureWrite_keeps h _ _ _ ⟨t.net, []⟩ ht

/-- **And so does the ladder.** -/
theorem installLadder_keeps (h : NetKeeps T target keySetDataId I) :
    Keeps (fun t => I t.net) (installLadder gcm T target) := by
  refine keeps_bind (fun t ht => ht) fun _ => ?_
  refine keeps_bind (installKeyRung_keeps h _ _) fun rc => ?_
  refine keeps_bind (keeps_ite (fun _ => installKeyRung_keeps h _ _) fun _ => keeps_pure _ _)
    fun rc' => ?_
  exact keeps_bind (fun t ht => ht) fun _ => keeps_pure _ _

theorem installProvisioningByToken_keeps (h : NetKeeps T target keySetDataId I) (token : Key) :
    Keeps (fun t => I t.net) (installProvisioningByToken gcm T target token) := by
  refine keeps_bind (fun t ht => ht) fun _ => ?_
  refine keeps_bind (fun t ht => ht) fun _ => ?_
  refine keeps_bind (fun t ht => ht) fun keys => ?_
  split
  · exact keeps_bind (fun t ht => ht) fun _ => keeps_pure _ _
  · refine keeps_bind (fun t ht => ht) fun _ => ?_
    refine keeps_bind (installKeyRung_keeps h _ _) fun rc => ?_
    exact keeps_bind (fun t ht => ht) fun _ => keeps_pure _ _

/-- The steps of a flow keep what each of them keeps. -/
theorem inOrder_keeps {J : Tool N → Prop} {steps : List (ToolM N Nat)}
    (h : ∀ step ∈ steps, Keeps J step) : Keeps J (inOrder steps) := by
  induction steps with
  | nil => exact keeps_pure _ _
  | cons step rest ih =>
      refine keeps_bind (h step (by simp)) fun rc => ?_
      refine keeps_ite (fun _ => keeps_pure _ _) fun _ => ?_
      exact keeps_bind (ih fun s hs => h s (by simp [hs])) fun _ => keeps_pure _ _

end Keeps

end SofaKeyLadder
