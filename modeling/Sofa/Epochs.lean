import Sofa.Node

/-! # Ownership only moves forward

    A voucher hands the device to an owner, and a decommissioning takes it back.  The epoch
    of the last voucher survives both.  The headline, **`owner_epochs_increase`**: over any
    run the accepted vouchers have strictly increasing epochs, each is signed by the anchor
    over this device's serial, its owner and its epoch, and the owner installed is the one
    of the last, or none; a refused claim leaves the identity store as it is. -/

namespace SofaEpochs

open ByteBlock SofaConfig SofaAead SofaOd SofaServer SofaDemo SofaAsym SofaDevice SofaTurn SofaNode
  Machine

variable {E : Type} {gcm : Gcm} {ed : Ed25519} {plat : DevicePlatform E} {deviceId : UInt16}

/-! ## Accepted vouchers -/

/-- The vouchers accepted in a call log, in order. -/
def claims (calls : List Call) : List (List UInt8) :=
  calls.filterMap fun
    | .claim voucher true => some voucher
    | _ => none

/-- The vouchers accepted in a history, in order. -/
def accepted (history : List Visit) : List (List UInt8) := history.flatMap fun v => claims v.calls

theorem accepted_append (history : List Visit) (v : Visit) :
    accepted (history ++ [v]) = accepted history ++ claims v.calls := by
  simp [accepted]

/-- The transcript of a voucher for these three fields. -/
def claimTranscript (serial : Serial) (owner : Pubkey) (epoch : UInt32) : List UInt8 :=
  asymDomain ++ [0x00, asymSigAlg, roleVoucher]
    ++ (toList serial ++ toList owner ++ putU32le epoch)

/-- A voucher for this device, signed by its anchor over the serial, the owner and the
    epoch it carries. -/
structure Genuine (ed : Ed25519) (st : AsymStore) (voucher : List UInt8) : Prop where
  len : voucher.length = hoVoucherLen
  serial : voucherSerial voucher = st.serial
  signed : ed.verify st.anchor
    (claimTranscript st.serial (voucherOwner voucher) (voucherEpoch voucher))
    (voucherSig voucher) = true

/-- Storing a 32-bit number read from four bytes gives the bytes back. -/
theorem putU32le_le (a b c d : UInt8) :
    putU32le (a.toUInt32 ||| (b.toUInt32 <<< 8) ||| (c.toUInt32 <<< 16) ||| (d.toUInt32 <<< 24))
      = [a, b, c, d] := by
  have hhigh : ∀ (x : UInt8) (j : Nat), 8 ≤ j → x.toBitVec.getLsbD j = false :=
    fun x j hj => BitVec.getLsbD_of_ge _ _ hj
  simp only [putU32le, List.cons.injEq, and_true]
  refine ⟨?_, ?_, ?_, ?_⟩ <;> apply UInt8.eq_of_toBitVec_eq <;> ext i hi <;>
    simp [UInt32.toBitVec_or]
  · simp [show i < 32 by omega, show 8 + i < 32 by omega, show 8 + i < 16 by omega,
      show 8 + i < 24 by omega, BitVec.getLsbD_eq_getElem hi]
  · simp [hhigh a (16 + i) (by omega), hhigh b (16 + i - 8) (by omega), show 16 + i < 32 by omega,
      show 16 + i < 24 by omega, show i < 32 by omega, BitVec.getLsbD_eq_getElem hi]
  · simp [hhigh a (24 + i) (by omega), hhigh b (24 + i - 8) (by omega),
      hhigh c (24 + i - 16) (by omega), show 24 + i < 32 by omega,
      show i < 32 by omega, BitVec.getLsbD_eq_getElem hi]

/-- The body that is signed is made of the fields that are compared. -/
theorem voucherBody_eq {voucher : List UInt8} (hlen : voucher.length = hoVoucherLen) :
    voucherBody voucher = toList (voucherSerial voucher) ++ toList (voucherOwner voucher)
      ++ putU32le (voucherEpoch voucher) := by
  have hlen' : voucher.length = 108 := hlen
  have hepoch : putU32le (voucherEpoch voucher) = (voucher.drop 40).take 4 := by
    rw [voucherEpoch, putU32le_le]
    refine List.ext_getElem (by simp [hlen']) fun i h _ => ?_
    have hi : i < 4 := by simpa using h
    interval_cases i <;> simp [hlen']
  have hserial : toList (voucherSerial voucher) = (voucher.drop 0).take 8 :=
    toList_slice 8 0 voucher (by omega)
  have howner : toList (voucherOwner voucher) = (voucher.drop 8).take 32 :=
    toList_slice 32 8 voucher (by omega)
  have hsplit : voucher.take 44
      = voucher.take 8 ++ (voucher.drop 8).take 32 ++ (voucher.drop 40).take 4 := by
    rw [show (44 : Nat) = 8 + 32 + 4 from rfl, List.take_add, List.take_add]
  rw [hepoch, hserial, howner, List.drop_zero]
  exact hsplit

theorem voucherTranscript_eq {voucher : List UInt8} (hlen : voucher.length = hoVoucherLen) :
    voucherTranscript voucher
      = claimTranscript (voucherSerial voucher) (voucherOwner voucher) (voucherEpoch voucher) := by
  have hbody : (voucherBody voucher).length = asymSerialLen + asymPubkeySize + 4 := by
    rw [voucherBody, List.length_take, hlen]
    rfl
  rw [voucherTranscript, asymTranscript_of_fits (by rw [hbody]) (by decide), voucherBody_eq hlen]
  rfl

theorem Claimable.genuine {st : AsymStore} {voucher : List UInt8} (h : Claimable ed st voucher) :
    Genuine ed st voucher where
  len := h.len
  serial := h.serial
  signed := by
    rw [← h.serial, ← voucherTranscript_eq h.len]
    exact h.signed

/-! ## The law -/

/-- What holds of the vouchers accepted since the boot of `d`. -/
structure OwnerLaw (ed : Ed25519) (d : Device E) (n : Node E) : Prop where
  /-- The epochs increase strictly. -/
  increasing : (accepted n.history).Pairwise fun v w => voucherEpoch v < voucherEpoch w
  /-- Every one is a voucher of the anchor for this device. -/
  genuine : ∀ v ∈ accepted n.history, Genuine ed d.asym v
  /-- None is accepted twice. -/
  once : (accepted n.history).Nodup
  /-- The owner is the one of the last, or none. -/
  owner : ∀ pk ∈ n.device.asym.installedOwner,
    ∃ v, (accepted n.history).getLast? = some v ∧ voucherOwner v = pk

/-- A refused claim leaves the whole identity store. -/
def RefusalKeeps (gcm : Gcm) (ed : Ed25519) (plat : DevicePlatform E) (deviceId : UInt16)
    (n : Node E) : NodeInput E → Prop
  | .request client dataId req =>
      let w := serveRequest gcm ed plat deviceId n.device client dataId req
      ∀ v, .claim v false ∈ w.calls → w.device.asym = n.device.asym
  | .platform _ => True

/-! ## The invariant -/

/-- The retained epoch bounds every accepted one, and anchor and serial stay. -/
structure EpochInv (ed : Ed25519) (d : Device E) (n : Node E) : Prop extends OwnerLaw ed d n where
  bounded : ∀ v ∈ accepted n.history, voucherEpoch v ≤ n.device.asym.ownerEpoch
  anchor : n.device.asym.anchor = d.asym.anchor
  serial : n.device.asym.serial = d.asym.serial

/-- What the store keeps over a turn that accepts no voucher. -/
structure SameOwner (st st' : AsymStore) : Prop where
  owner : st'.installedOwner = none ∨ st'.installedOwner = st.installedOwner
  epoch : st'.ownerEpoch = st.ownerEpoch
  anchor : st'.anchor = st.anchor
  serial : st'.serial = st.serial

theorem SameOwner.refl (st : AsymStore) : SameOwner st st := ⟨.inr rfl, rfl, rfl, rfl⟩

theorem SameOwner.generateLdevid {st st' : AsymStore} {pub : Pubkey}
    (h : st.generateLdevid ed = some (st', pub)) : SameOwner st st' := by
  unfold AsymStore.generateLdevid at h
  split at h
  · cases h
  · cases h
    exact ⟨.inr rfl, rfl, rfl, rfl⟩

/-- A history without a newly accepted voucher keeps the invariant. -/
theorem EpochInv.silent {d : Device E} {n : Node E} (h : EpochInv ed d n) {device : Device E}
    {v : Visit} (hclaims : claims v.calls = [])
    (hsame : SameOwner n.device.asym device.asym) :
    EpochInv ed d ⟨device, n.history ++ [v]⟩ := by
  have hacc : accepted (n.history ++ [v]) = accepted n.history := by
    rw [accepted_append, hclaims, List.append_nil]
  refine ⟨⟨?_, ?_, ?_, ?_⟩, ?_, hsame.anchor.trans h.anchor, hsame.serial.trans h.serial⟩
  · rw [hacc]
    exact h.increasing
  · rw [hacc]
    exact h.genuine
  · rw [hacc]
    exact h.once
  · rintro pk hpk
    rw [hacc]
    rcases hsame.owner with hnone | hkept
    · rw [hnone] at hpk
      cases hpk
    · rw [hkept] at hpk
      exact h.owner pk hpk
  · rw [hacc, hsame.epoch]
    exact h.bounded

/-- An accepted voucher keeps it: its epoch is above the retained one. -/
theorem EpochInv.claimed {d : Device E} {n : Node E} (h : EpochInv ed d n) {device : Device E}
    {asym : AsymStore} {v : Visit} {voucher : List UInt8} (hclaims : claims v.calls = [voucher])
    (hclaim : n.device.asym.claim ed voucher = some asym) (hdev : device.asym = asym) :
    EpochInv ed d ⟨device, n.history ++ [v]⟩ := by
  obtain ⟨hc, rfl⟩ := claim_iff.mp hclaim
  have hacc : accepted (n.history ++ [v]) = accepted n.history ++ [voucher] := by
    rw [accepted_append, hclaims]
  have hlater : ∀ w ∈ accepted n.history, voucherEpoch w < voucherEpoch voucher :=
    fun w hw => UInt32.lt_of_le_of_lt (h.bounded w hw) hc.fresh
  refine ⟨⟨?_, ?_, ?_, ?_⟩, ?_, ?_, ?_⟩
  · rw [hacc]
    refine List.pairwise_append.mpr ⟨h.increasing, List.pairwise_singleton _ _, ?_⟩
    intro w hw u hu
    obtain rfl := List.mem_singleton.mp hu
    exact hlater w hw
  · rw [hacc]
    intro w hw
    rcases List.mem_append.mp hw with hw | hw
    · exact h.genuine w hw
    · obtain rfl := List.mem_singleton.mp hw
      have hg := Claimable.genuine hc
      exact ⟨hg.len, hg.serial.trans h.serial, h.anchor ▸ h.serial ▸ hg.signed⟩
  · rw [hacc, List.nodup_append]
    refine ⟨h.once, List.nodup_singleton _, ?_⟩
    rintro w hw u hu rfl
    obtain rfl := List.mem_singleton.mp hu
    exact UInt32.lt_irrefl _ (hlater w hw)
  · intro pk hpk
    rw [hacc, List.getLast?_concat]
    refine ⟨voucher, rfl, ?_⟩
    rw [hdev] at hpk
    exact Option.some.inj hpk
  · rw [hacc, hdev]
    intro w hw
    rcases List.mem_append.mp hw with hw | hw
    · exact UInt32.le_of_lt (hlater w hw)
    · obtain rfl := List.mem_singleton.mp hw
      exact UInt32.le_refl _
  · rw [hdev]
    exact h.anchor
  · rw [hdev]
    exact h.serial

/-- **One turn keeps it.** -/
theorem epochInv_turn {d : Device E} {n : Node E} {client : UInt16} {dataId : UInt32}
    {req : List UInt8} {sent : List Reply} {calls : List Call} {device : Device E}
    (h : EpochInv ed d n)
    (hturn : Turn gcm ed plat deviceId client dataId req n.device sent calls device) :
    EpochInv ed d ⟨device, n.history ++ [⟨client, dataId, req, sent, calls⟩]⟩ := by
  have hrefl := SameOwner.refl n.device.asym
  cases hturn with
  | answered => exact h.silent rfl hrefl
  | identity object => exact h.silent rfl hrefl
  | exported object generated => exact h.silent rfl (.generateLdevid generated)
  | provisioned object installed =>
      obtain ⟨-, key, rfl⟩ := installProvisioning_cases installed
      exact h.silent rfl ⟨.inr rfl, rfl, rfl, rfl⟩
  | claimRefused object refused => exact h.silent rfl hrefl
  | claimed object accepted => exact h.claimed rfl accepted rfl
  | armed object drawn => exact h.silent rfl hrefl
  | armFailed => exact h.silent rfl hrefl
  | readRefused object held hook => exact h.silent rfl hrefl
  | readSigned object held len short hook => exact h.silent rfl hrefl
  | noPeer held peer => exact h.silent rfl hrefl
  | forged attempt bad => exact h.silent rfl hrefl
  | written object attempt good hook => exact h.silent rfl hrefl
  | commanded object attempt good code => exact h.silent rfl hrefl
  | decommissioned object attempt good code => exact h.silent rfl ⟨.inl rfl, rfl, rfl, rfl⟩
  | secured => exact h.silent rfl hrefl

/-- A refused claim is a turn that leaves the store. -/
theorem refusalKeeps_step (n : Node E) (a : NodeInput E) :
    RefusalKeeps gcm ed plat deviceId n a := by
  cases a with
  | platform env => trivial
  | request client dataId req =>
      intro v hv
      have hturn : Turn gcm ed plat deviceId client dataId req n.device _ _ _ :=
        dispatchRequest_turn
      generalize hw : serveRequest gcm ed plat deviceId n.device client dataId req = w at hv ⊢
      rw [serveRequest] at hw
      rw [hw] at hturn
      obtain ⟨device, sent, calls⟩ := w
      cases hturn <;> simp at hv ⊢

/-! ## The headline -/

/-- **Ownership only moves forward**, in every run from every start configuration. -/
theorem owner_epochs_increase (gcm : Gcm) (ed : Ed25519) (plat : DevicePlatform E)
    (deviceId : UInt16) (cfg : BootConfig) (env : E) (d : Device E)
    (hstart : odInit ed cfg env = some d) (inputs : List (NodeInput E)) :
    OwnerLaw ed d (nodeAfter gcm ed plat deviceId d inputs) ∧
      Along (nodeStep gcm ed plat deviceId) (RefusalKeeps gcm ed plat deviceId) ⟨d, []⟩ inputs := by
  have hboot : EpochInv ed d ⟨d, []⟩ := by
    obtain ⟨constOd, registry, keys, -, -, -, rfl⟩ := odInit_cases hstart
    refine ⟨⟨.nil, by simp [accepted], .nil, ?_⟩, by simp [accepted], rfl, rfl⟩
    intro pk hpk
    cases hpk
  have hrun : EpochInv ed d (nodeAfter gcm ed plat deviceId d inputs) := by
    refine run_induction (P := fun _ _ => True) (node_invariant (C := fun _ _ => True) ?_ ?_) hboot
      (along_of_forall (fun _ _ => trivial) _ _)
    · intro n client dataId req sent calls device h _ hturn
      exact epochInv_turn h hturn
    · intro n env h
      exact ⟨⟨h.increasing, h.genuine, h.once, h.owner⟩, h.bounded, h.anchor, h.serial⟩
  exact ⟨hrun.toOwnerLaw, along_of_forall (fun n a => refusalKeeps_step n a) _ _⟩

/-! ## A worked run -/

/-- A voucher of the demo manufacturer for the demo device. -/
def sampleVoucher (epoch : UInt32) : List UInt8 :=
  let owner := (sampleEd.keygen integratorSeed).pub
  toList demoSerial ++ toList owner ++ putU32le epoch
    ++ toList (sampleEd.sign (sampleEd.keygen mfgSeed) (claimTranscript demoSerial owner epoch))

/-- The device is claimed, decommissioned, claimed again by a later voucher, and offered
    the first voucher once more. -/
def sampleReclaimed : List (NodeInput SampleEnv) :=
  [.request 20 hoVoucherId (sampleVoucher 5), .request 20 rpkFunccmdId [],
    .request 20 rpkFunccmdId (sampleCommand 20 (sampleNonce 1) cmdFactoryRestore),
    .request 20 hoVoucherId (sampleVoucher 9), .request 20 hoVoucherId (sampleVoucher 5)]

/-- The demo device, without keys. -/
def sampleBare : Device SampleEnv :=
  (odInit sampleEd {} { nonces := [sampleNonce 1] }).get (by decide +kernel)

/-- `owner_epochs_increase` on that run, in which two vouchers are accepted. -/
theorem sampleReclaimed_increases :
    let n := nodeAfter sampleGcm sampleEd samplePlatform sampleNodeId sampleBare sampleReclaimed
    (accepted n.history).map voucherEpoch = [5, 9] ∧ OwnerLaw sampleEd sampleBare n :=
  ⟨by decide +kernel,
    (owner_epochs_increase _ _ _ _ {} { nonces := [sampleNonce 1] } sampleBare
      (Option.some_get _).symm sampleReclaimed).1⟩

end SofaEpochs
