import Sofa.DeviceLink
import Sofa.Transcripts

/-! # Claiming a device again

    `fbsec_commission_present_voucher` reads the owner epoch of the device, mints a voucher
    for the next one and writes it.  The epoch has 32 bits on both sides: the tool adds one
    with wrap-around, the device wants a strictly larger one.

    * `minted_claimable`: the voucher minted for a larger epoch is accepted;
    * **`recommission`**: after every run an uncommissioned device takes the voucher of the
      tool, unless its epoch is the last one.

    `last_epoch_refused` is a device that holds the last epoch, and one whose od-file has an
    entry where the voucher goes. -/

namespace SofaRecommission

open ByteBlock SofaConfig SofaAead SofaOd SofaClient SofaAsym SofaDemo SofaDevice SofaNode SofaEpochs
  SofaServer SofaLifecycle SofaHandover SofaTranscripts SofaChannel SofaLink StateWp Machine

variable {E C : Type} {gcm : Gcm} {ed : Ed25519} {plat : DevicePlatform E} {deviceId : UInt16}

/-! ## The voucher -/

/-- The last epoch there is. -/
abbrev lastEpoch : UInt32 := 0xFFFFFFFF

/-- An epoch comes back from the four bytes it is stored in. -/
theorem answeredEpoch_put (epoch : UInt32) : answeredEpoch (putU32le epoch) = epoch := by
  apply putU32le_inj
  exact putU32le_le _ _ _ _

/-- The next epoch is larger, unless it wraps. -/
theorem epoch_lt_next {epoch : UInt32} : epoch < epoch + 1 ↔ epoch ≠ lastEpoch := by
  have hlt := epoch.toNat_lt
  rw [UInt32.lt_iff_toNat_lt, UInt32.toNat_add, ne_eq, ← UInt32.toNat_inj]
  show epoch.toNat < (epoch.toNat + 1) % 2 ^ 32 ↔ ¬ epoch.toNat = 4294967295
  omega

/-- The fields of a minted voucher. -/
structure Minted (ed : Ed25519) (epoch : UInt32) (voucher : List UInt8) : Prop where
  len : voucher.length = hoVoucherLen
  serial : voucherSerial voucher = demoSerial
  owner : voucherOwner voucher = (clientIntegrator ed).pub
  number : voucherEpoch voucher = epoch
  sig : voucherSig voucher = ed.sign (clientManufacturer ed)
    (claimTranscript demoSerial (clientIntegrator ed).pub epoch)

theorem minted (ed : Ed25519) (epoch : UInt32) : Minted ed epoch (mintedVoucher ed epoch) := by
  have hlen := mintedVoucher_length ed epoch
  let front := toList demoSerial ++ toList (clientIntegrator ed).pub ++ putU32le epoch
  have hfront : front.length = 44 := by
    simp only [front, List.length_append, length_toList]
    rfl
  have hsplit : mintedVoucher ed epoch = front
      ++ toList (ed.sign (clientManufacturer ed) (claimTranscript demoSerial
        (clientIntegrator ed).pub epoch)) := rfl
  -- both are the first 44 bytes
  have hbody : voucherBody (mintedVoucher ed epoch) = front := by
    rw [hsplit]
    exact List.take_left' hfront
  rw [voucherBody_eq hlen] at hbody
  obtain ⟨hhead, hepoch⟩ := List.append_inj' hbody (by simp [putU32le])
  obtain ⟨hserial, howner⟩ := List.append_inj hhead (by simp)
  refine ⟨hlen, toList_injective hserial, toList_injective howner, putU32le_inj hepoch, ?_⟩
  have hslice := slice_append_right 64 front (toList (ed.sign (clientManufacturer ed)
    (claimTranscript demoSerial (clientIntegrator ed).pub epoch))) 0
  rw [hfront, slice_toList] at hslice
  rw [hsplit]
  exact hslice

/-- **A minted voucher is claimable** on an enrolled device that is open for a claim, exactly
    when its epoch is larger. -/
theorem minted_claimable (correct : Ed25519Correct ed) {st : AsymStore} (h : Enrolled ed st)
    (hopen : st.uncommissioned = true) {epoch : UInt32} :
    Claimable ed st (mintedVoucher ed epoch) ↔ st.ownerEpoch < epoch := by
  have hm := minted ed epoch
  constructor
  · intro hclaim
    rw [← hm.number]
    exact hclaim.fresh
  · intro hfresh
    refine ⟨hm.len, h.ready, ?_, hm.serial.trans h.serial.symm, hopen, by rw [hm.number]; exact hfresh⟩
    rw [voucherTranscript_eq hm.len, hm.serial, hm.owner, hm.number, hm.sig, h.anchor]
    exact correct mfgSeed _

/-- A minted voucher for an epoch that is not larger is refused. -/
theorem minted_refused (correct : Ed25519Correct ed) {st : AsymStore} (h : Enrolled ed st)
    (hopen : st.uncommissioned = true) {epoch : UInt32} (hold : ¬ st.ownerEpoch < epoch) :
    st.claim ed (mintedVoucher ed epoch) = none := by
  cases hclaim : st.claim ed (mintedVoucher ed epoch) with
  | none => rfl
  | some asym =>
      exact absurd ((minted_claimable correct h hopen).mp (claim_iff.mp hclaim).1) hold

/-! ## The two exchanges -/

section Exchanges

variable {d : Device E} {clientId target : UInt16} {random : C → Option Rand × C}
  {challenge : C → Option RpkNonce × C} {ch : Channel C (Device E)}

/-- The store of a device that a voucher of this epoch has claimed. -/
def claimedBy (ed : Ed25519) (st : AsymStore) (epoch : UInt32) : AsymStore :=
  { st with
    owner := (clientIntegrator ed).pub
    ownerSet := true
    ownerEpoch := epoch
    uncommissioned := false }

/-- The transport that the tool runs over. -/
abbrev deviceTransport (gcm : Gcm) (ed : Ed25519) (plat : DevicePlatform E)
    (deviceId clientId : UInt16) (random : C → Option Rand × C)
    (challenge : C → Option RpkNonce × C) : HandoverTransport (Channel C (Device E)) :=
  linkTransport (deviceService gcm ed plat deviceId) clientId random challenge

/-- The epoch is read back as it is. -/
theorem epoch_answered (hlossless : ch.Lossless) (hconst : Unshadowed ch.server hoEpochId) :
    (deviceTransport gcm ed plat deviceId clientId random challenge).read target hoEpochId [] 4 ch
      = (.ok (putU32le ch.server.asym.ownerEpoch), ⟨ch.client, ch.server, ch.fates.tail⟩) :=
  read_delivered (Channel.fate_lossless hlossless) (deviceService_ok (serve_epoch hconst)) (by
    show 4 ≤ 4
    exact Nat.le_refl 4)

/-- A voucher for a larger epoch is taken. -/
theorem voucher_taken (correct : Ed25519Correct ed) (h : Enrolled ed ch.server.asym)
    (hopen : ch.server.asym.uncommissioned = true) (hlossless : ch.Lossless)
    (hconst : Unshadowed ch.server hoVoucherId) {epoch : UInt32}
    (hfresh : ch.server.asym.ownerEpoch < epoch) :
    ch.server.asym.claim ed (mintedVoucher ed epoch) = some (claimedBy ed ch.server.asym epoch) ∧
      (deviceTransport gcm ed plat deviceId clientId random challenge).write target hoVoucherId
          (mintedVoucher ed epoch) ch
        = (.ok (), ⟨ch.client, ({ ch.server with
            asym := claimedBy ed ch.server.asym epoch } : Device E).setStage .owned,
            ch.fates.tail⟩) := by
  have hm := minted ed epoch
  have hclaim : ch.server.asym.claim ed (mintedVoucher ed epoch)
      = some (claimedBy ed ch.server.asym epoch) := by
    refine claim_iff.mpr ⟨(minted_claimable correct h hopen).mpr hfresh, ?_⟩
    rw [hm.owner, hm.number]
    rfl
  exact ⟨hclaim, write_delivered (Channel.fate_lossless hlossless)
    (deviceService_ok (serve_voucher hconst hclaim))⟩

/-- And one for an epoch that is not larger is refused. -/
theorem voucher_refused (correct : Ed25519Correct ed) (h : Enrolled ed ch.server.asym)
    (hopen : ch.server.asym.uncommissioned = true) (hlossless : ch.Lossless)
    (hconst : Unshadowed ch.server hoVoucherId) {epoch : UInt32}
    (hold : ¬ ch.server.asym.ownerEpoch < epoch) :
    (deviceTransport gcm ed plat deviceId clientId random challenge).write target hoVoucherId
        (mintedVoucher ed epoch) ch
      = (.error (.abort abortVoucher), ⟨ch.client, ch.server, ch.fates.tail⟩) := by
  have hserved : deviceService gcm ed plat deviceId clientId hoVoucherId (mintedVoucher ed epoch)
      ch.server = (.error abortVoucher, ch.server) :=
    deviceService_abort (by decide)
      (serve_refusedVoucher hconst (minted_refused correct h hopen hold))
  exact write_aborted (Channel.fate_lossless hlossless) hserved

end Exchanges

/-! ## The headline -/

/-- The call returned 0; the device accepted the voucher that was written, its epoch is
    larger, and the integrator owns it. -/
structure Recommissioned (ed : Ed25519) (target : UInt16)
    (w : HandoverWorld (Channel C (Device E))) (rc : Nat)
    (w' : HandoverWorld (Channel C (Device E))) : Prop where
  success : rc = 0
  accepted : ∃ answer voucher, w'.log = w.log
      ++ [.read target hoEpochId [] answer, .write target hoVoucherId voucher (.ok ())] ∧
    w.net.server.asym.claim ed voucher = some w'.net.server.asym
  larger : w.net.server.asym.ownerEpoch < w'.net.server.asym.ownerEpoch
  owner : w'.net.server.asym.installedOwner = some (clientIntegrator ed).pub

/-- **A genuine tool can claim the device again.**  After every run of a device whose od-file
    has no entry at C020h:01h and C020h:02h, whenever it is uncommissioned: below the last
    epoch the voucher is accepted, and at the last epoch, which no epoch follows, it is
    refused and the device stays as it is. -/
theorem recommission (gcm : Gcm) (ed : Ed25519) (plat : DevicePlatform E) (deviceId : UInt16)
    (correct : Ed25519Correct ed) (cfg : BootConfig) (env : E) (d : Device E)
    (hstart : odInit ed cfg env = some d) (hepoch : Unshadowed d hoEpochId)
    (hvoucher : Unshadowed d hoVoucherId) (inputs : List (NodeInput E)) (clientId : UInt16)
    (random : C → Option Rand × C) (challenge : C → Option RpkNonce × C) (target : UInt16)
    (w : HandoverWorld (Channel C (Device E)))
    (hhere : w.net.server = (nodeAfter gcm ed plat deviceId d inputs).device)
    (hlossless : w.net.Lossless) (hopen : Uncommissioned w.net.server) :
    let out := presentVoucher ed
      (deviceTransport gcm ed plat deviceId clientId random challenge) target none w
    (w.net.server.asym.ownerEpoch ≠ lastEpoch → Recommissioned ed target w out.1 out.2) ∧
      (w.net.server.asym.ownerEpoch = lastEpoch →
        out.1 = 2 ∧ out.2.net.server = w.net.server) := by
  have henrolled : Enrolled ed w.net.server.asym := hhere ▸ enrolled_run hstart inputs
  have hclaimable : w.net.server.asym.uncommissioned = true :=
    hopen.claimable (hhere ▸ unclaimed_run hstart inputs)
  have hseenEpoch : Unshadowed w.net.server hoEpochId := hhere ▸ unshadowed_run hepoch inputs
  have hseenVoucher : Unshadowed w.net.server hoVoucherId :=
    hhere ▸ unshadowed_run hvoucher inputs
  obtain ⟨ch, log⟩ := w
  have hread : (deviceTransport gcm ed plat deviceId clientId random challenge).read target
      hoEpochId [] 4 ch = (.ok (putU32le ch.server.asym.ownerEpoch),
        ⟨ch.client, ch.server, ch.fates.tail⟩) := epoch_answered hlossless hseenEpoch
  have htail : Channel.Lossless ⟨ch.client, ch.server, ch.fates.tail⟩ :=
    Channel.lossless_tail hlossless
  have hanswer : epochAnswer (.ok (putU32le ch.server.asym.ownerEpoch))
      = some ch.server.asym.ownerEpoch := by
    show some (answeredEpoch (putU32le ch.server.asym.ownerEpoch)) = _
    rw [answeredEpoch_put]
  show wp (presentVoucher ed (deviceTransport gcm ed plat deviceId clientId random challenge)
    target none) (fun rc w' =>
      (ch.server.asym.ownerEpoch ≠ lastEpoch → Recommissioned ed target ⟨ch, log⟩ rc w') ∧
      (ch.server.asym.ownerEpoch = lastEpoch → rc = 2 ∧ w'.net.server = ch.server)) ⟨ch, log⟩
  unfold presentVoucher
  simp only [wp_bind, wp_readOwnerEpoch, buildVoucherEpoch_eq, hread, hanswer, nextEpoch]
  rw [wp_presentVoucherBytes (mintedVoucher_length _ _)]
  by_cases hlast : ch.server.asym.ownerEpoch = lastEpoch
  · have hold : ¬ ch.server.asym.ownerEpoch < ch.server.asym.ownerEpoch + 1 :=
      fun h => epoch_lt_next.mp h hlast
    have hwrite := @voucher_refused E C gcm ed plat deviceId clientId target random challenge
      ⟨ch.client, ch.server, ch.fates.tail⟩ correct henrolled hclaimable htail hseenVoucher _ hold
    rw [hwrite]
    exact ⟨fun h => absurd hlast h, fun _ => ⟨rfl, rfl⟩⟩
  · have hfresh := epoch_lt_next.mpr hlast
    obtain ⟨hclaim, hwrite⟩ := @voucher_taken E C gcm ed plat deviceId clientId target random
      challenge ⟨ch.client, ch.server, ch.fates.tail⟩ correct henrolled hclaimable htail
      hseenVoucher _ hfresh
    rw [hwrite]
    refine ⟨fun _ => ⟨rfl, ⟨_, _, List.append_assoc _ _ _, hclaim⟩, hfresh, rfl⟩,
      fun h => absurd h hlast⟩

/-! ## Worked runs -/

/-- Claimed with this epoch, and reset to the factory state. -/
def sampleReset (epoch : UInt32) : List (NodeInput SampleEnv) :=
  [.request 20 hoVoucherId (sampleVoucher epoch), .request 20 rpkFunccmdId [],
    .request 20 rpkFunccmdId (sampleCommand 20 (sampleNonce 1) cmdFactoryRestore)]

/-- The tool at the other end of that device, which draws nothing. -/
def sampleBench (d : Device SampleEnv) : HandoverWorld (Channel Unit (Device SampleEnv)) :=
  ⟨⟨(), d, []⟩, []⟩

/-- The bare demo device after such a run. -/
def sampleWaiting (epoch : UInt32) : Device SampleEnv :=
  (nodeAfter sampleGcm sampleEd samplePlatform sampleNodeId sampleBare (sampleReset epoch)).device

/-- The transport between them. -/
def sampleLine : HandoverTransport (Channel Unit (Device SampleEnv)) :=
  deviceTransport sampleGcm sampleEd samplePlatform sampleNodeId 20 (fun c => (none, c))
    fun c => (none, c)

theorem sampleBare_unshadowed :
    Unshadowed sampleBare hoEpochId ∧ Unshadowed sampleBare hoVoucherId := by
  unfold Unshadowed
  decide +kernel

theorem sampleWaiting_open : (sampleWaiting 5).asym.uncommissioned = true ∧
    (sampleWaiting 5).asym.ownerEpoch ≠ lastEpoch := by
  decide +kernel

theorem sampleBench_lossless (d : Device SampleEnv) : (sampleBench d).net.Lossless := by
  intro f hf
  exact nomatch hf

theorem sampleBench_server (d : Device SampleEnv) : (sampleBench d).net.server = d := rfl

/-- `recommission` on a device that was claimed with epoch 5. -/
theorem sampleWaiting_recommissioned :
    Recommissioned sampleEd sampleNodeId (sampleBench (sampleWaiting 5))
      (presentVoucher sampleEd sampleLine sampleNodeId none (sampleBench (sampleWaiting 5))).1
      (presentVoucher sampleEd sampleLine sampleNodeId none (sampleBench (sampleWaiting 5))).2 := by
  have hstart : odInit sampleEd {} { nonces := [sampleNonce 1] } = some sampleBare :=
    (Option.some_get _).symm
  have hhere : (sampleBench (sampleWaiting 5)).net.server = (nodeAfter sampleGcm sampleEd
    samplePlatform sampleNodeId sampleBare (sampleReset 5)).device :=
    sampleBench_server _
  have hopen : Uncommissioned (sampleBench (sampleWaiting 5)).net.server := by
    rw [sampleBench_server]
    exact .inr sampleWaiting_open.1
  have h := recommission sampleGcm sampleEd samplePlatform sampleNodeId sampleEd_correct {}
    { nonces := [sampleNonce 1] } sampleBare hstart sampleBare_unshadowed.1
    sampleBare_unshadowed.2 (sampleReset 5) 20 (fun c : Unit => (none, c)) (fun c => (none, c))
    sampleNodeId (sampleBench (sampleWaiting 5)) hhere (sampleBench_lossless _) hopen
  rw [sampleBench_server] at h
  exact h.1 sampleWaiting_open.2

/-- The demo device with a constant entry at C020h:02h. -/
def sampleShadowed : Device SampleEnv :=
  (odInit sampleEd { odFile := some [⟨0xC020, 0x02, [0]⟩] } {}).get (by decide +kernel)

/-- **No voucher is accepted** on a device that was claimed with the last epoch and reset, nor
    on one whose od-file has an entry for the voucher object. -/
theorem last_epoch_refused :
    ((sampleWaiting lastEpoch).asym.uncommissioned = true ∧
      (presentVoucher sampleEd sampleLine sampleNodeId none
        (sampleBench (sampleWaiting lastEpoch))).1 = 2) ∧
    (sampleShadowed.asym.uncommissioned = true ∧
      (presentVoucher sampleEd sampleLine sampleNodeId none (sampleBench sampleShadowed)).1 = 2) := by
  decide +kernel

end SofaRecommission
