import Sofa.Lib.Block
import Sofa.Config

/-! # The device's identity store

    `fbsec_asym.c` and `server_common_asym.c`: the transcripts that signatures are made
    over, and the device's store of keys, owner and peers with the operations that change
    it.  The Ed25519 primitive is a parameter.

    * `asymTranscript_injective`: equal transcripts have equal roles and equal bodies;
    * **`claim_iff`**, **`install_iff`**: exactly when a voucher and an install are accepted,
      and what they change. -/

namespace SofaAsym

open ByteBlock SofaConfig

/-! ## Sizes and identifiers (fbsec_asym.h) -/

abbrev asymPubkeySize : Nat := 32
abbrev asymSigSize : Nat := 64
abbrev asymSeedSize : Nat := 32
abbrev asymSerialLen : Nat := 8
abbrev asymIdentityBlobLen : Nat := asymSerialLen + asymPubkeySize

abbrev Pubkey := Block 32
abbrev Signature := Block 64
abbrev Seed := Block 32
abbrev Serial := Block 8

/-- `FBSEC_ASYM_DOMAIN`: "CiA-720-V0.0". -/
def asymDomain : List UInt8 :=
  [0x43, 0x69, 0x41, 0x2D, 0x37, 0x32, 0x30, 0x2D, 0x56, 0x30, 0x2E, 0x30]
/-- `FBSEC_ASYM_SIG_ALG_ED25519`. -/
abbrev asymSigAlg : UInt8 := 0x30
abbrev asymTranscriptOverhead : Nat := 12 + 3

/-- The role registry. -/
abbrev roleIdentityRead : UInt8 := 0x01
abbrev rolePkinstallAck : UInt8 := 0x02
abbrev roleLdevidExport : UInt8 := 0x03
abbrev roleGenericWrite : UInt8 := 0x04
abbrev roleGenericRead : UInt8 := 0x05
abbrev roleVoucher : UInt8 := 0x06
abbrev roleIdevidCert : UInt8 := 0x07
abbrev roleFunctionCmd : UInt8 := 0x09

/-- `FBSEC_HO_VOUCHER_LEN`: serial, integrator key, epoch, signature. -/
abbrev hoVoucherLen : Nat := asymSerialLen + asymPubkeySize + 4 + asymSigSize
/-- `FBSEC_HO_PROVISION_LEN`: key and signature. -/
abbrev hoProvisionLen : Nat := aeadKeySize + asymSigSize
/-- `FBSEC_SERVER_ASYM_PEER_SLOTS`. -/
abbrev asymPeerSlots : UInt8 := sodKeySlots

/-! ## The primitive -/

/-- `fbsec_keypair_t`. -/
structure Keypair where
  priv : Block 64
  pub : Pubkey

/-- Ed25519, as `fbsec_asym_keygen`, `fbsec_asym_sign` and `fbsec_asym_verify` call it. -/
structure Ed25519 where
  keygen : Seed → Keypair
  sign : Keypair → List UInt8 → Signature
  verify : Pubkey → List UInt8 → Signature → Bool

/-! ## Transcripts -/

/-- `fbsec_asym_transcript`: the bytes a caller gets for the length returned, none for 0.
    The length is computed in 16 bits. -/
def asymTranscript (role : UInt8) (body : List UInt8) (outMax : Nat) : List UInt8 :=
  let total := (asymTranscriptOverhead + body.length) % 2 ^ 16
  if outMax < total then []
  else (asymDomain ++ [0x00, asymSigAlg, role] ++ body).take total

/-- A transcript that fits its buffer. -/
theorem asymTranscript_of_fits {role : UInt8} {body : List UInt8} {outMax : Nat}
    (hfits : asymTranscriptOverhead + body.length ≤ outMax) (hmax : outMax < 2 ^ 16) :
    asymTranscript role body outMax = asymDomain ++ [0x00, asymSigAlg, role] ++ body := by
  have hoverhead : (asymDomain ++ [0x00, asymSigAlg, role]).length = asymTranscriptOverhead := rfl
  unfold asymTranscript
  rw [Nat.mod_eq_of_lt (by omega), if_neg (by omega), List.take_of_length_le]
  rw [List.length_append, hoverhead]

/-- Transcripts of different roles or bodies differ. -/
theorem asymTranscript_injective {role role' : UInt8} {body body' : List UInt8}
    {outMax outMax' : Nat} (hfits : asymTranscriptOverhead + body.length ≤ outMax)
    (hfits' : asymTranscriptOverhead + body'.length ≤ outMax') (hmax : outMax < 2 ^ 16)
    (hmax' : outMax' < 2 ^ 16)
    (h : asymTranscript role body outMax = asymTranscript role' body' outMax') :
    role = role' ∧ body = body' := by
  rw [asymTranscript_of_fits hfits hmax, asymTranscript_of_fits hfits' hmax'] at h
  simpa [asymDomain] using h

/-! ## The store -/

/-- `server_asym_store_t`.  The peer table is indexed by slot, and only the slots
    1..`asymPeerSlots` are ever filled. -/
structure AsymStore where
  idevid : Keypair
  idevidCert : Signature
  ldevid : Keypair
  ldevidPresent : Bool
  anchor : Pubkey
  owner : Pubkey
  ownerSet : Bool
  ownerEpoch : UInt32
  uncommissioned : Bool
  serial : Serial
  provisioningKey : Block 16
  provisioningSet : Bool
  peer : UInt8 → Option Pubkey
  ready : Bool

/-- The seeds of the demo (fbsec_asym_demo.h). -/
def demoSeed (first : Nat) : Seed := fun i => UInt8.ofNat (first + i.val)

def mfgSeed : Seed := demoSeed 0x10
def idevidSeed : Seed := demoSeed 0x30
def integratorSeed : Seed := demoSeed 0x50
def ldevidSeed : Seed := demoSeed 0x70

/-- `FBSEC_DEMO_DEVICE_SERIAL_BYTES`: "SOFA" 0 0 0 1. -/
def demoSerial : Serial := ![0x53, 0x4F, 0x46, 0x41, 0x00, 0x00, 0x00, 0x01]
/-- `FBSEC_DEMO_OWNER_EPOCH_START`. -/
abbrev ownerEpochStart : UInt32 := 1

/-- `build_identity_blob`. -/
def identityBlob (serial : Serial) (pub : Pubkey) : List UInt8 := toList serial ++ toList pub

/-- The all-zero keypair of a cleared store. -/
def noKeypair : Keypair := ⟨zero 64, zero 32⟩

/-- `fbsec_server_asym_init`. -/
def asymInit (ed : Ed25519) : AsymStore :=
  let idevid := ed.keygen idevidSeed
  let mfg := ed.keygen mfgSeed
  let transcript := asymTranscript roleIdevidCert (identityBlob demoSerial idevid.pub)
    (asymTranscriptOverhead + asymIdentityBlobLen)
  { idevid := idevid
    idevidCert := ed.sign mfg transcript
    ldevid := noKeypair
    ldevidPresent := false
    anchor := mfg.pub
    owner := zero 32
    ownerSet := false
    ownerEpoch := ownerEpochStart
    uncommissioned := true
    serial := demoSerial
    provisioningKey := zero 16
    provisioningSet := false
    peer := fun _ => none
    ready := true }

namespace AsymStore

variable (st : AsymStore)

/-- `fbsec_server_asym_owner`: `none` for NULL. -/
def installedOwner : Option Pubkey := if st.ownerSet then some st.owner else none

/-- `fbsec_server_asym_provisioning_key`. -/
def installedProvisioningKey : Option (Block 16) :=
  if st.provisioningSet then some st.provisioningKey else none

/-- `fbsec_server_asym_generate_ldevid`: the store and the new public key. -/
def generateLdevid (ed : Ed25519) : Option (AsymStore × Pubkey) :=
  if !st.ready then none
  else
    let ldevid := ed.keygen ldevidSeed
    some ({ st with ldevid := ldevid, ldevidPresent := true }, ldevid.pub)

/-- `fbsec_server_asym_set_peer`; a refused slot leaves the store. -/
def setPeer (slot : UInt8) (pk : Pubkey) : AsymStore :=
  if slot = 0 ∨ slot > asymPeerSlots then st
  else { st with peer := Function.update st.peer slot (some pk) }

/-- `fbsec_server_asym_get_peer`. -/
def getPeer (slot : UInt8) : Option Pubkey :=
  if slot = 0 ∨ slot > asymPeerSlots then none else st.peer slot

end AsymStore

/-! ## Vouchers -/

/-- The fields of a voucher: serial, integrator key, epoch, signature. -/
def voucherSerial (voucher : List UInt8) : Serial := slice 8 0 voucher
def voucherOwner (voucher : List UInt8) : Pubkey := slice 32 asymSerialLen voucher
/-- The epoch, least significant byte first. -/
def voucherEpoch (voucher : List UInt8) : UInt32 :=
  (voucher.getD 40 0).toUInt32 ||| ((voucher.getD 41 0).toUInt32 <<< 8)
    ||| ((voucher.getD 42 0).toUInt32 <<< 16) ||| ((voucher.getD 43 0).toUInt32 <<< 24)
/-- The signed body: all fields but the signature. -/
def voucherBody (voucher : List UInt8) : List UInt8 :=
  voucher.take (asymSerialLen + asymPubkeySize + 4)
def voucherSig (voucher : List UInt8) : Signature :=
  slice 64 (asymSerialLen + asymPubkeySize + 4) voucher

/-- The transcript the anchor signs for a voucher. -/
def voucherTranscript (voucher : List UInt8) : List UInt8 :=
  asymTranscript roleVoucher (voucherBody voucher)
    (asymTranscriptOverhead + (asymSerialLen + asymPubkeySize + 4))

/-- `fbsec_server_asym_claim`; `none` is a refused claim. -/
def AsymStore.claim (ed : Ed25519) (st : AsymStore) (voucher : List UInt8) :
    Option AsymStore :=
  if voucher.length ≠ hoVoucherLen ∨ st.ready = false then none
  else if voucherTranscript voucher = [] ∨
      ed.verify st.anchor (voucherTranscript voucher) (voucherSig voucher) = false then none
  else if voucherSerial voucher ≠ st.serial ∨ st.uncommissioned = false ∨
      voucherEpoch voucher ≤ st.ownerEpoch then none
  else some
    { st with
      owner := voucherOwner voucher
      ownerSet := true
      ownerEpoch := voucherEpoch voucher
      uncommissioned := false }

/-- The conditions a voucher is accepted under. -/
structure Claimable (ed : Ed25519) (st : AsymStore) (voucher : List UInt8) : Prop where
  len : voucher.length = hoVoucherLen
  ready : st.ready = true
  signed : ed.verify st.anchor (voucherTranscript voucher) (voucherSig voucher) = true
  serial : voucherSerial voucher = st.serial
  unclaimed : st.uncommissioned = true
  fresh : st.ownerEpoch < voucherEpoch voucher

/-- **A voucher is accepted exactly when it is claimable**, and then it changes owner, epoch
    and commissioning, and nothing else. -/
theorem claim_iff {ed : Ed25519} {st st' : AsymStore} {voucher : List UInt8} :
    st.claim ed voucher = some st' ↔ Claimable ed st voucher ∧
      st' = { st with
        owner := voucherOwner voucher
        ownerSet := true
        ownerEpoch := voucherEpoch voucher
        uncommissioned := false } := by
  unfold AsymStore.claim
  constructor
  · intro h
    split at h
    · cases h
    rename_i hshape
    split at h
    · cases h
    rename_i hsigned
    split at h
    · cases h
    rename_i hstate
    simp only [not_or, ne_eq, not_not, Bool.not_eq_false, UInt32.not_le] at hshape hsigned hstate
    refine ⟨⟨hshape.1, hshape.2, hsigned.2, hstate.1, hstate.2.1, hstate.2.2⟩, ?_⟩
    exact (Option.some.inj h).symm
  · rintro ⟨h, rfl⟩
    have hbody : voucherTranscript voucher ≠ [] := by
      have hlen : (voucherBody voucher).length = asymSerialLen + asymPubkeySize + 4 := by
        rw [voucherBody, List.length_take, h.len]
        rfl
      rw [voucherTranscript, asymTranscript_of_fits (by rw [hlen]) (by decide)]
      simp [asymDomain]
    rw [if_neg (by simp [h.len, h.ready]), if_neg (by simp [hbody, h.signed]),
      if_neg (by simp [h.serial, h.unclaimed, h.fresh])]

/-! ## Provisioning and decommissioning -/

/-- `fbsec_server_asym_install_provisioning`; `none` is a refused install. -/
def AsymStore.installProvisioning (ed : Ed25519) (st : AsymStore) (payload : List UInt8) :
    Option AsymStore :=
  if payload.length ≠ hoProvisionLen ∨ st.ready = false then none
  else
    let key : Block 16 := slice 16 0 payload
    let sig : Signature := slice 64 aeadKeySize payload
    let transcript := asymTranscript rolePkinstallAck (toList key)
      (asymTranscriptOverhead + aeadKeySize)
    if st.ownerSet = false ∨ transcript = [] ∨ ed.verify st.owner transcript sig = false then none
    else some { st with provisioningKey := key, provisioningSet := true }

/-- An accepted install found an owner, and touches only the provisioning key. -/
theorem installProvisioning_cases {ed : Ed25519} {st st' : AsymStore} {payload : List UInt8}
    (h : st.installProvisioning ed payload = some st') :
    st.ownerSet = true ∧ ∃ key, st' = { st with provisioningKey := key, provisioningSet := true }
      := by
  unfold AsymStore.installProvisioning at h
  split at h
  · cases h
  simp only at h
  split at h
  · cases h
  rename_i hsigned
  simp only [not_or, Bool.not_eq_false] at hsigned
  exact ⟨hsigned.1, _, (Option.some.inj h).symm⟩

/-- The key a C02Fh payload delivers, and the owner's signature over it. -/
def provisionKey (payload : List UInt8) : Block 16 := slice 16 0 payload
def provisionSig (payload : List UInt8) : Signature := slice 64 aeadKeySize payload

/-- The transcript the owner signs for an install. -/
def provisionTranscript (payload : List UInt8) : List UInt8 :=
  asymTranscript rolePkinstallAck (toList (provisionKey payload))
    (asymTranscriptOverhead + aeadKeySize)

theorem provisionTranscript_eq (payload : List UInt8) :
    provisionTranscript payload
      = asymDomain ++ [0x00, asymSigAlg, rolePkinstallAck] ++ toList (provisionKey payload) :=
  asymTranscript_of_fits (by rw [length_toList]) (by decide)

/-- The conditions an install is accepted under. -/
structure Installable (ed : Ed25519) (st : AsymStore) (payload : List UInt8) : Prop where
  len : payload.length = hoProvisionLen
  ready : st.ready = true
  owned : st.ownerSet = true
  signed : ed.verify st.owner (provisionTranscript payload) (provisionSig payload) = true

/-- **An install is accepted exactly when the owner signed it**, and then it changes the
    provisioning key, and nothing else. -/
theorem install_iff {ed : Ed25519} {st st' : AsymStore} {payload : List UInt8} :
    st.installProvisioning ed payload = some st' ↔ Installable ed st payload ∧
      st' = { st with provisioningKey := provisionKey payload, provisioningSet := true } := by
  have hbuilt : provisionTranscript payload ≠ [] := by
    rw [provisionTranscript_eq]
    simp [asymDomain]
  unfold AsymStore.installProvisioning
  constructor
  · intro h
    split at h
    · cases h
    rename_i hshape
    simp only at h
    split at h
    · cases h
    rename_i hsigned
    simp only [not_or, ne_eq, not_not, Bool.not_eq_false] at hshape hsigned
    exact ⟨⟨hshape.1, hshape.2, hsigned.1, hsigned.2.2⟩, (Option.some.inj h).symm⟩
  · rintro ⟨h, rfl⟩
    rw [if_neg (by simp [h.len, h.ready])]
    have hno : ¬ (st.ownerSet = false ∨ provisionTranscript payload = [] ∨
        ed.verify st.owner (provisionTranscript payload) (provisionSig payload) = false) := by
      simp [h.owned, hbuilt, h.signed]
    exact if_neg hno

/-- `fbsec_server_asym_decommission`: identity, anchor, peers and epoch stay. -/
def AsymStore.decommission (st : AsymStore) : AsymStore :=
  { st with
    owner := zero 32
    ownerSet := false
    provisioningKey := zero 16
    provisioningSet := false
    ldevid := noKeypair
    ldevidPresent := false
    uncommissioned := true }

end SofaAsym
