import Sofa.Lib.Block

/-! # Build configuration: sizes, limits and abort codes

    The default build of the repository: AES-128-GCM with a full tag, 12-byte
    randoms, 1-byte device ids in the AAD, and the read, write and cyclic
    features all compiled in. -/

namespace SofaConfig

open ByteBlock

/-! ## Sizes (fbsec_config.h, fbsec_aead.h) -/

/-- `FBSEC_AEAD_KEY_SIZE` bytes. -/
abbrev Key := Block 16
/-- `FBSEC_AEAD_NONCE_SIZE` bytes. -/
abbrev Nonce := Block 12
/-- The places of a nonce have literals. -/
instance nonceSize_ne_zero : NeZero 12 := ⟨by decide⟩
/-- `FBSEC_AEAD_RAND_SIZE` bytes: one peer's challenge contribution. -/
abbrev Rand := Block 12
/-- `FBSEC_AEAD_TAG_SIZE` bytes; the default build does not truncate the GCM tag. -/
abbrev Tag := Block 16

abbrev aeadKeySize : Nat := 16
abbrev aeadRandSize : Nat := 12
abbrev aeadTagSize : Nat := 16
/-- `FBSEC_AEAD_MAX_PROTECTED`: the largest plaintext of one transfer. -/
abbrev aeadMaxProtected : Nat := 32
/-- `FBSEC_AEAD_KEY_USE_LIMIT`: AEAD invocations per session. -/
abbrev keyUseLimit : Nat := 1000000
/-- `FBSEC_AEAD_ENCRYPTION`: the build can encrypt; the mode of a transfer is
    still chosen by bit 7 of its key id byte. -/
abbrev aeadEncryption : Bool := true

/-! ## Secure-OD limits (fbsec_secure_od.h) -/

abbrev sodMaxEntries : Nat := 8
abbrev sodKeySlots : UInt8 := 4
abbrev challengeTimeoutMs : UInt16 := 5000
abbrev sessionIdleTimeoutMs : UInt16 := 60000

/-! ## Abort codes (fbsec_abort.h) -/

/-- `fbsec_abort_t`: one byte, 0 for "no abort".  Host hooks may return any code. -/
abbrev Abort := UInt8

abbrev abortNone : Abort := 0x00
abbrev abortNoObject : Abort := 0x33
abbrev abortTypeMismatch : Abort := 0x36
abbrev abortLenTooHigh : Abort := 0x37
abbrev abortLenTooLow : Abort := 0x38
abbrev abortInternal : Abort := 0x60
abbrev abortDeviceState : Abort := 0x62
abbrev abortTagVerify : Abort := 0xC0
abbrev abortRoleDenied : Abort := 0xC3
abbrev abortKeyId : Abort := 0xC4
abbrev abortNoSession : Abort := 0xC5
abbrev abortPollCounter : Abort := 0xC6
abbrev abortKeyBudget : Abort := 0xC7
abbrev abortNotBuilt : Abort := 0xC8

/-! ## The wire key id byte (fbsec_aead.h) -/

/-- Bit 7: encrypt. -/
def keyidEncrypt (kid : UInt8) : Bool := kid &&& 0x80 != 0
/-- Bit 6: keep a cyclic session after the transfer. -/
def keyidIsCyclic (kid : UInt8) : Bool := kid &&& 0x40 != 0
/-- Bits 5..4: reserved, must be 0. -/
def keyidReserved (kid : UInt8) : UInt8 := (kid >>> 4) &&& 0x03
/-- Bits 3..0: the base key selector. -/
def keyidBase (kid : UInt8) : UInt8 := kid &&& 0x0F
/-- `FBSEC_AEAD_KEYID_MAX`. -/
abbrev keyidMax : UInt8 := 15
/-- `FBSEC_AEAD_MECHANISM_FOR`: the encrypt bit over the AES-128-GCM primitive id. -/
def mechanismFor (kid : UInt8) : UInt8 := (kid &&& 0x80) ||| 0x01

end SofaConfig
