import Sofa.Aead

/-! # The AAD against its specification

    `fbsec_aead.h` lays the associated data out byte by byte: twelve bytes of prefix, the
    randoms of the two directions that take them, and the plaintext when nothing encrypts it.
    Two peers built from this code agree whatever they put there, so the layout is written
    here a second time, from the header, and compared.

    * `documentedAad`: the layout as the header states it;
    * `documentedAad_nil`: what the code builds in the encrypting mode is the documented
      layout of an empty plaintext;
    * **`aad_documented_iff`**: seal and open hand GCM the documented bytes exactly when there
      is nothing to encrypt: the length field of an encrypted transfer is zero, where the
      header has the plaintext's byte count. -/

namespace SofaAadLayout

open ByteBlock SofaConfig SofaAead

/-! ## The layout of the header -/

/-- The directions a sealed frame travels in, with the randoms two of them carry. -/
inductive Direction where
  | readResponse (clientRandom serverRandom : Rand)
  | writeRequest (clientRandom serverRandom : Rand)
  | readPollResponse
  | writePollRequest

/-- `FBSEC_AEAD_DIR_*`. -/
def Direction.code : Direction → UInt8
  | .readResponse _ _ => 0x02
  | .writeRequest _ _ => 0x04
  | .readPollResponse => 0x06
  | .writePollRequest => 0x07

/-- The randoms of the tail: client first, then server; none on a poll. -/
def Direction.randoms : Direction → List UInt8
  | .readResponse clientRandom serverRandom => toList clientRandom ++ toList serverRandom
  | .writeRequest clientRandom serverRandom => toList clientRandom ++ toList serverRandom
  | .readPollResponse => []
  | .writePollRequest => []

/-- The low `n` bytes of a number, least significant first. -/
def littleEndian (n v : Nat) : List UInt8 := (List.range n).map fun i => UInt8.ofNat (v / 256 ^ i)

/-- What the prefix of one call is made of. -/
structure Addressing where
  keyId : UInt8
  server : UInt16
  client : UInt16
  dataId : UInt32

/-- The AAD of the header, for one-byte device ids: version, mechanism, direction, key id,
    server, client, data id, plaintext byte count, then the randoms and, in the
    authenticate-only mode, the plaintext. -/
def documentedAad (d : Direction) (a : Addressing) (plain : List UInt8) : List UInt8 :=
  let encrypts := 0x80 ≤ a.keyId
  [0x01] ++ [if encrypts then 0x81 else 0x01] ++ [d.code] ++ [a.keyId]
    ++ littleEndian 1 a.server.toNat ++ littleEndian 1 a.client.toNat
    ++ littleEndian 4 a.dataId.toNat ++ littleEndian 2 plain.length
    ++ d.randoms ++ (if encrypts then [] else plain)

/-! ## The calls of the code -/

/-- The randoms as the two peers pass them: NULL on a poll. -/
def Direction.passed : Direction → Option (Rand × Rand)
  | .readResponse clientRandom serverRandom => some (clientRandom, serverRandom)
  | .writeRequest clientRandom serverRandom => some (clientRandom, serverRandom)
  | .readPollResponse => none
  | .writePollRequest => none

/-- One call of `fbsec_aead_seal` or `fbsec_aead_open`. -/
def callOf (d : Direction) (a : Addressing) (key : Key) (nonce : Nonce) : AeadCall where
  key := key
  nonce := nonce
  direction := d.code
  keyId := a.keyId
  serverDev := a.server
  clientDev := a.client
  dataId := a.dataId
  randoms := d.passed

/-- `fbsec_aead_seal` with the associated data left open. -/
def sealUnder (gcm : Gcm) (c : AeadCall) (aad plaintext : List UInt8) :
    Option (List UInt8 × Tag) :=
  if plaintext.length > aeadMaxProtected then none
  else if keyidEncrypt c.keyId then gcm.cryptAndTag c.key c.nonce aad plaintext
  else (gcmMacOnly gcm c.key c.nonce aad).map fun tag => (plaintext, tag)

/-- `fbsec_aead_open` with the associated data left open. -/
def openUnder (gcm : Gcm) (c : AeadCall) (aad ciphertext : List UInt8) (tag : Tag) :
    Option (List UInt8) :=
  if ciphertext.length > aeadMaxProtected then none
  else if keyidEncrypt c.keyId then gcm.authDecrypt c.key c.nonce aad ciphertext tag
  else
    match gcmMacOnly gcm c.key c.nonce aad with
    | none => none
    | some expected => if constTimeDiff expected tag != 0 then none else some ciphertext

/-- The code's associated data is `AeadCall.aad`. -/
theorem aeadSeal_under (gcm : Gcm) (c : AeadCall) (plaintext : List UInt8) :
    aeadSeal gcm c plaintext = sealUnder gcm c (c.aad plaintext) plaintext := rfl

/-! ## Field by field -/

/-- Bit 7 is the encrypting half of the key id bytes. -/
theorem keyidEncrypt_iff (kid : UInt8) : keyidEncrypt kid = true ↔ 0x80 ≤ kid := by
  revert kid
  decide +kernel

/-- The mechanism byte in both modes. -/
theorem mechanismFor_eq (kid : UInt8) :
    mechanismFor kid = if 0x80 ≤ kid then 0x81 else 0x01 := by
  revert kid
  decide +kernel

theorem littleEndian_uint16 (v : UInt16) : littleEndian 1 v.toNat = [v.toUInt8] := by
  simp [littleEndian, List.range_succ]

theorem littleEndian_uint32 (v : UInt32) :
    littleEndian 4 v.toNat =
      [v.toUInt8, (v >>> 8).toUInt8, (v >>> 16).toUInt8, (v >>> 24).toUInt8] := by
  have hbyte (k : Nat) (w : UInt32) (hw : w.toNat = v.toNat / 256 ^ k) :
      UInt8.ofNat (v.toNat / 256 ^ k) = w.toUInt8 := by
    rw [← hw]
    exact UInt8.ofNat_uInt32ToNat w
  have h0 := hbyte 0 v (by simp)
  have h1 := hbyte 1 (v >>> 8) (by simp [Nat.shiftRight_eq_div_pow])
  have h2 := hbyte 2 (v >>> 16) (by simp [Nat.shiftRight_eq_div_pow])
  have h3 := hbyte 3 (v >>> 24) (by simp [Nat.shiftRight_eq_div_pow])
  show [UInt8.ofNat (v.toNat / 256 ^ 0), UInt8.ofNat (v.toNat / 256 ^ 1),
    UInt8.ofNat (v.toNat / 256 ^ 2), UInt8.ofNat (v.toNat / 256 ^ 3)] = _
  rw [h0, h1, h2, h3]

theorem littleEndian_length (l : List UInt8) :
    littleEndian 2 l.length = [UInt8.ofNat l.length, UInt8.ofNat (l.length >>> 8)] := by
  simp [littleEndian, List.range_succ, Nat.shiftRight_eq_div_pow]

/-- The direction's tail is what the header puts there. -/
theorem aadRandoms_documented (d : Direction) : aadRandoms d.code d.passed = d.randoms := by
  cases d <;> rfl

/-- **What is documented**, in the terms of `aad_build`. -/
theorem documentedAad_eq (d : Direction) (a : Addressing) (plain : List UInt8) :
    documentedAad d a plain =
      aadPrefix d.code a.keyId a.server a.client a.dataId plain.length
        ++ aadRandoms d.code d.passed ++ (if keyidEncrypt a.keyId then [] else plain) := by
  have hmode : (if keyidEncrypt a.keyId then [] else plain) =
      if 0x80 ≤ a.keyId then [] else plain := by
    simp only [keyidEncrypt_iff]
  simp only [documentedAad, littleEndian_uint16, littleEndian_uint32, littleEndian_length,
    aadRandoms_documented, hmode, aadPrefix, mechanismFor_eq, List.cons_append,
    List.nil_append]

/-- Authenticate-only: the documented bytes. -/
theorem aad_documented_authOnly (d : Direction) (a : Addressing) (key : Key) (nonce : Nonce)
    (plain : List UInt8) (hmode : keyidEncrypt a.keyId = false) :
    (callOf d a key nonce).aad plain = documentedAad d a plain := by
  rw [documentedAad_eq]
  simp [AeadCall.aad, callOf, hmode, aadBuild]

/-- Encrypting: the documented bytes of an empty plaintext, whatever is encrypted. -/
theorem documentedAad_nil (d : Direction) (a : Addressing) (key : Key) (nonce : Nonce)
    (plain : List UInt8) (hmode : keyidEncrypt a.keyId = true) :
    (callOf d a key nonce).aad plain = documentedAad d a [] := by
  rw [documentedAad_eq]
  simp [AeadCall.aad, callOf, hmode, aadBuild]

/-- The low byte of the length field. -/
theorem documentedAad_count (d : Direction) (a : Addressing) (plain : List UInt8) :
    (documentedAad d a plain)[10]? = some (UInt8.ofNat plain.length) := by
  rw [documentedAad_eq]
  rfl

/-! ## Exactly when GCM sees the documented bytes -/

/-- A GCM whose tag is the length field of the associated data. -/
def tellingGcm : Gcm where
  cryptAndTag _ _ aad plain := some (plain, fun _ => aad.getD 10 0)
  authDecrypt _ _ aad cipher tag := if tag = (fun _ => aad.getD 10 0) then some cipher else none
  crypt_length := by
    rintro k n a p c t ⟨⟩
    rfl
  decrypt_length := by
    intro k n a c t p h
    split at h
    · cases h
      rfl
    · cases h

/-- The length fields of an encrypted transfer and of its specification differ. -/
theorem count_ne {plain : List UInt8} (hne : plain ≠ []) (hfit : plain.length ≤ aeadMaxProtected)
    (d : Direction) (a : Addressing) :
    (documentedAad d a []).getD 10 0 ≠ (documentedAad d a plain).getD 10 0 := by
  have hpos : 0 < plain.length := List.length_pos_of_ne_nil hne
  have hle : plain.length ≤ 32 := hfit
  rw [List.getD_eq_getElem?_getD, List.getD_eq_getElem?_getD, documentedAad_count,
    documentedAad_count]
  intro h
  have hnat := congrArg UInt8.toNat h
  simp only [Option.getD_some, UInt8.toNat_ofNat', List.length_nil] at hnat
  omega

/-- **The documented AAD.**  Over every GCM, `fbsec_aead_seal` and `fbsec_aead_open` hand it
    the bytes of the header exactly when the mode is authenticate-only, or there is no data,
    or the data is too long and the call is refused before any AAD is built. -/
theorem aad_documented_iff (d : Direction) (a : Addressing) (key : Key) (nonce : Nonce)
    (data : List UInt8) :
    ((∀ gcm : Gcm, aeadSeal gcm (callOf d a key nonce) data =
        sealUnder gcm (callOf d a key nonce) (documentedAad d a data) data) ∧
      ∀ (gcm : Gcm) (tag : Tag), aeadOpen gcm (callOf d a key nonce) data tag =
        openUnder gcm (callOf d a key nonce) (documentedAad d a data) data tag) ↔
      keyidEncrypt a.keyId = false ∨ data = [] ∨ aeadMaxProtected < data.length := by
  constructor
  · rintro ⟨hseal, -⟩
    by_contra hcond
    simp only [not_or, Bool.not_eq_false, Nat.not_lt] at hcond
    obtain ⟨hmode, hne, hfit⟩ := hcond
    -- the telling GCM shows the length field as the tag
    have htag := hseal tellingGcm
    have hmode' : keyidEncrypt (callOf d a key nonce).keyId = true := hmode
    rw [aeadSeal_under, documentedAad_nil d a key nonce data hmode, sealUnder, sealUnder,
      if_neg (Nat.not_lt.mpr hfit), if_pos hmode', if_neg (Nat.not_lt.mpr hfit),
      if_pos hmode'] at htag
    have hpair := congrArg Prod.snd (Option.some.inj htag)
    exact count_ne hne hfit d a (congrFun hpair 0)
  · rintro (hmode | rfl | hlong)
    · rw [← aad_documented_authOnly d a key nonce data hmode]
      exact ⟨fun _ => rfl, fun _ _ => rfl⟩
    · have haad : (callOf d a key nonce).aad [] = documentedAad d a [] := by
        cases hmode : keyidEncrypt a.keyId with
        | true => exact documentedAad_nil d a key nonce [] hmode
        | false => exact aad_documented_authOnly d a key nonce [] hmode
      rw [← haad]
      exact ⟨fun _ => rfl, fun _ _ => rfl⟩
    · refine ⟨fun gcm => ?_, fun gcm tag => ?_⟩
      · rw [aeadSeal, if_pos hlong, sealUnder, if_pos hlong]
      · rw [aeadOpen, if_pos hlong, openUnder, if_pos hlong]

/-! ## A worked call -/

/-- A write poll of one byte under key id `0xC1`: bit 7 set. -/
def sampleAddressing : Addressing := ⟨0xC1, 5, 20, 0x20100000⟩

/-- Its AAD says that no byte follows; the header says one. -/
theorem encrypted_count_missing :
    ¬ ∀ gcm : Gcm, aeadSeal gcm (callOf .writePollRequest sampleAddressing sampleKey (zero 12)) [7] =
      sealUnder gcm (callOf .writePollRequest sampleAddressing sampleKey (zero 12))
        (documentedAad .writePollRequest sampleAddressing [7]) [7] := by
  intro h
  have htag := congrArg (fun r => r.map fun out => out.2 0) (h tellingGcm)
  revert htag
  decide +kernel

end SofaAadLayout
