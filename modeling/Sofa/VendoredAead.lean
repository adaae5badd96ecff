import Sofa.Aead
import Sofa.MbedtlsGcm

/-! # The AEAD layer over the vendored GCM

    `gcm_seal`, `gcm_mac_only` and `gcm_open` of `fbsec_aead.c` set up a context, make one call
    and free it.  With the GCM of the vendored library in the place of the parameter of the AEAD
    layer, the layer seals and opens as it would over the standard's GCM.

    * `vendoredGcm`: the calls of the layer; `standardGcm`: the mode itself, which is
      `Correct` over every block cipher;
    * **`vendored_aead`**: the two agree on every call of the layer, and what is sealed is
      opened. -/

namespace SofaVendoredAead

open ByteBlock BlockStream SofaConfig SofaAead SofaMbedtlsGcm

/-! ## The calls -/

/-- A length that the `uint16_t` parameters of the layer can carry. -/
def CountsU16 (d : List UInt8) : Prop := d.length < 2 ^ 16

instance countsU16Decidable (d : List UInt8) : Decidable (CountsU16 d) :=
  inferInstanceAs (Decidable (_ < _))

variable (blockCipher : Key → Block 16 → Block 16)

/-- `gcm_seal`, and `gcm_mac_only` for no plaintext: the full tag is written. -/
def gcmSeal (key : Key) (nonce : Nonce) (aad plaintext : List UInt8) :
    Option (List UInt8 × Tag) :=
  match cryptAndTag (setkey (blockCipher key)) .encrypt (toList nonce) aad plaintext
      (List.replicate plaintext.length 0) aeadTagSize with
  | (ret, ciphertext, fullTag) => if ret ≠ 0 then none else some (ciphertext, slice 16 0 fullTag)

/-- `gcm_open`. -/
def gcmOpen (key : Key) (nonce : Nonce) (aad ciphertext : List UInt8) (tag : Tag) :
    Option (List UInt8) :=
  match authDecrypt (setkey (blockCipher key)) (toList nonce) aad (toList tag) ciphertext
      (List.replicate ciphertext.length 0) with
  | (ret, plaintext) => if ret ≠ 0 then none else some plaintext

/-- Every call of the layer is within the limits of the mode. -/
theorem allowed_u16 {nonce : Nonce} {aad text : List UInt8} (haad : CountsU16 aad)
    (htext : CountsU16 text) : Allowed (toList nonce) aad text aeadTagSize := by
  have hiv : (toList nonce).length = 12 := length_toList nonce
  have ha : aad.length < 2 ^ 16 := haad
  have ht : text.length < 2 ^ 16 := htext
  refine ⟨⟨by omega, by omega⟩, by omega, by omega, by decide, by decide⟩

/-- `gcm_seal` computes the mode. -/
theorem gcmSeal_eq (key : Key) (nonce : Nonce) {aad plaintext : List UInt8}
    (haad : CountsU16 aad) (htext : CountsU16 plaintext) :
    gcmSeal blockCipher key nonce aad plaintext
      = some (Gcm.gctr (blockCipher key) (toList nonce) plaintext,
        Gcm.tag (blockCipher key) (toList nonce) aad
          (Gcm.gctr (blockCipher key) (toList nonce) plaintext)) := by
  have hfull : ∀ t : Tag, slice 16 0 ((toList t).take aeadTagSize) = t := by
    intro t
    rw [List.take_of_length_le (by rw [length_toList]), slice_toList]
  rw [gcmSeal, cryptAndTag_eq (blockCipher key) .encrypt _ (allowed_u16 haad htext), ciphertext,
    if_pos rfl]
  exact congrArg (fun t => some (Gcm.gctr (blockCipher key) (toList nonce) plaintext, t)) (hfull _)

/-- `gcm_open` computes the mode. -/
theorem gcmOpen_eq (key : Key) (nonce : Nonce) {aad ciphertext : List UInt8} (tag : Tag)
    (haad : CountsU16 aad) (htext : CountsU16 ciphertext) :
    gcmOpen blockCipher key nonce aad ciphertext tag
      = Gcm.decrypt (blockCipher key) (toList nonce) aad ciphertext (toList tag) := by
  have hok : Allowed (toList nonce) aad ciphertext (toList tag).length := by
    rw [length_toList]
    exact allowed_u16 haad htext
  rw [gcmOpen, authDecrypt_eq (blockCipher key) _ hok]
  cases Gcm.decrypt (blockCipher key) (toList nonce) aad ciphertext (toList tag) with
  | none => rfl
  | some plaintext => rfl

/-! ## The parameter of the layer -/

theorem length_decrypt {cipher : Block 16 → Block 16} {iv a c mac p : List UInt8}
    (h : Gcm.decrypt cipher iv a c mac = some p) : p.length = c.length := by
  rw [Gcm.decrypt] at h
  split at h
  · cases h
    exact length_masked _ _ _ _ _
  · cases h

/-- The GCM of the vendored library; longer arguments than a `uint16_t` counts do not exist. -/
def vendoredGcm : SofaAead.Gcm where
  cryptAndTag key nonce aad plaintext :=
    if CountsU16 aad ∧ CountsU16 plaintext then gcmSeal blockCipher key nonce aad plaintext
    else none
  authDecrypt key nonce aad ciphertext tag :=
    if CountsU16 aad ∧ CountsU16 ciphertext then gcmOpen blockCipher key nonce aad ciphertext tag
    else none
  crypt_length key nonce aad plaintext ciphertext tag h := by
    split at h
    · next hfit =>
        rw [gcmSeal_eq blockCipher key nonce hfit.1 hfit.2] at h
        cases h
        exact length_masked _ _ _ _ _
    · cases h
  decrypt_length key nonce aad ciphertext tag plaintext h := by
    split at h
    · next hfit =>
        rw [gcmOpen_eq blockCipher key nonce tag hfit.1 hfit.2] at h
        exact length_decrypt h
    · cases h

/-- The mode of the standard, with a full tag. -/
def standardGcm : SofaAead.Gcm where
  cryptAndTag key nonce aad plaintext :=
    some (Gcm.gctr (blockCipher key) (toList nonce) plaintext, Gcm.tag (blockCipher key)
      (toList nonce) aad (Gcm.gctr (blockCipher key) (toList nonce) plaintext))
  authDecrypt key nonce aad ciphertext tag :=
    Gcm.decrypt (blockCipher key) (toList nonce) aad ciphertext (toList tag)
  crypt_length key nonce aad plaintext ciphertext tag h := by
    cases h
    exact length_masked _ _ _ _ _
  decrypt_length key nonce aad ciphertext tag plaintext h := length_decrypt h

/-- **The mode is correct** over every block cipher. -/
theorem standardGcm_correct : (standardGcm blockCipher).Correct where
  total key nonce aad plaintext := rfl
  decrypt key nonce aad plaintext ciphertext tag h := by
    cases h
    have hinv := Gcm.decrypt_encrypt (blockCipher key) (t := 16) (Nat.le_refl 16) (toList nonce) aad
      plaintext
    rw [Gcm.encrypt, List.take_of_length_le (by rw [length_toList])] at hinv
    exact hinv

/-! ## The layer -/

/-- The AAD of a call is short. -/
theorem length_aad_le (c : AeadCall) (data : List UInt8) : (c.aad data).length ≤ 36 + data.length := by
  have hrandoms : (aadRandoms c.direction c.randoms).length ≤ 24 := by
    unfold aadRandoms
    split
    · rw [List.length_append, length_toList, length_toList]
    · exact Nat.zero_le 24
  have hprefix : ∀ n, (aadPrefix c.direction c.keyId c.serverDev c.clientDev c.dataId n).length = 12 :=
    fun _ => rfl
  rw [AeadCall.aad]
  split
  · rw [aadBuild, List.length_append, List.length_append, hprefix, if_neg Bool.false_ne_true,
      List.length_nil]
    omega
  · rw [aadBuild, List.length_append, List.length_append, hprefix, if_pos rfl]
    omega

/-- Every argument of the layer is within a `uint16_t`. -/
theorem counts_call (c : AeadCall) {data : List UInt8} (hdata : data.length ≤ aeadMaxProtected) :
    CountsU16 (c.aad data) ∧ CountsU16 data ∧ CountsU16 [] := by
  have haad := length_aad_le c data
  have hmax : data.length ≤ 32 := hdata
  refine ⟨?_, ?_, by decide⟩
  · show (c.aad data).length < 2 ^ 16
    omega
  · show data.length < 2 ^ 16
    omega

/-- Sealing is what it is over the mode. -/
theorem vendored_seal (c : AeadCall) (plaintext : List UInt8) :
    aeadSeal (vendoredGcm blockCipher) c plaintext
      = aeadSeal (standardGcm blockCipher) c plaintext := by
  rw [aeadSeal, aeadSeal]
  by_cases hlong : plaintext.length > aeadMaxProtected
  · rw [if_pos hlong, if_pos hlong]
  · obtain ⟨haad, hdata, hnone⟩ := counts_call c (Nat.not_lt.mp hlong)
    have hseal : (vendoredGcm blockCipher).cryptAndTag c.key c.nonce (c.aad plaintext) plaintext
        = (standardGcm blockCipher).cryptAndTag c.key c.nonce (c.aad plaintext) plaintext :=
      (if_pos ⟨haad, hdata⟩).trans (gcmSeal_eq blockCipher _ _ haad hdata)
    have hmac : gcmMacOnly (vendoredGcm blockCipher) c.key c.nonce (c.aad plaintext)
        = gcmMacOnly (standardGcm blockCipher) c.key c.nonce (c.aad plaintext) :=
      congrArg (Option.map Prod.snd)
        ((if_pos ⟨haad, hnone⟩).trans (gcmSeal_eq blockCipher _ _ haad hnone))
    rw [if_neg hlong, if_neg hlong, hseal, hmac]

/-- And so is opening. -/
theorem vendored_open (c : AeadCall) (ciphertext : List UInt8) (tag : Tag) :
    aeadOpen (vendoredGcm blockCipher) c ciphertext tag
      = aeadOpen (standardGcm blockCipher) c ciphertext tag := by
  rw [aeadOpen, aeadOpen]
  by_cases hlong : ciphertext.length > aeadMaxProtected
  · rw [if_pos hlong, if_pos hlong]
  · obtain ⟨haad, hdata, hnone⟩ := counts_call c (Nat.not_lt.mp hlong)
    have hopen : (vendoredGcm blockCipher).authDecrypt c.key c.nonce (c.aad ciphertext) ciphertext tag
        = (standardGcm blockCipher).authDecrypt c.key c.nonce (c.aad ciphertext) ciphertext tag :=
      (if_pos ⟨haad, hdata⟩).trans (gcmOpen_eq blockCipher _ _ tag haad hdata)
    have hmac : gcmMacOnly (vendoredGcm blockCipher) c.key c.nonce (c.aad ciphertext)
        = gcmMacOnly (standardGcm blockCipher) c.key c.nonce (c.aad ciphertext) :=
      congrArg (Option.map Prod.snd)
        ((if_pos ⟨haad, hnone⟩).trans (gcmSeal_eq blockCipher _ _ haad hnone))
    rw [if_neg hlong, if_neg hlong, hopen, hmac]

/-- **The AEAD layer over the vendored library** is the layer over the mode of the standard, and
    what it seals it opens: for every block cipher, every call and every plaintext that fits. -/
theorem vendored_aead (c : AeadCall) :
    (∀ plaintext, aeadSeal (vendoredGcm blockCipher) c plaintext
        = aeadSeal (standardGcm blockCipher) c plaintext)
      ∧ (∀ ciphertext tag, aeadOpen (vendoredGcm blockCipher) c ciphertext tag
        = aeadOpen (standardGcm blockCipher) c ciphertext tag)
      ∧ ∀ plaintext, plaintext.length ≤ aeadMaxProtected →
        ∃ ciphertext tag,
          aeadSeal (vendoredGcm blockCipher) c plaintext = some (ciphertext, tag)
            ∧ aeadOpen (vendoredGcm blockCipher) c ciphertext tag = some plaintext := by
  refine ⟨vendored_seal blockCipher c, vendored_open blockCipher c, ?_⟩
  intro plaintext hfit
  obtain ⟨ciphertext, tag, hseal⟩ := aeadSeal_isSome (standardGcm_correct blockCipher) c hfit
  refine ⟨ciphertext, tag, ?_, ?_⟩
  · rw [vendored_seal, hseal]
  · rw [vendored_open]
    exact aeadOpen_aeadSeal (standardGcm_correct blockCipher) hseal

end SofaVendoredAead
