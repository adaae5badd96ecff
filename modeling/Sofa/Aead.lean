import Sofa.Config

/-! # The AEAD layer: AAD layout, seal and open

    `fbsec_aead.c` over an abstract GCM.  A key id byte with bit 7 set runs real
    GCM over the plaintext; with bit 7 clear the data travels in clear and is
    appended to the AAD of an empty GCM message.

    * `aadBuild`: the AAD bytes; `aad_injective`: for the calls the two peers
      make, the AAD determines every field of the call;
    * `aeadSeal`, `aeadOpen`, and `aeadOpen_aeadSeal`: what one side seals the
      other opens under the same call;
    * `Seal.Justifies`: the frame is the one a seal produced, and
      `Seal.Justifies.agree`, what an accepted frame then says about its seal. -/

namespace SofaAead

open ByteBlock SofaConfig

/-! ## GCM -/

/-- The two mbedtls entry points the layer calls, key setup included.  `none` is
    a nonzero return code; on success the output buffer holds as many bytes as
    the input. -/
structure Gcm where
  cryptAndTag : Key → Nonce → List UInt8 → List UInt8 → Option (List UInt8 × Tag)
  authDecrypt : Key → Nonce → List UInt8 → List UInt8 → Tag → Option (List UInt8)
  crypt_length : ∀ k n a p c t, cryptAndTag k n a p = some (c, t) → c.length = p.length
  decrypt_length : ∀ k n a c t p, authDecrypt k n a c t = some p → p.length = c.length

/-- What the documentation of GCM promises: encryption succeeds and is inverted
    by authenticated decryption. -/
structure Gcm.Correct (gcm : Gcm) : Prop where
  total : ∀ k n a p, (gcm.cryptAndTag k n a p).isSome
  decrypt : ∀ k n a p c t, gcm.cryptAndTag k n a p = some (c, t) →
    gcm.authDecrypt k n a c t = some p

/-! ## Directions -/

abbrev dirReadResponse : UInt8 := 0x02
abbrev dirWriteRequest : UInt8 := 0x04
abbrev dirReadPollResponse : UInt8 := 0x06
abbrev dirWritePollRequest : UInt8 := 0x07

/-- READ_RESPONSE and WRITE_REQUEST carry both randoms in the AAD. -/
def dirTakesDualRandoms (direction : UInt8) : Bool :=
  direction == dirReadResponse || direction == dirWriteRequest

/-! ## The arguments of one AEAD call -/

/-- The arguments `fbsec_aead_seal` and `fbsec_aead_open` share.  `randoms` is
    `none` where the code passes two NULL pointers. -/
structure AeadCall where
  key : Key
  nonce : Nonce
  direction : UInt8
  keyId : UInt8
  serverDev : UInt16
  clientDev : UInt16
  dataId : UInt32
  randoms : Option (Rand × Rand)
  deriving DecidableEq

/-- The calls the two peers make: randoms exactly on the two directions that
    take them, device ids of one byte. -/
structure AeadCall.WellFormed (c : AeadCall) : Prop where
  randoms : c.randoms.isSome = dirTakesDualRandoms c.direction
  server : c.serverDev.toNat < 256
  client : c.clientDev.toNat < 256

/-! ## AAD construction -/

/-- The fixed 12-byte prefix, with a 1-byte device id width. -/
def aadPrefix (direction keyId : UInt8) (server client : UInt16) (dataId : UInt32)
    (dataLen : Nat) : List UInt8 :=
  [0x01, mechanismFor keyId, direction, keyId, server.toUInt8, client.toUInt8,
    dataId.toUInt8, (dataId >>> 8).toUInt8, (dataId >>> 16).toUInt8, (dataId >>> 24).toUInt8,
    UInt8.ofNat dataLen, UInt8.ofNat (dataLen >>> 8)]

/-- The direction's tail: client random, then server random. -/
def aadRandoms (direction : UInt8) (randoms : Option (Rand × Rand)) : List UInt8 :=
  match dirTakesDualRandoms direction, randoms with
  | true, some (cr, sr) => toList cr ++ toList sr
  | _, _ => []

/-- `aad_build`. -/
def aadBuild (direction keyId : UInt8) (server client : UInt16) (dataId : UInt32)
    (randoms : Option (Rand × Rand)) (includeData : Bool) (data : List UInt8) : List UInt8 :=
  aadPrefix direction keyId server client dataId data.length
    ++ aadRandoms direction randoms
    ++ (if includeData then data else [])

/-- The AAD of a call on `data`.  The encrypting path passes a NULL data pointer
    and length 0, so there the data is neither counted nor appended. -/
def AeadCall.aad (c : AeadCall) (data : List UInt8) : List UInt8 :=
  if keyidEncrypt c.keyId then
    aadBuild c.direction c.keyId c.serverDev c.clientDev c.dataId c.randoms false []
  else
    aadBuild c.direction c.keyId c.serverDev c.clientDev c.dataId c.randoms true data

/-! ## Nonce and tag helpers -/

/-- `fbsec_aead_xor_nonce`. -/
def aeadXorNonce (clientRandom serverRandom : Rand) : Nonce := xor clientRandom serverRandom

/-- `const_time_diff`: the OR of all byte differences. -/
def constTimeDiff (a b : Tag) : UInt8 :=
  (List.finRange aeadTagSize).foldl (fun diff i => diff ||| (a i ^^^ b i)) 0

/-! ## Seal and open -/

/-- `gcm_mac_only`: the tag of an empty message. -/
def gcmMacOnly (gcm : Gcm) (key : Key) (nonce : Nonce) (aad : List UInt8) : Option Tag :=
  (gcm.cryptAndTag key nonce aad []).map (·.2)

/-- `fbsec_aead_seal`: ciphertext and tag. -/
def aeadSeal (gcm : Gcm) (c : AeadCall) (plaintext : List UInt8) : Option (List UInt8 × Tag) :=
  if plaintext.length > aeadMaxProtected then none
  else if keyidEncrypt c.keyId then
    gcm.cryptAndTag c.key c.nonce (c.aad plaintext) plaintext
  else
    -- authenticate-only: the "ciphertext" is a copy of the plaintext
    (gcmMacOnly gcm c.key c.nonce (c.aad plaintext)).map fun tag => (plaintext, tag)

/-- `fbsec_aead_open`: the plaintext when the tag verifies. -/
def aeadOpen (gcm : Gcm) (c : AeadCall) (ciphertext : List UInt8) (tag : Tag) :
    Option (List UInt8) :=
  if ciphertext.length > aeadMaxProtected then none
  else if keyidEncrypt c.keyId then
    gcm.authDecrypt c.key c.nonce (c.aad ciphertext) ciphertext tag
  else
    match gcmMacOnly gcm c.key c.nonce (c.aad ciphertext) with
    | none => none
    | some expected => if constTimeDiff expected tag != 0 then none else some ciphertext

/-! ## The tag comparison -/

private theorem foldl_or_eq_zero (a b : Tag) (l : List (Fin aeadTagSize)) (d : UInt8) :
    l.foldl (fun diff i => diff ||| (a i ^^^ b i)) d = 0 ↔ d = 0 ∧ ∀ i ∈ l, a i = b i := by
  induction l generalizing d with
  | nil => simp
  | cons i l ih =>
      rw [List.foldl_cons, ih, UInt8.or_eq_zero_iff, UInt8.xor_eq_zero_iff]
      simp [and_assoc]

/-- The accumulated difference is zero exactly on equal tags. -/
theorem constTimeDiff_eq_zero {a b : Tag} : constTimeDiff a b = 0 ↔ a = b := by
  unfold constTimeDiff
  rw [foldl_or_eq_zero]
  constructor
  · rintro ⟨-, h⟩
    funext i
    exact h i (List.mem_finRange i)
  · rintro rfl
    simp

/-! ## What one side seals the other opens -/

/-- The ciphertext has the plaintext's length. -/
theorem length_aeadSeal {gcm : Gcm} {c : AeadCall} {p ct : List UInt8} {tag : Tag}
    (h : aeadSeal gcm c p = some (ct, tag)) : ct.length = p.length := by
  unfold aeadSeal at h
  split at h
  · cases h
  · split at h
    · exact gcm.crypt_length _ _ _ _ _ _ h
    · obtain ⟨t, -, ht⟩ := Option.map_eq_some_iff.mp h
      cases ht
      rfl

/-- The plaintext has the ciphertext's length. -/
theorem length_aeadOpen {gcm : Gcm} {c : AeadCall} {ct p : List UInt8} {tag : Tag}
    (h : aeadOpen gcm c ct tag = some p) : p.length = ct.length := by
  unfold aeadOpen at h
  split at h
  · cases h
  · split at h
    · exact gcm.decrypt_length _ _ _ _ _ _ h
    · split at h
      · cases h
      · split at h
        · cases h
        · cases h
          rfl

/-- Sealing a plaintext that fits always succeeds. -/
theorem aeadSeal_isSome {gcm : Gcm} (hg : gcm.Correct) (c : AeadCall) {p : List UInt8}
    (hp : p.length ≤ aeadMaxProtected) : ∃ ct tag, aeadSeal gcm c p = some (ct, tag) := by
  unfold aeadSeal
  rw [if_neg (by omega)]
  split
  · obtain ⟨⟨ct, tag⟩, h⟩ := Option.isSome_iff_exists.mp (hg.total c.key c.nonce (c.aad p) p)
    exact ⟨ct, tag, h⟩
  · obtain ⟨⟨ct, tag⟩, h⟩ := Option.isSome_iff_exists.mp (hg.total c.key c.nonce (c.aad p) [])
    exact ⟨p, tag, by simp [gcmMacOnly, h]⟩

/-- In the encrypting mode the AAD does not depend on the data. -/
theorem AeadCall.aad_encrypt {c : AeadCall} (h : keyidEncrypt c.keyId = true)
    (d e : List UInt8) : c.aad d = c.aad e := by
  simp [AeadCall.aad, h]

/-- In the authenticate-only mode the data on the wire is the plaintext. -/
theorem aeadSeal_authOnly {gcm : Gcm} {c : AeadCall} {p ct : List UInt8} {tag : Tag}
    (hk : keyidEncrypt c.keyId = false) (h : aeadSeal gcm c p = some (ct, tag)) : ct = p := by
  unfold aeadSeal at h
  split at h
  · cases h
  · rw [if_neg (by simp [hk])] at h
    obtain ⟨t, -, ht⟩ := Option.map_eq_some_iff.mp h
    cases ht
    rfl

/-- Seal and open use the same AAD for the frame that travels. -/
theorem aad_sealed {gcm : Gcm} {c : AeadCall} {p ct : List UInt8} {tag : Tag}
    (h : aeadSeal gcm c p = some (ct, tag)) : c.aad ct = c.aad p := by
  cases hk : keyidEncrypt c.keyId with
  | true => exact AeadCall.aad_encrypt hk ct p
  | false => rw [aeadSeal_authOnly hk h]

/-- **Round trip.**  Open inverts seal under an equal call. -/
theorem aeadOpen_aeadSeal {gcm : Gcm} (hg : gcm.Correct) {c : AeadCall} {p ct : List UInt8}
    {tag : Tag} (h : aeadSeal gcm c p = some (ct, tag)) : aeadOpen gcm c ct tag = some p := by
  have hlen : ct.length = p.length := length_aeadSeal h
  have haad : c.aad ct = c.aad p := aad_sealed h
  have hp : ¬ p.length > aeadMaxProtected := by
    intro hgt
    simp [aeadSeal, hgt] at h
  unfold aeadOpen
  rw [if_neg (by omega), haad]
  rw [aeadSeal, if_neg hp] at h
  split at h
  · rename_i hk
    rw [if_pos hk]
    exact hg.decrypt _ _ _ _ _ _ h
  · rename_i hk
    rw [if_neg hk]
    obtain ⟨t, ht, hct⟩ := Option.map_eq_some_iff.mp h
    cases hct
    have hz : constTimeDiff tag tag = 0 := constTimeDiff_eq_zero.mpr rfl
    simp [ht, hz]

/-! ## The AAD determines the call -/

private theorem uint32_bytes_inj {a b : UInt32} (h0 : a.toUInt8 = b.toUInt8)
    (h1 : (a >>> 8).toUInt8 = (b >>> 8).toUInt8) (h2 : (a >>> 16).toUInt8 = (b >>> 16).toUInt8)
    (h3 : (a >>> 24).toUInt8 = (b >>> 24).toUInt8) : a = b := by
  have e0 := congrArg UInt8.toNat h0
  have e1 := congrArg UInt8.toNat h1
  have e2 := congrArg UInt8.toNat h2
  have e3 := congrArg UInt8.toNat h3
  have ha := a.toNat_lt
  have hb := b.toNat_lt
  simp [Nat.shiftRight_eq_div_pow] at e0 e1 e2 e3
  apply UInt32.toNat.inj
  omega

private theorem uint16_low_inj {a b : UInt16} (ha : a.toNat < 256) (hb : b.toNat < 256)
    (h : a.toUInt8 = b.toUInt8) : a = b := by
  have e := congrArg UInt8.toNat h
  simp only [UInt16.toNat_toUInt8] at e
  apply UInt16.toNat.inj
  omega

theorem aadRandoms_inj {d : UInt8} {r r' : Option (Rand × Rand)} {x y : List UInt8}
    (hr : r.isSome = dirTakesDualRandoms d) (hr' : r'.isSome = dirTakesDualRandoms d)
    (h : aadRandoms d r ++ x = aadRandoms d r' ++ y) : r = r' ∧ x = y := by
  unfold aadRandoms at h
  cases hd : dirTakesDualRandoms d with
  | false =>
      rw [hd] at hr hr' h
      cases r with
      | some v => cases hr
      | none =>
          cases r' with
          | some v => cases hr'
          | none => exact ⟨rfl, h⟩
  | true =>
      rw [hd] at hr hr' h
      obtain ⟨⟨a, b⟩, rfl⟩ := Option.isSome_iff_exists.mp hr
      obtain ⟨⟨a', b'⟩, rfl⟩ := Option.isSome_iff_exists.mp hr'
      simp only [List.append_assoc] at h
      obtain ⟨h1, h⟩ := List.append_inj h (by simp)
      obtain ⟨h2, h⟩ := List.append_inj h (by simp)
      rw [toList_inj] at h1 h2
      exact ⟨by rw [h1, h2], h⟩

/-- **The AAD names the call.**  For calls that pass randoms exactly where the
    direction takes them, equal AADs come from equal directions, key id bytes,
    data ids and randoms, from device ids with equal low bytes, and in the
    authenticate-only mode from equal data. -/
theorem aad_fields {c c' : AeadCall} (hr : c.randoms.isSome = dirTakesDualRandoms c.direction)
    (hr' : c'.randoms.isSome = dirTakesDualRandoms c'.direction) {d d' : List UInt8}
    (h : c.aad d = c'.aad d') :
    c.direction = c'.direction ∧ c.keyId = c'.keyId ∧ c.dataId = c'.dataId
      ∧ c.randoms = c'.randoms ∧ c.serverDev.toUInt8 = c'.serverDev.toUInt8
      ∧ c.clientDev.toUInt8 = c'.clientDev.toUInt8 ∧ (keyidEncrypt c.keyId = false → d = d') := by
  have hkey : c.keyId = c'.keyId := by
    have h3 := congrArg (fun l => l[3]?) h
    simp only [AeadCall.aad] at h3
    split at h3 <;> split at h3 <;> simpa [aadBuild, aadPrefix] using h3
  cases henc : keyidEncrypt c.keyId with
  | true =>
      simp only [AeadCall.aad, ← hkey, henc, if_true, aadBuild, aadPrefix,
        List.cons_append, List.nil_append, List.cons.injEq, true_and] at h
      obtain ⟨hdir, hs, hcl, b0, b1, b2, b3, htail⟩ := h
      rw [← hdir] at hr' htail
      obtain ⟨hrand, -⟩ := aadRandoms_inj hr hr' htail
      exact ⟨hdir, hkey, uint32_bytes_inj b0 b1 b2 b3, hrand, hs, hcl, by simp⟩
  | false =>
      simp only [AeadCall.aad, ← hkey, henc, aadBuild, aadPrefix, List.cons_append,
        List.nil_append, List.cons.injEq, true_and, if_true, Bool.false_eq_true, if_false] at h
      obtain ⟨hdir, hs, hcl, b0, b1, b2, b3, -, -, htail⟩ := h
      rw [← hdir] at hr' htail
      obtain ⟨hrand, hdata⟩ := aadRandoms_inj hr hr' htail
      exact ⟨hdir, hkey, uint32_bytes_inj b0 b1 b2 b3, hrand, hs, hcl, fun _ => hdata⟩

/-- **The AAD is unambiguous.**  With one-byte device ids it determines them too. -/
theorem aad_injective {c c' : AeadCall} (hc : c.WellFormed) (hc' : c'.WellFormed)
    {d d' : List UInt8} (h : c.aad d = c'.aad d') :
    c.direction = c'.direction ∧ c.keyId = c'.keyId ∧ c.serverDev = c'.serverDev
      ∧ c.clientDev = c'.clientDev ∧ c.dataId = c'.dataId ∧ c.randoms = c'.randoms
      ∧ (keyidEncrypt c.keyId = false → d = d') := by
  obtain ⟨hdir, hkey, hdata, hrand, hs, hcl, hd⟩ := aad_fields hc.randoms hc'.randoms h
  exact ⟨hdir, hkey, uint16_low_inj hc.server hc'.server hs,
    uint16_low_inj hc.client hc'.client hcl, hdata, hrand, hd⟩

/-- The mechanism byte and the key id byte carry the mode. -/
theorem aad_mode {c c' : AeadCall} {d d' : List UInt8} (h : c.aad d = c'.aad d') :
    keyidEncrypt c.keyId = keyidEncrypt c'.keyId := by
  have h3 := congrArg (fun l => l[3]?) h
  have hkey : c.keyId = c'.keyId := by
    simp only [AeadCall.aad] at h3
    split at h3 <;> split at h3 <;> simpa [aadBuild, aadPrefix] using h3
  rw [hkey]

/-- `FBSEC_AEAD_AAD_MAX`: prefix, both randoms, and the largest data. -/
abbrev aeadAadMax : Nat := 12 + 2 * aeadRandSize + aeadMaxProtected

theorem length_aadRandoms_le (direction : UInt8) (randoms : Option (Rand × Rand)) :
    (aadRandoms direction randoms).length ≤ 24 := by
  unfold aadRandoms
  split <;> simp

/-- The AAD of a call on data of one transfer fits its buffer. -/
theorem length_aad_le (c : AeadCall) {d : List UInt8} (hd : d.length ≤ aeadMaxProtected) :
    (c.aad d).length ≤ aeadAadMax := by
  have hrandoms := length_aadRandoms_le c.direction c.randoms
  have hdata : d.length ≤ 32 := hd
  show (c.aad d).length ≤ 68
  unfold AeadCall.aad
  split
  · simp only [aadBuild, aadPrefix, List.length_append, List.length_cons, List.length_nil,
      Bool.false_eq_true, if_false]
    omega
  · simp only [aadBuild, aadPrefix, List.length_append, List.length_cons, List.length_nil, if_true]
    omega

/-- **Unique AAD encoding.**  For the calls the two peers make, on data of one transfer:
    equal AADs come from calls that agree in every field, and in the authenticate-only
    mode from equal data; AADs of the two modes differ; and each fits its buffer. -/
theorem aad_unique {c c' : AeadCall} (hc : c.WellFormed) (hc' : c'.WellFormed)
    {d d' : List UInt8} (hd : d.length ≤ aeadMaxProtected) (hd' : d'.length ≤ aeadMaxProtected) :
    (c.aad d = c'.aad d' → c.direction = c'.direction ∧ c.keyId = c'.keyId ∧
      c.serverDev = c'.serverDev ∧ c.clientDev = c'.clientDev ∧ c.dataId = c'.dataId ∧
      c.randoms = c'.randoms ∧ (keyidEncrypt c.keyId = false → d = d')) ∧
    (keyidEncrypt c.keyId = false → keyidEncrypt c'.keyId = true → c.aad d ≠ c'.aad d') ∧
    (c.aad d).length ≤ aeadAadMax ∧ (c'.aad d').length ≤ aeadAadMax := by
  refine ⟨aad_injective hc hc', ?_, length_aad_le c hd, length_aad_le c' hd'⟩
  intro hauth henc h
  have hmode := aad_mode h
  rw [hauth, henc] at hmode
  cases hmode

/-- A call of a write poll, for worked runs. -/
def samplePollCall (keyId : UInt8) : AeadCall where
  key := fun i => UInt8.ofNat i.val
  nonce := zero 12
  direction := dirWritePollRequest
  keyId := keyId
  serverDev := 5
  clientDev := 20
  dataId := 0x20100000
  randoms := none

/-- `aad_unique` for a poll in either mode: the AADs differ, on equal data. -/
theorem samplePollCall_unique :
    (samplePollCall 0x41).aad [1, 2, 3, 4] ≠ (samplePollCall 0xC1).aad [1, 2, 3, 4] ∧
      ((samplePollCall 0x41).aad [1, 2, 3, 4]).length ≤ aeadAadMax :=
  have hauth : (samplePollCall 0x41).WellFormed := ⟨rfl, by decide, by decide⟩
  have henc : (samplePollCall 0xC1).WellFormed := ⟨rfl, by decide, by decide⟩
  have hfits : [1, 2, 3, 4].length ≤ aeadMaxProtected := by decide
  have h := aad_unique hauth henc hfits hfits
  ⟨h.2.1 (by decide) (by decide), h.2.2.1⟩

/-! ## Frames and the seals behind them -/

/-- One performed seal: the call, the plaintext, and what was put on the wire. -/
structure Seal where
  call : AeadCall
  plain : List UInt8
  cipher : List UInt8
  tag : Tag
  deriving DecidableEq

/-- One call of `fbsec_aead_seal`. -/
structure Sealing where
  call : AeadCall
  plain : List UInt8
  out : Option (List UInt8 × Tag)
  deriving DecidableEq

/-- The record is what `fbsec_aead_seal` computes. -/
def Seal.Made (gcm : Gcm) (s : Seal) : Prop :=
  aeadSeal gcm s.call s.plain = some (s.cipher, s.tag)

instance (gcm : Gcm) (s : Seal) : Decidable (s.Made gcm) :=
  inferInstanceAs (Decidable (aeadSeal gcm s.call s.plain = some (s.cipher, s.tag)))

/-- The frame (call, ciphertext, tag) is the one this seal produced: same key,
    nonce, AAD, ciphertext and tag. -/
structure Seal.Justifies (s : Seal) (c : AeadCall) (cipher : List UInt8) (tag : Tag) : Prop where
  key : s.call.key = c.key
  nonce : s.call.nonce = c.nonce
  aad : s.call.aad s.plain = c.aad cipher
  cipher : s.cipher = cipher
  tag : s.tag = tag

instance (s : Seal) (c : AeadCall) (cipher : List UInt8) (tag : Tag) :
    Decidable (s.Justifies c cipher tag) :=
  decidable_of_iff (s.call.key = c.key ∧ s.call.nonce = c.nonce ∧
      s.call.aad s.plain = c.aad cipher ∧ s.cipher = cipher ∧ s.tag = tag)
    ⟨fun h => ⟨h.1, h.2.1, h.2.2.1, h.2.2.2.1, h.2.2.2.2⟩,
      fun h => ⟨h.key, h.nonce, h.aad, h.cipher, h.tag⟩⟩

/-- The seal a peer makes of a plaintext, for a call that does not fail. -/
def sealOf (gcm : Gcm) (call : AeadCall) (plain : List UInt8) : Seal :=
  let out := (aeadSeal gcm call plain).getD ([], zero 16)
  ⟨call, plain, out.1, out.2⟩

/-- What an accepted frame says about the seal behind it: same fields, and the
    plaintext that came out is the one that went in. -/
theorem Seal.Justifies.agree {gcm : Gcm} (hg : gcm.Correct) {s : Seal} {c : AeadCall}
    {cipher plain : List UInt8} {tag : Tag} (hj : s.Justifies c cipher tag)
    (hs : s.Made gcm) (hws : s.call.WellFormed) (hwc : c.WellFormed)
    (hopen : aeadOpen gcm c cipher tag = some plain) : s.call = c ∧ s.plain = plain := by
  obtain ⟨hdir, hkid, hsd, hcd, hdata, hrand, -⟩ := aad_injective hws hwc hj.aad
  have hcall : s.call = c := by
    cases hsc : s.call
    cases c
    have hk := hj.key
    have hn := hj.nonce
    simp_all
  have hopen' : aeadOpen gcm c cipher tag = some s.plain := by
    have := aeadOpen_aeadSeal hg hs
    rwa [hcall, hj.cipher, hj.tag] at this
  rw [hopen] at hopen'
  exact ⟨hcall, (Option.some.inj hopen').symm⟩

/-! ## A sample GCM -/

/-- A stand-in for worked runs: a one-byte keystream and a checksum for the tag. -/
def sampleTag (k : Key) (n : Nonce) (a p : List UInt8) : Tag := fun i =>
  (toList n ++ a ++ p).foldl (fun acc b => acc * 31 + b) (k i)

def sampleGcm : Gcm where
  cryptAndTag k n a p := some (p.map (fun b => b ^^^ (k 0 ^^^ n 0)), sampleTag k n a p)
  authDecrypt k n a c t :=
    let p := c.map (fun b => b ^^^ (k 0 ^^^ n 0))
    if sampleTag k n a p = t then some p else none
  crypt_length := by
    rintro k n a p c t ⟨⟩
    simp
  decrypt_length := by
    intro k n a c t p h
    simp only [Option.ite_none_right_eq_some, Option.some.injEq] at h
    rw [← h.2, List.length_map]

/-- A key and a random for worked runs. -/
def sampleKey : Key := fun i => UInt8.ofNat (7 * i.val + 1)
def sampleRand (n : Nat) : Rand := fun i => UInt8.ofNat (11 * i.val + n)

theorem sampleGcm_correct : sampleGcm.Correct where
  total := fun _ _ _ _ => rfl
  decrypt := by
    rintro k n a p c t ⟨⟩
    have hp : (p.map fun b => b ^^^ (k 0 ^^^ n 0)).map (fun b => b ^^^ (k 0 ^^^ n 0)) = p := by
      simp [Function.comp_def]
    simp only [sampleGcm, hp, if_true]

end SofaAead
