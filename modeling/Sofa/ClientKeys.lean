import Sofa.Config
import Sofa.Hkdf
import Sofa.HexText
import Sofa.Lib.CText

/-! # The client's key store

    `client_common_keys.c` keeps one session key per key id, the key id that the next verb
    uses, and the main key and salt from which a session key can be derived.  Keys come in as
    hex text, from the command line or from the rows of a key file; the setters let the hex
    parser write into the stored bytes.

    * **`derive_documented`**: the derived key is the one that the manual specifies, with the NUL
      of the literal in the info, which the comment in the header leaves out;
    * **`setters_atomic_iff`**: when a setter that fails leaves the store as it was. -/

namespace SofaClientKeys

open ByteBlock SofaConfig SofaHexText SofaHkdf FixedBuffer

/-! ## The store -/

/-- The statics of `client_common_keys.c`: a slot per key id, which of them are loaded, the main
    key and the salt, the selected key id and the mode.  Slot 0 stays zero. -/
structure ClientKeys where
  sessionKeys : UInt8 → Key := fun _ => zero 16
  sessionKeyLoaded : UInt8 → Bool := fun _ => false
  mainKey : Key := zero 16
  mainKeySet : Bool := false
  salt : Block 32 := zero 32
  saltLen : Nat := 0
  keyId : UInt8 := 0
  useEncryption : Bool := true

namespace ClientKeys

variable (k : ClientKeys)

/-- `fbsec_client_keys_set_keyid`. -/
def setKeyid (keyId : UInt8) : ClientKeys := { k with keyId := keyId }

/-- No slot is selected: the key id is 0 or past the last one. -/
def unselected : Bool := k.keyId == 0 || k.keyId > keyidMax

/-- The bytes of a slot replaced, as a parser leaves them. -/
def setBytes (slot : UInt8) (key : Key) : ClientKeys :=
  { k with sessionKeys := Function.update k.sessionKeys slot key }

/-- A slot marked as loaded. -/
def setLoaded (slot : UInt8) : ClientKeys :=
  { k with sessionKeyLoaded := Function.update k.sessionKeyLoaded slot true }

/-- `fbsec_client_keys_set_session`; `none` is a refused key. -/
def setSession (key : Key) : Option ClientKeys :=
  if k.unselected then none else some ((k.setBytes k.keyId key).setLoaded k.keyId)

/-- `fbsec_client_keys_session_set`. -/
def sessionSet : Bool := if k.unselected then false else k.sessionKeyLoaded k.keyId

/-- `fbsec_client_keys_session`. -/
def session : Key := if k.unselected then k.sessionKeys 0 else k.sessionKeys k.keyId

/-- `fbsec_client_keys_effective_keyid`: the base id, and bit 7 for encryption. -/
def effectiveKeyid : UInt8 :=
  if k.keyId == 0 then 0 else keyidBase k.keyId ||| (if k.useEncryption then 0x80 else 0)

/-! ## Keys from hex text -/

/-- `fbsec_client_keys_set_session_from_hex`. -/
def setSessionFromHex (hex : CString) : Bool × ClientKeys :=
  if k.unselected then (false, k)
  else
    let out := parseHexToBuf hex (k.sessionKeys k.keyId) 0
    let parsed := k.setBytes k.keyId out.buf
    if out.rc != 0 || out.len != 16 then (false, parsed) else (true, parsed.setLoaded k.keyId)

/-- `fbsec_client_keys_set_main_from_hex`. -/
def setMainFromHex (hex : CString) : Bool × ClientKeys :=
  let out := parseHexToBuf hex k.mainKey 0
  let parsed := { k with mainKey := out.buf }
  if out.rc != 0 || out.len != 16 then (false, parsed) else (true, { parsed with mainKeySet := true })

/-- `fbsec_client_keys_set_salt_from_hex`. -/
def setSaltFromHex (hex : CString) : Bool × ClientKeys :=
  let out := parseHexToBuf hex k.salt k.saltLen
  let parsed := { k with salt := out.buf, saltLen := out.len }
  if out.rc != 0 || out.len == 0 then (false, parsed) else (true, parsed)

/-! ## Keys from a file -/

/-- The slot and the key text of a row of the key file; `none` is a key id that is no number or
    out of range, or a row without a label or a key.  The optional id column is not read. -/
def rowKey (ulongMax : Nat) : List CString → Option (UInt8 × CString)
  | tKid :: _tLabel :: tKey :: _ =>
      match CText.wholeNumber ulongMax tKid 0 with
      | none => none
      | some kid => if kid = 0 ∨ kid > keyidMax.toNat then none else some (UInt8.ofNat kid, tKey)
  | _ => none

/-- A row in `fbsec_client_keys_load_file`: whether it is taken, and the store after it. -/
def loadRow (ulongMax : Nat) (row : List CString) : Bool × ClientKeys :=
  match rowKey ulongMax row with
  | none => (false, k)
  | some (slot, tKey) =>
      let out := parseHexToBuf tKey (k.sessionKeys slot) 0
      let parsed := k.setBytes slot out.buf
      if out.rc != 0 || out.len != 16 then (false, parsed) else (true, parsed.setLoaded slot)

/-! ## The derived key -/

/-- `FBSEC_CLIENT_KDF_INFO_PREFIX`, the characters `FBSEC-SK-v1`. -/
def kdfInfoPrefix : CString :=
  [0x46, 0x42, 0x53, 0x45, 0x43, 0x2D, 0x53, 0x4B, 0x2D, 0x76, 0x31]

/-- `FBSEC_CLIENT_KDF_INFO_PREFIX_LEN`. -/
abbrev kdfInfoPrefixLen : Nat := 12

/-- The info of a key id: so many bytes of the literal, whose last one is the NUL that ends it,
    and the key id. -/
def kdfInfo (keyId : UInt8) : List UInt8 := (kdfInfoPrefix ++ [0]).take kdfInfoPrefixLen ++ [keyId]

variable {Ctx : Type}

/-- `fbsec_client_keys_derive_session_if_needed`: the return code and the store after it. -/
def deriveSessionIfNeeded (api : Sha256Api Ctx) (stack : Block 32) : Nat × ClientKeys :=
  if !k.mainKeySet then (0, k)
  else if k.unselected then (0, k)
  else if k.sessionKeyLoaded k.keyId then (0, k)
  else
    match hkdfSha256 api stack (toList k.mainKey) ((toList k.salt).take k.saltLen)
        (kdfInfo k.keyId) 16 with
    | none => (1, k)
    | some okm => (0, (k.setBytes k.keyId (slice 16 0 okm)).setLoaded k.keyId)

end ClientKeys

/-- The claim token of `client_common_commission.c`, and whether it replaces the demo one. -/
structure ClaimToken where
  token : Key := zero 16
  set : Bool := false

/-- `fbsec_commission_set_claim_token_hex`. -/
def ClaimToken.setHex (t : ClaimToken) (hex : CString) : Nat × ClaimToken :=
  let out := clientCliParseHex hex t.token 0
  if out.rc != 0 || out.len != 16 then (1, { t with token := out.buf }) else (0, ⟨out.buf, true⟩)

/-! ## Selected slots -/

/-- A slot that a key id selects. -/
def Slot (keyId : UInt8) : Prop := keyId ≠ 0 ∧ keyId ≤ keyidMax

instance (keyId : UInt8) : Decidable (Slot keyId) := inferInstanceAs (Decidable (_ ∧ _))

theorem unselected_setKeyid (k : ClientKeys) {keyId : UInt8} (h : Slot keyId) :
    (k.setKeyid keyId).unselected = false := by
  have hmax : ¬ keyId > keyidMax := UInt8.not_lt.mpr h.2
  simp [ClientKeys.unselected, ClientKeys.setKeyid, h.1, hmax]

@[simp] theorem sessionKeys_setKeyid (k : ClientKeys) (keyId : UInt8) :
    (k.setKeyid keyId).sessionKeys = k.sessionKeys := rfl

@[simp] theorem sessionKeyLoaded_setKeyid (k : ClientKeys) (keyId : UInt8) :
    (k.setKeyid keyId).sessionKeyLoaded = k.sessionKeyLoaded := rfl

@[simp] theorem keyId_setKeyid (k : ClientKeys) (keyId : UInt8) :
    (k.setKeyid keyId).keyId = keyId := rfl

@[simp] theorem setKeyid_setKeyid (k : ClientKeys) (a b : UInt8) :
    (k.setKeyid a).setKeyid b = k.setKeyid b := rfl

theorem sessionSet_setKeyid (k : ClientKeys) {keyId : UInt8} (h : Slot keyId) :
    (k.setKeyid keyId).sessionSet = k.sessionKeyLoaded keyId := by
  rw [ClientKeys.sessionSet, unselected_setKeyid k h]
  rfl

theorem session_setKeyid (k : ClientKeys) {keyId : UInt8} (h : Slot keyId) :
    (k.setKeyid keyId).session = k.sessionKeys keyId := by
  rw [ClientKeys.session, unselected_setKeyid k h]
  rfl

/-- The byte that a verb puts on the wire: the base id is the slot, and the byte asks for
    neither a session nor a reserved bit. -/
theorem effectiveKeyid_setKeyid (k : ClientKeys) {keyId : UInt8} (h : Slot keyId) :
    keyidBase (k.setKeyid keyId).effectiveKeyid = keyId ∧
      keyidReserved (k.setKeyid keyId).effectiveKeyid = 0 ∧
      keyidIsCyclic (k.setKeyid keyId).effectiveKeyid = false := by
  have hall : ∀ kid : UInt8, Slot kid → ∀ b : Bool,
      keyidBase (keyidBase kid ||| (if b then 0x80 else 0)) = kid ∧
        keyidReserved (keyidBase kid ||| (if b then 0x80 else 0)) = 0 ∧
        keyidIsCyclic (keyidBase kid ||| (if b then 0x80 else 0)) = false := by decide +kernel
  have hzero : (keyId == 0) = false := by simpa using h.1
  have hbyte : (k.setKeyid keyId).effectiveKeyid
      = keyidBase keyId ||| (if k.useEncryption then 0x80 else 0) := by
    rw [ClientKeys.effectiveKeyid, keyId_setKeyid, hzero]
    rfl
  rw [hbyte]
  exact hall keyId h k.useEncryption

/-! ## The derived key is the documented one -/

section Derive

variable {Ctx : Type} {api : Sha256Api Ctx} {sha : List UInt8 → Block 32}
  {Absorbed : Ctx → List UInt8 → Prop} {stack : Block 32} {k : ClientKeys} {info : List UInt8}

/-- The salt that is in use. -/
def ClientKeys.usedSalt (k : ClientKeys) : List UInt8 := (toList k.salt).take k.saltLen

/-- The thirteen bytes of the info as the manual specifies them (10.1): the characters, the NUL
    and the key id. -/
def documentedInfo (keyId : UInt8) : List UInt8 := ClientKeys.kdfInfoPrefix ++ [0x00, keyId]

/-- The info as the comment in the header writes it: the characters and the key id. -/
def headerInfo (keyId : UInt8) : List UInt8 := ClientKeys.kdfInfoPrefix ++ [keyId]

/-- The derivation succeeds, with the key for this info in the selected slot and nothing changed
    in another one. -/
structure Derives (sha : List UInt8 → Block 32) (api : Sha256Api Ctx) (stack : Block 32)
    (k : ClientKeys) (info : List UInt8) : Prop where
  ok : (k.deriveSessionIfNeeded api stack).1 = 0
  loaded : (k.deriveSessionIfNeeded api stack).2.sessionKeyLoaded k.keyId = true
  key : toList ((k.deriveSessionIfNeeded api stack).2.sessionKeys k.keyId)
    = Rfc5869.hkdf (Rfc5869.hmac 64 sha) k.usedSalt (toList k.mainKey) info 16
  others : ∀ slot, slot ≠ k.keyId →
    (k.deriveSessionIfNeeded api stack).2.sessionKeys slot = k.sessionKeys slot ∧
    (k.deriveSessionIfNeeded api stack).2.sessionKeyLoaded slot = k.sessionKeyLoaded slot

/-- The copied prefix ends with the NUL of the literal. -/
theorem kdfInfo_eq (keyId : UInt8) : ClientKeys.kdfInfo keyId = documentedInfo keyId := rfl

/-- What the function does: the output for its info goes to the selected slot. -/
theorem derive_run (stack : Block 32) (hapi : Streams api sha Absorbed) (hmain : k.mainKeySet = true)
    (hslot : Slot k.keyId) (hfree : k.sessionKeyLoaded k.keyId = false) :
    k.deriveSessionIfNeeded api stack
      = (0, (k.setBytes k.keyId (slice 16 0 (Rfc5869.hkdf (Rfc5869.hmac 64 sha) k.usedSalt
          (toList k.mainKey) (ClientKeys.kdfInfo k.keyId) 16))).setLoaded k.keyId) := by
  have hselected : k.unselected = false := unselected_setKeyid k hslot
  have hkey : toList k.mainKey ≠ [] :=
    List.ne_nil_of_length_pos (by rw [length_toList]; decide)
  rw [ClientKeys.deriveSessionIfNeeded, hmain, hselected, hfree,
    hkdfSha256_eq hapi stack hkey _ _ (by decide) (by decide)]
  rfl

/-- An output of sixteen bytes is cut from the first block. -/
theorem length_sessionKey (salt ikm : List UInt8) :
    (Rfc5869.hkdf (Rfc5869.hmac 64 sha) salt ikm info 16).length = 16 := by
  rw [Rfc5869.hkdf_one (by decide) (by decide), List.length_take, length_toList]
  rfl

/-- **The derived key is the documented one**: with a main key and no key loaded in the selected
    slot, the slot gets the HKDF output for the thirteen bytes of the manual, and no other slot
    changes. -/
theorem derive_documented (hapi : Streams api sha Absorbed) (hmain : k.mainKeySet = true)
    (hslot : Slot k.keyId) (hfree : k.sessionKeyLoaded k.keyId = false) :
    Derives sha api stack k (documentedInfo k.keyId) := by
  have hrun := derive_run stack hapi hmain hslot hfree
  rw [kdfInfo_eq] at hrun
  refine ⟨by rw [hrun], ?_, ?_, fun slot hne => ?_⟩
  · rw [hrun]
    exact Function.update_self ..
  · rw [hrun]
    show toList (Function.update k.sessionKeys k.keyId _ k.keyId) = _
    rw [Function.update_self, toList_slice _ _ _ (by rw [length_sessionKey]), List.drop_zero,
      List.take_of_length_le (by rw [length_sessionKey])]
  · rw [hrun]
    exact ⟨Function.update_of_ne hne .., Function.update_of_ne hne ..⟩

/-! ### Worked runs -/

/-- A store with a main key, no salt, and an empty slot selected. -/
def sampleMain : ClientKeys := { mainKeySet := true, keyId := 1 }

/-- `derive_documented` in this store, and the key that slot 1 gets. -/
theorem sampleMain_derived :
    Derives Sha256.sha256 bufferedSha256 (zero 32) sampleMain (documentedInfo 1) ∧
      (documentedInfo 1).length = 13 ∧
      toList ((sampleMain.deriveSessionIfNeeded bufferedSha256 (zero 32)).2.sessionKeys 1)
        = [0xC2, 0x84, 0x59, 0xCA, 0xF1, 0x70, 0x44, 0x8E,
          0x15, 0xAB, 0xF7, 0xC2, 0x5F, 0xEF, 0x66, 0x05] :=
  ⟨derive_documented bufferedSha256_streams rfl (by decide) rfl, by decide, by decide +kernel⟩

/-- **Not the key of the comment in the header**: without the NUL in the info, the zero main key
    would give slot 1 another key. -/
theorem sampleMain_undocumented :
    ¬ Derives Sha256.sha256 bufferedSha256 (zero 32) sampleMain (headerInfo 1) := by
  have hdiffer : toList ((sampleMain.deriveSessionIfNeeded bufferedSha256 (zero 32)).2.sessionKeys 1)
      ≠ Rfc5869.hkdf (Rfc5869.hmac 64 Sha256.sha256) sampleMain.usedSalt
        (toList sampleMain.mainKey) (headerInfo 1) 16 := by decide +kernel
  exact fun h => hdiffer h.key

end Derive

/-! ## Setters that fail -/

section Setters

variable {cap : Nat}

/-- A text of a whole key. -/
def KeyText (s : CString) : Prop := HexText 16 s ∧ (digits s).length = 32

instance (s : CString) : Decidable (KeyText s) := inferInstanceAs (Decidable (_ ∧ _))

/-- The bytes that a text spells before its first fault are those at the front of the buffer. -/
def Repeats (buf : Block cap) (s : CString) : Prop := (hexBytes s).take cap <+: toList buf

instance (buf : Block cap) (s : CString) : Decidable (Repeats buf s) :=
  inferInstanceAs (Decidable (_ <+: _))

/-- A list that is stored at the front changes nothing exactly when it is already there. -/
theorem store_eq_self_iff (buf : Block cap) (bytes : List UInt8) :
    store buf 0 bytes = buf ↔ bytes.take cap <+: toList buf := by
  constructor
  · intro h
    rw [List.prefix_iff_getElem]
    refine ⟨by rw [length_toList]; exact List.length_take_le _ _, fun i hi => ?_⟩
    rw [List.length_take] at hi
    have hcell := congrFun h ⟨i, by omega⟩
    have hshort : i < bytes.length := by omega
    have hbyte : bytes[i]? = some bytes[i] := List.getElem?_eq_getElem hshort
    simp only [store, Nat.zero_le, if_true, Nat.sub_zero, hbyte, Option.getD_some] at hcell
    simpa [toList] using hcell
  · intro h
    obtain ⟨hle, hget⟩ := List.prefix_iff_getElem.mp h
    funext i
    simp only [store, Nat.zero_le, if_true, Nat.sub_zero]
    by_cases hi : i.val < bytes.length
    · have hbyte := hget i.val (by rw [List.length_take]; omega)
      rw [List.getElem_take] at hbyte
      simpa [List.getElem?_eq_getElem hi, toList] using hbyte
    · rw [List.getElem?_eq_none (by omega)]
      rfl

/-- How a key is parsed: 16 bytes for the text of a whole key, and a fault otherwise; the bytes
    up to the fault are stored either way. -/
theorem hexResult_key (s : CString) (buf : Key) :
    (hexResult s buf 0).buf = store buf 0 (hexBytes s) ∧
      (((hexResult s buf 0).rc != 0 || (hexResult s buf 0).len != 16) = false ↔ KeyText s) := by
  by_cases htext : HexText 16 s
  · have hcount := (length_hexBytes htext).1
    rw [hexResult_accepted htext]
    refine ⟨rfl, ?_⟩
    have hlen : (hexBytes s).length = 16 ↔ (digits s).length = 32 := by omega
    simp [KeyText, htext, hlen]
  · rw [hexResult_rejected htext]
    exact ⟨rfl, iff_of_false (by simp) fun h => htext h.1⟩

/-- **A key parsed into the stored bytes**: the fault leaves them alone exactly when the text is
    that of a key, so that there is none, or repeats their front. -/
theorem keyFault_iff {S : Type} (s : CString) (buf : Key) (good : S) (bad : Key → S)
    {r : Bool × S} {st : S} (hbad : ∀ key, bad key = st ↔ key = buf)
    (hr : r = if (hexResult s buf 0).rc != 0 || (hexResult s buf 0).len != 16 then
      (false, bad (hexResult s buf 0).buf) else (true, good)) :
    (r.1 = false → r.2 = st) ↔ KeyText s ∨ Repeats buf s := by
  obtain ⟨hbuf, hiff⟩ := hexResult_key s buf
  by_cases hkey : KeyText s
  · rw [hiff.mpr hkey, if_neg (by decide)] at hr
    rw [hr]
    exact iff_of_true (fun h => by cases h) (.inl hkey)
  · rw [Bool.eq_true_of_not_eq_false (mt hiff.mp hkey), if_pos rfl, hbuf] at hr
    rw [hr, or_iff_right hkey]
    show (false = false → bad (store buf 0 (hexBytes s)) = st) ↔ _
    rw [hbad, store_eq_self_iff, Repeats]
    exact ⟨fun h => h rfl, fun h _ => h⟩

variable (k : ClientKeys)

theorem setBytes_eq_self_iff (slot : UInt8) (key : Key) :
    k.setBytes slot key = k ↔ key = k.sessionKeys slot := by
  constructor
  · intro h
    have hslot := congrFun (congrArg ClientKeys.sessionKeys h) slot
    have hself : (k.setBytes slot key).sessionKeys slot = key := by
      rw [ClientKeys.setBytes]
      exact Function.update_self ..
    exact hself.symm.trans hslot
  · rintro rfl
    rw [ClientKeys.setBytes, Function.update_eq_self]

/-- `fbsec_client_keys_set_session_from_hex` leaves the store alone when it fails. -/
theorem setSession_atomic_iff (hex : CString) :
    ((k.setSessionFromHex hex).1 = false → (k.setSessionFromHex hex).2 = k) ↔
      k.unselected = true ∨ KeyText hex ∨ Repeats (k.sessionKeys k.keyId) hex := by
  by_cases hsel : k.unselected = true
  · rw [ClientKeys.setSessionFromHex, if_pos hsel]
    exact iff_of_true (fun _ => rfl) (.inl hsel)
  · rw [or_iff_right hsel]
    refine keyFault_iff hex _ ((k.setBytes k.keyId
      (hexResult hex (k.sessionKeys k.keyId) 0).buf).setLoaded k.keyId) (k.setBytes k.keyId)
      (setBytes_eq_self_iff k k.keyId) ?_
    rw [ClientKeys.setSessionFromHex, if_neg hsel]
    rfl

/-- `fbsec_client_keys_set_main_from_hex`. -/
theorem setMain_atomic_iff (hex : CString) :
    ((k.setMainFromHex hex).1 = false → (k.setMainFromHex hex).2 = k) ↔
      KeyText hex ∨ Repeats k.mainKey hex := by
  refine keyFault_iff hex k.mainKey
    { k with mainKey := (hexResult hex k.mainKey 0).buf, mainKeySet := true }
    (fun key => { k with mainKey := key }) ?_ rfl
  intro key
  constructor
  · intro h
    exact congrArg ClientKeys.mainKey h
  · rintro rfl
    rfl

/-- `fbsec_commission_set_claim_token_hex`. -/
theorem setToken_atomic_iff (t : ClaimToken) (hex : CString) :
    ((t.setHex hex).1 = 1 → (t.setHex hex).2 = t) ↔ KeyText hex ∨ Repeats t.token hex := by
  have hsame : ∀ key, ({ t with token := key } : ClaimToken) = t ↔ key = t.token := by
    intro key
    constructor
    · intro h
      exact congrArg ClaimToken.token h
    · rintro rfl
      rfl
  have hiff := keyFault_iff hex t.token ⟨(hexResult hex t.token 0).buf, true⟩
    (fun key => { t with token := key }) hsame rfl
  rw [← hiff, ClaimToken.setHex, clientCliParseHex]
  split
  · exact ⟨fun h _ => h rfl, fun h _ => h rfl⟩
  · exact iff_of_true (fun h => by cases h) fun h => by cases h

/-- `fbsec_client_keys_set_salt_from_hex`; a text without digits fails, and clears the length. -/
theorem setSalt_atomic_iff (hex : CString) :
    ((k.setSaltFromHex hex).1 = false → (k.setSaltFromHex hex).2 = k) ↔
      if HexText 32 hex then digits hex = [] → k.saltLen = 0 else Repeats k.salt hex := by
  rw [ClientKeys.setSaltFromHex, parseHexToBuf]
  by_cases htext : HexText 32 hex
  · have hcount := (length_hexBytes htext).1
    rw [if_pos htext, hexResult_accepted htext]
    by_cases hnone : digits hex = []
    · have hbytes : hexBytes hex = [] := by
        rw [hnone] at hcount
        exact List.length_eq_zero_iff.mp (by simpa using hcount)
      simp only [hbytes, List.length_nil, bne_self_eq_false, beq_self_eq_true, Bool.false_or, if_true,
        store_nil, true_imp_iff, hnone]
      constructor
      · intro h
        exact (congrArg ClientKeys.saltLen h).symm
      · intro h
        rw [← h]
    · have hsome : (hexBytes hex).length ≠ 0 := by
        have hpos := List.length_pos_iff.mpr hnone
        omega
      simp [hsome, hnone]
  · rw [if_neg htext, hexResult_rejected htext]
    simp only [show ((-1 : Int) != 0) = true from rfl, Bool.true_or, if_true, true_imp_iff]
    rw [Repeats, ← store_eq_self_iff]
    constructor
    · intro h
      exact congrArg ClientKeys.salt h
    · intro h
      rw [h]

/-- A row of the key file. -/
theorem loadRow_atomic_iff (ulongMax : Nat) (row : List CString) :
    ((k.loadRow ulongMax row).1 = false → (k.loadRow ulongMax row).2 = k) ↔
      ∀ slot tKey, ClientKeys.rowKey ulongMax row = some (slot, tKey) →
        KeyText tKey ∨ Repeats (k.sessionKeys slot) tKey := by
  rw [ClientKeys.loadRow]
  cases hrow : ClientKeys.rowKey ulongMax row with
  | none => exact iff_of_true (fun _ => rfl) fun _ _ h => by cases h
  | some found =>
      obtain ⟨slot, tKey⟩ := found
      have hiff := keyFault_iff tKey (k.sessionKeys slot)
        ((k.setBytes slot (hexResult tKey (k.sessionKeys slot) 0).buf).setLoaded slot)
        (k.setBytes slot) (setBytes_eq_self_iff k slot) rfl
      refine hiff.trans ⟨fun h slot' tKey' hfound => ?_, fun h => h slot tKey rfl⟩
      cases hfound
      exact h

/-- **The setters are atomic** exactly for these inputs: where the key or the salt is accepted, or
    the faulty text spells no byte that differs from the stored ones; and a salt without digits
    keeps only an empty salt. -/
theorem setters_atomic_iff (k : ClientKeys) (t : ClaimToken) (ulongMax : Nat) :
    (∀ hex, ((k.setSessionFromHex hex).1 = false → (k.setSessionFromHex hex).2 = k) ↔
      k.unselected = true ∨ KeyText hex ∨ Repeats (k.sessionKeys k.keyId) hex) ∧
    (∀ hex, ((k.setMainFromHex hex).1 = false → (k.setMainFromHex hex).2 = k) ↔
      KeyText hex ∨ Repeats k.mainKey hex) ∧
    (∀ hex, ((k.setSaltFromHex hex).1 = false → (k.setSaltFromHex hex).2 = k) ↔
      if HexText 32 hex then digits hex = [] → k.saltLen = 0 else Repeats k.salt hex) ∧
    (∀ hex, ((t.setHex hex).1 = 1 → (t.setHex hex).2 = t) ↔ KeyText hex ∨ Repeats t.token hex) ∧
    (∀ row, ((k.loadRow ulongMax row).1 = false → (k.loadRow ulongMax row).2 = k) ↔
      ∀ slot tKey, ClientKeys.rowKey ulongMax row = some (slot, tKey) →
        KeyText tKey ∨ Repeats (k.sessionKeys slot) tKey) :=
  ⟨setSession_atomic_iff k, setMain_atomic_iff k, setSalt_atomic_iff k, setToken_atomic_iff t,
    loadRow_atomic_iff k ulongMax⟩

/-! ### A worked run -/

/-- A store with the key of slot 1 loaded and selected. -/
def sampleLoaded : ClientKeys :=
  { sessionKeys := fun _ => fun i => UInt8.ofNat i, sessionKeyLoaded := fun slot => slot == 1, keyId := 1 }

/-- **Half a key**: the text `FF` is refused, and the loaded key begins with it. -/
theorem setSession_overwrites :
    ¬ ((sampleLoaded.setSessionFromHex [0x46, 0x46]).1 = false →
      (sampleLoaded.setSessionFromHex [0x46, 0x46]).2 = sampleLoaded) ∧
    (sampleLoaded.setSessionFromHex [0x46, 0x46]).2.sessionSet = true ∧
    (sampleLoaded.setSessionFromHex [0x46, 0x46]).2.session 0 = 0xFF := by
  have hrefused : (sampleLoaded.setSessionFromHex [0x46, 0x46]).1 = false := by decide +kernel
  have hbyte : (sampleLoaded.setSessionFromHex [0x46, 0x46]).2.session 0 = 0xFF := by
    decide +kernel
  refine ⟨fun h => ?_, by decide +kernel, hbyte⟩
  rw [h hrefused] at hbyte
  exact absurd hbyte (by decide)

end Setters

end SofaClientKeys
