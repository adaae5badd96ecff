import Sofa.Lib.Reading
import Sofa.Lib.CText
import Sofa.VoucherFile

/-! # What a scan makes of a reply

    The menu reads the constant objects of a device without a key and renders each reply.  The
    length of a reply is the device's choice, and the buffer still holds the reply before it.

    * `only_rdU32`: the numbers are read from what was received;
    * **`interpret_inside_iff`**: when a rendering stays inside the reply;
    * **`scan_fresh`**: a scan whose renderings do depends on the replies alone. -/

namespace SofaScan

open Reading CText SofaVoucherFile

/-- Reading the reply, at 32-bit offsets from its start. -/
abbrev ReplyM := Reading UInt32 UInt8

/-- What is behind the pointer. -/
abbrev Memory := UInt32 → UInt8

/-! ## Numbers -/

/-- The loop of `rd_u32le` and `rd_u32be`, over the offsets still to read. -/
def rdU32 (combine : UInt32 → UInt32 → UInt8 → UInt32) (len : UInt32) :
    List UInt32 → UInt32 → ReplyM UInt32
  | [], v => pure v
  | i :: offsets, v =>
      if i < len then do
        let b ← fetch i
        rdU32 combine len offsets (combine i v b)
      else pure v

def rdU32le (len : UInt32) : ReplyM UInt32 :=
  rdU32 (fun i v b => v ||| (b.toUInt32 <<< (8 * i))) len [0, 1, 2, 3] 0

def rdU32be (len : UInt32) : ReplyM UInt32 :=
  rdU32 (fun _ v b => (v <<< 8) ||| b.toUInt32) len [0, 1, 2, 3] 0

/-! ## Text -/

/-- `%08lX`. -/
def hexWord (v : UInt32) : Text :=
  hexByte (v >>> 24).toUInt8 ++ hexByte (v >>> 16).toUInt8 ++ hexByte (v >>> 8).toUInt8
    ++ hexByte v.toUInt8

/-- `%u`. -/
def decimal (n : Nat) : Text := ascii (toString n)

/-- A text for a bit that is set. -/
def flagText (v mask : UInt32) (text : String) : Text := if v &&& mask != 0 then ascii text else []

/-- A list of flags, or `none`. -/
def flagList (name : String) (v : UInt32) (flags : List (UInt32 × String)) : Text :=
  if v == 0 then ascii (name ++ ": none")
  else ascii (name ++ ":") ++ flags.flatMap fun flag => flagText v flag.1 flag.2

/-- `menu_profile_name`. -/
def menuProfileName (p : UInt8) : String :=
  match p with
  | 0x00 => "Custom"
  | 0x01 => "Open"
  | 0x02 => "Claimed"
  | 0x03 => "Authorized"
  | 0x04 => "Identified"
  | 0x05 => "Confidential"
  | _ => "unknown"

/-- `menu_aead_name`. -/
def menuAeadName (bitmap : UInt8) : String :=
  if bitmap &&& 0x01 != 0 then "AES-128-GCM"
  else if bitmap &&& 0x02 != 0 then "AES-256-GCM"
  else if bitmap &&& 0x04 != 0 then "Ascon-128"
  else if bitmap &&& 0x08 != 0 then "ChaCha20-Poly1305"
  else "unknown"

/-- An AEAD and its tag length. -/
def aeadText (v : UInt32) : Text :=
  ascii (menuAeadName v.toUInt8) ++ ascii ", tag " ++ decimal ((v >>> 8) &&& 0xFF).toNat
    ++ ascii " bytes"

def handoverFlags : List (UInt32 × String) := [(0x01, " TOFU"), (0x02, " token"), (0x04, " voucher")]

def levelFlags : List (UInt32 × String) :=
  [(0x01, " Provisioning"), (0x02, " Integrator"), (0x04, " Operator")]

def identityFlags : List (UInt32 × String) := [(0x01, " IDevID"), (0x02, " LDevID"), (0x08, " X509")]

def mechanismFlags : List (UInt32 × String) := [(0x01, " AEAD"), (0x02, " RPK"), (0x04, " X509")]

/-! ## The objects -/

/-- C000h, the capabilities. -/
def capText (sub : UInt8) (v : UInt32) : Option Text :=
  match sub with
  | 0x01 => some (ascii "type word: profile " ++ ascii (menuProfileName (v &&& 0x0FFF).toUInt8)
      ++ ascii ", level C" ++ decimal ((v >>> 12) &&& 0x0F).toNat)
  | 0x02 => some (aeadText v)
  | 0x03 => some (ascii (if v &&& 0x0001 != 0 then "KDF: HKDF-SHA-256" else "KDF: none"))
  | 0x04 => some (ascii (if v &&& 0x0001 != 0 then "signature: Ed25519" else "signature: none"))
  | 0x05 => some (flagList "symmetric key levels" v levelFlags)
  | 0x06 => some (flagList "asymmetric key presence" v identityFlags)
  | 0x07 => some (flagList "claim gates" v handoverFlags)
  | 0x08 => some (flagList "mechanisms" v mechanismFlags)
  | _ => none

/-- C001h, the status; the commissioning byte is read whatever the length. -/
def statusText (sub : UInt8) (v : UInt32) : ReplyM (Option Text) :=
  match sub with
  | 0x01 => do
      let b ← fetch 0
      return some (ascii (if b == 0x01 then "commissioning: commissioned/owned"
        else "commissioning: uncommissioned"))
  | 0x02 => return some (flagList "active claim gate" v handoverFlags)
  | 0x03 => return some (flagList "keys installed" v levelFlags)
  | 0x04 => return some (ascii "active AEAD: " ++ aeadText v)
  | 0x05 => return some (flagList "device identities" v identityFlags)
  | _ => return none

/-- C011h, the key ids. -/
def keyIdText (sub : UInt8) (v : UInt32) : Text :=
  let role := if sub == 0x01 then "Provisioning" else if sub == 0x02 then "Integrator"
    else if sub == 0x03 then "Operator" else "Application"
  if v == 0 then ascii (role ++ " key: empty slot")
  else ascii (role ++ " key id = 0x") ++ hexWord v

/-- The loop over a product code: its characters, and whether all of them can be printed. -/
def productChars (len : UInt32) : List UInt32 → ReplyM (Text × Bool)
  | [] => pure ([], true)
  | i :: offsets =>
      if i < len then do
        let ch ← fetch i
        let rest ← productChars len offsets
        let printable := 0x20 ≤ ch && ch < 0x7F
        return ((if printable then ch else 0x2E) :: rest.1, printable && rest.2)
      else pure ([], true)

/-- 1018h, the identity, which is authored big-endian. -/
def identityText (sub : UInt8) (len : UInt32) : ReplyM (Option Text) := do
  let be ← rdU32be len
  match sub with
  | 0x01 => return some (ascii "Vendor ID = 0x" ++ hexWord be)
  | 0x02 => do
      let asc ← productChars len [0, 1, 2, 3]
      return some (ascii "Product code = 0x" ++ hexWord be
        ++ if asc.2 then ascii " (\"" ++ asc.1 ++ ascii "\")" else [])
  | 0x03 => return some (ascii "Revision = 0x" ++ hexWord be)
  | 0x04 => return some (ascii "Serial number = 0x" ++ hexWord be)
  | _ => return none

/-- The loop that looks for a byte other than zero. -/
def allZero : List UInt32 → ReplyM Bool
  | [] => pure true
  | i :: offsets => do
      let b ← fetch i
      if b != 0 then return false else allZero offsets

/-- The offsets of a reply. -/
def offsets (len : UInt32) : List UInt32 := (List.range len.toNat).map UInt32.ofNat

/-- C021h, the public keys: the first four bytes and the last two, at unsigned offsets. -/
def publicKeyText (sub : UInt8) (len : UInt32) : ReplyM Text := do
  let role := if sub == 0x01 then "Manufacturer" else if sub == 0x02 then "Integrator" else "Public"
  let zero ← allZero (offsets len)
  if zero then return ascii (role ++ " public key: not installed")
  else do
    let b0 ← fetch 0
    let b1 ← fetch 1
    let b2 ← fetch 2
    let b3 ← fetch 3
    let c ← fetch (len - 2)
    let d ← fetch (len - 1)
    return ascii (role ++ " public key: ") ++ hexByte b0 ++ hexByte b1 ++ hexByte b2 ++ hexByte b3
      ++ ascii ".." ++ hexByte c ++ hexByte d ++ ascii " (Ed25519, " ++ decimal len.toNat
      ++ ascii " bytes)"

/-- C022h, the public key types. -/
def keyTypeText : ReplyM Text := do
  let b0 ← fetch 0
  let b1 ← fetch 1
  return ascii "public key type: " ++ ascii (if b0 == 0x01 then "Ed25519" else "reserved")
    ++ ascii ", length " ++ decimal b1.toNat ++ ascii " bytes"

/-- The text of an object, before it is cut to the buffer. -/
def objectText (index : UInt16) (sub : UInt8) (len : UInt32) (v : UInt32) : ReplyM (Option Text) :=
  if index = 0xC000 then return capText sub v
  else if index = 0xC001 then statusText sub v
  else if index = 0xC011 then return some (keyIdText sub v)
  else if index = 0x1018 then identityText sub len
  else if index = 0xC021 then some <$> publicKeyText sub len
  else if index = 0xC022 then some <$> keyTypeText
  else return none

/-- `interpret_sub`; `none` is a pair without a decoding. -/
def interpretSub (index : UInt16) (sub : UInt8) (len : UInt32) (outsz : Nat) :
    ReplyM (Option Text) := do
  let v ← rdU32le len
  let text ← objectText index sub len v
  return text.map (·.take (outsz - 1))

/-! ## The bytes that are read -/

variable {mem : Memory} {len : UInt32}

/-- The numbers are read from what was received. -/
theorem only_rdU32 (combine : UInt32 → UInt32 → UInt8 → UInt32) (is : List UInt32) (v : UInt32) :
    Only (· < len) mem (rdU32 combine len is v) := by
  induction is generalizing v with
  | nil => exact only_pure v
  | cons i is ih =>
      show Only _ _ (if i < len then _ else _)
      split
      · rename_i hi
        exact (only_bind _ _).mpr ⟨(only_fetch i).mpr hi, ih _⟩
      · exact only_pure v

/-- The product code is read from what was received. -/
theorem only_productChars (is : List UInt32) : Only (· < len) mem (productChars len is) := by
  induction is with
  | nil => exact only_pure _
  | cons i is ih =>
      show Only _ _ (if i < len then _ else _)
      split
      · rename_i hi
        exact (only_bind _ _).mpr
          ⟨(only_fetch i).mpr hi, (only_bind _ _).mpr ⟨ih, only_pure _⟩⟩
      · exact only_pure _

/-- The search for a byte other than zero reads what it is given. -/
theorem only_allZero (allowed : UInt32 → Prop) (is : List UInt32) (h : ∀ i ∈ is, allowed i) :
    Only allowed mem (allZero is) := by
  induction is with
  | nil => exact only_pure _
  | cons i is ih =>
      refine (only_bind _ _).mpr ⟨(only_fetch i).mpr (h i List.mem_cons_self), ?_⟩
      show Only _ _ (if _ then _ else _)
      split
      · exact only_pure _
      · exact ih fun j hj => h j (List.mem_cons_of_mem _ hj)

/-- It succeeds if and only if all of them are zero. -/
theorem allZero_iff (is : List UInt32) :
    (allZero is).result mem = true ↔ ∀ i ∈ is, mem i = 0 := by
  induction is with
  | nil => exact ⟨fun _ i hi => absurd hi List.not_mem_nil, fun _ => rfl⟩
  | cons i is ih =>
      rw [List.forall_mem_cons, ← ih]
      show ((if mem i != 0 then pure false else allZero is : ReplyM Bool).result mem) = true ↔ _
      by_cases hi : mem i = 0
      · simp [hi]
      · simp [hi]

/-- The offsets of a reply are those below its length. -/
theorem mem_offsets (i : UInt32) : i ∈ offsets len ↔ i < len := by
  simp only [offsets, List.mem_map, List.mem_range]
  constructor
  · rintro ⟨n, hn, rfl⟩
    rw [UInt32.lt_iff_toNat_lt, UInt32.toNat_ofNat']
    exact lt_of_le_of_lt (Nat.mod_le _ _) hn
  · intro h
    exact ⟨i.toNat, UInt32.lt_iff_toNat_lt.mp h, UInt32.ofNat_toNat⟩

/-- The status is inside, the commissioning byte of an empty reply apart. -/
theorem only_statusText (sub : UInt8) (v : UInt32) :
    Only (· < len) mem (statusText sub v) ↔ ¬ (sub = 1 ∧ len = 0) := by
  by_cases hsub : sub = 1
  · subst hsub
    show Only _ _ (fetch 0 >>= fun b => pure _) ↔ _
    simp only [only_bind, only_fetch, only_pure, and_true, true_and, UInt32.pos_iff_ne_zero]
  · refine iff_of_true ?_ fun h => hsub h.1
    unfold statusText
    split
    · exact absurd rfl hsub
    all_goals exact only_pure _

/-- The identity is inside. -/
theorem only_identityText (sub : UInt8) : Only (· < len) mem (identityText sub len) := by
  refine (only_bind _ _).mpr ⟨only_rdU32 _ _ _, ?_⟩
  split
  · exact only_pure _
  · exact (only_bind _ _).mpr ⟨only_productChars _, only_pure _⟩
  · exact only_pure _
  · exact only_pure _
  · exact only_pure _

/-- A public key is inside when all of it is zero, or when it has four bytes. -/
theorem only_publicKeyText (sub : UInt8) :
    Only (· < len) mem (publicKeyText sub len) ↔ ¬ (len < 4 ∧ ∃ i < len, mem i ≠ 0) := by
  have hsearch : Only (· < len) mem (allZero (offsets len)) :=
    only_allZero _ _ fun i hi => (mem_offsets i).mp hi
  have hzero : (allZero (offsets len)).result mem = true ↔ ¬ ∃ i < len, mem i ≠ 0 := by
    rw [allZero_iff]
    simp only [mem_offsets, not_exists, not_and, not_not]
  unfold publicKeyText
  rw [only_bind, and_iff_right hsearch]
  by_cases h : ∃ i < len, mem i ≠ 0
  · rw [if_neg fun hz => hzero.mp hz h]
    simp only [only_bind, only_fetch, only_pure, and_true, not_and]
    constructor
    · rintro ⟨-, -, -, h3, -, -⟩ hshort
      grind
    · intro hlong
      have hlen : ¬ len < 4 := fun hshort => hlong hshort h
      grind
  · rw [if_pos (hzero.mpr h)]
    exact iff_of_true (only_pure _) fun hover => h hover.2

/-- A key type is inside from two bytes on. -/
theorem only_keyTypeText : Only (· < len) mem keyTypeText ↔ ¬ len < 2 := by
  simp only [keyTypeText, only_bind, only_fetch, only_pure, and_true]
  grind

/-! ## Staying inside the reply -/

/-- The replies that are read past their end: an empty commissioning byte, a public key that is
    not all zero in fewer than four bytes, and a key type in fewer than two. -/
def Overreads (index : UInt16) (sub : UInt8) (len : UInt32) (mem : Memory) : Prop :=
  (index = 0xC001 ∧ sub = 1 ∧ len = 0) ∨ (index = 0xC021 ∧ len < 4 ∧ ∃ i < len, mem i ≠ 0)
    ∨ (index = 0xC022 ∧ len < 2)

/-- Interpreting a reply reads only below its length, and the rendering is the same for every
    buffer with the same reply. -/
def Inside (index : UInt16) (sub : UInt8) (len : UInt32) (outsz : Nat) (mem : Memory) : Prop :=
  (∀ i ∈ places mem (interpretSub index sub len outsz), i < len)
    ∧ ∀ mem' : Memory, (∀ i < len, mem' i = mem i) →
        result mem' (interpretSub index sub len outsz)
          = result mem (interpretSub index sub len outsz)

/-- The text of an object is inside, these replies apart. -/
theorem only_objectText (index : UInt16) (sub : UInt8) (v : UInt32) :
    Only (· < len) mem (objectText index sub len v) ↔ ¬ Overreads index sub len mem := by
  unfold objectText Overreads
  by_cases hC000 : index = 0xC000
  · subst hC000
    simp
  by_cases hC001 : index = 0xC001
  · subst hC001
    simp [only_statusText]
  by_cases hC011 : index = 0xC011
  · subst hC011
    simp
  by_cases h1018 : index = 0x1018
  · subst h1018
    simp [only_identityText]
  by_cases hC021 : index = 0xC021
  · subst hC021
    simp [only_publicKeyText]
  by_cases hC022 : index = 0xC022
  · subst hC022
    simp [only_keyTypeText]
  · simp [*]

/-- **A rendering stays inside the reply** if and only if it is not one of these replies. -/
theorem interpret_inside_iff (index : UInt16) (sub : UInt8) (len : UInt32) (outsz : Nat)
    (mem : Memory) : Inside index sub len outsz mem ↔ ¬ Overreads index sub len mem := by
  have hplaces : Only (· < len) mem (interpretSub index sub len outsz)
      ↔ ¬ Overreads index sub len mem := by
    have hnumber : Only (· < len) mem (rdU32le len) := only_rdU32 _ _ _
    unfold interpretSub
    rw [only_bind, and_iff_right hnumber, only_bind, and_iff_left (only_pure _), only_objectText]
  rw [← hplaces]
  constructor
  · rintro ⟨hbelow, -⟩
    exact hbelow
  · intro hbelow
    exact ⟨hbelow, fun mem' hagree => Only.result_eq hbelow hagree⟩

/-! ## Worked run -/

/-- A public key in one byte other than zero is read at the offset `len - 2`, before the
    buffer. -/
theorem short_key_overread :
    0xFFFFFFFF ∈ places (fun _ => 1) (interpretSub 0xC021 1 1 192)
      ∧ ¬ Inside 0xC021 1 1 192 (fun _ => 1) := by
  have hwild : 0xFFFFFFFF ∈ places (fun _ => 1) (interpretSub 0xC021 1 1 192) := by decide +kernel
  refine ⟨hwild, ?_⟩
  rintro ⟨hbelow, -⟩
  exact absurd (hbelow _ hwild) (by decide)

/-! ## A scan -/

/-- The buffer after a reply: its bytes, and behind them what was there before. -/
def received (bytes : List UInt8) (buf : Memory) : Memory := fun i => bytes.getD i.toNat (buf i)

/-- What the transport's read of a sub-index gives: the bytes of a reply, or a failure. -/
abbrev ReplyOf := UInt8 → Option (List UInt8)

/-- One turn of the loop: the note, and the buffer for the next one. -/
def scanSub (index : UInt16) (replies : ReplyOf) (buf : Memory) (sub : UInt8) :
    Option Text × Memory :=
  match replies sub with
  | none => (none, buf)
  | some bytes =>
      (result (received bytes buf) (interpretSub index sub (UInt32.ofNat bytes.length) 192),
        received bytes buf)

/-- The loop over the sub-indices, which all use one buffer. -/
def scanSubs (index : UInt16) (replies : ReplyOf) : Memory → List UInt8 → List (Option Text)
  | _, [] => []
  | buf, sub :: subs =>
      (scanSub index replies buf sub).1
        :: scanSubs index replies (scanSub index replies buf sub).2 subs

/-- The sub-indices of the loop. -/
def loopSubs (highest : UInt8) : List UInt8 :=
  (List.range highest.toNat).map fun n => UInt8.ofNat (n + 1)

/-- `scan_one_object`: the highest sub-index, which sub 00h carries, and a note for each; `none` is
    a first read that failed. -/
def scanOneObject (index : UInt16) (replies : ReplyOf) (buf : Memory) :
    Option (UInt8 × List (Option Text)) :=
  match replies 0 with
  | none => none
  | some bytes =>
      if bytes.length < 1 then none
      else
        let highest := received bytes buf 0
        some (highest, scanSubs index replies (received bytes buf) (loopSubs highest))

/-- A reply does not depend on the buffer below its length. -/
theorem received_below {bytes : List UInt8} {i : UInt32}
    (hi : i < UInt32.ofNat bytes.length) (buf buf' : Memory) :
    received bytes buf i = received bytes buf' i := by
  have hlt : i.toNat < bytes.length := by
    rw [UInt32.lt_iff_toNat_lt, UInt32.toNat_ofNat'] at hi
    exact lt_of_lt_of_le hi (Nat.mod_le _ _)
  rw [received, received, List.getD_eq_getElem _ _ hlt, List.getD_eq_getElem _ _ hlt]

/-- Every reply fits the buffer, and none that is interpreted is read past its end. -/
def Behaved (index : UInt16) (replies : ReplyOf) : Prop :=
  ∀ sub bytes, replies sub = some bytes → bytes.length ≤ 64 ∧
    (sub ≠ 0 → ∀ buf, Inside index sub (UInt32.ofNat bytes.length) 192 (received bytes buf))

/-- The loop starts behind sub 00h. -/
theorem zero_notMem_loopSubs (highest : UInt8) : 0 ∉ loopSubs highest := by
  intro h
  obtain ⟨n, hn, hzero⟩ := List.mem_map.mp h
  have hbound : n + 1 < 256 := by
    have := UInt8.toNat_lt highest
    have := List.mem_range.mp hn
    omega
  have hvalue := congrArg UInt8.toNat hzero
  rw [UInt8.toNat_ofNat', Nat.mod_eq_of_lt hbound] at hvalue
  exact absurd hvalue (Nat.succ_ne_zero n)

/-- The notes do not depend on the buffer. -/
theorem scanSubs_fresh {index : UInt16} {replies : ReplyOf} (h : Behaved index replies)
    {subs : List UInt8} (hsubs : 0 ∉ subs) (buf buf' : Memory) :
    scanSubs index replies buf subs = scanSubs index replies buf' subs := by
  induction subs generalizing buf buf' with
  | nil => rfl
  | cons sub subs ih =>
      have hnote : (scanSub index replies buf sub).1 = (scanSub index replies buf' sub).1 := by
        unfold scanSub
        cases hreply : replies sub with
        | none => rfl
        | some bytes =>
            have hsub : sub ≠ 0 := fun heq => hsubs (heq ▸ List.mem_cons_self)
            exact ((h sub bytes hreply).2 hsub buf').2 _ fun i hi => received_below hi buf buf'
      show _ :: _ = _ :: _
      rw [hnote, ih fun hmem => hsubs (List.mem_cons_of_mem _ hmem)]

/-- **A scan of an object** whose replies are not read past their ends depends on the replies
    alone. -/
theorem scan_fresh {index : UInt16} {replies : ReplyOf} (h : Behaved index replies)
    (buf buf' : Memory) :
    scanOneObject index replies buf = scanOneObject index replies buf' := by
  unfold scanOneObject
  cases hreply : replies 0 with
  | none => rfl
  | some bytes =>
      by_cases hlen : bytes.length < 1
      · simp only [if_pos hlen]
      · have hbelow : (0 : UInt32) < UInt32.ofNat bytes.length := by
          have hshort := (h 0 bytes hreply).1
          rw [UInt32.lt_iff_toNat_lt, UInt32.toNat_ofNat', Nat.mod_eq_of_lt (by omega)]
          show 0 < bytes.length
          omega
        have hfirst := received_below hbelow buf buf'
        have hnotes := scanSubs_fresh h (zero_notMem_loopSubs (received bytes buf' 0))
          (received bytes buf) (received bytes buf')
        simp only [if_neg hlen, hfirst, hnotes]

/-- After an empty reply the commissioning byte is the one of sub 00h. -/
example : scanOneObject 0xC001 (fun sub => some (if sub = 0 then [1] else [])) (fun _ => 0)
    = some (1, [some (ascii "commissioning: commissioned/owned")]) := by decide +kernel

end SofaScan
