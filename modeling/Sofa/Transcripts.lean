import Sofa.Handover

/-! # Signed transcripts

    Eight exchanges sign under one domain separator, told apart by a role byte.  Three of
    them, the signed read, the signed write and the function command, sign a body that the
    tool and the device build independently, with a value of variable length at its end.

    * `clientSignedBody`: the tool's builder;
    * `SignedMessage`: what the eight exchanges sign, and `SignedMessage.transcript` with the
      bytes they sign it under;
    * **`transcripts_unambiguous`**: both builders agree and fit their buffers, a transcript
      of a signed access names every field of it, and transcripts of different roles differ,
      for bodies of up to 65520 bytes.

    The length of a transcript is added up in 16 bits: past 65520 bytes of body the call
    writes beyond its caller's buffer, which `SofaTranscriptBuffer` settles.  No caller comes
    near that. -/

namespace SofaTranscripts

open ByteBlock SofaConfig SofaAsym SofaDevice SofaHandover

/-! ## Bodies -/

/-- The tool's `build_signed_body`: server, client, object, length, both nonces, value. -/
def clientSignedBody (serverId clientId : UInt16) (objMux : UInt32)
    (clientNonce serverNonce : RpkNonce) (value : List UInt8) : List UInt8 :=
  putU16le serverId ++ putU16le clientId ++ putU32le objMux
    ++ putU16le (UInt16.ofNat value.length) ++ toList clientNonce ++ toList serverNonce ++ value

/-- `RPK_BODY_MAX`, of the tool and of the device. -/
abbrev rpkBodyMax : Nat := 64

/-- A signed access: what its body is made of.  No value is longer than one transfer. -/
structure SignedAccess where
  server : UInt16
  client : UInt16
  object : UInt32
  clientNonce : RpkNonce
  serverNonce : RpkNonce
  value : List UInt8
  short : value.length ≤ rpkValueMax

/-- The body as the device builds it. -/
def SignedAccess.body (a : SignedAccess) : List UInt8 :=
  buildSignedBody a.server a.client a.object (toList a.clientNonce) a.serverNonce a.value

theorem SignedAccess.length_body (a : SignedAccess) : a.body.length = 42 + a.value.length := by
  simp only [body, buildSignedBody, putU16le, putU32le, List.length_append, List.length_cons,
    List.length_nil, length_toList]

/-- What an exchange signs, by its role. -/
inductive SignedMessage where
  | idevidCert (serial : Serial) (key : Pubkey)
  | identityRead (serial : Serial) (key : Pubkey) (rt : RpkNonce)
  | ldevidExport (key : Pubkey)
  | voucher (serial : Serial) (owner : Pubkey) (epoch : UInt32)
  | provisioning (key : Key)
  | genericRead (access : SignedAccess)
  | genericWrite (access : SignedAccess)
  | command (access : SignedAccess)

def SignedMessage.role : SignedMessage → UInt8
  | .idevidCert .. => roleIdevidCert
  | .identityRead .. => roleIdentityRead
  | .ldevidExport _ => roleLdevidExport
  | .voucher .. => roleVoucher
  | .provisioning _ => rolePkinstallAck
  | .genericRead _ => roleGenericRead
  | .genericWrite _ => roleGenericWrite
  | .command _ => roleFunctionCmd

def SignedMessage.body : SignedMessage → List UInt8
  | .idevidCert serial key => identityBlob serial key
  | .identityRead serial key rt => identityBlob serial key ++ toList rt
  | .ldevidExport key => toList key
  | .voucher serial owner epoch => toList serial ++ toList owner ++ putU32le epoch
  | .provisioning key => toList key
  | .genericRead a | .genericWrite a | .command a => a.body

/-- The transcript of a message, in a buffer that holds it. -/
def SignedMessage.transcript (m : SignedMessage) : List UInt8 :=
  asymTranscript m.role m.body (asymTranscriptOverhead + m.body.length)

/-! ## Numbers -/

theorem putU16le_inj {a b : UInt16} (h : putU16le a = putU16le b) : a = b := by
  simp only [putU16le, List.cons.injEq, and_true] at h
  have h0 := congrArg UInt8.toNat h.1
  have h1 := congrArg UInt8.toNat h.2
  have ha := a.toNat_lt
  have hb := b.toNat_lt
  simp [Nat.shiftRight_eq_div_pow] at h0 h1
  apply UInt16.toNat.inj
  omega

/-- Reading a 16-bit number from its two bytes gives it back. -/
theorem putU16le_load (v : UInt16) :
    v.toUInt8.toUInt16 ||| ((v >>> 8).toUInt8.toUInt16 <<< 8) = v := by
  have hlt := v.toNat_lt
  apply UInt16.toNat.inj
  rw [UInt16.toNat_or]
  simp [Nat.shiftRight_eq_div_pow, Nat.shiftLeft_eq]
  have hhigh : v.toNat / 256 % 256 * 256 % 65536 = 2 ^ 8 * (v.toNat / 256) := by omega
  rw [hhigh, Nat.or_comm, ← Nat.two_pow_add_eq_or_of_lt (by omega)]
  omega

theorem putU32le_inj {a b : UInt32} (h : putU32le a = putU32le b) : a = b := by
  simp only [putU32le, List.cons.injEq, and_true] at h
  have h0 := congrArg UInt8.toNat h.1
  have h1 := congrArg UInt8.toNat h.2.1
  have h2 := congrArg UInt8.toNat h.2.2.1
  have h3 := congrArg UInt8.toNat h.2.2.2
  have ha := a.toNat_lt
  have hb := b.toNat_lt
  simp [Nat.shiftRight_eq_div_pow] at h0 h1 h2 h3
  apply UInt32.toNat.inj
  omega

/-! ## Bodies name their fields -/

/-- **The body of a signed access** is read field by field: all but the value have a fixed
    length, and the value is the rest. -/
theorem SignedAccess.body_inj {a b : SignedAccess} (h : a.body = b.body) : a = b := by
  obtain ⟨server, client, object, clientNonce, serverNonce, value, short⟩ := a
  obtain ⟨server', client', object', clientNonce', serverNonce', value', short'⟩ := b
  simp only [body, buildSignedBody, List.append_assoc] at h
  obtain ⟨hserver, h⟩ := List.append_inj h rfl
  obtain ⟨hclient, h⟩ := List.append_inj h rfl
  obtain ⟨hobject, h⟩ := List.append_inj h rfl
  obtain ⟨-, h⟩ := List.append_inj h rfl
  obtain ⟨hclientNonce, h⟩ := List.append_inj h (by simp)
  obtain ⟨hserverNonce, hvalue⟩ := List.append_inj h (by simp)
  cases putU16le_inj hserver
  cases putU16le_inj hclient
  cases putU32le_inj hobject
  cases toList_inj.mp hclientNonce
  cases toList_inj.mp hserverNonce
  cases hvalue
  rfl

theorem identityBlob_inj {serial serial' : Serial} {key key' : Pubkey} {rest rest' : List UInt8}
    (h : identityBlob serial key ++ rest = identityBlob serial' key' ++ rest') :
    serial = serial' ∧ key = key' ∧ rest = rest' := by
  simp only [identityBlob, List.append_assoc] at h
  obtain ⟨hserial, h⟩ := List.append_inj h (by simp)
  obtain ⟨hkey, h⟩ := List.append_inj h (by simp)
  exact ⟨toList_inj.mp hserial, toList_inj.mp hkey, h⟩

/-- In one role the body names the message. -/
theorem SignedMessage.body_inj {m m' : SignedMessage} (hrole : m.role = m'.role)
    (h : m.body = m'.body) : m = m' := by
  cases m <;> cases m' <;>
    first | (simp only [role] at hrole; exact absurd hrole (by decide)) | skip
  case idevidCert.idevidCert serial key serial' key' =>
    have hblob : identityBlob serial key ++ [] = identityBlob serial' key' ++ [] := by
      rw [List.append_nil, List.append_nil]
      exact h
    obtain ⟨rfl, rfl, -⟩ := identityBlob_inj hblob
    rfl
  case identityRead.identityRead serial key rt serial' key' rt' =>
    obtain ⟨rfl, rfl, hrt⟩ := identityBlob_inj h
    rw [toList_inj.mp hrt]
  case ldevidExport.ldevidExport key key' =>
    rw [toList_inj.mp h]
  case voucher.voucher serial owner epoch serial' owner' epoch' =>
    simp only [body, List.append_assoc] at h
    obtain ⟨hserial, h⟩ := List.append_inj h (by simp)
    obtain ⟨howner, hepoch⟩ := List.append_inj h (by simp)
    rw [toList_inj.mp hserial, toList_inj.mp howner, putU32le_inj hepoch]
  case provisioning.provisioning key key' =>
    rw [toList_inj.mp h]
  case genericRead.genericRead a a' =>
    rw [SignedAccess.body_inj h]
  case genericWrite.genericWrite a a' =>
    rw [SignedAccess.body_inj h]
  case command.command a a' =>
    rw [SignedAccess.body_inj h]

/-! ## Transcripts name their messages -/

theorem SignedMessage.length_body (m : SignedMessage) : m.body.length ≤ 58 := by
  cases m with
  | genericRead a | genericWrite a | command a =>
      have hlen := a.length_body
      have hshort : a.value.length ≤ 16 := a.short
      show a.body.length ≤ 58
      omega
  | idevidCert serial key => simp [body, identityBlob]
  | identityRead serial key rt => simp [body, identityBlob]
  | ldevidExport key => simp [body]
  | voucher serial owner epoch => simp [body, putU32le]
  | provisioning key => simp [body]

/-- Every message has a transcript. -/
theorem SignedMessage.transcript_eq (m : SignedMessage) :
    m.transcript = asymDomain ++ [0x00, asymSigAlg, m.role] ++ m.body := by
  have hbody := m.length_body
  refine asymTranscript_of_fits le_rfl ?_
  show 15 + m.body.length < 65536
  omega

/-- **One transcript, one message.** -/
theorem SignedMessage.transcript_inj {m m' : SignedMessage} (h : m.transcript = m'.transcript) :
    m = m' := by
  have hbody := m.length_body
  have hbody' := m'.length_body
  have hmax : asymTranscriptOverhead + m.body.length < 2 ^ 16 := by
    show 15 + m.body.length < 65536
    omega
  have hmax' : asymTranscriptOverhead + m'.body.length < 2 ^ 16 := by
    show 15 + m'.body.length < 65536
    omega
  obtain ⟨hrole, hsame⟩ := asymTranscript_injective le_rfl le_rfl hmax hmax' h
  exact SignedMessage.body_inj hrole hsame

/-- A transcript that is made, of a body whose length the 16 bits of the computation hold,
    ends in that body. -/
theorem transcript_made {role : UInt8} {body : List UInt8} {outMax : Nat}
    (hlen : asymTranscriptOverhead + body.length < 2 ^ 16)
    (hmade : asymTranscript role body outMax ≠ []) :
    asymTranscript role body outMax = asymDomain ++ [0x00, asymSigAlg, role] ++ body := by
  have hoverhead : (asymDomain ++ [0x00, asymSigAlg, role]).length = asymTranscriptOverhead := rfl
  unfold asymTranscript at hmade ⊢
  rw [Nat.mod_eq_of_lt hlen] at hmade ⊢
  simp only at hmade ⊢
  split at hmade
  · exact absurd rfl hmade
  · rename_i hfits
    rw [if_neg hfits, List.take_of_length_le]
    rw [List.length_append, hoverhead]

/-- The body of an access fits its buffer, and so does its transcript. -/
theorem SignedAccess.fits (a : SignedAccess) : a.body.length ≤ rpkBodyMax := by
  have hlen := a.length_body
  have hshort : a.value.length ≤ 16 := a.short
  show a.body.length ≤ 64
  omega

theorem SignedAccess.room (a : SignedAccess) :
    asymTranscriptOverhead + a.body.length ≤ rpkTranscriptMax := by
  have h : a.body.length ≤ 64 := a.fits
  show 15 + a.body.length ≤ 64 + 15
  omega

theorem SignedAccess.transcript_eq (a : SignedAccess) (role : UInt8) :
    asymTranscript role a.body rpkTranscriptMax
      = asymDomain ++ [0x00, asymSigAlg, role] ++ a.body :=
  asymTranscript_of_fits a.room (by decide)

/-- The roles of two equal transcripts are equal, for all bodies the 16-bit length covers. -/
theorem transcript_role {role role' : UInt8} {body body' : List UInt8} {outMax outMax' : Nat}
    (hlen : asymTranscriptOverhead + body.length < 2 ^ 16)
    (hlen' : asymTranscriptOverhead + body'.length < 2 ^ 16)
    (hmade : asymTranscript role body outMax ≠ [])
    (h : asymTranscript role body outMax = asymTranscript role' body' outMax') :
    role = role' := by
  have hmade' : asymTranscript role' body' outMax' ≠ [] := by rwa [← h]
  rw [transcript_made hlen hmade, transcript_made hlen' hmade'] at h
  simp only [asymDomain, List.cons_append, List.nil_append, List.cons.injEq, true_and] at h
  exact h.1

/-- **Signed transcripts are unambiguous and agreed.**  For every access the two builders make
    the same body, and it and its transcript fit their buffers; equal transcripts of signed
    accesses are of one role and one access; and transcripts of different roles differ, for
    all bodies of up to 65520 bytes.  A longer body overruns the caller's buffer. -/
theorem transcripts_unambiguous :
    (∀ a : SignedAccess,
      clientSignedBody a.server a.client a.object a.clientNonce a.serverNonce a.value = a.body ∧
        a.body.length ≤ rpkBodyMax ∧
        ∀ role, asymTranscript role a.body rpkTranscriptMax =
          asymDomain ++ [0x00, asymSigAlg, role] ++ a.body) ∧
    (∀ (a a' : SignedAccess) (role role' : UInt8),
      asymTranscript role a.body rpkTranscriptMax = asymTranscript role' a'.body rpkTranscriptMax →
        role = role' ∧ a = a') ∧
    (∀ m m' : SignedMessage, m.transcript = m'.transcript → m = m') ∧
    ∀ (role role' : UInt8) (body body' : List UInt8) (outMax outMax' : Nat),
      asymTranscriptOverhead + body.length < 2 ^ 16 →
      asymTranscriptOverhead + body'.length < 2 ^ 16 → role ≠ role' →
      asymTranscript role body outMax ≠ [] →
      asymTranscript role body outMax ≠ asymTranscript role' body' outMax' := by
  refine ⟨fun a => ⟨rfl, a.fits, a.transcript_eq⟩, fun a a' role role' h => ?_,
    fun m m' h => SignedMessage.transcript_inj h,
    fun role role' body body' outMax outMax' hlen hlen' hne hmade h => ?_⟩
  · obtain ⟨hrole, hbody⟩ := asymTranscript_injective a.room a'.room (by decide) (by decide) h
    exact ⟨hrole, SignedAccess.body_inj hbody⟩
  · exact hne (transcript_role hlen hlen' hmade h)

/-- A signed write and a function command over the same bytes. -/
theorem sampleTranscripts_differ :
    asymTranscript roleGenericWrite [1] 100 ≠ asymTranscript roleFunctionCmd [1] 100 :=
  transcripts_unambiguous.2.2.2 _ _ [1] [1] 100 100 (by decide) (by decide) (by decide) (by decide)

end SofaTranscripts
