import Sofa.Lib.Hkdf
import Sofa.Lib.Sha256

/-! # The key derivation

    `fbsec_hkdf.c` computes HMAC in two passes over a streaming hash and expands with one
    block of state.  The hash is a parameter: a streaming interface, and the function that it
    computes.

    * `hmacSha256_eq`: the three segments are hashed as one message;
    * `expandBody_reached`: what one round of the loop makes of a state with `n` blocks done;
    * **`hkdf_rfc5869`**: the output is that of RFC 5869, for each length up to 8160, and
      there is none beyond. -/

namespace SofaHkdf

open ByteBlock Rfc5869

/-- `FBSEC_HKDF_HASH_LEN`. -/
abbrev hkdfHashLen : Nat := 32

/-- `FBSEC_HKDF_BLOCK_LEN`. -/
abbrev hkdfBlockLen : Nat := 64

/-! ## The hash -/

/-- `mbedtls_sha256_*`: each call returns 0 on success. -/
structure Sha256Api (Ctx : Type) where
  init : Ctx
  starts : Ctx → Int × Ctx
  update : Ctx → List UInt8 → Int × Ctx
  finish : Ctx → Int × Block 32

/-- The interface streams `sha`: the calls succeed, and the digest is that of everything that
    was passed to `update`, which `Absorbed` says of a context. -/
structure Streams {Ctx : Type} (api : Sha256Api Ctx) (sha : List UInt8 → Block 32)
    (Absorbed : Ctx → List UInt8 → Prop) : Prop where
  starts : (api.starts api.init).1 = 0 ∧ Absorbed (api.starts api.init).2 []
  update : ∀ ctx msg data, Absorbed ctx msg → data ≠ [] →
    (api.update ctx data).1 = 0 ∧ Absorbed (api.update ctx data).2 (msg ++ data)
  finish : ∀ ctx msg, Absorbed ctx msg → api.finish ctx = (0, sha msg)

variable {Ctx : Type}

/-- A result, unless the return code is an error. -/
def checked {α : Type} (r : Int × α) : Option α := if r.1 = 0 then some r.2 else none

namespace Sha256Api

variable (api : Sha256Api Ctx)

/-- `mbedtls_sha256_update`, which the code calls for a segment that is not empty. -/
def updateSome (ctx : Ctx) (data : List UInt8) : Option Ctx :=
  if data ≠ [] then checked (api.update ctx data) else some ctx

/-- `fbsec_sha256`. -/
def sha256 (data : List UInt8) : Option (Block 32) := do
  let ctx ← checked (api.starts api.init)
  let ctx ← api.updateSome ctx data
  checked (api.finish ctx)

/-- The block-sized key: hashed, if it is longer than a block, and padded with zeros. -/
def k0 (key : List UInt8) : Option (Block 64) :=
  if key.length > hkdfBlockLen then (api.sha256 key).map fun digest => slice 64 0 (toList digest)
  else some (slice 64 0 key)

/-- `fbsec_hmac_sha256`.  Only the last hash writes `mac`, when the segments have been read, so
    that a segment may be the same buffer. -/
def hmacSha256 (key msgA msgB msgC : List UInt8) : Option (Block 32) := do
  let k0 ← api.k0 key
  let ipad := xor (fun _ => 0x36) k0
  let opad := xor (fun _ => 0x5C) k0
  let ctx ← checked (api.starts api.init)
  let ctx ← checked (api.update ctx (toList ipad))
  let ctx ← api.updateSome ctx msgA
  let ctx ← api.updateSome ctx msgB
  let ctx ← api.updateSome ctx msgC
  let inner ← checked (api.finish ctx)
  api.sha256 (toList opad ++ toList inner)

end Sha256Api

/-! ## The derivation -/

/-- The variables of the expand loop. -/
structure Expand where
  t : Block 32
  tLen : Nat
  counter : UInt8
  produced : Nat
  okm : List UInt8

variable (api : Sha256Api Ctx)

/-- The loop body: the next block, and as much of it as is still wanted. -/
def expandBody (prk : Block 32) (info : List UInt8) (okmLen : Nat) (s : Expand) :
    Option Expand := do
  let counter := s.counter + 1
  let t ← api.hmacSha256 (toList prk) ((toList s.t).take s.tLen) info [counter]
  let take := if okmLen - s.produced > hkdfHashLen then hkdfHashLen else okmLen - s.produced
  return {
    t
    tLen := hkdfHashLen
    counter
    produced := s.produced + take
    okm := s.okm ++ (toList t).take take }

/-- The loop; `none` is a failed hash, or no fuel. -/
def expandLoop (prk : Block 32) (info : List UInt8) (okmLen : Nat) : Nat → Expand → Option Expand
  | 0, _ => none
  | fuel + 1, s =>
      if s.produced < okmLen then
        (expandBody api prk info okmLen s).bind (expandLoop prk info okmLen fuel)
      else some s

/-- `fbsec_hkdf_sha256`; `none` is the return of `false`.  `stack` is what the uninitialised
    block holds on entry. -/
def hkdfSha256 (stack : Block 32) (ikm salt info : List UInt8) (okmLen : Nat) :
    Option (List UInt8) :=
  if ikm = [] then none
  else if okmLen = 0 then none
  else if okmLen > 255 * hkdfHashLen then none
  else do
    let salt := if salt = [] then toList (zero 32) else salt
    let prk ← api.hmacSha256 salt ikm [] []
    let s ← expandLoop api prk info okmLen (okmLen + 1) ⟨stack, 0, 0, 0, []⟩
    return s.okm

/-! ## The hash and the MAC -/

section Mac

variable {api} {sha : List UInt8 → Block 32} {Absorbed : Ctx → List UInt8 → Prop}

theorem checked_zero {α : Type} {r : Int × α} (h : r.1 = 0) : checked r = some r.2 := if_pos h

/-- What is passed on is absorbed, an empty segment too. -/
theorem updateSome_absorbed (hapi : Streams api sha Absorbed) {ctx : Ctx} {msg : List UInt8}
    (h : Absorbed ctx msg) (data : List UInt8) :
    ∃ ctx', api.updateSome ctx data = some ctx' ∧ Absorbed ctx' (msg ++ data) := by
  rw [Sha256Api.updateSome]
  by_cases hdata : data = []
  · rw [if_neg (not_not.mpr hdata), hdata, List.append_nil]
    exact ⟨ctx, rfl, h⟩
  · obtain ⟨hrc, habs⟩ := hapi.update ctx msg data h hdata
    rw [if_pos hdata, checked_zero hrc]
    exact ⟨_, rfl, habs⟩

theorem finish_absorbed (hapi : Streams api sha Absorbed) {ctx : Ctx} {msg : List UInt8}
    (h : Absorbed ctx msg) : checked (api.finish ctx) = some (sha msg) := by
  rw [hapi.finish ctx msg h]
  rfl

theorem sha256_eq (hapi : Streams api sha Absorbed) (data : List UInt8) :
    api.sha256 data = some (sha data) := by
  obtain ⟨hrc, hstart⟩ := hapi.starts
  obtain ⟨ctx, hupdate, habs⟩ := updateSome_absorbed hapi hstart data
  rw [Sha256Api.sha256, checked_zero hrc, Option.bind_eq_bind, Option.bind_some, hupdate,
    Option.bind_some]
  exact finish_absorbed hapi habs

theorem k0_eq (hapi : Streams api sha Absorbed) (key : List UInt8) :
    api.k0 key = some (hmacKey 64 sha key) := by
  rw [Sha256Api.k0, hmacKey]
  by_cases hlong : key.length > hkdfBlockLen
  · rw [if_pos hlong, if_pos hlong, sha256_eq hapi]
    rfl
  · rw [if_neg hlong, if_neg hlong]

/-- **The MAC** is HMAC of the three segments. -/
theorem hmacSha256_eq (hapi : Streams api sha Absorbed) (key msgA msgB msgC : List UInt8) :
    api.hmacSha256 key msgA msgB msgC = some (hmac 64 sha key (msgA ++ msgB ++ msgC)) := by
  obtain ⟨hrc, hstart⟩ := hapi.starts
  have hpad : toList (xor (fun _ => 0x36) (hmacKey 64 sha key)) ≠ [] :=
    List.ne_nil_of_length_pos (by rw [length_toList]; decide)
  obtain ⟨hrc', hkey⟩ := hapi.update _ _ _ hstart hpad
  obtain ⟨ctxA, hA, habsA⟩ := updateSome_absorbed hapi hkey msgA
  obtain ⟨ctxB, hB, habsB⟩ := updateSome_absorbed hapi habsA msgB
  obtain ⟨ctxC, hC, habsC⟩ := updateSome_absorbed hapi habsB msgC
  unfold Sha256Api.hmacSha256
  rw [k0_eq hapi]
  simp only [Option.bind_eq_bind, Option.bind_some, checked_zero hrc, checked_zero hrc', hA, hB,
    hC, finish_absorbed hapi habsC, sha256_eq hapi]
  rw [hmac]
  simp only [List.nil_append, List.append_assoc]

end Mac

/-! ## The loop -/

section Loop

variable {api} {sha : List UInt8 → Block 32} {Absorbed : Ctx → List UInt8 → Prop}
variable {prk : Block 32} {info : List UInt8} {okmLen : Nat}

/-- What the loop has reached after `n` rounds. -/
structure Reached (sha : List UInt8 → Block 32) (prk : Block 32) (info : List UInt8)
    (okmLen n : Nat) (s : Expand) : Prop where
  block : (toList s.t).take s.tLen = blockT (hmac 64 sha) prk info n
  counter : s.counter = UInt8.ofNat n
  produced : s.produced = min (n * hkdfHashLen) okmLen
  okm : s.okm = (expanded (hmac 64 sha) prk info n).take okmLen

/-- **One round** with bytes still wanted does one block more. -/
theorem expandBody_reached (hapi : Streams api sha Absorbed) {n : Nat} {s : Expand}
    (h : Reached sha prk info okmLen n s) (hmore : s.produced < okmLen) :
    ∃ s', expandBody api prk info okmLen s = some s' ∧
      Reached sha prk info okmLen (n + 1) s' ∧ s.produced < s'.produced := by
  have hshort : n * hkdfHashLen < okmLen := by
    have hproduced := h.produced
    omega
  have hcounter : s.counter + 1 = UInt8.ofNat (n + 1) := by
    rw [h.counter, UInt8.ofNat_add]
    rfl
  have htake : (if okmLen - s.produced > hkdfHashLen then hkdfHashLen else okmLen - s.produced)
      = min hkdfHashLen (okmLen - n * hkdfHashLen) := by
    have hproduced : s.produced = n * hkdfHashLen := by
      rw [h.produced, Nat.min_eq_left hshort.le]
    rw [hproduced]
    split <;> omega
  have hblock : hmac 64 sha (toList prk) ((toList s.t).take s.tLen ++ info ++ [s.counter + 1])
      = hmac 64 sha (toList prk)
        (blockT (hmac 64 sha) prk info n ++ info ++ [UInt8.ofNat (n + 1)]) := by
    rw [h.block, hcounter]
  refine ⟨_, by
    rw [expandBody, hmacSha256_eq hapi, hblock, htake, hcounter]
    rfl, ⟨?_, rfl, ?_, ?_⟩, ?_⟩
  · exact List.take_of_length_le (by rw [length_toList])
  · show s.produced + min hkdfHashLen (okmLen - n * hkdfHashLen) = _
    rw [h.produced]
    show min (n * 32) okmLen + min 32 (okmLen - n * 32) = min ((n + 1) * 32) okmLen
    omega
  · -- the block is cut where the output ends
    have hlen : (expanded (hmac 64 sha) prk info n).length = n * hkdfHashLen := length_expanded n
    show s.okm ++ List.take _ (blockT (hmac 64 sha) prk info (n + 1)) = _
    have hall : (blockT (hmac 64 sha) prk info (n + 1)).length ≤ hkdfHashLen := by
      rw [blockT, length_toList]
    rw [h.okm, expanded, List.take_append, hlen, Nat.min_comm, ← List.take_take,
      List.take_of_length_le hall]
  · have hleft : 0 < okmLen - n * 32 := Nat.sub_pos_of_lt hshort
    show s.produced < s.produced + min 32 (okmLen - n * 32)
    omega

/-- The loop ends with the output, when the fuel covers what is still wanted. -/
theorem expandLoop_reached (hapi : Streams api sha Absorbed) {fuel n : Nat} {s : Expand}
    (h : Reached sha prk info okmLen n s) (hfuel : okmLen < s.produced + fuel) :
    ∃ s', expandLoop api prk info okmLen fuel s = some s' ∧
      s'.okm = expand (hmac 64 sha) prk info okmLen := by
  induction fuel generalizing n s with
  | zero =>
      have hproduced := h.produced
      omega
  | succ fuel ih =>
      rw [expandLoop]
      by_cases hmore : s.produced < okmLen
      · obtain ⟨s', hbody, hreached, hgrown⟩ := expandBody_reached hapi h hmore
        rw [if_pos hmore, hbody, Option.bind_some]
        exact ih hreached (by omega)
      · have henough : okmLen ≤ n * hkdfHashLen := by
          have hproduced := h.produced
          omega
        rw [if_neg hmore]
        exact ⟨s, rfl, h.okm.trans (take_expanded (by decide) henough)⟩

/-- The derivation, for a length that it accepts. -/
theorem hkdfSha256_eq (hapi : Streams api sha Absorbed) (stack : Block 32) {ikm : List UInt8}
    (hikm : ikm ≠ []) (salt info : List UInt8) {okmLen : Nat} (hpos : 1 ≤ okmLen)
    (hmax : okmLen ≤ 8160) :
    hkdfSha256 api stack ikm salt info okmLen
      = some (hkdf (hmac 64 sha) salt ikm info okmLen) := by
  have hfirst : Reached sha (extract (hmac 64 sha) salt ikm) info okmLen 0
      ⟨stack, 0, 0, 0, []⟩ := by
    refine ⟨rfl, rfl, ?_, ?_⟩
    · simp
    · simp [expanded]
  obtain ⟨s, hloop, hokm⟩ := expandLoop_reached hapi hfirst
    (show okmLen < 0 + (okmLen + 1) by omega)
  rw [hkdfSha256, if_neg hikm, if_neg (by omega), if_neg (by show ¬ okmLen > 255 * 32; omega)]
  simp only [hmacSha256_eq hapi, List.append_nil, Option.bind_eq_bind, Option.bind_some]
  rw [extract] at hloop
  rw [hloop, Option.bind_some, hokm]
  rfl

/-- **The key derivation is HKDF**: with a key, every length from 1 to 8160 gives the output of
    RFC 5869, a shorter one is a prefix of a longer one, and no longer one is given. -/
theorem hkdf_rfc5869 (hapi : Streams api sha Absorbed) (ikm salt info : List UInt8)
    (hikm : ikm ≠ []) :
    (∀ stack len, 1 ≤ len → len ≤ 8160 → hkdfSha256 api stack ikm salt info len
      = some (hkdf (hmac 64 sha) salt ikm info len)) ∧
    (∀ stack stack' len len' okm okm', len ≤ len' →
      hkdfSha256 api stack ikm salt info len = some okm →
      hkdfSha256 api stack' ikm salt info len' = some okm' → okm <+: okm') ∧
    (∀ stack len, 8160 < len → hkdfSha256 api stack ikm salt info len = none) := by
  have hlong : ∀ stack len, 8160 < len → hkdfSha256 api stack ikm salt info len = none := by
    intro stack len hlen
    rw [hkdfSha256, if_neg hikm, if_neg (by omega), if_pos (show len > 255 * 32 by omega)]
  have hall : ∀ stack len okm, hkdfSha256 api stack ikm salt info len = some okm →
      okm = hkdf (hmac 64 sha) salt ikm info len := by
    intro stack len okm hrun
    have hpos : 1 ≤ len := by
      by_contra hzero
      rw [hkdfSha256, if_neg hikm, if_pos (by omega)] at hrun
      cases hrun
    have hmax : len ≤ 8160 := by
      by_contra hno
      rw [hlong stack len (by omega)] at hrun
      cases hrun
    rw [hkdfSha256_eq hapi stack hikm salt info hpos hmax] at hrun
    exact (Option.some.inj hrun).symm
  refine ⟨fun stack len hpos hmax => hkdfSha256_eq hapi stack hikm salt info hpos hmax, ?_, hlong⟩
  intro stack stack' len len' okm okm' hle hshort hlonger
  rw [hall stack len okm hshort, hall stack' len' okm' hlonger]
  exact hkdf_prefix (by decide) hle

end Loop

/-! ## A worked run -/

/-- The interface that keeps the message and hashes it at the end. -/
def bufferedSha256 : Sha256Api (List UInt8) where
  init := []
  starts _ := (0, [])
  update ctx data := (0, ctx ++ data)
  finish ctx := (0, Sha256.sha256 ctx)

theorem bufferedSha256_streams :
    Streams bufferedSha256 Sha256.sha256 fun ctx msg => ctx = msg where
  starts := ⟨rfl, rfl⟩
  update ctx msg data h _ := ⟨rfl, by rw [h]; rfl⟩
  finish ctx msg h := by rw [h]; rfl

/-- `hkdf_rfc5869` for the first key and info of the RFC's own vectors. -/
theorem hkdf_rfc5869_sample :
    hkdfSha256 bufferedSha256 (zero 32) (List.replicate 22 0x0B)
      [0, 1, 2, 3, 4, 5, 6, 7, 8, 9, 10, 11, 12] [0xF0, 0xF1, 0xF2, 0xF3] 42
      = some (hkdf (hmac 64 Sha256.sha256) [0, 1, 2, 3, 4, 5, 6, 7, 8, 9, 10, 11, 12]
        (List.replicate 22 0x0B) [0xF0, 0xF1, 0xF2, 0xF3] 42) :=
  (hkdf_rfc5869 bufferedSha256_streams (List.replicate 22 0x0B)
    [0, 1, 2, 3, 4, 5, 6, 7, 8, 9, 10, 11, 12] [0xF0, 0xF1, 0xF2, 0xF3] (by decide)).1
    (zero 32) 42 (by decide) (by decide)

/-- And the first sixteen bytes of that vector's output. -/
example : hkdf (hmac 64 Sha256.sha256) [0, 1, 2, 3, 4, 5, 6, 7, 8, 9, 10, 11, 12]
    (List.replicate 22 0x0B) [0xF0, 0xF1, 0xF2, 0xF3, 0xF4, 0xF5, 0xF6, 0xF7, 0xF8, 0xF9] 16
    = [0x3c, 0xb2, 0x5f, 0x25, 0xfa, 0xac, 0xd5, 0x7a, 0x90, 0x43, 0x4f, 0x64, 0xd0, 0x36, 0x2f,
      0x2a] := by
  decide +kernel

end SofaHkdf
