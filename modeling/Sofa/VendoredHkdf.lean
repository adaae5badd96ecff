import Sofa.Hkdf
import Sofa.MbedtlsSha256

/-! # The key derivation over the vendored SHA-256

    `fbsec_hkdf.c` with the hash that it is linked with.  The calls of the library stream the
    hash of the standard for every segment whose length 32 bits can tell; a hash that takes a
    longer one byte by byte agrees with it on all others, and streams without a limit.

    * `vendoredSha256`: the calls of the library; `bytewise_streams`: the hash without a limit;
    * `hkdf_agree`: two hashes that agree on short segments derive the same keys;
    * **`vendored_hkdf`**: the derivation is HKDF-SHA-256 of RFC 5869. -/

namespace SofaVendoredHkdf

open ByteBlock Rfc5869 SofaHkdf SofaMbedtlsSha256

/-! ## The calls -/

/-- A return code and a context; a call that fails leaves one that is not read again. -/
def outcome {α : Type} (old : α) (r : Except Int α) : Int × α :=
  match r with
  | .ok new => (0, new)
  | .error code => (code, old)

/-- `mbedtls_sha256_*`, as `fbsec_hkdf.c` calls them. -/
def vendoredSha256 : Sha256Api ShaContext where
  init := ⟨zero 64, 0, 0, fun _ => 0⟩
  starts ctx := outcome ctx (starts ctx 0)
  update ctx data := outcome ctx (update ctx data)
  finish ctx := (0, slice 32 0 (finish ctx))

/-- The same hash, but for segments of 2 ^ 32 bytes and more, which it takes byte by byte. -/
def bytewiseSha256 : Sha256Api ShaContext where
  init := vendoredSha256.init
  starts := vendoredSha256.starts
  update ctx data :=
    if data.length < 2 ^ 32 then vendoredSha256.update ctx data
    else outcome ctx ((data.map fun b => [b]).foldlM update ctx)
  finish := vendoredSha256.finish

/-- **The hash without a limit** streams SHA-256. -/
theorem bytewise_streams : Streams bytewiseSha256 Sha256.sha256 Absorbed where
  starts := by
    obtain ⟨ctx, hstart, habs⟩ := starts_absorbed vendoredSha256.init
    have hcall : bytewiseSha256.starts bytewiseSha256.init = (0, ctx) :=
      congrArg (outcome vendoredSha256.init) hstart
    rw [hcall]
    exact ⟨rfl, habs⟩
  update := by
    intro ctx msg data habs _
    by_cases hshort : data.length < 2 ^ 32
    · obtain ⟨ctx', hupdate, habs'⟩ := update_absorbed habs hshort
      have hcall : bytewiseSha256.update ctx data = (0, ctx') :=
        (if_pos hshort).trans (congrArg (outcome ctx) hupdate)
      rw [hcall]
      exact ⟨rfl, habs'⟩
    · have hbytes : ∀ p ∈ data.map fun b => [b], p.length < 2 ^ 32 := by
        intro p hp
        obtain ⟨b, -, rfl⟩ := List.mem_map.mp hp
        exact (by decide : 1 < 2 ^ 32)
      have hall : (data.map fun b => [b]).flatten = data := by
        rw [← List.flatMap_def]
        exact List.flatMap_singleton' data
      obtain ⟨ctx', hupdates, habs'⟩ := updates_absorbed hbytes habs
      have hcall : bytewiseSha256.update ctx data = (0, ctx') :=
        (if_neg hshort).trans (congrArg (outcome ctx) hupdates)
      rw [hcall]
      rw [hall] at habs'
      exact ⟨rfl, habs'⟩
  finish := by
    intro ctx msg habs
    show ((0 : Int), slice 32 0 (finish ctx)) = _
    rw [finish_standard habs, slice_toList]

/-! ## Hashes that agree -/

section Agree

variable {Ctx : Type} {api api' : Sha256Api Ctx}

/-- The two agree, but for segments of 2 ^ 32 bytes and more. -/
structure Agree (api api' : Sha256Api Ctx) : Prop where
  init : api.init = api'.init
  starts : api.starts = api'.starts
  update : ∀ ctx data, data.length < 2 ^ 32 → api.update ctx data = api'.update ctx data
  finish : api.finish = api'.finish

theorem updateSome_agree (h : Agree api api') (ctx : Ctx) {data : List UInt8}
    (hdata : data.length < 2 ^ 32) : api.updateSome ctx data = api'.updateSome ctx data := by
  rw [Sha256Api.updateSome, Sha256Api.updateSome, h.update ctx data hdata]

theorem sha256_agree (h : Agree api api') {data : List UInt8} (hdata : data.length < 2 ^ 32) :
    api.sha256 data = api'.sha256 data := by
  rw [Sha256Api.sha256, Sha256Api.sha256, h.init, h.starts, h.finish]
  simp only [updateSome_agree h _ hdata]

theorem k0_agree (h : Agree api api') {key : List UInt8} (hkey : key.length < 2 ^ 32) :
    api.k0 key = api'.k0 key := by
  rw [Sha256Api.k0, Sha256Api.k0, sha256_agree h hkey]

/-- The MAC. -/
theorem hmacSha256_agree (h : Agree api api') {key msgA msgB msgC : List UInt8}
    (hkey : key.length < 2 ^ 32) (hA : msgA.length < 2 ^ 32) (hB : msgB.length < 2 ^ 32)
    (hC : msgC.length < 2 ^ 32) :
    api.hmacSha256 key msgA msgB msgC = api'.hmacSha256 key msgA msgB msgC := by
  have hblock : ∀ (ctx : Ctx) (b : Block 64),
      api.update ctx (toList b) = api'.update ctx (toList b) :=
    fun ctx b => h.update ctx _ (by rw [length_toList]; decide)
  have hinner : ∀ (opad : Block 64) (inner : Block 32),
      api.sha256 (toList opad ++ toList inner) = api'.sha256 (toList opad ++ toList inner) :=
    fun opad inner => sha256_agree h (by
      rw [List.length_append, length_toList, length_toList]
      decide)
  rw [Sha256Api.hmacSha256, Sha256Api.hmacSha256, k0_agree h hkey, h.init, h.starts, h.finish]
  simp only [hblock, updateSome_agree h _ hA, updateSome_agree h _ hB, updateSome_agree h _ hC,
    hinner]

/-- One round of the expansion. -/
theorem expandBody_agree (h : Agree api api') (prk : Block 32) {info : List UInt8}
    (hinfo : info.length < 2 ^ 32) (okmLen : Nat) (s : Expand) :
    expandBody api prk info okmLen s = expandBody api' prk info okmLen s := by
  have hprk : (toList prk).length < 2 ^ 32 := by
    rw [length_toList]
    decide
  have hblock : ((toList s.t).take s.tLen).length < 2 ^ 32 := by
    rw [List.length_take, length_toList]
    exact (Nat.min_le_right _ _).trans_lt (by decide)
  have hone : [s.counter + 1].length < 2 ^ 32 := by
    rw [List.length_singleton]
    decide
  rw [expandBody, expandBody, hmacSha256_agree h hprk hblock hinfo hone]

theorem expandLoop_agree (h : Agree api api') (prk : Block 32) {info : List UInt8}
    (hinfo : info.length < 2 ^ 32) (okmLen fuel : Nat) (s : Expand) :
    expandLoop api prk info okmLen fuel s = expandLoop api' prk info okmLen fuel s := by
  induction fuel generalizing s with
  | zero => rfl
  | succ fuel ih =>
      have hnext : expandLoop api prk info okmLen fuel = expandLoop api' prk info okmLen fuel :=
        funext ih
      rw [expandLoop, expandLoop, expandBody_agree h prk hinfo, hnext]

/-- **They derive the same keys** from inputs of such lengths. -/
theorem hkdf_agree (h : Agree api api') (stack : Block 32) {ikm salt info : List UInt8}
    (hikm : ikm.length < 2 ^ 32) (hsalt : salt.length < 2 ^ 32) (hinfo : info.length < 2 ^ 32)
    (okmLen : Nat) :
    hkdfSha256 api stack ikm salt info okmLen = hkdfSha256 api' stack ikm salt info okmLen := by
  have hnone : ([] : List UInt8).length < 2 ^ 32 := by decide
  have hused : (if salt = [] then toList (zero 32) else salt).length < 2 ^ 32 := by
    split
    · rw [length_toList]
      decide
    · exact hsalt
  rw [hkdfSha256, hkdfSha256]
  simp only [hmacSha256_agree h hused hikm hnone hnone, expandLoop_agree h _ hinfo]

end Agree

/-! ## The derivation -/

theorem vendored_agrees : Agree vendoredSha256 bytewiseSha256 where
  init := rfl
  starts := rfl
  update _ _ hdata := (if_pos hdata).symm
  finish := rfl

/-- **The key derivation as it is linked** is HKDF-SHA-256, for a key, a salt and an info whose
    lengths 32 bits can tell: every output length from 1 to 8160, and none beyond. -/
theorem vendored_hkdf (stack : Block 32) {ikm salt info : List UInt8} (hsome : ikm ≠ [])
    (hikm : ikm.length < 2 ^ 32) (hsalt : salt.length < 2 ^ 32) (hinfo : info.length < 2 ^ 32)
    (len : Nat) :
    hkdfSha256 vendoredSha256 stack ikm salt info len
      = if 1 ≤ len ∧ len ≤ 8160 then some (hkdf (hmac 64 Sha256.sha256) salt ikm info len)
        else none := by
  rw [hkdf_agree vendored_agrees stack hikm hsalt hinfo]
  by_cases hlen : 1 ≤ len ∧ len ≤ 8160
  · rw [if_pos hlen]
    exact hkdfSha256_eq bytewise_streams stack hsome salt info hlen.1 hlen.2
  · rw [if_neg hlen, hkdfSha256, if_neg hsome]
    by_cases hzero : len = 0
    · rw [if_pos hzero]
    · have hlong : len > 255 * hkdfHashLen := by
        show len > 255 * 32
        omega
      rw [if_neg hzero, if_pos hlong]

/-- `vendored_hkdf` for the key, the salt and the info of the RFC's first vector. -/
theorem sampleKey_derived :
    hkdfSha256 vendoredSha256 (zero 32) (List.replicate 22 0x0B)
        [0, 1, 2, 3, 4, 5, 6, 7, 8, 9, 10, 11, 12] [0xF0, 0xF1, 0xF2, 0xF3] 42
      = some (hkdf (hmac 64 Sha256.sha256) [0, 1, 2, 3, 4, 5, 6, 7, 8, 9, 10, 11, 12]
        (List.replicate 22 0x0B) [0xF0, 0xF1, 0xF2, 0xF3] 42) :=
  vendored_hkdf (zero 32) (by decide) (by decide) (by decide)
    (by decide) 42

end SofaVendoredHkdf
