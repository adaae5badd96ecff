import Sofa.Server

/-! # The reference server: hooks and the key ladder

    `server_common_hooks.c`, the key-set body of `server_common_keys.c` and the
    stage of `server_common_lifecycle.c`: the buffers behind the demo entries,
    the role policy, and the C01Fh object through which each key tier installs
    the next.  `applyKeySet_fills` says what a key-set write can do to the keys. -/

namespace SofaDemo

open ByteBlock SofaConfig SofaAead SofaOd SofaServer

/-! ## Key tiers -/

abbrev keyidProvisioning : UInt8 := 1
abbrev keyidIntegrator : UInt8 := 2
abbrev keyidOperator : UInt8 := 3
abbrev keyidClaimToken : UInt8 := 4

/-- The key that must authorize the installation of a tier. -/
def authorizingKey (selector : UInt8) : Option UInt8 :=
  if selector = keyidProvisioning then some keyidClaimToken
  else if selector = keyidIntegrator then some keyidProvisioning
  else if selector = keyidOperator then some keyidIntegrator
  else none

/-! ## Lifecycle -/

/-- `fbsec_lifecycle_stage_t`. -/
inductive Stage where
  | factory
  | uncommissioned
  | owned
  | operational
  | decommissioned
  deriving DecidableEq

/-! ## The C01Fh key set -/

/-- `FBSEC_KEY_SET_BODY_LEN`: selector, key id value, key. -/
abbrev keySetBodyLen : Nat := 1 + 4 + aeadKeySize

/-- The key id value of a body, least significant byte first. -/
def keySetIdVal (body : List UInt8) : UInt32 :=
  (body.getD 1 0).toUInt32 ||| ((body.getD 2 0).toUInt32 <<< 8)
    ||| ((body.getD 3 0).toUInt32 <<< 16) ||| ((body.getD 4 0).toUInt32 <<< 24)

/-- `fbsec_server_apply_key_set`, where `lastKid` is what
    `fbsec_sod_last_write_key_id()` returns. -/
def applyKeySet (lastKid : UInt8) (keys : KeyStore) (stage : Stage) (body : List UInt8) :
    Abort × KeyStore × Stage :=
  if body.length ≠ keySetBodyLen then (abortTypeMismatch, keys, stage)
  else
    let selector := body.getD 0 0
    match authorizingKey selector with
    | none => (abortTypeMismatch, keys, stage)
    | some need =>
        if lastKid ≠ need then (abortRoleDenied, keys, stage)
        else if keys.hasKey selector then (abortDeviceState, keys, stage)
        else
          match keys.setKeyEx selector (slice 16 5 body) (keySetIdVal body) with
          | none => (abortDeviceState, keys, stage)
          | some keys' =>
              if keys'.hasKey keyidOperator then (abortNone, keys', .operational)
              else if keys'.hasKey keyidProvisioning then (abortNone, keys', .owned)
              else (abortNone, keys', stage)

/-! ## Hooks -/

abbrev rdDataId : UInt32 := 0x20200000
abbrev wrDataId : UInt32 := 0x20100000
abbrev srdDataId : UInt32 := 0xC0180000
abbrev swrDataId : UInt32 := 0x20160000
abbrev rpkRdDataId : UInt32 := 0x20210000
abbrev rpkWrDataId : UInt32 := 0x20170000
/-- `FBSEC_SEC_KEY_SET_DATA_ID`: object C01Fh. -/
abbrev keySetDataId : UInt32 := 0xC01F0000

abbrev entryValueLen : Nat := 4
abbrev entrySecureLen : Nat := 16

/-- The platform under the hooks: its clock and its random source. -/
structure Platform (E : Type) where
  timeMs : E → UInt16 × E
  random : E → Option Rand × E

/-- The file statics of the hooks and the lifecycle, over a platform state. -/
structure DemoHost (E : Type) where
  value : Block 4
  secureRo : Block 16
  secureWo : Block 16
  rpkRo : Block 4
  rpkWo : Block 16
  stage : Stage
  env : E

/-- A 4-byte value read most significant byte first. -/
def beValue (b : Block 4) : Nat :=
  (b 0).toNat * 2 ^ 24 + (b 1).toNat * 2 ^ 16 + (b 2).toNat * 2 ^ 8 + (b 3).toNat

/-- The bump of the auto-incrementing values; it wraps at 32 bits. -/
def bump (b : Block 4) : Block 4 := be32 (beValue b + 1)

/-- `fbsec_sod_port_role_allowed` of the demo. -/
def demoRoleAllowed (op : Op) (base : UInt8) (dataId : UInt32) : Bool :=
  match op with
  | .read => true
  | .write =>
      if dataId = keySetDataId then
        base == keyidClaimToken || base == keyidProvisioning || base == keyidIntegrator
      else
        base == keyidProvisioning || base == keyidIntegrator

variable {E : Type}

/-- `fbsec_sod_port_read_before` of the demo. -/
def demoReadBefore (dataId : UInt32) (h : DemoHost E) : (Abort × List UInt8) × DemoHost E :=
  if dataId = srdDataId then ((abortNone, toList h.secureRo), h)
  else if dataId = rdDataId then ((abortNone, toList h.value), { h with value := bump h.value })
  else if dataId = rpkRdDataId then
    ((abortNone, toList h.rpkRo), { h with rpkRo := bump h.rpkRo })
  else ((abortNoObject, []), h)

/-- `fbsec_sod_port_write_after` of the demo. -/
def demoWriteAfter (dataId : UInt32) (src : List UInt8) (lastKid : UInt8) (keys : KeyStore)
    (h : DemoHost E) : Abort × KeyStore × DemoHost E :=
  if dataId = swrDataId then
    if src.length ≠ entrySecureLen then (abortTypeMismatch, keys, h)
    else (abortNone, keys, { h with secureWo := slice 16 0 src })
  else if dataId = wrDataId then
    if src.length ≠ entryValueLen then (abortTypeMismatch, keys, h)
    else (abortNone, keys, { h with value := slice 4 0 src })
  else if dataId = keySetDataId then
    let r := applyKeySet lastKid keys h.stage src
    (r.1, r.2.1, { h with stage := r.2.2 })
  else if dataId = rpkWrDataId then
    if src.length ≠ entrySecureLen then (abortTypeMismatch, keys, h)
    else (abortNone, keys, { h with rpkWo := slice 16 0 src })
  else (abortNoObject, keys, h)

/-- The reference server's port hooks. -/
def demoPorts (deviceId : UInt16) (plat : Platform E) : Ports (DemoHost E) where
  deviceId := deviceId
  timeMs h := ((plat.timeMs h.env).1, { h with env := (plat.timeMs h.env).2 })
  random h := ((plat.random h.env).1, { h with env := (plat.random h.env).2 })
  accessAllowed _ _ h := (true, h)
  roleAllowed op base dataId h := (demoRoleAllowed op base dataId, h)
  readBefore := demoReadBefore
  writeAfter := demoWriteAfter

/-! ## What a key-set write can do -/

/-- An install fills exactly the empty slot it names. -/
theorem setKeyEx_hasKey {keys keys' : KeyStore} {kid k : UInt8} {key : Key} {idVal : UInt32}
    (h : keys.setKeyEx kid key idVal = some keys') (hk : keys.hasKey k = false)
    (hk' : keys'.hasKey k = true) : k = kid := by
  unfold KeyStore.setKeyEx at h
  split at h
  · cases h
  · split at h
    · cases h
    · cases h
      by_contra hne
      rw [KeyStore.hasKey, KeyStore.getKey] at hk hk'
      simp only [Function.update_of_ne hne] at hk'
      rw [hk] at hk'
      cases hk'

/-- A key-set write fills a slot only when the last write key is the one that
    authorizes it. -/
theorem applyKeySet_fills {lastKid k : UInt8} {keys : KeyStore} {stage : Stage}
    {body : List UInt8} (hk : keys.hasKey k = false)
    (hk' : (applyKeySet lastKid keys stage body).2.1.hasKey k = true) :
    authorizingKey k = some lastKid := by
  have hkeep : keys.hasKey k ≠ true := by simp [hk]
  unfold applyKeySet at hk'
  split at hk'
  · exact absurd hk' hkeep
  · simp only at hk'
    split at hk'
    · exact absurd hk' hkeep
    · rename_i need hneed
      split at hk'
      · exact absurd hk' hkeep
      · rename_i hlast
        simp only [ne_eq, not_not] at hlast
        split at hk'
        · exact absurd hk' hkeep
        · split at hk'
          · exact absurd hk' hkeep
          · rename_i keys' hset
            have hk'' : keys'.hasKey k = true := by
              split at hk'
              · exact hk'
              · split at hk' <;> exact hk'
            rw [setKeyEx_hasKey hset hk hk'', hlast]
            exact hneed

/-- The demo's hook fills a slot only through the key-set object. -/
theorem demoWriteAfter_fills {dataId : UInt32} {src : List UInt8} {lastKid k : UInt8}
    {keys : KeyStore} {h : DemoHost E} (hk : keys.hasKey k = false)
    (hk' : (demoWriteAfter dataId src lastKid keys h).2.1.hasKey k = true) :
    dataId = keySetDataId ∧ authorizingKey k = some lastKid := by
  have hkeep : keys.hasKey k ≠ true := by simp [hk]
  unfold demoWriteAfter at hk'
  split at hk'
  · split at hk' <;> exact absurd hk' hkeep
  · split at hk'
    · split at hk' <;> exact absurd hk' hkeep
    · split at hk'
      · rename_i hd
        exact ⟨hd, applyKeySet_fills hk hk'⟩
      · split at hk'
        · split at hk' <;> exact absurd hk' hkeep
        · exact absurd hk' hkeep

end SofaDemo
