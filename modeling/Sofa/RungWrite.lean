import Sofa.KeyLadder
import Sofa.Honest
import Sofa.Oblivious

/-! # A rung, written over the wire

    A rung of the key ladder is one secure write of C01Fh: the device hands out a challenge,
    the client seals the body of the rung under the lower key, and the hook fills the slot.

    * `applyKeySet_rung`: the hook takes the body of a rung whose slot is empty;
    * **`rung_written`**: over a channel that loses nothing, the write of a rung is taken, and
      the slot holds the client's key;
    * **`rung_held`**: while another client holds the object, it is refused;
    * **`keySet_write_once`**: no request for C01Fh replaces a key. -/

namespace SofaRung

open ByteBlock SofaConfig SofaAead SofaOd SofaMoves SofaServer SofaDemo SofaDevice SofaTurn SofaNode
  SofaExec SofaHosts SofaWriteFrames SofaLifecycle SofaClient SofaClientMoves SofaClientKeys SofaKeyLadder
  SofaChannel SofaHonest SofaOblivious SofaLink StateWp

variable {E C : Type} {gcm : Gcm} {ed : SofaAsym.Ed25519} {plat : DevicePlatform E}
  {deviceId clientId : UInt16}

/-! ## The hook -/

section Hook

variable {keys : KeyStore} {slot lastKid k : UInt8} {key : Key} {idVal : UInt32} {stage : Stage}

/-- The store with one slot filled. -/
def filled (keys : KeyStore) (slot : UInt8) (key : Key) (idVal : UInt32) : KeyStore :=
  { slot := Function.update keys.slot slot (some ⟨key, idVal⟩) }

theorem getKey_filled (hrange : keySlotInRange slot = true) :
    (filled keys slot key idVal).getKey slot = some key := by
  simp [KeyStore.getKey, filled, hrange]

theorem getKey_filled_other (hne : k ≠ slot) :
    (filled keys slot key idVal).getKey k = keys.getKey k := by
  simp [KeyStore.getKey, filled, hne]

theorem length_rungBody (slot : UInt8) (key : Key) : (rungBody slot key).length = keySetBodyLen := by
  simp only [rungBody, putU32le, List.length_append, List.length_cons, List.length_nil,
    length_toList]

theorem key_rungBody (slot : UInt8) (key : Key) : slice 16 5 (rungBody slot key) = key := by
  have hskip := slice_append_right 16 (slot :: putU32le (rungIdVal slot)) (toList key) 0
  rw [slice_toList] at hskip
  exact hskip

/-- The stage that a store has earned. -/
def earned (keys : KeyStore) (stage : Stage) : Stage :=
  if keys.hasKey keyidOperator then .operational
  else if keys.hasKey keyidProvisioning then .owned else stage

/-- **The hook takes a rung** whose slot is empty, under the key that authorizes it; the last
    rung makes the device OPERATIONAL. -/
theorem applyKeySet_rung (hauth : authorizingKey slot = some lastKid)
    (hempty : keys.getKey slot = none) (stage : Stage) (key : Key) :
    ∃ idVal stage', applyKeySet lastKid keys stage (rungBody slot key)
        = (abortNone, filled keys slot key idVal, stage') ∧
      (slot = keyidOperator → stage' = .operational) := by
  have hrange := SofaCommissioning.authorizingKey_range hauth
  have hvacant : keys.hasKey slot = false := by rw [KeyStore.hasKey, hempty]; rfl
  have hset : keys.setKeyEx slot key (keySetIdVal (rungBody slot key))
      = some (filled keys slot key (keySetIdVal (rungBody slot key))) := by
    rw [KeyStore.setKeyEx, if_neg (by simp [hrange]), if_neg (by simp [hvacant])]
    rfl
  have hhead : (rungBody slot key).getD 0 0 = slot := rfl
  refine ⟨keySetIdVal (rungBody slot key),
    earned (filled keys slot key (keySetIdVal (rungBody slot key))) stage, ?_, fun hop => ?_⟩
  · unfold applyKeySet
    rw [if_neg (not_not_intro (length_rungBody slot key))]
    simp only [hhead, hauth, hvacant, key_rungBody, hset, ne_eq, not_true_eq_false, if_false,
      Bool.false_eq_true, earned]
    split
    · rfl
    · split <;> rfl
  · subst hop
    rw [earned, if_pos]
    rw [KeyStore.hasKey, getKey_filled hrange]
    rfl

/-- An install leaves a slot that is populated. -/
theorem setKeyEx_getKey {keys' : KeyStore} (hset : keys.setKeyEx slot key idVal = some keys')
    {old : Key} (hold : keys.getKey k = some old) : keys'.getKey k = some old := by
  unfold KeyStore.setKeyEx at hset
  split at hset
  · cases hset
  · split at hset
    · cases hset
    · rename_i hempty
      cases hset
      have hne : k ≠ slot := by
        rintro rfl
        exact hempty (by rw [KeyStore.hasKey, hold]; rfl)
      exact (getKey_filled_other hne).trans hold

/-- And so does every body of the key set. -/
theorem applyKeySet_write_once (lastKid : UInt8) (stage : Stage) (body : List UInt8) {old : Key}
    (hold : keys.getKey k = some old) :
    (applyKeySet lastKid keys stage body).2.1.getKey k = some old := by
  unfold applyKeySet
  split
  · exact hold
  · simp only
    split
    · exact hold
    · split
      · exact hold
      · split
        · exact hold
        · split
          · exact hold
          · rename_i keys' hset
            have hkept := setKeyEx_getKey hset hold
            split
            · exact hkept
            · split <;> exact hkept

end Hook

/-! ## Requests for C01Fh -/

section Requests

variable {d : Device E} {req : List UInt8}

/-- A request that no constant entry takes reaches the secure OD. -/
theorem serve_secured (hseen : Unshadowed d keySetDataId) :
    serveRequest gcm ed plat deviceId d clientId keySetDataId req
      = ⟨secureStep gcm plat deviceId clientId keySetDataId req d,
          [secureReply clientId keySetDataId (exchange gcm (demoPorts deviceId plat.toPlatform)
            d.server clientId keySetDataId req dispatchReplyMax).result], []⟩ := by
  have hdesc : tryServeDescriptor clientId keySetDataId req (⟨d, [], []⟩ : DevWorld E)
      = (false, ⟨d, [], []⟩) := rfl
  have hconst : tryServeConstOd clientId keySetDataId req (⟨d, [], []⟩ : DevWorld E)
      = (false, ⟨d, [], []⟩) := tryServeConstOd_passes hseen
  have hsec : securityTry clientId keySetDataId req (⟨d, [], []⟩ : DevWorld E)
      = (false, ⟨d, [], []⟩) := rfl
  have hho : handoverTry ed clientId keySetDataId req (⟨d, [], []⟩ : DevWorld E)
      = (false, ⟨d, [], []⟩) := rfl
  have hrpk : rpkTry ed plat deviceId clientId keySetDataId req (⟨d, [], []⟩ : DevWorld E)
      = (false, ⟨d, [], []⟩) := rfl
  show wp (dispatchRequest gcm ed plat deviceId clientId keySetDataId req)
    (fun _ w => w = _) ⟨d, [], []⟩
  rw [dispatchRequest, wp_passed hdesc, wp_passed hconst, wp_passed hsec, wp_passed hho,
    wp_passed hrpk]
  show (dispatchTail gcm plat deviceId clientId keySetDataId req ⟨d, [], []⟩).2 = _
  rw [dispatchTail_run]
  rfl

/-- The device after a run of its secure OD. -/
def ranOn (d : Device E) (w : World (DemoHost E)) (x : Exchange) : Device E :=
  { d with server := ⟨w.sod, w.host, d.server.history ++ [x]⟩ }

/-- **A request for C01Fh**, from the run of the secure OD. -/
theorem service_keySet (ed : SofaAsym.Ed25519) (hseen : Unshadowed d keySetDataId) {r : SodResult}
    {w : World (DemoHost E)}
    (hrun : sodDispatch gcm (demoPorts deviceId plat.toPlatform) clientId keySetDataId req
      dispatchReplyMax ⟨d.server.sod, d.server.host, []⟩ = (r, w)) :
    deviceService gcm ed plat deviceId clientId keySetDataId req d
      = (outcome [secureReply clientId keySetDataId r],
          ranOn d w ⟨clientId, keySetDataId, req, r, w.log⟩) := by
  have hserve : serve gcm (demoPorts deviceId plat.toPlatform) d.server clientId keySetDataId req
      dispatchReplyMax = (r, w) := hrun
  unfold deviceService
  rw [serve_secured hseen]
  simp only [secureStep, step, exchange, hserve]
  rfl

end Requests

/-! ## The two requests of a write -/

/-- The platform draws randoms, and two readings of its clock in a row are within the lifetime of
    a challenge. -/
structure Prompt (plat : DevicePlatform E) : Prop where
  random : ∀ env, (plat.random env).1 ≠ none
  clock : ∀ env, ageWithin (plat.timeMs (plat.timeMs env).2).1 (plat.timeMs env).1
    challengeTimeoutMs = true

/-- The device serves the rungs of the ladder, in this write slot. -/
structure Rungs (d : Device E) (idx : Fin sodMaxEntries) : Prop where
  found : d.server.sod.registry.find keySetDataId = some (idx, entryKset)
  seen : Unshadowed d keySetDataId

/-- Another client holds the write slot, as the request for a challenge finds it. -/
def Held (plat : DevicePlatform E) (deviceId clientId : UInt16) (idx : Fin sodMaxEntries)
    (d : Device E) : Prop :=
  let P := demoPorts deviceId plat.toPlatform
  HeldByOther P (d.server.sod.writeSlot idx) clientId (P.random d.server.host).2

/-- The key-set object is never read, so no pending read stands in the way of a challenge. -/
theorem keySet_noRead : ¬ entryKset.hasRo = true := by decide

section Exchanges

variable {d : Device E} {idx : Fin sodMaxEntries}

/-- **A challenge** for a slot that no other client holds, and a clock that is then in time. -/
theorem challenge_granted (hp : Prompt plat) (h : Rungs d idx)
    (hfree : ¬ Held plat deviceId clientId idx d) :
    ∃ sr armedAt host log, sodDispatch gcm (demoPorts deviceId plat.toPlatform) clientId keySetDataId
        [] dispatchReplyMax ⟨d.server.sod, d.server.host, []⟩
      = (.ok (toList sr), ⟨d.server.sod.setWrite idx (armedWriteSlot clientId none sr armedAt),
          host, log⟩) ∧ host.stage = d.server.host.stage ∧
      ageWithin ((demoPorts deviceId plat.toPlatform).timeMs host).1 armedAt challengeTimeoutMs
        = true := by
  let P := demoPorts deviceId plat.toPlatform
  obtain ⟨sr, hsr⟩ := Option.ne_none_iff_exists'.mp (hp.random d.server.host.env)
  have hdraw : P.random d.server.host = (some sr, (P.random d.server.host).2) :=
    Prod.ext hsr rfl
  obtain ⟨held, host, log, hcheck, hheld⟩ := heldCheck_decides P (d.server.sod.writeSlot idx) clientId
    ⟨d.server.sod, (P.random d.server.host).2,
      [.accessAllowed .write entryKset.dataId true, .random (some sr)]⟩
  obtain rfl : held = false := Bool.eq_false_iff.mpr fun htrue => hfree (hheld.mp htrue)
  have hgranted : sodDispatch gcm P clientId keySetDataId [] dispatchReplyMax
      ⟨d.server.sod, d.server.host, []⟩ = (.ok (toList sr), _) :=
    (dispatch_writeChallenge h.found rfl fun hro => absurd hro keySet_noRead).trans
      (armWrite_granted rfl hdraw hcheck (by decide))
  refine ⟨sr, _, _, _, hgranted, ?_, hp.clock _⟩
  rcases hcheck.clock with rfl | rfl <;> rfl

/-- And the refusal, when another client holds it. -/
theorem challenge_held (gcm : Gcm) (hp : Prompt plat) (h : Rungs d idx)
    (hheld : Held plat deviceId clientId idx d) :
    ∃ host log, sodDispatch gcm (demoPorts deviceId plat.toPlatform) clientId keySetDataId
        [] dispatchReplyMax ⟨d.server.sod, d.server.host, []⟩
      = (.abort abortDeviceState, ⟨d.server.sod, host, log⟩) := by
  let P := demoPorts deviceId plat.toPlatform
  obtain ⟨sr, hsr⟩ := Option.ne_none_iff_exists'.mp (hp.random d.server.host.env)
  have hdraw : P.random d.server.host = (some sr, (P.random d.server.host).2) :=
    Prod.ext hsr rfl
  obtain ⟨held, host, log, hcheck, hiff⟩ := heldCheck_decides P (d.server.sod.writeSlot idx) clientId
    ⟨d.server.sod, (P.random d.server.host).2,
      [.accessAllowed .write entryKset.dataId true, .random (some sr)]⟩
  obtain rfl : held = true := hiff.mpr hheld
  have hrefused : sodDispatch gcm P clientId keySetDataId [] dispatchReplyMax
      ⟨d.server.sod, d.server.host, []⟩ = (.abort abortDeviceState, _) :=
    (dispatch_writeChallenge h.found rfl fun hro => absurd hro keySet_noRead).trans
      (armWrite_held rfl hdraw hcheck (by decide))
  exact ⟨_, _, hrefused⟩

/-- What a rung leaves on the device: the key in its slot, the other slots as they were, and the
    object free for the next rung. -/
structure Filled (d d' : Device E) (idx : Fin sodMaxEntries) (slot : UInt8) (key : Key) :
    Prop where
  key : d'.server.sod.keys.getKey slot = some key
  others : ∀ k, k ≠ slot → d'.server.sod.keys.getKey k = d.server.sod.keys.getKey k
  operational : slot = keyidOperator → stageOf d' = .operational
  rungs : Rungs d' idx
  free : (d'.server.sod.writeSlot idx).inUse = false

/-- The keys that authorize a rung are allowed to write it. -/
theorem authorizing_allowed {slot auth : UInt8} (hauth : authorizingKey slot = some auth) :
    demoRoleAllowed .write auth keySetDataId = true ∧ Slot auth := by
  unfold authorizingKey at hauth
  split at hauth
  · cases hauth
    decide
  · split at hauth
    · cases hauth
      decide
    · split at hauth
      · cases hauth
        decide
      · cases hauth

theorem demoWriteAfter_keySet (src : List UInt8) (lastKid : UInt8) (keys : KeyStore)
    (h : DemoHost E) :
    demoWriteAfter keySetDataId src lastKid keys h
      = ((applyKeySet lastKid keys h.stage src).1, (applyKeySet lastKid keys h.stage src).2.1,
          { h with stage := (applyKeySet lastKid keys h.stage src).2.2 }) := by
  rw [demoWriteAfter, if_neg (by decide), if_neg (by decide), if_pos rfl]

/-- The key that a rung is written with: its byte names the slot that authorizes the rung, and
    the device has it there. -/
structure Authorizes (d : Device E) (slot : UInt8) (kid : UInt8) (lower : Key) : Prop where
  allowed : authorizingKey slot = some (keyidBase kid)
  reserved : keyidReserved kid = 0
  single : keyidIsCyclic kid = false
  installed : d.server.sod.keys.getKey (keyidBase kid) = some lower

/-- **The frame of a rung**, on the armed slot, fills the empty slot. -/
theorem frame_fills (ed : SofaAsym.Ed25519) (hg : gcm.Correct) (h : Rungs d idx) {slot kid : UInt8} {lower key : Key}
    (hkey : Authorizes d slot kid lower) (hempty : d.server.sod.keys.getKey slot = none)
    {sr cr : Rand} {armedAt : UInt16} {host : DemoHost E} (log : List Event) (x : Exchange)
    (hfresh : ageWithin ((demoPorts deviceId plat.toPlatform).timeMs host).1 armedAt
      challengeTimeoutMs = true)
    {cipher : List UInt8} {tag : Tag}
    (hsealed : aeadSeal gcm (writeCall (demoPorts deviceId plat.toPlatform) clientId keySetDataId
      lower kid cr sr) (rungBody slot key) = some (cipher, tag)) :
    ∃ d', deviceService gcm ed plat deviceId clientId keySetDataId (requestFrame kid cr cipher tag)
        (ranOn d ⟨d.server.sod.setWrite idx (armedWriteSlot clientId none sr armedAt), host, log⟩ x)
      = (.ok [], d') ∧ Filled d d' idx slot key := by
  let armed := d.server.sod.setWrite idx (armedWriteSlot clientId none sr armedAt)
  have hslot : armed.writeSlot idx = armedWriteSlot clientId none sr armedAt :=
    Sod.writeSlot_setWrite _ _ _
  -- arming an armed slot again changes nothing
  have hagain : armed.setWrite idx (armedWriteSlot clientId none sr armedAt) = armed := by
    simp only [armed, Sod.setWrite, Function.update_idem]
  have ready : Writable armed clientId keySetDataId idx entryKset lower kid :=
    { found := h.found
      readIdle := fun hro => absurd hro keySet_noRead
      own := fun _ => by rw [hslot]; rfl
      reserved := hkey.reserved
      single := hkey.single
      installed := hkey.installed
      binding := rfl }
  obtain ⟨idVal, stage, htaken, hoperational⟩ :=
    applyKeySet_rung hkey.allowed hempty host.stage key
  let clocked := ((demoPorts deviceId plat.toPlatform).timeMs host).2
  have hhook : (demoPorts deviceId plat.toPlatform).writeAfter entryKset.dataId (rungBody slot key)
      (keyidBase kid) armed.keys
      (hostAtWrite (demoPorts deviceId plat.toPlatform) (keyidBase kid) entryKset.dataId host)
        = (abortNone, filled d.server.sod.keys slot key idVal,
          { clocked with stage := stage }) := by
    show demoWriteAfter keySetDataId (rungBody slot key) (keyidBase kid) d.server.sod.keys clocked
      = _
    have htaken' : applyKeySet (keyidBase kid) d.server.sod.keys clocked.stage (rungBody slot key)
        = (abortNone, filled d.server.sod.keys slot key idVal, stage) := htaken
    rw [demoWriteAfter_keySet, htaken']
  obtain ⟨f, hframe⟩ := frame_applied clientId cr hg ready rfl (length_rungBody slot key) hfresh
    (authorizing_allowed hkey.allowed).1 hhook hsealed
  rw [hagain] at hframe
  have hserved := service_keySet (d := ranOn d ⟨armed, host, log⟩ x) ed h.seen hframe
  have hrange := SofaCommissioning.authorizingKey_range hkey.allowed
  exact ⟨_, hserved,
    { key := getKey_filled hrange
      others := fun k hne => getKey_filled_other hne
      operational := hoperational
      rungs := ⟨h.found, h.seen⟩
      free := by
        show ((written armed idx clientId kid sr armedAt _).writeSlot idx).inUse = false
        rw [written, Sod.writeSlot_setWrite] }⟩

end Exchanges

/-! ## A rung over the channel -/

section Channel

variable {random : C → Option Rand × C} {ch : Channel C (Device E)} {idx : Fin sodMaxEntries}
  {slot kid : UInt8} {lower key : Key}

/-- The write of a rung, as the client calls it. -/
def writeRung (gcm : Gcm) (ed : SofaAsym.Ed25519) (plat : DevicePlatform E)
    (deviceId clientId : UInt16) (random : C → Option Rand × C) (lower : Key) (kid slot : UInt8)
    (key : Key) (ch : Channel C (Device E)) :
    Except SecpError Unit × ClientWorld (Channel C (Device E)) :=
  secureWrite gcm (channelTransport (deviceService gcm ed plat deviceId) clientId random) deviceId
    keySetDataId lower kid (rungBody slot key) ⟨ch, []⟩

/-- The client takes the byte of a rung's key. -/
theorem Authorizes.accepted {d : Device E} (h : Authorizes d slot kid lower) :
    keyidRefused kid = false := by
  obtain ⟨hzero, hmax⟩ := (authorizing_allowed h.allowed).2
  have hnot : ¬ keyidBase kid > keyidMax := UInt8.not_lt.mpr hmax
  simp [keyidRefused, h.reserved, hzero, hnot]

/-- **A rung is taken**: the slot is empty, both sides have the lower key, and no other client
    holds the object. -/
theorem rung_written (ed : SofaAsym.Ed25519) (key : Key) (hg : gcm.Correct) (hp : Prompt plat) (hdraws : ∀ c, (random c).1 ≠ none)
    (hlossless : ch.Lossless) (h : Rungs ch.server idx)
    (hfree : ¬ Held plat deviceId clientId idx ch.server)
    (hkey : Authorizes ch.server slot kid lower)
    (hempty : ch.server.server.sod.keys.getKey slot = none) :
    let out := writeRung gcm ed plat deviceId clientId random lower kid slot key ch
    out.1 = .ok () ∧ out.2.net.Lossless ∧ Filled ch.server out.2.net.server idx slot key := by
  obtain ⟨sr, armedAt, host, log, hchallenge, -, hfresh⟩ := challenge_granted hp h hfree
  obtain ⟨cr, hcr⟩ := Option.ne_none_iff_exists'.mp (hdraws ch.client)
  have hdraw : random ch.client = (some cr, (random ch.client).2) := Prod.ext hcr rfl
  have hbody := length_rungBody slot key
  have hshort : (rungBody slot key).length ≤ aeadMaxProtected := by
    rw [hbody]
    decide
  obtain ⟨cipher, tag, hsealed⟩ := aeadSeal_isSome hg (writeCall
    (demoPorts deviceId plat.toPlatform) clientId keySetDataId lower kid cr sr) hshort
  have hgranted := service_keySet ed h.seen hchallenge
  obtain ⟨d', hframe, hfilled⟩ := frame_fills ed hg h hkey hempty log
    ⟨clientId, keySetDataId, [], .ok (toList sr), log⟩ hfresh hsealed
  obtain ⟨hok, hnet⟩ := channel_write [] hlossless hkey.accepted (by rw [hbody]; decide) hshort hdraw
    hgranted hsealed hframe
  have hafter : (writeRung gcm ed plat deviceId clientId random lower kid slot key ch).2.net
      = ⟨(random ch.client).2, d', ch.fates.tail.tail⟩ := hnet
  have htail : Channel.Lossless ⟨ch.client, ch.server, ch.fates.tail⟩ :=
    Channel.lossless_tail hlossless
  refine ⟨hok, ?_⟩
  rw [hafter]
  exact ⟨Channel.lossless_tail htail, hfilled⟩

/-- **A rung is refused** while another client holds the object. -/
theorem rung_held (gcm : Gcm) (ed : SofaAsym.Ed25519) (random : C → Option Rand × C)
    (slot : UInt8) (lower key : Key) (hp : Prompt plat) (hlossless : ch.Lossless) (h : Rungs ch.server idx)
    (hheld : Held plat deviceId clientId idx ch.server)
    (hkey : keyidRefused kid = false) :
    (writeRung gcm ed plat deviceId clientId random lower kid slot key ch).1
      = .error (.abort abortDeviceState) := by
  obtain ⟨host, log, hchallenge⟩ := challenge_held gcm hp h hheld
  have hrefused := service_keySet ed h.seen hchallenge
  have hread : ((channelTransport (deviceService gcm ed plat deviceId) clientId random).read deviceId
      keySetDataId [] aeadRandSize ch).1 = .error (.abort abortDeviceState) := by
    simp only [channelTransport]
    rw [Channel.carry_delivered (Channel.fate_lossless hlossless), hrefused]
    rfl
  have hshort : ((rungBody slot key).length == 0
      || decide ((rungBody slot key).length > aeadMaxProtected)) = false := by
    rw [length_rungBody]
    rfl
  show wp (secureWrite gcm (channelTransport (deviceService gcm ed plat deviceId) clientId random)
    deviceId keySetDataId lower kid (rungBody slot key))
    (fun r _ => r = .error (.abort abortDeviceState)) ⟨ch, []⟩
  unfold secureWrite writeFlow
  rw [hkey, if_neg (by decide), hshort, if_neg (by decide), wp_bind, wp_bind, wp_transportRead]
  intro r net hgot
  obtain rfl := (congrArg Prod.fst hgot).symm.trans hread
  rfl

/-! ## What no request for C01Fh changes -/

/-- **Write-once**: a key stays in its slot. -/
theorem keySet_write_once {d : Device E} {req : List UInt8} {k : UInt8} {old : Key}
    (hold : d.server.sod.keys.getKey k = some old) :
    (deviceService gcm ed plat deviceId clientId keySetDataId req d).2.server.sod.keys.getKey k
      = some old := by
  show (serveRequest gcm ed plat deviceId d clientId keySetDataId
    req).device.server.sod.keys.getKey k = some old
  by_cases hseen : Unshadowed d keySetDataId
  · rw [serve_secured hseen]
    cases hfind : d.server.sod.registry.find keySetDataId with
    | none =>
        have hserve : sodDispatch gcm (demoPorts deviceId plat.toPlatform) clientId keySetDataId req
            dispatchReplyMax ⟨d.server.sod, d.server.host, []⟩
              = (.notHandled, ⟨d.server.sod, d.server.host, []⟩) := sodDispatch_notHandled hfind
        simp only [secureStep, step, serve, hserve]
        exact hold
    | some found =>
        obtain ⟨idx, entry⟩ := found
        have hrun : wp (sodDispatch gcm (demoPorts deviceId plat.toPlatform) clientId keySetDataId req
            dispatchReplyMax) _ ⟨d.server.sod, d.server.host, []⟩ :=
          dispatch_handed (SofaCommissioning.stage_inert plat.toPlatform) hfind
        have hentry := find_dataId hfind
        rcases hrun with ⟨hkeys, -⟩ | ⟨plain, lastKid, host, -, hkeys, -⟩
        · exact (congrArg (·.getKey k) hkeys).trans hold
        · refine (congrArg (·.getKey k) hkeys).trans ?_
          show (demoWriteAfter entry.dataId plain lastKid d.server.sod.keys host).2.1.getKey k = _
          rw [hentry, demoWriteAfter_keySet]
          exact applyKeySet_write_once lastKid host.stage plain hold
  · obtain ⟨value, hvalue⟩ := Option.ne_none_iff_exists'.mp hseen
    rw [serve_shadowed (by decide) hvalue]
    exact hold

/-- What each request for C01Fh keeps of the device, the calls of the client keep. -/
theorem netKeeps_of_service (random : C → Option Rand × C) {J : Device E → Prop}
    (h : ∀ req d, J d → J (deviceService gcm ed plat deviceId clientId keySetDataId req d).2) :
    NetKeeps (channelTransport (deviceService gcm ed plat deviceId) clientId random) deviceId
      keySetDataId (fun ch => J ch.server) where
  random := fun ch hJ => hJ
  read := fun body cap ch hJ => by
    show J (ch.carry _ clientId keySetDataId body).2.server
    rcases carry_cases (deviceService gcm ed plat deviceId) clientId keySetDataId body ch with
      ⟨hsame, -⟩ | ⟨hserved, -⟩
    · rw [hsame]; exact hJ
    · rw [hserved]; exact h body ch.server hJ
  write := fun frame ch hJ => by
    show J (ch.carry _ clientId keySetDataId frame).2.server
    rcases carry_cases (deviceService gcm ed plat deviceId) clientId keySetDataId frame ch with
      ⟨hsame, -⟩ | ⟨hserved, -⟩
    · rw [hsame]; exact hJ
    · rw [hserved]; exact h frame ch.server hJ

end Channel

end SofaRung
