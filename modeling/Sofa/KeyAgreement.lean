import Sofa.RungWrite
import Sofa.Recommission
import Sofa.Provisioning
import Sofa.Mechanisms

/-! # Commissioning, and the keys on both sides

    The menu commissions a device in two ways.  The token flow writes the client's own key for
    slot 1 under the claim token; the voucher flow claims the device, and then installs a
    Provisioning key over C02Fh.  Both go on up the ladder, where the client writes each key
    under the one below it, from its own store.

    * `ladder_run`: the ladder, on a device that has the client's key in slot 1;
    * **`commissioning_agrees_iff`**: when both flows leave both sides with the same keys.

    The key that the voucher flow installs is a constant, not the client's:
    `other_key_disagrees` is a client with another key in slot 1. -/

namespace SofaKeyAgreement

open ByteBlock SofaConfig SofaAead SofaOd SofaServer SofaDemo SofaAsym SofaDevice SofaNode
  SofaLifecycle SofaClient SofaHandover SofaClientKeys SofaKeyLadder SofaChannel SofaLink
  SofaRecommission SofaProvisioning SofaRung StateWp Machine

variable {E C : Type} {gcm : Gcm} {ed : Ed25519} {plat : DevicePlatform E}
  {deviceId clientId : UInt16} {random : C → Option Rand × C}
  {challenge : C → Option RpkNonce × C}

/-- The tool at one end of the channel, the device at the other. -/
abbrev Bench (C E : Type) := Tool (Channel C (Device E))

/-! ## Agreement -/

/-- The slots of the ladder. -/
def ladderSlots : List UInt8 := [keyidProvisioning, keyidIntegrator, keyidOperator]

/-- Each step of a flow returned 0; the device has the client's keys in the three slots and is
    OPERATIONAL; the client has kept its keys, and the key id that it had selected. -/
structure Agree (keys : ClientKeys) (steps : Nat) (out : List Nat × Bench C E) : Prop where
  success : out.1 = List.replicate steps 0
  device : ∀ slot ∈ ladderSlots,
    out.2.net.server.server.sod.keys.getKey slot = some (keys.sessionKeys slot)
  stage : stageOf out.2.net.server = .operational
  client : ∀ slot ∈ ladderSlots, out.2.keys.sessionKeys slot = keys.sessionKeys slot
  keyId : out.2.keys.keyId = keys.keyId

/-- What holds of the outcome of a flow is its postcondition. -/
theorem flow_iff {P : List Nat × Bench C E → Prop} {flow : ToolM (Channel C (Device E)) (List Nat)}
    {t : Bench C E} : P (flow t) ↔ wp flow (fun rcs t' => P (rcs, t')) t := Iff.rfl

/-- What a read of the epoch answers: the constant entry at C020h:01h, if there is one. -/
def epochReply (d : Device E) : List UInt8 :=
  (constOdGet d.constOd (dataIdIndex hoEpochId) (dataIdSub hoEpochId)).getD
    (putU32le d.asym.ownerEpoch)

/-- The epoch that the tool makes of it. -/
def epochSeen (d : Device E) : Option UInt32 := epochAnswer (within 4 (.ok (epochReply d)))

/-- Another client holds the object of the ladder. -/
def LadderHeld (plat : DevicePlatform E) (deviceId clientId : UInt16) (d : Device E) : Prop :=
  ∃ idx, d.server.sod.registry.find keySetDataId = some (idx, entryKset) ∧
    Held plat deviceId clientId idx d

/-- What the voucher flow needs of the device up to the ladder: no constant entry of the od-file
    hides the two objects, and the voucher is for a larger epoch. -/
structure Claims (d : Device E) : Prop where
  voucher : Unshadowed d hoVoucherId
  fresh : d.asym.ownerEpoch < nextEpoch (epochSeen d)
  provision : Unshadowed d hoProvisionId

/-- The condition: the client's key in slot 1 is the one that the voucher flow installs, the
    device takes the voucher flow up to the ladder, and it serves the ladder: no constant entry
    hides it, and no other client is in the middle of a write to it. -/
structure AgreesWhen (plat : DevicePlatform E) (deviceId clientId : UInt16) (keys : ClientKeys)
    (d : Device E) : Prop extends Claims d where
  demo : keys.sessionKeys keyidProvisioning = demoProvisioningKey
  keySet : Unshadowed d keySetDataId
  free : ¬ LadderHeld plat deviceId clientId d

/-- Where no constant entry hides the epoch, only the last epoch has no larger one. -/
theorem fresh_iff {d : Device E} (hseen : Unshadowed d hoEpochId) :
    d.asym.ownerEpoch < nextEpoch (epochSeen d) ↔ d.asym.ownerEpoch ≠ lastEpoch := by
  have hconst : constOdGet d.constOd (dataIdIndex hoEpochId) (dataIdSub hoEpochId) = none := hseen
  have hanswer : epochSeen d = some d.asym.ownerEpoch := by
    rw [epochSeen, epochReply, hconst]
    show some (answeredEpoch (putU32le d.asym.ownerEpoch)) = _
    rw [answeredEpoch_put]
  rw [hanswer]
  exact epoch_lt_next

/-! ## A device that has run -/

/-- The object of the ladder is registered, after every run. -/
theorem keySet_registered {cfg : BootConfig} {env : E} {d : Device E}
    (hstart : odInit ed cfg env = some d) (inputs : List (NodeInput E)) :
    ∃ idx, (nodeAfter gcm ed plat deviceId d inputs).device.server.sod.registry.find keySetDataId
      = some (idx, entryKset) := by
  have hboot : ∃ idx, d.server.sod.registry.find keySetDataId = some (idx, entryKset) := by
    obtain ⟨constOd, registry, keys, -, hreg, -, rfl⟩ := odInit_cases hstart
    have hall : ∀ b, ((demoEntries b).foldlM sodRegisterEntry Registry.empty).all
        (fun r => (r.find keySetDataId).any fun found => found.2 = entryKset) = true := by
      decide +kernel
    have h := hall (constOdGetIdentity constOd).1
    rw [hreg, Option.all_some, Option.any_eq_true] at h
    obtain ⟨⟨idx, entry⟩, hfind, hentry⟩ := h
    obtain rfl : entry = entryKset := of_decide_eq_true hentry
    exact ⟨idx, hfind⟩
  refine run_induction (P := fun _ _ => True)
    (I := fun n : Node E =>
      ∃ idx, n.device.server.sod.registry.find keySetDataId = some (idx, entryKset))
    (node_invariant (C := fun _ _ => True) ?_ ?_) hboot (along_of_forall (fun _ _ => trivial) _ _)
  · rintro n client dataId req sent calls device h - hturn
    rw [SofaMechanisms.turn_registry hturn]
    exact h
  · intro n env h
    exact h

/-! ## The steps of a flow -/

section Flow

variable {t : Bench C E} {idx : Fin sodMaxEntries}

theorem wp_handover {m : HandoverM (Channel C (Device E)) Nat} {Q : Nat → Bench C E → Prop} :
    wp (handover m) Q t
      ↔ wp m (fun rc w => Q rc { t with net := w.net }) ⟨t.net, []⟩ := Iff.rfl

/-- A step, and the rest if it succeeds. -/
theorem wp_inOrder_cons {step : ToolM (Channel C (Device E)) Nat}
    {rest : List (ToolM (Channel C (Device E)) Nat)} {Q : List Nat → Bench C E → Prop} :
    wp (inOrder (step :: rest)) Q t ↔ wp step (fun rc t' => (rc ≠ 0 → Q [rc] t') ∧
      (rc = 0 → wp (inOrder rest) (fun rcs => Q (0 :: rcs)) t')) t := by
  show wp step (fun rc => wp (if rc != 0 then pure [rc] else inOrder rest >>= fun rcs =>
    pure (rc :: rcs)) Q) t ↔ _
  refine iff_of_eq (congrArg (wp step · t) (funext fun rc => funext fun t' => propext ?_))
  rw [wp_ite, wp_bind, bne_iff_ne, ne_eq, not_not, wp_pure]
  constructor
  · rintro ⟨hfailed, hdone⟩
    refine ⟨hfailed, ?_⟩
    rintro rfl
    exact hdone rfl
  · rintro ⟨hfailed, hdone⟩
    refine ⟨hfailed, ?_⟩
    rintro rfl
    exact hdone rfl

/-- **A rung of the tool**: it returns 0, and the device has the client's key. -/
theorem wp_rung {Q : Nat → Bench C E → Prop} (hg : gcm.Correct) (hp : Prompt plat)
    (hdraws : ∀ c, (random c).1 ≠ none) (hlossless : t.net.Lossless) (h : Rungs t.net.server idx)
    (hfree : ¬ Held plat deviceId clientId idx t.net.server) {slot auth : UInt8}
    (hauth : authorizingKey slot = some auth) (hslot : Slot slot)
    (hload : t.keys.sessionKeyLoaded slot = true)
    (hloadAuth : t.keys.sessionKeyLoaded auth = true)
    (hlower : t.net.server.server.sod.keys.getKey auth = some (t.keys.sessionKeys auth))
    (hempty : t.net.server.server.sod.keys.getKey slot = none)
    (hpost : ∀ net, net.Lossless → Filled t.net.server net.server idx slot (t.keys.sessionKeys slot) →
      Q 0 ⟨t.keys.setKeyid auth, net⟩) :
    wp (installKeyRung gcm (channelTransport (deviceService gcm ed plat deviceId) clientId random)
      deviceId slot auth) Q t := by
  have hslotAuth := (authorizing_allowed hauth).2
  obtain ⟨hbase, hreserved, hsingle⟩ := effectiveKeyid_setKeyid t.keys hslotAuth
  have hkey : Authorizes t.net.server slot (t.keys.setKeyid auth).effectiveKeyid
      (t.keys.sessionKeys auth) :=
    ⟨by rw [hbase]; exact hauth, hreserved, hsingle, by rw [hbase]; exact hlower⟩
  obtain ⟨hok, hlossless', hfilled⟩ := rung_written ed (t.keys.sessionKeys slot) hg hp hdraws
    hlossless h hfree hkey hempty
  rw [wp_installKeyRung hslot hslotAuth hload hloadAuth]
  have hrc := hpost _ hlossless' hfilled
  have hexit : exitCode (writeRung gcm ed plat deviceId clientId random (t.keys.sessionKeys auth)
      (t.keys.setKeyid auth).effectiveKeyid slot (t.keys.sessionKeys slot) t.net).1 = 0 := by
    rw [hok]
    rfl
  rw [← hexit] at hrc
  exact hrc

/-- A slot that is not in use is not held. -/
theorem not_held_of_free {d : Device E} (h : (d.server.sod.writeSlot idx).inUse = false) :
    ¬ Held plat deviceId clientId idx d :=
  fun hheld => absurd (h.symm.trans hheld.inUse) (by decide)

/-- The device has the client's keys in the three slots, and is OPERATIONAL. -/
structure Commissioned (keys : ClientKeys) (d : Device E) : Prop where
  device : ∀ slot ∈ ladderSlots, d.server.sod.keys.getKey slot = some (keys.sessionKeys slot)
  stage : stageOf d = .operational

/-- **The ladder**, on a device that has the client's key in slot 1. -/
theorem ladder_run (hg : gcm.Correct) (hp : Prompt plat) (hdraws : ∀ c, (random c).1 ≠ none)
    (hlossless : t.net.Lossless) (h : Rungs t.net.server idx)
    (hfree : ¬ Held plat deviceId clientId idx t.net.server)
    (hload : ∀ slot ∈ ladderSlots, t.keys.sessionKeyLoaded slot = true)
    (hprov : t.net.server.server.sod.keys.getKey keyidProvisioning
      = some (t.keys.sessionKeys keyidProvisioning))
    (hint : t.net.server.server.sod.keys.getKey keyidIntegrator = none)
    (hop : t.net.server.server.sod.keys.getKey keyidOperator = none) :
    wp (installLadder gcm (channelTransport (deviceService gcm ed plat deviceId) clientId random)
      deviceId) (fun rc t' => rc = 0 ∧ t'.keys = t.keys ∧ Commissioned t.keys t'.net.server) t := by
  have hload1 := hload keyidProvisioning (by decide)
  have hload2 := hload keyidIntegrator (by decide)
  have hload3 := hload keyidOperator (by decide)
  unfold installLadder
  rw [wp_bind, wp_getKeys, wp_bind]
  refine wp_rung hg hp hdraws hlossless h hfree rfl (by decide) hload2 hload1 hprov hint ?_
  intro net hlossless₁ hint'
  rw [wp_bind]
  show wp (installKeyRung _ _ _ keyidOperator keyidIntegrator) _ _
  have hop' : net.server.server.sod.keys.getKey keyidOperator = none :=
    (hint'.others keyidOperator (by decide)).trans hop
  refine wp_rung hg hp hdraws hlossless₁ hint'.rungs (not_held_of_free hint'.free) rfl (by decide)
    hload3 hload2 hint'.key hop' ?_
  intro net' hlossless₂ hoper
  refine ⟨rfl, rfl, ?_, hoper.operational rfl⟩
  intro slot hslot
  simp only [ladderSlots, List.mem_cons, List.not_mem_nil, or_false] at hslot
  rcases hslot with rfl | rfl | rfl
  · exact ((hoper.others _ (by decide)).trans (hint'.others _ (by decide))).trans hprov
  · exact (hoper.others _ (by decide)).trans hint'.key
  · exact hoper.key

/-! ## The token flow -/

/-- The key store with the token in its slot, as the flow leaves it. -/
def seated (keys : ClientKeys) (token : Key) : ClientKeys :=
  (((keys.setKeyid keyidClaimToken).setBytes keyidClaimToken token).setLoaded
    keyidClaimToken).setKeyid keys.keyId

/-- The token is seated, and the other slots stay. -/
theorem seat_token (keys : ClientKeys) (token : Key) :
    ∃ keys', (keys.setKeyid keyidClaimToken).setSession token = some keys' ∧
      keys'.setKeyid keys.keyId = seated keys token ∧
      keys'.sessionKeys = Function.update keys.sessionKeys keyidClaimToken token ∧
      keys'.sessionKeyLoaded = Function.update keys.sessionKeyLoaded keyidClaimToken true := by
  refine ⟨((keys.setKeyid keyidClaimToken).setBytes keyidClaimToken token).setLoaded
    keyidClaimToken, ?_, rfl, rfl, rfl⟩
  rw [ClientKeys.setSession, unselected_setKeyid keys (by decide)]
  rfl

section Token

variable {token : Key} (hload : ∀ slot ∈ ladderSlots, t.keys.sessionKeyLoaded slot = true)
  (htoken : t.net.server.server.sod.keys.getKey keyidClaimToken = some token)
  (hempty : ∀ slot ∈ ladderSlots, t.net.server.server.sod.keys.getKey slot = none)

include hload htoken hempty

/-- **The token flow** agrees, on a ladder that is free. -/
theorem tokenFlow_agrees (hg : gcm.Correct) (hp : Prompt plat) (hdraws : ∀ c, (random c).1 ≠ none)
    (hlossless : t.net.Lossless) (h : Rungs t.net.server idx)
    (hfree : ¬ Held plat deviceId clientId idx t.net.server) :
    Agree t.keys 2 (tokenFlow gcm
      (channelTransport (deviceService gcm ed plat deviceId) clientId random) deviceId token t) := by
  obtain ⟨keys', hseat, hback, hbytes, hloaded⟩ := seat_token t.keys token
  have hown : ∀ slot ∈ ladderSlots, keys'.sessionKeys slot = t.keys.sessionKeys slot := by
    intro slot hslot
    rw [hbytes, Function.update_of_ne]
    rintro rfl
    exact absurd hslot (by decide)
  have hload' : ∀ slot ∈ ladderSlots, keys'.sessionKeyLoaded slot = true := by
    intro slot hslot
    rw [hloaded, Function.update_of_ne]
    · exact hload slot hslot
    · rintro rfl
      exact absurd hslot (by decide)
  have htoken' : t.net.server.server.sod.keys.getKey keyidClaimToken
      = some (keys'.sessionKeys keyidClaimToken) := by
    rw [htoken, hbytes, Function.update_self]
  have hloadToken : keys'.sessionKeyLoaded keyidClaimToken = true := by
    rw [hloaded, Function.update_self]
  show wp (tokenFlow gcm _ deviceId token) (fun rcs t' => Agree t.keys 2 (rcs, t')) t
  unfold tokenFlow
  rw [wp_inOrder_cons]
  unfold installProvisioningByToken
  rw [wp_bind, wp_getKeys, wp_bind, wp_setKeyid, wp_bind, wp_getKeys]
  dsimp only
  rw [hseat]
  dsimp only
  rw [wp_bind, wp_setKeys, wp_bind]
  refine wp_rung (t := ⟨keys', t.net⟩) hg hp hdraws hlossless h hfree rfl (by decide)
    (hload' keyidProvisioning (by decide)) hloadToken htoken' (hempty _ (by decide)) ?_
  intro net hlossless' hprov
  refine ⟨fun hne => absurd rfl hne, fun _ => ?_⟩
  rw [wp_inOrder_cons]
  have hrest : ∀ slot ∈ [keyidIntegrator, keyidOperator],
      net.server.server.sod.keys.getKey slot = none := by
    intro slot hslot
    have hne : slot ≠ keyidProvisioning := by
      rintro rfl
      exact absurd hslot (by decide)
    exact (hprov.others slot hne).trans (hempty slot (List.mem_cons_of_mem _ hslot))
  refine wp_mono (ladder_run (t := ⟨keys'.setKeyid t.keys.keyId, net⟩) hg hp hdraws hlossless' hprov.rungs (not_held_of_free hprov.free) hload'
    hprov.key (hrest _ (by decide)) (hrest _ (by decide))) ?_
  rintro rc t' ⟨rfl, hkeys, hdone⟩
  refine ⟨fun hne => absurd rfl hne, fun _ => ?_⟩
  refine ⟨rfl, fun slot hslot => ?_, hdone.stage, fun slot hslot => ?_, ?_⟩
  · exact (hdone.device slot hslot).trans (congrArg some (hown slot hslot))
  · exact (congrArg (fun keys : ClientKeys => keys.sessionKeys slot) hkeys).trans (hown slot hslot)
  · have hid := congrArg ClientKeys.keyId hkeys
    exact hid

omit htoken hempty in
/-- **A token flow that meets another client** stops at the first rung. -/
theorem tokenFlow_held (hp : Prompt plat) (hlossless : t.net.Lossless) (h : Rungs t.net.server idx)
    (hheld : Held plat deviceId clientId idx t.net.server) :
    (tokenFlow gcm (channelTransport (deviceService gcm ed plat deviceId) clientId random) deviceId
      token t).1 = [2] := by
  obtain ⟨keys', hseat, -, hbytes, hloaded⟩ := seat_token t.keys token
  have hload1 : keys'.sessionKeyLoaded keyidProvisioning = true := by
    rw [hloaded, Function.update_of_ne (by decide)]
    exact hload _ (by decide)
  have hloadToken : keys'.sessionKeyLoaded keyidClaimToken = true := by
    rw [hloaded, Function.update_self]
  obtain ⟨hbase, hreserved, -⟩ := effectiveKeyid_setKeyid keys'
    (show Slot keyidClaimToken by decide)
  have haccepted : keyidRefused (keys'.setKeyid keyidClaimToken).effectiveKeyid = false := by
    rw [keyidRefused, hreserved, hbase]
    rfl
  have hrefused := rung_held gcm ed random keyidProvisioning (keys'.sessionKeys keyidClaimToken)
    (keys'.sessionKeys keyidProvisioning) hp hlossless h hheld haccepted
  show wp (tokenFlow gcm _ deviceId token) (fun rcs _ => rcs = [2]) t
  unfold tokenFlow
  rw [wp_inOrder_cons]
  unfold installProvisioningByToken
  rw [wp_bind, wp_getKeys, wp_bind, wp_setKeyid, wp_bind, wp_getKeys]
  dsimp only
  rw [hseat]
  dsimp only
  rw [wp_bind, wp_setKeys, wp_bind, wp_installKeyRung (t := ⟨keys', t.net⟩) (by decide) (by decide)
    hload1 hloadToken]
  have hcode : exitCode (writeRung gcm ed plat deviceId clientId random
      (keys'.sessionKeys keyidClaimToken) (keys'.setKeyid keyidClaimToken).effectiveKeyid
      keyidProvisioning (keys'.sessionKeys keyidProvisioning) t.net).1 = 2 := by
    rw [hrefused]
    rfl
  have hstops : ∀ rc : Nat, rc = 2 → (rc ≠ 0 → [rc] = [2]) ∧ (rc = 0 → False) := by
    rintro rc rfl
    exact ⟨fun _ => rfl, fun h => absurd h (by decide)⟩
  exact ⟨(hstops _ hcode).1, fun hzero => ((hstops _ hcode).2 hzero).elim⟩

omit hload htoken in
/-- **A token flow whose object is hidden** leaves the device, and so the slots empty. -/
theorem tokenFlow_hidden (hhidden : ¬ Unshadowed t.net.server keySetDataId) :
    (tokenFlow gcm (channelTransport (deviceService gcm ed plat deviceId) clientId random) deviceId
      token t).2.net.server.server.sod.keys.getKey keyidProvisioning = none := by
  obtain ⟨value, hvalue⟩ := Option.ne_none_iff_exists'.mp hhidden
  have hservice : ∀ req d, d = t.net.server →
      (deviceService gcm ed plat deviceId clientId keySetDataId req d).2 = t.net.server := by
    rintro req d rfl
    exact serve_shadowed (by decide) hvalue
  have hnet := netKeeps_of_service random hservice
  have hkept : Keeps (fun t' : Bench C E => t'.net.server = t.net.server) (tokenFlow gcm
      (channelTransport (deviceService gcm ed plat deviceId) clientId random) deviceId token) := by
    refine inOrder_keeps fun step hstep => ?_
    simp only [List.mem_cons, List.not_mem_nil, or_false] at hstep
    rcases hstep with rfl | rfl
    · exact installProvisioningByToken_keeps hnet token
    · exact installLadder_keeps hnet
  rw [hkept t rfl]
  exact hempty _ (by decide)

end Token

/-! ## The voucher flow -/

/-- What the install over C02Fh leaves: the constant key in an empty slot 1, and everything that
    the ladder looks at as it was. -/
structure Provisioned (d d' : Device E) : Prop where
  key : d'.server.sod.keys.getKey keyidProvisioning = some demoProvisioningKey
  others : ∀ k, k ≠ keyidProvisioning →
    d'.server.sod.keys.getKey k = d.server.sod.keys.getKey k
  registry : d'.server.sod.registry = d.server.sod.registry
  constOd : d'.constOd = d.constOd
  slots : d'.server.sod.writeSlot = d.server.sod.writeSlot
  env : d'.server.host.env = d.server.host.env

theorem Provisioned.rungs {d d' : Device E} (h : Provisioned d d') (hrungs : Rungs d idx) :
    Rungs d' idx := by
  refine ⟨by rw [h.registry]; exact hrungs.found, ?_⟩
  unfold Unshadowed
  rw [h.constOd]
  exact hrungs.seen

theorem Provisioned.free {d d' : Device E} (h : Provisioned d d')
    (hfree : ¬ Held plat deviceId clientId idx d) : ¬ Held plat deviceId clientId idx d' := by
  intro hheld
  have hinUse := hheld.inUse
  have hother := hheld.other
  have hfresh : ageWithin (plat.timeMs (plat.random d'.server.host.env).2).1
    (d'.server.sod.writeSlot idx).armedAt _ = true := hheld.fresh
  rw [h.slots] at hinUse hother hfresh
  rw [h.env] at hfresh
  exact hfree ⟨hinUse, hother, hfresh⟩

/-- The epoch is read as it is answered. -/
theorem epoch_read {ch : Channel C (Device E)} (hlossless : ch.Lossless) :
    (deviceTransport gcm ed plat deviceId clientId random challenge).read deviceId hoEpochId [] 4 ch
      = (within 4 (.ok (epochReply ch.server)), ⟨ch.client, ch.server, ch.fates.tail⟩) := by
  have hserved : deviceService gcm ed plat deviceId clientId hoEpochId [] ch.server
      = (.ok (epochReply ch.server), ch.server) := by
    by_cases hseen : Unshadowed ch.server hoEpochId
    · have hnone : constOdGet ch.server.constOd (dataIdIndex hoEpochId) (dataIdSub hoEpochId)
          = none := hseen
      rw [epochReply, hnone]
      exact deviceService_ok (serve_epoch hseen)
    · obtain ⟨value, hvalue⟩ := Option.ne_none_iff_exists'.mp hseen
      rw [epochReply, hvalue]
      exact deviceService_ok (serve_constant (by decide) hvalue)
  simp only [deviceTransport, linkTransport, channelTransport]
  rw [Channel.carry_delivered (Channel.fate_lossless hlossless)]
  simp only [Channel.served, hserved]
  rfl

/-- What a constant entry makes of a frame that is written to its object. -/
theorem shadowed_write {ch : Channel C (Device E)} (hlossless : ch.Lossless) {dataId : UInt32}
    (hobj : dataId ∈ [hoVoucherId, hoProvisionId, hoEpochId]) {frame : List UInt8}
    (hsome : frame.length ≠ 0) (hhidden : ¬ Unshadowed ch.server dataId) :
    (deviceTransport gcm ed plat deviceId clientId random challenge).write deviceId dataId frame ch
      = (.error (.abort abortReadOnly), ⟨ch.client, ch.server, ch.fates.tail⟩) := by
  obtain ⟨value, hvalue⟩ := Option.ne_none_iff_exists'.mp hhidden
  have hrefused : serveRequest gcm ed plat deviceId ch.server clientId dataId frame = _ :=
    serve_constant hobj hvalue
  rw [if_pos (by simpa using hsome)] at hrefused
  exact write_aborted (Channel.fate_lossless hlossless) (deviceService_abort (by decide) hrefused)

/-- A device that the tool's voucher has claimed accepts the tool's install. -/
theorem payload_installable (correct : Ed25519Correct ed) {st : AsymStore} (h : Enrolled ed st)
    (epoch : UInt32) : Installable ed (claimedBy ed st epoch) (provisioningPayload ed) := by
  have hkey : provisionKey (provisioningPayload ed) = demoProvisioningKey := slice_toList_append _ _
  have hsig : provisionSig (provisioningPayload ed) = ed.sign (clientIntegrator ed)
      (asymTranscript rolePkinstallAck (toList demoProvisioningKey)
        (asymTranscriptOverhead + aeadKeySize)) := by
    have hskip := slice_append_right 64 (toList demoProvisioningKey)
      (toList (ed.sign (clientIntegrator ed) (asymTranscript rolePkinstallAck
        (toList demoProvisioningKey) (asymTranscriptOverhead + aeadKeySize)))) 0
    rw [length_toList, slice_toList] at hskip
    exact hskip
  refine ⟨?_, h.ready, rfl, ?_⟩
  · simp only [provisioningPayload, List.length_append, length_toList]
  · rw [hsig, provisionTranscript, hkey]
    exact correct integratorSeed _

/-- An install into slot 1 leaves the other slots. -/
theorem installKey_other (keys : KeyStore) (key : Key) (idVal : UInt32) {k : UInt8}
    (hne : k ≠ keyidProvisioning) :
    (installKey keys keyidProvisioning key idVal).getKey k = keys.getKey k := by
  unfold installKey KeyStore.setKeyEx
  split
  · rfl
  · split
    · rfl
    · exact getKey_filled_other hne

/-- The device after the tool's voucher. -/
def claimedDevice (ed : Ed25519) (d : Device E) (epoch : UInt32) : Device E :=
  ({ d with asym := claimedBy ed d.asym epoch } : Device E).setStage .owned

/-- **The install** on a claimed device: it is taken, or hidden by a constant entry. -/
theorem wp_install (correct : Ed25519Correct ed) {d : Device E} {epoch : UInt32}
    (h : Enrolled ed d.asym)
    (hempty : d.server.sod.keys.getKey keyidProvisioning = none) {ch : Channel C (Device E)}
    (hserver : ch.server = claimedDevice ed d epoch) (hlossless : ch.Lossless)
    {Q : Nat → HandoverWorld (Channel C (Device E)) → Prop}
    (hgood : Unshadowed d hoProvisionId → ∀ w : HandoverWorld (Channel C (Device E)),
      w.net.Lossless → Provisioned d w.net.server → Q 0 w)
    (hbad : ¬ Unshadowed d hoProvisionId → ∀ rc w, rc ≠ 0 → Q rc w) (log : List HandoverEvent) :
    wp (installProvisioning ed
      (deviceTransport gcm ed plat deviceId clientId random challenge) deviceId) Q ⟨ch, log⟩ := by
  have hbuilt : asymTranscript rolePkinstallAck (toList demoProvisioningKey)
      (asymTranscriptOverhead + aeadKeySize)
      = asymDomain ++ [0x00, asymSigAlg, rolePkinstallAck] ++ toList demoProvisioningKey :=
    asymTranscript_of_fits (by rw [length_toList]) (by decide)
  have hkey : provisionKey (provisioningPayload ed) = demoProvisioningKey := slice_toList_append _ _
  unfold installProvisioning
  rw [if_neg (by rw [hbuilt]; decide), wp_bind, wp_handoverWrite]
  by_cases hseen : Unshadowed d hoProvisionId
  · have hseen' : Unshadowed ch.server hoProvisionId := by
      rw [hserver]
      exact hseen
    have hinstall : Installable ed ch.server.asym (provisioningPayload ed) := by
      rw [hserver]
      exact payload_installable correct h epoch
    have hwrite : (deviceTransport gcm ed plat deviceId clientId random challenge).write deviceId
        hoProvisionId (provisioningPayload ed) ch = (.ok (), ⟨ch.client, _, ch.fates.tail⟩) :=
      write_delivered (Channel.fate_lossless hlossless)
        (deviceService_ok (serve_install hseen' hinstall))
    rw [hwrite]
    refine hgood hseen _ (Channel.lossless_tail hlossless) ?_
    rw [hserver]
    have hlive := installKey_live d.server.sod.keys (provisionKey (provisioningPayload ed))
      keyidValueProvisioning
    rw [hempty, Option.getD_none, hkey] at hlive
    exact
      { key := by
          show (installKey d.server.sod.keys keyidProvisioning
            (provisionKey (provisioningPayload ed)) keyidValueProvisioning).getKey _ = _
          rw [hkey]
          exact hlive
        others := fun k hne => installKey_other _ _ _ hne
        registry := rfl
        constOd := rfl
        slots := rfl
        env := rfl }
  · have hhidden : ¬ Unshadowed ch.server hoProvisionId := by
      rw [hserver]
      exact hseen
    have hlen : (provisioningPayload ed).length ≠ 0 := by
      simp only [provisioningPayload, List.length_append, length_toList]
      decide
    rw [shadowed_write hlossless (by decide) hlen hhidden]
    exact hbad hseen 2 _ (by decide)

/-- **The voucher** on a device that is open for a claim: it is taken, or it is hidden by a
    constant entry or too old. -/
theorem wp_voucher (correct : Ed25519Correct ed) {ch : Channel C (Device E)}
    (h : Enrolled ed ch.server.asym) (hopen : ch.server.asym.uncommissioned = true)
    (hlossless : ch.Lossless) {Q : Nat → HandoverWorld (Channel C (Device E)) → Prop}
    (hgood : Unshadowed ch.server hoVoucherId →
      ch.server.asym.ownerEpoch < nextEpoch (epochSeen ch.server) →
      ∀ w : HandoverWorld (Channel C (Device E)), w.net.Lossless →
      w.net.server = claimedDevice ed ch.server (nextEpoch (epochSeen ch.server)) → Q 0 w)
    (hbad : ¬ (Unshadowed ch.server hoVoucherId ∧
      ch.server.asym.ownerEpoch < nextEpoch (epochSeen ch.server)) → ∀ rc w, rc ≠ 0 → Q rc w)
    (log : List HandoverEvent) :
    wp (presentVoucher ed (deviceTransport gcm ed plat deviceId clientId random challenge) deviceId
      none) Q ⟨ch, log⟩ := by
  have htail : Channel.Lossless ⟨ch.client, ch.server, ch.fates.tail⟩ :=
    Channel.lossless_tail hlossless
  unfold presentVoucher
  simp only [wp_bind, wp_readOwnerEpoch, buildVoucherEpoch_eq, epoch_read hlossless]
  rw [wp_presentVoucherBytes (mintedVoucher_length _ _)]
  dsimp only
  by_cases hseen : Unshadowed ch.server hoVoucherId
  · by_cases hfresh : ch.server.asym.ownerEpoch < nextEpoch (epochSeen ch.server)
    · obtain ⟨-, hwrite⟩ := @voucher_taken E C gcm ed plat deviceId clientId deviceId random challenge
        ⟨ch.client, ch.server, ch.fates.tail⟩ correct h hopen htail hseen _ hfresh
      simp only [epochSeen] at hwrite ⊢
      rw [hwrite]
      exact hgood hseen hfresh _ (Channel.lossless_tail htail) rfl
    · have hwrite := @voucher_refused E C gcm ed plat deviceId clientId deviceId random challenge
        ⟨ch.client, ch.server, ch.fates.tail⟩ correct h hopen htail hseen _ hfresh
      simp only [epochSeen] at hwrite ⊢
      rw [hwrite]
      exact hbad (fun hboth => hfresh hboth.2) 2 _ (by decide)
  · have hlen : (mintedVoucher ed (nextEpoch (epochSeen ch.server))).length ≠ 0 := by
      rw [mintedVoucher_length]
      decide
    have hwrite : (deviceTransport gcm ed plat deviceId clientId random challenge).write deviceId
        hoVoucherId (mintedVoucher ed (nextEpoch (epochSeen ch.server)))
        ⟨ch.client, ch.server, ch.fates.tail⟩ = _ := shadowed_write htail (by decide) hlen hseen
    simp only [epochSeen] at hwrite ⊢
    rw [hwrite]
    exact hbad (fun hboth => hseen hboth.1) 2 _ (by decide)

section Voucher

variable (correct : Ed25519Correct ed) (henrolled : Enrolled ed t.net.server.asym)
  (hopen : t.net.server.asym.uncommissioned = true)
  (hempty : ∀ slot ∈ ladderSlots, t.net.server.server.sod.keys.getKey slot = none)
  (hlossless : t.net.Lossless)

include correct henrolled hopen hempty hlossless

/-- **The voucher flow up to the ladder**: a claimed device with the constant key in slot 1, or
    a step that fails. -/
theorem wp_voucherFlow {Q : List Nat → Bench C E → Prop}
    (hgood : Claims t.net.server → ∀ net : Channel C (Device E), net.Lossless →
      Provisioned t.net.server net.server →
      wp (inOrder [installLadder gcm
        (channelTransport (deviceService gcm ed plat deviceId) clientId random) deviceId])
        (fun rcs => Q (0 :: 0 :: rcs)) ⟨t.keys, net⟩)
    (hbad : ¬ Claims t.net.server → ∀ rcs t', rcs ≠ [0, 0, 0] → Q rcs t') :
    wp (voucherFlow gcm ed (deviceTransport gcm ed plat deviceId clientId random challenge) deviceId)
      Q t := by
  unfold voucherFlow
  rw [wp_inOrder_cons, wp_handover]
  refine wp_voucher correct henrolled hopen hlossless ?taken ?refused []
  case refused =>
    intro hno rc w hrc
    exact ⟨fun _ => hbad (fun hclaims => hno ⟨hclaims.voucher, hclaims.fresh⟩) _ _ (by simp),
      fun hzero => absurd hzero hrc⟩
  case taken =>
    intro hvoucher hfresh w hlossless' hserver
    refine ⟨fun hne => absurd rfl hne, fun _ => ?_⟩
    rw [wp_inOrder_cons, wp_handover]
    refine wp_install correct henrolled (hempty _ (by decide)) hserver hlossless' ?_ ?_ []
    · intro hprovision w' hlossless'' hprovisioned
      refine ⟨fun hne => absurd rfl hne, fun _ => ?_⟩
      exact hgood ⟨hvoucher, hfresh, hprovision⟩ w'.net hlossless'' hprovisioned
    · intro hno rc w' hrc
      exact ⟨fun _ => hbad (fun hclaims => hno hclaims.provision) _ _ (by simp),
        fun hzero => absurd hzero hrc⟩

/-- **The voucher flow agrees** with a client that has the constant key in slot 1. -/
theorem voucherFlow_agrees (hg : gcm.Correct) (hp : Prompt plat)
    (hdraws : ∀ c, (random c).1 ≠ none) (h : Rungs t.net.server idx)
    (hfree : ¬ Held plat deviceId clientId idx t.net.server)
    (hload : ∀ slot ∈ ladderSlots, t.keys.sessionKeyLoaded slot = true)
    (hclaims : Claims t.net.server)
    (hdemo : t.keys.sessionKeys keyidProvisioning = demoProvisioningKey) :
    Agree t.keys 3 (voucherFlow gcm ed
      (deviceTransport gcm ed plat deviceId clientId random challenge) deviceId t) := by
  rw [flow_iff (P := Agree t.keys 3)]
  refine wp_voucherFlow correct henrolled hopen hempty hlossless ?_ (fun hno => absurd hclaims hno)
  intro _ net hlossless' hprov
  rw [wp_inOrder_cons]
  have hkey : net.server.server.sod.keys.getKey keyidProvisioning
      = some (t.keys.sessionKeys keyidProvisioning) := by rw [hprov.key, hdemo]
  have hrest : ∀ slot ∈ [keyidIntegrator, keyidOperator],
      net.server.server.sod.keys.getKey slot = none := by
    intro slot hslot
    have hne : slot ≠ keyidProvisioning := by
      rintro rfl
      exact absurd hslot (by decide)
    exact (hprov.others slot hne).trans (hempty slot (List.mem_cons_of_mem _ hslot))
  refine wp_mono (ladder_run (t := ⟨t.keys, net⟩) hg hp hdraws hlossless' (hprov.rungs h)
    (hprov.free hfree) hload hkey (hrest _ (by decide)) (hrest _ (by decide))) ?_
  rintro rc t' ⟨rfl, hkeys, hdone⟩
  refine ⟨fun hne => absurd rfl hne, fun _ => ?_⟩
  have hid := congrArg ClientKeys.keyId hkeys
  exact ⟨rfl, hdone.device, hdone.stage,
    fun slot _ => congrArg (fun keys : ClientKeys => keys.sessionKeys slot) hkeys, hid⟩

/-- **And only with such a client.** -/
theorem voucherFlow_needs (hagree : Agree t.keys 3 (voucherFlow gcm ed
      (deviceTransport gcm ed plat deviceId clientId random challenge) deviceId t)) :
    Claims t.net.server ∧ t.keys.sessionKeys keyidProvisioning = demoProvisioningKey := by
  refine (flow_iff (P := fun out => Agree t.keys 3 out → Claims t.net.server ∧
    t.keys.sessionKeys keyidProvisioning = demoProvisioningKey)).mpr ?_ hagree
  refine wp_voucherFlow correct henrolled hopen hempty hlossless ?_ ?_
  · intro hclaims net _ hprov hagree'
    refine ⟨hclaims, ?_⟩
    -- the ladder leaves the key that the install put there
    have hservice : ∀ req (d : Device E),
        d.server.sod.keys.getKey keyidProvisioning = some demoProvisioningKey →
        (deviceService gcm ed plat deviceId clientId keySetDataId req
          d).2.server.sod.keys.getKey keyidProvisioning = some demoProvisioningKey :=
      fun req d hold => keySet_write_once hold
    have hnet := netKeeps_of_service random hservice
    have hkept : Keeps (fun t' : Bench C E =>
        t'.net.server.server.sod.keys.getKey keyidProvisioning = some demoProvisioningKey)
        (inOrder [installLadder gcm (channelTransport (deviceService gcm ed plat deviceId)
          clientId random) deviceId]) := by
      refine inOrder_keeps fun step hstep => ?_
      rw [List.mem_singleton.mp hstep]
      exact installLadder_keeps hnet
    have hdevice := hagree'.device keyidProvisioning (by decide)
    exact Option.some.inj (hdevice.symm.trans (hkept ⟨t.keys, net⟩ hprov.key))
  · intro hno rcs t' hrcs hagree'
    exact absurd hagree'.success hrcs

end Voucher

end Flow

/-! ## The headline -/

/-- **Both flows leave both sides with the same keys, exactly when** the client's key in slot 1
    is the constant that the voucher flow installs, and the device takes the requests of the flows.
    The device has run since it booted; it is uncommissioned, has no session key, and its claim
    token is the client's; the client has keys in the three slots, and the channel loses nothing. -/
theorem commissioning_agrees_iff (gcm : Gcm) (hg : gcm.Correct) (ed : Ed25519)
    (correct : Ed25519Correct ed) (plat : DevicePlatform E) (hp : Prompt plat)
    (deviceId clientId : UInt16) (random : C → Option Rand × C)
    (hdraws : ∀ c, (random c).1 ≠ none) (challenge : C → Option RpkNonce × C)
    (cfg : BootConfig) (env : E) (d : Device E) (hstart : odInit ed cfg env = some d)
    (inputs : List (NodeInput E)) (t : Bench C E) (token : Key)
    (hhere : t.net.server = (nodeAfter gcm ed plat deviceId d inputs).device)
    (hlossless : t.net.Lossless) (hopen : Uncommissioned t.net.server)
    (hempty : ∀ slot ∈ ladderSlots, t.net.server.server.sod.keys.getKey slot = none)
    (htoken : t.net.server.server.sod.keys.getKey keyidClaimToken = some token)
    (hload : ∀ slot ∈ ladderSlots, t.keys.sessionKeyLoaded slot = true) :
    let T := deviceTransport gcm ed plat deviceId clientId random challenge
    Agree t.keys 3 (voucherFlow gcm ed T deviceId t) ∧
      Agree t.keys 2 (tokenFlow gcm T.toTransport deviceId token t) ↔
    AgreesWhen plat deviceId clientId t.keys t.net.server := by
  intro T
  have henrolled : Enrolled ed t.net.server.asym := hhere ▸ enrolled_run hstart inputs
  have hclaimable : t.net.server.asym.uncommissioned = true :=
    hopen.claimable (hhere ▸ unclaimed_run hstart inputs)
  obtain ⟨idx, hfound⟩ : ∃ idx, t.net.server.server.sod.registry.find keySetDataId
      = some (idx, entryKset) := hhere ▸ keySet_registered hstart inputs
  constructor
  · rintro ⟨hvoucher, htokenFlow⟩
    obtain ⟨hclaims, hdemo⟩ :=
      voucherFlow_needs correct henrolled hclaimable hempty hlossless hvoucher
    have hseen : Unshadowed t.net.server keySetDataId := by
      by_contra hhidden
      have hnone : (tokenFlow gcm T.toTransport deviceId token
          t).2.net.server.server.sod.keys.getKey keyidProvisioning = none :=
        tokenFlow_hidden hempty hhidden
      exact absurd (hnone.symm.trans (htokenFlow.device keyidProvisioning (by decide))) (by simp)
    refine ⟨hclaims, hdemo, hseen, ?_⟩
    rintro ⟨idx', hfound', hheld⟩
    have hstopped : (tokenFlow gcm T.toTransport deviceId token t).1 = [2] :=
      tokenFlow_held hload hp hlossless ⟨hfound', hseen⟩ hheld
    have hsuccess := htokenFlow.success
    exact absurd (hstopped.symm.trans hsuccess) (by decide)
  · intro h
    have hfree : ¬ Held plat deviceId clientId idx t.net.server :=
      fun hheld => h.free ⟨idx, hfound, hheld⟩
    exact ⟨voucherFlow_agrees correct henrolled hclaimable hempty hlossless hg hp hdraws
      ⟨hfound, h.keySet⟩ hfree hload h.toClaims h.demo,
      tokenFlow_agrees hload htoken hempty hg hp hdraws hlossless ⟨hfound, h.keySet⟩ hfree⟩

/-! ## Worked runs -/

/-- A platform that always draws the same random, and whose clock stands still. -/
def sampleSteady : DevicePlatform Unit where
  timeMs e := (0, e)
  random e := (some (sampleRand 5), e)
  nonce e := (none, e)

theorem sampleSteady_prompt : Prompt sampleSteady where
  random := fun _ => by simp [sampleSteady]
  clock := fun _ => show ageWithin 0 0 challengeTimeoutMs = true by decide

/-- A device as it boots without keys. -/
def sampleFresh : Device Unit := (odInit sampleEd {} ()).get (by decide +kernel)

/-- A client with this key in slot 1, and keys in the other two. -/
def sampleClient (prov : Key) : ClientKeys where
  sessionKeys slot := if slot = keyidProvisioning then prov
    else if slot = keyidIntegrator then sampleKey else demoKeyOperator
  sessionKeyLoaded slot := slot ∈ ladderSlots
  keyId := keyidOperator

/-- The two at the ends of a channel. -/
def sampleSetup (prov : Key) : Bench Unit Unit := ⟨sampleClient prov, ⟨(), sampleFresh, []⟩⟩

/-- The client's draws. -/
def sampleDraws (c : Unit) : Option Rand × Unit := (some (sampleRand 9), c)

/-- The transport between them. -/
def sampleWire : HandoverTransport (Channel Unit (Device Unit)) :=
  deviceTransport sampleGcm sampleEd sampleSteady sampleNodeId 20 sampleDraws fun c => (none, c)

/-- `commissioning_agrees_iff` with the constant key in slot 1. -/
theorem sampleSetup_agrees :
    Agree (sampleClient demoProvisioningKey) 3 (voucherFlow sampleGcm sampleEd sampleWire
        sampleNodeId (sampleSetup demoProvisioningKey)) ∧
      Agree (sampleClient demoProvisioningKey) 2 (tokenFlow sampleGcm sampleWire.toTransport
        sampleNodeId claimToken (sampleSetup demoProvisioningKey)) := by
  have hstart : odInit sampleEd {} () = some sampleFresh := (Option.some_get _).symm
  have hidle : ∀ idx, (sampleFresh.server.sod.writeSlot idx).inUse = false := by decide +kernel
  exact (commissioning_agrees_iff sampleGcm sampleGcm_correct sampleEd sampleEd_correct sampleSteady
    sampleSteady_prompt sampleNodeId 20 sampleDraws
    (fun _ => by simp [sampleDraws]) (fun c => (none, c)) {} () sampleFresh hstart []
    (sampleSetup demoProvisioningKey) claimToken rfl (fun f hf => nomatch hf)
    (.inl (by decide +kernel)) (by decide +kernel) (by decide +kernel) (by decide +kernel)).mpr
    { voucher := by unfold Unshadowed; decide +kernel
      fresh := by decide +kernel
      provision := by unfold Unshadowed; decide +kernel
      demo := rfl
      keySet := by unfold Unshadowed; decide +kernel
      free := by
        rintro ⟨idx, -, hheld⟩
        exact absurd ((hidle idx).symm.trans hheld.inUse) (by decide) }

/-- **Another key**: the device is uncommissioned and below the last epoch, it has the claim token
    and no session key.  It acknowledges voucher and install, and refuses the first rung, which the
    client writes under its own key of slot 1. -/
theorem other_key_disagrees :
    (Uncommissioned sampleFresh ∧ sampleFresh.asym.ownerEpoch ≠ lastEpoch ∧
      (∀ slot ∈ ladderSlots, sampleFresh.server.sod.keys.getKey slot = none ∧
        (sampleClient sampleKey).sessionKeyLoaded slot = true) ∧
      sampleFresh.server.sod.keys.getKey keyidClaimToken = some claimToken) ∧
    (voucherFlow sampleGcm sampleEd sampleWire sampleNodeId (sampleSetup sampleKey)).1 = [0, 0, 2] ∧
    ¬ Agree (sampleClient sampleKey) 3 (voucherFlow sampleGcm sampleEd sampleWire sampleNodeId
      (sampleSetup sampleKey)) := by
  have hrun : (voucherFlow sampleGcm sampleEd sampleWire sampleNodeId
      (sampleSetup sampleKey)).1 = [0, 0, 2] := by decide +kernel
  refine ⟨⟨.inl (by decide +kernel), by decide +kernel, by decide +kernel, by decide +kernel⟩, hrun,
    fun h => ?_⟩
  exact absurd (hrun.symm.trans h.success) (by decide)

end SofaKeyAgreement
