import Sofa.Lifecycle

/-! # What an acknowledged install leaves behind

    A C02Fh request carries a Provisioning key signed by the owner.  The identity store
    takes it whenever the signature verifies; the live slot of the secure OD, into which it
    is then bridged, is write-once, and the result of that write is dropped.

    The headline, **`install_live_iff`**: along any run an acknowledged install leaves the
    delivered key in the live slot, and an abort leaves slot, store and stage alone,
    exactly when every install that is accepted finds the slot empty or filled with that
    very key.  `dead_install` is an acknowledged install of a key that no session uses. -/

namespace SofaProvisioning

open ByteBlock SofaConfig SofaAead SofaOd SofaServer SofaDemo SofaAsym SofaDevice SofaTurn SofaNode
  SofaEpochs SofaCommissioning SofaLifecycle StateWp Machine

variable {E : Type} {gcm : Gcm} {ed : Ed25519} {plat : DevicePlatform E} {deviceId : UInt16}

/-! ## The law -/

/-- The key of the live Provisioning slot. -/
def liveKey (d : Device E) : Option Key := d.server.sod.keys.getKey keyidProvisioning

/-- What a client seals under `key` opens under the live Provisioning key. -/
def OpensLive (gcm : Gcm) (d : Device E) (key : Key) : Prop :=
  ∀ (call : AeadCall) (plain cipher : List UInt8) (tag : Tag), call.key = key →
    aeadSeal gcm call plain = some (cipher, tag) →
    ∃ live, liveKey d = some live ∧ aeadOpen gcm { call with key := live } cipher tag = some plain

/-- An acknowledged install is live: the request delivered a key, and the live slot holds
    it. -/
structure Live (gcm : Gcm) (req : List UInt8) (d' : Device E) : Prop where
  delivered : req.length = hoProvisionLen
  live : liveKey d' = some (provisionKey req)
  opens : OpensLive gcm d' (provisionKey req)

/-- Live slot, provisioning key of the store, and stage are as they were. -/
structure Untouched (d d' : Device E) : Prop where
  live : liveKey d' = liveKey d
  store : d'.asym.installedProvisioningKey = d.asym.installedProvisioningKey
  stage : stageOf d' = stageOf d

/-- The law of one C02Fh request, whatever the replies. -/
def InstallLaw (gcm : Gcm) (ed : Ed25519) (plat : DevicePlatform E) (deviceId : UInt16)
    (n : Node E) : NodeInput E → Prop
  | .request client dataId req => dataId = hoProvisionId →
      let w := serveRequest gcm ed plat deviceId n.device client dataId req
      ∀ r ∈ w.sent, (r.status = abortNone → Live gcm req w.device) ∧
        (r.status ≠ abortNone → Untouched n.device w.device)
  | .platform _ => True

/-! ## The condition -/

/-- An install that is accepted finds the live slot empty, or filled with the key it
    delivers; and no constant entry acknowledges an empty request in its place. -/
def InstallFinds (ed : Ed25519) (n : Node E) : NodeInput E → Prop
  | .request _ dataId req => dataId = hoProvisionId →
      (Unshadowed n.device hoProvisionId → Installable ed n.device.asym req →
        liveKey n.device = none ∨ liveKey n.device = some (provisionKey req)) ∧
      (¬ Unshadowed n.device hoProvisionId → req ≠ [])
  | .platform _ => True

/-! ## One request -/

section Request

variable {d : Device E} {client : UInt16} {req : List UInt8}

/-- A refused install leaves the device. -/
theorem serve_refused (hconst : Unshadowed d hoProvisionId) (hno : ¬ Installable ed d.asym req) :
    serveRequest gcm ed plat deviceId d client hoProvisionId req =
      ⟨d, [⟨client, hoProvisionId, abortSigVerify, []⟩], []⟩ := by
  have hrefused : d.asym.installProvisioning ed req = none := by
    rw [Option.eq_none_iff_forall_not_mem]
    intro asym hsome
    exact hno (install_iff.mp hsome).1
  refine serve_handover (by decide) hconst ?_
  show handleProvision ed client req ⟨d, [], []⟩ = _
  simp only [handleProvision, getDevice, bind, StateT.bind, hrefused]
  rfl

/-- What a constant entry answers in the place of a handover object. -/
theorem serve_constant {dataId : UInt32}
    (hobj : dataId ∈ [hoVoucherId, hoProvisionId, hoEpochId])
    {value : List UInt8}
    (hconst : constOdGet d.constOd (dataIdIndex dataId) (dataIdSub dataId) = some value) :
    serveRequest gcm ed plat deviceId d client dataId req =
      ⟨d, [if req.length != 0 then ⟨client, dataId, abortReadOnly, []⟩
        else ⟨client, dataId, abortNone, value⟩], []⟩ := by
  simp only [List.mem_cons, List.not_mem_nil, or_false] at hobj
  have hlow : (dataIdLow dataId != 0) = false := by
    rcases hobj with rfl | rfl | rfl <;> rfl
  have hdesc : tryServeDescriptor client dataId req (⟨d, [], []⟩ : DevWorld E)
      = (false, ⟨d, [], []⟩) := by
    rcases hobj with rfl | rfl | rfl <;> rfl
  have htier : wp (tryServeConstOd client dataId req)
      (fun handled w => handled = true ∧ w =
        ⟨d, [if req.length != 0 then ⟨client, dataId, abortReadOnly, []⟩
          else ⟨client, dataId, abortNone, value⟩], []⟩) ⟨d, [], []⟩ := by
    unfold tryServeConstOd
    simp only [wp_bind, wp_ite, wp_pure, wp_getDevice, hconst, wp_emit, hlow]
    refine ⟨fun h => absurd h (by decide), fun _ => ⟨fun h => ⟨trivial, ?_⟩, fun h => ⟨trivial, ?_⟩⟩⟩
    · rw [if_pos h]
      rfl
    · rw [if_neg h]
      rfl
  show wp (dispatchRequest gcm ed plat deviceId client dataId req) (fun _ w => w = _) ⟨d, [], []⟩
  rw [dispatchRequest, wp_passed hdesc, wp_served htier.1]
  exact htier.2

/-- The live key after an install into the write-once slot. -/
theorem installKey_live (keys : KeyStore) (key : Key) (idVal : UInt32) :
    (installKey keys keyidProvisioning key idVal).getKey keyidProvisioning =
      some ((keys.getKey keyidProvisioning).getD key) := by
  have hrange : keySlotInRange keyidProvisioning = true := rfl
  unfold installKey KeyStore.setKeyEx
  rw [if_neg (by simp [hrange])]
  cases hold : keys.getKey keyidProvisioning with
  | none =>
      have hempty : keys.hasKey keyidProvisioning = false := by simp [KeyStore.hasKey, hold]
      rw [if_neg (by simp [hempty])]
      simp [KeyStore.getKey, hrange]
  | some old =>
      have hfull : keys.hasKey keyidProvisioning = true := by simp [KeyStore.hasKey, hold]
      rw [if_pos hfull]
      exact hold

/-- What is sealed under the live key opens under it. -/
theorem opens_of_live (hg : gcm.Correct) {key : Key} (h : liveKey d = some key) :
    OpensLive gcm d key := by
  rintro call plain cipher tag rfl hseal
  exact ⟨call.key, h, aeadOpen_aeadSeal hg hseal⟩

/-- **One C02Fh request** keeps the law exactly when the install finds the slot. -/
theorem install_request (hg : gcm.Correct) :
    (∀ r ∈ (serveRequest gcm ed plat deviceId d client hoProvisionId req).sent,
        (r.status = abortNone →
          Live gcm req (serveRequest gcm ed plat deviceId d client hoProvisionId req).device) ∧
        (r.status ≠ abortNone →
          Untouched d (serveRequest gcm ed plat deviceId d client hoProvisionId req).device)) ↔
      (Unshadowed d hoProvisionId → Installable ed d.asym req →
        liveKey d = none ∨ liveKey d = some (provisionKey req)) ∧
      (¬ Unshadowed d hoProvisionId → req ≠ []) := by
  by_cases hconst : Unshadowed d hoProvisionId
  · by_cases hinstall : Installable ed d.asym req
    · rw [serve_install hconst hinstall]
      have hlive : liveKey ((({ d with asym := { d.asym with
          provisioningKey := provisionKey req, provisioningSet := true } } : Device E).setKeys
          (installKey d.server.sod.keys keyidProvisioning (provisionKey req)
            keyidValueProvisioning)).setStage .owned)
          = some ((liveKey d).getD (provisionKey req)) := installKey_live _ _ _
      simp only [List.mem_singleton, forall_eq, ne_eq, not_true_eq_false, false_implies, and_true,
        true_implies, hconst, hinstall]
      constructor
      · rintro ⟨-, hkey, -⟩
        rw [hlive] at hkey
        cases hold : liveKey d with
        | none => exact .inl rfl
        | some old =>
            rw [hold] at hkey
            exact .inr hkey
      · intro hfound
        have hkey : some ((liveKey d).getD (provisionKey req)) = some (provisionKey req) := by
          rcases hfound with hnone | hsame
          · rw [hnone]
            rfl
          · rw [hsame]
            rfl
        exact ⟨hinstall.len, hlive.trans hkey, opens_of_live hg (hlive.trans hkey)⟩
    · rw [serve_refused hconst hinstall]
      refine iff_of_true ?_ ⟨fun _ h => absurd h hinstall, fun h => absurd hconst h⟩
      intro r hr
      obtain rfl := List.mem_singleton.mp hr
      have hne : abortSigVerify ≠ abortNone := by decide
      exact ⟨fun h => absurd h hne, fun _ => ⟨rfl, rfl, rfl⟩⟩
  · obtain ⟨value, hvalue⟩ := Option.ne_none_iff_exists'.mp hconst
    rw [serve_constant (by decide) hvalue]
    have hempty : (∀ r ∈ [if req.length != 0 then (⟨client, hoProvisionId, abortReadOnly, []⟩ : Reply)
        else ⟨client, hoProvisionId, abortNone, value⟩],
        (r.status = abortNone → Live gcm req d) ∧ (r.status ≠ abortNone → Untouched d d)) ↔
        req ≠ [] := by
      cases req with
      | nil =>
          refine iff_of_false (fun h => ?_) (by simp)
          have hlive := (h _ (List.mem_singleton_self _)).1 rfl
          exact absurd hlive.delivered (by decide)
      | cons b req =>
          refine iff_of_true ?_ (by simp)
          intro r hr
          obtain rfl := List.mem_singleton.mp hr
          have hne : abortReadOnly ≠ abortNone := by decide
          exact ⟨fun h => absurd h hne, fun _ => ⟨rfl, rfl, rfl⟩⟩
    rw [hempty]
    exact ⟨fun h => ⟨fun hseen => absurd hseen hconst, fun _ => h⟩, fun h => h.2 hconst⟩

end Request

/-! ## The headline -/

/-- **An acknowledged install is live, exactly.** -/
theorem install_live_iff (gcm : Gcm) (hg : gcm.Correct) (ed : Ed25519) (plat : DevicePlatform E)
    (deviceId : UInt16) (d : Device E) (inputs : List (NodeInput E)) :
    Along (nodeStep gcm ed plat deviceId) (InstallLaw gcm ed plat deviceId) ⟨d, []⟩ inputs ↔
      Along (nodeStep gcm ed plat deviceId) (InstallFinds ed) ⟨d, []⟩ inputs := by
  refine along_congr fun n a => ?_
  cases a with
  | platform env => exact Iff.rfl
  | request client dataId req =>
      by_cases hid : dataId = hoProvisionId
      · subst hid
        simp only [InstallLaw, InstallFinds, true_implies]
        exact install_request hg
      · exact ⟨fun _ h => absurd h hid, fun _ h => absurd h hid⟩

/-! ## Worked runs -/

/-- A Provisioning install signed by the demo integrator. -/
def sampleInstall (key : Key) : List UInt8 :=
  let transcript := asymTranscript rolePkinstallAck (toList key)
    (asymTranscriptOverhead + aeadKeySize)
  toList key ++ toList (sampleEd.sign (sampleEd.keygen integratorSeed) transcript)

/-- The device is claimed, and the new owner installs a key. -/
def sampleProvisioned : List (NodeInput SampleEnv) :=
  [.request 20 hoVoucherId (sampleVoucher 5), .request 20 hoProvisionId (sampleInstall sampleKey)]

/-- `install_live_iff` on a device that boots without keys. -/
theorem sampleProvisioned_live :
    Along (nodeStep sampleGcm sampleEd samplePlatform sampleNodeId)
      (InstallLaw sampleGcm sampleEd samplePlatform sampleNodeId) ⟨sampleBare, []⟩
      sampleProvisioned :=
  (install_live_iff sampleGcm sampleGcm_correct sampleEd samplePlatform sampleNodeId sampleBare
    sampleProvisioned).mpr
    ⟨fun h => absurd h (by decide), fun _ => ⟨fun _ _ => .inl (by decide +kernel),
      fun h => absurd (by unfold Unshadowed; decide +kernel) h⟩, trivial⟩

/-- **A dead install.**  Booted with the demo keys and claimed, the device acknowledges the
    owner's install, and its sessions go on under the demo key. -/
theorem dead_install :
    let n := nodeAfter sampleGcm sampleEd samplePlatform sampleNodeId sampleKeyed sampleProvisioned
    (n.history.map (·.sent)).getLast? = some [⟨20, hoProvisionId, abortNone, []⟩] ∧
    (liveKey n.device).map toList = some (toList demoKeyProvisioning) ∧
    ¬ Along (nodeStep sampleGcm sampleEd samplePlatform sampleNodeId)
      (InstallLaw sampleGcm sampleEd samplePlatform sampleNodeId) ⟨sampleKeyed, []⟩
      sampleProvisioned := by
  refine ⟨by decide +kernel, by decide +kernel, ?_⟩
  rintro ⟨-, hinstall, -⟩
  have hlaw := (hinstall rfl ⟨20, hoProvisionId, abortNone, []⟩ (by decide +kernel)).1 rfl
  have hlive := congrArg (Option.map toList) hlaw.live
  exact absurd hlive (by decide +kernel)

end SofaProvisioning
