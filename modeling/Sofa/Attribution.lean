import Sofa.Writes
import Sofa.DemoServer

/-! # Which key authorized a write

    `write_after` learns the authorizing key through
    `fbsec_sod_last_write_key_id()`.  The Pass-2 path sets it from the frame it
    has just verified; the poll path leaves it as the last Pass-2 frame of any
    entry set it.  `writes_attributed`: while every poll finds it equal to its
    own key id, each write is attributed to the key that verified it, and the
    C01Fh ladder installs a tier only under the tier's authorizing key.

    `stale_attribution` is a run in which a poll finds another client's key id
    there and climbs the ladder with it. -/

namespace SofaAttribution

open ByteBlock SofaConfig SofaAead SofaOd SofaMoves SofaServer SofaWrites SofaDemo Machine

variable {H E : Type}

/-! ## The laws -/

/-- Every call of `write_after` directly follows the verification of its payload,
    and the last write key id is the one whose installed key verified it. -/
def Attributed (keys : KeyStore) (calls : List Event) : Prop :=
  ∀ pre d src kid rc post, calls = pre ++ .writeAfter d src kid rc :: post →
    ∃ pre' call cipher tag, pre = pre' ++ [.aeadOpen call cipher tag (some src)] ∧
      kid = keyidBase call.keyId ∧ keys.getKey kid = some call.key

/-- The attribution law of one step. -/
def StepAttributed (gcm : Gcm) (P : Ports H) (s : Server H) : Input H → Prop
  | .request client d req replyMax =>
      Attributed s.sod.keys (exchange gcm P s client d req replyMax).calls
  | _ => True

/-- The ladder law of one step: a request that fills an empty key slot is a
    key-set write whose frame verified under the slot's authorizing key. -/
def StepLadder (gcm : Gcm) (P : Ports H) (s : Server H) : Input H → Prop
  | .request client d req replyMax => ∀ k, s.sod.keys.hasKey k = false →
      (step gcm P s (.request client d req replyMax)).sod.keys.hasKey k = true →
      d = keySetDataId ∧
        ∃ f, appliedFrames (exchange gcm P s client d req replyMax).calls = [f] ∧
          authorizingKey k = some (keyidBase f.call.keyId) ∧
          s.sod.keys.getKey (keyidBase f.call.keyId) = some f.call.key
  | _ => True

/-! ## The condition -/

/-- A write poll finds its own key id in the last write key id. -/
def AttributionGuard (s : Server H) : Input H → Prop
  | .request client d req _ => ∀ found ∈ s.sod.registry.find d,
      (s.sod.writeSlot found.1).inUse = true → (s.sod.writeSlot found.1).cyclic = true →
      (s.sod.writeSlot found.1).clientDev = client → req.length = pollLen found.2 →
      s.sod.lastWriteKid = keyidBase (s.sod.writeSlot found.1).keyId
  | _ => True

instance (s : Server H) : ∀ a, Decidable (AttributionGuard s a)
  | .request _ d _ _ => inferInstanceAs (Decidable (∀ found ∈ s.sod.registry.find d, _ → _))
  | .registerEntry _ | .setKeyEx _ _ _ | .clearKeys | .application _ => .isTrue trivial

/-! ## Attribution -/

/-- Under the condition the last write key id at the call is the frame's own. -/
theorem AppliedWrite.attributed {gcm : Gcm} {P : Ports H} {client : UInt16} {req : List UInt8}
    {s : Sod} {idx : Fin sodMaxEntries} {entry : SodEntry} {log : List Event} {keys' : KeyStore}
    {f : Frame} {plain : List UInt8} {kid : UInt8} {rc : Abort}
    (h : AppliedWrite gcm P client req s idx entry log keys' f plain kid rc)
    (hguard : (s.writeSlot idx).inUse = true → (s.writeSlot idx).cyclic = true →
      (s.writeSlot idx).clientDev = client → req.length = pollLen entry →
      s.lastWriteKid = keyidBase (s.writeSlot idx).keyId) :
    kid = keyidBase f.call.keyId := by
  rcases h.frame with ⟨now, key, hchecked, rfl, hkid⟩ | ⟨now, key, hchecked, rfl, hkid⟩
  · exact hkid
  · rw [hkid, hguard hchecked.inUse hchecked.cyclic hchecked.owner hchecked.len]
    rfl

theorem step_attributed (gcm : Gcm) (P : Ports H) (s : Server H) (a : Input H)
    (hguard : AttributionGuard s a) : StepAttributed gcm P s a := by
  cases a with
  | request client d req replyMax =>
      intro pre d' src kid rc post hcalls
      rcases request_cases gcm P s client d req replyMax with ⟨-, hx, -⟩ |
        ⟨idx, entry, log, r, s', host, hf, hmove, hx, -⟩
      · simp [hx] at hcalls
      · rw [hx] at hcalls
        simp only at hcalls
        rcases apply_cases hmove with ⟨hno, -⟩ | ⟨f, plain, kid', rc', happ⟩
        · exact absurd (hno (.writeAfter d' src kid rc) (by simp [hcalls])) (by simp [isWriteAfter])
        · obtain ⟨now, rfl, -, rfl, rfl, -⟩ := happ.split hcalls
          have hkid := AppliedWrite.attributed happ (hguard (idx, entry) hf)
          exact ⟨[_, _], f.call, f.cipher, f.tag, rfl, hkid, by rw [hkid]; exact happ.installed⟩
  | registerEntry | setKeyEx | clearKeys | application => trivial

/-! ## The ladder -/

theorem step_ladder (gcm : Gcm) (deviceId : UInt16) (plat : Platform E) (s : Server (DemoHost E))
    (a : Input (DemoHost E)) (hguard : AttributionGuard s a) :
    StepLadder gcm (demoPorts deviceId plat) s a := by
  cases a with
  | request client d req replyMax =>
      intro k hempty hfull
      rcases request_cases gcm (demoPorts deviceId plat) s client d req replyMax with
        ⟨-, -, hstep⟩ | ⟨idx, entry, log, r, s', host, hf, hmove, hx, hstep⟩
      · rw [hstep, hempty] at hfull
        cases hfull
      · rw [hstep] at hfull
        rw [hx]
        rcases apply_cases hmove with ⟨-, hkeys⟩ | ⟨f, plain, kid, rc, happ⟩
        · simp only [hkeys, hempty] at hfull
          cases hfull
        · obtain ⟨h₀, h₁, hhook⟩ := happ.hook
          have hwrite : (demoWriteAfter entry.dataId plain kid s.sod.keys h₀).2.1 = s'.keys := by
            have := congrArg (·.2.1) hhook
            exact this
          obtain ⟨hd, hauth⟩ := demoWriteAfter_fills hempty (by rw [hwrite]; exact hfull)
          have hkid := AppliedWrite.attributed happ (hguard (idx, entry) hf)
          rw [find_dataId hf] at hd
          exact ⟨hd, f, happ.frames, by rw [hauth, hkid], happ.installed⟩
  | registerEntry | setKeyEx | clearKeys | application => trivial

/-- **Attribution and the key ladder.**  In a run whose write polls all find their
    own key id in the last write key id, every write is attributed to the key
    that verified it; and on the reference server a key slot is filled only by a
    key-set frame that verified under the slot's authorizing key. -/
theorem writes_attributed (gcm : Gcm) :
    (∀ (H : Type) (P : Ports H) (host : H) (inputs : List (Input H)),
      Along (step gcm P) AttributionGuard (boot host) inputs →
        Along (step gcm P) (StepAttributed gcm P) (boot host) inputs) ∧
    (∀ (E : Type) (deviceId : UInt16) (plat : Platform E) (host : DemoHost E)
      (inputs : List (Input (DemoHost E))),
      Along (step gcm (demoPorts deviceId plat)) AttributionGuard (boot host) inputs →
        Along (step gcm (demoPorts deviceId plat)) (StepLadder gcm (demoPorts deviceId plat))
          (boot host) inputs) := by
  constructor
  · intro H P host inputs hguard
    exact along_imp (I := fun _ => True) (fun _ _ _ _ => trivial)
      (fun s a _ ha => step_attributed gcm P s a ha) trivial hguard
  · intro E deviceId plat host inputs hguard
    exact along_imp (I := fun _ => True) (fun _ _ _ _ => trivial)
      (fun s a _ ha => step_ladder gcm deviceId plat s a ha) trivial hguard

/-! ## Worked runs -/

/-- A platform with a stopped clock and a list of randoms still to come. -/
def samplePlatform : Platform (List Rand) where
  timeMs e := (0, e)
  random e := (e.head?, e.tail)

/-- The reference server of the worked runs, with device id 1. -/
def sampleDemo : Ports (DemoHost (List Rand)) := demoPorts 1 samplePlatform

/-- Its host after reset, with two randoms to come. -/
def sampleDemoHost : DemoHost (List Rand) where
  value := zero 4
  secureRo := zero 16
  secureWo := zero 16
  rpkRo := zero 4
  rpkWo := zero 16
  stage := .uncommissioned
  env := [sampleRand 9, sampleRand 10]

/-- A key-set body. -/
def keySetBody (selector : UInt8) (key : Key) : List UInt8 :=
  selector :: 0 :: 0 :: 0 :: 0 :: toList key

/-- The key the Claim Token session installs as Provisioning. -/
def provisioningKey : Key := fun i => UInt8.ofNat (5 * i.val + 3)

/-- The Claim Token opens a cyclic session on C01Fh and installs Provisioning. -/
def claimPass2 : Seal :=
  pass2Seal sampleKey 0x44 20 keySetDataId (sampleRand 5) (sampleRand 9)
    (keySetBody keyidProvisioning provisioningKey)

/-- Another client writes a demo value under the Provisioning key. -/
def valuePass2 : Seal :=
  pass2Seal provisioningKey 0x01 21 wrDataId (sampleRand 6) (sampleRand 10) [1, 2, 3, 4]

/-- The Claim Token session polls with a body that installs Integrator. -/
def claimPoll : Seal :=
  pollSeal sampleKey 0x44 20 keySetDataId (aeadXorNonce (sampleRand 5) (sampleRand 9)) 1
    (keySetBody keyidIntegrator sampleKey)

/-- The ladder's first rung. -/
def sampleRung : List (Input (DemoHost (List Rand))) :=
  [.registerEntry ⟨keySetDataId, 0, 0x02, keySetBodyLen⟩, .registerEntry ⟨wrDataId, 0, 0x02, 4⟩,
    .setKeyEx keyidClaimToken sampleKey 0x1000, .request 20 keySetDataId [] 64,
    .request 20 keySetDataId (pass2Request (sampleRand 5) claimPass2) 64,
    .request 21 wrDataId [] 64,
    .request 21 wrDataId (pass2Request (sampleRand 6) valuePass2) 64]

theorem sampleRung_attributed :
    (Along (step sampleGcm sampleDemo) (StepAttributed sampleGcm sampleDemo) (boot sampleDemoHost)
        sampleRung ∧
      Along (step sampleGcm sampleDemo) (StepLadder sampleGcm sampleDemo) (boot sampleDemoHost)
        sampleRung) ∧
    (after sampleGcm sampleDemo sampleDemoHost sampleRung).sod.keys.hasKey keyidProvisioning = true :=
  ⟨⟨(writes_attributed sampleGcm).1 _ sampleDemo sampleDemoHost sampleRung (by decide +kernel),
      (writes_attributed sampleGcm).2 _ 1 samplePlatform sampleDemoHost sampleRung
        (by decide +kernel)⟩, by decide +kernel⟩

/-- The server after the first rung and the other client's write. -/
def sampleClimb : Server (DemoHost (List Rand)) :=
  after sampleGcm sampleDemo sampleDemoHost sampleRung

/-- The Claim Token session polls with the Integrator key. -/
def claimPollInput : Input (DemoHost (List Rand)) :=
  .request 20 keySetDataId (pollRequest 1 claimPoll) 64

/-- The exchange of that poll. -/
def claimExchange : Exchange :=
  exchange sampleGcm sampleDemo sampleClimb 20 keySetDataId (pollRequest 1 claimPoll) 64

/-- If the event is a verification, it was under base key id `base`. -/
def verifiedUnder (base : UInt8) : Event → Bool
  | .aeadOpen call _ _ _ => keyidBase call.keyId == base
  | _ => true

/-- **A stale attribution.**  The poll verified under key 4, `write_after` is told
    key 1, and the Integrator key is installed.  Every frame that verified was
    sealed by a client, and no random repeated. -/
theorem stale_attribution :
    Justified [claimPass2, valuePass2, claimPoll]
        (step sampleGcm sampleDemo sampleClimb claimPollInput).history ∧
      (randoms (step sampleGcm sampleDemo sampleClimb claimPollInput).history).Nodup ∧
      ¬ StepAttributed sampleGcm sampleDemo sampleClimb claimPollInput ∧
      ¬ StepLadder sampleGcm sampleDemo sampleClimb claimPollInput := by
  refine ⟨by decide +kernel, by decide +kernel, fun hlaw => ?_, fun hlaw => ?_⟩
  · have hcalls : claimExchange.calls = claimExchange.calls.take 3 ++
        .writeAfter keySetDataId claimPoll.plain keyidProvisioning abortNone ::
          claimExchange.calls.drop 4 := by decide +kernel
    have hunder : ∀ e ∈ claimExchange.calls.take 3, verifiedUnder keyidClaimToken e = true := by
      decide +kernel
    obtain ⟨pre', call, cipher, tag, hpre, hkid, -⟩ := hlaw _ _ _ _ _ _ hcalls
    rw [hpre] at hunder
    have hbase := hunder (.aeadOpen call cipher tag (some claimPoll.plain)) (by simp)
    simp only [verifiedUnder, beq_iff_eq] at hbase
    rw [hbase] at hkid
    exact absurd hkid (by decide)
  · have hbase : (appliedFrames claimExchange.calls).map (fun f => keyidBase f.call.keyId) =
        [keyidClaimToken] := by decide +kernel
    obtain ⟨-, f, hf, hauth, -⟩ := hlaw keyidIntegrator (by decide +kernel) (by decide +kernel)
    change appliedFrames claimExchange.calls = [f] at hf
    rw [hf, List.map_singleton, List.singleton_inj] at hbase
    rw [hbase] at hauth
    exact absurd hauth (by decide)

end SofaAttribution
