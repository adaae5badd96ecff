import Sofa.Turn
import Sofa.Lib.Machine

/-! # Boot and runs of the reference server

    `fbsec_server_od_init` makes the device from a start configuration: the od-file, the
    key file and the demo keys.  From then on the node is a machine whose inputs are the
    requests of any clients, in any order, and what the platform does between them; it
    keeps the history of the requests served.

    * `nodeStep_turn`: a request is one turn, and it is what the history records;
    * **`node_invariant`**: what every turn keeps holds after every run;
    * **`node_refines`**: the secure OD inside the node is in a state that the secure OD
      alone can reach. -/

namespace SofaNode

open ByteBlock SofaConfig SofaAead SofaOd SofaServer SofaDemo SofaAsym SofaDevice SofaTurn StateWp
  Machine

variable {E : Type} {gcm : Gcm} {ed : Ed25519} {plat : DevicePlatform E} {deviceId : UInt16}

/-! ## The start configuration -/

/-- A row of the key file. -/
structure KeyRow where
  keyId : UInt8
  key : Key
  idVal : UInt32

/-- The parsed `--od-file` and `--key-file`, when given, and `--demo-keys`. -/
structure BootConfig where
  odFile : Option (List ConstEntry) := none
  keyFile : Option (List KeyRow) := none
  demoKeys : Bool := false

abbrev constOdMaxEntries : Nat := 32
abbrev constOdMaxData : Nat := 8
/-- `FBSEC_OD_IDENTITY_INDEX`. -/
abbrev odIdentityIndex : UInt16 := 0x1018

/-- `fbsec_const_od_load_file`, after parsing; `none` is a refused file. -/
def loadOdFile (rows : List ConstEntry) : Option (List ConstEntry) :=
  if rows.any fun row => row.data.length > constOdMaxData then none
  else if rows.length > constOdMaxEntries then none
  else some rows

/-- The loop of `fbsec_const_od_get_identity` over the subs still to copy, with the bytes
    copied so far. -/
def copyIdentity (table : List ConstEntry) : List UInt8 → List UInt8 → Bool × List UInt8
  | [], out => (out.length == 16, out)
  | sub :: subs, out =>
      match constOdGet table odIdentityIndex sub with
      | none => (false, out)
      | some data =>
          if out.length + data.length > 16 then (false, out)
          else copyIdentity table subs (out ++ data)

/-- `fbsec_const_od_get_identity`. -/
def constOdGetIdentity (table : List ConstEntry) : Bool × List UInt8 :=
  copyIdentity table [1, 2, 3, 4] []

/-- `fbsec_server_load_key_file`, after parsing; `none` is a refused file. -/
def loadKeyFile (keys : KeyStore) (rows : List KeyRow) : Option KeyStore :=
  if rows.isEmpty then none
  else rows.foldlM (fun keys row => keys.setKeyEx row.keyId row.key row.idVal) keys

/-- The demo session keys, their first 16 bytes. -/
def demoKeyProvisioning : Key :=
  ![0x00, 0x11, 0x22, 0x33, 0x44, 0x55, 0x66, 0x77, 0x88, 0x99, 0xAA, 0xBB, 0xCC, 0xDD, 0xEE, 0xFF]
def demoKeyIntegrator : Key :=
  ![0xAA, 0xBB, 0xCC, 0xDD, 0xEE, 0xFF, 0x00, 0x11, 0x22, 0x33, 0x44, 0x55, 0x66, 0x77, 0x88, 0x99]
def demoKeyOperator : Key :=
  ![0xFF, 0xEE, 0xDD, 0xCC, 0xBB, 0xAA, 0x99, 0x88, 0x77, 0x66, 0x55, 0x44, 0x33, 0x22, 0x11, 0x00]

/-- One key of `fbsec_server_install_demo_keys_if_unset`. -/
def installIfUnset (keys : KeyStore) (keyId : UInt8) (key : Key) (idVal : UInt32) : KeyStore :=
  if keys.hasKey keyId then keys else installKey keys keyId key idVal

/-- `fbsec_server_install_demo_keys_if_unset`. -/
def installDemoKeysIfUnset (keys : KeyStore) : KeyStore :=
  let keys := installIfUnset keys keyidProvisioning demoKeyProvisioning keyidValueProvisioning
  let keys := installIfUnset keys keyidIntegrator demoKeyIntegrator keyidValueIntegrator
  installIfUnset keys keyidOperator demoKeyOperator keyidValueOperator

/-- The demo entries. -/
def entrySro : SodEntry := ⟨srdDataId, 0, 0x01, entrySecureLen⟩
def entrySwo : SodEntry := ⟨swrDataId, 0, 0x02, entrySecureLen⟩
def entryPro : SodEntry := ⟨rdDataId, 0, 0x01, entryValueLen⟩
def entryPwo : SodEntry := ⟨wrDataId, 0, 0x02, entryValueLen⟩
def entryKset : SodEntry := ⟨keySetDataId, 0, 0x02, keySetBodyLen⟩

/-- C018h is registered only when its identity is loaded. -/
def demoEntries (identityOk : Bool) : List SodEntry :=
  (if identityOk then [entrySro] else []) ++ [entrySwo, entryPro, entryPwo, entryKset]

/-- A session key is installed. -/
def haveSessionKeys (keys : KeyStore) : Bool :=
  keys.hasKey keyidProvisioning || keys.hasKey keyidIntegrator || keys.hasKey keyidOperator

/-- The statics of the hooks, before the first request. -/
def hooksInit (identity : List UInt8) (stage : Stage) (env : E) : DemoHost E where
  value := ![0x00, 0x11, 0x22, 0x33]
  secureRo := slice 16 0 identity
  secureWo := zero 16
  rpkRo := ![0xA0, 0xA1, 0xA2, 0xA3]
  rpkWo := zero 16
  stage := stage
  env := env

/-- The keys after `--key-file`. -/
def fileKeys (cfg : BootConfig) : Option KeyStore :=
  match cfg.keyFile with
  | none => some {}
  | some rows => loadKeyFile {} rows

/-- The keys a device boots with. -/
def bootKeys (cfg : BootConfig) : Option KeyStore := do
  let loaded ← fileKeys cfg
  return installClaimToken (if cfg.demoKeys then installDemoKeysIfUnset loaded else loaded)

/-- The identity store with the demo integrator as the authorizing peer. -/
def bootAsym (ed : Ed25519) : AsymStore :=
  (asymInit ed).setPeer rpkWritePeerSlot (ed.keygen integratorSeed).pub

/-- The stage follows from whether a session key is installed. -/
def bootStage (keys : KeyStore) : Stage :=
  if haveSessionKeys keys then .operational else .uncommissioned

/-- `fbsec_server_od_init`; `none` is a server that does not start. -/
def odInit (ed : Ed25519) (cfg : BootConfig) (env : E) : Option (Device E) := do
  let constOd ← loadOdFile (cfg.odFile.getD [])
  let identity := constOdGetIdentity constOd
  let registry ← (demoEntries identity.1).foldlM sodRegisterEntry Registry.empty
  let keys ← bootKeys cfg
  let sod : Sod := { sodInit with registry := registry, keys := keys }
  return ⟨⟨sod, hooksInit identity.2 (bootStage keys) env, []⟩, bootAsym ed, {}, constOd⟩

/-- What a device that booted is made of. -/
theorem odInit_cases {cfg : BootConfig} {env : E} {d : Device E}
    (hstart : odInit ed cfg env = some d) : ∃ constOd registry keys,
      loadOdFile (cfg.odFile.getD []) = some constOd ∧
      (demoEntries (constOdGetIdentity constOd).1).foldlM sodRegisterEntry Registry.empty
        = some registry ∧
      bootKeys cfg = some keys ∧
      d = ⟨⟨{ sodInit with registry := registry, keys := keys },
        hooksInit (constOdGetIdentity constOd).2 (bootStage keys) env, []⟩, bootAsym ed, {},
        constOd⟩ := by
  unfold odInit at hstart
  obtain ⟨constOd, hod, hstart⟩ := Option.bind_eq_some_iff.mp hstart
  obtain ⟨registry, hreg, hstart⟩ := Option.bind_eq_some_iff.mp hstart
  obtain ⟨keys, hkeys, hstart⟩ := Option.bind_eq_some_iff.mp hstart
  exact ⟨constOd, registry, keys, hod, hreg, hkeys, (Option.some.inj hstart).symm⟩

/-! ## The machine -/

/-- One request served: what came in, the replies, and the calls made. -/
structure Visit where
  client : UInt16
  dataId : UInt32
  req : List UInt8
  sent : List Reply
  calls : List Call
  deriving DecidableEq

/-- The node between two inputs. -/
structure Node (E : Type) where
  device : Device E
  history : List Visit

/-- A request of any client, or whatever the platform does in between. -/
inductive NodeInput (E : Type) where
  | request (client : UInt16) (dataId : UInt32) (req : List UInt8)
  | platform (env : E)

/-- One request, run from an empty log. -/
def serveRequest (gcm : Gcm) (ed : Ed25519) (plat : DevicePlatform E) (deviceId : UInt16)
    (d : Device E) (client : UInt16) (dataId : UInt32) (req : List UInt8) : DevWorld E :=
  (dispatchRequest gcm ed plat deviceId client dataId req ⟨d, [], []⟩).2

/-- One input. -/
def nodeStep (gcm : Gcm) (ed : Ed25519) (plat : DevicePlatform E) (deviceId : UInt16)
    (n : Node E) : NodeInput E → Node E
  | .request client dataId req =>
      let w := serveRequest gcm ed plat deviceId n.device client dataId req
      ⟨w.device, n.history ++ [⟨client, dataId, req, w.sent, w.calls⟩]⟩
  | .platform env => { n with
      device := n.device.setHost { n.device.server.host with env := env } }

/-- The node after a run from a booted device. -/
abbrev nodeAfter (gcm : Gcm) (ed : Ed25519) (plat : DevicePlatform E) (deviceId : UInt16)
    (device : Device E) (inputs : List (NodeInput E)) : Node E :=
  run (nodeStep gcm ed plat deviceId) ⟨device, []⟩ inputs

/-- **A request is one turn**, and the history records it. -/
theorem nodeStep_turn (gcm : Gcm) (ed : Ed25519) (plat : DevicePlatform E) (deviceId : UInt16)
    (n : Node E) (client : UInt16) (dataId : UInt32) (req : List UInt8) :
    ∃ sent calls device, Turn gcm ed plat deviceId client dataId req n.device sent calls device ∧
      nodeStep gcm ed plat deviceId n (.request client dataId req)
        = ⟨device, n.history ++ [⟨client, dataId, req, sent, calls⟩]⟩ :=
  ⟨_, _, _, dispatchRequest_turn, rfl⟩

section Runs

variable {C : Node E → NodeInput E → Prop} {I : Node E → Prop}

/-- An invariant is kept by a step when every turn and every change of the platform keeps
    it, under the step's condition. -/
theorem node_invariant
    (hturn : ∀ n client dataId req sent calls device, I n → C n (.request client dataId req) →
      Turn gcm ed plat deviceId client dataId req n.device sent calls device →
      I ⟨device, n.history ++ [⟨client, dataId, req, sent, calls⟩]⟩)
    (hplatform : ∀ n env, I n →
      I { n with device := n.device.setHost { n.device.server.host with env := env } })
    (n : Node E) (a : NodeInput E) (hI : I n) (ha : C n a) :
    I (nodeStep gcm ed plat deviceId n a) := by
  cases a with
  | request client dataId req =>
      obtain ⟨sent, calls, device, hturn', hstep⟩ :=
        nodeStep_turn gcm ed plat deviceId n client dataId req
      rw [hstep]
      exact hturn n client dataId req sent calls device hI ha hturn'
  | platform env => exact hplatform n env hI

end Runs

/-! ## The secure OD inside the node -/

section Refinement

variable {P : Ports (DemoHost E)}

/-- The secure OD can get from `s` to `s'` by requests and application calls. -/
def Reaches (gcm : Gcm) (P : Ports (DemoHost E)) (s s' : Server (DemoHost E)) : Prop :=
  ∃ inputs, s' = run (step gcm P) s inputs

theorem Reaches.refl (s : Server (DemoHost E)) : Reaches gcm P s s := ⟨[], rfl⟩

theorem Reaches.step {s s' : Server (DemoHost E)} (h : Reaches gcm P s s')
    (a : Input (DemoHost E)) : Reaches gcm P s (step gcm P s' a) := by
  obtain ⟨inputs, rfl⟩ := h
  exact ⟨inputs ++ [a], by rw [run_append]; rfl⟩

theorem Reaches.trans {s s' s'' : Server (DemoHost E)} (h : Reaches gcm P s s')
    (h' : Reaches gcm P s' s'') : Reaches gcm P s s'' := by
  obtain ⟨inputs, rfl⟩ := h
  obtain ⟨more, rfl⟩ := h'
  exact ⟨inputs ++ more, (run_append _ _ _ _).symm⟩

/-- The keys of a server replaced. -/
def withKeys (s : Server (DemoHost E)) (keys : KeyStore) : Server (DemoHost E) :=
  { s with sod := { s.sod with keys := keys } }

theorem Reaches.host {s s' : Server (DemoHost E)} (h : Reaches gcm P s s')
    (host : DemoHost E) : Reaches gcm P s { s' with host := host } :=
  h.step (.application host)

/-- A key install, refused or not. -/
theorem Reaches.install {s s' : Server (DemoHost E)} (h : Reaches gcm P s s') (keyId : UInt8)
    (key : Key) (idVal : UInt32) :
    Reaches gcm P s (withKeys s' (installKey s'.sod.keys keyId key idVal)) := by
  have hstep := h.step (.setKeyEx keyId key idVal)
  unfold installKey
  simp only [SofaServer.step] at hstep
  split at hstep
  · rename_i keys hset
    rwa [hset]
  · rename_i hset
    rwa [hset]

/-- The demo's hook leaves the keys, or installs one. -/
theorem demoWriteAfter_keys {dataId : UInt32} {src : List UInt8} {lastKid : UInt8}
    {keys keys' : KeyStore} {h h' : DemoHost E} {rc : Abort}
    (hook : demoWriteAfter dataId src lastKid keys h = (rc, keys', h')) :
    ∃ keyId key idVal, keys' = installKey keys keyId key idVal := by
  have hkeep : ∃ keyId key idVal, keys = installKey keys keyId key idVal :=
    ⟨0, zero 16, 0, by simp [installKey, KeyStore.setKeyEx, keySlotInRange]⟩
  unfold demoWriteAfter at hook
  split at hook
  · split at hook <;> cases hook <;> exact hkeep
  · split at hook
    · split at hook <;> cases hook <;> exact hkeep
    · split at hook
      · cases hook
        unfold applyKeySet
        split
        · exact hkeep
        · simp only
          split
          · exact hkeep
          · split
            · exact hkeep
            · split
              · exact hkeep
              · split
                · exact hkeep
                · rename_i keys' hset
                  have hinst : keys' = installKey keys (src.getD 0 0) (slice 16 5 src)
                      (keySetIdVal src) := by rw [installKey, hset]; rfl
                  split
                  · exact ⟨_, _, _, hinst⟩
                  · split
                    · exact ⟨_, _, _, hinst⟩
                    · exact ⟨_, _, _, hinst⟩
      · split at hook
        · split at hook <;> cases hook <;> exact hkeep
        · cases hook
          exact hkeep

/-- What a turn does to the secure OD, the secure OD can do. -/
theorem turn_reaches {client : UInt16} {dataId : UInt32} {req : List UInt8} {d d' : Device E}
    {sent : List Reply} {calls : List Call}
    (h : Turn gcm ed plat deviceId client dataId req d sent calls d') :
    Reaches gcm (demoPorts deviceId plat.toPlatform) d.server d'.server := by
  have hrefl : Reaches gcm (demoPorts deviceId plat.toPlatform) d.server d.server :=
    Reaches.refl d.server
  cases h with
  | answered => exact hrefl
  | identity object => exact hrefl
  | exported object generated => exact hrefl
  | @provisioned asym object installed =>
      cases asym.installedProvisioningKey with
      | none => exact hrefl.host _
      | some pk => exact (hrefl.install keyidProvisioning pk keyidValueProvisioning).host _
  | claimRefused object refused => exact hrefl
  | claimed object accepted => exact hrefl.host _
  | armed object drawn => exact hrefl.host _
  | armFailed => exact hrefl.host _
  | readRefused object held hook => exact hrefl.host _
  | readSigned object held len short hook => exact hrefl.host _
  | noPeer held peer => exact hrefl
  | forged attempt bad => exact hrefl
  | written object attempt good hook =>
      obtain ⟨keyId, key, idVal, rfl⟩ := demoWriteAfter_keys hook
      exact (hrefl.install keyId key idVal).host _
  | commanded object attempt good code => exact hrefl
  | decommissioned object attempt good code =>
      have htoken : installClaimToken .clear
          = installKey .clear keyidClaimToken claimToken keyidValueClaimToken := rfl
      have hwiped := (hrefl.step .clearKeys).install keyidClaimToken claimToken
        keyidValueClaimToken
      exact hwiped.host _
  | secured => exact hrefl.step (.request client dataId req dispatchReplyMax)

/-- A list of accepted registrations. -/
theorem Reaches.register {s t : Server (DemoHost E)} (h : Reaches gcm P s t)
    {entries : List SodEntry} {registry : Registry}
    (hreg : entries.foldlM sodRegisterEntry t.sod.registry = some registry) :
    Reaches gcm P s { t with sod := { t.sod with registry := registry } } := by
  induction entries generalizing t with
  | nil =>
      obtain rfl : t.sod.registry = registry := Option.some.inj hreg
      exact h
  | cons entry entries ih =>
      rw [List.foldlM_cons] at hreg
      obtain ⟨next, hnext, hrest⟩ := Option.bind_eq_some_iff.mp hreg
      have hstep := h.step (.registerEntry entry)
      simp only [SofaServer.step, hnext] at hstep
      exact ih (t := { t with sod := { t.sod with registry := next } }) hstep hrest

/-- The keys of a key file. -/
theorem Reaches.load {s t : Server (DemoHost E)} (h : Reaches gcm P s t)
    {rows : List KeyRow} {keys : KeyStore}
    (hrows : rows.foldlM (fun keys row => keys.setKeyEx row.keyId row.key row.idVal) t.sod.keys
      = some keys) : Reaches gcm P s (withKeys t keys) := by
  induction rows generalizing t with
  | nil =>
      obtain rfl : t.sod.keys = keys := Option.some.inj hrows
      exact h
  | cons row rows ih =>
      rw [List.foldlM_cons] at hrows
      obtain ⟨next, hnext, hrest⟩ := Option.bind_eq_some_iff.mp hrows
      have hstep := h.step (.setKeyEx row.keyId row.key row.idVal)
      simp only [SofaServer.step, hnext] at hstep
      exact ih (t := withKeys t next) hstep hrest

theorem Reaches.installIfUnset {s s' : Server (DemoHost E)} (h : Reaches gcm P s s')
    (keyId : UInt8) (key : Key) (idVal : UInt32) :
    Reaches gcm P s (withKeys s' (installIfUnset s'.sod.keys keyId key idVal)) := by
  unfold SofaNode.installIfUnset
  split
  · exact h
  · exact h.install keyId key idVal

/-- The keys of boot. -/
theorem Reaches.bootKeys {s s' : Server (DemoHost E)} (h : Reaches gcm P s s')
    (hempty : s'.sod.keys = {}) {cfg : BootConfig} {keys : KeyStore}
    (hkeys : bootKeys cfg = some keys) : Reaches gcm P s (withKeys s' keys) := by
  unfold SofaNode.bootKeys at hkeys
  obtain ⟨loaded, hload, hrest⟩ := Option.bind_eq_some_iff.mp hkeys
  have hloaded : Reaches gcm P s (withKeys s' loaded) := by
    unfold fileKeys at hload
    cases hfile : cfg.keyFile with
    | none =>
        rw [hfile] at hload
        obtain rfl : ({} : KeyStore) = loaded := Option.some.inj hload
        rw [← hempty]
        exact h
    | some rows =>
        rw [hfile] at hload
        simp only [loadKeyFile] at hload
        split at hload
        · cases hload
        · rw [← hempty] at hload
          exact h.load hload
  obtain rfl := Option.some.inj hrest
  have hdemo : Reaches gcm P s
      (withKeys s' (if cfg.demoKeys then installDemoKeysIfUnset loaded else loaded)) := by
    split
    · exact ((hloaded.installIfUnset _ _ _).installIfUnset _ _ _).installIfUnset _ _ _
    · exact hloaded
  exact hdemo.installIfUnset keyidClaimToken claimToken keyidValueClaimToken

/-- The booted device's secure OD. -/
theorem odInit_reaches {cfg : BootConfig} {env : E} {d : Device E}
    (hstart : odInit ed cfg env = some d) : ∃ host, Reaches gcm P (boot host) d.server := by
  obtain ⟨constOd, registry, keys, -, hreg, hkeys, rfl⟩ := odInit_cases hstart
  exact ⟨_, ((Reaches.refl (boot _)).register hreg).bootKeys rfl hkeys⟩

/-- **The secure OD of a node** is in a state that the secure OD alone can reach from its
    own boot, under the demo's hooks. -/
theorem node_refines {cfg : BootConfig} {env : E} {d : Device E}
    (hstart : odInit ed cfg env = some d) (inputs : List (NodeInput E)) :
    ∃ host, Reaches gcm (demoPorts deviceId plat.toPlatform) (boot host)
      (nodeAfter gcm ed plat deviceId d inputs).device.server := by
  obtain ⟨host, hboot⟩ := odInit_reaches hstart
  refine ⟨host, ?_⟩
  refine run_induction (P := fun _ _ => True)
    (node_invariant (C := fun _ _ => True)
      (I := fun n => Reaches gcm _ (boot host) n.device.server) ?_ ?_) hboot
    (along_of_forall (fun _ _ => trivial) _ _)
  · intro n client dataId req sent calls device hI _ hturn
    exact hI.trans (turn_reaches hturn)
  · intro n env hI
    exact hI.host _

end Refinement

/-! ## A sample node -/

/-- What is left of the randoms of worked runs, and the clock. -/
structure SampleEnv where
  nonces : List RpkNonce := []
  rands : List Rand := []
  now : UInt16 := 0

/-- A platform that hands them out; out of randoms, it fails. -/
def samplePlatform : DevicePlatform SampleEnv where
  timeMs e := (e.now, e)
  random e := (e.rands.head?, { e with rands := e.rands.tail })
  nonce e := (e.nonces.head?, { e with nonces := e.nonces.tail })

/-- A stand-in for the signature over a transcript. -/
def sampleDigest (pub : Pubkey) (transcript : List UInt8) : Signature := fun i =>
  pub ⟨i.val % 32, Nat.mod_lt _ (by decide)⟩ ^^^ transcript.getD i.val 0
    ^^^ transcript.getD (i.val + 64) 0

/-- Ed25519 of worked runs: a signature verifies for the transcript it was made over. -/
def sampleEd : Ed25519 where
  keygen seed := ⟨fun i => seed ⟨i.val % 32, Nat.mod_lt _ (by decide)⟩, seed⟩
  sign pair transcript := sampleDigest pair.pub transcript
  verify pub transcript sig := toList sig == toList (sampleDigest pub transcript)

/-- The node id of worked runs. -/
abbrev sampleNodeId : UInt16 := 5

/-- A nonce of worked runs. -/
def sampleNonce (first : UInt8) : RpkNonce := fun i => first + UInt8.ofNat i.val

/-- The Pass-2 body of a function command, signed by the integrator. -/
def sampleCommand (client : UInt16) (serverNonce : RpkNonce) (code : UInt32) : List UInt8 :=
  let clientNonce := toList (sampleNonce 0x40)
  let transcript := asymTranscript roleFunctionCmd
    (buildSignedBody sampleNodeId client rpkFunccmdId clientNonce serverNonce (putU32le code))
    rpkTranscriptMax
  clientNonce ++ putU32le code
    ++ toList (sampleEd.sign (sampleEd.keygen integratorSeed) transcript)

end SofaNode
