import Sofa.Channel
import Sofa.Handover
import Sofa.Lifecycle
import Sofa.UsdoServer

/-! # The reference server behind a channel

    A client's calls against the whole device: each round trip of the channel is one request
    of the dispatcher, and its one reply is what the client gets.

    * `enrolled_run`: identity, certificate, anchor, serial and authorizing peer are those of
      the boot after every run;
    * `unclaimed_run`: a device that reports UNCOMMISSIONED is open for a claim;
    * `serve_access`: with no constant entry in the way, a signed access reaches its
      handler. -/

namespace SofaLink

open ByteBlock SofaConfig SofaAead SofaOd SofaMoves SofaClient SofaAsym SofaDemo SofaDevice SofaTurn SofaNode
  SofaHosts SofaCommissioning SofaLifecycle SofaHandover SofaChannel SofaServer StateWp Machine

variable {E C : Type} {gcm : Gcm} {ed : Ed25519} {plat : DevicePlatform E} {deviceId : UInt16}

/-! ## The service -/

/-- What a client gets for the replies to its request.  The dispatcher sends exactly one. -/
def outcome : List Reply → Except Abort (List UInt8)
  | [] => .error abortInternal
  | r :: _ => if r.status == abortNone then .ok r.body else .error r.status

/-- The device, as the channel sees it. -/
def deviceService (gcm : Gcm) (ed : Ed25519) (plat : DevicePlatform E) (deviceId : UInt16) :
    Service (Device E) := fun client dataId body d =>
  let w := serveRequest gcm ed plat deviceId d client dataId body
  (outcome w.sent, w.device)

/-- The device with the history of the requests it served, as the channel sees it. -/
def nodeService (gcm : Gcm) (ed : Ed25519) (plat : DevicePlatform E) (deviceId : UInt16) :
    Service (Node E) := fun client dataId body n =>
  (outcome (serveRequest gcm ed plat deviceId n.device client dataId body).sent,
    nodeStep gcm ed plat deviceId n (.request client dataId body))

/-- The channel, with the challenges that the client draws at its end. -/
def linkTransport {D : Type} (serve : Service D) (clientId : UInt16) (random : C → Option Rand × C)
    (challenge : C → Option RpkNonce × C) : HandoverTransport (Channel C D) where
  toTransport := channelTransport serve clientId random
  challenge ch := ((challenge ch.client).1, { ch with client := (challenge ch.client).2 })

section Service

variable {d d' : Device E} {client : UInt16} {dataId : UInt32} {req body : List UInt8}
  {calls : List Call}

theorem deviceService_ok (h : serveRequest gcm ed plat deviceId d client dataId req
      = ⟨d', [⟨client, dataId, abortNone, body⟩], calls⟩) :
    deviceService gcm ed plat deviceId client dataId req d = (.ok body, d') := by
  unfold deviceService
  rw [h]
  rfl

theorem deviceService_abort {status : Abort} (hstatus : status ≠ abortNone)
    (h : serveRequest gcm ed plat deviceId d client dataId req
      = ⟨d', [⟨client, dataId, status, body⟩], calls⟩) :
    deviceService gcm ed plat deviceId client dataId req d = (.error status, d') := by
  unfold deviceService
  rw [h]
  show (if status == abortNone then Except.ok body else .error status, d') = _
  rw [if_neg (by simpa using hstatus)]

/-- One request that succeeds is one visit more. -/
theorem nodeService_ok {history : List Visit}
    (h : serveRequest gcm ed plat deviceId d client dataId req
      = ⟨d', [⟨client, dataId, abortNone, body⟩], calls⟩) :
    nodeService gcm ed plat deviceId client dataId req ⟨d, history⟩ = (.ok body,
      ⟨d', history ++ [⟨client, dataId, req, [⟨client, dataId, abortNone, body⟩], calls⟩]⟩) := by
  unfold nodeService nodeStep
  simp only [h]
  rfl

end Service

/-! ## The primitive -/

/-- A signature verifies under the public key of the pair it was made with. -/
def Ed25519Correct (ed : Ed25519) : Prop :=
  ∀ seed transcript, ed.verify (ed.keygen seed).pub transcript
    (ed.sign (ed.keygen seed) transcript) = true

theorem sampleEd_correct : Ed25519Correct sampleEd := fun _ _ => beq_self_eq_true _

/-! ## What a device keeps from its boot -/

/-- The identity store is that of the boot, but for owner, LDevID and Provisioning key. -/
structure Enrolled (ed : Ed25519) (st : AsymStore) : Prop where
  ready : st.ready = true
  idevid : st.idevid = ed.keygen idevidSeed
  cert : st.idevidCert = (asymInit ed).idevidCert
  anchor : st.anchor = (clientManufacturer ed).pub
  serial : st.serial = demoSerial
  peer : st.getPeer rpkWritePeerSlot = some (clientIntegrator ed).pub

theorem enrolled_boot (ed : Ed25519) : Enrolled ed (bootAsym ed) := ⟨rfl, rfl, rfl, rfl, rfl, rfl⟩

/-- A step that leaves those fields. -/
theorem Enrolled.same {st st' : AsymStore} (h : Enrolled ed st) (ready : st'.ready = st.ready)
    (idevid : st'.idevid = st.idevid) (cert : st'.idevidCert = st.idevidCert)
    (anchor : st'.anchor = st.anchor) (serial : st'.serial = st.serial)
    (peer : st'.peer = st.peer) : Enrolled ed st' := by
  refine ⟨ready.trans h.ready, idevid.trans h.idevid, cert.trans h.cert, anchor.trans h.anchor,
    serial.trans h.serial, ?_⟩
  have hpeer : st'.getPeer rpkWritePeerSlot = st.getPeer rpkWritePeerSlot := by
    unfold AsymStore.getPeer
    rw [peer]
  exact hpeer.trans h.peer

theorem enrolled_turn {client : UInt16} {dataId : UInt32} {req : List UInt8} {d d' : Device E}
    {sent : List Reply} {calls : List Call} (h : Enrolled ed d.asym)
    (hturn : Turn gcm ed plat deviceId client dataId req d sent calls d') :
    Enrolled ed d'.asym := by
  cases hturn with
  | answered => exact h
  | identity object => exact h
  | exported object generated =>
      unfold AsymStore.generateLdevid at generated
      split at generated
      · exact nomatch generated
      · obtain ⟨rfl, -⟩ := Prod.mk.inj (Option.some.inj generated)
        exact h.same rfl rfl rfl rfl rfl rfl
  | provisioned object installed =>
      obtain ⟨-, key, rfl⟩ := installProvisioning_cases installed
      exact h.same rfl rfl rfl rfl rfl rfl
  | claimRefused object refused => exact h
  | claimed object accepted =>
      obtain ⟨-, rfl⟩ := claim_iff.mp accepted
      exact h.same rfl rfl rfl rfl rfl rfl
  | armed object drawn => exact h
  | armFailed => exact h
  | readRefused object held hook => exact h
  | readSigned object held len short hook => exact h
  | noPeer held peer => exact h
  | forged attempt bad => exact h
  | written object attempt good hook => exact h
  | commanded object attempt good code => exact h
  | decommissioned object attempt good code => exact h.same rfl rfl rfl rfl rfl rfl
  | secured => exact h

/-- **The identity stays**, in every run from every start configuration. -/
theorem enrolled_run {cfg : BootConfig} {env : E} {d : Device E}
    (hstart : odInit ed cfg env = some d) (inputs : List (NodeInput E)) :
    Enrolled ed (nodeAfter gcm ed plat deviceId d inputs).device.asym := by
  have hboot : Enrolled ed d.asym := by
    obtain ⟨constOd, registry, keys, -, -, -, rfl⟩ := odInit_cases hstart
    exact enrolled_boot ed
  refine run_induction (P := fun _ _ => True) (I := fun n : Node E => Enrolled ed n.device.asym)
    (node_invariant (C := fun _ _ => True) ?_ ?_) hboot (along_of_forall (fun _ _ => trivial) _ _)
  · intro n client dataId req sent calls device h _ hturn
    exact enrolled_turn h hturn
  · intro n env h
    exact h

/-- The constant entries stay as well. -/
theorem constOd_run {d : Device E} (inputs : List (NodeInput E)) :
    (nodeAfter gcm ed plat deviceId d inputs).device.constOd = d.constOd := by
  refine run_induction (P := fun _ _ => True)
    (I := fun n : Node E => n.device.constOd = d.constOd)
    (node_invariant (C := fun _ _ => True) ?_ ?_) rfl (along_of_forall (fun _ _ => trivial) _ _)
  · intro n client dataId req sent calls device h _ hturn
    refine Eq.trans ?_ h
    cases hturn <;> rfl
  · intro n env h
    exact h

theorem unshadowed_run {d : Device E} {dataId : UInt32} (h : Unshadowed d dataId)
    (inputs : List (NodeInput E)) :
    Unshadowed (nodeAfter gcm ed plat deviceId d inputs).device dataId := by
  unfold Unshadowed
  rw [constOd_run]
  exact h

/-! ## The stage UNCOMMISSIONED -/

/-- The device is in the stage UNCOMMISSIONED, or no voucher has claimed it. -/
def Uncommissioned (d : Device E) : Prop :=
  stageOf d = .uncommissioned ∨ d.asym.uncommissioned = true

/-- In that stage no voucher has claimed it. -/
def Unclaimed (d : Device E) : Prop := stageOf d = .uncommissioned → d.asym.uncommissioned = true

/-- The ladder never leads into the stage. -/
theorem applyKeySet_leaves {lastKid : UInt8} {keys : KeyStore} {stage : Stage} {body : List UInt8}
    (h : (applyKeySet lastKid keys stage body).2.2 = .uncommissioned) :
    stage = .uncommissioned := by
  rcases applyKeySet_cases lastKid keys stage body with ⟨hsame, -⟩ | ⟨-, keys', -, hafter⟩
  · rw [hsame] at h
    exact h
  · rw [hafter] at h
    simp only at h
    split at h
    · exact nomatch h
    · split at h
      · exact nomatch h
      · exact h

theorem demoWriteAfter_leaves {dataId : UInt32} {src : List UInt8} {lastKid : UInt8}
    {keys : KeyStore} {h : DemoHost E}
    (hafter : (demoWriteAfter dataId src lastKid keys h).2.2.stage = .uncommissioned) :
    h.stage = .uncommissioned := by
  have hstate := congrArg Prod.snd (demoWriteAfter_state dataId src lastKid keys h)
  simp only at hstate
  rw [hafter] at hstate
  split at hstate
  · exact applyKeySet_leaves hstate.symm
  · exact hstate.symm

/-- Nor does the secure OD. -/
theorem secureStep_leaves {d : Device E} {client : UInt16} {dataId : UInt32} {req : List UInt8}
    (h : stageOf (secureStep gcm plat deviceId client dataId req d) = .uncommissioned) :
    stageOf d = .uncommissioned := by
  cases hfind : d.server.sod.registry.find dataId with
  | none =>
      have hserve : sodDispatch gcm (demoPorts deviceId plat.toPlatform) client dataId req
          dispatchReplyMax ⟨d.server.sod, d.server.host, []⟩ =
          (.notHandled, ⟨d.server.sod, d.server.host, []⟩) := sodDispatch_notHandled hfind
      simp only [stageOf, secureStep, step, serve, hserve] at h
      exact h
  | some found =>
      obtain ⟨idx, entry⟩ := found
      have hrun : wp (sodDispatch gcm (demoPorts deviceId plat.toPlatform) client dataId req
          dispatchReplyMax) _ ⟨d.server.sod, d.server.host, []⟩ :=
        dispatch_handed (stage_inert plat.toPlatform) hfind
      rcases hrun with ⟨-, hstage⟩ | ⟨plain, kid, host', hhanded, -, hstage⟩
      · exact hstage.symm.trans h
      · have hhost : host'.stage = d.server.host.stage :=
          hhanded.inert (stage_inert plat.toPlatform)
        exact hhost.symm.trans (demoWriteAfter_leaves (hstage.symm.trans h))

theorem unclaimed_turn {client : UInt16} {dataId : UInt32} {req : List UInt8} {d d' : Device E}
    {sent : List Reply} {calls : List Call} (h : Unclaimed d)
    (hturn : Turn gcm ed plat deviceId client dataId req d sent calls d') : Unclaimed d' := by
  cases hturn with
  | answered => exact h
  | identity object => exact h
  | exported object generated =>
      unfold AsymStore.generateLdevid at generated
      split at generated
      · exact nomatch generated
      · obtain ⟨rfl, -⟩ := Prod.mk.inj (Option.some.inj generated)
        exact h
  | provisioned object installed => exact fun hstage => nomatch hstage
  | claimRefused object refused => exact h
  | claimed object accepted => exact fun hstage => nomatch hstage
  | armed object drawn => exact h
  | armFailed => exact h
  | readRefused object held hook =>
      intro hstage
      have hsame := (congrArg (fun r => r.2.stage) hook).symm.trans (demoReadBefore_stage _ _)
      exact h (hsame.symm.trans hstage)
  | readSigned object held len short hook =>
      intro hstage
      have hsame := (congrArg (fun r => r.2.stage) hook).symm.trans (demoReadBefore_stage _ _)
      exact h (hsame.symm.trans hstage)
  | noPeer held peer => exact h
  | forged attempt bad => exact h
  | @written peer rc keys host object attempt good hook =>
      intro hstage
      have hhook : (demoWriteAfter (targetId req) (writeAccess req).value d.server.sod.lastWriteKid
          d.server.sod.keys d.server.host).2.2.stage = .uncommissioned := by
        rw [hook]
        exact hstage
      exact h (demoWriteAfter_leaves hhook)
  | commanded object attempt good code => exact h
  | decommissioned object attempt good code => exact fun _ => rfl
  | secured => exact fun hstage => h (secureStep_leaves hstage)

/-- **A device that reports UNCOMMISSIONED can be claimed**, after every run. -/
theorem unclaimed_run {cfg : BootConfig} {env : E} {d : Device E}
    (hstart : odInit ed cfg env = some d) (inputs : List (NodeInput E)) :
    Unclaimed (nodeAfter gcm ed plat deviceId d inputs).device := by
  have hboot : Unclaimed d := by
    obtain ⟨constOd, registry, keys, -, -, -, rfl⟩ := odInit_cases hstart
    exact fun _ => rfl
  refine run_induction (P := fun _ _ => True) (I := fun n : Node E => Unclaimed n.device)
    (node_invariant (C := fun _ _ => True) ?_ ?_) hboot (along_of_forall (fun _ _ => trivial) _ _)
  · intro n client dataId req sent calls device h _ hturn
    exact unclaimed_turn h hturn
  · intro n env h
    exact h

theorem Uncommissioned.claimable {d : Device E} (h : Uncommissioned d) (hopen : Unclaimed d) :
    d.asym.uncommissioned = true := h.elim hopen id

/-! ## The tiers -/

/-- A request for a signed access reaches its handler. -/
theorem serve_access {d : Device E} {client : UInt16} {dataId : UInt32} {req : List UInt8}
    (hobj : dataId ∈ accessObjects) (hconst : Unshadowed d dataId) {w : DevWorld E}
    (htier : rpkTry ed plat deviceId client dataId req ⟨d, [], []⟩ = (true, w)) :
    serveRequest gcm ed plat deviceId d client dataId req = w := by
  simp only [accessObjects, List.mem_cons, List.not_mem_nil, or_false] at hobj
  have hdesc : tryServeDescriptor client dataId req (⟨d, [], []⟩ : DevWorld E)
      = (false, ⟨d, [], []⟩) := by
    rcases hobj with rfl | rfl | rfl <;> rfl
  have hsec : securityTry client dataId req (⟨d, [], []⟩ : DevWorld E)
      = (false, ⟨d, [], []⟩) := by
    rcases hobj with rfl | rfl | rfl <;> rfl
  have hhandover : handoverTry ed client dataId req (⟨d, [], []⟩ : DevWorld E)
      = (false, ⟨d, [], []⟩) := by
    rcases hobj with rfl | rfl | rfl <;> rfl
  have hpassed : tryServeConstOd client dataId req (⟨d, [], []⟩ : DevWorld E)
      = (false, ⟨d, [], []⟩) := tryServeConstOd_passes hconst
  show wp (dispatchRequest gcm ed plat deviceId client dataId req) (fun _ w' => w' = w) ⟨d, [], []⟩
  rw [dispatchRequest, wp_passed hdesc, wp_passed hpassed, wp_passed hsec, wp_passed hhandover,
    wp_served (by rw [htier]), htier]

/-- The epoch of the owner, read back. -/
theorem serve_epoch {d : Device E} {client : UInt16} {req : List UInt8}
    (hconst : Unshadowed d hoEpochId) :
    serveRequest gcm ed plat deviceId d client hoEpochId req
      = ⟨d, [⟨client, hoEpochId, abortNone, putU32le d.asym.ownerEpoch⟩], []⟩ :=
  serve_handover (by decide) hconst rfl

/-- A voucher that is refused leaves the device. -/
theorem serve_refusedVoucher {d : Device E} {client : UInt16} {req : List UInt8}
    (hconst : Unshadowed d hoVoucherId) (hrefused : d.asym.claim ed req = none) :
    serveRequest gcm ed plat deviceId d client hoVoucherId req
      = ⟨d, [⟨client, hoVoucherId, abortVoucher, []⟩], [.claim req false]⟩ := by
  refine serve_handover (by decide) hconst ?_
  show handleVoucher ed client req ⟨d, [], []⟩ = _
  simp only [handleVoucher, getDevice, bind, StateT.bind, hrefused]
  rfl

end SofaLink
