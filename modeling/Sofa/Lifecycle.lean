import Sofa.Commissioning

/-! # The lifecycle stage and the Operator key

    An Operator key is what makes a device OPERATIONAL, and only a decommissioning takes
    it away again.  But the stage is one variable that five operations write: boot, the
    key ladder, an accepted voucher, an accepted Provisioning install and the
    decommissioning itself.  A voucher and an install set OWNED whatever the stage was.

    The headline, **`lifecycle_iff`**: along any run the Operator slot is populated only in
    OPERATIONAL, and OPERATIONAL is left only by a decommissioning, exactly when no
    voucher, no install, and no rung below an empty Operator slot is accepted in it.
    `operational_voucher` is a device with all keys that a voucher sets back to OWNED. -/

namespace SofaLifecycle

open ByteBlock SofaConfig SofaAead SofaOd SofaMoves SofaServer SofaWrites SofaReads SofaWriteFrames
  SofaAccepted SofaDemo SofaAsym SofaDevice SofaTurn SofaNode SofaEpochs SofaExec SofaHosts SofaCommissioning
  StateWp Machine

variable {E : Type} {gcm : Gcm} {ed : Ed25519} {plat : DevicePlatform E} {deviceId : UInt16}

/-! ## The law -/

/-- The stage of a device. -/
def stageOf (d : Device E) : Stage := d.server.host.stage

/-- The Operator slot is populated. -/
def hasOperator (d : Device E) : Bool := d.server.sod.keys.hasKey keyidOperator

/-- An Operator key makes a device OPERATIONAL. -/
def Staged (d : Device E) : Prop := hasOperator d = true → stageOf d = .operational

/-- The step decommissions the device. -/
def Decommissions (gcm : Gcm) (ed : Ed25519) (plat : DevicePlatform E) (deviceId : UInt16)
    (n : Node E) : NodeInput E → Prop
  | .request client dataId req =>
      .decommission ∈ (serveRequest gcm ed plat deviceId n.device client dataId req).calls
  | .platform _ => False

/-- OPERATIONAL is left only by a decommissioning. -/
def StaysOperational (gcm : Gcm) (ed : Ed25519) (plat : DevicePlatform E) (deviceId : UInt16)
    (n : Node E) (a : NodeInput E) : Prop :=
  stageOf n.device = .operational →
    stageOf (nodeStep gcm ed plat deviceId n a).device ≠ .operational →
    Decommissions gcm ed plat deviceId n a

/-- The law of a run. -/
structure LifecycleLaw (gcm : Gcm) (ed : Ed25519) (plat : DevicePlatform E) (deviceId : UInt16)
    (d : Device E) (inputs : List (NodeInput E)) : Prop where
  boot : Staged d
  staged : Along (nodeStep gcm ed plat deviceId)
    (fun n a => Staged (nodeStep gcm ed plat deviceId n a).device) ⟨d, []⟩ inputs
  stays : Along (nodeStep gcm ed plat deviceId) (StaysOperational gcm ed plat deviceId)
    ⟨d, []⟩ inputs

/-! ## The condition -/

/-- The frame of a request verifies, and what the hook is handed: the plaintext, the last
    write key id, and the host. -/
inductive Handed {H : Type} (gcm : Gcm) (P : Ports H) (s : Sod) (host : H)
    (idx : Fin sodMaxEntries) (entry : SodEntry) (client : UInt16) (req : List UInt8) :
    List UInt8 → UInt8 → H → Prop where
  | pass2 {key : Key} {plain : List UInt8} (verifies : Pass2Verifies gcm P s host idx entry req key)
      (opened : aeadOpen gcm (pass2Call P (s.writeSlot idx) entry req key) (pass2Cipher entry req)
        (pass2Tag entry req) = some plain) :
      Handed gcm P s host idx entry client req plain (keyidBase (reqHead req))
        (hostAtWrite P (keyidBase (reqHead req)) entry.dataId host)
  | poll {key : Key} {plain : List UInt8}
      (verifies : WritePollVerifies gcm P s host idx entry client req key)
      (opened : aeadOpen gcm (writePollCall P (s.writeSlot idx) entry key)
        (writePollCipher entry req) (writePollTag entry req) = some plain) :
      Handed gcm P s host idx entry client req plain s.lastWriteKid
        (hostAtWrite P (keyidBase (s.writeSlot idx).keyId) entry.dataId host)

/-- The ladder takes the rung of this body: the right key authorized it and its slot is
    empty. -/
structure RungTaken (lastKid : UInt8) (keys : KeyStore) (body : List UInt8) : Prop where
  len : body.length = keySetBodyLen
  authorized : authorizingKey (body.getD 0 0) = some lastKid
  empty : keys.hasKey (body.getD 0 0) = false

/-- A rung that leaves the Operator slot empty and finds, or makes, the device owned. -/
structure RungDemotes (lastKid : UInt8) (keys : KeyStore) (body : List UInt8) : Prop
    extends RungTaken lastKid keys body where
  other : body.getD 0 0 ≠ keyidOperator
  vacant : keys.hasKey keyidOperator = false
  owned : body.getD 0 0 = keyidProvisioning ∨ keys.hasKey keyidProvisioning = true

/-- No constant entry takes the requests for this object. -/
def Unshadowed (d : Device E) (dataId : UInt32) : Prop :=
  constOdGet d.constOd (dataIdIndex dataId) (dataIdSub dataId) = none

/-- The request is a key-set frame that reaches the secure OD and verifies, with the body of
    such a rung. -/
def KeySetDemotes (gcm : Gcm) (plat : DevicePlatform E) (deviceId : UInt16) (d : Device E)
    (client : UInt16) (dataId : UInt32) (req : List UInt8) : Prop :=
  let P := demoPorts deviceId plat.toPlatform
  dataId = keySetDataId ∧ Unshadowed d dataId ∧
    ∃ idx entry plain kid host, d.server.sod.registry.find dataId = some (idx, entry) ∧
      Handed gcm P d.server.sod d.server.host idx entry client req plain kid host ∧
      RungDemotes kid d.server.sod.keys plain

/-- The request sets the stage to OWNED. -/
def SetsOwned (gcm : Gcm) (ed : Ed25519) (plat : DevicePlatform E) (deviceId : UInt16)
    (d : Device E) (client : UInt16) (dataId : UInt32) (req : List UInt8) : Prop :=
  (dataId = hoVoucherId ∧ Unshadowed d dataId ∧ Claimable ed d.asym req) ∨
    (dataId = hoProvisionId ∧ Unshadowed d dataId ∧ Installable ed d.asym req) ∨
    KeySetDemotes gcm plat deviceId d client dataId req

/-- No request sets the stage of an OPERATIONAL device to OWNED. -/
def NoSetback (gcm : Gcm) (ed : Ed25519) (plat : DevicePlatform E) (deviceId : UInt16)
    (n : Node E) : NodeInput E → Prop
  | .request client dataId req => stageOf n.device = .operational →
      ¬ SetsOwned gcm ed plat deviceId n.device client dataId req
  | .platform _ => True

/-! ## The ladder -/

section Ladder

variable {lastKid : UInt8} {keys : KeyStore} {stage : Stage} {body : List UInt8}

/-- **The ladder** either leaves keys and stage, or takes a rung: it fills the slot and
    sets the stage that the keys now have earned. -/
theorem applyKeySet_cases (lastKid : UInt8) (keys : KeyStore) (stage : Stage)
    (body : List UInt8) :
    ((applyKeySet lastKid keys stage body).2 = (keys, stage) ∧ ¬ RungTaken lastKid keys body) ∨
      (RungTaken lastKid keys body ∧ ∃ keys',
        (∀ k, keys'.hasKey k = true ↔ k = body.getD 0 0 ∨ keys.hasKey k = true) ∧
        (applyKeySet lastKid keys stage body).2 = (keys',
          if keys'.hasKey keyidOperator then .operational
          else if keys'.hasKey keyidProvisioning then .owned else stage)) := by
  by_cases htaken : RungTaken lastKid keys body
  · right
    obtain ⟨keys', hset, hfills⟩ := setKeyEx_fills (slice 16 5 body) (keySetIdVal body)
      (authorizingKey_range htaken.authorized) htaken.empty
    refine ⟨htaken, keys', hfills, ?_⟩
    unfold applyKeySet
    rw [if_neg (not_not_intro htaken.len)]
    simp only [htaken.authorized, htaken.empty, hset, ne_eq, not_true_eq_false, if_false,
      Bool.false_eq_true]
    split
    · rfl
    · split <;> rfl
  · left
    refine ⟨?_, htaken⟩
    unfold applyKeySet
    split
    · rfl
    · rename_i hlen
      simp only
      split
      · rfl
      · rename_i need hneed
        split
        · rfl
        · rename_i hlast
          split
          · rfl
          · rename_i hempty
            refine absurd ⟨by simpa using hlen, ?_, by simpa using hempty⟩ htaken
            rw [hneed, not_not.mp hlast]

/-- A rung that does not demote keeps the Operator key and OPERATIONAL together. -/
theorem applyKeySet_staged (lastKid : UInt8) (body : List UInt8)
    (hstaged : keys.hasKey keyidOperator = true → stage = .operational)
    (hno : stage = .operational → ¬ RungDemotes lastKid keys body) :
    ((applyKeySet lastKid keys stage body).2.1.hasKey keyidOperator = true →
        (applyKeySet lastKid keys stage body).2.2 = .operational) ∧
      (stage = .operational → (applyKeySet lastKid keys stage body).2.2 = .operational) := by
  rcases applyKeySet_cases lastKid keys stage body with ⟨hsame, -⟩ | ⟨htaken, keys', hfills, hafter⟩
  · rw [hsame]
    exact ⟨hstaged, id⟩
  · rw [hafter]
    by_cases hop : keys'.hasKey keyidOperator = true
    · simp [hop]
    · refine ⟨fun h => absurd h hop, fun hstage => ?_⟩
      have hvacant : ¬ (keyidOperator = body.getD 0 0 ∨ keys.hasKey keyidOperator = true) :=
        fun h => hop ((hfills _).mpr h)
      rw [not_or] at hvacant
      have hprov : keys'.hasKey keyidProvisioning ≠ true := by
        intro hprov
        refine hno hstage ⟨htaken, Ne.symm hvacant.1, Bool.eq_false_iff.mpr hvacant.2, ?_⟩
        rcases (hfills _).mp hprov with hsel | hold
        · exact .inl hsel.symm
        · exact .inr hold
      simp [hop, hprov, hstage]

/-- A rung that demotes sets OWNED. -/
theorem applyKeySet_demotes (h : RungDemotes lastKid keys body) :
    (applyKeySet lastKid keys stage body).2.2 = .owned := by
  rcases applyKeySet_cases lastKid keys stage body with ⟨-, hnot⟩ | ⟨-, keys', hfills, hafter⟩
  · exact absurd h.toRungTaken hnot
  · have hop : keys'.hasKey keyidOperator ≠ true := by
      rw [ne_eq, hfills, not_or]
      exact ⟨Ne.symm h.other, by simp [h.vacant]⟩
    have hprov : keys'.hasKey keyidProvisioning = true := by
      rw [hfills]
      exact h.owned.imp Eq.symm id
    rw [hafter]
    simp [hop, hprov]

end Ladder

/-! ## Keys and stage over one dispatch -/

section Dispatch

variable {H α : Type} {P : Ports H} {f : H → α} {s : Sod} {host host' : H}
  {idx : Fin sodMaxEntries} {entry : SodEntry} {client : UInt16} {d : UInt32} {req : List UInt8}
  {replyMax : Nat} {plain : List UInt8} {kid : UInt8}

/-- What the hook leaves of the keys and of the host is what the dispatch leaves. -/
theorem handed_runs (htime : ∀ h, f (P.timeMs h).2 = f h)
    (hfind : s.registry.find d = some (idx, entry))
    (h : Handed gcm P s host idx entry client req plain kid host') :
    wp (sodDispatch gcm P client d req replyMax)
      (fun _ w => w.sod.keys = (P.writeAfter entry.dataId plain kid s.keys host').2.1 ∧
        f w.host = f (P.writeAfter entry.dataId plain kid s.keys host').2.2) ⟨s, host, []⟩ := by
  have hlimit : readChallengeLen = 13 := rfl
  cases h with
  | pass2 verifies opened =>
      have hlong := pass2Len_long verifies.len
      have hpoll : req.length ≠ pollLen entry := by
        rw [verifies.len, pass2Len_eq, pollLen_eq]
        omega
      rw [sodDispatch_data hfind verifies.wo (by omega) fun _ => by omega,
        if_neg fun h => hpoll h.1]
      exact pass2_exec verifies opened rfl (fun _ => ⟨rfl, rfl⟩) (fun _ _ => ⟨rfl, rfl⟩)
        (fun _ _ => ⟨rfl, htime _⟩)
  | poll verifies opened =>
      have hlong := pollLen_long verifies.len
      rw [sodDispatch_data hfind verifies.wo (by omega) fun _ => by omega,
        if_pos ⟨verifies.len, verifies.inUse, verifies.cyclic⟩]
      exact writePoll_exec verifies opened rfl (fun _ => ⟨rfl, rfl⟩) (fun _ => ⟨rfl, htime _⟩)

/-- **Keys and host after a dispatch**, as far as only `write_after` touches them: as
    before, or as it left them. -/
theorem dispatch_handed (hf : Inert P f isWriteAfter)
    (hfind : s.registry.find d = some (idx, entry)) :
    wp (sodDispatch gcm P client d req replyMax)
      (fun _ w => (w.sod.keys = s.keys ∧ f w.host = f host) ∨
        ∃ plain kid host', Handed gcm P s host idx entry client req plain kid host' ∧
          w.sod.keys = (P.writeAfter entry.dataId plain kid s.keys host').2.1 ∧
          f w.host = f (P.writeAfter entry.dataId plain kid s.keys host').2.2)
      ⟨s, host, []⟩ := by
  have hmove : wp (sodDispatch gcm P client d req replyMax) _ ⟨s, host, []⟩ :=
    sodDispatch_move hfind
  obtain ⟨log, hlog, hm⟩ := hmove
  rw [List.nil_append] at hlog
  rcases apply_cases hm with ⟨hnone, hkeys⟩ | ⟨frame, plain, kid, rc, happlied⟩
  · have hkept : wp (sodDispatch gcm P client d req replyMax) _ ⟨s, host, []⟩ :=
      dispatch_untouched hf
    rw [wp, hlog] at hkept
    exact .inl ⟨hkeys, hkept hnone⟩
  have hwritten : ¬ ∀ e ∈ log, isWriteAfter e = false := by
    obtain ⟨now, tail, -, rfl⟩ := happlied.calls
    intro h
    have := h (.writeAfter entry.dataId plain kid rc) (by simp)
    cases this
  right
  have hhanded : ∃ plain kid host', Handed gcm P s host idx entry client req plain kid host' := by
    rcases happlied.frame with ⟨now, key, hchecked, -, -⟩ | ⟨now, key, hchecked, -, -⟩
    · have hv : wp (sodDispatch gcm P client d req replyMax) _ ⟨s, host, []⟩ :=
        pass2_written hfind hchecked.wo hchecked.len
      rw [wp, hlog] at hv
      obtain ⟨key', hverifies⟩ := hv.resolve_left hwritten
      obtain ⟨plain', hopen⟩ := Option.ne_none_iff_exists'.mp hverifies.opened
      exact ⟨_, _, _, .pass2 hverifies hopen⟩
    · have hv : wp (sodDispatch gcm P client d req replyMax) _ ⟨s, host, []⟩ :=
        poll_written hfind hchecked.wo hchecked.len hchecked.inUse hchecked.cyclic
      rw [wp, hlog] at hv
      obtain ⟨key', hverifies⟩ := hv.resolve_left hwritten
      obtain ⟨plain', hopen⟩ := Option.ne_none_iff_exists'.mp hverifies.opened
      exact ⟨_, _, _, .poll hverifies hopen⟩
  obtain ⟨plain', kid', host', hhanded⟩ := hhanded
  exact ⟨plain', kid', host', hhanded, handed_runs hf.time hfind hhanded⟩

/-- The hook finds of the host what the request found. -/
theorem Handed.inert (hf : Inert P f isWriteAfter)
    (h : Handed gcm P s host idx entry client req plain kid host') : f host' = f host := by
  cases h with
  | pass2 => exact (hf.role _ _ _ _).trans (hf.time _)
  | poll => exact (hf.role _ _ _ _).trans (hf.time _)

end Dispatch

/-- What the demo's hook does to keys and stage. -/
theorem demoWriteAfter_state (dataId : UInt32) (src : List UInt8) (lastKid : UInt8)
    (keys : KeyStore) (h : DemoHost E) :
    ((demoWriteAfter dataId src lastKid keys h).2.1,
      (demoWriteAfter dataId src lastKid keys h).2.2.stage)
      = if dataId = keySetDataId then (applyKeySet lastKid keys h.stage src).2
        else (keys, h.stage) := by
  by_cases hd : dataId = keySetDataId
  · subst hd
    rw [demoWriteAfter, if_neg (by decide), if_neg (by decide), if_pos rfl, if_pos rfl]
  · rw [if_neg hd]
    unfold demoWriteAfter
    split
    · split <;> rfl
    · split
      · split <;> rfl
      · split
        · split <;> rfl
        · rfl

section Steps

variable {d : Device E} {client : UInt16} {dataId : UInt32} {req : List UInt8}

/-- What is kept of a device by a step that sets nothing back: the Operator key comes with
    OPERATIONAL, and OPERATIONAL stays. -/
structure Kept (d d' : Device E) : Prop where
  staged : Staged d'
  stays : stageOf d = .operational → stageOf d' = .operational

/-- Neither keys nor stage moved. -/
theorem Kept.same {d d' : Device E} (h : Staged d)
    (hkeys : d'.server.sod.keys = d.server.sod.keys) (hstage : stageOf d' = stageOf d) :
    Kept d d' := by
  refine ⟨?_, fun hop => hstage.trans hop⟩
  unfold Staged hasOperator
  rw [hkeys, hstage]
  exact h

/-- **The secure OD** keeps the two together, when no rung demotes. -/
theorem secureStep_kept (h : Staged d) (hconst : dataId = keySetDataId → Unshadowed d dataId)
    (hno : stageOf d = .operational → ¬ KeySetDemotes gcm plat deviceId d client dataId req) :
    Kept d (secureStep gcm plat deviceId client dataId req d) := by
  cases hfind : d.server.sod.registry.find dataId with
  | none =>
      have hserve : sodDispatch gcm (demoPorts deviceId plat.toPlatform) client dataId req
          dispatchReplyMax ⟨d.server.sod, d.server.host, []⟩ =
          (.notHandled, ⟨d.server.sod, d.server.host, []⟩) := sodDispatch_notHandled hfind
      refine .same h ?_ ?_
      · simp only [secureStep, step, serve, hserve]
      · simp only [stageOf, secureStep, step, serve, hserve]
  | some found =>
      obtain ⟨idx, entry⟩ := found
      have hentry := find_dataId hfind
      have hrun : wp (sodDispatch gcm (demoPorts deviceId plat.toPlatform) client dataId req
          dispatchReplyMax) _ ⟨d.server.sod, d.server.host, []⟩ :=
        dispatch_handed (stage_inert plat.toPlatform) hfind
      rcases hrun with ⟨hkeys, hstage⟩ | ⟨plain, kid, host', hhanded, hkeys, hstage⟩
      · exact .same h hkeys hstage
      · have hhost : host'.stage = d.server.host.stage :=
          hhanded.inert (stage_inert plat.toPlatform)
        have hstate := demoWriteAfter_state entry.dataId plain kid d.server.sod.keys host'
        rw [Prod.ext_iff, hhost] at hstate
        replace hkeys := hkeys.trans hstate.1
        replace hstage := hstage.trans hstate.2
        by_cases hd : entry.dataId = keySetDataId
        · rw [if_pos hd] at hkeys hstage
          have hid : dataId = keySetDataId := hentry ▸ hd
          have hkeep := applyKeySet_staged kid plain h fun hop hdemotes =>
            hno hop ⟨hid, hconst hid, idx, entry, plain, kid, host', hfind, hhanded, hdemotes⟩
          have hop : hasOperator (secureStep gcm plat deviceId client dataId req d) =
              (applyKeySet kid d.server.sod.keys d.server.host.stage plain).2.1.hasKey
                keyidOperator := congrArg (·.hasKey keyidOperator) hkeys
          have hst : stageOf (secureStep gcm plat deviceId client dataId req d) =
              (applyKeySet kid d.server.sod.keys d.server.host.stage plain).2.2 := hstage
          refine ⟨?_, fun h => hst.trans (hkeep.2 h)⟩
          rw [Staged, hop, hst]
          exact hkeep.1
        · rw [if_neg hd] at hkeys hstage
          exact .same h hkeys hstage

/-- A rung that demotes sets OWNED, and decommissions nothing. -/
theorem secureStep_demotes (h : KeySetDemotes gcm plat deviceId d client dataId req) :
    stageOf (secureStep gcm plat deviceId client dataId req d) = .owned := by
  obtain ⟨rfl, -, idx, entry, plain, kid, host', hfind, hhanded, hdemotes⟩ := h
  have hentry := find_dataId hfind
  have hrun : wp (sodDispatch gcm (demoPorts deviceId plat.toPlatform) client keySetDataId req
      dispatchReplyMax) _ ⟨d.server.sod, d.server.host, []⟩ :=
    handed_runs (stage_inert plat.toPlatform).time hfind hhanded
  have hstate := demoWriteAfter_state entry.dataId plain kid d.server.sod.keys host'
  rw [Prod.ext_iff, if_pos hentry] at hstate
  exact (hrun.2.trans hstate.2).trans (applyKeySet_demotes hdemotes)

/-! ## Requests, tier by tier -/

/-- The objects whose requests can move the stage. -/
def stageObjects : List UInt32 := [hoVoucherId, hoProvisionId, keySetDataId]

/-- A constant entry at such an object takes its requests. -/
theorem serve_shadowed (hobj : dataId ∈ stageObjects) {value : List UInt8}
    (hconst : constOdGet d.constOd (dataIdIndex dataId) (dataIdSub dataId) = some value) :
    (serveRequest gcm ed plat deviceId d client dataId req).device = d := by
  simp only [stageObjects, List.mem_cons, List.not_mem_nil, or_false] at hobj
  have hlow : (dataIdLow dataId != 0) = false := by
    rcases hobj with rfl | rfl | rfl <;> rfl
  have hdesc : tryServeDescriptor client dataId req (⟨d, [], []⟩ : DevWorld E)
      = (false, ⟨d, [], []⟩) := by
    rcases hobj with rfl | rfl | rfl <;> rfl
  have htier : wp (tryServeConstOd client dataId req)
      (fun handled w => handled = true ∧ w.device = d) ⟨d, [], []⟩ := by
    unfold tryServeConstOd
    simp only [wp_bind, wp_ite, wp_pure, wp_getDevice, hconst, wp_emit, hlow]
    exact ⟨fun h => absurd h (by decide),
      fun _ => ⟨fun _ => ⟨trivial, trivial⟩, fun _ => ⟨trivial, trivial⟩⟩⟩
  show wp (dispatchRequest gcm ed plat deviceId client dataId req)
    (fun _ w => w.device = d) ⟨d, [], []⟩
  rw [dispatchRequest, wp_passed hdesc, wp_served htier.1]
  exact htier.2

/-- The objects of the handover tier. -/
def handoverObjects : List UInt32 :=
  [hoIdentityId, hoEpochId, hoVoucherId, hoLdevidId, hoProvisionId]

/-- A request for a handover object reaches its handler. -/
theorem serve_handover (hobj : dataId ∈ handoverObjects)
    (hconst : Unshadowed d dataId) {w : DevWorld E}
    (htier : handoverTry ed client dataId req ⟨d, [], []⟩ = (true, w)) :
    serveRequest gcm ed plat deviceId d client dataId req = w := by
  simp only [handoverObjects, List.mem_cons, List.not_mem_nil, or_false] at hobj
  have hdesc : tryServeDescriptor client dataId req (⟨d, [], []⟩ : DevWorld E)
      = (false, ⟨d, [], []⟩) := by
    rcases hobj with rfl | rfl | rfl | rfl | rfl <;> rfl
  have hsec : securityTry client dataId req (⟨d, [], []⟩ : DevWorld E)
      = (false, ⟨d, [], []⟩) := by
    rcases hobj with rfl | rfl | rfl | rfl | rfl <;> rfl
  have hpassed : tryServeConstOd client dataId req (⟨d, [], []⟩ : DevWorld E)
      = (false, ⟨d, [], []⟩) := tryServeConstOd_passes hconst
  show wp (dispatchRequest gcm ed plat deviceId client dataId req) (fun _ w' => w' = w) ⟨d, [], []⟩
  rw [dispatchRequest, wp_passed hdesc, wp_passed hpassed, wp_passed hsec,
    wp_served (by rw [htier]), htier]

/-- An accepted voucher sets OWNED. -/
theorem serve_voucher (hconst : Unshadowed d hoVoucherId) {asym : AsymStore}
    (haccept : d.asym.claim ed req = some asym) :
    serveRequest gcm ed plat deviceId d client hoVoucherId req =
      ⟨({ d with asym := asym } : Device E).setStage .owned,
        [⟨client, hoVoucherId, abortNone, []⟩], [.claim req true]⟩ := by
  refine serve_handover (by decide) hconst ?_
  show handleVoucher ed client req ⟨d, [], []⟩ = _
  simp only [handleVoucher, getDevice, bind, StateT.bind, haccept]
  rfl

/-- So does an accepted install, with the key bridged into the live slot when it is empty. -/
theorem serve_install (hconst : Unshadowed d hoProvisionId)
    (hinstall : Installable ed d.asym req) :
    serveRequest gcm ed plat deviceId d client hoProvisionId req =
      ⟨(({ d with asym := { d.asym with
          provisioningKey := provisionKey req, provisioningSet := true } } : Device E).setKeys
          (installKey d.server.sod.keys keyidProvisioning (provisionKey req)
            keyidValueProvisioning)).setStage .owned,
        [⟨client, hoProvisionId, abortNone, []⟩], []⟩ := by
  have haccept := install_iff.mpr ⟨hinstall, rfl⟩
  refine serve_handover (by decide) hconst ?_
  show handleProvision ed client req ⟨d, [], []⟩ = _
  simp only [handleProvision, getDevice, bind, StateT.bind, haccept]
  rfl

/-! ## Turns -/

/-- An install into another slot leaves the Operator slot. -/
theorem installKey_operator {keys : KeyStore} {kid : UInt8} (hkid : kid ≠ keyidOperator)
    (key : Key) (idVal : UInt32) :
    (installKey keys kid key idVal).hasKey keyidOperator = keys.hasKey keyidOperator := by
  unfold installKey KeyStore.setKeyEx
  split
  · rfl
  · split
    · rfl
    · simp [KeyStore.hasKey, KeyStore.getKey, hkid.symm]

/-- A signed write is too short to be a key-set body. -/
theorem signedWrite_state (hlen : req.length - (rpkWriteHdrLen + asymSigSize) ≤ rpkValueMax)
    (target : UInt32) (lastKid : UInt8) (keys : KeyStore) (h : DemoHost E) :
    (demoWriteAfter target (writeAccess req).value lastKid keys h).2.1 = keys ∧
      (demoWriteAfter target (writeAccess req).value lastKid keys h).2.2.stage = h.stage := by
  have hstate := demoWriteAfter_state target (writeAccess req).value lastKid keys h
  have hshort : (writeAccess req).value.length ≤ 16 := by
    have hlen' : req.length - 83 ≤ 16 := hlen
    show ((req.drop 19).take (req.length - 83)).length ≤ 16
    rw [List.length_take]
    omega
  rw [Prod.ext_iff] at hstate
  split at hstate
  · rcases applyKeySet_cases lastKid keys h.stage (writeAccess req).value with
      ⟨hsame, -⟩ | ⟨htaken, -⟩
    · rw [hsame] at hstate
      exact hstate
    · have hbody : (writeAccess req).value.length = 21 := htaken.len
      omega
  · exact hstate

/-- What a step leaves when it sets nothing back: the Operator key comes with OPERATIONAL,
    and OPERATIONAL is left only by a decommissioning. -/
structure Steady (d : Device E) (calls : List Call) (d' : Device E) : Prop where
  staged : Staged d'
  stays : stageOf d = .operational → stageOf d' ≠ .operational → .decommission ∈ calls

theorem Kept.steady {d' : Device E} {calls : List Call} (h : Kept d d') : Steady d calls d' :=
  ⟨h.staged, fun hop hnot => absurd (h.stays hop) hnot⟩

theorem steady_same {d' : Device E} {calls : List Call} (h : Staged d)
    (hkeys : d'.server.sod.keys = d.server.sod.keys) (hstage : stageOf d' = stageOf d) :
    Steady d calls d' := (Kept.same h hkeys hstage).steady

/-- A device that is not OPERATIONAL and gets no Operator key may take any stage. -/
theorem steady_before {d' : Device E} {calls : List Call} (h : Staged d)
    (hbefore : stageOf d ≠ .operational) (hkeys : hasOperator d' = hasOperator d) :
    Steady d calls d' := by
  refine ⟨fun hop => ?_, fun hop => absurd hop hbefore⟩
  rw [hkeys] at hop
  exact absurd (h hop) hbefore

/-- **One turn is steady**, when it is not one of those that set OWNED. -/
theorem steady_turn {d' : Device E} {sent : List Reply} {calls : List Call}
    (hturn : Turn gcm ed plat deviceId client dataId req d sent calls d') (h : Staged d)
    (hseen : dataId ∈ stageObjects → Unshadowed d dataId)
    (hno : stageOf d = .operational → ¬ SetsOwned gcm ed plat deviceId d client dataId req) :
    Steady d calls d' := by
  cases hturn with
  | answered => exact steady_same h rfl rfl
  | identity object => exact steady_same h rfl rfl
  | exported object generated => exact steady_same h rfl rfl
  | @provisioned asym object installed =>
      subst object
      obtain ⟨hinstall, rfl⟩ := install_iff.mp installed
      refine steady_before h (fun hop => hno hop (.inr (.inl ⟨rfl, hseen (by decide), hinstall⟩))) ?_
      exact installKey_operator (by decide) _ _
  | claimRefused object refused => exact steady_same h rfl rfl
  | claimed object accepted =>
      subst object
      obtain ⟨hclaim, rfl⟩ := claim_iff.mp accepted
      exact steady_before h (fun hop => hno hop (.inl ⟨rfl, hseen (by decide), hclaim⟩)) rfl
  | armed object drawn => exact steady_same h rfl rfl
  | armFailed => exact steady_same h rfl rfl
  | readRefused object held hook =>
      refine steady_same h rfl ?_
      exact (congrArg (fun r => r.2.stage) hook).symm.trans (demoReadBefore_stage _ _)
  | readSigned object held len short hook =>
      refine steady_same h rfl ?_
      exact (congrArg (fun r => r.2.stage) hook).symm.trans (demoReadBefore_stage _ _)
  | noPeer held peer => exact steady_same h rfl rfl
  | forged attempt bad => exact steady_same h rfl rfl
  | written object attempt good hook =>
      have hlen : req.length - (rpkWriteHdrLen + asymSigSize) ≤ rpkValueMax := by
        rcases attempt.body with ⟨-, -, hmax⟩ | ⟨hcommand, -⟩
        · exact hmax
        · rw [object] at hcommand
          exact absurd hcommand (by decide)
      obtain ⟨hkeys, hstage⟩ := signedWrite_state hlen (targetId req) d.server.sod.lastWriteKid
        d.server.sod.keys d.server.host
      rw [hook] at hkeys hstage
      exact steady_same h hkeys hstage
  | commanded object attempt good code => exact steady_same h rfl rfl
  | decommissioned object attempt good code =>
      have hwiped : (installClaimToken .clear).hasKey keyidOperator = false := rfl
      exact ⟨fun hop => absurd (hwiped.symm.trans hop) (by decide), fun _ _ => by simp⟩
  | secured =>
      exact (secureStep_kept h (fun hid => hseen (by rw [hid]; decide))
        fun hop hdemotes => hno hop (.inr (.inr hdemotes))).steady

end Steps

/-! ## Requests -/

theorem staged_step {n : Node E} {a : NodeInput E} (h : Staged n.device)
    (hno : NoSetback gcm ed plat deviceId n a) :
    Staged (nodeStep gcm ed plat deviceId n a).device ∧
      StaysOperational gcm ed plat deviceId n a := by
  cases a with
  | platform env => exact ⟨h, fun hop hnot => absurd hop hnot⟩
  | request client dataId req =>
      by_cases hseen : dataId ∈ stageObjects → Unshadowed n.device dataId
      · have hturn : Turn gcm ed plat deviceId client dataId req n.device
            (serveRequest gcm ed plat deviceId n.device client dataId req).sent
            (serveRequest gcm ed plat deviceId n.device client dataId req).calls
            (serveRequest gcm ed plat deviceId n.device client dataId req).device :=
          dispatchRequest_turn
        have hsteady := steady_turn hturn h hseen hno
        exact ⟨hsteady.staged, hsteady.stays⟩
      · -- a constant entry shadows the object
        obtain ⟨hobj, hsome⟩ := Classical.not_imp.mp hseen
        obtain ⟨value, hvalue⟩ := Option.ne_none_iff_exists'.mp hsome
        have hdev : (nodeStep gcm ed plat deviceId n (.request client dataId req)).device
            = n.device := serve_shadowed hobj hvalue
        rw [StaysOperational, hdev]
        exact ⟨h, fun hop hnot => absurd hop hnot⟩

/-- And the converse: a request that sets OWNED leaves OPERATIONAL without a
    decommissioning. -/
theorem noSetback_of_stays {n : Node E} {a : NodeInput E}
    (h : StaysOperational gcm ed plat deviceId n a) : NoSetback gcm ed plat deviceId n a := by
  cases a with
  | platform env => trivial
  | request client dataId req =>
      intro hop hsets
      have howned : stageOf (serveRequest gcm ed plat deviceId n.device client dataId req).device
          = .owned ∧ .decommission ∉
            (serveRequest gcm ed plat deviceId n.device client dataId req).calls := by
        rcases hsets with ⟨rfl, hconst, hclaim⟩ | ⟨rfl, hconst, hinstall⟩ | hdemotes
        · rw [serve_voucher hconst (claim_iff.mpr ⟨hclaim, rfl⟩)]
          exact ⟨rfl, by simp⟩
        · rw [serve_install hconst hinstall]
          exact ⟨rfl, by simp⟩
        · obtain ⟨rfl, hconst, -⟩ := id hdemotes
          refine ⟨?_, ?_⟩
          · rw [serve_keySet hconst]
            exact secureStep_demotes hdemotes
          · have hturn : Turn gcm ed plat deviceId client keySetDataId req n.device
                (serveRequest gcm ed plat deviceId n.device client keySetDataId req).sent
                (serveRequest gcm ed plat deviceId n.device client keySetDataId req).calls
                (serveRequest gcm ed plat deviceId n.device client keySetDataId req).device :=
              dispatchRequest_turn
            intro hmem
            generalize serveRequest gcm ed plat deviceId n.device client keySetDataId req = w
              at hturn hmem
            obtain ⟨device, sent, calls⟩ := w
            cases hturn with
            | decommissioned object attempt good code => exact absurd object (by decide)
            | _ => simp at hmem
      refine howned.2 (h hop ?_)
      show stageOf (serveRequest gcm ed plat deviceId n.device client dataId req).device
        ≠ .operational
      rw [howned.1]
      decide

/-! ## The headline -/

/-- A device with a session key boots OPERATIONAL. -/
theorem boot_staged {cfg : BootConfig} {env : E} {d : Device E}
    (hstart : odInit ed cfg env = some d) : Staged d := by
  obtain ⟨constOd, registry, keys, -, -, -, rfl⟩ := odInit_cases hstart
  intro hop
  have hop' : keys.hasKey keyidOperator = true := hop
  show bootStage keys = .operational
  simp [bootStage, haveSessionKeys, hop']

/-- **The stage and the Operator key, exactly.** -/
theorem lifecycle_iff (gcm : Gcm) (ed : Ed25519) (plat : DevicePlatform E) (deviceId : UInt16)
    (cfg : BootConfig) (env : E) (d : Device E) (hstart : odInit ed cfg env = some d)
    (inputs : List (NodeInput E)) :
    LifecycleLaw gcm ed plat deviceId d inputs ↔
      Along (nodeStep gcm ed plat deviceId) (NoSetback gcm ed plat deviceId) ⟨d, []⟩ inputs := by
  constructor
  · rintro ⟨-, -, hstays⟩
    exact along_imp (I := fun _ => True) (fun _ _ _ _ => trivial)
      (fun _ _ _ h => noSetback_of_stays h) trivial hstays
  · intro hno
    have hboot : Staged d := boot_staged hstart
    exact ⟨hboot,
      along_imp (I := fun n : Node E => Staged n.device) (fun n a h hp => (staged_step h hp).1)
        (fun n a h hp => (staged_step h hp).1) hboot hno,
      along_imp (I := fun n : Node E => Staged n.device) (fun n a h hp => (staged_step h hp).1)
        (fun n a h hp => (staged_step h hp).2) hboot hno⟩

/-! ## Worked runs -/

/-- A key-set frame that answers the challenge `sr` under `authorizing`: `key` for a slot. -/
def sampleKeySet (authorizing : Key) (keyId : UInt8) (sr : Rand) (slot : UInt8) (key : Key) :
    List UInt8 :=
  pass2Request (sampleRand 5) (sealOf sampleGcm
    ⟨authorizing, aeadXorNonce (sampleRand 5) sr, dirWriteRequest, keyId, sampleNodeId, 20,
      keySetDataId, some (sampleRand 5, sr)⟩ (slot :: 0 :: 0 :: 0 :: 0 :: toList key))

/-- The device is claimed, and climbs the ladder from its claim token to the Operator key. -/
def sampleClimb : List (NodeInput SampleEnv) :=
  [.request 20 hoVoucherId (sampleVoucher 5), .request 20 keySetDataId [],
    .request 20 keySetDataId (sampleKeySet claimToken keyidClaimToken (sampleRand 9)
      keyidProvisioning demoKeyProvisioning),
    .request 20 keySetDataId [],
    .request 20 keySetDataId (sampleKeySet demoKeyProvisioning keyidProvisioning (sampleRand 10)
      keyidIntegrator demoKeyIntegrator),
    .request 20 keySetDataId [],
    .request 20 keySetDataId (sampleKeySet demoKeyIntegrator keyidIntegrator (sampleRand 11)
      keyidOperator demoKeyOperator)]

/-- Then it is decommissioned, and claimed again. -/
def sampleReclaim : List (NodeInput SampleEnv) :=
  [.request 20 rpkFunccmdId [],
    .request 20 rpkFunccmdId (sampleCommand 20 (sampleNonce 1) cmdFactoryRestore),
    .request 20 hoVoucherId (sampleVoucher 9)]

/-- The randoms of that run. -/
def sampleStock : SampleEnv :=
  { nonces := [sampleNonce 1], rands := [sampleRand 9, sampleRand 10, sampleRand 11] }

/-- The demo device, without keys, with that many randoms to come. -/
def sampleStocked : Device SampleEnv := (odInit sampleEd {} sampleStock).get (by decide +kernel)

/-- No request of an OPERATIONAL device is for one of the three objects. -/
def Undisturbed (n : Node E) : NodeInput E → Prop
  | .request _ dataId _ => stageOf n.device = .operational → dataId ∉ stageObjects
  | .platform _ => True

instance (n : Node E) : ∀ a, Decidable (Undisturbed n a)
  | .request _ dataId _ => inferInstanceAs (Decidable (_ → dataId ∉ stageObjects))
  | .platform _ => .isTrue trivial

/-- Nothing else sets it back. -/
theorem noSetback_of_undisturbed (n : Node E) (a : NodeInput E) (h : Undisturbed n a) :
    NoSetback gcm ed plat deviceId n a := by
  cases a with
  | platform env => trivial
  | request client dataId req =>
      rintro hop (⟨rfl, -⟩ | ⟨rfl, -⟩ | ⟨rfl, -⟩) <;> exact h hop (by decide)

/-- `lifecycle_iff` on that run: the ladder ends OPERATIONAL, the decommissioning takes the
    device out of it, and neither voucher finds it there. -/
theorem sampleClimb_lifecycle :
    stageOf (nodeAfter sampleGcm sampleEd samplePlatform sampleNodeId sampleStocked
      sampleClimb).device = .operational ∧
    stageOf (nodeAfter sampleGcm sampleEd samplePlatform sampleNodeId sampleStocked
      (sampleClimb ++ sampleReclaim)).device = .owned ∧
    LifecycleLaw sampleGcm sampleEd samplePlatform sampleNodeId sampleStocked
      (sampleClimb ++ sampleReclaim) := by
  have hrun : Along (nodeStep sampleGcm sampleEd samplePlatform sampleNodeId) Undisturbed
      ⟨sampleStocked, []⟩ (sampleClimb ++ sampleReclaim) := by decide +kernel
  refine ⟨by decide +kernel, by decide +kernel, (lifecycle_iff sampleGcm sampleEd samplePlatform
    sampleNodeId {} sampleStock sampleStocked (Option.some_get _).symm
    (sampleClimb ++ sampleReclaim)).mpr ?_⟩
  exact along_imp (I := fun _ => True) (fun _ _ _ _ => trivial)
    (fun n a _ h => noSetback_of_undisturbed n a h) trivial hrun

/-- **A voucher sets an operational device back.**  Booted with the demo keys it is
    OPERATIONAL; the voucher that comes next is accepted, and the device is OWNED with its
    Operator key still in place. -/
theorem operational_voucher :
    stageOf sampleKeyed = .operational ∧
    stageOf (serveRequest sampleGcm sampleEd samplePlatform sampleNodeId sampleKeyed 20 hoVoucherId
      (sampleVoucher 5)).device = .owned ∧
    ¬ LifecycleLaw sampleGcm sampleEd samplePlatform sampleNodeId sampleKeyed
      [.request 20 hoVoucherId (sampleVoucher 5)] := by
  have hafter : stageOf (serveRequest sampleGcm sampleEd samplePlatform sampleNodeId sampleKeyed
      20 hoVoucherId (sampleVoucher 5)).device = .owned := by decide +kernel
  have hkeys : hasOperator (serveRequest sampleGcm sampleEd samplePlatform sampleNodeId sampleKeyed
      20 hoVoucherId (sampleVoucher 5)).device = true := by decide +kernel
  refine ⟨by decide +kernel, hafter, fun hlaw => ?_⟩
  have hstaged := hlaw.staged.1 hkeys
  exact absurd (hafter.symm.trans hstaged) (by decide)

end SofaLifecycle
