import Sofa.Epochs
import Sofa.Hosts

/-! # The commissioning stage and the claim flag

    The device says twice whether it is commissioned: the lifecycle stage, which C001h:01h
    reports, and the flag in the identity store, which a voucher claim tests.  Boot and the
    key ladder set the first, a claim the second, a decommissioning both.

    The headline, **`agreement_iff`**: along any run the two agree, and every accepted claim
    finds C001h:01h reporting UNCOMMISSIONED, exactly when the device booted without session
    keys and no key-set write moves the stage of an unclaimed device.
    `commissioned_claim` is a device booted with the demo keys that reports COMMISSIONED
    and accepts a voucher. -/

namespace SofaCommissioning

open ByteBlock SofaConfig SofaAead SofaOd SofaMoves SofaServer SofaWrites SofaWriteFrames SofaDemo
  SofaAsym SofaDevice SofaTurn SofaNode SofaEpochs SofaHosts StateWp Machine

variable {E : Type} {gcm : Gcm} {ed : Ed25519} {plat : DevicePlatform E} {deviceId : UInt16}

/-! ## The law -/

/-- C001h:01h. -/
abbrev statCommissioningId : UInt32 := 0xC0010100
abbrev statUncommissioned : UInt8 := 0x00

/-- What C001h:01h reports. -/
def commissioning (d : Device E) : UInt8 := commissioningByte d.server.host.stage

/-- The flag of the store and the reported stage say the same. -/
def Agrees (d : Device E) : Prop :=
  d.asym.uncommissioned = true ↔ commissioning d = statUncommissioned

/-- Whoever reads C001h:01h is told UNCOMMISSIONED. -/
def ReportsUncommissioned (gcm : Gcm) (ed : Ed25519) (plat : DevicePlatform E)
    (deviceId : UInt16) (d : Device E) : Prop :=
  ∀ client, (serveRequest gcm ed plat deviceId d client statCommissioningId []).sent
    = [⟨client, statCommissioningId, abortNone, [statUncommissioned]⟩]

/-- A claim is accepted only by a device that reports UNCOMMISSIONED. -/
def StepClaims (gcm : Gcm) (ed : Ed25519) (plat : DevicePlatform E) (deviceId : UInt16)
    (n : Node E) : NodeInput E → Prop
  | .request client dataId req =>
      (∃ v, .claim v true ∈ (serveRequest gcm ed plat deviceId n.device client dataId req).calls) →
        ReportsUncommissioned gcm ed plat deviceId n.device
  | .platform _ => True

/-- The law of a run: the two agree in every state, and claims are as they should be. -/
structure CommissioningLaw (gcm : Gcm) (ed : Ed25519) (plat : DevicePlatform E)
    (deviceId : UInt16) (d : Device E) (inputs : List (NodeInput E)) : Prop where
  boot : Agrees d
  agrees : Along (nodeStep gcm ed plat deviceId)
    (fun n a => Agrees (nodeStep gcm ed plat deviceId n a).device) ⟨d, []⟩ inputs
  claims : Along (nodeStep gcm ed plat deviceId) (StepClaims gcm ed plat deviceId) ⟨d, []⟩ inputs

/-! ## The condition -/

/-- The ladder takes the key-set body, and the rung moves the stage. -/
structure LadderMoves (lastKid : UInt8) (keys : KeyStore) (body : List UInt8) : Prop where
  len : body.length = keySetBodyLen
  authorized : authorizingKey (body.getD 0 0) = some lastKid
  empty : keys.hasKey (body.getD 0 0) = false
  moves : body.getD 0 0 ≠ keyidIntegrator ∨ keys.hasKey keyidOperator = true ∨
    keys.hasKey keyidProvisioning = true

/-- The request is a key-set frame that reaches the secure OD and verifies, with a body that
    moves the stage. -/
def KeySetLands (gcm : Gcm) (plat : DevicePlatform E) (deviceId : UInt16) (d : Device E)
    (client : UInt16) (dataId : UInt32) (req : List UInt8) : Prop :=
  let P := demoPorts deviceId plat.toPlatform
  let s := d.server.sod
  dataId = keySetDataId ∧ constOdGet d.constOd (dataIdIndex dataId) (dataIdSub dataId) = none ∧
    ∃ idx entry key plain, s.registry.find dataId = some (idx, entry) ∧
      ((Pass2Verifies gcm P s d.server.host idx entry req key ∧
          aeadOpen gcm (pass2Call P (s.writeSlot idx) entry req key) (pass2Cipher entry req)
            (pass2Tag entry req) = some plain ∧
          LadderMoves (keyidBase (reqHead req)) s.keys plain) ∨
        (WritePollVerifies gcm P s d.server.host idx entry client req key ∧
          aeadOpen gcm (writePollCall P (s.writeSlot idx) entry key) (writePollCipher entry req)
            (writePollTag entry req) = some plain ∧
          LadderMoves s.lastWriteKid s.keys plain))

/-- No key-set write moves the stage of an unclaimed device. -/
def ClaimedFirst (gcm : Gcm) (plat : DevicePlatform E) (deviceId : UInt16) (n : Node E) :
    NodeInput E → Prop
  | .request client dataId req => n.device.asym.uncommissioned = true →
      ¬ KeySetLands gcm plat deviceId n.device client dataId req
  | .platform _ => True

/-! ## Reading the status object -/

/-- C001h:01h reports the stage. -/
theorem serve_status (d : Device E) (client : UInt16) :
    (serveRequest gcm ed plat deviceId d client statCommissioningId []).sent
      = [⟨client, statCommissioningId, abortNone, [commissioning d]⟩] := rfl

theorem reports_iff {d : Device E} :
    ReportsUncommissioned gcm ed plat deviceId d ↔ commissioning d = statUncommissioned := by
  simp only [ReportsUncommissioned, serve_status]
  simp

/-! ## What moves the stage -/

section Ladder

variable {lastKid : UInt8} {keys : KeyStore} {stage : Stage} {body : List UInt8}

/-- A rung of the ladder is one of the key slots. -/
theorem authorizingKey_range {selector need : UInt8} (h : authorizingKey selector = some need) :
    keySlotInRange selector = true := by
  unfold authorizingKey at h
  split at h
  · rename_i hsel
    rw [hsel]
    rfl
  · split at h
    · rename_i hsel
      rw [hsel]
      rfl
    · split at h
      · rename_i hsel
        rw [hsel]
        rfl
      · cases h

/-- An install into an empty slot fills it and leaves the others. -/
theorem setKeyEx_fills (key : Key) (idVal : UInt32) {kid : UInt8}
    (hrange : keySlotInRange kid = true) (hempty : keys.hasKey kid = false) :
    ∃ keys', keys.setKeyEx kid key idVal = some keys' ∧
      ∀ k, keys'.hasKey k = true ↔ k = kid ∨ keys.hasKey k = true := by
  refine ⟨{ slot := Function.update keys.slot kid (some ⟨key, idVal⟩) }, ?_, fun k => ?_⟩
  · rw [KeyStore.setKeyEx, if_neg (by simp [hrange]), if_neg (by simp [hempty])]
  · by_cases hk : k = kid
    · subst hk
      simp [KeyStore.hasKey, KeyStore.getKey, hrange]
    · simp [KeyStore.hasKey, KeyStore.getKey, hk]

/-- The stage after a rung that is taken. -/
theorem applyKeySet_taken {keys' : KeyStore} (hlen : body.length = keySetBodyLen)
    (hauth : authorizingKey (body.getD 0 0) = some lastKid)
    (hempty : keys.hasKey (body.getD 0 0) = false)
    (hset : keys.setKeyEx (body.getD 0 0) (slice 16 5 body) (keySetIdVal body) = some keys') :
    (applyKeySet lastKid keys stage body).2.2 =
      if keys'.hasKey keyidOperator then .operational
      else if keys'.hasKey keyidProvisioning then .owned else stage := by
  unfold applyKeySet
  rw [if_neg (not_not_intro hlen)]
  simp only [hauth, hempty, hset, ne_eq, not_true_eq_false, if_false, Bool.false_eq_true]
  split
  · rfl
  · split <;> rfl

/-- A rung that does not move the stage leaves it. -/
theorem applyKeySet_keeps (h : ¬ LadderMoves lastKid keys body) :
    (applyKeySet lastKid keys stage body).2.2 = stage := by
  by_cases hrung : body.length = keySetBodyLen ∧
      authorizingKey (body.getD 0 0) = some lastKid ∧ keys.hasKey (body.getD 0 0) = false
  · obtain ⟨hlen, hauth, hempty⟩ := hrung
    obtain ⟨keys', hset, hfills⟩ := setKeyEx_fills (slice 16 5 body) (keySetIdVal body)
      (authorizingKey_range hauth) hempty
    -- only the Integrator rung can leave the stage, and only without the other two
    have hno : ∀ k, k = keyidOperator ∨ k = keyidProvisioning → keys'.hasKey k ≠ true := by
      rintro k hk hhas
      refine h ⟨hlen, hauth, hempty, ?_⟩
      rcases (hfills k).mp hhas with hsel | hold
      · left
        rw [← hsel]
        rcases hk with rfl | rfl <;> decide
      · right
        rcases hk with rfl | rfl
        · exact .inl hold
        · exact .inr hold
    rw [applyKeySet_taken hlen hauth hempty hset, if_neg (hno _ (.inl rfl)),
      if_neg (hno _ (.inr rfl))]
  · unfold applyKeySet
    split
    · rfl
    · rename_i hlen
      simp only
      split
      · rfl
      · rename_i need hneed
        split
        · rfl
        · rename_i hlast
          split
          · rfl
          · rename_i hempty
            refine absurd ⟨by simpa using hlen, ?_, by simpa using hempty⟩ hrung
            rw [hneed, not_not.mp hlast]

/-- A rung that moves the stage makes the device report COMMISSIONED. -/
theorem applyKeySet_moves (h : LadderMoves lastKid keys body) :
    commissioningByte (applyKeySet lastKid keys stage body).2.2 = 0x01 := by
  obtain ⟨keys', hset, hfills⟩ := setKeyEx_fills (slice 16 5 body) (keySetIdVal body)
    (authorizingKey_range h.authorized) h.empty
  rw [applyKeySet_taken h.len h.authorized h.empty hset]
  by_cases hop : keys'.hasKey keyidOperator = true
  · rw [if_pos hop]
    rfl
  · have hprov : keys'.hasKey keyidProvisioning = true := by
      rw [hfills]
      rcases h.moves with hsel | hold | hold
      · -- of the other two rungs, the Operator one would have filled its slot
        have hauth := h.authorized
        unfold authorizingKey at hauth
        by_cases h1 : body.getD 0 0 = keyidProvisioning
        · exact .inl h1.symm
        · rw [if_neg h1, if_neg hsel] at hauth
          by_cases h3 : body.getD 0 0 = keyidOperator
          · exact absurd ((hfills _).mpr (.inl h3.symm)) hop
          · rw [if_neg h3] at hauth
            cases hauth
      · exact absurd ((hfills _).mpr (.inr hold)) hop
      · exact .inr hold
    rw [if_neg hop, if_pos hprov]
    rfl

end Ladder

theorem demoReadBefore_stage (dataId : UInt32) (h : DemoHost E) :
    (demoReadBefore dataId h).2.stage = h.stage := by
  unfold demoReadBefore
  split
  · rfl
  · split
    · rfl
    · split <;> rfl

/-- Of the hooks, only the key set moves the stage. -/
theorem demoWriteAfter_stage (dataId : UInt32) (src : List UInt8) (lastKid : UInt8)
    (keys : KeyStore) (h : DemoHost E) :
    (demoWriteAfter dataId src lastKid keys h).2.2.stage
      = if dataId = keySetDataId then (applyKeySet lastKid keys h.stage src).2.2 else h.stage := by
  by_cases hd : dataId = keySetDataId
  · subst hd
    rw [demoWriteAfter, if_neg (by decide), if_neg (by decide), if_pos rfl, if_pos rfl]
  · rw [if_neg hd]
    unfold demoWriteAfter
    split
    · split <;> rfl
    · split
      · split <;> rfl
      · split
        · split <;> rfl
        · rfl

theorem stage_inert (plat : Platform E) :
    Inert (demoPorts deviceId plat) (fun h => h.stage) isWriteAfter where
  time _ := rfl
  random _ := rfl
  access _ _ _ := rfl
  role _ _ _ _ := rfl
  read d h _ _ _ := demoReadBefore_stage d h
  write _ _ _ _ := rfl

/-- What a hook call leaves of the stage. -/
theorem demoWriteAfter_commissioning {dataId : UInt32} {src : List UInt8} {lastKid : UInt8}
    {keys : KeyStore} {h : DemoHost E} :
    (demoWriteAfter dataId src lastKid keys h).2.2.stage = h.stage ∨
      (dataId = keySetDataId ∧ LadderMoves lastKid keys src ∧
        commissioningByte (demoWriteAfter dataId src lastKid keys h).2.2.stage = 0x01) := by
  rw [demoWriteAfter_stage]
  by_cases hd : dataId = keySetDataId
  · rw [if_pos hd]
    by_cases hmoves : LadderMoves lastKid keys src
    · exact .inr ⟨hd, hmoves, applyKeySet_moves hmoves⟩
    · exact .inl (applyKeySet_keeps hmoves)
  · rw [if_neg hd]
    exact .inl rfl

section SecureStep

variable {d : Device E} {client : UInt16} {dataId : UInt32} {req : List UInt8}

/-- In the secure OD the stage stays, unless a key-set frame lands. -/
theorem secureStep_stage (hconst : dataId = keySetDataId →
      constOdGet d.constOd (dataIdIndex dataId) (dataIdSub dataId) = none) :
    (secureStep gcm plat deviceId client dataId req d).server.host.stage = d.server.host.stage ∨
      (KeySetLands gcm plat deviceId d client dataId req ∧
        commissioning (secureStep gcm plat deviceId client dataId req d) = 0x01) := by
  cases hfind : d.server.sod.registry.find dataId with
  | none =>
      have hserve : sodDispatch gcm (demoPorts deviceId plat.toPlatform) client dataId req
          dispatchReplyMax ⟨d.server.sod, d.server.host, []⟩ =
          (.notHandled, ⟨d.server.sod, d.server.host, []⟩) := sodDispatch_notHandled hfind
      left
      simp only [secureStep, step, serve, hserve]
  | some found =>
      obtain ⟨idx, entry⟩ := found
      have hentry := find_dataId hfind
      have hrun : wp (sodDispatch gcm (demoPorts deviceId plat.toPlatform) client dataId req
          dispatchReplyMax) _ ⟨d.server.sod, d.server.host, []⟩ :=
        dispatch_host (stage_inert plat.toPlatform) hfind
      rcases hrun with hsame | ⟨key, plain, hleft⟩ | ⟨key, plain, hleft⟩
      · exact .inl hsame
      · rcases demoWriteAfter_commissioning with hsame | ⟨hd, hmoves, hone⟩
        · exact .inl (hleft.left.trans hsame)
        · rw [hentry] at hd
          exact .inr ⟨⟨hd, hconst hd, idx, entry, key, plain, hfind,
            .inl ⟨hleft.verifies, hleft.opened, hmoves⟩⟩,
            (congrArg commissioningByte hleft.left).trans hone⟩
      · rcases demoWriteAfter_commissioning with hsame | ⟨hd, hmoves, hone⟩
        · exact .inl (hleft.left.trans hsame)
        · rw [hentry] at hd
          exact .inr ⟨⟨hd, hconst hd, idx, entry, key, plain, hfind,
            .inr ⟨hleft.verifies, hleft.opened, hmoves⟩⟩,
            (congrArg commissioningByte hleft.left).trans hone⟩

/-- A key-set frame that lands makes the device report COMMISSIONED. -/
theorem keySetLands_commissions (h : KeySetLands gcm plat deviceId d client dataId req) :
    commissioning (secureStep gcm plat deviceId client dataId req d) = 0x01 := by
  obtain ⟨rfl, -, idx, entry, key, plain, hfind, hframe⟩ := h
  have hentry := find_dataId hfind
  -- the hook is handed a body that moves the stage
  have hmoved : ∀ {lastKid : UInt8} {host : DemoHost E}, LadderMoves lastKid
      d.server.sod.keys plain → commissioningByte
        (demoWriteAfter entry.dataId plain lastKid d.server.sod.keys host).2.2.stage = 0x01 := by
    intro lastKid host hmoves
    rw [demoWriteAfter_stage, if_pos hentry]
    exact applyKeySet_moves hmoves
  rcases hframe with ⟨hv, hopen, hmoves⟩ | ⟨hv, hopen, hmoves⟩
  · have hrun : wp (sodDispatch gcm (demoPorts deviceId plat.toPlatform) client keySetDataId req
        dispatchReplyMax) _ ⟨d.server.sod, d.server.host, []⟩ :=
      pass2_host (stage_inert plat.toPlatform).time hfind hv hopen
    exact (congrArg commissioningByte hrun.left).trans (hmoved hmoves)
  · have hrun : wp (sodDispatch gcm (demoPorts deviceId plat.toPlatform) client keySetDataId req
        dispatchReplyMax) _ ⟨d.server.sod, d.server.host, []⟩ :=
      writePoll_host (stage_inert plat.toPlatform).time hfind hv hopen
    exact (congrArg commissioningByte hrun.left).trans (hmoved hmoves)

/-! ## The tiers before the secure OD, for the key set -/

/-- A constant entry of the key set's index takes its requests. -/
theorem serve_keySet_const {value : List UInt8}
    (hconst : constOdGet d.constOd (dataIdIndex keySetDataId) (dataIdSub keySetDataId)
      = some value) :
    (serveRequest gcm ed plat deviceId d client keySetDataId req).device = d := by
  have htier : wp (tryServeConstOd client keySetDataId req)
      (fun handled w => handled = true ∧ w.device = d) ⟨d, [], []⟩ := by
    unfold tryServeConstOd
    simp only [wp_bind, wp_ite, wp_pure, wp_getDevice, hconst, wp_emit]
    exact ⟨fun h => absurd h (by decide),
      fun _ => ⟨fun _ => ⟨trivial, trivial⟩, fun _ => ⟨trivial, trivial⟩⟩⟩
  have hdesc : tryServeDescriptor client keySetDataId req (⟨d, [], []⟩ : DevWorld E)
      = (false, ⟨d, [], []⟩) := rfl
  show wp (dispatchRequest gcm ed plat deviceId client keySetDataId req)
    (fun _ w => w.device = d) ⟨d, [], []⟩
  rw [dispatchRequest, wp_passed hdesc, wp_served htier.1]
  exact htier.2

/-- And otherwise they reach the secure OD. -/
theorem serve_keySet
    (hconst : constOdGet d.constOd (dataIdIndex keySetDataId) (dataIdSub keySetDataId) = none) :
    (serveRequest gcm ed plat deviceId d client keySetDataId req).device
      = secureStep gcm plat deviceId client keySetDataId req d := by
  have htier : tryServeConstOd client keySetDataId req (⟨d, [], []⟩ : DevWorld E)
      = (false, ⟨d, [], []⟩) := tryServeConstOd_passes hconst
  have hdesc : tryServeDescriptor client keySetDataId req (⟨d, [], []⟩ : DevWorld E)
      = (false, ⟨d, [], []⟩) := rfl
  have hsec : securityTry client keySetDataId req (⟨d, [], []⟩ : DevWorld E)
      = (false, ⟨d, [], []⟩) := rfl
  have hho : handoverTry ed client keySetDataId req (⟨d, [], []⟩ : DevWorld E)
      = (false, ⟨d, [], []⟩) := rfl
  have hrpk : rpkTry ed plat deviceId client keySetDataId req (⟨d, [], []⟩ : DevWorld E)
      = (false, ⟨d, [], []⟩) := rfl
  show wp (dispatchRequest gcm ed plat deviceId client keySetDataId req)
    (fun _ w => w.device = secureStep gcm plat deviceId client keySetDataId req d) ⟨d, [], []⟩
  rw [dispatchRequest, wp_passed hdesc, wp_passed htier, wp_passed hsec, wp_passed hho,
    wp_passed hrpk, wp_bind]
  unfold sodTier
  simp only [wp_bind, wp_getDevice, wp_setDevice]
  cases (exchange gcm (demoPorts deviceId plat.toPlatform) d.server client keySetDataId req
    dispatchReplyMax).result with
  | ok reply => rfl
  | defer => rfl
  | abort code => rfl
  | notHandled => rfl

end SecureStep

/-! ## Turns -/

/-- What holds of a device between two requests when all is well: the two records agree, and
    an installed owner has claimed it. -/
structure Settled (d : Device E) : Prop where
  agrees : Agrees d
  owned : d.asym.ownerSet = true → d.asym.uncommissioned = false

/-- Neither record moved. -/
theorem Settled.same {d d' : Device E} (h : Settled d)
    (hstage : d'.server.host.stage = d.server.host.stage)
    (hflag : d'.asym.uncommissioned = d.asym.uncommissioned)
    (howner : d'.asym.ownerSet = d.asym.ownerSet) : Settled d' := by
  refine ⟨?_, ?_⟩
  · rw [Agrees, commissioning, hflag, hstage]
    exact h.agrees
  · rw [hflag, howner]
    exact h.owned

/-- A claimed device in a commissioned stage. -/
theorem settled_commissioned {d : Device E} (hflag : d.asym.uncommissioned = false)
    (hstage : commissioning d = 0x01) : Settled d := by
  refine ⟨?_, fun _ => hflag⟩
  rw [Agrees, hflag, hstage]
  decide

/-- **One turn keeps the records together**, when the secure OD does. -/
theorem settled_turn {d d' : Device E} {client : UInt16} {dataId : UInt32} {req : List UInt8}
    {sent : List Reply} {calls : List Call}
    (hturn : Turn gcm ed plat deviceId client dataId req d sent calls d') (h : Settled d)
    (hsecure : Settled (secureStep gcm plat deviceId client dataId req d)) : Settled d' := by
  cases hturn with
  | answered => exact h
  | identity object => exact h
  | exported object generated =>
      unfold AsymStore.generateLdevid at generated
      split at generated
      · cases generated
      · cases generated
        exact h.same rfl rfl rfl
  | provisioned object installed =>
      obtain ⟨howner, key, rfl⟩ := installProvisioning_cases installed
      exact settled_commissioned (h.owned howner) rfl
  | claimRefused object refused => exact h
  | claimed object accepted =>
      obtain ⟨-, rfl⟩ := claim_iff.mp accepted
      exact settled_commissioned rfl rfl
  | armed object drawn => exact h.same rfl rfl rfl
  | armFailed => exact h.same rfl rfl rfl
  | readRefused object held hook =>
      refine h.same ?_ rfl rfl
      exact (congrArg (fun r => r.2.stage) hook).symm.trans (demoReadBefore_stage _ _)
  | readSigned object held len short hook =>
      refine h.same ?_ rfl rfl
      exact (congrArg (fun r => r.2.stage) hook).symm.trans (demoReadBefore_stage _ _)
  | noPeer held peer => exact h.same rfl rfl rfl
  | forged attempt bad => exact h.same rfl rfl rfl
  | written object attempt good hook =>
      subst object
      refine h.same ?_ rfl rfl
      have hleft := congrArg (fun r => r.2.2.stage) hook
      refine hleft.symm.trans ?_
      rcases demoWriteAfter_commissioning with hsame | ⟨-, hmoves, -⟩
      · exact hsame
      · -- a signed write carries at most 16 bytes, and a key-set body has 21
        have hshort : (writeAccess req).value.length ≤ rpkValueMax :=
          (pass2_lengths attempt.body).2
        rw [hmoves.len] at hshort
        exact absurd hshort (by decide)
  | commanded object attempt good code => exact h.same rfl rfl rfl
  | decommissioned object attempt good code => exact ⟨iff_of_true rfl rfl, fun h => by cases h⟩
  | secured => exact hsecure

/-- A served request keeps the records together exactly when no key-set write moves the stage
    of an unclaimed device. -/
theorem settled_request {n : Node E} {client : UInt16} {dataId : UInt32} {req : List UInt8}
    (h : Settled n.device)
    (hfirst : ClaimedFirst gcm plat deviceId n (.request client dataId req)) :
    Settled (serveRequest gcm ed plat deviceId n.device client dataId req).device := by
  have hturn : Turn gcm ed plat deviceId client dataId req n.device _ _
      (serveRequest gcm ed plat deviceId n.device client dataId req).device := dispatchRequest_turn
  by_cases hconst : dataId = keySetDataId →
      constOdGet n.device.constOd (dataIdIndex dataId) (dataIdSub dataId) = none
  · refine settled_turn hturn h ?_
    rcases secureStep_stage hconst with hsame | ⟨hlands, hone⟩
    · exact h.same hsame rfl rfl
    · refine settled_commissioned ?_ hone
      by_contra hflag
      exact hfirst ((Bool.not_eq_false _).mp hflag) hlands
  · -- the key set is shadowed by a constant entry
    obtain ⟨rfl, hsome⟩ := Classical.not_imp.mp hconst
    obtain ⟨value, hvalue⟩ := Option.ne_none_iff_exists'.mp hsome
    rw [serve_keySet_const hvalue]
    exact h

/-- And the converse: a key-set write that lands on an unclaimed device parts them. -/
theorem claimedFirst_of_agrees {n : Node E} {a : NodeInput E}
    (hafter : Agrees (nodeStep gcm ed plat deviceId n a).device) :
    ClaimedFirst gcm plat deviceId n a := by
  cases a with
  | platform env => trivial
  | request client dataId req =>
      intro hflag hlands
      obtain ⟨rfl, hconst, -⟩ := id hlands
      have hdev : (nodeStep gcm ed plat deviceId n (.request client keySetDataId req)).device
          = secureStep gcm plat deviceId client keySetDataId req n.device := serve_keySet hconst
      rw [hdev] at hafter
      have hzero := hafter.mp hflag
      rw [keySetLands_commissions hlands] at hzero
      exact absurd hzero (by decide)

/-- A device whose records agree accepts a claim only when it reports UNCOMMISSIONED. -/
theorem stepClaims_of_agrees {n : Node E} (h : Agrees n.device) (a : NodeInput E) :
    StepClaims gcm ed plat deviceId n a := by
  cases a with
  | platform env => trivial
  | request client dataId req =>
      rintro ⟨v, hv⟩
      have hturn : Turn gcm ed plat deviceId client dataId req n.device
          (serveRequest gcm ed plat deviceId n.device client dataId req).sent
          (serveRequest gcm ed plat deviceId n.device client dataId req).calls
          (serveRequest gcm ed plat deviceId n.device client dataId req).device :=
        dispatchRequest_turn
      rw [reports_iff]
      generalize serveRequest gcm ed plat deviceId n.device client dataId req = w at hturn hv
      obtain ⟨device, sent, calls⟩ := w
      cases hturn with
      | claimed object accepted =>
          exact h.mp (claim_iff.mp accepted).1.unclaimed
      | _ => simp at hv

/-! ## The headline -/

/-- Boot agrees exactly when it left no session keys. -/
theorem boot_agrees {cfg : BootConfig} {env : E} {d : Device E}
    (hstart : odInit ed cfg env = some d) :
    Agrees d ↔ haveSessionKeys d.server.sod.keys = false := by
  obtain ⟨constOd, registry, keys, -, -, -, rfl⟩ := odInit_cases hstart
  show (true = true ↔ commissioningByte (bootStage keys) = 0x00) ↔ haveSessionKeys keys = false
  unfold bootStage
  cases haveSessionKeys keys with
  | false => simp [commissioningByte]
  | true => simp [commissioningByte]

theorem boot_unowned {cfg : BootConfig} {env : E} {d : Device E}
    (hstart : odInit ed cfg env = some d) : d.asym.ownerSet = false := by
  obtain ⟨constOd, registry, keys, -, -, -, rfl⟩ := odInit_cases hstart
  rfl

theorem settled_step (n : Node E) (a : NodeInput E) (h : Settled n.device)
    (hfirst : ClaimedFirst gcm plat deviceId n a) :
    Settled (nodeStep gcm ed plat deviceId n a).device := by
  cases a with
  | request client dataId req => exact settled_request h hfirst
  | platform env => exact h.same rfl rfl rfl

/-- **The stage and the flag, exactly.**  From every start configuration and along every run
    the two agree in every state, and every accepted claim finds the device reporting
    UNCOMMISSIONED, if and only if the device booted without session keys and no key-set
    write moves the stage while the device is unclaimed. -/
theorem agreement_iff (gcm : Gcm) (ed : Ed25519) (plat : DevicePlatform E) (deviceId : UInt16)
    (cfg : BootConfig) (env : E) (d : Device E) (hstart : odInit ed cfg env = some d)
    (inputs : List (NodeInput E)) :
    CommissioningLaw gcm ed plat deviceId d inputs ↔
      haveSessionKeys d.server.sod.keys = false ∧
        Along (nodeStep gcm ed plat deviceId) (ClaimedFirst gcm plat deviceId) ⟨d, []⟩ inputs := by
  constructor
  · rintro ⟨hboot, hagrees, -⟩
    exact ⟨(boot_agrees hstart).mp hboot,
      along_imp (I := fun _ => True) (fun _ _ _ _ => trivial)
        (fun _ _ _ hafter => claimedFirst_of_agrees hafter) trivial hagrees⟩
  · rintro ⟨hkeys, hfirst⟩
    have hboot := (boot_agrees hstart).mpr hkeys
    have hsettled : Settled d := ⟨hboot, fun h => by rw [boot_unowned hstart] at h; cases h⟩
    exact ⟨hboot,
      along_imp (I := fun n => Settled n.device) settled_step
        (fun n a h hf => (settled_step n a h hf).agrees) hsettled hfirst,
      along_imp (I := fun n => Settled n.device) settled_step
        (fun n a h _ => stepClaims_of_agrees h.agrees a) hsettled hfirst⟩

/-! ## Worked runs -/

/-- `agreement_iff` on a device that boots without keys, is claimed, decommissioned, and
    claimed again. -/
theorem sampleReclaimed_agrees :
    CommissioningLaw sampleGcm sampleEd samplePlatform sampleNodeId sampleBare sampleReclaimed :=
  (agreement_iff sampleGcm sampleEd samplePlatform sampleNodeId {} { nonces := [sampleNonce 1] }
    sampleBare (Option.some_get _).symm sampleReclaimed).mpr
    ⟨by decide +kernel, fun _ h => absurd h.1 (by decide), fun _ h => absurd h.1 (by decide),
      fun _ h => absurd h.1 (by decide), fun _ h => absurd h.1 (by decide),
      fun _ h => absurd h.1 (by decide), trivial⟩

/-- The demo device, with the demo keys. -/
def sampleKeyed : Device SampleEnv :=
  (odInit sampleEd { demoKeys := true } {}).get (by decide +kernel)

/-- **A claim on a commissioned device.**  Booted with the demo keys, it reports
    COMMISSIONED, and the voucher that comes next is accepted. -/
theorem commissioned_claim :
    (serveRequest sampleGcm sampleEd samplePlatform sampleNodeId sampleKeyed 20
      statCommissioningId []).sent = [⟨20, statCommissioningId, abortNone, [0x01]⟩] ∧
    (serveRequest sampleGcm sampleEd samplePlatform sampleNodeId sampleKeyed 20 hoVoucherId
      (sampleVoucher 5)).calls = [.claim (sampleVoucher 5) true] ∧
    ¬ CommissioningLaw sampleGcm sampleEd samplePlatform sampleNodeId sampleKeyed
      [.request 20 hoVoucherId (sampleVoucher 5)] := by
  have hcalls : (serveRequest sampleGcm sampleEd samplePlatform sampleNodeId sampleKeyed 20
      hoVoucherId (sampleVoucher 5)).calls = [.claim (sampleVoucher 5) true] := by decide +kernel
  have hstage : commissioning sampleKeyed = 0x01 := by decide +kernel
  refine ⟨by decide +kernel, hcalls, fun hlaw => ?_⟩
  have hreports := hlaw.claims.1 ⟨sampleVoucher 5, by rw [hcalls]; exact List.mem_singleton_self _⟩
  rw [reports_iff, hstage] at hreports
  exact absurd hreports (by decide)

end SofaCommissioning
