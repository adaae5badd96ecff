import Sofa.WriteFrames

/-! # The handlers, executed

    Each handler of the secure OD, run to the end on a request that passes its checks: the
    result it returns, the slot it leaves, the host after it, and the calls it made. -/

namespace SofaExec

open ByteBlock SofaConfig SofaAead SofaOd SofaMoves SofaServer SofaWrites SofaWriteFrames StateWp

variable {H : Type} {gcm : Gcm} {P : Ports H} {s : Sod} {host : H} {idx : Fin sodMaxEntries}
  {entry : SodEntry} {client : UInt16} {req : List UInt8} {key : Key} {plain : List UInt8}

/-! ## Calls with a known answer -/

section Answers

variable {w : World H} {host' : H}

theorem wp_access_of {Q : Bool → World H → Prop} {op : Op} {d : UInt32} {ok : Bool}
    (h : P.accessAllowed op d w.host = (ok, host')) :
    wp (portAccessAllowed P op d) Q w ↔
      Q ok ⟨w.sod, host', w.log ++ [.accessAllowed op d ok]⟩ := by
  simp [wp, portAccessAllowed, h]

theorem wp_role_of {Q : Bool → World H → Prop} {op : Op} {b : UInt8} {d : UInt32} {ok : Bool}
    (h : P.roleAllowed op b d w.host = (ok, host')) :
    wp (portRoleAllowed P op b d) Q w ↔
      Q ok ⟨w.sod, host', w.log ++ [.roleAllowed op b d ok]⟩ := by
  simp [wp, portRoleAllowed, h]

theorem wp_readBefore_of {Q : Abort × List UInt8 → World H → Prop} {d : UInt32} {rc : Abort}
    (h : P.readBefore d w.host = ((rc, plain), host')) :
    wp (portReadBefore P d) Q w ↔
      Q (rc, plain) ⟨w.sod, host', w.log ++ [.readBefore d rc plain]⟩ := by
  simp [wp, portReadBefore, h]

theorem wp_random_of {Q : Option Rand → World H → Prop} {r : Option Rand}
    (h : P.random w.host = (r, host')) :
    wp (portRandom P) Q w ↔ Q r ⟨w.sod, host', w.log ++ [.random r]⟩ := by
  simp [wp, portRandom, h]

theorem wp_time_of {Q : UInt16 → World H → Prop} :
    wp (portTime P) Q w ↔ Q (P.timeMs w.host).1
      ⟨w.sod, (P.timeMs w.host).2, w.log ++ [.time (P.timeMs w.host).1]⟩ := Iff.rfl

theorem wp_slotIsFresh_of {Q : Bool → World H → Prop} {armedAt : UInt16} :
    wp (slotIsFresh P armedAt) Q w ↔ Q (ageWithin (P.timeMs w.host).1 armedAt challengeTimeoutMs)
      ⟨w.sod, (P.timeMs w.host).2, w.log ++ [.time (P.timeMs w.host).1]⟩ := Iff.rfl

theorem wp_sessionIsFresh_of {Q : Bool → World H → Prop} {armedAt : UInt16} :
    wp (sessionIsFresh P armedAt) Q w ↔
      Q (ageWithin (P.timeMs w.host).1 armedAt sessionIdleTimeoutMs)
        ⟨w.sod, (P.timeMs w.host).2, w.log ++ [.time (P.timeMs w.host).1]⟩ := Iff.rfl

theorem wp_seal_of {Q : Option (List UInt8 × Tag) → World H → Prop} {c : AeadCall}
    {out : Option (List UInt8 × Tag)} (h : aeadSeal gcm c plain = out) :
    wp (callSeal gcm c plain) Q w ↔
      Q out ⟨w.sod, w.host, w.log ++ [.aeadSeal c plain out]⟩ := by
  simp [wp, callSeal, h]

/-- A slot that is free is held by nobody. -/
theorem wp_slotHeldByOther_free {Q : Bool → World H → Prop} {cyclic : Bool}
    {owner armedAt : UInt16} :
    wp (slotHeldByOther P false cyclic owner armedAt client) Q w ↔ Q false w := Iff.rfl

/-- A slot that no other client holds. -/
theorem wp_slotHeldByOther_own {Q : Bool → World H → Prop} {inUse cyclic : Bool}
    {owner armedAt : UInt16} (h : inUse = true → owner = client) :
    wp (slotHeldByOther P inUse cyclic owner armedAt client) Q w ↔ Q false w := by
  have hown : (!inUse || owner == client) = true := by
    cases inUse with
    | false => rfl
    | true =>
        rw [h rfl]
        simp
  rw [slotHeldByOther, if_pos hown]
  exact Iff.rfl

end Answers

/-! ## The read side -/

/-- The hooks grant a read of the entry under the key and produce `plain`, from `host`
    on to `host'`. -/
def ReadGranted (P : Ports H) (entry : SodEntry) (base : UInt8) (host : H)
    (plain : List UInt8) (host' : H) : Prop :=
  ∃ h₁ h₂, P.accessAllowed .read entry.dataId host = (true, h₁) ∧
    P.roleAllowed .read base entry.dataId h₁ = (true, h₂) ∧
    P.readBefore entry.dataId h₂ = ((abortNone, plain), host')

/-- The calls of a read that is granted. -/
def readLog (entry : SodEntry) (base : UInt8) (plain : List UInt8) : List Event :=
  [.accessAllowed .read entry.dataId true, .roleAllowed .read base entry.dataId true,
    .readBefore entry.dataId abortNone plain]

/-- **A read challenge that is granted.** -/
theorem armRead_exec {sr : Rand} {cipher : List UInt8} {tag : Tag} {h₁ h₂ : H}
    (reserved : keyidReserved (reqHead req) = 0)
    (binding : entry.acceptsKey (keyidBase (reqHead req)) = true)
    (installed : s.keys.getKey (keyidBase (reqHead req)) = some key)
    (idle : (s.readSlot idx).inUse = false) (full : plain.length = entry.dataLen)
    (granted : ReadGranted P entry (keyidBase (reqHead req)) host plain h₁)
    (random : P.random h₁ = (some sr, h₂))
    (sealed : aeadSeal gcm (readArmCall P client entry req key sr) plain = some (cipher, tag)) :
    armReadResponse gcm P idx entry client req ⟨s, host, []⟩
      = (.defer, ⟨s.setRead idx (armedReadSlot client req sr cipher tag (P.timeMs h₂).1),
          (P.timeMs h₂).2,
          readLog entry (keyidBase (reqHead req)) plain ++ [.random (some sr),
            .aeadSeal (readArmCall P client entry req key sr) plain (some (cipher, tag)),
            .time (P.timeMs h₂).1]⟩) := by
  obtain ⟨g₁, g₂, haccess, hrole, hread⟩ := granted
  have hhead : req.getD 0 0 = reqHead req := rfl
  have hreserved : ¬ (keyidReserved (reqHead req) != 0) = true := by simpa using reserved
  have hfull : ¬ (plain.length != entry.dataLen) = true := by simpa using full
  have hsealed : aeadSeal gcm (serverCall P key (aeadXorNonce (slice 12 1 req) sr)
      dirReadResponse (reqHead req) client entry.dataId (some (slice 12 1 req, sr))) plain =
        some (cipher, tag) := sealed
  apply run_of_wp
  unfold armReadResponse
  simp only [hhead]
  rw [if_neg hreserved, if_neg (by simp [binding]), wp_bind, wp_getKey]
  simp only [installed]
  rw [wp_bind, wp_access_of haccess, if_neg (by decide), wp_bind, wp_role_of hrole,
    if_neg (by decide), wp_bind, wp_getReadSlot, idle, wp_bind, wp_slotHeldByOther_free,
    if_neg (by decide), wp_bind, wp_readBefore_of hread]
  dsimp only
  rw [if_neg (by decide), if_neg hfull, wp_bind, wp_random_of random]
  dsimp only
  rw [wp_bind, wp_setReadSlot, wp_bind, wp_seal_of hsealed]
  dsimp only
  rw [wp_bind, wp_time_of, wp_bind, wp_setReadSlot, wp_pure]
  refine ⟨rfl, ?_⟩
  rw [Sod.setRead_setRead]
  rfl

/-- A prepared reply that is fresh at its fetch. -/
structure Fetchable (P : Ports H) (slot : ReadSlot) (host : H) (replyMax : Nat) : Prop where
  inUse : slot.inUse = true
  ready : slot.prepared ≠ []
  fresh : ageWithin (P.timeMs host).1 slot.armedAt challengeTimeoutMs = true
  fits : slot.prepared.length ≤ replyMax

/-- **The reply of a single-shot read, fetched.** -/
theorem fetch_exec {replyMax : Nat} (hf : Fetchable P (s.readSlot idx) host replyMax)
    (single : (s.readSlot idx).cyclic = false) :
    fetchReadResponse P idx entry replyMax ⟨s, host, []⟩
      = (some (.ok (s.readSlot idx).prepared),
          ⟨s.setRead idx { s.readSlot idx with inUse := false }, (P.timeMs host).2,
            [.time (P.timeMs host).1]⟩) := by
  have hready : (s.readSlot idx).prepared.length > 0 := List.length_pos_iff.mpr hf.ready
  apply run_of_wp
  unfold fetchReadResponse
  rw [wp_bind, wp_getReadSlot]
  simp only [hf.inUse, hready, decide_true, Bool.true_and, if_true]
  rw [wp_bind, wp_slotIsFresh_of, hf.fresh]
  simp only [if_true]
  rw [if_neg (Nat.not_lt.mpr hf.fits)]
  simp only [single]
  rw [if_neg (by decide)]
  exact ⟨rfl, rfl⟩

/-- **A read poll that is granted.** -/
theorem readPoll_exec {replyMax : Nat} {cipher : List UInt8} {tag : Tag} {host' : H}
    (hv : ReadPollChecked s idx entry client req (P.timeMs host).1 key plain)
    (granted : ReadGranted P entry (keyidBase (s.readSlot idx).keyId) (P.timeMs host).2 plain
      host')
    (sealed : aeadSeal gcm (readPollCall P (s.readSlot idx) entry key) plain =
      some (cipher, tag))
    (fits : pollLen entry ≤ replyMax) :
    handleReadPoll gcm P idx entry client req replyMax ⟨s, host, []⟩
      = (.ok (UInt8.ofNat ((s.readSlot idx).counter + 1) :: cipher ++ toList tag),
          ⟨s.setRead idx { s.readSlot idx with
              counter := (s.readSlot idx).counter + 1
              armedAt := (P.timeMs host').1 },
            (P.timeMs host').2,
            .time (P.timeMs host).1 :: readLog entry (keyidBase (s.readSlot idx).keyId) plain
              ++ [.aeadSeal (readPollCall P (s.readSlot idx) entry key) plain
                  (some (cipher, tag)), .time (P.timeMs host').1]⟩) := by
  obtain ⟨g₁, g₂, haccess, hrole, hread⟩ := granted
  have hnext : pollCheckCounter (s.readSlot idx).counter (req.getD 0 0) =
      .ok ((s.readSlot idx).counter + 1) := pollCheckCounter_next hv.budget hv.counter
  have hlive : ¬ ((!(s.readSlot idx).inUse || !(s.readSlot idx).cyclic) = true) := by
    simp [hv.inUse, hv.cyclic]
  have howner : ¬ ((s.readSlot idx).clientDev != client) = true := by simpa using hv.owner
  have hlen : ¬ (req.length != 1) = true := by simpa using hv.len
  have hfull : ¬ (plain.length != entry.dataLen) = true := by simpa using hv.full
  have hsealed : aeadSeal gcm (serverCall P key (buildSessionNonce (s.readSlot idx).nonceBase
      ((s.readSlot idx).counter + 1)) dirReadPollResponse (s.readSlot idx).keyId
      (s.readSlot idx).clientDev entry.dataId none) plain = some (cipher, tag) := sealed
  apply run_of_wp
  unfold handleReadPoll
  rw [wp_bind, wp_getReadSlot, if_neg hlive, if_neg howner, wp_bind, wp_sessionIsFresh_of,
    hv.fresh, if_neg (by decide), if_neg hlen, if_neg (Nat.not_lt.mpr fits)]
  simp only [hnext]
  rw [wp_bind, wp_access_of haccess, if_neg (by decide), wp_bind, wp_role_of hrole,
    if_neg (by decide), wp_bind, wp_readBefore_of hread]
  dsimp only
  rw [if_neg (by decide), if_neg hfull, wp_bind, wp_getKey]
  simp only [hv.installed]
  rw [wp_bind, wp_seal_of hsealed]
  dsimp only
  rw [wp_bind, wp_time_of, wp_bind, wp_setReadSlot, wp_pure]
  exact ⟨rfl, rfl⟩

/-! ## The write side -/

/-- Another client holds the slot: what it began there is still fresh. -/
structure HeldByOther (P : Ports H) (slot : WriteSlot) (client : UInt16) (host : H) : Prop where
  inUse : slot.inUse = true
  other : slot.clientDev ≠ client
  fresh : ageWithin (P.timeMs host).1 slot.armedAt
    (if slot.cyclic then sessionIdleTimeoutMs else challengeTimeoutMs) = true

/-- The check for it leaves the module; at most it reads the clock. -/
structure HeldCheck (P : Ports H) (slot : WriteSlot) (client : UInt16) (w : World H)
    (held : Bool) (h : H) (log : List Event) : Prop where
  run : slotHeldByOther P slot.inUse slot.cyclic slot.clientDev slot.armedAt client w
    = (held, ⟨w.sod, h, w.log ++ log⟩)
  clock : h = w.host ∨ h = (P.timeMs w.host).2

theorem HeldCheck.wp_iff {slot : WriteSlot} {w : World H} {held : Bool} {h : H}
    {log : List Event} (check : HeldCheck P slot client w held h log)
    {Q : Bool → World H → Prop} :
    wp (slotHeldByOther P slot.inUse slot.cyclic slot.clientDev slot.armedAt client) Q w ↔
      Q held ⟨w.sod, h, w.log ++ log⟩ := by
  rw [wp, check.run]

theorem heldCheck_own {slot : WriteSlot} {w : World H}
    (own : slot.inUse = true → slot.clientDev = client) :
    HeldCheck P slot client w false w.host [] := by
  refine ⟨run_of_wp ?_, .inl rfl⟩
  rw [wp_slotHeldByOther_own own, List.append_nil]
  exact ⟨rfl, rfl⟩

/-- **The check decides** whether another client holds the slot. -/
theorem heldCheck_decides (P : Ports H) (slot : WriteSlot) (client : UInt16) (w : World H) :
    ∃ held h log, HeldCheck P slot client w held h log ∧
      (held = true ↔ HeldByOther P slot client w.host) := by
  by_cases own : slot.inUse = true → slot.clientDev = client
  · exact ⟨false, _, _, heldCheck_own own, fun h => absurd h (by decide),
      fun h => absurd (own h.inUse) h.other⟩
  · obtain ⟨inUse, other⟩ := Classical.not_imp.mp own
    have hpast : ¬ (!slot.inUse || slot.clientDev == client) = true := by simp [inUse, other]
    refine ⟨ageWithin (P.timeMs w.host).1 slot.armedAt
        (if slot.cyclic then sessionIdleTimeoutMs else challengeTimeoutMs), _,
      [.time (P.timeMs w.host).1], ⟨?_, .inr rfl⟩, fun h => ⟨inUse, other, h⟩, fun h => h.fresh⟩
    rw [slotHeldByOther, if_neg hpast]
    cases slot.cyclic <;> rfl

/-- **A write challenge that is granted**, on the empty request. -/
theorem armWrite_granted {replyMax : Nat} {sr : Rand} {h₁ h₂ h₃ : H} {log : List Event}
    (access : P.accessAllowed .write entry.dataId host = (true, h₁))
    (random : P.random h₁ = (some sr, h₂))
    (free : HeldCheck P (s.writeSlot idx) client
      ⟨s, h₂, [.accessAllowed .write entry.dataId true, .random (some sr)]⟩ false h₃ log)
    (fits : writeChallengeLen ≤ replyMax) :
    armWriteChallenge P idx entry client none replyMax ⟨s, host, []⟩
      = (.ok (toList sr), ⟨s.setWrite idx (armedWriteSlot client none sr (P.timeMs h₃).1),
          (P.timeMs h₃).2, [.accessAllowed .write entry.dataId true, .random (some sr)] ++ log
            ++ [.time (P.timeMs h₃).1]⟩) := by
  apply run_of_wp
  unfold armWriteChallenge grantWrite
  rw [wp_bind, wp_access_of access, if_neg (by decide), if_neg (Nat.not_lt.mpr fits), wp_bind,
    wp_random_of random]
  dsimp only
  rw [wp_bind, wp_getWriteSlot, wp_bind]
  refine free.wp_iff.mpr ?_
  rw [if_neg (by decide), wp_bind, wp_time_of, wp_bind, wp_setWriteSlot, wp_pure]
  exact ⟨rfl, rfl⟩

/-- **And one that is refused**, for another client's sake. -/
theorem armWrite_held {replyMax : Nat} {sr : Rand} {h₁ h₂ h₃ : H} {log : List Event}
    (access : P.accessAllowed .write entry.dataId host = (true, h₁))
    (random : P.random h₁ = (some sr, h₂))
    (held : HeldCheck P (s.writeSlot idx) client
      ⟨s, h₂, [.accessAllowed .write entry.dataId true, .random (some sr)]⟩ true h₃ log)
    (fits : writeChallengeLen ≤ replyMax) :
    armWriteChallenge P idx entry client none replyMax ⟨s, host, []⟩
      = (.abort abortDeviceState, ⟨s, h₃,
          [.accessAllowed .write entry.dataId true, .random (some sr)] ++ log⟩) := by
  apply run_of_wp
  unfold armWriteChallenge grantWrite
  rw [wp_bind, wp_access_of access, if_neg (by decide), if_neg (Nat.not_lt.mpr fits), wp_bind,
    wp_random_of random]
  dsimp only
  rw [wp_bind, wp_getWriteSlot, wp_bind]
  refine held.wp_iff.mpr ?_
  rw [if_pos rfl, wp_pure]
  exact ⟨rfl, rfl⟩

/-- The calls around a hook call on a frame that verified. -/
def writeLog (now : UInt16) (f : Frame) (d : UInt32) (plain : List UInt8) (kid : UInt8)
    (rc : Abort) : List Event :=
  [.time now, .roleAllowed .write (keyidBase f.call.keyId) d true,
    .aeadOpen f.call f.cipher f.tag (some plain), .writeAfter d plain kid rc]

/-- The module state after a hook call. -/
def wrote (s : Sod) (kid : UInt8) (keys : KeyStore) : Sod :=
  { s with lastWriteKid := kid, keys := keys }

/-- **A Pass-2 frame that verifies.** -/
theorem pass2_exec {Q : SodResult → World H → Prop} {rc : Abort} {keys : KeyStore} {host' : H}
    (hv : Pass2Verifies gcm P s host idx entry req key)
    (hopen : aeadOpen gcm (pass2Call P (s.writeSlot idx) entry req key) (pass2Cipher entry req)
      (pass2Tag entry req) = some plain)
    (hook : P.writeAfter entry.dataId plain (keyidBase (reqHead req)) s.keys
      (hostAtWrite P (keyidBase (reqHead req)) entry.dataId host) = (rc, keys, host'))
    (refused : rc ≠ abortNone → Q (.abort rc)
      ⟨(wrote s (keyidBase (reqHead req)) keys).setWrite idx
          { s.writeSlot idx with keyId := reqHead req, inUse := false }, host',
        writeLog (P.timeMs host).1 (pass2Frame P (s.writeSlot idx) entry req key) entry.dataId
          plain (keyidBase (reqHead req)) rc⟩)
    (once : rc = abortNone → keyidIsCyclic (reqHead req) = false → Q (.ok [])
      ⟨(wrote s (keyidBase (reqHead req)) keys).setWrite idx
          { s.writeSlot idx with keyId := reqHead req, inUse := false }, host',
        writeLog (P.timeMs host).1 (pass2Frame P (s.writeSlot idx) entry req key) entry.dataId
          plain (keyidBase (reqHead req)) abortNone⟩)
    (cyclic : rc = abortNone → keyidIsCyclic (reqHead req) = true → Q (.ok [])
      ⟨(wrote s (keyidBase (reqHead req)) keys).setWrite idx
          { s.writeSlot idx with
            inUse := true
            cyclic := true
            keyId := reqHead req
            nonceBase := aeadXorNonce (reqRandom req) (s.writeSlot idx).serverRandom
            counter := 0
            armedAt := (P.timeMs host').1 }, (P.timeMs host').2,
        writeLog (P.timeMs host).1 (pass2Frame P (s.writeSlot idx) entry req key) entry.dataId
          plain (keyidBase (reqHead req)) abortNone ++ [.time (P.timeMs host').1]⟩) :
    wp (verifyAndApplyWrite gcm P idx entry req) Q ⟨s, host, []⟩ := by
  have hhead : req.getD 0 0 = reqHead req := rfl
  have hreserved : (keyidReserved (reqHead req) != 0) = false := by simpa using hv.reserved
  have hlen : (req.length != pass2Len entry) = false := by simpa using hv.len
  unfold verifyAndApplyWrite
  simp only [wp_ite, wp_pure, wp_bind, wp_getWriteSlot, wp_slotIsFresh, wp_setWriteSlot,
    List.nil_append, hhead, hv.inUse, hlen, hreserved, hv.binding]
  refine ⟨fun h => absurd h (by decide), fun _ now host₁ hclock => ?_⟩
  obtain rfl : (P.timeMs host).1 = now := congrArg (·.1) hclock
  obtain rfl : (P.timeMs host).2 = host₁ := congrArg (·.2) hclock
  rw [hv.fresh]
  refine ⟨fun h => absurd h (by decide), fun _ => ⟨fun h => absurd h (by decide), fun _ =>
    ⟨fun h => absurd h (by decide), fun _ => ⟨fun h => absurd h (by decide), fun _ => ?_⟩⟩⟩⟩
  simp only [wp_getKey, hv.installed, wp_bind, wp_portRoleAllowed, wp_ite, wp_setWriteSlot,
    wp_pure, List.cons_append, List.nil_append]
  intro role host₂ hrole
  obtain rfl : true = role := hv.allowed.symm.trans (congrArg (·.1) hrole)
  obtain rfl : hostAtWrite P (keyidBase (reqHead req)) entry.dataId host = host₂ :=
    congrArg (·.2) hrole
  refine ⟨fun h => absurd h (by decide), fun _ => ?_⟩
  simp only [wp_callOpen]
  intro out hout
  obtain rfl : some plain = out := hopen.symm.trans hout
  simp only [wp_bind, wp_setLastWriteKid, wp_portWriteAfter, wp_ite, wp_setWriteSlot, wp_pure,
    wp_portTime, List.cons_append, List.nil_append]
  intro rc' keys' host₃ hook'
  obtain ⟨rfl, rfl, rfl⟩ : rc = rc' ∧ keys = keys' ∧ host' = host₃ := by
    have h := hook.symm.trans hook'
    simpa using h
  refine ⟨fun hrc => refused (by simpa using hrc), fun hrc => ?_⟩
  obtain rfl : rc = abortNone := by simpa using hrc
  refine ⟨fun hcyc now' host₄ hclock' => ?_, fun hcyc => once rfl (by simpa using hcyc)⟩
  obtain rfl : (P.timeMs host').1 = now' := congrArg (·.1) hclock'
  obtain rfl : (P.timeMs host').2 = host₄ := congrArg (·.2) hclock'
  exact cyclic rfl hcyc

/-- **A write poll that verifies.** -/
theorem writePoll_exec {Q : SodResult → World H → Prop} {rc : Abort} {keys : KeyStore} {host' : H}
    (hv : WritePollVerifies gcm P s host idx entry client req key)
    (hopen : aeadOpen gcm (writePollCall P (s.writeSlot idx) entry key)
      (writePollCipher entry req) (writePollTag entry req) = some plain)
    (hook : P.writeAfter entry.dataId plain s.lastWriteKid s.keys
      (hostAtWrite P (keyidBase (s.writeSlot idx).keyId) entry.dataId host) = (rc, keys, host'))
    (refused : rc ≠ abortNone → Q (.abort rc) ⟨wrote s s.lastWriteKid keys, host',
      writeLog (P.timeMs host).1 (writePollFrame P (s.writeSlot idx) entry req key) entry.dataId
        plain s.lastWriteKid rc⟩)
    (applied : rc = abortNone → Q (.ok [])
      ⟨(wrote s s.lastWriteKid keys).setWrite idx
          { s.writeSlot idx with
            inUse := true
            cyclic := true
            counter := (s.writeSlot idx).counter + 1
            armedAt := (P.timeMs host').1 }, (P.timeMs host').2,
        writeLog (P.timeMs host).1 (writePollFrame P (s.writeSlot idx) entry req key) entry.dataId
          plain s.lastWriteKid abortNone ++ [.time (P.timeMs host').1]⟩) :
    wp (handleWritePoll gcm P idx entry client req) Q ⟨s, host, []⟩ := by
  have hnext : pollCheckCounter (s.writeSlot idx).counter (req.getD 0 0) = .ok _ :=
    pollCheckCounter_next hv.budget hv.counter
  have howner : ((s.writeSlot idx).clientDev != client) = false := by simpa using hv.owner
  have hlen : (req.length != pollLen entry) = false := by simpa using hv.len
  unfold handleWritePoll
  simp only [wp_ite, wp_pure, wp_bind, wp_getWriteSlot, wp_sessionIsFresh, wp_setWriteSlot,
    List.nil_append, hv.inUse, hv.cyclic, howner, hlen, hnext]
  refine ⟨fun h => absurd h (by decide), fun _ => ⟨fun h => absurd h (by decide),
    fun _ now host₁ hclock => ?_⟩⟩
  obtain rfl : (P.timeMs host).1 = now := congrArg (·.1) hclock
  obtain rfl : (P.timeMs host).2 = host₁ := congrArg (·.2) hclock
  rw [hv.fresh]
  refine ⟨fun h => absurd h (by decide), fun _ => ⟨fun h => absurd h (by decide), fun _ => ?_⟩⟩
  simp only [wp_bind, wp_portRoleAllowed, wp_ite, wp_pure, List.cons_append, List.nil_append]
  intro role host₂ hrole
  obtain rfl : true = role := hv.allowed.symm.trans (congrArg (·.1) hrole)
  obtain rfl : hostAtWrite P (keyidBase (s.writeSlot idx).keyId) entry.dataId host = host₂ :=
    congrArg (·.2) hrole
  refine ⟨fun h => absurd h (by decide), fun _ => ?_⟩
  simp only [wp_getKey, hv.installed, wp_bind, wp_callOpen, List.cons_append, List.nil_append]
  intro out hout
  obtain rfl : some plain = out := hopen.symm.trans hout
  simp only [wp_bind, wp_portWriteAfter, wp_ite, wp_setWriteSlot, wp_pure, wp_portTime,
    List.cons_append, List.nil_append]
  intro rc' keys' host₃ hook'
  obtain ⟨rfl, rfl, rfl⟩ : rc = rc' ∧ keys = keys' ∧ host' = host₃ := by
    have h := hook.symm.trans hook'
    simpa using h
  refine ⟨fun hrc => refused (by simpa using hrc), fun hrc now' host₄ hclock' => ?_⟩
  obtain rfl : rc = abortNone := by simpa using hrc
  obtain rfl : (P.timeMs host').1 = now' := congrArg (·.1) hclock'
  obtain rfl : (P.timeMs host').2 = host₄ := congrArg (·.2) hclock'
  exact applied rfl

/-! ## Which handler a request reaches -/

section Dispatch

variable {w : World H} {dataId : UInt32} {replyMax : Nat}

theorem dispatch_readChallenge (hf : w.sod.registry.find dataId = some (idx, entry))
    (hro : entry.hasRo = true) (hlen : req.length = readChallengeLen) :
    sodDispatch gcm P client dataId req replyMax w
      = armReadResponse gcm P idx entry client req w := by
  have hthirteen : req.length = 13 := hlen
  simp only [sodDispatch, hf]
  rw [if_neg (by simp [hthirteen]), if_neg (by simp [hthirteen, pollLen_eq])]
  simp only [dispatchRead, hro, if_true, hthirteen]
  rfl

theorem dispatch_fetch {w' : World H} {r : SodResult}
    (hf : w.sod.registry.find dataId = some (idx, entry)) (hro : entry.hasRo = true)
    (hfetch : fetchReadResponse P idx entry replyMax w = (some r, w')) :
    sodDispatch gcm P client dataId [] replyMax w = (r, w') := by
  simp only [sodDispatch, hf]
  rw [if_neg (by simp), if_neg (by simp [pollLen_eq])]
  apply run_of_wp
  unfold dispatchRead
  rw [if_pos hro, if_neg (by simp), if_pos (by simp), wp_bind]
  show wp _ _ w
  unfold wp
  rw [hfetch]
  exact ⟨rfl, rfl⟩

theorem dispatch_writeChallenge (hf : w.sod.registry.find dataId = some (idx, entry))
    (hwo : entry.hasWo = true)
    (idle : entry.hasRo = true → (w.sod.readSlot idx).inUse = false) :
    sodDispatch gcm P client dataId [] replyMax w
      = armWriteChallenge P idx entry client none replyMax w := by
  simp only [sodDispatch, hf]
  rw [if_neg (by simp), if_neg (by simp [pollLen_eq])]
  apply run_of_wp
  have hwrite : wp (dispatchWrite gcm P idx entry client [] replyMax)
      (fun r t => r = (armWriteChallenge P idx entry client none replyMax w).1 ∧
        t = (armWriteChallenge P idx entry client none replyMax w).2) w := by
    simp only [dispatchWrite, hwo, if_true]
    exact ⟨rfl, rfl⟩
  unfold dispatchRead
  rw [wp_ite]
  refine ⟨fun hro => ?_, fun _ => hwrite⟩
  have hfetch : fetchReadResponse P idx entry replyMax w = (none, w) := by
    apply run_of_wp
    unfold fetchReadResponse
    rw [wp_bind, wp_getReadSlot]
    simp only [idle hro, Bool.false_and, Bool.false_eq_true, if_false, hwo, Bool.not_true]
    exact ⟨rfl, rfl⟩
  rw [if_neg (by simp), if_pos (by simp), wp_bind]
  unfold wp
  rw [hfetch]
  exact hwrite

theorem dispatch_pass2 (hf : w.sod.registry.find dataId = some (idx, entry))
    (hwo : entry.hasWo = true) (hlen : req.length = pass2Len entry) :
    sodDispatch gcm P client dataId req replyMax w = verifyAndApplyWrite gcm P idx entry req w := by
  have hbytes : req.length = entry.dataLen + 29 := hlen.trans (pass2Len_eq entry)
  have hthirteen : ¬ (req.length == readChallengeLen) = true := by
    show ¬ (req.length == 13) = true
    simp only [hbytes, beq_iff_eq]
    omega
  have hwrite : dispatchWrite gcm P idx entry client req replyMax w =
      verifyAndApplyWrite gcm P idx entry req w := by
    simp only [dispatchWrite, hwo, if_true]
    rw [if_neg (by simp [hbytes]), if_neg (by simp [hbytes])]
  simp only [sodDispatch, hf]
  rw [if_neg (by simp [hbytes]), if_neg (by simp [hbytes, pollLen_eq])]
  unfold dispatchRead
  by_cases hro : entry.hasRo = true
  · rw [if_pos hro, if_neg hthirteen, if_neg (by simp [hbytes]), if_neg (by simp [hwo])]
    exact hwrite
  · rw [if_neg hro]
    exact hwrite

theorem dispatch_readPoll (hf : w.sod.registry.find dataId = some (idx, entry))
    (hro : entry.hasRo = true) (hlen : req.length = 1)
    (live : (w.sod.readSlot idx).inUse = true) (cyclic : (w.sod.readSlot idx).cyclic = true) :
    sodDispatch gcm P client dataId req replyMax w
      = handleReadPoll gcm P idx entry client req replyMax w := by
  simp only [sodDispatch, hf]
  rw [if_pos (by simp [hro, hlen, live, cyclic])]

theorem dispatch_writePoll (hf : w.sod.registry.find dataId = some (idx, entry))
    (hwo : entry.hasWo = true) (hlen : req.length = pollLen entry)
    (live : (w.sod.writeSlot idx).inUse = true) (cyclic : (w.sod.writeSlot idx).cyclic = true) :
    sodDispatch gcm P client dataId req replyMax w
      = handleWritePoll gcm P idx entry client req w := by
  simp only [sodDispatch, hf]
  rw [if_neg (by simp [hlen, pollLen_eq]), if_pos (by simp [hwo, hlen, live, cyclic])]

end Dispatch

end SofaExec
