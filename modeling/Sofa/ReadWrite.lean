import Sofa.Honest
import Sofa.Lib.Twin

/-! # The two flows of a read-write entry

    An entry may be registered for secure reads and for secure writes at once.  The empty
    and the one-byte request are legal in both flows, and the state of the read slot breaks
    the tie: an empty request takes a fresh reply that waits there, a one-byte request polls
    a cyclic session that is live there, and every other request but a read challenge goes
    to the write flow.

    Outside the tie the flows do not meet.  **`flows_apart`**: along every run of requests
    of one flow, the entry answers, calls its hooks and ends as an entry of that flow alone
    would, whatever stands in the other flow's slots, and leaves those as they are. -/

namespace SofaReadWrite

open ByteBlock SofaConfig SofaAead SofaOd SofaMoves SofaServer SofaExec SofaHonest StateWp TwoRuns

variable {H : Type} {gcm : Gcm} {P : Ports H}

/-! ## What one flow does not see -/

/-- Another registry, and other read slots. -/
def hideReads (R : Registry) (f : Fin sodMaxEntries → ReadSlot) (w : World H) : World H :=
  { w with sod := { w.sod with registry := R, readSlot := f } }

/-- Another registry, and other write slots. -/
def hideWrites (R : Registry) (f : Fin sodMaxEntries → WriteSlot) (w : World H) : World H :=
  { w with sod := { w.sod with registry := R, writeSlot := f } }

@[simp] theorem hideReads_self (w : World H) : hideReads w.sod.registry w.sod.readSlot w = w := rfl

@[simp] theorem hideWrites_self (w : World H) :
    hideWrites w.sod.registry w.sod.writeSlot w = w := rfl

/-- What is its own twin whatever the read slots hold leaves them alone. -/
theorem twin_keeps_reads {α : Type} {m : SodM H α} {w : World H}
    (h : Twin (hideReads w.sod.registry w.sod.readSlot) m m w) :
    (m w).2.sod.readSlot = w.sod.readSlot ∧ (m w).2.sod.registry = w.sod.registry := by
  obtain ⟨-, hstate⟩ := twin_run h
  rw [hideReads_self] at hstate
  rw [hstate]
  exact ⟨rfl, rfl⟩

theorem twin_keeps_writes {α : Type} {m : SodM H α} {w : World H}
    (h : Twin (hideWrites w.sod.registry w.sod.writeSlot) m m w) :
    (m w).2.sod.writeSlot = w.sod.writeSlot ∧ (m w).2.sod.registry = w.sod.registry := by
  obtain ⟨-, hstate⟩ := twin_run h
  rw [hideWrites_self] at hstate
  rw [hstate]
  exact ⟨rfl, rfl⟩

/-! ## The write flow -/

section Writes

variable {R : Registry} {f : Fin sodMaxEntries → ReadSlot} {w : World H}
  {idx : Fin sodMaxEntries} {entry : SodEntry} {clientDev : UInt16} {req : List UInt8}

theorem slotHeldByOther_hideReads {inUse cyclic : Bool} {owner armedAt dev : UInt16} :
    Twin (hideReads R f) (slotHeldByOther P inUse cyclic owner armedAt dev)
      (slotHeldByOther P inUse cyclic owner armedAt dev) w := by
  unfold slotHeldByOther sessionIsFresh slotIsFresh
  refine twin_ite (fun _ => twin_pure _) fun _ => ?_
  exact twin_ite (fun _ => twin_bind rfl (twin_pure _)) fun _ => twin_bind rfl (twin_pure _)

theorem grantWrite_hideReads {kid : Option UInt8} {replyMax : Nat} :
    Twin (hideReads R f) (grantWrite P idx clientDev kid replyMax)
      (grantWrite P idx clientDev kid replyMax) w := by
  unfold grantWrite
  refine twin_ite (fun _ => twin_pure _) fun _ => twin_bind rfl ?_
  split
  · refine twin_bind rfl (twin_bind slotHeldByOther_hideReads ?_)
    exact twin_ite (fun _ => twin_pure _) fun _ => rfl
  · exact twin_pure _

theorem armWriteChallenge_apart {kid : Option UInt8} {replyMax : Nat} :
    Twin (hideReads R f) (armWriteChallenge P idx entry clientDev kid replyMax)
      (armWriteChallenge P idx entry clientDev kid replyMax) w := by
  unfold armWriteChallenge
  refine twin_bind rfl (twin_ite (fun _ => twin_pure _) fun _ => ?_)
  cases kid with
  | none => exact grantWrite_hideReads
  | some kid =>
      -- the checks of a cyclic arming
      refine twin_ite (fun _ => twin_pure _) fun _ => twin_ite (fun _ => twin_pure _) fun _ => ?_
      refine twin_ite (fun _ => twin_pure _) fun _ => twin_bind rfl ?_
      refine twin_ite (fun _ => twin_pure _) fun _ => twin_bind rfl ?_
      exact twin_ite (fun _ => twin_pure _) fun _ => grantWrite_hideReads

theorem verifyAndApplyWrite_apart :
    Twin (hideReads R f) (verifyAndApplyWrite gcm P idx entry req)
      (verifyAndApplyWrite gcm P idx entry req) w := by
  unfold verifyAndApplyWrite slotIsFresh
  refine twin_bind rfl (twin_ite (fun _ => twin_pure _) fun _ => ?_)
  refine twin_bind (twin_bind rfl (twin_pure _)) (twin_ite (fun _ => rfl) fun _ => ?_)
  refine twin_ite (fun _ => rfl) fun _ => twin_ite (fun _ => rfl) fun _ => ?_
  refine twin_ite (fun _ => rfl) fun _ => twin_bind rfl ?_
  split
  · refine twin_bind rfl (twin_ite (fun _ => rfl) fun _ => twin_bind rfl ?_)
    split
    · refine twin_bind rfl (twin_bind rfl (twin_ite (fun _ => rfl) fun _ => ?_))
      exact twin_ite (fun _ => rfl) fun _ => rfl
    · rfl
  · rfl

theorem handleWritePoll_apart :
    Twin (hideReads R f) (handleWritePoll gcm P idx entry clientDev req)
      (handleWritePoll gcm P idx entry clientDev req) w := by
  unfold handleWritePoll sessionIsFresh
  refine twin_bind rfl (twin_ite (fun _ => twin_pure _) fun _ => ?_)
  refine twin_ite (fun _ => twin_pure _) fun _ => ?_
  refine twin_bind (twin_bind rfl (twin_pure _)) (twin_ite (fun _ => rfl) fun _ => ?_)
  refine twin_ite (fun _ => twin_pure _) fun _ => ?_
  split
  · exact twin_ite (fun _ => rfl) fun _ => twin_pure _
  · refine twin_bind rfl (twin_ite (fun _ => twin_pure _) fun _ => twin_bind rfl ?_)
    split
    · refine twin_bind rfl ?_
      split
      · refine twin_bind rfl (twin_ite (fun _ => twin_pure _) fun _ => rfl)
      · exact twin_pure _
    · exact twin_pure _

end Writes

/-! ## The read flow -/

section Reads

variable {R : Registry} {f : Fin sodMaxEntries → WriteSlot} {w : World H}
  {idx : Fin sodMaxEntries} {entry : SodEntry} {clientDev : UInt16} {req : List UInt8}

theorem slotHeldByOther_hideWrites {inUse cyclic : Bool} {owner armedAt dev : UInt16} :
    Twin (hideWrites R f) (slotHeldByOther P inUse cyclic owner armedAt dev)
      (slotHeldByOther P inUse cyclic owner armedAt dev) w := by
  unfold slotHeldByOther sessionIsFresh slotIsFresh
  refine twin_ite (fun _ => twin_pure _) fun _ => ?_
  exact twin_ite (fun _ => twin_bind rfl (twin_pure _)) fun _ => twin_bind rfl (twin_pure _)

theorem armReadResponse_apart :
    Twin (hideWrites R f) (armReadResponse gcm P idx entry clientDev req)
      (armReadResponse gcm P idx entry clientDev req) w := by
  unfold armReadResponse
  refine twin_ite (fun _ => twin_pure _) fun _ => twin_ite (fun _ => twin_pure _) fun _ => ?_
  refine twin_bind rfl ?_
  split
  · refine twin_bind rfl (twin_ite (fun _ => twin_pure _) fun _ => twin_bind rfl ?_)
    refine twin_ite (fun _ => twin_pure _) fun _ => twin_bind rfl ?_
    refine twin_bind slotHeldByOther_hideWrites (twin_ite (fun _ => twin_pure _) fun _ => ?_)
    refine twin_bind rfl (twin_ite (fun _ => twin_pure _) fun _ => ?_)
    refine twin_ite (fun _ => twin_pure _) fun _ => twin_bind rfl ?_
    split
    · refine twin_bind rfl (twin_bind rfl ?_)
      split
      · rfl
      · exact twin_pure _
    · exact twin_pure _
  · exact twin_pure _

theorem handleReadPoll_apart {replyMax : Nat} :
    Twin (hideWrites R f) (handleReadPoll gcm P idx entry clientDev req replyMax)
      (handleReadPoll gcm P idx entry clientDev req replyMax) w := by
  unfold handleReadPoll sessionIsFresh
  refine twin_bind rfl (twin_ite (fun _ => twin_pure _) fun _ => ?_)
  refine twin_ite (fun _ => twin_pure _) fun _ => ?_
  refine twin_bind (twin_bind rfl (twin_pure _)) (twin_ite (fun _ => rfl) fun _ => ?_)
  refine twin_ite (fun _ => twin_pure _) fun _ => twin_ite (fun _ => twin_pure _) fun _ => ?_
  split
  · exact twin_ite (fun _ => rfl) fun _ => twin_pure _
  · refine twin_bind rfl (twin_ite (fun _ => twin_pure _) fun _ => twin_bind rfl ?_)
    refine twin_ite (fun _ => twin_pure _) fun _ => twin_bind rfl ?_
    refine twin_ite (fun _ => twin_pure _) fun _ => twin_ite (fun _ => twin_pure _) fun _ => ?_
    refine twin_bind rfl ?_
    split
    · refine twin_bind rfl ?_
      split
      · rfl
      · exact twin_pure _
    · exact twin_pure _

end Reads

/-! ## Which flow a request belongs to -/

/-- The entry registered for writes only. -/
def writeOnly (entry : SodEntry) : SodEntry :=
  { entry with accessFlags := entry.accessFlags &&& 0xFE }

/-- The entry registered for reads only. -/
def readOnly (entry : SodEntry) : SodEntry :=
  { entry with accessFlags := entry.accessFlags &&& 0xFD }

theorem flag_cleared (flags clear bit : UInt8) (h : clear &&& bit = 0) :
    (flags &&& clear &&& bit != 0) = false := by
  rw [UInt8.and_assoc, h, UInt8.and_zero]
  rfl

theorem flag_kept (flags clear bit : UInt8) (h : clear &&& bit = bit) :
    (flags &&& clear &&& bit != 0) = (flags &&& bit != 0) := by
  rw [UInt8.and_assoc, h]

@[simp] theorem writeOnly_hasRo (entry : SodEntry) : (writeOnly entry).hasRo = false :=
  flag_cleared _ _ _ rfl

@[simp] theorem writeOnly_hasWo (entry : SodEntry) : (writeOnly entry).hasWo = entry.hasWo :=
  flag_kept _ _ _ rfl

@[simp] theorem readOnly_hasRo (entry : SodEntry) : (readOnly entry).hasRo = entry.hasRo :=
  flag_kept _ _ _ rfl

@[simp] theorem readOnly_hasWo (entry : SodEntry) : (readOnly entry).hasWo = false :=
  flag_cleared _ _ _ rfl

/-- A prepared reply stands in the read slot. -/
def waiting (slot : ReadSlot) : Bool := slot.inUse && slot.prepared.length > 0

/-- A cyclic session stands in the read slot. -/
def session (slot : ReadSlot) : Bool := slot.inUse && slot.cyclic

/-- What the next look at the clock says of the age of the slot. -/
def freshAt (P : Ports H) (host : H) (slot : ReadSlot) : Bool :=
  ageWithin (P.timeMs host).1 slot.armedAt challengeTimeoutMs

/-- The requests of the read flow: a challenge, the fetch of a fresh reply that waits, and
    the poll of a session.  Every other request is one of the write flow. -/
def ReadFlow (P : Ports H) (idx : Fin sodMaxEntries) (w : World H) (req : List UInt8) : Prop :=
  req.length = readChallengeLen ∨
  req.length = 0 ∧ waiting (w.sod.readSlot idx) ∧ freshAt P w.host (w.sod.readSlot idx) ∨
  req.length = 1 ∧ session (w.sod.readSlot idx)

instance (P : Ports H) (idx : Fin sodMaxEntries) (w : World H) (req : List UInt8) :
    Decidable (ReadFlow P idx w req) := by
  unfold ReadFlow
  infer_instance

/-- The empty request meets a reply that waits: the clock is read to tell its age. -/
def looks (idx : Fin sodMaxEntries) (w : World H) (req : List UInt8) : Bool :=
  req.length == 0 && waiting (w.sod.readSlot idx)

/-- The fetch of a fresh reply. -/
def takePrepared (P : Ports H) (idx : Fin sodMaxEntries) (replyMax : Nat) :
    SodM H SodResult := do
  let slot ← getReadSlot idx
  let _ ← portTime P
  if slot.prepared.length > replyMax then
    setReadSlot idx { slot with inUse := false }
    return .abort abortInternal
  if slot.cyclic then
    let now ← portTime P
    setReadSlot idx { slot with prepared := [], armedAt := now }
  else
    setReadSlot idx { slot with inUse := false }
  return .ok slot.prepared

/-- What serves the read flow. -/
def dispatchReadFlow (gcm : Gcm) (P : Ports H) (idx : Fin sodMaxEntries) (entry : SodEntry)
    (clientDev : UInt16) (req : List UInt8) (replyMax : Nat) : SodM H SodResult :=
  if req.length = 1 then
    handleReadPoll gcm P idx entry clientDev req replyMax
  else if req.length = readChallengeLen then
    armReadResponse gcm P idx entry clientDev req
  else
    takePrepared P idx replyMax

/-- What serves the write flow. -/
def dispatchWriteFlow (gcm : Gcm) (P : Ports H) (idx : Fin sodMaxEntries) (entry : SodEntry)
    (clientDev : UInt16) (req : List UInt8) (replyMax : Nat) : SodM H SodResult := do
  let slot ← getWriteSlot idx
  if req.length == pollLen entry && slot.inUse && slot.cyclic then
    handleWritePoll gcm P idx entry clientDev req
  else
    dispatchWrite gcm P idx entry clientDev req replyMax

theorem takePrepared_apart {R : Registry} {f : Fin sodMaxEntries → WriteSlot} {w : World H}
    {idx : Fin sodMaxEntries} {replyMax : Nat} :
    Twin (hideWrites R f) (takePrepared P idx replyMax) (takePrepared P idx replyMax) w := by
  unfold takePrepared
  refine twin_bind rfl (twin_bind rfl (twin_ite (fun _ => rfl) fun _ => ?_))
  exact twin_ite (fun _ => rfl) fun _ => rfl

theorem dispatchReadFlow_apart {R : Registry} {f : Fin sodMaxEntries → WriteSlot} {w : World H}
    {idx : Fin sodMaxEntries} {entry : SodEntry} {clientDev : UInt16} {req : List UInt8}
    {replyMax : Nat} :
    Twin (hideWrites R f) (dispatchReadFlow gcm P idx entry clientDev req replyMax)
      (dispatchReadFlow gcm P idx entry clientDev req replyMax) w := by
  unfold dispatchReadFlow
  refine twin_ite (fun _ => handleReadPoll_apart) fun _ => ?_
  exact twin_ite (fun _ => armReadResponse_apart) fun _ => takePrepared_apart

theorem dispatchWriteFlow_apart {R : Registry} {f : Fin sodMaxEntries → ReadSlot} {w : World H}
    {idx : Fin sodMaxEntries} {entry : SodEntry} {clientDev : UInt16} {req : List UInt8}
    {replyMax : Nat} :
    Twin (hideReads R f) (dispatchWriteFlow gcm P idx entry clientDev req replyMax)
      (dispatchWriteFlow gcm P idx entry clientDev req replyMax) w := by
  unfold dispatchWriteFlow dispatchWrite
  refine twin_bind rfl (twin_ite (fun _ => handleWritePoll_apart) fun _ => ?_)
  refine twin_ite (fun _ => ?_) fun _ => twin_pure _
  refine twin_ite (fun _ => armWriteChallenge_apart) fun _ => ?_
  exact twin_ite (fun _ => armWriteChallenge_apart) fun _ => verifyAndApplyWrite_apart

section Dispatch

variable {w : World H} {idx : Fin sodMaxEntries} {entry : SodEntry} {dataId : UInt32}
  {clientDev : UInt16} {req : List UInt8} {replyMax : Nat}

/-- A poll frame carries at least a counter and a tag. -/
theorem pollLen_ge (entry : SodEntry) : 17 ≤ pollLen entry := by
  rw [pollLen_eq]
  omega

/-- The fetch finds a fresh reply. -/
theorem fetch_taken (hwait : waiting (w.sod.readSlot idx) = true)
    (hfresh : freshAt P w.host (w.sod.readSlot idx) = true) :
    fetchReadResponse P idx entry replyMax w
      = (some (takePrepared P idx replyMax w).1, (takePrepared P idx replyMax w).2) := by
  have harmed : ((w.sod.readSlot idx).inUse && decide ((w.sod.readSlot idx).prepared.length > 0))
      = true := hwait
  have hage : ageWithin (P.timeMs w.host).1 (w.sod.readSlot idx).armedAt challengeTimeoutMs
      = true := hfresh
  show wp (takePrepared P idx replyMax) (fun r' t' => wp (fetchReadResponse P idx entry replyMax)
    (fun r t => (r, t) = (some r', t')) w) w
  unfold takePrepared fetchReadResponse
  simp only [wp_bind, wp_getReadSlot, harmed, if_true, wp_slotIsFresh_of, hage, wp_portTime]
  intro now host htime
  rw [htime]
  by_cases hlong : (w.sod.readSlot idx).prepared.length > replyMax
  · rw [if_pos hlong, if_pos hlong]
    rfl
  · rw [if_neg hlong, if_neg hlong]
    by_cases hcyclic : (w.sod.readSlot idx).cyclic = true
    · rw [if_pos hcyclic, if_pos hcyclic]
      rfl
    · rw [if_neg hcyclic, if_neg hcyclic]
      rfl

/-- The fetch finds no fresh reply: at most the clock was read. -/
theorem fetch_declined (hwo : entry.hasWo = true)
    (h : ¬ (waiting (w.sod.readSlot idx) = true ∧
      freshAt P w.host (w.sod.readSlot idx) = true)) :
    fetchReadResponse P idx entry replyMax w
      = (none, if waiting (w.sod.readSlot idx) then (portTime P w).2 else w) := by
  apply run_of_wp
  unfold fetchReadResponse
  rw [wp_bind, wp_getReadSlot]
  by_cases hwait : waiting (w.sod.readSlot idx) = true
  · have harmed : ((w.sod.readSlot idx).inUse &&
        decide ((w.sod.readSlot idx).prepared.length > 0)) = true := hwait
    have hage : ageWithin (P.timeMs w.host).1 (w.sod.readSlot idx).armedAt challengeTimeoutMs
        = false := Bool.eq_false_iff.mpr fun hfresh => h ⟨hwait, hfresh⟩
    simp only [harmed, if_true]
    rw [wp_bind, wp_slotIsFresh_of, hage, if_pos hwait]
    simp only [hwo]
    exact ⟨rfl, rfl⟩
  · have harmed : ((w.sod.readSlot idx).inUse &&
        decide ((w.sod.readSlot idx).prepared.length > 0)) = false := Bool.eq_false_iff.mpr hwait
    rw [if_neg hwait]
    simp only [harmed, hwo]
    exact ⟨rfl, rfl⟩

/-- **A request of the read flow**, on every readable entry. -/
theorem dispatch_read (hfind : w.sod.registry.find dataId = some (idx, entry))
    (hro : entry.hasRo = true) (h : ReadFlow P idx w req) :
    sodDispatch gcm P clientDev dataId req replyMax w
      = dispatchReadFlow gcm P idx entry clientDev req replyMax w := by
  have hpoll := pollLen_ge entry
  simp only [sodDispatch, hfind]
  unfold dispatchReadFlow
  rcases h with hlen | ⟨hlen, hwait, hfresh⟩ | ⟨hlen, hlive⟩
  · have hlen' : req.length = 13 := hlen
    rw [if_neg (by simp [hlen']), if_neg (by simp [hlen']; omega), if_neg (by omega), if_pos hlen]
    unfold dispatchRead
    rw [if_pos hro, if_pos (by simp [hlen])]
  · rw [if_neg (by simp [hlen]), if_neg (by simp [hlen]; omega), if_neg (by omega),
      if_neg (by rw [hlen]; decide)]
    apply run_of_wp
    unfold dispatchRead
    rw [if_pos hro, if_neg (by rw [hlen]; decide), if_pos (by simp [hlen]), wp_bind]
    unfold wp
    rw [fetch_taken hwait hfresh]
    exact ⟨rfl, rfl⟩
  · have hsession : ((w.sod.readSlot idx).inUse && (w.sod.readSlot idx).cyclic) = true := hlive
    rw [if_pos (by simpa [hro, hlen] using hsession), if_pos hlen]

/-- What is not of the read flow falls through to the write branch, after a look at the clock
    where an empty request meets a reply that has gone stale. -/
theorem dispatchRead_falls (hro : entry.hasRo = true) (hwo : entry.hasWo = true)
    (h : ¬ ReadFlow P idx w req) :
    dispatchRead gcm P idx entry clientDev req replyMax w
      = dispatchWrite gcm P idx entry clientDev req replyMax
          (if looks idx w req then (portTime P w).2 else w) := by
  have hchallenge : ¬ (req.length == readChallengeLen) = true := fun hlen =>
    h (.inl (by simpa using hlen))
  apply run_of_wp
  unfold dispatchRead
  rw [if_pos hro, if_neg hchallenge]
  by_cases hempty : req.length = 0
  · have hdeclined : ¬ (waiting (w.sod.readSlot idx) = true ∧
        freshAt P w.host (w.sod.readSlot idx) = true) := fun hw =>
      h (.inr (.inl ⟨hempty, hw.1, hw.2⟩))
    have hlook : looks idx w req = waiting (w.sod.readSlot idx) := by simp [looks, hempty]
    rw [if_pos (by simp [hempty]), wp_bind, hlook]
    unfold wp
    rw [fetch_declined hwo hdeclined]
    exact ⟨rfl, rfl⟩
  · have hlook : looks idx w req = false := by
      unfold looks
      rw [beq_false_of_ne hempty, Bool.false_and]
    rw [if_neg (by rw [beq_false_of_ne hempty]; decide), if_neg (by simp [hwo]), hlook]
    exact ⟨rfl, rfl⟩

/-- The poll matcher of the write flow, before the rest of it. -/
theorem write_matchers (hwo : entry.hasWo = true) :
    (if (entry.hasWo && req.length == pollLen entry && (w.sod.writeSlot idx).inUse &&
          (w.sod.writeSlot idx).cyclic) = true then
        handleWritePoll gcm P idx entry clientDev req w
      else dispatchWrite gcm P idx entry clientDev req replyMax w)
      = dispatchWriteFlow gcm P idx entry clientDev req replyMax w := by
  show _ = (if (req.length == pollLen entry && (w.sod.writeSlot idx).inUse &&
          (w.sod.writeSlot idx).cyclic) = true then
        handleWritePoll gcm P idx entry clientDev req
      else dispatchWrite gcm P idx entry clientDev req replyMax) w
  rw [hwo, Bool.true_and, apply_ite (fun m : SodM H SodResult => m w)]

/-- **A request of the write flow**, on a read-write entry. -/
theorem dispatch_write (hfind : w.sod.registry.find dataId = some (idx, entry))
    (hro : entry.hasRo = true) (hwo : entry.hasWo = true) (h : ¬ ReadFlow P idx w req) :
    sodDispatch gcm P clientDev dataId req replyMax w
      = dispatchWriteFlow gcm P idx entry clientDev req replyMax
          (if looks idx w req then (portTime P w).2 else w) := by
  have hpoll := pollLen_ge entry
  have hnopoll : ¬ (entry.hasRo && req.length == 1 && (w.sod.readSlot idx).inUse &&
      (w.sod.readSlot idx).cyclic) = true := by
    intro hp
    simp only [hro, Bool.true_and, Bool.and_eq_true, beq_iff_eq] at hp
    exact h (.inr (.inr ⟨hp.1.1, by simp [session, hp.1.2, hp.2]⟩))
  simp only [sodDispatch, hfind]
  rw [if_neg hnopoll, dispatchRead_falls hro hwo h]
  by_cases hlook : looks idx w req = true
  · obtain ⟨hempty, -⟩ : (req.length == 0) = true ∧ _ := Bool.and_eq_true_iff.mp hlook
    have hne : ¬ (req.length == pollLen entry) = true := by
      rw [beq_iff_eq] at hempty ⊢
      omega
    rw [if_pos hlook, ← write_matchers hwo, if_neg (by simp [hne]), if_neg (by simp [hne])]
  · rw [if_neg hlook]
    exact write_matchers hwo

/-- A request on an entry that takes only writes. -/
theorem dispatch_write_only (hfind : w.sod.registry.find dataId = some (idx, entry))
    (hro : entry.hasRo = false) (hwo : entry.hasWo = true) :
    sodDispatch gcm P clientDev dataId req replyMax w
      = dispatchWriteFlow gcm P idx entry clientDev req replyMax w := by
  have hskip : dispatchRead gcm P idx entry clientDev req replyMax
      = dispatchWrite gcm P idx entry clientDev req replyMax := by
    unfold dispatchRead
    rw [if_neg (by simp [hro])]
  simp only [sodDispatch, hfind]
  rw [if_neg (by simp [hro]), hskip]
  exact write_matchers hwo

end Dispatch

/-! ## Runs of requests to one entry -/

/-- A request to the entry, and what happens to the host before it comes. -/
structure Request (H : Type) where
  elapse : H → H
  clientDev : UInt16
  req : List UInt8
  replyMax : Nat

/-- The host, when the request comes. -/
def Request.arrive (r : Request H) (w : World H) : World H := { w with host := r.elapse w.host }

/-- One request; `look` is a look at the clock before it. -/
def serveRequest (gcm : Gcm) (P : Ports H) (dataId : UInt32) (look : Bool) (r : Request H) :
    SodM H SodResult := fun w =>
  sodDispatch gcm P r.clientDev dataId r.req r.replyMax
    (if look then (portTime P (r.arrive w)).2 else r.arrive w)

/-- A sequence of requests, with its replies. -/
def serveRequests (gcm : Gcm) (P : Ports H) (dataId : UInt32) :
    List (Bool × Request H) → SodM H (List SodResult)
  | [] => pure []
  | (look, r) :: rs => do
      let reply ← serveRequest gcm P dataId look r
      let replies ← serveRequests gcm P dataId rs
      return reply :: replies

/-- The requests as they come. -/
def asTheyCome (rs : List (Request H)) : List (Bool × Request H) := rs.map fun r => (false, r)

/-- The requests of one flow: `C` holds of the state each of them meets. -/
def FlowRun (gcm : Gcm) (P : Ports H) (dataId : UInt32) (C : World H → List UInt8 → Prop)
    (w : World H) (rs : List (Request H)) : Prop :=
  Machine.Along (fun w r => (serveRequest gcm P dataId false r w).2)
    (fun w r => C (r.arrive w) r.req) w rs

/-- The requests, each after the look at the clock that the read-write entry takes when an
    empty one meets a reply that waits. -/
def withLooks (gcm : Gcm) (P : Ports H) (dataId : UInt32) (idx : Fin sodMaxEntries) :
    World H → List (Request H) → List (Bool × Request H)
  | _, [] => []
  | w, r :: rs => (looks idx (r.arrive w) r.req, r) ::
      withLooks gcm P dataId idx (serveRequest gcm P dataId false r w).2 rs

section Runs

variable {w : World H} {idx : Fin sodMaxEntries} {entry : SodEntry} {dataId : UInt32}
  {R : Registry} {r : Request H} {rs : List (Request H)}

/-- **One request of the write flow**, here and on the entry that takes only writes. -/
theorem write_step {f : Fin sodMaxEntries → ReadSlot}
    (hfind : w.sod.registry.find dataId = some (idx, entry))
    (hro : entry.hasRo = true) (hwo : entry.hasWo = true)
    (hR : R.find dataId = some (idx, writeOnly entry))
    (h : ¬ ReadFlow P idx (r.arrive w) r.req) :
    Twin (hideReads R f) (serveRequest gcm P dataId false r)
      (serveRequest gcm P dataId (looks idx (r.arrive w) r.req) r) w := by
  let late : World H → World H := fun v =>
    if looks idx (r.arrive w) r.req then (portTime P (r.arrive v)).2 else r.arrive v
  have hlate : late (hideReads R f w) = hideReads R f (late w) := by
    show (if _ then _ else _) = hideReads R f (if _ then _ else _)
    rw [apply_ite (hideReads R f)]
    rfl
  have hthere : (late (hideReads R f w)).sod.registry.find dataId
      = some (idx, writeOnly entry) := by
    rw [hlate]
    exact hR
  have hsame : dispatchWriteFlow gcm P idx (writeOnly entry) r.clientDev r.req r.replyMax
      = dispatchWriteFlow gcm P idx entry r.clientDev r.req r.replyMax := by
    unfold dispatchWriteFlow dispatchWrite
    rw [writeOnly_hasWo]
    rfl
  have hhere : serveRequest gcm P dataId false r w
      = dispatchWriteFlow gcm P idx entry r.clientDev r.req r.replyMax (late w) :=
    dispatch_write (w := r.arrive w) hfind hro hwo h
  show sodDispatch gcm P r.clientDev dataId r.req r.replyMax (late (hideReads R f w)) = _
  rw [hhere, dispatch_write_only hthere (by simp) (by simpa using hwo), hsame, hlate]
  exact dispatchWriteFlow_apart

/-- **One request of the read flow**, here and on the entry that takes only reads. -/
theorem read_step {f : Fin sodMaxEntries → WriteSlot}
    (hfind : w.sod.registry.find dataId = some (idx, entry)) (hro : entry.hasRo = true)
    (hR : R.find dataId = some (idx, readOnly entry)) (h : ReadFlow P idx (r.arrive w) r.req) :
    Twin (hideWrites R f) (serveRequest gcm P dataId false r)
      (serveRequest gcm P dataId false r) w := by
  show sodDispatch gcm P r.clientDev dataId r.req r.replyMax (r.arrive (hideWrites R f w))
    = ((sodDispatch gcm P r.clientDev dataId r.req r.replyMax (r.arrive w)).1, hideWrites R f
      (sodDispatch gcm P r.clientDev dataId r.req r.replyMax (r.arrive w)).2)
  rw [dispatch_read (w := r.arrive w) hfind hro h,
    dispatch_read (w := r.arrive (hideWrites R f w)) hR (by simpa using hro) h]
  exact dispatchReadFlow_apart (w := r.arrive w)

/-- What a request of the write flow leaves alone. -/
theorem write_step_frame (hfind : w.sod.registry.find dataId = some (idx, entry))
    (hro : entry.hasRo = true) (hwo : entry.hasWo = true)
    (h : ¬ ReadFlow P idx (r.arrive w) r.req) :
    (serveRequest gcm P dataId false r w).2.sod.readSlot = w.sod.readSlot ∧
      (serveRequest gcm P dataId false r w).2.sod.registry = w.sod.registry := by
  obtain ⟨v, hv, hhere⟩ : ∃ v : World H, v.sod = w.sod ∧
      serveRequest gcm P dataId false r w
        = dispatchWriteFlow gcm P idx entry r.clientDev r.req r.replyMax v := by
    refine ⟨_, ?_, dispatch_write (w := r.arrive w) hfind hro hwo h⟩
    split <;> rfl
  rw [hhere, ← hv]
  exact twin_keeps_reads dispatchWriteFlow_apart

/-- What a request of the read flow leaves alone. -/
theorem read_step_frame (hfind : w.sod.registry.find dataId = some (idx, entry))
    (hro : entry.hasRo = true) (h : ReadFlow P idx (r.arrive w) r.req) :
    (serveRequest gcm P dataId false r w).2.sod.writeSlot = w.sod.writeSlot ∧
      (serveRequest gcm P dataId false r w).2.sod.registry = w.sod.registry := by
  have hhere : serveRequest gcm P dataId false r w
      = dispatchReadFlow gcm P idx entry r.clientDev r.req r.replyMax (r.arrive w) :=
    dispatch_read (w := r.arrive w) hfind hro h
  rw [hhere]
  exact twin_keeps_writes (dispatchReadFlow_apart (w := r.arrive w))

/-- A run of the write flow, here and there. -/
theorem write_run {f : Fin sodMaxEntries → ReadSlot} (hro : entry.hasRo = true)
    (hwo : entry.hasWo = true) (hR : R.find dataId = some (idx, writeOnly entry))
    (hfind : w.sod.registry.find dataId = some (idx, entry))
    (hrun : FlowRun gcm P dataId (fun w req => ¬ ReadFlow P idx w req) w rs) :
    Twin (hideReads R f) (serveRequests gcm P dataId (asTheyCome rs))
        (serveRequests gcm P dataId (withLooks gcm P dataId idx w rs)) w ∧
      (serveRequests gcm P dataId (asTheyCome rs) w).2.sod.readSlot = w.sod.readSlot := by
  induction rs generalizing w with
  | nil => exact ⟨twin_pure _, rfl⟩
  | cons r rs ih =>
      obtain ⟨hflow, hrest⟩ := hrun
      obtain ⟨hslots, hregistry⟩ := write_step_frame hfind hro hwo hflow
      obtain ⟨htwin, hframe⟩ := ih (w := (serveRequest gcm P dataId false r w).2)
        (by rw [hregistry]; exact hfind) hrest
      refine ⟨twin_bind (write_step hfind hro hwo hR hflow) (twin_bind htwin (twin_pure _)), ?_⟩
      exact hframe.trans hslots

/-- A run of the read flow, here and there. -/
theorem read_run {f : Fin sodMaxEntries → WriteSlot} (hro : entry.hasRo = true)
    (hR : R.find dataId = some (idx, readOnly entry))
    (hfind : w.sod.registry.find dataId = some (idx, entry))
    (hrun : FlowRun gcm P dataId (ReadFlow P idx) w rs) :
    Twin (hideWrites R f) (serveRequests gcm P dataId (asTheyCome rs))
        (serveRequests gcm P dataId (asTheyCome rs)) w ∧
      (serveRequests gcm P dataId (asTheyCome rs) w).2.sod.writeSlot = w.sod.writeSlot := by
  induction rs generalizing w with
  | nil => exact ⟨twin_pure _, rfl⟩
  | cons r rs ih =>
      obtain ⟨hflow, hrest⟩ := hrun
      obtain ⟨hslots, hregistry⟩ := read_step_frame hfind hro hflow
      obtain ⟨htwin, hframe⟩ := ih (w := (serveRequest gcm P dataId false r w).2)
        (by rw [hregistry]; exact hfind) hrest
      refine ⟨twin_bind (read_step hfind hro hR hflow) (twin_bind htwin (twin_pure _)), ?_⟩
      exact hframe.trans hslots

/-- **The flows stay apart.**  Every request to a read-write entry is of one flow, told by its
    length and the read slot.  A run of write-flow requests gets the replies, makes the port
    calls and ends in the state that it would on an entry for writes only, whatever its read
    slots hold, but for one more look at the clock where an empty request meets a stale reply;
    and it leaves every read slot as it was.  A run of read-flow requests does the same on an
    entry for reads only, and leaves every write slot as it was. -/
theorem flows_apart (gcm : Gcm) (P : Ports H) (w : World H) (dataId : UInt32)
    (idx : Fin sodMaxEntries) (entry : SodEntry)
    (hfind : w.sod.registry.find dataId = some (idx, entry))
    (hro : entry.hasRo = true) (hwo : entry.hasWo = true) (rs : List (Request H)) :
    (FlowRun gcm P dataId (fun w req => ¬ ReadFlow P idx w req) w rs →
      ∀ (R : Registry) (f : Fin sodMaxEntries → ReadSlot),
        R.find dataId = some (idx, writeOnly entry) →
        let here := serveRequests gcm P dataId (asTheyCome rs) w
        let there := serveRequests gcm P dataId (withLooks gcm P dataId idx w rs)
          (hideReads R f w)
        there.1 = here.1 ∧ there.2 = hideReads R f here.2 ∧
          here.2.sod.readSlot = w.sod.readSlot) ∧
    (FlowRun gcm P dataId (ReadFlow P idx) w rs →
      ∀ (R : Registry) (f : Fin sodMaxEntries → WriteSlot),
        R.find dataId = some (idx, readOnly entry) →
        let here := serveRequests gcm P dataId (asTheyCome rs) w
        let there := serveRequests gcm P dataId (asTheyCome rs) (hideWrites R f w)
        there.1 = here.1 ∧ there.2 = hideWrites R f here.2 ∧
          here.2.sod.writeSlot = w.sod.writeSlot) := by
  constructor
  · intro hrun R f hR
    obtain ⟨htwin, hframe⟩ := write_run (f := f) hro hwo hR hfind hrun
    obtain ⟨hreplies, hstate⟩ := twin_run htwin
    exact ⟨hreplies, hstate, hframe⟩
  · intro hrun R f hR
    obtain ⟨htwin, hframe⟩ := read_run (f := f) hro hR hfind hrun
    obtain ⟨hreplies, hstate⟩ := twin_run htwin
    exact ⟨hreplies, hstate, hframe⟩

end Runs

/-! ## A worked run -/

/-- The read-write entry registered, and a cyclic read session opened by client 30. -/
def sampleBoth : World (List Rand) :=
  let s := after sampleGcm sampleReader [sampleRand 5, sampleRand 6]
    [.registerEntry sampleReadWrite, .setKeyEx 1 sampleKey 1,
      .request 30 0x20100000 (0x41 :: toList (sampleRand 9)) 64, .request 30 0x20100000 [] 64]
  ⟨s.sod, s.host, []⟩

/-- The registry of the entry for writes only. -/
def sampleWritesOnly : Registry :=
  (after sampleGcm sampleReader [] [.registerEntry (writeOnly sampleReadWrite)]).sod.registry

/-- A request of client 20. -/
def sampleAsk (req : List UInt8) : Request (List Rand) := ⟨id, 20, req, 64⟩

/-- A single-shot arming and a frame too short, beside the live read session. -/
theorem sampleBoth_apart :
    (serveRequests sampleGcm sampleReader 0x20100000
        (withLooks sampleGcm sampleReader 0x20100000 0 sampleBoth [sampleAsk [], sampleAsk [1, 2]])
        (hideReads sampleWritesOnly (fun _ => {}) sampleBoth)).1
      = [.ok (toList (sampleRand 6)), .abort abortLenTooLow] := by
  have hrun : FlowRun sampleGcm sampleReader 0x20100000
      (fun w req => ¬ ReadFlow sampleReader 0 w req) sampleBoth
      [sampleAsk [], sampleAsk [1, 2]] := by
    refine ⟨?_, ?_, trivial⟩ <;> decide +kernel
  obtain ⟨hreplies, -, -⟩ := (flows_apart sampleGcm sampleReader sampleBoth 0x20100000 0
    sampleReadWrite (by decide +kernel) (by decide) (by decide) _).1 hrun sampleWritesOnly
    (fun _ => {}) (by decide +kernel)
  rw [hreplies]
  decide +kernel

/-- The same entry, with a reply for client 30 that waits to be fetched. -/
def sampleWaiting : World (List Rand) :=
  let s := after sampleGcm sampleReader [sampleRand 5, sampleRand 6]
    [.registerEntry sampleReadWrite, .setKeyEx 1 sampleKey 1,
      .request 30 0x20100000 (0x41 :: toList (sampleRand 9)) 64]
  ⟨s.sod, s.host, []⟩

/-- Where the flows meet: a one-byte arming beside the live read session of another client is
    taken for a poll of that session, and an empty one beside its waiting reply fetches that
    reply, of 32 bytes.  The entry for writes only arms on both. -/
theorem armings_taken_for_reads :
    ((sodDispatch sampleGcm sampleReader 20 0x20100000 [0x41] 64 sampleBoth).1
          = .abort abortNoSession ∧
        (sodDispatch sampleGcm sampleReader 20 0x20100000 [0x41] 64
          (hideReads sampleWritesOnly sampleBoth.sod.readSlot sampleBoth)).1
          = .ok (toList (sampleRand 6))) ∧
      (sodDispatch sampleGcm sampleReader 20 0x20100000 [] 64 sampleWaiting).1
          = .ok (sampleWaiting.sod.readSlot 0).prepared ∧
        (sampleWaiting.sod.readSlot 0).prepared.length = 32 ∧
        (sodDispatch sampleGcm sampleReader 20 0x20100000 [] 64
          (hideReads sampleWritesOnly sampleWaiting.sod.readSlot sampleWaiting)).1
          = .ok (toList (sampleRand 6)) := by
  decide +kernel

end SofaReadWrite
