import Sofa.Server

/-! # What every call keeps, every dispatch keeps

    An invariant of the world that each port call, each AEAD call and each update of the
    module state preserves is preserved by a whole dispatch.  The entry hooks are only ever
    called for the data id of the request, and `read_before` may ask for more: the invariant
    `I (some d)` is the one that holds once the access gate has let a read of `d` through,
    and `I none` the one that always holds.

    * **`Stable`**: the invariant, call by call;
    * **`Stable.sodDispatch`**: the dispatcher, when `write_after` keeps it too. -/

namespace SofaCalls

open ByteBlock SofaConfig SofaAead SofaOd SofaMoves SofaServer StateWp

variable {H : Type} {gcm : Gcm} {P : Ports H}

/-- Every call but `write_after` that a request for `d` can lead to keeps `I`, and the read
    gate leads from `I none` to `I (some d)`. -/
structure Stable (gcm : Gcm) (P : Ports H) (d : UInt32) (I : Option UInt32 → World H → Prop) :
    Prop where
  time : ∀ o, Keeps (I o) (portTime P)
  random : ∀ o, Keeps (I o) (portRandom P)
  access : ∀ o op d, Keeps (I o) (portAccessAllowed P op d)
  role : ∀ o op b d, Keeps (I o) (portRoleAllowed P op b d)
  callSeal : ∀ o c plain, Keeps (I o) (callSeal gcm c plain)
  callOpen : ∀ o c cipher tag, Keeps (I o) (callOpen gcm c cipher tag)
  state : ∀ o w sod, I o w → I o { w with sod := sod }
  gate : ∀ w, I none w →
    wp (portAccessAllowed P .read d) (fun ok w' => ok = true → I (some d) w') w
  close : ∀ w, I (some d) w → I none w
  source : Keeps (I (some d)) (portReadBefore P d)

namespace Stable

variable {I : Option UInt32 → World H → Prop}

/-! ## Reading and updating the module state -/

section State

variable {d : UInt32} {o : Option UInt32}

theorem getReadSlot {i : Fin sodMaxEntries} : Keeps (I o) (getReadSlot i) := fun _ h => h

theorem getWriteSlot {i : Fin sodMaxEntries} : Keeps (I o) (getWriteSlot i) := fun _ h => h

theorem getKey {b : UInt8} : Keeps (I o) (getKey b) := fun _ h => h

theorem setReadSlot (hI : Stable gcm P d I) {i : Fin sodMaxEntries} {slot : ReadSlot} :
    Keeps (I o) (setReadSlot i slot) := fun w h => hI.state o w _ h

theorem setWriteSlot (hI : Stable gcm P d I) {i : Fin sodMaxEntries} {slot : WriteSlot} :
    Keeps (I o) (setWriteSlot i slot) := fun w h => hI.state o w _ h

theorem setLastWriteKid (hI : Stable gcm P d I) {b : UInt8} :
    Keeps (I o) (setLastWriteKid b) := fun w h => hI.state o w _ h

theorem slotIsFresh (hI : Stable gcm P d I) {a : UInt16} : Keeps (I o) (slotIsFresh P a) :=
  keeps_bind (hI.time o) fun _ => keeps_pure _ _

theorem sessionIsFresh (hI : Stable gcm P d I) {a : UInt16} : Keeps (I o) (sessionIsFresh P a) :=
  keeps_bind (hI.time o) fun _ => keeps_pure _ _

theorem slotHeldByOther (hI : Stable gcm P d I) {u c : Bool} {owner a r : UInt16} :
    Keeps (I o) (slotHeldByOther P u c owner a r) := by
  unfold SofaOd.slotHeldByOther
  refine keeps_ite (fun _ => keeps_pure _ _) fun _ => ?_
  exact keeps_ite (fun _ => hI.sessionIsFresh) fun _ => hI.slotIsFresh

/-- Past the read gate, what follows may rely on it. -/
theorem past_gate (hI : Stable gcm P d I) {α : Type} {f : Bool → SodM H α}
    (hshut : Keeps (I none) (f false)) (hopen : Keeps (I (some d)) (f true)) :
    Keeps (I none) (portAccessAllowed P .read d >>= f) := by
  refine keeps_test (J := I (some d)) (fun w hw => ?_) hI.close
  have hkept := hI.access none .read d w hw
  have hgate := hI.gate w hw
  rw [wp_portAccessAllowed]
  intro ok host hport
  simp only [portAccessAllowed, hport] at hkept
  rw [wp_portAccessAllowed] at hgate
  cases ok with
  | false => exact .inl ⟨hkept, hshut⟩
  | true => exact .inr ⟨hgate _ _ hport rfl, hopen⟩

end State

/-! ## The read side and the arming of writes -/

section Handlers

variable {idx : Fin sodMaxEntries} {entry : SodEntry} {client : UInt16} {req : List UInt8}
  {replyMax : Nat}

theorem armReadResponse (hI : Stable gcm P entry.dataId I) :
    Keeps (I none) (SofaOd.armReadResponse gcm P idx entry client req) := by
  unfold SofaOd.armReadResponse
  refine keeps_ite (fun _ => keeps_pure _ _) fun _ => ?_
  refine keeps_ite (fun _ => keeps_pure _ _) fun _ => ?_
  refine keeps_bind getKey fun key => ?_
  cases key with
  | none => exact keeps_pure _ _
  | some key =>
      refine hI.past_gate (keeps_pure _ _) ?_
      refine keeps_bind (hI.role _ _ _ _) fun role => ?_
      refine keeps_ite (fun _ => keeps_pure _ _) fun _ => ?_
      refine keeps_bind getReadSlot fun slot => ?_
      refine keeps_bind hI.slotHeldByOther fun held => ?_
      refine keeps_ite (fun _ => keeps_pure _ _) fun _ => ?_
      refine keeps_bind (hI.source) fun got => ?_
      refine keeps_ite (fun _ => keeps_pure _ _) fun _ => ?_
      refine keeps_ite (fun _ => keeps_pure _ _) fun _ => ?_
      refine keeps_bind (hI.random _) fun random => ?_
      cases random with
      | none => exact keeps_pure _ _
      | some sr =>
          refine keeps_bind hI.setReadSlot fun _ => ?_
          refine keeps_bind (hI.callSeal _ _ _) fun out => ?_
          cases out with
          | none => exact keeps_pure _ _
          | some sealed =>
              refine keeps_bind (hI.time _) fun now => ?_
              exact keeps_bind hI.setReadSlot fun _ => keeps_pure _ _

theorem handleReadPoll (hI : Stable gcm P entry.dataId I) :
    Keeps (I none) (SofaOd.handleReadPoll gcm P idx entry client req replyMax) := by
  unfold SofaOd.handleReadPoll
  refine keeps_bind getReadSlot fun slot => ?_
  refine keeps_ite (fun _ => keeps_pure _ _) fun _ => ?_
  refine keeps_ite (fun _ => keeps_pure _ _) fun _ => ?_
  refine keeps_bind hI.sessionIsFresh fun fresh => ?_
  refine keeps_ite (fun _ => keeps_bind hI.setReadSlot fun _ => keeps_pure _ _) fun _ => ?_
  refine keeps_ite (fun _ => keeps_pure _ _) fun _ => ?_
  refine keeps_ite (fun _ => keeps_pure _ _) fun _ => ?_
  cases pollCheckCounter slot.counter (req.getD 0 0) with
  | error code =>
      exact keeps_ite (fun _ => keeps_bind hI.setReadSlot fun _ => keeps_pure _ _)
        fun _ => keeps_pure _ _
  | ok expected =>
      refine hI.past_gate (keeps_pure _ _) ?_
      refine keeps_bind (hI.role _ _ _ _) fun role => ?_
      refine keeps_ite (fun _ => keeps_pure _ _) fun _ => ?_
      refine keeps_bind (hI.source) fun got => ?_
      refine keeps_ite (fun _ => keeps_pure _ _) fun _ => ?_
      refine keeps_ite (fun _ => keeps_pure _ _) fun _ => ?_
      refine keeps_bind getKey fun key => ?_
      cases key with
      | none => exact keeps_pure _ _
      | some key =>
          refine keeps_bind (hI.callSeal _ _ _) fun out => ?_
          cases out with
          | none => exact keeps_pure _ _
          | some sealed =>
              refine keeps_bind (hI.time _) fun now => ?_
              exact keeps_bind hI.setReadSlot fun _ => keeps_pure _ _

theorem fetchReadResponse (hI : Stable gcm P entry.dataId I) :
    Keeps (I none) (SofaOd.fetchReadResponse P idx entry replyMax) := by
  unfold SofaOd.fetchReadResponse
  refine keeps_bind getReadSlot fun slot => ?_
  have hanswer : ∀ armed : Bool, Keeps (I none)
      (do if armed then
            if slot.prepared.length > replyMax then
              SofaOd.setReadSlot idx { slot with inUse := false }
              return some (.abort abortInternal)
            if slot.cyclic then
              let now ← portTime P
              SofaOd.setReadSlot idx { slot with prepared := [], armedAt := now }
            else
              SofaOd.setReadSlot idx { slot with inUse := false }
            return some (.ok slot.prepared)
          if !entry.hasWo then
            return some (.abort abortNoSession)
          return none : SodM H (Option SodResult)) := by
    intro armed
    refine keeps_ite (fun _ => ?_) fun _ =>
      keeps_ite (fun _ => keeps_pure _ _) fun _ => keeps_pure _ _
    refine keeps_ite (fun _ => keeps_bind hI.setReadSlot fun _ => keeps_pure _ _) fun _ => ?_
    refine keeps_ite (fun _ => ?_) fun _ => keeps_bind hI.setReadSlot fun _ => keeps_pure _ _
    refine keeps_bind (hI.time _) fun now => ?_
    exact keeps_bind hI.setReadSlot fun _ => keeps_pure _ _
  refine keeps_ite (fun _ => ?_) fun _ => hanswer _
  exact keeps_bind hI.slotIsFresh fun armed => hanswer armed

theorem grantWrite (hI : Stable gcm P entry.dataId I) {wire : Option UInt8} :
    Keeps (I none) (SofaOd.grantWrite P idx client wire replyMax) := by
  unfold SofaOd.grantWrite
  refine keeps_ite (fun _ => keeps_pure _ _) fun _ => ?_
  refine keeps_bind (hI.random _) fun random => ?_
  cases random with
  | none => exact keeps_pure _ _
  | some sr =>
      refine keeps_bind getWriteSlot fun slot => ?_
      refine keeps_bind hI.slotHeldByOther fun held => ?_
      refine keeps_ite (fun _ => keeps_pure _ _) fun _ => ?_
      refine keeps_bind (hI.time _) fun now => ?_
      exact keeps_bind hI.setWriteSlot fun _ => keeps_pure _ _

theorem armWriteChallenge (hI : Stable gcm P entry.dataId I) {wire : Option UInt8} :
    Keeps (I none) (SofaOd.armWriteChallenge P idx entry client wire replyMax) := by
  unfold SofaOd.armWriteChallenge
  refine keeps_bind (hI.access _ _ _) fun ok => ?_
  refine keeps_ite (fun _ => keeps_pure _ _) fun _ => ?_
  cases wire with
  | none => exact hI.grantWrite
  | some kid =>
      refine keeps_ite (fun _ => keeps_pure _ _) fun _ => ?_
      refine keeps_ite (fun _ => keeps_pure _ _) fun _ => ?_
      refine keeps_ite (fun _ => keeps_pure _ _) fun _ => ?_
      refine keeps_bind getKey fun key => ?_
      refine keeps_ite (fun _ => keeps_pure _ _) fun _ => ?_
      refine keeps_bind (hI.role _ _ _ _) fun role => ?_
      exact keeps_ite (fun _ => keeps_pure _ _) fun _ => hI.grantWrite

/-- Without a data-bearing frame the write side only arms. -/
theorem dispatchWrite_short (hI : Stable gcm P entry.dataId I)
    (hshort : entry.hasWo = true → req.length ≤ 1) :
    Keeps (I none) (SofaOd.dispatchWrite gcm P idx entry client req replyMax) := by
  unfold SofaOd.dispatchWrite
  refine keeps_ite (fun hwo => ?_) fun _ => keeps_pure _ _
  refine keeps_ite (fun _ => hI.armWriteChallenge) fun hzero => ?_
  refine keeps_ite (fun _ => hI.armWriteChallenge) fun hone => ?_
  simp only [beq_iff_eq] at hzero hone
  have := hshort hwo
  omega

theorem dispatchRead_short (hI : Stable gcm P entry.dataId I) (hshort : entry.hasWo = true →
    req.length ≤ 1 ∨ entry.hasRo = true ∧ req.length = readChallengeLen) :
    Keeps (I none) (SofaOd.dispatchRead gcm P idx entry client req replyMax) := by
  have hlimit : readChallengeLen = 13 := rfl
  unfold SofaOd.dispatchRead
  refine keeps_ite (fun hro => ?_) fun hro => hI.dispatchWrite_short fun hwo => ?_
  · refine keeps_ite (fun _ => hI.armReadResponse) fun hlen => ?_
    simp only [beq_iff_eq] at hlen
    refine keeps_ite (fun hzero => ?_) fun hzero => ?_
    · simp only [beq_iff_eq] at hzero
      refine keeps_bind hI.fetchReadResponse fun got => ?_
      cases got with
      | none => exact hI.dispatchWrite_short fun _ => by omega
      | some result => exact keeps_pure _ _
    · refine keeps_ite (fun _ => keeps_pure _ _) fun _ => hI.dispatchWrite_short fun hwo => ?_
      rcases hshort hwo with h | h
      · exact h
      · exact absurd h.2 hlen
  · rcases hshort hwo with h | h
    · exact h
    · exact absurd h.1 hro

/-! ## The data-bearing frames and the dispatcher -/

section Sink

variable (hsink : ∀ src, Keeps (I none) (portWriteAfter P entry.dataId src))

include hsink

theorem verifyAndApplyWrite (hI : Stable gcm P entry.dataId I) :
    Keeps (I none) (SofaOd.verifyAndApplyWrite gcm P idx entry req) := by
  have hdown : ∀ (slot : WriteSlot) (code : Abort), Keeps (I none) (do
      SofaOd.setWriteSlot idx slot
      return .abort code : SodM H SodResult) :=
    fun _ _ => keeps_bind hI.setWriteSlot fun _ => keeps_pure _ _
  unfold SofaOd.verifyAndApplyWrite
  refine keeps_bind getWriteSlot fun slot => ?_
  refine keeps_ite (fun _ => keeps_pure _ _) fun _ => ?_
  refine keeps_bind hI.slotIsFresh fun fresh => ?_
  refine keeps_ite (fun _ => hdown _ _) fun _ => ?_
  refine keeps_ite (fun _ => hdown _ _) fun _ => ?_
  refine keeps_ite (fun _ => hdown _ _) fun _ => ?_
  refine keeps_ite (fun _ => hdown _ _) fun _ => ?_
  refine keeps_bind getKey fun key => ?_
  cases key with
  | none => exact hdown _ _
  | some key =>
      refine keeps_bind (hI.role _ _ _ _) fun role => ?_
      refine keeps_ite (fun _ => hdown _ _) fun _ => ?_
      refine keeps_bind (hI.callOpen _ _ _ _) fun out => ?_
      cases out with
      | none => exact hdown _ _
      | some plain =>
          refine keeps_bind hI.setLastWriteKid fun _ => ?_
          refine keeps_bind (hsink _) fun rc => ?_
          refine keeps_ite (fun _ => hdown _ _) fun _ => ?_
          refine keeps_ite (fun _ => ?_) fun _ => keeps_bind hI.setWriteSlot fun _ => keeps_pure _ _
          refine keeps_bind (hI.time _) fun now => ?_
          exact keeps_bind hI.setWriteSlot fun _ => keeps_pure _ _

theorem handleWritePoll (hI : Stable gcm P entry.dataId I) :
    Keeps (I none) (SofaOd.handleWritePoll gcm P idx entry client req) := by
  unfold SofaOd.handleWritePoll
  refine keeps_bind getWriteSlot fun slot => ?_
  refine keeps_ite (fun _ => keeps_pure _ _) fun _ => ?_
  refine keeps_ite (fun _ => keeps_pure _ _) fun _ => ?_
  refine keeps_bind hI.sessionIsFresh fun fresh => ?_
  refine keeps_ite (fun _ => keeps_bind hI.setWriteSlot fun _ => keeps_pure _ _) fun _ => ?_
  refine keeps_ite (fun _ => keeps_pure _ _) fun _ => ?_
  cases pollCheckCounter slot.counter (req.getD 0 0) with
  | error code =>
      exact keeps_ite (fun _ => keeps_bind hI.setWriteSlot fun _ => keeps_pure _ _)
        fun _ => keeps_pure _ _
  | ok expected =>
      refine keeps_bind (hI.role _ _ _ _) fun role => ?_
      refine keeps_ite (fun _ => keeps_pure _ _) fun _ => ?_
      refine keeps_bind getKey fun key => ?_
      cases key with
      | none => exact keeps_pure _ _
      | some key =>
          refine keeps_bind (hI.callOpen _ _ _ _) fun out => ?_
          cases out with
          | none => exact keeps_pure _ _
          | some plain =>
              refine keeps_bind (hsink _) fun rc => ?_
              refine keeps_ite (fun _ => keeps_pure _ _) fun _ => ?_
              refine keeps_bind (hI.time _) fun now => ?_
              exact keeps_bind hI.setWriteSlot fun _ => keeps_pure _ _

theorem dispatchWrite (hI : Stable gcm P entry.dataId I) :
    Keeps (I none) (SofaOd.dispatchWrite gcm P idx entry client req replyMax) := by
  unfold SofaOd.dispatchWrite
  refine keeps_ite (fun _ => ?_) fun _ => keeps_pure _ _
  refine keeps_ite (fun _ => hI.armWriteChallenge) fun _ => ?_
  exact keeps_ite (fun _ => hI.armWriteChallenge) fun _ => hI.verifyAndApplyWrite hsink

theorem dispatchRead (hI : Stable gcm P entry.dataId I) :
    Keeps (I none) (SofaOd.dispatchRead gcm P idx entry client req replyMax) := by
  unfold SofaOd.dispatchRead
  refine keeps_ite (fun _ => ?_) fun _ => hI.dispatchWrite hsink
  refine keeps_ite (fun _ => hI.armReadResponse) fun _ => ?_
  refine keeps_ite (fun _ => ?_) fun _ => ?_
  · refine keeps_bind hI.fetchReadResponse fun got => ?_
    cases got with
    | none => exact hI.dispatchWrite hsink
    | some result => exact keeps_pure _ _
  · exact keeps_ite (fun _ => keeps_pure _ _) fun _ => hI.dispatchWrite hsink

end Sink

/-- **A whole dispatch.** -/
theorem sodDispatch {d : UInt32} (hI : Stable gcm P d I)
    (hsink : ∀ src, Keeps (I none) (portWriteAfter P d src)) :
    Keeps (I none) (SofaOd.sodDispatch gcm P client d req replyMax) := by
  intro w hw
  cases hfind : w.sod.registry.find d with
  | none =>
      rw [sodDispatch_notHandled hfind]
      exact hw
  | some found =>
      obtain ⟨idx, entry⟩ := found
      obtain rfl : d = entry.dataId := (find_dataId hfind).symm
      have hwp : wp (SofaOd.sodDispatch gcm P client entry.dataId req replyMax)
          (fun _ w' => I none w') w := by
        rw [wp_sodDispatch hfind]
        refine keeps_ite (fun _ => hI.handleReadPoll) (fun _ => ?_) w hw
        exact keeps_ite (fun _ => hI.handleWritePoll hsink) fun _ => hI.dispatchRead hsink
      exact hwp

end Handlers

end Stable

end SofaCalls
