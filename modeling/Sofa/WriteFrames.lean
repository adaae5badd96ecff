import Sofa.Writes
import Sofa.Reads

/-! # Data-bearing write frames, exactly

    A request that carries data for a write slot is a Pass-2 frame or a write poll.
    Whether it verifies is a fact about the state it finds: the slot, the clock and the
    role policy at its arrival, the installed key and the tag.  `Move` lists what can
    happen; the two outcome lemmas of this file say when.

    * **`verifyAndApplyWrite_outcome`**, **`handleWritePoll_outcome`**: the outcomes of
      the two handlers, each with the condition under which it comes about;
    * **`sodDispatch_data`**: the frames that reach either of them. -/

namespace SofaWriteFrames

open ByteBlock SofaConfig SofaAead SofaOd SofaMoves SofaServer SofaWrites SofaReads StateWp

variable {H : Type} {gcm : Gcm} {P : Ports H}

/-! ## Frames that verify -/

/-- The Pass-2 frame `req` verifies under `key`: it reaches the tag check at the clock of
    its arrival, the role policy lets the key write, and the tag is right. -/
structure Pass2Verifies (gcm : Gcm) (P : Ports H) (s : Sod) (host : H)
    (idx : Fin sodMaxEntries) (entry : SodEntry) (req : List UInt8) (key : Key) : Prop
    extends Pass2Checked P s idx entry req (P.timeMs host).1 key where
  allowed : (P.roleAllowed .write (keyidBase (reqHead req)) entry.dataId (P.timeMs host).2).1 =
    true
  opened : aeadOpen gcm (pass2Call P (s.writeSlot idx) entry req key) (pass2Cipher entry req)
    (pass2Tag entry req) ≠ none

/-- The write poll `req` reaches the tag check under `key`, at the clock of its arrival
    and past the role policy. -/
structure WritePollReaches (P : Ports H) (s : Sod) (host : H) (idx : Fin sodMaxEntries)
    (entry : SodEntry) (client : UInt16) (req : List UInt8) (key : Key) : Prop
    extends WritePollChecked s idx entry client req (P.timeMs host).1 key where
  allowed : (P.roleAllowed .write (keyidBase (s.writeSlot idx).keyId) entry.dataId
    (P.timeMs host).2).1 = true

/-- The write poll `req` verifies under `key`. -/
structure WritePollVerifies (gcm : Gcm) (P : Ports H) (s : Sod) (host : H)
    (idx : Fin sodMaxEntries) (entry : SodEntry) (client : UInt16) (req : List UInt8)
    (key : Key) : Prop
    extends WritePollReaches P s host idx entry client req key where
  opened : aeadOpen gcm (writePollCall P (s.writeSlot idx) entry key)
    (writePollCipher entry req) (writePollTag entry req) ≠ none

/-- The host `write_after` finds: the clock was read and the role policy asked. -/
def hostAtWrite (P : Ports H) (base : UInt8) (dataId : UInt32) (host : H) : H :=
  (P.roleAllowed .write base dataId (P.timeMs host).2).2

/-- Calls that neither access an entry nor ask the access gate. -/
def EventSilent : Event → Prop
  | .readBefore .. | .writeAfter .. | .accessAllowed .. => False
  | _ => True

/-- `write_after` was called and no access gate was asked before it. -/
def WroteUngated (calls : List Event) : Prop :=
  ∃ l post d src kid rc, calls = l ++ .writeAfter d src kid rc :: post ∧ ∀ e ∈ l, EventSilent e

/-- The log holds one attempt to open a frame: the one of this call. -/
def Tried (q : AeadCall) (calls : List Event) : Prop :=
  ∀ q', (∃ cipher tag out, .aeadOpen q' cipher tag out ∈ calls) ↔ q' = q

/-! ## The Pass-2 path -/

/-- What the Pass-2 path does with a frame, and when. -/
inductive Pass2Outcome (gcm : Gcm) (P : Ports H) (s : Sod) (host : H)
    (idx : Fin sodMaxEntries) (entry : SodEntry) (req : List UInt8) :
    SodResult → World H → Prop where
  /-- The frame does not verify: it is refused, and the slot is down. -/
  | rejected {code : Abort} {w : World H}
      (bad : ∀ key, ¬ Pass2Verifies gcm P s host idx entry req key)
      (code_ne : code ≠ abortKeyBudget) (silent : ∀ e ∈ w.log, EventSilent e)
      (down : (w.sod.writeSlot idx).inUse = false) :
      Pass2Outcome gcm P s host idx entry req (.abort code) w
  /-- The frame verifies and `write_after` refuses it: the slot is down. -/
  | refused {key : Key} {plain : List UInt8} {rc : Abort} {rest : KeyStore × H} {w : World H}
      (verifies : Pass2Verifies gcm P s host idx entry req key)
      (opened : aeadOpen gcm (pass2Call P (s.writeSlot idx) entry req key)
        (pass2Cipher entry req) (pass2Tag entry req) = some plain)
      (hook : P.writeAfter entry.dataId plain (keyidBase (reqHead req)) s.keys
        (hostAtWrite P (keyidBase (reqHead req)) entry.dataId host) = (rc, rest))
      (refusal : rc ≠ abortNone) (wrote : WroteUngated w.log)
      (down : (w.sod.writeSlot idx).inUse = false) :
      Pass2Outcome gcm P s host idx entry req (.abort rc) w
  /-- The frame verifies and is applied. -/
  | applied {key : Key} {plain : List UInt8} {rest : KeyStore × H} {w : World H}
      (verifies : Pass2Verifies gcm P s host idx entry req key)
      (opened : aeadOpen gcm (pass2Call P (s.writeSlot idx) entry req key)
        (pass2Cipher entry req) (pass2Tag entry req) = some plain)
      (hook : P.writeAfter entry.dataId plain (keyidBase (reqHead req)) s.keys
        (hostAtWrite P (keyidBase (reqHead req)) entry.dataId host) = (abortNone, rest))
      (wrote : WroteUngated w.log) :
      Pass2Outcome gcm P s host idx entry req (.ok []) w

/-! ## The poll path -/

/-- What the poll path does with a frame, and when. -/
inductive WritePollOutcome (gcm : Gcm) (P : Ports H) (s : Sod) (host : H)
    (idx : Fin sodMaxEntries) (entry : SodEntry) (client : UInt16) (req : List UInt8) :
    SodResult → World H → Prop where
  /-- The poll does not reach the tag check: it is refused, and nothing changes. -/
  | rejected {code : Abort} {w : World H}
      (bad : ∀ key, ¬ WritePollReaches P s host idx entry client req key)
      (passive : Passive w.log) (silent : ∀ e ∈ w.log, EventSilent e) (same : w.sod = s) :
      WritePollOutcome gcm P s host idx entry client req (.abort code) w
  /-- The session has timed out, or used up its key budget: the slot is down. -/
  | lapsed {code : Abort} {w : World H}
      (bad : ∀ key, ¬ WritePollReaches P s host idx entry client req key)
      (why : ageWithin (P.timeMs host).1 (s.writeSlot idx).armedAt sessionIdleTimeoutMs = false ∨
        code = abortKeyBudget)
      (passive : Passive w.log) (silent : ∀ e ∈ w.log, EventSilent e)
      (down : (w.sod.writeSlot idx).inUse = false) :
      WritePollOutcome gcm P s host idx entry client req (.abort code) w
  /-- The tag is wrong: nothing changes. -/
  | forged {key : Key} {w : World H}
      (reaches : WritePollReaches P s host idx entry client req key)
      (opened : aeadOpen gcm (writePollCall P (s.writeSlot idx) entry key)
        (writePollCipher entry req) (writePollTag entry req) = none)
      (silent : ∀ e ∈ w.log, EventSilent e) (same : w.sod = s)
      (tried : Tried (writePollCall P (s.writeSlot idx) entry key) w.log) :
      WritePollOutcome gcm P s host idx entry client req (.abort abortTagVerify) w
  /-- The poll verifies and `write_after` refuses it: the slot stays as it is. -/
  | refused {key : Key} {plain : List UInt8} {rc : Abort} {rest : KeyStore × H} {w : World H}
      (verifies : WritePollVerifies gcm P s host idx entry client req key)
      (opened : aeadOpen gcm (writePollCall P (s.writeSlot idx) entry key)
        (writePollCipher entry req) (writePollTag entry req) = some plain)
      (hook : P.writeAfter entry.dataId plain s.lastWriteKid s.keys
        (hostAtWrite P (keyidBase (s.writeSlot idx).keyId) entry.dataId host) = (rc, rest))
      (refusal : rc ≠ abortNone) (wrote : WroteUngated w.log)
      (same : w.sod.writeSlot = s.writeSlot)
      (tried : Tried (writePollCall P (s.writeSlot idx) entry key) w.log) :
      WritePollOutcome gcm P s host idx entry client req (.abort rc) w
  /-- The poll verifies and is applied. -/
  | applied {key : Key} {plain : List UInt8} {rest : KeyStore × H} {w : World H}
      (verifies : WritePollVerifies gcm P s host idx entry client req key)
      (opened : aeadOpen gcm (writePollCall P (s.writeSlot idx) entry key)
        (writePollCipher entry req) (writePollTag entry req) = some plain)
      (hook : P.writeAfter entry.dataId plain s.lastWriteKid s.keys
        (hostAtWrite P (keyidBase (s.writeSlot idx).keyId) entry.dataId host) =
          (abortNone, rest))
      (wrote : WroteUngated w.log)
      (tried : Tried (writePollCall P (s.writeSlot idx) entry key) w.log) :
      WritePollOutcome gcm P s host idx entry client req (.ok []) w

section Outcomes

variable {s : Sod} {host : H} {idx : Fin sodMaxEntries} {entry : SodEntry} {client : UInt16}
  {req : List UInt8}

theorem lengthAbort_ne (got want : Nat) : lengthAbort got want ≠ abortKeyBudget := by
  unfold lengthAbort
  split
  · decide
  · split <;> decide

/-- **The outcome of `verify_and_apply_write`.** -/
theorem verifyAndApplyWrite_outcome (hwo : entry.hasWo = true) :
    wp (verifyAndApplyWrite gcm P idx entry req) (Pass2Outcome gcm P s host idx entry req)
      ⟨s, host, []⟩ := by
  unfold verifyAndApplyWrite
  simp only [wp_ite, wp_pure, wp_bind, wp_getWriteSlot, wp_slotIsFresh, wp_setWriteSlot,
    List.nil_append]
  refine ⟨fun hidle => ?_, fun huse now host' hclock => ?_⟩
  · simp only [Bool.not_eq_true'] at hidle
    exact .rejected (fun key hv => by simp [hv.inUse] at hidle) (by decide) (by simp) hidle
  obtain rfl : (P.timeMs host).1 = now := congrArg (·.1) hclock
  obtain rfl : (P.timeMs host).2 = host' := congrArg (·.2) hclock
  -- the checks before the key lookup: each turns the frame down and clears the slot
  refine ⟨fun hstale => ?_, fun hfresh => ⟨fun hlen => ?_, fun hlen => ⟨fun hres => ?_, fun hres =>
    ⟨fun hbind => ?_, fun hbind => ?_⟩⟩⟩⟩
  · exact .rejected (fun key hv => by simp [hv.fresh] at hstale) (by decide)
      (by simp [EventSilent]) (by simp)
  · exact .rejected (fun key hv => by simp [hv.len] at hlen) (lengthAbort_ne _ _)
      (by simp [EventSilent]) (by simp)
  · exact .rejected (fun key hv => absurd hv.reserved (bne_iff_ne.mp hres)) (by decide)
      (by simp [EventSilent]) (by simp)
  · refine .rejected (fun key hv => ?_) (by decide) (by simp [EventSilent]) (by simp)
    exact absurd hv.binding (Bool.eq_false_iff.mp ((Bool.not_eq_true' _).mp hbind))
  simp only [bne_iff_ne, ne_eq, not_not, Bool.not_eq_true', Bool.not_eq_false]
    at huse hfresh hlen hres hbind
  simp only [wp_getKey]
  cases hkey : s.keys.getKey (keyidBase (req.getD 0 0)) with
  | none =>
      simp only [wp_bind, wp_setWriteSlot, wp_pure]
      refine .rejected (fun key hv => ?_) (by decide) (by simp [EventSilent]) (by simp)
      exact absurd (hkey.symm.trans hv.installed) (by simp)
  | some key =>
      simp only [wp_bind, wp_portRoleAllowed, wp_ite, wp_setWriteSlot, wp_pure,
        List.cons_append, List.nil_append]
      intro role host' hrole
      obtain rfl : (P.roleAllowed .write (keyidBase (req.getD 0 0)) entry.dataId
        (P.timeMs host).2).1 = role := congrArg (·.1) hrole
      obtain rfl : hostAtWrite P (keyidBase (req.getD 0 0)) entry.dataId host = host' :=
        congrArg (·.2) hrole
      refine ⟨fun hdenied => ?_, fun hallowed => ?_⟩
      · refine .rejected (fun key hv => ?_) (by decide) (by simp [EventSilent]) (by simp)
        exact absurd hv.allowed (Bool.eq_false_iff.mp ((Bool.not_eq_true' _).mp hdenied))
      simp only [Bool.not_eq_true', Bool.not_eq_false] at hallowed
      simp only [wp_callOpen, List.cons_append, List.nil_append]
      intro out hopen
      cases out with
      | none =>
          simp only [wp_bind, wp_setWriteSlot, wp_pure]
          refine .rejected (fun key' hv => ?_) (by decide) (by simp [EventSilent]) (by simp)
          obtain rfl : key = key' := Option.some.inj (hkey.symm.trans hv.installed)
          exact hv.opened hopen
      | some plain =>
          have hverifies : Pass2Verifies gcm P s host idx entry req key :=
            { wo := hwo, inUse := huse, fresh := hfresh, len := hlen, reserved := hres,
              binding := hbind, installed := hkey, allowed := hallowed,
              opened := fun hnone => by cases hopen.symm.trans hnone }
          simp only [wp_bind, wp_setLastWriteKid, wp_portWriteAfter, wp_ite, wp_setWriteSlot,
            wp_pure, wp_portTime, List.cons_append, List.nil_append]
          intro rc keys host' hook
          have hwrote : ∀ x y z e post, EventSilent x → EventSilent y → EventSilent z →
              WroteUngated (x :: y :: z :: .writeAfter entry.dataId plain e rc :: post) := by
            intro x y z e post hx hy hz
            exact ⟨[x, y, z], post, _, _, _, _, rfl, by simp [hx, hy, hz]⟩
          refine ⟨fun hrc => ?_, fun hrc => ?_⟩
          · exact .refused hverifies hopen hook (by simpa using hrc)
              (hwrote _ _ _ _ _ trivial trivial trivial) (by simp)
          · obtain rfl : rc = abortNone := by simpa using hrc
            exact ⟨fun _ now' host'' _ =>
                .applied hverifies hopen hook (hwrote _ _ _ _ _ trivial trivial trivial),
              fun _ => .applied hverifies hopen hook (hwrote _ _ _ _ _ trivial trivial trivial)⟩

/-- **The outcome of `handle_write_poll`.** -/
theorem handleWritePoll_outcome (hwo : entry.hasWo = true) :
    wp (handleWritePoll gcm P idx entry client req)
      (WritePollOutcome gcm P s host idx entry client req) ⟨s, host, []⟩ := by
  unfold handleWritePoll
  simp only [wp_ite, wp_pure, wp_bind, wp_getWriteSlot, wp_sessionIsFresh, wp_setWriteSlot,
    List.nil_append]
  refine ⟨fun hidle => ?_, fun hlive => ⟨fun howner => ?_, fun howner now host' hclock => ?_⟩⟩
  · exact .rejected (fun key hv => by simp [hv.inUse, hv.cyclic] at hidle) (by simp) (by simp) rfl
  · exact .rejected (fun key hv => by simp [hv.owner] at howner) (by simp) (by simp) rfl
  obtain rfl : (P.timeMs host).1 = now := congrArg (·.1) hclock
  obtain rfl : (P.timeMs host).2 = host' := congrArg (·.2) hclock
  simp only [Bool.or_eq_true, Bool.not_eq_true', not_or, Bool.not_eq_false] at hlive
  refine ⟨fun hstale => ?_, fun hfresh => ⟨fun hlen => ?_, fun hlen => ?_⟩⟩
  · simp only [Bool.not_eq_true'] at hstale
    exact .lapsed (fun key hv => by simp [hv.fresh] at hstale) (.inl hstale)
      (by simp [EventPassive]) (by simp [EventSilent]) (by simp)
  · exact .rejected (fun key hv => by simp [hv.len] at hlen) (by simp [EventPassive])
      (by simp [EventSilent]) rfl
  simp only [bne_iff_ne, ne_eq, not_not, Bool.not_eq_true', Bool.not_eq_false]
    at howner hfresh hlen
  cases hcounter : pollCheckCounter (s.writeSlot idx).counter (req.getD 0 0) with
  | error code =>
      have hbad : ∀ key, ¬ WritePollReaches P s host idx entry client req key := by
        intro key hv
        have hnext : pollCheckCounter (s.writeSlot idx).counter (req.getD 0 0) = .ok _ :=
          pollCheckCounter_next hv.budget hv.counter
        rw [hnext] at hcounter
        cases hcounter
      simp only [wp_ite, wp_bind, wp_setWriteSlot, wp_pure]
      refine ⟨fun hb => ?_, fun _ => ?_⟩
      · exact .lapsed hbad (.inr (by simpa using hb)) (by simp [EventPassive])
          (by simp [EventSilent]) (by simp)
      · exact .rejected hbad (by simp [EventPassive]) (by simp [EventSilent]) rfl
  | ok expected =>
      obtain ⟨hbudget, hcount, rfl⟩ := pollCheckCounter_ok hcounter
      simp only [wp_bind, wp_portRoleAllowed, wp_ite, wp_pure, List.cons_append, List.nil_append]
      intro role host' hrole
      obtain rfl : (P.roleAllowed .write (keyidBase (s.writeSlot idx).keyId) entry.dataId
        (P.timeMs host).2).1 = role := congrArg (·.1) hrole
      obtain rfl : hostAtWrite P (keyidBase (s.writeSlot idx).keyId) entry.dataId host = host' :=
        congrArg (·.2) hrole
      refine ⟨fun hdenied => ?_, fun hallowed => ?_⟩
      · refine .rejected (fun key hv => ?_) (by simp [EventPassive]) (by simp [EventSilent]) rfl
        exact absurd hv.allowed (Bool.eq_false_iff.mp ((Bool.not_eq_true' _).mp hdenied))
      simp only [Bool.not_eq_true', Bool.not_eq_false] at hallowed
      simp only [wp_getKey]
      cases hkey : s.keys.getKey (keyidBase (s.writeSlot idx).keyId) with
      | none =>
          simp only [wp_pure]
          refine .rejected (fun key hv => ?_) (by simp [EventPassive]) (by simp [EventSilent]) rfl
          exact absurd (hkey.symm.trans hv.installed) (by simp)
      | some key =>
          have hreaches : WritePollReaches P s host idx entry client req key :=
            { wo := hwo, inUse := hlive.1, cyclic := hlive.2, owner := howner,
              fresh := hfresh, len := hlen, counter := hcount, budget := hbudget,
              installed := hkey, allowed := hallowed }
          simp only [wp_bind, wp_callOpen, List.cons_append, List.nil_append]
          intro out hopen
          cases out with
          | none =>
              simp only [wp_pure]
              exact .forged hreaches hopen (by simp [EventSilent]) rfl
                (by intro q'; simp [writePollCall])
          | some plain =>
              have hverifies : WritePollVerifies gcm P s host idx entry client req key :=
                { hreaches with opened := fun hnone => by cases hopen.symm.trans hnone }
              simp only [wp_bind, wp_portWriteAfter, wp_ite, wp_setWriteSlot, wp_pure,
                wp_portTime, List.cons_append, List.nil_append]
              intro rc keys host' hook
              have hwrote : ∀ x y z e post, EventSilent x → EventSilent y → EventSilent z →
                  WroteUngated (x :: y :: z :: .writeAfter entry.dataId plain e rc :: post) := by
                intro x y z e post hx hy hz
                exact ⟨[x, y, z], post, _, _, _, _, rfl, by simp [hx, hy, hz]⟩
              refine ⟨fun hrc => ?_, fun hrc now' host'' _ => ?_⟩
              · exact .refused hverifies hopen hook (by simpa using hrc)
                  (hwrote _ _ _ _ _ trivial trivial trivial) rfl
                  (by intro q'; simp [writePollCall])
              · obtain rfl : rc = abortNone := by simpa using hrc
                exact .applied hverifies hopen hook (hwrote _ _ _ _ _ trivial trivial trivial)
                  (by intro q'; simp [writePollCall])

end Outcomes

/-! ## The frames that reach them -/

/-- **A data-bearing request**: a poll of a cyclic session when it has the length of one,
    and a Pass-2 frame otherwise. -/
theorem sodDispatch_data {Q : SodResult → World H → Prop} {client : UInt16} {d : UInt32}
    {req : List UInt8} {replyMax : Nat} {w : World H} {idx : Fin sodMaxEntries}
    {entry : SodEntry} (hf : w.sod.registry.find d = some (idx, entry))
    (hwo : entry.hasWo = true) (hlen : 2 ≤ req.length)
    (hchallenge : entry.hasRo = true → req.length ≠ readChallengeLen) :
    wp (sodDispatch gcm P client d req replyMax) Q w ↔
      wp (if req.length = pollLen entry ∧ (w.sod.writeSlot idx).inUse = true ∧
            (w.sod.writeSlot idx).cyclic = true then
          handleWritePoll gcm P idx entry client req
        else verifyAndApplyWrite gcm P idx entry req) Q w := by
  have hone : req.length ≠ 1 := by omega
  have hzero : req.length ≠ 0 := by omega
  have hverify : wp (dispatchRead gcm P idx entry client req replyMax) Q w ↔
      wp (verifyAndApplyWrite gcm P idx entry req) Q w := by
    unfold dispatchRead dispatchWrite
    simp only [hwo, beq_iff_eq, hone, hzero, if_true, Bool.false_eq_true, if_false,
      Bool.not_true]
    by_cases hro : entry.hasRo = true
    · rw [if_pos hro, if_neg (hchallenge hro)]
    · rw [if_neg hro]
  rw [wp_sodDispatch hf, if_neg (by simp [hone])]
  by_cases hpoll : req.length = pollLen entry ∧ (w.sod.writeSlot idx).inUse = true ∧
      (w.sod.writeSlot idx).cyclic = true
  · rw [if_pos hpoll, if_pos (by simp [hwo, hpoll])]
  · rw [if_neg hpoll, if_neg ?_, hverify]
    intro hc
    simp only [Bool.and_eq_true, beq_iff_eq] at hc
    exact hpoll ⟨hc.1.1.2, hc.1.2, hc.2⟩

end SofaWriteFrames
