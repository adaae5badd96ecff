import Sofa.Isolation
import Sofa.WriteFrames

/-! # A live write session under stray frames

    A cyclic write session is torn down by its idle time-out and by its key budget.
    A frame that nobody authenticated should not do it: the poll path keeps the session
    through wrong counters and bad tags.  But a data-bearing frame of any other length
    than a poll's goes to the Pass-2 path, which clears the slot at every refusal.

    The headline, `survives_iff`: along any run every refused data-bearing frame leaves
    the live session it meets as it was, exactly when each frame that reaches the Pass-2
    path of a live session verifies there; `stray_frame` is a run in which two bytes of
    another client end a session. -/

namespace SofaWriteSurvival

open ByteBlock SofaConfig SofaAead SofaOd SofaMoves SofaServer SofaWrites SofaReads SofaIsolation
  SofaWriteFrames StateWp Machine

variable {H : Type} {gcm : Gcm} {P : Ports H}

/-! ## The law -/

/-- The slot holds a cyclic session within its idle window at the clock `arrival`. -/
structure LiveWrite (arrival : UInt16) (slot : WriteSlot) : Prop where
  inUse : slot.inUse = true
  cyclic : slot.cyclic = true
  fresh : ageWithin arrival slot.armedAt sessionIdleTimeoutMs = true

/-- A data-bearing request that is aborted, other than for the key budget, leaves the live
    session of its entry as it was. -/
def StepSurvives (gcm : Gcm) (P : Ports H) (s : Server H) : Input H → Prop
  | .request client d req replyMax => ∀ idx entry, s.sod.registry.find d = some (idx, entry) →
      LiveWrite (P.timeMs s.host).1 (s.sod.writeSlot idx) → 2 ≤ req.length →
      ∀ code, (exchange gcm P s client d req replyMax).result = .abort code →
        code ≠ abortKeyBudget →
        (step gcm P s (.request client d req replyMax)).sod.writeSlot idx = s.sod.writeSlot idx
  | _ => True

/-! ## The condition -/

/-- The frame is a Pass-2 frame that verifies, and `write_after` does not refuse it (a
    refusal with the key-budget code apart). -/
def Pass2Accepted (gcm : Gcm) (P : Ports H) (s : Sod) (host : H) (idx : Fin sodMaxEntries)
    (entry : SodEntry) (req : List UInt8) : Prop :=
  ∃ key plain, Pass2Verifies gcm P s host idx entry req key ∧
    aeadOpen gcm (pass2Call P (s.writeSlot idx) entry req key) (pass2Cipher entry req)
      (pass2Tag entry req) = some plain ∧
    ∀ rc, (P.writeAfter entry.dataId plain (keyidBase (reqHead req)) s.keys
      (hostAtWrite P (keyidBase (reqHead req)) entry.dataId host)).1 = rc →
      rc = abortNone ∨ rc = abortKeyBudget

/-- Every frame that reaches the Pass-2 path of a live session is accepted there. -/
def NoTeardown (gcm : Gcm) (P : Ports H) (s : Server H) : Input H → Prop
  | .request _ d req _ => ∀ idx entry, s.sod.registry.find d = some (idx, entry) →
      LiveWrite (P.timeMs s.host).1 (s.sod.writeSlot idx) →
      carriesData (s.sod.writeSlot idx) entry req →
      Pass2Accepted gcm P s.sod s.host idx entry req
  | _ => True

/-! ## One frame -/

section Frame

variable {s s' : Sod} {host : H} {idx : Fin sodMaxEntries} {entry : SodEntry} {client : UInt16}
  {arrival : UInt16} {d : UInt32} {req : List UInt8} {replyMax : Nat} {log : List Event}
  {r : SodResult}

/-- A long request that the write side does not take leaves the write slot. -/
theorem writeSlot_unclaimed (h : Move gcm P client req arrival s idx entry log r s')
    (hlen : 2 ≤ req.length)
    (hno : ¬ (entry.hasWo = true ∧ (entry.hasRo = true → req.length ≠ readChallengeLen))) :
    s'.writeSlot idx = s.writeSlot idx := by
  have hlong : readChallengeLen < req.length → entry.hasWo = true → False := by
    intro hlen hwo
    exact hno ⟨hwo, fun _ => by omega⟩
  cases h with
  | writeArmed wo len => omega
  | pass2Dropped wo inUse len idle notPoll passive =>
      refine absurd ⟨wo, fun hro hlen => ?_⟩ hno
      simp [readAnswers, hro, hlen] at idle
  | pass2Forged checked => exact (hlong (pass2Len_long checked.len) checked.wo).elim
  | pass2Refused checked => exact (hlong (pass2Len_long checked.len) checked.wo).elim
  | pass2Once checked => exact (hlong (pass2Len_long checked.len) checked.wo).elim
  | pass2Cyclic checked => exact (hlong (pass2Len_long checked.len) checked.wo).elim
  | writeLapsed wo len => exact (hlong (pollLen_long len) wo).elim
  | writePolled checked => exact (hlong (pollLen_long checked.len) checked.wo).elim
  | _ => rfl

/-- The Pass-2 path ends a session, unless it accepts the frame. -/
theorem pass2_ends (hf : s.registry.find d = some (idx, entry))
    (hdata : carriesData (s.writeSlot idx) entry req) :
    wp (sodDispatch gcm P client d req replyMax)
      (fun r w => (∃ code, r = .abort code ∧ code ≠ abortKeyBudget ∧
          (w.sod.writeSlot idx).inUse = false ∧
          ¬ Pass2Accepted gcm P s host idx entry req) ∨
        ((∀ code, r = .abort code → code = abortKeyBudget) ∧
          Pass2Accepted gcm P s host idx entry req)) ⟨s, host, []⟩ := by
  obtain ⟨hwo, hlen, hchallenge, hpoll⟩ := hdata
  have hnotPoll : ¬ (req.length = pollLen entry ∧ (s.writeSlot idx).inUse = true ∧
      (s.writeSlot idx).cyclic = true) := by
    rintro ⟨hp, -, hc⟩
    rw [hpoll hp] at hc
    cases hc
  rw [sodDispatch_data hf hwo hlen hchallenge, if_neg hnotPoll]
  refine wp_mono (verifyAndApplyWrite_outcome hwo) fun r w hout => ?_
  cases hout with
  | rejected bad code_ne silent down =>
      refine .inl ⟨_, rfl, code_ne, down, ?_⟩
      rintro ⟨key, plain, hverifies, -, -⟩
      exact bad key hverifies
  | @refused key plain rc rest w verifies opened hook refusal wrote down =>
      by_cases hrc : rc = abortKeyBudget
      · refine .inr ⟨fun code hcode => ?_, key, plain, verifies, opened, fun rc' hrc' => ?_⟩
        · cases hcode
          exact hrc
        · rw [hook] at hrc'
          exact .inr (hrc'.symm.trans hrc)
      · refine .inl ⟨rc, rfl, hrc, down, ?_⟩
        rintro ⟨key', plain', hverifies, hopened, hcodes⟩
        -- the key installed and the plaintext are the ones the handler found
        obtain rfl : key = key' :=
          Option.some.inj (verifies.installed.symm.trans hverifies.installed)
        obtain rfl : plain = plain' := Option.some.inj (opened.symm.trans hopened)
        rw [hook] at hcodes
        rcases hcodes rc rfl with h | h
        · exact refusal h
        · exact hrc h
  | @applied key plain rest w verifies opened hook wrote =>
      refine .inr ⟨fun code hcode => (by cases hcode), key, plain, verifies, opened, ?_⟩
      intro rc' hrc'
      rw [hook] at hrc'
      exact .inl hrc'.symm

/-- A frame that stays away from the Pass-2 path leaves a live session, unless the key
    budget ends it. -/
theorem poll_survives (hf : s.registry.find d = some (idx, entry))
    (hlive : LiveWrite (P.timeMs host).1 (s.writeSlot idx)) (hlen : 2 ≤ req.length)
    (hdata : ¬ carriesData (s.writeSlot idx) entry req) :
    wp (sodDispatch gcm P client d req replyMax)
      (fun r w => ∀ code, r = .abort code → code ≠ abortKeyBudget →
        w.sod.writeSlot idx = s.writeSlot idx) ⟨s, host, []⟩ := by
  by_cases hwrite : entry.hasWo = true ∧ (entry.hasRo = true → req.length ≠ readChallengeLen)
  · obtain ⟨hwo, hchallenge⟩ := hwrite
    rw [sodDispatch_data hf hwo hlen hchallenge, wp_ite]
    refine ⟨fun _ => ?_, fun hpoll => absurd ⟨hwo, hlen, hchallenge, fun hp => ?_⟩ hdata⟩
    · refine wp_mono (handleWritePoll_outcome hwo) fun r w hout => ?_
      intro code hcode hne
      cases hout with
      | rejected bad passive silent same => rw [same]
      | forged reaches opened silent same tried => rw [same]
      | lapsed bad why passive silent down =>
          cases hcode
          rcases why with hstale | hbudget
          · rw [hlive.fresh] at hstale
            cases hstale
          · exact absurd hbudget hne
      | refused verifies opened hook refusal wrote same tried => rw [same]
      | applied verifies opened hook wrote tried => cases hcode
    · exact absurd ⟨hp, hlive.inUse, hlive.cyclic⟩ hpoll
  · refine wp_mono (sodDispatch_move (w := ⟨s, host, []⟩) hf) fun r w hmove => ?_
    intro code _ _
    obtain ⟨log, -, hmove⟩ := hmove
    exact writeSlot_unclaimed hmove hlen hwrite

/-- A poll that verifies, and that `write_after` accepts, is answered. -/
theorem poll_answered {key : Key} {plain : List UInt8}
    (hf : s.registry.find d = some (idx, entry))
    (hv : WritePollVerifies gcm P s host idx entry client req key)
    (hopen : aeadOpen gcm (writePollCall P (s.writeSlot idx) entry key)
      (writePollCipher entry req) (writePollTag entry req) = some plain)
    (hook : (P.writeAfter entry.dataId plain s.lastWriteKid s.keys
      (hostAtWrite P (keyidBase (s.writeSlot idx).keyId) entry.dataId host)).1 = abortNone) :
    wp (sodDispatch gcm P client d req replyMax) (fun r _ => r = .ok []) ⟨s, host, []⟩ := by
  have hlong := pollLen_long hv.len
  have hlimit : readChallengeLen = 13 := rfl
  rw [sodDispatch_data hf hv.wo (by omega) fun _ => by omega,
    if_pos ⟨hv.len, hv.inUse, hv.cyclic⟩]
  refine wp_mono (handleWritePoll_outcome hv.wo) fun r w hout => ?_
  cases hout with
  | rejected bad passive silent same => exact absurd hv.toWritePollReaches (bad key)
  | lapsed bad why passive silent down => exact absurd hv.toWritePollReaches (bad key)
  | @forged key' w reaches opened silent same tried =>
      obtain rfl : key = key' := Option.some.inj (hv.installed.symm.trans reaches.installed)
      exact absurd opened hv.opened
  | @refused key' plain' rc rest w verifies opened hook' refusal wrote same tried =>
      obtain rfl : key = key' := Option.some.inj (hv.installed.symm.trans verifies.installed)
      obtain rfl : plain = plain' := Option.some.inj (hopen.symm.trans opened)
      rw [hook'] at hook
      exact absurd hook refusal
  | applied verifies opened hook' wrote tried => rfl

end Frame

/-! ## Steps and runs -/

/-- A step keeps the live session it meets exactly when it serves no such frame. -/
theorem stepSurvives_iff (s : Server H) (a : Input H) :
    StepSurvives gcm P s a ↔ NoTeardown gcm P s a := by
  cases a with
  | request client d req replyMax =>
      constructor
      · rintro hsurvives idx entry hf hlive hdata
        have hends : wp (sodDispatch gcm P client d req replyMax) _ ⟨s.sod, s.host, []⟩ :=
          pass2_ends hf hdata
        rcases hends with ⟨code, hcode, hne, hdown, -⟩ | ⟨-, haccepted⟩
        · -- the slot would be down, and it has to be the live one
          have hsame := hsurvives idx entry hf hlive hdata.2.1 code hcode hne
          have hup := hlive.inUse
          rw [← hsame] at hup
          exact absurd hdown (by simpa [step, serve] using hup)
        · exact haccepted
      · rintro hkeep idx entry hf hlive hlen code hcode hne
        by_cases hdata : carriesData (s.sod.writeSlot idx) entry req
        · have hends : wp (sodDispatch gcm P client d req replyMax) _ ⟨s.sod, s.host, []⟩ :=
            pass2_ends hf hdata
          rcases hends with ⟨-, -, -, -, hnot⟩ | ⟨hbudget, -⟩
          · exact absurd (hkeep idx entry hf hlive hdata) hnot
          · exact absurd (hbudget code hcode) hne
        · exact poll_survives hf hlive hlen hdata code hcode hne
  | registerEntry | setKeyEx | clearKeys | application => exact iff_of_true trivial trivial

/-- The next poll of a step's state: when it verifies there and `write_after` accepts its
    data, it is answered. -/
def NextPollAnswered (gcm : Gcm) (P : Ports H) (s : Server H) : Prop :=
  ∀ client d req replyMax idx entry key plain, s.sod.registry.find d = some (idx, entry) →
    WritePollVerifies gcm P s.sod s.host idx entry client req key →
    aeadOpen gcm (writePollCall P (s.sod.writeSlot idx) entry key) (writePollCipher entry req)
      (writePollTag entry req) = some plain →
    (P.writeAfter entry.dataId plain s.sod.lastWriteKid s.sod.keys
      (hostAtWrite P (keyidBase (s.sod.writeSlot idx).keyId) entry.dataId s.host)).1 =
        abortNone →
    (exchange gcm P s client d req replyMax).result = .ok []

/-- **Survival, exactly.**  In every run, every refused data-bearing frame leaves the live
    session it meets as it was if and only if every frame that reaches the Pass-2 path of
    a live session is accepted there.  And in every state a poll of a session with the
    expected counter, an installed key and a right tag is answered. -/
theorem survives_iff (gcm : Gcm) (P : Ports H) (host : H) (inputs : List (Input H)) :
    (Along (step gcm P) (StepSurvives gcm P) (boot host) inputs ↔
      Along (step gcm P) (NoTeardown gcm P) (boot host) inputs) ∧
    NextPollAnswered gcm P (after gcm P host inputs) := by
  refine ⟨along_congr stepSurvives_iff, ?_⟩
  intro client d req replyMax idx entry key plain hf hv hopen hook
  exact poll_answered hf hv hopen hook

/-! ## A worked run -/

/-- **A stray frame.**  Two bytes of client 21 tear down the session of client 20. -/
theorem stray_frame :
    ¬ Along (step sampleGcm sampleReader) (StepSurvives sampleGcm sampleReader)
      (boot [sampleRand 9]) (sampleSession ++ [.request 21 0x20100000 [0, 0] 64]) := by
  rw [along_append]
  rintro ⟨-, hlast, -⟩
  replace hlast : StepSurvives sampleGcm sampleReader
      (after sampleGcm sampleReader [sampleRand 9] sampleSession)
      (.request 21 0x20100000 [0, 0] 64) := hlast
  have hup : ((after sampleGcm sampleReader [sampleRand 9] sampleSession).sod.writeSlot 0).inUse =
      true := by decide +kernel
  have hdown : ((step sampleGcm sampleReader
      (after sampleGcm sampleReader [sampleRand 9] sampleSession)
      (.request 21 0x20100000 [0, 0] 64)).sod.writeSlot 0).inUse = false := by decide +kernel
  have hsame := hlast 0 sampleEntry (by decide +kernel)
    ⟨by decide +kernel, by decide +kernel, by decide +kernel⟩ (by decide) abortLenTooLow
    (by decide +kernel) (by decide)
  rw [hsame, hup] at hdown
  cases hdown

end SofaWriteSurvival
