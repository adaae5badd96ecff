import Sofa.Isolation
import Sofa.ReadSession
import Sofa.WriteFrames

/-! # What the server accepts, and what it checked first

    An exchange is accepted when the read side answers it, or when a frame of it verifies and
    reaches `write_after`.  This file says what each acceptance rests on, as facts about the
    state the request finds:

    * **`served_cases`**, **`readPoll_fresh`**: the fetches and the polls the read side answers;
    * **`applied_verifies`**: the frames the write side applies, each kind on its own path. -/

namespace SofaAccepted

open ByteBlock SofaConfig SofaAead SofaOd SofaMoves SofaServer SofaWrites SofaReads SofaReadSession
  SofaIsolation SofaWriteFrames StateWp

variable {H : Type} {gcm : Gcm} {P : Ports H}

/-- The read side answered a fetch or a poll. -/
def servedRead (x : Exchange) : Prop :=
  (∃ reply, x.result = .ok reply) ∧ x.req.length ≤ 1 ∧ issued x = false

instance (x : Exchange) : Decidable (servedRead x) :=
  decidable_of_iff ((match x.result with | .ok _ => true | _ => false) = true ∧
    x.req.length ≤ 1 ∧ issued x = false) (by
      unfold servedRead
      cases x.result <;> simp)

section Accepted

variable {s s' : Sod} {host : H} {idx : Fin sodMaxEntries} {entry : SodEntry} {client : UInt16}
  {arrival : UInt16} {d : UInt32} {req : List UInt8} {replyMax : Nat} {log : List Event}
  {r : SodResult}

/-- What the read side answers is a fetch that is fresh on arrival, or a poll whose session
    key is installed. -/
theorem served_cases (h : Move gcm P client req arrival s idx entry log r s')
    (hserved : servedRead ⟨client, d, req, r, log⟩) :
    ((s.readSlot idx).inUse = true ∧ fetches arrival (s.readSlot idx) entry req) ∨
      pollsRead (s.readSlot idx) entry req = true ∧
        ∃ key, s.keys.getKey (keyidBase (s.readSlot idx).keyId) = some key := by
  obtain ⟨⟨reply, hreply⟩, hlen, hissued⟩ := hserved
  replace hlen : req.length ≤ 1 := hlen
  replace hreply : r = .ok reply := hreply
  have hlong : ¬ readChallengeLen < req.length := by
    have hlimit : readChallengeLen = 13 := rfl
    omega
  cases h with
  | fetchedOnce ro empty inUse ready fresh single => exact .inl ⟨inUse, ro, empty, ready, fresh⟩
  | fetchedCyclic ro empty inUse ready fresh cyclic => exact .inl ⟨inUse, ro, empty, ready, fresh⟩
  | readPolled checked passive clock gate source sealed =>
      refine .inr ⟨?_, _, checked.installed⟩
      simp [pollsRead, checked.ro, checked.len, checked.inUse, checked.cyclic]
  | writeArmed wo len idle kid binding passive passive' gate guard =>
      simp [issued, drawn] at hissued
  | pass2Once checked opened hook single => exact absurd (pass2Len_long checked.len) hlong
  | pass2Cyclic checked opened hook cyclic => exact absurd (pass2Len_long checked.len) hlong
  | writePolled checked opened hook => exact absurd (pollLen_long checked.len) hlong
  | _ => cases hreply

/-- A read poll is answered only within the idle time-out, by the clock of its arrival. -/
theorem readPoll_fresh (hf : s.registry.find d = some (idx, entry))
    (hpoll : pollsRead (s.readSlot idx) entry req = true) :
    wp (sodDispatch gcm P client d req replyMax)
      (fun r _ => (∃ reply, r = .ok reply) →
        ageWithin (P.timeMs host).1 (s.readSlot idx).armedAt sessionIdleTimeoutMs = true)
      ⟨s, host, []⟩ := by
  by_cases hage : ageWithin (P.timeMs host).1 (s.readSlot idx).armedAt sessionIdleTimeoutMs = true
  · exact fun _ => hage
  have hlive : (s.readSlot idx).inUse = true ∧ (s.readSlot idx).cyclic = true := by
    simp only [pollsRead, Bool.and_eq_true] at hpoll
    exact ⟨hpoll.1.2, hpoll.2⟩
  -- a stale session is torn down before anything else is looked at
  have hstale : wp (handleReadPoll gcm P idx entry client req replyMax)
      (fun r _ => ∃ code, r = .abort code) ⟨s, host, []⟩ := by
    unfold handleReadPoll
    simp only [wp_ite, wp_pure, wp_bind, wp_getReadSlot, wp_sessionIsFresh, wp_setReadSlot]
    refine ⟨fun _ => ⟨_, rfl⟩, fun _ => ⟨fun _ => ⟨_, rfl⟩, fun _ now host' hclock => ?_⟩⟩
    obtain rfl : (P.timeMs host).1 = now := congrArg (·.1) hclock
    exact ⟨fun _ => ⟨_, rfl⟩, fun hfresh => absurd (by simpa using hfresh) hage⟩
  rw [wp_sodDispatch hf]
  have hgoal : wp (handleReadPoll gcm P idx entry client req replyMax)
      (fun r _ => (∃ reply, r = .ok reply) →
        ageWithin (P.timeMs host).1 (s.readSlot idx).armedAt sessionIdleTimeoutMs = true)
      ⟨s, host, []⟩ := by
    refine wp_mono hstale ?_
    rintro r w ⟨code, rfl⟩ ⟨reply, hreply⟩
    cases hreply
  refine (wp_ite _ _ _).mpr ⟨fun _ => hgoal, fun hno => absurd hpoll hno⟩

theorem appliedFrames_unwritten {l : List Event} (h : ∀ e ∈ l, isWriteAfter e = false) :
    appliedFrames l = [] := by
  induction l with
  | nil => rfl
  | cons e l ih =>
      rw [List.forall_mem_cons] at h
      rw [appliedFrames]
      · exact ih h.2
      · rintro call cipher tag plain d src kid rc rest rfl rfl
        exact absurd (h.2 _ List.mem_cons_self) (by simp [isWriteAfter])

theorem silent_unwritten {l : List Event} (h : ∀ e ∈ l, EventSilent e) :
    ∀ e ∈ l, isWriteAfter e = false := by
  intro e he
  have := h e he
  cases e with
  | writeAfter => cases this
  | _ => rfl

/-- On the Pass-2 path only a frame that verifies is written. -/
theorem pass2_written (hf : s.registry.find d = some (idx, entry)) (hwo : entry.hasWo = true)
    (hlen : req.length = pass2Len entry) :
    wp (sodDispatch gcm P client d req replyMax)
      (fun _ w => (∀ e ∈ w.log, isWriteAfter e = false) ∨
        ∃ key, Pass2Verifies gcm P s host idx entry req key) ⟨s, host, []⟩ := by
  have hlong := pass2Len_long hlen
  have hlimit : readChallengeLen = 13 := rfl
  have hpoll : req.length ≠ pollLen entry := by
    rw [pass2Len_eq] at hlen
    rw [pollLen_eq]
    omega
  rw [sodDispatch_data hf hwo (by omega) fun _ => by omega, if_neg fun h => hpoll h.1]
  refine wp_mono (verifyAndApplyWrite_outcome hwo) fun r w hout => ?_
  cases hout with
  | rejected bad code_ne silent down => exact .inl (silent_unwritten silent)
  | refused verifies opened hook refusal wrote down => exact .inr ⟨_, verifies⟩
  | applied verifies opened hook wrote => exact .inr ⟨_, verifies⟩

/-- On the poll path only a poll that verifies is written. -/
theorem poll_written (hf : s.registry.find d = some (idx, entry)) (hwo : entry.hasWo = true)
    (hlen : req.length = pollLen entry) (huse : (s.writeSlot idx).inUse = true)
    (hcyc : (s.writeSlot idx).cyclic = true) :
    wp (sodDispatch gcm P client d req replyMax)
      (fun _ w => (∀ e ∈ w.log, isWriteAfter e = false) ∨
        ∃ key, WritePollVerifies gcm P s host idx entry client req key) ⟨s, host, []⟩ := by
  have hlong := pollLen_long hlen
  have hlimit : readChallengeLen = 13 := rfl
  rw [sodDispatch_data hf hwo (by omega) fun _ => by omega, if_pos ⟨hlen, huse, hcyc⟩]
  refine wp_mono (handleWritePoll_outcome hwo) fun r w hout => ?_
  cases hout with
  | rejected bad passive silent same => exact .inl (silent_unwritten silent)
  | lapsed bad why passive silent down => exact .inl (silent_unwritten silent)
  | forged reaches opened silent same tried => exact .inl (silent_unwritten silent)
  | refused verifies opened hook refusal wrote same tried => exact .inr ⟨_, verifies⟩
  | applied verifies opened hook wrote tried => exact .inr ⟨_, verifies⟩

/-- **An applied frame verified** at the clock of its arrival, each kind on its own path. -/
theorem applied_verifies (hf : s.registry.find d = some (idx, entry)) :
    wp (sodDispatch gcm P client d req replyMax)
      (fun _ w => ∀ f ∈ appliedFrames w.log,
        (f.call.direction = dirWriteRequest ∧
          ∃ key, Pass2Verifies gcm P s host idx entry req key) ∨
        (f.call.direction = dirWritePollRequest ∧
          ∃ key, WritePollVerifies gcm P s host idx entry client req key)) ⟨s, host, []⟩ := by
  have hmove : wp (sodDispatch gcm P client d req replyMax) _ ⟨s, host, []⟩ :=
    sodDispatch_move hf
  obtain ⟨log, hlog, hm⟩ := hmove
  rw [List.nil_append] at hlog
  show ∀ f ∈ appliedFrames (sodDispatch gcm P client d req replyMax ⟨s, host, []⟩).2.log, _
  rw [hlog]
  intro f hmem
  rcases apply_cases hm with ⟨hnone, -⟩ | ⟨f', plain, kid, rc, happlied⟩
  · rw [appliedFrames_unwritten hnone] at hmem
    cases hmem
  obtain rfl : f = f' := by
    rw [happlied.frames] at hmem
    simpa using hmem
  have hwritten : ¬ ∀ e ∈ log, isWriteAfter e = false := by
    intro h
    rw [appliedFrames_unwritten h] at hmem
    cases hmem
  rcases happlied.frame with ⟨now, key, hchecked, rfl, -⟩ | ⟨now, key, hchecked, rfl, -⟩
  · have hv : wp (sodDispatch gcm P client d req replyMax) _ ⟨s, host, []⟩ :=
      pass2_written hf hchecked.wo hchecked.len
    rw [wp, hlog] at hv
    exact .inl ⟨rfl, hv.resolve_left hwritten⟩
  · have hv : wp (sodDispatch gcm P client d req replyMax) _ ⟨s, host, []⟩ :=
      poll_written hf hchecked.wo hchecked.len hchecked.inUse hchecked.cyclic
    rw [wp, hlog] at hv
    exact .inr ⟨rfl, hv.resolve_left hwritten⟩

end Accepted

end SofaAccepted
