import Sofa.Calls
import Sofa.WriteFrames

/-! # The access gate

    `fbsec_sod_port_access_allowed` is the application's gate before any read or
    write of an entry.  It may change its mind at any moment, so the answer that
    counts is the one given in the dispatch that makes the access.

    The read side asks the gate again for every challenge and every poll.  The write
    side asks it when a challenge is issued, and neither a Pass-2 frame nor a write
    poll asks it again.  The headline, `gated_iff`: along any run every access is
    gated exactly when no frame that verifies is served on a write slot;
    `closed_gate_write` is a run in which the gate closes between the challenge and
    the frame. -/

namespace SofaAccessGate

open ByteBlock SofaConfig SofaAead SofaOd SofaMoves SofaServer SofaReads SofaWrites
  SofaWriteFrames SofaCalls StateWp Machine

variable {H : Type} {gcm : Gcm} {P : Ports H}

/-! ## The law -/

/-- Every access in a call log has an open gate for the same data id and operation
    before it. -/
structure Gated (calls : List Event) : Prop where
  reads : ∀ pre post d rc bytes, calls = pre ++ .readBefore d rc bytes :: post →
    .accessAllowed .read d true ∈ pre
  writes : ∀ pre post d src kid rc, calls = pre ++ .writeAfter d src kid rc :: post →
    .accessAllowed .write d true ∈ pre

/-- The law of one step: a dispatch only makes accesses it has just been allowed. -/
def StepGated (gcm : Gcm) (P : Ports H) (s : Server H) : Input H → Prop
  | .request client d req replyMax => Gated (exchange gcm P s client d req replyMax).calls
  | _ => True

/-! ## The condition -/

/-- The step serves no frame that verifies on a write slot. -/
def NoVerifiedFrame (gcm : Gcm) (P : Ports H) (s : Server H) : Input H → Prop
  | .request client d req _ => ∀ idx entry key, s.sod.registry.find d = some (idx, entry) →
      ¬ Pass2Verifies gcm P s.sod s.host idx entry req key ∧
        ¬ WritePollVerifies gcm P s.sod s.host idx entry client req key
  | _ => True

/-! ## Gated call logs -/

/-- Calls that are no access. -/
def EventHarmless : Event → Prop
  | .readBefore .. | .writeAfter .. => False
  | _ => True

theorem gated_nil : Gated [] := ⟨by simp, by simp⟩

/-- The last event of a list, against a split of it. -/
theorem concat_split {l pre post : List Event} {e x : Event} (h : l ++ [e] = pre ++ x :: post) :
    (e = x ∧ l = pre) ∨ ∃ post', l = pre ++ x :: post' := by
  induction post using List.reverseRecOn with
  | nil =>
      left
      have := List.append_inj' h rfl
      simp_all
  | append_singleton post y _ =>
      right
      have hassoc : pre ++ x :: (post ++ [y]) = (pre ++ x :: post) ++ [y] := by simp
      rw [hassoc] at h
      exact ⟨post, (List.append_inj' h rfl).1⟩

theorem Gated.harmless {l : List Event} {e : Event} (h : Gated l) (he : EventHarmless e) :
    Gated (l ++ [e]) := by
  constructor
  · intro pre post d rc bytes hsplit
    rcases concat_split hsplit with ⟨rfl, -⟩ | ⟨post', hl⟩
    · exact absurd he (by simp [EventHarmless])
    · exact h.reads _ _ _ _ _ hl
  · intro pre post d src kid rc hsplit
    rcases concat_split hsplit with ⟨rfl, -⟩ | ⟨post', hl⟩
    · exact absurd he (by simp [EventHarmless])
    · exact h.writes _ _ _ _ _ _ hl

theorem Gated.read {l : List Event} {d : UInt32} (h : Gated l)
    (hgate : .accessAllowed .read d true ∈ l) (rc : Abort) (bytes : List UInt8) :
    Gated (l ++ [.readBefore d rc bytes]) := by
  constructor
  · intro pre post d' rc' bytes' hsplit
    rcases concat_split hsplit with ⟨he, rfl⟩ | ⟨post', hl⟩
    · cases he
      exact hgate
    · exact h.reads _ _ _ _ _ hl
  · intro pre post d' src kid rc' hsplit
    rcases concat_split hsplit with ⟨he, -⟩ | ⟨post', hl⟩
    · cases he
    · exact h.writes _ _ _ _ _ _ hl

/-- A log without accesses is gated. -/
theorem gated_harmless {l : List Event} (h : ∀ e ∈ l, EventHarmless e) : Gated l := by
  induction l using List.reverseRecOn with
  | nil => exact gated_nil
  | append_singleton l e ih =>
      exact (ih fun x hx => h x (by simp [hx])).harmless (h e (by simp))

/-- A write without any gate before it. -/
theorem not_gated_write {l : List Event} (h : WroteUngated l) : ¬ Gated l := by
  rintro hg
  obtain ⟨pre, post, d, src, kid, rc, rfl, hsilent⟩ := h
  exact hsilent _ (hg.writes _ _ _ _ _ _ rfl)

theorem gated_silent {l : List Event} (h : ∀ e ∈ l, EventSilent e) : Gated l := by
  refine gated_harmless fun e he => ?_
  have hsilent := h e he
  cases e <;> simp_all [EventSilent, EventHarmless]

/-- A gated log that writes an entry has asked for it. -/
theorem Gated.write_mem {l : List Event} {d : UInt32} {src : List UInt8} {kid : UInt8}
    {rc : Abort} (h : Gated l) (hmem : .writeAfter d src kid rc ∈ l) :
    .accessAllowed .write d true ∈ l := by
  obtain ⟨pre, post, rfl⟩ := List.append_of_mem hmem
  exact List.mem_append_left _ (h.writes _ _ _ _ _ _ rfl)

/-! ## The read side and the arming of writes -/

/-- The log so far is gated, and when a data id is named, its read gate is open. -/
def GateOpen (d : Option UInt32) (w : World H) : Prop :=
  Gated w.log ∧ ∀ x ∈ d, .accessAllowed .read x true ∈ w.log

theorem GateOpen.closed {d : Option UInt32} {w : World H} (h : GateOpen d w) :
    GateOpen none w := ⟨h.1, by simp⟩

theorem GateOpen.harmless {d : Option UInt32} {w w' : World H} {e : Event} (h : GateOpen d w)
    (hlog : w'.log = w.log ++ [e]) (he : EventHarmless e) : GateOpen d w' := by
  refine ⟨?_, fun x hx => ?_⟩
  · rw [hlog]
    exact h.1.harmless he
  · rw [hlog]
    exact List.mem_append_left _ (h.2 x hx)

/-- **Every call but a write keeps it.** -/
theorem gateOpen_stable (gcm : Gcm) (P : Ports H) (d : UInt32) : Stable gcm P d GateOpen where
  time _ _ h := h.harmless rfl trivial
  random _ _ h := h.harmless rfl trivial
  access _ _ _ _ h := h.harmless rfl trivial
  role _ _ _ _ _ h := h.harmless rfl trivial
  callSeal _ _ _ _ h := h.harmless rfl trivial
  callOpen _ _ _ _ _ h := h.harmless rfl trivial
  state _ _ _ h := h
  gate w h := by
    rw [wp_portAccessAllowed]
    rintro ok host - rfl
    refine ⟨h.1.harmless trivial, ?_⟩
    simp
  close _ h := h.closed
  source w h := by
    refine ⟨h.1.read (h.2 d rfl) _ _, fun y hy => ?_⟩
    exact List.mem_append_left _ (h.2 y hy)

/-! ## Data-bearing frames -/

section Frames

variable {s : Sod} {host : H} {idx : Fin sodMaxEntries} {entry : SodEntry} {client : UInt16}
  {req : List UInt8}

/-- The Pass-2 path makes an access, without a gate, exactly when the frame verifies. -/
theorem verifyAndApplyWrite_gated (hwo : entry.hasWo = true) :
    wp (verifyAndApplyWrite gcm P idx entry req)
      (fun _ w => Gated w.log ↔ ∀ key, ¬ Pass2Verifies gcm P s host idx entry req key)
      ⟨s, host, []⟩ := by
  refine wp_mono (verifyAndApplyWrite_outcome hwo) fun r w hout => ?_
  cases hout with
  | rejected bad code_ne silent down => exact iff_of_true (gated_silent silent) bad
  | refused verifies opened hook refusal wrote down =>
      exact iff_of_false (not_gated_write wrote) fun h => h _ verifies
  | applied verifies opened hook wrote =>
      exact iff_of_false (not_gated_write wrote) fun h => h _ verifies

/-- The poll path makes an access, without a gate, exactly when the poll verifies. -/
theorem handleWritePoll_gated (hwo : entry.hasWo = true) :
    wp (handleWritePoll gcm P idx entry client req)
      (fun _ w => Gated w.log ↔ ∀ key, ¬ WritePollVerifies gcm P s host idx entry client req key)
      ⟨s, host, []⟩ := by
  refine wp_mono (handleWritePoll_outcome hwo) fun r w hout => ?_
  cases hout with
  | rejected bad passive silent same =>
      exact iff_of_true (gated_silent silent) fun key hv => bad key hv.toWritePollReaches
  | lapsed bad why passive silent down =>
      exact iff_of_true (gated_silent silent) fun key hv => bad key hv.toWritePollReaches
  | @forged key w reaches opened silent same tried =>
      refine iff_of_true (gated_silent silent) fun key' hv => ?_
      obtain rfl : key = key' := Option.some.inj (reaches.installed.symm.trans hv.installed)
      exact hv.opened opened
  | refused verifies opened hook refusal wrote same tried =>
      exact iff_of_false (not_gated_write wrote) fun h => h _ verifies
  | applied verifies opened hook wrote tried =>
      exact iff_of_false (not_gated_write wrote) fun h => h _ verifies

end Frames

/-! ## The dispatcher -/

section Dispatch

variable {s : Sod} {host : H} {client : UInt16} {d : UInt32} {req : List UInt8} {replyMax : Nat}
  {idx : Fin sodMaxEntries} {entry : SodEntry}

/-- **One dispatch** is gated exactly when it serves no frame that verifies. -/
theorem sodDispatch_gated (hf : s.registry.find d = some (idx, entry)) :
    wp (sodDispatch gcm P client d req replyMax)
      (fun _ w => Gated w.log ↔ ∀ key, ¬ Pass2Verifies gcm P s host idx entry req key ∧
        ¬ WritePollVerifies gcm P s host idx entry client req key) ⟨s, host, []⟩ := by
  have hstart : GateOpen none (⟨s, host, []⟩ : World H) := ⟨gated_nil, by simp⟩
  -- frames that verify are long, so a shorter request only meets kept handlers
  have hshort : ∀ {m : SodM H SodResult}, Keeps (GateOpen none) m →
      (entry.hasWo = true → req.length ≤ readChallengeLen) →
      wp m (fun _ w => Gated w.log ↔ ∀ key, ¬ Pass2Verifies gcm P s host idx entry req key ∧
        ¬ WritePollVerifies gcm P s host idx entry client req key) ⟨s, host, []⟩ := by
    intro m hm hlen
    refine iff_of_true (hm _ hstart).1 fun key => ⟨fun hv => ?_, fun hv => ?_⟩
    · have := pass2Len_long hv.len
      have := hlen hv.wo
      omega
    · have := pollLen_long hv.len
      have := hlen hv.wo
      omega
  have hlimit : readChallengeLen = 13 := rfl
  by_cases hdata : entry.hasWo = true ∧ 2 ≤ req.length ∧
      (entry.hasRo = true → req.length ≠ readChallengeLen)
  · obtain ⟨hwo, hlen, hchallenge⟩ := hdata
    rw [sodDispatch_data hf hwo hlen hchallenge, wp_ite]
    refine ⟨fun hpoll => ?_, fun hpoll => ?_⟩
    · refine wp_mono (handleWritePoll_gated hwo) fun _ w hw => hw.trans ?_
      refine forall_congr' fun key => ⟨fun h => ⟨fun hv => ?_, h⟩, fun h => h.2⟩
      -- the length of a poll is not that of a Pass-2 frame
      have hpass2 := hv.len
      have hpollLen := hpoll.1
      rw [pass2Len_eq] at hpass2
      rw [pollLen_eq] at hpollLen
      omega
    · refine wp_mono (verifyAndApplyWrite_gated hwo) fun _ w hw => hw.trans ?_
      refine forall_congr' fun key => ⟨fun h => ⟨h, fun hv => hpoll ?_⟩, fun h => h.1⟩
      exact ⟨hv.len, hv.inUse, hv.cyclic⟩
  · have hlen : entry.hasWo = true →
        req.length ≤ 1 ∨ entry.hasRo = true ∧ req.length = readChallengeLen := by
      intro hwo
      by_cases hro : entry.hasRo = true ∧ req.length = readChallengeLen
      · exact .inr hro
      · left
        by_contra hlong
        exact hdata ⟨hwo, by omega, fun h hc => hro ⟨h, hc⟩⟩
    have hlong : entry.hasWo = true → req.length ≤ readChallengeLen := by
      intro hwo
      rcases hlen hwo with h | h
      · omega
      · exact le_of_eq h.2
    rw [wp_sodDispatch hf, wp_ite, wp_ite]
    refine ⟨fun _ => hshort (gateOpen_stable gcm P _).handleReadPoll hlong,
      fun _ => ⟨fun hpoll => ?_, fun _ =>
        hshort ((gateOpen_stable gcm P _).dispatchRead_short hlen) hlong⟩⟩
    simp only [Bool.and_eq_true, beq_iff_eq] at hpoll
    have hpollLong := pollLen_long hpoll.1.1.2
    have := hlong hpoll.1.1.1
    omega

end Dispatch

/-- A step is gated exactly when it serves no frame that verifies. -/
theorem stepGated_iff (s : Server H) (a : Input H) :
    StepGated gcm P s a ↔ NoVerifiedFrame gcm P s a := by
  cases a with
  | request client d req replyMax =>
      show Gated (exchange gcm P s client d req replyMax).calls ↔ _
      cases hfind : s.sod.registry.find d with
      | none =>
          have hserve : sodDispatch gcm P client d req replyMax ⟨s.sod, s.host, []⟩ =
              (.notHandled, ⟨s.sod, s.host, []⟩) := sodDispatch_notHandled hfind
          have hcalls : (exchange gcm P s client d req replyMax).calls = [] := by
            simp only [exchange, serve, hserve]
          rw [hcalls]
          refine iff_of_true gated_nil fun idx entry key hf => ?_
          rw [hfind] at hf
          cases hf
      | some found =>
          obtain ⟨idx, entry⟩ := found
          have hgated : Gated (exchange gcm P s client d req replyMax).calls ↔ _ :=
            sodDispatch_gated hfind
          rw [hgated]
          constructor
          · rintro h i e key hf
            rw [hfind] at hf
            cases hf
            exact h key
          · rintro h key
            exact h idx entry key hfind
  | registerEntry | setKeyEx | clearKeys | application => exact iff_of_true trivial trivial

/-- **The access gate, exactly.**  In every run, whatever the gate answers over time,
    every access of every step is gated if and only if no step serves a Pass-2 frame or a
    write poll that verifies. -/
theorem gated_iff (gcm : Gcm) (P : Ports H) (host : H) (inputs : List (Input H)) :
    Along (step gcm P) (StepGated gcm P) (boot host) inputs ↔
      Along (step gcm P) (NoVerifiedFrame gcm P) (boot host) inputs :=
  along_congr stepGated_iff

/-! ## A worked run -/

/-- The host of worked runs, with a gate its application can close. -/
def sampleGatekeeper : Ports (Bool × List Rand) where
  deviceId := 1
  timeMs h := (0, h)
  random h := (h.2.head?, (h.1, h.2.tail))
  accessAllowed _ _ h := (h.1, h)
  roleAllowed _ _ _ h := (true, h)
  readBefore _ h := ((abortNone, [1, 2, 3, 4]), h)
  writeAfter _ _ _ keys h := (abortNone, keys, h)

/-- A write is challenged while the gate is open, and the gate closes. -/
def sampleClosing : List (Input (Bool × List Rand)) :=
  [.registerEntry sampleEntry, .setKeyEx 1 sampleKey 1, .request 20 0x20100000 [] 64,
    .application (false, [])]

/-- **Write behind a closed gate.**  The Pass-2 frame that answers the challenge is
    applied after the application has closed the gate. -/
theorem closed_gate_write :
    ¬ Along (step sampleGcm sampleGatekeeper) (StepGated sampleGcm sampleGatekeeper)
      (boot (true, [sampleRand 9]))
      (sampleClosing ++ [.request 20 0x20100000 (pass2Request (sampleRand 5) samplePass2) 64]) := by
  rw [along_append]
  rintro ⟨-, hlast, -⟩
  replace hlast : Gated (exchange sampleGcm sampleGatekeeper
      (after sampleGcm sampleGatekeeper (true, [sampleRand 9]) sampleClosing) 20 0x20100000
      (pass2Request (sampleRand 5) samplePass2) 64).calls := hlast
  have hasked : Event.accessAllowed .write 0x20100000 true ∈ _ :=
    hlast.write_mem (show Event.writeAfter 0x20100000 [1, 2, 3, 4] 1 0 ∈ _ by decide +kernel)
  revert hasked
  decide +kernel

end SofaAccessGate
