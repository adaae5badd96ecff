import Sofa.Calls
import Sofa.Accepted

/-! # Freshness against a real clock

    The time port counts milliseconds modulo 65536, and the ages of slots are 16-bit
    differences.  Here the port is driven by an unbounded clock, and the model keeps, next
    to each slot, the real times at which its challenge was armed and at which its exchange
    was last served.  No server reads these stamps.

    The headline, `real_time_fresh`: a run accepts no challenge later than the challenge
    time-out and no poll later than the idle time-out, as long as no request comes in the
    aliasing window of the clock and no challenge is answered in a window that a poll
    extended.  `aliased_fetch` is a fetch accepted 65536 ms late, `extended_fetch` one whose
    session was polled before its challenge was answered. -/

namespace SofaRealTime

open ByteBlock SofaConfig SofaAead SofaOd SofaMoves SofaServer SofaWrites SofaReads SofaReadSession
  SofaIsolation SofaWriteFrames SofaAccepted SofaCalls StateWp Machine

variable {H : Type} {gcm : Gcm} {P : Ports H}

/-! ## The clock -/

/-- A host, with the real time it last showed the server. -/
structure Clocked (H : Type) where
  host : H
  shown : Nat

/-- The ports `P` with a time port that shows the real time `clock`, modulo 65536. -/
def clocked (P : Ports H) (clock : H → Nat) : Ports (Clocked H) where
  deviceId := P.deviceId
  timeMs h := (UInt16.ofNat (clock h.host), ⟨(P.timeMs h.host).2, clock h.host⟩)
  random h := ((P.random h.host).1, { h with host := (P.random h.host).2 })
  accessAllowed op d h :=
    ((P.accessAllowed op d h.host).1, { h with host := (P.accessAllowed op d h.host).2 })
  roleAllowed op b d h :=
    ((P.roleAllowed op b d h.host).1, { h with host := (P.roleAllowed op b d h.host).2 })
  readBefore d h := ((P.readBefore d h.host).1, { h with host := (P.readBefore d h.host).2 })
  writeAfter d src kid keys h :=
    ((P.writeAfter d src kid keys h.host).1, (P.writeAfter d src kid keys h.host).2.1,
      { h with host := (P.writeAfter d src kid keys h.host).2.2 })

variable {clock : H → Nat}

/-- The last clock reading of a call log. -/
def lastTime (calls : List Event) : Option UInt16 :=
  (calls.filterMap fun
    | .time now => some now
    | _ => none).getLast?

theorem lastTime_append (l m : List Event) :
    lastTime (l ++ m) = (lastTime m).or (lastTime l) := by
  simp only [lastTime, List.filterMap_append, List.getLast?_append]

theorem lastTime_other {e : Event} (he : ∀ now, e ≠ .time now) : lastTime [e] = none := by
  cases e with
  | time now => exact absurd rfl (he now)
  | _ => rfl

/-- The last reading of the log is the real time last shown, modulo 65536. -/
def Shows (w : World (Clocked H)) : Prop :=
  ∀ now, lastTime w.log = some now → now = UInt16.ofNat w.host.shown

theorem Shows.other {w w' : World (Clocked H)} {e : Event} (h : Shows w)
    (he : ∀ now, e ≠ .time now) (hlog : w'.log = w.log ++ [e])
    (hshown : w'.host.shown = w.host.shown) : Shows w' := by
  intro now hnow
  rw [hlog, lastTime_append, lastTime_other he, Option.none_or] at hnow
  rw [hshown]
  exact h now hnow

theorem shows_stable (gcm : Gcm) (P : Ports H) (clock : H → Nat) (d : UInt32) :
    Stable gcm (clocked P clock) d (fun _ => Shows) where
  time _ w _ := by
    intro now hnow
    simp only [portTime, lastTime_append] at hnow
    exact (Option.some.inj hnow).symm
  random _ _ h := h.other (by simp) rfl rfl
  access _ _ _ _ h := h.other (by simp) rfl rfl
  role _ _ _ _ _ h := h.other (by simp) rfl rfl
  callSeal _ _ _ _ h := h.other (by simp) rfl rfl
  callOpen _ _ _ _ _ h := h.other (by simp) rfl rfl
  state _ _ _ h := h
  gate w h := by
    rw [wp_portAccessAllowed]
    rintro ok host hport _
    refine h.other (e := .accessAllowed .read d ok) (by simp) rfl ?_
    exact congrArg (fun r => r.2.shown) hport.symm
  close _ h := h
  source _ h := h.other (by simp) rfl rfl

/-- The readings of one dispatch. -/
theorem shown_request (s : Server (Clocked H)) (client : UInt16) (d : UInt32)
    (req : List UInt8) (replyMax : Nat) {now : UInt16}
    (h : lastTime (exchange gcm (clocked P clock) s client d req replyMax).calls = some now) :
    now = UInt16.ofNat
      (step gcm (clocked P clock) s (.request client d req replyMax)).host.shown := by
  have hkeeps : Keeps Shows (sodDispatch gcm (clocked P clock) client d req replyMax) :=
    (shows_stable gcm P clock d).sodDispatch fun _ _ h => h.other (by simp) rfl rfl
  exact hkeeps ⟨s.sod, s.host, []⟩ (fun now hnow => by cases hnow) now h

/-! ## The age test -/

/-- The gap since `since` is longer than the time-out, and the 16-bit age hides it. -/
def Aliased (timeoutMs : UInt16) (since now : Nat) : Prop :=
  timeoutMs.toNat < now - since ∧ (now - since) % 65536 ≤ timeoutMs.toNat

/-- The time-out has run out since `armed`, but not since `active`. -/
def Extended (timeoutMs : UInt16) (armed active now : Nat) : Prop :=
  armed + timeoutMs.toNat < now ∧ now ≤ active + timeoutMs.toNat

instance (t : UInt16) (since now : Nat) : Decidable (Aliased t since now) :=
  inferInstanceAs (Decidable (_ ∧ _))

instance (t : UInt16) (armed active now : Nat) : Decidable (Extended t armed active now) :=
  inferInstanceAs (Decidable (_ ∧ _))

/-- **The age test is exact outside the aliasing window.** -/
theorem age_exact {timeoutMs : UInt16} {since now : Nat}
    (hage : ageWithin (UInt16.ofNat now) (UInt16.ofNat since) timeoutMs = true)
    (halias : ¬ Aliased timeoutMs since now) : now ≤ since + timeoutMs.toNat := by
  by_contra hlate
  refine halias ⟨by omega, ?_⟩
  simp only [ageWithin, decide_eq_true_eq, UInt16.le_iff_toNat_le, UInt16.toNat_sub,
    UInt16.toNat_ofNat'] at hage
  omega

/-! ## The timed machine -/

/-- The real times behind a slot: when its challenge was armed, and when its exchange was
    last served. -/
structure Stamp where
  armed : Nat := 0
  active : Nat := 0

/-- The server, with the stamps of its slots. -/
structure Timed (H : Type) where
  server : Server (Clocked H)
  read : Fin sodMaxEntries → Stamp
  write : Fin sodMaxEntries → Stamp

/-- The stamp of the read slot after an exchange on its entry; `now` is the real time the
    exchange ended with. -/
def readStamp (x : Exchange) (now : Nat) (stamp : Stamp) : Stamp :=
  if x.result = .defer then ⟨now, now⟩
  else if servedRead x then { stamp with active := now }
  else stamp

/-- The stamp of the write slot after an exchange on its entry. -/
def writeStamp (x : Exchange) (now : Nat) (stamp : Stamp) : Stamp :=
  if issued x then ⟨now, now⟩
  else if appliedFrames x.calls ≠ [] ∧ x.result = .ok [] then { stamp with active := now }
  else stamp

/-- One input of the timed machine. -/
def timedStep (gcm : Gcm) (P : Ports H) (clock : H → Nat) (s : Timed H) :
    Input H → Timed H
  | .request client d req replyMax =>
      let x := exchange gcm (clocked P clock) s.server client d req replyMax
      let server := step gcm (clocked P clock) s.server (.request client d req replyMax)
      match s.server.sod.registry.find d with
      | none => { s with server := server }
      | some (idx, _) =>
          ⟨server, Function.update s.read idx (readStamp x server.host.shown (s.read idx)),
            Function.update s.write idx (writeStamp x server.host.shown (s.write idx))⟩
  | .registerEntry entry =>
      { s with server := step gcm (clocked P clock) s.server (.registerEntry entry) }
  | .setKeyEx keyId key idVal =>
      { s with server := step gcm (clocked P clock) s.server (.setKeyEx keyId key idVal) }
  | .clearKeys => { s with server := step gcm (clocked P clock) s.server .clearKeys }
  | .application host =>
      let clockedHost : Clocked H := ⟨host, s.server.host.shown⟩
      { s with server := step gcm (clocked P clock) s.server (.application clockedHost) }

/-- The timed machine after `fbsec_sod_init`. -/
def timedBoot (host : H) : Timed H := ⟨boot ⟨host, 0⟩, fun _ => {}, fun _ => {}⟩

/-- The real time at which the next request would arrive. -/
def Timed.now (s : Timed H) (clock : H → Nat) : Nat := clock s.server.host.host

/-! ## The law and the condition -/

/-- What one request has accepted is fresh in real time: a fetched reply and an applied
    Pass-2 frame against the arming of their challenge, a poll against the last activity
    of its session. -/
structure FreshExchange (x : Exchange) (read write : Stamp) (now : Nat) : Prop where
  fetch : servedRead x → x.req = [] → now ≤ read.armed + challengeTimeoutMs.toNat
  readPoll : servedRead x → x.req.length = 1 → now ≤ read.active + sessionIdleTimeoutMs.toNat
  pass2 : ∀ f ∈ appliedFrames x.calls, f.call.direction = dirWriteRequest →
    now ≤ write.armed + challengeTimeoutMs.toNat
  writePoll : ∀ f ∈ appliedFrames x.calls, f.call.direction = dirWritePollRequest →
    now ≤ write.active + sessionIdleTimeoutMs.toNat

/-- A request accepts only what is fresh. -/
def StepRealTime (gcm : Gcm) (P : Ports H) (clock : H → Nat) (s : Timed H) : Input H → Prop
  | .request client d req replyMax =>
      ∀ idx entry, s.server.sod.registry.find d = some (idx, entry) →
        FreshExchange (exchange gcm (clocked P clock) s.server client d req replyMax)
          (s.read idx) (s.write idx) (s.now clock)
  | _ => True

/-- A challenge is not answered in the aliasing window, nor in a window that a later
    activity extended. -/
def ChallengeInTime (stamp : Stamp) (now : Nat) : Prop :=
  ¬ Aliased challengeTimeoutMs stamp.active now ∧
    ¬ Extended challengeTimeoutMs stamp.armed stamp.active now

instance (stamp : Stamp) (now : Nat) : Decidable (ChallengeInTime stamp now) :=
  inferInstanceAs (Decidable (_ ∧ _))

/-- A session is not continued in the aliasing window. -/
def PollInTime (stamp : Stamp) (now : Nat) : Prop :=
  ¬ Aliased sessionIdleTimeoutMs stamp.active now

instance (stamp : Stamp) (now : Nat) : Decidable (PollInTime stamp now) :=
  inferInstanceAs (Decidable (¬ _))

/-- No request that meets a slot it can use comes in such a window. -/
def InTime (gcm : Gcm) (P : Ports H) (clock : H → Nat) (s : Timed H) : Input H → Prop
  | .request client d req _ =>
      ∀ idx entry, s.server.sod.registry.find d = some (idx, entry) →
        let sod := s.server.sod
        let arrival := UInt16.ofNat (s.now clock)
        ((sod.readSlot idx).inUse = true → fetches arrival (sod.readSlot idx) entry req →
          ChallengeInTime (s.read idx) (s.now clock)) ∧
        (pollsRead (sod.readSlot idx) entry req = true →
          ageWithin arrival (sod.readSlot idx).armedAt sessionIdleTimeoutMs = true →
          PollInTime (s.read idx) (s.now clock)) ∧
        ∀ key,
          (Pass2Verifies gcm (clocked P clock) sod s.server.host idx entry req key →
            ChallengeInTime (s.write idx) (s.now clock)) ∧
          (WritePollVerifies gcm (clocked P clock) sod s.server.host idx entry client req key →
            PollInTime (s.write idx) (s.now clock))
  | _ => True

/-! ## The stamps are the slots' marks -/

/-- The mark of every slot in use is its last activity, modulo 65536. -/
structure Stamped (s : Timed H) : Prop where
  read : ∀ i, (s.server.sod.readSlot i).inUse = true →
    (s.server.sod.readSlot i).armedAt = UInt16.ofNat (s.read i).active
  write : ∀ i, (s.server.sod.writeSlot i).inUse = true →
    (s.server.sod.writeSlot i).armedAt = UInt16.ofNat (s.write i).active

section Marks

variable {client arrival : UInt16} {d : UInt32} {req : List UInt8} {s s' : Sod}
  {idx : Fin sodMaxEntries} {entry : SodEntry} {log : List Event} {r : SodResult} {now : Nat}
  {stamp : Stamp}

/-- A read slot in use after a move is marked by the last reading of the move, when the
    move armed it or answered from it, and is as it was otherwise. -/
theorem read_mark (h : Move gcm P client req arrival s idx entry log r s')
    (huse : (s'.readSlot idx).inUse = true) :
    (r = .defer ∨ servedRead ⟨client, d, req, r, log⟩ →
      lastTime log = some (s'.readSlot idx).armedAt) ∧
    (r ≠ .defer → ¬ servedRead ⟨client, d, req, r, log⟩ → s'.readSlot idx = s.readSlot idx) := by
  have hquiet : ∀ {log code}, s'.readSlot idx = s.readSlot idx →
      (SodResult.abort code = .defer ∨ servedRead ⟨client, d, req, .abort code, log⟩ →
        lastTime log = some (s'.readSlot idx).armedAt) ∧
      (SodResult.abort code ≠ .defer → ¬ servedRead ⟨client, d, req, .abort code, log⟩ →
        s'.readSlot idx = s.readSlot idx) := by
    intro log code hsame
    refine ⟨?_, fun _ _ => hsame⟩
    rintro (h | ⟨⟨_, h⟩, -⟩) <;> cases h
  have hlong : ∀ {log}, readChallengeLen < req.length → s'.readSlot idx = s.readSlot idx →
      (SodResult.ok [] = .defer ∨ servedRead ⟨client, d, req, .ok [], log⟩ →
        lastTime log = some (s'.readSlot idx).armedAt) ∧
      (SodResult.ok [] ≠ .defer → ¬ servedRead ⟨client, d, req, .ok [], log⟩ →
        s'.readSlot idx = s.readSlot idx) := by
    intro log hlen hsame
    refine ⟨?_, fun _ _ => hsame⟩
    rintro (h | ⟨-, h, -⟩)
    · cases h
    · replace h : req.length ≤ 1 := h
      have hlimit : readChallengeLen = 13 := rfl
      omega
  cases h with
  | readArmFailed checked sealed => simp at huse
  | readArmed checked sealed =>
      refine ⟨fun _ => ?_, fun hne => absurd rfl hne⟩
      rw [lastTime_append, Sod.readSlot_setRead]
      rfl
  | fetchDropped ro empty inUse ready fresh => simp at huse
  | fetchedOnce ro empty inUse ready fresh single => simp at huse
  | fetchedCyclic ro empty inUse ready fresh cyclic =>
      rw [Sod.readSlot_setRead]
      refine ⟨fun _ => rfl, fun _ hserved => absurd ⟨⟨_, rfl⟩, by simp [empty], rfl⟩ hserved⟩
  | readLapsed ro len inUse cyclic owner why => simp at huse
  | readPolled checked passive clock gate source sealed =>
      refine ⟨fun _ => ?_, fun _ hserved => absurd ⟨⟨_, rfl⟩, checked.len.le, ?_⟩ hserved⟩
      · rw [lastTime_append, Sod.readSlot_setRead]
        rfl
      · simp only [issued, drawn_append, drawn_passive passive]
        rfl
  | @writeArmed pre mid wire sr now wo len idle kid binding passive passive' gate guard =>
      refine ⟨?_, fun _ _ => rfl⟩
      rintro (h | ⟨-, -, h⟩)
      · cases h
      · simp [issued, drawn] at h
  | pass2Once checked opened hook single => exact hlong (pass2Len_long checked.len) rfl
  | pass2Cyclic checked opened hook cyclic => exact hlong (pass2Len_long checked.len) rfl
  | writePolled checked opened hook => exact hlong (pollLen_long checked.len) rfl
  | _ => exact hquiet rfl

/-- A write slot in use after a move is marked by the last reading of the move, when the
    move issued its challenge or applied a frame, and is as it was otherwise. -/
theorem write_mark (h : Move gcm P client req arrival s idx entry log r s')
    (huse : (s'.writeSlot idx).inUse = true) :
    (issued ⟨client, d, req, r, log⟩ = true ∨ appliedFrames log ≠ [] ∧ r = .ok [] →
      lastTime log = some (s'.writeSlot idx).armedAt) ∧
    (issued ⟨client, d, req, r, log⟩ = false → ¬ (appliedFrames log ≠ [] ∧ r = .ok []) →
      s'.writeSlot idx = s.writeSlot idx) := by
  have hquiet : ∀ {log code}, s'.writeSlot idx = s.writeSlot idx →
      (issued ⟨client, d, req, .abort code, log⟩ = true ∨
          appliedFrames log ≠ [] ∧ SodResult.abort code = .ok [] →
        lastTime log = some (s'.writeSlot idx).armedAt) ∧
      (issued ⟨client, d, req, .abort code, log⟩ = false →
        ¬ (appliedFrames log ≠ [] ∧ SodResult.abort code = .ok []) →
        s'.writeSlot idx = s.writeSlot idx) := by
    intro log code hsame
    refine ⟨?_, fun _ _ => hsame⟩
    rintro (h | ⟨-, h⟩) <;> cases h
  cases h with
  | readArmed checked sealed =>
      refine ⟨?_, fun _ _ => rfl⟩
      rintro (h | ⟨-, h⟩) <;> cases h
  | fetchedOnce ro empty inUse ready fresh single =>
      refine ⟨?_, fun _ _ => rfl⟩
      rintro (h | ⟨h, -⟩)
      · cases h
      · exact absurd rfl h
  | fetchedCyclic ro empty inUse ready fresh cyclic =>
      refine ⟨?_, fun _ _ => rfl⟩
      rintro (h | ⟨h, -⟩)
      · cases h
      · exact absurd rfl h
  | readPolled checked passive clock gate source sealed =>
      refine ⟨?_, fun _ _ => rfl⟩
      rintro (h | ⟨h, -⟩)
      · simp only [issued, drawn_append, drawn_passive passive] at h
        cases h
      · rw [appliedFrames_quiet passive.quiet] at h
        exact absurd rfl h
  | @writeArmed pre mid wire sr now wo len idle kid binding passive passive' gate guard =>
      have hissued : issued ⟨client, d, req, .ok (toList sr),
          pre ++ .random (some sr) :: (mid ++ [.time now])⟩ = true := by
        simp [issued, drawn]
      refine ⟨fun _ => ?_, fun h => absurd h (by rw [hissued]; decide)⟩
      rw [lastTime_append, ← List.cons_append, lastTime_append, Sod.writeSlot_setWrite]
      rfl
  | pass2Dropped wo inUse len idle notPoll passive => simp at huse
  | pass2Forged checked opened => simp at huse
  | pass2Refused checked opened hook refusal => simp at huse
  | pass2Once checked opened hook single => simp at huse
  | pass2Cyclic checked opened hook cyclic =>
      refine ⟨fun _ => ?_, fun _ h => absurd ⟨by simp [appliedFrames], rfl⟩ h⟩
      rw [Sod.writeSlot_setWrite]
      rfl
  | writeLapsed wo len inUse cyclic owner why => simp at huse
  | writePolled checked opened hook =>
      refine ⟨fun _ => ?_, fun _ h => absurd ⟨by simp [appliedFrames], rfl⟩ h⟩
      rw [Sod.writeSlot_setWrite]
      rfl
  | _ => exact hquiet rfl

variable {now : Nat} {stamp : Stamp}

/-- So the stamp of the read slot stays its mark. -/
theorem readStamp_mark (h : Move gcm P client req arrival s idx entry log r s')
    (hlast : ∀ t, lastTime log = some t → t = UInt16.ofNat now)
    (hold : (s.readSlot idx).inUse = true →
      (s.readSlot idx).armedAt = UInt16.ofNat stamp.active)
    (huse : (s'.readSlot idx).inUse = true) :
    (s'.readSlot idx).armedAt =
      UInt16.ofNat (readStamp ⟨client, d, req, r, log⟩ now stamp).active := by
  obtain ⟨hmarked, hsame⟩ := read_mark (d := d) h huse
  by_cases hdefer : r = .defer
  · rw [hlast _ (hmarked (.inl hdefer)), readStamp, if_pos hdefer]
  by_cases hserved : servedRead ⟨client, d, req, r, log⟩
  · rw [hlast _ (hmarked (.inr hserved)), readStamp, if_neg hdefer, if_pos hserved]
  · have hslot := hsame hdefer hserved
    rw [readStamp, if_neg hdefer, if_neg hserved, hslot]
    rw [hslot] at huse
    exact hold huse

/-- And the stamp of the write slot. -/
theorem writeStamp_mark (h : Move gcm P client req arrival s idx entry log r s')
    (hlast : ∀ t, lastTime log = some t → t = UInt16.ofNat now)
    (hold : (s.writeSlot idx).inUse = true →
      (s.writeSlot idx).armedAt = UInt16.ofNat stamp.active)
    (huse : (s'.writeSlot idx).inUse = true) :
    (s'.writeSlot idx).armedAt =
      UInt16.ofNat (writeStamp ⟨client, d, req, r, log⟩ now stamp).active := by
  obtain ⟨hmarked, hsame⟩ := write_mark (d := d) h huse
  by_cases hissued : issued ⟨client, d, req, r, log⟩ = true
  · rw [hlast _ (hmarked (.inl hissued)), writeStamp, if_pos hissued]
  by_cases happlied : appliedFrames log ≠ [] ∧ r = .ok []
  · rw [hlast _ (hmarked (.inr happlied)), writeStamp, if_neg hissued, if_pos happlied]
  · have hslot := hsame (Bool.eq_false_iff.mpr hissued) happlied
    rw [writeStamp, if_neg hissued, if_neg happlied, hslot]
    rw [hslot] at huse
    exact hold huse

end Marks

theorem stamped_boot (host : H) : Stamped (timedBoot host) where
  read i h := by cases h
  write i h := by cases h

theorem Stamped.kept {s s' : Timed H} (h : Stamped s) (hkept : Kept s.server s'.server)
    (hread : s'.read = s.read) (hwrite : s'.write = s.write) : Stamped s' where
  read i huse := by
    rw [hkept.readSlot] at huse ⊢
    rw [hread]
    exact h.read i huse
  write i huse := by
    rw [hkept.writeSlot] at huse ⊢
    rw [hwrite]
    exact h.write i huse

/-- One request keeps the marks. -/
theorem stamped_request {s : Timed H} (h : Stamped s) (client : UInt16) (d : UInt32)
    (req : List UInt8) (replyMax : Nat) :
    Stamped (timedStep gcm P clock s (.request client d req replyMax)) := by
  have hshown : ∀ now, lastTime (exchange gcm (clocked P clock) s.server client d req
      replyMax).calls = some now → now = UInt16.ofNat (step gcm (clocked P clock) s.server
        (.request client d req replyMax)).host.shown := fun _ =>
    shown_request s.server client d req replyMax
  rcases request_cases gcm (clocked P clock) s.server client d req replyMax with
    ⟨hnone, -, hstep⟩ | ⟨idx, entry, log, r, s', host, hf, hm, hx, hstep⟩
  · simp only [timedStep, hnone, hstep]
    exact ⟨h.read, h.write⟩
  rw [hx, hstep] at hshown
  simp only [timedStep, hf, hx, hstep]
  refine ⟨fun i huse => ?_, fun i huse => ?_⟩
  · show (s'.readSlot i).armedAt = UInt16.ofNat (Function.update s.read idx _ i).active
    by_cases hi : i = idx
    · subst hi
      rw [Function.update_self]
      exact readStamp_mark hm hshown (h.read i) huse
    · have hframe := Move.readSlot_of_ne hm hi
      replace huse : (s'.readSlot i).inUse = true := huse
      rw [hframe] at huse
      rw [Function.update_of_ne hi, hframe]
      exact h.read i huse
  · show (s'.writeSlot i).armedAt = UInt16.ofNat (Function.update s.write idx _ i).active
    by_cases hi : i = idx
    · subst hi
      rw [Function.update_self]
      exact writeStamp_mark hm hshown (h.write i) huse
    · have hframe := Move.writeSlot_of_ne hm hi
      replace huse : (s'.writeSlot i).inUse = true := huse
      rw [hframe] at huse
      rw [Function.update_of_ne hi, hframe]
      exact h.write i huse

/-- **The step lemma**: every input keeps the marks. -/
theorem stamped_step (s : Timed H) (a : Input H) (h : Stamped s) :
    Stamped (timedStep gcm P clock s a) := by
  cases a with
  | request client d req replyMax => exact stamped_request h client d req replyMax
  | registerEntry entry =>
      exact h.kept (step_kept gcm (clocked P clock) _ (a := .registerEntry entry) (by simp)) rfl rfl
  | setKeyEx keyId key idVal =>
      exact h.kept (step_kept gcm (clocked P clock) _ (a := .setKeyEx keyId key idVal) (by simp))
        rfl rfl
  | clearKeys =>
      exact h.kept (step_kept gcm (clocked P clock) _ (a := .clearKeys) (by simp)) rfl rfl
  | application host =>
      exact h.kept (step_kept gcm (clocked P clock) _
        (a := .application (⟨host, s.server.host.shown⟩ : Clocked H)) (by simp)) rfl rfl

/-! ## Steps and runs -/

/-- A stamp's challenge answered in time is answered within its time-out. -/
theorem ChallengeInTime.fresh {stamp : Stamp} {armedAt : UInt16} {now : Nat}
    (h : ChallengeInTime stamp now) (hmark : armedAt = UInt16.ofNat stamp.active)
    (hage : ageWithin (UInt16.ofNat now) armedAt challengeTimeoutMs = true) :
    now ≤ stamp.armed + challengeTimeoutMs.toNat := by
  subst hmark
  have hactive := age_exact hage h.1
  by_contra hlate
  exact h.2 ⟨by omega, hactive⟩

theorem PollInTime.fresh {stamp : Stamp} {armedAt : UInt16} {now : Nat}
    (h : PollInTime stamp now) (hmark : armedAt = UInt16.ofNat stamp.active)
    (hage : ageWithin (UInt16.ofNat now) armedAt sessionIdleTimeoutMs = true) :
    now ≤ stamp.active + sessionIdleTimeoutMs.toNat := by
  subst hmark
  exact age_exact hage h

/-- A request in time accepts only what is fresh. -/
theorem stepRealTime_of_inTime (s : Timed H) (a : Input H) (hs : Stamped s)
    (h : InTime gcm P clock s a) : StepRealTime gcm P clock s a := by
  cases a with
  | registerEntry | setKeyEx | clearKeys | application => trivial
  | request client d req replyMax =>
      rintro idx entry hf
      obtain ⟨hfetch, hpoll, hwrite⟩ := h idx entry hf
      rcases request_cases gcm (clocked P clock) s.server client d req replyMax with
        ⟨hnone, -, -⟩ | ⟨idx', entry', log, r, s', host, hf', hm, hx, -⟩
      · rw [hnone] at hf
        cases hf
      obtain ⟨rfl, rfl⟩ : idx' = idx ∧ entry' = entry := by
        rw [hf] at hf'
        cases hf'
        exact ⟨rfl, rfl⟩
      have hserved : servedRead (exchange gcm (clocked P clock) s.server client d req replyMax) →
          _ ∨ _ := fun h => served_cases hm (hx ▸ h)
      have happlied : ∀ f ∈ appliedFrames (exchange gcm (clocked P clock) s.server client d req
          replyMax).calls, _ ∨ _ := applied_verifies hf
      refine ⟨fun hok hempty => ?_, fun hok hone => ?_, fun f hmem hdir => ?_,
        fun f hmem hdir => ?_⟩
      · rcases hserved hok with ⟨huse, hfetches⟩ | ⟨hpolls, -⟩
        · exact (hfetch huse hfetches).fresh (hs.read idx' huse) hfetches.2.2.2
        · replace hempty : req = [] := hempty
          simp [pollsRead, hempty] at hpolls
      · rcases hserved hok with ⟨-, -, hempty, -⟩ | ⟨hpolls, -⟩
        · replace hone : req.length = 1 := hone
          simp [hempty] at hone
        · have huse : (s.server.sod.readSlot idx').inUse = true := by
            simp only [pollsRead, Bool.and_eq_true] at hpolls
            exact hpolls.1.2
          have hfresh : wp (sodDispatch gcm (clocked P clock) client d req replyMax) _
              ⟨s.server.sod, s.server.host, []⟩ := readPoll_fresh hf hpolls
          have hage := hfresh hok.1
          exact (hpoll hpolls hage).fresh (hs.read idx' huse) hage
      · rcases happlied f hmem with ⟨-, key, hv⟩ | ⟨hpolled, -⟩
        · exact ((hwrite key).1 hv).fresh (hs.write idx' hv.inUse) hv.fresh
        · rw [hpolled] at hdir
          exact absurd hdir (by decide)
      · rcases happlied f hmem with ⟨hanswer, -⟩ | ⟨-, key, hv⟩
        · rw [hanswer] at hdir
          exact absurd hdir (by decide)
        · exact ((hwrite key).2 hv).fresh (hs.write idx' hv.inUse) hv.fresh

/-- **Real-time freshness.**  In every run, with any gaps between its requests, no fetch and
    no Pass-2 frame is accepted later than the challenge time-out after its challenge was
    armed, and no poll later than the idle time-out after the last activity of its session,
    when no request comes in the aliasing window of the clock and no challenge is answered in
    a window that a later activity extended. -/
theorem real_time_fresh (gcm : Gcm) (P : Ports H) (clock : H → Nat) (host : H)
    (inputs : List (Input H))
    (htime : Along (timedStep gcm P clock) (InTime gcm P clock) (timedBoot host) inputs) :
    Along (timedStep gcm P clock) (StepRealTime gcm P clock) (timedBoot host) inputs :=
  along_imp (fun s a h _ => stamped_step s a h) stepRealTime_of_inTime (stamped_boot host) htime

/-! ## Worked runs -/

/-- The host of worked runs: its clock, and the randoms it will draw. -/
def sampleTimed : Ports (Nat × List Rand) where
  deviceId := 1
  timeMs h := (UInt16.ofNat h.1, h)
  random h := (h.2.head?, (h.1, h.2.tail))
  accessAllowed _ _ h := (true, h)
  roleAllowed _ _ _ h := (true, h)
  readBefore _ h := ((abortNone, [1, 2, 3, 4]), h)
  writeAfter _ _ _ keys h := (abortNone, keys, h)

/-- A read is challenged at time 0 and fetched at time `late`. -/
def sampleLateFetch (late : Nat) : List (Input (Nat × List Rand)) :=
  [.registerEntry ⟨0x20200000, 0, 0x01, 4⟩, .setKeyEx 1 sampleKey 1,
    .request 20 0x20200000 (0x01 :: toList (sampleRand 5)) 64, .application (late, []),
    .request 20 0x20200000 [] 64]

/-- A cyclic read is challenged at time 0, polled at time 4000 and fetched at time 8000. -/
def sampleExtendedFetch : List (Input (Nat × List Rand)) :=
  [.registerEntry ⟨0x20200000, 0, 0x01, 4⟩, .setKeyEx 1 sampleKey 1,
    .request 20 0x20200000 (0x41 :: toList (sampleRand 5)) 64, .application (4000, []),
    .request 20 0x20200000 [1] 64, .application (8000, []), .request 20 0x20200000 [] 64]

/-- What a fetch from the read entry has to meet. -/
theorem StepRealTime.fetch {s : Timed (Nat × List Rand)}
    (h : StepRealTime sampleGcm sampleTimed Prod.fst s (.request 20 0x20200000 [] 64))
    (hfind : s.server.sod.registry.find 0x20200000 = some (0, ⟨0x20200000, 0, 0x01, 4⟩))
    (hserved : servedRead (exchange sampleGcm (clocked sampleTimed Prod.fst) s.server 20
      0x20200000 [] 64)) : s.now Prod.fst ≤ (s.read 0).armed + 5000 :=
  (h _ _ hfind).fetch hserved rfl

/-- `real_time_fresh` on a fetch four seconds after its challenge. -/
theorem sampleLateFetch_fresh :
    Along (timedStep sampleGcm sampleTimed Prod.fst) (StepRealTime sampleGcm sampleTimed Prod.fst)
      (timedBoot (0, [sampleRand 9])) (sampleLateFetch 4000) := by
  -- the entry takes no writes, so only the stamp of its read slot counts
  have hread : ∀ {s : Timed (Nat × List Rand)} {client : UInt16} {req : List UInt8},
      s.server.sod.registry.find 0x20200000 = some (0, ⟨0x20200000, 0, 0x01, 4⟩) →
      ChallengeInTime (s.read 0) (s.now Prod.fst) → PollInTime (s.read 0) (s.now Prod.fst) →
      InTime sampleGcm sampleTimed Prod.fst s (.request client 0x20200000 req 64) := by
    intro s client req hfind hchallenge hpoll idx entry hf
    rw [hfind] at hf
    cases hf
    refine ⟨fun _ _ => hchallenge, fun _ _ => hpoll, fun key => ⟨fun hv => ?_, fun hv => ?_⟩⟩
    · exact absurd hv.wo (by decide)
    · exact absurd hv.wo (by decide)
  refine real_time_fresh _ _ _ _ _ ⟨trivial, trivial, ?_, trivial, ?_, trivial⟩
  · exact hread (by decide +kernel) (by decide +kernel) (by decide +kernel)
  · exact hread (by decide +kernel) (by decide +kernel) (by decide +kernel)

/-- **Late acceptances.**  A reply is fetched 65536 ms after its challenge; and the reply
    of a cyclic read is fetched 8000 ms after its challenge, since a poll was answered in
    between. -/
theorem late_fetches :
    ¬ Along (timedStep sampleGcm sampleTimed Prod.fst)
      (StepRealTime sampleGcm sampleTimed Prod.fst) (timedBoot (0, [sampleRand 9]))
      (sampleLateFetch 65536) ∧
    ¬ Along (timedStep sampleGcm sampleTimed Prod.fst)
      (StepRealTime sampleGcm sampleTimed Prod.fst) (timedBoot (0, [sampleRand 9]))
      sampleExtendedFetch := by
  refine ⟨?_, ?_⟩
  · rintro ⟨-, -, -, -, hlast, -⟩
    have hlate := StepRealTime.fetch hlast (by decide +kernel) (by decide +kernel)
    revert hlate
    decide +kernel
  · rintro ⟨-, -, -, -, -, -, hlast, -⟩
    have hlate := StepRealTime.fetch hlast (by decide +kernel) (by decide +kernel)
    revert hlate
    decide +kernel

end SofaRealTime
